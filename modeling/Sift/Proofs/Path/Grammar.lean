import Mathlib.Tactic.SplitIfs
import Mathlib.Tactic.Tauto
import Sift.Path.Basic

/-!
# The grammar of paths

A path is one segment or several with dots between them. A segment is bare, one or more characters
other than dots, quotes and backslashes, or it is enclosed in quotes, where a backslash stands
before a quote or a backslash that is meant literally. `Spells source segments` is this grammar,
together with the segments that a text spells.

`split` accepts the grammar and nothing else. The loop invariant is `State.Holds`: what has been
read of a segment when the automaton is in a state. One character keeps it or completes a segment
(`State.Holds.next`, `State.Holds.segment`), so an accepting run leaves a derivation
(`spells_of_segmentsFrom`). Conversely the automaton runs along each segment of a derivation to a
state that ends it (`Segment.run`, `segmentsFrom_of_spells`).
-/

namespace Sift.Path

/-! ## The grammar -/

def IsBare (c : Char) : Prop :=
  c ≠ '.' ∧ c ≠ '\'' ∧ c ≠ '"' ∧ c ≠ '\\'

/-- A character that a backslash precedes within quotes. -/
def IsEscapable (c : Char) : Prop :=
  c = '\'' ∨ c = '"' ∨ c = '\\'

/-- The characters between two quotes, and the text that they spell. -/
inductive Enclosed (quote : Char) : List Char → List Char → Prop where
  | nil : Enclosed quote [] []
  | plain {c : Char} {body text : List Char} : c ≠ quote → c ≠ '\\' → Enclosed quote body text →
      Enclosed quote (c :: body) (c :: text)
  | escaped {c : Char} {body text : List Char} : IsEscapable c → Enclosed quote body text →
      Enclosed quote ('\\' :: c :: body) (c :: text)

/-- A segment as it is written, and the text that it spells. -/
inductive Segment : List Char → List Char → Prop where
  | bare {text : List Char} : text ≠ [] → (∀ c ∈ text, IsBare c) → Segment text text
  | quoted {quote : Char} {body text : List Char} : quote = '\'' ∨ quote = '"' → body ≠ [] →
      Enclosed quote body text → Segment (quote :: (body ++ [quote])) text

/-- A path as it is written, and the segments that it spells. -/
inductive Spells : List Char → List String → Prop where
  | one {source text : List Char} : Segment source text → Spells source [String.ofList text]
  | more {source text rest : List Char} {segments : List String} : Segment source text →
      Spells rest segments → Spells (source ++ '.' :: rest) (String.ofList text :: segments)

/-! ## Characters -/

theorem isQuote_iff (c : Char) : isQuote c = true ↔ c = '\'' ∨ c = '"' := by
  unfold isQuote
  rw [Bool.or_eq_true, decide_eq_true_eq, decide_eq_true_eq, or_comm]

theorem needsEscape_iff (c : Char) : needsEscape c = true ↔ IsEscapable c := by
  unfold needsEscape IsEscapable
  rw [Bool.or_eq_true, isQuote_iff, decide_eq_true_eq, or_assoc]

theorem isBare_iff (c : Char) : IsBare c ↔ c ≠ '.' ∧ needsEscape c = false := by
  have h := needsEscape_iff c
  unfold IsEscapable at h
  unfold IsBare
  rw [← Bool.not_eq_true, h]
  tauto

theorem isBare_of_not {c : Char} (hdot : ¬c = '.') (hquote : ¬isQuote c = true) (hesc : ¬c = '\\') :
    IsBare c := by
  refine (isBare_iff c).mpr ⟨hdot, ?_⟩
  simp [needsEscape, hquote, hesc]

theorem IsBare.plain {c : Char} (h : IsBare c) : c ≠ '.' ∧ isQuote c = false ∧ c ≠ '\\' := by
  obtain ⟨hdot, hesc⟩ := (isBare_iff c).mp h
  have hplain : isQuote c = false ∧ c ≠ '\\' := by
    simpa [needsEscape] using hesc
  exact ⟨hdot, hplain⟩

theorem not_backslash_of_isQuote {c : Char} (h : isQuote c = true) : c ≠ '\\' := by
  rcases (isQuote_iff c).mp h with rfl | rfl <;> decide

/-! ## Enclosed characters -/

theorem Enclosed.append {quote : Char} {body text body' text' : List Char}
    (h : Enclosed quote body text) (h' : Enclosed quote body' text') :
    Enclosed quote (body ++ body') (text ++ text') := by
  induction h with
  | nil => exact h'
  | plain hq hb _ ih => exact .plain hq hb ih
  | escaped he _ ih => exact .escaped he ih

theorem Enclosed.nil_iff {quote : Char} {body text : List Char} (h : Enclosed quote body text) :
    body = [] ↔ text = [] := by
  cases h with
  | nil => exact ⟨fun _ => rfl, fun _ => rfl⟩
  | plain => exact ⟨nofun, nofun⟩
  | escaped => exact ⟨nofun, nofun⟩

/-! ## What has been read -/

/-- The state is the one that reading stands in after `source`, the part of a segment so far. -/
def State.Holds (source : List Char) : State → Prop
  | .fresh => source = []
  | .bare done => source = done.reverse ∧ done ≠ [] ∧ ∀ c ∈ done, IsBare c
  | .quoted quote _ done => isQuote quote = true ∧
      ∃ body, source = quote :: body ∧ Enclosed quote body done.reverse
  | .escape quote _ done => isQuote quote = true ∧
      ∃ body, source = quote :: (body ++ ['\\']) ∧ Enclosed quote body done.reverse
  | .closed _ done => ∃ quote body, isQuote quote = true ∧
      source = quote :: (body ++ [quote]) ∧ Enclosed quote body done.reverse

theorem State.holds_fresh : State.fresh.Holds [] := rfl

theorem closedSegment_eq_ok {opened : Nat} {done : List Char} {segment : String}
    (h : closedSegment opened done = .ok segment) :
    done ≠ [] ∧ segment = String.ofList done.reverse := by
  unfold closedSegment at h
  split at h
  · cases h
  · next hne => exact ⟨fun h0 => hne (by rw [h0]; rfl), by cases h; rfl⟩

theorem Segment.of_closed {opened : Nat} {done source : List Char}
    (h : (State.closed opened done).Holds source) (hne : done ≠ []) :
    Segment source done.reverse := by
  obtain ⟨quote, body, hq, rfl, henc⟩ := h
  refine .quoted ((isQuote_iff quote).mp hq) (fun h0 => hne ?_) henc
  exact List.reverse_eq_nil_iff.mp (henc.nil_iff.mp h0)

theorem State.Holds.next {source : List Char} {state state' : State} {i : Nat} {c : Char}
    (h : state.Holds source) (hn : state.next i c = .ok (none, state')) :
    state'.Holds (source ++ [c]) := by
  cases state with
  | fresh =>
    simp only [State.next] at hn
    have hs : source = [] := h
    subst hs
    split at hn
    · cases hn
    next hdot =>
    split at hn
    next hq =>
      cases hn
      exact ⟨hq, [], rfl, .nil⟩
    next hq =>
    split at hn
    · cases hn
    next hb =>
    cases hn
    refine ⟨rfl, by simp, fun d hd => ?_⟩
    rw [List.mem_singleton.mp hd]
    exact isBare_of_not hdot hq hb
  | bare done =>
    simp only [State.next] at hn
    obtain ⟨rfl, hne, hbare⟩ := h
    split at hn
    · cases hn
    next hdot =>
    split at hn
    · cases hn
    next hq =>
    split at hn
    · cases hn
    next hb =>
    cases hn
    refine ⟨by simp, by simp, fun d hd => ?_⟩
    rcases List.mem_cons.mp hd with rfl | hd
    · exact isBare_of_not hdot hq hb
    · exact hbare d hd
  | quoted quote opened done =>
    simp only [State.next] at hn
    obtain ⟨hq, body, rfl, henc⟩ := h
    split at hn
    next hb =>
      cases hn
      subst hb
      exact ⟨hq, body, rfl, henc⟩
    next hb =>
    split at hn
    next hc =>
      cases hn
      subst hc
      exact ⟨c, body, hq, rfl, henc⟩
    next hc =>
    cases hn
    refine ⟨hq, body ++ [c], rfl, ?_⟩
    rw [List.reverse_cons]
    exact henc.append (.plain hc hb .nil)
  | escape quote opened done =>
    simp only [State.next] at hn
    obtain ⟨hq, body, rfl, henc⟩ := h
    split at hn
    next he =>
      cases hn
      refine ⟨hq, body ++ ['\\', c], by simp, ?_⟩
      rw [List.reverse_cons]
      exact henc.append (.escaped ((needsEscape_iff c).mp he) .nil)
    · cases hn
  | closed opened done =>
    simp only [State.next] at hn
    split at hn
    · cases hs : closedSegment opened done with
      | ok segment => rw [hs] at hn; cases hn
      | error e => rw [hs] at hn; cases hn
    · cases hn

/-- A segment is completed by a dot, and the next one is read afresh. -/
theorem State.Holds.segment {source : List Char} {state state' : State} {i : Nat} {c : Char}
    {segment : String} (h : state.Holds source)
    (hn : state.next i c = .ok (some segment, state')) :
    c = '.' ∧ state' = .fresh ∧ ∃ text, segment = String.ofList text ∧ Segment source text := by
  cases state with
  | fresh =>
    simp only [State.next] at hn
    split_ifs at hn <;> cases hn
  | bare done =>
    simp only [State.next] at hn
    obtain ⟨rfl, hne, hbare⟩ := h
    split at hn
    next hdot =>
      cases hn
      exact ⟨hdot, rfl, done.reverse, rfl,
        .bare (by simpa using hne) fun d hd => hbare d (List.mem_reverse.mp hd)⟩
    · split_ifs at hn
      cases hn
  | quoted quote opened done =>
    simp only [State.next] at hn
    split_ifs at hn <;> cases hn
  | escape quote opened done =>
    simp only [State.next] at hn
    split_ifs at hn
    cases hn
  | closed opened done =>
    simp only [State.next] at hn
    split at hn
    next hdot =>
      cases hs : closedSegment opened done with
      | error e => rw [hs] at hn; cases hn
      | ok text =>
        rw [hs] at hn
        cases hn
        obtain ⟨hne, rfl⟩ := closedSegment_eq_ok hs
        exact ⟨hdot, rfl, done.reverse, rfl, .of_closed h hne⟩
    · cases hn

theorem State.Holds.finish {source : List Char} {state : State} {n : Nat} {segment : String}
    (h : state.Holds source) (hf : state.finish n = .ok segment) :
    ∃ text, segment = String.ofList text ∧ Segment source text := by
  cases state with
  | fresh => cases hf
  | bare done =>
    obtain ⟨rfl, hne, hbare⟩ := h
    cases hf
    exact ⟨done.reverse, rfl,
      .bare (by simpa using hne) fun d hd => hbare d (List.mem_reverse.mp hd)⟩
  | quoted quote opened done => cases hf
  | escape quote opened done => cases hf
  | closed opened done =>
    obtain ⟨hne, rfl⟩ := closedSegment_eq_ok hf
    exact ⟨done.reverse, rfl, .of_closed h hne⟩

/-- An accepting run leaves a derivation of what was read. -/
theorem spells_of_segmentsFrom {cs source : List Char} {state : State} {i : Nat}
    {segments : List String} (h : state.Holds source)
    (hs : segmentsFrom state i cs = .ok segments) : Spells (source ++ cs) segments := by
  -- the part of the segment that was read before `cs` varies: it is empty after each dot
  induction cs generalizing state source i segments with
  | nil =>
    rw [segmentsFrom] at hs
    cases hf : state.finish i with
    | error e => rw [hf] at hs; cases hs
    | ok segment =>
      rw [hf] at hs
      cases hs
      obtain ⟨text, rfl, hseg⟩ := h.finish hf
      rw [List.append_nil]
      exact .one hseg
  | cons c rest ih =>
    rw [segmentsFrom] at hs
    split at hs
    · cases hs
    next state' hn =>
      rw [List.append_cons]
      exact ih (h.next hn) hs
    next segment state' hn =>
      obtain ⟨rfl, rfl, text, rfl, hseg⟩ := h.segment hn
      cases hr : segmentsFrom .fresh (i + 1) rest with
      | error e => rw [hr] at hs; cases hs
      | ok segments' =>
        rw [hr] at hs
        cases hs
        exact .more hseg (ih State.holds_fresh hr)

/-! ## Running along a derivation -/

/-- A segment may end in the state: where the text ends or at a dot, it is complete. -/
def State.Ends (text : List Char) (state : State) : Prop :=
  (∀ n, state.finish n = .ok (String.ofList text)) ∧
    ∀ i, state.next i '.' = .ok (some (String.ofList text), .fresh)

theorem segmentsFrom_step {state state' : State} {i : Nat} {c : Char}
    (h : state.next i c = .ok (none, state')) (rest : List Char) :
    segmentsFrom state i (c :: rest) = segmentsFrom state' (i + 1) rest := by
  rw [segmentsFrom, h]

theorem segmentsFrom_bare {text : List Char} (h : ∀ c ∈ text, IsBare c) (done : List Char) (i : Nat)
    (rest : List Char) : segmentsFrom (.bare done) i (text ++ rest) =
      segmentsFrom (.bare (text.reverse ++ done)) (i + text.length) rest := by
  induction text generalizing done i with
  | nil => rfl
  | cons c text ih =>
    have hc := (h c (List.mem_cons_self ..)).plain
    have hn : State.next i c (.bare done) = .ok (none, .bare (c :: done)) := by
      simp [State.next, hc]
    rw [List.cons_append, segmentsFrom_step hn, ih fun d hd => h d (List.mem_cons_of_mem _ hd),
      List.reverse_cons, List.append_assoc, List.length_cons, Nat.add_assoc, Nat.add_comm 1]
    rfl

theorem segmentsFrom_enclosed {quote : Char} {body text : List Char}
    (h : Enclosed quote body text) (opened : Nat) (done : List Char) (i : Nat) (rest : List Char) :
    segmentsFrom (.quoted quote opened done) i (body ++ rest) =
      segmentsFrom (.quoted quote opened (text.reverse ++ done)) (i + body.length) rest := by
  induction h generalizing done i with
  | nil => rfl
  | @plain c body text hc hb _ ih =>
    have hn : State.next i c (.quoted quote opened done) =
        .ok (none, .quoted quote opened (c :: done)) := by
      simp [State.next, hc, hb]
    rw [List.cons_append, segmentsFrom_step hn, ih, List.reverse_cons, List.append_assoc,
      List.length_cons, Nat.add_assoc, Nat.add_comm 1]
    rfl
  | @escaped c body text he _ ih =>
    have hn : State.next i '\\' (.quoted quote opened done) =
        .ok (none, .escape quote opened done) := by
      simp [State.next]
    have hn' : State.next (i + 1) c (.escape quote opened done) =
        .ok (none, .quoted quote opened (c :: done)) := by
      simp [State.next, (needsEscape_iff c).mpr he]
    rw [List.cons_append, segmentsFrom_step hn, List.cons_append, segmentsFrom_step hn', ih,
      List.reverse_cons, List.append_assoc, List.length_cons, List.length_cons]
    congr 1
    omega

/-- The automaton runs along a segment to a state where the segment may end. -/
theorem Segment.run {source text : List Char} (h : Segment source text) (i : Nat) :
    ∃ state : State, state.Ends text ∧ ∀ rest, segmentsFrom .fresh i (source ++ rest) =
      segmentsFrom state (i + source.length) rest := by
  cases h with
  | bare hne hbare =>
    cases source with
    | nil => exact absurd rfl hne
    | cons c source =>
      have hc := (hbare c (List.mem_cons_self ..)).plain
      have hn : State.next i c .fresh = .ok (none, .bare [c]) := by
        simp [State.next, hc]
      refine ⟨.bare (source.reverse ++ [c]), ⟨fun n => ?_, fun j => ?_⟩, fun rest => ?_⟩
      · simp [State.finish]
      · simp [State.next]
      · rw [List.cons_append, segmentsFrom_step hn,
          segmentsFrom_bare fun d hd => hbare d (List.mem_cons_of_mem _ hd), List.length_cons,
          Nat.add_assoc, Nat.add_comm 1]
  | @quoted quote body text hquote hne henc =>
    have hq := (isQuote_iff quote).mpr hquote
    have htext : text ≠ [] := fun h0 => hne (henc.nil_iff.mpr h0)
    have hopen : State.next i quote .fresh = .ok (none, .quoted quote i []) := by
      rcases hquote with rfl | rfl <;> rfl
    have hclose : ∀ j, State.next j quote (.quoted quote i text.reverse) =
        .ok (none, .closed i text.reverse) := by
      intro j
      simp [State.next, not_backslash_of_isQuote hq]
    have hseg : closedSegment i text.reverse = .ok (String.ofList text) := by
      simp [closedSegment, htext]
    refine ⟨.closed i text.reverse, ⟨fun n => hseg, fun j => ?_⟩, fun rest => ?_⟩
    · simp only [State.next, if_true, hseg]
      rfl
    · rw [List.cons_append, segmentsFrom_step hopen, List.append_assoc,
        segmentsFrom_enclosed henc, List.append_nil, List.singleton_append,
        segmentsFrom_step (hclose _)]
      simp only [List.length_cons, List.length_append, List.length_nil]
      congr 1
      omega

theorem segmentsFrom_segment {source text : List Char} (h : Segment source text) (i : Nat) :
    segmentsFrom .fresh i source = .ok [String.ofList text] := by
  obtain ⟨state, hends, hrun⟩ := h.run i
  have hr := hrun []
  rw [List.append_nil] at hr
  rw [hr, segmentsFrom, hends.1]
  rfl

theorem segmentsFrom_segment_dot {source text : List Char} (h : Segment source text) (i : Nat)
    (rest : List Char) : segmentsFrom .fresh i (source ++ '.' :: rest) =
      (segmentsFrom .fresh (i + source.length + 1) rest).map (String.ofList text :: ·) := by
  obtain ⟨state, hends, hrun⟩ := h.run i
  rw [hrun, segmentsFrom, hends.2]

/-- The automaton accepts a derivation. -/
theorem segmentsFrom_of_spells {source : List Char} {segments : List String}
    (h : Spells source segments) (i : Nat) : segmentsFrom .fresh i source = .ok segments := by
  induction h generalizing i with
  | one hseg => exact segmentsFrom_segment hseg i
  | more hseg _ ih =>
    rw [segmentsFrom_segment_dot hseg, ih]
    rfl

/-! ## Splitting -/

theorem split_of_segmentsFrom {path : String} {segments : List String}
    (h : segmentsFrom .fresh 0 path.toList = .ok segments) : split path = .ok segments := by
  cases he : path.isEmpty with
  | true =>
    rw [String.isEmpty_iff] at he
    subst he
    cases h
  | false =>
    rw [split, he, h]
    rfl

theorem segmentsFrom_of_split {path : String} {segments : List String}
    (h : split path = .ok segments) : segmentsFrom .fresh 0 path.toList = .ok segments := by
  unfold split at h
  split at h
  · cases h
  · cases hs : segmentsFrom .fresh 0 path.toList with
    | error e => rw [hs] at h; cases h
    | ok segments' => rw [hs] at h; cases h; rfl

theorem split_eq_ok_iff {path : String} {segments : List String} :
    split path = .ok segments ↔ Spells path.toList segments :=
  ⟨fun h => spells_of_segmentsFrom State.holds_fresh (segmentsFrom_of_split h),
    fun h => split_of_segmentsFrom (segmentsFrom_of_spells h 0)⟩

theorem split_ne_nil {path : String} {segments : List String} (h : split path = .ok segments) :
    segments ≠ [] := by
  have hspells := split_eq_ok_iff.mp h
  generalize path.toList = source at hspells
  cases hspells with
  | one _ => exact List.cons_ne_nil _ _
  | more _ _ => exact List.cons_ne_nil _ _

theorem split_eq_error_iff {path : String} :
    (∃ e, split path = .error e) ↔ ∀ segments, ¬Spells path.toList segments := by
  constructor
  · rintro ⟨e, he⟩ segments hs
    rw [split_eq_ok_iff.mpr hs] at he
    cases he
  · intro hnone
    cases hs : split path with
    | error e => exact ⟨e, rfl⟩
    | ok segments => exact absurd (split_eq_ok_iff.mp hs) (hnone segments)

/-! ## Well-formed paths -/

def IsValid (path : String) : Prop :=
  ∃ segments, split path = .ok segments

theorem IsValid.not_parent {path : String} (h : IsValid path) :
    ¬['.', '.', '/'] <+: path.toList := by
  rintro ⟨rest, hrest⟩
  obtain ⟨segments, hsplit⟩ := h
  have hfrom := segmentsFrom_of_split hsplit
  rw [← hrest] at hfrom
  cases hfrom

theorem IsValid.toList_ne_nil {path : String} (h : IsValid path) : path.toList ≠ [] := by
  intro hnil
  obtain ⟨segments, hsplit⟩ := h
  have hfrom := segmentsFrom_of_split hsplit
  rw [hnil] at hfrom
  cases hfrom

theorem Spells.append {source rest : List Char} {segments segments' : List String}
    (h : Spells source segments) (h' : Spells rest segments') :
    Spells (source ++ '.' :: rest) (segments ++ segments') := by
  induction h with
  | one hseg => exact .more hseg h'
  | more hseg _ ih =>
    rw [List.append_assoc, List.cons_append]
    exact .more hseg ih

theorem toList_dot (p q : String) : (p ++ "." ++ q).toList = p.toList ++ '.' :: q.toList := by
  rw [String.toList_append, String.toList_append, List.append_assoc]
  rfl

theorem split_dot {p q : String} {segments segments' : List String} (hp : split p = .ok segments)
    (hq : split q = .ok segments') : split (p ++ "." ++ q) = .ok (segments ++ segments') := by
  rw [split_eq_ok_iff, toList_dot]
  exact (split_eq_ok_iff.mp hp).append (split_eq_ok_iff.mp hq)

theorem IsValid.dot {p q : String} (hp : IsValid p) (hq : IsValid q) : IsValid (p ++ "." ++ q) := by
  obtain ⟨segments, hsplit⟩ := hp
  obtain ⟨segments', hsplit'⟩ := hq
  exact ⟨segments ++ segments', split_dot hsplit hsplit'⟩

theorem IsValid.head?_dot {p : String} (hp : IsValid p) (q : String) :
    (p ++ "." ++ q).toList.head? = p.toList.head? := by
  obtain ⟨c, rest, hcons⟩ := List.exists_cons_of_ne_nil hp.toList_ne_nil
  rw [toList_dot, hcons]
  rfl

/-- A text is split into the segments that it spells, and every text that spells none is refused. -/
theorem split_accepts_grammar (path : String) :
    (∀ segments, split path = .ok segments ↔ Spells path.toList segments) ∧
      ((∃ e, split path = .error e) ↔ ∀ segments, ¬Spells path.toList segments) :=
  ⟨fun _ => split_eq_ok_iff, split_eq_error_iff⟩

/-- Dots and the other kind of quotes are kept within quotes. -/
example : split "x.'y.\"z'" = .ok ["x", "y.\"z"] := by rfl

end Sift.Path
