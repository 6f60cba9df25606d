import Mathlib.Data.List.Induction
import Mathlib.Data.Nat.Find
import Sift.Proofs.Path.Grammar

/-!
# Where malformed paths go wrong

A beginning of a path is `Viable`. The automaton stands after each viable text in a state that knows
where the segment began and what has been read of it (`Reads`), and it refuses a text either where the
text ends, viable but incomplete, or at the first character that no path has there. So the position of
the error can be told from the longest viable prefix alone (`split_error_position`): it is where this
prefix ends, or next to it for a character after a backslash and for one after an empty quoted segment.
-/

namespace Sift.Path

/-! ## Beginnings of paths -/

/-- The text is the beginning of a well-formed path. -/
def Viable (cs : List Char) : Prop :=
  ∃ path : String, IsValid path ∧ cs <+: path.toList

structure LongestViable (cs : List Char) (k : Nat) : Prop where
  le : k ≤ cs.length
  viable : Viable (cs.take k)
  longest : ∀ j ≤ cs.length, Viable (cs.take j) → j ≤ k

def EndsInDot (cs : List Char) : Prop :=
  ∃ path segments, Spells path segments ∧ cs = path ++ ['.']

def Lead (front : List Char) : Prop :=
  front = [] ∨ EndsInDot front

/-- A quoted segment starts after `front`, and `body` stands behind the opening quote. -/
structure Within (front : List Char) (quote : Char) (body : List Char) : Prop where
  lead : Lead front
  opens : isQuote quote = true
  enclosed : ∃ text, Enclosed quote body text

/-- The text ends within quotes, in a backslash whose character is missing. -/
def AwaitsEscaped (cs : List Char) : Prop :=
  ∃ front quote body, Within front quote body ∧ cs = front ++ quote :: (body ++ ['\\'])

/-- The character at `k` closes a quoted segment in which nothing stands. -/
def ClosesEmpty (cs : List Char) (k : Nat) : Prop :=
  ∃ front quote rest, Within front quote [] ∧ cs = front ++ quote :: quote :: rest ∧
    k = front.length + 1

section
variable {cs cs' : List Char}

theorem viable_iff : Viable cs ↔ ∃ rest segments, Spells (cs ++ rest) segments := by
  constructor
  · rintro ⟨path, ⟨segments, hsplit⟩, rest, hrest⟩
    refine ⟨rest, segments, ?_⟩
    rw [hrest]
    exact split_eq_ok_iff.mp hsplit
  · rintro ⟨rest, segments, hspells⟩
    refine ⟨String.ofList (cs ++ rest), ⟨segments, split_eq_ok_iff.mpr ?_⟩, rest, ?_⟩
    · rw [String.toList_ofList]
      exact hspells
    · rw [String.toList_ofList]

theorem Viable.of_prefix (h : Viable cs') (hstart : cs <+: cs') : Viable cs := by
  obtain ⟨path, hvalid, hpath⟩ := h
  exact ⟨path, hvalid, hstart.trans hpath⟩

/-- The longest viable prefix ends before the first character that no path has there. -/
theorem LongestViable.eq_length {k : Nat} {c : Char} {rest : List Char}
    (h : LongestViable (cs ++ c :: rest) k) (hviable : Viable cs) (hstuck : ¬Viable (cs ++ [c])) :
    k = cs.length := by
  have hle : cs.length ≤ k := h.longest cs.length (by simp) (by simpa using hviable)
  by_contra hne
  refine hstuck (h.viable.of_prefix (List.prefix_take_iff.mpr ⟨⟨rest, by simp⟩, ?_⟩))
  rw [List.length_append, List.length_singleton]
  omega

end

/-! ## What has been read -/

/-- The automaton remembers where the quote stands that a segment was opened with. -/
def State.OpenedAt (n : Nat) : State → Prop
  | .fresh => True
  | .bare _ => True
  | .quoted _ opened _ => opened = n
  | .escape _ opened _ => opened = n
  | .closed opened _ => opened = n

/-- After `cs` the automaton is in the state: `source` has been read of a segment, and whatever follows
is read from there. -/
structure Reads (cs : List Char) (state : State) : Prop where
  parts : ∃ front source, cs = front ++ source ∧ Lead front ∧ state.Holds source ∧
    state.OpenedAt front.length
  run : ∃ segments, ∀ rest, segmentsFrom .fresh 0 (cs ++ rest) =
    (segmentsFrom state cs.length rest).map (segments ++ ·)

theorem reads_nil : Reads [] .fresh := by
  refine ⟨⟨[], [], rfl, .inl rfl, rfl, trivial⟩, [], fun rest => ?_⟩
  simp only [List.nil_append, List.length_nil]
  cases segmentsFrom .fresh 0 rest <;> rfl

theorem State.OpenedAt.next {n i : Nat} {state state' : State} {source : List Char} {c : Char}
    (h : state.OpenedAt n) (hsource : state.Holds source) (hi : i = n + source.length)
    (hn : state.next i c = .ok (none, state')) : state'.OpenedAt n := by
  cases state with
  | fresh =>
    have hs : source = [] := hsource
    subst hs
    simp only [State.next] at hn
    split_ifs at hn <;> cases hn
    · exact hi
    · trivial
  | bare done =>
    simp only [State.next] at hn
    split_ifs at hn <;> cases hn
    trivial
  | quoted quote opened done =>
    simp only [State.next] at hn
    split_ifs at hn <;> cases hn <;> exact h
  | escape quote opened done =>
    simp only [State.next] at hn
    split_ifs at hn
    cases hn
    exact h
  | closed opened done =>
    simp only [State.next] at hn
    split_ifs at hn
    cases hs : closedSegment opened done with
    | ok segment => rw [hs] at hn; cases hn
    | error e => rw [hs] at hn; cases hn

theorem Lead.spells {front source text : List Char} (h : Lead front) (hseg : Segment source text) :
    ∃ segments, Spells (front ++ source) segments := by
  obtain rfl | ⟨path, segments, hpath, rfl⟩ := h
  · exact ⟨_, .one hseg⟩
  · rw [List.append_assoc]
    exact ⟨_, hpath.append (.one hseg)⟩

theorem segmentsFrom_end {state state' : State} {i : Nat} {c : Char} {segment : String}
    (h : state.next i c = .ok (some segment, state')) (rest : List Char) :
    segmentsFrom state i (c :: rest) = (segmentsFrom state' (i + 1) rest).map (segment :: ·) := by
  rw [segmentsFrom, h]

theorem Reads.next {cs : List Char} {state state' : State} {c : Char} {ended : Option String}
    (h : Reads cs state) (hn : state.next cs.length c = .ok (ended, state')) :
    Reads (cs ++ [c]) state' := by
  obtain ⟨⟨front, source, rfl, hlead, hsource, hopened⟩, segments, hrun⟩ := h
  rw [List.length_append] at hn
  cases ended with
  | none =>
    refine ⟨⟨front, source ++ [c], ?_, hlead, hsource.next hn, hopened.next hsource rfl hn⟩,
      segments, fun rest => ?_⟩
    · rw [List.append_assoc]
    · rw [List.append_assoc (front ++ source), List.singleton_append, hrun, List.length_append,
        segmentsFrom_step hn, List.length_append, List.length_append, List.length_singleton]
  | some segment =>
    obtain ⟨rfl, rfl, text, rfl, hseg⟩ := hsource.segment hn
    obtain ⟨segments', hspells⟩ := hlead.spells hseg
    refine ⟨⟨front ++ source ++ ['.'], [], ?_, .inr ⟨_, _, hspells, rfl⟩, rfl, trivial⟩,
      segments ++ [String.ofList text], fun rest => ?_⟩
    · rw [List.append_nil]
    · rw [List.append_assoc (front ++ source), List.singleton_append, hrun, List.length_append,
        segmentsFrom_end hn, List.length_append, List.length_append, List.length_singleton]
      cases segmentsFrom .fresh (front.length + source.length + 1) rest with
      | error e => rfl
      | ok more => simp [Except.map]

/-- The automaton reads all of a text, or it is stuck at a character. -/
theorem reads_total (cs : List Char) :
    (∃ state, Reads cs state) ∨ ∃ before c rest state e, cs = before ++ c :: rest ∧
      Reads before state ∧ state.next before.length c = .error e := by
  induction cs using List.reverseRecOn with
  | nil => exact .inl ⟨.fresh, reads_nil⟩
  | append_singleton cs c ih =>
    obtain ⟨state, hreads⟩ | ⟨before, d, rest, state, e, rfl, hreads, hstuck⟩ := ih
    · cases hn : state.next cs.length c with
      | ok next => exact .inl ⟨next.2, hreads.next hn⟩
      | error e => exact .inr ⟨cs, c, [], state, e, rfl, hreads, hn⟩
    · exact .inr ⟨before, d, rest ++ [c], state, e, by simp, hreads, hstuck⟩

section
variable {cs : List Char} {state : State} {e : Fault × Nat}

theorem Reads.stuck {c : Char} (h : Reads cs state) (hn : state.next cs.length c = .error e)
    (rest : List Char) : segmentsFrom .fresh 0 (cs ++ c :: rest) = .error e := by
  obtain ⟨segments, hrun⟩ := h.run
  rw [hrun, segmentsFrom, hn]
  rfl

theorem Reads.ends (h : Reads cs state) (hf : state.finish cs.length = .error e) :
    segmentsFrom .fresh 0 cs = .error e := by
  obtain ⟨segments, hrun⟩ := h.run
  have hends := hrun []
  rw [List.append_nil, segmentsFrom, hf] at hends
  exact hends

theorem Reads.finish (h : Reads cs state) (he : segmentsFrom .fresh 0 cs = .error e) :
    state.finish cs.length = .error e := by
  obtain ⟨segments, hrun⟩ := h.run
  have hends := hrun []
  rw [List.append_nil, he, segmentsFrom] at hends
  cases hf : state.finish cs.length with
  | ok segment => rw [hf] at hends; cases hends
  | error e' => rw [hf] at hends; cases hends; rfl

end

/-! ## Viable texts -/

theorem Lead.viable {front source text : List Char} (h : Lead front) (rest : List Char)
    (hseg : Segment (source ++ rest) text) : Viable (front ++ source) := by
  obtain ⟨segments, hspells⟩ := h.spells hseg
  rw [← List.append_assoc] at hspells
  exact viable_iff.mpr ⟨rest, segments, hspells⟩

/-- A segment with nothing between its quotes is the only dead end that the automaton reads into. -/
theorem Reads.viable {cs : List Char} {state : State} (h : Reads cs state)
    (hne : ∀ opened, state ≠ .closed opened []) : Viable cs := by
  obtain ⟨front, source, rfl, hlead, hsource, -⟩ := h.parts
  cases state with
  | fresh =>
    have hs : source = [] := hsource
    subst hs
    refine hlead.viable ['a'] (.bare (List.cons_ne_nil _ _) fun c hc => ?_)
    rw [List.mem_singleton.mp hc]
    exact ⟨by decide, by decide, by decide, by decide⟩
  | bare done =>
    obtain ⟨rfl, hdone, hbare⟩ := hsource
    have hseg : Segment (done.reverse ++ []) done.reverse := by
      rw [List.append_nil]
      exact .bare (by simpa using hdone) fun c hc => hbare c (List.mem_reverse.mp hc)
    exact hlead.viable [] hseg
  | quoted quote opened done =>
    obtain ⟨hq, body, rfl, henc⟩ := hsource
    -- one character more, so that the segment is not empty if the body is
    have hbody := henc.append (.escaped (.inl rfl) .nil)
    have hseg := Segment.quoted ((isQuote_iff quote).mp hq) (by simp) hbody
    exact hlead.viable ['\\', '\'', quote] (by simpa using hseg)
  | escape quote opened done =>
    obtain ⟨hq, body, rfl, henc⟩ := hsource
    have hbody := henc.append (.escaped (.inl rfl) .nil)
    have hseg := Segment.quoted ((isQuote_iff quote).mp hq) (by simp) hbody
    exact hlead.viable ['\'', quote] (by simpa using hseg)
  | closed opened done =>
    have hdone : done ≠ [] := fun h => hne opened (by rw [h])
    have hseg := Segment.of_closed hsource hdone
    rw [← List.append_nil source] at hseg
    exact hlead.viable [] hseg

theorem exists_longestViable (cs : List Char) : ∃ k, LongestViable cs k := by
  classical
  refine ⟨Nat.findGreatest (fun k => Viable (cs.take k)) cs.length, Nat.findGreatest_le _, ?_, ?_⟩
  · exact Nat.findGreatest_spec (P := fun k => Viable (cs.take k)) (Nat.zero_le _)
      (reads_nil.viable (by simp))
  · exact fun j hj hviable => Nat.le_findGreatest hj hviable

theorem Reads.not_viable_of_stuck {cs : List Char} {state : State} {c : Char} {e : Fault × Nat}
    (h : Reads cs state) (hn : state.next cs.length c = .error e) : ¬Viable (cs ++ [c]) := by
  intro hviable
  obtain ⟨rest, segments, hspells⟩ := viable_iff.mp hviable
  have hruns := segmentsFrom_of_spells hspells 0
  rw [List.append_assoc, List.singleton_append, h.stuck hn rest] at hruns
  cases hruns

theorem next_closed_nil (opened i : Nat) (c : Char) :
    State.next i c (.closed opened []) =
      if c = '.' then .error (.emptySegment, opened + 1) else .error (.afterQuote, i) := rfl

theorem Reads.not_viable {cs : List Char} {opened : Nat} (h : Reads cs (.closed opened [])) :
    ¬Viable cs := by
  intro hviable
  obtain ⟨rest, segments, hspells⟩ := viable_iff.mp hviable
  have hruns := segmentsFrom_of_spells hspells 0
  cases rest with
  | nil =>
    rw [List.append_nil, h.ends rfl] at hruns
    cases hruns
  | cons c rest =>
    obtain ⟨e, hn⟩ : ∃ e, State.next cs.length c (.closed opened []) = .error e := by
      rw [next_closed_nil]
      split_ifs <;> exact ⟨_, rfl⟩
    rw [h.stuck hn] at hruns
    cases hruns

theorem Reads.awaitsEscaped {cs : List Char} {quote : Char} {opened : Nat} {done : List Char}
    (h : Reads cs (.escape quote opened done)) : AwaitsEscaped cs := by
  obtain ⟨front, source, rfl, hlead, ⟨hq, body, rfl, henc⟩, -⟩ := h.parts
  exact ⟨front, quote, body, ⟨hlead, hq, _, henc⟩, rfl⟩

theorem Reads.closed_nil {cs : List Char} {opened : Nat} (h : Reads cs (.closed opened [])) :
    ∃ front quote, Within front quote [] ∧ cs = front ++ [quote, quote] ∧ opened = front.length := by
  obtain ⟨front, source, rfl, hlead, ⟨quote, body, hq, rfl, henc⟩, hopened⟩ := h.parts
  obtain rfl : body = [] := henc.nil_iff.mpr rfl
  exact ⟨front, quote, ⟨hlead, hq, [], .nil⟩, rfl, hopened⟩

/-! ## Reading along a text -/

theorem segmentsFrom_spells_dot {path : List Char} {segments : List String}
    (h : Spells path segments) (i : Nat) (rest : List Char) :
    segmentsFrom .fresh i (path ++ '.' :: rest) =
      (segmentsFrom .fresh (i + path.length + 1) rest).map (segments ++ ·) := by
  induction h generalizing i with
  | one hseg => exact segmentsFrom_segment_dot hseg i rest
  | @more source text path segments hseg _ ih =>
    rw [List.append_assoc, List.cons_append, segmentsFrom_segment_dot hseg, ih,
      List.length_append, List.length_cons]
    have hi : i + source.length + 1 + path.length + 1 = i + (source.length + (path.length + 1)) + 1 := by
      omega
    rw [hi]
    cases segmentsFrom .fresh (i + (source.length + (path.length + 1)) + 1) rest <;> rfl

theorem Lead.reads {front : List Char} (h : Lead front) : Reads front .fresh := by
  obtain rfl | ⟨path, segments, hspells, rfl⟩ := h
  · exact reads_nil
  · refine ⟨⟨path ++ ['.'], [], ?_, .inr ⟨path, segments, hspells, rfl⟩, rfl, trivial⟩,
      segments, fun rest => ?_⟩
    · rw [List.append_nil]
    · rw [List.append_assoc, List.singleton_append, segmentsFrom_spells_dot hspells, Nat.zero_add,
        List.length_append, List.length_singleton]

theorem State.next_backslash (i : Nat) (quote : Char) (opened : Nat) (done : List Char) :
    State.next i '\\' (.quoted quote opened done) = .ok (none, .escape quote opened done) := by
  simp [State.next]

theorem Reads.enclosed {quote : Char} {body text : List Char} (h : Enclosed quote body text)
    {cs : List Char} {opened : Nat} {done : List Char} (hreads : Reads cs (.quoted quote opened done)) :
    Reads (cs ++ body) (.quoted quote opened (text.reverse ++ done)) := by
  induction h generalizing cs done with
  | nil =>
    rw [List.append_nil]
    exact hreads
  | @plain c body text hc hb _ ih =>
    have hn : State.next cs.length c (.quoted quote opened done) =
        .ok (none, .quoted quote opened (c :: done)) := by
      simp [State.next, hc, hb]
    have hbody := ih (hreads.next hn)
    simpa using hbody
  | @escaped c body text he _ ih =>
    have hn' : State.next (cs ++ ['\\']).length c (.escape quote opened done) =
        .ok (none, .quoted quote opened (c :: done)) := by
      simp [State.next, (needsEscape_iff c).mpr he]
    have hbody := ih ((hreads.next (State.next_backslash ..)).next hn')
    simpa using hbody

theorem Within.reads {front body : List Char} {quote : Char} (h : Within front quote body) :
    ∃ done, Reads (front ++ quote :: body) (.quoted quote front.length done) ∧
      (body = [] → done = []) := by
  obtain ⟨text, henc⟩ := h.enclosed
  have hopen : State.next front.length quote .fresh = .ok (none, .quoted quote front.length []) := by
    rcases (isQuote_iff quote).mp h.opens with rfl | rfl <;> rfl
  have hbody := Reads.enclosed henc (h.lead.reads.next hopen)
  rw [List.append_nil, List.append_assoc, List.singleton_append] at hbody
  exact ⟨text.reverse, hbody, fun h => List.reverse_eq_nil_iff.mpr (henc.nil_iff.mp h)⟩

theorem AwaitsEscaped.reads {cs : List Char} (h : AwaitsEscaped cs) :
    ∃ quote opened done, Reads cs (.escape quote opened done) := by
  obtain ⟨front, quote, body, hwithin, rfl⟩ := h
  obtain ⟨done, hreads, -⟩ := hwithin.reads
  have hnext := hreads.next (State.next_backslash ..)
  exact ⟨quote, front.length, done, by simpa using hnext⟩

theorem Within.reads_closed {front : List Char} {quote : Char} (h : Within front quote []) :
    Reads (front ++ [quote, quote]) (.closed front.length []) := by
  obtain ⟨done, hreads, hnil⟩ := h.reads
  obtain rfl := hnil rfl
  have hclose (i : Nat) : State.next i quote (.quoted quote front.length []) =
      .ok (none, .closed front.length []) := by
    simp [State.next, not_backslash_of_isQuote h.opens]
  have hnext := hreads.next (hclose _)
  rwa [List.append_assoc] at hnext

/-! ## Where reading fails -/

section
variable {cs : List Char} {k : Nat} {e : Fault × Nat}

theorem segmentsFrom_endsInDot (h : EndsInDot cs) :
    segmentsFrom .fresh 0 cs = .error (.trailingDot, cs.length - 1) :=
  (Lead.reads (.inr h)).ends rfl

theorem segmentsFrom_awaitsEscaped (h : AwaitsEscaped cs) :
    segmentsFrom .fresh 0 cs = .error (.badEscape none, cs.length - 1) := by
  obtain ⟨quote, opened, done, hreads⟩ := h.reads
  exact hreads.ends rfl

theorem segmentsFrom_badEscape (hk : LongestViable cs k) (hlt : k < cs.length)
    (h : AwaitsEscaped (cs.take k)) :
    segmentsFrom .fresh 0 cs = .error (.badEscape cs[k]?, k - 1) := by
  obtain ⟨quote, opened, done, hreads⟩ := h.reads
  have hlength : (cs.take k).length = k := by
    simp [Nat.min_eq_left hk.le]
  have hsplit : cs = cs.take k ++ cs[k] :: cs.drop (k + 1) := by
    rw [List.getElem_cons_drop, List.take_append_drop]
  have hplain : needsEscape cs[k] = false := by
    by_contra hneeds
    have hn : State.next (cs.take k).length cs[k] (.escape quote opened done) =
        .ok (none, .quoted quote opened (cs[k] :: done)) := by
      simp [State.next, hneeds]
    have hviable := (hreads.next hn).viable (by simp)
    have hle := hk.longest (k + 1) hlt (by rwa [List.take_append_getElem] at hviable)
    omega
  have hn : State.next (cs.take k).length cs[k] (.escape quote opened done) =
      .error (.badEscape cs[k]?, k - 1) := by
    simp [State.next, hplain, hlength]
  have hstuck := hreads.stuck hn (cs.drop (k + 1))
  rwa [← hsplit] at hstuck

theorem getElem?_beyond_two (front : List Char) (c d : Char) (rest : List Char) :
    (front ++ c :: d :: rest)[front.length + 1 + 1]? = rest.head? := by
  rw [List.getElem?_append_right (by omega), Nat.add_assoc, Nat.add_sub_cancel_left,
    List.head?_eq_getElem?]
  rfl

theorem segmentsFrom_afterQuote {c : Char} (h : ClosesEmpty cs k) (hc : cs[k + 1]? = some c)
    (hdot : c ≠ '.') : segmentsFrom .fresh 0 cs = .error (.afterQuote, k + 1) := by
  obtain ⟨front, quote, rest, hwithin, rfl, rfl⟩ := h
  rw [getElem?_beyond_two] at hc
  obtain ⟨rest, rfl⟩ := List.head?_eq_some_iff.mp hc
  have hn : State.next (front ++ [quote, quote]).length c (.closed front.length []) =
      .error (.afterQuote, front.length + 1 + 1) := by
    simp [next_closed_nil, hdot]
  have hstuck := hwithin.reads_closed.stuck hn rest
  rwa [List.append_assoc] at hstuck

/-- A viable text is refused because it is no path yet. -/
theorem unclosed_of_viable {fault : Fault} {i : Nat} (hne : cs ≠ [])
    (he : segmentsFrom .fresh 0 cs = .error (fault, i)) (hviable : Viable cs)
    (hdot : ¬EndsInDot cs) (hescape : ¬AwaitsEscaped cs) :
    fault = .unclosedQuote ∧
      ∃ front quote body, Within front quote body ∧ cs = front ++ quote :: body ∧ i = front.length := by
  obtain ⟨state, hreads⟩ | ⟨before, c, rest, state, e, rfl, hreads, hn⟩ := reads_total cs
  · have hf := hreads.finish he
    obtain ⟨front, source, hcs, hlead, hsource, hopened⟩ := hreads.parts
    cases state with
    | fresh =>
      have hs : source = [] := hsource
      rw [hs, List.append_nil] at hcs
      rw [← hcs] at hlead
      exact absurd (hlead.resolve_left hne) hdot
    | bare done => cases hf
    | quoted quote opened done =>
      obtain ⟨hq, body, rfl, henc⟩ := hsource
      cases hf
      exact ⟨rfl, front, quote, body, ⟨hlead, hq, _, henc⟩, hcs, hopened⟩
    | escape quote opened done => exact absurd hreads.awaitsEscaped hescape
    | closed opened done =>
      cases done with
      | nil => exact absurd hviable hreads.not_viable
      | cons c done => cases hf
  · refine absurd (hviable.of_prefix ⟨rest, ?_⟩) (hreads.not_viable_of_stuck hn)
    rw [List.append_assoc, List.singleton_append]

/-- A character is refused where it stands, unless a backslash or an empty quoted segment is before
it. -/
theorem State.next_error_position {state : State} {i j : Nat} {c : Char} {fault : Fault}
    (hn : state.next i c = .error (fault, j))
    (hescape : ∀ quote opened done, state ≠ .escape quote opened done)
    (hclosed : ∀ opened, state ≠ .closed opened []) : j = i := by
  cases state with
  | fresh =>
    simp only [State.next] at hn
    split_ifs at hn <;> cases hn <;> rfl
  | bare done =>
    simp only [State.next] at hn
    split_ifs at hn <;> cases hn <;> rfl
  | quoted quote opened done =>
    simp only [State.next] at hn
    split_ifs at hn
  | escape quote opened done => exact absurd rfl (hescape quote opened done)
  | closed opened done =>
    cases done with
    | nil => exact absurd rfl (hclosed opened)
    | cons d done =>
      simp only [State.next] at hn
      split_ifs at hn
      · cases hn
      · cases hn
        rfl

theorem LongestViable.eq_of_within {front rest : List Char} {quote : Char}
    (h : LongestViable (front ++ quote :: quote :: rest) k) (hwithin : Within front quote []) :
    k = front.length + 1 := by
  obtain ⟨done, hreads, -⟩ := hwithin.reads
  have hstuck : ¬Viable (front ++ [quote] ++ [quote]) := by
    rw [List.append_assoc]
    exact hwithin.reads_closed.not_viable
  rw [← List.singleton_append, ← List.append_assoc] at h
  have hlength := h.eq_length (hreads.viable (by simp)) hstuck
  rwa [List.length_append, List.length_singleton] at hlength

/-- A text that is no beginning of a path is refused at the end of its longest viable prefix. -/
theorem position_of_not_viable {fault : Fault} {i : Nat}
    (he : segmentsFrom .fresh 0 cs = .error (fault, i)) (hviable : ¬Viable cs)
    (hk : LongestViable cs k) (hescape : ¬AwaitsEscaped (cs.take k))
    (hclosed : ∀ c, ClosesEmpty cs k → cs[k + 1]? = some c → c = '.') : i = k := by
  obtain ⟨state, hreads⟩ | ⟨before, c, rest, state, e, rfl, hreads, hn⟩ := reads_total cs
  · have hf := hreads.finish he
    by_cases hstate : ∃ opened, state = .closed opened []
    · obtain ⟨opened, rfl⟩ := hstate
      obtain ⟨front, quote, hwithin, rfl, rfl⟩ := hreads.closed_nil
      cases hf
      exact (hk.eq_of_within hwithin).symm
    · exact absurd (hreads.viable fun opened h => hstate ⟨opened, h⟩) hviable
  · rw [hreads.stuck hn rest] at he
    cases he
    by_cases hstate : ∃ opened, state = .closed opened []
    · obtain ⟨opened, rfl⟩ := hstate
      obtain ⟨front, quote, hwithin, rfl, rfl⟩ := hreads.closed_nil
      rw [List.append_assoc] at hk hclosed
      have hlength := hk.eq_of_within hwithin
      subst hlength
      have hdot : c = '.' := hclosed c ⟨front, quote, c :: rest, hwithin, rfl, rfl⟩
        (getElem?_beyond_two front quote quote (c :: rest))
      rw [next_closed_nil, if_pos hdot] at hn
      cases hn
      rfl
    · have hnever : ∀ opened, state ≠ .closed opened [] := fun opened h => hstate ⟨opened, h⟩
      have hlength := hk.eq_length (hreads.viable hnever) (hreads.not_viable_of_stuck hn)
      subst hlength
      rw [List.take_left] at hescape
      refine State.next_error_position hn (fun quote opened done h => ?_) hnever
      subst h
      exact hescape hreads.awaitsEscaped

end

/-! ## Errors of splitting -/

theorem split_eq_error {path : String} {e : Error} (he : split path = .error e) (hne : path ≠ "") :
    ∃ fault i, segmentsFrom .fresh 0 path.toList = .error (fault, i) ∧ e = ⟨fault, i, path⟩ := by
  have hempty : path.isEmpty = false := by
    rw [Bool.eq_false_iff, ne_eq, String.isEmpty_iff]
    exact hne
  rw [split, hempty] at he
  cases hs : segmentsFrom .fresh 0 path.toList with
  | ok segments => rw [hs] at he; cases he
  | error pair => rw [hs] at he; cases he; exact ⟨pair.1, pair.2, rfl, rfl⟩

/-- A viable text is refused at its last character if more has to follow that, a segment after a dot or
a character after a backslash, and otherwise at the quote that is not closed. -/
structure RefusedViable (cs : List Char) (e : Error) : Prop where
  dot : EndsInDot cs → e.fault.message = "cannot end with a dot" ∧ e.position = cs.length - 1
  escape : AwaitsEscaped cs → e.fault = .badEscape none ∧ e.position = cs.length - 1
  quote : ¬EndsInDot cs → ¬AwaitsEscaped cs → e.fault.message = "unclosed quote" ∧
    ∃ front quote body, Within front quote body ∧ cs = front ++ quote :: body ∧
      e.position = front.length

/-- Any other text is refused where its longest viable prefix ends, but at the backslash if a character
after it is refused, and after an empty quoted segment if that goes on. -/
structure RefusedAfter (cs : List Char) (k : Nat) (e : Error) : Prop where
  escape : AwaitsEscaped (cs.take k) → e.fault = .badEscape cs[k]? ∧ e.position = k - 1
  quote : ∀ c, ClosesEmpty cs k → cs[k + 1]? = some c → c ≠ '.' →
    e.fault.message = "character(s) after closing quote" ∧ e.position = k + 1
  other : ¬AwaitsEscaped (cs.take k) → (∀ c, ClosesEmpty cs k → cs[k + 1]? = some c → c = '.') →
    e.position = k

theorem AwaitsEscaped.two_le {cs : List Char} (h : AwaitsEscaped cs) : 2 ≤ cs.length := by
  obtain ⟨front, quote, body, -, rfl⟩ := h
  simp
  omega

theorem LongestViable.lt {cs : List Char} {k : Nat} (h : LongestViable cs k) (hviable : ¬Viable cs) :
    k < cs.length := by
  refine Nat.lt_of_le_of_ne h.le fun heq => hviable ?_
  have htake := h.viable
  rwa [heq, List.take_length] at htake

theorem refusedViable_of_error {cs : List Char} {fault : Fault} {i : Nat} (hne : cs ≠ [])
    (he : segmentsFrom .fresh 0 cs = .error (fault, i)) (hviable : Viable cs) (path : String) :
    RefusedViable cs ⟨fault, i, path⟩ := by
  have hpos := List.length_pos_iff.mpr hne
  refine ⟨fun h => ?_, fun h => ?_, fun hdot hescape => ?_⟩
  · rw [segmentsFrom_endsInDot h] at he
    cases he
    exact ⟨rfl, by dsimp only; omega⟩
  · rw [segmentsFrom_awaitsEscaped h] at he
    cases he
    exact ⟨rfl, by dsimp only; omega⟩
  · obtain ⟨rfl, front, quote, body, hwithin, hcs, rfl⟩ :=
      unclosed_of_viable hne he hviable hdot hescape
    exact ⟨rfl, front, quote, body, hwithin, hcs, rfl⟩

theorem refusedAfter_of_error {cs : List Char} {fault : Fault} {i k : Nat}
    (he : segmentsFrom .fresh 0 cs = .error (fault, i)) (hviable : ¬Viable cs)
    (hk : LongestViable cs k) (path : String) : RefusedAfter cs k ⟨fault, i, path⟩ := by
  have hlt := hk.lt hviable
  refine ⟨fun h => ?_, fun c hempty hc hdot => ?_, fun hescape hclosed => ?_⟩
  · have htwo := h.two_le
    rw [segmentsFrom_badEscape hk hlt h] at he
    cases he
    rw [List.length_take_of_le hk.le] at htwo
    exact ⟨rfl, by dsimp only; omega⟩
  · rw [segmentsFrom_afterQuote hempty hc hdot] at he
    cases he
    exact ⟨rfl, by simp⟩
  · rw [position_of_not_viable he hviable hk hescape hclosed]

theorem RefusedViable.bounds {cs : List Char} {e : Error} (h : RefusedViable cs e) (hne : cs ≠ []) :
    0 ≤ e.position ∧ e.position < cs.length := by
  have hpos := List.length_pos_iff.mpr hne
  by_cases hdot : EndsInDot cs
  · have hposition := (h.dot hdot).2
    omega
  by_cases hescape : AwaitsEscaped cs
  · have hposition := (h.escape hescape).2
    omega
  obtain ⟨-, front, quote, body, -, rfl, hposition⟩ := h.quote hdot hescape
  rw [List.length_append, List.length_cons]
  omega

theorem RefusedAfter.bounds {cs : List Char} {k : Nat} {e : Error} (h : RefusedAfter cs k e)
    (hlt : k < cs.length) : 0 ≤ e.position ∧ e.position < cs.length := by
  by_cases hescape : AwaitsEscaped (cs.take k)
  · have hposition := (h.escape hescape).2
    have htwo := hescape.two_le
    rw [List.length_take_of_le (Nat.le_of_lt hlt)] at htwo
    omega
  by_cases hclosed : ∃ c, ClosesEmpty cs k ∧ cs[k + 1]? = some c ∧ c ≠ '.'
  · obtain ⟨c, hempty, hc, hdot⟩ := hclosed
    have hposition := (h.quote c hempty hc hdot).2
    obtain ⟨hlast, -⟩ := List.getElem?_eq_some_iff.mp hc
    omega
  · have hposition := h.other hescape fun c hempty hc =>
      by_contra fun hdot => hclosed ⟨c, hempty, hc, hdot⟩
    omega

/-- The empty text is refused at position -1, and every other malformed one at one of its characters,
which is told by the longest beginning of a path in it. -/
theorem split_error_position {path : String} {e : Error} (he : split path = .error e) :
    (e.position = -1 ↔ path = "") ∧
      (path ≠ "" → 0 ≤ e.position ∧ e.position < path.toList.length ∧
        (Viable path.toList → RefusedViable path.toList e) ∧
        (¬Viable path.toList → ∃ k, LongestViable path.toList k ∧ RefusedAfter path.toList k e)) := by
  by_cases hempty : path = ""
  · subst hempty
    cases he
    exact ⟨iff_of_true rfl rfl, fun h => absurd rfl h⟩
  · obtain ⟨fault, i, hs, rfl⟩ := split_eq_error he hempty
    have hne : path.toList ≠ [] := fun h => hempty (String.toList_eq_nil_iff.mp h)
    have hviable (h : Viable path.toList) := refusedViable_of_error hne hs h path
    obtain ⟨k, hk⟩ := exists_longestViable path.toList
    have hafter (h : ¬Viable path.toList) := refusedAfter_of_error hs h hk path
    have hbounds : 0 ≤ (i : Int) ∧ (i : Int) < path.toList.length := by
      by_cases h : Viable path.toList
      · exact (hviable h).bounds hne
      · exact (hafter h).bounds (hk.lt h)
    refine ⟨iff_of_false (by dsimp only; omega) hempty, fun _ => ?_⟩
    exact ⟨hbounds.1, hbounds.2, hviable, fun h => ⟨k, hk, hafter h⟩⟩

/-- The first text lacks a closing quote; in the second one an empty quoted segment goes on. -/
theorem split_error_position_quotes :
    split "x.'y" = .error ⟨.unclosedQuote, 2, "x.'y"⟩ ∧ Viable "x.'y".toList ∧
    RefusedViable "x.'y".toList ⟨.unclosedQuote, 2, "x.'y"⟩ ∧
    split "x.''y" = .error ⟨.afterQuote, 4, "x.''y"⟩ ∧ ¬Viable "x.''y".toList ∧
    ∃ k, LongestViable "x.''y".toList k ∧ RefusedAfter "x.''y".toList k ⟨.afterQuote, 4, "x.''y"⟩ := by
  have hunclosed : split "x.'y" = .error ⟨.unclosedQuote, 2, "x.'y"⟩ := rfl
  have hviable : Viable "x.'y".toList := ⟨"x.'y'", ⟨["x", "y"], rfl⟩, ['\''], rfl⟩
  have hafter : split "x.''y" = .error ⟨.afterQuote, 4, "x.''y"⟩ := rfl
  have hlead : Lead ['x', '.'] :=
    .inr ⟨['x'], ["x"], split_eq_ok_iff.mp (rfl : split "x" = .ok ["x"]), rfl⟩
  have hwithin : Within ['x', '.'] '\'' [] := ⟨hlead, rfl, [], .nil⟩
  have hdead : ¬Viable "x.''y".toList := fun h =>
    hwithin.reads_closed.not_viable (h.of_prefix ⟨['y'], rfl⟩)
  obtain ⟨-, -, -, hrefused, -⟩ := (split_error_position hunclosed).imp_right (· (by decide))
  obtain ⟨-, -, -, -, hrefusedAfter⟩ := (split_error_position hafter).imp_right (· (by decide))
  exact ⟨hunclosed, hviable, hrefused hviable, hafter, hdead, hrefusedAfter hdead⟩

end Sift.Path
