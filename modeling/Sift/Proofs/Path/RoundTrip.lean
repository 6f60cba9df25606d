import Sift.Proofs.Path.Grammar

/-!
# Splitting a joined path

`join` quotes a segment only if it holds a quote or a backslash, so a segment with dots and nothing
else to quote is read back as its `pieces`. Joined segments and joined pieces are one text
(`join_flatMap_pieces`), and the pieces are `Faithful`: each is quoted or free of dots. Faithful
segments are read back one by one, up to the first empty one, which is refused.
-/

namespace Sift.Path

/-! ## Pieces of segments -/

def HasEscapable (segment : String) : Prop :=
  ∃ c ∈ segment.toList, IsEscapable c

instance (c : Char) : Decidable (IsEscapable c) :=
  inferInstanceAs (Decidable (_ ∨ _))

instance (segment : String) : Decidable (HasEscapable segment) :=
  inferInstanceAs (Decidable (∃ c ∈ segment.toList, IsEscapable c))

/-- What a segment is read back as: it falls apart at its dots, unless it is quoted. -/
def pieces (segment : String) : List String :=
  if HasEscapable segment then [segment] else (segment.toList.splitOn '.').map String.ofList

/-- A segment that is quoted if it holds dots. -/
def Faithful (segment : String) : Prop :=
  '.' ∈ segment.toList → HasEscapable segment

theorem any_needsEscape_iff (segment : String) :
    segment.toList.any needsEscape = true ↔ HasEscapable segment := by
  rw [List.any_eq_true]
  unfold HasEscapable
  simp only [needsEscape_iff]

theorem mem_of_mem_splitOn {x c : Char} {l piece : List Char} (h : piece ∈ l.splitOn x)
    (hc : c ∈ piece) : c ∈ l ∧ c ≠ x := by
  induction l generalizing piece with
  | nil =>
    rw [List.splitOn_eq_singleton List.not_mem_nil, List.mem_singleton] at h
    subst h
    cases hc
  | cons d l ih =>
    rw [List.splitOn_cons_eq_if_modifyHead] at h
    split at h
    next hd =>
      rcases List.mem_cons.mp h with rfl | h
      · cases hc
      · exact ⟨List.mem_cons_of_mem _ (ih h hc).1, (ih h hc).2⟩
    next hd =>
      obtain ⟨first, others, hfo⟩ := List.exists_cons_of_ne_nil (List.splitOn_ne_nil x l)
      rw [hfo, List.modifyHead_cons] at h
      rw [hfo] at ih
      rcases List.mem_cons.mp h with rfl | h
      · rcases List.mem_cons.mp hc with rfl | hc
        · exact ⟨List.mem_cons_self .., by simpa using hd⟩
        · have := ih (List.mem_cons_self ..) hc
          exact ⟨List.mem_cons_of_mem _ this.1, this.2⟩
      · have := ih (List.mem_cons_of_mem _ h) hc
        exact ⟨List.mem_cons_of_mem _ this.1, this.2⟩

theorem pieces_ne_nil (segment : String) : pieces segment ≠ [] := by
  unfold pieces
  split
  · exact nofun
  · rw [ne_eq, List.map_eq_nil_iff]
    exact List.splitOn_ne_nil _ _

theorem faithful_of_mem_pieces {segment piece : String} (h : piece ∈ pieces segment) :
    Faithful piece := by
  unfold pieces at h
  split at h
  next hsome =>
    rw [List.mem_singleton] at h
    subst h
    exact fun _ => hsome
  · obtain ⟨cs, hcs, rfl⟩ := List.mem_map.mp h
    intro hdot
    rw [String.toList_ofList] at hdot
    exact absurd rfl (mem_of_mem_splitOn hcs hdot).2

/-! ## Joining pieces -/

theorem written_of_not {segment : String} (h : ¬HasEscapable segment) :
    written segment = segment := by
  unfold written
  rw [if_neg (fun hany => h ((any_needsEscape_iff segment).mp hany))]

/-- A segment in double quotes: each quote and each backslash in it stands after a backslash. -/
def quoted (segment : String) : String :=
  "\"" ++ String.ofList (segment.toList.flatMap escaped) ++ "\""

theorem written_of_hasEscapable {segment : String} (h : HasEscapable segment) :
    written segment = quoted segment :=
  if_pos ((any_needsEscape_iff segment).mpr h)

theorem toList_quoted (segment : String) :
    (quoted segment).toList = '"' :: (segment.toList.flatMap escaped ++ ['"']) := by
  unfold quoted
  simp only [String.toList_append, String.toList_ofList]
  rfl

theorem join_cons {segment : String} {rest : List String} (h : rest ≠ []) :
    join (segment :: rest) = written segment ++ "." ++ join rest := by
  unfold join
  rw [List.map_cons, String.intercalate_cons_of_ne_nil (by rwa [ne_eq, List.map_eq_nil_iff])]

theorem join_append {segments rest : List String} (h : segments ≠ []) (h' : rest ≠ []) :
    join (segments ++ rest) = join segments ++ "." ++ join rest := by
  unfold join
  rw [List.map_append, String.intercalate_append_of_ne_nil (by rwa [ne_eq, List.map_eq_nil_iff])
    (by rwa [ne_eq, List.map_eq_nil_iff])]

theorem join_singleton (segment : String) : join [segment] = written segment := by
  unfold join
  rw [List.map_singleton, String.intercalate_singleton]

theorem join_pieces (segment : String) : join (pieces segment) = written segment := by
  unfold pieces
  split
  · exact join_singleton segment
  next hnone =>
    rw [written_of_not hnone]
    have hpiece : ∀ piece ∈ segment.toList.splitOn '.',
        (written ∘ String.ofList) piece = String.ofList piece := by
      intro piece hp
      refine written_of_not ?_
      rintro ⟨c, hc, hesc⟩
      rw [String.toList_ofList] at hc
      exact hnone ⟨c, (mem_of_mem_splitOn hp hc).1, hesc⟩
    apply String.toList_inj.mp
    unfold join
    rw [List.map_map, List.map_congr_left hpiece, String.toList_intercalate, List.map_map]
    simp [Function.comp_def]

theorem join_flatMap_pieces (segments : List String) :
    join (segments.flatMap pieces) = join segments := by
  induction segments with
  | nil => rfl
  | cons segment rest ih =>
    rw [List.flatMap_cons]
    cases rest with
    | nil => rw [List.flatMap_nil, List.append_nil, join_pieces, join_singleton]
    | cons second others =>
      have hne : (second :: others).flatMap pieces ≠ [] := by
        rw [List.flatMap_cons]
        exact List.append_ne_nil_of_left_ne_nil (pieces_ne_nil second) _
      rw [join_append (pieces_ne_nil segment) hne, join_pieces, ih,
        @join_cons segment _ (List.cons_ne_nil second others)]

/-! ## Reading faithful segments -/

theorem enclosed_escaped (text : List Char) : Enclosed '"' (text.flatMap escaped) text := by
  induction text with
  | nil => exact .nil
  | cons c text ih =>
    rw [List.flatMap_cons]
    by_cases he : IsEscapable c
    · rw [escaped, if_pos ((needsEscape_iff c).mpr he)]
      exact .escaped he ih
    · rw [escaped, if_neg (fun h => he ((needsEscape_iff c).mp h))]
      exact .plain (fun h => he (.inr (.inl h))) (fun h => he (.inr (.inr h))) ih

theorem segment_quoted {segment : String} (hne : segment ≠ "") :
    Segment (quoted segment).toList segment.toList := by
  have htext : segment.toList ≠ [] := fun h => hne (String.toList_eq_nil_iff.mp h)
  have henc := enclosed_escaped segment.toList
  rw [toList_quoted]
  exact .quoted (.inr rfl) (fun h => htext (henc.nil_iff.mp h)) henc

theorem segment_written {segment : String} (hne : segment ≠ "") (hf : Faithful segment) :
    Segment (written segment).toList segment.toList := by
  have htext : segment.toList ≠ [] := fun h => hne (String.toList_eq_nil_iff.mp h)
  by_cases hesc : HasEscapable segment
  · rw [written_of_hasEscapable hesc]
    exact segment_quoted hne
  · rw [written_of_not hesc]
    refine .bare htext fun c hc => (isBare_iff c).mpr ⟨?_, ?_⟩
    · rintro rfl
      exact hesc (hf hc)
    · rw [← Bool.not_eq_true, needsEscape_iff]
      exact fun h => hesc ⟨c, hc, h⟩

theorem spells_join {segments : List String} (hne : segments ≠ [])
    (hf : ∀ s ∈ segments, Faithful s) (hfull : "" ∉ segments) :
    Spells (join segments).toList segments := by
  induction segments with
  | nil => exact absurd rfl hne
  | cons segment rest ih =>
    rw [List.mem_cons, not_or] at hfull
    have hseg := segment_written (Ne.symm hfull.1) (hf segment (List.mem_cons_self ..))
    cases rest with
    | nil =>
      rw [join_singleton]
      simpa using Spells.one hseg
    | cons second others =>
      have hrest := ih nofun (fun s hs => hf s (List.mem_cons_of_mem _ hs)) hfull.2
      rw [join_cons (List.cons_ne_nil second others), String.toList_append, String.toList_append,
        List.append_assoc]
      simpa using Spells.more hseg hrest

/-- The first empty segment ends the reading. -/
theorem segmentsFrom_join_error {segments : List String} (hf : ∀ s ∈ segments, Faithful s)
    (hempty : "" ∈ segments) (i : Nat) :
    ∃ e, segmentsFrom .fresh i (join segments).toList = .error e := by
  induction segments generalizing i with
  | nil => cases hempty
  | cons segment rest ih =>
    by_cases hs : segment = ""
    · subst hs
      cases rest with
      | nil => exact ⟨_, rfl⟩
      | cons second others =>
        rw [join_cons (List.cons_ne_nil second others)]
        exact ⟨(.emptySegment, i), by simp [written, segmentsFrom, State.next]⟩
    · have hrest : "" ∈ rest := by
        rcases List.mem_cons.mp hempty with h | h
        · exact absurd h.symm hs
        · exact h
      have hseg := segment_written hs (hf segment (List.mem_cons_self ..))
      obtain ⟨e, he⟩ := ih (fun s h => hf s (List.mem_cons_of_mem _ h)) hrest
        (i + (written segment).toList.length + 1)
      refine ⟨e, ?_⟩
      rw [join_cons (List.ne_nil_of_mem hrest), String.toList_append, String.toList_append,
        List.append_assoc]
      rw [show ".".toList ++ (join rest).toList = '.' :: (join rest).toList from rfl,
        segmentsFrom_segment_dot hseg, he]
      rfl

/-! ## Quoted keys -/

/-- In quotes any text but the empty one is read back as one segment. -/
theorem split_quoted {segment : String} (hne : segment ≠ "") :
    split (quoted segment) = .ok [segment] := by
  rw [split_eq_ok_iff]
  simpa using Spells.one (segment_quoted hne)

/-! ## Round trip -/

theorem split_join_of_faithful {segments : List String} (hne : segments ≠ [])
    (hf : ∀ s ∈ segments, Faithful s) (hfull : "" ∉ segments) :
    split (join segments) = .ok segments :=
  split_eq_ok_iff.mpr (spells_join hne hf hfull)

theorem split_join_error {segments : List String} (hf : ∀ s ∈ segments, Faithful s)
    (h : segments = [] ∨ "" ∈ segments) : ∃ e, split (join segments) = .error e := by
  rcases h with rfl | hempty
  · exact ⟨_, rfl⟩
  · obtain ⟨e, he⟩ := segmentsFrom_join_error hf hempty 0
    cases hs : split (join segments) with
    | error e' => exact ⟨e', rfl⟩
    | ok segments' =>
      rw [segmentsFrom_of_split hs] at he
      cases he

theorem faithful_flatMap_pieces (segments : List String) :
    ∀ s ∈ segments.flatMap pieces, Faithful s := by
  intro s hs
  obtain ⟨segment, _, hpiece⟩ := List.mem_flatMap.mp hs
  exact faithful_of_mem_pieces hpiece

theorem flatMap_pieces_eq_nil_iff (segments : List String) :
    segments.flatMap pieces = [] ↔ segments = [] := by
  cases segments with
  | nil => exact ⟨fun _ => rfl, fun _ => rfl⟩
  | cons segment rest =>
    rw [List.flatMap_cons, List.append_eq_nil_iff]
    exact ⟨fun h => absurd h.1 (pieces_ne_nil segment), nofun⟩

theorem split_join_pieces {segments : List String} (hne : segments ≠ [])
    (hfull : "" ∉ segments.flatMap pieces) :
    split (join segments) = .ok (segments.flatMap pieces) := by
  rw [← join_flatMap_pieces]
  refine split_join_of_faithful ?_ (faithful_flatMap_pieces segments) hfull
  exact fun h => hne ((flatMap_pieces_eq_nil_iff segments).mp h)

theorem split_join_refused {segments : List String}
    (h : ¬(segments ≠ [] ∧ "" ∉ segments.flatMap pieces)) :
    ∃ e, split (join segments) = .error e := by
  rw [← join_flatMap_pieces]
  refine split_join_error (faithful_flatMap_pieces segments) ?_
  rw [flatMap_pieces_eq_nil_iff]
  tauto

theorem eq_pieces_of_split_join {segments segments' : List String}
    (h : split (join segments) = .ok segments') :
    segments ≠ [] ∧ "" ∉ segments.flatMap pieces ∧ segments' = segments.flatMap pieces := by
  by_cases hq : segments ≠ [] ∧ "" ∉ segments.flatMap pieces
  · rw [split_join_pieces hq.1 hq.2] at h
    exact ⟨hq.1, hq.2, (Except.ok.inj h).symm⟩
  · obtain ⟨e, he⟩ := split_join_refused hq
    rw [he] at h
    cases h

theorem split_join_self_iff (segments : List String) :
    split (join segments) = .ok segments ↔
      segments ≠ [] ∧ "" ∉ segments ∧ ∀ s ∈ segments, '.' ∈ s.toList → HasEscapable s := by
  constructor
  · intro h
    obtain ⟨hne, hfull, hpieces⟩ := eq_pieces_of_split_join h
    have hf := faithful_flatMap_pieces segments
    rw [← hpieces] at hfull hf
    exact ⟨hne, hfull, hf⟩
  · rintro ⟨hne, hfull, hf⟩
    exact split_join_of_faithful hne hf hfull

/-- Joined segments are split into their pieces if there are any and none is empty, and refused
otherwise. So they are read back exactly if there is at least one, none is empty and those with dots
hold a quote or a backslash as well. -/
theorem split_join (segments : List String) :
    (split (join segments) = .ok (segments.flatMap pieces) ↔
      segments ≠ [] ∧ "" ∉ segments.flatMap pieces) ∧
    ((∃ e, split (join segments) = .error e) ↔
      ¬(segments ≠ [] ∧ "" ∉ segments.flatMap pieces)) ∧
    (split (join segments) = .ok segments ↔
      segments ≠ [] ∧ "" ∉ segments ∧ ∀ s ∈ segments, '.' ∈ s.toList → HasEscapable s) := by
  refine ⟨⟨fun h => ?_, fun h => split_join_pieces h.1 h.2⟩, ⟨?_, split_join_refused⟩,
    split_join_self_iff segments⟩
  · obtain ⟨hne, hfull, -⟩ := eq_pieces_of_split_join h
    exact ⟨hne, hfull⟩
  · rintro ⟨e, he⟩ ⟨hne, hfull⟩
    rw [split_join_pieces hne hfull] at he
    cases he

end Sift.Path
