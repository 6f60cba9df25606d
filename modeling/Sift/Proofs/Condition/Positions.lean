import Sift.Proofs.Condition.Presence
import Sift.Proofs.Condition.Quantifier
import Sift.Proofs.Cursor.Lookup
import Sift.Proofs.Pattern.Plain

/-!
# Elements by position

An element can be asked about at an index of what is stepped through, as a character, or as the field at
the index in decimal; the number of elements is asked for by the name of a length or of a size. The
three ways differ in when they look whether there is such an element, but they come to the same cursor
or to none: on a string the views do (`View.cursor?_character`, `View.cursor?_length`), and below a path
the field at the index is the element there (`Cursor.follow_index`). `isMatch_positions_agree` states it
for the keys, errors included.
-/

namespace Sift

/-! ## Views of a string -/

theorem Sequence.elementAt_indices (n i : Nat) :
    elementAt ((List.range n).map ElementStep.index) i = if i < n then some (.index i) else none := by
  rw [elementAt, List.getElem?_map]
  by_cases hi : i < n
  · rw [List.getElem?_range hi, if_pos hi]
    rfl
  · rw [List.getElem?_eq_none (by rw [List.length_range]; omega), if_neg hi]
    rfl

namespace View

variable {c : Cursor}

/-- Where indices are stepped through, the element at an index is there if the index is below their
number. -/
theorem cursor?_element {target : Target} (htarget : c.node.target = .ok (some target)) {n : Nat}
    (hsteps : target.steps = (List.range n).map .index) (i : Nat) :
    (View.element i).cursor? c = if i < n then (c.element i).map some else .ok none := by
  have helement := Sequence.elementAt_indices n i
  rw [← hsteps] at helement
  by_cases hi : i < n
  · rw [if_pos hi] at helement ⊢
    simp only [cursor?, htarget, bind, Except.bind, helement]
    rfl
  · rw [if_neg hi] at helement ⊢
    simp only [cursor?, htarget, bind, Except.bind, helement]
    rfl

section
variable {s : String} (hnode : c.node = .value (.string s))
include hnode

theorem cursor?_character (i : Nat) :
    (View.character i).cursor? c = (View.element i).cursor? c := by
  have htarget : c.node.target = .ok (some (.string s)) := by
    rw [hnode]
    rfl
  rw [cursor?_element htarget rfl]
  simp only [cursor?, hnode]
  rfl

theorem cursor?_length : View.length.cursor? c = View.size.cursor? c := by
  simp only [cursor?, hnode]
  rfl

end

theorem thenTest_congr {view view' : View} (h : view.cursor? c = view'.cursor? c) (t : Test) :
    view.thenTest t c = view'.thenTest t c := by
  unfold thenTest
  rw [h]

end View

namespace Condition

variable [Pattern.Engine] {key : String} {form : OperandForm}

theorem resultAt_indexedView {view : Nat → View} (hkey : Keyword.ofKey? key = some ⟨form, false⟩)
    (hview : form.viewAt? = some view) (c : Cursor) (i : Nat) (source : Json) :
    resultAt c (.single key (.array [.ofNat i, source])) =
      ofJson source >>= fun condition => ((view i).thenTest condition.test c).result := by
  have hindex : Operator.indexOf key (.ofNat i) = .ok i := rfl
  rw [resultAt_operator hkey, Operator.ofMember_indexed hkey hview, hindex]
  cases ofJson source <;> rfl

section
variable {c : Cursor} {s : String} (hnode : c.node = .value (.string s)) (source : Json)
include hnode

theorem resultAt_character (i : Nat) :
    resultAt c (.single "$charAt" (.array [.ofNat i, source])) =
      resultAt c (.single "$elementAt" (.array [.ofNat i, source])) := by
  have hcharacter : Keyword.ofKey? "$charAt" = some ⟨.character, false⟩ := rfl
  have helement : Keyword.ofKey? "$elementAt" = some ⟨.element, false⟩ := rfl
  rw [resultAt_indexedView hcharacter rfl, resultAt_indexedView helement rfl]
  congr 1
  funext condition
  rw [View.thenTest_congr (View.cursor?_character hnode i)]

theorem resultAt_length :
    resultAt c (.single "$length" source) = resultAt c (.single "$size" source) := by
  have hlength : Keyword.ofKey? "$length" = some ⟨.within .length, false⟩ := rfl
  have hsize : Keyword.ofKey? "$size" = some ⟨.within .size, false⟩ := rfl
  rw [resultAt_condition hlength rfl, resultAt_condition hsize rfl]
  congr 1
  funext condition
  rw [Operator.test, Operator.test, View.thenTest_congr (View.cursor?_length hnode)]

end

end Condition

/-! ## The field at an index -/

namespace Path

theorem isDigit_of_mem_index {i : Nat} {c : Char} (h : c ∈ (toString i).toList) :
    c.isDigit = true := by
  rw [Json.toList_index] at h
  exact Nat.isDigit_of_mem_toDigits (by decide) (by decide) h

theorem isBare_of_isDigit {c : Char} (h : c.isDigit = true) : IsBare c := by
  refine ⟨?_, ?_, ?_, ?_⟩ <;>
  · rintro rfl
    cases h

theorem split_index (i : Nat) : split (toString i) = .ok [toString i] := by
  have hne : (toString i).toList ≠ [] := by
    rw [Json.toList_index]
    exact Nat.toDigits_ne_nil
  have hspells := Spells.one (.bare hne fun c hc => isBare_of_isDigit (isDigit_of_mem_index hc))
  rw [String.ofList_toList] at hspells
  exact split_eq_ok_iff.mpr hspells

theorem isField_index (i : Nat) : IsField (toString i) where
  valid := ⟨[toString i], split_index i⟩
  not_reserved := by
    rw [isReservedKey, beq_eq_false_iff_ne]
    intro hhead
    have hdigit := isDigit_of_mem_index (List.mem_of_mem_head? hhead)
    cases hdigit
  not_root := by
    rintro ⟨rest, hrest⟩
    have hmem : '^' ∈ (toString i).toList := by
      rw [← hrest]
      exact List.mem_cons_self
    have hdigit := isDigit_of_mem_index hmem
    cases hdigit

end Path

namespace Cursor

variable {c d : Cursor}

theorem follow_index (c : Cursor) (i : Nat) : c.follow (toString i) = c.step (toString i) := by
  have hroot := (Path.isField_index i).not_root
  rw [follow_of_isValid (Path.split_index i) hroot]
  unfold descend
  rw [List.foldlM_cons]
  exact bind_pure (c.step (toString i))

theorem step_index {elements : List Json} (hnode : c.node = .value (.array elements)) (i : Nat) :
    c.step (toString i) = .ok (.child c (toString i) (.ofOption elements[i]?)) := by
  have hpresent : c.isPresent = true := by
    rw [isPresent, hnode]
    rfl
  rw [step, if_pos hpresent, field, hnode]
  simp only [Node.field?, index?_eq_numeral?, Json.numeral?_toString]
  rfl

end Cursor

/-! ## Below a path -/

namespace View

variable {c : Cursor} (i : Nat) (t : Test)

/-- An element of an array is tested as the field at its index is. -/
theorem thenTest_element_array {elements : List Json} (hnode : c.node = .value (.array elements)) :
    (View.element i).thenTest t c =
      Test.ofField none t (.child c (toString i) (.ofOption elements[i]?)) := by
  have htarget : c.node.target = .ok (some (.array elements)) := by
    rw [hnode]
    rfl
  have hpresent := Cursor.isPresent_of_target htarget
  unfold thenTest
  rw [cursor?_element htarget rfl]
  by_cases hi : i < elements.length
  · have helement : c.element i = .ok (.child c (toString i) (.ofOption elements[i]?)) := by
      rw [Cursor.element, if_pos hpresent, hnode]
      rfl
    rw [if_pos hi, helement, List.getElem?_eq_getElem hi]
    rfl
  · have hnone : elements[i]? = none := List.getElem?_eq_none (Nat.le_of_not_lt hi)
    rw [if_neg hi, hnone]
    rfl

theorem thenTest_element_nullish (hnullish : c.node.isNullish = true) :
    (View.element i).thenTest t c = pure false := by
  unfold thenTest
  cases hnode : c.node with
  | absent =>
    simp only [cursor?, hnode]
    rfl
  | value v =>
    rw [hnode] at hnullish
    cases v with
    | null =>
      simp only [cursor?, hnode]
      rfl
    | _ => cases hnullish
  | _ =>
    rw [hnode] at hnullish
    cases hnullish

end View

namespace FieldClause

theorem resultFrom_of_get?_none [Pattern.Engine] {source : Json} (hfree : source.get? "$exists" = none) (name : String)
    (place : Except Error Cursor) :
    resultFrom name place source =
      Condition.ofJson source >>= fun condition =>
        place >>= fun c => (Test.ofField none condition.test c).result := by
  have hexpected : expectationOf source = .ok none := by
    rw [expectationOf, hfree]
  unfold resultFrom
  rw [ofMember, hexpected]
  cases Condition.ofJson source <;> rfl

end FieldClause

/-- The field at an index is asked what the element there is asked, where there are elements or
nothing. -/
theorem Test.result_ofField_index {d : Cursor}
    (hd : d.node.isNullish = true ∨ ∃ elements, d.node = .value (.array elements)) (i : Nat)
    (condition : Condition) :
    (d.step (toString i) >>= fun e => (Test.ofField none condition.test e).result) =
      (Test.ofField none (Condition.ofOperator (.within (.element i) condition)).test d).result := by
  obtain hnullish | ⟨elements, hnode⟩ := hd
  · rw [Cursor.step_of_isNullish hnullish]
    change (Test.ofField none condition.test (.child d (toString i) .absent)).result = _
    rw [Test.result_ofField_missing none condition.test rfl]
    by_cases hd : d.isPresent = true
    · rw [Test.result_ofField_none _ hd, Condition.result_ofOperator, Operator.test,
        View.thenTest_element_nullish i condition.test hnullish]
      rfl
    · rw [Test.result_ofField_missing _ _ (Bool.eq_false_iff.mpr hd)]
  · have hd : d.isPresent = true := by
      rw [Cursor.isPresent, hnode]
      rfl
    rw [Cursor.step_index hnode, Test.result_ofField_none _ hd, Condition.result_ofOperator,
      Operator.test, View.thenTest_element_array i condition.test hnode]
    rfl

/-- A path that leads somewhere leads there from a node that may have fields. -/
theorem Cursor.fieldAt_of_follow {p : String} (hp : Path.IsField p) {c d : Cursor}
    (hfollow : c.follow p = .ok d) (q : String) : c.fieldAt q = c.follow q := by
  have haccepts : c.node.acceptsFields = true := by
    refine Bool.of_not_eq_false fun h => ?_
    obtain ⟨e, he⟩ := follow_of_not_acceptsFields h hp.valid hp.not_root
    rw [hfollow] at he
    cases he
  rw [fieldAt, if_pos haccepts]

theorem Condition.ofJson_elementAt [Pattern.Engine] (i : Nat) (source : Json) :
    ofJson (.single "$elementAt" (.array [.ofNat i, source])) =
      (ofJson source).map fun condition => ofOperator (.within (.element i) condition) := by
  have helement : Keyword.ofKey? "$elementAt" = some ⟨.element, false⟩ := rfl
  have hindex : Operator.indexOf "$elementAt" (.ofNat i) = .ok i := rfl
  rw [ofJson_operator helement, Operator.ofMember_indexed helement rfl, hindex]
  cases ofJson source <;> rfl

/-- On a string a character is the element at its index, and the length is the size. Where a path leads
to an array, to null or to nothing, the field at an index is the element there, unless its presence is
what is asked about. Each time the two conditions have one result, or fail with one error. -/
theorem isMatch_positions_agree [Pattern.Engine] :
    (∀ (c : Cursor) (s : String), c.node = .value (.string s) → ∀ source : Json,
      (∀ i : Nat, Condition.resultAt c (.single "$charAt" (.array [.ofNat i, source])) =
        Condition.resultAt c (.single "$elementAt" (.array [.ofNat i, source]))) ∧
      Condition.resultAt c (.single "$length" source) =
        Condition.resultAt c (.single "$size" source)) ∧
    ∀ (v : Json) (p : String) (d : Cursor), Path.IsField p →
      (Cursor.root (.value v)).follow p = .ok d →
      (d.node.isNullish = true ∨ ∃ elements, d.node = .value (.array elements)) →
      ∀ (i : Nat) (source : Json), source.get? "$exists" = none →
        (isMatch v (.single (p ++ "." ++ toString i) source)).result =
          (isMatch v (.single p (.single "$elementAt" (.array [.ofNat i, source])))).result := by
  constructor
  · intro c s hnode source
    exact ⟨Condition.resultAt_character hnode source, Condition.resultAt_length hnode source⟩
  · intro v p d hp hfollow hd i source hfree
    have hi := Path.isField_index i
    have hplace : (Cursor.root (.value v)).fieldAt (p ++ "." ++ toString i) =
        d.step (toString i) := by
      rw [Cursor.fieldAt_of_follow hp hfollow,
        Cursor.follow_dot hp.valid hi.valid hp.not_root hi.not_root, hfollow]
      exact Cursor.follow_index d i
    rw [result_isMatch_field v (hp.dot hi).not_reserved, result_isMatch_field v hp.not_reserved,
      hplace, Cursor.fieldAt_of_follow hp hfollow, hfollow,
      FieldClause.resultFrom_of_get?_none hfree, FieldClause.resultFrom_of_get?_none rfl,
      Condition.ofJson_elementAt]
    cases Condition.ofJson source with
    | error e => rfl
    | ok condition => exact Test.result_ofField_index hd i condition

section
attribute [local instance] Pattern.Engine.plain

/-- The first reference climbs above the root, from a character as from an element. The second one climbs
from the field at an index to the field beside the array, and there is no third element. -/
theorem isMatch_positions_agree_climb :
    (Cursor.root (.value (.string "é!"))).node = .value (.string "é!") ∧
    Condition.resultAt (.root (.value (.string "é!"))) (.single "$charAt"
      (.array [.ofNat 0, .single "$eq" (.single "$field" (.string "../../a"))])) =
        .error (.navigation .noParent "") ∧
    Condition.resultAt (.root (.value (.string "é!"))) (.single "$length" (.ofNat 2)) = .ok true ∧
    Path.IsField "a.b" ∧
    (Cursor.root (.value (.object [⟨"a", .object [⟨"b", .array [.ofNat 1, .ofNat 2]⟩,
      ⟨"max", .ofNat 2⟩]⟩]))).follow "a.b" =
        .ok (.child (.child (.root (.value (.object [⟨"a", .object [⟨"b",
          .array [.ofNat 1, .ofNat 2]⟩, ⟨"max", .ofNat 2⟩]⟩]))) "a" (.value (.object [⟨"b",
          .array [.ofNat 1, .ofNat 2]⟩, ⟨"max", .ofNat 2⟩]))) "b"
          (.value (.array [.ofNat 1, .ofNat 2]))) ∧
    (isMatch (.object [⟨"a", .object [⟨"b", .array [.ofNat 1, .ofNat 2]⟩, ⟨"max", .ofNat 2⟩]⟩])
      (.single ("a.b" ++ "." ++ toString 0)
        (.single "$lt" (.single "$field" (.string "../../max"))))).result = .ok true ∧
    (isMatch (.object [⟨"a", .object [⟨"b", .array [.ofNat 1, .ofNat 2]⟩, ⟨"max", .ofNat 2⟩]⟩])
      (.single ("a.b" ++ "." ++ toString 2) .null)).result = .ok false := by
  have hnode : (Cursor.root (.value (.string "é!"))).node = .value (.string "é!") := rfl
  have hp : Path.IsField "a.b" := ⟨⟨["a", "b"], rfl⟩, rfl, by decide⟩
  have hfollow : (Cursor.root (.value (.object [⟨"a", .object [⟨"b",
      .array [.ofNat 1, .ofNat 2]⟩, ⟨"max", .ofNat 2⟩]⟩]))).follow "a.b" =
        .ok (.child (.child (.root (.value (.object [⟨"a", .object [⟨"b",
          .array [.ofNat 1, .ofNat 2]⟩, ⟨"max", .ofNat 2⟩]⟩]))) "a" (.value (.object [⟨"b",
          .array [.ofNat 1, .ofNat 2]⟩, ⟨"max", .ofNat 2⟩]))) "b"
          (.value (.array [.ofNat 1, .ofNat 2]))) := rfl
  obtain ⟨hstring, hbelow⟩ := isMatch_positions_agree
  have hpositions := hbelow _ _ _ hp hfollow (.inr ⟨_, rfl⟩)
  refine ⟨hnode, ?_, ?_, hp, hfollow, ?_, ?_⟩
  · rw [(hstring _ _ hnode _).1]
    rfl
  · rw [(hstring _ _ hnode _).2]
    rfl
  · rw [hpositions 0 _ rfl]
    rfl
  · rw [hpositions 2 _ rfl]
    rfl

end

end Sift
