import Sift.Node

/-!
# What stands for nothing

Where there is no value the text of a node is the word `undefined`, which is no text of a value:
strings are quoted, arrays, objects and views stand in brackets of their own, and a number is
written in digits and signs. So the word says that nothing is there (`Node.text_eq_undefined_iff`).
-/

namespace Sift

/-! ## Numbers -/

namespace Number

theorem u_not_mem_toString (n : Nat) : 'u' ∉ (toString n).toList := by
  intro h
  rw [Nat.toString_eq_ofList_toDigits, String.toList_ofList] at h
  have hdigit := Nat.isDigit_of_mem_toDigits (by decide) (by decide) h
  exact absurd hdigit (by decide)

end Number

namespace Double

variable {digits : String}

theorem u_not_mem_positional (h : 'u' ∉ digits.toList) (leading : Int) :
    'u' ∉ (positional digits leading).toList := by
  unfold positional
  split
  · simp [h]
  next k =>
    dsimp only
    split
    · simp [h]
    · simp [mt List.mem_of_mem_take h, mt List.mem_of_mem_drop h]

theorem u_not_mem_scientific (h : 'u' ∉ digits.toList) (leading : Int) :
    'u' ∉ (scientific digits leading).toList := by
  have hexponent := Number.u_not_mem_toString leading.natAbs
  have hsign : 'u' ∉ (if leading < 0 then "-" else "+" : String).toList := by
    split <;> decide
  unfold scientific
  split
  next d e rest hdigits =>
    rw [hdigits] at h
    simp only [String.toList_append, String.toList_ofList, List.mem_append, not_or]
    exact ⟨⟨⟨by simpa using h, by decide⟩, hsign⟩, hexponent⟩
  next =>
    simp only [String.toList_append, List.mem_append, not_or]
    exact ⟨⟨⟨h, by decide⟩, hsign⟩, hexponent⟩

theorem u_not_mem_text (x : Double) : 'u' ∉ x.text.toList := by
  have hmagnitude : 'u' ∉ (magnitudeText x.units).toList := by
    unfold magnitudeText
    split
    · decide
    · dsimp only
      split
      · exact u_not_mem_positional (Number.u_not_mem_toString _) _
      · exact u_not_mem_scientific (Number.u_not_mem_toString _) _
  unfold text
  split <;> simp [hmagnitude]

end Double

theorem Number.u_not_mem_text (n : Number) : 'u' ∉ n.text.toList := by
  cases n with
  | float x => exact x.u_not_mem_text
  | int n =>
    cases n with
    | ofNat n => exact u_not_mem_toString n
    | negSucc n =>
      have htext : (int (.negSucc n)).text = "-" ++ toString (n + 1) := rfl
      rw [htext, String.toList_append]
      simpa using u_not_mem_toString (n + 1)

/-! ## Values and nodes -/

theorem append_ne_undefined {opening : String} {c : Char} {cs : List Char}
    (h : opening.toList = c :: cs) (hc : c ≠ 'u') (rest : String) :
    opening ++ rest ≠ "undefined" := by
  intro heq
  have hlist := congrArg String.toList heq
  rw [String.toList_append, h] at hlist
  exact hc (List.head_eq_of_cons_eq hlist)

theorem Json.text_ne_undefined (v : Json) : v.text ≠ "undefined" := by
  have henclosed : ∀ (opening closing : String) (texts : List String) (c : Char) (cs : List Char),
      opening.toList = c :: cs → c ≠ 'u' → enclosed opening texts closing ≠ "undefined" := by
    intro opening closing texts c cs h hc
    rw [enclosed, String.append_assoc]
    exact append_ne_undefined h hc _
  cases v with
  | null => decide
  | bool b => cases b <;> decide
  | number n =>
    intro h
    have hu := n.u_not_mem_text
    rw [show n.text = "undefined" from h] at hu
    exact hu (by decide)
  | string s =>
    rw [text, quoted, String.append_assoc]
    exact append_ne_undefined rfl (by decide) _
  | array elements => exact henclosed _ _ _ _ _ rfl (by decide)
  | object members => exact henclosed _ _ _ _ _ rfl (by decide)

/-- The word is the text of the absent node only. -/
theorem Node.text_eq_undefined_iff (node : Node) :
    node.text = "undefined" ↔ node.isPresent = false := by
  cases node with
  | absent => exact iff_of_true rfl rfl
  | value v => exact iff_of_false v.text_ne_undefined nofun
  | entry m => exact iff_of_false m.toJson.text_ne_undefined nofun
  | indexed members =>
    refine iff_of_false ?_ nofun
    unfold text
    dsimp only
    rw [String.append_assoc]
    exact append_ne_undefined rfl (by decide) _

end Sift
