import Sift.Proofs.Condition.Reading
import Sift.Proofs.Confinement
import Sift.Proofs.Error

/-!
# How reading fails

What keeps a condition from being read is an unknown operator or an operand that does not suit its
operator, wherever it stands in the condition (`Condition.failsOnly_ofJson`).
-/

namespace Sift

/-! ## Operands -/

theorem Reference.failsOnly_detect (v : Json) : FailsOnly Error.OfReading (detect v) := by
  unfold detect
  split
  · exact .ok none
  · split
    · exact .error (.invalidOperand _)
    · exact .ok _
  · exact .error (.invalidOperand _)

theorem Operand.failsOnly_ofJson (v : Json) : FailsOnly Error.OfReading (ofJson v) := by
  refine (Reference.failsOnly_detect v).bind fun r _ => ?_
  cases r with
  | none => exact .ok _
  | some r => exact .ok _

theorem ListOperand.failsOnly_ofJson (operator : String) (v : Json) :
    FailsOnly Error.OfReading (ofJson operator v) := by
  refine (Reference.failsOnly_detect v).bind fun r _ => ?_
  cases r with
  | some r => exact .ok _
  | none =>
    dsimp only
    split
    · exact (FailsOnly.mapM fun w _ => Operand.failsOnly_ofJson w).bind fun _ _ => .ok _
    · exact .error (.invalidOperand _)

theorem TypeTag.failsOnly_ofName (name : String) : FailsOnly Error.OfReading (ofName name) := by
  unfold ofName
  split
  case h_5 => exact .error (.invalidOperand _)
  all_goals exact .ok _

theorem Operator.failsOnly_indexOf (operator : String) (v : Json) :
    FailsOnly Error.OfReading (indexOf operator v) := by
  unfold indexOf
  dsimp only
  split
  · exact .ok _
  · exact .error (.invalidOperand _)

theorem FieldClause.failsOnly_expectationOf (v : Json) :
    FailsOnly Error.OfReading (expectationOf v) := by
  unfold expectationOf
  split
  · exact .ok _
  · exact .ok _
  · exact .error (.invalidOperand _)

theorem Pattern.Expression.failsOnly_ofJson [Engine] (v : Json) :
    FailsOnly Error.OfReading (ofJson v) := by
  unfold ofJson
  split
  next => exact .error (.invalidOperand _)
  next source flags _ =>
    have hflag : ∀ (modes : Modes) (flag : Char), FailsOnly Error.OfReading (addFlag modes flag) := by
      intro modes flag
      unfold addFlag
      split
      case h_8 => exact .error (.invalidOperand _)
      all_goals exact .ok _
    refine (FailsOnly.foldlM (fun modes flag _ => hflag modes flag) Modes.initial).bind
      fun modes _ => ?_
    unfold ofSource
    split
    · exact .ok _
    · exact .error (.invalidOperand _)

/-! ## Conditions -/

variable [Pattern.Engine]

theorem FieldClause.failsOnly_ofMember {m : Member}
    (h : FailsOnly Error.OfReading (Condition.ofJson m.value)) :
    FailsOnly Error.OfReading (ofMember m) := by
  obtain ⟨name, v⟩ := m
  exact (failsOnly_expectationOf v).bind fun _ _ => h.bind fun _ _ => .ok _

theorem Operator.failsOnly_ofMember {m : Member}
    (h : m.value.WithParts fun w => FailsOnly Error.OfReading (Condition.ofJson w)) :
    FailsOnly Error.OfReading (ofMember m) := by
  obtain ⟨key, v⟩ := m
  unfold ofMember
  split
  next => exact .error (.unknownOperator key)
  next form negated _ =>
    refine FailsOnly.map ?_ (signed negated)
    cases form with
    | branches connective =>
      dsimp only
      split
      next elements =>
        rw [Condition.ofElements_eq_mapM]
        exact (FailsOnly.mapM (h.element elements rfl)).map _
      next => exact .ok _
    | not | within _ | quantified _ => exact h.self.map _
    | scalar test => exact (Operand.failsOnly_ofJson v).map _
    | isIn | containment _ => exact (ListOperand.failsOnly_ofJson key v).map _
    | type =>
      dsimp only
      split
      next name => exact (TypeTag.failsOnly_ofName name).map _
      next name nested =>
        have hnested := h.element _ rfl nested (List.mem_cons_of_mem _ List.mem_cons_self)
        exact (TypeTag.failsOnly_ofName name).bind fun tag _ => hnested.map _
      next => exact .error (.invalidOperand _)
      next => exact .error (.invalidOperand _)
    | present =>
      dsimp only
      split
      · exact .ok _
      · exact .error (.invalidOperand _)
    | entries =>
      dsimp only
      split
      next members =>
        rw [FieldClause.ofMembers_eq_mapM]
        exact (FailsOnly.mapM fun m hm =>
          FieldClause.failsOnly_ofMember (h.member members rfl m hm)).map _
      next => exact .error (.invalidOperand _)
    | pattern => exact (Pattern.Expression.failsOnly_ofJson v).map _
    | character | element =>
      dsimp only
      split
      next index nested =>
        have hnested := h.element _ rfl nested (List.mem_cons_of_mem _ List.mem_cons_self)
        exact (failsOnly_indexOf key index).bind fun i _ => hnested.map _
      next => exact .error (.invalidOperand _)

theorem Clause.failsOnly_ofMember {m : Member}
    (h : m.value.WithParts fun w => FailsOnly Error.OfReading (Condition.ofJson w)) :
    FailsOnly Error.OfReading (Clause.ofMember m) := by
  unfold Clause.ofMember
  split
  · exact (Operator.failsOnly_ofMember h).map _
  · exact (FieldClause.failsOnly_ofMember h.self).map _

theorem Condition.failsOnly_ofJson (v : Json) :
    FailsOnly Error.OfReading (Condition.ofJson v) := by
  refine (Json.withParts (P := fun v => FailsOnly Error.OfReading (Condition.ofJson v))
    (fun v hv => ?literal) (fun members ih => ?object) v).self
  case literal =>
    cases v with
    | object members => exact absurd rfl (hv members)
    | _ => exact .ok _
  case object =>
    rw [Condition.ofJson_object]
    exact (FailsOnly.mapM fun m hm => Clause.failsOnly_ofMember (ih m hm)).map _

end Sift
