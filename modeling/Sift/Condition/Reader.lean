import Sift.Condition.Basic

/-!
# Reading conditions

`Condition.ofJson` reads the condition that a value stands for: an object holds clauses, any other
value is a literal. Keys that start with a dollar sign are operators and all others are paths of
fields. The members are read in their order, and the first error ends the reading; the operands of
connectives that are no arrays are never looked at.
-/

namespace Sift

/-- Whether a key is meant to be one of an operator, or one with a meaning in queries. -/
def isReservedKey (key : String) : Bool :=
  key.toList.head? == some '$'

/-- The expectation about its own presence that the condition on a field has. -/
def FieldClause.expectationOf (condition : Json) : Except Error (Option Bool) :=
  match condition.get? "$exists" with
  | none => .ok none
  | some (.bool expected) => .ok (some expected)
  | some found => .error (.invalidOperand (.notBoolean found))

def Operator.indexOf (operator : String) (v : Json) : Except Error Nat :=
  let index? := match v with
    | .number n => n.toNat?
    | _ => none
  match index? with
  | some i => .ok i
  | none => .error (.invalidOperand (.badIndex operator v))

/-- The operator, negated if its key says so. -/
def Operator.signed (negated : Bool) (op : Operator) : Operator :=
  if negated then .negated op else op

variable [Pattern.Engine]

mutual

def Condition.ofJson : Json → Except Error Condition
  | .object members => (Clause.ofMembers members).map .clauses
  | literal => .ok (.equals literal)

def Condition.ofElements : List Json → Except Error (List Condition)
  | [] => .ok []
  | v :: rest => do
    let condition ← Condition.ofJson v
    let conditions ← Condition.ofElements rest
    return condition :: conditions

def Clause.ofMembers : List Member → Except Error (List Clause)
  | [] => .ok []
  | m :: rest => do
    let clause ←
      if isReservedKey m.key then (Operator.ofMember m).map Clause.operator
      else (FieldClause.ofMember m).map Clause.field
    let clauses ← Clause.ofMembers rest
    return clause :: clauses

/-- The field clause that a member stands for, its key being the name. -/
def FieldClause.ofMember : Member → Except Error FieldClause
  | ⟨name, v⟩ => do
    let expected ← FieldClause.expectationOf v
    let condition ← Condition.ofJson v
    return ⟨name, expected, condition⟩

def FieldClause.ofMembers : List Member → Except Error (List FieldClause)
  | [] => .ok []
  | m :: rest => do
    let clause ← FieldClause.ofMember m
    let clauses ← FieldClause.ofMembers rest
    return clause :: clauses

/-- The operator that a member stands for: its key says which, its value is the operand. -/
def Operator.ofMember : Member → Except Error Operator
  | ⟨key, v⟩ =>
    match Keyword.ofKey? key with
    | none => .error (.unknownOperator key)
    | some ⟨form, negated⟩ =>
      let op : Except Error Operator :=
        match form with
        | .branches connective =>
          match v with
          | .array elements => (Condition.ofElements elements).map (.branches connective)
          | _ => .ok (.unbranched connective)
        | .not => (Condition.ofJson v).map .not
        | .scalar test => (Operand.ofJson v).map (.scalar test)
        | .isIn => (ListOperand.ofJson key v).map .isIn
        | .containment test => (ListOperand.ofJson key v).map (.containment test)
        | .type =>
          match v with
          | .string name => (TypeTag.ofName name).map .hasType
          | .array [.string name, nested] =>
            (TypeTag.ofName name).bind fun tag =>
              (Condition.ofJson nested).map (.within (.typed tag))
          | .array _ => .error (.invalidOperand (.notTypePair v))
          | _ => .error (.invalidOperand (.notTypeName v))
        | .present =>
          match v with
          | .bool expected => .ok (.present expected)
          | _ => .error (.invalidOperand (.notBoolean v))
        | .entries =>
          match v with
          | .object members => (FieldClause.ofMembers members).map .entries
          | _ => .error (.invalidOperand (.notObject v))
        | .pattern => (Pattern.Expression.ofJson v).map .pattern
        | .within view => (Condition.ofJson v).map (.within view)
        | .character =>
          match v with
          | .array [index, nested] =>
            (Operator.indexOf key index).bind fun i =>
              (Condition.ofJson nested).map (.within (.character i))
          | _ => .error (.invalidOperand (.notIndexed key v))
        | .element =>
          match v with
          | .array [index, nested] =>
            (Operator.indexOf key index).bind fun i =>
              (Condition.ofJson nested).map (.within (.element i))
          | _ => .error (.invalidOperand (.notIndexed key v))
        | .quantified quantifier => (Condition.ofJson v).map (.quantified quantifier)
      op.map (Operator.signed negated)

end

end Sift
