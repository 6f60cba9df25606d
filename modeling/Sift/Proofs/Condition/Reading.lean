import Sift.Condition.Reader

/-!
# Reading conditions, part by part

`Condition.ofJson` walks the members of objects and the elements of arrays. Each such walk is
`List.mapM` of the reading of one part, so that readings can be compared part by part. A reading
looks at a part through its own member only, except that the clause of a field also looks up
`$exists` in its condition (`FieldClause.expectationOf_replace`).

Operators are read by the shape of their operands: `Operator.ofMember_scalar` and its siblings. The
keys of each shape are listed (`Keyword.scalarKeys` and its siblings).
-/

namespace Sift

/-! ## Walks -/

section
variable [Pattern.Engine]

def Clause.ofMember (m : Member) : Except Error Clause :=
  if isReservedKey m.key then (Operator.ofMember m).map .operator
  else (FieldClause.ofMember m).map .field

theorem Clause.ofMembers_eq_mapM (members : List Member) :
    Clause.ofMembers members = members.mapM Clause.ofMember := by
  induction members with
  | nil => rfl
  | cons m rest ih =>
    rw [Clause.ofMembers, ih, List.mapM_cons, Clause.ofMember]
    cases isReservedKey m.key <;> rfl

theorem Condition.ofElements_eq_mapM (elements : List Json) :
    Condition.ofElements elements = elements.mapM Condition.ofJson := by
  induction elements with
  | nil => rfl
  | cons v rest ih => rw [Condition.ofElements, ih, List.mapM_cons]

theorem FieldClause.ofMembers_eq_mapM (members : List Member) :
    FieldClause.ofMembers members = members.mapM FieldClause.ofMember := by
  induction members with
  | nil => rfl
  | cons m rest ih => rw [FieldClause.ofMembers, ih, List.mapM_cons]

theorem Condition.ofJson_object (members : List Member) :
    Condition.ofJson (.object members) = (members.mapM Clause.ofMember).map .clauses := by
  rw [Condition.ofJson, Clause.ofMembers_eq_mapM]

end

/-! ## Expectations -/

theorem Member.lookup_replace {key name : String} (h : key ≠ name) (before after : List Member)
    (x x' : Json) :
    Member.lookup name (before ++ ⟨key, x⟩ :: after) =
      Member.lookup name (before ++ ⟨key, x'⟩ :: after) := by
  induction before with
  | nil =>
    rw [List.nil_append, List.nil_append, Member.lookup, Member.lookup, if_neg h, if_neg h]
  | cons m rest ih => rw [List.cons_append, List.cons_append, Member.lookup, Member.lookup, ih]

theorem FieldClause.expectationOf_replace {key : String} (h : key ≠ "$exists")
    (before after : List Member) (x x' : Json) :
    FieldClause.expectationOf (.object (before ++ ⟨key, x⟩ :: after)) =
      FieldClause.expectationOf (.object (before ++ ⟨key, x'⟩ :: after)) := by
  simp only [FieldClause.expectationOf, Json.get?]
  rw [Member.lookup_replace h before after x x']

/-! ## Operators by the shape of their operands -/

namespace OperandForm

def ofCondition? : OperandForm → Option (Condition → Operator)
  | .not => some .not
  | .within view => some (.within view)
  | .quantified quantifier => some (.quantified quantifier)
  | _ => none

def ofList? : OperandForm → Option (ListOperand → Operator)
  | .isIn => some .isIn
  | .containment test => some (.containment test)
  | _ => none

/-- What an index leads to, if the operand is an index with a condition. -/
def viewAt? : OperandForm → Option (Nat → View)
  | .character => some .character
  | .element => some .element
  | _ => none

end OperandForm

namespace Operator

variable [Pattern.Engine] {key : String} {form : OperandForm} {negated : Bool}

theorem ofMember_scalar {test : ScalarTest}
    (hkey : Keyword.ofKey? key = some ⟨.scalar test, negated⟩) (v : Json) :
    ofMember ⟨key, v⟩ = ((Operand.ofJson v).map (.scalar test)).map (signed negated) := by
  unfold ofMember
  rw [hkey]

theorem ofMember_list {make : ListOperand → Operator}
    (hkey : Keyword.ofKey? key = some ⟨form, negated⟩) (hmake : form.ofList? = some make)
    (v : Json) :
    ofMember ⟨key, v⟩ = ((ListOperand.ofJson key v).map make).map (signed negated) := by
  unfold ofMember
  rw [hkey]
  cases form <;> cases hmake <;> rfl

theorem ofMember_branches {connective : Connective}
    (hkey : Keyword.ofKey? key = some ⟨.branches connective, negated⟩) (elements : List Json) :
    ofMember ⟨key, .array elements⟩ =
      ((elements.mapM Condition.ofJson).map (.branches connective)).map (signed negated) := by
  unfold ofMember
  rw [hkey, ← Condition.ofElements_eq_mapM]

theorem ofMember_condition {make : Condition → Operator}
    (hkey : Keyword.ofKey? key = some ⟨form, negated⟩) (hmake : form.ofCondition? = some make)
    (v : Json) :
    ofMember ⟨key, v⟩ = ((Condition.ofJson v).map make).map (signed negated) := by
  unfold ofMember
  rw [hkey]
  cases form <;> cases hmake <;> rfl

theorem ofMember_indexed {view : Nat → View}
    (hkey : Keyword.ofKey? key = some ⟨form, negated⟩) (hview : form.viewAt? = some view)
    (index v : Json) :
    ofMember ⟨key, .array [index, v]⟩ =
      ((indexOf key index).bind fun i =>
        (Condition.ofJson v).map (.within (view i))).map (signed negated) := by
  unfold ofMember
  rw [hkey]
  cases form <;> cases hview <;> rfl

theorem ofMember_typed (name : String) (v : Json) :
    ofMember ⟨"$type", .array [.string name, v]⟩ =
      ((TypeTag.ofName name).bind fun tag =>
        (Condition.ofJson v).map (.within (.typed tag))).map (signed false) := by
  unfold ofMember
  rfl

theorem ofMember_present (expected : Bool) :
    ofMember ⟨"$exists", .bool expected⟩ = .ok (.present expected) := by
  unfold ofMember
  rfl

theorem bool_of_ofMember {v : Json} {op : Operator} (h : ofMember ⟨"$exists", v⟩ = .ok op) :
    ∃ expected, v = .bool expected := by
  unfold ofMember at h
  cases v with
  | bool expected => exact ⟨expected, rfl⟩
  | _ => cases h

theorem ofMember_entries (members : List Member) :
    ofMember ⟨"$indexEntries", .object members⟩ =
      ((members.mapM FieldClause.ofMember).map .entries).map (signed false) := by
  unfold ofMember
  rw [← FieldClause.ofMembers_eq_mapM]
  rfl

end Operator

/-! ## Keys by the shape of their operands -/

namespace Keyword

def scalarKeys : List String :=
  ["$eq", "$ne", "$gt", "$gte", "$lt", "$lte", "$eqi", "$contains", "$startsWith", "$endsWith"]

def listKeys : List String :=
  ["$in", "$nin", "$containsAll", "$containsSame", "$containsSome", "$containsNone"]

def branchKeys : List String :=
  ["$and", "$or", "$nor"]

def conditionKeys : List String :=
  ["$not", "$indexAsArray", "$key", "$value", "$length", "$size", "$allMatch", "$someMatch",
    "$singleMatch", "$noneMatch"]

def indexedKeys : List String :=
  ["$charAt", "$elementAt"]

theorem ofKey?_scalar {key : String} (h : key ∈ scalarKeys) :
    ∃ test negated, ofKey? key = some ⟨.scalar test, negated⟩ := by
  simp only [scalarKeys, List.mem_cons, List.not_mem_nil, or_false] at h
  obtain rfl | rfl | rfl | rfl | rfl | rfl | rfl | rfl | rfl | rfl := h <;> exact ⟨_, _, rfl⟩

theorem ofKey?_list {key : String} (h : key ∈ listKeys) :
    ∃ form negated make, ofKey? key = some ⟨form, negated⟩ ∧ form.ofList? = some make := by
  simp only [listKeys, List.mem_cons, List.not_mem_nil, or_false] at h
  obtain rfl | rfl | rfl | rfl | rfl | rfl := h <;> exact ⟨_, _, _, rfl, rfl⟩

theorem ofKey?_branches {key : String} (h : key ∈ branchKeys) :
    ∃ connective negated, ofKey? key = some ⟨.branches connective, negated⟩ := by
  simp only [branchKeys, List.mem_cons, List.not_mem_nil, or_false] at h
  obtain rfl | rfl | rfl := h <;> exact ⟨_, _, rfl⟩

theorem ofKey?_condition {key : String} (h : key ∈ conditionKeys) :
    ∃ form negated make, ofKey? key = some ⟨form, negated⟩ ∧ form.ofCondition? = some make := by
  simp only [conditionKeys, List.mem_cons, List.not_mem_nil, or_false] at h
  obtain rfl | rfl | rfl | rfl | rfl | rfl | rfl | rfl | rfl | rfl := h <;>
    exact ⟨_, _, _, rfl, rfl⟩

theorem ofKey?_indexed {key : String} (h : key ∈ indexedKeys) :
    ∃ form negated view, ofKey? key = some ⟨form, negated⟩ ∧ form.viewAt? = some view := by
  simp only [indexedKeys, List.mem_cons, List.not_mem_nil, or_false] at h
  obtain rfl | rfl := h <;> exact ⟨_, _, _, rfl, rfl⟩

theorem isReservedKey_of_ofKey? {key : String} {keyword : Keyword} (h : ofKey? key = some keyword) :
    isReservedKey key = true := by
  unfold ofKey? at h
  split at h
  all_goals first | rfl | cases h

end Keyword

/-! ## Clauses -/

section
variable [Pattern.Engine]

theorem Clause.ofMember_field {name : String} (h : isReservedKey name = false) (v : Json) :
    Clause.ofMember ⟨name, v⟩ = (FieldClause.ofMember ⟨name, v⟩).map .field := by
  unfold Clause.ofMember
  rw [h]
  rfl

theorem Clause.ofMember_operator {key : String} {keyword : Keyword}
    (h : Keyword.ofKey? key = some keyword) (v : Json) :
    Clause.ofMember ⟨key, v⟩ = (Operator.ofMember ⟨key, v⟩).map .operator := by
  unfold Clause.ofMember
  rw [Keyword.isReservedKey_of_ofKey? h]
  rfl

end

/-! ## Induction along a reading -/

/-- `P` holds of a value, of its elements if it is an array, and of the values of its members if it
is an object: of all that an operator reads in its operand. -/
structure Json.WithParts (P : Json → Prop) (v : Json) : Prop where
  self : P v
  element : ∀ elements, v = .array elements → ∀ w ∈ elements, P w
  member : ∀ members, v = .object members → ∀ m ∈ members, P m.value

/-- What holds of every literal, and of an object as soon as it holds of what its clauses read,
holds of every value and its parts. -/
theorem Json.withParts {P : Json → Prop} (literal : ∀ v, (∀ members, v ≠ .object members) → P v)
    (object : ∀ members, (∀ m ∈ members, m.value.WithParts P) → P (.object members)) (v : Json) :
    v.WithParts P :=
  have scalar (v : Json) (harray : ∀ elements, v ≠ .array elements)
      (hobject : ∀ members, v ≠ .object members) : v.WithParts P :=
    ⟨literal v hobject, fun _ h => absurd h (harray _), fun _ h => absurd h (hobject _)⟩
  @Json.rec (fun v => v.WithParts P) (fun m => m.value.WithParts P)
    (fun elements => ∀ v ∈ elements, v.WithParts P)
    (fun members => ∀ m ∈ members, m.value.WithParts P)
    (scalar _ nofun nofun) (fun _ => scalar _ nofun nofun) (fun _ => scalar _ nofun nofun)
    (fun _ => scalar _ nofun nofun)
    (fun _ ih => ⟨literal _ nofun, fun _ h w hw => by cases h; exact (ih w hw).self, nofun⟩)
    (fun members ih =>
      ⟨object members ih, nofun, fun _ h m hm => by cases h; exact (ih m hm).self⟩)
    (fun _ _ ih => ih)
    nofun (fun _ _ h hs => List.forall_mem_cons.mpr ⟨h, hs⟩)
    nofun (fun _ _ h hs => List.forall_mem_cons.mpr ⟨h, hs⟩)
    v

end Sift
