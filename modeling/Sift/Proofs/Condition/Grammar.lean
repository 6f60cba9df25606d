import Sift.Proofs.Condition.Reading
import Sift.Proofs.Json.WellFormed
import Sift.Proofs.Pattern.Flags

/-!
# The grammar of conditions

`Json.IsCondition` says which values are conditions, by the keys of their objects and the operands
that stand under them, without a word on how they are read; which sources of patterns compile is left to the engine. `Condition.ofJson_accepts_grammar` says
that these are the values that are read.

Each reader of an operand succeeds on the operands that the grammar allows (`Succeeds`); for nested
conditions that is the induction hypothesis, along `Json.withParts`.
-/

namespace Sift

/-! ## Success -/

section
variable {ε α β : Type} {x : Except ε α}

def Succeeds (x : Except ε α) : Prop :=
  ∃ a, x = .ok a

theorem succeeds_ok (a : α) : Succeeds (.ok a : Except ε α) :=
  ⟨a, rfl⟩

theorem not_succeeds_error (e : ε) : ¬Succeeds (.error e : Except ε α) := nofun

theorem succeeds_map_iff {f : α → β} : Succeeds (x.map f) ↔ Succeeds x := by
  cases x with
  | ok a => exact iff_of_true (succeeds_ok _) (succeeds_ok a)
  | error e => exact iff_of_false nofun nofun

theorem succeeds_bind_iff {f : α → Except ε β} :
    Succeeds (x >>= f) ↔ ∃ a, x = .ok a ∧ Succeeds (f a) := by
  cases x with
  | ok a => exact ⟨fun h => ⟨a, rfl, h⟩, fun ⟨_, ha, h⟩ => by cases ha; exact h⟩
  | error e => exact iff_of_false nofun nofun

theorem succeeds_mapM_iff {f : α → Except ε β} {items : List α} :
    Succeeds (items.mapM f) ↔ ∀ a ∈ items, Succeeds (f a) := by
  induction items with
  | nil => exact iff_of_true (succeeds_ok []) nofun
  | cons a rest ih =>
    rw [List.mapM_cons, List.forall_mem_cons, ← ih, succeeds_bind_iff]
    constructor
    · rintro ⟨b, hb, h⟩
      obtain ⟨bs, hbs, -⟩ := succeeds_bind_iff.mp h
      exact ⟨⟨b, hb⟩, ⟨bs, hbs⟩⟩
    · rintro ⟨⟨b, hb⟩, ⟨bs, hbs⟩⟩
      exact ⟨b, hb, succeeds_bind_iff.mpr ⟨bs, hbs, succeeds_ok _⟩⟩

end

/-! ## The grammar -/

/-- The value is a reference: its path is a text with at least one character. -/
def Json.IsReference (v : Json) : Prop :=
  ∃ path : String, v.get? Reference.key = some (.string path) ∧ path ≠ ""

/-- The value is an operand: a reference, or a value that does not look like one. -/
def Json.IsOperand (v : Json) : Prop :=
  v.get? Reference.key = none ∨ v.IsReference

def TypeTag.names : List String :=
  ["string", "number", "boolean", "bigint"]

section
variable [Pattern.Engine]

mutual

/-- The value is a condition: anything but an object, or an object of clauses. -/
inductive Json.IsCondition : Json → Prop where
  | literal {v : Json} (h : ∀ members, v ≠ .object members) : Json.IsCondition v
  | object {members : List Member} (h : ∀ m ∈ members, m.IsClause) :
      Json.IsCondition (.object members)

/-- The member is a clause: a condition under the name of a field, or an operand under the key of an
operator that it suits. -/
inductive Member.IsClause : Member → Prop where
  | field {name : String} {v : Json} (hname : ¬['$'] <+: name.toList) (h : v.IsCondition) :
      Member.IsClause ⟨name, v⟩
  | branches {key : String} {elements : List Json} (hkey : key ∈ Keyword.branchKeys)
      (h : ∀ v ∈ elements, v.IsCondition) : Member.IsClause ⟨key, .array elements⟩
  /-- Anything but an array stands for no conditions. -/
  | unbranched {key : String} {v : Json} (hkey : key ∈ Keyword.branchKeys)
      (h : ∀ elements, v ≠ .array elements) : Member.IsClause ⟨key, v⟩
  | condition {key : String} {v : Json} (hkey : key ∈ Keyword.conditionKeys)
      (h : v.IsCondition) : Member.IsClause ⟨key, v⟩
  | operand {key : String} {v : Json} (hkey : key ∈ Keyword.scalarKeys) (h : v.IsOperand) :
      Member.IsClause ⟨key, v⟩
  | items {key : String} {elements : List Json} (hkey : key ∈ Keyword.listKeys)
      (h : ∀ v ∈ elements, v.IsOperand) : Member.IsClause ⟨key, .array elements⟩
  | reference {key : String} {v : Json} (hkey : key ∈ Keyword.listKeys) (h : v.IsReference) :
      Member.IsClause ⟨key, v⟩
  | type {name : String} (h : name ∈ TypeTag.names) : Member.IsClause ⟨"$type", .string name⟩
  | typed {name : String} {v : Json} (hname : name ∈ TypeTag.names) (h : v.IsCondition) :
      Member.IsClause ⟨"$type", .array [.string name, v]⟩
  | present (expected : Bool) : Member.IsClause ⟨"$exists", .bool expected⟩
  /-- Conditions by keys, whatever the keys are. -/
  | entries {members : List Member} (h : ∀ m ∈ members, m.value.IsCondition) :
      Member.IsClause ⟨"$indexEntries", .object members⟩
  | indexed {key : String} {v : Json} (hkey : key ∈ Keyword.indexedKeys) (i : Nat)
      (h : v.IsCondition) : Member.IsClause ⟨key, .array [.ofNat i, v]⟩
  /-- A source that compiles, between slashes, with flags. -/
  | pattern {source flags : String}
      (hflags : ∀ flag ∈ flags.toList, flag ∈ Pattern.Expression.flagLetters)
      (hsource : Succeeds (Pattern.Engine.compile (.ofFlags flags.toList) source)) :
      Member.IsClause ⟨"$regexp", .string ("/" ++ source ++ "/" ++ flags)⟩

end

end

/-! ## Readers of operands -/

theorem Reference.detect_isOk_iff {v : Json} : Succeeds (detect v) ↔ v.IsOperand := by
  unfold detect Json.IsOperand Json.IsReference
  split
  next hnone => exact iff_of_true (succeeds_ok none) (.inl hnone)
  next path hfound =>
    split
    next hempty =>
      rw [String.isEmpty_iff] at hempty
      exact iff_of_false nofun (by simp [hfound, hempty])
    next hempty =>
      rw [String.isEmpty_iff] at hempty
      exact iff_of_true (succeeds_ok _) (.inr ⟨path, hfound, hempty⟩)
  next found hstring hfound =>
    refine iff_of_false nofun ?_
    rintro (hnone | ⟨path, hpath, -⟩)
    · cases hnone.symm.trans hfound
    · exact hstring path (Option.some.inj (hfound.symm.trans hpath))

theorem Operand.ofJson_isOk_iff {v : Json} : Succeeds (ofJson v) ↔ v.IsOperand := by
  rw [← Reference.detect_isOk_iff]
  unfold ofJson
  cases Reference.detect v with
  | error e => exact iff_of_false nofun nofun
  | ok r => cases r <;> exact iff_of_true (succeeds_ok _) (succeeds_ok _)

theorem Reference.isReference_of_detect {v : Json} {r : Reference} (h : detect v = .ok (some r)) :
    v.IsReference := by
  unfold detect at h
  split at h
  next => cases h
  next path hfound =>
    split at h
    next => cases h
    next hempty => exact ⟨path, hfound, String.isEmpty_iff.not.mp hempty⟩
  next => cases h

theorem Reference.detect_of_isReference {v : Json} (h : v.IsReference) :
    ∃ r, detect v = .ok (some r) := by
  obtain ⟨path, hfound, hne⟩ := h
  refine ⟨⟨path⟩, ?_⟩
  unfold detect
  rw [hfound]
  exact if_neg (String.isEmpty_iff.not.mpr hne)

theorem ListOperand.ofJson_isOk_iff {operator : String} {v : Json} :
    Succeeds (ofJson operator v) ↔
      v.IsReference ∨ ∃ elements, v = .array elements ∧ ∀ w ∈ elements, w.IsOperand := by
  unfold ofJson
  rw [succeeds_bind_iff]
  constructor
  · rintro ⟨r, hdetect, h⟩
    cases r with
    | some r => exact .inl (Reference.isReference_of_detect hdetect)
    | none =>
      dsimp only at h
      split at h
      next elements =>
        obtain ⟨operands, hoperands, -⟩ := succeeds_bind_iff.mp h
        have hitems := succeeds_mapM_iff.mp ⟨operands, hoperands⟩
        exact .inr ⟨elements, rfl, fun w hw => Operand.ofJson_isOk_iff.mp (hitems w hw)⟩
      next => exact absurd h (not_succeeds_error _)
  · rintro (href | ⟨elements, rfl, helements⟩)
    · obtain ⟨r, hr⟩ := Reference.detect_of_isReference href
      exact ⟨some r, hr, succeeds_ok _⟩
    · obtain ⟨operands, hoperands⟩ :=
        succeeds_mapM_iff.mpr fun w hw => Operand.ofJson_isOk_iff.mpr (helements w hw)
      exact ⟨none, rfl, succeeds_bind_iff.mpr ⟨operands, hoperands, succeeds_ok _⟩⟩

theorem TypeTag.ofName_isOk_iff {name : String} : Succeeds (ofName name) ↔ name ∈ names := by
  unfold ofName
  split
  case h_5 hstring hnumber hboolean hbigint =>
    refine iff_of_false nofun ?_
    simp only [names, List.mem_cons, List.not_mem_nil, or_false, not_or]
    exact ⟨hstring, hnumber, hboolean, hbigint⟩
  all_goals exact iff_of_true (succeeds_ok _) (by decide)

theorem Operator.indexOf_isOk_iff {key : String} {v : Json} :
    Succeeds (indexOf key v) ↔ ∃ i : Nat, v = .ofNat i := by
  constructor
  · rintro ⟨i, hi⟩
    unfold indexOf at hi
    dsimp only at hi
    split at hi
    next j hj =>
      cases v with
      | number n =>
        cases n with
        | int n =>
          cases n with
          | ofNat n => exact ⟨n, rfl⟩
          | negSucc n => cases hj
        | float x => cases hj
      | _ => cases hj
    next => cases hi
  · rintro ⟨i, rfl⟩
    exact succeeds_ok i

theorem Pattern.Expression.ofJson_isOk_iff [Engine] {v : Json} :
    Succeeds (ofJson v) ↔ ∃ source flags : String, v = .string ("/" ++ source ++ "/" ++ flags) ∧
      (∀ flag ∈ flags.toList, flag ∈ flagLetters) ∧
      Succeeds (Engine.compile (.ofFlags flags.toList) source) := by
  constructor
  · rintro ⟨e, he⟩
    obtain ⟨source, flags, hv, hflags, hcompile, -⟩ := ofJson_eq_ok_iff.mp he
    exact ⟨source, flags, hv, hflags, e.isMatch, hcompile⟩
  · rintro ⟨source, flags, hv, hflags, isMatch, hcompile⟩
    exact ⟨⟨source, isMatch⟩, ofJson_eq_ok_iff.mpr ⟨source, flags, hv, hflags, hcompile, rfl⟩⟩

/-! ## Keys -/

def OperandForm.keys : OperandForm → List String
  | .branches _ => Keyword.branchKeys
  | .not => Keyword.conditionKeys
  | .scalar _ => Keyword.scalarKeys
  | .isIn => Keyword.listKeys
  | .containment _ => Keyword.listKeys
  | .type => ["$type"]
  | .present => ["$exists"]
  | .entries => ["$indexEntries"]
  | .pattern => ["$regexp"]
  | .within _ => Keyword.conditionKeys
  | .character => Keyword.indexedKeys
  | .element => Keyword.indexedKeys
  | .quantified _ => Keyword.conditionKeys

theorem Keyword.mem_keys_of_ofKey? {key : String} {keyword : Keyword}
    (h : ofKey? key = some keyword) : key ∈ keyword.form.keys := by
  unfold ofKey? at h
  split at h
  case h_36 => cases h
  all_goals
    cases h
    decide

theorem isReservedKey_iff {key : String} : isReservedKey key = true ↔ ['$'] <+: key.toList := by
  unfold isReservedKey
  cases key.toList with
  | nil => exact iff_of_false nofun nofun
  | cons c rest =>
    rw [List.head?_cons, beq_iff_eq, Option.some_inj, List.cons_prefix_cons]
    exact ⟨fun h => ⟨h.symm, List.nil_prefix⟩, fun h => h.1.symm⟩

/-! ## Clauses -/

variable [Pattern.Engine]

theorem Member.IsClause.bool_of_exists {m : Member} (h : m.IsClause) (hkey : m.key = "$exists") :
    ∃ expected, m.value = .bool expected := by
  cases h with
  | present expected => exact ⟨expected, rfl⟩
  | field hname _ =>
    obtain rfl : _ = "$exists" := hkey
    exact absurd (by decide) hname
  | branches hmem _ | unbranched hmem _ | condition hmem _ | operand hmem _ | items hmem _
  | reference hmem _ | indexed hmem _ _ =>
    obtain rfl : _ = "$exists" := hkey
    exact absurd hmem (by decide)
  | type _ | typed _ _ | entries _ | pattern _ _ => exact absurd hkey (by dsimp only; decide)

theorem Member.IsClause.isCondition_of_field {m : Member} (h : m.IsClause)
    (hname : ¬['$'] <+: m.key.toList) : m.value.IsCondition := by
  have hreserved : ∀ keys : List String, (∀ key ∈ keys, ['$'] <+: key.toList) → m.key ∉ keys :=
    fun keys hkeys hmem => hname (hkeys m.key hmem)
  cases h with
  | field _ hv => exact hv
  | condition _ hv => exact hv
  | branches hkey _ | unbranched hkey _ => exact absurd hkey (hreserved _ (by decide))
  | operand hkey _ => exact absurd hkey (hreserved _ (by decide))
  | items hkey _ | reference hkey _ => exact absurd hkey (hreserved _ (by decide))
  | indexed hkey _ _ => exact absurd hkey (hreserved _ (by decide))
  | type _ | typed _ _ | present _ | entries _ | pattern _ _ =>
    exact absurd (by dsimp only; decide) hname

theorem FieldClause.expectationOf_isOk {v : Json} (h : v.IsCondition) :
    Succeeds (expectationOf v) := by
  unfold expectationOf
  split
  next => exact succeeds_ok _
  next => exact succeeds_ok _
  next found hbool hfound =>
    cases h with
    | literal hv =>
      cases v with
      | object members => exact absurd rfl (hv members)
      | _ => cases hfound
    | object hmembers =>
      obtain ⟨expected, rfl⟩ := (hmembers _ (Member.mem_of_lookup hfound)).bool_of_exists rfl
      exact absurd rfl (hbool expected)

theorem FieldClause.ofMember_isOk_iff {m : Member}
    (ih : Succeeds (Condition.ofJson m.value) ↔ m.value.IsCondition) :
    Succeeds (ofMember m) ↔ m.value.IsCondition := by
  obtain ⟨name, v⟩ := m
  unfold ofMember
  rw [succeeds_bind_iff]
  constructor
  · rintro ⟨expected, -, h⟩
    obtain ⟨condition, hcondition, -⟩ := succeeds_bind_iff.mp h
    exact ih.mp ⟨condition, hcondition⟩
  · intro h
    obtain ⟨expected, hexpected⟩ := expectationOf_isOk h
    obtain ⟨condition, hcondition⟩ := ih.mpr h
    exact ⟨expected, hexpected, succeeds_bind_iff.mpr ⟨condition, hcondition, succeeds_ok _⟩⟩

namespace Operator

variable {key : String} {v : Json}

/-- An operator that is read stands under a key with an operand that suits it. -/
theorem isClause_of_ofMember
    (ih : v.WithParts fun w => Succeeds (Condition.ofJson w) ↔ w.IsCondition)
    (h : Succeeds (ofMember ⟨key, v⟩)) : Member.IsClause ⟨key, v⟩ := by
  cases hkey : Keyword.ofKey? key with
  | none =>
    unfold ofMember at h
    rw [hkey] at h
    exact absurd h (not_succeeds_error _)
  | some keyword =>
    have hmem := Keyword.mem_keys_of_ofKey? hkey
    obtain ⟨form, negated⟩ := keyword
    -- a sign does not matter, so the form of the operand alone decides
    unfold ofMember at h
    rw [hkey] at h
    dsimp only at h
    rw [succeeds_map_iff] at h
    cases form with
    | branches connective =>
      cases v with
      | array elements =>
        dsimp only at h
        rw [succeeds_map_iff, Condition.ofElements_eq_mapM, succeeds_mapM_iff] at h
        exact .branches hmem fun w hw => (ih.element _ rfl w hw).mp (h w hw)
      | _ =>
        refine .unbranched hmem fun elements heq => ?_
        cases heq
    | not | within _ | quantified _ => exact .condition hmem (ih.self.mp (succeeds_map_iff.mp h))
    | scalar test => exact .operand hmem (Operand.ofJson_isOk_iff.mp (succeeds_map_iff.mp h))
    | isIn | containment _ =>
      obtain href | ⟨elements, rfl, helements⟩ :=
        ListOperand.ofJson_isOk_iff.mp (succeeds_map_iff.mp h)
      · exact .reference hmem href
      · exact .items hmem helements
    | type =>
      obtain rfl := List.mem_singleton.mp hmem
      dsimp only at h
      split at h
      next name => exact .type (TypeTag.ofName_isOk_iff.mp (succeeds_map_iff.mp h))
      next name nested =>
        obtain ⟨tag, htag, hnested⟩ := succeeds_bind_iff.mp h
        have hcondition := (ih.element _ rfl nested (by simp)).mp (succeeds_map_iff.mp hnested)
        exact .typed (TypeTag.ofName_isOk_iff.mp ⟨tag, htag⟩) hcondition
      next => exact absurd h (not_succeeds_error _)
      next => exact absurd h (not_succeeds_error _)
    | present =>
      obtain rfl := List.mem_singleton.mp hmem
      dsimp only at h
      split at h
      next expected => exact .present expected
      next => exact absurd h (not_succeeds_error _)
    | entries =>
      obtain rfl := List.mem_singleton.mp hmem
      dsimp only at h
      split at h
      next members =>
        rw [FieldClause.ofMembers_eq_mapM, succeeds_map_iff, succeeds_mapM_iff] at h
        exact .entries fun m hm =>
          (FieldClause.ofMember_isOk_iff (ih.member members rfl m hm)).mp (h m hm)
      next => exact absurd h (not_succeeds_error _)
    | pattern =>
      obtain rfl := List.mem_singleton.mp hmem
      obtain ⟨source, flags, rfl, hflags, hsource⟩ :=
        Pattern.Expression.ofJson_isOk_iff.mp (succeeds_map_iff.mp h)
      exact .pattern hflags hsource
    | character | element =>
      dsimp only at h
      split at h
      next index nested =>
        obtain ⟨i, hi, hnested⟩ := succeeds_bind_iff.mp h
        obtain ⟨i, rfl⟩ := indexOf_isOk_iff.mp ⟨i, hi⟩
        have hcondition := (ih.element _ rfl nested (by simp)).mp (succeeds_map_iff.mp hnested)
        exact .indexed hmem i hcondition
      next => exact absurd h (not_succeeds_error _)

theorem ofMember_of_isClause
    (ih : v.WithParts fun w => Succeeds (Condition.ofJson w) ↔ w.IsCondition)
    (hreserved : ['$'] <+: key.toList) (h : Member.IsClause ⟨key, v⟩) :
    Succeeds (ofMember ⟨key, v⟩) := by
  cases h with
  | field hname _ => exact absurd hreserved hname
  | branches hkey helements =>
    obtain ⟨connective, negated, hkey⟩ := Keyword.ofKey?_branches hkey
    rw [ofMember_branches hkey, succeeds_map_iff, succeeds_map_iff, succeeds_mapM_iff]
    exact fun w hw => (ih.element _ rfl w hw).mpr (helements w hw)
  | unbranched hkey hv =>
    obtain ⟨connective, negated, hkey⟩ := Keyword.ofKey?_branches hkey
    unfold ofMember
    rw [hkey]
    dsimp only
    rw [succeeds_map_iff]
    split
    next elements => exact absurd rfl (hv elements)
    next => exact succeeds_ok _
  | condition hkey hv =>
    obtain ⟨form, negated, make, hkey, hmake⟩ := Keyword.ofKey?_condition hkey
    rw [ofMember_condition hkey hmake, succeeds_map_iff, succeeds_map_iff]
    exact ih.self.mpr hv
  | operand hkey hv =>
    obtain ⟨test, negated, hkey⟩ := Keyword.ofKey?_scalar hkey
    rw [ofMember_scalar hkey, succeeds_map_iff, succeeds_map_iff]
    exact Operand.ofJson_isOk_iff.mpr hv
  | items hkey helements =>
    obtain ⟨form, negated, make, hkey, hmake⟩ := Keyword.ofKey?_list hkey
    rw [ofMember_list hkey hmake, succeeds_map_iff, succeeds_map_iff]
    exact ListOperand.ofJson_isOk_iff.mpr (.inr ⟨_, rfl, helements⟩)
  | reference hkey hv =>
    obtain ⟨form, negated, make, hkey, hmake⟩ := Keyword.ofKey?_list hkey
    rw [ofMember_list hkey hmake, succeeds_map_iff, succeeds_map_iff]
    exact ListOperand.ofJson_isOk_iff.mpr (.inl hv)
  | type hname =>
    exact succeeds_map_iff.mpr (succeeds_map_iff.mpr (TypeTag.ofName_isOk_iff.mpr hname))
  | typed hname hv =>
    obtain ⟨tag, htag⟩ := TypeTag.ofName_isOk_iff.mpr hname
    have hnested := (ih.element _ rfl _ (by simp)).mpr hv
    exact succeeds_map_iff.mpr
      (succeeds_bind_iff.mpr ⟨tag, htag, succeeds_map_iff.mpr hnested⟩)
  | present expected => exact succeeds_map_iff.mpr (succeeds_ok _)
  | entries hmembers =>
    rw [ofMember_entries, succeeds_map_iff, succeeds_map_iff, succeeds_mapM_iff]
    exact fun m hm =>
      (FieldClause.ofMember_isOk_iff (ih.member _ rfl m hm)).mpr (hmembers m hm)
  | indexed hkey i hv =>
    obtain ⟨form, negated, view, hkey, hview⟩ := Keyword.ofKey?_indexed hkey
    have hnested := (ih.element _ rfl _ (by simp)).mpr hv
    rw [ofMember_indexed hkey hview, succeeds_map_iff]
    exact succeeds_bind_iff.mpr ⟨i, rfl, succeeds_map_iff.mpr hnested⟩
  | pattern hflags hsource =>
    exact succeeds_map_iff.mpr (succeeds_map_iff.mpr
      (Pattern.Expression.ofJson_isOk_iff.mpr ⟨_, _, rfl, hflags, hsource⟩))

end Operator

theorem Clause.ofMember_isOk_iff {m : Member}
    (ih : m.value.WithParts fun w => Succeeds (Condition.ofJson w) ↔ w.IsCondition) :
    Succeeds (ofMember m) ↔ m.IsClause := by
  obtain ⟨key, v⟩ := m
  unfold ofMember
  split
  next hreserved =>
    rw [isReservedKey_iff] at hreserved
    rw [succeeds_map_iff]
    exact ⟨Operator.isClause_of_ofMember ih, Operator.ofMember_of_isClause ih hreserved⟩
  next hreserved =>
    rw [isReservedKey_iff] at hreserved
    rw [succeeds_map_iff, FieldClause.ofMember_isOk_iff ih.self]
    exact ⟨.field hreserved, fun h => h.isCondition_of_field hreserved⟩

/-! ## Conditions -/

/-- The values that are read as conditions are those of the grammar. -/
theorem Condition.ofJson_accepts_grammar (v : Json) :
    (∃ condition, Condition.ofJson v = .ok condition) ↔ v.IsCondition := by
  refine (Json.withParts (P := fun v => Succeeds (Condition.ofJson v) ↔ v.IsCondition)
    (fun v hv => ?literal) (fun members ih => ?object) v).self
  case literal =>
    refine iff_of_true ?_ (.literal hv)
    cases v with
    | object members => exact absurd rfl (hv members)
    | _ => exact succeeds_ok _
  case object =>
    rw [Condition.ofJson_object, succeeds_map_iff, succeeds_mapM_iff]
    constructor
    · exact fun h => .object fun m hm => (Clause.ofMember_isOk_iff (ih m hm)).mp (h m hm)
    · intro h m hm
      cases h with
      | literal hv => exact absurd rfl (hv members)
      | object hmembers => exact (Clause.ofMember_isOk_iff (ih m hm)).mpr (hmembers m hm)

end Sift
