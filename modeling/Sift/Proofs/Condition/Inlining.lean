import Sift.Proofs.Condition.Agreement
import Sift.Proofs.Condition.Induction
import Sift.Proofs.Condition.Reading
import Sift.Proofs.Cursor.Resolution
import Sift.Proofs.Pattern.Plain

/-!
# Inlining references

All cursors of a run share their top, so a reference that starts at the root leads to one node,
wherever a condition meets it. `Inlined v` relates a condition to the one in which an operand of
this kind, at any depth, is replaced by the literal that it denotes in `v`. On `v` the two have one
result (`isMatch_inlined`), be it an answer or an error.

The invariant is `Cursor.Within v`, the cursors of the tree of `v`. Each place that an operand can
be at is a case of `Inlined.ofJson_alike`: what is read there passes the same tests in that tree.
-/

namespace Sift

/-! ## Replacing an operand -/

/-- The operand is a reference that leads to a node from the root of a value. -/
def Denotes (v operand : Json) (node : Node) : Prop :=
  ∃ path c, operand.get? Reference.key = some (.string ("^" ++ path)) ∧
    (Cursor.root (.value v)).descendPath path = .ok c ∧ c.node = node

/-- The list that a node is to an operator on lists: missing and null nodes are empty ones. -/
inductive Node.Lists : Node → List Json → Prop where
  | array (elements : List Json) : Lists (.value (.array elements)) elements
  | absent : Lists .absent []
  | null : Lists (.value .null) []

mutual

/-- The second condition is the first one with a reference to the root inlined. -/
inductive Inlined (v : Json) : Json → Json → Prop where
  /-- The reference is below one of the members. -/
  | member {key : String} {x x' : Json} (before after : List Member) (h : InlinedAt v key x x') :
      Inlined v (.object (before ++ ⟨key, x⟩ :: after)) (.object (before ++ ⟨key, x'⟩ :: after))

inductive InlinedAt (v : Json) : String → Json → Json → Prop where
  | field {key : String} {x x' : Json} (hkey : isReservedKey key = false) (h : Inlined v x x') :
      InlinedAt v key x x'
  | condition {key : String} {x x' : Json} (hkey : key ∈ Keyword.conditionKeys)
      (h : Inlined v x x') : InlinedAt v key x x'
  | branch {key : String} {x x' : Json} (hkey : key ∈ Keyword.branchKeys)
      (before after : List Json) (h : Inlined v x x') :
      InlinedAt v key (.array (before ++ x :: after)) (.array (before ++ x' :: after))
  | typed {x x' : Json} (name : String) (h : Inlined v x x') :
      InlinedAt v "$type" (.array [.string name, x]) (.array [.string name, x'])
  | indexed {key : String} {x x' : Json} (hkey : key ∈ Keyword.indexedKeys) (index : Json)
      (h : Inlined v x x') : InlinedAt v key (.array [index, x]) (.array [index, x'])
  | entry {x x' : Json} (name : String) (before after : List Member) (h : Inlined v x x') :
      InlinedAt v "$indexEntries" (.object (before ++ ⟨name, x⟩ :: after))
        (.object (before ++ ⟨name, x'⟩ :: after))
  | scalar {key : String} {r w : Json} (hkey : key ∈ Keyword.scalarKeys)
      (hr : Denotes v r (.value w)) (hw : w.get? Reference.key = none) : InlinedAt v key r w
  | item {key : String} {r w : Json} (hkey : key ∈ Keyword.listKeys) (before after : List Json)
      (hr : Denotes v r (.value w)) (hw : w.get? Reference.key = none) :
      InlinedAt v key (.array (before ++ r :: after)) (.array (before ++ w :: after))
  /-- A list operand, by the list that it denotes. -/
  | list {key : String} {r : Json} {node : Node} {elements : List Json}
      (hkey : key ∈ Keyword.listKeys) (hr : Denotes v r node) (hlist : node.Lists elements)
      (hw : ∀ w ∈ elements, w.get? Reference.key = none) : InlinedAt v key r (.array elements)

end

/-! ## Operands that denote one node -/

def Cursor.Within (v : Json) (c d : Cursor) : Prop :=
  c = d ∧ c.top = .root (.value v)

theorem Cursor.simulation_within (v : Json) : Cursor.Simulation Eq (Cursor.Within v) where
  refl _ := rfl
  node_eq h := by rw [h.1]
  child h segment node := ⟨by rw [h.1], h.2⟩
  fault h _ := by rw [h.1]

theorem Denotes.detect {v operand : Json} {node : Node} (h : Denotes v operand node) :
    ∃ r c, Reference.detect operand = .ok (some r) ∧ c.node = node ∧
      ∀ d : Cursor, d.top = .root (.value v) → d.resolve r.path = .ok c := by
  obtain ⟨path, c, hget, hdescend, hnode⟩ := h
  refine ⟨⟨"^" ++ path⟩, c, ?_, hnode, ?_⟩
  · have hne : ("^" ++ path).isEmpty = false := by
      simp
    unfold Reference.detect
    rw [hget]
    simp only [hne, Bool.false_eq_true, if_false]
  · intro d hd
    rw [Cursor.resolve_caret, hd, hdescend]

theorem Reference.detect_eq_none {w : Json} (h : w.get? Reference.key = none) :
    Reference.detect w = .ok none := by
  unfold Reference.detect
  rw [h]

theorem Operand.ofJson_literal {w : Json} (h : w.get? Reference.key = none) :
    Operand.ofJson w = .ok (.literal w) := by
  unfold Operand.ofJson
  rw [Reference.detect_eq_none h]
  rfl

/-- At every cursor of the tree the reference and the literal are one node. -/
theorem Denotes.operand_agrees {v r w : Json} (hr : Denotes v r (.value w))
    (hw : w.get? Reference.key = none) :
    Agree Eq (Operand.Agrees Eq (Cursor.Within v)) (Operand.ofJson r) (Operand.ofJson w) := by
  obtain ⟨r', c, hdetect, hnode, hresolve⟩ := hr.detect
  rw [Operand.ofJson_literal hw, Operand.ofJson, hdetect]
  refine .ok ?_
  rintro d _ ⟨rfl, hd⟩
  simp only [Operand.resolve]
  rw [hresolve d hd]
  exact .ok hnode

theorem ListOperand.ofJson_array (operator : String) (elements : List Json) :
    ListOperand.ofJson operator (.array elements) = (elements.mapM Operand.ofJson).map .items := by
  unfold ListOperand.ofJson
  rw [Reference.detect_eq_none rfl]
  rfl

theorem Denotes.items_agree {v r w : Json} (operator : String) (before after : List Json)
    (hr : Denotes v r (.value w)) (hw : w.get? Reference.key = none) :
    Agree Eq (ListOperand.Agrees Eq (Cursor.Within v))
      (ListOperand.ofJson operator (.array (before ++ r :: after)))
      (ListOperand.ofJson operator (.array (before ++ w :: after))) := by
  rw [ListOperand.ofJson_array, ListOperand.ofJson_array]
  have hself : ∀ item, Agree Eq (Operand.Agrees Eq (Cursor.Within v)) (Operand.ofJson item)
      (Operand.ofJson item) := by
    refine fun item => .refl (fun _ => rfl) (fun operand => ?_) _
    rintro c _ ⟨rfl, -⟩
    exact .refl (fun _ => rfl) (fun _ => rfl) _
  exact (Agree.mapM_replace hself (hr.operand_agrees hw) before after).map fun _ _ => .items

theorem ListOperand.ofJson_literals (operator : String) {elements : List Json}
    (h : ∀ w ∈ elements, w.get? Reference.key = none) :
    ListOperand.ofJson operator (.array elements) = .ok (.items (elements.map .literal)) := by
  have hitems : elements.mapM Operand.ofJson = .ok (elements.map .literal) := by
    induction elements with
    | nil => rfl
    | cons w rest ih =>
      obtain ⟨hw, hrest⟩ := List.forall_mem_cons.mp h
      rw [List.mapM_cons, Operand.ofJson_literal hw, ih hrest]
      rfl
  rw [ListOperand.ofJson_array, hitems]
  rfl

theorem ListOperand.resolve_literals (c : Cursor) (elements : List Json) :
    (ListOperand.items (elements.map .literal)).resolve c = .ok (elements.map .value) := by
  rw [ListOperand.resolve]
  induction elements with
  | nil => rfl
  | cons w rest ih =>
    rw [List.map_cons, List.mapM_cons, ih]
    rfl

theorem ListOperand.resolve_reference {r : Reference} {c target : Cursor} {node : Node}
    {elements : List Json} (hresolve : c.resolve r.path = .ok target) (hnode : target.node = node)
    (hlist : node.Lists elements) :
    (ListOperand.reference r).resolve c = .ok (elements.map .value) := by
  rw [ListOperand.resolve, hresolve]
  cases hlist <;> simp only [bind, Except.bind, hnode] <;> rfl

theorem Denotes.listOperand_agrees {v r : Json} {node : Node} {elements : List Json}
    (operator : String) (hr : Denotes v r node) (hlist : node.Lists elements)
    (hw : ∀ w ∈ elements, w.get? Reference.key = none) :
    Agree Eq (ListOperand.Agrees Eq (Cursor.Within v)) (ListOperand.ofJson operator r)
      (ListOperand.ofJson operator (.array elements)) := by
  obtain ⟨r', c, hdetect, hnode, hresolve⟩ := hr.detect
  have hread : ListOperand.ofJson operator r = .ok (.reference r') := by
    unfold ListOperand.ofJson
    rw [hdetect]
    rfl
  rw [ListOperand.ofJson_literals operator hw, hread]
  refine .ok ?_
  rintro d _ ⟨rfl, hd⟩
  rw [ListOperand.resolve_literals, ListOperand.resolve_reference (hresolve d hd) hnode hlist]
  exact .ok rfl

/-! ## Readings that agree -/

/-- Both readings fail with one error, or read what passes the same tests on a value. -/
def ReadAlike {α : Type} (v : Json) (test : α → Test) (x y : Except Error α) : Prop :=
  Agree Eq (fun a b => Test.Agrees Eq (Cursor.Within v) (test a) (test b)) x y

theorem Test.agrees_self (v : Json) (test : Test) : Test.Agrees Eq (Cursor.Within v) test test := by
  rintro c _ ⟨rfl, -⟩
  exact .refl (fun _ => rfl) (fun _ => rfl) _

theorem ReadAlike.refl {α : Type} (v : Json) (test : α → Test) (x : Except Error α) :
    ReadAlike v test x x :=
  Agree.refl (fun _ => rfl) (fun a => Test.agrees_self v (test a)) x

def FieldClause.Alike (v : Json) (f f' : FieldClause) : Prop :=
  f.name = f'.name ∧ Test.Agrees Eq (Cursor.Within v) f.test f'.test

theorem FieldClause.ofMember_agree [Pattern.Engine] {v x x' : Json} (name : String)
    (hexpected : FieldClause.expectationOf x = FieldClause.expectationOf x')
    (h : ReadAlike v Condition.test (Condition.ofJson x) (Condition.ofJson x')) :
    Agree Eq (FieldClause.Alike v) (FieldClause.ofMember ⟨name, x⟩)
      (FieldClause.ofMember ⟨name, x'⟩) := by
  rw [FieldClause.ofMember, FieldClause.ofMember, hexpected]
  refine (Agree.refl (fun _ => rfl) (fun _ => rfl) (FieldClause.expectationOf x')).bind ?_
  rintro expected _ rfl
  refine Agree.bind h fun condition condition' hc => .ok ⟨rfl, ?_⟩
  exact hc.ofField (Cursor.simulation_within v) expected

theorem Operator.signed_agrees {v : Json} {op op' : Operator} (negated : Bool)
    (h : Test.Agrees Eq (Cursor.Within v) op.test op'.test) :
    Test.Agrees Eq (Cursor.Within v) (op.signed negated).test (op'.signed negated).test := by
  cases negated with
  | false => exact h
  | true => exact h.not

theorem OperandForm.ofList?_agrees {v : Json} {form : OperandForm} {make : ListOperand → Operator}
    (hmake : form.ofList? = some make) {o o' : ListOperand}
    (h : ListOperand.Agrees Eq (Cursor.Within v) o o') :
    Test.Agrees Eq (Cursor.Within v) (make o).test (make o').test := by
  cases form <;> cases hmake
  case isIn => exact h.isIn (Cursor.simulation_within v)
  case containment test => exact h.containment (Cursor.simulation_within v) test

theorem OperandForm.ofCondition?_agrees {v : Json} {form : OperandForm}
    {make : Condition → Operator} (hmake : form.ofCondition? = some make)
    {condition condition' : Condition}
    (h : Test.Agrees Eq (Cursor.Within v) condition.test condition'.test) :
    Test.Agrees Eq (Cursor.Within v) (make condition).test (make condition').test := by
  cases form <;> cases hmake
  case not => exact h.not
  case within view => exact h.thenTest (Cursor.simulation_within v) view
  case quantified quantifier => exact h.quantified (Cursor.simulation_within v) quantifier

section
variable [Pattern.Engine] {v x x' : Json} {key : String} {form : OperandForm} {negated : Bool}

theorem Clause.ofMember_alike {keyword : Keyword} {op op' : Except Error Operator}
    (hkey : Keyword.ofKey? key = some keyword)
    (hx : Operator.ofMember ⟨key, x⟩ = op.map (Operator.signed negated))
    (hx' : Operator.ofMember ⟨key, x'⟩ = op'.map (Operator.signed negated))
    (h : ReadAlike v Operator.test op op') :
    ReadAlike v Clause.test (Clause.ofMember ⟨key, x⟩) (Clause.ofMember ⟨key, x'⟩) := by
  rw [Clause.ofMember_operator hkey, Clause.ofMember_operator hkey, hx, hx']
  have hsigned : ReadAlike v Operator.test (op.map (Operator.signed negated))
      (op'.map (Operator.signed negated)) :=
    Agree.map h fun _ _ hop => Operator.signed_agrees negated hop
  refine Agree.map hsigned fun op op' hop c d hcd => ?_
  rw [Clause.result_operator, Clause.result_operator]
  exact hop c d hcd

/-- Replacing one of the members replaces one of the clauses. -/
theorem Condition.ofJson_replace (before after : List Member)
    (h : ReadAlike v Clause.test (Clause.ofMember ⟨key, x⟩) (Clause.ofMember ⟨key, x'⟩)) :
    ReadAlike v Condition.test (Condition.ofJson (.object (before ++ ⟨key, x⟩ :: after)))
      (Condition.ofJson (.object (before ++ ⟨key, x'⟩ :: after))) := by
  rw [Condition.ofJson_object, Condition.ofJson_object]
  have hall := Agree.mapM_replace
    (fun m => ReadAlike.refl v Clause.test (Clause.ofMember m)) h before after
  refine hall.map fun all all' hclauses c d hcd => ?_
  rw [Condition.result_clauses, Condition.result_clauses]
  exact Test.Agrees.all (Test.forall₂_map hclauses) c d hcd

theorem Clause.alike_list {make : ListOperand → Operator}
    (hkey : Keyword.ofKey? key = some ⟨form, negated⟩) (hmake : form.ofList? = some make)
    (h : Agree Eq (ListOperand.Agrees Eq (Cursor.Within v)) (ListOperand.ofJson key x)
      (ListOperand.ofJson key x')) :
    ReadAlike v Clause.test (Clause.ofMember ⟨key, x⟩) (Clause.ofMember ⟨key, x'⟩) :=
  Clause.ofMember_alike hkey (Operator.ofMember_list hkey hmake x)
    (Operator.ofMember_list hkey hmake x') (h.map fun _ _ ho => OperandForm.ofList?_agrees hmake ho)

end

/-- What is replaced has no part in expectations about the presence of a field. -/
theorem InlinedAt.key_ne {v x x' : Json} {key : String} (h : InlinedAt v key x x') :
    key ≠ "$exists" := by
  cases h with
  | typed => decide
  | entry => decide
  | field hkey | condition hkey | branch hkey | indexed hkey | scalar hkey | item hkey
  | list hkey =>
    rintro rfl
    exact absurd hkey (by decide)

theorem Inlined.expectationOf_eq {v x x' : Json} (h : Inlined v x x') :
    FieldClause.expectationOf x = FieldClause.expectationOf x' := by
  cases h with
  | member before after h => exact FieldClause.expectationOf_replace h.key_ne before after _ _

/-- One case for each place that the operand may be at. -/
theorem Inlined.ofJson_alike [Pattern.Engine] {v x x' : Json} (h : Inlined v x x') :
    ReadAlike v Condition.test (Condition.ofJson x) (Condition.ofJson x') := by
  have hsim := Cursor.simulation_within v
  refine @Inlined.rec v
    (fun x x' _ => ReadAlike v Condition.test (Condition.ofJson x) (Condition.ofJson x'))
    (fun key x x' _ =>
      ReadAlike v Clause.test (Clause.ofMember ⟨key, x⟩) (Clause.ofMember ⟨key, x'⟩))
    ?member ?field ?condition ?branch ?typed ?indexed ?entry ?scalar ?item ?list x x' h
  case member =>
    intro key x x' before after _ ih
    exact Condition.ofJson_replace before after ih
  case field =>
    intro key x x' hkey h ih
    rw [Clause.ofMember_field hkey, Clause.ofMember_field hkey]
    refine (FieldClause.ofMember_agree key h.expectationOf_eq ih).map fun f f' hf => ?_
    rw [Clause.test, Clause.test, hf.1]
    exact hf.2.atPath hsim f'.name
  case condition =>
    intro key x x' hkey _ ih
    obtain ⟨form, negated, make, hkey, hmake⟩ := Keyword.ofKey?_condition hkey
    refine Clause.ofMember_alike hkey (Operator.ofMember_condition hkey hmake x)
      (Operator.ofMember_condition hkey hmake x') ?_
    exact Agree.map ih fun _ _ hc => OperandForm.ofCondition?_agrees hmake hc
  case branch =>
    intro key x x' hkey before after _ ih
    obtain ⟨connective, negated, hkey⟩ := Keyword.ofKey?_branches hkey
    refine Clause.ofMember_alike hkey (Operator.ofMember_branches hkey _)
      (Operator.ofMember_branches hkey _) ?_
    have hall := Agree.mapM_replace
      (fun v' => ReadAlike.refl v Condition.test (Condition.ofJson v')) ih before after
    refine hall.map fun conditions conditions' hc => ?_
    rw [Operator.test, Operator.test, Condition.tests_eq_map, Condition.tests_eq_map]
    exact .combine connective (Test.forall₂_map hc)
  case typed =>
    intro x x' name _ ih
    refine Clause.ofMember_alike rfl (Operator.ofMember_typed name x)
      (Operator.ofMember_typed name x') ?_
    refine Agree.bind (Agree.refl (fun _ => rfl) (fun _ => rfl) (TypeTag.ofName name)) ?_
    rintro tag _ rfl
    exact Agree.map ih fun _ _ hc => hc.thenTest hsim (.typed tag)
  case indexed =>
    intro key x x' hkey index _ ih
    obtain ⟨form, negated, view, hkey, hview⟩ := Keyword.ofKey?_indexed hkey
    refine Clause.ofMember_alike hkey (Operator.ofMember_indexed hkey hview index x)
      (Operator.ofMember_indexed hkey hview index x') ?_
    refine Agree.bind (Agree.refl (fun _ => rfl) (fun _ => rfl) (Operator.indexOf key index)) ?_
    rintro i _ rfl
    exact Agree.map ih fun _ _ hc => hc.thenTest hsim (view i)
  case entry =>
    intro x x' name before after h ih
    refine Clause.ofMember_alike rfl (Operator.ofMember_entries _) (Operator.ofMember_entries _) ?_
    have hself : ∀ m, Agree Eq (FieldClause.Alike v) (FieldClause.ofMember m)
        (FieldClause.ofMember m) := fun m =>
      .refl (fun _ => rfl) (fun f => ⟨rfl, Test.agrees_self v f.test⟩) _
    have hall := Agree.mapM_replace hself
      (FieldClause.ofMember_agree name h.expectationOf_eq ih) before after
    refine hall.map fun clauses clauses' hc => ?_
    rw [Operator.test, Operator.test, FieldClause.memberTests_eq_map,
      FieldClause.memberTests_eq_map]
    refine .ofMembers hsim (Test.forall₂_map (hc.imp fun f f' hf => ?_))
    rw [hf.1]
    exact hf.2.atName hsim f'.name
  case scalar =>
    intro key r w hkey hr hw
    obtain ⟨test, negated, hkey⟩ := Keyword.ofKey?_scalar hkey
    refine Clause.ofMember_alike hkey (Operator.ofMember_scalar hkey r)
      (Operator.ofMember_scalar hkey w) ?_
    exact (hr.operand_agrees hw).map fun _ _ ho => ho.scalar hsim test
  case item =>
    intro key r w hkey before after hr hw
    obtain ⟨form, negated, make, hkey, hmake⟩ := Keyword.ofKey?_list hkey
    refine Clause.alike_list hkey hmake ?_
    exact hr.items_agree key before after hw
  case list =>
    intro key r node elements hkey hr hlist hw
    obtain ⟨form, negated, make, hkey, hmake⟩ := Keyword.ofKey?_list hkey
    exact Clause.alike_list hkey hmake (hr.listOperand_agrees key hlist hw)

/-- A value has one result on a condition and on the condition with a reference to the root
inlined. If the one cannot be read, neither can the other. -/
theorem isMatch_inlined [Pattern.Engine] {v condition condition' : Json} (h : Inlined v condition condition') :
    (isMatch v condition').result = (isMatch v condition).result := by
  unfold isMatch
  rw [Recorded.result_bind, Recorded.result_bind, Recorded.result_ofExcept,
    Recorded.result_ofExcept]
  refine (Agree.bind h.ofJson_alike fun read read' hread => ?_).eq.symm
  exact hread _ _ ⟨rfl, rfl⟩

section
attribute [local instance] Pattern.Engine.plain

/-- Some price is below the budget. -/
theorem isMatch_inlined_budget :
    Inlined (.object [⟨"budget", .ofNat 10⟩, ⟨"prices", .array [.ofNat 20, .ofNat 5]⟩])
        (.object [⟨"prices", .object [⟨"$someMatch",
          .object [⟨"$lt", Reference.toJson ⟨"^budget"⟩⟩]⟩]⟩])
        (.object [⟨"prices", .object [⟨"$someMatch", .object [⟨"$lt", .ofNat 10⟩]⟩]⟩]) ∧
      (isMatch (.object [⟨"budget", .ofNat 10⟩, ⟨"prices", .array [.ofNat 20, .ofNat 5]⟩])
        (.object [⟨"prices", .object [⟨"$someMatch", .object [⟨"$lt", .ofNat 10⟩]⟩]⟩])).result =
      (isMatch (.object [⟨"budget", .ofNat 10⟩, ⟨"prices", .array [.ofNat 20, .ofNat 5]⟩])
        (.object [⟨"prices", .object [⟨"$someMatch",
          .object [⟨"$lt", Reference.toJson ⟨"^budget"⟩⟩]⟩]⟩])).result := by
  have hread : Inlined (.object [⟨"budget", .ofNat 10⟩, ⟨"prices", .array [.ofNat 20, .ofNat 5]⟩])
      (.object [⟨"prices", .object [⟨"$someMatch",
        .object [⟨"$lt", Reference.toJson ⟨"^budget"⟩⟩]⟩]⟩])
      (.object [⟨"prices", .object [⟨"$someMatch", .object [⟨"$lt", .ofNat 10⟩]⟩]⟩]) :=
    .member [] [] (.field rfl (.member [] [] (.condition (by decide)
      (.member [] [] (.scalar (by decide) ⟨"budget", _, rfl, rfl, rfl⟩ rfl)))))
  exact ⟨hread, isMatch_inlined hread⟩

end

end Sift
