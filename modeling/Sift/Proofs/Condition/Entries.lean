import Mathlib.Data.List.Forall2
import Sift.Proofs.Condition.Presence
import Sift.Proofs.Path.RoundTrip
import Sift.Proofs.Pattern.Plain
import Sift.Proofs.Sequence.Deciding

/-!
# Members by their keys

`$indexEntries` looks members up by their plain keys, whatever they are, while the key of a field clause
is an operator or a path. In quotes every key but the empty one is a path of one segment
(`Path.split_quoted`), which leads to the member at that key (`Cursor.follow_quoted`). So the conditions
on the members of an object can be written as field clauses, one by one, and the first of them that does
not hold decides (`isMatch_entries_by_paths`).
-/

namespace Sift

/-! ## Quoted keys -/

theorem Path.head?_quoted (key : String) : (quoted key).toList.head? = some '"' := by
  rw [toList_quoted]
  rfl

/-- In quotes a key is neither that of an operator nor a path from the root. -/
theorem Path.isField_quoted {key : String} (hkey : key ≠ "") : IsField (quoted key) where
  valid := ⟨[key], split_quoted hkey⟩
  not_reserved := by
    rw [isReservedKey, head?_quoted]
    rfl
  not_root := by
    rintro ⟨rest, hrest⟩
    have hhead := head?_quoted key
    rw [← hrest] at hhead
    cases hhead

/-- In quotes a key leads where it leads as the plain name of a field. -/
theorem Cursor.follow_quoted {key : String} (hkey : key ≠ "") {c : Cursor}
    (hpresent : c.isPresent = true) : c.follow (Path.quoted key) = c.field key := by
  have hroot := (Path.isField_quoted hkey).not_root
  rw [follow_of_isValid (Path.split_quoted hkey) hroot]
  unfold descend
  rw [List.foldlM_cons, step, if_pos hpresent]
  exact bind_pure (c.field key)

theorem Cursor.fieldAt_quoted {key : String} (hkey : key ≠ "") {c : Cursor}
    (hpresent : c.isPresent = true) (haccepts : c.node.acceptsFields = true) :
    c.fieldAt (Path.quoted key) = c.field key := by
  rw [fieldAt, if_pos haccepts, follow_quoted hkey hpresent]

/-! ## Conditions on members -/

/-- The name of a clause has no part in its result, once it is known where the field is. -/
theorem FieldClause.resultFrom_rename [Pattern.Engine] (name name' : String) (place : Except Error Cursor)
    (source : Json) : resultFrom name' place source = resultFrom name place source := by
  unfold resultFrom
  rw [ofMember_rename name name']
  cases ofMember ⟨name, source⟩ with
  | error e => rfl
  | ok clause =>
    cases clause
    rfl

theorem Test.result_atName (name : String) (t : Test) (c : Cursor) :
    (Test.atName name t c).result = c.field name >>= fun d => (t d).result := by
  unfold Test.atName
  rw [Recorded.result_bind, Recorded.result_ofExcept]

theorem Operator.result_entries {members : List Member} {c : Cursor}
    (hnode : c.node = .value (.object members)) (clauses : List FieldClause) :
    ((Operator.entries clauses).test c).result =
      ((clauses.map fun clause => c.field clause.name >>= fun d => (clause.test d).result).find?
        fun result => result.toOption != some true).getD (.ok true) := by
  rw [Operator.test, FieldClause.memberTests_eq_map]
  unfold Test.ofMembers
  rw [hnode]
  change (Sequence.allMatch (fun (t : Test) _ => t c) _).result = _
  rw [Sequence.result_allMatch, Sequence.allMatch_eq_find? (fun t : Test => (t c).result),
    List.map_map]
  congr 3
  funext clause
  exact Test.result_atName clause.name clause.test c

section
variable [Pattern.Engine] (members : List Member)

theorem result_isMatch_quoted {key : String} (hkey : key ≠ "") (source : Json) :
    (isMatch (.object members) (.single (Path.quoted key) source)).result =
      FieldClause.resultFrom key ((Cursor.root (.value (.object members))).field key) source := by
  rw [result_isMatch_field _ (Path.isField_quoted hkey).not_reserved, Cursor.fieldAt_quoted hkey rfl rfl,
    FieldClause.resultFrom_rename key]

/-- The first member that does not meet its condition decides. -/
theorem result_isMatch_entries {entries : List Member}
    (hread : Succeeds (Condition.ofJson (.single "$indexEntries" (.object entries)))) :
    (isMatch (.object members) (.single "$indexEntries" (.object entries))).result =
      ((entries.map fun m => FieldClause.resultFrom m.key
        ((Cursor.root (.value (.object members))).field m.key) m.value).find?
          fun result => result.toOption != some true).getD (.ok true) := by
  have hentries : Keyword.ofKey? "$indexEntries" = some ⟨.entries, false⟩ := rfl
  rw [Condition.ofJson_operator hentries, Operator.ofMember_entries, succeeds_map_iff,
    succeeds_map_iff, succeeds_map_iff] at hread
  obtain ⟨clauses, hclauses⟩ := hread
  rw [isMatch_operator hentries, Operator.ofMember_entries, hclauses]
  change ((Operator.entries clauses).test _).result = _
  rw [Operator.result_entries rfl]
  -- each clause was read from a member, and is tested at its key
  congr 2
  rw [← List.forall₂_eq_eq_eq, List.forall₂_map_left_iff, List.forall₂_map_right_iff]
  refine (Except.mapM_eq_ok_iff.mp hclauses).flip.imp ?_
  rintro clause ⟨key, source⟩ hclause
  obtain ⟨expected, condition, -, -, rfl⟩ := FieldClause.ofMember_eq_ok hclause
  exact (FieldClause.resultFrom_of_ofMember hclause).symm

end

/-- In quotes every key but the empty one leads from an object to the member at that key. Conditions on
members are met as those of the field clauses at their quoted keys are, one after the other: the first
that does not hold, or fails, decides. -/
theorem isMatch_entries_by_paths [Pattern.Engine] (members : List Member) :
    (∀ key : String, key ≠ "" → (Cursor.root (.value (.object members))).follow (Path.quoted key) =
      .ok (.child (.root (.value (.object members))) key
        (.ofOption (Member.lookup key members)))) ∧
    ∀ entries : List Member, (∀ m ∈ entries, m.key ≠ "") →
      Succeeds (Condition.ofJson (.single "$indexEntries" (.object entries))) →
      (isMatch (.object members) (.single "$indexEntries" (.object entries))).result =
        ((entries.map fun m =>
          (isMatch (.object members) (.single (Path.quoted m.key) m.value)).result).find?
            fun result => result.toOption != some true).getD (.ok true) := by
  constructor
  · intro key hkey
    rw [Cursor.follow_quoted hkey rfl]
    rfl
  · intro entries hkeys hread
    have hmembers := List.map_congr_left fun m hm =>
      (result_isMatch_quoted members (hkeys m hm) m.value).symm
    rw [result_isMatch_entries members hread, hmembers]

section
attribute [local instance] Pattern.Engine.plain

/-- Members whose keys look like an operator, like paths and like a quoted segment. The reference climbs
from a field of the third one. All hold but the last condition, which decides. -/
theorem isMatch_entries_by_paths_literal :
    (∀ m ∈ [⟨"$x", .ofNat 1⟩, ⟨"^q", .single "$exists" (.bool false)⟩,
      ⟨"a.b", .single "n" (.single "$gt" (.single "$field" (.string "../../$x")))⟩,
      (⟨"it's", .ofNat 2⟩ : Member)], m.key ≠ "") ∧
    Path.quoted "it's" = "\"it\\'s\"" ∧
    (Cursor.root (.value (.object [⟨"it's", .null⟩]))).follow "\"it\\'s\"" =
      .ok (.child (.root (.value (.object [⟨"it's", .null⟩]))) "it's" (.value .null)) ∧
    Succeeds (Condition.ofJson (.single "$indexEntries" (.object [⟨"$x", .ofNat 1⟩,
      ⟨"^q", .single "$exists" (.bool false)⟩,
      ⟨"a.b", .single "n" (.single "$gt" (.single "$field" (.string "../../$x")))⟩,
      ⟨"it's", .ofNat 2⟩]))) ∧
    (isMatch (.object [⟨"$x", .ofNat 1⟩, ⟨"a.b", .single "n" (.ofNat 3)⟩, ⟨"it's", .null⟩])
      (.single "$indexEntries" (.object [⟨"$x", .ofNat 1⟩, ⟨"^q", .single "$exists" (.bool false)⟩,
        ⟨"a.b", .single "n" (.single "$gt" (.single "$field" (.string "../../$x")))⟩,
        ⟨"it's", .ofNat 2⟩]))).result = .ok false := by
  have hquoted : Path.quoted "it's" = "\"it\\'s\"" := rfl
  have hread : Succeeds (Condition.ofJson (.single "$indexEntries" (.object [⟨"$x", .ofNat 1⟩,
      ⟨"^q", .single "$exists" (.bool false)⟩,
      ⟨"a.b", .single "n" (.single "$gt" (.single "$field" (.string "../../$x")))⟩,
      ⟨"it's", .ofNat 2⟩]))) := ⟨_, rfl⟩
  have hleads := (isMatch_entries_by_paths [⟨"it's", .null⟩]).1 "it's" (by decide)
  have hentries := (isMatch_entries_by_paths
    [⟨"$x", .ofNat 1⟩, ⟨"a.b", .single "n" (.ofNat 3)⟩, ⟨"it's", .null⟩]).2 _ (by decide) hread
  exact ⟨by decide, hquoted, hleads, hread, hentries⟩

end

end Sift
