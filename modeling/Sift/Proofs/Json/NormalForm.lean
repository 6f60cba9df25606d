import Mathlib.Data.List.Perm.Subperm
import Mathlib.Data.List.Forall2
import Sift.Proofs.Json.WellFormed
import Sift.Proofs.Number.Exact

/-!
# Normal forms of values

Equality of values is decided by a walk through both: numbers are compared in one of several ways,
and of two objects only the members of the first are looked up in the second. `Json.normalForm`
turns a value into what is compared: a number into its kind and the quantity it denotes, an array
element by element, an object key by key. Well-formed values are equal exactly when their normal
forms are (`Json.equal_iff`), whatever order the walk takes and whichever side it starts from.
-/

namespace Sift

/-- A value up to the way it is written. -/
inductive NormalForm where
  | null
  | bool (b : Bool)
  | number (kind : Kind) (quantity : ℚ)
  | string (s : String)
  | array (elements : List NormalForm)
  /-- An object, by what is found at each key. -/
  | object (lookup : String → Option NormalForm)

namespace Json

mutual

def normalForm : Json → NormalForm
  | .null => .null
  | .bool b => .bool b
  | .number n => .number n.kind n.toRat
  | .string s => .string s
  | .array elements => .array (normalElements elements)
  | .object members => .object (normalMembers members)

def normalElements : List Json → List NormalForm
  | [] => []
  | v :: rest => v.normalForm :: normalElements rest

/-- The normal form of what is found at a key. -/
def normalMembers : List Member → String → Option NormalForm
  | [], _ => none
  | ⟨key, v⟩ :: rest, name => if key = name then some v.normalForm else normalMembers rest name

end

theorem normalElements_eq_map (elements : List Json) :
    normalElements elements = elements.map normalForm := by
  induction elements with
  | nil => rfl
  | cons v rest ih => rw [normalElements, ih, List.map_cons]

theorem normalMembers_eq_map (members : List Member) (key : String) :
    normalMembers members key = (Member.lookup key members).map normalForm := by
  induction members with
  | nil => rfl
  | cons m rest ih =>
    obtain ⟨name, v⟩ := m
    rw [normalMembers, Member.lookup, ih]
    split <;> rfl

/-! ## Equality, part by part -/

theorem equalElements_iff (xs ys : List Json) :
    equalElements xs ys = true ↔ List.Forall₂ (fun x y => x.equal y = true) xs ys := by
  induction xs generalizing ys with
  | nil => cases ys <;> simp [equalElements]
  | cons x xs ih => cases ys <;> simp [equalElements, ih]

theorem equalMembers_iff (xs ys : List Member) :
    equalMembers xs ys = true ↔
      ∀ m ∈ xs, ∃ y, Member.lookup m.key ys = some y ∧ m.value.equal y = true := by
  induction xs with
  | nil => simp [equalMembers]
  | cons m rest ih =>
    obtain ⟨key, x⟩ := m
    rw [equalMembers, Bool.and_eq_true, ih, List.forall_mem_cons]
    refine and_congr_left fun _ => ?_
    cases Member.lookup key ys <;> simp

theorem forall₂_equal_iff {xs ys : List Json}
    (h : ∀ x ∈ xs, ∀ y ∈ ys, x.equal y = true ↔ x.normalForm = y.normalForm) :
    List.Forall₂ (fun x y => x.equal y = true) xs ys ↔
      xs.map normalForm = ys.map normalForm := by
  rw [← List.forall₂_eq_eq_eq, List.forall₂_map_left_iff, List.forall₂_map_right_iff]
  induction xs generalizing ys with
  | nil => simp
  | cons x xs ih =>
    cases ys with
    | nil => simp
    | cons y ys =>
      rw [List.forall₂_cons, List.forall₂_cons, h x List.mem_cons_self y List.mem_cons_self,
        ih fun x hx y hy => h x (List.mem_cons_of_mem _ hx) y (List.mem_cons_of_mem _ hy)]

/-! ## Objects -/

section Objects
variable {xs ys : List Member}

/-- An object with all keys of another one, and no more members, has no other keys. -/
theorem keys_subset_of_length_eq (hx : Member.Ascending xs) (hlength : xs.length = ys.length)
    (hsub : xs.map Member.key ⊆ ys.map Member.key) : ys.map Member.key ⊆ xs.map Member.key := by
  have hperm : (xs.map Member.key).Perm (ys.map Member.key) := by
    refine (List.subperm_of_subset hx.keys_nodup hsub).perm_of_length_le ?_
    rw [List.length_map, List.length_map, hlength]
  exact hperm.symm.subset

theorem length_eq_of_keys (hx : Member.Ascending xs) (hy : Member.Ascending ys)
    (h : ∀ key, key ∈ xs.map Member.key ↔ key ∈ ys.map Member.key) : xs.length = ys.length := by
  have hperm := (List.perm_ext_iff_of_nodup hx.keys_nodup hy.keys_nodup).mpr h
  simpa using hperm.length_eq

theorem lookup_eq_none_of_subset (hsub : ys.map Member.key ⊆ xs.map Member.key) {key : String}
    (h : Member.lookup key xs = none) : Member.lookup key ys = none := by
  rw [← Option.not_isSome_iff_eq_none, Member.isSome_lookup_iff] at h ⊢
  exact fun hmem => h (hsub hmem)

theorem normalMembers_eq_of_equalMembers (hx : Member.Ascending xs)
    (h : ∀ m ∈ xs, ∀ m' ∈ ys, m.value.equal m'.value = true →
      m.value.normalForm = m'.value.normalForm)
    (hlength : xs.length = ys.length) (hequal : equalMembers xs ys = true) :
    normalMembers xs = normalMembers ys := by
  have hfound := (equalMembers_iff xs ys).mp hequal
  have hsub : xs.map Member.key ⊆ ys.map Member.key := by
    intro key hkey
    obtain ⟨m, hm, rfl⟩ := List.mem_map.mp hkey
    obtain ⟨y, hy, -⟩ := hfound m hm
    exact Member.isSome_lookup_iff.mp (Option.isSome_of_eq_some hy)
  have hback := keys_subset_of_length_eq hx hlength hsub
  funext key
  rw [normalMembers_eq_map, normalMembers_eq_map]
  cases hkey : Member.lookup key xs with
  | some x =>
    have hmem := Member.mem_of_lookup hkey
    obtain ⟨y, hlookup, hxy⟩ := hfound _ hmem
    rw [hlookup]
    exact congrArg some (h _ hmem _ (Member.mem_of_lookup hlookup) hxy)
  | none =>
    rw [lookup_eq_none_of_subset hback hkey]

theorem equalMembers_of_normalMembers_eq (hx : Member.Ascending xs) (hy : Member.Ascending ys)
    (h : ∀ m ∈ xs, ∀ m' ∈ ys, m.value.normalForm = m'.value.normalForm →
      m.value.equal m'.value = true)
    (heq : normalMembers xs = normalMembers ys) :
    xs.length = ys.length ∧ equalMembers xs ys = true := by
  have hlookup : ∀ key, (Member.lookup key xs).map normalForm =
      (Member.lookup key ys).map normalForm := by
    intro key
    rw [← normalMembers_eq_map, ← normalMembers_eq_map, heq]
  rw [equalMembers_iff]
  refine ⟨length_eq_of_keys hx hy fun key => ?_, fun m hm => ?_⟩
  · rw [← Member.isSome_lookup_iff, ← Member.isSome_lookup_iff,
      ← Option.isSome_map (f := normalForm), hlookup, Option.isSome_map]
  · have hm' := hlookup m.key
    rw [Member.lookup_of_mem hx hm, Option.map_some] at hm'
    obtain ⟨y, hlookup', hform⟩ := Option.map_eq_some_iff.mp hm'.symm
    exact ⟨y, hlookup', h m hm _ (Member.mem_of_lookup hlookup') hform.symm⟩

end Objects

/-! ## Values -/

/-- Well-formed values are equal exactly when they have one normal form. -/
theorem equal_iff {a b : Json} (ha : a.WellFormed) (hb : b.WellFormed) :
    a.equal b = true ↔ a.normalForm = b.normalForm := by
  induction ha generalizing b with
  | null => cases hb <;> simp [equal, normalForm]
  | bool x => cases hb <;> simp [equal, normalForm]
  | number m => cases hb <;> simp [equal, normalForm, Number.equal_iff]
  | string s => cases hb <;> simp [equal, normalForm]
  | @array xs parts ih =>
    cases hb with
    | @array ys hys =>
      rw [equal, normalForm, normalForm, NormalForm.array.injEq, equalElements_iff,
        normalElements_eq_map, normalElements_eq_map]
      exact forall₂_equal_iff fun x hx y hy => ih x hx (hys y hy)
    | _ => simp [equal, normalForm]
  | @object xs ascending parts ih =>
    cases hb with
    | @object ys hascending hys =>
      rw [equal, normalForm, normalForm, NormalForm.object.injEq, Bool.and_eq_true, beq_iff_eq]
      constructor
      · rintro ⟨hlength, hequal⟩
        exact normalMembers_eq_of_equalMembers ascending
          (fun m hm m' hm' => (ih m hm (hys m' hm')).mp) hlength hequal
      · exact equalMembers_of_normalMembers_eq ascending hascending
          fun m hm m' hm' => (ih m hm (hys m' hm')).mpr
    | _ => simp [equal, normalForm]

theorem equal_comm {a b : Json} (ha : a.WellFormed) (hb : b.WellFormed) : a.equal b = b.equal a := by
  rw [Bool.eq_iff_iff, equal_iff ha hb, equal_iff hb ha]
  exact eq_comm

end Json

end Sift
