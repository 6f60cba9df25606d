import Mathlib
import Sift.Proofs.Cursor.Navigation

/-!
# The path determines the node

`Json.lookup` walks along a path from a value, a segment at a time: to the member with that key, the
element at that position or the character at that position. A cursor that was reached from the root
of a value by fields, keys, paths, elements and references, and by climbs to parents and to the root,
is at what its path looks up (`Cursor.node_eq_lookup`), however it got there.

The invariant is `Cursor.Traced`: each cursor on the way stands where its segment leads from the one
before. It speaks of all ancestors, since a climb makes one of them the current cursor.
-/

namespace Sift

/-! ## Looking up a path -/

namespace Json

def decimal? (digits : List Char) : Option Nat :=
  if digits ≠ [] ∧ ∀ c ∈ digits, c.isDigit then some (Nat.ofDigitChars 10 digits 0) else none

/-- The number that a segment writes in decimal, after a plus sign or not. Leading zeros may
stand. -/
def numeral? (segment : String) : Option Nat :=
  decimal? (match segment.toList with
    | '+' :: digits => digits
    | digits => digits)

/-- What a segment leads to in a value: a member, an element or a character. -/
def part? (segment : String) : Json → Option Json
  | .object members => Member.lookup segment members
  | .array elements => (numeral? segment).bind fun i => elements[i]?
  | .string s => (numeral? segment).bind fun i => s.toList[i]?.map ofChar
  | _ => none

def lookup (v : Json) : List String → Option Json
  | [] => some v
  | segment :: rest => (v.part? segment).bind fun w => w.lookup rest

theorem lookup_concat (v : Json) (path : List String) (segment : String) :
    v.lookup (path ++ [segment]) = (v.lookup path).bind (part? segment) := by
  induction path generalizing v with
  | nil =>
    rw [List.nil_append, lookup, lookup, Option.bind_some]
    cases v.part? segment <;> rfl
  | cons first rest ih =>
    rw [List.cons_append, lookup, lookup, Option.bind_assoc]
    congr 1
    funext w
    exact ih w

theorem toList_index (i : Nat) : (toString i).toList = Nat.toDigits 10 i := by
  rw [Nat.toString_eq_ofList_toDigits, String.toList_ofList]

theorem numeral?_toString (i : Nat) : numeral? (toString i) = some i := by
  have hdigit : ∀ c ∈ Nat.toDigits 10 i, c.isDigit := fun c hc =>
    Nat.isDigit_of_mem_toDigits (by decide) (by decide) hc
  unfold numeral?
  rw [toList_index]
  split
  next digits heq =>
    rw [heq] at hdigit
    exact absurd (hdigit '+' List.mem_cons_self) (by decide)
  next =>
    rw [decimal?, if_pos ⟨Nat.toDigits_ne_nil, hdigit⟩, Nat.ofDigitChars_ten_toDigits]

end Json

theorem Cursor.index?_eq_numeral? (segment : String) : index? segment = Json.numeral? segment := by
  have hdigits : ∀ digits : List Char,
      (if !digits.isEmpty && digits.all Char.isDigit then
        some (digits.foldl (fun value c => value * 10 + (c.toNat - '0'.toNat)) 0)
      else none) = Json.decimal? digits := by
    intro digits
    rw [Json.decimal?, Nat.ofDigitChars_eq_foldl]
    congr 1
    · simp
    · simp [Nat.mul_comm]
  unfold index? Json.numeral?
  exact hdigits _

/-! ## Steps follow segments -/

namespace Node

/-- The node that a segment leads to. Where there is no value, nothing follows. -/
def below (segment : String) (node : Node) : Node :=
  .ofOption (node.value?.bind (Json.part? segment))

theorem value?_ofOption (v : Option Json) : (ofOption v).value? = v := by
  cases v <;> rfl

theorem isPresent_ofOption (v : Option Json) : (ofOption v).isPresent = v.isSome := by
  cases v <;> rfl

theorem eq_below_of_field? {name : String} {node next : Node} (h : node.field? name = some next) :
    next = node.below name := by
  unfold field? at h
  split at h
  case h_5 => cases h
  case h_4 =>
    cases h
    rw [Cursor.index?_eq_numeral?]
    rfl
  all_goals
    cases h
    rfl

theorem eq_below_of_element? {i : Nat} {node next : Node} (h : node.element? i = some next) :
    next = node.below (toString i) := by
  unfold element? at h
  split at h
  case h_3 => cases h
  all_goals
    cases h
    simp only [below, value?, Option.bind_some, Json.part?, Json.numeral?_toString]

theorem below_eq_absent (segment : String) {node : Node} (h : node.isPresent = false) :
    node.below segment = .absent := by
  cases node with
  | absent => rfl
  | _ => cases h

end Node

namespace Cursor

/-- Each cursor on the way from the root of a value is where its segment leads from the one
before. -/
inductive Traced (v : Json) : Cursor → Prop where
  | root : Traced v (.root (.value v))
  | child {parent : Cursor} (segment : String) (h : Traced v parent) :
      Traced v (.child parent segment (parent.node.below segment))

theorem Traced.node_eq {v : Json} {c : Cursor} (h : Traced v c) :
    c.node = .ofOption (v.lookup c.path) := by
  induction h with
  | root => rfl
  | child segment _ ih =>
    rw [node, path, Json.lookup_concat, Node.below, ih, Node.value?_ofOption]

/-! ## Steps keep the trace -/

theorem kept_traced (v : Json) : Kept (Traced v) where
  atField := by
    intro c name node h hnode
    rw [Node.eq_below_of_field? hnode]
    exact .child name h
  atElement := by
    intro c i node h hnode
    rw [Node.eq_below_of_element? hnode]
    exact .child (toString i) h
  belowAbsent := by
    intro c segment h habsent
    rw [← Node.below_eq_absent segment habsent]
    exact .child segment h
  atParent := by
    intro parent segment node h
    cases h with
    | child _ h => exact h

/-! ## Runs -/

def ReachedFrom (v : Json) (c : Cursor) : Prop :=
  Relation.ReflTransGen Move (.root (.value v)) c

theorem Traced.move {v : Json} {c d : Cursor} (h : Traced v c) (hmove : Move c d) :
    Traced v d :=
  (kept_traced v).move h hmove

theorem ReachedFrom.traced {v : Json} {c : Cursor} (h : ReachedFrom v c) : Traced v c := by
  induction h with
  | refl => exact .root
  | tail _ hmove ih => exact ih.move hmove

/-- A cursor is at what its path looks up in the value that navigation started from. So cursors with
one path are at one node. -/
theorem node_eq_lookup {v : Json} {c : Cursor} (h : ReachedFrom v c) :
    c.node = .ofOption (v.lookup c.path) ∧
      (c.isPresent = true ↔ (v.lookup c.path).isSome = true) ∧
      ∀ d, ReachedFrom v d → d.path = c.path → d.node = c.node := by
  have hnode := h.traced.node_eq
  refine ⟨hnode, ?_, fun d hd hpath => ?_⟩
  · rw [isPresent, hnode, Node.isPresent_ofOption]
  · rw [hd.traced.node_eq, hnode, hpath]

/-- Down to a character of the only element and back up to that element, by another segment. -/
theorem node_eq_lookup_climb :
    ReachedFrom (.array [.string "xy"])
        (.child (.root (.value (.array [.string "xy"]))) "+00" (.value (.string "xy"))) ∧
      Node.value (.string "xy") = .ofOption ((Json.array [.string "xy"]).lookup ["+00"]) := by
  have helement : ReachedFrom (.array [.string "xy"])
      (.child (.root (.value (.array [.string "xy"]))) "0" (.value (.string "xy"))) :=
    .single (.element 0 rfl)
  have hcharacter : ReachedFrom (.array [.string "xy"])
      (.child (.child (.root (.value (.array [.string "xy"]))) "0" (.value (.string "xy"))) "1"
        (.value (.ofChar 'y'))) :=
    helement.tail (.element 1 rfl)
  have hback : ReachedFrom (.array [.string "xy"])
      (.child (.root (.value (.array [.string "xy"]))) "+00" (.value (.string "xy"))) :=
    hcharacter.tail (.resolve ⟨"../../+00"⟩ rfl)
  exact ⟨hback, (node_eq_lookup hback).1⟩

end Cursor

end Sift
