import Sift.Reference

/-!
# Where references lead

How `Cursor.resolve` takes a reference apart: one that starts with `^` is followed from the top of
the tree, whichever cursor it is met at, and one that is local is followed from that cursor.
-/

namespace Sift

/-- The reference starts neither at the root nor at a parent. -/
def Reference.IsLocal (r : Reference) : Prop :=
  ¬['^'] <+: r.path.toList ∧ ¬['.', '.', '/'] <+: r.path.toList

instance (r : Reference) : Decidable r.IsLocal :=
  inferInstanceAs (Decidable (_ ∧ _))

namespace Cursor

theorem afterRoot?_caret (path : String) : afterRoot? ("^" ++ path) = some path := by
  have hlist : ("^" ++ path).toList = '^' :: path.toList := String.toList_append
  unfold afterRoot?
  rw [hlist]
  simp only [String.ofList_toList]

theorem afterRoot?_eq_none {path : String} (h : ¬['^'] <+: path.toList) :
    afterRoot? path = none := by
  unfold afterRoot?
  split
  next rest hpath =>
    rw [hpath] at h
    exact absurd (List.prefix_append ['^'] rest) h
  · rfl

theorem afterParent?_eq_none {path : String} (h : ¬['.', '.', '/'] <+: path.toList) :
    afterParent? path = none := by
  unfold afterParent?
  split
  next rest hpath =>
    rw [hpath] at h
    exact absurd (List.prefix_append ['.', '.', '/'] rest) h
  · rfl

theorem resolve_caret (c : Cursor) (path : String) :
    c.resolve ("^" ++ path) = c.top.descendPath path := by
  unfold resolve
  rw [afterRoot?_caret]

theorem resolve_of_isLocal {r : Reference} (h : r.IsLocal) (c : Cursor) :
    c.resolve r.path = c.descendPath r.path := by
  unfold resolve
  rw [afterRoot?_eq_none h.1, afterParent?_eq_none h.2]

end Cursor

end Sift
