/-!
# Tests along a sequence

Combinators over a finite sequence whose callback gets an item and its index and runs in a monad,
so that it may fail. `allMatch` and `anyMatch` stop at the item that decides; `singleMatch`,
`filter` and `reduce` go through the whole sequence. The first failure ends each of them.
-/

namespace Sift.Sequence

variable {m : Type → Type} [Monad m] {α σ : Type}

/-- Whether every item passes, the first one having index `i`. -/
def allMatchFrom (test : α → Nat → m Bool) (i : Nat) : List α → m Bool
  | [] => pure true
  | a :: rest => do
    if ← test a i then allMatchFrom test (i + 1) rest else pure false

def allMatch (test : α → Nat → m Bool) (items : List α) : m Bool :=
  allMatchFrom test 0 items

def anyMatchFrom (test : α → Nat → m Bool) (i : Nat) : List α → m Bool
  | [] => pure false
  | a :: rest => do
    if ← test a i then pure true else anyMatchFrom test (i + 1) rest

def anyMatch (test : α → Nat → m Bool) (items : List α) : m Bool :=
  anyMatchFrom test 0 items

/-- The items that pass, in order, the first item having index `i`. -/
def filterFrom (test : α → Nat → m Bool) (i : Nat) : List α → m (List α)
  | [] => pure []
  | a :: rest => do
    if ← test a i then
      let kept ← filterFrom test (i + 1) rest
      pure (a :: kept)
    else filterFrom test (i + 1) rest

def filter (test : α → Nat → m Bool) (items : List α) : m (List α) :=
  filterFrom test 0 items

/-- Combine the items from the left, the first one having index `i`. -/
def reduceFrom (combine : σ → α → Nat → m σ) (i : Nat) (state : σ) : List α → m σ
  | [] => pure state
  | a :: rest => do
    let state ← combine state a i
    reduceFrom combine (i + 1) state rest

def reduce (combine : σ → α → Nat → m σ) (state : σ) (items : List α) : m σ :=
  reduceFrom combine 0 state items

def singleMatch (test : α → Nat → m Bool) (items : List α) : m Bool := do
  let count ← reduce (fun count a i => do
    if ← test a i then pure (count + 1) else pure count) 0 items
  pure (count == 1)

def elementAt (items : List α) (i : Nat) : Option α :=
  items[i]?

end Sift.Sequence
