import Sift.Error
import Sift.Sequence.Basic

/-!
# Lazy chains

A `Chain` describes a sequence: given items, and stages that map or filter what arrives. Nothing
runs until the chain is consumed, and then one item at a time goes through all stages (`walk`). A
stage's callback gets the item and the number of items that arrived at this stage before it.

`all` and `any` stop at the item that decides, the other ways to consume a chain take all of it,
and the first failure ends each of them.
-/

namespace Sift

/-- A sequence of `α` that is produced lazily, in a monad. -/
inductive Chain (m : Type → Type) : Type → Type 1 where
  | items {α : Type} (xs : List α) : Chain m α
  | map {α β : Type} (source : Chain m α) (f : α → Nat → m β) : Chain m β
  | filter {α : Type} (source : Chain m α) (test : α → Nat → m Bool) : Chain m α

namespace Chain

variable {m : Type → Type} [Monad m]

/-- Filter only if there is something to filter by. -/
def maybeFilter {α χ : Type} (source : Chain m α) (x : Option χ) (test : χ → α → Nat → m Bool) :
    Chain m α :=
  match x with
  | some x => source.filter (test x)
  | none => source

/-- Go through a list from index `i`, carrying a state, until the visitor is done. -/
def walkList {α σ : Type} (visit : σ → α → Nat → m (ForInStep σ)) (i : Nat) (state : σ) :
    List α → m σ
  | [] => pure state
  | a :: rest => do
    match ← visit state a i with
    | .done state => pure state
    | .yield state => walkList visit (i + 1) state rest

/-- Keep a count beside the state of a visitor. -/
def withCount {σ : Type} (count : Nat) : ForInStep σ → ForInStep (σ × Nat)
  | .done state => .done (state, count)
  | .yield state => .yield (state, count)

/-- Go through the items that come out of a chain, carrying a state, until the visitor is done.
Each item has gone through all stages before the next one enters the first. -/
def walk {α : Type} (chain : Chain m α) {σ : Type} (visit : σ → α → Nat → m (ForInStep σ))
    (state : σ) : m σ :=
  match chain with
  | .items xs => walkList visit 0 state xs
  | .map source f =>
    source.walk (fun state a i => do
      let b ← f a i
      visit state b i) state
  | .filter source test => do
    let (state, _) ← source.walk (fun (state, count) a i => do
      if ← test a i then
        let next ← visit state a count
        pure (withCount (count + 1) next)
      else pure (.yield (state, count))) (state, 0)
    pure state

def reduce {α σ : Type} (chain : Chain m α) (combine : σ → α → Nat → m σ) (state : σ) : m σ :=
  chain.walk (fun state a i => do
    let state ← combine state a i
    pure (.yield state)) state

def toList {α : Type} (chain : Chain m α) : m (List α) := do
  let reversed ← chain.reduce (fun done a _ => pure (a :: done)) []
  pure reversed.reverse

def all {α : Type} (chain : Chain m α) (test : α → Nat → m Bool) : m Bool :=
  chain.walk (fun _ a i => do
    if ← test a i then pure (.yield true) else pure (.done false)) true

def any {α : Type} (chain : Chain m α) (test : α → Nat → m Bool) : m Bool :=
  chain.walk (fun _ a i => do
    if ← test a i then pure (.done true) else pure (.yield false)) false

def single {α : Type} (chain : Chain m α) (test : α → Nat → m Bool) : m Bool := do
  let count ← chain.reduce (fun count a i => do
    if ← test a i then pure (count + 1) else pure count) 0
  pure (count == 1)

/-- The members of an object that has for each item the key and the value computed from it. A key
that comes up again is an error, and the value is not computed then. -/
def toIndex [MonadLift (Except Error) m] {α : Type} (chain : Chain m α) (key : α → String)
    (value : α → m Json) : m (List Member) :=
  chain.reduce (fun index a _ => do
    if (Member.lookup (key a) index).isSome then
      monadLift (Except.error (.duplicateKey (key a)) : Except Error Unit)
    let v ← value a
    pure (Member.insert ⟨key a, v⟩ index)) []

end Chain

end Sift
