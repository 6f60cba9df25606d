/-!
# Computations that keep a record

A `Recorded ω ε α` is what a computation noted on its way, in order, and how it ended: with a
value, or with an error. The record of a computation that fails is kept. Running one after the
other appends the records (`bind`), and after an error nothing more is run.
-/

namespace Sift

/-- A record of what was done, and a value or the error that ended it. -/
structure Recorded (ω ε α : Type) where
  log : List ω
  result : Except ε α

namespace Recorded

variable {ω ε α β : Type}

def pure (a : α) : Recorded ω ε α :=
  ⟨[], .ok a⟩

def bind (x : Recorded ω ε α) (f : α → Recorded ω ε β) : Recorded ω ε β :=
  match x.result with
  | .ok a => ⟨x.log ++ (f a).log, (f a).result⟩
  | .error e => ⟨x.log, .error e⟩

instance : Monad (Recorded ω ε) where
  pure := pure
  bind := bind

/-- End as a plain computation does, noting nothing. -/
def ofExcept (x : Except ε α) : Recorded ω ε α :=
  ⟨[], x⟩

instance : MonadLift (Except ε) (Recorded ω ε) where
  monadLift := ofExcept

def note (w : ω) : Recorded ω ε Unit :=
  ⟨[w], .ok ()⟩

end Recorded

end Sift
