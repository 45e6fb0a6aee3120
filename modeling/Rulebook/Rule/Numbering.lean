/-!
# Numbering rule objects

Rule objects are told apart by their numbers, so each new object has to get a
number that no object had before.  A computation that makes rule objects
therefore carries the next free number along.
-/

namespace Rulebook

/-- A computation that may fail and that may take fresh numbers. -/
abbrev Numbering (ε α : Type) : Type :=
  StateT Nat (Except ε) α

namespace Numbering

variable {ε α : Type}

def fresh : Numbering ε Nat :=
  modifyGet fun next => (next, next + 1)

/-- Go on with a result, or fail with a defect of one's own kind. -/
def check {δ : Type} (wrap : δ → ε) (result : Except δ α) : Numbering ε α :=
  match result with
  | .ok value => pure value
  | .error defect => throw (wrap defect)

end Numbering

end Rulebook
