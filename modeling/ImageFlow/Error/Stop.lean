/-!
# Early ends

An operation can end early in two ways. It fails with an error, and whoever asked for it can go on;
or it uses memory that is not there, and nothing goes on: neither a pixel beyond the bytes of an
image nor an amount of memory that cannot be addressed has an answer.
-/

namespace ImageFlow

/-- How an operation ends early. -/
inductive Stop (ε : Type)
  /-- It fails with an error. -/
  | failed (error : ε)
  /-- It uses memory that is not there. -/
  | crash
  deriving DecidableEq, Repr

namespace Stop

variable {ε α : Type}

/-- A value that must be there for anything to go on. -/
def need : Option α → Except (Stop ε) α
  | some value => .ok value
  | none => .error .crash

/-- An operation that cannot crash, as one that could. -/
def ofResult : Except ε α → Except (Stop ε) α
  | .ok value => .ok value
  | .error e => .error (.failed e)

end Stop

end ImageFlow
