import SupplyPlatform.Lib.Table

namespace SupplyPlatform

/-- Instants on one clock, shared by the services and by PostgreSQL, in nanoseconds. -/
abbrev Time := Int

def second : Int := 1000000000

/-- What the driver reports when a statement or a scan fails. -/
inductive DbError
  | uniqueViolation
  | checkViolation
  | numericOverflow
  | invalidJson
  | invalidEncoding
  | noRows
  | scanNull
  | connection
  deriving DecidableEq

/-- Errors of the repositories: `fmt.Errorf("context: %w", cause)`, the same with a second error
behind it, or a bare message. -/
inductive RepoError
  | wrap (context : String) (cause : DbError)
  | wrapGet (context : String) (cause : DbError) (getErr : RepoError)
  | message (text : String)
  deriving DecidableEq

/-- pgx decoding a nullable column into a destination that is not a pointer: NULL is refused. -/
def scan {α : Type} : Option α → Except DbError α
  | some x => .ok x
  | none => .error .scanNull

/-- How a store call ends for its caller: without error, with an error and no effect, or with an
error although the statement took effect. -/
inductive Fault
  | none
  | unapplied
  | applied
  deriving DecidableEq

end SupplyPlatform
