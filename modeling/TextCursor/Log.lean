/-!
Contract: what the library reports while it works.

Owns: levels of importance and log records. Writing them anywhere is up to the caller.
-/

namespace TextCursor

namespace Log

inductive Level where
  | debug
  | info
  | warning
  | error
  | critical
deriving DecidableEq, Repr

def Level.rank : Level → Nat
  | debug => 0
  | info => 1
  | warning => 2
  | error => 3
  | critical => 4

def Level.label : Level → String
  | debug => "DEBUG"
  | info => "INFO"
  | warning => "WARNING"
  | error => "ERROR"
  | critical => "CRITICAL"

structure Record where
  level : Level
  message : String
deriving DecidableEq, Repr

/-- Whether a record is important enough for a threshold. -/
def Record.reaches (record : Record) (threshold : Level) : Bool :=
  threshold.rank ≤ record.level.rank

end Log

end TextCursor
