import TextCursor.Benchmark.Probe

/-!
Contract: the benchmark as a command.

Owns: the system clock and the error stream. Everything else is decided by the plan.
-/

namespace TextCursor.Benchmark

def Stage.label : Stage → String
  | cases => "cases"
  | overview => "overview"
  | report => "report"

/-- Reads the system clock, writes to the error stream, and does the work each time. -/
def systemHost : Host IO where
  clock := return .ofRatio false (← IO.monoNanosNow) 1000000000
  emit stage record :=
    IO.eprintln s!"[{record.level.label}] [{stage.label}] {record.message}"
  prepare work := return ExceptT.mk (IO.lazyPure work)

def fullPlan : Plan where
  warmup := defaultWarmup
  runs := defaultRuns
  texts := texts.map fun text => (text.1, .text text.2.toList)
  operations := operations
  document := none

end TextCursor.Benchmark

open TextCursor.Benchmark in
def main : IO UInt32 := do
  match ← (run systemHost fullPlan).run with
  | .ok () => return 0
  | .error failure =>
      IO.eprintln failure.message
      return 1
