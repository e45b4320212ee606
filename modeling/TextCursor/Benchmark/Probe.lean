import TextCursor.Benchmark.Cases
import TextCursor.Benchmark.Statistics
import TextCursor.Benchmark.Work

/-!
Contract: a benchmark run over any clock.

Owns: the measurement of a task, the order of the runs, and the lines reported.

Does not own: the clock, the place where lines go, and whether work is done once or each time it
is measured. A host supplies them.
-/

namespace TextCursor.Benchmark

/-- The part of a run that a line comes from. -/
inductive Stage where
  | cases
  | overview
  | report
deriving DecidableEq, Repr

structure Host (m : Type → Type) where
  /-- The time in seconds. -/
  clock : m Binary64
  emit : Stage → Log.Record → m Unit
  /-- Makes a piece of work into a task that can be repeated. -/
  prepare : (Unit → Except Failure Unit) → m (ExceptT Failure m Unit)

def repeatTask {m : Type → Type} [Monad m] (task : m Unit) : Nat → m Unit
  | 0 => return ()
  | count + 1 => do
      task
      repeatTask task count

def timeTask {m : Type → Type} [Monad m] (clock : m Binary64) (task : m Unit) :
    Nat → m (List Binary64)
  | 0 => return []
  | count + 1 => do
      let before ← clock
      task
      let after ← clock
      return after.minus before :: (← timeTask clock task count)

/-- The times of `runs` runs after `warmup` runs that are not timed. Negative counts mean
none. -/
def measure {m : Type → Type} [Monad m] (clock : m Binary64) (task : m Unit)
    (warmup runs : Int) : m (List Binary64) := do
  repeatTask task warmup.toNat
  timeTask clock task runs.toNat

structure Plan where
  warmup : Int
  runs : Int
  texts : List (String × Datum)
  operations : List Operation
  /-- A document with further texts, and where it comes from. -/
  document : Option (String × List (Text × Datum))

def defaultWarmup : Int := 100

def defaultRuns : Int := 1000

def logLayout : String :=
  "%(asctime)s [%(levelname)s] [%(module)s:%(funcName)s %(lineno)s] %(message)s"

/-- The line that announces a run over so many texts. -/
def overview (plan : Plan) (textCount : Nat) : String :=
  s!"Running {plan.operations.length} operations over {textCount} inputs " ++
    s!"({plan.warmup} warmup, {plan.runs} runs)"

section

variable {m : Type → Type} [Monad m] (host : Host m)

def measureAndReport (plan : Plan) (name : String) (work : Unit → Except Failure Unit) :
    ExceptT Failure m Unit := do
  let task ← host.prepare work
  let times ← measure host.clock task plan.warmup plan.runs
  let line ← liftExcept (summary name times)
  host.emit .report ⟨.info, line⟩

/-- The texts of a plan and of its document. -/
def allTexts (plan : Plan) : ExceptT Failure m (List (String × Datum)) := do
  match plan.document with
  | none => return plan.texts
  | some (path, document) =>
      let found := casesOf path document
      for record in found.1 do
        host.emit .cases record
      return withCases plan.texts (← liftExcept found.2)

/-- Runs every operation on every text, and the greeting at the end. -/
def run (plan : Plan) : ExceptT Failure m Unit := do
  let texts ← allTexts host plan
  host.emit .overview ⟨.info, overview plan texts.length⟩
  for operation in plan.operations do
    for text in texts do
      measureAndReport host plan (operation.name ++ "/" ++ text.1) fun _ =>
        operation.runOn text.2
  measureAndReport host plan "extract" fun _ => do
    let _ ← (greet greeting.toList).mapError Failure.work

end

end TextCursor.Benchmark
