import TextCursor.Cursor.Pop
import TextCursor.Log
import TextCursor.Template.Program

/-!
Contract: readers, which apply templates, and the pool in which they can apply each other.

Owns: the scratch cursors and the flag of each reader, the log, and the application of a reader
to an input.

A reader has one scratch cursor for the input and one for the literal, and uses them for every
application. While an application is under way the flag is set, and any other application of
the same reader is refused before anything is touched. The flag is cleared however the
application ends. Hence at most as many applications are nested as there are readers, and this
number bounds the recursion.
-/

namespace TextCursor.Template

structure Reader where
  template : Template
  buffer : Cursor
  delimiter : Cursor
  running : Bool
  filled : List Nat

def blankCursor : Cursor := { source := [], start := 0, size := 0 }

def Reader.new (template : Template) : Reader where
  template := template
  buffer := blankCursor
  delimiter := blankCursor
  running := false
  filled := template.slots.map fun _ => 0

structure Pool where
  readers : List Reader := []
  log : List Log.Record := []

namespace Pool

/-- A place that holds no reader answers like a template without slots. -/
def reader (pool : Pool) (id : Nat) : Reader := pool.readers.getD id (.new ⟨[], []⟩)

def update (pool : Pool) (id : Nat) (change : Reader → Reader) : Pool :=
  { pool with readers := pool.readers.modify id change }

def setRunning (pool : Pool) (id : Nat) (running : Bool) : Pool :=
  pool.update id fun reader => { reader with running }

/-- The number of readers that could begin an application. -/
def idle (pool : Pool) : Nat := pool.readers.countP fun reader => !reader.running

end Pool

/-- A computation over a pool. What it did to the pool is kept also where it fails. -/
abbrev Run (α : Type) := ExceptT Error (StateM Pool) α

namespace Run

/-- What a computation yields, and the pool it leaves behind. -/
def on {α : Type} (body : Run α) (pool : Pool) : Except Error α × Pool :=
  (ExceptT.run body).run pool

/-- The computation that does to each pool what is given. -/
def ofFunction {α : Type} (result : Pool → Except Error α × Pool) : Run α := ExceptT.mk result

@[simp] theorem on_ofFunction {α : Type} (result : Pool → Except Error α × Pool) (pool : Pool) :
    (ofFunction result).on pool = result pool := rfl

@[simp] theorem on_pure {α : Type} (value : α) (pool : Pool) :
    (pure value : Run α).on pool = (.ok value, pool) := rfl

@[simp] theorem on_throw {α : Type} (error : Error) (pool : Pool) :
    (throw error : Run α).on pool = (.error error, pool) := rfl

@[simp] theorem on_get (pool : Pool) : (get : Run Pool).on pool = (.ok pool, pool) := rfl

@[simp] theorem on_modify (change : Pool → Pool) (pool : Pool) :
    (modify change : Run Unit).on pool = (.ok (), change pool) := rfl

@[simp] theorem on_liftExcept {α : Type} (outcome : Except Error α) (pool : Pool) :
    (liftExcept outcome : Run α).on pool = (outcome, pool) := by
  cases outcome <;> rfl

@[simp] theorem on_bind {α β : Type} (body : Run α) (next : α → Run β) (pool : Pool) :
    (body >>= next).on pool =
      match body.on pool with
      | (.ok value, after) => (next value).on after
      | (.error error, after) => (.error error, after) := by
  simp only [on, ExceptT.run_bind, StateT.run_bind]
  rcases (ExceptT.run body).run pool with ⟨_ | _, _⟩ <;> rfl

def log (level : Log.Level) (message : String) : Run Unit :=
  modify fun pool => { pool with log := pool.log ++ [⟨level, message⟩] }

/-- The outcome of a computation, which is not let pass if it is an error. -/
def outcomeOf {α : Type} (body : Run α) : Run (Except Error α) :=
  ofFunction fun pool =>
    let result := body.on pool
    (.ok result.1, result.2)

/-- Runs a step on the scratch cursor of a reader, and yields its outcome. -/
def onBuffer {α : Type} (id : Nat) (step : Edit α) : Run (Except Error α) := do
  let result := step.on ((← get).reader id).buffer
  modify (·.update id fun reader => { reader with buffer := result.2 })
  return result.1

/-- Runs a step on the delimiter cursor of a reader, and yields its outcome. -/
def onDelimiter {α : Type} (id : Nat) (step : Edit α) : Run (Except Error α) := do
  let result := step.on ((← get).reader id).delimiter
  modify (·.update id fun reader => { reader with delimiter := result.2 })
  return result.1

def load (id : Nat) : Input → Run Unit
  | .text text => do liftExcept (← onBuffer id (Cursor.reopen (some text)))
  | .cursor cursor => do liftExcept (← onBuffer id (Cursor.adopt cursor))

/-- What is reported where a literal is not found. -/
def missingMessage (literal remaining : Text) : String :=
  s!"Literal {String.ofList literal.quoted} missing from {String.ofList remaining.quoted}"

/-- Moves the scratch cursor past the next occurrence of a literal. -/
def seek (id : Nat) (literal : Text) : Run Unit := do
  liftExcept (← onDelimiter id (Cursor.reopen (some literal)))
  let needle := ((← get).reader id).delimiter.content
  match ← liftExcept (← onBuffer id (Cursor.popBefore? needle)) with
  | some _ => return ()
  | none =>
      let remaining := ((← get).reader id).buffer.content
      log .debug (missingMessage literal remaining)
      throw (.literalMissing literal remaining)

def program (apply : Nat → Input → Run (List Value)) (id : Nat) : Program → Run Value
  | .finish outcome => liftExcept outcome
  | .edit step next => do program apply id (next (← onBuffer id step))
  | .apply reader input next => do
      let outcome ← outcomeOf (apply reader (input ((← get).reader id).buffer))
      program apply id (next outcome)

/-- Counts one more use of a slot, and yields the number of uses before. -/
def countUse (id index : Nat) : Run Nat := do
  let earlier := ((← get).reader id).filled.getD index 0
  modify (·.update id fun reader =>
    { reader with filled := reader.filled.modify index (· + 1) })
  return earlier

/-- Fills slots in order, beginning with the slot at `index`. -/
def fill (apply : Nat → Input → Run (List Value)) (id : Nat) : List Slot → (index : Nat) →
    Run (List Value)
  | [], _ => return []
  | slot :: later, index => do
      seek id slot.literal
      let earlier ← countUse id index
      let value ← program apply id (slot.parser.program id earlier)
      return value :: (← fill apply id later (index + 1))

/-- Applies a reader, with at most `depth` applications nested in each other. -/
def applyWithin : (depth : Nat) → Nat → Input → Run (List Value)
  | 0, _, _ => throw .alreadyRunning
  | depth + 1, id, input => ofFunction fun pool =>
      if (pool.reader id).running then (.error .alreadyRunning, pool)
      else
        let body : Run (List Value) := do
          load id input
          fill (applyWithin depth) id (pool.reader id).template.slots 0
        let result := body.on (pool.setRunning id true)
        (result.1, result.2.setRunning id false)

def apply (id : Nat) (input : Input) : Run (List Value) :=
  ofFunction fun pool => (applyWithin pool.idle id input).on pool

end Run

end TextCursor.Template
