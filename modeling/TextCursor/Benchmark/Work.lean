import TextCursor.Benchmark.Loop
import TextCursor.Benchmark.Misfit
import TextCursor.Script.Operation
import TextCursor.Template.Builder

/-!
Contract: the work that a benchmark measures.

Owns: the sample texts, the operations, and the greeting, which is read by a template.
-/

namespace TextCursor.Benchmark

def repeated (count : Nat) (text : String) : String :=
  String.join (List.replicate count text)

/-- The sample texts, in the order in which they are used. -/
def texts : List (String × String) :=
  [("small_ascii", "hello world"),
   ("large_ascii", repeated 100 "hello world"),
   ("small_mixed", "Hello 👋 世界"),
   ("large_mixed", repeated 100 "Hello 👋 世界 "),
   ("whitespace", "   \t\n\rHello   World   \t\n\r"),
   ("integers", "123 -456 +789 abc 101112"),
   ("floats", "123.456 -789.012 +345.678 abc 901.234"),
   ("complex_emoji", "👨‍👩‍👧‍👦 👨🏻‍💻 🏳️‍🌈")]

/-- An operation on a text, under the name by which it is reported. -/
structure Operation where
  name : String
  need : Need
  run : Text → Except Error Script.Value

private def discarding {α : Type} (run : Text → Except Error α) (text : Text) :
    Except Error Script.Value := do
  let _ ← run text
  return .nothing

/-- The first clusters of a text, each read by a cursor of its own. -/
def firstClusters (count : Nat) (text : Text) : Except Error (List Text) :=
  (List.range count).mapM fun (index : Nat) => onText text (Cursor.clusterAt index)

def operations : List Operation :=
  [⟨"create", .size, fun text => return .cursor (← Cursor.ofText text 0 none)⟩,
   ⟨"char_at", .clusters, fun text => return .texts (← firstClusters 10 text)⟩,
   ⟨"iterate", .clusters, fun text => return .int (← onText text Cursor.clusterTexts).length⟩,
   ⟨"trim", .clusters, fun text => return .cursor (← onText text Cursor.trim)⟩,
   ⟨"chop_int", .integers, discarding (collectNumbers Cursor.popInt?)⟩,
   ⟨"chop_float", .decimals, discarding (collectNumbers Cursor.popDecimal?)⟩,
   ⟨"chop_by_delimiter", .clustersIfAny, discarding (splitFields [' '])⟩]

/-- Runs an operation on a configured text, which may be of any shape. -/
def Operation.runOn (operation : Operation) : Datum → Except Failure Unit
  | .text text => do
      let _ ← (operation.run text).mapError Failure.work
  | .list items => Misfit.onList items operation.need
  | .table entries => Misfit.onTable entries operation.need
  | datum => .error (.noLength (kindOf datum))

def greetingParts : List Template.Part :=
  [.literal "Hello ".toList, .slot (.candidate (.shorthand .int)),
   .literal " World ".toList, .slot (.candidate (.shorthand .decimal)),
   .literal " ".toList, .slot (.candidate (.shorthand .word))]

def greet (text : Text) : Except Error (List Template.Value) :=
  let body : Template.Run (List Template.Value) := do
    Template.Run.apply (← Template.Run.buildParts greetingParts) (.text text)
  (body.on {}).1

def greetingWritten : Text :=
  let body : Template.Run Text := do
    let id ← Template.Run.buildParts greetingParts
    return ((← get).reader id).template.written
  match (body.on {}).1 with
  | .ok text => text
  | .error error => error.message.toList

def greeting : String := "Hello 123 World 456.789 Foo"

end TextCursor.Benchmark
