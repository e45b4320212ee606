import TextCursor.Cursor.Trim
import TextCursor.Outcome
import TextCursor.Token

/-!
Contract: the operations of a cursor as data.

Owns: what can be asked of one cursor, with the arguments it needs, and what is answered.

Does not own: names, several cursors, or which operand a caller means.
-/

namespace TextCursor.Script

inductive Value where
  | nothing
  | bool (value : Bool)
  | int (value : Int)
  | real (value : Binary64)
  | text (value : Text)
  | texts (values : List Text)
  /-- A source and a window over it. -/
  | placement (source : Text) (start size : Int)
  | cursor (cursor : Cursor)
  /-- The very cursor that was asked. -/
  | self
  | exhausted
deriving DecidableEq, Repr

/-- What a step answers if it does not fail. -/
inductive Reply where
  | value (value : Value)
  | outcome (outcome : Outcome Value)
  /-- A name is not bound to anything of the kind the step needs. -/
  | unbound
deriving DecidableEq, Repr

/-- Operations that take a second text. -/
inductive Search where
  | offsetOf
  | reads
  | readsIgnoringCase
  | beginsWith
  | endsWith
  | popBefore
  | popBefore?
deriving DecidableEq, Repr

inductive Operation where
  | source
  | start
  | size
  | content
  | placement
  | written
  | isNonEmpty
  | clusterTexts
  | clusterCount
  | clusterAt (index : Int)
  | sub (offset : Int) (size : Option Int)
  | copy
  | forget
  | reopen (source : Option Text)
  | skipBlanks
  | trimBack
  | trim
  | takeFrontWhile (accepts : Predicate)
  | takeBackWhile (accepts : Predicate)
  | popFrontWhile (accepts : Predicate)
  | popBackWhile (accepts : Predicate)
  | popFront (count : Int)
  | popBack (count : Int)
  | popField (delimiter : Text)
  | popField? (delimiter : Text)
  | headInt
  | headDecimal
  | popInt?
  | popDecimal?
  | tokenInt
  | tokenDecimal
  | tokenWord
  | tokenCluster
  | search (search : Search) (operand : Text)

/-- Answers with the value that a step yields. -/
def answer {α : Type} (value : α → Value) (step : Edit α) : Edit Reply := do
  return .value (value (← step))

/-- A found value as a success, and no value as a failure. -/
def attempt {α : Type} (value : α → Value) (step : Edit (Option α)) : Edit Reply := do
  return .outcome (.ofOption ((← step).map value))

/-- Reads what a cursor tells without changing it. -/
def ask (value : Cursor → Value) : Edit Reply := answer value get

/-- Makes a new cursor without changing the one that is asked. -/
def askCursor (result : Cursor → Except Error Cursor) : Edit Reply := do
  answer .cursor (.ofExcept (result (← get)))

def Search.run (needle : Text) : Search → Edit Reply
  | offsetOf => ask fun cursor => .int (cursor.offsetOf needle)
  | reads => ask fun cursor => .bool (cursor.reads needle)
  | readsIgnoringCase => ask fun cursor => .bool (cursor.readsIgnoringCase needle)
  | beginsWith => ask fun cursor => .bool (cursor.beginsWith needle)
  | endsWith => ask fun cursor => .bool (cursor.endsWith needle)
  | popBefore => answer .cursor (Cursor.popBefore needle)
  | popBefore? => attempt .cursor (Cursor.popBefore? needle)

def adopt (other : Cursor) : Edit Reply := answer (fun _ => .nothing) (Cursor.adopt other)

namespace Operation

def run : Operation → Edit Reply
  | source => ask fun cursor => .text cursor.source
  | start => ask fun cursor => .int cursor.start
  | size => ask fun cursor => .int cursor.size
  | content => ask fun cursor => .text cursor.content
  | placement => ask fun cursor => .placement cursor.source cursor.start cursor.size
  | written => ask fun cursor => .text cursor.written
  | isNonEmpty => ask fun cursor => .bool (cursor.size ≠ 0)
  | clusterTexts => answer .texts Cursor.clusterTexts
  | clusterCount => answer (fun count => .int count) Cursor.clusterCount
  | clusterAt index => answer .text (Cursor.clusterAt index)
  | sub offset width => askCursor (·.sub offset width)
  | copy => askCursor Cursor.copy
  | forget => answer (fun _ => .nothing) Cursor.forget
  | reopen text => answer (fun _ => .nothing) (Cursor.reopen text)
  | skipBlanks => answer (fun _ => .self) Cursor.skipBlanks
  | trimBack => askCursor Cursor.trimBack
  | trim => answer .cursor Cursor.trim
  | takeFrontWhile accepts => askCursor (·.takeFrontWhile accepts)
  | takeBackWhile accepts => askCursor (·.takeBackWhile accepts)
  | popFrontWhile accepts => answer .cursor (Cursor.popFrontWhile accepts)
  | popBackWhile accepts => answer .cursor (Cursor.popBackWhile accepts)
  | popFront count => answer .cursor (Cursor.popFront count)
  | popBack count => answer .cursor (Cursor.popBack count)
  | popField delimiter => answer .cursor (Cursor.popField delimiter)
  | popField? delimiter => attempt .cursor (Cursor.popField? delimiter)
  | headInt => do answer .int (.ofExcept (← get).headInt)
  | headDecimal => do answer .real (.ofExcept (← get).headDecimal)
  | popInt? => attempt .int Cursor.popInt?
  | popDecimal? => attempt .real Cursor.popDecimal?
  | tokenInt => answer .int Token.int
  | tokenDecimal => answer .real Token.decimal
  | tokenWord => answer .text Token.word
  | tokenCluster => answer .text Token.cluster
  | search kind operand => kind.run operand

/-- The code points that an operation asks its predicate about, if it has one. -/
def calls (operation : Operation) (cursor : Cursor) : Option Text :=
  match operation with
  | takeFrontWhile accepts | popFrontWhile accepts => some (cursor.walkFront accepts).calls
  | takeBackWhile accepts | popBackWhile accepts => some (cursor.walkBack accepts).calls
  | _ => none

end Operation

end TextCursor.Script
