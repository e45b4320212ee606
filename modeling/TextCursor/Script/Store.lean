import TextCursor.Script.Operation

/-!
Contract: scripts over several cursors that are known by name.

Owns: the store of cursors and traversals, the names, which may alias, and the steps of a
script.

Every cursor that an operation yields is a new one, named or not. A traversal fetches the
clusters of its cursor when it is first advanced, and keeps them whatever happens to the cursor
afterwards.
-/

namespace TextCursor.Script

/-- What a name stands for: the place of a cursor or of a traversal in the store. -/
inductive Reference where
  | cursor (id : Nat)
  | traversal (id : Nat)
deriving DecidableEq, Repr

/-- The clusters that are still to come, once they have been fetched. -/
structure Traversal where
  target : Nat
  pending : Option (List Text)
deriving DecidableEq, Repr

structure Store where
  cursors : List Cursor := []
  traversals : List Traversal := []
  names : List (String × Reference) := []
deriving DecidableEq, Repr

/-- A text argument: a text, or a name that stands for its cursor's text at that time. -/
inductive Operand where
  | literal (text : Text)
  | named (name : String)
deriving DecidableEq, Repr

inductive Command where
  | create (source : Text) (start : Int) (size : Option Int)
  | apply (operation : Operation)
  | search (search : Search) (operand : Operand)
  | adopt (other : String)
  /-- Asks whether two names stand for one cursor. -/
  | same (other : String)
  | traverse
  | next
  /-- Insists on the success of a command. -/
  | insist (command : Command)

/-- A command, the name it works on, and the name for what it yields. -/
structure Step where
  target : Option String
  result : Option String
  command : Command

/-- What a step answers; the code points its predicate was asked about; and the cursor it
worked on, as the step leaves it. -/
structure Answer where
  reply : Except Error Reply
  calls : Option Text
  shown : Option Cursor

namespace Store

/-- What a name is bound to; the latest binding counts. -/
def find? (store : Store) (name : String) : Option Reference := store.names.lookup name

def cursorId? (store : Store) (name : String) : Option Nat :=
  match store.find? name with
  | some (.cursor id) => some id
  | _ => none

def cursor? (store : Store) (name : String) : Option Cursor :=
  (store.cursorId? name).bind (store.cursors[·]?)

def bind (store : Store) (name : Option String) (reference : Reference) : Store :=
  match name with
  | some name => { store with names := (name, reference) :: store.names }
  | none => store

/-- Runs a step on one cursor of the store. -/
def edit {α : Type} (store : Store) (id : Nat) (cursor : Cursor) (step : Edit α) :
    Except Error α × Store :=
  let result := step.on cursor
  (result.1, { store with cursors := store.cursors.set id result.2 })

/-- Enters a value: a new cursor gets a place of its own, and the name is bound to it; the very
cursor that was asked gets one more name. -/
def enter (store : Store) (name : Option String) (id : Nat) : Value → Store
  | .cursor cursor =>
      let added : Store := { store with cursors := store.cursors ++ [cursor] }
      added.bind name (.cursor store.cursors.length)
  | .self => store.bind name (.cursor id)
  | _ => store

/-- Enters what a step replied. A failed outcome enters nothing. -/
def enterReply (store : Store) (name : Option String) (id : Nat) : Reply → Store
  | .value value => store.enter name id value
  | .outcome ⟨true, some value⟩ => store.enter name id value
  | _ => store

/-- Insists that an outcome is a success. -/
def insisted : Reply → Except Error Reply
  | .outcome outcome => do
      return .value ((← outcome.insist).getD .nothing)
  | reply => .ok reply

/-- Runs a step on a cursor and enters what it replied. -/
def perform (store : Store) (name : Option String) (id : Nat) (cursor : Cursor)
    (step : Edit Reply) : Except Error Reply × Store :=
  match store.edit id cursor step with
  | (.ok reply, store) => (.ok reply, store.enterReply name id reply)
  | (.error error, store) => (.error error, store)

def operand? (store : Store) : Operand → Option Text
  | .literal text => some text
  | .named name => (store.cursor? name).map Cursor.content

/-- The next cluster of a traversal, fetching the clusters if this is its first step. -/
def advance (store : Store) (id : Nat) (traversal : Traversal) : Except Error Reply × Store :=
  let fetched : Except Error (List Text) × Store :=
    match traversal.pending, store.cursors[traversal.target]? with
    | some pending, _ => (.ok pending, store)
    | none, some cursor => store.edit traversal.target cursor Cursor.clusterTexts
    | none, none => (.ok [], store)
  let keep (store : Store) (pending : List Text) : Store :=
    { store with traversals := store.traversals.set id ⟨traversal.target, some pending⟩ }
  match fetched with
  | (.ok (text :: later), store) => (.ok (.value (.text text)), keep store later)
  | (.ok [], store) => (.ok (.value .exhausted), keep store [])
  | (.error error, store) => (.error error, store)

def executeOn (store : Store) (name : Option String) (id : Nat) (cursor : Cursor) :
    Command → Except Error Reply × Store
  | .apply operation => store.perform name id cursor operation.run
  | .search search operand =>
      match store.operand? operand with
      | some text => store.perform name id cursor (search.run text)
      | none => (.ok .unbound, store)
  | .adopt other =>
      match store.cursor? other with
      | some other => store.perform name id cursor (Script.adopt other)
      | none => (.ok .unbound, store)
  | .same other =>
      match store.cursorId? other with
      | some otherId => (.ok (.value (.bool (id == otherId))), store)
      | none => (.ok .unbound, store)
  | .traverse =>
      let begun : Store := { store with traversals := store.traversals ++ [⟨id, none⟩] }
      (.ok (.value .nothing), begun.bind name (.traversal store.traversals.length))
  | .insist command =>
      let (reply, store) := executeOn store name id cursor command
      (reply.bind insisted, store)
  | .create .. | .next => (.ok .unbound, store)

/-- Runs a command. A new cursor needs no target, and the next step of a traversal works on the
traversal itself. -/
def execute (store : Store) (step : Step) : Except Error Reply × Store :=
  match step.command, step.target with
  | .create source start size, _ =>
      match Cursor.ofText source start size with
      | .ok cursor => (.ok (.value (.cursor cursor)), store.enter step.result 0 (.cursor cursor))
      | .error error => (.error error, store)
  | .next, some target =>
      match store.find? target with
      | some (.traversal id) =>
          match store.traversals[id]? with
          | some traversal => store.advance id traversal
          | none => (.ok .unbound, store)
      | _ => (.ok .unbound, store)
  | command, some target =>
      match store.cursorId? target, store.cursor? target with
      | some id, some cursor => store.executeOn step.result id cursor command
      | _, _ => (.ok .unbound, store)
  | _, none => (.ok .unbound, store)

/-- The code points that a step asks its predicate about. -/
def callsOf (store : Store) (step : Step) : Option Text :=
  match step.command, step.target.bind store.cursor? with
  | .apply operation, some cursor => operation.calls cursor
  | _, _ => none

def step (store : Store) (step : Step) : Answer × Store :=
  let calls := store.callsOf step
  let (reply, store) := store.execute step
  (⟨reply, calls, step.target.bind store.cursor?⟩, store)

/-- Runs a script from the empty store on, or from wherever another script left the store. -/
def run (store : Store) : List Step → List Answer × Store
  | [] => ([], store)
  | step :: later =>
      let (answer, store) := store.step step
      let (answers, store) := run store later
      (answer :: answers, store)

theorem run_append (store : Store) (first second : List Step) :
    store.run (first ++ second) =
      ((store.run first).1 ++ ((store.run first).2.run second).1,
        ((store.run first).2.run second).2) := by
  induction first generalizing store with
  | nil => rfl
  | cons step later inductionHypothesis => simp [run, inductionHypothesis]

end Store

end TextCursor.Script
