import TextCursor.Proofs.Script.Reachable

/-!
Contract: failures that leave no trace.

Owns: the ways in which a removal, a token reader and an operation with a predicate give up; what
they report then; and that the store is as it was, so that a script goes on as if the step had not
been there.

Does not own: when a number, a delimiter or a needle is missing.

A step that gives up has scanned some way already. It does not move before it has succeeded, and
none of these operations fills the memory on its way.
-/

namespace TextCursor.Script

open Edit Cursor

/-! ## Giving up -/

/-- The reply tells that the operation did not get what it was to remove, or that its predicate
failed. -/
inductive Operation.GivesUp : Operation → Except Error Reply → Prop
  | popInt? {data : Option Value} : GivesUp .popInt? (.ok (.outcome ⟨false, data⟩))
  | popDecimal? {data : Option Value} : GivesUp .popDecimal? (.ok (.outcome ⟨false, data⟩))
  | popField? {delimiter : Text} {data : Option Value} :
      GivesUp (.popField? delimiter) (.ok (.outcome ⟨false, data⟩))
  | popBefore? {needle : Text} {data : Option Value} :
      GivesUp (.search .popBefore? needle) (.ok (.outcome ⟨false, data⟩))
  | tokenInt {error : Error} : GivesUp .tokenInt (.error error)
  | tokenDecimal {error : Error} : GivesUp .tokenDecimal (.error error)
  | predicate {operation : Operation} {error : Error} (asks : operation.predicate?.isSome) :
      GivesUp operation (.error error)

inductive Command.GivesUp : Command → Except Error Reply → Prop
  | apply {operation : Operation} {reply : Except Error Reply}
      (givesUp : operation.GivesUp reply) : GivesUp (.apply operation) reply
  | popBefore? {operand : Operand} {data : Option Value} :
      GivesUp (.search .popBefore? operand) (.ok (.outcome ⟨false, data⟩))

/-- What is reported about a window that reads a text: an outcome without data, the text in which
a number is missing, or the error that the predicate failed with. -/
inductive Command.Reports (text : Text) (command : Command) : Except Error Reply → Prop
  | missing : Reports text command (.ok (.outcome .missing))
  | integer (reads : command = .apply .tokenInt) :
      Reports text command (.error (.unparsable "integer".toList text))
  | decimal (reads : command = .apply .tokenDecimal) :
      Reports text command (.error (.unparsable "float".toList text))
  | predicate {error : Error} (blames : command.Blames error) :
      Reports text command (.error error)

section Steps

variable {α : Type} {cursor after : Cursor}

/-- The step finds something, or it finds nothing and stays. -/
def FindsOrStays (step : Edit (Option α)) (cursor : Cursor) : Prop :=
  step.on cursor = (.ok none, cursor) ∨ ∃ found after, step.on cursor = (.ok (some found), after)

theorem findsOrStays_of_cutsFront? {step : Edit (Option Cursor)} (cuts : CutsFront? step cursor) :
    FindsOrStays step cursor := by
  rcases cuts with nothing | ⟨before, behind, -, -, ran⟩
  · exact Or.inl nothing
  · exact Or.inr ⟨_, _, ran⟩

theorem findsOrStays_of_ite {step : Edit (Option α)} {isThere : Bool} {found : α}
    (ran : step.on cursor = if isThere then (.ok (some found), after) else (.ok none, cursor)) :
    FindsOrStays step cursor := by
  cases isThere with
  | true => exact Or.inr ⟨found, after, ran⟩
  | false => exact Or.inl ran

/-- A failed outcome has no data, and was nothing found. -/
theorem attempt_stays {value : α → Value} {step : Edit (Option α)} {data : Option Value}
    (either : FindsOrStays step cursor)
    (failed : ((attempt value step).on cursor).1 = .ok (.outcome ⟨false, data⟩)) :
    (attempt value step).on cursor = (.ok (.outcome .missing), cursor) := by
  rcases either with nothing | ⟨found, after, ran⟩
  · exact on_attempt value nothing
  · rw [on_attempt value ran] at failed
    simp [Except.map, Outcome.ofOption, Outcome.found] at failed

/-- A token that is not there is reported with the text, and the step stays. -/
theorem required_stays {value : α → Value} {step : Edit (Option α)} {kind : Text}
    {isThere : Bool} {found : α} {error : Error}
    (ran : step.on cursor = if isThere then (.ok (some found), after) else (.ok none, cursor))
    (failed : ((answer value (Token.required kind step)).on cursor).1 = .error error) :
    (answer value (Token.required kind step)).on cursor =
      (.error (.unparsable kind cursor.content), cursor) := by
  have required := on_required kind ran
  cases isThere with
  | true =>
      rw [if_pos rfl] at required
      rw [on_answer value required] at failed
      contradiction
  | false => exact on_answer value required

end Steps

/-! ## Operations -/

namespace Operation

variable {cursor : Cursor}

/-- An operation with a predicate yields a cursor, or it fails as the predicate did and stays. -/
theorem run_of_predicate (inside : cursor.Inside) {operation : Operation} {accepts : Predicate}
    (asks : operation.predicate? = some accepts) :
    (∃ piece, (operation.run.on cursor).1 = .ok (.value (.cursor piece))) ∨
      ∃ asked c error, accepts asked c = .error error ∧
        operation.run.on cursor = (.error error, cursor) := by
  cases operation with
  | takeFrontWhile accepts =>
      obtain rfl := Option.some.inj asks
      rcases walkFront_outcome inside accepts with
        ⟨count, fits, walked⟩ | ⟨asked, c, error, blamed, walked⟩
      · have ran := on_askCursor (·.takeFrontWhile accepts) (takeFrontWhile_eq inside fits walked).1
        exact Or.inl ⟨_, congrArg Prod.fst ran⟩
      · have ran := on_askCursor (·.takeFrontWhile accepts) (takeFrontWhile_of_error walked).1
        exact Or.inr ⟨asked, c, error, blamed, ran⟩
  | takeBackWhile accepts =>
      obtain rfl := Option.some.inj asks
      rcases walkBack_outcome inside accepts with
        ⟨count, fits, walked⟩ | ⟨asked, c, error, blamed, walked⟩
      · have ran := on_askCursor (·.takeBackWhile accepts) (takeBackWhile_eq inside fits walked).1
        exact Or.inl ⟨_, congrArg Prod.fst ran⟩
      · have ran := on_askCursor (·.takeBackWhile accepts) (takeBackWhile_of_error walked).1
        exact Or.inr ⟨asked, c, error, blamed, ran⟩
  | popFrontWhile accepts =>
      obtain rfl := Option.some.inj asks
      rcases walkFront_outcome inside accepts with
        ⟨count, fits, walked⟩ | ⟨asked, c, error, blamed, walked⟩
      · have ran := on_answer .cursor (takeFrontWhile_eq inside fits walked).2
        exact Or.inl ⟨_, congrArg Prod.fst ran⟩
      · have ran := on_answer .cursor (takeFrontWhile_of_error walked).2
        exact Or.inr ⟨asked, c, error, blamed, ran⟩
  | popBackWhile accepts =>
      obtain rfl := Option.some.inj asks
      rcases walkBack_outcome inside accepts with
        ⟨count, fits, walked⟩ | ⟨asked, c, error, blamed, walked⟩
      · have ran := on_answer .cursor (takeBackWhile_eq inside fits walked).2
        exact Or.inl ⟨_, congrArg Prod.fst ran⟩
      · have ran := on_answer .cursor (takeBackWhile_of_error walked).2
        exact Or.inr ⟨asked, c, error, blamed, ran⟩
  | _ => contradiction

/-- An operation that gives up reports it, and leaves the cursor as it is with all that it
remembers. -/
theorem GivesUp.run_stays (inside : cursor.Inside) {operation : Operation}
    (givesUp : operation.GivesUp (operation.run.on cursor).1) :
    ∃ reply, operation.run.on cursor = (reply, cursor) ∧
      (Command.apply operation).Reports cursor.content reply := by
  generalize replied : (operation.run.on cursor).1 = reply at givesUp
  cases givesUp with
  | popInt? =>
      exact ⟨_, attempt_stays (findsOrStays_of_ite (on_popInt? inside)) replied, .missing⟩
  | popDecimal? =>
      exact ⟨_, attempt_stays (findsOrStays_of_ite (on_popDecimal? inside)) replied, .missing⟩
  | @popField? delimiter =>
      have either := findsOrStays_of_cutsFront? (popField?_cutsFront? inside delimiter)
      exact ⟨_, attempt_stays either replied, .missing⟩
  | @popBefore? needle =>
      have either := findsOrStays_of_cutsFront? (popBefore?_cutsFront? inside needle)
      exact ⟨_, attempt_stays either replied, .missing⟩
  | tokenInt => exact ⟨_, required_stays (on_popInt? inside) replied, .integer rfl⟩
  | tokenDecimal => exact ⟨_, required_stays (on_popDecimal? inside) replied, .decimal rfl⟩
  | predicate asks =>
      obtain ⟨accepts, asks⟩ := Option.isSome_iff_exists.mp asks
      rcases run_of_predicate inside asks with ⟨piece, yielded⟩ | ⟨asked, c, error, blamed, stays⟩
      · rw [yielded] at replied
        contradiction
      · exact ⟨_, stays, .predicate ⟨accepts, asks, asked, c, blamed⟩⟩

end Operation

/-! ## Steps -/

/-- The step works on a cursor, and its command gives up. -/
def Step.GivesUp (store : Store) (step : Step) : Prop :=
  ∃ cursor, step.target.bind store.cursor? = some cursor ∧
    step.command.GivesUp (store.step step).1.reply

namespace Store

variable {store : Store} {id : Nat} {cursor : Cursor}

/-- An edit that stays leaves the store as it is. -/
theorem edit_of_stays {α : Type} {step : Edit α} {result : Except Error α}
    (placed : store.cursors[id]? = some cursor) (stays : step.on cursor = (result, cursor)) :
    store.edit id cursor step = (result, store) := by
  obtain ⟨inRange, rfl⟩ := List.getElem?_eq_some_iff.mp placed
  rw [edit, stays, List.set_getElem_self]

theorem reply_perform (store : Store) (name : Option String) (id : Nat) (cursor : Cursor)
    (step : Edit Reply) : (store.perform name id cursor step).1 = (step.on cursor).1 := by
  cases ran : step.on cursor with
  | mk result left =>
      cases result with
      | ok reply => simp only [perform, edit, ran]
      | error error => simp only [perform, edit, ran]

/-- What is reported of a step that stays enters nothing. -/
theorem perform_of_stays (placed : store.cursors[id]? = some cursor) (name : Option String)
    {step : Edit Reply} {reply : Except Error Reply} {text : Text} {command : Command}
    (stays : step.on cursor = (reply, cursor)) (reports : command.Reports text reply) :
    store.perform name id cursor step = (reply, store) := by
  have edited := edit_of_stays placed stays
  cases reports with
  | missing =>
      simp only [perform, edited]
      rfl
  | integer | decimal | predicate => simp only [perform, edited]

/-- A command that gives up leaves the store as it is. -/
theorem executeOn_of_givesUp (inside : cursor.Inside) (placed : store.cursors[id]? = some cursor)
    (name : Option String) {command : Command}
    (givesUp : command.GivesUp (store.executeOn name id cursor command).1) :
    ∃ reply, store.executeOn name id cursor command = (reply, store) ∧
      command.Reports cursor.content reply := by
  generalize replied : (store.executeOn name id cursor command).1 = reply at givesUp
  cases givesUp with
  | @apply operation _ givesUp =>
      have performed : (operation.run.on cursor).1 = reply :=
        (store.reply_perform name id cursor operation.run).symm.trans replied
      obtain ⟨reported, stays, reports⟩ := Operation.GivesUp.run_stays inside (performed ▸ givesUp)
      exact ⟨reported, perform_of_stays placed name stays reports, reports⟩
  | @popBefore? operand =>
      cases text : store.operand? operand with
      | none =>
          simp only [executeOn, text] at replied
          cases replied
      | some needle =>
          simp only [executeOn, text, reply_perform] at replied ⊢
          have either := findsOrStays_of_cutsFront? (popBefore?_cutsFront? inside needle)
          have reports : Command.Reports cursor.content (.search .popBefore? operand)
              (.ok (.outcome .missing)) := .missing
          exact ⟨_, perform_of_stays placed name (attempt_stays either replied) reports, reports⟩

/-- A step that gives up reports it, and the store is as it was. -/
theorem step_of_givesUp (sound : store.Sound) {step : Step} (givesUp : step.GivesUp store) :
    (store.step step).2 = store ∧
      ∃ cursor, step.target.bind store.cursor? = some cursor ∧
        (store.step step).1.shown = some cursor ∧
        step.command.Reports cursor.content (store.step step).1.reply := by
  obtain ⟨target, result, command⟩ := step
  obtain ⟨cursor, bound, givesUp⟩ := givesUp
  obtain ⟨name, rfl, found⟩ := Option.bind_eq_some_iff.mp bound
  obtain ⟨id, numbered, placed⟩ := Option.bind_eq_some_iff.mp found
  have inside := (sound_of_cursor? sound found).inside
  have executed : store.execute ⟨some name, result, command⟩ =
      store.executeOn result id cursor command := by
    generalize (store.step ⟨some name, result, command⟩).1.reply = reply at givesUp
    cases givesUp with
    | apply | popBefore? => simp only [execute, numbered, found]
  have replied : (store.step ⟨some name, result, command⟩).1.reply =
      (store.execute ⟨some name, result, command⟩).1 := rfl
  rw [replied, executed] at givesUp
  obtain ⟨reply, stays, reports⟩ := executeOn_of_givesUp inside placed result givesUp
  have stepped : store.step ⟨some name, result, command⟩ =
      (⟨reply, store.callsOf ⟨some name, result, command⟩, some cursor⟩, store) := by
    simp only [Store.step, executed, stays, Option.bind_some, found]
  rw [stepped]
  exact ⟨rfl, cursor, bound, rfl, reports⟩

theorem length_run (store : Store) (script : List Step) :
    (store.run script).1.length = script.length := by
  induction script generalizing store with
  | nil => rfl
  | cons step later inductionHypothesis => exact congrArg (· + 1) (inductionHypothesis _)

end Store

/-- Whatever a script did before, a step of it that gives up leaves every window, every name and
every memory as it was. All that follows is answered as if the step had not been there. The outcome
has no data, and a missing number is reported with the text that the window still reads. -/
theorem failure_leaves_no_trace (earlier later : List Step) {step : Step}
    (givesUp : step.GivesUp (Store.run {} earlier).2) :
    let store := (Store.run {} earlier).2
    (store.step step).2 = store ∧
      (Store.run {} (earlier ++ step :: later)).1.eraseIdx earlier.length =
        (Store.run {} (earlier ++ later)).1 ∧
      ∃ cursor, step.target.bind store.cursor? = some cursor ∧
        (store.step step).1.shown = some cursor ∧
        step.command.Reports cursor.content (store.step step).1.reply := by
  intro store
  have sound := Store.sound_run Store.sound_empty earlier
  obtain ⟨stays, reported⟩ := Store.step_of_givesUp sound givesUp
  refine ⟨stays, ?_, reported⟩
  have length : (Store.run {} earlier).1.length = earlier.length := Store.length_run {} earlier
  have behind : (store.run (step :: later)).1 =
      (store.step step).1 :: ((store.step step).2.run later).1 := rfl
  rw [Store.run_append, Store.run_append, ← length,
    List.eraseIdx_append_of_length_le (Nat.le_refl _), Nat.sub_self, behind, stays,
    List.eraseIdx_cons_zero]

/-- A number that begins in the window and goes on behind it, after a pass that filled the
memory. -/
theorem failure_leaves_no_trace_of_cut_number :
    let earlier : List Step :=
      [⟨none, some "text", .create "+.5é".toList 0 none⟩,
        ⟨some "text", some "part", .apply (.sub 0 (some 2))⟩,
        ⟨some "part", none, .apply .clusterCount⟩]
    let step : Step := ⟨some "part", none, .apply .tokenDecimal⟩
    let later : List Step := [⟨some "part", none, .apply (.popFront 1)⟩]
    step.GivesUp (Store.run {} earlier).2 ∧
      (Store.run {} (earlier ++ step :: later)).1.eraseIdx 3 =
        (Store.run {} (earlier ++ later)).1 ∧
      ((Store.run {} earlier).2.step step).1.reply =
        .error (.unparsable "float".toList "+.".toList) := by
  intro earlier step later
  have found : step.target.bind (Store.run {} earlier).2.cursor? =
      some { source := "+.5é".toList, start := 0, size := 2,
             cache := { clusters := some [⟨['+'], 0⟩, ⟨['.'], 1⟩], count := some 2 } } := by
    decide +kernel
  have replied : ((Store.run {} earlier).2.step step).1.reply =
      .error (.unparsable "float".toList "+.".toList) := by decide +kernel
  have givesUp : step.GivesUp (Store.run {} earlier).2 :=
    ⟨_, found, replied ▸ .apply .tokenDecimal⟩
  obtain ⟨-, erased, -⟩ := failure_leaves_no_trace earlier later givesUp
  exact ⟨givesUp, erased, replied⟩

end TextCursor.Script
