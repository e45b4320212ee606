import Mathlib.Logic.Relation
import TextCursor.Proofs.Template.Independence

/-!
Contract: nested applications of readers as steps of a machine.

Owns: the moments between the beginning and the end of an application, with the applications that
wait for one another at each of them; the step from one moment to the next; and that an application
which the machine accepts ends there as `Run.apply` says, with the same outcome and the same pool.

Does not own: which flags are set at a moment.

`Run.apply` nests applications by recursion and bounds its depth. The machine has a list of callers
and no bound, so the two agree only because a reader under way refuses to be applied: each accepted
application leaves one idle reader less, and the bound is never met.
-/

namespace TextCursor.Template

/-! ## Moments -/

/-- An application under way: its reader, the values that its parsers yielded, latest first, and the
slots that are still to be filled, from the one at `index` on. -/
structure Call where
  reader : Nat
  values : List Value
  index : Nat
  slots : List Slot

/-- An application that waits for one that its parser began, and how the parser goes on. -/
structure Caller where
  call : Call
  resume : Except Error (List Value) → Program

inductive Phase where
  /-- A reader is about to be applied. -/
  | called (reader : Nat) (input : Input)
  /-- The application was accepted. -/
  | load (reader : Nat) (input : Input)
  | fill (call : Call)
  | parse (call : Call) (program : Program)
  /-- An application has ended or was refused. -/
  | ended (outcome : Except Error (List Value))

/-- A moment of a session: the pool, what is being done, and the callers that wait, latest first. -/
structure Moment where
  pool : Pool
  phase : Phase
  waiting : List Caller

/-- The reader at work, unless none is. -/
def Phase.active : Phase → List Nat
  | .called _ _ | .ended _ => []
  | .load id _ => [id]
  | .fill call | .parse call _ => [call.reader]

namespace Moment

/-- The readers whose applications were accepted and have not ended, latest first. -/
def active (moment : Moment) : List Nat :=
  moment.phase.active ++ moment.waiting.map fun caller => caller.call.reader

/-- An application ends, and its flag is cleared. -/
def close (id : Nat) (outcome : Except Error (List Value)) (waiting : List Caller) (pool : Pool) :
    Moment :=
  ⟨pool.setRunning id false, .ended outcome, waiting⟩

/-- A computation that works for a reader is done. An error ends the application. -/
def proceed {α : Type} (id : Nat) (waiting : List Caller) (next : α → Pool → Moment) :
    Except Error α × Pool → Moment
  | (.ok value, pool) => next value pool
  | (.error error, pool) => close id (.error error) waiting pool

/-- Finds the literal of a slot, and yields the number of times that the slot was filled. -/
def reach (id : Nat) (slot : Slot) (index : Nat) : Run Nat := do
  Run.seek id slot.literal
  Run.countUse id index

/-- What happens next. Only a session that no caller waits in can come to its end. -/
def step? : Moment → Option Moment
  | ⟨pool, .called id input, waiting⟩ =>
      if (pool.reader id).running then some ⟨pool, .ended (.error .alreadyRunning), waiting⟩
      else some ⟨pool.setRunning id true, .load id input, waiting⟩
  | ⟨pool, .load id input, waiting⟩ =>
      let begun (_ : Unit) (loaded : Pool) : Moment :=
        ⟨loaded, .fill ⟨id, [], 0, (pool.reader id).template.slots⟩, waiting⟩
      some (proceed id waiting begun ((Run.load id input).on pool))
  | ⟨pool, .fill ⟨id, values, _, []⟩, waiting⟩ => some (close id (.ok values.reverse) waiting pool)
  | ⟨pool, .fill ⟨id, values, index, slot :: later⟩, waiting⟩ =>
      let reached (earlier : Nat) (after : Pool) : Moment :=
        ⟨after, .parse ⟨id, values, index + 1, later⟩ (slot.parser.program id earlier), waiting⟩
      some (proceed id waiting reached ((reach id slot index).on pool))
  | ⟨pool, .parse call (.finish outcome), waiting⟩ =>
      let filled (value : Value) (after : Pool) : Moment :=
        ⟨after, .fill { call with values := value :: call.values }, waiting⟩
      some (proceed call.reader waiting filled ((liftExcept outcome : Run Value).on pool))
  | ⟨pool, .parse call (.edit step next), waiting⟩ =>
      let edited (outcome : Except Error Value) (after : Pool) : Moment :=
        ⟨after, .parse call (next outcome), waiting⟩
      some (proceed call.reader waiting edited ((Run.onBuffer call.reader step).on pool))
  | ⟨pool, .parse call (.apply reader input next), waiting⟩ =>
      some ⟨pool, .called reader (input (pool.reader call.reader).buffer), ⟨call, next⟩ :: waiting⟩
  | ⟨pool, .ended outcome, caller :: earlier⟩ =>
      some ⟨pool, .parse caller.call (caller.resume outcome), earlier⟩
  | ⟨_, .ended _, []⟩ => none

theorem step?_of_running {pool : Pool} {id : Nat} (running : (pool.reader id).running = true)
    (input : Input) (waiting : List Caller) :
    step? ⟨pool, .called id input, waiting⟩ =
      some ⟨pool, .ended (.error .alreadyRunning), waiting⟩ := by
  rw [step?, if_pos running]

theorem step?_of_idle {pool : Pool} {id : Nat} (idle : (pool.reader id).running = false)
    (input : Input) (waiting : List Caller) :
    step? ⟨pool, .called id input, waiting⟩ =
      some ⟨pool.setRunning id true, .load id input, waiting⟩ := by
  rw [step?, idle, if_neg Bool.false_ne_true]

/-- An application that these callers wait for is under way. -/
structure UnderWay (callers : List Caller) (moment : Moment) : Prop where
  waiting : callers <:+ moment.waiting
  active : callers.length < moment.active.length

/-- Step by step, with an application under way all the time that these callers wait for. -/
def Leads (callers : List Caller) : Moment → Moment → Prop :=
  Relation.ReflTransGen fun moment next => moment.UnderWay callers ∧ moment.step? = some next

end Moment

/-! ## Pools of the same readers -/

/-- The second pool has the readers of the first. They may hold other texts, and be at work. -/
structure Pool.Fits (start pool : Pool) : Prop where
  length : pool.readers.length = start.readers.length
  template : ∀ id, (pool.reader id).template = (start.reader id).template

namespace Pool.Fits

variable {start pool after : Pool}

theorem refl (start : Pool) : start.Fits start := ⟨rfl, fun _ => rfl⟩

theorem of_keeps {mine : Nat → Prop} (fits : start.Fits pool) (keeps : pool.Keeps mine after) :
    start.Fits after :=
  ⟨keeps.length.trans fits.length, fun id => (keeps.template id).trans (fits.template id)⟩

theorem setRunning (fits : start.Fits pool) (id : Nat) (running : Bool) :
    start.Fits (pool.setRunning id running) where
  length := (pool.length_setRunning id running).trans fits.length
  template other :=
    Eq.trans (field_update Reader.template pool id other fun _ => rfl) (fits.template other)

end Pool.Fits

/-- The pool fits, and at most so many of its readers are idle. -/
structure Pool.FitsWithin (start : Pool) (depth : Nat) (pool : Pool) : Prop
    extends start.Fits pool where
  idle : pool.idle ≤ depth

/-- Work for a reader sets and clears no flags. -/
theorem Pool.FitsWithin.after {start pool after : Pool} {depth : Nat} {α : Type}
    {mine : Nat → Prop} {body : Run α} {outcome : Except Error α}
    (within : start.FitsWithin depth pool) (keeps : body.Keeps mine)
    (ran : body.on pool = (outcome, after)) : start.FitsWithin depth after := by
  have kept := keeps pool
  rw [ran] at kept
  exact ⟨within.toFits.of_keeps kept, by rw [kept.idle_eq]; exact within.idle⟩

/-- The parsers of these slots apply only readers of the pool. -/
def Pool.Covers (start : Pool) (id : Nat) (slots : List Slot) : Prop :=
  ∀ slot ∈ slots, ∀ earlier,
    (slot.parser.program id earlier).AppliesOnly (· < start.readers.length)

/-- The parsers of a pool apply only its own readers. -/
def Pool.Closed (pool : Pool) : Prop := ∀ id, pool.Covers id (pool.reader id).template.slots

theorem Run.on_program_apply (apply : Nat → Input → Run (List Value)) (id reader : Nat)
    (input : Cursor → Input) (next : Except Error (List Value) → Program) (pool : Pool) :
    (program apply id (.apply reader input next)).on pool =
      let result := (apply reader (input (pool.reader id).buffer)).on pool
      (program apply id (next result.1)).on result.2 := rfl

/-! ## Paths -/

namespace Moment

section Paths

variable {α β : Type} {callers : List Caller} {id : Nat}

theorem UnderWay.of_caller {caller : Caller} {moment : Moment}
    (underWay : moment.UnderWay (caller :: callers)) : moment.UnderWay callers where
  waiting := (List.suffix_cons caller callers).trans underWay.waiting
  active := Nat.lt_of_succ_lt underWay.active

theorem Leads.of_caller {caller : Caller} {moment next : Moment}
    (leads : moment.Leads (caller :: callers) next) : moment.Leads callers next :=
  Relation.ReflTransGen.mono (fun _ _ goes => ⟨goes.1.of_caller, goes.2⟩) _ _ leads

/-- A reader at work is under way for those that wait for it. -/
theorem underWay_of_active {pool : Pool} {phase : Phase} (works : phase.active = [id]) :
    UnderWay callers ⟨pool, phase, callers⟩ where
  waiting := List.suffix_refl callers
  active := by
    simp only [Moment.active, works, List.length_append, List.length_map, List.length_singleton]
    omega

theorem underWay_of_caller (pool : Pool) (phase : Phase) (caller : Caller) :
    UnderWay callers ⟨pool, phase, caller :: callers⟩ where
  waiting := List.suffix_cons caller callers
  active := by
    simp only [Moment.active, List.length_append, List.length_map, List.length_cons]
    omega

theorem Leads.head {moment next last : Moment} (underWay : moment.UnderWay callers)
    (steps : moment.step? = some next) (later : next.Leads callers last) :
    moment.Leads callers last :=
  Relation.ReflTransGen.head ⟨underWay, steps⟩ later

theorem leads_proceed {waiting : List Caller} {first second : α → Pool → Moment}
    {result : Except Error α × Pool}
    (leads : ∀ value after, result = (.ok value, after) →
      (first value after).Leads callers (second value after)) :
    (proceed id waiting first result).Leads callers (proceed id waiting second result) := by
  obtain ⟨outcome, after⟩ := result
  cases outcome with
  | ok value => exact leads value after rfl
  | error error => exact Relation.ReflTransGen.refl

theorem proceed_bind (waiting : List Caller) (last : β → Pool → Moment) (body : Run α)
    (next : α → Run β) (pool : Pool) :
    proceed id waiting last ((body >>= next).on pool) =
      proceed id waiting (fun value after => proceed id waiting last ((next value).on after))
        (body.on pool) := by
  rw [Run.on_bind]
  cases body.on pool with
  | mk outcome after =>
      cases outcome with
      | ok value => rfl
      | error error => rfl

/-- However the work for a reader ends, its flag is cleared. -/
theorem proceed_close (waiting : List Caller) (result : Except Error (List Value) × Pool) :
    proceed id waiting (fun values => close id (.ok values) waiting) result =
      close id result.1 waiting result.2 := by
  obtain ⟨outcome, after⟩ := result
  cases outcome with
  | ok values => rfl
  | error error => rfl

end Paths

/-! ## The machine and the recursion -/

section Recursion

variable {start : Pool} {depth : Nat}

/-- An application that a parser begins leads to what it comes to by recursion, and back to the
parser. -/
def Realizes (start : Pool) (depth : Nat) : Prop :=
  ∀ (pool after : Pool) (id : Nat) (input : Input) (outcome : Except Error (List Value))
    (caller : Caller) (callers : List Caller),
    start.FitsWithin depth pool → id < start.readers.length →
      (Run.applyWithin depth id input).on pool = (outcome, after) →
        Leads callers ⟨pool, .called id input, caller :: callers⟩
          ⟨after, .ended outcome, caller :: callers⟩

/-- A parser's program comes to its value, and the slots that are left are filled, or its error ends
the application. -/
theorem leads_program (realizes : Realizes start depth) {callers : List Caller} {call : Call}
    {program : Program} (applies : program.AppliesOnly (· < start.readers.length)) {pool : Pool}
    (within : start.FitsWithin depth pool) :
    Leads callers ⟨pool, .parse call program, callers⟩
      (proceed call.reader callers
        (fun value after => ⟨after, .fill { call with values := value :: call.values }, callers⟩)
        ((Run.program (Run.applyWithin depth) call.reader program).on pool)) := by
  induction program generalizing pool with
  | finish outcome =>
      rw [Run.program]
      exact .head (underWay_of_active rfl) rfl .refl
  | edit step next inductionHypothesis =>
      rw [Run.program, proceed_bind]
      have edited := within.after (Run.keeps_onBuffer call.reader step) (Run.on_onBuffer ..)
      exact .head (underWay_of_active rfl) rfl (inductionHypothesis _ (applies _) edited)
  | apply reader input next inductionHypothesis =>
      obtain ⟨inPool, applies⟩ := applies
      refine .head (underWay_of_active rfl) rfl ?_
      rw [Run.on_program_apply]
      generalize input (pool.reader call.reader).buffer = given
      cases ran : (Run.applyWithin depth reader given).on pool with
      | mk outcome after =>
          have forth := realizes pool after reader given outcome ⟨call, next⟩ callers within inPool
            ran
          have applied := within.after (Run.keeps_applyWithin depth reader _) ran
          have back := Leads.head (underWay_of_caller after (.ended outcome) ⟨call, next⟩) rfl
            (inductionHypothesis outcome (applies outcome) applied)
          exact forth.trans back

/-- The slots of an application are filled one after another, or an error ends it. -/
theorem leads_fill (realizes : Realizes start depth) {callers : List Caller} {id index : Nat}
    {values : List Value} {slots : List Slot} (covers : start.Covers id slots) {pool : Pool}
    (within : start.FitsWithin depth pool) :
    Leads callers ⟨pool, .fill ⟨id, values, index, slots⟩, callers⟩
      (proceed id callers (fun rest => close id (.ok (values.reverse ++ rest)) callers)
        ((Run.fill (Run.applyWithin depth) id slots index).on pool)) := by
  induction slots generalizing values index pool with
  | nil =>
      rw [Run.fill, Run.on_pure, proceed, List.append_nil]
      exact .head (underWay_of_active rfl) rfl .refl
  | cons slot later inductionHypothesis =>
      obtain ⟨coversSlot, coversLater⟩ := List.forall_mem_cons.mp covers
      refine .head (underWay_of_active rfl) rfl ?_
      rw [Run.fill, reach, proceed_bind, proceed_bind]
      apply leads_proceed
      intro _ found sought
      rw [proceed_bind]
      apply leads_proceed
      intro earlier counted uses
      have foundWithin := within.after (Run.keeps_seek id slot.literal) sought
      have countedWithin := foundWithin.after (Run.keeps_countUse id index) uses
      refine (leads_program realizes (coversSlot earlier) countedWithin).trans ?_
      rw [proceed_bind]
      apply leads_proceed
      intro value parsed ran
      have parsedWithin := countedWithin.after
        (Run.keeps_program (Run.keeps_applyWithin depth) id _) ran
      have further := @inductionHypothesis (index + 1) (value :: values) coversLater parsed
        parsedWithin
      rw [proceed_bind]
      simpa only [Run.on_pure, proceed, List.reverse_cons, List.append_assoc,
        List.singleton_append] using further

/-- An application that was accepted ends as it does by recursion, with its flag cleared. -/
theorem leads_applyWithin (closed : start.Closed) (realizes : Realizes start depth)
    {pool after : Pool} {id : Nat} {input : Input} {outcome : Except Error (List Value)}
    (callers : List Caller) (within : start.FitsWithin (depth + 1) pool)
    (inPool : id < start.readers.length) (idle : (pool.reader id).running = false)
    (ran : (Run.applyWithin (depth + 1) id input).on pool = (outcome, after)) :
    Leads callers ⟨pool.setRunning id true, .load id input, callers⟩
      ⟨after, .ended outcome, callers⟩ := by
  have oneLess := Pool.idle_setRunning (within.length ▸ inPool) idle
  have set : start.FitsWithin depth (pool.setRunning id true) :=
    ⟨within.toFits.setRunning id true, by have := within.idle; omega⟩
  have covers := closed id
  rw [← within.template id] at covers
  have same : ((pool.setRunning id true).reader id).template = (pool.reader id).template :=
    (set.template id).trans (within.template id).symm
  rw [Run.applyWithin, Run.on_ofFunction, idle] at ran
  obtain ⟨rfl, rfl⟩ := Prod.mk.inj ran
  refine .head (underWay_of_active rfl) rfl ?_
  -- The flag is cleared behind the whole body, which is where the machine clears it.
  show Leads callers _ (close id _ callers _)
  rw [← proceed_close callers, proceed_bind, same]
  apply leads_proceed
  intro _ loaded opened
  exact leads_fill realizes covers (set.after (Run.keeps_load id input) opened)

/-- The bound of the recursion is not met: where no reader is idle, every application is refused. -/
theorem realizes_applyWithin (closed : start.Closed) (depth : Nat) : Realizes start depth := by
  induction depth with
  | zero =>
      intro pool after id input outcome caller callers within inPool ran
      have running : (pool.reader id).running = true := by
        by_contra notRunning
        have oneLess := Pool.idle_setRunning (within.length ▸ inPool) (by simpa using notRunning)
        have := within.idle
        omega
      obtain ⟨rfl, rfl⟩ := Prod.mk.inj ran
      exact .head (underWay_of_caller _ _ _) (step?_of_running running _ _) .refl
  | succ depth inductionHypothesis =>
      intro pool after id input outcome caller callers within inPool ran
      cases running : (pool.reader id).running with
      | true =>
          rw [Run.applyWithin, Run.on_ofFunction, running] at ran
          obtain ⟨rfl, rfl⟩ := Prod.mk.inj ran
          exact .head (underWay_of_caller _ _ _) (step?_of_running running _ _) .refl
      | false =>
          have ends := leads_applyWithin closed inductionHypothesis (caller :: callers) within
            inPool running ran
          exact .head (underWay_of_caller _ _ _) (step?_of_idle running _ _) ends.of_caller

/-- From when it is accepted to its end, whoever waits for it, an application does what `Run.apply`
does. -/
theorem leads_apply (closed : start.Closed) {pool after : Pool} {id : Nat} {input : Input}
    {outcome : Except Error (List Value)} (callers : List Caller) (fits : start.Fits pool)
    (inPool : id < start.readers.length) (idle : (pool.reader id).running = false)
    (ran : (Run.apply id input).on pool = (outcome, after)) :
    Leads callers ⟨pool.setRunning id true, .load id input, callers⟩
      ⟨after, .ended outcome, callers⟩ := by
  have oneLess := Pool.idle_setRunning (fits.length ▸ inPool) idle
  rw [Run.apply, Run.on_ofFunction, ← oneLess] at ran
  exact leads_applyWithin closed (realizes_applyWithin closed _) callers
    ⟨fits, Nat.le_of_eq oneLess.symm⟩ inPool idle ran

end Recursion

end Moment

end TextCursor.Template
