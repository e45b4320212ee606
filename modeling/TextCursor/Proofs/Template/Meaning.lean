import TextCursor.Proofs.Template.Independence

/-!
Contract: what an application comes to, as a function of its input.

Owns: programs, slots and applications as work on a single cursor, with an answer for every reader
that may be applied; that a reader whose parsers are steady does this work on its scratch cursor, in
any pool; and what of the pool the work depends on.

Does not own: what any of it yields.

A reader keeps its cursors in the pool, where other readers keep theirs, and parsers apply some of
these. Of all that only two things count: the templates of the readers that are known, and which of
these are under way, since they refuse.
-/

namespace TextCursor.Template

open Edit

/-! ## Work on a single cursor -/

/-- What the readers that may be applied answer to an input. -/
abbrev Answers := Nat → Input → Except Error (List Value)

/-- The outcome of a step, which is not let pass if it is an error. -/
def attempted {α : Type} (step : Edit α) : Edit (Except Error α) :=
  ExceptT.mk fun cursor => (.ok (step.on cursor).1, (step.on cursor).2)

theorem on_attempted {α : Type} (step : Edit α) (cursor : Cursor) :
    (attempted step).on cursor = (.ok (step.on cursor).1, (step.on cursor).2) := rfl

/-- The program on a cursor, with answers in place of the readers that it applies. -/
def Program.work (answers : Answers) : Program → Edit Value
  | .finish outcome => .ofExcept outcome
  | .edit step next => do (next (← attempted step)).work answers
  | .apply reader input next => do
      let cursor ← get
      (next (answers reader (input cursor))).work answers

/-- The move past the next occurrence of a literal. -/
def goPast (literal : Text) : Edit Unit := do
  match ← Cursor.popBefore? literal with
  | some _ => return ()
  | none => throw (.literalMissing literal (← get).content)

/-- Literals to go past, each with a program for what follows it. -/
def workEach (answers : Answers) : List (Text × Program) → Edit (List Value)
  | [] => return []
  | (literal, body) :: later => do
      goPast literal
      let value ← body.work answers
      return value :: (← workEach answers later)

/-- The literals of slots with the programs that their parsers begin with. -/
def tasks (id : Nat) (slots : List Slot) : List (Text × Program) :=
  slots.map fun slot => (slot.literal, slot.parser.program id 0)

/-- What readers for the templates answer while some of them are under way. -/
def answersWithin (templates : Nat → Template) : (depth : Nat) → (underWay : Nat → Bool) →
    (id : Nat) → Input → Except Error (List Value)
  | 0, _, _, _ => .error .alreadyRunning
  | depth + 1, underWay, id, input =>
      if underWay id then .error .alreadyRunning
      else
        ((workEach (answersWithin templates depth fun other => other == id || underWay other)
          (tasks id (templates id).slots)).on input.opened).1

/-! ## What the work depends on -/

section Dependence

variable {known : Nat → Prop} {answers other : Answers}
  (agree : ∀ reader, known reader → answers reader = other reader)

include agree

theorem Program.work_congr (body : Program) (only : body.AppliesOnly known) :
    body.work answers = body.work other := by
  induction body with
  | finish outcome => rfl
  | edit step next inductionHypothesis =>
      have later : (fun outcome => (next outcome).work answers) =
          fun outcome => (next outcome).work other :=
        funext fun outcome => inductionHypothesis outcome (only outcome)
      rw [work, work, later]
  | apply reader input next inductionHypothesis =>
      obtain ⟨isKnown, nextOnly⟩ := only
      have later : (fun outcome => (next outcome).work answers) =
          fun outcome => (next outcome).work other :=
        funext fun outcome => inductionHypothesis outcome (nextOnly outcome)
      have answered : (fun cursor => (next (answers reader (input cursor))).work answers) =
          fun cursor => (next (other reader (input cursor))).work other := by
        funext cursor
        rw [agree reader isKnown]
        exact congrFun later _
      rw [work, work, answered]

theorem workEach_congr {items : List (Text × Program)}
    (only : ∀ item ∈ items, item.2.AppliesOnly known) :
    workEach answers items = workEach other items := by
  induction items with
  | nil => rfl
  | cons item later inductionHypothesis =>
      obtain ⟨headOnly, laterOnly⟩ := List.forall_mem_cons.mp only
      rw [workEach, workEach, item.2.work_congr agree headOnly, inductionHypothesis laterOnly]

end Dependence

theorem appliesOnly_of_mem_tasks {known : Nat → Prop} {id : Nat} {slots : List Slot}
    (steady : ∀ slot ∈ slots, slot.parser.Steady known id) :
    ∀ item ∈ tasks id slots, item.2.AppliesOnly known := by
  rw [tasks, List.forall_mem_map]
  exact fun slot member => (steady slot member).applies

/-- Only the known readers' being under way counts. -/
theorem answersWithin_congr {known : Nat → Prop} {templates : Nat → Template}
    (steady : Steady known templates) (depth : Nat) {underWay other : Nat → Bool}
    (same : ∀ reader, known reader → underWay reader = other reader) (reader : Nat)
    (isKnown : known reader) :
    answersWithin templates depth underWay reader = answersWithin templates depth other reader := by
  induction depth generalizing underWay other reader with
  | zero => rfl
  | succ depth inductionHypothesis =>
      funext input
      have inner : ∀ inner, known inner →
          (inner == reader || underWay inner) = (inner == reader || other inner) := by
        intro inner innerKnown
        rw [same inner innerKnown]
      have agree := inductionHypothesis inner
      have work := workEach_congr agree (appliesOnly_of_mem_tasks (steady reader isKnown))
      rw [answersWithin, answersWithin, same reader isKnown, work]

/-! ## A reader does the work on its scratch cursor -/

namespace Run

/-- Wherever the pool is as it was at the start but for what the reader holds, the computation does
to the reader's scratch cursor what the step does, and leaves such a pool. -/
def Does {α : Type} (start : Pool) (id : Nat) (body : Run α) (step : Edit α) : Prop :=
  ∀ pool, start.Keeps (· = id) pool → ∃ after,
    body.on pool = ((step.on (pool.reader id).buffer).1, after) ∧
      (after.reader id).buffer = (step.on (pool.reader id).buffer).2 ∧ start.Keeps (· = id) after

variable {α β : Type} {start : Pool} {id : Nat}

theorem does_pure (value : α) : Does start id (pure value) (pure value) :=
  fun pool kept => ⟨pool, rfl, rfl, kept⟩

theorem does_liftExcept (outcome : Except Error α) :
    Does start id (liftExcept outcome) (.ofExcept outcome) := by
  intro pool kept
  rw [on_liftExcept, on_ofExcept]
  exact ⟨pool, rfl, rfl, kept⟩

theorem does_bind {body : Run α} {step : Edit α} {next : α → Run β} {nextStep : α → Edit β}
    (first : Does start id body step)
    (later : ∀ value, Does start id (next value) (nextStep value)) :
    Does start id (body >>= next) (step >>= nextStep) := by
  intro pool kept
  obtain ⟨middle, ran, buffer, middleKept⟩ := first pool kept
  rw [Run.on_bind, Edit.on_bind, ran]
  cases stepped : step.on (pool.reader id).buffer with
  | mk result cursor =>
      rw [stepped] at buffer
      cases result with
      | error error => exact ⟨middle, rfl, buffer, middleKept⟩
      | ok value =>
          have rest := later value middle middleKept
          rwa [buffer] at rest

section Steps

variable (inPool : id < start.readers.length)

include inPool

theorem does_onBuffer (step : Edit α) : Does start id (onBuffer id step) (attempted step) := by
  intro pool kept
  have here : id < pool.readers.length := kept.length.symm ▸ inPool
  rw [on_onBuffer, on_attempted]
  refine ⟨_, rfl, ?_, kept.trans (pool.keeps_update id (fun _ => rfl) fun _ => rfl)⟩
  rw [Pool.reader_update_self _ here]

/-- A step whose error is let pass. -/
theorem does_onBuffer_lift_bind {step : Edit α} {next : α → Run β} {nextStep : α → Edit β}
    (later : ∀ value, Does start id (next value) (nextStep value)) :
    Does start id (do next (← liftExcept (← onBuffer id step))) (step >>= nextStep) := by
  intro pool kept
  have both := does_bind (does_onBuffer inPool step) fun outcome =>
    does_bind (does_liftExcept outcome) later
  obtain ⟨after, ran, buffer, afterKept⟩ := both pool kept
  simp only [Edit.on_bind, on_attempted, on_ofExcept] at ran buffer
  rw [Edit.on_bind]
  exact ⟨after, ran, buffer, afterKept⟩

theorem does_seekLaidOut (literal : Text) :
    Does start id (seekLaidOut id literal literal) (goPast literal) := by
  apply does_onBuffer_lift_bind inPool
  intro found
  cases found with
  | some piece => exact does_pure ()
  | none => exact fun pool kept => ⟨_, rfl, rfl, kept.trans (keeps_log _ _ pool)⟩

theorem does_seek (literal : Text) : Does start id (seek id literal) (goPast literal) := by
  intro pool kept
  have here : id < pool.readers.length := kept.length.symm ▸ inPool
  have laidOut := pool.reader_update_self here (layOut literal)
  have needle : ((pool.update id (layOut literal)).reader id).delimiter.content = literal := by
    rw [laidOut]
    exact Cursor.content_whole literal
  have buffer : ((pool.update id (layOut literal)).reader id).buffer = (pool.reader id).buffer := by
    rw [laidOut]
    rfl
  rw [on_seek, needle, ← buffer]
  exact does_seekLaidOut inPool literal _
    (kept.trans (pool.keeps_update id (fun _ => rfl) fun _ => rfl))

/-- The count of uses is nothing to the scratch cursor. -/
theorem does_countUse_bind (index : Nat) {next : Nat → Run β} {step : Edit β}
    (later : ∀ earlier, Does start id (next earlier) step) :
    Does start id (countUse id index >>= next) step := by
  intro pool kept
  have here : id < pool.readers.length := kept.length.symm ▸ inPool
  have rest := later ((pool.reader id).filled.getD index 0) _
    (kept.trans (keeps_countUse id index pool))
  rw [on_countUse, Pool.reader_update_self _ here] at rest
  rw [Run.on_bind, on_countUse]
  exact rest

variable {known : Nat → Prop} {answers : Answers} {apply : Nat → Input → Run (List Value)}
  (running : (start.reader id).running = true)
  (applied : ∀ reader input, Keeps (fun _ => False) (apply reader input))
  (answered : ∀ reader input pool, known reader → start.Keeps (· = id) pool →
    ((apply reader input).on pool).1 = answers reader input)

include running applied answered

/-- A reader under way is left alone by the ones that its parsers apply. -/
theorem does_program (body : Program) (only : body.AppliesOnly known) :
    Does start id (program apply id body) (body.work answers) := by
  induction body with
  | finish outcome => exact does_liftExcept outcome
  | edit step next inductionHypothesis =>
      apply does_bind (does_onBuffer inPool step)
      intro outcome
      exact inductionHypothesis outcome (only outcome)
  | apply reader input next inductionHypothesis =>
      obtain ⟨isKnown, nextOnly⟩ := only
      intro pool kept
      have answer := answered reader (input (pool.reader id).buffer) pool isKnown kept
      have nested := applied reader (input (pool.reader id).buffer) pool
      have stillRunning := (kept.running id).trans running
      have buffer := congrArg Reader.buffer (nested.underWay id stillRunning not_false)
      have middleKept := kept.trans (nested.mono fun _ => False.elim)
      have rest := inductionHypothesis (answers reader (input (pool.reader id).buffer))
        (nextOnly _) _ middleKept
      rw [buffer] at rest
      simp only [program, Program.work, Run.on_bind, Edit.on_bind, Run.on_get, Edit.on_get,
        outcomeOf, on_ofFunction, answer]
      exact rest

theorem does_fill (slots : List Slot) (steady : ∀ slot ∈ slots, slot.parser.Steady known id)
    (index : Nat) :
    Does start id (fill apply id slots index) (workEach answers (tasks id slots)) := by
  induction slots generalizing index with
  | nil => exact does_pure []
  | cons slot later inductionHypothesis =>
      obtain ⟨same, only⟩ := steady slot List.mem_cons_self
      apply does_bind (does_seek inPool slot.literal)
      intro _
      apply does_countUse_bind inPool
      intro earlier
      rw [same earlier]
      apply does_bind (does_program inPool running applied answered _ only)
      intro value
      apply does_bind
      · apply inductionHypothesis
        intro slot member
        exact steady slot (List.mem_cons_of_mem _ member)
      · intro values
        exact does_pure _

end Steps

end Run

/-! ## What an application comes to -/

/-- The pool as a reader begins to fill slots. -/
def Pool.begun (pool : Pool) (id : Nat) (input : Input) : Pool :=
  (pool.setRunning id true).update id fun reader => { reader with buffer := input.opened }

namespace Pool

variable (pool : Pool) (id : Nat) (input : Input)

theorem length_begun : (pool.begun id input).readers.length = pool.readers.length := by
  rw [begun, length_update, length_setRunning]

theorem template_begun (other : Nat) :
    ((pool.begun id input).reader other).template = (pool.reader other).template :=
  Eq.trans (field_update Reader.template _ _ _ fun _ => rfl)
    (field_update Reader.template _ _ _ fun _ => rfl)

variable {pool id} (inPool : id < pool.readers.length)

include inPool

theorem reader_begun : (pool.begun id input).reader id =
    { pool.reader id with running := true, buffer := input.opened } := by
  have set : id < (pool.setRunning id true).readers.length := by rwa [length_setRunning]
  rw [begun, reader_update_self _ set, setRunning, reader_update_self _ inPool]

theorem running_begun (other : Nat) : ((pool.begun id input).reader other).running =
    (other == id || (pool.reader other).running) := by
  by_cases here : other = id
  · rw [here, reader_begun input inPool, beq_self_eq_true, Bool.true_or]
  · rw [begun, reader_update_of_ne _ here, setRunning, reader_update_of_ne _ here,
      beq_eq_false_iff_ne.mpr here, Bool.false_or]

end Pool

namespace Run

/-- An idle reader loads the input and fills its slots. -/
theorem on_applyWithin_of_idle (depth : Nat) {id : Nat} (input : Input) {pool : Pool}
    (idle : (pool.reader id).running = false) :
    ((applyWithin (depth + 1) id input).on pool).1 =
      ((fill (applyWithin depth) id (pool.reader id).template.slots 0).on
        (pool.begun id input)).1 := by
  rw [applyWithin, on_ofFunction, idle]
  simp only [Bool.false_eq_true, if_false, on_bind, on_load]
  rfl

/-- An application comes to the answer of the templates, as long as the known readers have steady
parsers. The reader has them too, but it may be one that is not known. -/
theorem on_applyWithin_eq_answersWithin {known : Nat → Prop} {templates : Nat → Template}
    (steady : Steady known templates) (depth : Nat) {id : Nat}
    (own : ∀ slot ∈ (templates id).slots, slot.parser.Steady known id) (input : Input)
    {pool : Pool} (template : ∀ id, (pool.reader id).template = templates id) :
    ((applyWithin depth id input).on pool).1 =
      answersWithin templates depth (fun other => (pool.reader other).running) id input := by
  induction depth generalizing id input pool with
  | zero => rfl
  | succ depth inductionHypothesis =>
      rw [answersWithin]
      cases running : (pool.reader id).running with
      | true =>
          rw [applyWithin, on_ofFunction, running]
          rfl
      | false =>
          rw [on_applyWithin_of_idle depth input running, template, if_neg Bool.false_ne_true]
          by_cases inPool : id < pool.readers.length
          · have here : id < (pool.begun id input).readers.length := by rwa [pool.length_begun]
            have self := Pool.reader_begun input inPool
            -- Whatever is applied meanwhile finds the flags as they were when the work began.
            have answered : ∀ reader given after, known reader →
                (pool.begun id input).Keeps (· = id) after →
                ((applyWithin depth reader given).on after).1 = answersWithin templates depth
                  (fun other => other == id || (pool.reader other).running) reader given := by
              intro reader given after isKnown kept
              have same (other : Nat) : (after.reader other).template = templates other := by
                rw [kept.template, pool.template_begun, template]
              have flags : (fun other => (after.reader other).running) =
                  fun other => other == id || (pool.reader other).running := by
                funext other
                rw [kept.running, Pool.running_begun input inPool]
              rw [inductionHypothesis (steady reader isKnown) given same, flags]
            have filled := does_fill here (congrArg Reader.running self) (keeps_applyWithin depth)
              answered (templates id).slots own 0
            obtain ⟨after, ran, -⟩ := filled (pool.begun id input) (.refl _)
            rw [self] at ran
            exact congrArg Prod.fst ran
          · -- No reader, no slots.
            rw [← template, Pool.reader_of_length_le (Nat.le_of_not_lt inPool)]
            rfl

end Run

/-- The reader is there to be applied, and its parsers are steady and apply only known readers, of
which it is not one itself. -/
structure Pool.StandsApart (pool : Pool) (known : Nat → Prop) (id : Nat) : Prop where
  inPool : id < pool.readers.length
  idle : (pool.reader id).running = false
  notKnown : ¬known id
  own : ∀ slot ∈ (pool.reader id).template.slots, slot.parser.Steady known id

/-- What the readers of a pool answer while one more of them is under way. -/
def Pool.answers (pool : Pool) : Answers :=
  answersWithin (fun id => (pool.reader id).template) (pool.idle - 1) fun id =>
    (pool.reader id).running

theorem Pool.Keeps.answers_eq {pool after : Pool} {mine : Nat → Prop}
    (keeps : pool.Keeps mine after) : after.answers = pool.answers := by
  rw [answers, answers, keeps.idle_eq, funext keeps.template, funext keeps.running]

theorem Pool.StandsApart.of_keeps {pool after : Pool} {known mine : Nat → Prop} {id : Nat}
    (apart : pool.StandsApart known id) (keeps : pool.Keeps mine after) :
    after.StandsApart known id where
  inPool := by rw [keeps.length]; exact apart.inPool
  idle := by rw [keeps.running]; exact apart.idle
  notKnown := apart.notKnown
  own := by rw [keeps.template]; exact apart.own

/-- Which reader it is makes no difference, but for the literals to go past and what follows
them. -/
theorem Pool.StandsApart.on_apply {pool : Pool} {known : Nat → Prop} {id : Nat}
    (apart : pool.StandsApart known id) (steady : Steady known fun id => (pool.reader id).template)
    (input : Input) :
    ((Run.apply id input).on pool).1 =
      ((workEach pool.answers (tasks id (pool.reader id).template.slots)).on input.opened).1 := by
  obtain ⟨depth, counted⟩ : ∃ depth, pool.idle = depth + 1 :=
    ⟨_, (idle_setRunning apart.inPool apart.idle).symm⟩
  have others : ∀ reader, known reader →
      (reader == id || (pool.reader reader).running) = (pool.reader reader).running := by
    intro reader isKnown
    have differs : reader ≠ id := fun same => apart.notKnown (same ▸ isKnown)
    rw [beq_eq_false_iff_ne.mpr differs, Bool.false_or]
  have agree := answersWithin_congr steady depth others
  rw [Run.apply, Run.on_ofFunction,
    Run.on_applyWithin_eq_answersWithin steady pool.idle apart.own input fun _ => rfl, answers,
    counted, answersWithin, apart.idle, if_neg Bool.false_ne_true, Nat.add_sub_cancel,
    workEach_congr agree (appliesOnly_of_mem_tasks apart.own)]

end TextCursor.Template
