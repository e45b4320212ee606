import TextCursor.Template.Pool

/-!
Contract: what an application leaves as it was.

Owns: reads of a pool after a change of one reader, and the frame of every computation over a
pool: no template and no flag is different afterwards, and neither is anything of a reader under
way, unless the computation works for it.

Does not own: what an application yields.

The frame holds for every parser there is. It needs neither that an application succeeds nor that
parsers apply other readers in any order, because a reader under way refuses to be applied.
-/

namespace TextCursor.Template

namespace Pool

@[simp] theorem length_update (pool : Pool) (id : Nat) (change : Reader → Reader) :
    (pool.update id change).readers.length = pool.readers.length := List.length_modify ..

@[simp] theorem length_setRunning (pool : Pool) (id : Nat) (running : Bool) :
    (pool.setRunning id running).readers.length = pool.readers.length := pool.length_update ..

/-- A change is made where it was asked for, if there is a reader. -/
theorem reader_update (pool : Pool) (id other : Nat) (change : Reader → Reader) :
    (pool.update id change).reader other =
      if other = id ∧ id < pool.readers.length then change (pool.reader other)
      else pool.reader other := by
  simp only [reader, update, List.getD_eq_getElem?_getD, List.getElem?_modify]
  by_cases here : id = other
  · subst here
    by_cases inPool : id < pool.readers.length
    · simp [inPool]
    · simp [inPool]
  · have apart : ¬other = id := fun same => here same.symm
    simp [here, apart]

theorem reader_of_length_le {pool : Pool} {id : Nat} (outside : pool.readers.length ≤ id) :
    pool.reader id = .new ⟨[], []⟩ := by
  rw [reader, List.getD_eq_getElem?_getD, List.getElem?_eq_none outside, Option.getD_none]

theorem reader_eq_of_length_le {pool other : Pool} {id : Nat}
    (sameLength : pool.readers.length = other.readers.length)
    (outside : pool.readers.length ≤ id) : pool.reader id = other.reader id := by
  rw [reader_of_length_le outside, reader_of_length_le (sameLength ▸ outside)]

theorem reader_update_of_ne (pool : Pool) {id other : Nat} (apart : other ≠ id)
    (change : Reader → Reader) : (pool.update id change).reader other = pool.reader other := by
  rw [reader_update, if_neg fun both => apart both.1]

theorem reader_update_self (pool : Pool) {id : Nat} (inPool : id < pool.readers.length)
    (change : Reader → Reader) : (pool.update id change).reader id = change (pool.reader id) := by
  rw [reader_update, if_pos ⟨rfl, inPool⟩]

/-- A part of a reader that the change does not concern. -/
theorem field_update {α : Type} (field : Reader → α) (pool : Pool) (id other : Nat)
    {change : Reader → Reader} (same : ∀ reader, field (change reader) = field reader) :
    field ((pool.update id change).reader other) = field (pool.reader other) := by
  rw [reader_update]
  split
  · exact same _
  · rfl

/-- Setting the flag of an idle reader leaves one idle reader less. -/
theorem idle_setRunning {pool : Pool} {id : Nat} (inPool : id < pool.readers.length)
    (idle : (pool.reader id).running = false) : (pool.setRunning id true).idle + 1 = pool.idle := by
  obtain ⟨before, here, after, readers, rfl, changed⟩ :=
    List.exists_of_modify (fun reader => { reader with running := true }) inPool
  have hereIdle : here.running = false := by simpa [reader, readers] using idle
  rw [Pool.idle, Pool.idle, setRunning, update, changed, readers]
  simp only [List.countP_append, List.countP_cons, hereIdle, Bool.not_true, Bool.not_false,
    Bool.false_eq_true, if_true, if_false]
  omega

/-- What a computation that works for the readers `mine` leaves as it was. -/
structure Keeps (mine : Nat → Prop) (before after : Pool) : Prop where
  length : after.readers.length = before.readers.length
  template : ∀ id, (after.reader id).template = (before.reader id).template
  running : ∀ id, (after.reader id).running = (before.reader id).running
  underWay : ∀ id, (before.reader id).running = true → ¬mine id →
    after.reader id = before.reader id

namespace Keeps

variable {mine : Nat → Prop} {before middle after : Pool}

theorem refl (pool : Pool) : pool.Keeps mine pool :=
  ⟨rfl, fun _ => rfl, fun _ => rfl, fun _ _ _ => rfl⟩

theorem trans (first : before.Keeps mine middle) (second : middle.Keeps mine after) :
    before.Keeps mine after where
  length := second.length.trans first.length
  template id := (second.template id).trans (first.template id)
  running id := (second.running id).trans (first.running id)
  underWay id running notMine := by
    have stillRunning := (first.running id).trans running
    exact (second.underWay id stillRunning notMine).trans (first.underWay id running notMine)

theorem mono {more : Nat → Prop} (fewer : ∀ id, mine id → more id)
    (keeps : before.Keeps mine after) : before.Keeps more after where
  length := keeps.length
  template := keeps.template
  running := keeps.running
  underWay id running notMine := keeps.underWay id running (mt (fewer id) notMine)

/-- As many readers are idle as before. -/
theorem idle_eq (keeps : before.Keeps mine after) : after.idle = before.idle := by
  have flags : after.readers.map Reader.running = before.readers.map Reader.running := by
    apply List.ext_getElem
    · rw [List.length_map, List.length_map, keeps.length]
    · intro id inAfter inBefore
      rw [List.length_map] at inAfter inBefore
      have same := keeps.running id
      simp only [reader, List.getD_eq_getElem?_getD, List.getElem?_eq_getElem inAfter,
        List.getElem?_eq_getElem inBefore, Option.getD_some] at same
      rw [List.getElem_map, List.getElem_map, same]
  have counted (pool : Pool) : pool.idle = (pool.readers.map Reader.running).countP (!·) := by
    rw [List.countP_map]
    rfl
  rw [counted, counted, flags]

end Keeps

/-- A reader works on its own scratch. -/
theorem keeps_update (pool : Pool) (id : Nat) {change : Reader → Reader}
    (template : ∀ reader, (change reader).template = reader.template)
    (running : ∀ reader, (change reader).running = reader.running) :
    pool.Keeps (· = id) (pool.update id change) where
  length := pool.length_update id change
  template other := field_update Reader.template pool id other template
  running other := field_update Reader.running pool id other running
  underWay _ _ notMine := pool.reader_update_of_ne notMine change

/-- Setting the flag of an idle reader, working for it and clearing the flag again keeps every
reader that was under way. -/
theorem Keeps.of_setRunning {pool after : Pool} {id : Nat}
    (idle : (pool.reader id).running = false)
    (keeps : (pool.setRunning id true).Keeps (· = id) after) :
    pool.Keeps (fun _ => False) (after.setRunning id false) where
  length := by
    rw [length_setRunning, keeps.length, length_setRunning]
  template other := by
    have cleared : ((after.setRunning id false).reader other).template =
        (after.reader other).template := field_update Reader.template _ _ _ fun _ => rfl
    have set : ((pool.setRunning id true).reader other).template =
        (pool.reader other).template := field_update Reader.template _ _ _ fun _ => rfl
    rw [cleared, keeps.template, set]
  running other := by
    have same := keeps.running other
    by_cases here : other = id ∧ id < pool.readers.length
    · have inAfter : id < after.readers.length := by
        rw [keeps.length, length_setRunning]
        exact here.2
      rw [here.1, idle, setRunning, reader_update_self _ inAfter]
    · have notInAfter : ¬(other = id ∧ id < after.readers.length) := by
        rwa [keeps.length, length_setRunning]
      rw [setRunning, reader_update, if_neg here] at same
      rw [setRunning, reader_update, if_neg notInAfter, same]
  underWay other running _ := by
    have apart : other ≠ id := by
      rintro rfl
      rw [idle] at running
      contradiction
    have set : (pool.setRunning id true).reader other = pool.reader other :=
      pool.reader_update_of_ne apart _
    have kept := keeps.underWay other (by rwa [set]) apart
    rw [setRunning, reader_update_of_ne _ apart, kept, set]

end Pool

namespace Run

/-- Wherever it begins and however it ends, the computation leaves this much as it was. -/
def Keeps {α : Type} (mine : Nat → Prop) (body : Run α) : Prop :=
  ∀ pool : Pool, pool.Keeps mine (body.on pool).2

variable {α β : Type} {mine : Nat → Prop}

theorem keeps_pure (value : α) : Keeps mine (pure value) := fun pool => .refl pool

theorem keeps_throw (error : Error) : Keeps mine (throw error : Run α) := fun pool => .refl pool

theorem keeps_liftExcept (outcome : Except Error α) : Keeps mine (liftExcept outcome) := by
  intro pool
  rw [on_liftExcept]
  exact .refl pool

theorem keeps_get : Keeps mine (get : Run Pool) := fun pool => .refl pool

theorem keeps_bind {body : Run α} {next : α → Run β} (first : Keeps mine body)
    (later : ∀ value, Keeps mine (next value)) : Keeps mine (body >>= next) := by
  intro pool
  have kept := first pool
  rw [on_bind]
  cases ran : body.on pool with
  | mk result after =>
      rw [ran] at kept
      cases result with
      | ok value => exact kept.trans (later value after)
      | error error => exact kept

theorem keeps_outcomeOf {body : Run α} (kept : Keeps mine body) :
    Keeps mine (outcomeOf body) :=
  kept

theorem keeps_log (level : Log.Level) (message : String) : Keeps mine (log level message) :=
  fun _ => ⟨rfl, fun _ => rfl, fun _ => rfl, fun _ _ _ => rfl⟩

/-! ## The steps of a reader -/

section Steps

variable (id : Nat)

theorem on_onBuffer (step : Edit α) (pool : Pool) :
    (onBuffer id step).on pool = (.ok (step.on (pool.reader id).buffer).1,
      pool.update id fun reader =>
        { reader with buffer := (step.on (pool.reader id).buffer).2 }) := rfl

theorem on_onDelimiter (step : Edit α) (pool : Pool) :
    (onDelimiter id step).on pool = (.ok (step.on (pool.reader id).delimiter).1,
      pool.update id fun reader =>
        { reader with delimiter := (step.on (pool.reader id).delimiter).2 }) := rfl

theorem on_countUse (index : Nat) (pool : Pool) :
    (countUse id index).on pool = (.ok ((pool.reader id).filled.getD index 0),
      pool.update id fun reader =>
        { reader with filled := reader.filled.modify index (· + 1) }) := rfl

theorem keeps_onBuffer (step : Edit α) : Keeps (· = id) (onBuffer id step) := by
  intro pool
  rw [on_onBuffer]
  exact pool.keeps_update id (fun _ => rfl) (fun _ => rfl)

theorem keeps_onDelimiter (step : Edit α) : Keeps (· = id) (onDelimiter id step) := by
  intro pool
  rw [on_onDelimiter]
  exact pool.keeps_update id (fun _ => rfl) (fun _ => rfl)

theorem keeps_countUse (index : Nat) : Keeps (· = id) (countUse id index) := by
  intro pool
  rw [on_countUse]
  exact pool.keeps_update id (fun _ => rfl) (fun _ => rfl)

theorem keeps_load (input : Input) : Keeps (· = id) (load id input) := by
  cases input with
  | text | cursor =>
      apply keeps_bind (keeps_onBuffer id _)
      intro outcome
      exact keeps_liftExcept outcome

theorem keeps_seek (literal : Text) : Keeps (· = id) (seek id literal) := by
  apply keeps_bind (keeps_onDelimiter id _)
  intro opened
  apply keeps_bind (keeps_liftExcept opened)
  intro _
  apply keeps_bind keeps_get
  intro pool
  apply keeps_bind (keeps_onBuffer id _)
  intro searched
  apply keeps_bind (keeps_liftExcept searched)
  intro found
  cases found with
  | some piece => exact keeps_pure ()
  | none =>
      apply keeps_bind keeps_get
      intro pool
      apply keeps_bind (keeps_log _ _)
      intro _
      exact keeps_throw _

end Steps

/-! ## Applications -/

section Applications

variable {apply : Nat → Input → Run (List Value)}
  (applied : ∀ reader input, Keeps (fun _ => False) (apply reader input))

include applied

theorem keeps_program (id : Nat) (body : Program) : Keeps (· = id) (program apply id body) := by
  induction body with
  | finish outcome => exact keeps_liftExcept outcome
  | edit step next inductionHypothesis =>
      apply keeps_bind (keeps_onBuffer id step)
      intro outcome
      exact inductionHypothesis outcome
  | apply reader input next inductionHypothesis =>
      apply keeps_bind keeps_get
      intro pool
      have nested : Keeps (· = id) (apply reader (input (pool.reader id).buffer)) :=
        fun before => (applied reader _ before).mono (fun _ => False.elim)
      apply keeps_bind (keeps_outcomeOf nested)
      intro outcome
      exact inductionHypothesis outcome

theorem keeps_fill (id : Nat) (slots : List Slot) (index : Nat) :
    Keeps (· = id) (fill apply id slots index) := by
  induction slots generalizing index with
  | nil => exact keeps_pure []
  | cons slot later inductionHypothesis =>
      apply keeps_bind (keeps_seek id slot.literal)
      intro _
      apply keeps_bind (keeps_countUse id index)
      intro earlier
      apply keeps_bind (keeps_program applied id _)
      intro value
      apply keeps_bind (inductionHypothesis (index + 1))
      intro values
      exact keeps_pure _

end Applications

/-- An application, whether it is refused, fails or succeeds, leaves every reader under way as it
was, and clears the flag that it set. -/
theorem keeps_applyWithin (depth id : Nat) (input : Input) :
    Keeps (fun _ => False) (applyWithin depth id input) := by
  induction depth generalizing id input with
  | zero => exact keeps_throw _
  | succ depth inductionHypothesis =>
      intro pool
      rw [applyWithin, on_ofFunction]
      cases running : (pool.reader id).running with
      | true => exact .refl pool
      | false =>
          have body : Keeps (· = id) (do
              load id input
              fill (applyWithin depth) id (pool.reader id).template.slots 0) := by
            apply keeps_bind (keeps_load id input)
            intro _
            exact keeps_fill inductionHypothesis id _ 0
          exact .of_setRunning running (body (pool.setRunning id true))

theorem keeps_apply (id : Nat) (input : Input) : Keeps (fun _ => False) (apply id input) :=
  fun pool => keeps_applyWithin pool.idle id input pool

end Run

end TextCursor.Template
