import TextCursor.Proofs.Template.Reading

/-!
Contract: what an application does not depend on.

Owns: pools that are alike but for what their readers hold from earlier applications; that alike
pools answer alike, for readers whose parsers do the same at each use, and come to hold the same;
and that in a sequence of applications each one comes to what it would come to if every reader
had just been built.

Does not own: what any application yields.

What a reader at work holds has to be the same in both pools, and is: it loads its scratch cursor
before it does anything else, and lays out each literal before it looks for it. The relation
therefore lists the readers at work, and says nothing of what the others hold. That scratch cursors
end up the same is said of two runs (`Pool.ShareChanges`): an outcome may name a scratch cursor, so
it is as much the same on both sides as what that cursor then holds.
-/

namespace TextCursor.Template

/-! ## Parsers that do the same at each use -/

/-- The program applies readers only from those that are known. -/
def Program.AppliesOnly (known : Nat → Prop) : Program → Prop
  | .finish _ => True
  | .edit _ next => ∀ outcome, (next outcome).AppliesOnly known
  | .apply reader _ next => known reader ∧ ∀ outcome, (next outcome).AppliesOnly known

/-- However often its slot was filled before, the parser does the same with the cursor that it is
given. It may move that cursor anywhere, fail, and apply known readers. -/
structure Parser.Steady (known : Nat → Prop) (id : Nat) (parser : Parser) : Prop where
  same : ∀ earlier, parser.program id earlier = parser.program id 0
  applies : (parser.program id 0).AppliesOnly known

theorem Parser.steady_ofEdit {α : Type} (known : Nat → Prop) (id : Nat) (name : String)
    (value : α → Value) (step : Edit α) : (ofEdit name value step).Steady known id :=
  ⟨fun _ => rfl, fun _ => trivial⟩

theorem Parser.steady_ofReader {known : Nat → Prop} {id reader : Nat} (template : Template)
    (isKnown : known reader) : (ofReader template reader).Steady known id :=
  ⟨fun _ => rfl, isKnown, fun _ => trivial⟩

/-- The known readers have steady parsers. -/
def Steady (known : Nat → Prop) (templates : Nat → Template) : Prop :=
  ∀ id, known id → ∀ slot ∈ (templates id).slots, slot.parser.Steady known id

/-! ## Alike pools -/

/-- The pools have readers for the same templates, and differ only in what readers hold that are
not at work. -/
structure Pool.Alike (templates : Nat → Template) (atWork : List Nat) (left right : Pool) :
    Prop where
  length : left.readers.length = right.readers.length
  template : ∀ id, (left.reader id).template = templates id
  twinTemplate : ∀ id, (right.reader id).template = templates id
  running : ∀ id, (left.reader id).running = (right.reader id).running
  buffer : ∀ id ∈ atWork, (left.reader id).buffer = (right.reader id).buffer

namespace Pool.Alike

variable {templates : Nat → Template} {atWork : List Nat} {left right : Pool}

theorem idle_eq (alike : left.Alike templates atWork right) : left.idle = right.idle := by
  have keeps : right.Keeps (fun _ => True) left :=
    ⟨alike.length, fun id => (alike.template id).trans (alike.twinTemplate id).symm, alike.running,
      fun _ _ notMine => absurd trivial notMine⟩
  exact keeps.idle_eq

theorem of_keeps {mine : Nat → Prop} {after : Pool} (alike : left.Alike templates [] right)
    (keeps : left.Keeps mine after) : after.Alike templates [] right where
  length := keeps.length.trans alike.length
  template id := (keeps.template id).trans (alike.template id)
  twinTemplate := alike.twinTemplate
  running id := (keeps.running id).trans (alike.running id)
  buffer _ working := absurd working List.not_mem_nil

theorem mono {fewer : List Nat} (fewerAtWork : ∀ id ∈ fewer, id ∈ atWork)
    (alike : left.Alike templates atWork right) : left.Alike templates fewer right :=
  { alike with buffer := fun id working => alike.buffer id (fewerAtWork id working) }

/-- The same change of a reader on both sides, which spares its scratch cursor. -/
theorem update (alike : left.Alike templates atWork right) (id : Nat) {change : Reader → Reader}
    (template : ∀ reader, (change reader).template = reader.template)
    (running : ∀ reader twin, reader.running = twin.running →
      (change reader).running = (change twin).running)
    (buffer : ∀ reader, (change reader).buffer = reader.buffer) :
    (left.update id change).Alike templates atWork (right.update id change) where
  length := by rw [length_update, length_update, alike.length]
  template place := by rw [field_update Reader.template _ _ _ template, alike.template]
  twinTemplate place := by rw [field_update Reader.template _ _ _ template, alike.twinTemplate]
  running place := by
    rw [reader_update, reader_update, alike.length]
    split
    · exact running _ _ (alike.running place)
    · exact alike.running place
  buffer place working := by
    rw [field_update Reader.buffer _ _ _ buffer, field_update Reader.buffer _ _ _ buffer,
      alike.buffer place working]

/-- From when its scratch cursor is the same on both sides, a reader may count as one at work. -/
theorem update_buffer (alike : left.Alike templates atWork right) (id : Nat) (cursor : Cursor) :
    (left.update id fun reader => { reader with buffer := cursor }).Alike templates (id :: atWork)
      (right.update id fun reader => { reader with buffer := cursor }) where
  length := by rw [length_update, length_update, alike.length]
  template place :=
    Eq.trans (field_update Reader.template left id place fun _ => rfl) (alike.template place)
  twinTemplate place :=
    Eq.trans (field_update Reader.template right id place fun _ => rfl) (alike.twinTemplate place)
  running place := by
    rw [reader_update, reader_update, alike.length]
    split
    · exact alike.running place
    · exact alike.running place
  buffer place working := by
    by_cases inPool : place < left.readers.length
    · rw [reader_update, reader_update, ← alike.length]
      split
      next => rfl
      next elsewhere =>
        have apart : place ≠ id := by
          rintro rfl
          exact elsewhere ⟨rfl, inPool⟩
        exact alike.buffer place (List.mem_of_ne_of_mem apart working)
    · have outside : left.readers.length ≤ place := Nat.le_of_not_lt inPool
      rw [reader_eq_of_length_le]
      · rw [length_update, length_update, alike.length]
      · rwa [length_update]

end Pool.Alike

/-! ## Scratch cursors that change alike -/

/-- On the way from the first pair of pools to the second, each scratch cursor became the same on
both sides, or stayed on both sides what it was. -/
def Pool.ShareChanges (left right after twinAfter : Pool) : Prop :=
  ∀ id, (after.reader id).buffer = (twinAfter.reader id).buffer ∨
    (after.reader id).buffer = (left.reader id).buffer ∧
      (twinAfter.reader id).buffer = (right.reader id).buffer

namespace Pool.ShareChanges

variable {left right middle twinMiddle after twinAfter : Pool}

theorem refl (left right : Pool) : ShareChanges left right left right :=
  fun _ => .inr ⟨rfl, rfl⟩

theorem trans (first : ShareChanges left right middle twinMiddle)
    (second : ShareChanges middle twinMiddle after twinAfter) :
    ShareChanges left right after twinAfter := by
  intro id
  obtain same | ⟨kept, twinKept⟩ := second id
  · exact .inl same
  · rw [kept, twinKept]
    exact first id

/-- Changes that spare the scratch cursor. -/
theorem of_update (left right : Pool) (id : Nat) {change : Reader → Reader}
    (buffer : ∀ reader, (change reader).buffer = reader.buffer) :
    ShareChanges left right (left.update id change) (right.update id change) :=
  fun place =>
    .inr ⟨field_update Reader.buffer left id place buffer,
      field_update Reader.buffer right id place buffer⟩

theorem of_setRunning (left right : Pool) (id : Nat) (running : Bool) :
    ShareChanges left right (left.setRunning id running) (right.setRunning id running) :=
  of_update left right id fun _ => rfl

theorem of_update_buffer (sameLength : left.readers.length = right.readers.length) (id : Nat)
    (cursor : Cursor) :
    ShareChanges left right (left.update id fun reader => { reader with buffer := cursor })
      (right.update id fun reader => { reader with buffer := cursor }) := by
  intro place
  rw [reader_update, reader_update, ← sameLength]
  split
  · exact .inl rfl
  · exact .inr ⟨rfl, rfl⟩

end Pool.ShareChanges

/-! ## Computations that answer alike -/

namespace Run

/-- What computations that began in these pools came to on both sides. -/
structure Tally {α : Type} (templates : Nat → Template) (atWork : List Nat) (left right : Pool)
    (result twin : Except Error α × Pool) : Prop where
  outcome : result.1 = twin.1
  alike : result.2.Alike templates atWork twin.2
  shared : Pool.ShareChanges left right result.2 twin.2

/-- From alike pools the computations come to the same, leave alike pools, and change scratch
cursors alike. -/
def Agree {α : Type} (templates : Nat → Template) (atWork : List Nat) (body twin : Run α) : Prop :=
  ∀ left right : Pool, left.Alike templates atWork right →
    Tally templates atWork left right (body.on left) (twin.on right)

variable {α β : Type} {templates : Nat → Template} {atWork : List Nat}

theorem agree_pure (value : α) : Agree templates atWork (pure value) (pure value) :=
  fun left right alike => ⟨rfl, alike, .refl left right⟩

theorem agree_throw (error : Error) : Agree templates atWork (throw error : Run α) (throw error) :=
  fun left right alike => ⟨rfl, alike, .refl left right⟩

theorem agree_liftExcept (outcome : Except Error α) :
    Agree templates atWork (liftExcept outcome) (liftExcept outcome) := by
  intro left right alike
  rw [on_liftExcept, on_liftExcept]
  exact ⟨rfl, alike, .refl left right⟩

theorem agree_log (level : Log.Level) (message : String) :
    Agree templates atWork (log level message) (log level message) :=
  fun left right alike => ⟨rfl, { alike with }, .refl left right⟩

theorem agree_bind {body twin : Run α} {next nextTwin : α → Run β}
    (first : Agree templates atWork body twin)
    (later : ∀ value, Agree templates atWork (next value) (nextTwin value)) :
    Agree templates atWork (body >>= next) (twin >>= nextTwin) := by
  intro left right alike
  obtain ⟨same, alikeAfter, shared⟩ := first left right alike
  rw [on_bind, on_bind]
  cases ran : body.on left with
  | mk result after =>
      cases twinRan : twin.on right with
      | mk twinResult twinAfter =>
          rw [ran, twinRan] at same alikeAfter shared
          obtain rfl : result = twinResult := same
          cases result with
          | ok value =>
              obtain ⟨sameLater, alikeLater, sharedLater⟩ := later value _ _ alikeAfter
              exact ⟨sameLater, alikeLater, shared.trans sharedLater⟩
          | error error => exact ⟨rfl, alikeAfter, shared⟩

theorem agree_get_bind {next nextTwin : Pool → Run β}
    (later : ∀ left right, left.Alike templates atWork right →
      Agree templates atWork (next left) (nextTwin right)) :
    Agree templates atWork (get >>= next) (get >>= nextTwin) :=
  fun left right alike => later left right alike left right alike

theorem agree_outcomeOf {body twin : Run α} (agree : Agree templates atWork body twin) :
    Agree templates atWork (outcomeOf body) (outcomeOf twin) := by
  intro left right alike
  obtain ⟨same, alikeAfter, shared⟩ := agree left right alike
  exact ⟨congrArg Except.ok same, alikeAfter, shared⟩

/-- Computations that agree, from where the same change of a reader leaves alike pools. -/
theorem agree_on_update {body twin : Run α} (agree : Agree templates atWork body twin)
    {left right : Pool} (alike : left.Alike templates atWork right) (id : Nat)
    {change : Reader → Reader} (template : ∀ reader, (change reader).template = reader.template)
    (running : ∀ reader twin, reader.running = twin.running →
      (change reader).running = (change twin).running)
    (buffer : ∀ reader, (change reader).buffer = reader.buffer) :
    Tally templates atWork left right (body.on (left.update id change))
      (twin.on (right.update id change)) := by
  obtain ⟨same, alikeAfter, shared⟩ := agree _ _ (alike.update id template running buffer)
  exact ⟨same, alikeAfter, (Pool.ShareChanges.of_update left right id buffer).trans shared⟩

/-! ## The steps of a reader -/

section Steps

variable {id : Nat}

theorem agree_onBuffer (working : id ∈ atWork) (step : Edit α) :
    Agree templates atWork (onBuffer id step) (onBuffer id step) := by
  intro left right alike
  have same := alike.buffer id working
  rw [on_onBuffer, on_onBuffer, same]
  exact ⟨rfl, (alike.update_buffer id _).mono fun _ => List.mem_cons_of_mem id,
    .of_update_buffer alike.length id _⟩

/-- The search for a literal that has been laid out. -/
def seekLaidOut (id : Nat) (literal needle : Text) : Run Unit := do
  match ← liftExcept (← onBuffer id (Cursor.popBefore? needle)) with
  | some _ => return ()
  | none =>
      let remaining := ((← get).reader id).buffer.content
      log .debug (missingMessage literal remaining)
      throw (.literalMissing literal remaining)

theorem agree_seekLaidOut (working : id ∈ atWork) (literal needle : Text) :
    Agree templates atWork (seekLaidOut id literal needle) (seekLaidOut id literal needle) := by
  apply agree_bind (agree_onBuffer working _)
  intro searched
  apply agree_bind (agree_liftExcept searched)
  intro found
  cases found with
  | some piece => exact agree_pure ()
  | none =>
      apply agree_get_bind
      intro left right alike
      rw [alike.buffer id working]
      apply agree_bind (agree_log _ _)
      intro _
      exact agree_throw _

/-- The literal on the reader's second cursor. -/
def layOut (literal : Text) (reader : Reader) : Reader :=
  { reader with delimiter := { source := literal, start := 0, size := literal.length } }

theorem on_seek (literal : Text) (pool : Pool) :
    (seek id literal).on pool =
      (seekLaidOut id literal ((pool.update id (layOut literal)).reader id).delimiter.content).on
        (pool.update id (layOut literal)) := by
  have opened : (onDelimiter id (Cursor.reopen (some literal))).on pool =
      (.ok (.ok ()), pool.update id (layOut literal)) := rfl
  cases ran : (Cursor.popBefore? ((pool.update id (layOut literal)).reader id).delimiter.content).on
      ((pool.update id (layOut literal)).reader id).buffer with
  | mk searched rest =>
      cases searched with
      | error error =>
          simp only [seek, seekLaidOut, on_bind, opened, on_liftExcept, on_get, on_onBuffer, ran]
      | ok found =>
          cases found with
          | none | some =>
              simp only [seek, seekLaidOut, on_bind, opened, on_liftExcept, on_get, on_onBuffer,
                ran]

/-- What the cursor for literals held before does not count. -/
theorem agree_seek (working : id ∈ atWork) (literal : Text) :
    Agree templates atWork (seek id literal) (seek id literal) := by
  intro left right alike
  have laidOut : (left.update id (layOut literal)).Alike templates atWork
      (right.update id (layOut literal)) :=
    alike.update id (fun _ => rfl) (fun _ _ same => same) fun _ => rfl
  have needle : ((left.update id (layOut literal)).reader id).delimiter.content =
      ((right.update id (layOut literal)).reader id).delimiter.content := by
    by_cases inPool : id < left.readers.length
    · rw [Pool.reader_update_self _ inPool, Pool.reader_update_self _ (alike.length ▸ inPool)]
      rfl
    · have outside : (left.update id (layOut literal)).readers.length ≤ id := by
        rw [Pool.length_update]
        omega
      rw [Pool.reader_eq_of_length_le laidOut.length outside]
  rw [on_seek, on_seek, needle]
  exact agree_on_update (agree_seekLaidOut working literal _) alike id (fun _ => rfl)
    (fun _ _ same => same) fun _ => rfl

/-- How often the slot was filled before does not count either, if nothing is made of it. -/
theorem agree_countUse_bind (index : Nat) {next nextTwin : Nat → Run β}
    (same : ∀ earlier other, Agree templates atWork (next earlier) (nextTwin other)) :
    Agree templates atWork (countUse id index >>= next) (countUse id index >>= nextTwin) := by
  intro left right alike
  rw [on_bind, on_bind, on_countUse, on_countUse]
  exact agree_on_update (same _ _) alike id (fun _ => rfl) (fun _ _ same => same) fun _ => rfl

section Applications

variable {known : Nat → Prop} {apply applyTwin : Nat → Input → Run (List Value)}
  (applied : ∀ reader input, known reader →
    Agree templates atWork (apply reader input) (applyTwin reader input))
  (working : id ∈ atWork)

include applied working

theorem agree_program (body : Program) (only : body.AppliesOnly known) :
    Agree templates atWork (program apply id body) (program applyTwin id body) := by
  induction body with
  | finish outcome => exact agree_liftExcept outcome
  | edit step next inductionHypothesis =>
      apply agree_bind (agree_onBuffer working step)
      intro outcome
      exact inductionHypothesis outcome (only outcome)
  | apply reader input next inductionHypothesis =>
      obtain ⟨isKnown, nextOnly⟩ := only
      apply agree_get_bind
      intro left right alike
      rw [alike.buffer id working]
      apply agree_bind (agree_outcomeOf (applied reader _ isKnown))
      intro outcome
      exact inductionHypothesis outcome (nextOnly outcome)

theorem agree_fill (slots : List Slot) (steady : ∀ slot ∈ slots, slot.parser.Steady known id)
    (index : Nat) :
    Agree templates atWork (fill apply id slots index) (fill applyTwin id slots index) := by
  induction slots generalizing index with
  | nil => exact agree_pure []
  | cons slot later inductionHypothesis =>
      obtain ⟨same, only⟩ := steady slot List.mem_cons_self
      apply agree_bind (agree_seek working slot.literal)
      intro _
      apply agree_countUse_bind
      intro earlier other
      rw [same earlier, same other]
      apply agree_bind (agree_program applied working _ only)
      intro value
      apply agree_bind
      · apply inductionHypothesis
        intro slot member
        exact steady slot (List.mem_cons_of_mem _ member)
      · intro values
        exact agree_pure _

end Applications

end Steps

/-! ## Applications -/

section Applications

variable {known : Nat → Prop} (steady : Steady known templates)

include steady

/-- An application that is not refused loads the reader's scratch cursor, which is the same on
both sides from then on. -/
theorem agree_accepted {depth : Nat}
    (applied : ∀ {reader : Nat}, known reader → ∀ input atWork,
      Agree templates atWork (applyWithin depth reader input) (applyWithin depth reader input))
    {id : Nat} (isKnown : known id) (input : Input) {left right : Pool}
    (alike : left.Alike templates atWork right) (idle : (right.reader id).running = false) :
    Tally templates (id :: atWork) left right ((applyWithin (depth + 1) id input).on left)
      ((applyWithin (depth + 1) id input).on right) := by
  rw [applyWithin, on_ofFunction, on_ofFunction, alike.running id, alike.template,
    alike.twinTemplate, idle]
  have set : (left.setRunning id true).Alike templates atWork (right.setRunning id true) :=
    alike.update id (fun _ => rfl) (fun _ _ _ => rfl) fun _ => rfl
  have loaded := set.update_buffer id input.opened
  have filled := agree_fill (fun reader input isKnown => applied isKnown input _)
    List.mem_cons_self (templates id).slots (steady id isKnown) 0 _ _ loaded
  simp only [Bool.false_eq_true, if_false, on_bind, on_load]
  obtain ⟨same, alikeAfter, shared⟩ := filled
  refine ⟨same, alikeAfter.update id (fun _ => rfl) (fun _ _ _ => rfl) fun _ => rfl, ?_⟩
  have flagged := Pool.ShareChanges.of_setRunning left right id true
  have opened := flagged.trans (.of_update_buffer set.length id input.opened)
  exact (opened.trans shared).trans (.of_setRunning _ _ id false)

theorem agree_applyWithin (depth : Nat) {id : Nat} (isKnown : known id) (input : Input)
    (atWork : List Nat) :
    Agree templates atWork (applyWithin depth id input) (applyWithin depth id input) := by
  induction depth generalizing id input atWork with
  | zero => exact agree_throw _
  | succ depth inductionHypothesis =>
      intro left right alike
      cases running : (right.reader id).running with
      | true =>
          rw [applyWithin, on_ofFunction, on_ofFunction, alike.running id, running]
          exact ⟨rfl, alike, .refl left right⟩
      | false =>
          obtain ⟨same, alikeAfter, shared⟩ :=
            agree_accepted steady inductionHypothesis isKnown input alike running
          exact ⟨same, alikeAfter.mono fun _ => List.mem_cons_of_mem id, shared⟩

theorem agree_apply {id : Nat} (isKnown : known id) (input : Input) :
    Agree templates atWork (apply id input) (apply id input) := by
  intro left right alike
  rw [apply, on_ofFunction, on_ofFunction, alike.idle_eq]
  exact agree_applyWithin steady right.idle isKnown input atWork left right alike

/-- After an application of an idle reader, its scratch cursor is the same on both sides. -/
theorem buffer_apply {id : Nat} (isKnown : known id) (input : Input) {left right : Pool}
    (alike : left.Alike templates atWork right) (idle : (right.reader id).running = false) :
    (((apply id input).on left).2.reader id).buffer =
      (((apply id input).on right).2.reader id).buffer := by
  by_cases inPool : id < right.readers.length
  · have counted := Pool.idle_setRunning inPool idle
    rw [apply, on_ofFunction, on_ofFunction, alike.idle_eq, ← counted]
    have accepted := agree_accepted steady
      (agree_applyWithin steady (right.setRunning id true).idle) isKnown input alike idle
    exact accepted.alike.buffer id List.mem_cons_self
  · have outside : right.readers.length ≤ id := Nat.le_of_not_lt inPool
    have kept := keeps_apply id input left
    obtain ⟨-, alikeAfter, -⟩ := agree_apply steady isKnown input left right alike
    rw [Pool.reader_eq_of_length_le alikeAfter.length]
    rwa [kept.length, alike.length]

end Applications

end Run

/-! ## Sequences of applications -/

/-- The pool as if every idle reader had just been built. -/
def Pool.renewed (pool : Pool) : Pool :=
  { pool with
    readers := pool.readers.map fun reader =>
      if reader.running then reader else .new reader.template }

/-- The outcomes of applications one after another. -/
def Pool.callEach (pool : Pool) : List (Nat × Input) → List (Except Error (List Value))
  | [] => []
  | call :: later =>
      let result := (Run.apply call.1 call.2).on pool
      result.1 :: callEach result.2 later

/-- The pool that applications one after another leave. -/
def Pool.afterEach (pool : Pool) (calls : List (Nat × Input)) : Pool :=
  calls.foldl (fun pool call => ((Run.apply call.1 call.2).on pool).2) pool

namespace Pool

theorem reader_renewed (pool : Pool) (id : Nat) :
    pool.renewed.reader id =
      if (pool.reader id).running then pool.reader id else .new (pool.reader id).template := by
  simp only [reader, renewed, List.getD_eq_getElem?_getD, List.getElem?_map]
  cases pool.readers[id]? with
  | some reader => rfl
  | none => rfl

theorem alike_renewed (pool : Pool) :
    pool.Alike (fun id => (pool.reader id).template) [] pool.renewed where
  length := by rw [renewed, List.length_map]
  template id := rfl
  twinTemplate id := by
    rw [reader_renewed]
    split
    · rfl
    · rfl
  running id := by
    rw [reader_renewed]
    split
    · rfl
    next idle => exact Bool.eq_false_iff.mpr idle
  buffer _ working := absurd working List.not_mem_nil

/-- Each application is to the pool that the earlier ones leave. -/
theorem callEach_getElem? {pool : Pool} {calls : List (Nat × Input)} {index id : Nat}
    {input : Input} (called : calls[index]? = some (id, input)) :
    (pool.callEach calls)[index]? =
      some ((Run.apply id input).on (pool.afterEach (calls.take index))).1 := by
  induction calls generalizing pool index with
  | nil => contradiction
  | cons call later inductionHypothesis =>
      cases index with
      | zero =>
          obtain rfl : call = (id, input) := Option.some.inj called
          rfl
      | succ index => exact inductionHypothesis called

theorem afterEach_take_succ (pool : Pool) {calls : List (Nat × Input)} {index id : Nat}
    {input : Input} (called : calls[index]? = some (id, input)) :
    pool.afterEach (calls.take (index + 1)) =
      ((Run.apply id input).on (pool.afterEach (calls.take index))).2 := by
  rw [List.take_add_one, called, Option.toList_some, afterEach, List.foldl_append]
  rfl

theorem keeps_afterEach (pool : Pool) (calls : List (Nat × Input)) :
    pool.Keeps (fun _ => False) (pool.afterEach calls) := by
  induction calls generalizing pool with
  | nil => exact .refl pool
  | cons call later inductionHypothesis =>
      exact (Run.keeps_apply call.1 call.2 pool).trans (inductionHypothesis _)

/-- In any sequence of applications, each one of a known reader comes to what it would come to by
itself, if every reader that is idle when the sequence begins had just been built. The others may
fail in any way, and may be of readers that are not known. An outcome may name a scratch cursor:
the reader's own is then the same too, and so is every other one that the application changed. -/
theorem callEach_renewed {pool : Pool} {known : Nat → Prop}
    (steady : Steady known fun id => (pool.reader id).template) {calls : List (Nat × Input)}
    {index id : Nat} {input : Input} (called : calls[index]? = some (id, input))
    (isKnown : known id) :
    (pool.callEach calls)[index]? = some ((Run.apply id input).on pool.renewed).1 ∧
      ((pool.afterEach (calls.take (index + 1))).reader id).buffer =
        (((Run.apply id input).on pool.renewed).2.reader id).buffer ∧
      ShareChanges (pool.afterEach (calls.take index)) pool.renewed
        (pool.afterEach (calls.take (index + 1))) ((Run.apply id input).on pool.renewed).2 := by
  have kept := pool.keeps_afterEach (calls.take index)
  have alike := pool.alike_renewed.of_keeps kept
  obtain ⟨same, -, shared⟩ := Run.agree_apply steady isKnown input _ _ alike
  rw [callEach_getElem? called, pool.afterEach_take_succ called]
  refine ⟨congrArg some same, ?_, shared⟩
  cases running : (pool.reader id).running with
  | false =>
      have idle : (pool.renewed.reader id).running = false := by
        rw [← alike.running, kept.running, running]
      exact Run.buffer_apply steady isKnown input alike idle
  | true =>
      -- The application is refused on both sides, and the reader is what it was at the beginning.
      have renewed : pool.renewed.reader id = pool.reader id := by
        rw [reader_renewed, running, if_pos rfl]
      have keptLast := kept.trans (Run.keeps_apply id input _)
      have keptAlone := Run.keeps_apply id input pool.renewed
      rw [keptLast.underWay id running not_false,
        keptAlone.underWay id (by rwa [renewed]) not_false, renewed]

end Pool

/-- A literal that is missing, then a number that is missing in the point, then a line. -/
def lineCalls : List (Nat × Input) :=
  [(1, .text "nowhere".toList), (1, .text "at (3,x) red".toList), (1, .cursor lineCursor)]

theorem linePool_steady : Steady (· < 2) fun id => (linePool.reader id).template := by
  intro id inPool
  obtain rfl | rfl : id = 0 ∨ id = 1 := by omega
  · show ∀ slot ∈ pointTemplate.slots, slot.parser.Steady (· < 2) 0
    exact List.forall_mem_cons.mpr
      ⟨Parser.steady_ofEdit .., List.forall_mem_singleton.mpr (Parser.steady_ofEdit ..)⟩
  · show ∀ slot ∈ lineTemplate.slots, slot.parser.Steady (· < 2) 1
    exact List.forall_mem_cons.mpr
      ⟨Parser.steady_ofReader _ (by decide),
        List.forall_mem_singleton.mpr (Parser.steady_ofEdit ..)⟩

/-- Neither failed call shows in the third one, nor in the scratch cursor that it leaves. -/
theorem callEach_renewed_line :
    (Steady (· < 2) (fun id => (linePool.reader id).template) ∧
      lineCalls[2]? = some (1, .cursor lineCursor) ∧ 1 < 2) ∧
      (linePool.callEach lineCalls)[2]? =
        some (.ok [.tuple [.int 3, .int (-4)], .text "red".toList]) ∧
      ((linePool.afterEach lineCalls).reader 1).buffer =
        (((Run.apply 1 (.cursor lineCursor)).on linePool).2.reader 1).buffer ∧
      Pool.ShareChanges (linePool.afterEach (lineCalls.take 2)) linePool
        (linePool.afterEach lineCalls) ((Run.apply 1 (.cursor lineCursor)).on linePool).2 := by
  refine ⟨⟨linePool_steady, rfl, by decide⟩, ?_⟩
  have called : lineCalls[2]? = some (1, .cursor lineCursor) := rfl
  obtain ⟨alone, buffer, shared⟩ := Pool.callEach_renewed linePool_steady called (by decide)
  have new : linePool.renewed = linePool := rfl
  rw [new] at alone buffer shared
  refine ⟨?_, buffer, shared⟩
  obtain ⟨after, ran⟩ := linePool_makes.on_apply lineCursor_inside
  rw [alone, ran]
  rfl

end TextCursor.Template
