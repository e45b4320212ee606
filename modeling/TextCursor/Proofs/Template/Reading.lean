import TextCursor.Proofs.Template.Frame
import TextCursor.Proofs.Template.Layout
import TextCursor.Template.Builder

/-!
Contract: what an application of a reader yields.

Owns: when the slots of a reader, and those of the readers that it uses as parsers, make up a
layout; and that the reader, applied to any input, yields what the layout reads from the input's
text, whatever its scratch cursors hold from earlier applications.

Does not own: readers whose parsers are the caller's.

Readers that parse for other readers are entered into the pool before them. Their places
decrease along each chain of applications, so none of them comes upon a reader under way, and
the recursion's bound, the number of idle readers, is never reached.
-/

namespace TextCursor.Template

open Edit Cursor

/-! ## Readers that make up a layout -/

mutual

/-- The parser fills the field, for a reader at the place `below`. -/
inductive Fills (pool : Pool) : (below : Nat) → Parser → Field → Prop
  | int {below : Nat} : Fills pool below .int .int
  | decimal {below : Nat} : Fills pool below .decimal .decimal
  | word {below : Nat} : Fills pool below .word .word
  | cluster {below : Nat} : Fills pool below .cluster .cluster
  /-- A reader as a parser. It was entered before the one it works for. -/
  | reader {below id : Nat} {layout : Layout} (template : Template) (earlier : id < below)
      (inPool : id < pool.readers.length) (idle : (pool.reader id).running = false)
      (slots : Reads pool id (pool.reader id).template.slots layout) :
      Fills pool below (.ofReader template id) (.layout layout)

/-- The slots make up the layout, for a reader at the place `below`. -/
inductive Reads (pool : Pool) : (below : Nat) → List Slot → Layout → Prop
  | nil {below : Nat} : Reads pool below [] .done
  | cons {below : Nat} {slot : Slot} {slots : List Slot} {field : Field} {later : Layout}
      (first : Fills pool below slot.parser field) (rest : Reads pool below slots later) :
      Reads pool below (slot :: slots) (.slot slot.literal field later)

end

/-- The reader is there to be applied, and its slots make up the layout. -/
structure Pool.Makes (pool : Pool) (id : Nat) (layout : Layout) : Prop where
  inPool : id < pool.readers.length
  idle : (pool.reader id).running = false
  slots : Reads pool id (pool.reader id).template.slots layout

/-- The other pool has all the places, and the same templates and flags up to one of them. -/
structure Pool.AgreesBelow (pool : Pool) (below : Nat) (other : Pool) : Prop where
  length : pool.readers.length ≤ other.readers.length
  template : ∀ id < below, (other.reader id).template = (pool.reader id).template
  running : ∀ id < below, (other.reader id).running = (pool.reader id).running

section Agreement

variable {pool other : Pool}

theorem Pool.AgreesBelow.mono {below fewer : Nat} (le : fewer ≤ below)
    (agrees : pool.AgreesBelow below other) : pool.AgreesBelow fewer other where
  length := agrees.length
  template id less := agrees.template id (Nat.lt_of_lt_of_le less le)
  running id less := agrees.running id (Nat.lt_of_lt_of_le less le)

theorem Pool.Keeps.agreesBelow {mine : Nat → Prop} (keeps : pool.Keeps mine other) (below : Nat) :
    pool.AgreesBelow below other where
  length := Nat.le_of_eq keeps.length.symm
  template id _ := keeps.template id
  running id _ := keeps.running id

theorem Pool.agreesBelow_setRunning (pool : Pool) (id : Nat) (running : Bool) :
    pool.AgreesBelow id (pool.setRunning id running) where
  length := Nat.le_of_eq (pool.length_setRunning id running).symm
  template other _ := field_update Reader.template pool id other fun _ => rfl
  running other less := by rw [setRunning, reader_update_of_ne _ (Nat.ne_of_lt less)]

mutual

theorem Fills.congr : ∀ {below : Nat} {parser : Parser} {field : Field},
    Fills pool below parser field → pool.AgreesBelow below other → Fills other below parser field
  | _, _, .int, .int, _ => .int
  | _, _, .decimal, .decimal, _ => .decimal
  | _, _, .word, .word, _ => .word
  | _, _, .cluster, .cluster, _ => .cluster
  | _, _, .layout layout, .reader template earlier inPool idle slots, agrees => by
      have sameSlots := slots.congr (agrees.mono (Nat.le_of_lt earlier))
      rw [← agrees.template _ earlier] at sameSlots
      rw [← agrees.running _ earlier] at idle
      exact .reader template earlier (Nat.lt_of_lt_of_le inPool agrees.length) idle sameSlots

theorem Reads.congr : ∀ {below : Nat} {slots : List Slot} {layout : Layout},
    Reads pool below slots layout → pool.AgreesBelow below other → Reads other below slots layout
  | _, _, .done, .nil, _ => .nil
  | _, _, .slot _ _ _, .cons first rest, agrees => .cons (first.congr agrees) (rest.congr agrees)

end

theorem Reads.length_eq {below : Nat} {slots : List Slot} {layout : Layout}
    (isRead : Reads pool below slots layout) : layout.length = slots.length := by
  induction slots generalizing layout with
  | nil =>
      cases isRead with
      | nil => rfl
  | cons slot later inductionHypothesis =>
      cases isRead with
      | cons first rest => rw [Layout.length, inductionHypothesis rest, List.length_cons]

end Agreement

/-! ## A reader at work -/

/-- The reader's scratch cursor holds the text, and further applications may be nested as deep as
there are idle readers. -/
structure Pool.AtWork (pool : Pool) (depth id : Nat) (text : Text) : Prop where
  inPool : id < pool.readers.length
  running : (pool.reader id).running = true
  room : pool.idle ≤ depth
  holds : (pool.reader id).buffer.Holds text

namespace Pool.AtWork

variable {pool after : Pool} {depth id : Nat} {text left : Text}

theorem of_keeps {mine : Nat → Prop} (atWork : pool.AtWork depth id text)
    (keeps : pool.Keeps mine after) (holds : (after.reader id).buffer.Holds left) :
    after.AtWork depth id left where
  inPool := by rw [keeps.length]; exact atWork.inPool
  running := by rw [keeps.running]; exact atWork.running
  room := by rw [keeps.idle_eq]; exact atWork.room
  holds := holds

/-- A step on the scratch cursor. -/
theorem on_onBuffer (atWork : pool.AtWork depth id text) {α : Type} {step : Edit α}
    {result : Except Error α} {cursor : Cursor}
    (ran : step.on (pool.reader id).buffer = (result, cursor)) :
    ∃ after, (Run.onBuffer id step).on pool = (.ok result, after) ∧
      (after.reader id).buffer = cursor := by
  rw [Run.on_onBuffer, ran]
  exact ⟨_, rfl, by rw [reader_update_self _ atWork.inPool]⟩

/-- The literal is laid out before the search. -/
theorem on_onDelimiter (atWork : pool.AtWork depth id text) (literal : Text) :
    ∃ opened, (Run.onDelimiter id (reopen (some literal))).on pool = (.ok (.ok ()), opened) ∧
      (opened.reader id).delimiter.content = literal ∧ opened.AtWork depth id text := by
  have kept := Run.keeps_onDelimiter id (reopen (some literal)) pool
  have self := pool.reader_update_self atWork.inPool fun reader =>
    { reader with delimiter := ((reopen (some literal)).on (pool.reader id).delimiter).2 }
  rw [Run.on_onDelimiter] at kept ⊢
  refine ⟨_, rfl, ?_, atWork.of_keeps kept ?_⟩
  · rw [self]
    exact content_whole literal
  · rw [self]
    exact atWork.holds

/-- The search comes to the end of the literal, or reports the text in which it is missing. -/
theorem on_seek (atWork : pool.AtWork depth id text) (literal : Text) :
    ∃ after, (Run.seek id literal).on pool = ((skipPast literal text).map fun _ => (), after) ∧
      pool.Keeps (· = id) after ∧
      ∀ rest, skipPast literal text = .ok rest → after.AtWork depth id rest := by
  have kept := Run.keeps_seek id literal pool
  obtain ⟨opened, openRan, needle, openAtWork⟩ := atWork.on_onDelimiter literal
  obtain ⟨⟨inside, -⟩, content⟩ := openAtWork.holds
  have searched := on_popBefore? inside literal
  rw [content] at searched
  cases found : text.find? literal with
  | none =>
      rw [found] at searched
      obtain ⟨after, popRan, buffer⟩ := openAtWork.on_onBuffer searched
      simp only [skipPast, found]
      simp only [Run.seek, Run.on_bind, openRan, Run.on_liftExcept, Run.on_get, needle, popRan,
        buffer, content, Run.log, Run.on_modify, Run.on_throw] at kept ⊢
      refine ⟨_, rfl, kept, ?_⟩
      intro rest skipped
      contradiction
  | some offset =>
      rw [found] at searched
      obtain ⟨after, popRan, buffer⟩ := openAtWork.on_onBuffer searched
      have ran : (Run.seek id literal).on pool = (.ok (), after) := by
        simp only [Run.seek, Run.on_bind, openRan, Run.on_liftExcept, Run.on_get, needle, popRan,
          Run.on_pure]
      have fits := Text.find?_add_length_le found
      have holds : (after.reader id).buffer.Holds (text.drop (offset + literal.length)) := by
        subst content
        rw [buffer]
        exact inside.holds_back fits
      rw [ran] at kept ⊢
      simp only [skipPast, found]
      refine ⟨after, rfl, kept, ?_⟩
      rintro _ ⟨⟩
      exact atWork.of_keeps kept holds

theorem on_countUse (atWork : pool.AtWork depth id text) (index : Nat) :
    ∃ earlier after, (Run.countUse id index).on pool = (.ok earlier, after) ∧
      pool.Keeps (· = id) after ∧ after.AtWork depth id text := by
  have kept := Run.keeps_countUse id index pool
  rw [Run.on_countUse] at kept ⊢
  refine ⟨_, _, rfl, kept, atWork.of_keeps kept ?_⟩
  rw [reader_update_self _ atWork.inPool]
  exact atWork.holds

end Pool.AtWork

/-- The parser yields what was taken from a text, and its reader is left with the rest. -/
inductive Run.Takes (depth id : Nat) (body : Run Value) (pool : Pool) :
    Except Error (Value × Text) → Prop
  | ok {value : Value} {left : Text} {after : Pool} (ran : body.on pool = (.ok value, after))
      (atWork : after.AtWork depth id left) : Takes depth id body pool (.ok (value, left))
  | error {error : Error} {after : Pool} (ran : body.on pool = (.error error, after)) :
      Takes depth id body pool (.error error)

section Programs

variable {apply : Nat → Input → Run (List Value)}
  (applied : ∀ reader input, Run.Keeps (fun _ => False) (apply reader input))
  {pool : Pool} {depth id : Nat} {text : Text} (atWork : pool.AtWork depth id text)

include atWork

/-- A parser that works on the scratch cursor does what its step does. -/
theorem Pool.AtWork.on_ofEdit {α : Type} {value : α → Value} {step : Edit α}
    {result : Except Error Value} {cursor : Cursor}
    (ran : (do return value (← step) : Edit Value).on (pool.reader id).buffer = (result, cursor)) :
    ∃ after, (Run.program apply id (.ofEdit value step)).on pool = (result, after) ∧
      (after.reader id).buffer = cursor := by
  obtain ⟨after, stepRan, buffer⟩ := atWork.on_onBuffer ran
  refine ⟨after, ?_, buffer⟩
  simp only [Program.ofEdit, Run.program, Run.on_bind, stepRan, Run.on_liftExcept]

include applied

theorem Pool.AtWork.takes_ofEdit {α : Type} {value : α → Value} {step : Edit α}
    {expected : Except Error (Value × Text)}
    (takes : Takes (do return value (← step)) (pool.reader id).buffer expected) :
    Run.Takes depth id (Run.program apply id (.ofEdit value step)) pool expected := by
  have kept := Run.keeps_program applied id (.ofEdit value step) pool
  cases takes with
  | ok ran holds =>
      obtain ⟨after, programRan, buffer⟩ := atWork.on_ofEdit ran
      rw [programRan] at kept
      exact .ok programRan (atWork.of_keeps kept (by rwa [buffer]))
  | error ran =>
      obtain ⟨after, programRan, -⟩ := atWork.on_ofEdit ran
      exact .error programRan

end Programs

/-! ## Applications -/

/-- The text that an input stands for. -/
def Input.content : Input → Text
  | .text given => given
  | .cursor given => given.content

/-- A cursor as an input has a window within its source. -/
def Input.Inside : Input → Prop
  | .text _ => True
  | .cursor given => given.Inside

/-- The scratch cursor as an application begins. -/
def Input.opened : Input → Cursor
  | .text given => { source := given, start := 0, size := given.length }
  | .cursor given => given.bare

theorem Input.Inside.holds_opened {input : Input} (inside : input.Inside) :
    input.opened.Holds input.content := by
  cases input with
  | text given => exact ⟨⟨inside_whole given, coherent_of_cache_empty rfl⟩, content_whole given⟩
  | cursor given => exact Cursor.Inside.holds_bare inside

/-- Nothing of what the scratch cursor was is left. -/
theorem Run.on_load (id : Nat) (input : Input) (pool : Pool) :
    (load id input).on pool =
      (.ok (), pool.update id fun reader => { reader with buffer := input.opened }) := by
  cases input with
  | text => rfl
  | cursor => rfl

/-- An application comes to what the slots are filled with, once the input is loaded. -/
theorem Run.on_applyWithin {pool : Pool} {depth id : Nat} {layout : Layout}
    (makes : pool.Makes id layout) (room : pool.idle ≤ depth) {input : Input}
    (inside : input.Inside)
    (filled : ∀ {loaded : Pool} {depth : Nat},
      Reads loaded id (pool.reader id).template.slots layout →
      loaded.AtWork depth id input.content →
      ∃ after, (fill (applyWithin depth) id (pool.reader id).template.slots 0).on loaded =
        (layout.read input.content, after)) :
    ∃ after, (applyWithin depth id input).on pool = (layout.read input.content, after) := by
  obtain ⟨inPool, idle, slots⟩ := makes
  have counted := Pool.idle_setRunning inPool idle
  obtain ⟨depth, rfl⟩ : ∃ fewer, depth = fewer + 1 := ⟨depth - 1, by omega⟩
  have inSet : id < (pool.setRunning id true).readers.length := by
    rwa [Pool.length_setRunning]
  have set : (pool.setRunning id true).reader id = { pool.reader id with running := true } :=
    pool.reader_update_self inPool _
  have kept := keeps_load id input (pool.setRunning id true)
  have loaded := (pool.setRunning id true).reader_update_self inSet fun reader =>
    { reader with buffer := input.opened }
  rw [on_load] at kept
  have atWork : ((pool.setRunning id true).update id fun reader =>
      { reader with buffer := input.opened }).AtWork depth id input.content := by
    refine ⟨?_, ?_, ?_, ?_⟩
    · rwa [kept.length]
    · rw [kept.running, set]
    · rw [kept.idle_eq]
      omega
    · rw [loaded]
      exact inside.holds_opened
  have setSlots := slots.congr (pool.agreesBelow_setRunning id true)
  have loadedSlots := setSlots.congr (kept.agreesBelow id)
  obtain ⟨after, fillRan⟩ := filled loadedSlots atWork
  refine ⟨after.setRunning id false, ?_⟩
  rw [applyWithin, on_ofFunction, idle]
  simp only [Bool.false_eq_true, if_false, on_bind, on_load, fillRan]

/-- A reader as a parser yields its values, and its work on them is kept apart from the scratch
cursor that it was applied to. -/
theorem Pool.AtWork.takes_ofReader {pool after : Pool} {depth id inner : Nat} {text : Text}
    {layout : Layout} (atWork : pool.AtWork depth id text)
    (ran : (Run.applyWithin depth inner (.cursor (pool.reader id).buffer)).on pool =
      (layout.read text, after)) :
    Run.Takes depth id (Run.program (Run.applyWithin depth) id (.ofReader inner)) pool
      ((Field.layout layout).take text) := by
  have kept := Run.keeps_applyWithin depth inner (.cursor (pool.reader id).buffer) pool
  rw [ran] at kept
  have programRan : (Run.program (Run.applyWithin depth) id (.ofReader inner)).on pool =
      ((layout.read text).map .tuple, after) := by
    simp only [Program.ofReader, Run.program, Run.on_bind, Run.on_get, Run.outcomeOf,
      Run.on_ofFunction, ran, Run.on_liftExcept]
  rw [Field.take]
  cases isRead : layout.read text with
  | error error =>
      rw [isRead] at programRan
      exact .error programRan
  | ok values =>
      rw [isRead] at programRan
      refine .ok programRan (atWork.of_keeps kept ?_)
      rw [kept.underWay id atWork.running not_false]
      exact atWork.holds

mutual

/-- A parser takes what its field does. -/
theorem Fills.takes : ∀ {pool : Pool} {below depth id : Nat} {text : Text} {parser : Parser}
    {field : Field}, Fills pool below parser field → pool.AtWork depth id text →
    ∀ earlier, Run.Takes depth id
      (Run.program (Run.applyWithin depth) id (parser.program id earlier)) pool (field.take text)
  | _, _, depth, _, _, _, .int, .int, atWork, _ =>
      atWork.takes_ofEdit (Run.keeps_applyWithin depth) (int_takes atWork.holds)
  | _, _, depth, _, _, _, .decimal, .decimal, atWork, _ =>
      atWork.takes_ofEdit (Run.keeps_applyWithin depth) (decimal_takes atWork.holds)
  | _, _, depth, _, _, _, .word, .word, atWork, _ =>
      atWork.takes_ofEdit (Run.keeps_applyWithin depth) (word_takes atWork.holds)
  | _, _, depth, _, _, _, .cluster, .cluster, atWork, _ =>
      atWork.takes_ofEdit (Run.keeps_applyWithin depth) (cluster_takes atWork.holds)
  | pool, _, _, id, text, _, .layout layout, .reader _ _ inPool idle slots, atWork, _ => by
      have content : (Input.cursor (pool.reader id).buffer).content = text := atWork.holds.content
      have inside : (Input.cursor (pool.reader id).buffer).Inside := atWork.holds.inside
      have applied := Run.on_applyWithin ⟨inPool, idle, slots⟩ atWork.room inside
        fun loadedSlots loadedAtWork => loadedSlots.on_fill loadedAtWork 0
      rw [content] at applied
      obtain ⟨after, ran⟩ := applied
      exact atWork.takes_ofReader ran

/-- Slots are filled with what the layout reads. -/
theorem Reads.on_fill : ∀ {pool : Pool} {below depth id : Nat} {text : Text} {slots : List Slot}
    {layout : Layout}, Reads pool below slots layout → pool.AtWork depth id text →
    ∀ index, ∃ after, (Run.fill (Run.applyWithin depth) id slots index).on pool =
      (layout.read text, after)
  | pool, _, _, _, _, _, .done, .nil, _, _ => by
      rw [Layout.read]
      exact ⟨pool, rfl⟩
  | pool, _, depth, id, text, _, .slot _ field later, @Reads.cons _ _ slot slots _ _ first rest,
      atWork, index => by
      obtain ⟨sought, seekRan, seekKeeps, soughtAtWork⟩ := atWork.on_seek slot.literal
      rw [Layout.read]
      cases skipped : skipPast slot.literal text with
      | error error =>
          rw [skipped] at seekRan
          refine ⟨sought, ?_⟩
          simp only [Run.fill, Run.on_bind, seekRan, Except.map, error_bind]
      | ok behind =>
          rw [skipped] at seekRan
          obtain ⟨earlier, counted, countRan, countKeeps, countedAtWork⟩ :=
            (soughtAtWork behind skipped).on_countUse index
          have keeps := seekKeeps.trans countKeeps
          have takes := (first.congr (keeps.agreesBelow _)).takes countedAtWork earlier
          have programKeeps := Run.keeps_program (Run.keeps_applyWithin depth) id
            (slot.parser.program id earlier) counted
          cases taken : field.take behind with
          | error error =>
              rw [taken] at takes
              cases takes with
              | @error _ failed ran =>
                  refine ⟨failed, ?_⟩
                  simp only [Run.fill, Run.on_bind, seekRan, Except.map, countRan, ran, ok_bind,
                    taken, error_bind]
          | ok pair =>
              rw [taken] at takes
              cases takes with
              | ok ran takenAtWork =>
                  rw [ran] at programKeeps
                  have laterReads := rest.congr ((keeps.trans programKeeps).agreesBelow _)
                  obtain ⟨after, fillRan⟩ := laterReads.on_fill takenAtWork (index + 1)
                  refine ⟨after, ?_⟩
                  simp only [Run.fill, Run.on_bind, seekRan, Except.map, countRan, ran, fillRan,
                    ok_bind, taken]
                  cases later.read _ with
                  | ok values => rfl
                  | error error => rfl

end

namespace Pool

variable {pool : Pool} {id : Nat} {layout : Layout}

theorem Makes.on_apply (makes : pool.Makes id layout) {input : Input} (inside : input.Inside) :
    ∃ after, (Run.apply id input).on pool = (layout.read input.content, after) :=
  Run.on_applyWithin makes (Nat.le_refl _) inside fun slots atWork => slots.on_fill atWork 0

theorem readers_enroll (template : Template) (pool : Pool) :
    ((Run.enroll template).on pool).2.readers = pool.readers ++ [.new template] := rfl

theorem reader_enroll_of_lt {template : Template} {pool : Pool} {id : Nat}
    (inPool : id < pool.readers.length) :
    ((Run.enroll template).on pool).2.reader id = pool.reader id := by
  rw [reader, reader, readers_enroll, List.getD_eq_getElem?_getD, List.getD_eq_getElem?_getD,
    List.getElem?_append_left inPool]

theorem reader_enroll_self {template : Template} {pool : Pool} :
    ((Run.enroll template).on pool).2.reader pool.readers.length = .new template := by
  rw [reader, readers_enroll, List.getD_eq_getElem?_getD, List.getElem?_concat_length,
    Option.getD_some]

/-- A reader that is entered makes up what its slots do, and the readers that were there already
make up what they did. -/
theorem makes_enroll {template : Template}
    (slots : Reads pool pool.readers.length template.slots layout) :
    ((Run.enroll template).on pool).2.Makes pool.readers.length layout ∧
      ∀ id other, pool.Makes id other → ((Run.enroll template).on pool).2.Makes id other := by
  have agrees : pool.AgreesBelow pool.readers.length ((Run.enroll template).on pool).2 := by
    refine ⟨?_, fun id inPool => ?_, fun id inPool => ?_⟩
    · rw [readers_enroll, List.length_append]
      exact Nat.le_add_right _ _
    · rw [reader_enroll_of_lt inPool]
    · rw [reader_enroll_of_lt inPool]
  constructor
  · refine ⟨?_, ?_, ?_⟩
    · rw [readers_enroll, List.length_append]
      exact Nat.lt_succ_self _
    · rw [reader_enroll_self]
      rfl
    · rw [reader_enroll_self]
      exact slots.congr agrees
  · rintro id other ⟨inPool, idle, slots⟩
    refine ⟨Nat.lt_of_lt_of_le inPool agrees.length, ?_, ?_⟩
    · rwa [reader_enroll_of_lt inPool]
    · rw [reader_enroll_of_lt inPool]
      exact slots.congr (agrees.mono (Nat.le_of_lt inPool))

end Pool

/-! ## A line with a point in it -/

def pointTemplate : Template := ⟨[⟨['('], .int⟩, ⟨[','], .int⟩], [')']⟩

def pointLayout : Layout := .slot ['('] .int (.slot [','] .int .done)

/-- A pool of a reader for points. -/
def pointPool : Pool := ((Run.enroll pointTemplate).on {}).2

def lineTemplate : Template :=
  ⟨[⟨"at ".toList, .ofReader pointTemplate 0⟩, ⟨") ".toList, .word⟩], []⟩

def lineLayout : Layout := .slot "at ".toList (.layout pointLayout) (.slot ") ".toList .word .done)

/-- The pool with one more reader, which applies the first one. -/
def linePool : Pool := ((Run.enroll lineTemplate).on pointPool).2

/-- A line inside a longer text. -/
def lineCursor : Cursor := { source := "p: at (3,-4) red!".toList, start := 3, size := 13 }

theorem lineCursor_inside : Input.Inside (.cursor lineCursor) := by
  show lineCursor.Inside
  decide

theorem pointPool_makes : pointPool.Makes 0 pointLayout :=
  (Pool.makes_enroll (.cons .int (.cons .int .nil))).1

theorem linePool_makes : linePool.Makes 1 lineLayout := by
  obtain ⟨inPool, idle, slots⟩ := pointPool_makes
  have point := Fills.reader pointTemplate (Nat.lt_succ_self 0) inPool idle slots
  exact (Pool.makes_enroll (.cons point (.cons .word .nil))).1

/-! ## The outcome -/

/-- A reader whose parsers are token parsers, or such readers, yields what its layout reads from
the input's text: one value for each slot, or the first error. An input is a value, of which the
reader makes a scratch cursor (`Input.opened`), so a cursor that the caller owns keeps its window.
Of the cursors in the pool, those that an input can come from are the scratch cursors of readers
under way, and all of these are as before, whether the application succeeds or fails. -/
theorem Pool.Makes.apply_reads {pool : Pool} {id : Nat} {layout : Layout}
    (makes : pool.Makes id layout) {input : Input} (inside : input.Inside) :
    ((Run.apply id input).on pool).1 = layout.read input.content ∧
      (∀ values, ((Run.apply id input).on pool).1 = .ok values →
        values.length = (pool.reader id).template.slots.length) ∧
      ∀ caller, (pool.reader caller).running = true →
        ((Run.apply id input).on pool).2.reader caller = pool.reader caller := by
  have kept := Run.keeps_apply id input pool
  obtain ⟨after, ran⟩ := makes.on_apply inside
  rw [ran] at kept ⊢
  refine ⟨rfl, ?_, ?_⟩
  · intro values isRead
    rw [Layout.length_of_read isRead, makes.slots.length_eq]
  · intro caller running
    exact kept.underWay caller running not_false

/-- The reader for lines is under way, and the text that it was applied to is still before it. -/
def callingPool : Pool :=
  linePool.update 1 fun reader => { reader with running := true, buffer := lineCursor }

theorem callingPool_makes : callingPool.Makes 0 pointLayout :=
  ⟨by decide, rfl, .cons .int (.cons .int .nil)⟩

/-- A line, and then a point from the scratch cursor of a reader that is under way. -/
theorem apply_reads_line :
    ((linePool.Makes 1 lineLayout ∧ Input.Inside (.cursor lineCursor)) ∧
      ((Run.apply 1 (.cursor lineCursor)).on linePool).1 =
        .ok [.tuple [.int 3, .int (-4)], .text "red".toList] ∧
      [Value.tuple [.int 3, .int (-4)], .text "red".toList].length =
        (linePool.reader 1).template.slots.length) ∧
      (callingPool.Makes 0 pointLayout ∧ (callingPool.reader 1).running = true) ∧
      ((Run.apply 0 (.cursor (callingPool.reader 1).buffer)).on callingPool).1 =
        .ok [.int 3, .int (-4)] ∧
      ((Run.apply 0 (.cursor (callingPool.reader 1).buffer)).on callingPool).2.reader 1 =
        callingPool.reader 1 := by
  have calling : Input.Inside (.cursor (callingPool.reader 1).buffer) := lineCursor_inside
  obtain ⟨line, counted, -⟩ := linePool_makes.apply_reads lineCursor_inside
  obtain ⟨point, -, kept⟩ := callingPool_makes.apply_reads calling
  have read : ((Run.apply 1 (.cursor lineCursor)).on linePool).1 =
      .ok [.tuple [.int 3, .int (-4)], .text "red".toList] := line.trans rfl
  exact ⟨⟨⟨linePool_makes, lineCursor_inside⟩, read, counted _ read⟩, ⟨callingPool_makes, rfl⟩,
    point.trans rfl, kept 1 rfl⟩

end TextCursor.Template
