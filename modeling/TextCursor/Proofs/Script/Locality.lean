import Mathlib.Data.List.Forall2
import TextCursor.Proofs.Cursor.Relocation
import TextCursor.Proofs.Script.Reachable
import TextCursor.Proofs.Template.Reading

/-!
Contract: nothing outside a cursor's window is ever observed.

Owns: the relation between what scripts answer on two cursors whose windows read the same, its
preservation by every operation, command and script that names no place in the source of such a
cursor, and that readers do not tell a window from a text of its own.

Does not own: single operations of a cursor.
-/

namespace TextCursor.Script

open Edit Cursor

/-! ## Answers -/

/-- Cursors are kin, and everything else is the same. -/
inductive Value.Relocated (kin : Cursor → Cursor → Prop) : Value → Value → Prop
  | cursor {here there : Cursor} (same : kin here there) :
      Relocated kin (.cursor here) (.cursor there)
  | plain (value : Value) (noCursor : ∀ cursor, value ≠ .cursor cursor) :
      Relocated kin value value

inductive Reply.Relocated (kin : Cursor → Cursor → Prop) : Reply → Reply → Prop
  | value {here there : Value} (same : here.Relocated kin there) :
      Relocated kin (.value here) (.value there)
  | outcome (success : Bool) {here there : Option Value}
      (same : Option.Rel (Value.Relocated kin) here there) :
      Relocated kin (.outcome ⟨success, here⟩) (.outcome ⟨success, there⟩)
  | unbound : Relocated kin .unbound .unbound

/-- The replies are related, the same code points were asked about, and the cursors that were
worked on are related as the step leaves them. -/
structure Answer.Relocated (kin : Cursor → Cursor → Prop) (here there : Answer) : Prop where
  reply : SameOutcome (Reply.Relocated kin) here.reply there.reply
  calls : here.calls = there.calls
  shown : Option.Rel kin here.shown there.shown

section Weaker

variable {kin more : Cursor → Cursor → Prop}
  (weaker : ∀ ⦃here there : Cursor⦄, kin here there → more here there)

include weaker

theorem Value.Relocated.mono {value other : Value} (same : value.Relocated kin other) :
    value.Relocated more other := by
  cases same with
  | cursor same => exact .cursor (weaker same)
  | plain value noCursor => exact .plain value noCursor

theorem Reply.Relocated.mono {reply other : Reply} (same : reply.Relocated kin other) :
    reply.Relocated more other := by
  cases same with
  | value same => exact .value (same.mono weaker)
  | outcome success same =>
      cases same with
      | none => exact .outcome success .none
      | some same => exact .outcome success (.some (same.mono weaker))
  | unbound => exact .unbound

end Weaker

/-! ## Operations -/

/-- A step that knows only the window's text: what it replies is the same on windows that read the
same, but for the cursors, which are related. -/
abbrev LocalReply (shift : Shift) (step : Edit Reply) : Prop :=
  Local shift (Reply.Relocated (Cursor.Relocated shift)) step

variable {shift : Shift}

section Replies

variable {α : Type} {related : α → α → Prop} {value : α → Value}

theorem accord_answer {step other : Edit α} (accord : Accord shift related step other)
    (same : ∀ ⦃here there : α⦄, related here there →
      (value here).Relocated (Cursor.Relocated shift) (value there)) :
    Accord shift (Reply.Relocated (Cursor.Relocated shift)) (answer value step)
      (answer value other) := by
  apply accord_bind accord
  intro here there yielded
  exact accord_pure (.value (same yielded))

theorem local_attempt {step : Edit (Option α)} (isLocal : Local shift (Option.Rel related) step)
    (same : ∀ ⦃here there : α⦄, related here there →
      (value here).Relocated (Cursor.Relocated shift) (value there)) :
    LocalReply shift (attempt value step) := by
  apply accord_bind isLocal
  intro here there found
  cases found with
  | some yielded => exact accord_pure (.outcome true (.some (same yielded)))
  | none => exact accord_pure (.outcome false .none)

/-- A value that is no cursor is the same on both sides. -/
def Plain (value : α → Value) : Prop := ∀ yielded cursor, value yielded ≠ .cursor cursor

theorem Plain.relocated {kin : Cursor → Cursor → Prop} (plain : Plain value) {here there : α}
    (same : here = there) : (value here).Relocated kin (value there) := by
  rw [same]
  exact .plain _ (plain there)

theorem local_tell (plain : Plain value) {step : Edit α} (isLocal : Local shift Eq step) :
    LocalReply shift (answer value step) :=
  accord_answer isLocal fun _ _ => plain.relocated

theorem local_tell? (plain : Plain value) {step : Edit (Option α)} (isLocal : Local shift Eq step) :
    LocalReply shift (attempt value step) := by
  apply accord_bind isLocal
  rintro found _ rfl
  cases found with
  | some yielded => exact accord_pure (.outcome true (.some (plain.relocated rfl)))
  | none => exact accord_pure (.outcome false .none)

theorem local_yield {step : Edit Cursor} (isLocal : Local shift (Cursor.Relocated shift) step) :
    LocalReply shift (answer .cursor step) :=
  accord_answer isLocal fun _ _ => .cursor

theorem local_yield? {step : Edit (Option Cursor)}
    (isLocal : Local shift (Option.Rel (Cursor.Relocated shift)) step) :
    LocalReply shift (attempt .cursor step) :=
  local_attempt isLocal fun _ _ => .cursor

/-- A value that is read off the cursor. -/
theorem local_ask {value : Cursor → Value} (plain : Plain value)
    (same : ∀ ⦃here there : Cursor⦄, Cursor.Relocated shift here there → value here = value there) :
    LocalReply shift (ask value) := by
  intro here there relocated
  have told : (value here).Relocated (Cursor.Relocated shift) (value there) := by
    rw [same relocated]
    exact .plain _ (plain there)
  exact ⟨.ok (.value told), relocated⟩

/-- A value that is computed from the cursor. -/
theorem local_compute {compute : Cursor → Except Error α} (plain : Plain value)
    (same : ∀ ⦃here there : Cursor⦄, Cursor.Relocated shift here there →
      SameOutcome Eq (compute here) (compute there)) :
    LocalReply shift (do answer value (.ofExcept (compute (← get)))) := by
  apply accord_get_bind
  intro here there relocated
  exact accord_answer (accord_ofExcept (same relocated)) fun _ _ => plain.relocated

/-- A cursor that is made from the cursor. -/
theorem local_askCursor {made : Cursor → Except Error Cursor}
    (same : ∀ ⦃here there : Cursor⦄, Cursor.Relocated shift here there →
      SameOutcome (Cursor.Relocated shift) (made here) (made there)) :
    LocalReply shift (askCursor made) := by
  apply accord_get_bind
  intro here there relocated
  exact accord_answer (accord_ofExcept (same relocated)) fun _ _ => .cursor

end Replies

theorem local_search (search : Search) (needle : Text) :
    LocalReply shift (search.run needle) := by
  cases search with
  | popBefore => exact local_yield (local_popBefore needle)
  | popBefore? => exact local_yield? (local_popBefore? needle)
  | offsetOf | reads | readsIgnoringCase | beginsWith | endsWith =>
      apply local_ask
      · intro asked cursor
        simp
      · intro here there relocated
        simp only [Cursor.offsetOf, Cursor.reads, Cursor.readsIgnoringCase, Cursor.beginsWith,
          Cursor.endsWith, relocated.content]

/-- The operation neither tells nor takes a place in the source, nor another source. -/
def Operation.isLocal : Operation → Bool
  | .source | .start | .placement | .sub _ _ | .reopen _ => false
  | _ => true

theorem Operation.local_run {operation : Operation} (isLocal : operation.isLocal) :
    LocalReply shift operation.run := by
  cases operation with
  | source | start | placement | sub | reopen => contradiction
  | size | content | isNonEmpty =>
      unfold run
      apply local_ask
      · intro asked cursor
        simp
      · intro here there relocated
        simp only [relocated.content, relocated.size]
  | written =>
      unfold run
      apply local_ask
      · intro asked cursor
        simp
      · intro here there relocated
        unfold Cursor.written
        rw [relocated.content]
  | clusterTexts => exact local_tell (by simp [Plain]) local_clusterTexts
  | clusterCount =>
      -- The count becomes an integer before it is answered.
      have counts : Local shift Eq (do return ((← Cursor.clusterCount) : Int)) := by
        apply accord_bind local_clusterCount
        rintro count _ rfl
        exact accord_pure rfl
      exact local_tell (by simp [Plain]) counts
  | clusterAt index => exact local_tell (by simp [Plain]) (local_clusterAt index)
  | copy =>
      apply local_askCursor
      intro here there relocated
      rw [relocated.sound.inside.copy, relocated.soundThere.inside.copy]
      exact .ok relocated.bare
  | forget =>
      have forgets : Local shift Eq Cursor.forget := fun _ _ relocated => ⟨.ok rfl, relocated.bare⟩
      exact local_tell (by simp [Plain]) forgets
  | skipBlanks => exact local_tell (by simp [Plain]) local_skipBlanks
  | trimBack =>
      apply local_askCursor
      intro here there relocated
      rw [trimBack_eq relocated.sound.inside, trimBack_eq relocated.soundThere.inside,
        relocated.content]
      exact .ok (relocated.front (clusterOffset_le _ _))
  | trim => exact local_yield local_trim
  | takeFrontWhile accepts =>
      apply local_askCursor
      intro here there relocated
      exact (frontWhile_tallies relocated accepts).1
  | takeBackWhile accepts =>
      apply local_askCursor
      intro here there relocated
      exact (backWhile_tallies relocated accepts).1
  | popFrontWhile accepts =>
      apply local_yield
      intro here there relocated
      exact (frontWhile_tallies relocated accepts).2
  | popBackWhile accepts =>
      apply local_yield
      intro here there relocated
      exact (backWhile_tallies relocated accepts).2
  | popFront count => exact local_yield (local_popFront count)
  | popBack count => exact local_yield (local_popBack count)
  | popField delimiter => exact local_yield (local_popField delimiter)
  | popField? delimiter => exact local_yield? (local_popField? delimiter)
  | headInt =>
      apply local_compute (by simp [Plain])
      intro here there relocated
      rw [headInt_eq relocated.sound.inside, headInt_eq relocated.soundThere.inside,
        relocated.content]
      exact .ok rfl
  | headDecimal =>
      apply local_compute (by simp [Plain])
      intro here there relocated
      rw [headDecimal_eq relocated.sound.inside, headDecimal_eq relocated.soundThere.inside,
        relocated.content]
      exact .ok rfl
  | popInt? => exact local_tell? (by simp [Plain]) local_popInt?
  | popDecimal? => exact local_tell? (by simp [Plain]) local_popDecimal?
  | tokenInt => exact local_tell (by simp [Plain]) local_int
  | tokenDecimal => exact local_tell (by simp [Plain]) local_decimal
  | tokenWord => exact local_tell (by simp [Plain]) local_word
  | tokenCluster => exact local_tell (by simp [Plain]) local_cluster
  | search kind operand => exact local_search kind operand

/-- The code points that a predicate is asked about. -/
theorem Operation.calls_relocated {here there : Cursor} (operation : Operation)
    (relocated : Cursor.Relocated shift here there) :
    operation.calls here = operation.calls there := by
  unfold calls
  split
  · rw [relocated.walkFront]
  · rw [relocated.walkFront]
  · rw [relocated.walkBack]
  · rw [relocated.walkBack]
  · rfl

/-! ## Stores -/

/-- Pairwise related lists have related items at each place. -/
theorem forall₂_getElem? {α : Type} {related : α → α → Prop} {left right : List α}
    (pairwise : List.Forall₂ related left right) (index : Nat) :
    Option.Rel related left[index]? right[index]? := by
  induction pairwise generalizing index with
  | nil => exact .none
  | cons first later inductionHypothesis =>
      cases index with
      | zero => exact .some first
      | succ index => exact inductionHypothesis index

theorem forall₂_set {α : Type} {related : α → α → Prop} {left right : List α} {item other : α}
    (pairwise : List.Forall₂ related left right) (index : Nat) (same : related item other) :
    List.Forall₂ related (left.set index item) (right.set index other) := by
  induction pairwise generalizing index with
  | nil => exact .nil
  | cons first later inductionHypothesis =>
      cases index with
      | zero => exact .cons same later
      | succ index => exact .cons first (inductionHypothesis index)

/-- The cursors are related one by one, and traversals and names are the same. -/
structure Store.Relocated (shifts : List Shift) (here there : Store) : Prop where
  cursors : List.Forall₂ (Counterpart shifts) here.cursors there.cursors
  traversals : here.traversals = there.traversals
  names : here.names = there.names

/-- What a command came to on both sides. -/
structure Store.Tally (shifts : List Shift) (here there : Except Error Reply × Store) : Prop where
  outcome : SameOutcome (Reply.Relocated (Counterpart shifts)) here.1 there.1
  left : Store.Relocated shifts here.2 there.2

variable {shifts : List Shift}

namespace Store.Relocated

variable {here there : Store} (relocated : Store.Relocated shifts here there)

include relocated

theorem cursorId? (name : String) : here.cursorId? name = there.cursorId? name := by
  rw [Store.cursorId?, Store.cursorId?, find?, find?, relocated.names]

theorem cursor? (name : String) :
    Option.Rel (Counterpart shifts) (here.cursor? name) (there.cursor? name) := by
  rw [Store.cursor?, Store.cursor?, relocated.cursorId?]
  cases there.cursorId? name with
  | none => exact .none
  | some id => exact forall₂_getElem? relocated.cursors id

theorem operand? (operand : Operand) : here.operand? operand = there.operand? operand := by
  cases operand with
  | literal text => rfl
  | named name =>
      have found := relocated.cursor? name
      rw [Store.operand?, Store.operand?]
      generalize here.cursor? name = cursor at found
      generalize there.cursor? name = other at found
      cases found with
      | none => rfl
      | some counterpart => exact congrArg some counterpart.content

theorem set (id : Nat) {cursor other : Cursor} (same : Counterpart shifts cursor other) :
    Store.Relocated shifts { here with cursors := here.cursors.set id cursor }
      { there with cursors := there.cursors.set id other } :=
  ⟨forall₂_set relocated.cursors id same, relocated.traversals, relocated.names⟩

theorem bind (name : Option String) (reference : Reference) :
    Store.Relocated shifts (here.bind name reference) (there.bind name reference) := by
  cases name with
  | none => exact relocated
  | some name =>
      exact ⟨relocated.cursors, relocated.traversals,
        congrArg ((name, reference) :: ·) relocated.names⟩

theorem enter (name : Option String) (id : Nat) {value other : Value}
    (same : value.Relocated (Counterpart shifts) other) :
    Store.Relocated shifts (here.enter name id value) (there.enter name id other) := by
  cases same with
  | cursor sameCursor =>
      have added : Store.Relocated shifts { here with cursors := here.cursors ++ [_] }
          { there with cursors := there.cursors ++ [_] } :=
        ⟨List.rel_append relocated.cursors (.cons sameCursor .nil), relocated.traversals,
          relocated.names⟩
      rw [Store.enter, Store.enter, relocated.cursors.length_eq]
      exact added.bind name _
  | plain value noCursor =>
      cases value with
      | cursor cursor => exact absurd rfl (noCursor cursor)
      | self => exact relocated.bind name _
      | nothing | bool | int | real | text | texts | placement | exhausted => exact relocated

theorem enterReply (name : Option String) (id : Nat) {reply other : Reply}
    (same : reply.Relocated (Counterpart shifts) other) :
    Store.Relocated shifts (here.enterReply name id reply) (there.enterReply name id other) := by
  cases same with
  | value sameValue => exact relocated.enter name id sameValue
  | unbound => exact relocated
  | outcome success sameData =>
      cases success with
      | false => exact relocated
      | true =>
          cases sameData with
          | none => exact relocated
          | some sameValue => exact relocated.enter name id sameValue

theorem perform (name : Option String) (id : Nat) {cursor other : Cursor} {step : Edit Reply}
    (same : Counterpart shifts cursor other) (isLocal : ∀ shift, LocalReply shift step) :
    Store.Tally shifts (here.perform name id cursor step) (there.perform name id other step) := by
  obtain ⟨shift, member, sameShift⟩ := same
  obtain ⟨outcome, left⟩ := isLocal shift sameShift
  have kept := relocated.set id (counterpart_of_mem member left)
  cases ran : step.on cursor with
  | mk result after =>
      cases ranOther : step.on other with
      | mk resultOther afterOther =>
          rw [ran, ranOther] at outcome kept
          simp only [Store.perform, Store.edit, ran, ranOther]
          cases outcome with
          | ok sameReply =>
              have counterpart := sameReply.mono (counterpart_of_mem member)
              exact ⟨.ok counterpart, kept.enterReply name id counterpart⟩
          | error error => exact ⟨.error error, kept⟩

end Store.Relocated

/-! ## Commands -/

/-- The command lays no cursor over the window of another, and its operation is local. -/
def Command.isLocal : Command → Bool
  | .adopt _ => false
  | .apply operation => operation.isLocal
  | .insist command => command.isLocal
  | _ => true

/-- The text that a command brings with it to make a cursor over. -/
def Command.brought? : Command → Option Text
  | .create source _ _ => some source
  | _ => none

theorem insisted_relocated {kin : Cursor → Cursor → Prop} {reply other : Reply}
    (same : reply.Relocated kin other) :
    SameOutcome (Reply.Relocated kin) (Store.insisted reply) (Store.insisted other) := by
  cases same with
  | value sameValue => exact .ok (.value sameValue)
  | unbound => exact .ok .unbound
  | outcome success sameData =>
      cases success with
      | false => exact .error _
      | true =>
          cases sameData with
          | none => exact .ok (.value (.plain .nothing (by simp)))
          | some sameValue => exact .ok (.value sameValue)

namespace Store.Relocated

variable {here there : Store} (relocated : Store.Relocated shifts here there)

include relocated

theorem executeOn (name : Option String) (id : Nat) {cursor other : Cursor}
    (same : Counterpart shifts cursor other) {command : Command} (isLocal : command.isLocal) :
    Store.Tally shifts (here.executeOn name id cursor command)
      (there.executeOn name id other command) := by
  induction command with
  | adopt => contradiction
  | create | next => exact ⟨.ok .unbound, relocated⟩
  | apply operation =>
      exact relocated.perform name id same fun _ => Operation.local_run isLocal
  | search search operand =>
      simp only [Store.executeOn, relocated.operand?]
      cases there.operand? operand with
      | none => exact ⟨.ok .unbound, relocated⟩
      | some text => exact relocated.perform name id same fun _ => local_search search text
  | same second =>
      simp only [Store.executeOn, relocated.cursorId?]
      cases there.cursorId? second with
      | none => exact ⟨.ok .unbound, relocated⟩
      | some secondId => exact ⟨.ok (.value (.plain _ (by simp))), relocated⟩
  | traverse =>
      have begun : Store.Relocated shifts
          { here with traversals := here.traversals ++ [⟨id, none⟩] }
          { there with traversals := there.traversals ++ [⟨id, none⟩] } :=
        ⟨relocated.cursors, congrArg (· ++ _) relocated.traversals, relocated.names⟩
      simp only [Store.executeOn, relocated.traversals]
      rw [relocated.traversals] at begun
      exact ⟨.ok (.value (.plain _ (by simp))), begun.bind name _⟩
  | insist command inductionHypothesis =>
      obtain ⟨outcome, left⟩ := inductionHypothesis isLocal
      simp only [Store.executeOn]
      generalize here.executeOn name id cursor command = result at outcome left
      generalize there.executeOn name id other command = resultOther at outcome left
      obtain ⟨reply, after⟩ := result
      obtain ⟨replyOther, afterOther⟩ := resultOther
      cases outcome with
      | ok sameReply => exact ⟨insisted_relocated sameReply, left⟩
      | error error => exact ⟨.error error, left⟩

/-- What a traversal keeps is the same on both sides. -/
theorem keep (id : Nat) (traversal : Traversal) :
    Store.Relocated shifts { here with traversals := here.traversals.set id traversal }
      { there with traversals := there.traversals.set id traversal } :=
  ⟨relocated.cursors, congrArg (·.set id traversal) relocated.traversals, relocated.names⟩

theorem advance (id : Nat) (traversal : Traversal) :
    Store.Tally shifts (here.advance id traversal) (there.advance id traversal) := by
  obtain ⟨target, pending⟩ := traversal
  cases pending with
  | some texts =>
      cases texts with
      | nil => exact ⟨.ok (.value (.plain _ (by simp))), relocated.keep id _⟩
      | cons text later => exact ⟨.ok (.value (.plain _ (by simp))), relocated.keep id _⟩
  | none =>
      have found := forall₂_getElem? relocated.cursors target
      simp only [Store.advance]
      generalize here.cursors[target]? = cursor at found
      generalize there.cursors[target]? = other at found
      cases found with
      | none => exact ⟨.ok (.value (.plain _ (by simp))), relocated.keep id _⟩
      | @some cursor other counterpart =>
          obtain ⟨shift, member, same⟩ := counterpart
          obtain ⟨outcome, left⟩ := local_clusterTexts same
          have kept := relocated.set target (counterpart_of_mem member left)
          simp only [Store.edit]
          generalize Cursor.clusterTexts.on cursor = result at outcome kept
          generalize Cursor.clusterTexts.on other = resultOther at outcome kept
          obtain ⟨fetched, after⟩ := result
          obtain ⟨fetchedOther, afterOther⟩ := resultOther
          cases outcome with
          | error error => exact ⟨.error error, kept⟩
          | @ok texts _ same =>
              subst same
              cases texts with
              | nil => exact ⟨.ok (.value (.plain _ (by simp))), kept.keep id _⟩
              | cons text later => exact ⟨.ok (.value (.plain _ (by simp))), kept.keep id _⟩

end Store.Relocated

/-! ## Steps and scripts -/

namespace Store.Relocated

/-- A command on a cursor that is named. -/
theorem executeNamed {here there : Store} (relocated : Store.Relocated shifts here there)
    (target : String) (result : Option String) {command : Command} (isLocal : command.isLocal) :
    Store.Tally shifts
      (match here.cursorId? target, here.cursor? target with
        | some id, some cursor => here.executeOn result id cursor command
        | _, _ => (.ok .unbound, here))
      (match there.cursorId? target, there.cursor? target with
        | some id, some cursor => there.executeOn result id cursor command
        | _, _ => (.ok .unbound, there)) := by
  have found := relocated.cursor? target
  rw [relocated.cursorId?]
  generalize here.cursor? target = cursor at found
  generalize there.cursor? target = other at found
  cases there.cursorId? target with
  | none => exact ⟨.ok .unbound, relocated⟩
  | some id =>
      cases found with
      | none => exact ⟨.ok .unbound, relocated⟩
      | some same => exact relocated.executeOn result id same isLocal

/-- A cursor over a text that stays. -/
theorem create {here there : Store} (relocated : Store.Relocated shifts here there)
    (target result : Option String) {source : Text} (start : Int) (size : Option Int)
    (stays : .still source ∈ shifts) :
    Store.Tally shifts (here.execute ⟨target, result, .create source start size⟩)
      (there.execute ⟨target, result, .create source start size⟩) := by
  simp only [Store.execute]
  cases made : ofText source start size with
  | error error => exact ⟨.error error, relocated⟩
  | ok cursor =>
      obtain ⟨inside, rfl⟩ := make_eq_ok_iff.mp made
      have sound : Cursor.Sound { source, start, size := size.getD (source.length - start) } :=
        ⟨inside, coherent_of_cache_empty rfl⟩
      have same := relocated_still_iff.mpr ⟨sound, sound, rfl, rfl⟩
      have counterpart := Value.Relocated.cursor (counterpart_of_mem stays same)
      exact ⟨.ok (.value counterpart), relocated.enter result 0 counterpart⟩

theorem execute {here there : Store} (relocated : Store.Relocated shifts here there) {step : Step}
    (isLocal : step.command.isLocal)
    (stays : ∀ text ∈ step.command.brought?, .still text ∈ shifts) :
    Store.Tally shifts (here.execute step) (there.execute step) := by
  obtain ⟨target, result, command⟩ := step
  have unbound : Store.Tally shifts (.ok .unbound, here) (.ok .unbound, there) :=
    ⟨.ok .unbound, relocated⟩
  cases target with
  | none =>
      cases command with
      | create source start size => exact relocated.create none result start size (stays source rfl)
      | apply | search | adopt | same | traverse | next | insist => exact unbound
  | some target =>
      cases command with
      | create source start size =>
          exact relocated.create (some target) result start size (stays source rfl)
      | apply | search | adopt | same | traverse | insist =>
          exact relocated.executeNamed target result isLocal
      | next =>
          simp only [Store.execute, find?, relocated.names, relocated.traversals]
          cases List.lookup target there.names with
          | none => exact unbound
          | some reference =>
              cases reference with
              | cursor id => exact unbound
              | traversal id =>
                  dsimp only
                  cases there.traversals[id]? with
                  | none => exact unbound
                  | some traversal => exact relocated.advance id traversal

/-- The cursor that a step names. -/
theorem target {here there : Store} (relocated : Store.Relocated shifts here there)
    (name : Option String) :
    Option.Rel (Counterpart shifts) (name.bind here.cursor?) (name.bind there.cursor?) := by
  cases name with
  | none => exact .none
  | some name => exact relocated.cursor? name

theorem callsOf {here there : Store} (relocated : Store.Relocated shifts here there) (step : Step) :
    here.callsOf step = there.callsOf step := by
  have found := relocated.target step.target
  rw [Store.callsOf, Store.callsOf]
  generalize step.target.bind here.cursor? = cursor at found
  generalize step.target.bind there.cursor? = other at found
  cases found with
  | none => rfl
  | some counterpart =>
      obtain ⟨shift, -, same⟩ := counterpart
      cases step.command with
      | apply operation => exact operation.calls_relocated same
      | create | search | adopt | same | traverse | next | insist => rfl

theorem step {here there : Store} (relocated : Store.Relocated shifts here there) {step : Step}
    (isLocal : step.command.isLocal)
    (stays : ∀ text ∈ step.command.brought?, .still text ∈ shifts) :
    (here.step step).1.Relocated (Counterpart shifts) (there.step step).1 ∧
      Store.Relocated shifts (here.step step).2 (there.step step).2 := by
  obtain ⟨outcome, left⟩ := relocated.execute isLocal stays
  exact ⟨⟨outcome, relocated.callsOf step, left.target step.target⟩, left⟩

/-- Step after step, the answers are related and so are the stores. -/
theorem run {here there : Store} (relocated : Store.Relocated shifts here there)
    {script : List Step} (isLocal : ∀ step ∈ script, step.command.isLocal)
    (stays : ∀ step ∈ script, ∀ text ∈ step.command.brought?, .still text ∈ shifts) :
    List.Forall₂ (Answer.Relocated (Counterpart shifts)) (here.run script).1 (there.run script).1 ∧
      Store.Relocated shifts (here.run script).2 (there.run script).2 := by
  induction script generalizing here there with
  | nil => exact ⟨.nil, relocated⟩
  | cons step later inductionHypothesis =>
      obtain ⟨isLocalFirst, isLocalLater⟩ := List.forall_mem_cons.mp isLocal
      obtain ⟨staysFirst, staysLater⟩ := List.forall_mem_cons.mp stays
      obtain ⟨answered, left⟩ := relocated.step isLocalFirst staysFirst
      obtain ⟨answers, last⟩ := inductionHypothesis left isLocalLater staysLater
      exact ⟨.cons answered answers, last⟩

end Store.Relocated

/-- A store of one cursor under a name. -/
def Store.single (name : String) (cursor : Cursor) : Store :=
  { cursors := [cursor], names := [(name, .cursor 0)] }

/-- Where the windows of a script go when the cursor that it works on is laid over its window's
text alone: those over that cursor's source go with it, and those over a text that the script
brings stay. -/
def shiftsAlong (cursor : Cursor) (script : List Step) : List Shift :=
  ⟨cursor.source, cursor.content, cursor.start⟩ ::
    (script.filterMap (·.command.brought?)).map .still

/-- What stands outside the window of a cursor that a script made is never observed. Beside a
cursor over the window's text alone, every script that names no place in a source gets the same
answers, yields cursors that read the same and stand as far from where the window began, and
leaves such cursors. The cursors that the script makes over texts of its own, and those that come
of them, are the same windows on both sides (`relocated_still_iff`), also where what the window
reads is looked for in them. A reader that is applied to the window yields what it yields for the
text. -/
theorem Reachable.window_alone {cursor : Cursor} (reachable : Reachable cursor) :
    ∃ alone, ofText cursor.content 0 none = .ok alone ∧
      (∀ name script, (∀ step ∈ script, step.command.isLocal) →
        List.Forall₂ (Answer.Relocated (Counterpart (shiftsAlong cursor script)))
            ((Store.single name cursor).run script).1 ((Store.single name alone).run script).1 ∧
          Store.Relocated (shiftsAlong cursor script) ((Store.single name cursor).run script).2
            ((Store.single name alone).run script).2) ∧
      ∀ (pool : Template.Pool) id layout, pool.Makes id layout →
        ((Template.Run.apply id (.cursor cursor)).on pool).1 =
          ((Template.Run.apply id (.text cursor.content)).on pool).1 := by
  have sound := reachable.sound
  have made : ofText cursor.content 0 none =
      .ok { source := cursor.content, start := 0, size := cursor.content.length } := by
    rw [ofText, Option.getD_none, Int.sub_zero]
    exact make_of_inside (inside_whole cursor.content)
  refine ⟨_, made, ?_, ?_⟩
  · intro name script isLocal
    have single : Store.Relocated (shiftsAlong cursor script) (Store.single name cursor)
        (Store.single name _) :=
      ⟨.cons (counterpart_of_mem List.mem_cons_self sound.relocated) .nil, rfl, rfl⟩
    apply single.run isLocal
    intro step member text brought
    have brings : text ∈ script.filterMap (·.command.brought?) :=
      List.mem_filterMap.mpr ⟨step, member, brought⟩
    exact List.mem_cons_of_mem _ (List.mem_map_of_mem brings)
  · intro pool id layout makes
    have inside : Template.Input.Inside (.cursor cursor) := sound.inside
    have insideText : Template.Input.Inside (.text cursor.content) := trivial
    obtain ⟨after, ran⟩ := makes.on_apply inside
    obtain ⟨afterText, ranText⟩ := makes.on_apply insideText
    rw [ran, ranText]
    rfl

/-- A pool of a reader for one integer. -/
def numberPool : Template.Pool := ((Template.Run.enroll ⟨[⟨[], .int⟩], []⟩).on {}).2

theorem numberPool_makes : numberPool.Makes 0 (.slot [] .int .done) :=
  (Template.Pool.makes_enroll (.cons .int .nil)).1

/-- A window that ends inside a number: the digit behind it belongs to no answer, and is not
looked for in another text. -/
theorem window_alone_within_number :
    let cursor : Cursor := { source := "a123".toList, start := 1, size := 2 }
    let alone : Cursor := { source := "12".toList, start := 0, size := 2 }
    let script : List Step :=
      [⟨none, some "other", .create "x12y".toList 0 none⟩,
        ⟨some "other", some "before", .search .popBefore? (.named "window")⟩,
        ⟨some "window", none, .apply .popInt?⟩]
    let shifts : List Shift := [⟨"a123".toList, "12".toList, 1⟩, .still "x12y".toList]
    (Reachable cursor ∧ (∀ step ∈ script, step.command.isLocal) ∧
      numberPool.Makes 0 (.slot [] .int .done)) ∧
      List.Forall₂ (Answer.Relocated (Counterpart shifts))
        ((Store.single "window" cursor).run script).1
        ((Store.single "window" alone).run script).1 ∧
      Store.Relocated shifts ((Store.single "window" cursor).run script).2
        ((Store.single "window" alone).run script).2 ∧
      ((Template.Run.apply 0 (.cursor cursor)).on numberPool).1 =
        ((Template.Run.apply 0 (.text "12".toList)).on numberPool).1 := by
  intro cursor alone script shifts
  let making : List Step := [⟨none, some "window", .create "a123".toList 1 (some 2)⟩]
  have placed : (Store.run {} making).2.cursors[0]? = some cursor := by decide
  have reachable : Reachable cursor := ⟨making, List.mem_of_getElem? placed⟩
  have isLocal : ∀ step ∈ script, step.command.isLocal := by decide
  obtain ⟨other, made, scripts, readers⟩ := reachable.window_alone
  obtain rfl : alone = other := Except.ok.inj made
  obtain ⟨answers, left⟩ := scripts "window" script isLocal
  exact ⟨⟨reachable, isLocal, numberPool_makes⟩, answers, left,
    readers numberPool 0 _ numberPool_makes⟩

end TextCursor.Script
