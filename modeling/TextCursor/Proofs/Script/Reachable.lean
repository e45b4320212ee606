import TextCursor.Proofs.Script.Bounds
import TextCursor.Script.Store

/-!
Contract: the stores that scripts lead to.

Owns: the invariant that every cursor of a store is sound, its preservation by each step and by
whole scripts, and how the commands of a sound store can end.

Does not own: what single operations do.
-/

namespace TextCursor.Script

open Edit Cursor

/-- A cursor that some script makes, moved as the script moves it. -/
def Reachable (cursor : Cursor) : Prop :=
  ∃ script, cursor ∈ (Store.run {} script).2.cursors

namespace Store

/-- Every cursor is sound. -/
def Sound (store : Store) : Prop := ∀ cursor ∈ store.cursors, cursor.Sound

theorem sound_empty : Sound {} := by simp [Sound]

/-! ## Changes of a store -/

section Changes

variable {store : Store} (sound : store.Sound)

include sound

theorem sound_set (id : Nat) {cursor : Cursor} (cursorSound : cursor.Sound) :
    Sound { store with cursors := store.cursors.set id cursor } := by
  intro other member
  rcases List.mem_or_eq_of_mem_set member with old | new
  · exact sound other old
  · rw [new]
    exact cursorSound

theorem sound_bind (name : Option String) (reference : Reference) :
    (store.bind name reference).Sound := by
  cases name with
  | none => exact sound
  | some name => exact sound

theorem sound_enter (name : Option String) (id : Nat) {value : Value}
    (valueSound : value.Sound) : (store.enter name id value).Sound := by
  cases value with
  | cursor cursor =>
      have added : Sound { store with cursors := store.cursors ++ [cursor] } := by
        intro other member
        rcases List.mem_append.mp member with old | new
        · exact sound other old
        · rw [List.mem_singleton.mp new]
          exact valueSound
      exact sound_bind added name _
  | self => exact sound_bind sound name _
  | nothing | bool | int | real | text | texts | placement | exhausted => exact sound

theorem sound_enterReply (name : Option String) (id : Nat) {reply : Reply}
    (replySound : reply.Sound) : (store.enterReply name id reply).Sound := by
  cases reply with
  | value value => exact sound_enter sound name id replySound
  | outcome outcome =>
      obtain ⟨success, data⟩ := outcome
      cases success with
      | false => exact sound
      | true =>
          cases data with
          | none => exact sound
          | some value => exact sound_enter sound name id (replySound value rfl)
  | unbound => exact sound

theorem sound_of_cursor? {name : String} {cursor : Cursor}
    (found : store.cursor? name = some cursor) : cursor.Sound := by
  obtain ⟨id, -, atId⟩ := Option.bind_eq_some_iff.mp found
  exact sound cursor (List.mem_of_getElem? atId)

end Changes

/-- A store after a command that ended well, and its reply. -/
def EndsWell (result : Except Error Reply × Store) (allowed : Error → Prop) : Prop :=
  result.2.Sound ∧
    match result.1 with
    | .ok reply => reply.Sound
    | .error error => allowed error

theorem perform_endsWell {store : Store} (sound : store.Sound) (name : Option String) (id : Nat)
    {cursor : Cursor} {step : Edit Reply} {allowed : Error → Prop}
    (ends : (step.on cursor).2.Sound ∧ step.EndsWell cursor Reply.Sound allowed) :
    EndsWell (store.perform name id cursor step) allowed := by
  obtain ⟨after, -, outcome⟩ := ends
  have kept := sound_set sound id after
  cases ran : step.on cursor with
  | mk result left =>
      rw [ran] at outcome kept
      cases result with
      | ok reply =>
          have performed : store.perform name id cursor step =
              (.ok reply, enterReply { store with cursors := store.cursors.set id left }
                name id reply) := by
            simp only [perform, edit, ran]
          rw [performed]
          exact ⟨sound_enterReply kept name id outcome, outcome⟩
      | error error =>
          have performed : store.perform name id cursor step =
              (.error error, { store with cursors := store.cursors.set id left }) := by
            simp only [perform, edit, ran]
          rw [performed]
          exact ⟨kept, outcome⟩

end Store

/-! ## Commands -/

/-- The predicate of the operation that a command applies. -/
def Command.predicate? : Command → Option Predicate
  | .apply operation => operation.predicate?
  | .insist command => command.predicate?
  | _ => none

/-- The caller's predicate fails with this error somewhere. -/
def Command.Blames (command : Command) (error : Error) : Prop :=
  ∃ accepts ∈ command.predicate?, ∃ asked c, accepts asked c = .error error

/-- The failures that a command on a cursor itself admits: those of the operation that it
applies, and a failed outcome that was insisted upon. -/
inductive Command.Refuses (store : Store) (name : Option String) (id : Nat) (cursor : Cursor) :
    Command → Error → Prop
  | apply {operation : Operation} {error : Error} (refuses : operation.Refuses cursor error) :
      Refuses store name id cursor (.apply operation) error
  | insist {command : Command} {error : Error}
      (refuses : Refuses store name id cursor command error) :
      Refuses store name id cursor (.insist command) error
  | unwrap {command : Command} {outcome : Outcome Value}
      (replied : (store.executeOn name id cursor command).1 = .ok (.outcome outcome))
      (failed : outcome.success = false) :
      Refuses store name id cursor (.insist command) .emptyOutcome

namespace Store

variable {store : Store}

theorem executeOn_endsWell (sound : store.Sound) (name : Option String) (id : Nat)
    {cursor : Cursor} (cursorSound : cursor.Sound) (command : Command) :
    EndsWell (store.executeOn name id cursor command) fun error =>
      command.Refuses store name id cursor error ∨ command.Blames error := by
  have bareInside : cursor.bare.Inside := cursorSound.inside
  induction command with
  | apply operation =>
      obtain ⟨after, inside, outcome⟩ := operation.run_endsWell cursorSound
      refine perform_endsWell sound name id ⟨after, inside, ?_⟩
      cases result : (operation.run.on cursor).1 with
      | ok reply =>
          rw [result] at outcome
          exact outcome
      | error error =>
          rw [result] at outcome
          exact outcome.imp_left .apply
  | search search operand =>
      cases text : store.operand? operand with
      | none =>
          simp only [executeOn, text]
          exact ⟨sound, trivial⟩
      | some needle =>
          simp only [executeOn, text]
          exact perform_endsWell sound name id (sound_of_mirrors cursorSound
            (blind_search search needle) (search_endsWell bareInside search needle))
  | adopt other =>
      cases found : store.cursor? other with
      | none =>
          simp only [executeOn, found]
          exact ⟨sound, trivial⟩
      | some source =>
          have sourceSound := sound_of_cursor? sound found
          simp only [executeOn, found]
          exact perform_endsWell sound name id (sound_of_mirrors cursorSound
            (blind_adopt source) (adopt_endsWell sourceSound.inside))
  | same other =>
      cases found : store.cursorId? other with
      | none =>
          simp only [executeOn, found]
          exact ⟨sound, trivial⟩
      | some otherId =>
          simp only [executeOn, found]
          exact ⟨sound, trivial⟩
  | traverse =>
      have begun : Sound { store with traversals := store.traversals ++ [⟨id, none⟩] } := sound
      exact ⟨sound_bind begun name _, trivial⟩
  | insist command inductionHypothesis =>
      obtain ⟨after, outcome⟩ := inductionHypothesis
      cases ran : store.executeOn name id cursor command with
      | mk result left =>
          have insisted : store.executeOn name id cursor (.insist command) =
              (result.bind insisted, left) := by
            simp only [executeOn, ran]
          rw [ran] at after outcome
          rw [insisted]
          cases result with
          | error error => exact ⟨after, outcome.imp_left .insist⟩
          | ok reply =>
              cases reply with
              | value | unbound => exact ⟨after, outcome⟩
              | outcome found =>
                  obtain ⟨success, data⟩ := found
                  cases success with
                  | false => exact ⟨after, Or.inl (.unwrap (congrArg Prod.fst ran) rfl)⟩
                  | true =>
                      cases data with
                      | none => exact ⟨after, trivial⟩
                      | some value => exact ⟨after, outcome value rfl⟩
  | create source start size => exact ⟨sound, trivial⟩
  | next => exact ⟨sound, trivial⟩

/-- A traversal never fails: its clusters are there, or they are fetched from a sound cursor. -/
theorem advance_endsWell (sound : store.Sound) (id : Nat) (traversal : Traversal)
    {allowed : Error → Prop} : EndsWell (store.advance id traversal) allowed := by
  obtain ⟨target, pending⟩ := traversal
  cases pending with
  | some texts =>
      cases texts with
      | nil => exact ⟨sound, trivial⟩
      | cons text later => exact ⟨sound, trivial⟩
  | none =>
      cases found : store.cursors[target]? with
      | none =>
          simp only [advance, found]
          exact ⟨sound, trivial⟩
      | some cursor =>
          have cursorSound := sound cursor (List.mem_of_getElem? found)
          have twin : Uncached.clusterTexts.EndsWell cursor.bare (fun _ => True) fun _ => False :=
            endsWell_of_ok rfl cursorSound.inside trivial
          obtain ⟨after, -, outcome⟩ := sound_of_mirrors cursorSound clusterTexts_mirrors twin
          have kept := sound_set sound target after
          cases ran : Cursor.clusterTexts.on cursor with
          | mk result left =>
              rw [ran] at outcome kept
              cases result with
              | error error => contradiction
              | ok texts =>
                  cases texts with
                  | nil =>
                      simp only [advance, found, edit, ran]
                      exact ⟨kept, trivial⟩
                  | cons text later =>
                      simp only [advance, found, edit, ran]
                      exact ⟨kept, trivial⟩

end Store

/-! ## Steps and scripts -/

/-- The failures that a step itself admits: a window that does not lie in the source that it
makes a cursor over, and those of its command on the cursor that it names. -/
inductive Step.Refuses (store : Store) (step : Step) : Error → Prop
  | create {source : Text} {start width : Int} {size : Option Int}
      (creates : step.command = .create source start size)
      (widthEq : width = size.getD (source.length - start))
      (outside : ¬Inside { source := source, start := start, size := width }) :
      Refuses store step (.outOfBounds start width source.length)
  | command {target : String} {id : Nat} {cursor : Cursor} {error : Error}
      (named : step.target = some target) (numbered : store.cursorId? target = some id)
      (found : store.cursor? target = some cursor)
      (refuses : step.command.Refuses store step.result id cursor error) :
      Refuses store step error

namespace Store

variable {store : Store}

theorem execute_endsWell (sound : store.Sound) (step : Step) :
    EndsWell (store.execute step) fun error =>
      step.Refuses store error ∨ step.command.Blames error := by
  unfold execute
  split
  next _ _ source start size creates =>
      cases made : Cursor.ofText source start size with
      | ok cursor =>
          obtain ⟨inside, rfl⟩ := make_eq_ok_iff.mp made
          have cursorSound : Cursor.Sound
              { source := source, start := start, size := size.getD (source.length - start) } :=
            ⟨inside, coherent_of_cache_empty rfl⟩
          have entered : (store.enter step.result 0 (.cursor _)).Sound :=
            sound_enter sound step.result 0 cursorSound
          exact ⟨entered, cursorSound⟩
      | error error =>
          obtain ⟨outside, rfl⟩ := make_eq_error_iff.mp made
          exact ⟨sound, Or.inl (.create creates rfl outside)⟩
  next =>
      split
      · split
        · exact advance_endsWell sound _ _
        · exact ⟨sound, trivial⟩
      · exact ⟨sound, trivial⟩
  next _ _ target named _ _ =>
      split
      next id cursor numbered found =>
          have cursorSound := sound_of_cursor? sound found
          obtain ⟨after, outcome⟩ :=
            executeOn_endsWell sound step.result id cursorSound step.command
          refine ⟨after, ?_⟩
          cases result : (store.executeOn step.result id cursor step.command).1 with
          | ok reply =>
              rw [result] at outcome
              exact outcome
          | error error =>
              rw [result] at outcome
              exact outcome.imp_left (.command named numbered found)
      · exact ⟨sound, trivial⟩
  · exact ⟨sound, trivial⟩

theorem sound_step (sound : store.Sound) (step : Step) : (store.step step).2.Sound :=
  (execute_endsWell sound step).1

theorem sound_run (sound : store.Sound) (script : List Step) : (store.run script).2.Sound := by
  induction script generalizing store with
  | nil => exact sound
  | cons step later inductionHypothesis => exact inductionHypothesis (sound_step sound step)

end Store

theorem Reachable.sound {cursor : Cursor} (reachable : Reachable cursor) : cursor.Sound := by
  obtain ⟨script, member⟩ := reachable
  exact Store.sound_run Store.sound_empty script cursor member

/-- A script can ask for any window within its source. -/
theorem reachable_of_inside {source : Text} {start size : Int}
    (inside : Cursor.Inside { source, start, size }) : Reachable { source, start, size } := by
  have made : Cursor.ofText source start (some size) = .ok { source, start, size } :=
    make_of_inside inside
  refine ⟨[⟨none, none, .create source start (some size)⟩], ?_⟩
  simp only [Store.run, Store.step, Store.execute, made]
  exact List.mem_singleton_self _

end TextCursor.Script
