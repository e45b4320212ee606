import TextCursor.Proofs.Script.Reachable

/-!
Contract: what a traversal yields over its life.

Owns: the steps of a script that advance a given traversal, what they are answered, and that these
answers are the clusters of one window: the one that the cursor has when the traversal is advanced
for the first time.

Does not own: what the other steps of the script do. They may move the cursor, open it over
another source, or advance other traversals of it.
-/

namespace TextCursor.Script

open Edit Cursor

namespace Store

/-! ## Advances -/

/-- The place of the traversal that a step advances. -/
def advanced? (store : Store) (step : Step) : Option Nat :=
  match step.command, step.target.bind store.find? with
  | .next, some (.traversal place) => some place
  | _, _ => none

/-- What a script answers where it advances the traversal at a place. -/
def yields (store : Store) (place : Nat) : List Step → List (Except Error Reply)
  | [] => []
  | step :: later =>
      let result := store.step step
      if store.advanced? step = some place then
        result.1.reply :: yields result.2 place later
      else yields result.2 place later

/-- The store as a script comes to advance the traversal at a place for the first time. -/
def firstAdvance? (store : Store) (place : Nat) : List Step → Option Store
  | [] => none
  | step :: later =>
      if store.advanced? step = some place then some store
      else firstAdvance? (store.step step).2 place later

/-- The clusters of the window at a place. -/
def clustersOf (store : Store) (id : Nat) : List Text :=
  ((store.cursors[id]?).map fun cursor => TextCursor.clusterTexts cursor.content).getD []

/-- All windows, without what is remembered of them. -/
def windows (store : Store) : List Cursor := store.cursors.map bare

/-- Cursors and traversals keep their places, and traversals what they have still to yield. -/
structure Grows (before after : Store) : Prop where
  cursors : before.cursors.length ≤ after.cursors.length
  traversals : before.traversals <+: after.traversals

namespace Grows

variable {before middle after : Store}

theorem refl (store : Store) : store.Grows store := ⟨Nat.le_refl _, List.prefix_rfl⟩

theorem trans (first : before.Grows middle) (second : middle.Grows after) : before.Grows after :=
  ⟨Nat.le_trans first.cursors second.cursors, first.traversals.trans second.traversals⟩

theorem getElem? (grows : before.Grows after) {place : Nat} {traversal : Traversal}
    (there : before.traversals[place]? = some traversal) :
    after.traversals[place]? = some traversal := by
  obtain ⟨added, whole⟩ := grows.traversals
  obtain ⟨inRange, -⟩ := List.getElem?_eq_some_iff.mp there
  rw [← whole, List.getElem?_append_left inRange, there]

end Grows

variable (store : Store)

theorem grows_bind (name : Option String) (reference : Reference) :
    store.Grows (store.bind name reference) := by
  cases name with
  | none => exact .refl store
  | some name => exact ⟨Nat.le_refl _, List.prefix_rfl⟩

theorem grows_enter (name : Option String) (id : Nat) (value : Value) :
    store.Grows (store.enter name id value) := by
  cases value with
  | cursor cursor =>
      have added : store.Grows { store with cursors := store.cursors ++ [cursor] } := by
        refine ⟨?_, List.prefix_rfl⟩
        rw [List.length_append]
        exact Nat.le_add_right _ _
      exact added.trans (grows_bind _ name _)
  | self => exact grows_bind store name _
  | nothing | bool | int | real | text | texts | placement | exhausted => exact .refl store

theorem grows_enterReply (name : Option String) (id : Nat) (reply : Reply) :
    store.Grows (store.enterReply name id reply) := by
  unfold enterReply
  split
  · exact grows_enter store name id _
  · exact grows_enter store name id _
  · exact .refl store

theorem grows_perform (name : Option String) (id : Nat) (cursor : Cursor) (step : Edit Reply) :
    store.Grows (store.perform name id cursor step).2 := by
  have edited (left : Cursor) : store.Grows { store with cursors := store.cursors.set id left } :=
    ⟨Nat.le_of_eq List.length_set.symm, List.prefix_rfl⟩
  cases ran : step.on cursor with
  | mk result left =>
      cases result with
      | ok reply =>
          simp only [perform, edit, ran]
          exact (edited left).trans (grows_enterReply _ name id reply)
      | error error =>
          simp only [perform, edit, ran]
          exact edited left

theorem grows_executeOn (name : Option String) (id : Nat) (cursor : Cursor) (command : Command) :
    store.Grows (store.executeOn name id cursor command).2 := by
  induction command with
  | apply operation => exact grows_perform store name id cursor _
  | search search operand =>
      cases text : store.operand? operand with
      | none =>
          simp only [executeOn, text]
          exact .refl store
      | some needle =>
          simp only [executeOn, text]
          exact grows_perform store name id cursor _
  | adopt other =>
      cases found : store.cursor? other with
      | none =>
          simp only [executeOn, found]
          exact .refl store
      | some source =>
          simp only [executeOn, found]
          exact grows_perform store name id cursor _
  | same other =>
      cases found : store.cursorId? other with
      | none =>
          simp only [executeOn, found]
          exact .refl store
      | some otherId =>
          simp only [executeOn, found]
          exact .refl store
  | traverse =>
      have begun : store.Grows { store with traversals := store.traversals ++ [⟨id, none⟩] } :=
        ⟨Nat.le_refl _, List.prefix_append _ _⟩
      exact begun.trans (grows_bind _ name _)
  | insist command inductionHypothesis => exact inductionHypothesis
  | create source start size => exact .refl store
  | next => exact .refl store

variable {store} {step : Step} {place : Nat}

/-- A step that advances nothing. -/
theorem grows_execute (still : store.advanced? step = none) :
    store.Grows (store.execute step).2 := by
  unfold execute
  split
  next _ _ source start size _ =>
      cases Cursor.ofText source start size with
      | ok cursor => exact grows_enter store step.result 0 (.cursor cursor)
      | error error => exact .refl store
  next target isNext named =>
      split
      next id found =>
          have advanced : store.advanced? step = some id := by
            simp only [advanced?, isNext, named, Option.bind_some, found]
          rw [advanced] at still
          contradiction
      next => exact .refl store
  next _ _ target _ _ _ =>
      split
      · exact grows_executeOn store step.result _ _ _
      · exact .refl store
  · exact .refl store

theorem execute_of_advanced (advances : store.advanced? step = some place) :
    store.execute step =
      match store.traversals[place]? with
      | some traversal => store.advance place traversal
      | none => (.ok .unbound, store) := by
  unfold advanced? at advances
  split at advances
  next _ _ place isNext found =>
      obtain rfl := Option.some.inj advances
      obtain ⟨target, named, found⟩ := Option.bind_eq_some_iff.mp found
      cases entered : store.traversals[place]? with
      | none => simp only [execute, isNext, named, found, entered]
      | some traversal => simp only [execute, isNext, named, found, entered]
  next => contradiction

/-! ## What an advance answers -/

/-- The item at an index of a list, or that there are no more. -/
def item (texts : List Text) (index : Nat) : Value :=
  match texts[index]? with
  | some text => .text text
  | none => .exhausted

/-- What an iteration over a list answers to a number of advances: the items in order, once
each, and then that there are no more. -/
def served (texts : List Text) (count : Nat) : List (Except Error Reply) :=
  (List.range count).map fun index => .ok (.value (item texts index))

theorem served_succ (texts : List Text) (count : Nat) :
    served texts (count + 1) = .ok (.value (item texts 0)) :: served texts.tail count := by
  rw [served, List.range_succ_eq_map, List.map_cons, List.map_map, served]
  congr 1
  apply List.map_congr_left
  intro index _
  cases texts with
  | nil => rfl
  | cons text later => rfl

/-- What a traversal has still to yield, if it is advanced now: what is left of the clusters that
it fetched, or the clusters that its cursor's window has now. -/
def coming (store : Store) (traversal : Traversal) : List Text :=
  traversal.pending.getD (store.clustersOf traversal.target)

/-- Whoever is written over by a cursor with the same window, no window changes. -/
theorem map_bare_set {cursors : List Cursor} {id : Nat} {cursor left : Cursor}
    (found : cursors[id]? = some cursor) (same : left.bare = cursor.bare) :
    (cursors.set id left).map bare = cursors.map bare := by
  obtain ⟨inRange, rfl⟩ := List.getElem?_eq_some_iff.mp found
  have inMapped : id < (cursors.map bare).length := by rwa [List.length_map]
  rw [List.map_set, same, ← List.getElem_map bare (h := inMapped), List.set_getElem_self]

/-- An advance answers with the first of what is coming and keeps the others. No window
changes. -/
theorem advance_eq (sound : store.Sound) (place : Nat) (traversal : Traversal) :
    ∃ cursors : List Cursor, cursors.map bare = store.windows ∧
      store.advance place traversal =
        (.ok (.value (item (store.coming traversal) 0)),
          { store with
            cursors
            traversals := store.traversals.set place
              ⟨traversal.target, some (store.coming traversal).tail⟩ }) := by
  obtain ⟨target, pending⟩ := traversal
  cases pending with
  | some texts =>
      refine ⟨store.cursors, rfl, ?_⟩
      cases texts with
      | nil => rfl
      | cons text later => rfl
  | none =>
      cases found : store.cursors[target]? with
      | none =>
          refine ⟨store.cursors, rfl, ?_⟩
          simp only [advance, found, coming, clustersOf]
          rfl
      | some cursor =>
          have coherent := (sound cursor (List.mem_of_getElem? found)).coherent
          have listed := listed_eq coherent
          obtain ⟨same, -⟩ := clusterTexts_mirrors cursor coherent
          have window : (Cursor.clusterTexts.on cursor).2.bare = cursor.bare :=
            (congrArg Prod.snd same).symm
          unfold Cursor.listed at listed
          cases ran : Cursor.clusterTexts.on cursor with
          | mk result left =>
              rw [ran] at listed window
              obtain rfl : result = _ := listed
              refine ⟨store.cursors.set target left, map_bare_set found window, ?_⟩
              simp only [coming, clustersOf, found, Option.map_some, Option.getD_none,
                Option.getD_some]
              cases texts : TextCursor.clusterTexts cursor.content with
              | nil =>
                  rw [texts] at ran
                  simp only [advance, found, edit, ran]
                  rfl
              | cons text later =>
                  rw [texts] at ran
                  simp only [advance, found, edit, ran]
                  rfl

/-! ## Whole lives -/

section Lives

variable {traversal : Traversal} (there : store.traversals[place]? = some traversal)

include there

/-- A step that advances another traversal, or none, leaves a traversal as it is. -/
theorem getElem?_traversals_step (sound : store.Sound)
    (apart : store.advanced? step ≠ some place) :
    (store.step step).2.traversals[place]? = some traversal := by
  show (store.execute step).2.traversals[place]? = some traversal
  cases advances : store.advanced? step with
  | none => exact (grows_execute advances).getElem? there
  | some other =>
      have elsewhere : other ≠ place := by
        rintro rfl
        exact apart advances
      rw [execute_of_advanced advances]
      cases store.traversals[other]? with
      | none => exact there
      | some another =>
          obtain ⟨cursors, -, advanced⟩ := advance_eq sound other another
          simp only [advanced, List.getElem?_set_ne elsewhere, there]

/-- From any time on, a traversal yields what is coming at its next advance: in order, once each,
and then nothing more, whatever the script does between the advances. -/
theorem yields_eq (sound : store.Sound) (script : List Step) :
    match store.firstAdvance? place script with
    | none => store.yields place script = []
    | some moment => store.yields place script =
        served (moment.coming traversal) (store.yields place script).length := by
  induction script generalizing store traversal with
  | nil => rfl
  | cons step later inductionHypothesis =>
      have soundAfter := sound_step sound step
      by_cases advances : store.advanced? step = some place
      · obtain ⟨cursors, -, advanced⟩ := advance_eq sound place traversal
        have executed := execute_of_advanced advances
        rw [there] at executed
        simp only [advanced] at executed
        have replied : (store.step step).1.reply = (store.execute step).1 := rfl
        have left : (store.step step).2 = (store.execute step).2 := rfl
        rw [executed] at replied left
        obtain ⟨inRange, -⟩ := List.getElem?_eq_some_iff.mp there
        have kept : (store.step step).2.traversals[place]? =
            some ⟨traversal.target, some (store.coming traversal).tail⟩ := by
          rw [left]
          exact List.getElem?_set_self inRange
        have further := inductionHypothesis kept soundAfter
        rw [firstAdvance?, if_pos advances]
        simp only [yields, if_pos advances, List.length_cons, served_succ, replied]
        congr 1
        cases first : firstAdvance? (store.step step).2 place later with
        | none =>
            rw [first] at further
            rw [further]
            rfl
        | some moment =>
            rw [first] at further
            exact further
      · have kept := getElem?_traversals_step there sound advances
        rw [firstAdvance?, if_neg advances, yields, if_neg advances]
        exact inductionHypothesis kept soundAfter

end Lives

/-- No cursor ever loses its place. -/
theorem length_cursors_step (sound : store.Sound) (step : Step) :
    store.cursors.length ≤ (store.step step).2.cursors.length := by
  show store.cursors.length ≤ (store.execute step).2.cursors.length
  cases advances : store.advanced? step with
  | none => exact (grows_execute advances).cursors
  | some place =>
      rw [execute_of_advanced advances]
      cases store.traversals[place]? with
      | none => exact Nat.le_refl _
      | some traversal =>
          obtain ⟨cursors, same, advanced⟩ := advance_eq sound place traversal
          have lengths := congrArg List.length same
          rw [windows, List.length_map, List.length_map] at lengths
          simp only [advanced, lengths, Nat.le_refl]

theorem length_cursors_firstAdvance? {moment : Store} (sound : store.Sound) {script : List Step}
    (first : store.firstAdvance? place script = some moment) :
    store.cursors.length ≤ moment.cursors.length := by
  induction script generalizing store with
  | nil => contradiction
  | cons step later inductionHypothesis =>
      rw [firstAdvance?] at first
      split at first
      · rw [Option.some.inj first]
      · exact Nat.le_trans (length_cursors_step sound step)
          (inductionHypothesis (sound_step sound step) first)

/-- An advance, of whatever traversal, changes no window. -/
theorem windows_step_of_next (sound : store.Sound) (isNext : step.command = .next) :
    (store.step step).2.windows = store.windows := by
  show (store.execute step).2.windows = store.windows
  unfold execute
  split
  next creates =>
      rw [isNext] at creates
      contradiction
  next =>
      split
      · split
        next traversal _ =>
            obtain ⟨cursors, same, advanced⟩ := advance_eq sound _ traversal
            rw [advanced]
            exact same
        next => rfl
      · rfl
  next notNext => exact (notNext isNext).elim
  · rfl

end Store

/-- A traversal that is begun anywhere in a script yields the clusters of one window: in order,
once each, and then nothing more. It is the window that the cursor has as the traversal is advanced
for the first time. So what the script does with the cursor before that counts, and what it does
later never does. An advance changes no window at all. -/
theorem traversal_yields_snapshot (earlier later : List Step) {name : String} {id : Nat}
    {cursor : Cursor} (named : (Store.run {} earlier).2.find? name = some (.cursor id))
    (placed : (Store.run {} earlier).2.cursors[id]? = some cursor) (result : Option String) :
    let store := (Store.run {} earlier).2
    let begun := (store.step ⟨some name, result, .traverse⟩).2
    let place := store.traversals.length
    let yielded := begun.yields place later
    (∀ given ∈ result, begun.find? given = some (.traversal place)) ∧
      (begun.firstAdvance? place later = none → yielded = []) ∧
      (∀ moment ∈ begun.firstAdvance? place later, ∃ now, moment.cursors[id]? = some now ∧
        yielded = Store.served (TextCursor.clusterTexts now.content) yielded.length) ∧
      ∀ script step, step.command = .next →
        ((begun.run script).2.step step).2.windows = (begun.run script).2.windows := by
  intro store begun place yielded
  have sound := Store.sound_run Store.sound_empty earlier
  have begunSound := Store.sound_step sound ⟨some name, result, .traverse⟩
  have numbered : store.cursorId? name = some id := by rw [Store.cursorId?, named]
  have found : store.cursor? name = some cursor := by
    rw [Store.cursor?, numbered, Option.bind_some, placed]
  have traversed : begun =
      Store.bind { store with traversals := store.traversals ++ [⟨id, none⟩] } result
        (.traversal place) := by
    show (store.execute ⟨some name, result, .traverse⟩).2 = _
    simp only [Store.execute, numbered, found]
    rfl
  have there : begun.traversals[place]? = some ⟨id, none⟩ := by
    rw [traversed]
    cases result with
    | none => exact List.getElem?_concat_length ..
    | some given => exact List.getElem?_concat_length ..
  have kept : begun.cursors = store.cursors := by
    rw [traversed]
    cases result with
    | none => rfl
    | some given => rfl
  have life := Store.yields_eq there begunSound later
  refine ⟨?_, ?_, ?_, ?_⟩
  · rintro given ⟨⟩
    rw [traversed]
    simp [Store.find?, Store.bind]
  · intro untouched
    rw [untouched] at life
    exact life
  · intro moment first
    obtain ⟨inRange, -⟩ := List.getElem?_eq_some_iff.mp placed
    have grown := Store.length_cursors_firstAdvance? begunSound first
    rw [kept] at grown
    obtain ⟨now, placedNow⟩ : ∃ now, moment.cursors[id]? = some now :=
      ⟨_, List.getElem?_eq_getElem (Nat.lt_of_lt_of_le inRange grown)⟩
    have window : moment.coming ⟨id, none⟩ = TextCursor.clusterTexts now.content := by
      simp only [Store.coming, Store.clustersOf, placedNow, Option.map_some, Option.getD_none,
        Option.getD_some]
    rw [first] at life
    exact ⟨now, placedNow, window ▸ life⟩
  · intro script step isNext
    exact Store.windows_step_of_next (Store.sound_run begunSound script) isNext

/-- A letter is removed between the beginning of a pass and its first advance, and then the cursor
is opened over another text, which a second pass comes upon. -/
theorem traversal_yields_snapshot_of_rest :
    let earlier : List Step := [⟨none, some "text", .create "ae\u0301🇩🇪".toList 0 none⟩]
    let store := (Store.run {} earlier).2
    let begun := (store.step ⟨some "text", some "pass", .traverse⟩).2
    let later : List Step :=
      [⟨some "text", none, .apply (.popFront 1)⟩, ⟨some "pass", none, .next⟩,
        ⟨some "text", none, .apply (.reopen (some "xyz".toList))⟩,
        ⟨some "text", some "other", .traverse⟩, ⟨some "other", none, .next⟩,
        ⟨some "pass", none, .next⟩, ⟨some "pass", none, .next⟩, ⟨some "pass", none, .next⟩]
    (store.find? "text" = some (.cursor 0) ∧
      store.cursors[0]? = some { source := "ae\u0301🇩🇪".toList, start := 0, size := 5 }) ∧
      begun.yields 0 later = Store.served ["e\u0301".toList, "🇩🇪".toList] 4 := by
  intro earlier store begun later
  have named : store.find? "text" = some (.cursor 0) := by decide +kernel
  have placed : store.cursors[0]? =
      some { source := "ae\u0301🇩🇪".toList, start := 0, size := 5 } := by decide +kernel
  refine ⟨⟨named, placed⟩, ?_⟩
  obtain ⟨-, -, life, -⟩ := traversal_yields_snapshot earlier later named placed (some "pass")
  have place : store.traversals.length = 0 := by decide +kernel
  have first : begun.firstAdvance? store.traversals.length later =
      some (begun.run (later.take 1)).2 := by decide +kernel
  have left : (begun.run (later.take 1)).2.cursors[0]? =
      some { source := "ae\u0301🇩🇪".toList, start := 1, size := 4 } := by decide +kernel
  have advances : (begun.yields store.traversals.length later).length = 4 := by decide +kernel
  have texts : TextCursor.clusterTexts
      (content { source := "ae\u0301🇩🇪".toList, start := 1, size := 4 }) =
        ["e\u0301".toList, "🇩🇪".toList] := by decide +kernel
  obtain ⟨now, placedNow, yielded⟩ := life _ first
  obtain rfl := Option.some.inj (left.symm.trans placedNow)
  calc begun.yields 0 later
    _ = begun.yields store.traversals.length later := by rw [place]
    _ = Store.served _ (begun.yields store.traversals.length later).length := yielded
    _ = Store.served ["e\u0301".toList, "🇩🇪".toList] 4 := by rw [advances, texts]

end TextCursor.Script
