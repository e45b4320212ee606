import TextCursor.Proofs.Script.Reachable

/-!
Contract: conversations with one cursor, and that its memory never shows in them.

Owns: requests one after another with every answer and every window, the same conversation with
a cursor that remembers nothing, and that a read or a dropped memory put in anywhere changes no
later answer.

Does not own: the simulation of single operations.
-/

namespace TextCursor

namespace Edit

/-! ## Steps that stay -/

/-- A step that leaves the cursor as it is. -/
def Still {α : Type} (step : Edit α) : Prop := ∀ cursor : Cursor, (step.on cursor).2 = cursor

variable {α β : Type}

theorem still_pure (value : α) : Still (pure value) := fun _ => rfl

theorem still_get : Still (get : Edit Cursor) := fun _ => rfl

theorem still_ofExcept (outcome : Except Error α) : Still (ofExcept outcome) := by
  intro cursor
  rw [on_ofExcept]

theorem still_bind {step : Edit α} {next : α → Edit β} (first : step.Still)
    (later : ∀ value, (next value).Still) : (step >>= next).Still := by
  intro cursor
  have stays := first cursor
  rw [on_bind]
  cases ran : step.on cursor with
  | mk result after =>
      rw [ran] at stays
      subst stays
      cases result with
      | ok value => exact later value after
      | error error => rfl

theorem still_ite {condition : Prop} [Decidable condition] {left right : Edit α}
    (onTrue : left.Still) (onFalse : right.Still) :
    (if condition then left else right).Still := by
  split
  · exact onTrue
  · exact onFalse

end Edit

namespace Script

open Edit Cursor

/-! ## Reads -/

/-- The operations that leave the window where it is: all reads, the trims that make a new
cursor, and dropping the memory. -/
def Operation.isRead : Operation → Bool
  | .source | .start | .size | .content | .placement | .written | .isNonEmpty | .clusterTexts
  | .clusterCount | .clusterAt _ | .sub _ _ | .copy | .forget | .trimBack | .trim
  | .takeFrontWhile _ | .takeBackWhile _ | .headInt | .headDecimal | .search .offsetOf _
  | .search .reads _ | .search .readsIgnoringCase _ | .search .beginsWith _
  | .search .endsWith _ => true
  | _ => false

theorem still_answer {α : Type} (value : α → Value) {step : Edit α} (still : step.Still) :
    (answer value step).Still := by
  apply still_bind still
  intro yielded
  exact still_pure _

theorem still_ask (value : Cursor → Value) : (ask value).Still := still_answer value still_get

theorem still_computed {α : Type} (value : α → Value) (compute : Cursor → Except Error α) :
    Still (do answer value (.ofExcept (compute (← get)))) := by
  apply still_bind still_get
  intro cursor
  exact still_answer value (still_ofExcept _)

theorem still_clusters : Still Uncached.clusters := fun _ => rfl

theorem still_clusterAt (index : Int) : (Uncached.clusterAt index).Still := by
  intro cursor
  rw [on_clusterAt]

theorem still_kept : Still Uncached.kept := by
  apply still_bind still_clusters
  intro clusters
  exact still_pure _

theorem still_trim : Still Uncached.trim := by
  apply still_bind still_kept
  intro range
  apply still_bind still_get
  intro cursor
  apply still_ite
  · exact still_ofExcept _
  · apply still_bind still_clusters
    intro clusters
    apply still_bind (still_ofExcept _)
    intro first
    apply still_bind (still_ofExcept _)
    intro last
    exact still_ofExcept _

/-- A read leaves nothing but a cursor without a memory. -/
theorem Operation.runUncached_of_isRead {operation : Operation} (reads : operation.isRead)
    (cursor : Cursor) : (operation.runUncached.on cursor.bare).2 = cursor.bare := by
  cases operation with
  | source | start | size | content | placement | written | isNonEmpty =>
      exact still_ask _ cursor.bare
  | clusterTexts | clusterCount | forget => rfl
  | clusterAt index => exact still_answer _ (still_clusterAt index) cursor.bare
  | sub | copy | trimBack | takeFrontWhile | takeBackWhile | headInt | headDecimal =>
      exact still_computed _ _ cursor.bare
  | trim => exact still_answer _ still_trim cursor.bare
  | search kind operand =>
      cases kind with
      | offsetOf | reads | readsIgnoringCase | beginsWith | endsWith =>
          exact still_ask _ cursor.bare
      | popBefore | popBefore? => contradiction
  | reopen | skipBlanks | popFrontWhile | popBackWhile | popFront | popBack | popField | popField?
  | popInt? | popDecimal? | tokenInt | tokenDecimal | tokenWord | tokenCluster => contradiction

/-! ## Conversations -/

/-- What can be asked of one cursor: an operation, or to take over the window of another. -/
inductive Request where
  | run (operation : Operation)
  | adopt (other : Cursor)

namespace Request

def edit : Request → Edit Reply
  | run operation => operation.run
  | adopt other => Script.adopt other

/-- The request to a cursor that remembers nothing. -/
def editUncached : Request → Edit Reply
  | run operation => operation.runUncached
  | adopt other => Script.adopt other

theorem edit_mirrors (request : Request) : request.edit.Mirrors request.editUncached := by
  cases request with
  | run operation => exact operation.run_mirrors
  | adopt other => exact blind_adopt other

end Request

/-- Requests one after another: each answer, and the cursor after it. -/
def converse (respond : Request → Edit Reply) (cursor : Cursor) :
    List Request → List (Except Error Reply × Cursor)
  | [] => []
  | request :: later =>
      let result := (respond request).on cursor
      result :: converse respond result.2 later

/-- The answers, and the windows without what is remembered of them. -/
def shown (cursor : Cursor) (requests : List Request) : List (Except Error Reply × Cursor) :=
  (converse Request.edit cursor requests).map fun result => (result.1, result.2.bare)

/-- A cursor that remembers nothing answers the same and has the same windows throughout. -/
theorem shown_eq {cursor : Cursor} (coherent : cursor.Coherent) (requests : List Request) :
    shown cursor requests = converse Request.editUncached cursor.bare requests := by
  induction requests generalizing cursor with
  | nil => rfl
  | cons request later inductionHypothesis =>
      obtain ⟨same, coherentAfter⟩ := request.edit_mirrors cursor coherent
      have rest := inductionHypothesis coherentAfter
      show _ :: shown _ later = _ :: _
      rw [rest, same]

/-- What is shown depends on the window alone. -/
theorem shown_congr {left right : Cursor} (leftCoherent : left.Coherent)
    (rightCoherent : right.Coherent) (same : left.bare = right.bare) (requests : List Request) :
    shown left requests = shown right requests := by
  rw [shown_eq leftCoherent, shown_eq rightCoherent, same]

/-- A read in between changes nothing that is shown later. -/
theorem shown_insert_read {cursor : Cursor} (coherent : cursor.Coherent) {read : Operation}
    (reads : read.isRead) (before after : List Request) :
    (shown cursor (before ++ .run read :: after)).eraseIdx before.length =
      shown cursor (before ++ after) := by
  induction before generalizing cursor with
  | nil =>
      obtain ⟨same, coherentAfter⟩ := read.run_mirrors cursor coherent
      have stays : (read.run.on cursor).2.bare = cursor.bare := by
        rw [← read.runUncached_of_isRead reads cursor, same]
      exact shown_congr coherentAfter coherent stays after
  | cons request later inductionHypothesis =>
      have rest := inductionHypothesis (request.edit_mirrors cursor coherent).2
      show _ :: (shown _ (later ++ .run read :: after)).eraseIdx later.length =
        _ :: shown _ (later ++ after)
      rw [rest]

/-- Whatever a cursor that a script made remembers is what would be computed for its window now.
No conversation with it tells whether it remembers anything: a cursor that divides its window
anew at each use answers the same and has the same windows, and with a read or a dropped memory
put in anywhere everything else stays as it is. -/
theorem Reachable.memory_never_shows {cursor : Cursor} (reachable : Reachable cursor) :
    cursor.Coherent ∧
      (∀ requests, shown cursor requests = converse Request.editUncached cursor.bare requests) ∧
      ∀ before (read : Operation) after, read.isRead →
        (shown cursor (before ++ .run read :: after)).eraseIdx before.length =
          shown cursor (before ++ after) := by
  have coherent := reachable.sound.coherent
  refine ⟨coherent, shown_eq coherent, ?_⟩
  intro before read after reads
  exact shown_insert_read coherent reads before after

/-- A cursor that remembers its clusters and which of them a trim keeps: a blank one, a letter
under an accent, and a flag of two regional indicators. -/
theorem memory_never_shows_after_trim :
    let cursor : Cursor :=
      { source := " e\u0301🇩🇪".toList, start := 0, size := 5,
        cache := { clusters := some [⟨" ".toList, 0⟩, ⟨"e\u0301".toList, 1⟩, ⟨"🇩🇪".toList, 3⟩],
                   kept := some (1, 3) } }
    Reachable cursor ∧ cursor.Coherent ∧
      (∀ requests, shown cursor requests = converse Request.editUncached cursor.bare requests) ∧
      ∀ before (read : Operation) after, read.isRead →
        (shown cursor (before ++ .run read :: after)).eraseIdx before.length =
          shown cursor (before ++ after) := by
  intro cursor
  let script : List Step :=
    [⟨none, some "text", .create " e\u0301🇩🇪".toList 0 none⟩, ⟨some "text", none, .apply .trim⟩]
  have placed : (Store.run {} script).2.cursors[0]? = some cursor := by decide +kernel
  have reachable : Reachable cursor := ⟨script, List.mem_of_getElem? placed⟩
  exact ⟨reachable, reachable.memory_never_shows⟩

end Script

end TextCursor
