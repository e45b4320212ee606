import TextCursor.Proofs.Cursor.Cache
import TextCursor.Script.Operation

/-!
Contract: what a script can ask of one cursor, asked of a cursor that remembers nothing.

Owns: the operations as they are without a memory, and that every operation mirrors its twin.

Does not own: runs of several operations, and stores.
-/

namespace TextCursor.Script

open Edit Cursor

section Replies

variable {α : Type}

theorem answer_mirrors (value : α → Value) {step twin : Edit α} (mirrors : step.Mirrors twin) :
    (answer value step).Mirrors (answer value twin) := by
  apply mirrors_bind mirrors
  intro yielded
  exact blind_pure _

theorem attempt_mirrors (value : α → Value) {step twin : Edit (Option α)}
    (mirrors : step.Mirrors twin) : (attempt value step).Mirrors (attempt value twin) := by
  apply mirrors_bind mirrors
  intro found
  exact blind_pure _

/-- A read that takes no notice of the memory. -/
theorem blind_ask {value : Cursor → Value} (bare : ∀ cursor, value cursor.bare = value cursor) :
    Blind (ask value) := by
  apply mirrors_get_bind
  intro cursor
  rw [bare]
  exact blind_pure _

theorem blind_askCursor {result : Cursor → Except Error Cursor}
    (bare : ∀ cursor, result cursor.bare = result cursor) : Blind (askCursor result) := by
  apply mirrors_get_bind
  intro cursor
  rw [bare]
  exact answer_mirrors _ (blind_ofExcept _)

theorem blind_search (search : Search) (needle : Text) : Blind (search.run needle) := by
  cases search with
  | offsetOf | reads | readsIgnoringCase | beginsWith | endsWith => exact blind_ask fun _ => rfl
  | popBefore => exact answer_mirrors _ (blind_popBefore needle)
  | popBefore? => exact attempt_mirrors _ (blind_popBefore? needle)

theorem blind_adopt (other : Cursor) : Blind (adopt other) :=
  answer_mirrors _ (Cursor.blind_adopt other)

end Replies

namespace Operation

/-- The operation on a cursor that remembers nothing. Only these operations look at the memory;
the others are the same for both. -/
def runUncached : Operation → Edit Reply
  | clusterTexts => answer .texts Uncached.clusterTexts
  | clusterCount => answer (fun count => .int count) Uncached.clusterCount
  | clusterAt index => answer .text (Uncached.clusterAt index)
  | skipBlanks => answer (fun _ => .self) Uncached.skipBlanks
  | trim => answer .cursor Uncached.trim
  | popFront count => answer .cursor (Uncached.popFront count)
  | tokenCluster => answer .text Uncached.token
  | operation => operation.run

theorem run_mirrors (operation : Operation) : operation.run.Mirrors operation.runUncached := by
  cases operation with
  | source | start | size | content | placement | written | isNonEmpty =>
      exact blind_ask fun _ => rfl
  | clusterTexts => exact answer_mirrors _ clusterTexts_mirrors
  | clusterCount =>
      -- The count becomes an integer before it is answered.
      apply answer_mirrors
      apply mirrors_bind clusterCount_mirrors
      intro count
      exact blind_pure _
  | clusterAt index => exact answer_mirrors _ (clusterAt_mirrors index)
  | sub | copy | trimBack | takeFrontWhile | takeBackWhile => exact blind_askCursor fun _ => rfl
  | forget => exact answer_mirrors _ blind_forget
  | reopen source => exact answer_mirrors _ (blind_reopen source)
  | skipBlanks => exact answer_mirrors _ skipBlanks_mirrors
  | trim => exact answer_mirrors _ trim_mirrors
  | popFrontWhile accepts => exact answer_mirrors _ (blind_popFrontWhile accepts)
  | popBackWhile accepts => exact answer_mirrors _ (blind_popBackWhile accepts)
  | popFront count => exact answer_mirrors _ (popFront_mirrors count)
  | popBack count => exact answer_mirrors _ (blind_popBack count)
  | popField delimiter => exact answer_mirrors _ (blind_popField delimiter)
  | popField? delimiter => exact attempt_mirrors _ (blind_popField? delimiter)
  | headInt | headDecimal =>
      apply mirrors_get_bind
      intro cursor
      exact answer_mirrors _ (blind_ofExcept _)
  | popInt? => exact attempt_mirrors _ blind_popInt?
  | popDecimal? => exact attempt_mirrors _ blind_popDecimal?
  | tokenInt => exact answer_mirrors _ (blind_required _ blind_popInt?)
  | tokenDecimal => exact answer_mirrors _ (blind_required _ blind_popDecimal?)
  | tokenWord => exact answer_mirrors _ blind_word
  | tokenCluster => exact answer_mirrors _ token_mirrors
  | search kind operand => exact blind_search kind operand

end Operation

end TextCursor.Script
