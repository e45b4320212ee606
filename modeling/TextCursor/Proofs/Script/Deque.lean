import TextCursor.Proofs.Script.Reachable

/-!
Contract: a cursor as a double-ended queue of the clusters of its window.

Owns: the queue, removals from either end in any order, and that each of them yields and leaves
what the queue gives up and keeps.

Each removal divides what is left of the window anew, without the text that was cut away. That
nothing shifts is due to the division of a part of a text.
-/

namespace TextCursor.Script

open Edit Cursor

inductive Side where
  | front
  | back
deriving DecidableEq, Repr

/-- A number of items to be removed from one end. -/
structure Removal where
  side : Side
  count : Int
deriving DecidableEq, Repr

namespace Removal

/-- The removal as an operation of a cursor. -/
def edit : Removal → Edit Cursor
  | ⟨.front, count⟩ => popFront count
  | ⟨.back, count⟩ => popBack count

/-- What a queue gives up, in order, and what it keeps: none are given up if the count is not
positive, and all if there are no more. -/
def serve {α : Type} (items : List α) : Removal → List α × List α
  | ⟨.front, count⟩ => (items.take count.toNat, items.drop count.toNat)
  | ⟨.back, count⟩ =>
      (items.drop (items.length - count.toNat), items.take (items.length - count.toNat))

end Removal

/-- Removals one after another from a queue. -/
def serveEach {α : Type} (items : List α) : List Removal → List (List α × List α)
  | [] => []
  | removal :: later =>
      let served := removal.serve items
      served :: serveEach served.2 later

/-- Removals one after another from a cursor: each yielded cursor, and the cursor after it. -/
def popEach (cursor : Cursor) : List Removal → List (Except Error Cursor × Cursor)
  | [] => []
  | removal :: later =>
      let result := removal.edit.on cursor
      result :: popEach result.2 later

/-- What passes over the yielded cursor and over the one that is left come upon. -/
def listedBoth (result : Except Error Cursor × Cursor) :
    Except Error (List Text) × Except Error (List Text) :=
  (result.1.bind listed, result.2.listed)

/-- One removal does what the queue does, and leaves a sound cursor. -/
theorem Removal.edit_serves {cursor : Cursor} (sound : cursor.Sound) (removal : Removal) :
    ∃ piece rest, removal.edit.on cursor = (.ok piece, rest) ∧ piece.Sound ∧ rest.Sound ∧
      (TextCursor.clusterTexts piece.content, TextCursor.clusterTexts rest.content) =
        removal.serve (TextCursor.clusterTexts cursor.content) := by
  obtain ⟨side, count⟩ := removal
  cases side with
  | front =>
      have inside := sound.inside
      have fits := clusterOffset_le cursor.content count.toNat
      have front := inside.holds_front fits
      have back := inside.holds_back fits
      obtain ⟨rest, ran, restHolds⟩ :=
        Mirrors.holds (popFront_mirrors count) sound.coherent (on_popFront inside count) back
      refine ⟨_, rest, ran, front.toSound, restHolds.toSound, ?_⟩
      rw [front.content, restHolds.content, clusterTexts_take_clusterOffset,
        clusterTexts_drop_clusterOffset]
      rfl
  | back =>
      obtain ⟨piece, rest, ran, pieceHolds, restHolds⟩ := popBack_holds sound count rfl
      refine ⟨piece, rest, ran, pieceHolds.toSound, restHolds.toSound, ?_⟩
      rw [pieceHolds.content, restHolds.content, clusterTexts_take_clusterOffset,
        clusterTexts_drop_clusterOffset]
      rfl

theorem map_listedBoth_popEach {cursor : Cursor} (sound : cursor.Sound)
    (removals : List Removal) :
    (popEach cursor removals).map listedBoth =
      (serveEach (TextCursor.clusterTexts cursor.content) removals).map
        fun served => (.ok served.1, .ok served.2) := by
  induction removals generalizing cursor with
  | nil => rfl
  | cons removal later inductionHypothesis =>
      obtain ⟨piece, rest, ran, pieceSound, restSound, served⟩ := removal.edit_serves sound
      have both : listedBoth (.ok piece, rest) =
          (.ok (TextCursor.clusterTexts piece.content),
            .ok (TextCursor.clusterTexts rest.content)) :=
        Prod.ext (listed_eq pieceSound.coherent) (listed_eq restSound.coherent)
      have rest := inductionHypothesis restSound
      simp only [popEach, serveEach, List.map_cons, ran, both, ← served, rest]

/-- From any cursor that a script made, in whatever state, removals from either end in any order
yield what a queue of the clusters gives up and leave what it keeps. The clusters are the pieces
that the boundary rules call for in the window at the beginning. -/
theorem Reachable.popEach_serves {cursor : Cursor} (reachable : Reachable cursor)
    {graphemes : List Text} (divides : Grapheme.IsDivision cursor.content graphemes)
    (removals : List Removal) :
    cursor.listed = .ok graphemes ∧
      (popEach cursor removals).map listedBoth =
        (serveEach graphemes removals).map fun served => (.ok served.1, .ok served.2) := by
  have sound := reachable.sound
  rw [divides.eq_clusterTexts]
  exact ⟨listed_eq sound.coherent, map_listedBoth_popEach sound removals⟩

/-- A window that begins between the two halves of a flag, so that the next flag is cut in two as
well: its first half completes the one before, and its second half is left alone. -/
theorem popEach_serves_halved_flags :
    let cursor : Cursor := { source := "🇩🇪🇫🇷👩\u200D🔬".toList, start := 1, size := 6 }
    let graphemes : List Text := ["🇪🇫".toList, "🇷".toList, "👩\u200D🔬".toList]
    Reachable cursor ∧ Grapheme.IsDivision cursor.content graphemes ∧
      cursor.listed = .ok graphemes ∧
      (popEach cursor [⟨.back, 1⟩, ⟨.front, -3⟩, ⟨.front, 1⟩, ⟨.back, 7⟩]).map listedBoth =
        [(.ok ["👩\u200D🔬".toList], .ok ["🇪🇫".toList, "🇷".toList]),
          (.ok [], .ok ["🇪🇫".toList, "🇷".toList]), (.ok ["🇪🇫".toList], .ok ["🇷".toList]),
          (.ok ["🇷".toList], .ok [])] := by
  intro cursor graphemes
  let script : List Step :=
    [⟨none, some "text", .create "🇩🇪🇫🇷👩\u200D🔬".toList 0 none⟩,
      ⟨some "text", none, .apply (.sub 1 none)⟩]
  have placed : (Store.run {} script).2.cursors[1]? = some cursor := by decide +kernel
  have reachable : Reachable cursor := ⟨script, List.mem_of_getElem? placed⟩
  have divided : TextCursor.clusterTexts cursor.content = graphemes := by decide +kernel
  have divides : Grapheme.IsDivision cursor.content graphemes :=
    divided ▸ Grapheme.isDivision_clusterTexts cursor.content
  exact ⟨reachable, divides, reachable.popEach_serves divides _⟩

end TextCursor.Script
