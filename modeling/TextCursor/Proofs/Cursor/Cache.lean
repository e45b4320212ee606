import TextCursor.Cursor.Number
import TextCursor.Cursor.Look
import TextCursor.Cursor.Pop
import TextCursor.Cursor.Predicate
import TextCursor.Cursor.Trim
import TextCursor.Proofs.Cursor.Window
import TextCursor.Token

/-!
Contract: what a cursor remembers of its window never shows.

Owns: the invariant that all that is remembered is right, the operations of a cursor that
remembers nothing and divides its window at each use, and the simulation of the latter by the
operations that use the cache.

`Mirrors` is closed under sequencing, so each operation is followed step by step. Only three
steps look at the cache; everything else is blind to it.
-/

namespace TextCursor

namespace Cursor

/-- Whatever is remembered is what would be computed for the window now. -/
structure Coherent (cursor : Cursor) : Prop where
  clusters : ∀ found ∈ cursor.cache.clusters, found = TextCursor.clusters cursor.content
  count : ∀ found ∈ cursor.cache.count, found = (TextCursor.clusters cursor.content).length
  kept : ∀ found ∈ cursor.cache.kept, found = keptRange (TextCursor.clusters cursor.content)

theorem coherent_of_cache_empty {cursor : Cursor} (empty : cursor.cache = {}) :
    cursor.Coherent := by
  constructor <;> simp [empty]

theorem coherent_bare (cursor : Cursor) : cursor.bare.Coherent := coherent_of_cache_empty rfl

/-! ## A cursor without a cache -/

namespace Uncached

/-- The clusters of the window, divided anew. -/
def clusters : Edit (List Cluster) := return TextCursor.clusters (← get).content

@[simp] theorem on_clusters (cursor : Cursor) :
    clusters.on cursor = (.ok (TextCursor.clusters cursor.content), cursor) := rfl

def clusterAt (index : Int) : Edit Text :=
  if index < 0 then return []
  else do
    match (← clusters)[index.toNat]? with
    | some cluster => return cluster.text
    | none => return []

def clusterTexts : Edit (List Text) := return (← clusters).map Cluster.text

def clusterCount : Edit Nat := return (← clusters).length

def kept : Edit (Nat × Nat) := return keptRange (← clusters)

def skipBlanks : Edit Unit := do
  let clusters ← Uncached.clusters
  let cursor ← get
  let offset : Int :=
    match clusters.find? (fun cluster => !isBlank cluster) with
    | some cluster => cluster.offset
    | none => cursor.size
  moveTo (cursor.start + offset) (cursor.size - offset)

def trim : Edit Cursor := do
  let range ← kept
  let cursor ← get
  if range.2 ≤ range.1 then .ofExcept (make cursor.source cursor.start 0)
  else do
    let clusters ← Uncached.clusters
    let first ← .ofExcept (existing clusters range.1)
    let last ← .ofExcept (existing clusters (range.2 - 1))
    .ofExcept (make cursor.source (cursor.start + first.offset) (last.stop - first.offset))

def popFront (count : Int) : Edit Cursor := do
  let cursor ← get
  if count ≤ 0 then .ofExcept (make cursor.source cursor.start 0)
  else do
    let clusters ← Uncached.clusters
    if clusters.length ≤ count then popAll
    else do
      let last ← .ofExcept (existing clusters (count - 1))
      let piece ← .ofExcept (make cursor.source cursor.start last.stop)
      moveTo (cursor.start + last.stop) (cursor.size - last.stop)
      return piece

/-- The reader of an optional cluster. -/
def token : Edit Text := do
  if Text.holdsBlank (← clusterAt 0) then return []
  else return (← popFront 1).content

end Uncached

end Cursor

namespace Edit

/-! ## Simulation -/

/-- Where the memory is right, the step answers as its twin does on the bare window, leaves the
same window, and leaves a memory that is right. -/
def Mirrors {α : Type} (step twin : Edit α) : Prop :=
  ∀ cursor : Cursor, cursor.Coherent →
    twin.on cursor.bare = ((step.on cursor).1, (step.on cursor).2.bare) ∧
      (step.on cursor).2.Coherent

/-- A step that takes no notice of the memory. -/
abbrev Blind {α : Type} (step : Edit α) : Prop := step.Mirrors step

section Combinators

variable {α β : Type}

theorem blind_pure (value : α) : Blind (pure value) := fun _ coherent => ⟨rfl, coherent⟩

theorem blind_throw (error : Error) : Blind (throw error : Edit α) :=
  fun _ coherent => ⟨rfl, coherent⟩

theorem blind_ofExcept (outcome : Except Error α) : Blind (ofExcept outcome) := by
  intro cursor coherent
  simpa using coherent

theorem mirrors_bind {step twin : Edit α} {next nextTwin : α → Edit β} (first : step.Mirrors twin)
    (later : ∀ value, (next value).Mirrors (nextTwin value)) :
    (step >>= next).Mirrors (twin >>= nextTwin) := by
  intro cursor coherent
  obtain ⟨same, coherentAfter⟩ := first cursor coherent
  rw [on_bind, on_bind, same]
  cases outcome : step.on cursor with
  | mk result after =>
      rw [outcome] at coherentAfter
      cases result with
      | ok value => exact later value after coherentAfter
      | error error => exact ⟨rfl, coherentAfter⟩

/-- A step that begins by reading the window and goes on with what it read. -/
theorem mirrors_get_bind {next nextTwin : Cursor → Edit β}
    (later : ∀ cursor, (next cursor).Mirrors (nextTwin cursor.bare)) :
    (get >>= next).Mirrors (get >>= nextTwin) := by
  intro cursor coherent
  exact later cursor cursor coherent

theorem mirrors_ite {condition : Prop} [Decidable condition]
    {left right leftTwin rightTwin : Edit α}
    (onTrue : left.Mirrors leftTwin) (onFalse : right.Mirrors rightTwin) :
    (if condition then left else right).Mirrors (if condition then leftTwin else rightTwin) := by
  split
  · exact onTrue
  · exact onFalse

end Combinators

end Edit

namespace Cursor

open Edit

/-! ## Steps that only move -/

theorem blind_moveTo (start size : Int) : Blind (moveTo start size) :=
  fun _ _ => ⟨rfl, coherent_of_cache_empty rfl⟩

theorem blind_forget : Blind forget := fun cursor _ => ⟨rfl, cursor.coherent_bare⟩

theorem blind_reopen (source : Option Text) : Blind (reopen source) :=
  fun _ _ => ⟨rfl, coherent_of_cache_empty rfl⟩

theorem blind_adopt (other : Cursor) : Blind (adopt other) :=
  fun _ _ => ⟨rfl, coherent_of_cache_empty rfl⟩

/-! ## Steps that look at the memory -/

/-- The clusters are right, and remembered afterwards in any case. -/
theorem on_clusters {cursor : Cursor} (coherent : cursor.Coherent) :
    clusters.on cursor = (.ok (TextCursor.clusters cursor.content),
      { cursor with cache :=
        { cursor.cache with clusters := some (TextCursor.clusters cursor.content) } }) := by
  obtain ⟨source, start, size, found, count, kept⟩ := cursor
  cases found with
  | none => rfl
  | some found =>
      have right : found = TextCursor.clusters (source.slice start (start + size)) :=
        coherent.clusters found rfl
      subst right
      rfl

theorem clusters_mirrors : clusters.Mirrors Uncached.clusters := by
  intro cursor coherent
  rw [on_clusters coherent]
  refine ⟨rfl, ?_, coherent.count, coherent.kept⟩
  rintro _ ⟨⟩
  rfl

theorem clusterCount_mirrors : clusterCount.Mirrors Uncached.clusterCount := by
  intro cursor coherent
  cases found : cursor.cache.count with
  | some count =>
      obtain rfl := coherent.count count found
      simp only [clusterCount, on_bind, on_get, found, on_pure]
      exact ⟨rfl, coherent⟩
  | none =>
      simp only [clusterCount, on_bind, on_get, found, on_clusters coherent, on_modify, on_pure]
      refine ⟨rfl, ?_, ?_, coherent.kept⟩
      · rintro _ ⟨⟩
        rfl
      · rintro _ ⟨⟩
        rfl

theorem kept_mirrors : kept.Mirrors Uncached.kept := by
  intro cursor coherent
  cases found : cursor.cache.kept with
  | some range =>
      obtain rfl := coherent.kept range found
      simp only [kept, on_bind, on_get, found, on_pure]
      exact ⟨rfl, coherent⟩
  | none =>
      simp only [kept, on_bind, on_get, found, on_clusters coherent, on_modify, on_pure]
      refine ⟨rfl, ?_, coherent.count, ?_⟩
      · rintro _ ⟨⟩
        rfl
      · rintro _ ⟨⟩
        rfl

/-! ## Operations on clusters -/

theorem clusterAt_mirrors (index : Int) : (clusterAt index).Mirrors (Uncached.clusterAt index) := by
  apply mirrors_ite (blind_pure _)
  apply mirrors_bind clusters_mirrors
  intro clusters
  cases clusters[index.toNat]? with
  | none => exact blind_pure _
  | some cluster => exact blind_pure _

theorem clusterTexts_mirrors : clusterTexts.Mirrors Uncached.clusterTexts := by
  apply mirrors_bind clusters_mirrors
  intro clusters
  exact blind_pure _

/-- The clusters that a pass over the cursor comes upon. -/
def listed (cursor : Cursor) : Except Error (List Text) := (clusterTexts.on cursor).1

theorem listed_eq {cursor : Cursor} (coherent : cursor.Coherent) :
    cursor.listed = .ok (TextCursor.clusterTexts cursor.content) := by
  have mirrored := (clusterTexts_mirrors cursor coherent).1
  have twin : Uncached.clusterTexts.on cursor.bare =
      (.ok (TextCursor.clusterTexts cursor.content), cursor.bare) := by
    simp only [Uncached.clusterTexts, on_bind, Uncached.on_clusters, on_pure, bare_content,
      TextCursor.clusters, map_text_clustersAt]
  rw [twin] at mirrored
  exact (congrArg Prod.fst mirrored).symm

theorem skipBlanks_mirrors : skipBlanks.Mirrors Uncached.skipBlanks := by
  apply mirrors_bind clusters_mirrors
  intro clusters
  apply mirrors_get_bind
  intro cursor
  exact blind_moveTo _ _

theorem trim_mirrors : trim.Mirrors Uncached.trim := by
  apply mirrors_bind kept_mirrors
  intro range
  apply mirrors_get_bind
  intro cursor
  apply mirrors_ite
  · -- Nothing is kept.
    exact blind_ofExcept _
  · apply mirrors_bind clusters_mirrors
    intro clusters
    apply mirrors_bind (blind_ofExcept _)
    intro first
    apply mirrors_bind (blind_ofExcept _)
    intro last
    exact blind_ofExcept _

/-! ## Removals -/

/-- How every removal ends: it makes the piece, moves past it, and yields it. -/
theorem blind_yieldPast (made : Except Error Cursor) (start size : Int) :
    Blind (do
      let piece ← .ofExcept made
      moveTo start size
      return piece) := by
  apply mirrors_bind (blind_ofExcept _)
  intro piece
  apply mirrors_bind (blind_moveTo _ _)
  intro _
  exact blind_pure piece

theorem blind_popAll : Blind popAll := by
  apply mirrors_get_bind
  intro cursor
  exact blind_yieldPast _ _ _

theorem popFront_mirrors (count : Int) : (popFront count).Mirrors (Uncached.popFront count) := by
  apply mirrors_get_bind
  intro cursor
  apply mirrors_ite (blind_ofExcept _)
  apply mirrors_bind clusters_mirrors
  intro clusters
  apply mirrors_ite blind_popAll
  apply mirrors_bind (blind_ofExcept _)
  intro last
  exact blind_yieldPast _ _ _

theorem blind_popBack (count : Int) : Blind (popBack count) := by
  apply mirrors_get_bind
  intro cursor
  apply mirrors_ite (blind_ofExcept _)
  apply mirrors_ite blind_popAll
  apply mirrors_bind (blind_ofExcept _)
  intro first
  exact blind_yieldPast _ _ _

theorem blind_popSplit (split : Split) : Blind (popSplit split) := by
  apply mirrors_get_bind
  intro cursor
  exact blind_yieldPast _ _ _

@[simp] theorem bare_findField (cursor : Cursor) (delimiter : Text) :
    cursor.bare.findField delimiter = cursor.findField delimiter := rfl

theorem blind_popField (delimiter : Text) : Blind (popField delimiter) := by
  apply mirrors_get_bind
  intro cursor
  simp only [bare_findField]
  cases cursor.findField delimiter with
  | none => exact blind_popAll
  | some split => exact blind_popSplit split

theorem blind_popField? (delimiter : Text) : Blind (popField? delimiter) := by
  apply mirrors_get_bind
  intro cursor
  simp only [bare_findField]
  cases cursor.findField delimiter with
  | none => exact blind_pure none
  | some split =>
      apply mirrors_bind (blind_popSplit split)
      intro piece
      exact blind_pure (some piece)

theorem blind_popBefore (needle : Text) : Blind (popBefore needle) := by
  apply mirrors_get_bind
  intro cursor
  exact mirrors_ite blind_popAll (blind_popSplit _)

theorem blind_popBefore? (needle : Text) : Blind (popBefore? needle) := by
  apply mirrors_get_bind
  intro cursor
  simp only [bare_source, bare_start, bare_stop]
  cases Text.findBefore? (cursor.source.drop cursor.start.toNat) needle cursor.stop
      cursor.start with
  | none => exact blind_pure none
  | some position =>
      apply mirrors_bind (blind_popSplit _)
      intro piece
      exact blind_pure (some piece)

/-! ## Predicates, numbers and tokens -/

theorem blind_popFrontWhile (accepts : Predicate) : Blind (popFrontWhile accepts) := by
  apply mirrors_get_bind
  intro cursor
  apply mirrors_bind (blind_ofExcept _)
  intro accepted
  exact blind_yieldPast _ _ _

theorem blind_popBackWhile (accepts : Predicate) : Blind (popBackWhile accepts) := by
  apply mirrors_get_bind
  intro cursor
  apply mirrors_bind (blind_ofExcept _)
  intro accepted
  exact blind_yieldPast _ _ _

theorem blind_popReading {α : Type} (reading : Numeral.Reading α) : Blind (popReading reading) := by
  apply mirrors_ite
  · apply mirrors_get_bind
    intro cursor
    apply mirrors_bind (blind_moveTo _ _)
    intro _
    exact blind_pure (some reading.value)
  · exact blind_pure none

theorem blind_popInt? : Blind popInt? := by
  apply mirrors_get_bind
  intro cursor
  exact mirrors_bind (blind_ofExcept _) blind_popReading

theorem blind_popDecimal? : Blind popDecimal? := by
  apply mirrors_get_bind
  intro cursor
  exact mirrors_bind (blind_ofExcept _) blind_popReading

theorem blind_required {α : Type} (kind : Text) {reader : Edit (Option α)} (blind : Blind reader) :
    Blind (Token.required kind reader) := by
  apply mirrors_bind blind
  intro found
  cases found with
  | none =>
      apply mirrors_get_bind
      intro cursor
      exact blind_throw _
  | some value => exact blind_pure value

theorem blind_word : Blind Token.word := by
  apply mirrors_bind (blind_popFrontWhile _)
  intro piece
  exact blind_pure piece.content

theorem token_mirrors : Token.cluster.Mirrors Uncached.token := by
  apply mirrors_bind (clusterAt_mirrors 0)
  intro first
  apply mirrors_ite
  · exact blind_pure []
  · apply mirrors_bind (popFront_mirrors 1)
    intro piece
    exact blind_pure piece.content

end Cursor

end TextCursor
