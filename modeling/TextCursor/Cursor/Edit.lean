import TextCursor.Cursor.Basic

/-!
Contract: steps that work on one cursor.

Owns: the step type and what running a step means; the moves; the clusters of the window.

A step yields a value or fails, and leaves a cursor behind either way. A move is not checked:
each operation computes a window inside the one it had. What was computed belongs to the
current window, so every move drops it.
-/

namespace TextCursor

/-- A step that may move a cursor. -/
abbrev Edit (α : Type) := ExceptT Error (StateM Cursor) α

namespace Edit

/-- What a step yields, and the cursor it leaves behind. -/
def on {α : Type} (step : Edit α) (cursor : Cursor) : Except Error α × Cursor :=
  (ExceptT.run step).run cursor

/-- A step that fails as a computation does, and touches nothing. -/
def ofExcept {α : Type} : Except Error α → Edit α
  | .ok value => pure value
  | .error error => throw error

@[simp] theorem on_pure {α : Type} (value : α) (cursor : Cursor) :
    (pure value : Edit α).on cursor = (.ok value, cursor) := rfl

@[simp] theorem on_throw {α : Type} (error : Error) (cursor : Cursor) :
    (throw error : Edit α).on cursor = (.error error, cursor) := rfl

@[simp] theorem on_get (cursor : Cursor) :
    (get : Edit Cursor).on cursor = (.ok cursor, cursor) := rfl

@[simp] theorem on_set (cursor next : Cursor) :
    (set next : Edit Unit).on cursor = (.ok (), next) := rfl

@[simp] theorem on_modify (change : Cursor → Cursor) (cursor : Cursor) :
    (modify change : Edit Unit).on cursor = (.ok (), change cursor) := rfl

@[simp] theorem on_ofExcept {α : Type} (outcome : Except Error α) (cursor : Cursor) :
    (ofExcept outcome).on cursor = (outcome, cursor) := by
  cases outcome <;> rfl

@[simp] theorem on_bind {α β : Type} (step : Edit α) (next : α → Edit β) (cursor : Cursor) :
    (step >>= next).on cursor =
      match step.on cursor with
      | (.ok value, after) => (next value).on after
      | (.error error, after) => (.error error, after) := by
  simp only [on, ExceptT.run_bind, StateT.run_bind]
  rcases (ExceptT.run step).run cursor with ⟨_ | _, _⟩ <;> rfl

end Edit

namespace Cursor

def forget : Edit Unit := modify fun cursor => { cursor with cache := {} }

/-- Moves the window within its source. -/
def moveTo (start size : Int) : Edit Unit :=
  modify fun cursor => { cursor with start, size, cache := {} }

/-- Opens the window over the whole of a source, the present one if none is given. -/
def reopen (source : Option Text) : Edit Unit :=
  modify fun cursor =>
    let source := source.getD cursor.source
    { source, start := 0, size := source.length }

def adopt (other : Cursor) : Edit Unit :=
  set ({ source := other.source, start := other.start, size := other.size } : Cursor)

/-- The clusters of the window, computed at most once until the window moves. -/
def clusters : Edit (List Cluster) := do
  let cursor ← get
  match cursor.cache.clusters with
  | some clusters => return clusters
  | none =>
      let clusters := TextCursor.clusters cursor.content
      set { cursor with cache := { cursor.cache with clusters := some clusters } }
      return clusters

/-- The cluster at an index that is expected to exist. -/
def existing (clusters : List Cluster) (index : Int) : Except Error Cluster :=
  match (if 0 ≤ index then clusters[index.toNat]? else none) with
  | some cluster => .ok cluster
  | none => .error (.noCluster index clusters.length)

end Cursor

end TextCursor
