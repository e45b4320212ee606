import TextCursor.Proofs.Script.Aliasing

/-!
Contract: how the searches for a needle of code points compare.

Owns: that both removals before a needle go by the offset that is told of it, except that one of
them does not see a needle which reaches the end of the window; and that this is so of every
needle that a script can name, the text of the searched cursor itself included.

Does not own: where a needle occurs in a text.
-/

namespace TextCursor

namespace Cursor

open Edit

variable {cursor : Cursor} {needle : Text}

/-- An offset is told if the needle is found there, and a negative one if it is not found. -/
theorem offsetOf_eq (cursor : Cursor) (needle : Text) :
    (∃ offset, cursor.content.find? needle = some offset ∧ cursor.offsetOf needle = offset) ∨
      cursor.content.find? needle = none ∧ cursor.offsetOf needle = -1 := by
  unfold offsetOf
  cases cursor.content.find? needle with
  | none => exact Or.inr ⟨rfl, rfl⟩
  | some offset => exact Or.inl ⟨offset, rfl, rfl⟩

/-- The removal that compares every position goes by the offset. -/
theorem on_popBefore?_offsetOf (inside : cursor.Inside) (needle : Text) :
    (popBefore? needle).on cursor =
      if 0 ≤ cursor.offsetOf needle then
        (.ok (some (cursor.windowAt cursor.start (cursor.offsetOf needle))),
          cursor.windowAt (cursor.start + cursor.offsetOf needle + needle.length)
            (cursor.size - cursor.offsetOf needle - needle.length))
      else (.ok none, cursor) := by
  rw [on_popBefore? inside]
  rcases cursor.offsetOf_eq needle with ⟨offset, found, told⟩ | ⟨missing, told⟩
  · have fits := Text.find?_add_length_le found
    rw [found, told, if_pos (Int.natCast_nonneg offset), ← part_front, ← inside.part_rest fits]
  · rw [missing, told]
    rfl

/-- The other removal does so too where the needle does not reach the end of the window. -/
theorem on_popBefore_offsetOf (inside : cursor.Inside) (needle : Text) :
    (popBefore needle).on cursor =
      if 0 ≤ cursor.offsetOf needle ∧ cursor.offsetOf needle + needle.length < cursor.size then
        (.ok (cursor.windowAt cursor.start (cursor.offsetOf needle)),
          cursor.windowAt (cursor.start + cursor.offsetOf needle + needle.length)
            (cursor.size - cursor.offsetOf needle - needle.length))
      else (.ok (cursor.windowAt cursor.start cursor.size),
        cursor.windowAt (cursor.start + cursor.size) 0) := by
  rw [on_popBefore inside]
  by_cases empty : cursor.content = []
  · -- What is yielded of an empty window is all of it, whether the needle is empty or not.
    have zero : cursor.size = 0 := by
      rw [inside.size_eq, empty]
      rfl
    have noRoom : ¬(0 ≤ cursor.offsetOf needle ∧
        cursor.offsetOf needle + needle.length < cursor.size) := by omega
    rw [if_neg noRoom, zero, empty]
    cases needle with
    | nil => simp [Text.find?, part, windowAt]
    | cons c rest => simp [Text.find?, part, windowAt, bare, zero]
  · rw [Text.find?_dropLast empty]
    rcases cursor.offsetOf_eq needle with ⟨offset, found, told⟩ | ⟨missing, told⟩
    · have fits := Text.find?_add_length_le found
      have reaches : (0 ≤ (offset : Int) ∧ (offset : Int) + needle.length < cursor.size) ↔
          offset + needle.length < cursor.content.length := by
        rw [inside.size_eq]
        omega
      rw [found, told, Option.filter_some]
      by_cases room : offset + needle.length < cursor.content.length
      · rw [if_pos (decide_eq_true room), if_pos (reaches.mpr room), ← part_front,
          ← inside.part_rest fits]
      · rw [if_neg (by simpa using room), if_neg (mt reaches.mp room), ← inside.part_end]
        rfl
    · rw [missing, told, ← inside.part_end]
      rfl

end Cursor

namespace Script

open Edit Cursor

namespace Store

/-- A step replies, and leaves a cursor at a place. -/
structure Ends (store : Store) (step : Step) (id : Nat) (reply : Reply) (left : Cursor) :
    Prop where
  replied : (store.step step).1.reply = .ok reply
  leaves : (store.step step).2.cursors[id]? = some left

/-- What a step replied is entered behind all cursors that there are. -/
theorem cursors_enterReply (store : Store) (name : Option String) (id : Nat) (reply : Reply) :
    store.cursors <+: (store.enterReply name id reply).cursors := by
  have entered (value : Value) : store.cursors <+: (store.enter name id value).cursors := by
    unfold enter
    split
    · rw [cursors_bind]
      exact List.prefix_append _ _
    · rw [cursors_bind]
    · exact List.prefix_rfl
  unfold enterReply
  split
  · exact entered _
  · exact entered _
  · exact List.prefix_rfl

variable {store : Store} {target : String} {operand : Operand} {id : Nat} {cursor : Cursor}
  {needle : Text}

/-- A search on a named cursor ends as it does on the cursor alone. -/
theorem ends_search (numbered : store.cursorId? target = some id)
    (placed : store.cursors[id]? = some cursor) (means : store.operand? operand = some needle)
    (result : Option String) {search : Search} {reply : Reply} {left : Cursor}
    (ran : (search.run needle).on cursor = (.ok reply, left)) :
    store.Ends ⟨some target, result, .search search operand⟩ id reply left := by
  let step : Step := ⟨some target, result, .search search operand⟩
  have found : store.cursor? target = some cursor := by
    rw [cursor?, numbered, Option.bind_some, placed]
  have executed : store.execute step =
      (.ok reply,
        enterReply { store with cursors := store.cursors.set id left } result id reply) := by
    simp only [step, execute, numbered, found, executeOn, means, perform, edit, ran]
  obtain ⟨inRange, -⟩ := List.getElem?_eq_some_iff.mp placed
  obtain ⟨added, whole⟩ :=
    cursors_enterReply { store with cursors := store.cursors.set id left } result id reply
  constructor
  · show (store.execute step).1 = .ok reply
    rw [executed]
  · show (store.execute step).2.cursors[id]? = some left
    have inSet : id < (store.cursors.set id left).length := by rwa [List.length_set]
    rw [executed]
    dsimp only
    rw [← whole, List.getElem?_append_left inSet, List.getElem?_set_self inRange]

end Store

/-- Whatever a script did before, the three searches of a cursor for a needle agree. The needle may
be a text or the text of a cursor, the searched one included. The offset that is told is that of the
leftmost occurrence. One removal goes by it. The other one does so too unless the needle is missing
or reaches the end of the window, and then it yields the whole window. -/
theorem searches_agree (earlier : List Step) {target : String} {operand : Operand} {id : Nat}
    {cursor : Cursor} {needle : Text}
    (numbered : (Store.run {} earlier).2.cursorId? target = some id)
    (placed : (Store.run {} earlier).2.cursors[id]? = some cursor)
    (means : (Store.run {} earlier).2.operand? operand = some needle) (result : Option String) :
    let store := (Store.run {} earlier).2
    let found := cursor.offsetOf needle
    let width : Int := needle.length
    let ends (search : Search) :=
      store.Ends ⟨some target, result, .search search operand⟩ id
    let piece := cursor.windowAt cursor.start found
    let rest := cursor.windowAt (cursor.start + found + width) (cursor.size - found - width)
    ends .offsetOf (.value (.int found)) cursor ∧
      (found = -1 ∧ ¬needle <:+: cursor.content ∨
        ∃ offset : Nat, found = offset ∧ cursor.content.IsLeftmost needle offset) ∧
      (0 ≤ found → ends .popBefore? (.outcome (.found (.cursor piece))) rest) ∧
      (found < 0 → ends .popBefore? (.outcome .missing) cursor) ∧
      (0 ≤ found ∧ found + width < cursor.size → ends .popBefore (.value (.cursor piece)) rest) ∧
      (¬(0 ≤ found ∧ found + width < cursor.size) →
        ends .popBefore (.value (.cursor (cursor.windowAt cursor.start cursor.size)))
          (cursor.windowAt (cursor.start + cursor.size) 0)) := by
  intro store found width ends piece rest
  have sound := Store.sound_run Store.sound_empty earlier
  have inside := (sound cursor (List.mem_of_getElem? placed)).inside
  have ends_of {search : Search} {reply : Reply} {left : Cursor}
      (ran : (search.run needle).on cursor = (.ok reply, left)) : ends search reply left :=
    Store.ends_search numbered placed means result ran
  have attempted := on_popBefore?_offsetOf inside needle
  have required := on_popBefore_offsetOf inside needle
  refine ⟨ends_of rfl, ?_, ?_, ?_, ?_, ?_⟩
  · rcases cursor.offsetOf_eq needle with ⟨offset, here, told⟩ | ⟨missing, told⟩
    · exact Or.inr ⟨offset, told, Text.find?_eq_some_iff.mp here⟩
    · exact Or.inl ⟨told, Text.find?_eq_none_iff.mp missing⟩
  · intro occurs
    rw [if_pos occurs] at attempted
    exact ends_of (on_attempt .cursor attempted)
  · intro missing
    rw [if_neg (Int.not_le.mpr missing)] at attempted
    exact ends_of (on_attempt .cursor attempted)
  · intro room
    rw [if_pos room] at required
    exact ends_of (on_answer .cursor required)
  · intro noRoom
    rw [if_neg noRoom] at required
    exact ends_of (on_answer .cursor required)

/-- The needle is the very cursor that is searched, under its other name. It stands at the front
and reaches the end, so one removal yields nothing and the other all; both leave nothing. -/
theorem searches_agree_on_alias :
    let script : List Step :=
      [⟨none, some "text", .create " a:b".toList 0 none⟩,
        ⟨some "text", some "alias", .apply .skipBlanks⟩]
    let store := (Store.run {} script).2
    let cursor : Cursor := { source := " a:b".toList, start := 1, size := 3 }
    let ends (search : Search) :=
      store.Ends ⟨some "text", none, .search search (.named "alias")⟩ 0
    store.cursorId? "text" = some 0 ∧ store.cursorId? "alias" = some 0 ∧
      ends .offsetOf (.value (.int 0)) cursor ∧
      ends .popBefore? (.outcome (.found (.cursor (cursor.windowAt 1 0)))) (cursor.windowAt 4 0) ∧
      ends .popBefore (.value (.cursor (cursor.windowAt 1 3))) (cursor.windowAt 4 0) := by
  intro script store cursor ends
  have numbered : store.cursorId? "text" = some 0 := by decide +kernel
  have aliased : store.cursorId? "alias" = some 0 := by decide +kernel
  have placed : store.cursors[0]? = some cursor := by decide +kernel
  have means : store.operand? (.named "alias") = some "a:b".toList := by decide +kernel
  obtain ⟨told, -, attempted, -, -, required⟩ := searches_agree script numbered placed means none
  exact ⟨numbered, aliased, told, attempted (by decide), required (by decide)⟩

end Script

end TextCursor
