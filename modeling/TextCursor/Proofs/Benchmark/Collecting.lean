import TextCursor.Proofs.Benchmark.Rounds
import TextCursor.Proofs.Cursor.Rest

/-!
Contract: collecting the numbers of a text, from its beginning to its end.

Owns: that each round shortens the window, where the number does it and where the cluster that is
dropped without one, and that the loop therefore ends, at the end of the text.

Does not own: which numbers are found.
-/

namespace TextCursor.Benchmark

open Edit Cursor

section Removals

variable {α : Type}

/-- A removal takes at least one code point from the front of the window and yields a value, or it
yields nothing and leaves the cursor as it is. -/
def TakesSome (pop : Edit (Option α)) : Prop :=
  ∀ cursor : Cursor, cursor.Inside → pop.on cursor = (.ok none, cursor) ∨
    ∃ value rest taken, pop.on cursor = (.ok (some value), rest) ∧ rest.IsRest cursor taken ∧
      0 < taken

/-- A removal of what a scanner reads, if the scanner finds only what takes up room. -/
theorem takesSome_of_reading {pop : Edit (Option α)} {reading : Text → Numeral.Reading α}
    (fits : ∀ text, (reading text).width ≤ text.length)
    (filled : ∀ text, (reading text).found = true → 0 < (reading text).width)
    (ran : ∀ {cursor : Cursor}, cursor.Inside → pop.on cursor =
      if (reading cursor.content).found then
        (.ok (some (reading cursor.content).value), cursor.part (reading cursor.content).width
          (cursor.content.length - (reading cursor.content).width))
      else (.ok none, cursor)) :
    TakesSome pop := by
  intro cursor inside
  have popped := ran inside
  by_cases found : (reading cursor.content).found = true
  · rw [if_pos found] at popped
    exact Or.inr ⟨_, _, _, popped, .of_part inside (fits _), filled _ found⟩
  · rw [if_neg found] at popped
    exact Or.inl popped

theorem takesSome_popInt? : TakesSome popInt? := by
  refine takesSome_of_reading Numeral.integerOf_width_le ?_ on_popInt?
  intro text found
  have digits : 0 < (Numeral.Parts.of text).whole.length := of_decide_eq_true found
  show 0 < (Numeral.Parts.of text).sign.length + (Numeral.Parts.of text).whole.length
  omega

theorem takesSome_popDecimal? : TakesSome popDecimal? := by
  refine takesSome_of_reading Numeral.decimalReadingOf_width_le ?_ on_popDecimal?
  intro text found
  have digits : 0 < (Numeral.Parts.of text).whole.length +
      (Numeral.Parts.of text).fraction.length := of_decide_eq_true found
  show 0 < (Numeral.Parts.of text).word.length
  simp only [Numeral.Parts.word, List.length_append]
  omega

/-- How a round shortens the window. Either a number is removed, which does it, or nothing happens
and the first cluster is removed, which does it. What is skipped then makes it no longer. -/
inductive Shortens (pop : Edit (Option α)) (cursor : Cursor) : Round (Option α) → Cursor → Prop
  | number {value : α} {popped after : Cursor} (ran : pop.on cursor = (.ok (some value), popped))
      (shorter : popped.size < cursor.size) (skipped : skipBlanks.on popped = (.ok (), after))
      (noLonger : after.size ≤ popped.size) : Shortens pop cursor ⟨some value, popped⟩ after
  | cluster {piece dropped after : Cursor} (ran : pop.on cursor = (.ok none, cursor))
      (cut : (popFront 1).on cursor = (.ok piece, dropped)) (shorter : dropped.size < cursor.size)
      (skipped : skipBlanks.on dropped = (.ok (), after)) (noLonger : after.size ≤ dropped.size) :
      Shortens pop cursor ⟨none, cursor⟩ after

theorem Shortens.size_lt {pop : Edit (Option α)} {cursor after : Cursor} {done : Round (Option α)}
    (shortens : Shortens pop cursor done after) : after.size < cursor.size := by
  cases shortens with
  | number _ shorter _ noLonger => exact Int.lt_of_le_of_lt noLonger shorter
  | cluster _ _ shorter _ noLonger => exact Int.lt_of_le_of_lt noLonger shorter

theorem Shortens.on_numberRound {pop : Edit (Option α)} {cursor after : Cursor}
    {done : Round (Option α)} (shortens : Shortens pop cursor done after) :
    (numberRound pop).on cursor = (.ok done, after) := by
  cases shortens with
  | number ran _ skipped =>
      simp only [numberRound, on_bind, ran, on_get, Option.isNone_some, Bool.false_eq_true,
        if_false, on_pure, skipped]
  | cluster ran cut _ skipped =>
      simp only [numberRound, on_bind, ran, on_get, Option.isNone_none, if_true, cut, on_pure,
        skipped]

variable {pop : Edit (Option α)} (takes : TakesSome pop) {cursor : Cursor}

include takes

/-- Every round on a window that is not empty shortens it, and keeps its end. -/
theorem TakesSome.shortens (sound : cursor.Sound) (more : cursor.size ≠ 0) :
    ∃ done after taken, Shortens pop cursor done after ∧ after.IsRest cursor taken := by
  have inside := sound.inside
  rcases takes cursor inside with missing | ⟨value, popped, taken, ran, isRest, positive⟩
  · have positive := clusterOffset_pos (inside.content_ne_nil more) Nat.zero_lt_one
    obtain ⟨piece, dropped, cut, isRest⟩ := isRest_of_popFront sound 1
    obtain ⟨after, skipped, afterIsRest⟩ := isRest_of_skipBlanks isRest.toSound
    have droppedSize := isRest.size_eq inside
    have afterSize := afterIsRest.size_eq isRest.inside
    have one : (1 : Int).toNat = 1 := rfl
    rw [one] at droppedSize
    exact ⟨_, after, _, .cluster missing cut (by omega) skipped (by omega),
      isRest.trans inside afterIsRest⟩
  · obtain ⟨after, skipped, afterIsRest⟩ := isRest_of_skipBlanks isRest.toSound
    have poppedSize := isRest.size_eq inside
    have afterSize := afterIsRest.size_eq isRest.inside
    exact ⟨_, after, _, .number ran (by omega) skipped (by omega), isRest.trans inside afterIsRest⟩

end Removals

/-! ## The loop over a text -/

/-- A cursor over what is left of a text up to its end. -/
structure EndsWith (cursor : Cursor) (text : Text) : Prop extends cursor.Sound where
  source : cursor.source = text
  stop : cursor.stop = text.length

theorem endsWith_whole (text : Text) :
    EndsWith { source := text, start := 0, size := text.length } text :=
  ⟨⟨inside_whole text, coherent_of_cache_empty rfl⟩, rfl, Int.zero_add _⟩

/-- The loop over a text: it ends after at most as many rounds as the text has code points, with an
empty window at the end of the text, so the bound on its rounds is never felt. Wherever it begins a
round, the round shortens the window. -/
structure UsesUp {α : Type} (pop : Edit (Option α)) (text : Text) : Prop where
  ends : ∃ rounds final,
    Finishes (numberRound pop) { source := text, start := 0, size := text.length } rounds final ∧
      rounds.length ≤ text.length ∧ collectNumbers pop text = .ok rounds ∧
      final.source = text ∧ final.start = text.length ∧ final.size = 0
  shortens : ∀ cursor, Relation.ReflTransGen (Turns (numberRound pop))
      { source := text, start := 0, size := text.length } cursor → cursor.size ≠ 0 →
    ∃ done after, (numberRound pop).on cursor = (.ok done, after) ∧ Shortens pop cursor done after

theorem TakesSome.progresses {α : Type} {pop : Edit (Option α)} (takes : TakesSome pop)
    (text : Text) : Progresses (numberRound pop) (EndsWith · text) := by
  intro cursor endsWith more
  have inside := endsWith.inside
  obtain ⟨done, after, taken, shortens, isRest⟩ := takes.shortens endsWith.toSound more
  refine ⟨done, after, shortens.on_numberRound, ⟨isRest.toSound, ?_, ?_⟩, shortens.size_lt⟩
  · rw [isRest.source_eq, endsWith.source]
  · rw [isRest.stop_eq inside, endsWith.stop]

theorem TakesSome.usesUp {α : Type} {pop : Edit (Option α)} (takes : TakesSome pop) (text : Text) :
    UsesUp pop text where
  ends := by
    obtain ⟨rounds, final, finishes, finalEnds, few⟩ := (takes.progresses text).finishes
      (fun _ endsWith => endsWith.inside) (endsWith_whole text)
    rw [content_whole] at few
    have empty := finishes.size_eq_zero
    have start := finalEnds.stop
    rw [Cursor.stop, empty, Int.add_zero] at start
    refine ⟨rounds, final, finishes, few, ?_, finalEnds.source, start, empty⟩
    rw [collectNumbers, onText_eq, finishes.whileNonEmpty_eq few]
  shortens cursor comes more := by
    have endsWith := (takes.progresses text).holds_of_turns (endsWith_whole text) comes
    obtain ⟨done, after, -, shortens, -⟩ := takes.shortens endsWith.toSound more
    exact ⟨done, after, shortens.on_numberRound, shortens⟩

/-- Whatever the text, both loops use it up: the one that collects integers, and the one that
collects decimal numbers. -/
theorem collectNumbers_usesUp (text : Text) : UsesUp popInt? text ∧ UsesUp popDecimal? text :=
  ⟨takesSome_popInt?.usesUp text, takesSome_popDecimal?.usesUp text⟩

end TextCursor.Benchmark
