import Mathlib.Logic.Relation
import TextCursor.Benchmark.Loop
import TextCursor.Proofs.Cursor.Window

/-!
Contract: rounds that work on a window until it is empty.

Owns: the loop without a bound on its rounds, its agreement with the bounded one, the cursors that
it comes to, and that it ends if each round shortens the window.

Does not own: what a round does.
-/

namespace TextCursor.Benchmark

open Edit Cursor

/-- Rounds follow each other until the window is empty, however many it takes. -/
inductive Finishes {α : Type} (round : Edit (Round α)) : Cursor → List (Round α) → Cursor → Prop
  | idle {cursor : Cursor} (empty : cursor.size = 0) : Finishes round cursor [] cursor
  | turn {cursor after final : Cursor} {done : Round α} {later : List (Round α)}
      (more : cursor.size ≠ 0) (ran : round.on cursor = (.ok done, after))
      (rest : Finishes round after later final) : Finishes round cursor (done :: later) final

theorem Finishes.size_eq_zero {α : Type} {round : Edit (Round α)} {cursor final : Cursor}
    {rounds : List (Round α)} (finishes : Finishes round cursor rounds final) :
    final.size = 0 := by
  induction finishes with
  | idle empty => exact empty
  | turn _ _ _ inductionHypothesis => exact inductionHypothesis

/-- A bound that is large enough changes nothing. -/
theorem Finishes.whileNonEmpty_eq {α : Type} {round : Edit (Round α)} {cursor final : Cursor}
    {rounds : List (Round α)} (finishes : Finishes round cursor rounds final) {limit : Nat}
    (enough : rounds.length ≤ limit) :
    (whileNonEmpty round limit).on cursor = (.ok rounds, final) := by
  induction finishes generalizing limit with
  | idle empty =>
      cases limit with
      | zero => rfl
      | succ limit => simp only [whileNonEmpty, on_bind, on_get, if_pos empty, on_pure]
  | turn more ran _ inductionHypothesis =>
      cases limit with
      | zero => contradiction
      | succ limit =>
          have rest := inductionHypothesis (Nat.le_of_succ_le_succ enough)
          simp only [whileNonEmpty, on_bind, on_get, if_neg more, ran, rest, on_pure]

/-- One round leads from a window that is not empty to the next one. -/
def Turns {α : Type} (round : Edit (Round α)) (cursor after : Cursor) : Prop :=
  cursor.size ≠ 0 ∧ ∃ done, round.on cursor = (.ok done, after)

/-- What a round yielded it yielded at a cursor that the loop came to. -/
theorem Finishes.exists_of_mem {α : Type} {round : Edit (Round α)} {cursor final : Cursor}
    {rounds : List (Round α)} (finishes : Finishes round cursor rounds final) {done : Round α}
    (member : done ∈ rounds) :
    ∃ here after, Relation.ReflTransGen (Turns round) cursor here ∧ here.size ≠ 0 ∧
      round.on here = (.ok done, after) := by
  induction finishes with
  | idle => contradiction
  | @turn cursor next final first later more ran _ inductionHypothesis =>
      rcases List.mem_cons.mp member with rfl | inLater
      · exact ⟨cursor, next, .refl, more, ran⟩
      · obtain ⟨here, after, further, filled, hereRan⟩ := inductionHypothesis inLater
        exact ⟨here, after, .head ⟨more, first, ran⟩ further, filled, hereRan⟩

section Progress

variable {α : Type} {round : Edit (Round α)} {holds : Cursor → Prop}

/-- Wherever the invariant holds of a window that is not empty, a round goes through, keeps the
invariant, and shortens the window. -/
def Progresses (round : Edit (Round α)) (holds : Cursor → Prop) : Prop :=
  ∀ cursor, holds cursor → cursor.size ≠ 0 →
    ∃ done after, round.on cursor = (.ok done, after) ∧ holds after ∧ after.size < cursor.size

variable (progresses : Progresses round holds)

include progresses

theorem Progresses.holds_of_turns {cursor here : Cursor} (initial : holds cursor)
    (comes : Relation.ReflTransGen (Turns round) cursor here) : holds here := by
  induction comes with
  | refl => exact initial
  | @tail here next _ turn inductionHypothesis =>
      obtain ⟨more, done, ran⟩ := turn
      obtain ⟨_, after, went, kept, -⟩ := progresses here inductionHypothesis more
      obtain ⟨-, rfl⟩ := Prod.mk.inj (went.symm.trans ran)
      exact kept

/-- Such a loop ends. The induction is on the room that the window has. -/
theorem Progresses.finishes (inside : ∀ cursor, holds cursor → cursor.Inside) {cursor : Cursor}
    (initial : holds cursor) :
    ∃ rounds final, Finishes round cursor rounds final ∧ holds final ∧
      rounds.length ≤ cursor.content.length := by
  induction extent : cursor.content.length using Nat.strongRecOn generalizing cursor with
  | ind room inductionHypothesis =>
      by_cases empty : cursor.size = 0
      · exact ⟨[], cursor, .idle empty, initial, Nat.zero_le _⟩
      · obtain ⟨done, after, ran, kept, shorter⟩ := progresses cursor initial empty
        rw [(inside cursor initial).size_eq, (inside after kept).size_eq] at shorter
        have less : after.content.length < room := by omega
        obtain ⟨later, final, finishes, finalHolds, few⟩ := inductionHypothesis _ less kept rfl
        refine ⟨done :: later, final, .turn empty ran finishes, finalHolds, ?_⟩
        rw [List.length_cons]
        omega

end Progress

/-- Work on a text begins with a cursor over the whole of it. -/
theorem onText_eq {α : Type} (text : Text) (edit : Edit α) :
    onText text edit = (edit.on { source := text, start := 0, size := text.length }).1 := by
  have opened : Cursor.ofText text 0 none =
      .ok { source := text, start := 0, size := text.length } := by
    rw [Cursor.ofText, Option.getD_none, Int.sub_zero]
    exact make_of_inside (inside_whole text)
  rw [onText, opened, ok_bind]

end TextCursor.Benchmark
