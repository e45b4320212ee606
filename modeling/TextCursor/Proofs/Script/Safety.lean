import TextCursor.Proofs.Script.Reachable

/-!
Contract: what a caller of a script can rely on.

Owns: that no window ever leaves its source, and that a step fails only where the caller asked
for a window outside the source, for a number that is not there, or for the data of a failed
outcome. The other causes report a broken internal rule and never arise.

Does not own: what becomes of a predicate that fails by itself.
-/

namespace TextCursor.Script

open Cursor

/-- The predicate that the step passes on answers whatever it is asked. -/
def Step.Calm (step : Step) : Prop :=
  ∀ accepts ∈ step.command.predicate?, ∀ asked c, ∃ verdict, accepts asked c = .ok verdict

/-- A calm predicate is not to blame for anything. -/
theorem Step.Calm.not_blames {step : Step} (calm : step.Calm) (error : Error) :
    ¬step.command.Blames error := by
  intro blames
  obtain ⟨accepts, asks, asked, c, failed⟩ := blames
  obtain ⟨verdict, answered⟩ := calm accepts asks asked c
  rw [failed] at answered
  contradiction

/-- The answer to a step is given by the store that the steps before it led to. -/
theorem Store.getElem?_run (store : Store) (script : List Step) (index : Nat) :
    (store.run script).1[index]? =
      script[index]?.map fun step => ((store.run (script.take index)).2.step step).1 := by
  induction script generalizing store index with
  | nil => rfl
  | cons step later inductionHypothesis =>
      cases index with
      | zero => rfl
      | succ index => exact inductionHypothesis (store.step step).2 index

/-- Where a broken internal rule is reported: a cluster or a code point that is not there, or a
numeral that cannot be read. A window out of bounds is not among them, since a caller can ask
for one. -/
def ReportsBrokenRule : Error → Prop
  | .noCluster _ _ | .noCodePoint | .unreadableNumeral _ => True
  | _ => False

theorem Operation.Refuses.not_reportsBrokenRule {operation : Operation} {cursor : Cursor}
    {error : Error} (refuses : operation.Refuses cursor error) : ¬ReportsBrokenRule error := by
  cases refuses with
  | sub | tokenInt | tokenDecimal => exact not_false

theorem Command.Refuses.not_reportsBrokenRule {store : Store} {name : Option String} {id : Nat}
    {cursor : Cursor} {command : Command} {error : Error}
    (refuses : command.Refuses store name id cursor error) : ¬ReportsBrokenRule error := by
  induction refuses with
  | apply refuses => exact refuses.not_reportsBrokenRule
  | insist _ inductionHypothesis => exact inductionHypothesis
  | unwrap => exact not_false

theorem Step.Refuses.not_reportsBrokenRule {store : Store} {step : Step} {error : Error}
    (refuses : step.Refuses store error) : ¬ReportsBrokenRule error := by
  cases refuses with
  | create => exact not_false
  | command _ _ _ refuses => exact refuses.not_reportsBrokenRule

/-- At every point of a script every window lies within its source; and if the predicates of the
script answer, a step fails only as it admits by itself. -/
theorem run_stays_inside (script : List Step) (calm : ∀ step ∈ script, step.Calm) :
    (∀ index, ∀ cursor ∈ (Store.run {} (script.take index)).2.cursors, cursor.Inside) ∧
      ∀ (index : Nat) (answer : Answer) (error : Error),
        (Store.run {} script).1[index]? = some answer → answer.reply = .error error →
          ¬ReportsBrokenRule error ∧
            ∃ step, script[index]? = some step ∧
              step.Refuses (Store.run {} (script.take index)).2 error := by
  constructor
  · intro index cursor member
    exact (Store.sound_run Store.sound_empty _ cursor member).inside
  · intro index answer error answered failed
    rw [Store.getElem?_run, Option.map_eq_some_iff] at answered
    obtain ⟨step, atIndex, rfl⟩ := answered
    have sound := Store.sound_run Store.sound_empty (script.take index)
    obtain ⟨-, outcome⟩ := Store.execute_endsWell sound step
    have executed : ((Store.run {} (script.take index)).2.execute step).1 = .error error := failed
    rw [executed] at outcome
    have refuses : step.Refuses (Store.run {} (script.take index)).2 error := by
      rcases outcome with refuses | blames
      · exact refuses
      · exact absurd blames ((calm step (List.mem_of_getElem? atIndex)).not_blames error)
    exact ⟨refuses.not_reportsBrokenRule, step, atIndex, refuses⟩

/-- A script that takes a number and the blank behind it, and then asks for another number. Its
last step fails, and can do so because the text goes on with a letter. -/
theorem run_stays_inside_of_missing_number :
    let script : List Step :=
      [⟨none, some "text", .create "12 é".toList 0 none⟩,
        ⟨some "text", none, .insist (.apply .popInt?)⟩,
        ⟨some "text", some "gap", .apply (.popFrontWhile fun _ c => .ok (Text.isBlank c))⟩,
        ⟨some "text", none, .apply .tokenInt⟩]
    (∀ step ∈ script, step.Calm) ∧
      (∀ cursor ∈ (Store.run {} script).2.cursors, cursor.Inside) ∧
      ∃ step, script[3]? = some step ∧
        step.Refuses (Store.run {} (script.take 3)).2 (.unparsable "integer".toList "é".toList) := by
  intro script
  have calm : ∀ step ∈ script, step.Calm := by
    intro step member accepts asks asked c
    simp only [script, List.mem_cons, List.not_mem_nil, or_false] at member
    rcases member with rfl | rfl | rfl | rfl
    · contradiction
    · contradiction
    · obtain rfl := Option.some.inj asks
      exact ⟨Text.isBlank c, rfl⟩
    · contradiction
  obtain ⟨inside, refuses⟩ := run_stays_inside script calm
  obtain ⟨answer, answered, failed⟩ : ∃ answer, (Store.run {} script).1[3]? = some answer ∧
      answer.reply = .error (.unparsable "integer".toList "é".toList) := ⟨_, rfl, rfl⟩
  exact ⟨calm, inside 4, (refuses 3 answer _ answered failed).2⟩

end TextCursor.Script
