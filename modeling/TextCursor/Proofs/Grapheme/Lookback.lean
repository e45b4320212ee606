import Mathlib.Tactic.ByContra
import Mathlib.Tactic.SplitIfs
import TextCursor.Grapheme.Context
import TextCursor.Grapheme.Rules

/-!
Contract: the automaton never has to look back.

Owns: the relation between a context and the classes before a position, and its preservation
where a code point joins the cluster and where one begins a new cluster. The second case is
where a run is forgotten: what is forgotten there can no longer matter to any rule.

Does not own: the clusters themselves.
-/

namespace TextCursor.Grapheme

namespace BreakClass

theorem clings_of_isExtend {breakClass : BreakClass} (extending : breakClass.isExtend = true) :
    breakClass.clings = true := by
  cases breakClass <;> simp_all [isExtend, clings]

theorem clings_of_isConjunctFiller {breakClass : BreakClass}
    (filler : breakClass.isConjunctFiller = true) : breakClass.clings = true := by
  cases breakClass <;> simp_all [isConjunctFiller, clings]

end BreakClass

namespace Rules

/-! ## The look-back rules by one step -/

theorem oddRegionals_cons (next : BreakClass) (before : List BreakClass) :
    oddRegionals (next :: before) = (decide (next = .regional) && !oddRegionals before) := by
  by_cases regional : next = .regional
  · simp only [oddRegionals, List.takeWhile_cons, regional, decide_true, if_true,
      List.length_cons, Bool.true_and]
    rcases Nat.mod_two_eq_zero_or_one (before.takeWhile (· = .regional)).length with even | odd
    · simp [Nat.add_mod, even]
    · simp [Nat.add_mod, odd]
  · simp [oddRegionals, regional]

/-- Extending code points reach back to a pictograph. -/
def endsInPictograph (before : List BreakClass) : Prop :=
  (before.dropWhile BreakClass.isExtend).head? = some .pictographic

theorem endsInPictograph_cons (next : BreakClass) (before : List BreakClass) :
    endsInPictograph (next :: before) ↔
      if next.isExtend then endsInPictograph before else next = .pictographic := by
  unfold endsInPictograph
  rw [List.dropWhile_cons]
  split <;> simp

theorem joinedPictograph_cons (next : BreakClass) (before : List BreakClass) :
    joinedPictograph (next :: before) = true ↔ next = .joiner ∧ endsInPictograph before := by
  cases next <;> simp [joinedPictograph, endsInPictograph]

/-- Fillers reach back to a consonant. -/
def endsInConsonant (before : List BreakClass) : Prop :=
  (before.dropWhile BreakClass.isConjunctFiller).head? = some .consonant

theorem endsInConsonant_cons (next : BreakClass) (before : List BreakClass) :
    endsInConsonant (next :: before) ↔
      if next.isConjunctFiller then endsInConsonant before else next = .consonant := by
  unfold endsInConsonant
  rw [List.dropWhile_cons]
  split <;> simp

theorem linkedConsonant_cons (next : BreakClass) (before : List BreakClass) :
    linkedConsonant (next :: before) = true ↔
      next.isConjunctFiller = true ∧
        (linkedConsonant before = true ∨ next = .linker ∧ endsInConsonant before) := by
  cases filler : next.isConjunctFiller with
  | false => simp [linkedConsonant, filler]
  | true =>
      simp only [linkedConsonant, endsInConsonant, List.takeWhile_cons, List.dropWhile_cons,
        filler, if_true, List.contains_cons, Bool.and_eq_true, Bool.or_eq_true, beq_iff_eq,
        decide_eq_true_eq, true_and]
      constructor
      · rintro ⟨linker | linked, consonant⟩
        · exact Or.inr ⟨linker.symm, consonant⟩
        · exact Or.inl ⟨linked, consonant⟩
      · rintro (⟨linked, consonant⟩ | ⟨linker, consonant⟩)
        · exact ⟨Or.inr linked, consonant⟩
        · exact ⟨Or.inl linker.symm, consonant⟩

/-! ## What a break says about the classes before it -/

theorem not_endsInPictograph_of_isControl {last : BreakClass} (control : last.isControl = true)
    (before : List BreakClass) : ¬endsInPictograph (last :: before) := by
  rw [endsInPictograph_cons]
  cases last <;> simp_all [BreakClass.isControl, BreakClass.isExtend]

theorem not_endsInConsonant_of_isControl {last : BreakClass} (control : last.isControl = true)
    (before : List BreakClass) : ¬endsInConsonant (last :: before) := by
  rw [endsInConsonant_cons]
  cases last <;> simp_all [BreakClass.isControl, BreakClass.isConjunctFiller]

/-- Only a control keeps a clinging code point out of its cluster. -/
theorem isControl_of_not_joined {last next : BreakClass} {before : List BreakClass}
    (breaks : joined (last :: before) next = false) (clings : next.clings = true) :
    last.isControl = true := by
  by_contra control
  have nextControl : next.isControl = false := by
    cases next <;> simp_all [BreakClass.clings, BreakClass.isControl]
  have lineEnd : ¬(last = .carriageReturn ∧ next = .lineFeed) := by
    rintro ⟨rfl, -⟩
    exact control rfl
  simp [joined, lineEnd, control, nextControl, clings] at breaks

/-- A clinging code point that begins a cluster has no pictograph to reach back to. -/
theorem not_endsInPictograph_of_not_joined {before : List BreakClass} {next : BreakClass}
    (breaks : joined before next = false) (clings : next.clings = true) :
    ¬endsInPictograph before := by
  cases before with
  | nil => simp [endsInPictograph]
  | cons last rest =>
      exact not_endsInPictograph_of_isControl (isControl_of_not_joined breaks clings) rest

/-- Nor a consonant. -/
theorem not_endsInConsonant_of_not_joined {before : List BreakClass} {next : BreakClass}
    (breaks : joined before next = false) (clings : next.clings = true) :
    ¬endsInConsonant before := by
  cases before with
  | nil => simp [endsInConsonant]
  | cons last rest =>
      exact not_endsInConsonant_of_isControl (isControl_of_not_joined breaks clings) rest

/-- A regional indicator that begins a cluster has only pairs before it. -/
theorem oddRegionals_of_not_joined {before : List BreakClass}
    (breaks : joined before .regional = false) : oddRegionals before = false := by
  cases before with
  | nil => rfl
  | cons last rest =>
      cases control : last.isControl with
      | true =>
          rw [oddRegionals_cons]
          cases last <;> simp_all [BreakClass.isControl]
      | false => simp_all [joined, BreakClass.isControl]

theorem endsInConsonant_of_linkedConsonant {before : List BreakClass}
    (linked : linkedConsonant before = true) : endsInConsonant before := by
  simp only [linkedConsonant, Bool.and_eq_true, decide_eq_true_eq] at linked
  exact linked.2

end Rules

namespace Run

/-! ## Where each run comes from -/

theorem next_eq_loneRegional (run : Run) (next : BreakClass) :
    run.next next = .loneRegional ↔ next = .regional ∧ run ≠ .loneRegional := by
  cases run <;> cases next <;> decide

theorem next_eq_pictograph (run : Run) (next : BreakClass) :
    run.next next = .pictograph ↔
      if next.isExtend then run = .pictograph else next = .pictographic := by
  cases run <;> cases next <;> decide

theorem next_eq_joinedPictograph (run : Run) (next : BreakClass) :
    run.next next = .joinedPictograph ↔ next = .joiner ∧ run = .pictograph := by
  cases run <;> cases next <;> decide

/-- The run is one of the two that begin with a consonant. -/
def isConsonantal (run : Run) : Prop := run = .consonant ∨ run = .linkedConsonant

instance (run : Run) : Decidable run.isConsonantal := by
  unfold isConsonantal
  infer_instance

theorem next_isConsonantal (run : Run) (next : BreakClass) :
    (run.next next).isConsonantal ↔
      if next.isConjunctFiller then run.isConsonantal else next = .consonant := by
  cases run <;> cases next <;> decide

theorem next_eq_linkedConsonant (run : Run) (next : BreakClass) :
    run.next next = .linkedConsonant ↔
      next.isConjunctFiller = true ∧
        (run = .linkedConsonant ∨ next = .linker ∧ run.isConsonantal) := by
  cases run <;> cases next <;> decide

/-- A cluster begins as if nothing worth remembering stood before it. -/
theorem start_eq_next (next : BreakClass) : start next = plain.next next := by
  cases next <;> rfl

end Run

/-- The context tells of the classes before a position, nearest first, all that a rule would
find out by looking back. -/
structure Context.Recalls (context : Context) (before : List BreakClass) : Prop where
  last : before.head? = some context.last
  lone : Rules.oddRegionals before = true ↔ context.run = .loneRegional
  pictograph : Rules.endsInPictograph before ↔ context.run = .pictograph
  joined : Rules.joinedPictograph before = true ↔ context.run = .joinedPictograph
  consonant : Rules.endsInConsonant before ↔ context.run.isConsonantal
  linked : Rules.linkedConsonant before = true ↔ context.run = .linkedConsonant

namespace Context.Recalls

variable {context : Context} {before : List BreakClass}

/-- A context that recalls decides as the rules do. -/
theorem joins_eq (recalls : context.Recalls before) (next : BreakClass) :
    context.joins next = Rules.joined before next := by
  obtain ⟨last, run⟩ := context
  obtain ⟨isLast, lone, -, joined, -, linked⟩ := recalls
  cases before with
  | nil => simp at isLast
  | cons head rest =>
      obtain rfl : head = last := by simpa using isLast
      simp only [Context.joins, Rules.joined]
      split_ifs with lineEnd control attached syllable
      · rfl
      · rfl
      · rcases Bool.or_eq_true_iff.mp attached with clings | prepended
        · simp [clings]
        · simp [of_decide_eq_true prepended]
      · simp [syllable]
      · cases next <;> cases run <;> simp_all

/-- Within a cluster each part of the memory follows its rule. -/
theorem extend (recalls : context.Recalls before) (next : BreakClass) :
    (context.extend next).Recalls (next :: before) where
  last := rfl
  lone := by
    simp only [Context.extend, Rules.oddRegionals_cons, Run.next_eq_loneRegional, ne_eq,
      ← recalls.lone, Bool.and_eq_true, decide_eq_true_eq, Bool.not_eq_true', Bool.not_eq_true]
  pictograph := by
    simp only [Context.extend, Rules.endsInPictograph_cons, Run.next_eq_pictograph,
      recalls.pictograph]
  joined := by
    simp only [Context.extend, Rules.joinedPictograph_cons, Run.next_eq_joinedPictograph,
      recalls.pictograph]
  consonant := by
    simp only [Context.extend, Rules.endsInConsonant_cons, Run.next_isConsonantal,
      recalls.consonant]
  linked := by
    simp only [Context.extend, Rules.linkedConsonant_cons, Run.next_eq_linkedConsonant,
      recalls.linked, recalls.consonant]

/-- A break may forget: the rules find nothing in front of it that still matters. -/
theorem start {next : BreakClass} (breaks : Rules.joined before next = false) :
    (Context.start next).Recalls (next :: before) where
  last := rfl
  lone := by
    rw [Rules.oddRegionals_cons, Context.start, Run.start_eq_next, Run.next_eq_loneRegional]
    by_cases regional : next = .regional
    · subst regional
      simp [Rules.oddRegionals_of_not_joined breaks]
    · simp [regional]
  pictograph := by
    rw [Rules.endsInPictograph_cons, Context.start, Run.start_eq_next, Run.next_eq_pictograph]
    split
    next extending =>
      have clings : next.clings = true := BreakClass.clings_of_isExtend extending
      simp [Rules.not_endsInPictograph_of_not_joined breaks clings]
    next => rfl
  joined := by
    rw [Rules.joinedPictograph_cons, Context.start, Run.start_eq_next,
      Run.next_eq_joinedPictograph]
    constructor
    · rintro ⟨rfl, pictograph⟩
      exact absurd pictograph (Rules.not_endsInPictograph_of_not_joined breaks rfl)
    · rintro ⟨-, impossible⟩
      cases impossible
  consonant := by
    rw [Rules.endsInConsonant_cons, Context.start, Run.start_eq_next, Run.next_isConsonantal]
    split
    next filler =>
      have clings : next.clings = true := BreakClass.clings_of_isConjunctFiller filler
      simp [Rules.not_endsInConsonant_of_not_joined breaks clings, Run.isConsonantal]
    next => rfl
  linked := by
    rw [Rules.linkedConsonant_cons, Context.start, Run.start_eq_next, Run.next_eq_linkedConsonant]
    refine and_congr_right fun filler => ?_
    have clings : next.clings = true := BreakClass.clings_of_isConjunctFiller filler
    have noConsonant := Rules.not_endsInConsonant_of_not_joined breaks clings
    have notLinked : Rules.linkedConsonant before ≠ true := fun linked =>
      noConsonant (Rules.endsInConsonant_of_linkedConsonant linked)
    simp [notLinked, noConsonant, Run.isConsonantal]

end Context.Recalls

end TextCursor.Grapheme
