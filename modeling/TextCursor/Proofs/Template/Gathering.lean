import TextCursor.Proofs.Template.Meaning

/-!
Contract: which parts a caller may offer in place of others.

Owns: the offers among parts, and the texts between one and the next; that these are the parsers and
the literals of the template; that readers do the same whose parsers are the same with the same text
before each of them; and that parts in which literals and offers alternate make the template of the
pairs.

Does not own: what such a reader yields.
-/

namespace TextCursor.Template

/-! ## Parts -/

section Parts

variable {α : Type}

/-- The offers among the parts, in order. -/
def offers (parts : List (Text ⊕ α)) : List α := parts.filterMap Sum.getRight?

/-- The text before each offer, back to the offer before it, and then the text behind the last one.
Literals that follow each other are joined, and where there is none the text is empty. -/
def textsBetween (parts : List (Text ⊕ α)) : List Text :=
  (parts.splitOnP Sum.isRight).map fun run => (run.filterMap Sum.getLeft?).flatten

theorem textsBetween_literal (text : Text) (parts : List (Text ⊕ α)) :
    textsBetween (.inl text :: parts) = (textsBetween parts).modifyHead (text ++ ·) := by
  rw [textsBetween, List.splitOnP_cons_eq_if_modifyHead, Sum.isRight_inl,
    if_neg Bool.false_ne_true, textsBetween]
  cases parts.splitOnP Sum.isRight with
  | nil | cons => rfl

theorem textsBetween_offer (offer : α) (parts : List (Text ⊕ α)) :
    textsBetween (.inr offer :: parts) = [] :: textsBetween parts := by
  rw [textsBetween, List.splitOnP_cons_eq_if_modifyHead, Sum.isRight_inr, if_pos rfl]
  rfl

theorem modifyHead_nil_append (texts : List Text) : texts.modifyHead ([] ++ ·) = texts := by
  have unchanged : ([] ++ · : Text → Text) = id := rfl
  rw [unchanged, List.modifyHead_id, id]

theorem map_snd_gather (literal : Text) (parts : List (Text ⊕ α)) :
    (gather literal parts).1.map Prod.snd = offers parts := by
  induction parts generalizing literal with
  | nil => rfl
  | cons part later inductionHypothesis =>
      cases part with
      | inl text => exact inductionHypothesis (literal ++ text)
      | inr offer => exact congrArg (offer :: ·) (inductionHypothesis [])

/-- What has been read already goes before the first text. -/
theorem map_fst_gather (literal : Text) (parts : List (Text ⊕ α)) :
    (gather literal parts).1.map Prod.fst ++ [(gather literal parts).2] =
      (textsBetween parts).modifyHead (literal ++ ·) := by
  induction parts generalizing literal with
  | nil => exact congrArg ([·]) (List.append_nil literal).symm
  | cons part later inductionHypothesis =>
      cases part with
      | inl text =>
          have joined : (fun rest : Text => literal ++ text ++ rest) =
              (literal ++ ·) ∘ (text ++ ·) := by
            funext rest
            exact List.append_assoc literal text rest
          rw [gather, inductionHypothesis, textsBetween_literal, List.modifyHead_modifyHead, joined]
      | inr offer =>
          rw [textsBetween_offer, List.modifyHead_cons, List.append_nil,
            ← modifyHead_nil_append (textsBetween later), ← inductionHypothesis []]
          rfl

/-- Pairs of a literal and an offer one after another, and a last literal. -/
def alternate (pairs : List (Text × α)) (tail : Text) : List (Text ⊕ α) :=
  (pairs.flatMap fun pair => [.inl pair.1, .inr pair.2]) ++ [.inl tail]

/-- No literal meets another one. -/
theorem gather_alternate (pairs : List (Text × α)) (tail : Text) :
    gather [] (alternate pairs tail) = (pairs, tail) := by
  induction pairs with
  | nil => rfl
  | cons pair later inductionHypothesis =>
      have rest : gather [] (alternate (pair :: later) tail) =
          ((pair.1, pair.2) :: (gather [] (alternate later tail)).1,
            (gather [] (alternate later tail)).2) := rfl
      rw [rest, inductionHypothesis]

end Parts

/-! ## Templates of parts -/

theorem slots_of_mapM {pairs : List (Text × Candidate)} {slots : List Slot}
    (filled : (pairs.mapM fun pair => do return ⟨pair.1, ← pair.2.parser?⟩) =
      (.ok slots : Except Error (List Slot))) :
    slots.map (fun slot => (slot.literal, Except.ok slot.parser)) =
      pairs.map fun pair => (pair.1, pair.2.parser?) := by
  induction pairs generalizing slots with
  | nil =>
      obtain rfl := Except.ok.inj filled
      rfl
  | cons pair later inductionHypothesis =>
      rw [List.mapM_cons] at filled
      obtain ⟨slot, isSlot, filled⟩ := ok_of_bind filled
      obtain ⟨parser, isParser, isSlot⟩ := ok_of_bind isSlot
      obtain ⟨rest, restFilled, filled⟩ := ok_of_bind filled
      obtain rfl := Except.ok.inj isSlot
      obtain rfl := Except.ok.inj filled
      rw [List.map_cons, List.map_cons, inductionHypothesis restFilled, isParser]

/-- The candidate can fill a slot. -/
def Candidate.IsParser (candidate : Candidate) : Prop :=
  ∃ parser, candidate.parser? = .ok parser

theorem exists_slots_of_isParser {pairs : List (Text × Candidate)}
    (parsers : ∀ pair ∈ pairs, pair.2.IsParser) :
    ∃ slots : List Slot, (pairs.mapM fun pair => do return ⟨pair.1, ← pair.2.parser?⟩) =
      (.ok slots : Except Error (List Slot)) := by
  induction pairs with
  | nil => exact ⟨[], rfl⟩
  | cons pair later inductionHypothesis =>
      obtain ⟨⟨parser, isParser⟩, laterParsers⟩ := List.forall_mem_cons.mp parsers
      obtain ⟨slots, filled⟩ := inductionHypothesis laterParsers
      refine ⟨⟨pair.1, parser⟩ :: slots, ?_⟩
      rw [List.mapM_cons, isParser, filled]
      rfl

theorem exists_template_of_isParser {pairs : List (Text × Candidate)}
    (parsers : ∀ pair ∈ pairs, pair.2.IsParser) (tail : Text) :
    ∃ template, ofPairs pairs tail = .ok template := by
  obtain ⟨slots, filled⟩ := exists_slots_of_isParser parsers
  exact ⟨⟨slots, tail⟩, by rw [ofPairs, filled]; rfl⟩

/-- A template has the literals and the parsers of its pairs. -/
theorem slots_of_ofPairs {pairs : List (Text × Candidate)} {tail : Text} {template : Template}
    (built : ofPairs pairs tail = .ok template) :
    template.tail = tail ∧ template.slots.map (fun slot => (slot.literal, Except.ok slot.parser)) =
      pairs.map fun pair => (pair.1, pair.2.parser?) := by
  obtain ⟨slots, filled, built⟩ := ok_of_bind built
  obtain rfl := Except.ok.inj built
  exact ⟨rfl, slots_of_mapM filled⟩

theorem literals_of_ofPairs {pairs : List (Text × Candidate)} {tail : Text} {template : Template}
    (built : ofPairs pairs tail = .ok template) :
    template.literals = pairs.map Prod.fst ++ [tail] ∧
      template.slots.map (fun slot => Except.ok slot.parser) =
        pairs.map fun pair => pair.2.parser? := by
  obtain ⟨rfl, slots⟩ := slots_of_ofPairs built
  have literals := congrArg (List.map Prod.fst) slots
  have parsers := congrArg (List.map Prod.snd) slots
  rw [List.map_map, List.map_map] at literals parsers
  exact ⟨congrArg (· ++ [template.tail]) literals, parsers⟩

/-- A template has the joined texts and the parsers of its parts. -/
theorem literals_of_ofParts {parts : List (Text ⊕ Candidate)} {template : Template}
    (built : ofParts parts = .ok template) :
    template.literals = textsBetween parts ∧
      template.slots.map (fun slot => Except.ok slot.parser) =
        (offers parts).map Candidate.parser? := by
  obtain ⟨literals, parsers⟩ := literals_of_ofPairs built
  rw [literals, parsers, map_fst_gather [] parts, modifyHead_nil_append, ← map_snd_gather [] parts,
    List.map_map]
  exact ⟨rfl, rfl⟩

/-- The parts have the same parsers, with the same text before each of them. -/
structure AskSame (left right : List (Text ⊕ Candidate)) : Prop where
  parsers : (offers left).map Candidate.parser? = (offers right).map Candidate.parser?
  texts : (textsBetween left).dropLast = (textsBetween right).dropLast

theorem dropLast_literals (template : Template) :
    template.literals.dropLast = template.slots.map Slot.literal := List.dropLast_concat

theorem slots_ext {slots other : List Slot}
    (literals : slots.map Slot.literal = other.map Slot.literal)
    (parsers : slots.map (fun slot => (Except.ok slot.parser : Except Error Parser)) =
      other.map fun slot => Except.ok slot.parser) : slots = other := by
  let both (slot : Slot) : Text × Except Error Parser := (slot.literal, .ok slot.parser)
  have injective : ∀ slot twin, both slot = both twin → slot = twin := by
    rintro ⟨literal, parser⟩ ⟨_, _⟩ same
    obtain ⟨rfl, sameParser⟩ := Prod.mk.inj same
    obtain rfl := Except.ok.inj sameParser
    rfl
  apply (List.map_inj_right injective).mp
  rw [← List.zip_map', ← List.zip_map', literals, parsers]

/-- The slots are the same, whatever the tails. -/
theorem AskSame.slots_eq {left right : List (Text ⊕ Candidate)} {template other : Template}
    (same : AskSame left right) (leftBuilt : ofParts left = .ok template)
    (rightBuilt : ofParts right = .ok other) : template.slots = other.slots := by
  obtain ⟨leftLiterals, leftParsers⟩ := literals_of_ofParts leftBuilt
  obtain ⟨rightLiterals, rightParsers⟩ := literals_of_ofParts rightBuilt
  apply slots_ext
  · rw [← dropLast_literals, ← dropLast_literals, leftLiterals, rightLiterals, same.texts]
  · rw [leftParsers, rightParsers, same.parsers]

/-! ## Parsers that depend on nothing but the cursor -/

/-- Whichever reader it works for, and however often its slot was filled before, the parser does the
same with the cursor that it is given. It may move that cursor anywhere, fail, and apply known
readers. One that hands out the scratch cursor itself is not impartial, since each reader has its
own. -/
structure Parser.Impartial (known : Nat → Prop) (parser : Parser) : Prop where
  same : ∀ id earlier, parser.program id earlier = parser.program 0 0
  applies : (parser.program 0 0).AppliesOnly known

theorem Parser.Impartial.steady {known : Nat → Prop} {parser : Parser}
    (impartial : parser.Impartial known) (id : Nat) : parser.Steady known id where
  same earlier := by rw [impartial.same id earlier, impartial.same id 0]
  applies := by
    rw [impartial.same id 0]
    exact impartial.applies

/-- What a candidate has to be so that its parser is impartial. Shorthands always are. -/
def Candidate.Impartial (known : Nat → Prop) : Candidate → Prop
  | .parser given => given.Impartial known
  | .shorthand _ | .datum _ => True

theorem Candidate.Impartial.parser {known : Nat → Prop} {candidate : Candidate} {parser : Parser}
    (impartial : candidate.Impartial known) (fills : candidate.parser? = .ok parser) :
    parser.Impartial known := by
  cases candidate with
  | shorthand kind =>
      obtain rfl := Except.ok.inj fills
      cases kind with
      | int | decimal | word => exact ⟨fun _ _ => rfl, fun _ => trivial⟩
  | parser given =>
      obtain rfl := Except.ok.inj fills
      exact impartial
  | datum value => contradiction

theorem impartial_of_ofParts {known : Nat → Prop} {parts : List (Text ⊕ Candidate)}
    {template : Template} (built : ofParts parts = .ok template)
    (impartial : ∀ candidate ∈ offers parts, candidate.Impartial known) :
    ∀ slot ∈ template.slots, slot.parser.Impartial known := by
  intro slot member
  have isOffered : Except.ok slot.parser ∈ (offers parts).map Candidate.parser? := by
    rw [← (literals_of_ofParts built).2]
    exact List.mem_map_of_mem member
  obtain ⟨candidate, offered, fills⟩ := List.mem_map.mp isOffered
  exact (impartial candidate offered).parser fills

theorem tasks_eq {known : Nat → Prop} {slots : List Slot}
    (impartial : ∀ slot ∈ slots, slot.parser.Impartial known) (id other : Nat) :
    tasks id slots = tasks other slots := by
  apply List.map_congr_left
  intro slot member
  rw [(impartial slot member).same id 0, (impartial slot member).same other 0]

/-! ## Readers for parts -/

/-- The reader is there, idle, and for a template made of the parts. -/
structure Pool.BuiltFrom (pool : Pool) (id : Nat) (parts : List (Text ⊕ Candidate)) : Prop where
  inPool : id < pool.readers.length
  idle : (pool.reader id).running = false
  template : ofParts parts = .ok (pool.reader id).template

theorem Pool.BuiltFrom.standsApart {pool : Pool} {id : Nat} {parts : List (Text ⊕ Candidate)}
    {known : Nat → Prop} (built : pool.BuiltFrom id parts) (notKnown : ¬known id)
    (impartial : ∀ slot ∈ (pool.reader id).template.slots, slot.parser.Impartial known) :
    pool.StandsApart known id where
  inPool := built.inPool
  idle := built.idle
  notKnown := notKnown
  own slot member := (impartial slot member).steady id

/-- Readers for parts that ask for the same are interchangeable, also if other applications come in
between. -/
theorem AskSame.apply_eq {pool after : Pool} {known mine : Nat → Prop} {left right : Nat}
    {leftParts rightParts : List (Text ⊕ Candidate)} (same : AskSame leftParts rightParts)
    (steady : Steady known fun id => (pool.reader id).template)
    (impartial : ∀ candidate ∈ offers leftParts, candidate.Impartial known)
    (leftBuilt : pool.BuiltFrom left leftParts) (leftUnknown : ¬known left)
    (rightBuilt : pool.BuiltFrom right rightParts) (rightUnknown : ¬known right)
    (keeps : pool.Keeps mine after) (input : Input) :
    ((Run.apply left input).on pool).1 = ((Run.apply right input).on after).1 := by
  have slots := same.slots_eq leftBuilt.template rightBuilt.template
  have leftImpartial := impartial_of_ofParts leftBuilt.template impartial
  have rightImpartial := slots ▸ leftImpartial
  have leftApart := leftBuilt.standsApart leftUnknown leftImpartial
  have rightApart := rightBuilt.standsApart rightUnknown rightImpartial
  have steadyAfter : Steady known fun id => (after.reader id).template := by
    rw [funext keeps.template]
    exact steady
  rw [leftApart.on_apply steady, (rightApart.of_keeps keeps).on_apply steadyAfter,
    keeps.answers_eq, keeps.template, slots, tasks_eq rightImpartial left right]

/-! ## Parts in which literals and offers alternate -/

/-- The part that a text or an offer is. -/
def Part.ofSum : Text ⊕ Offer → Part
  | .inl text => .literal text
  | .inr offer => .slot offer

/-- The part that a text or a candidate is. -/
def Part.plain (part : Text ⊕ Candidate) : Part := .ofSum (part.map id .candidate)

/-- Candidates resolve to themselves. -/
theorem resolveParts_plain (parts : List (Text ⊕ Candidate)) :
    resolveParts (parts.map .plain) = pure parts := by
  induction parts with
  | nil => rw [List.map_nil, resolveParts]
  | cons part later inductionHypothesis =>
      cases part with
      | inl text =>
          rw [List.map_cons, Part.plain, Sum.map_inl, Part.ofSum, id, resolveParts,
            inductionHypothesis, pure_bind]
      | inr candidate =>
          rw [List.map_cons, Part.plain, Sum.map_inr, Part.ofSum, resolveParts, Offer.resolve,
            pure_bind, inductionHypothesis, pure_bind]

theorem resolveParts_alternate (pairs : List (Text × Offer)) (tail : Text) :
    resolveParts ((alternate pairs tail).map .ofSum) = do
      let candidates ← pairs.mapM fun pair => return (pair.1, ← pair.2.resolve)
      return alternate candidates tail := by
  induction pairs with
  | nil =>
      rw [List.mapM_nil, pure_bind]
      rfl
  | cons pair later inductionHypothesis =>
      have parts : (alternate (pair :: later) tail).map Part.ofSum =
          .literal pair.1 :: .slot pair.2 :: (alternate later tail).map .ofSum := rfl
      rw [parts, resolveParts, resolveParts, inductionHypothesis, List.mapM_cons]
      simp only [bind_assoc, pure_bind]
      rfl

/-- It makes no difference whether pairs are given as they are or one part after another. -/
theorem buildParts_alternate (pairs : List (Text × Offer)) (tail : Text) :
    Run.buildParts ((alternate pairs tail).map .ofSum) = Run.buildPairs pairs tail := by
  rw [Run.buildParts, Run.buildPairs, resolveParts_alternate]
  simp only [bind_assoc, pure_bind, ofParts, gather_alternate]

theorem on_buildParts_plain (parts : List (Text ⊕ Candidate)) (pool : Pool) :
    (Run.buildParts (parts.map .plain)).on pool =
      match ofParts parts with
      | .ok template => (.ok pool.readers.length, ((Run.enroll template).on pool).2)
      | .error error => (.error error, pool) := by
  rw [Run.buildParts, resolveParts_plain, pure_bind, Run.on_bind, Run.on_liftExcept]
  cases ofParts parts with
  | ok | error => rfl

/-- A reader is entered for the parts that its template is made of, and the ones that were there
before stay. -/
theorem builtFrom_enroll {pool : Pool} {parts : List (Text ⊕ Candidate)} {template : Template}
    (made : ofParts parts = .ok template) :
    ((Run.enroll template).on pool).2.BuiltFrom pool.readers.length parts ∧
      ∀ other otherParts, pool.BuiltFrom other otherParts →
        ((Run.enroll template).on pool).2.BuiltFrom other otherParts := by
  have length : ((Run.enroll template).on pool).2.readers.length = pool.readers.length + 1 := by
    rw [Pool.readers_enroll, List.length_append, List.length_singleton]
  constructor
  · refine ⟨?_, ?_, ?_⟩
    · rw [length]
      exact Nat.lt_succ_self _
    · rw [Pool.reader_enroll_self]
      rfl
    · rw [Pool.reader_enroll_self]
      exact made
  · rintro other otherParts ⟨inPool, idle, otherMade⟩
    refine ⟨?_, ?_, ?_⟩
    · rw [length]
      exact Nat.lt_succ_of_lt inPool
    · rwa [Pool.reader_enroll_of_lt inPool]
    · rwa [Pool.reader_enroll_of_lt inPool]

/-- Parts are built if each of their offers can fill a slot. -/
theorem exists_builtFrom (pool : Pool) {parts : List (Text ⊕ Candidate)}
    (parsers : ∀ candidate ∈ offers parts, candidate.IsParser) :
    ∃ id after, (Run.buildParts (parts.map .plain)).on pool = (.ok id, after) ∧
      after.BuiltFrom id parts ∧
      ∀ other otherParts, pool.BuiltFrom other otherParts → after.BuiltFrom other otherParts := by
  rw [← map_snd_gather [] parts, List.forall_mem_map] at parsers
  obtain ⟨template, made⟩ := exists_template_of_isParser parsers (gather [] parts).2
  have built := on_buildParts_plain parts pool
  rw [ofParts, made] at built
  exact ⟨_, _, built, builtFrom_enroll made⟩

/-! ## What the parts decide -/

/-- Parts are built if their offers can fill slots. Two readers whose parts have the same impartial
parsers, and the same text before each of them however it is put together, come to the same on every
input, whatever their tails are and whatever was applied in between. Parts in which literals and
offers alternate build what the pairs do, and the template has just the literals of the pairs and
the tail, one more than parsers, and just the parsers of the pairs. -/
theorem extraction_of_parts :
    (∀ (pool : Pool) (parts : List (Text ⊕ Candidate)),
      (∀ candidate ∈ offers parts, candidate.IsParser) →
      ∃ id after, (Run.buildParts (parts.map .plain)).on pool = (.ok id, after) ∧
        after.BuiltFrom id parts ∧
        ∀ other otherParts, pool.BuiltFrom other otherParts →
          after.BuiltFrom other otherParts) ∧
    (∀ (pool after : Pool) (known mine : Nat → Prop) (left right : Nat)
      (leftParts rightParts : List (Text ⊕ Candidate)),
      Steady known (fun id => (pool.reader id).template) →
      (∀ candidate ∈ offers leftParts, candidate.Impartial known) →
      pool.BuiltFrom left leftParts → ¬known left → pool.BuiltFrom right rightParts →
      ¬known right → AskSame leftParts rightParts → pool.Keeps mine after →
      ∀ input, ((Run.apply left input).on pool).1 = ((Run.apply right input).on after).1) ∧
    (∀ (pairs : List (Text × Offer)) (tail : Text),
      Run.buildParts ((alternate pairs tail).map .ofSum) = Run.buildPairs pairs tail) ∧
    ∀ (pairs : List (Text × Candidate)) (tail : Text),
      ofParts (alternate pairs tail) = ofPairs pairs tail ∧
        ((∀ pair ∈ pairs, pair.2.IsParser) →
          ∃ template, ofPairs pairs tail = .ok template ∧
            template.literals = pairs.map Prod.fst ++ [tail] ∧
            template.slots.map (fun slot => Except.ok slot.parser) =
              pairs.map (fun pair => pair.2.parser?) ∧
            template.literals.length = template.slots.length + 1) := by
  refine ⟨?_, ?_, buildParts_alternate, ?_⟩
  · intro pool parts parsers
    exact exists_builtFrom pool parsers
  · intro pool after known mine left right leftParts rightParts steady impartial leftBuilt
      leftUnknown rightBuilt rightUnknown same keeps input
    exact same.apply_eq steady impartial leftBuilt leftUnknown rightBuilt rightUnknown keeps input
  · intro pairs tail
    refine ⟨by rw [ofParts, gather_alternate], ?_⟩
    intro isParser
    obtain ⟨template, built⟩ := exists_template_of_isParser isParser tail
    obtain ⟨literals, parsers⟩ := literals_of_ofPairs built
    refine ⟨template, built, literals, parsers, ?_⟩
    rw [Template.literals, List.length_append, List.length_map, List.length_singleton]

/-! ## A line in other parts -/

def linePairs : List (Text × Candidate) :=
  [("at ".toList, .parser (.ofReader pointTemplate 0)), (") ".toList, .shorthand .word)]

def lineParts : List (Text ⊕ Candidate) := alternate linePairs []

/-- Parts that ask for the same as those of a line, but put the literals together otherwise, and
have a tail. -/
def brokenLineParts : List (Text ⊕ Candidate) :=
  [.inl "a".toList, .inl [], .inl "t ".toList, .inr (.parser (.ofReader pointTemplate 0)),
    .inl ")".toList, .inl " ".toList, .inr (.parser .word), .inl "!".toList, .inl " end".toList]

/-- A pool of readers for points, for lines, and for lines in other parts. -/
def brokenLinePool : Pool := ((Run.buildParts (brokenLineParts.map .plain)).on linePool).2

theorem brokenLinePool_steady : Steady (· < 1) fun id => (brokenLinePool.reader id).template := by
  intro id isPoint
  obtain rfl : id = 0 := by omega
  show ∀ slot ∈ pointTemplate.slots, slot.parser.Steady (· < 1) 0
  exact List.forall_mem_cons.mpr
    ⟨Parser.steady_ofEdit .., List.forall_mem_singleton.mpr (Parser.steady_ofEdit ..)⟩

/-- The reader for lines is still there. -/
theorem brokenLinePool_makes : brokenLinePool.Makes 1 lineLayout := by
  have agrees : linePool.AgreesBelow 1 brokenLinePool := by
    refine ⟨by decide, ?_, ?_⟩
    all_goals
      intro id isPoint
      obtain rfl : id = 0 := by omega
      rfl
  exact ⟨by decide, rfl, linePool_makes.slots.congr agrees⟩

theorem extraction_of_parts_broken_line :
    ((Run.buildParts (brokenLineParts.map .plain)).on linePool = (.ok 2, brokenLinePool) ∧
      Steady (· < 1) (fun id => (brokenLinePool.reader id).template) ∧
      (∀ candidate ∈ offers lineParts, candidate.Impartial (· < 1)) ∧
      brokenLinePool.BuiltFrom 1 lineParts ∧ ¬1 < 1 ∧
      brokenLinePool.BuiltFrom 2 brokenLineParts ∧ ¬2 < 1 ∧ AskSame lineParts brokenLineParts ∧
      ∀ pair ∈ linePairs, pair.2.IsParser) ∧
      ((Run.apply 2 (.cursor lineCursor)).on brokenLinePool).1 =
        .ok [.tuple [.int 3, .int (-4)], .text "red".toList] ∧
      ∃ template, ofParts lineParts = .ok template ∧
        template.literals = ["at ".toList, ") ".toList, []] := by
  obtain ⟨builds, interchange, -, pairwise⟩ := extraction_of_parts
  have built : (Run.buildParts (brokenLineParts.map .plain)).on linePool =
      (.ok 2, brokenLinePool) := rfl
  have impartial : ∀ candidate ∈ offers lineParts, candidate.Impartial (· < 1) :=
    List.forall_mem_cons.mpr
      ⟨⟨fun _ _ => rfl, by decide, fun _ => trivial⟩, List.forall_mem_singleton.mpr trivial⟩
  have line : linePool.BuiltFrom 1 lineParts := ⟨by decide, rfl, rfl⟩
  have same : AskSame lineParts brokenLineParts := ⟨rfl, rfl⟩
  have isParser : ∀ candidate ∈ offers brokenLineParts, candidate.IsParser :=
    List.forall_mem_cons.mpr ⟨⟨_, rfl⟩, List.forall_mem_singleton.mpr ⟨_, rfl⟩⟩
  obtain ⟨id, after, ran, brokenBuilt, stays⟩ := builds linePool brokenLineParts isParser
  obtain ⟨isTwo, rfl⟩ := Prod.mk.inj (built.symm.trans ran)
  obtain rfl := Except.ok.inj isTwo
  have lineBuilt := stays 1 lineParts line
  have inPairs : ∀ pair ∈ linePairs, pair.2.IsParser :=
    List.forall_mem_cons.mpr ⟨⟨_, rfl⟩, List.forall_mem_singleton.mpr ⟨_, rfl⟩⟩
  obtain ⟨sameTemplate, isMade⟩ := pairwise linePairs []
  obtain ⟨template, made, literals, -⟩ := isMade inPairs
  refine ⟨⟨built, brokenLinePool_steady, impartial, lineBuilt, by decide, brokenBuilt, by decide,
    same, inPairs⟩, ?_, template, sameTemplate.trans made, literals⟩
  have alike := interchange brokenLinePool brokenLinePool (· < 1) (fun _ => True) 1 2 lineParts
    brokenLineParts brokenLinePool_steady impartial lineBuilt (by decide) brokenBuilt (by decide)
    same (.refl _)
  obtain ⟨after, ran⟩ := brokenLinePool_makes.on_apply lineCursor_inside
  rw [← alike, ran]
  rfl

end TextCursor.Template
