import TextCursor.Datum
import TextCursor.Template.Parser
import TextCursor.Template.Pool

/-!
Contract: templates built from what a caller offers.

Owns: the folding of a mixed list of literals and offers into slots and a tail, the check that
an offer can fill a slot, and the entry of a new reader into the pool.

Literals in a row are one literal, and two offers in a row have the empty literal between them.
Inner templates are built before the outer one, in the order in which they stand.
-/

namespace TextCursor.Template

/-- A kind of value that stands for the token parser that reads it. -/
inductive Shorthand where
  | int
  | decimal
  | word
deriving DecidableEq, Repr

def Shorthand.parser : Shorthand → Parser
  | int => Parser.int
  | decimal => Parser.decimal
  | word => Parser.word

inductive Candidate where
  | shorthand (kind : Shorthand)
  | parser (parser : Parser)
  | datum (datum : Datum)

/-- The parser that a candidate stands for. Plain data stand for none. -/
def Candidate.parser? : Candidate → Except Error Parser
  | .shorthand kind => .ok kind.parser
  | .parser given => .ok given
  | .datum value => .error (.notAParser value.written)

/-- Pairs every offer with the literals that stand between it and the offer before it;
`literal` has been read already. What stands behind the last offer is the tail. -/
def gather {α : Type} (literal : Text) : List (Text ⊕ α) → List (Text × α) × Text
  | [] => ([], literal)
  | .inl text :: parts => gather (literal ++ text) parts
  | .inr offer :: parts =>
      let later := gather [] parts
      ((literal, offer) :: later.1, later.2)

/-- A template from pairs of a literal and a candidate. The first candidate that cannot fill a
slot is reported. -/
def ofPairs (pairs : List (Text × Candidate)) (tail : Text) : Except Error Template := do
  let slots ← pairs.mapM fun pair => do
    return ⟨pair.1, ← pair.2.parser?⟩
  return ⟨slots, tail⟩

def ofParts (parts : List (Text ⊕ Candidate)) : Except Error Template :=
  let gathered := gather [] parts
  ofPairs gathered.1 gathered.2

/-- Enters a reader for a template into the pool, and yields its place. -/
def Run.enroll (template : Template) : Run Nat := do
  let id := (← get).readers.length
  modify fun pool => { pool with readers := pool.readers ++ [.new template] }
  log .debug s!"Compiled token extractor {String.ofList template.written}"
  return id

mutual

/-- What a caller offers for a slot, templates included. -/
inductive Offer where
  | candidate (candidate : Candidate)
  | template (parts : List Part)

inductive Part where
  | literal (text : Text)
  | slot (offer : Offer)

end

mutual

def Offer.resolve : Offer → Run Candidate
  | .candidate candidate => return candidate
  | .template parts => do
      let template ← liftExcept (ofParts (← resolveParts parts))
      let id ← Run.enroll template
      return .parser (.ofReader template id)

def resolveParts : List Part → Run (List (Text ⊕ Candidate))
  | [] => return []
  | .literal text :: parts => return .inl text :: (← resolveParts parts)
  | .slot offer :: parts => do
      let candidate ← offer.resolve
      return .inr candidate :: (← resolveParts parts)

end

/-- Builds a reader from literals and offers in any order. -/
def Run.buildParts (parts : List Part) : Run Nat := do
  enroll (← liftExcept (ofParts (← resolveParts parts)))

/-- Builds a reader from pairs of a literal and an offer. -/
def Run.buildPairs (pairs : List (Text × Offer)) (tail : Text) : Run Nat := do
  let candidates ← pairs.mapM fun pair => return (pair.1, ← pair.2.resolve)
  enroll (← liftExcept (ofPairs candidates tail))

end TextCursor.Template
