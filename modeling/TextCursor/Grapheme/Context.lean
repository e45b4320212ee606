import TextCursor.Grapheme.BreakClass

/-!
Contract: the cluster rules as an automaton that remembers one cluster.

Owns: what must be known of the current cluster to decide whether the next code point joins it.

Three rules look back further than one code point. Each depends on a run that lies within the
current cluster, so one `Run` beside the last class is enough, and a break may forget it.
-/

namespace TextCursor.Grapheme

/-- The run that the current cluster ends with. -/
inductive Run where
  | plain
  | loneRegional
  /-- A pictograph with extending code points after it. -/
  | pictograph
  /-- Such a run with a joiner at its end. -/
  | joinedPictograph
  /-- A consonant with fillers after it, none of them a linker. -/
  | consonant
  /-- A consonant with fillers after it, at least one of them a linker. -/
  | linkedConsonant
deriving DecidableEq, Repr

namespace Run

/-- The run that a code point begins. -/
def start : BreakClass → Run
  | .regional => loneRegional
  | .pictographic => pictograph
  | .consonant => consonant
  | _ => plain

/-- The run after a code point that joins the cluster. -/
def next : Run → BreakClass → Run
  | loneRegional, .regional => plain
  | pictograph, .extend | pictograph, .nonJoiner | pictograph, .linker => pictograph
  | pictograph, .joiner => joinedPictograph
  | consonant, .extend | consonant, .joiner => consonant
  | consonant, .linker => linkedConsonant
  | linkedConsonant, .extend | linkedConsonant, .joiner => linkedConsonant
  | linkedConsonant, .linker => linkedConsonant
  | _, breakClass => start breakClass

end Run

/-- What is remembered of the current cluster. -/
structure Context where
  last : BreakClass
  run : Run
deriving DecidableEq, Repr

namespace Context

def start (breakClass : BreakClass) : Context := ⟨breakClass, .start breakClass⟩

/-- Whether the next code point stays in the current cluster. -/
def joins (context : Context) (next : BreakClass) : Bool :=
  if context.last = .carriageReturn ∧ next = .lineFeed then true
  else if context.last.isControl || next.isControl then false
  else if next.clings || context.last = .prepended then true
  else if context.last.sameSyllable next then true
  else match context.run, next with
    | .loneRegional, .regional => true
    | .joinedPictograph, .pictographic => true
    | .linkedConsonant, .consonant => true
    | _, _ => false

def extend (context : Context) (next : BreakClass) : Context := ⟨next, context.run.next next⟩

end Context

end TextCursor.Grapheme
