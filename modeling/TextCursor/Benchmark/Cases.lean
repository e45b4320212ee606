import TextCursor.Benchmark.Failure
import TextCursor.Log

/-!
Contract: further texts from a configuration document.

Owns: finding the cases in a document of any shape, and what is reported on the way. A case
without a text is skipped.
-/

namespace TextCursor.Benchmark

def casesKey : Text := "cases".toList

def textKey : Text := "text".toList

/-- The text of a case, or nothing if it has none. A case that is not a table can hold the key
but cannot be asked for it. -/
def caseText : Datum → Except Failure (Option Datum)
  | .table entries => .ok (Datum.lookup textKey entries)
  | .text text => if (text.find? textKey).isSome then .error .textCase else .ok none
  | .list items =>
      if items.any (·.same (.text textKey)) then .error .listCase else .ok none
  | datum => .error (.notIterable (kindOf datum))

/-- The cases that have a text, and the records for those that have none. The records are kept
also where a case is unsuitable. -/
def caseTexts (path : String) :
    List (Text × Datum) → List Log.Record × Except Failure (List (String × Datum))
  | [] => ([], .ok [])
  | (name, case) :: later =>
      match caseText case with
      | .error failure => ([], .error failure)
      | .ok (some text) =>
          let rest := caseTexts path later
          (rest.1, rest.2.map ((String.ofList name, text) :: ·))
      | .ok none =>
          let rest := caseTexts path later
          (⟨.warning, s!"Case {String.ofList name} in {path} has no text, skipping"⟩ :: rest.1,
            rest.2)

/-- The cases of a document. A document without cases has an empty table of them. -/
def casesOf (path : String) (document : List (Text × Datum)) :
    List Log.Record × Except Failure (List (String × Datum)) :=
  match (Datum.lookup casesKey document).getD (.table []) with
  | .table entries =>
      match caseTexts path entries with
      | (records, .ok cases) =>
          (records ++ [⟨.info, s!"Loaded {cases.length} cases from {path}"⟩], .ok cases)
      | (records, .error failure) => (records, .error failure)
  | datum => ([], .error (.noItems (kindOf datum)))

/-- Adds cases to texts. A case takes the place of a text of its name; others follow. -/
def withCases {α : Type} (texts : List (String × α)) :
    List (String × α) → List (String × α)
  | [] => texts
  | (name, text) :: later =>
      let added :=
        if texts.any (·.1 == name) then
          texts.map fun entry => if entry.1 == name then (name, text) else entry
        else texts ++ [(name, text)]
      withCases added later

end TextCursor.Benchmark
