import TextCursor.Proofs.Numeral.Written
import TextCursor.Proofs.Template.Reading

/-!
Contract: a reader undoes formatting.

Owns: entries, which are a literal and an item behind some noise; the text that they are written
as; when that text is legible; and that the template of the entries' literals reads the items
back.

Does not own: decimal numbers and clusters as items.
-/

namespace TextCursor.Template

open Cursor

/-! ## Entries -/

/-- What can be written and read back: an integer of any size, or a word. -/
inductive Item where
  | int (value : Int)
  | word (word : Text)
deriving DecidableEq, Repr

namespace Item

def written : Item → Text
  | .int number => Text.ofInt number
  | .word letters => letters

def value : Item → Value
  | .int number => .int number
  | .word letters => .text letters

def parser : Item → Parser
  | .int _ => Parser.int
  | .word _ => Parser.word

def field : Item → Field
  | .int _ => .int
  | .word _ => .word

/-- The item can be told from what stands behind it. -/
def EndsBefore : Item → Text → Prop
  | .int _, behind => ∀ c ∈ behind.head?, Text.isDigit c = false
  | .word letters, behind =>
      (∀ c ∈ letters, Text.isBlank c = false) ∧ ∀ c ∈ behind.head?, Text.isBlank c = true

/-- It is decided on the code points that are there, and not on all that there could be. -/
instance (item : Item) (behind : Text) : Decidable (item.EndsBefore behind) :=
  match item with
  | .int _ => Option.decidableForallMem behind.head?
  | .word letters =>
      @instDecidableAnd _ _ (List.decidableBAll _ letters) (Option.decidableForallMem behind.head?)

/-- An item is taken from the head of a text as it was written there. -/
theorem take_written {item : Item} {behind : Text} (ends : item.EndsBefore behind) :
    item.field.take (item.written ++ behind) = .ok (item.value, behind) := by
  cases item with
  | int number =>
      have reading := Numeral.integerOf_ofInt_append ends number
      have width : (Numeral.integerOf (Text.ofInt number ++ behind)).width =
          (Text.ofInt number).length := by
        rw [reading]
        rfl
      rw [field, written, Field.take, takeNumber, width, reading, if_pos rfl, List.drop_left]
      rfl
  | word letters =>
      obtain ⟨dark, stops⟩ := ends
      have word : headWord (letters ++ behind) = letters := by
        apply Text.takeWhile_append_of_stop
        · intro c member
          rw [dark c member]
          rfl
        · intro c member
          rw [stops c member]
          rfl
      rw [field, written, Field.take, word, List.drop_left]
      rfl

end Item

/-- Noise, a literal and an item, one behind the other. -/
structure Entry where
  noise : Text
  literal : Text
  item : Item
deriving DecidableEq, Repr

/-- The entries as a text, with some text behind the last one. -/
def render : List Entry → (trailing : Text) → Text
  | [], trailing => trailing
  | entry :: later, trailing =>
      entry.noise ++ (entry.literal ++ (entry.item.written ++ render later trailing))

/-- From each entry on, the entry's literal stands behind its noise first of all, and its item
ends where it was meant to. -/
def Legible : List Entry → (trailing : Text) → Prop
  | [], _ => True
  | entry :: later, trailing =>
      (render (entry :: later) trailing).IsLeftmost entry.literal entry.noise.length ∧
        entry.item.EndsBefore (render later trailing) ∧ Legible later trailing

instance decidableLegible :
    (entries : List Entry) → (trailing : Text) → Decidable (Legible entries trailing)
  | [], _ => inferInstanceAs (Decidable True)
  | entry :: later, trailing =>
      have := decidableLegible later trailing
      inferInstanceAs (Decidable
        ((render (entry :: later) trailing).IsLeftmost entry.literal entry.noise.length ∧
          entry.item.EndsBefore (render later trailing) ∧ Legible later trailing))

/-- The template with the entries' literals and a parser for each item. -/
def templateOf (entries : List Entry) (tail : Text) : Template :=
  ⟨entries.map fun entry => ⟨entry.literal, entry.item.parser⟩, tail⟩

def layoutOf : List Entry → Layout
  | [] => .done
  | entry :: later => .slot entry.literal entry.item.field (layoutOf later)

/-! ## Reading back -/

theorem read_render {entries : List Entry} {trailing : Text} (legible : Legible entries trailing) :
    (layoutOf entries).read (render entries trailing) =
      .ok (entries.map fun entry => entry.item.value) := by
  induction entries with
  | nil =>
      rw [layoutOf, Layout.read]
      rfl
  | cons entry later inductionHypothesis =>
      obtain ⟨leftmost, ends, laterLegible⟩ := legible
      have skipped := skipPast_of_isLeftmost leftmost
      rw [render, layoutOf, Layout.read, skipped, ok_bind, Item.take_written ends, ok_bind,
        inductionHypothesis laterLegible]
      rfl

theorem Item.fills (item : Item) (pool : Pool) (below : Nat) :
    Fills pool below item.parser item.field := by
  cases item with
  | int => exact .int
  | word => exact .word

theorem reads_templateOf (entries : List Entry) (tail : Text) (pool : Pool) (below : Nat) :
    Reads pool below (templateOf entries tail).slots (layoutOf entries) := by
  induction entries with
  | nil => exact .nil
  | cons entry later inductionHypothesis =>
      exact .cons (entry.item.fills pool below) inductionHypothesis

/-- "log: n=-42 name=x-y end": the second entry is an empty word behind an empty literal. -/
def settingEntries : List Entry :=
  [⟨"log: ".toList, "n=".toList, .int (-42)⟩, ⟨[], [], .word []⟩,
    ⟨" na".toList, "me=".toList, .word "x-y".toList⟩]

/-- An idle reader for the entries' literals, with any tail, reads the items of a legible text,
and nothing else. -/
theorem apply_render {pool : Pool} {id : Nat} {entries : List Entry} {tail trailing : Text}
    (inPool : id < pool.readers.length) (idle : (pool.reader id).running = false)
    (template : (pool.reader id).template = templateOf entries tail)
    (legible : Legible entries trailing) {input : Input} (inside : input.Inside)
    (content : input.content = render entries trailing) :
    ((Run.apply id input).on pool).1 = .ok (entries.map fun entry => entry.item.value) := by
  have slots := reads_templateOf entries tail pool id
  rw [← template] at slots
  have makes : pool.Makes id (layoutOf entries) := ⟨inPool, idle, slots⟩
  obtain ⟨after, ran⟩ := makes.on_apply inside
  rw [ran, content, read_render legible]

theorem apply_render_settings :
    let template := templateOf settingEntries ['!']
    let pool := ((Run.enroll template).on {}).2
    (0 < pool.readers.length ∧ (pool.reader 0).running = false ∧
      (pool.reader 0).template = template ∧ Legible settingEntries " end".toList) ∧
      ((Run.apply 0 (.text "log: n=-42 name=x-y end".toList)).on pool).1 =
        .ok [.int (-42), .text [], .text "x-y".toList] := by
  have legible : Legible settingEntries " end".toList := by decide
  refine ⟨⟨by decide, rfl, rfl, legible⟩, ?_⟩
  exact apply_render (by decide) rfl rfl legible trivial rfl

end TextCursor.Template
