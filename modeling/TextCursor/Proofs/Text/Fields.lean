import TextCursor.Text.Basic

/-!
Contract: lists cut at a separator that is a list itself.

Owns: the fields of a list, found in one pass from the left; the parts around the leftmost
separator; and that cutting there again and again finds the same fields.

Does not own: what the items are. A separator of no items is left out, since it occurs
everywhere.
-/

namespace TextCursor

theorem intercalate_concat {α : Type} {separator : List α} (init : List (List α))
    (more : init ≠ []) (last : List α) :
    separator.intercalate (init ++ [last]) = separator.intercalate init ++ separator ++ last := by
  induction init with
  | nil => contradiction
  | cons field later inductionHypothesis =>
      by_cases single : later = []
      · rw [single]
        simp [List.intercalate]
      · have longer : later ++ [last] ≠ [] := List.append_ne_nil_of_right_ne_nil _ (by simp)
        rw [List.cons_append, List.intercalate_cons_of_ne_nil longer,
          List.intercalate_cons_of_ne_nil single, inductionHypothesis single]
        simp only [List.append_assoc]

variable {α : Type} [DecidableEq α]

/-- The fields of a list whose first field begins with `field`. Separators are leftmost and do
not overlap: the pass goes on behind each one. -/
def fieldsFrom (separator field : List α) : List α → List (List α)
  | [] => [field]
  | item :: later =>
      if separator <+: item :: later then
        field :: fieldsFrom separator [] (later.drop (separator.length - 1))
      else fieldsFrom separator (field ++ [item]) later
termination_by items => items.length

/-- The fields of a list. There is one more than there are separators. -/
def fields (separator items : List α) : List (List α) := fieldsFrom separator [] items

/-- Fields without an empty one at the end. -/
def withoutFinalEmpty (fields : List (List α)) : List (List α) :=
  if fields.getLast? = some [] then fields.dropLast else fields

/-- What comes before the leftmost separator, and what comes behind it. -/
def cut? (separator : List α) : List α → Option (List α × List α)
  | [] => none
  | item :: later =>
      if separator <+: item :: later then some ([], (item :: later).drop separator.length)
      else (cut? separator later).map fun parts => (item :: parts.1, parts.2)

variable {separator : List α}

theorem not_infix_of_cut?_eq_none (nonempty : separator ≠ []) {items : List α}
    (uncut : cut? separator items = none) : ¬separator <:+: items := by
  induction items with
  | nil => simpa using nonempty
  | cons item later inductionHypothesis =>
      by_cases here : separator <+: item :: later
      · rw [cut?, if_pos here] at uncut
        contradiction
      · rw [cut?, if_neg here, Option.map_eq_none_iff] at uncut
        intro occurs
        rcases List.infix_cons_iff.mp occurs with first | inLater
        · exact here first
        · exact inductionHypothesis uncut inLater

/-- The parts and the separator make up the list. -/
theorem append_of_cut?_eq_some {items before after : List α}
    (cut : cut? separator items = some (before, after)) : items = before ++ separator ++ after := by
  induction items generalizing before with
  | nil => contradiction
  | cons item later inductionHypothesis =>
      by_cases here : separator <+: item :: later
      · rw [cut?, if_pos here] at cut
        obtain ⟨rfl, rfl⟩ := Prod.mk.inj (Option.some.inj cut)
        exact (List.prefix_iff_eq_append.mp here).symm
      · rw [cut?, if_neg here, Option.map_eq_some_iff] at cut
        obtain ⟨⟨beforeLater, afterLater⟩, cutLater, equal⟩ := cut
        obtain ⟨rfl, rfl⟩ := Prod.mk.inj equal
        rw [inductionHypothesis cutLater]
        rfl

/-- The first part holds no separator. -/
theorem not_infix_of_cut?_eq_some (nonempty : separator ≠ []) {items before after : List α}
    (cut : cut? separator items = some (before, after)) : ¬separator <:+: before := by
  induction items generalizing before with
  | nil => contradiction
  | cons item later inductionHypothesis =>
      by_cases here : separator <+: item :: later
      · rw [cut?, if_pos here] at cut
        obtain ⟨rfl, rfl⟩ := Prod.mk.inj (Option.some.inj cut)
        simpa using nonempty
      · rw [cut?, if_neg here, Option.map_eq_some_iff] at cut
        obtain ⟨⟨beforeLater, afterLater⟩, cutLater, equal⟩ := cut
        obtain ⟨rfl, rfl⟩ := Prod.mk.inj equal
        intro occurs
        rcases List.infix_cons_iff.mp occurs with first | inLater
        · -- A separator at the head of the first part would have been found at once.
          apply here
          rw [append_of_cut?_eq_some cutLater, List.append_assoc]
          exact first.trans (List.prefix_append _ _)
        · exact inductionHypothesis cutLater inLater

/-- No separator stands further left than the one that is cut at. -/
theorem length_le_of_cut?_eq_some {items before after : List α}
    (cut : cut? separator items = some (before, after)) {left right : List α}
    (split : items = left ++ separator ++ right) : before.length ≤ left.length := by
  induction items generalizing before after left with
  | nil => contradiction
  | cons item later inductionHypothesis =>
      by_cases here : separator <+: item :: later
      · rw [cut?, if_pos here] at cut
        obtain ⟨rfl, -⟩ := Prod.mk.inj (Option.some.inj cut)
        exact Nat.zero_le _
      · rw [cut?, if_neg here, Option.map_eq_some_iff] at cut
        obtain ⟨⟨beforeLater, afterLater⟩, cutLater, equal⟩ := cut
        obtain ⟨rfl, rfl⟩ := Prod.mk.inj equal
        cases left with
        | nil => exact absurd ⟨right, split.symm⟩ here
        | cons head left =>
            obtain ⟨-, splitLater⟩ := List.cons.inj split
            exact Nat.succ_le_succ (inductionHypothesis cutLater splitLater)

/-- One pass finds what cutting at the leftmost separator finds, and goes on behind it. -/
theorem fieldsFrom_eq (nonempty : separator ≠ []) (field items : List α) :
    fieldsFrom separator field items =
      match cut? separator items with
      | none => [field ++ items]
      | some (before, after) => (field ++ before) :: fieldsFrom separator [] after := by
  induction items generalizing field with
  | nil => rw [fieldsFrom, cut?, List.append_nil]
  | cons item later inductionHypothesis =>
      rw [fieldsFrom, cut?]
      by_cases here : separator <+: item :: later
      · obtain ⟨width, widthEq⟩ : ∃ width, separator.length = width + 1 :=
          Nat.exists_eq_succ_of_ne_zero (mt List.eq_nil_of_length_eq_zero nonempty)
        rw [if_pos here, if_pos here, widthEq]
        simp
      · rw [if_neg here, if_neg here, inductionHypothesis]
        cases cut? separator later with
        | none => simp
        | some parts => simp

/-- What holds of every list without a separator, and of every list if it holds of the part
behind its leftmost separator, holds of all lists. -/
theorem cut_induction (nonempty : separator ≠ []) {motive : List α → Prop}
    (uncut : ∀ items, cut? separator items = none → motive items)
    (cut : ∀ items before after, cut? separator items = some (before, after) → motive after →
      motive items)
    (items : List α) : motive items := by
  cases parts : cut? separator items with
  | none => exact uncut items parts
  | some found =>
      obtain ⟨before, after⟩ := found
      have shorter : after.length < items.length := by
        have positive := List.length_pos_iff.mpr nonempty
        rw [append_of_cut?_eq_some parts]
        simp only [List.length_append]
        omega
      exact cut items before after parts (cut_induction nonempty uncut cut after)
termination_by items.length

/-! ## The fields of a list -/

theorem fields_of_uncut (nonempty : separator ≠ []) {items : List α}
    (uncut : cut? separator items = none) : fields separator items = [items] := by
  rw [fields, fieldsFrom_eq nonempty, uncut, List.nil_append]

theorem fields_of_cut (nonempty : separator ≠ []) {items before after : List α}
    (cut : cut? separator items = some (before, after)) :
    fields separator items = before :: fields separator after := by
  rw [fields, fieldsFrom_eq nonempty, cut, List.nil_append]
  rfl

theorem fields_ne_nil (nonempty : separator ≠ []) (items : List α) :
    fields separator items ≠ [] := by
  cases parts : cut? separator items with
  | none =>
      rw [fields_of_uncut nonempty parts]
      exact List.cons_ne_nil _ _
  | some found =>
      rw [fields_of_cut nonempty parts]
      exact List.cons_ne_nil _ _

/-- The fields with the separator between neighbours are the list. -/
theorem intercalate_fields (nonempty : separator ≠ []) (items : List α) :
    separator.intercalate (fields separator items) = items := by
  induction items using cut_induction nonempty with
  | uncut items uncut => rw [fields_of_uncut nonempty uncut, List.intercalate_singleton]
  | cut items before after cut rejoined =>
      rw [fields_of_cut nonempty cut,
        List.intercalate_cons_of_ne_nil (fields_ne_nil nonempty after), rejoined]
      exact (append_of_cut?_eq_some cut).symm

theorem not_infix_of_mem_fields (nonempty : separator ≠ []) (items : List α) :
    ∀ field ∈ fields separator items, ¬separator <:+: field := by
  induction items using cut_induction nonempty with
  | uncut items uncut =>
      intro field member
      rw [fields_of_uncut nonempty uncut, List.mem_singleton] at member
      rw [member]
      exact not_infix_of_cut?_eq_none nonempty uncut
  | cut items before after cut absent =>
      intro field member
      rw [fields_of_cut nonempty cut] at member
      rcases List.mem_cons.mp member with equal | later
      · rw [equal]
        exact not_infix_of_cut?_eq_some nonempty cut
      · exact absent field later

/-! ## Without an empty field at the end -/

theorem withoutFinalEmpty_cons {field : List α} {later : List (List α)} (more : later ≠ []) :
    withoutFinalEmpty (field :: later) = field :: withoutFinalEmpty later := by
  obtain ⟨next, rest, rfl⟩ := List.exists_cons_of_ne_nil more
  simp only [withoutFinalEmpty, List.getLast?_cons_cons, List.dropLast_cons_cons]
  split
  · rfl
  · rfl

theorem mem_of_mem_withoutFinalEmpty {fields : List (List α)} {field : List α}
    (member : field ∈ withoutFinalEmpty fields) : field ∈ fields := by
  unfold withoutFinalEmpty at member
  split at member
  · exact List.dropLast_subset _ member
  · exact member

/-- Only a final separator can be missing. -/
theorem intercalate_withoutFinalEmpty (separator : List α) (fields : List (List α)) :
    separator.intercalate (withoutFinalEmpty fields) = separator.intercalate fields ∨
      separator.intercalate (withoutFinalEmpty fields) ++ separator =
        separator.intercalate fields := by
  unfold withoutFinalEmpty
  by_cases empty : fields.getLast? = some []
  · rw [if_pos empty]
    obtain ⟨init, rfl⟩ := List.getLast?_eq_some_iff.mp empty
    rw [List.dropLast_concat]
    by_cases single : init = []
    · left
      rw [single]
      rfl
    · right
      rw [intercalate_concat _ single, List.append_nil]
  · rw [if_neg empty]
    exact Or.inl rfl

end TextCursor
