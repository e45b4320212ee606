import TextCursor.Proofs.Script.Deque

/-!
Contract: runs of accepted code points at either end of a window, from any cursor that a script
makes.

Owns: the run that a predicate accepts, that the operations with a predicate ask about just this run
and the first code point that ends it, and that they yield the run and leave the rest.

A predicate may remember what it was asked. It answers for what it was asked before in the same
walk, so two walks from the same state are walks with the same predicate.

Does not own: what is done with a run of blanks or of digits.
-/

namespace TextCursor

/-! ## Accepted runs -/

namespace Predicate

/-- Asked about one code point after another, beyond the `earlier` ones, the predicate accepts
them all. -/
def AcceptsAll (accepts : Predicate) (earlier : Text) : Text → Prop
  | [] => True
  | c :: later => accepts earlier c = .ok true ∧ accepts.AcceptsAll (c :: earlier) later

/-- A text is parted into the code points that the predicate accepts from its beginning on, and
what begins with the first one that it does not accept. -/
structure Splits (accepts : Predicate) (text accepted rest : Text) : Prop where
  append : text = accepted ++ rest
  acceptsAll : accepts.AcceptsAll [] accepted
  ends : ∀ c ∈ rest.head?, accepts accepted.reverse c ≠ .ok true

/-- The predicate, but that call number `count` fails. The error may tell about the call. -/
def failingAt (accepts : Predicate) (count : Nat) (failure : Text → Char → Error) : Predicate :=
  fun earlier c => if earlier.length = count then .error (failure earlier c) else accepts earlier c

variable {accepts : Predicate}

theorem AcceptsAll.left {earlier front behind : Text}
    (acceptsAll : accepts.AcceptsAll earlier (front ++ behind)) :
    accepts.AcceptsAll earlier front := by
  induction front generalizing earlier with
  | nil => trivial
  | cons c later inductionHypothesis => exact ⟨acceptsAll.1, inductionHypothesis acceptsAll.2⟩

/-- As many calls as there are code points do not come to a later one. -/
theorem AcceptsAll.failingAt {earlier text : Text} (acceptsAll : accepts.AcceptsAll earlier text)
    {count : Nat} (few : earlier.length + text.length ≤ count) (failure : Text → Char → Error) :
    (accepts.failingAt count failure).AcceptsAll earlier text := by
  induction text generalizing earlier with
  | nil => trivial
  | cons c later inductionHypothesis =>
      rw [List.length_cons] at few
      have notYet : earlier.length ≠ count := by omega
      have further : (c :: earlier).length + later.length ≤ count := by
        rw [List.length_cons]
        omega
      exact ⟨(if_neg notYet).trans acceptsAll.1, inductionHypothesis acceptsAll.2 further⟩

theorem exists_splits (accepts : Predicate) (earlier text : Text) :
    ∃ accepted rest, text = accepted ++ rest ∧ accepts.AcceptsAll earlier accepted ∧
      ∀ c ∈ rest.head?, accepts (accepted.reverse ++ earlier) c ≠ .ok true := by
  induction text generalizing earlier with
  | nil => exact ⟨[], [], rfl, trivial, nofun⟩
  | cons c later inductionHypothesis =>
      by_cases accepted : accepts earlier c = .ok true
      · obtain ⟨run, rest, append, acceptsAll, ends⟩ := inductionHypothesis (c :: earlier)
        refine ⟨c :: run, rest, congrArg (c :: ·) append, ⟨accepted, acceptsAll⟩, ?_⟩
        rw [List.reverse_cons, List.append_assoc]
        exact ends
      · refine ⟨[], c :: later, rfl, trivial, ?_⟩
        intro first head
        obtain rfl := Option.some.inj head
        exact accepted

namespace Splits

variable {text accepted rest : Text} (splits : accepts.Splits text accepted rest)

include splits

/-- What is asked about stands at the beginning of the text. -/
theorem calls_isPrefix : accepted ++ rest.head?.toList <+: text := by
  rw [splits.append, List.prefix_append_right_inj]
  cases rest with
  | nil => exact List.nil_prefix
  | cons c later => exact ⟨later, rfl⟩

/-- A call that fails is the last one: the run is cut off before it. -/
theorem of_failing_call {count : Nat} {c : Char}
    (call : (accepted ++ rest.head?.toList)[count]? = some c) (failure : Text → Char → Error) :
    (accepts.failingAt count failure).Splits text
        ((accepted ++ rest.head?.toList).take count) (text.drop count) ∧
      (text.drop count).head? = some c ∧
      accepts.failingAt count failure ((accepted ++ rest.head?.toList).take count).reverse c =
        .error (failure ((accepted ++ rest.head?.toList).take count).reverse c) := by
  have inCalls := (List.getElem?_eq_some_iff.mp call).1
  -- Only the last call is not about the run, so all calls before this one were accepted.
  have few : count ≤ accepted.length := by
    rw [List.length_append] at inCalls
    have atMostOne : rest.head?.toList.length ≤ 1 := by cases rest.head? <;> simp
    omega
  have before : (accepted ++ rest.head?.toList).take count = accepted.take count :=
    List.take_append_of_le_length few
  have append : text = accepted.take count ++ text.drop count := by
    have front : text.take count = accepted.take count := by
      rw [splits.append, List.take_append_of_le_length few]
    rw [← front, List.take_append_drop]
  have acceptsAll : accepts.AcceptsAll [] (accepted.take count) :=
    AcceptsAll.left (List.take_append_drop count accepted ▸ splits.acceptsAll)
  have head : (text.drop count).head? = some c := by
    obtain ⟨later, calls⟩ := splits.calls_isPrefix
    rw [List.head?_drop, ← calls, List.getElem?_append_left inCalls, call]
  have size : (accepted.take count).length = count := List.length_take_of_le few
  have now : (accepted.take count).reverse.length = count := by rw [List.length_reverse, size]
  rw [before]
  refine ⟨⟨append, acceptsAll.failingAt ?_ failure, ?_⟩, head, if_pos now⟩
  · rw [List.length_nil, Nat.zero_add, size]
  · intro other _
    rw [Predicate.failingAt, if_pos now]
    exact nofun

/-- The failure of a call that is never made changes nothing. -/
theorem of_failing_never {count : Nat} (few : (accepted ++ rest.head?.toList).length ≤ count)
    (failure : Text → Char → Error) :
    (accepts.failingAt count failure).Splits text accepted rest ∧
      ∀ c ∈ rest.head?, accepts.failingAt count failure accepted.reverse c =
        accepts accepted.reverse c := by
  rw [List.length_append] at few
  have same : ∀ c ∈ rest.head?, accepts.failingAt count failure accepted.reverse c =
      accepts accepted.reverse c := by
    intro c head
    rw [Option.mem_def.mp head, Option.toList_some, List.length_singleton] at few
    have notYet : accepted.reverse.length ≠ count := by
      rw [List.length_reverse]
      omega
    exact if_neg notYet
  refine ⟨⟨splits.append, splits.acceptsAll.failingAt ?_ failure, ?_⟩, same⟩
  · rw [List.length_nil]
    omega
  · intro c head
    rw [same c head]
    exact splits.ends c head

end Splits

end Predicate

namespace Walk

variable {accepts : Predicate}

/-- A walk goes through what is accepted. -/
theorem through_append {earlier accepted : Text} (acceptsAll : accepts.AcceptsAll earlier accepted)
    (rest : Text) :
    through accepts earlier (accepted ++ rest) =
      through accepts (accepted.reverse ++ earlier) rest := by
  induction accepted generalizing earlier with
  | nil => rfl
  | cons c later inductionHypothesis =>
      have further := inductionHypothesis acceptsAll.2
      rw [List.reverse_cons, List.append_assoc, List.singleton_append, ← further]
      simp only [List.cons_append, through, acceptsAll.1]

/-- A walk comes to the first code point that is not accepted. It has then accepted what is before
that, or it fails there. -/
theorem through_eq_of_splits {text accepted rest : Text}
    (splits : accepts.Splits text accepted rest) :
    through accepts [] text = ⟨accepted ++ rest.head?.toList,
      match rest.head? with
      | none => .ok accepted.length
      | some c => (accepts accepted.reverse c).map fun _ => accepted.length⟩ := by
  rw [splits.append, through_append splits.acceptsAll, List.append_nil]
  cases rest with
  | nil => simp [through]
  | cons c later =>
      have ends := splits.ends c rfl
      cases answer : accepts accepted.reverse c with
      | error error => simp [through, answer, Except.map]
      | ok verdict =>
          cases verdict with
          | false => simp [through, answer, Except.map]
          | true => exact absurd answer ends

end Walk

namespace Script

open Edit Cursor

/-! ## The two ends of a window -/

namespace Side

/-- The code points of a text in the order in which they come from this end. -/
def facing (text : Text) : Side → Text
  | front => text
  | back => text.reverse

/-- The operation that looks at the accepted run at this end. -/
def takeWhile (accepts : Predicate) : Side → Operation
  | front => .takeFrontWhile accepts
  | back => .takeBackWhile accepts

/-- The operation that removes the accepted run from this end. -/
def popWhile (accepts : Predicate) : Side → Operation
  | front => .popFrontWhile accepts
  | back => .popBackWhile accepts

def walk (cursor : Cursor) (accepts : Predicate) : Side → Walk
  | front => cursor.walkFront accepts
  | back => cursor.walkBack accepts

/-- A new cursor over as many code points at this end. -/
def piece (cursor : Cursor) (size : Nat) : Side → Cursor
  | front => cursor.windowAt cursor.start size
  | back => cursor.windowAt (cursor.start + cursor.size - size) size

/-- A new cursor over the window without as many code points at this end. -/
def rest (cursor : Cursor) (size : Nat) : Side → Cursor
  | front => cursor.windowAt (cursor.start + size) (cursor.size - size)
  | back => cursor.windowAt cursor.start (cursor.size - size)

theorem facing_facing (side : Side) (text : Text) : side.facing (side.facing text) = text := by
  cases side with
  | front => rfl
  | back => exact List.reverse_reverse text

theorem length_facing (side : Side) (text : Text) :
    (side.facing text).length = text.length := by
  cases side with
  | front => rfl
  | back => exact List.length_reverse

end Side

/-- Both operations of an end yield the accepted run as a new cursor. One of them leaves the cursor
as it is, and the other leaves what remains of the window. -/
structure Serves (side : Side) (accepts : Predicate) (cursor : Cursor) (accepted rest : Text) :
    Prop where
  taken : (side.takeWhile accepts).run.on cursor =
    (.ok (.value (.cursor (side.piece cursor accepted.length))), cursor)
  popped : (side.popWhile accepts).run.on cursor =
    (.ok (.value (.cursor (side.piece cursor accepted.length))), side.rest cursor accepted.length)
  yields : side.facing (side.piece cursor accepted.length).content = accepted
  leaves : side.facing (side.rest cursor accepted.length).content = rest

/-- Both operations of an end fail, and neither of them moves anything. -/
structure Fails (side : Side) (accepts : Predicate) (cursor : Cursor) (error : Error) : Prop where
  taken : (side.takeWhile accepts).run.on cursor = (.error error, cursor)
  popped : (side.popWhile accepts).run.on cursor = (.error error, cursor)

/-- Both operations of an end make just these calls, in this order. If any of them fails, then so
do the operations, and the failure of a later call would go unnoticed. -/
structure Asks (side : Side) (accepts : Predicate) (cursor : Cursor) (calls : Text) : Prop where
  taken : (side.takeWhile accepts).calls cursor = some calls
  popped : (side.popWhile accepts).calls cursor = some calls
  inWindow : calls <+: side.facing cursor.content
  interrupted : ∀ count c, calls[count]? = some c → ∀ failure,
    Fails side (accepts.failingAt count failure) cursor (failure (calls.take count).reverse c)
  finished : ∀ count, calls.length ≤ count → ∀ failure,
    (side.takeWhile (accepts.failingAt count failure)).run.on cursor =
        (side.takeWhile accepts).run.on cursor ∧
      (side.popWhile (accepts.failingAt count failure)).run.on cursor =
        (side.popWhile accepts).run.on cursor

section Ends

variable {side : Side} {cursor : Cursor} {accepts : Predicate} {accepted rest : Text}

theorem Side.walk_eq (inside : cursor.Inside) :
    side.walk cursor accepts = .through accepts [] (side.facing cursor.content) := by
  cases side with
  | front => exact walkFront_eq inside accepts
  | back => exact walkBack_eq inside accepts

theorem Side.calls_eq (side : Side) (cursor : Cursor) (accepts : Predicate) :
    (side.takeWhile accepts).calls cursor = some (side.walk cursor accepts).calls ∧
      (side.popWhile accepts).calls cursor = some (side.walk cursor accepts).calls := by
  cases side with
  | front => exact ⟨rfl, rfl⟩
  | back => exact ⟨rfl, rfl⟩

/-- Predicates with which the walk is the same are the same to both operations. -/
theorem Side.on_congr {other : Predicate} (same : side.walk cursor other = side.walk cursor accepts) :
    (side.takeWhile other).run.on cursor = (side.takeWhile accepts).run.on cursor ∧
      (side.popWhile other).run.on cursor = (side.popWhile accepts).run.on cursor := by
  cases side with
  | front =>
      have walks : cursor.walkFront other = cursor.walkFront accepts := same
      simp only [takeWhile, popWhile, Operation.run, askCursor, answer, takeFrontWhile,
        popFrontWhile, on_bind, on_get, on_ofExcept, walks, and_self]
  | back =>
      have walks : cursor.walkBack other = cursor.walkBack accepts := same
      simp only [takeWhile, popWhile, Operation.run, askCursor, answer, takeBackWhile,
        popBackWhile, on_bind, on_get, on_ofExcept, walks, and_self]

/-- The windows at the two ends read what stands there. -/
theorem Side.holds_piece (inside : cursor.Inside) {size : Nat}
    (fits : size ≤ cursor.content.length) :
    (side.piece cursor size).Holds (side.facing ((side.facing cursor.content).take size)) := by
  cases side with
  | front =>
      have holds := inside.holds_front fits
      rw [part_front] at holds
      exact holds
  | back =>
      have holds := inside.holds_back (Nat.sub_le cursor.content.length size)
      rw [Nat.sub_sub_self fits, inside.part_back fits] at holds
      rw [facing, facing, List.take_reverse, List.reverse_reverse]
      exact holds

theorem Side.holds_rest (inside : cursor.Inside) {size : Nat}
    (fits : size ≤ cursor.content.length) :
    (side.rest cursor size).Holds (side.facing ((side.facing cursor.content).drop size)) := by
  cases side with
  | front =>
      have holds := inside.holds_back fits
      rw [inside.part_behind fits] at holds
      exact holds
  | back =>
      have holds := inside.holds_front (Nat.sub_le cursor.content.length size)
      rw [inside.part_before fits] at holds
      rw [facing, facing, List.drop_reverse, List.reverse_reverse]
      exact holds

theorem Side.on_of_outcome (inside : cursor.Inside) {count : Nat}
    (fits : count ≤ cursor.content.length)
    (walked : (side.walk cursor accepts).outcome = .ok count) :
    (side.takeWhile accepts).run.on cursor =
        (.ok (.value (.cursor (side.piece cursor count))), cursor) ∧
      (side.popWhile accepts).run.on cursor =
        (.ok (.value (.cursor (side.piece cursor count))), side.rest cursor count) := by
  cases side with
  | front =>
      obtain ⟨taken, popped⟩ := takeFrontWhile_eq inside fits walked
      rw [part_front] at taken popped
      rw [inside.part_behind fits] at popped
      exact ⟨on_askCursor (·.takeFrontWhile accepts) taken, on_answer .cursor popped⟩
  | back =>
      obtain ⟨taken, popped⟩ := takeBackWhile_eq inside fits walked
      rw [inside.part_back fits] at taken popped
      rw [inside.part_before fits] at popped
      exact ⟨on_askCursor (·.takeBackWhile accepts) taken, on_answer .cursor popped⟩

theorem Side.fails_of_outcome {error : Error}
    (walked : (side.walk cursor accepts).outcome = .error error) :
    Fails side accepts cursor error := by
  cases side with
  | front =>
      obtain ⟨taken, popped⟩ := takeFrontWhile_of_error walked
      exact ⟨on_askCursor (·.takeFrontWhile accepts) taken, on_answer .cursor popped⟩
  | back =>
      obtain ⟨taken, popped⟩ := takeBackWhile_of_error walked
      exact ⟨on_askCursor (·.takeBackWhile accepts) taken, on_answer .cursor popped⟩

end Ends

/-! ## Walks -/

section Walks

variable {side : Side} {cursor : Cursor} {accepts : Predicate} {accepted rest : Text}
  (inside : cursor.Inside) (splits : accepts.Splits (side.facing cursor.content) accepted rest)

include splits in
theorem length_le_of_splits : accepted.length ≤ cursor.content.length := by
  rw [← side.length_facing cursor.content, splits.append]
  exact (List.prefix_append accepted rest).length_le

include inside splits

theorem walk_eq_of_splits : side.walk cursor accepts = ⟨accepted ++ rest.head?.toList,
    match rest.head? with
    | none => .ok accepted.length
    | some c => (accepts accepted.reverse c).map fun _ => accepted.length⟩ := by
  rw [Side.walk_eq inside, Walk.through_eq_of_splits splits]

theorem serves_of_splits (answered : ∀ c ∈ rest.head?, accepts accepted.reverse c = .ok false) :
    Serves side accepts cursor accepted rest := by
  have walked : (side.walk cursor accepts).outcome = .ok accepted.length := by
    rw [walk_eq_of_splits inside splits]
    cases head : rest.head? with
    | none => rfl
    | some c =>
        show (accepts accepted.reverse c).map _ = _
        rw [answered c head]
        rfl
  have fits := length_le_of_splits splits
  obtain ⟨taken, popped⟩ := Side.on_of_outcome inside fits walked
  refine ⟨taken, popped, ?_, ?_⟩
  · rw [(side.holds_piece inside fits).content, side.facing_facing, splits.append, List.take_left]
  · rw [(side.holds_rest inside fits).content, side.facing_facing, splits.append, List.drop_left]

theorem fails_of_splits {c : Char} (head : rest.head? = some c) {error : Error}
    (failed : accepts accepted.reverse c = .error error) : Fails side accepts cursor error := by
  apply Side.fails_of_outcome
  rw [walk_eq_of_splits inside splits, head]
  show (accepts accepted.reverse c).map _ = _
  rw [failed]
  rfl

theorem asks_of_splits : Asks side accepts cursor (accepted ++ rest.head?.toList) := by
  have walked := walk_eq_of_splits inside splits
  obtain ⟨taken, popped⟩ := side.calls_eq cursor accepts
  rw [walked] at taken popped
  refine ⟨taken, popped, splits.calls_isPrefix, ?_, ?_⟩
  · intro count c call failure
    obtain ⟨failing, head, failed⟩ := splits.of_failing_call call failure
    exact fails_of_splits inside failing head failed
  · intro count few failure
    obtain ⟨failing, same⟩ := splits.of_failing_never few failure
    apply Side.on_congr
    rw [walk_eq_of_splits inside failing, walked]
    cases head : rest.head? with
    | none => rfl
    | some c => simp only [same c head]

end Walks

/-- From any cursor that a script made, at either end and with any predicate, the two operations ask
about the accepted code points and the one that ends the run, each once and in order, and no other.
If all are answered, both yield just the run, and what is removed leaves just the rest; where the
answers do not depend on what was asked before, a second removal yields nothing. If the last call
fails, so do both, and nothing moves. -/
theorem Reachable.walks_stop_at_first_refusal {cursor : Cursor} (reachable : Reachable cursor)
    (side : Side) (accepts : Predicate) :
    (∃ accepted rest, accepts.Splits (side.facing cursor.content) accepted rest) ∧
      ∀ accepted rest, accepts.Splits (side.facing cursor.content) accepted rest →
        Asks side accepts cursor (accepted ++ rest.head?.toList) ∧
          ((∀ c ∈ rest.head?, accepts accepted.reverse c = .ok false) →
            Serves side accepts cursor accepted rest ∧
              ((∀ earlier c, accepts earlier c = accepts [] c) →
                Serves side accepts (side.rest cursor accepted.length) [] rest)) ∧
          ∀ c ∈ rest.head?, ∀ error, accepts accepted.reverse c = .error error →
            Fails side accepts cursor error := by
  have inside := reachable.sound.inside
  constructor
  · obtain ⟨accepted, rest, append, acceptsAll, ends⟩ :=
      accepts.exists_splits [] (side.facing cursor.content)
    rw [List.append_nil] at ends
    exact ⟨accepted, rest, append, acceptsAll, ends⟩
  · intro accepted rest splits
    refine ⟨asks_of_splits inside splits, ?_, fun _ head _ => fails_of_splits inside splits head⟩
    intro answered
    have serves := serves_of_splits inside splits answered
    refine ⟨serves, fun stateless => ?_⟩
    have fits := length_le_of_splits splits
    have refused : ∀ c ∈ rest.head?, accepts [] c = .ok false := by
      intro c head
      rw [← stateless accepted.reverse c]
      exact answered c head
    have again : accepts.Splits (side.facing (side.rest cursor accepted.length).content) [] rest := by
      rw [serves.leaves]
      refine ⟨rfl, trivial, ?_⟩
      intro c head accepts
      rw [List.reverse_nil, refused c head] at accepts
      contradiction
    exact serves_of_splits (side.holds_rest inside fits).inside again refused

/-- A predicate that accepts two code points, whatever they are, at the end of a window with more
text behind it. -/
theorem walks_stop_at_first_refusal_counting :
    let cursor : Cursor := { source := "abcde".toList, start := 1, size := 3 }
    let accepts : Predicate := fun earlier _ => .ok (earlier.length < 2)
    Reachable cursor ∧ accepts.Splits (Side.back.facing cursor.content) ['d', 'c'] ['b'] ∧
      Asks .back accepts cursor ['d', 'c', 'b'] ∧
      Serves .back accepts cursor ['d', 'c'] ['b'] := by
  intro cursor accepts
  let script : List Step :=
    [⟨none, some "text", .create "abcde".toList 0 none⟩,
      ⟨some "text", none, .apply (.sub 1 (some 3))⟩]
  have placed : (Store.run {} script).2.cursors[1]? = some cursor := by decide +kernel
  have reachable : Reachable cursor := ⟨script, List.mem_of_getElem? placed⟩
  have refused : ∀ c ∈ List.head? ['b'], accepts ['c', 'd'] c = .ok false := fun _ _ => rfl
  have splits : accepts.Splits (Side.back.facing cursor.content) ['d', 'c'] ['b'] := by
    refine ⟨by decide +kernel, ⟨rfl, rfl, trivial⟩, ?_⟩
    intro c head accepted
    rw [List.reverse_cons, List.reverse_singleton, List.singleton_append, refused c head] at accepted
    contradiction
  obtain ⟨asks, serves, -⟩ :=
    (reachable.walks_stop_at_first_refusal .back accepts).2 ['d', 'c'] ['b'] splits
  exact ⟨reachable, splits, asks, (serves refused).1⟩

end Script

end TextCursor
