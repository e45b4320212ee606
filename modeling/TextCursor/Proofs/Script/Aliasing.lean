import TextCursor.Proofs.Script.Accounting
import TextCursor.Proofs.Script.Transparency
import TextCursor.Proofs.Script.Traversal

/-!
Contract: the cursors of a store are independent of each other.

Owns: the commands that may move the cursor that they work on, or open it over another source; the
effect of a step on the places of a store and on its names; and what of it a whole script adds up
to.

Does not own: where a window is moved to.

Several names may stand for one place, so a window is followed by its place and not by a name. An
operand is read before the command that it belongs to does anything, which is why it may be the
very cursor that is moved.
-/

namespace TextCursor.Script

open Edit Cursor

/-! ## Commands that move -/

def Search.moves : Search → Bool
  | .popBefore | .popBefore? => true
  | _ => false

/-- The operations that may move the window: those that open it anew, the trim that works on the
cursor itself, all removals, and the token readers. -/
def Operation.moves : Operation → Bool
  | .reopen _ | .skipBlanks | .popFrontWhile _ | .popBackWhile _ | .popFront _ | .popBack _
  | .popField _ | .popField? _ | .popInt? | .popDecimal? | .tokenInt | .tokenDecimal | .tokenWord
  | .tokenCluster => true
  | .search kind _ => kind.moves
  | _ => false

def Command.moves : Command → Bool
  | .apply operation => operation.moves
  | .search kind _ => kind.moves
  | .adopt _ => true
  | .insist command => command.moves
  | _ => false

def Operation.reopens : Operation → Bool
  | .reopen _ => true
  | _ => false

/-- The command may open the cursor that it works on over another source. -/
def Command.reopens : Command → Bool
  | .apply operation => operation.reopens
  | .adopt _ => true
  | .insist command => command.reopens
  | _ => false

/-- The command is the trim that works on the cursor itself. -/
def Command.skips : Command → Bool
  | .apply .skipBlanks => true
  | .insist command => command.skips
  | _ => false

/-- A window that only moved if it may have moved, over a source that is another one only if it
may be. -/
structure FollowsFrom (before after : Cursor) (moved reopened : Prop) : Prop where
  window : after.bare = before.bare ∨ moved
  source : after.source = before.source ∨ reopened

theorem source_eq_of_bare {before after : Cursor} (same : after.bare = before.bare) :
    after.source = before.source := by
  have sources := congrArg Cursor.source same
  exact sources

theorem followsFrom_of_bare {before after : Cursor} (same : after.bare = before.bare)
    (moved reopened : Prop) : FollowsFrom before after moved reopened :=
  ⟨Or.inl same, Or.inl (source_eq_of_bare same)⟩

theorem FollowsFrom.trans {before middle after : Cursor}
    {moved movedLater reopened reopenedLater : Prop}
    (first : FollowsFrom before middle moved reopened)
    (second : FollowsFrom middle after movedLater reopenedLater) :
    FollowsFrom before after (moved ∨ movedLater) (reopened ∨ reopenedLater) where
  window := by
    rcases first.window with same | hasMoved
    · rw [← same]
      exact second.window.imp_right Or.inr
    · exact Or.inr (Or.inl hasMoved)
  source := by
    rcases first.source with same | hasReopened
    · rw [← same]
      exact second.source.imp_right Or.inr
    · exact Or.inr (Or.inl hasReopened)

namespace Operation

variable {cursor : Cursor}

theorem isRead_of_not_moves {operation : Operation} (still : operation.moves = false) :
    operation.isRead := by
  cases operation with
  | search kind needle =>
      cases kind with
      | popBefore | popBefore? => contradiction
      | _ => rfl
  | reopen | skipBlanks | popFrontWhile | popBackWhile | popFront | popBack | popField | popField?
  | popInt? | popDecimal? | tokenInt | tokenDecimal | tokenWord | tokenCluster => contradiction
  | _ => rfl

/-- An operation that reads leaves the window where it is, whatever it remembers afterwards. -/
theorem bare_of_isRead (coherent : cursor.Coherent) {operation : Operation}
    (reads : operation.isRead) : (operation.run.on cursor).2.bare = cursor.bare := by
  have stays := operation.runUncached_of_isRead reads cursor
  rwa [(operation.run_mirrors cursor coherent).1] at stays

/-- A token that has to be there is a part of the window, or nothing moves. -/
theorem source_of_required {α : Type} {value : α → Value} {kind : Text} {reader : Edit (Option α)}
    {isThere : Bool} {found : α} {offset size : Nat}
    (ran : reader.on cursor =
      if isThere then (.ok (some found), cursor.part offset size) else (.ok none, cursor)) :
    ((answer value (Token.required kind reader)).on cursor).2.source = cursor.source := by
  have required := on_required kind ran
  cases isThere with
  | true =>
      rw [if_pos rfl] at required
      rw [on_answer value required]
      rfl
  | false =>
      rw [if_neg Bool.false_ne_true] at required
      rw [on_answer value required]

/-- The trim of the front and the readers of tokens leave parts of the window. -/
theorem source_runUncached (inside : cursor.Inside) {operation : Operation}
    (anchored : operation.reopens = false) (notRead : ¬operation.isRead)
    (notRemoval : operation.side? = none) :
    (operation.runUncached.on cursor.bare).2.source = cursor.source := by
  have bareInside : cursor.bare.Inside := inside
  cases operation with
  | skipBlanks =>
      unfold runUncached
      rw [on_answer _ (on_skipBlanks inside)]
      rfl
  | tokenInt => exact source_of_required (on_popInt? bareInside)
  | tokenDecimal => exact source_of_required (on_popDecimal? bareInside)
  | tokenWord =>
      have ran := on_answer Value.text (on_word bareInside)
      exact congrArg (fun outcome => outcome.2.source) ran
  | tokenCluster =>
      have ran := on_token inside
      unfold runUncached
      split at ran
      · rw [on_answer _ ran]
        rfl
      · rw [on_answer _ ran]
        rfl
  | search kind needle => cases kind <;> contradiction
  | _ => contradiction

/-- Only `reopen` opens a window over another source. -/
theorem source_of_not_reopens (sound : cursor.Sound) {operation : Operation}
    (anchored : operation.reopens = false) :
    (operation.run.on cursor).2.source = cursor.source := by
  by_cases reads : operation.isRead
  · exact source_eq_of_bare (bare_of_isRead sound.coherent reads)
  · cases removes : operation.side? with
    | some side => exact (operation.popped_accounted sound removes).left.source
    | none =>
        have twin := source_runUncached sound.inside anchored reads removes
        rwa [(operation.run_mirrors cursor sound.coherent).1] at twin

theorem run_followsFrom (sound : cursor.Sound) (operation : Operation) :
    FollowsFrom cursor (operation.run.on cursor).2 operation.moves operation.reopens where
  window := by
    cases moves : operation.moves with
    | true => exact Or.inr rfl
    | false => exact Or.inl (bare_of_isRead sound.coherent (isRead_of_not_moves moves))
  source := by
    cases reopens : operation.reopens with
    | true => exact Or.inr rfl
    | false => exact Or.inl (source_of_not_reopens sound reopens)

end Operation

/-! ## The very cursor as an answer -/

/-- The step never answers with the very cursor that was asked. -/
def NeverSelf (step : Edit Reply) : Prop := ∀ cursor, yielded? (step.on cursor).1 ≠ some .self

theorem neverSelf_answer {α : Type} {value : α → Value} (step : Edit α)
    (other : ∀ result, value result ≠ .self) : NeverSelf (answer value step) := by
  intro cursor yields
  cases ran : step.on cursor with
  | mk result after =>
      rw [on_answer value ran] at yields
      cases result with
      | ok result => exact other result (Option.some.inj yields)
      | error error => contradiction

theorem neverSelf_attempt {α : Type} {value : α → Value} (step : Edit (Option α))
    (other : ∀ result, value result ≠ .self) : NeverSelf (attempt value step) := by
  intro cursor yields
  cases ran : step.on cursor with
  | mk result after =>
      rw [on_attempt value ran] at yields
      cases result with
      | error error => contradiction
      | ok found =>
          cases found with
          | none => contradiction
          | some result => exact other result (Option.some.inj yields)

theorem neverSelf_get_bind {next : Cursor → Edit Reply}
    (never : ∀ cursor, NeverSelf (next cursor)) : NeverSelf (get >>= next) :=
  fun cursor => never cursor cursor

theorem neverSelf_search (search : Search) (needle : Text) : NeverSelf (search.run needle) := by
  cases search with
  | offsetOf | reads | readsIgnoringCase | beginsWith | endsWith | popBefore =>
      exact neverSelf_answer _ nofun
  | popBefore? => exact neverSelf_attempt _ nofun

/-- Only the trim that works on the cursor itself answers with it. -/
theorem Operation.neverSelf {operation : Operation} (other : operation ≠ .skipBlanks) :
    NeverSelf operation.run := by
  cases operation with
  | skipBlanks => contradiction
  | sub | copy | trimBack | takeFrontWhile | takeBackWhile | headInt | headDecimal =>
      exact neverSelf_get_bind fun _ => neverSelf_answer _ nofun
  | popField? | popInt? | popDecimal? => exact neverSelf_attempt _ nofun
  | search kind needle => exact neverSelf_search kind needle
  | _ => exact neverSelf_answer _ nofun

theorem reply_skipBlanks {cursor : Cursor} (sound : cursor.Sound) :
    (Operation.skipBlanks.run.on cursor).1 = .ok (.value .self) := by
  have mirrored := (Operation.run_mirrors .skipBlanks cursor sound.coherent).1
  have twin := on_answer (fun _ => Value.self) (on_skipBlanks sound.inside)
  unfold Operation.runUncached at mirrored
  rw [twin] at mirrored
  exact (congrArg Prod.fst mirrored).symm

/-! ## The effect of a command -/

namespace Store

/-- What a command that works on the cursor at a place does to a store. Nothing but that cursor is
moved or opened over another source, and it only if the command may do so. A cursor that was
yielded has a place of its own behind all others, and what was yielded has the name that was asked
for; no other name changes. -/
structure Effect (before : Store) (name : Option String) (place : Option Nat)
    (moves reopens : Bool) (reply : Except Error Reply) (after : Store) : Prop where
  follows : ∀ id cursor, before.cursors[id]? = some cursor →
    ∃ now, after.cursors[id]? = some now ∧
      FollowsFrom cursor now (moves ∧ place = some id) (reopens ∧ place = some id)
  added : after.cursors.drop before.cursors.length = (piece? reply).toList
  piece : (piece? reply).isSome → ∀ given ∈ name,
    after.find? given = some (.cursor before.cursors.length)
  self : yielded? reply = some .self → ∀ given ∈ name, after.find? given = place.map .cursor
  others : ∀ other ∉ name, after.find? other = before.find? other
  names : ∀ given id, after.cursorId? given = some id → before.cursorId? given = some id ∨
    given ∈ name ∧ ((piece? reply).isSome ∧ id = before.cursors.length ∨
      yielded? reply = some .self ∧ place = some id)

variable {store after : Store} {name : Option String} {place : Option Nat} {id : Nat}
  {moves reopens : Bool} {reply : Except Error Reply} {cursor : Cursor}

/-- Where neither a cursor is yielded nor a window or a name changes, there is no effect. -/
theorem effect_of_same (windows : after.windows = store.windows) (names : after.names = store.names)
    (noPiece : piece? reply = none) (notSelf : yielded? reply ≠ some .self) :
    store.Effect name place moves reopens reply after where
  follows id cursor placed := by
    have same := congrArg (fun windows => windows[id]?) windows
    simp only [Store.windows, List.getElem?_map, placed, Option.map_some,
      Option.map_eq_some_iff] at same
    obtain ⟨now, placedNow, bare⟩ := same
    exact ⟨now, placedNow, followsFrom_of_bare bare _ _⟩
  added := by
    have lengths := congrArg List.length windows
    simp only [Store.windows, List.length_map] at lengths
    rw [noPiece, ← lengths, List.drop_length]
    rfl
  piece yields := by simp [noPiece] at yields
  self yields := absurd yields notSelf
  others other _ := by rw [find?, names, find?]
  names given id stands := by
    unfold cursorId? find? at stands ⊢
    rw [names] at stands
    exact Or.inl stands

theorem effect_of_unchanged (noPiece : piece? reply = none)
    (notSelf : yielded? reply ≠ some .self) :
    store.Effect name place moves reopens reply store :=
  effect_of_same rfl rfl noPiece notSelf

theorem effect_of_nothing (nothing : yielded? reply = none) :
    store.Effect name place moves reopens reply store := by
  apply effect_of_unchanged
  · rw [piece?, nothing]
  · rw [nothing]
    exact (Option.some_ne_none _).symm

/-! ## What is entered -/

theorem find?_bind_self (store : Store) (name : Option String) (reference : Reference) :
    ∀ given ∈ name, (store.bind name reference).find? given = some reference := by
  rintro given ⟨⟩
  simp [bind, find?]

theorem find?_bind_of_notMem (store : Store) (reference : Reference) {other : String}
    (apart : other ∉ name) : (store.bind name reference).find? other = store.find? other := by
  cases name with
  | none => rfl
  | some given =>
      have different : (other == given) = false := by
        apply beq_false_of_ne
        rintro rfl
        exact apart rfl
      simp only [bind, find?, List.lookup_cons, different]

theorem cursorId?_bind (store : Store) (reference : Reference) {given : String}
    (stands : (store.bind name reference).cursorId? given = some id) :
    store.cursorId? given = some id ∨ given ∈ name ∧ reference = .cursor id := by
  by_cases asked : given ∈ name
  · right
    unfold cursorId? at stands
    rw [find?_bind_self store name reference given asked] at stands
    cases reference with
    | cursor place => exact ⟨asked, congrArg Reference.cursor (Option.some.inj stands)⟩
    | traversal place => contradiction
  · left
    unfold cursorId? at stands ⊢
    rwa [find?_bind_of_notMem store reference asked] at stands

theorem cursors_bind (store : Store) (name : Option String) (reference : Reference) :
    (store.bind name reference).cursors = store.cursors := by
  cases name with
  | none => rfl
  | some given => rfl

/-- A new cursor gets a place of its own, and the name stands for that place. -/
theorem enter_cursor_effect (store : Store) (name : Option String) (place : Option Nat) (id : Nat)
    {piece : Cursor} (yields : piece? reply = some piece) (notSelf : yielded? reply ≠ some .self) :
    store.Effect name place moves reopens reply (store.enter name id (.cursor piece)) where
  follows other cursor placed := by
    unfold enter
    rw [cursors_bind]
    refine ⟨cursor, ?_, followsFrom_of_bare rfl _ _⟩
    obtain ⟨inRange, -⟩ := List.getElem?_eq_some_iff.mp placed
    rw [List.getElem?_append_left inRange, placed]
  added := by
    unfold enter
    rw [cursors_bind, List.drop_left, yields]
    rfl
  piece _ := find?_bind_self _ _ _
  self yields := absurd yields notSelf
  others other apart := find?_bind_of_notMem _ _ apart
  names given id stands := by
    rcases cursorId?_bind _ _ stands with before | ⟨asked, equal⟩
    · exact Or.inl before
    · refine Or.inr ⟨asked, Or.inl ⟨by rw [yields]; rfl, ?_⟩⟩
      exact (Reference.cursor.inj equal).symm

/-- The very cursor gets one more name. -/
theorem enter_self_effect (store : Store) (name : Option String) (id : Nat)
    (yields : yielded? reply = some .self) :
    store.Effect name (some id) moves reopens reply (store.enter name id .self) where
  follows other cursor placed := by
    unfold enter
    rw [cursors_bind]
    exact ⟨cursor, placed, followsFrom_of_bare rfl _ _⟩
  added := by
    unfold enter piece?
    rw [cursors_bind, yields, List.drop_length]
    rfl
  piece isPiece := by simp [piece?, yields] at isPiece
  self _ := find?_bind_self _ _ _
  others other apart := find?_bind_of_notMem _ _ apart
  names given other stands := by
    rcases cursorId?_bind _ _ stands with before | ⟨asked, equal⟩
    · exact Or.inl before
    · exact Or.inr ⟨asked, Or.inr ⟨yields, congrArg some (Reference.cursor.inj equal)⟩⟩

theorem enter_effect (store : Store) (name : Option String) (id : Nat) {value : Value}
    (yields : yielded? reply = some value) :
    store.Effect name (some id) moves reopens reply (store.enter name id value) := by
  cases value with
  | cursor piece =>
      apply enter_cursor_effect
      · rw [piece?, yields]
      · simp [yields]
  | self => exact enter_self_effect store name id yields
  | _ =>
      apply effect_of_unchanged
      · rw [piece?, yields]
      · simp [yields]

theorem enterReply_effect (store : Store) (name : Option String) (id : Nat) (reply : Reply) :
    store.Effect name (some id) moves reopens (.ok reply) (store.enterReply name id reply) := by
  unfold enterReply
  split
  · exact enter_effect store name id rfl
  · exact enter_effect store name id rfl
  next notValue notFound =>
      have nothing : yielded? (.ok reply) = none := by
        cases reply with
        | value value => exact (notValue value rfl).elim
        | unbound => rfl
        | outcome outcome =>
            obtain ⟨success, data⟩ := outcome
            cases success with
            | false => rfl
            | true =>
                cases data with
                | none => rfl
                | some value => exact (notFound value rfl).elim
      exact effect_of_nothing nothing

/-! ## Commands -/

/-- An effect on a store in which one cursor has been followed already. -/
theorem Effect.of_set {left : Cursor} (placed : store.cursors[id]? = some cursor)
    (follows : FollowsFrom cursor left moves reopens)
    (effect : Effect { store with cursors := store.cursors.set id left } name (some id) false false
      reply after) : store.Effect name (some id) moves reopens reply after where
  follows other before placedBefore := by
    obtain ⟨inRange, -⟩ := List.getElem?_eq_some_iff.mp placed
    by_cases here : id = other
    · subst here
      obtain rfl := Option.some.inj (placed.symm.trans placedBefore)
      obtain ⟨now, placedNow, window, source⟩ :=
        effect.follows id left (List.getElem?_set_self inRange)
      have sameWindow : now.bare = left.bare := by simpa using window
      have sameSource : now.source = left.source := by simpa using source
      refine ⟨now, placedNow, ?_, ?_⟩
      · rw [sameWindow]
        simpa using follows.window
      · rw [sameSource]
        simpa using follows.source
    · obtain ⟨now, placedNow, window, source⟩ := effect.follows other before (by
        rw [List.getElem?_set_ne here]
        exact placedBefore)
      exact ⟨now, placedNow, Or.inl (by simpa using window), Or.inl (by simpa using source)⟩
  added := by
    have added := effect.added
    rwa [List.length_set] at added
  piece isPiece := by
    have piece := effect.piece isPiece
    rwa [List.length_set] at piece
  self := effect.self
  others := effect.others
  names := by
    have names := effect.names
    simp only [List.length_set] at names
    exact names

theorem perform_effect {step : Edit Reply} (placed : store.cursors[id]? = some cursor)
    (follows : FollowsFrom cursor (step.on cursor).2 moves reopens) :
    store.Effect name (some id) moves reopens (store.perform name id cursor step).1
      (store.perform name id cursor step).2 := by
  cases ran : step.on cursor with
  | mk result left =>
      rw [ran] at follows
      cases result with
      | ok reply =>
          simp only [perform, edit, ran]
          exact .of_set placed follows (enterReply_effect _ name id reply)
      | error error =>
          simp only [perform, edit, ran]
          exact .of_set placed follows (effect_of_nothing rfl)

/-- To insist on a success yields what the success yields. Without data that is nothing. -/
theorem yielded?_bind_insisted (result : Except Error Reply) :
    yielded? (result.bind insisted) = yielded? result ∨
      yielded? (result.bind insisted) = some .nothing ∧ yielded? result = none := by
  cases result with
  | error error => exact Or.inl rfl
  | ok reply =>
      cases reply with
      | value | unbound => exact Or.inl rfl
      | outcome outcome =>
          obtain ⟨success, data⟩ := outcome
          cases success with
          | false => exact Or.inl rfl
          | true =>
              cases data with
              | none => exact Or.inr ⟨rfl, rfl⟩
              | some value => exact Or.inl rfl

theorem piece?_insisted (result : Except Error Reply) :
    piece? (result.bind insisted) = piece? result := by
  rcases yielded?_bind_insisted result with same | ⟨nothing, none⟩
  · rw [piece?, same, piece?]
  · rw [piece?, nothing, piece?, none]

theorem yielded?_insisted (result : Except Error Reply) :
    yielded? (result.bind insisted) = some .self ↔ yielded? result = some .self := by
  rcases yielded?_bind_insisted result with same | ⟨nothing, none⟩
  · rw [same]
  · simp [nothing, none]

theorem Effect.insist {result : Except Error Reply}
    (effect : store.Effect name place moves reopens result after) :
    store.Effect name place moves reopens (result.bind insisted) after := by
  constructor
  · exact effect.follows
  · rw [piece?_insisted]
    exact effect.added
  · rw [piece?_insisted]
    exact effect.piece
  · rw [yielded?_insisted]
    exact effect.self
  · exact effect.others
  · rw [piece?_insisted, yielded?_insisted]
    exact effect.names

theorem traverse_effect (store : Store) (name : Option String) (id target : Nat) :
    store.Effect name place moves reopens (.ok (.value .nothing))
      (bind { store with traversals := store.traversals ++ [⟨target, none⟩] } name
        (.traversal id)) where
  follows other cursor placed := by
    rw [cursors_bind]
    exact ⟨cursor, placed, followsFrom_of_bare rfl _ _⟩
  added := by
    rw [cursors_bind, List.drop_length]
    rfl
  piece yields := nomatch yields
  self yields := nomatch yields
  others other apart := find?_bind_of_notMem _ _ apart
  names given other stands := by
    rcases cursorId?_bind _ _ stands with before | ⟨-, equal⟩
    · exact Or.inl before
    · contradiction

/-- A command on a cursor changes the window of no other one. -/
theorem executeOn_effect (sound : store.Sound) (placed : store.cursors[id]? = some cursor)
    (name : Option String) (command : Command) :
    store.Effect name (some id) command.moves command.reopens
      (store.executeOn name id cursor command).1 (store.executeOn name id cursor command).2 := by
  have cursorSound := sound cursor (List.mem_of_getElem? placed)
  induction command with
  | apply operation => exact perform_effect placed (operation.run_followsFrom cursorSound)
  | search kind operand =>
      cases text : store.operand? operand with
      | none =>
          simp only [executeOn, text]
          exact effect_of_nothing rfl
      | some needle =>
          simp only [executeOn, text]
          exact perform_effect placed ((Operation.search kind needle).run_followsFrom cursorSound)
  | adopt other =>
      cases found : store.cursor? other with
      | none =>
          simp only [executeOn, found]
          exact effect_of_nothing rfl
      | some source =>
          simp only [executeOn, found]
          exact perform_effect placed ⟨Or.inr rfl, Or.inr rfl⟩
  | same other =>
      cases found : store.cursorId? other with
      | none =>
          simp only [executeOn, found]
          exact effect_of_nothing rfl
      | some otherId =>
          simp only [executeOn, found]
          exact effect_of_unchanged rfl (by simp [yielded?])
  | traverse => exact traverse_effect store name _ id
  | insist command inductionHypothesis => exact inductionHypothesis.insist
  | create source start size => exact effect_of_nothing rfl
  | next => exact effect_of_nothing rfl

/-- Only the trim that works on the cursor itself answers with it. -/
theorem skips_of_self (name : Option String) {command : Command}
    (yields : yielded? (store.executeOn name id cursor command).1 = some .self) :
    command.skips := by
  induction command with
  | apply operation =>
      rw [executeOn, reply_perform] at yields
      by_cases skips : operation = .skipBlanks
      · rw [skips]
        rfl
      · exact absurd yields (operation.neverSelf skips cursor)
  | search kind operand =>
      cases text : store.operand? operand with
      | none => simp only [executeOn, text, yielded?, reduceCtorEq] at yields
      | some needle =>
          simp only [executeOn, text, reply_perform] at yields
          exact absurd yields (neverSelf_search kind needle cursor)
  | adopt other =>
      cases found : store.cursor? other with
      | none => simp only [executeOn, found, yielded?, reduceCtorEq] at yields
      | some source =>
          simp only [executeOn, found, reply_perform] at yields
          exact absurd yields (neverSelf_answer _ (by simp) cursor)
  | same other =>
      cases found : store.cursorId? other with
      | none => simp only [executeOn, found, yielded?, reduceCtorEq] at yields
      | some otherId =>
          simp only [executeOn, found, yielded?, Option.some.injEq, reduceCtorEq] at yields
  | insist command inductionHypothesis =>
      exact inductionHypothesis ((yielded?_insisted _).mp yields)
  | traverse | create | next => simp [executeOn, yielded?] at yields

theorem reply_of_skips (cursorSound : cursor.Sound) (name : Option String) {command : Command}
    (skips : command.skips) :
    (store.executeOn name id cursor command).1 = .ok (.value .self) := by
  induction command with
  | apply operation =>
      cases operation with
      | skipBlanks => rw [executeOn, reply_perform, reply_skipBlanks cursorSound]
      | _ => contradiction
  | insist command inductionHypothesis =>
      show ((store.executeOn name id cursor command).1.bind insisted) = _
      rw [inductionHypothesis skips]
      rfl
  | _ => contradiction

/-! ## Steps -/

/-- The place of the cursor that a step works on. -/
def target? (store : Store) (step : Step) : Option Nat := step.target.bind store.cursorId?

/-- Every name of a cursor stands for a place that there is. -/
def Placed (store : Store) : Prop :=
  ∀ given id, store.cursorId? given = some id → id < store.cursors.length

theorem piece?_item (texts : List Text) (index : Nat) :
    piece? (.ok (.value (item texts index))) = none := by
  unfold item
  split
  · rfl
  · rfl

theorem yielded?_item (texts : List Text) (index : Nat) :
    yielded? (.ok (.value (item texts index))) ≠ some .self := by
  unfold item
  split
  · nofun
  · nofun

theorem step_effect (sound : store.Sound) (step : Step) :
    store.Effect step.result (store.target? step) step.command.moves step.command.reopens
      (store.step step).1.reply (store.step step).2 := by
  show store.Effect _ _ _ _ (store.execute step).1 (store.execute step).2
  unfold execute
  split
  next _ _ source start size _ =>
      cases Cursor.ofText source start size with
      | ok cursor => exact enter_cursor_effect store step.result _ 0 rfl nofun
      | error error => exact effect_of_nothing rfl
  next =>
      split
      · split
        next traversal _ =>
            obtain ⟨cursors, same, advanced⟩ := advance_eq sound _ traversal
            rw [advanced]
            exact effect_of_same same rfl (piece?_item _ 0) (yielded?_item _ 0)
        next => exact effect_of_nothing rfl
      · exact effect_of_nothing rfl
  next _ _ target named _ _ =>
      split
      next id cursor numbered found =>
          have place : store.target? step = some id := by
            rw [target?, named, Option.bind_some, numbered]
          have placed : store.cursors[id]? = some cursor := by
            rwa [cursor?, numbered, Option.bind_some] at found
          rw [place]
          exact executeOn_effect sound placed step.result step.command
      next => exact effect_of_nothing rfl
  next => exact effect_of_nothing rfl

/-- A step answers with the very cursor that it works on if it is the trim that moves it, and in
no other case. -/
theorem yielded?_self_iff (sound : store.Sound) (placed : store.Placed) (step : Step) :
    yielded? (store.step step).1.reply = some .self ↔
      step.command.skips ∧ (store.target? step).isSome := by
  show yielded? (store.execute step).1 = some .self ↔ _
  unfold execute
  split
  next _ _ source start size creates =>
      rw [creates]
      cases Cursor.ofText source start size with
      | ok cursor => exact iff_of_false nofun nofun
      | error error => exact iff_of_false nofun nofun
  next isNext _ =>
      rw [isNext]
      apply iff_of_false _ nofun
      split
      · split
        next traversal _ =>
            obtain ⟨cursors, -, advanced⟩ := advance_eq sound _ traversal
            rw [advanced]
            exact yielded?_item _ 0
        next => nofun
      · nofun
  next _ _ target named _ _ =>
      have place : store.target? step = store.cursorId? target := by
        rw [target?, named, Option.bind_some]
      rw [place]
      split
      next id cursor numbered found =>
          have cursorSound := sound_of_cursor? sound found
          rw [numbered]
          constructor
          · intro yields
            exact ⟨skips_of_self step.result yields, rfl⟩
          · intro skips
            rw [reply_of_skips cursorSound step.result skips.1]
            rfl
      next unbound =>
          apply iff_of_false nofun
          rintro ⟨-, isBound⟩
          obtain ⟨id, numbered⟩ := Option.isSome_iff_exists.mp isBound
          have inRange := placed target id numbered
          refine unbound id store.cursors[id] numbered ?_
          rw [cursor?, numbered, Option.bind_some, List.getElem?_eq_getElem inRange]
  next notNamed _ =>
      apply iff_of_false nofun
      rintro ⟨-, isBound⟩
      rw [target?, notNamed] at isBound
      contradiction

theorem placed_step (sound : store.Sound) (placed : store.Placed) (step : Step) :
    (store.step step).2.Placed := by
  have effect := step_effect sound step
  have keeps : ∀ id < store.cursors.length, id < (store.step step).2.cursors.length := by
    intro id inRange
    obtain ⟨now, placedNow, -⟩ := effect.follows id _ (List.getElem?_eq_getElem inRange)
    exact (List.getElem?_eq_some_iff.mp placedNow).1
  intro given id stands
  rcases effect.names given id stands with before | ⟨-, ⟨isPiece, rfl⟩ | ⟨-, here⟩⟩
  · exact keeps id (placed given id before)
  · obtain ⟨piece, yields⟩ := Option.isSome_iff_exists.mp isPiece
    have added := congrArg List.length effect.added
    rw [yields, Option.toList_some, List.length_drop, List.length_singleton] at added
    omega
  · obtain ⟨name, -, numbered⟩ := Option.bind_eq_some_iff.mp here
    exact keeps id (placed name id numbered)

theorem placed_run (sound : store.Sound) (placed : store.Placed) (script : List Step) :
    (store.run script).2.Placed := by
  induction script generalizing store with
  | nil => exact placed
  | cons step later inductionHypothesis =>
      exact inductionHypothesis (sound_step sound step) (placed_step sound placed step)

/-! ## Scripts -/

/-- Some step of a script works on the cursor at a place with a command of a kind. -/
def WorksAlong (kind : Command → Bool) (store : Store) (id : Nat) : List Step → Prop
  | [] => False
  | step :: later =>
      kind step.command ∧ store.target? step = some id ∨
        WorksAlong kind (store.step step).2 id later

/-- Over a whole script a window follows from what it was by the steps that work on it. -/
theorem followsFrom_run (sound : store.Sound) (script : List Step)
    (placed : store.cursors[id]? = some cursor) :
    ∃ now, (store.run script).2.cursors[id]? = some now ∧
      FollowsFrom cursor now (WorksAlong Command.moves store id script)
        (WorksAlong Command.reopens store id script) := by
  induction script generalizing store cursor with
  | nil => exact ⟨cursor, placed, followsFrom_of_bare rfl _ _⟩
  | cons step later inductionHypothesis =>
      obtain ⟨next, placedNext, first⟩ := (step_effect sound step).follows id cursor placed
      obtain ⟨now, placedNow, further⟩ := inductionHypothesis (sound_step sound step) placedNext
      exact ⟨now, placedNow, first.trans further⟩

end Store

/-- Whatever a script did before, a step moves no cursor but the one that it works on, and that one
only with a command that moves. What it yields is a new cursor, of which no name spoke before; only
the trim that works on the cursor itself answers with that cursor. So over any further script a
cursor keeps its window until a step works on it with a command that moves, and its source until a
step opens it anew. -/
theorem cursors_are_independent (earlier : List Step) :
    let store := (Store.run {} earlier).2
    store.Placed ∧
      (∀ step, store.Effect step.result (store.target? step) step.command.moves
        step.command.reopens (store.step step).1.reply (store.step step).2) ∧
      (∀ step, yielded? (store.step step).1.reply = some .self ↔
        step.command.skips ∧ (store.target? step).isSome) ∧
      ∀ later id cursor, store.cursors[id]? = some cursor →
        ∃ now, (store.run later).2.cursors[id]? = some now ∧
          FollowsFrom cursor now (Store.WorksAlong Command.moves store id later)
            (Store.WorksAlong Command.reopens store id later) := by
  intro store
  have sound := Store.sound_run Store.sound_empty earlier
  have placed : store.Placed := Store.placed_run Store.sound_empty nofun earlier
  refine ⟨placed, Store.step_effect sound, Store.yielded?_self_iff sound placed, ?_⟩
  intro later id cursor
  exact Store.followsFrom_run sound later

/-- The needle is the very cursor that is moved, under its other name. The copy stays. -/
example :
    let script : List Step :=
      [⟨none, some "text", .create " a:b".toList 0 none⟩,
        ⟨some "text", some "alias", .apply .skipBlanks⟩,
        ⟨some "text", some "copy", .apply .copy⟩,
        ⟨some "text", some "piece", .search .popBefore? (.named "alias")⟩]
    (["text", "alias", "copy", "piece"].map fun name =>
      ((Store.run {} script).2.cursor? name).map fun cursor => (cursor.start, cursor.size)) =
        [some (4, 0), some (4, 0), some (1, 3), some (1, 0)] := by
  decide +kernel

end TextCursor.Script
