import TextCursor.Proofs.Benchmark.Rounds
import TextCursor.Proofs.Cursor.Rest
import TextCursor.Proofs.Script.Trims

/-!
Contract: words that are taken from a window one after another.

Owns: that blank code points and blank clusters fit together where a word ends and where the next
one begins, and that the loop that takes all words ends.

Does not own: which words these are.

A word ends at a code point, perhaps within a cluster, and the rest is divided anew. That code point
makes the first cluster of the rest a blank one, with all that the division adds to it. In turn,
behind the blank clusters stands one without any blank code point, so a word begins there.
-/

namespace TextCursor

open Cursor

/-- There is something in it, and nothing of that is blank. -/
def IsWord (word : Text) : Prop := word ≠ [] ∧ ∀ c ∈ word, Text.isBlank c = false

/-! ## Blanks at the front of a text -/

section Front

/-- What stands behind the longest run at the front. -/
theorem drop_length_takeWhile {α : Type} (condition : α → Bool) (items : List α) :
    items.drop (items.takeWhile condition).length = items.dropWhile condition := by
  have parted := List.takeWhile_append_dropWhile (p := condition) (l := items)
  calc items.drop (items.takeWhile condition).length
      = (items.takeWhile condition ++ items.dropWhile condition).drop
          (items.takeWhile condition).length := by rw [parted]
    _ = items.dropWhile condition := List.drop_left

variable {text : Text}

/-- The first cluster of a text begins as the text does. -/
theorem firstCluster_cons (c : Char) (later : Text) :
    ∃ joined, firstCluster (c :: later) = c :: joined := ⟨_, rfl⟩

theorem not_isBlank_of_mem_headWord {c : Char} (member : c ∈ headWord text) :
    Text.isBlank c = false := by
  have accepted := List.mem_takeWhile_imp member
  rwa [Bool.not_eq_true'] at accepted

/-- A word begins where the first cluster is not blank. -/
theorem isWord_headWord (filled : text ≠ [])
    (notBlank : Text.holdsBlank (firstCluster text) = false) : IsWord (headWord text) := by
  refine ⟨?_, fun c member => not_isBlank_of_mem_headWord member⟩
  cases text with
  | nil => contradiction
  | cons c later =>
      obtain ⟨joined, first⟩ := firstCluster_cons c later
      rw [first, Text.holdsBlank, List.any_cons, Bool.or_eq_false_iff] at notBlank
      rw [headWord, List.takeWhile_cons_of_pos (by rw [notBlank.1, Bool.not_false])]
      exact List.cons_ne_nil c _

/-- Where a word ends the first cluster is blank. -/
theorem holdsBlank_behind_headWord (more : text.drop (headWord text).length ≠ []) :
    Text.holdsBlank (firstCluster (text.drop (headWord text).length)) = true := by
  rw [headWord, drop_length_takeWhile] at more ⊢
  have stopped := List.head_dropWhile_not (p := fun c => !Text.isBlank c) more
  obtain ⟨c, later, rest⟩ := List.exists_cons_of_ne_nil more
  obtain ⟨joined, first⟩ := firstCluster_cons c later
  simp only [rest, List.head_cons, Bool.not_eq_false'] at stopped
  rw [rest, first, Text.holdsBlank, List.any_cons, stopped, Bool.true_or]

/-- Behind the leading blank clusters the first one is not blank, if there is one. -/
theorem not_holdsBlank_behind_leadingBlanks (text : Text) :
    Text.holdsBlank (firstCluster (text.drop (clusterOffset text (leadingBlanks text)))) =
      false := by
  have behind : clusterTexts (text.drop (clusterOffset text (leadingBlanks text))) =
      (clusterTexts text).dropWhile Text.holdsBlank := by
    rw [clusterTexts_drop_clusterOffset, leadingBlanks_eq, drop_length_takeWhile]
  rw [firstCluster, behind]
  cases rest : (clusterTexts text).dropWhile Text.holdsBlank with
  | nil => rfl
  | cons first later =>
      have filled : (clusterTexts text).dropWhile Text.holdsBlank ≠ [] :=
        rest ▸ List.cons_ne_nil first later
      have stopped := List.head_dropWhile_not (p := Text.holdsBlank) filled
      simp only [rest, List.head_cons] at stopped
      exact stopped

theorem leadingBlanks_pos (blank : Text.holdsBlank (firstCluster text) = true) :
    0 < leadingBlanks text := by
  rw [leadingBlanks_eq]
  unfold firstCluster at blank
  cases division : clusterTexts text with
  | nil =>
      rw [division] at blank
      contradiction
  | cons first later =>
      rw [division, List.headD_cons] at blank
      rw [List.takeWhile_cons_of_pos blank]
      exact Nat.succ_pos _

end Front

/-! ## Where words begin and end in a window -/

namespace Cursor

open Edit

/-- There is nothing left, or there is a word to take. -/
def YieldsWord (cursor : Cursor) : Prop :=
  cursor.size = 0 ∨ ∃ word rest, Token.word.on cursor = (.ok word, rest) ∧ IsWord word

/-- There are blanks to skip. -/
def SkipShortens (cursor : Cursor) : Prop :=
  ∃ rest, skipBlanks.on cursor = (.ok (), rest) ∧ rest.size < cursor.size

/-- There is nothing left, or there is no optional cluster to take, which leaves the window where it
is, and there are blanks to skip, both before and after the attempt. -/
def MeetsBlanks (cursor : Cursor) : Prop :=
  cursor.size = 0 ∨ (SkipShortens cursor ∧
    ∃ same, Token.cluster.on cursor = (.ok [], same) ∧ same.bare = cursor.bare ∧ SkipShortens same)

/-- A sound cursor that no blank cluster is in front of. -/
structure PastBlanks (cursor : Cursor) : Prop extends cursor.Sound where
  notBlank : Text.holdsBlank (firstCluster cursor.content) = false

variable {cursor : Cursor}

/-- The move past leading blanks goes past all of them. -/
theorem pastBlanks_of_skipBlanks (sound : cursor.Sound) :
    ∃ rest taken, skipBlanks.on cursor = (.ok (), rest) ∧ rest.PastBlanks ∧
      rest.IsRest cursor taken := by
  obtain ⟨rest, ran, isRest⟩ := isRest_of_skipBlanks sound
  refine ⟨rest, _, ran, ⟨isRest.toSound, ?_⟩, isRest⟩
  rw [isRest.content_eq sound.inside]
  exact not_holdsBlank_behind_leadingBlanks cursor.content

theorem PastBlanks.isWord (pastBlanks : cursor.PastBlanks) (more : cursor.size ≠ 0) :
    IsWord (headWord cursor.content) :=
  isWord_headWord (pastBlanks.inside.content_ne_nil more) pastBlanks.notBlank

theorem PastBlanks.yieldsWord (pastBlanks : cursor.PastBlanks) : cursor.YieldsWord := by
  by_cases empty : cursor.size = 0
  · exact Or.inl empty
  · exact Or.inr ⟨_, _, on_word pastBlanks.inside, pastBlanks.isWord empty⟩

theorem skipShortens_of_blank (sound : cursor.Sound) (more : cursor.size ≠ 0)
    (blank : Text.holdsBlank (firstCluster cursor.content) = true) : cursor.SkipShortens := by
  obtain ⟨rest, ran, isRest⟩ := isRest_of_skipBlanks sound
  have positive :=
    clusterOffset_pos (sound.inside.content_ne_nil more) (leadingBlanks_pos blank)
  have rest_size := isRest.size_eq sound.inside
  exact ⟨rest, ran, by omega⟩

/-- What is in front of the window decides, not what is remembered of it. -/
theorem meetsBlanks_of_blank (sound : cursor.Sound)
    (blank : cursor.content ≠ [] → Text.holdsBlank (firstCluster cursor.content) = true) :
    cursor.MeetsBlanks := by
  by_cases empty : cursor.size = 0
  · exact Or.inl empty
  have first := blank (sound.inside.content_ne_nil empty)
  have whole : Uncached.token.on cursor.bare =
      (.ok [], cursor.part 0 (cursor.content.length - 0)) := by
    rw [on_token sound.inside, if_pos first, Nat.sub_zero, sound.inside.part_whole]
  obtain ⟨same, tried, isRest⟩ := IsRest.of_mirrors token_mirrors sound (Nat.zero_le _) whole
  have window : same.bare = cursor.bare := by
    rw [isRest.window, Nat.sub_zero, sound.inside.part_whole]
  have size : same.size = cursor.size := by rw [← bare_size, window, bare_size]
  have content : same.content = cursor.content := by rw [← bare_content, window, bare_content]
  refine Or.inr ⟨skipShortens_of_blank sound empty first, same, tried, window, ?_⟩
  exact skipShortens_of_blank isRest.toSound (size ▸ empty) (content ▸ first)

/-- A word ends before a blank code point or at the end of the window. -/
theorem meetsBlanks_of_word (sound : cursor.Sound) :
    ∃ word rest, Token.word.on cursor = (.ok word, rest) ∧ rest.MeetsBlanks := by
  obtain ⟨rest, ran, isRest⟩ := isRest_of_word sound
  refine ⟨_, rest, ran, meetsBlanks_of_blank isRest.toSound ?_⟩
  rw [isRest.content_eq sound.inside]
  exact holdsBlank_behind_headWord

end Cursor

/-! ## All words of a window -/

namespace Script

open Edit Cursor Benchmark

/-- A word, and then the blank clusters behind it. The record is made in between. -/
def wordRound : Edit (Round Text) := do
  let word ← Token.word
  let cursor ← get
  skipBlanks
  return ⟨word, cursor⟩

/-- The rounds come to an end, after at most as many of them as there are code points, and nothing
is left. Each of them takes a word. -/
def WordsRunOut (cursor : Cursor) : Prop :=
  ∃ rounds final, Finishes wordRound cursor rounds final ∧
    rounds.length ≤ cursor.content.length ∧ final.size = 0 ∧ ∀ done ∈ rounds, IsWord done.yielded

theorem on_wordRound {cursor : Cursor} (sound : cursor.Sound) :
    ∃ behind rest, wordRound.on cursor = (.ok ⟨headWord cursor.content, behind⟩, rest) ∧
      rest.PastBlanks ∧ rest.size ≤ cursor.size - (headWord cursor.content).length := by
  obtain ⟨behind, taken, behindIsRest⟩ := isRest_of_word sound
  obtain ⟨rest, further, skipped, pastBlanks, restIsRest⟩ :=
    pastBlanks_of_skipBlanks behindIsRest.toSound
  have behindSize := behindIsRest.size_eq sound.inside
  have restSize := restIsRest.size_eq behindIsRest.inside
  refine ⟨behind, rest, ?_, pastBlanks, by omega⟩
  simp only [wordRound, on_bind, taken, on_get, skipped, on_pure]

theorem wordRound_progresses : Progresses wordRound PastBlanks := by
  intro cursor pastBlanks more
  obtain ⟨behind, rest, ran, restPastBlanks, fits⟩ := on_wordRound pastBlanks.toSound
  have positive := List.length_pos_iff.mpr (pastBlanks.isWord more).1
  exact ⟨_, rest, ran, restPastBlanks, by omega⟩

theorem wordsRunOut_of_pastBlanks {cursor : Cursor} (pastBlanks : cursor.PastBlanks) :
    WordsRunOut cursor := by
  obtain ⟨rounds, final, finishes, -, few⟩ :=
    wordRound_progresses.finishes (fun _ holds => holds.inside) pastBlanks
  refine ⟨rounds, final, finishes, few, finishes.size_eq_zero, ?_⟩
  intro done member
  obtain ⟨here, after, comes, more, ran⟩ := finishes.exists_of_mem member
  have herePastBlanks := wordRound_progresses.holds_of_turns pastBlanks comes
  obtain ⟨behind, rest, went, -⟩ := on_wordRound herePastBlanks.toSound
  obtain ⟨same, -⟩ := Prod.mk.inj (ran.symm.trans went)
  rw [Except.ok.inj same]
  exact herePastBlanks.isWord more

/-- From any cursor that a script made, in whatever state: behind the blank clusters there is a word
to take or nothing left, and the loop that takes a word and moves past blanks runs out; and behind a
word there are blanks to move past or nothing left. -/
theorem Reachable.words_meet_blanks {cursor : Cursor} (reachable : Reachable cursor) :
    (∃ rest, skipBlanks.on cursor = (.ok (), rest) ∧ rest.YieldsWord ∧ WordsRunOut rest) ∧
      ∃ word rest, Token.word.on cursor = (.ok word, rest) ∧ rest.MeetsBlanks := by
  obtain ⟨rest, -, skipped, pastBlanks, -⟩ := pastBlanks_of_skipBlanks reachable.sound
  exact ⟨⟨rest, skipped, pastBlanks.yieldsWord, wordsRunOut_of_pastBlanks pastBlanks⟩,
    meetsBlanks_of_word reachable.sound⟩

/-- A sign, a space that it completes, and an accent on the space are one cluster, which is blank.
The word before it takes the sign along and cuts the cluster in two. -/
theorem words_meet_blanks_within_cluster :
    let cursor : Cursor := { source := "-a\u0600 \u0301b".toList, start := 1, size := 5 }
    Reachable cursor ∧
      TextCursor.clusterTexts cursor.content = [['a'], ['\u0600', ' ', '\u0301'], ['b']] ∧
      (∃ rest, skipBlanks.on cursor = (.ok (), rest) ∧ rest.YieldsWord ∧ WordsRunOut rest) ∧
      ∃ rest, Token.word.on cursor = (.ok ['a', '\u0600'], rest) ∧ rest.MeetsBlanks := by
  intro cursor
  have reachable : Reachable cursor := reachable_of_inside (by decide)
  have divided : TextCursor.clusterTexts cursor.content =
      [['a'], ['\u0600', ' ', '\u0301'], ['b']] := by decide +kernel
  have taken : (Token.word.on cursor).1.toOption = some ['a', '\u0600'] := by decide +kernel
  obtain ⟨runOut, word, rest, ran, meets⟩ := reachable.words_meet_blanks
  rw [ran] at taken
  obtain rfl := Option.some.inj taken
  exact ⟨reachable, divided, runOut, rest, ran, meets⟩

end Script

end TextCursor
