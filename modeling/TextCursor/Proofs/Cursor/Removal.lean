import TextCursor.Cursor.Pop
import TextCursor.Proofs.Cursor.Cache
import TextCursor.Proofs.Grapheme.Offset

/-!
Contract: what each removal yields and what it leaves, as parts of the window.

Owns: what a cursor has to satisfy for its operations to go through; one equation for each
removal of clusters, of a split and of everything. In particular none of these fails: every
cluster that is looked up exists, and every window that is checked is a part of the one there
was.

Does not own: where a delimiter or a needle is found.
-/

namespace TextCursor.Cursor

open Edit

/-- The window lies within its source, and what is remembered of it is right. -/
structure Sound (cursor : Cursor) : Prop where
  inside : cursor.Inside
  coherent : cursor.Coherent

/-- A sound cursor whose window reads a given text. -/
structure Holds (cursor : Cursor) (text : Text) : Prop extends cursor.Sound where
  content : cursor.content = text

/-- A step answers as its twin does, and the window that it leaves reads what the twin's does. -/
theorem Mirrors.holds {α : Type} {step twin : Edit α} (mirrors : step.Mirrors twin)
    {cursor left : Cursor} {result : Except Error α} {text : Text} (coherent : cursor.Coherent)
    (ran : twin.on cursor.bare = (result, left)) (holds : left.Holds text) :
    ∃ after, step.on cursor = (result, after) ∧ after.Holds text := by
  obtain ⟨same, coherentAfter⟩ := mirrors cursor coherent
  rw [ran] at same
  obtain ⟨rfl, rfl⟩ := Prod.mk.inj same
  exact ⟨_, rfl, ⟨holds.inside, coherentAfter⟩, holds.content⟩

namespace Inside

variable {cursor : Cursor}

theorem holds_bare (inside : cursor.Inside) : cursor.bare.Holds cursor.content :=
  ⟨⟨inside, cursor.coherent_bare⟩, rfl⟩

theorem sound_part (inside : cursor.Inside) {offset size : Nat}
    (fits : offset + size ≤ cursor.content.length) : (cursor.part offset size).Sound :=
  ⟨inside.part fits, coherent_of_cache_empty rfl⟩

theorem holds_front (inside : cursor.Inside) {size : Nat} (fits : size ≤ cursor.content.length) :
    (cursor.part 0 size).Holds (cursor.content.take size) := by
  have inWindow : 0 + size ≤ cursor.content.length := by omega
  have content := inside.content_part inWindow
  rw [List.drop_zero] at content
  exact ⟨inside.sound_part inWindow, content⟩

theorem holds_back (inside : cursor.Inside) {offset : Nat}
    (fits : offset ≤ cursor.content.length) :
    (cursor.part offset (cursor.content.length - offset)).Holds (cursor.content.drop offset) := by
  have inWindow : offset + (cursor.content.length - offset) ≤ cursor.content.length := by omega
  have content := inside.content_part inWindow
  rw [← List.length_drop, List.take_length, List.length_drop] at content
  exact ⟨inside.sound_part inWindow, content⟩

end Inside

/-- The clusters of a text are found at their boundaries. -/
theorem existing_clusters (text : Text) {index : Nat}
    (inRange : index < (TextCursor.clusterTexts text).length) :
    ∃ cluster, existing (TextCursor.clusters text) index = .ok cluster ∧
      cluster.offset = clusterOffset text index ∧
      cluster.stop = clusterOffset text (index + 1) := by
  have found := getElem?_clusters text index
  rw [List.getElem?_eq_getElem inRange, Option.map_some] at found
  refine ⟨_, ?_, bounds_of_getElem?_clusters found⟩
  simp [existing, found]

variable {cursor : Cursor}

theorem on_popAll (inside : cursor.Inside) :
    popAll.on cursor = (.ok cursor.bare, cursor.part cursor.content.length 0) := by
  have stop_eq : cursor.stop = cursor.start + cursor.content.length := by
    rw [stop, inside.size_eq]
  simp only [popAll, on_bind, on_get, on_ofExcept, inside.copy, moveTo, on_modify, on_pure, stop_eq]
  rfl

/-- What is left of a window behind an offset. -/
theorem Inside.size_sub (inside : cursor.Inside) {offset : Nat}
    (fits : offset ≤ cursor.content.length) :
    cursor.size - offset = (cursor.content.length - offset : Nat) := by
  rw [inside.size_eq]
  omega

/-- Removing a split of the window yields what comes before it. -/
theorem on_popSplit (inside : cursor.Inside) {before after : Nat}
    (beforeFits : before ≤ cursor.content.length) (afterFits : after ≤ cursor.content.length) :
    (popSplit ⟨before, after⟩).on cursor =
      (.ok (cursor.part 0 before), cursor.part after (cursor.content.length - after)) := by
  have piece : make cursor.source cursor.start before = .ok (cursor.part 0 before) :=
    inside.make_part (by omega) (by simp) rfl
  simp only [popSplit, on_bind, on_get, on_ofExcept, piece, moveTo, on_modify, on_pure,
    inside.size_sub afterFits]
  rfl

/-! ## Pieces cut off the front -/

/-- The step yields a piece from the front of the window, and leaves what stands behind an
offset. -/
def CutsFront {α : Type} (step : Edit α) (value : Cursor → α) (cursor : Cursor) : Prop :=
  ∃ before after : Nat, before ≤ cursor.content.length ∧ after ≤ cursor.content.length ∧
    step.on cursor =
      (.ok (value (cursor.part 0 before)), cursor.part after (cursor.content.length - after))

theorem CutsFront.congr {α : Type} {step other : Edit α} {value : Cursor → α}
    (same : step.on cursor = other.on cursor) (cuts : CutsFront other value cursor) :
    CutsFront step value cursor := by
  unfold CutsFront
  rwa [same]

theorem popAll_cutsFront (inside : cursor.Inside) : CutsFront popAll id cursor := by
  refine ⟨cursor.content.length, cursor.content.length, Nat.le_refl _, Nat.le_refl _, ?_⟩
  rw [on_popAll inside, ← inside.part_whole, Nat.sub_self]
  rfl

/-- A removal that may find nothing: then nothing happens. -/
def CutsFront? (step : Edit (Option Cursor)) (cursor : Cursor) : Prop :=
  step.on cursor = (.ok none, cursor) ∨ CutsFront step some cursor

/-! ## Clusters -/

/-- The first clusters go, the others stay. -/
theorem on_popFront (inside : cursor.Inside) (count : Int) :
    (Uncached.popFront count).on cursor.bare =
      (.ok (cursor.part 0 (clusterOffset cursor.content count.toNat)),
        cursor.part (clusterOffset cursor.content count.toNat)
          (cursor.content.length - clusterOffset cursor.content count.toNat)) := by
  have bareInside : cursor.bare.Inside := inside
  by_cases none : count ≤ 0
  · have zero : count.toNat = 0 := by omega
    have piece : make cursor.source cursor.start 0 = .ok (cursor.part 0 0) :=
      inside.make_part (Nat.zero_le _) (by simp) rfl
    simp only [Uncached.popFront, on_bind, on_get, if_pos none, on_ofExcept, bare_source,
      bare_start, piece, zero, clusterOffset_zero, Nat.sub_zero, inside.part_whole]
  · obtain ⟨last, rfl⟩ : ∃ last : Nat, count = last + 1 := ⟨(count - 1).toNat, by omega⟩
    simp only [Uncached.popFront, on_bind, on_get, if_neg none, Uncached.on_clusters,
      bare_content, length_clusters]
    by_cases all : ((TextCursor.clusterTexts cursor.content).length : Int) ≤ last + 1
    · have whole : clusterOffset cursor.content (last + 1) = cursor.content.length :=
        clusterOffset_of_length_le (by omega)
      have toNat : ((last : Int) + 1).toNat = last + 1 := by omega
      rw [if_pos all, on_popAll bareInside, toNat, whole, inside.part_whole, Nat.sub_self]
      rfl
    · have inRange : last < (TextCursor.clusterTexts cursor.content).length := by omega
      obtain ⟨cluster, found, -, stop_eq⟩ := existing_clusters cursor.content inRange
      have fits := clusterOffset_le cursor.content (last + 1)
      have index : (last : Int) + 1 - 1 = last := by omega
      have toNat : ((last : Int) + 1).toNat = last + 1 := by omega
      have split := on_popSplit bareInside fits fits
      simp only [popSplit, on_bind, on_get, on_ofExcept] at split
      rw [if_neg all, index, toNat]
      simp only [on_bind, on_ofExcept, found, stop_eq]
      exact split

/-- The offset at which the last clusters of a text begin. -/
def lastOffset (count : Int) (text : Text) : Nat :=
  clusterOffset text ((TextCursor.clusterTexts text).length - count.toNat)

/-- The last clusters go, the others stay. With a count of none the piece stands at the front, and
where all go what is left stands at the end. -/
theorem on_popBack (inside : cursor.Inside) (count : Int) :
    (popBack count).on cursor =
      if count ≤ 0 then (.ok (cursor.part 0 0), cursor)
      else if (TextCursor.clusterTexts cursor.content).length ≤ count then
        (.ok cursor.bare, cursor.part cursor.content.length 0)
      else (.ok (cursor.part (lastOffset count cursor.content)
          (cursor.content.length - lastOffset count cursor.content)),
        cursor.part 0 (lastOffset count cursor.content)) := by
  by_cases none : count ≤ 0
  · have piece : make cursor.source cursor.start 0 = .ok (cursor.part 0 0) :=
      inside.make_part (Nat.zero_le _) (by simp) rfl
    simp only [popBack, on_bind, on_get, if_pos none, on_ofExcept, piece]
  · by_cases all : ((TextCursor.clusterTexts cursor.content).length : Int) ≤ count
    · simp only [popBack, on_bind, on_get, if_neg none, length_clusters, if_pos all,
        on_popAll inside]
    · have inRange : (TextCursor.clusterTexts cursor.content).length - count.toNat <
          (TextCursor.clusterTexts cursor.content).length := by omega
      obtain ⟨cluster, found, offset_eq, -⟩ := existing_clusters cursor.content inRange
      have fits := clusterOffset_le cursor.content
        ((TextCursor.clusterTexts cursor.content).length - count.toNat)
      have index : ((TextCursor.clusterTexts cursor.content).length : Int) - count =
          ((TextCursor.clusterTexts cursor.content).length - count.toNat : Nat) := by
        omega
      rw [lastOffset, ← offset_eq]
      rw [← offset_eq] at fits
      have piece : make cursor.source (cursor.start + cluster.offset)
          (cursor.size - cluster.offset) =
            .ok (cursor.part cluster.offset (cursor.content.length - cluster.offset)) :=
        inside.make_part (by omega) rfl (inside.size_sub fits)
      simp only [popBack, on_bind, on_get, if_neg none, length_clusters, if_neg all, index,
        on_ofExcept, found, piece, moveTo, on_modify, on_pure]
      simp [Cursor.part]

/-- What is yielded and what is left read the clusters behind an index and those before it. -/
theorem popBack_holds (sound : cursor.Sound) (count : Int) {kept : Nat}
    (keptEq : kept = (TextCursor.clusterTexts cursor.content).length - count.toNat) :
    ∃ piece rest, (popBack count).on cursor = (.ok piece, rest) ∧
      piece.Holds (cursor.content.drop (clusterOffset cursor.content kept)) ∧
      rest.Holds (cursor.content.take (clusterOffset cursor.content kept)) := by
  have inside := sound.inside
  rw [on_popBack inside]
  split
  next none =>
      have whole : clusterOffset cursor.content kept = cursor.content.length :=
        clusterOffset_of_length_le (by omega)
      rw [whole, List.drop_length, List.take_length]
      exact ⟨_, _, rfl, inside.holds_front (Nat.zero_le _), sound, rfl⟩
  next some =>
      split
      next all =>
          have zero : kept = 0 := by omega
          have back := inside.holds_back (Nat.le_refl cursor.content.length)
          rw [Nat.sub_self, List.drop_length] at back
          rw [zero, clusterOffset_zero, List.drop_zero, List.take_zero]
          exact ⟨_, _, rfl, inside.holds_bare, back⟩
      next =>
          have fits := clusterOffset_le cursor.content kept
          rw [lastOffset, ← keptEq]
          exact ⟨_, _, rfl, inside.holds_back fits, inside.holds_front fits⟩

/-! ## A single cluster -/

/-- The first cluster of a text, or the empty text if there is none. -/
def firstCluster (text : Text) : Text := (TextCursor.clusterTexts text).headD []

theorem clusterOffset_one (text : Text) : clusterOffset text 1 = (firstCluster text).length := by
  unfold clusterOffset firstCluster
  cases TextCursor.clusterTexts text with
  | nil => rfl
  | cons first later => simp

theorem take_length_firstCluster (text : Text) :
    text.take (firstCluster text).length = firstCluster text := by
  rw [← clusterOffset_one, take_clusterOffset, firstCluster]
  cases TextCursor.clusterTexts text with
  | nil => rfl
  | cons first later => simp

theorem on_clusterAt (cursor : Cursor) (index : Int) :
    (Uncached.clusterAt index).on cursor =
      (.ok (if index < 0 then []
        else (TextCursor.clusterTexts cursor.content).getD index.toNat []), cursor) := by
  by_cases negative : index < 0
  · simp only [Uncached.clusterAt, if_pos negative, on_pure]
  · have texts : (TextCursor.clusterTexts cursor.content)[index.toNat]? =
        (TextCursor.clusters cursor.content)[index.toNat]?.map Cluster.text := by
      rw [getElem?_clusters, Option.map_map]
      exact Option.map_id'.symm
    rw [if_neg negative, List.getD_eq_getElem?_getD, texts]
    cases found : (TextCursor.clusters cursor.content)[index.toNat]? with
    | none =>
        simp only [Uncached.clusterAt, if_neg negative, on_bind, Uncached.on_clusters, found,
          on_pure]
        rfl
    | some cluster =>
        simp only [Uncached.clusterAt, if_neg negative, on_bind, Uncached.on_clusters, found,
          on_pure]
        rfl

/-- A blank cluster stays, any other is taken. -/
theorem on_token (inside : cursor.Inside) :
    Uncached.token.on cursor.bare =
      if Text.holdsBlank (firstCluster cursor.content) then (.ok [], cursor.bare)
      else (.ok (firstCluster cursor.content), cursor.part (firstCluster cursor.content).length
        (cursor.content.length - (firstCluster cursor.content).length)) := by
  have looked : (Uncached.clusterAt 0).on cursor.bare =
      (.ok (firstCluster cursor.content), cursor.bare) := by
    rw [on_clusterAt, bare_content, firstCluster]
    cases TextCursor.clusterTexts cursor.content with
    | nil => rfl
    | cons first later => rfl
  have popped := on_popFront inside 1
  have fits := clusterOffset_le cursor.content 1
  have one : (1 : Int).toNat = 1 := rfl
  rw [clusterOffset_one] at fits
  rw [one, clusterOffset_one] at popped
  by_cases blank : Text.holdsBlank (firstCluster cursor.content)
  · rw [if_pos blank]
    simp only [Uncached.token, on_bind, looked, if_pos blank, on_pure]
  · rw [if_neg blank]
    simp only [Uncached.token, on_bind, looked, if_neg blank, popped, on_pure,
      (inside.holds_front fits).content, take_length_firstCluster]

end TextCursor.Cursor
