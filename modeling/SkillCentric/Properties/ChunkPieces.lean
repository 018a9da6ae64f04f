import SkillCentric.Control.KnowledgeChunks

/-!
# Chunking loses nothing

A document with a visible unit is cut into trimmed chunks that hold all of its visible units.
-/

namespace SkillCentric

namespace ChunkPieces

open Chunks JsString Control

variable {remaining : JsString} {maxChars : WithTop ℚ}

/-- A chunk of `chunkContent`. -/
structure IsChunk (maxChars : WithTop ℚ) (chunk : JsString) : Prop where
  filled : chunk.units ≠ []
  fits : (chunk.units.length : WithTop ℚ) ≤ maxChars
  trimmed : Trimmed JsString.isSpace chunk.units

theorem sliceAt_pos (positive : 1 ≤ maxChars) (filled : remaining.units ≠ []) :
    0 < sliceAt maxChars remaining := by
  have length := List.length_pos_iff.mpr filled
  cases maxChars with
  | top => exact length
  | coe number =>
      have whole : 1 ≤ ⌊number⌋ := Int.le_floor.mpr (by exact_mod_cast positive)
      change 0 < min ⌊number⌋.toNat remaining.units.length
      omega

theorem sliceAt_le (positive : 1 ≤ maxChars) (string : JsString) :
    (sliceAt maxChars string : WithTop ℚ) ≤ maxChars := by
  cases maxChars with
  | top => exact le_top
  | coe number =>
      have whole : 1 ≤ ⌊number⌋ := Int.le_floor.mpr (by exact_mod_cast positive)
      have below : (⌊number⌋.toNat : ℚ) ≤ number := by
        have floor := Int.floor_le number
        rwa [← Int.toNat_of_nonneg (zero_le_one.trans whole), Int.cast_natCast] at floor
      have cut : ((min ⌊number⌋.toNat string.units.length : Nat) : ℚ) ≤ number :=
        (Nat.cast_le.mpr (min_le_left _ _)).trans below
      exact_mod_cast cut

theorem isChunk_of_trimmed (positive : 1 ≤ maxChars)
    (trimmed : Trimmed JsString.isSpace remaining.units)
    (filled : remaining.units ≠ []) :
    IsChunk maxChars (remaining.take (sliceAt maxChars remaining)).trim where
  filled := trimmed.trim_take_ne_nil filled (sliceAt_pos positive filled)
  fits := by
    have short : (trimUnits (remaining.units.take (sliceAt maxChars remaining))).length ≤
        sliceAt maxChars remaining := (length_trimUnits_le _).trans (List.length_take_le _ _)
    exact le_trans (by exact_mod_cast short) (sliceAt_le positive remaining)
  trimmed := trimmed_trim JsString.isSpace _

theorem chunkLoop_pieces (positive : 1 ≤ maxChars)
    (trimmed : Trimmed JsString.isSpace remaining.units) :
    ∃ added, (∀ chunks fuel, remaining.units.length < fuel →
        chunkLoop maxChars fuel remaining chunks = some (chunks ++ added)) ∧
      (∀ chunk ∈ added, IsChunk maxChars chunk) ∧
      (remaining.units = [] → added = []) ∧
      (remaining.units ≠ [] →
        Pieces JsString.isSpace (added.map JsString.units) remaining.units) := by
  induction length : remaining.units.length using
    Nat.strong_induction_on generalizing remaining with
  | _ length ih =>
      subst length
      by_cases filled : remaining.units = []
      · refine ⟨[], fun chunks fuel enough => ?_, by simp, fun _ => rfl, absurd filled⟩
        obtain ⟨rounds, rfl⟩ := Nat.exists_eq_succ_of_ne_zero (Nat.ne_zero_of_lt enough)
        rw [chunkLoop, if_neg (by simp [filled]), List.append_nil]
      · have shorter := trimmed.length_cut_lt filled (sliceAt_pos positive filled)
        have chunk := isChunk_of_trimmed positive trimmed filled
        obtain ⟨added, rest, all, last, pieces⟩ := ih _ shorter
          (trimmed_trim JsString.isSpace (remaining.units.drop (sliceAt maxChars remaining)))
          (show (remaining.drop (sliceAt maxChars remaining)).trim.units.length = _ from rfl)
        refine ⟨(remaining.take (sliceAt maxChars remaining)).trim :: added,
          fun chunks fuel enough => ?_, List.forall_mem_cons.mpr ⟨chunk, all⟩,
          fun empty => absurd empty filled, fun _ => ?_⟩
        · obtain ⟨rounds, rfl⟩ := Nat.exists_eq_succ_of_ne_zero (Nat.ne_zero_of_lt enough)
          have left := rest (chunks ++ [(remaining.take (sliceAt maxChars remaining)).trim]) rounds
            (lt_of_lt_of_le shorter (Nat.le_of_lt_succ enough))
          rw [chunkLoop, if_pos (List.length_pos_iff.mpr filled), left, List.append_assoc,
            List.singleton_append]
        by_cases nothing : (remaining.drop (sliceAt maxChars remaining)).trim.units = []
        · have whole : (remaining.take (sliceAt maxChars remaining)).trim.units = remaining.units :=
            trimmed.cut_last nothing
          rw [last nothing, List.map_singleton, whole]
          exact .last _
        · obtain ⟨gap, blanks, split⟩ := trimmed.cut (sliceAt maxChars remaining)
          rw [List.map_cons, split]
          exact .more blanks (pieces nothing)

/-- A document with a visible unit is cut in as many rounds as it has units, and one to see the end.
The chunks are trimmed, filled and of the greatest length; in order they hold the visible units of
the document, and with the blanks between them they are the trimmed document. -/
theorem chunks_lose_nothing (content : JsString) (maxChars : WithTop ℚ)
    (visible : ∃ unit ∈ content.units, JsString.isSpace unit = false) (positive : 1 ≤ maxChars) :
    ∃ chunks, (∀ fuel, content.units.length < fuel →
        chunkUnits fuel content maxChars = some chunks) ∧
      (∀ chunk ∈ chunks, IsChunk maxChars chunk) ∧
      (chunks.flatMap JsString.units).filter (fun unit => !JsString.isSpace unit) =
        content.units.filter (fun unit => !JsString.isSpace unit) ∧
      Pieces JsString.isSpace (chunks.map JsString.units) content.trim.units := by
  have trimmed := trimmed_trim JsString.isSpace content.units
  have visible_left := filter_trim JsString.isSpace content.units
  have filled : content.trim.units ≠ [] := by
    intro empty
    obtain ⟨unit, member, seen⟩ := visible
    change trim JsString.isSpace content.units = [] at empty
    rw [empty] at visible_left
    have lost := List.filter_eq_nil_iff.mp visible_left.symm unit member
    exact lost (by rw [seen]; rfl)
  obtain ⟨chunks, ends, all, -, consists⟩ :=
    @chunkLoop_pieces content.trim maxChars positive trimmed
  have pieces := consists filled
  have some_chunk : 0 < chunks.length := by
    refine List.length_pos_iff.mpr fun none => ?_
    rw [none] at pieces
    cases pieces
  refine ⟨chunks, fun fuel enough => ?_, all, ?_, pieces⟩
  · rw [chunkUnits, ends [] fuel ((length_trimUnits_le _).trans_lt enough), Option.map_some,
      List.nil_append, if_pos some_chunk]
  · rw [List.flatMap_def, pieces.filter_flatten]
    exact visible_left

/-- Three words. -/
def sampleContent : JsString := ⟨JsString.unitsOf " to be\nor ", by decide⟩

theorem chunks_lose_nothing_sample :
    ∃ chunks, chunkUnits 11 sampleContent 4 = some chunks ∧
      Pieces JsString.isSpace (chunks.map JsString.units) (JsString.unitsOf "to be\nor") := by
  have visible : ∃ unit ∈ sampleContent.units, JsString.isSpace unit = false :=
    ⟨116, by decide, by decide⟩
  have positive : (1 : WithTop ℚ) ≤ 4 := by exact_mod_cast (show (1 : ℚ) ≤ 4 by norm_num)
  obtain ⟨chunks, ends, -, -, pieces⟩ := chunks_lose_nothing sampleContent 4 visible positive
  exact ⟨chunks, ends 11 (by decide), pieces⟩

section Characters

/-- The code unit of a character of the basic plane. -/
def unitOf (c : Char) : UInt16 := UInt16.ofNat c.toNat

/-- No character needs two code units. -/
def Basic (text : Text) : Prop := ∀ c ∈ text, c.toNat < 65536

variable {text : Text} {string : JsString}

private theorem isSpace_unitOf {c : Char} (basic : c.toNat < 65536) :
    JsString.isSpace (unitOf c) = isTrimmed c := by
  have same : (unitOf c).toNat = c.toNat := by
    rw [unitOf, UInt16.toNat_ofNat', Nat.mod_eq_of_lt basic]
  simp only [JsString.isSpace, isTrimmed, same]

theorem trim_units (basic : Basic text) (units : string.units = text.map unitOf) :
    string.trim.units = (Control.trim text).map unitOf := by
  change trim JsString.isSpace string.units = _
  rw [units, trim_map fun c member => isSpace_unitOf (basic c member)]
  rfl

theorem trim_sublist (text : Text) : (Control.trim text).Sublist text :=
  (List.rdropWhile_prefix _ _).sublist.trans (List.dropWhile_sublist _)

theorem chunkLoop_units {maxChars fuel : Nat} (positive : 0 < maxChars) (basic : Basic text)
    (units : string.units = text.map unitOf) (enough : text.length ≤ fuel)
    (chunks : List JsString) :
    ∃ added, chunkLoop ((maxChars : ℚ) : WithTop ℚ) (fuel + 1) string chunks =
        some (chunks ++ added) ∧
      added.map JsString.units = (chunksFrom maxChars fuel text).map (List.map unitOf) := by
  induction fuel generalizing text string chunks with
  | zero =>
      obtain rfl := List.length_eq_zero_iff.mp (Nat.le_zero.mp enough)
      exact ⟨[], by simp [chunkLoop, units], rfl⟩
  | succ fuel ih =>
      cases text with
      | nil => exact ⟨[], by simp [chunkLoop, units], rfl⟩
      | cons c rest =>
          have cut : sliceAt ((maxChars : ℚ) : WithTop ℚ) string =
              min maxChars (c :: rest).length := by
            change min ⌊(maxChars : ℚ)⌋.toNat string.units.length = _
            rw [Int.floor_natCast, Int.toNat_natCast, units, List.length_map]
          have chunk : (string.take (min maxChars (c :: rest).length)).trim.units = _ := trim_units
            (fun d member => basic d ((List.take_sublist maxChars _).subset member))
            (show string.units.take _ = _ by
              rw [units, ← List.map_take, ← List.take_eq_take_min])
          have later : Basic ((c :: rest).drop maxChars) :=
            fun d member => basic d ((List.drop_sublist maxChars _).subset member)
          have left : (string.drop (min maxChars (c :: rest).length)).trim.units = _ :=
            trim_units later
            (show string.units.drop _ = _ by
              rw [units, ← List.map_drop, ← List.drop_eq_drop_min])
          obtain ⟨added, ends, same⟩ := ih
            (fun d member => later d ((trim_sublist _).subset member)) left (by
              have shorter := (trim_sublist ((c :: rest).drop maxChars)).length_le
              rw [List.length_drop] at shorter
              simp only [List.length_cons] at shorter enough
              omega) (chunks ++ [(string.take (min maxChars (c :: rest).length)).trim])
          refine ⟨(string.take (min maxChars (c :: rest).length)).trim :: added, ?_, ?_⟩
          · rw [chunkLoop, if_pos (by simp [units]), cut, ends, List.append_assoc]
            rfl
          · rw [List.map_cons, chunk, same]
            rfl

/-- On characters of the basic plane `chunkContent` cuts the code units of what it cuts. -/
theorem chunkUnits_eq_chunkContent {maxChars : Nat} (positive : 0 < maxChars) (basic : Basic text)
    (units : string.units = text.map unitOf) :
    ∃ chunks, chunkUnits (text.length + 1) string ((maxChars : ℚ) : WithTop ℚ) = some chunks ∧
      chunks.map JsString.units = (chunkContent text maxChars).map (List.map unitOf) := by
  have trimmed := trim_units basic units
  obtain ⟨added, ends, same⟩ := chunkLoop_units positive
    (fun c member => basic c ((trim_sublist text).subset member)) trimmed
    (trim_sublist text).length_le []
  rw [chunkUnits, ends, Option.map_some, List.nil_append]
  refine ⟨_, rfl, ?_⟩
  unfold chunkContent
  cases added with
  | nil =>
      cases cut : chunksFrom maxChars text.length (Control.trim text) with
      | nil => exact congrArg (List.cons · []) trimmed
      | cons chunk rest => rw [cut] at same; cases same
  | cons chunk rest =>
      cases cut : chunksFrom maxChars text.length (Control.trim text) with
      | nil => rw [cut] at same; cases same
      | cons first others => rw [cut] at same; exact same

end Characters

end ChunkPieces

end SkillCentric
