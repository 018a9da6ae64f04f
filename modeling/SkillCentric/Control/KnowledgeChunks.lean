import SkillCentric.Control.Ingestion
import SkillCentric.Library.Chunks
import SkillCentric.Library.JsStrings

/-!
# Chunks of code units

`chunkContent` on the strings of the Worker: it slices by code units, so that a cut can go through a
surrogate pair.  `⊤` stands for `Infinity` among the numbers of characters.
-/

namespace SkillCentric

namespace JsString

/-- Where `slice(0, count)` ends and `slice(count)` begins, for a count from zero on. -/
def sliceAt (count : WithTop ℚ) (string : JsString) : Nat :=
  match count with
  | none => string.units.length
  | some number => min ⌊number⌋.toNat string.units.length

/-- `string.slice(0, count)`. -/
def take (string : JsString) (count : Nat) : JsString :=
  ⟨string.units.take count, (List.take_sublist count string.units).length_le.trans string.bounded⟩

end JsString

namespace Control

open JsString

/-- The loop of `chunkContent`, for as many rounds as there is fuel. -/
def chunkLoop (maxChars : WithTop ℚ) : Nat → JsString → List JsString → Option (List JsString)
  | 0, _, _ => none
  | fuel + 1, remaining, chunks =>
      if remaining.units.length > 0 then
        let chunk := (remaining.take (sliceAt maxChars remaining)).trim
        chunkLoop maxChars fuel (remaining.drop (sliceAt maxChars remaining)).trim
          (chunks ++ [chunk])
      else some chunks

/-- `chunkContent` on code units, for as many rounds as there is fuel. -/
def chunkUnits (fuel : Nat) (content : JsString) (maxChars : WithTop ℚ := 1200) :
    Option (List JsString) :=
  (chunkLoop maxChars fuel content.trim []).map fun chunks =>
    if chunks.length > 0 then chunks else [content.trim]

end Control

end SkillCentric
