import Mathlib.Data.List.DropRight
import SkillCentric.Library.Routes

/-!
# Paths of web addresses

What a browser makes of an address with a scheme such as `https`: white space at the ends and line
breaks are dropped, the authority ends at the first slash, backslash, question mark or hash, and the
path is read segment by segment, where dot segments are resolved.  A path is read as it is written
just when none of these rules applies to it: each of them makes it shorter.
-/

namespace SkillCentric

namespace UrlPaths

/-- A C0 control or a space. -/
def isBlank (c : Char) : Bool := decide (c.toNat ≤ 32)

/-- A tab or a line break. -/
def isBreak (c : Char) : Bool := c == '\t' || c == '\n' || c == '\r'

def isSlash (c : Char) : Bool := c == '/' || c == '\\'

/-- Where a path ends. -/
def endsPath (c : Char) : Bool := c == '?' || c == '#'

/-- The path percent-encode set. -/
def inPathSet (c : Char) : Bool :=
  decide (c.toNat ≤ 32) || decide (126 < c.toNat) ||
    c ∈ ['"', '#', '<', '>', '?', '^', Char.ofNat 96, '{', '}']

/-- A byte in percent notation. -/
def percentByte (byte : UInt8) : List Char :=
  ['%', (Nat.digitChar (byte.toNat / 16)).toUpper, (Nat.digitChar (byte.toNat % 16)).toUpper]

def encodeChar (c : Char) : List Char :=
  if inPathSet c then (String.utf8EncodeChar c).flatMap percentByte else [c]

/-- A text as it stands in a path. -/
def encode (text : List Char) : List Char := text.flatMap encodeChar

/-- An address without white space at its end and without line breaks. -/
def clean (text : List Char) : List Char :=
  (text.rdropWhile isBlank).filter fun c => !isBreak c

def isSingleDot (segment : List Char) : Bool :=
  decide (segment.map Char.toLower ∈ [".".toList, "%2e".toList])

def isDoubleDot (segment : List Char) : Bool :=
  decide (segment.map Char.toLower ∈ ["..".toList, ".%2e".toList, "%2e.".toList, "%2e%2e".toList])

/-- The path after a segment, which a slash ends or the end of the path. -/
def finish (path : List (List Char)) (segment : List Char) (slash : Bool) : List (List Char) :=
  if isDoubleDot segment then if slash then path.dropLast else path.dropLast ++ [[]]
  else if isSingleDot segment then if slash then path else path ++ [[]]
  else path ++ [segment]

/-- The path state: what is read, the segment at hand and the rest of the text. -/
def readPath (path : List (List Char)) (segment : List Char) : List Char → List (List Char)
  | [] => finish path segment false
  | c :: rest =>
      if isSlash c then readPath (finish path segment true) [] rest
      else if endsPath c then finish path segment false
      else readPath path (segment ++ encodeChar c) rest

/-- The path of what stands after the authority. -/
def pathOf : List Char → List (List Char)
  | [] => readPath [] [] []
  | c :: rest => if isSlash c then readPath [] [] rest else readPath [] [] (c :: rest)

/-- What ends an authority. -/
def endsAuthority (c : Char) : Bool := isSlash c || endsPath c

/-- The authority of what stands after `https:`, and the rest. -/
def authorityOf (text : List Char) : List Char × List Char :=
  let text := text.dropWhile isSlash
  (text.takeWhile fun c => !endsAuthority c, text.dropWhile fun c => !endsAuthority c)

/-- The length of a path. -/
def weight (path : List (List Char)) : Nat := (path.map fun segment => segment.length + 1).sum

variable {path segments : List (List Char)} {segment text rest : List Char} {c : Char}

theorem weight_cons : weight (segment :: segments) = segment.length + 1 + weight segments := by
  rw [weight, List.map_cons, List.sum_cons]
  rfl

theorem weight_append : weight (path ++ segments) = weight path + weight segments := by
  rw [weight, List.map_append, List.sum_append]
  rfl

theorem weight_singleton : weight [segment] = segment.length + 1 := by
  rw [weight_cons]
  rfl

theorem weight_dropLast_le (path : List (List Char)) : weight path.dropLast ≤ weight path := by
  induction path using List.reverseRecOn with
  | nil => exact le_rfl
  | append_singleton front last _ =>
      rw [List.dropLast_concat, weight_append]
      exact Nat.le_add_right _ _

/-- A segment that is resolved. -/
def IsDot (segment : List Char) : Prop := isSingleDot segment = true ∨ isDoubleDot segment = true

instance (segment : List Char) : Decidable (IsDot segment) := inferInstanceAs (Decidable (_ ∨ _))

private theorem length_pos_of_isDot (dot : IsDot segment) : 1 ≤ segment.length := by
  refine Nat.one_le_iff_ne_zero.mpr fun empty => ?_
  obtain rfl := List.length_eq_zero_iff.mp empty
  rcases dot with single | double
  · exact absurd single (by decide)
  · exact absurd double (by decide)

theorem finish_of_not_dot (plain : ¬ IsDot segment) (slash : Bool) :
    finish path segment slash = path ++ [segment] := by
  obtain ⟨single, double⟩ := not_or.mp plain
  rw [finish, if_neg double, if_neg single]

theorem weight_finish_lt (path : List (List Char)) (dot : IsDot segment) (slash : Bool) :
    weight (finish path segment slash) < weight path + (segment.length + 1) := by
  have filled := length_pos_of_isDot dot
  have shorter := weight_dropLast_le path
  have empty : weight [([] : List Char)] = 1 := rfl
  rw [finish]
  by_cases double : isDoubleDot segment = true
  · rw [if_pos double]
    cases slash with
    | true =>
        rw [if_pos rfl]
        omega
    | false =>
        rw [if_neg Bool.false_ne_true, weight_append, empty]
        omega
  · rw [if_neg double, if_pos (dot.resolve_right double)]
    cases slash with
    | true =>
        rw [if_pos rfl]
        omega
    | false =>
        rw [if_neg Bool.false_ne_true, weight_append, empty]
        omega

theorem weight_finish_le (path : List (List Char)) (segment : List Char) (slash : Bool) :
    weight (finish path segment slash) ≤ weight path + (segment.length + 1) := by
  by_cases dot : IsDot segment
  · exact (weight_finish_lt path dot slash).le
  · rw [finish_of_not_dot dot, weight_append, weight_singleton]

theorem length_encodeChar_pos (c : Char) : 1 ≤ (encodeChar c).length := by
  rw [encodeChar]
  split
  · have filled : 1 ≤ (String.utf8EncodeChar c).length := by
      rw [String.length_utf8EncodeChar]
      exact Char.utf8Size_pos c
    cases bytes : String.utf8EncodeChar c with
    | nil =>
        rw [bytes] at filled
        exact absurd filled (by decide)
    | cons byte rest =>
        rw [List.flatMap_cons, List.length_append]
        exact Nat.le_add_right_of_le (Nat.succ_le_succ (Nat.zero_le 2))
  · exact le_rfl

theorem encode_cons : encode (c :: rest) = encodeChar c ++ encode rest := List.flatMap_cons

theorem all_not_iff {α : Type} {property : α → Bool} {members : List α} :
    (members.all fun member => !property member) = true ↔
      ∀ member ∈ members, property member = false := by
  simp

/-- A segment that is read as it is written. -/
structure Plain (segment : List Char) : Prop where
  inside : ∀ c ∈ segment, endsPath c = false
  stays : ¬ IsDot (encode segment)

instance (segment : List Char) : Decidable (Plain segment) :=
  decidable_of_iff ((segment.all fun c => !endsPath c) = true ∧ ¬ IsDot (encode segment))
    ⟨fun ⟨inside, stays⟩ => ⟨all_not_iff.mp inside, stays⟩,
      fun plain => ⟨all_not_iff.mpr plain.inside, plain.stays⟩⟩

theorem readPath_append (path : List (List Char)) (begun : List Char)
    (slashes : ∀ c ∈ text, isSlash c = false) (inside : ∀ c ∈ text, endsPath c = false) :
    readPath path begun (text ++ rest) = readPath path (begun ++ encode text) rest := by
  induction text generalizing begun with
  | nil => rw [List.nil_append, encode, List.flatMap_nil, List.append_nil]
  | cons c text ih =>
      obtain ⟨noSlash, slashes⟩ := List.forall_mem_cons.mp slashes
      obtain ⟨noEnd, inside⟩ := List.forall_mem_cons.mp inside
      rw [List.cons_append, readPath, noSlash, noEnd, if_neg Bool.false_ne_true,
        if_neg Bool.false_ne_true, ih _ slashes inside, encode_cons, List.append_assoc]

theorem weight_readPath_lt_of_end (rest : List Char) (path : List (List Char)) (begun : List Char)
    (slashes : ∀ c ∈ text, isSlash c = false) (ending : ∃ c ∈ text, endsPath c = true) :
    weight (readPath path begun (text ++ rest)) <
      weight path + (begun.length + (encode text).length + 1) := by
  induction text generalizing begun with
  | nil =>
      obtain ⟨c, member, _⟩ := ending
      cases member
  | cons c text ih =>
      obtain ⟨noSlash, slashes⟩ := List.forall_mem_cons.mp slashes
      have some := length_encodeChar_pos c
      rw [List.cons_append, readPath, noSlash, if_neg Bool.false_ne_true, encode_cons,
        List.length_append]
      by_cases ends : endsPath c = true
      · rw [if_pos ends]
        have bound := weight_finish_le path begun false
        omega
      · rw [if_neg ends]
        obtain ⟨other, member, ends'⟩ := ending
        have later : ∃ c ∈ text, endsPath c = true := by
          rcases List.mem_cons.mp member with rfl | inText
          · exact absurd ends' ends
          · exact ⟨other, inText, ends'⟩
        have bound := ih (begun ++ encodeChar c) slashes later
        rw [List.length_append] at bound
        omega

theorem weight_readPath (path : List (List Char)) (nonempty : segments ≠ [])
    (slashes : ∀ segment ∈ segments, ∀ c ∈ segment, isSlash c = false) :
    weight (readPath path [] (slashJoin segments)) ≤ weight path + weight (segments.map encode) ∧
      ((∃ segment ∈ segments, ¬ Plain segment) →
        weight (readPath path [] (slashJoin segments)) <
          weight path + weight (segments.map encode)) := by
  induction segments generalizing path with
  | nil => exact absurd rfl nonempty
  | cons segment others ih =>
      obtain ⟨first, slashes⟩ := List.forall_mem_cons.mp slashes
      rw [List.map_cons, weight_cons]
      by_cases ending : ∃ c ∈ segment, endsPath c = true
      · have whole : ∃ rest, slashJoin (segment :: others) = segment ++ rest := by
          cases others with
          | nil => exact ⟨[], by simp [slashJoin]⟩
          | cons other others => exact ⟨_, slashJoin_cons_cons segment other others⟩
        obtain ⟨rest, whole⟩ := whole
        have bound := weight_readPath_lt_of_end rest path [] first ending
        rw [whole]
        rw [List.length_nil] at bound
        constructor
        · omega
        · intro _
          omega
      · have inside : ∀ c ∈ segment, endsPath c = false := by
          intro c member
          exact Bool.eq_false_iff.mpr fun ends => ending ⟨c, member, ends⟩
        cases others with
        | nil =>
            have whole : slashJoin [segment] = segment ++ [] := by simp [slashJoin]
            rw [whole, readPath_append path [] first inside, List.nil_append, readPath]
            refine ⟨weight_finish_le path _ false, ?_⟩
            rintro ⟨other, member, bent⟩
            obtain rfl := List.mem_singleton.mp member
            have dot : IsDot (encode other) := by
              by_contra plain
              exact bent ⟨inside, plain⟩
            exact weight_finish_lt path dot false
        | cons other others =>
            rw [slashJoin_cons_cons, readPath_append path [] first inside,
              List.nil_append, readPath,
              if_pos (show isSlash '/' = true from rfl)]
            obtain ⟨bound, strict⟩ := ih (finish path (encode segment) true)
              (List.cons_ne_nil _ _) slashes
            have here := weight_finish_le path (encode segment) true
            constructor
            · omega
            · rintro ⟨bent, member, notPlain⟩
              rcases List.mem_cons.mp member with rfl | later
              · have dot : IsDot (encode bent) := by
                  by_contra plain
                  exact notPlain ⟨inside, plain⟩
                have less := weight_finish_lt path dot true
                omega
              · have less := strict ⟨bent, later, notPlain⟩
                omega

theorem readPath_of_plain (path : List (List Char)) (nonempty : segments ≠ [])
    (slashes : ∀ segment ∈ segments, ∀ c ∈ segment, isSlash c = false)
    (plain : ∀ segment ∈ segments, Plain segment) :
    readPath path [] (slashJoin segments) = path ++ segments.map encode := by
  induction segments generalizing path with
  | nil => exact absurd rfl nonempty
  | cons segment others ih =>
      obtain ⟨first, slashes⟩ := List.forall_mem_cons.mp slashes
      obtain ⟨here, plain⟩ := List.forall_mem_cons.mp plain
      cases others with
      | nil =>
          have whole : slashJoin [segment] = segment ++ [] := by simp [slashJoin]
          rw [whole, readPath_append path [] first here.inside, List.nil_append, readPath,
            finish_of_not_dot here.stays, List.map_singleton]
      | cons other others =>
          rw [slashJoin_cons_cons, readPath_append path [] first here.inside, List.nil_append,
            readPath, if_pos (show isSlash '/' = true from rfl), finish_of_not_dot here.stays,
            ih _ (List.cons_ne_nil _ _) slashes plain, List.append_assoc]
          rfl

theorem rdropWhile_append_slash (front back : List Char) :
    (front ++ '/' :: back).rdropWhile isBlank = front ++ '/' :: back.rdropWhile isBlank := by
  induction back using List.reverseRecOn with
  | nil =>
      rw [List.rdropWhile_concat_neg _ _ _ (by decide)]
      rfl
  | append_singleton rest last ih =>
      rw [← List.cons_append, ← List.append_assoc]
      by_cases blank : isBlank last = true
      · rw [List.rdropWhile_concat_pos _ _ _ blank, List.rdropWhile_concat_pos _ _ _ blank,
          ih]
      · rw [List.rdropWhile_concat_neg _ _ _ blank, List.rdropWhile_concat_neg _ _ _ blank,
          List.append_assoc]
        rfl

theorem clean_append_slash (front back : List Char) :
    clean (front ++ '/' :: back) = front.filter (fun c => !isBreak c) ++ '/' :: clean back := by
  rw [clean, rdropWhile_append_slash, List.filter_append, List.filter_cons_of_pos (by decide)]
  rfl

/-- Segments without white space at the end of the last one and without line breaks. -/
def cleanSegments : List (List Char) → List (List Char)
  | [] => []
  | [last] => [clean last]
  | segment :: rest => segment.filter (fun c => !isBreak c) :: cleanSegments rest

theorem cleanSegments_cons_cons (segment other : List Char) (rest : List (List Char)) :
    cleanSegments (segment :: other :: rest) =
      segment.filter (fun c => !isBreak c) :: cleanSegments (other :: rest) := rfl

theorem cleanSegments_ne_nil (nonempty : segments ≠ []) : cleanSegments segments ≠ [] := by
  cases segments with
  | nil => exact absurd rfl nonempty
  | cons segment rest => cases rest <;> exact List.cons_ne_nil _ _

theorem clean_slashJoin (nonempty : segments ≠ []) :
    clean (slashJoin segments) = slashJoin (cleanSegments segments) := by
  induction segments with
  | nil => exact absurd rfl nonempty
  | cons segment rest ih =>
      cases rest with
      | nil => simp [slashJoin, cleanSegments]
      | cons other rest =>
          obtain ⟨first, others, split⟩ :=
            List.exists_cons_of_ne_nil (cleanSegments_ne_nil (List.cons_ne_nil other rest))
          rw [slashJoin_cons_cons, clean_append_slash, ih (List.cons_ne_nil _ _),
            cleanSegments_cons_cons, split, slashJoin_cons_cons]

private theorem clean_sublist (text : List Char) : (clean text).Sublist text :=
  List.filter_sublist.trans (List.rdropWhile_prefix isBlank text).sublist

theorem cleanSegments_sublist (segments : List (List Char)) :
    List.Forall₂ List.Sublist (cleanSegments segments) segments := by
  induction segments with
  | nil => exact .nil
  | cons segment rest ih =>
      cases rest with
      | nil => exact .cons (clean_sublist segment) .nil
      | cons other rest => exact .cons List.filter_sublist ih

theorem length_encode_of_sublist (fewer : text.Sublist rest) :
    (encode text).length + rest.length ≤ (encode rest).length + text.length := by
  induction fewer with
  | slnil => exact le_rfl
  | cons c _ ih =>
      have some := length_encodeChar_pos c
      rw [encode_cons, List.length_append, List.length_cons]
      omega
  | cons_cons c _ ih =>
      rw [encode_cons, encode_cons, List.length_append, List.length_append, List.length_cons,
        List.length_cons]
      omega

theorem weight_of_sublist {fewer : List (List Char)}
    (shorter : List.Forall₂ List.Sublist fewer segments) :
    weight (fewer.map encode) ≤ weight (segments.map encode) ∧
      (fewer ≠ segments → weight (fewer.map encode) < weight (segments.map encode)) := by
  induction shorter with
  | nil => exact ⟨le_rfl, fun other => absurd rfl other⟩
  | @cons first segment fewer segments sublist _ ih =>
      have here := length_encode_of_sublist sublist
      have size := sublist.length_le
      obtain ⟨bound, strict⟩ := ih
      rw [List.map_cons, List.map_cons, weight_cons, weight_cons]
      constructor
      · omega
      · intro other
        by_cases same : first = segment
        · have less := strict fun rest => other (by rw [same, rest])
          omega
        · have less : first.length ≠ segment.length :=
            fun equal => same (sublist.eq_of_length equal)
          omega

theorem pathOf_clean_iff (nonempty : segments ≠ [])
    (slashes : ∀ segment ∈ segments, ∀ c ∈ segment, isSlash c = false) :
    pathOf ('/' :: clean (slashJoin segments)) = segments.map encode ↔
      cleanSegments segments = segments ∧ ∀ segment ∈ segments, Plain segment := by
  have filled := cleanSegments_ne_nil nonempty
  have shorter := cleanSegments_sublist segments
  have clean_slashes : ∀ segment ∈ cleanSegments segments, ∀ c ∈ segment, isSlash c = false := by
    intro segment member c inSegment
    obtain ⟨i, within, rfl⟩ := List.getElem_of_mem member
    have size := shorter.length_eq
    have sublist := List.Forall₂.get shorter within (size ▸ within)
    exact slashes _ (List.getElem_mem (size ▸ within)) c (sublist.subset inSegment)
  rw [clean_slashJoin nonempty, pathOf, if_pos (show isSlash '/' = true from rfl)]
  obtain ⟨bound, strict⟩ := weight_readPath [] filled clean_slashes
  obtain ⟨less, fewer⟩ := weight_of_sublist shorter
  rw [show weight [] = 0 from rfl, Nat.zero_add] at bound strict
  constructor
  · intro same
    rw [same] at bound strict
    have clean : cleanSegments segments = segments := by
      by_contra other
      exact absurd (fewer other) (by omega)
    refine ⟨clean, fun segment member => ?_⟩
    by_contra bent
    have short := strict ⟨segment, clean.symm ▸ member, bent⟩
    omega
  · rintro ⟨clean, plain⟩
    rw [clean, readPath_of_plain [] nonempty slashes plain, List.nil_append]

theorem filter_breaks_eq_iff :
    text.filter (fun c => !isBreak c) = text ↔ ∀ c ∈ text, isBreak c = false := by
  rw [List.filter_eq_self]
  simp only [Bool.not_eq_true']

theorem clean_eq_iff : clean text = text ↔
    (∀ c ∈ text, isBreak c = false) ∧ ∀ c ∈ text.getLast?, isBlank c = false := by
  have ends : text.rdropWhile isBlank = text ↔ ∀ c ∈ text.getLast?, isBlank c = false := by
    rw [List.rdropWhile_eq_self_iff]
    constructor
    · intro kept c last
      have filled : text ≠ [] := by
        rintro rfl
        cases last
      rw [List.getLast?_eq_some_getLast filled] at last
      obtain rfl := Option.some.inj last
      exact Bool.eq_false_iff.mpr (kept filled)
    · intro kept filled
      exact Bool.eq_false_iff.mp (kept _ (List.getLast?_eq_some_getLast filled))
  rw [← filter_breaks_eq_iff, ← ends, clean]
  constructor
  · intro whole
    have dropped : text.rdropWhile isBlank = text := by
      have prefixed := List.rdropWhile_prefix isBlank text
      refine prefixed.eq_of_length (le_antisymm prefixed.length_le ?_)
      calc
        text.length = ((text.rdropWhile isBlank).filter fun c => !isBreak c).length := by rw [whole]
        _ ≤ (text.rdropWhile isBlank).length := List.length_filter_le _ _
    rw [dropped] at whole
    exact ⟨whole, dropped⟩
  · rintro ⟨whole, dropped⟩
    rw [dropped, whole]

theorem cleanSegments_eq_iff : cleanSegments segments = segments ↔
    (∀ segment ∈ segments, ∀ c ∈ segment, isBreak c = false) ∧
      ∀ last ∈ segments.getLast?, ∀ c ∈ last.getLast?, isBlank c = false := by
  induction segments with
  | nil =>
      refine iff_of_true rfl ⟨fun _ member => absurd member List.not_mem_nil, ?_⟩
      exact fun _ last => nomatch last
  | cons segment rest ih =>
      cases rest with
      | nil =>
          rw [cleanSegments, List.singleton_inj, clean_eq_iff, List.getLast?_singleton,
            List.forall_mem_singleton]
          simp only [Option.mem_def, Option.some.injEq, forall_eq']
      | cons other rest =>
          rw [cleanSegments_cons_cons, List.cons.injEq, filter_breaks_eq_iff, ih,
            List.getLast?_cons_cons, List.forall_mem_cons (a := segment), and_assoc]

/-- An address as it is read. -/
structure Address (σ η : Type) where
  scheme : σ
  host : η
  path : List (List Char)
  deriving DecidableEq

section Addresses

/-! How the authority names a host is left open; nothing is a failure. -/

variable {σ η : Type} (host : σ → List Char → Option η)

/-- An address from its authority on. -/
def ofAuthority (scheme : σ) (text : List Char) : Option (Address σ η) :=
  (host scheme (authorityOf text).1).map fun host => ⟨scheme, host, pathOf (authorityOf text).2⟩

/-- The address of a scheme and what stands after its colon. -/
def parse (scheme : σ) (text : List Char) : Option (Address σ η) :=
  ofAuthority host scheme (clean text)

/-- The address of a text that begins with a slash, relative to another one. -/
def parseFromRoot (base : Address σ η) (rest : List Char) : Option (Address σ η) :=
  match clean rest with
  | [] => some { base with path := readPath [] [] [] }
  | c :: after =>
      if isSlash c then ofAuthority host base.scheme after
      else some { base with path := readPath [] [] (c :: after) }

variable {host} {scheme : σ} {authority : List Char}

/-- What can stand between two slashes and a path. -/
structure Authority (text : List Char) : Prop where
  filled : text ≠ []
  inside : ∀ c ∈ text, endsAuthority c = false
  breaks : ∀ c ∈ text, isBreak c = false

theorem authorityOf_append (named : Authority authority) (rest : List Char) :
    authorityOf ('/' :: '/' :: (authority ++ '/' :: rest)) = (authority, '/' :: rest) := by
  obtain ⟨first, others, rfl⟩ := List.exists_cons_of_ne_nil named.filled
  have noSlash : isSlash first = false := by
    have inside := named.inside first List.mem_cons_self
    rw [endsAuthority, Bool.or_eq_false_iff] at inside
    exact inside.1
  have begins : ('/' :: '/' :: (first :: others ++ '/' :: rest)).dropWhile isSlash =
      first :: others ++ '/' :: rest := by
    rw [List.dropWhile_cons_of_pos rfl, List.dropWhile_cons_of_pos rfl, List.cons_append,
      List.dropWhile_cons_of_neg (by rw [noSlash]; exact Bool.false_ne_true)]
  have inside : ∀ c ∈ first :: others, (!endsAuthority c) = true := by
    intro c member
    rw [named.inside c member]
    rfl
  rw [authorityOf, begins, List.takeWhile_append_of_pos inside, List.dropWhile_append_of_pos inside,
    List.takeWhile_cons_of_neg (by decide), List.dropWhile_cons_of_neg (by decide), List.append_nil]

theorem parse_authority (named : Authority authority) (rest : List Char) :
    parse host scheme ('/' :: '/' :: (authority ++ '/' :: rest)) =
      (host scheme authority).map fun host => ⟨scheme, host, pathOf ('/' :: clean rest)⟩ := by
  have cleaned : clean ('/' :: '/' :: (authority ++ '/' :: rest)) =
      '/' :: '/' :: (authority ++ '/' :: clean rest) := by
    have whole := clean_append_slash ('/' :: '/' :: authority) rest
    rw [List.filter_cons_of_pos (by decide), List.filter_cons_of_pos (by decide),
      filter_breaks_eq_iff.mpr named.breaks] at whole
    exact whole
  rw [parse, ofAuthority, cleaned, authorityOf_append named]

end Addresses

end UrlPaths

end SkillCentric
