import SkillCentric.Crm.SimplePdf
import SkillCentric.Library.Pdf
import SkillCentric.Runtime.RunNames

/-!
# Printed consultations are well formed

The offsets of the objects are recorded while they are written, and lie in the table at the place of
their numbers.  A line is cut, escaped and encoded in this order, so that the strings of the content
stream read back as the lines.
-/

namespace SkillCentric

namespace PdfForm

open Crm Pdf Scanner Datetime

def objectBytes (number : Nat) (object : List UInt8) : List UInt8 :=
  latin1 (decimal number ++ (" 0 obj\n" : Text)) ++ object ++ latin1 "\nendobj\n"

theorem writeObjects_at (objects : List (List UInt8)) (first : Nat) (output : List UInt8)
    (offsets : List Nat) :
    ∃ more added, (objects.zipIdx first).foldl writeObject (output, offsets) =
        (output ++ more, offsets ++ added) ∧
      ∀ index object, objects[index]? = some object → ∃ offset, added[index]? = some offset ∧
        At (output ++ more) offset (objectBytes (first + index) object) := by
  induction objects generalizing first output offsets with
  | nil =>
      refine ⟨[], [], by simp, ?_⟩
      intro index object found
      cases found
  | cons object rest ih =>
      obtain ⟨more, added, after, placed⟩ := ih (first + 1)
        (output ++ objectBytes first object) (offsets ++ [output.length])
      refine ⟨objectBytes first object ++ more, output.length :: added, ?_, ?_⟩
      · rw [List.zipIdx_cons, List.foldl_cons]
        change (rest.zipIdx (first + 1)).foldl writeObject (output ++ objectBytes first object,
          offsets ++ [output.length]) = _
        rw [after, List.append_assoc, List.append_assoc, List.singleton_append]
      · intro index other found
        rw [← List.append_assoc]
        cases index with
        | zero =>
            obtain rfl : object = other := by simpa using found
            exact ⟨output.length, rfl, (at_length output _).append more⟩
        | succ index =>
            obtain ⟨offset, recorded, at_offset⟩ := placed index other (by simpa using found)
            refine ⟨offset, by simpa using recorded, ?_⟩
            rwa [Nat.add_assoc, Nat.add_comm 1] at at_offset

theorem length_latin1 (value : Text) : (latin1 value).length = value.length := List.length_map _

theorem length_xrefEntry {offset : Nat} (small : offset < 10 ^ 10) :
    (xrefEntry offset).length = 20 := by
  have digits : (decimal offset).length ≤ 10 :=
    (Nat.length_toDigits_le_iff (by decide) (by decide)).mpr small
  rw [xrefEntry, length_latin1, List.length_append, padded, List.length_append,
    List.length_replicate]
  change _ + 10 = 20
  omega

theorem escapeByte_latin1Char (c : Char) :
    escapeByte (latin1Char c) = latin1 (pdfEscape [c]) := by
  by_cases back : c = '\\'
  · subst back
    decide
  by_cases opening : c = '('
  · subst opening
    decide
  by_cases closing : c = ')'
  · subst closing
    decide
  have plain : pdfEscape [c] = [c] := by
    simp [pdfEscape, replaceByText, back, opening, closing]
  have byte_ne (special : Char) (small : special.toNat < 256) (known : special ≠ '?')
      (differs : c ≠ special) : latin1Char c ≠ UInt8.ofNat special.toNat := by
    intro same
    have numbers := congrArg UInt8.toNat same
    rw [latin1Char] at numbers
    split at numbers
    case isTrue below =>
      rw [UInt8.toNat_ofNat_of_lt' below, UInt8.toNat_ofNat_of_lt' small] at numbers
      exact differs (Char.toNat_inj.mp numbers)
    case isFalse =>
      rw [UInt8.toNat_ofNat_of_lt' small] at numbers
      exact known (Char.toNat_inj.mp numbers.symm)
  rw [plain, escapeByte, if_neg]
  · rfl
  · rintro (same | same | same)
    · exact byte_ne '\\' (by decide) (by decide) back same
    · exact byte_ne '(' (by decide) (by decide) opening same
    · exact byte_ne ')' (by decide) (by decide) closing same

private theorem pdfEscape_eq_flatMap (value : Text) :
    pdfEscape value = value.flatMap fun c => pdfEscape [c] := by
  simp only [pdfEscape, replaceByText, List.flatMap_assoc, List.flatMap_singleton]

theorem latin1_pdfEscape (value : Text) : latin1 (pdfEscape value) = escape (latin1 value) := by
  rw [pdfEscape_eq_flatMap, latin1, List.map_flatMap, escape, latin1, List.flatMap_map]
  refine List.flatMap_congr fun c _ => ?_
  exact (escapeByte_latin1Char c).symm

def printed (line : Text) : List UInt8 := latin1 (line.take 105)

def lineBytes (entry : Text × Nat) : List UInt8 :=
  (if entry.2 ≠ 0 then latin1 ('\n' :: ("T*" : Text)) else []) ++ [10] ++
    literal (printed entry.1) ++ latin1 " Tj"

theorem latin1_append (left right : Text) : latin1 (left ++ right) = latin1 left ++ latin1 right :=
  List.map_append

theorem intercalate_append (separator first : Text) (rest more : List Text) :
    List.intercalate separator (first :: rest ++ more) =
      List.intercalate separator (first :: rest) ++ more.flatMap (separator ++ ·) := by
  induction rest generalizing first with
  | nil =>
      induction more generalizing first with
      | nil => simp
      | cons second more ih =>
          rw [List.flatMap_cons, List.singleton_append, List.intercalate_cons_cons]
          have others := ih second
          rw [List.singleton_append, List.intercalate_singleton] at others
          rw [others, List.intercalate_singleton, List.append_assoc, List.append_assoc]
  | cons second rest ih =>
      rw [List.cons_append, List.cons_append, List.intercalate_cons_cons,
        List.intercalate_cons_cons, ← List.cons_append, ih, List.append_assoc,
        List.append_assoc, List.append_assoc]

theorem latin1_lineOperators (entry : Text × Nat) :
    latin1 ((lineOperators entry).flatMap (['\n'] ++ ·)) = lineBytes entry := by
  have string : latin1 (['\n'] ++ (("(" : Text) ++ pdfEscape (entry.1.take 105) ++
      (") Tj" : Text))) = [10] ++ literal (printed entry.1) ++ latin1 " Tj" := by
    have closing : latin1 ") Tj" = [41] ++ latin1 " Tj" := rfl
    rw [latin1_append, latin1_append, latin1_append, latin1_pdfEscape, closing, literal,
      ← List.append_assoc (latin1 _ ++ _) [41]]
    simp only [List.append_assoc]
    rfl
  rw [lineOperators, lineBytes, List.flatMap_append, latin1_append, List.flatMap_singleton, string]
  by_cases start : entry.2 = 0
  · simp only [start, ne_eq, not_true, if_false, List.flatMap_nil, List.nil_append]
    rfl
  · simp only [start, ne_eq, not_false_eq_true, if_true, List.flatMap_singleton, List.append_assoc]
    rfl

def startOperators : List UInt8 :=
  latin1 (List.intercalate ['\n'] [("BT" : Text), "/F1 11 Tf", "50 790 Td", "14 TL"])

theorem pdfStream_eq (title : Text) (lines : List Text) :
    pdfStream title lines = startOperators ++
      (textLines title lines).zipIdx.flatMap lineBytes ++ latin1 ('\n' :: ("ET" : Text)) := by
  have written : latin1 (((textLines title lines).zipIdx.flatMap lineOperators).flatMap
      (['\n'] ++ ·)) = (textLines title lines).zipIdx.flatMap lineBytes := by
    rw [List.flatMap_assoc, latin1, List.map_flatMap]
    exact List.flatMap_congr fun entry _ => latin1_lineOperators entry
  rw [pdfStream, List.append_assoc, intercalate_append, List.flatMap_append, latin1_append,
    latin1_append, written, List.flatMap_singleton, ← List.append_assoc]
  rfl

theorem readAll_lineBytes (done : List (List UInt8)) (entry : Text × Nat) :
    (between done).readAll (lineBytes entry) =
      between (done ++ [unified false (printed entry.1)]) := by
  have start : (between done).readAll
      (if entry.2 ≠ 0 then latin1 ('\n' :: ("T*" : Text)) else []) = between done := by
    split
    · exact readAll_between (by decide)
    · rfl
  have feed : (between done).readAll [10] = between done := readAll_between (by decide)
  rw [lineBytes, readAll_append, readAll_append, readAll_append, start, feed, readAll_literal,
    readAll_between (by decide)]

theorem readAll_lines (entries : List (Text × Nat)) (done : List (List UInt8)) :
    (between done).readAll (entries.flatMap lineBytes) =
      between (done ++ entries.map fun entry => unified false (printed entry.1)) := by
  induction entries generalizing done with
  | nil => rw [List.map_nil, List.append_nil]; rfl
  | cons entry rest ih =>
      rw [List.flatMap_cons, readAll_append, readAll_lineBytes, ih, List.map_cons,
        List.append_assoc, List.singleton_append]

theorem strings_pdfStream (title : Text) (lines : List Text) :
    strings (pdfStream title lines) =
      (textLines title lines).map fun line => unified false (printed line) := by
  have start : ({} : Scanner) = between [] := rfl
  rw [strings, pdfStream_eq, start, readAll_append, readAll_append, readAll_between (by decide),
    readAll_lines, readAll_between (by decide), List.nil_append]
  change (textLines title lines).zipIdx.map
    ((fun line => unified false (printed line)) ∘ Prod.fst) = _
  rw [← List.map_map, List.zipIdx_map_fst]

theorem printed_no_return {line : Text} (no_return : '\r' ∉ line) :
    (13 : UInt8) ∉ printed line := by
  intro member
  obtain ⟨c, among, same⟩ := List.mem_map.mp member
  rw [latin1Char] at same
  split at same
  case isTrue below =>
    have number := congrArg UInt8.toNat same
    rw [UInt8.toNat_ofNat_of_lt' below] at number
    obtain rfl : c = '\r' := Char.toNat_inj.mp number
    exact no_return (List.mem_of_mem_take among)
  case isFalse => exact absurd same (by decide)

def fixedObjects : List (List UInt8) := (pdfObjects []).take 4

def contentsObject (stream : List UInt8) : List UInt8 :=
  latin1 "<< /Length " ++ latin1 (decimal stream.length) ++ latin1 " >>\nstream\n" ++ stream ++
    latin1 "\nendstream"

theorem pdfObjects_eq (stream : List UInt8) :
    pdfObjects stream = fixedObjects ++ [contentsObject stream] := rfl

set_option maxRecDepth 4000 in
private theorem fixed_offsets :
    ((fixedObjects.zipIdx 1).foldl writeObject (pdfHeader, [0])).2 = [0, 15, 64, 121, 247] ∧
      ((fixedObjects.zipIdx 1).foldl writeObject (pdfHeader, [0])).1.length = 317 := by
  decide

theorem offsets_eq (stream : List UInt8) :
    (((pdfObjects stream).zipIdx 1).foldl writeObject (pdfHeader, [0])).2 =
      [0, 15, 64, 121, 247, 317] := by
  obtain ⟨offsets, length⟩ := fixed_offsets
  rw [pdfObjects_eq, List.zipIdx_append, List.foldl_append]
  change ((fixedObjects.zipIdx 1).foldl writeObject (pdfHeader, [0])).2 ++
    [((fixedObjects.zipIdx 1).foldl writeObject (pdfHeader, [0])).1.length] = _
  rw [offsets, length]
  rfl

def trailerBytes (xref : Nat) : List UInt8 :=
  latin1 (("trailer\n<< /Size " : Text) ++ decimal 6 ++ (" /Root 1 0 R >>\nstartxref\n" : Text) ++
    decimal xref ++ ("\n%%EOF\n" : Text))

theorem startxref_suffix (xref : Nat) :
    latin1 (("startxref\n" : Text) ++ decimal xref ++ ("\n%%EOF\n" : Text)) <:+
      trailerBytes xref := by
  have word : (" /Root 1 0 R >>\n" : Text) ++ ("startxref\n" : Text) =
      (" /Root 1 0 R >>\nstartxref\n" : Text) := by decide
  refine ⟨latin1 (("trailer\n<< /Size " : Text) ++ decimal 6 ++ (" /Root 1 0 R >>\n" : Text)), ?_⟩
  rw [trailerBytes, ← latin1_append, ← word, ← List.append_assoc, ← List.append_assoc,
    ← List.append_assoc]

theorem simplePdf_parts (title : Text) (lines : List Text) :
    ∃ objects, simplePdf title lines = objects ++
        (latin1 "xref\n0 6\n0000000000 65535 f \n" ++
          ([15, 64, 121, 247, 317].flatMap xrefEntry ++ trailerBytes objects.length)) ∧
      ∀ index object, (pdfObjects (pdfStream title lines))[index]? = some object → ∃ offset,
        [15, 64, 121, 247, 317][index]? = some offset ∧
          At objects offset (objectBytes (1 + index) object) := by
  obtain ⟨more, added, after, placed⟩ :=
    writeObjects_at (pdfObjects (pdfStream title lines)) 1 pdfHeader [0]
  have offsets := offsets_eq (pdfStream title lines)
  rw [after] at offsets
  obtain rfl : added = [15, 64, 121, 247, 317] := List.append_cancel_left offsets
  have head : latin1 (("xref\n0 " : Text) ++ decimal 6 ++ ("\n" : Text)) ++
      latin1 "0000000000 65535 f \n" = latin1 "xref\n0 6\n0000000000 65535 f \n" := by decide
  have count : (pdfObjects (pdfStream title lines)).length + 1 = 6 := rfl
  refine ⟨pdfHeader ++ more, ?_, placed⟩
  rw [simplePdf, after, ← head, trailerBytes]
  simp only [count, List.append_assoc]
  rfl

theorem contentsBytes_eq (stream : List UInt8) :
    latin1 (("5 0 obj\n<< /Length " : Text) ++ decimal stream.length ++ (" >>\nstream\n" : Text)) ++
      stream ++ latin1 "\nendstream\nendobj\n" = objectBytes 5 (contentsObject stream) := by
  have start : latin1 "5 0 obj\n<< /Length " =
      latin1 (decimal 5 ++ (" 0 obj\n" : Text)) ++ latin1 "<< /Length " := by decide
  have stop : latin1 "\nendstream\nendobj\n" = latin1 "\nendstream" ++ latin1 "\nendobj\n" := by
    decide
  rw [latin1_append, latin1_append, start, stop, objectBytes, contentsObject]
  simp only [List.append_assoc]

/-- A file is well formed: the entry of each number leads to the object, the last offset to the
table, and the fifth object holds a stream of the length that it says. -/
structure WellFormed (file stream : List UInt8) (xref contents : Nat) : Prop where
  table : At file xref (latin1 "xref\n0 6\n0000000000 65535 f \n")
  objects : ∀ number, 1 ≤ number → number ≤ 5 → ∃ offset,
    At file (xref + 9 + 20 * number) (latin1 (padded 10 offset ++ (" 00000 n \n" : Text))) ∧
    At file offset (latin1 (decimal number ++ (" 0 obj\n" : Text)))
  startxref : latin1 (("startxref\n" : Text) ++ decimal xref ++ ("\n%%EOF\n" : Text)) <:+ file
  contents : At file contents (latin1 (("5 0 obj\n<< /Length " : Text) ++ decimal stream.length ++
    (" >>\nstream\n" : Text)) ++ stream ++ latin1 "\nendstream\nendobj\n")

theorem wellFormed_simplePdf (title : Text) (lines : List Text) :
    ∃ xref contents,
      WellFormed (simplePdf title lines) (pdfStream title lines) xref contents := by
  obtain ⟨objects, file, placed⟩ := simplePdf_parts title lines
  have table := at_length objects (latin1 "xref\n0 6\n0000000000 65535 f \n" ++
    ([15, 64, 121, 247, 317].flatMap xrefEntry ++ trailerBytes objects.length))
  rw [← file] at table
  have entries := table.append_right.of_prefix (List.prefix_append _ _)
  have widths : ∀ offset ∈ [15, 64, 121, 247, 317], (xrefEntry offset).length = 20 := by
    intro offset member
    refine length_xrefEntry ?_
    simp only [List.mem_cons, List.not_mem_nil, or_false] at member
    omega
  have object_at (index : Nat) (object : List UInt8)
      (found : (pdfObjects (pdfStream title lines))[index]? = some object) : ∃ offset,
      [15, 64, 121, 247, 317][index]? = some offset ∧
        At (simplePdf title lines) offset (objectBytes (1 + index) object) := by
    obtain ⟨offset, recorded, at_offset⟩ := placed index object found
    refine ⟨offset, recorded, ?_⟩
    rw [file]
    exact at_offset.append _
  obtain ⟨contents, -, fifth⟩ := object_at 4 _ rfl
  refine ⟨objects.length, contents, ?_⟩
  exact {
    table := table.of_prefix (List.prefix_append _ _)
    objects := by
      intro number from_one to_five
      obtain ⟨index, rfl⟩ := Nat.exists_eq_add_of_le from_one
      have inside : index < (pdfObjects (pdfStream title lines)).length := by
        change index < 5
        omega
      obtain ⟨offset, recorded, at_offset⟩ := object_at index _ (List.getElem?_eq_getElem inside)
      refine ⟨offset, ?_, ?_⟩
      · have entry := entries.flatMap widths recorded
        change At _ (objects.length + 29 + 20 * index) _ at entry
        rwa [show objects.length + 9 + 20 * (1 + index) = objects.length + 29 + 20 * index by omega]
      · rw [objectBytes, List.append_assoc] at at_offset
        exact at_offset.of_prefix (List.prefix_append _ _)
    startxref := by
      rw [file]
      exact List.suffix_append_of_suffix (List.suffix_append_of_suffix
        (List.suffix_append_of_suffix (startxref_suffix objects.length)))
    contents := by
      rw [contentsBytes_eq]
      exact fifth }

/-- The file of a title and lines is well formed, and its strings are the first lines of text, cut
and with what Latin-1 does not have replaced. -/
theorem pdf_well_formed (title : Text) (lines : List Text)
    (no_return : ∀ line ∈ title :: lines, '\r' ∉ line) :
    (∃ xref contents,
      WellFormed (simplePdf title lines) (pdfStream title lines) xref contents) ∧
    strings (pdfStream title lines) =
      ((title :: [] :: lines).take 52).map fun line => latin1 (line.take 105) := by
  refine ⟨wellFormed_simplePdf title lines, ?_⟩
  rw [strings_pdfStream]
  refine List.map_congr_left fun line listed => unified_of_no_return (printed_no_return ?_)
  have member := List.mem_of_mem_take listed
  simp only [List.mem_cons] at member no_return
  rcases member with rfl | rfl | member
  · exact no_return line (.inl rfl)
  · exact List.not_mem_nil
  · exact no_return line (.inr member)

theorem pdf_well_formed_brackets :
    strings (pdfStream "(a\\" [("b)€" : Text)]) =
      [latin1 "(a\\", [], latin1 "b)?"] :=
  (pdf_well_formed "(a\\" [("b)€" : Text)] (by decide)).2.trans (by decide)

end PdfForm

end SkillCentric
