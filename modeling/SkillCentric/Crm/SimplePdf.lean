import SkillCentric.Runtime.Timestamp

/-!
# The printed consultation

`simple_pdf` writes a title and lines on one page: five objects whose offsets are recorded while
they are written, the table of these offsets and the trailer that points to it.
-/

namespace SkillCentric.Crm

open SkillCentric Datetime

/-- `str.encode("latin-1", "replace")` of a character. -/
def latin1Char (c : Char) : UInt8 := if c.toNat < 256 then UInt8.ofNat c.toNat else 63

/-- `str.encode("latin-1", "replace")`. -/
def latin1 (value : Text) : List UInt8 := value.map latin1Char

/-- `value.replace(old, new)` for one character. -/
def replaceByText (old : Char) (new value : Text) : Text :=
  value.flatMap fun c => if c = old then new else [c]

/-- `pdf_escape`. -/
def pdfEscape (value : Text) : Text :=
  replaceByText ')' "\\)" (replaceByText '(' "\\(" (replaceByText '\\' "\\\\" value))

/-- The operators that write a line. -/
def lineOperators (entry : Text × Nat) : List Text :=
  (if entry.2 ≠ 0 then [("T*" : Text)] else []) ++
    [("(" : Text) ++ pdfEscape (entry.1.take 105) ++ (") Tj" : Text)]

/-- The lines of text of a page. -/
def textLines (title : Text) (lines : List Text) : List Text := (title :: [] :: lines).take 52

/-- The content stream. -/
def pdfStream (title : Text) (lines : List Text) : List UInt8 :=
  latin1 (List.intercalate ['\n']
    (([("BT" : Text), "/F1 11 Tf", "50 790 Td", "14 TL"] : List Text) ++
      (textLines title lines).zipIdx.flatMap lineOperators ++ [("ET" : Text)]))

/-- The objects of the file. -/
def pdfObjects (stream : List UInt8) : List (List UInt8) := [
  latin1 "<< /Type /Catalog /Pages 2 0 R >>",
  latin1 "<< /Type /Pages /Kids [3 0 R] /Count 1 >>",
  latin1 "<< /Type /Page /Parent 2 0 R /MediaBox [0 0 595 842] " ++
    latin1 "/Resources << /Font << /F1 4 0 R >> >> /Contents 5 0 R >>",
  latin1 "<< /Type /Font /Subtype /Type1 /BaseFont /Helvetica >>",
  latin1 "<< /Length " ++ latin1 (decimal stream.length) ++ latin1 " >>\nstream\n" ++ stream ++
    latin1 "\nendstream"]

/-- The first bytes of the file. -/
def pdfHeader : List UInt8 := latin1 "%PDF-1.4\n%" ++ [0xe2, 0xe3, 0xcf, 0xd3, 0x0a]

/-- An object is written, and its offset recorded. -/
def writeObject (written : List UInt8 × List Nat) (entry : List UInt8 × Nat) :
    List UInt8 × List Nat :=
  (written.1 ++ (latin1 (decimal entry.2 ++ (" 0 obj\n" : Text)) ++ entry.1 ++ latin1 "\nendobj\n"),
    written.2 ++ [written.1.length])

/-- An entry of the cross-reference table. -/
def xrefEntry (offset : Nat) : List UInt8 := latin1 (padded 10 offset ++ (" 00000 n \n" : Text))

/-- `simple_pdf`. -/
def simplePdf (title : Text) (lines : List Text) : List UInt8 :=
  let objects := pdfObjects (pdfStream title lines)
  let written := (objects.zipIdx 1).foldl writeObject (pdfHeader, [0])
  written.1 ++ latin1 (("xref\n0 " : Text) ++ decimal (objects.length + 1) ++ ("\n" : Text)) ++
    latin1 "0000000000 65535 f \n" ++ (written.2.drop 1).flatMap xrefEntry ++
    latin1 (("trailer\n<< /Size " : Text) ++ decimal (objects.length + 1) ++
      (" /Root 1 0 R >>\nstartxref\n" : Text) ++ decimal written.1.length ++ ("\n%%EOF\n" : Text))

end SkillCentric.Crm
