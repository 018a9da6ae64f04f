import SkillCentric.Runtime.TaskAnalyzer

/-!
# The parser of CARAT projects

`parse_prjz_content` on the text of a project: the header, the suppliers, and one position for each
block of records that starts with an article marker.  Floating-point numbers and the Unicode tables
of the host are parameters.
-/

namespace SkillCentric.Crm

open SkillCentric Slug

/-- What the parser uses of its host; `ν` are its floating-point numbers. -/
structure CaratHost (ν : Type) where
  /-- `str.lower`. -/
  lower : Text → Text
  lower_nil : lower [] = []
  /-- `unicodedata.normalize("NFKD", text)`. -/
  nfkd : Text → Text
  nfkd_nil : nfkd [] = []
  /-- `unicodedata.combining`. -/
  combining : Char → Bool
  /-- `float(text)`, unless it raises. -/
  float : Text → Option ν
  /-- `value == 0`. -/
  isZero : ν → Bool

namespace CaratParser

/-- The characters that end a line for `str.splitlines`. -/
def isLineEnd (c : Char) : Bool :=
  let n := c.toNat
  (10 ≤ n && n ≤ 13) || (28 ≤ n && n ≤ 30) || n == 0x85 || n == 0x2028 || n == 0x2029

/-- `str.splitlines`, `current` being the line that is still open. -/
def splitLinesFrom (current : Text) : Text → List Text
  | [] => if current = [] then [] else [current]
  | '\r' :: '\n' :: rest => current :: splitLinesFrom [] rest
  | c :: rest =>
      if isLineEnd c then current :: splitLinesFrom [] rest
      else splitLinesFrom (current ++ [c]) rest

/-- `text.splitlines()`. -/
def splitLines (text : Text) : List Text := splitLinesFrom [] text

/-- A line of a project with its parts. -/
structure PrjLine where
  line : Text
  parts : List Text
  deriving DecidableEq

/-- The line without the mark at its end. -/
def dropMark (line : Text) : Text :=
  if ("|*" : Text) <:+ line then line.take (line.length - 2)
  else if ("*" : Text) <:+ line then line.take (line.length - 1)
  else line

/-- `split_prj_line`. -/
def splitPrjLine (line : Text) : List Text := ((dropMark line).splitOn '|').map strip

/-- The lines with something on them. -/
def parsedLines (text : Text) : List PrjLine :=
  ((splitLines text).filter fun line => !(strip line).isEmpty).map fun line =>
    ⟨line, splitPrjLine line⟩

namespace PrjLine

/-- `parts[1]`, where there is one. -/
def code? (line : PrjLine) : Option Text := line.parts[1]?

/-- The line is a record with a tag. -/
def hasTag (line : PrjLine) (tag : Text) : Bool := line.code?.any fun code => startsWith code tag

/-- The line starts an article. -/
def isMarker (line : PrjLine) : Bool := line.code? == some "9999.Artikel"

end PrjLine

/-- `value.lstrip("0")`. -/
def stripZeros (value : Text) : Text := value.dropWhile (· == '0')

/-- `prj_value_after_code`. -/
def prjValueAfterCode (parts : List Text) (codePrefix : Text) : Text :=
  match parts[1]? with
  | some code =>
      if startsWith code codePrefix then
        let value := strip (code.drop codePrefix.length)
        let trailing :=
          strip (List.intercalate [' '] ((parts.drop 2).filter fun part => !part.isEmpty))
        strip (List.intercalate [' '] ([value, trailing].filter fun part => !part.isEmpty))
      else []
  | none => []

section Host

variable {ν : Type} (host : CaratHost ν)

/-- `parse_decimal`. -/
def parseDecimal (value : Text) : Option ν :=
  let normalized := (strip value).map fun c => if c = ',' then '.' else c
  if normalized = [] then none else host.float normalized

/-- `normalize_supplier_name`: the words of the name, without accents, with single blanks. -/
def normalizeSupplierName (value : Text) : Text :=
  List.intercalate [' ']
    (wordsFrom [] ((host.nfkd (host.lower (strip value))).filter fun c => !host.combining c))

/-- The article is a ceiling or a wall of the drawing. -/
def isPlaceholder (articleCode title : Text) : Bool :=
  decide (strip articleCode = "46000000000") &&
    (decide (normalizeSupplierName host title = "decke") ||
      startsWith (normalizeSupplierName host title) "wand ")

/-- `is_carat_bilddaten_position`. -/
def isCaratBilddatenPosition (supplierName articleCode title : Text) : Bool :=
  decide (normalizeSupplierName host supplierName = "bilddaten") ||
    isPlaceholder host articleCode title

/-- The dimensions of a record. -/
def dimensionsOf (parts : List Text) : List (Text × ν) :=
  ((["width", "depth", "height"] : List Text).zip
    (((parts.drop 2).take 3).map (parseDecimal host))).filterMap fun (key, value) =>
      (value.filter fun number => !host.isZero number).map fun number => (key, number)

/-- What of a code is compared: its part behind the tag without leading zeros. -/
def codeSuffix (code : Text) : Text :=
  if stripZeros (code.drop 4) ≠ [] then stripZeros (code.drop 4)
  else if code.drop 4 ≠ [] then code.drop 4
  else code

/-- `suffix.endswith(known) or known.endswith(suffix)`. -/
def related (suffix known : Text) : Bool := decide (known <:+ suffix) || decide (suffix <:+ known)

/-- A supplier. -/
structure PrjSupplier where
  code : Text
  name : Text
  catalog : Text
  catalogDate : Text
  kind : Text
  deriving DecidableEq

/-- The supplier of a line, if the line is a supplier's record with a name. -/
def supplierOf (line : PrjLine) : Option PrjSupplier :=
  match line.parts with
  | section_ :: code :: name :: rest =>
      if section_ = ("002" : Text) ∧ startsWith code "2000" = true ∧ strip name ≠ [] then
        some ⟨code, strip name, rest[1]?.getD [], rest[2]?.getD [], rest[3]?.getD []⟩
      else none
  | _ => none

/-- The supplier's records. -/
def supplierRecords (lines : List PrjLine) : List PrjSupplier := lines.filterMap supplierOf

/-- The supplier stands for picture data. -/
def isPictureSupplier (supplier : PrjSupplier) : Bool :=
  decide (normalizeSupplierName host supplier.name = "bilddaten")

/-- `ignored_supplier_suffixes`. -/
def ignoredSuffixes (lines : List PrjLine) : List Text :=
  ((supplierRecords lines).filter (isPictureSupplier host)).map fun supplier =>
    codeSuffix supplier.code

/-- `summary["suppliers"]`. -/
def listedSuppliers (lines : List PrjLine) : List PrjSupplier :=
  (supplierRecords lines).filter fun supplier => !isPictureSupplier host supplier

/-- One more entry of `supplier_by_suffix`: a key keeps its place and takes the new value. -/
def setSupplier (table : List (Text × PrjSupplier)) (supplier : PrjSupplier) :
    List (Text × PrjSupplier) :=
  if table.any fun entry => entry.1 = codeSuffix supplier.code then
    table.map fun entry => if entry.1 = codeSuffix supplier.code then (entry.1, supplier) else entry
  else table ++ [(codeSuffix supplier.code, supplier)]

/-- `supplier_by_suffix`. -/
def supplierBySuffix (lines : List PrjLine) : List (Text × PrjSupplier) :=
  (listedSuppliers host lines).foldl setSupplier []

/-- The supplier that a record of an article finds. -/
def matchingSupplier (lines : List PrjLine) (code : Text) : Option PrjSupplier :=
  ((supplierBySuffix host lines).find? fun entry => related (codeSuffix code) entry.1).map Prod.snd

/-- A block: the index of its marker and its lines. -/
structure ArticleBlock where
  start : Nat
  lines : List PrjLine

/-- The blocks of the lines from an index on. -/
def articleBlocks : Nat → List PrjLine → List ArticleBlock
  | _, [] => []
  | index, line :: rest =>
      if line.isMarker then
        ⟨index, line :: rest.takeWhile fun other => !other.isMarker⟩ ::
          articleBlocks (index + 1) rest
      else articleBlocks (index + 1) rest

/-- What is known of an article. -/
structure BlockState (ν : Type) where
  positionNumber : Text
  articleCode : Text
  title : Text
  descriptionParts : List Text
  supplier : Option PrjSupplier
  quantity : Option ν
  dimensions : List (Text × ν)
  ignored : Bool

/-- Before the first record. -/
def BlockState.initial : BlockState ν := ⟨[], [], [], [], none, none, [], false⟩

/-- One record of a block. -/
def readRecord (lines : List PrjLine) (state : BlockState ν) (line : PrjLine) : BlockState ν :=
  let parts := line.parts
  let code := line.code?.getD []
  { positionNumber :=
      if line.hasTag "4500" && decide (2 < parts.length) then
        let number := parts.getD 2 []
        if stripZeros number ≠ [] then stripZeros number else number
      else state.positionNumber
    articleCode := if line.hasTag "4600" then code else state.articleCode
    title :=
      if line.hasTag "4600" && !(parts.getD 3 []).isEmpty then parts.getD 3 [] else state.title
    descriptionParts :=
      if line.hasTag "4510" && !(prjValueAfterCode parts "4510").isEmpty then
        state.descriptionParts ++ [prjValueAfterCode parts "4510"]
      else state.descriptionParts
    supplier :=
      if line.hasTag "4600" then (matchingSupplier host lines code).or state.supplier
      else state.supplier
    quantity :=
      if line.hasTag "4627" && decide (4 < parts.length) then parseDecimal host (parts.getD 4 [])
      else state.quantity
    dimensions := if line.hasTag "4512" then dimensionsOf host parts else state.dimensions
    ignored :=
      state.ignored || (line.hasTag "4600" &&
        (ignoredSuffixes host lines).any fun known => related (codeSuffix code) known) }

/-- The records of a block that are read. -/
def readLines (block : ArticleBlock) : List PrjLine := block.lines.take 80

/-- A position. -/
structure PrjPosition (ν : Type) where
  sourceLine : Nat
  positionNumber : Text
  supplierCode : Text
  supplierName : Text
  articleCode : Text
  title : Text
  description : Text
  quantity : Option ν
  dimensions : List (Text × ν)
  markerLine : Text
  blockSize : Nat
  deriving DecidableEq

/-- The position of a block, unless it has no title or is picture data. -/
def positionOf (lines : List PrjLine) (block : ArticleBlock) : Option (PrjPosition ν) :=
  let state := (readLines block).foldl (readRecord host lines) .initial
  let title := if state.title = [] then (state.descriptionParts.headD []).take 120 else state.title
  let supplierName := (state.supplier.map (·.name)).getD []
  if title = [] then none
  else if state.ignored ||
      isCaratBilddatenPosition host supplierName state.articleCode title then none
  else some
    { sourceLine := block.start + 1
      positionNumber := state.positionNumber
      supplierCode := (state.supplier.map (·.code)).getD []
      supplierName := supplierName
      articleCode := state.articleCode
      title := title
      description := List.intercalate ['\n'] (state.descriptionParts.take 6)
      quantity := state.quantity
      dimensions := state.dimensions
      markerLine := (block.lines.head?.map (·.line)).getD []
      blockSize := block.lines.length }

/-- The summary of a project. -/
structure PrjSummary (ν : Type) where
  lineCount : Nat
  caratVersion : Option Text
  projectNumber : Option Text
  projectName : Option Text
  customerName : Option Text
  currency : Option Text
  suppliers : List PrjSupplier
  positions : List (PrjPosition ν)

/-- A text, unless it is empty. -/
def nonempty? (text : Text) : Option Text := if text = [] then none else some text

/-- The last value of a record of the header. -/
def headerValue (lines : List PrjLine) (code : Text) : Option Text :=
  lines.reverse.findSome? fun line =>
    match line.parts with
    | section_ :: found :: value :: _ =>
        if section_ = ("001" : Text) ∧ found = code then nonempty? value else none
    | _ => none

/-- `parse_prjz_content` on the text of the project. -/
def parsePrjText (text : Text) : PrjSummary ν :=
  let lines := parsedLines text
  let first := (lines.head?.map (·.parts)).getD []
  { lineCount := lines.length
    caratVersion := first[2]?.bind nonempty?
    projectNumber := first[3]?.bind nonempty?
    projectName := headerValue lines "0020"
    customerName := headerValue lines "0020"
    currency := headerValue lines "2150"
    suppliers := listedSuppliers host lines
    positions := (articleBlocks 0 lines).filterMap (positionOf host lines) }

end Host

end CaratParser

end SkillCentric.Crm
