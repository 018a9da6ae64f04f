import SkillCentric.Crm.CaratParser

/-!
# Positions of a CARAT project

Each article block gives at most one position, made of the last records of each kind among the lines
that are read.  Its supplier is found by suffixes of codes.  Where no supplier is related to the
article but by the same code behind the tag, the supplier is the one whose code agrees.
-/

namespace SkillCentric.Crm

open SkillCentric Slug CaratParser

namespace CaratSuppliers

section Specification

variable {ν : Type} (host : CaratHost ν)

/-- The value of the last line that has one. -/
def lastOf {α : Type} (reading : PrjLine → Option α) (lines : List PrjLine) : Option α :=
  lines.reverse.findSome? reading

def numberOf (line : PrjLine) : Option Text :=
  if line.hasTag "4500" && decide (2 < line.parts.length) then
    let number := line.parts.getD 2 []
    some (if stripZeros number ≠ [] then stripZeros number else number)
  else none

def articleCodeOf (line : PrjLine) : Option Text :=
  if line.hasTag "4600" then some (line.code?.getD []) else none

def recordTitle (line : PrjLine) : Option Text :=
  if line.hasTag "4600" && !(line.parts.getD 3 []).isEmpty then
    some (line.parts.getD 3 []) else none

def descriptionOf (line : PrjLine) : Option Text :=
  if line.hasTag "4510" && !(prjValueAfterCode line.parts "4510").isEmpty then
    some (prjValueAfterCode line.parts "4510")
  else none

/-- The quantity of a quantity record. -/
def quantityOf (line : PrjLine) : Option (Option ν) :=
  if line.hasTag "4627" && decide (4 < line.parts.length) then
    some (parseDecimal host (line.parts.getD 4 []))
  else none

def sizesOf (line : PrjLine) : Option (List (Text × ν)) :=
  if line.hasTag "4512" then some (dimensionsOf host line.parts) else none

/-- The article code of some lines. -/
def articleCode (lines : List PrjLine) : Text := (lastOf articleCodeOf lines).getD []

/-- The title of some lines: that of the last article record with one, or the first description. -/
def titleOf (lines : List PrjLine) : Text :=
  let title := (lastOf recordTitle lines).getD []
  if title = [] then ((lines.filterMap descriptionOf).headD []).take 120 else title

/-- A position has the values of some lines of its block. -/
structure Reads (block : ArticleBlock) (lines : List PrjLine)
    (position : PrjPosition ν) : Prop where
  sourceLine : position.sourceLine = block.start + 1
  articleCode : position.articleCode = articleCode lines
  title : position.title = titleOf lines
  positionNumber : position.positionNumber = (lastOf numberOf lines).getD []
  quantity : position.quantity = (lastOf (quantityOf host) lines).getD none
  dimensions : position.dimensions = (lastOf (sizesOf host) lines).getD []

/-- The codes of a supplier and an article agree behind the tags. -/
def Agrees (supplier : PrjSupplier) (code : Text) : Prop :=
  supplier.code.drop 4 = code.drop 4 ∧ code.drop 4 ≠ []

/-- The lines have one article code, and no supplier is related to it but one whose code agrees. -/
structure Plain (project lines : List PrjLine) : Prop where
  one : ∀ line ∈ lines, line.hasTag "4600" = true → line.code? = some (articleCode lines)
  exact : ∀ supplier ∈ supplierRecords project,
    related (codeSuffix (articleCode lines)) (codeSuffix supplier.code) = true →
      Agrees supplier (articleCode lines)

/-- Picture data: the supplier of the article is, or the article is a ceiling or a wall. -/
def PictureData (project lines : List PrjLine) : Prop :=
  (∃ supplier ∈ supplierRecords project, Agrees supplier (articleCode lines) ∧
    isPictureSupplier host supplier = true) ∨
  isPlaceholder host (articleCode lines) (titleOf lines) = true

/-- A position has the supplier whose code agrees with the article's, or
none where there is none. -/
def Supplied (project : List PrjLine) (position : PrjPosition ν) : Prop :=
  (∀ supplier ∈ supplierRecords project, Agrees supplier position.articleCode →
    position.supplierCode = supplier.code ∧ position.supplierName = supplier.name) ∧
  ((∀ supplier ∈ supplierRecords project, ¬ Agrees supplier position.articleCode) →
    position.supplierCode = [] ∧ position.supplierName = [])

end Specification

section Reading

variable {ν : Type} {host : CaratHost ν} {project lines : List PrjLine} {block : ArticleBlock}

theorem foldl_lastOf {σ α : Type} {value : σ → α} {step : σ → PrjLine → σ}
    {reading : PrjLine → Option α} (each : ∀ state line, value (step state line) =
      (reading line).getD (value state)) (lines : List PrjLine) (state : σ) :
    value (lines.foldl step state) = (lastOf reading lines).getD (value state) := by
  induction lines generalizing state with
  | nil => rfl
  | cons line rest ih =>
      rw [List.foldl_cons, ih, each, lastOf, lastOf, List.reverse_cons, List.findSome?_append]
      cases rest.reverse.findSome? reading with
      | none => simp
      | some found => rfl

def stateOf (host : CaratHost ν) (project lines : List PrjLine) : BlockState ν :=
  lines.foldl (readRecord host project) .initial

theorem positionNumber_stateOf :
    (stateOf host project lines).positionNumber = (lastOf numberOf lines).getD [] := by
  refine @foldl_lastOf (BlockState ν) Text (·.positionNumber) _
    numberOf (fun state line => ?_) lines _
  simp only [readRecord, numberOf]
  split <;> rfl

theorem articleCode_stateOf : (stateOf host project lines).articleCode = articleCode lines := by
  refine @foldl_lastOf (BlockState ν) Text (·.articleCode) _ articleCodeOf (fun state line => ?_)
    lines _
  simp only [readRecord, articleCodeOf]
  split <;> rfl

theorem quantity_stateOf :
    (stateOf host project lines).quantity = (lastOf (quantityOf host) lines).getD none := by
  refine @foldl_lastOf (BlockState ν) (Option ν) (·.quantity) _ (quantityOf host)
    (fun state line => ?_) lines _
  simp only [readRecord, quantityOf]
  split <;> rfl

theorem dimensions_stateOf :
    (stateOf host project lines).dimensions = (lastOf (sizesOf host) lines).getD [] := by
  refine @foldl_lastOf (BlockState ν) (List (Text × ν)) (·.dimensions) _ (sizesOf host)
    (fun state line => ?_) lines _
  simp only [readRecord, sizesOf]
  split <;> rfl

theorem recordTitle_stateOf :
    (stateOf host project lines).title = (lastOf recordTitle lines).getD [] := by
  refine @foldl_lastOf (BlockState ν) Text (·.title) _ recordTitle (fun state line => ?_) lines _
  simp only [readRecord, recordTitle]
  split <;> rfl

def foundSupplier (host : CaratHost ν) (project : List PrjLine) (line : PrjLine) :
    Option (Option PrjSupplier) :=
  if line.hasTag "4600" then (matchingSupplier host project (line.code?.getD [])).map some else none

theorem supplier_stateOf :
    (stateOf host project lines).supplier =
      (lastOf (foundSupplier host project) lines).getD none := by
  refine @foldl_lastOf (BlockState ν) (Option PrjSupplier) (·.supplier) _
    (foundSupplier host project) (fun state line => ?_) lines _
  simp only [readRecord, foundSupplier]
  split
  · cases matchingSupplier host project (line.code?.getD []) <;> rfl
  · rfl

theorem descriptionParts_foldl (state : BlockState ν) :
    (lines.foldl (readRecord host project) state).descriptionParts =
      state.descriptionParts ++ lines.filterMap descriptionOf := by
  induction lines generalizing state with
  | nil => exact (List.append_nil _).symm
  | cons line rest ih =>
      rw [List.foldl_cons, ih]
      simp only [readRecord, List.filterMap_cons, descriptionOf]
      split
      · rw [List.append_assoc, List.singleton_append]
      · rfl

theorem ignored_foldl (state : BlockState ν) :
    (lines.foldl (readRecord host project) state).ignored = (state.ignored || lines.any fun line =>
      line.hasTag "4600" && (ignoredSuffixes host project).any fun known =>
        related (codeSuffix (line.code?.getD [])) known) := by
  induction lines generalizing state with
  | nil => exact (Bool.or_false _).symm
  | cons line rest ih =>
      rw [List.foldl_cons, ih, List.any_cons, ← Bool.or_assoc]
      rfl

theorem title_stateOf :
    (if (stateOf host project lines).title = [] then
      ((stateOf host project lines).descriptionParts.headD []).take 120
    else (stateOf host project lines).title) = titleOf lines := by
  have parts : (stateOf host project lines).descriptionParts = lines.filterMap descriptionOf :=
    descriptionParts_foldl _
  rw [recordTitle_stateOf, parts]
  rfl

def supplierName (host : CaratHost ν) (project lines : List PrjLine) : Text :=
  ((stateOf host project lines).supplier.map (·.name)).getD []

def dropped (host : CaratHost ν) (project lines : List PrjLine) : Bool :=
  (stateOf host project lines).ignored ||
    isCaratBilddatenPosition host (supplierName host project lines) (articleCode lines)
      (titleOf lines)

def titledPosition (host : CaratHost ν) (project : List PrjLine) (block : ArticleBlock)
    (title : Text) : PrjPosition ν :=
  let state := stateOf host project (readLines block)
  { sourceLine := block.start + 1
    positionNumber := state.positionNumber
    supplierCode := (state.supplier.map (·.code)).getD []
    supplierName := supplierName host project (readLines block)
    articleCode := state.articleCode
    title := title
    description := List.intercalate ['\n'] (state.descriptionParts.take 6)
    quantity := state.quantity
    dimensions := state.dimensions
    markerLine := (block.lines.head?.map (·.line)).getD []
    blockSize := block.lines.length }

theorem positionOf_eq : positionOf host project block =
    if titleOf (readLines block) = [] then none
    else if dropped host project (readLines block) then none
    else some (titledPosition host project block (titleOf (readLines block))) := by
  have unfolded : positionOf host project block = (fun title =>
      if title = [] then none
      else if (stateOf host project (readLines block)).ignored ||
          isCaratBilddatenPosition host (supplierName host project (readLines block))
            (stateOf host project (readLines block)).articleCode title then none
      else some (titledPosition host project block title))
      (if (stateOf host project (readLines block)).title = [] then
        ((stateOf host project (readLines block)).descriptionParts.headD []).take 120
      else (stateOf host project (readLines block)).title) := rfl
  rw [unfolded, title_stateOf, articleCode_stateOf]
  rfl

theorem reads_titledPosition :
    Reads host block (readLines block)
      (titledPosition host project block (titleOf (readLines block))) where
  sourceLine := rfl
  articleCode := articleCode_stateOf
  title := rfl
  positionNumber := positionNumber_stateOf
  quantity := quantity_stateOf
  dimensions := dimensions_stateOf

end Reading

section Suppliers

variable {ν : Type} {host : CaratHost ν} {project lines : List PrjLine} {supplier : PrjSupplier}
  {code : Text}

theorem mem_listedSuppliers : supplier ∈ listedSuppliers host project ↔
    supplier ∈ supplierRecords project ∧ isPictureSupplier host supplier = false := by
  rw [listedSuppliers, List.mem_filter, Bool.not_eq_true']

/-- The entries of a table are suppliers under the suffix of their code. -/
def Keyed (table : List (Text × PrjSupplier)) (suppliers : List PrjSupplier) : Prop :=
  (∀ entry ∈ table, entry.2 ∈ suppliers ∧ entry.1 = codeSuffix entry.2.code) ∧
    ∀ supplier ∈ suppliers, ∃ entry ∈ table, entry.1 = codeSuffix supplier.code

theorem keyed_setSupplier {table : List (Text × PrjSupplier)} {suppliers : List PrjSupplier}
    (keyed : Keyed table suppliers) :
    Keyed (setSupplier table supplier) (suppliers ++ [supplier]) := by
  obtain ⟨entries, stored⟩ := keyed
  rw [setSupplier]
  by_cases known : table.any (fun entry => entry.1 = codeSuffix supplier.code) = true
  · rw [if_pos known]
    constructor
    · intro entry among
      obtain ⟨old, inTable, rfl⟩ := List.mem_map.mp among
      by_cases same : old.1 = codeSuffix supplier.code
      · rw [if_pos same]
        exact ⟨List.mem_append_right _ List.mem_cons_self, same⟩
      · rw [if_neg same]
        exact ⟨List.mem_append_left _ (entries old inTable).1, (entries old inTable).2⟩
    · intro other among
      have kept : ∀ old ∈ table, ∃ entry ∈ table.map fun entry =>
          if entry.1 = codeSuffix supplier.code then (entry.1, supplier) else entry,
          entry.1 = old.1 := by
        intro old inTable
        refine ⟨_, List.mem_map_of_mem inTable, ?_⟩
        split <;> rfl
      obtain inSuppliers | last := List.mem_append.mp among
      · obtain ⟨old, inTable, key⟩ := stored other inSuppliers
        obtain ⟨entry, inMap, same⟩ := kept old inTable
        exact ⟨entry, inMap, same.trans key⟩
      · obtain rfl := List.mem_singleton.mp last
        obtain ⟨old, inTable, key⟩ := List.any_eq_true.mp known
        obtain ⟨entry, inMap, same⟩ := kept old inTable
        exact ⟨entry, inMap, same.trans (of_decide_eq_true key)⟩
  · rw [if_neg known]
    constructor
    · intro entry among
      obtain inTable | last := List.mem_append.mp among
      · exact ⟨List.mem_append_left _ (entries entry inTable).1, (entries entry inTable).2⟩
      · rw [List.mem_singleton.mp last]
        exact ⟨List.mem_append_right _ List.mem_cons_self, rfl⟩
    · intro other among
      obtain inSuppliers | last := List.mem_append.mp among
      · obtain ⟨old, inTable, key⟩ := stored other inSuppliers
        exact ⟨old, List.mem_append_left _ inTable, key⟩
      · rw [List.mem_singleton.mp last]
        exact ⟨_, List.mem_append_right _ List.mem_cons_self, rfl⟩

private theorem keyed_foldl {table : List (Text × PrjSupplier)} {before : List PrjSupplier}
    (keyed : Keyed table before) (suppliers : List PrjSupplier) :
    Keyed (suppliers.foldl setSupplier table) (before ++ suppliers) := by
  induction suppliers generalizing table before with
  | nil => rwa [List.append_nil]
  | cons supplier rest ih =>
      have more := ih (@keyed_setSupplier supplier table before keyed)
      rwa [List.append_assoc] at more

theorem keyed_supplierBySuffix :
    Keyed (supplierBySuffix host project) (listedSuppliers host project) :=
  @keyed_foldl [] [] ⟨fun _ inNil => absurd inNil List.not_mem_nil,
    fun _ inNil => absurd inNil List.not_mem_nil⟩ _

theorem related_of_matchingSupplier (found : matchingSupplier host project code = some supplier) :
    supplier ∈ listedSuppliers host project ∧
      related (codeSuffix code) (codeSuffix supplier.code) = true := by
  obtain ⟨entry, isFirst, rfl⟩ := Option.map_eq_some_iff.mp found
  obtain ⟨listed, key⟩ := keyed_supplierBySuffix.1 entry (List.mem_of_find?_eq_some isFirst)
  have isRelated := List.find?_some isFirst
  exact ⟨listed, key ▸ isRelated⟩

theorem matchingSupplier_ne_none (listed : supplier ∈ listedSuppliers host project)
    (same : codeSuffix supplier.code = codeSuffix code) :
    matchingSupplier host project code ≠ none := by
  obtain ⟨entry, inTable, key⟩ := keyed_supplierBySuffix.2 supplier listed
  intro none
  have unrelated := List.find?_eq_none.mp (Option.map_eq_none_iff.mp none) entry inTable
  rw [key, same, related, decide_eq_true List.suffix_rfl, Bool.true_or] at unrelated
  exact unrelated rfl

theorem code_of_mem_supplierRecords (among : supplier ∈ supplierRecords project) :
    supplier.code = ("2000" : Text) ++ supplier.code.drop 4 := by
  obtain ⟨line, -, isSupplier⟩ := List.mem_filterMap.mp among
  rw [supplierOf] at isSupplier
  split at isSupplier
  next =>
    split at isSupplier
    next valid =>
      obtain rfl := Option.some.inj isSupplier
      exact (List.prefix_iff_eq_append.mp (List.isPrefixOf_iff_prefix.mp valid.2.1)).symm
    next => cases isSupplier
  next => cases isSupplier

theorem codeSuffix_of_agrees (agrees : Agrees supplier code) :
    codeSuffix supplier.code = codeSuffix code := by
  rw [codeSuffix, codeSuffix, agrees.1]
  split
  · rfl
  · rw [if_pos agrees.2, if_pos agrees.2]

theorem eq_of_agrees (distinct : ((supplierRecords project).map (·.code)).Nodup)
    {other : PrjSupplier} (inRecords : supplier ∈ supplierRecords project)
    (otherInRecords : other ∈ supplierRecords project) (agrees : Agrees supplier code)
    (otherAgrees : Agrees other code) : supplier = other := by
  refine List.inj_on_of_nodup_map distinct inRecords otherInRecords ?_
  rw [code_of_mem_supplierRecords inRecords, code_of_mem_supplierRecords otherInRecords, agrees.1,
    otherAgrees.1]

theorem matchingSupplier_iff (distinct : ((supplierRecords project).map (·.code)).Nodup)
    (exact_ : ∀ other ∈ supplierRecords project,
      related (codeSuffix code) (codeSuffix other.code) = true → Agrees other code) :
    matchingSupplier host project code = some supplier ↔
      supplier ∈ listedSuppliers host project ∧ Agrees supplier code := by
  constructor
  · intro found
    obtain ⟨listed, isRelated⟩ := related_of_matchingSupplier found
    exact ⟨listed, exact_ supplier (mem_listedSuppliers.mp listed).1 isRelated⟩
  · rintro ⟨listed, agrees⟩
    obtain ⟨other, found⟩ := Option.ne_none_iff_exists'.mp
      (matchingSupplier_ne_none listed (codeSuffix_of_agrees agrees))
    obtain ⟨otherListed, isRelated⟩ := related_of_matchingSupplier found
    have otherRecord := (mem_listedSuppliers.mp otherListed).1
    rw [found, eq_of_agrees distinct otherRecord (mem_listedSuppliers.mp listed).1
      (exact_ other otherRecord isRelated) agrees]

end Suppliers

section PlainBlocks

variable {ν : Type} {host : CaratHost ν} {project lines : List PrjLine} {block : ArticleBlock}
  {supplier : PrjSupplier}

theorem exists_tagged (agrees : Agrees supplier (articleCode lines)) :
    ∃ line ∈ lines, line.hasTag "4600" = true := by
  have nonempty : articleCode lines ≠ [] := by
    intro empty
    exact agrees.2 (by rw [empty, List.drop_nil])
  rw [articleCode] at nonempty
  cases found : lastOf articleCodeOf lines with
  | none =>
      rw [found] at nonempty
      exact absurd rfl nonempty
  | some code =>
      obtain ⟨line, among, has⟩ := List.exists_of_findSome?_eq_some found
      refine ⟨line, List.mem_reverse.mp among, ?_⟩
      by_contra untagged
      rw [articleCodeOf, if_neg untagged] at has
      cases has

theorem foundSupplier_tagged (plain : Plain project lines) {line : PrjLine} (among : line ∈ lines)
    (tagged : line.hasTag "4600" = true) :
    foundSupplier host project line =
      (matchingSupplier host project (articleCode lines)).map some := by
  rw [foundSupplier, if_pos tagged, plain.one line among tagged, Option.getD_some]

theorem supplier_iff (distinct : ((supplierRecords project).map (·.code)).Nodup)
    (plain : Plain project lines) : (stateOf host project lines).supplier = some supplier ↔
      supplier ∈ listedSuppliers host project ∧ Agrees supplier (articleCode lines) := by
  rw [supplier_stateOf, ← matchingSupplier_iff distinct plain.exact]
  constructor
  · intro state
    cases found : lastOf (foundSupplier host project) lines with
    | none =>
        rw [found] at state
        cases state
    | some last =>
        rw [found] at state
        obtain rfl : last = some supplier := state
        obtain ⟨line, among, has⟩ := List.exists_of_findSome?_eq_some found
        have inLines := List.mem_reverse.mp among
        by_cases tagged : line.hasTag "4600" = true
        · rw [foundSupplier_tagged plain inLines tagged] at has
          obtain ⟨other, isOther, same⟩ := Option.map_eq_some_iff.mp has
          rw [isOther, same]
        · rw [foundSupplier, if_neg tagged] at has
          cases has
  · intro isFound
    obtain ⟨line, among, tagged⟩ :=
      exists_tagged ((matchingSupplier_iff distinct plain.exact).mp isFound).2
    cases found : lastOf (foundSupplier host project) lines with
    | none =>
        have missing := List.findSome?_eq_none_iff.mp found line (List.mem_reverse.mpr among)
        rw [foundSupplier_tagged plain among tagged, isFound] at missing
        cases missing
    | some last =>
        obtain ⟨other, inReverse, has⟩ := List.exists_of_findSome?_eq_some found
        by_cases otherTagged : other.hasTag "4600" = true
        · rw [foundSupplier_tagged plain (List.mem_reverse.mp inReverse) otherTagged,
            isFound] at has
          rw [← Option.some.inj has]
          rfl
        · rw [foundSupplier, if_neg otherTagged] at has
          cases has

theorem ignored_iff (plain : Plain project lines) :
    (stateOf host project lines).ignored = true ↔
      ∃ supplier ∈ supplierRecords project, Agrees supplier (articleCode lines) ∧
        isPictureSupplier host supplier = true := by
  rw [stateOf, ignored_foldl, BlockState.initial, Bool.false_or, List.any_eq_true]
  constructor
  · rintro ⟨line, among, related_⟩
    obtain ⟨tagged, known⟩ := Bool.and_eq_true_iff.mp related_
    rw [plain.one line among tagged, Option.getD_some] at known
    obtain ⟨suffix, inSuffixes, isRelated⟩ := List.any_eq_true.mp known
    obtain ⟨supplier, inPictures, rfl⟩ := List.mem_map.mp inSuffixes
    obtain ⟨inRecords, picture⟩ := List.mem_filter.mp inPictures
    exact ⟨supplier, inRecords, plain.exact supplier inRecords isRelated, picture⟩
  · rintro ⟨supplier, inRecords, agrees, picture⟩
    obtain ⟨line, among, tagged⟩ := exists_tagged agrees
    refine ⟨line, among, Bool.and_eq_true_iff.mpr ⟨tagged, ?_⟩⟩
    rw [plain.one line among tagged, Option.getD_some]
    refine List.any_eq_true.mpr ⟨codeSuffix supplier.code,
      List.mem_map_of_mem (List.mem_filter.mpr ⟨inRecords, picture⟩), ?_⟩
    rw [codeSuffix_of_agrees agrees, related, decide_eq_true List.suffix_rfl, Bool.true_or]

theorem supplierName_ne (host : CaratHost ν) (project lines : List PrjLine)
    (distinct : ((supplierRecords project).map (·.code)).Nodup) (plain : Plain project lines) :
    normalizeSupplierName host (supplierName host project lines) ≠ "bilddaten" := by
  rw [supplierName]
  cases state : (stateOf host project lines).supplier with
  | none =>
      have empty : normalizeSupplierName host [] = [] := by
        rw [normalizeSupplierName]
        have blank : strip [] = [] := rfl
        rw [blank, host.lower_nil, host.nfkd_nil]
        rfl
      rw [Option.map_none, Option.getD_none, empty]
      decide
  | some supplier =>
      have listed := ((supplier_iff distinct plain).mp state).1
      exact of_decide_eq_false (mem_listedSuppliers.mp listed).2

theorem dropped_iff (distinct : ((supplierRecords project).map (·.code)).Nodup)
    (plain : Plain project lines) :
    dropped host project lines = true ↔ PictureData host project lines := by
  rw [dropped, Bool.or_eq_true, ignored_iff plain, isCaratBilddatenPosition,
    decide_eq_false (supplierName_ne host project lines distinct plain), Bool.false_or]
  rfl

theorem supplied_of_plain (distinct : ((supplierRecords project).map (·.code)).Nodup)
    (plain : Plain project (readLines block))
    (kept : dropped host project (readLines block) = false) (title : Text) :
    Supplied project (titledPosition host project block title) := by
  have code : (titledPosition host project block title).articleCode =
      articleCode (readLines block) := articleCode_stateOf
  constructor
  · intro supplier inRecords agrees
    rw [code] at agrees
    have listed : supplier ∈ listedSuppliers host project := by
      refine mem_listedSuppliers.mpr ⟨inRecords, Bool.eq_false_iff.mpr fun picture => ?_⟩
      rw [(dropped_iff distinct plain).mpr (Or.inl ⟨supplier, inRecords, agrees, picture⟩)] at kept
      cases kept
    have state := (supplier_iff distinct plain).mpr ⟨listed, agrees⟩
    simp only [titledPosition, supplierName, state, Option.map_some, Option.getD_some, and_self]
  · intro none
    cases state : (stateOf host project (readLines block)).supplier with
    | none =>
        simp only [titledPosition, supplierName, state, Option.map_none, Option.getD_none, and_self]
    | some supplier =>
        obtain ⟨listed, agrees⟩ := (supplier_iff distinct plain).mp state
        rw [code] at none
        exact absurd agrees (none supplier (mem_listedSuppliers.mp listed).1)

end PlainBlocks

/-- In a project whose supplier records have different codes, every article block gives at most one
position, in the order of the file, and none without a title.  A position has the values of the
lines of its block that are read.  A block with a title whose article is related to no supplier but
one that agrees is dropped exactly when it is picture data, and otherwise has the supplier that
agrees. -/
theorem positions_exact {ν : Type} (host : CaratHost ν) (text : Text)
    (distinct : ((supplierRecords (parsedLines text)).map (·.code)).Nodup) :
    ∃ positionAt : ArticleBlock → Option (PrjPosition ν),
      (parsePrjText host text).positions =
        (articleBlocks 0 (parsedLines text)).filterMap positionAt ∧
      ∀ block ∈ articleBlocks 0 (parsedLines text),
        (titleOf (readLines block) = [] → positionAt block = none) ∧
        (∀ position,
          positionAt block = some position → Reads host block (readLines block) position) ∧
        (titleOf (readLines block) ≠ [] → Plain (parsedLines text) (readLines block) →
          (positionAt block = none ↔ PictureData host (parsedLines text) (readLines block)) ∧
          ∀ position, positionAt block = some position →
            Supplied (parsedLines text) position) := by
  refine ⟨positionOf host (parsedLines text), rfl, fun block _ => ⟨fun untitled => ?_, ?_, ?_⟩⟩
  · rw [positionOf_eq, if_pos untitled]
  · intro position isPosition
    rw [positionOf_eq] at isPosition
    obtain ⟨-, isPosition⟩ := Option.ite_none_left_eq_some.mp isPosition
    obtain ⟨-, isPosition⟩ := Option.ite_none_left_eq_some.mp isPosition
    obtain rfl := Option.some.inj isPosition
    exact reads_titledPosition
  · intro titled plain
    rw [positionOf_eq, if_neg titled]
    cases drop : dropped host (parsedLines text) (readLines block) with
    | true =>
        refine ⟨iff_of_true rfl ((dropped_iff distinct plain).mp drop),
          fun position isPosition => ?_⟩
        cases isPosition
    | false =>
        constructor
        · refine iff_of_false (fun none => by cases none) fun picture => ?_
          rw [(dropped_iff distinct plain).mpr picture] at drop
          cases drop
        · intro position isPosition
          obtain rfl := Option.some.inj isPosition
          exact supplied_of_plain distinct plain drop _

def sampleHost : CaratHost Nat where
  lower text := text.map Char.toLower
  lower_nil := rfl
  nfkd text := text
  nfkd_nil := rfl
  combining _ := false
  float text :=
    if text.all Char.isDigit then
      some (text.foldl (fun value c => 10 * value + (c.toNat - 48)) 0)
    else none
  isZero number := decide (number = 0)

def joined (lines : List Text) : Text := List.intercalate ['\n'] lines

def plainProject : Text :=
  joined ["002| 20006024011|Nobilia|*", "003| 9999.Artikel", "003| 46006024011|00|Schrank|*",
    "003| 4627|a|b|2|0|*"]

theorem positions_exact_plain :
    ∃ positionAt : ArticleBlock → Option (PrjPosition Nat),
      (parsePrjText sampleHost plainProject).positions =
        (articleBlocks 0 (parsedLines plainProject)).filterMap positionAt ∧
      ∀ block ∈ articleBlocks 0 (parsedLines plainProject),
        (titleOf (readLines block) = [] → positionAt block = none) ∧
        (∀ position, positionAt block = some position →
          Reads sampleHost block (readLines block) position) ∧
        (titleOf (readLines block) ≠ [] → Plain (parsedLines plainProject) (readLines block) →
          (positionAt block = none ↔
            PictureData sampleHost (parsedLines plainProject) (readLines block)) ∧
          ∀ position, positionAt block = some position →
            Supplied (parsedLines plainProject) position) :=
  positions_exact sampleHost plainProject (by decide)

/-- A project in which another supplier's code ends the article's. -/
def looseProject : Text :=
  joined ["002| 20000000011|Alno|*", "002| 20006024011|Nobilia|*", "003| 9999.Artikel",
    "003| 46006024011|00|Schrank|*"]

/-- A project whose one block has the quantity on its last line, behind 79 others. -/
def longProject : Text :=
  joined ((["003| 9999.Artikel", "003| 46006024011|00|Schrank|*"] : List Text) ++
    List.replicate 79 ("003| 1" : Text) ++ [("003| 4627|a|b|2|0|*" : Text)])

instance (supplier : PrjSupplier) (code : Text) : Decidable (Agrees supplier code) :=
  inferInstanceAs (Decidable (supplier.code.drop 4 = code.drop 4 ∧ code.drop 4 ≠ []))

/-- The first related supplier is taken before the one that agrees, and a quantity behind the lines
that are read is lost. -/
theorem loose_supplier_and_long_block :
    (((supplierRecords (parsedLines looseProject)).map (·.code)).Nodup ∧
      ∃ position ∈ (parsePrjText sampleHost looseProject).positions,
        ∃ supplier ∈ supplierRecords (parsedLines looseProject),
          Agrees supplier position.articleCode ∧ position.supplierCode ≠ supplier.code) ∧
    ((supplierRecords (parsedLines longProject)).map (·.code)).Nodup ∧
      ∃ block ∈ articleBlocks 0 (parsedLines longProject),
        ∃ position ∈ (parsePrjText sampleHost longProject).positions,
          position.sourceLine = block.start + 1 ∧
            position.quantity ≠ (lastOf (quantityOf sampleHost) block.lines).getD none := by
  decide

end CaratSuppliers

end SkillCentric.Crm
