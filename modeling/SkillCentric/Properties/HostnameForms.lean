import SkillCentric.Control.TenantAdmin
import SkillCentric.Control.TenantResolution
import SkillCentric.Library.Words

/-!
# Normal forms of hostnames

`normalize_hostname` folds the case, cuts one port off, and then the dots; `normalizeTenantHostname`
cuts one dot off, and then a port.  A hostname that the Worker accepts has the same normal form in
Python unless it has both; a normal form is its own normal form unless a colon or white space is
left before what was cut off.
-/

namespace SkillCentric.HostnameForms

open SkillCentric Control Slug

variable {folding : CaseFolding} {hostname name value : Text} {c : Char}

/-- The white space of `str.strip()` by code point. -/
def spaces : List Nat :=
  [9, 10, 11, 12, 13, 28, 29, 30, 31, 32, 0x85, 0xA0, 0x1680, 0x2000, 0x2001,
    0x2002, 0x2003, 0x2004,
    0x2005, 0x2006, 0x2007, 0x2008, 0x2009, 0x200A, 0x2028, 0x2029, 0x202F, 0x205F, 0x3000]

theorem mem_spaces (space : isSpace c = true) : c.toNat ∈ spaces := by
  simp only [isSpace, Bool.or_eq_true, Bool.and_eq_true, decide_eq_true_eq, beq_iff_eq] at space
  simp only [spaces, List.mem_cons, List.not_mem_nil, or_false]
  omega

def digitCode (n : Nat) : Bool :=
  (Json.zeroDigits.any fun first => first ≤ n && n < first + 10) ||
    otherDigits.any fun range => range.1 ≤ n && n ≤ range.2

theorem isDigit_eq (c : Char) : isDigit c = digitCode c.toNat := by
  have found : (Json.digit? c).isSome = Json.zeroDigits.any fun first =>
      first ≤ c.toNat && c.toNat < first + 10 := by
    rw [Json.digit?, Option.isSome_map, Bool.eq_iff_iff, List.find?_isSome, List.any_eq_true]
  rw [isDigit, digitCode, found]

theorem isSpace_of_isDigit (digit : isDigit c = true) : isSpace c = false := by
  have apart : ∀ n ∈ spaces, digitCode n = false := by decide
  refine Bool.eq_false_iff.mpr fun space => ?_
  rw [isDigit_eq, apart _ (mem_spaces space)] at digit
  cases digit

theorem isDigit_of_decimal (decimal : '0' ≤ c ∧ c ≤ '9') : isDigit c = true := by
  have low : 48 ≤ c.toNat := Char.le_def.mp decimal.1
  have high : c.toNat ≤ 57 := Char.le_def.mp decimal.2
  have digits : ∀ n ∈ List.range' 48 10, digitCode n = true := by decide
  rw [isDigit_eq]
  exact digits _ (List.mem_range'_1.mpr ⟨low, by omega⟩)

theorem not_mem_digits {digits : Text} (are_digits : isDigits digits = true)
    (plain : isDigit c = false) : c ∉ digits := by
  intro member
  have digit := List.all_eq_true.mp (Bool.and_eq_true_iff.mp are_digits).2 c member
  rw [plain] at digit
  cases digit

/-- A text is a normal form, followed by dots and possibly by a port. -/
structure Spells (name value : Text) : Prop where
  nonempty : name ≠ []
  last : ∀ c ∈ name.getLast?, c ≠ '.'
  path : '/' ∉ name
  suffix : ∃ dots tail, value = name ++ dots ++ tail ∧ (∀ c ∈ dots, c = '.') ∧
    (tail = [] ∧ ':' ∉ name ∨ ∃ port, tail = ':' :: port ∧ isDigits port = true)

theorem Spells.not_mem_slash (spells : Spells name value) : '/' ∉ value := by
  obtain ⟨dots, tail, rfl, dotted, cut⟩ := spells.suffix
  simp only [List.mem_append, not_or]
  refine ⟨⟨spells.path, fun member => absurd (dotted _ member) (by decide)⟩, ?_⟩
  rcases cut with ⟨rfl, -⟩ | ⟨port, rfl, digits⟩
  · exact List.not_mem_nil
  · rw [List.mem_cons, not_or]
    exact ⟨by decide, not_mem_digits digits (by decide)⟩

theorem startsWith_eq_false {start : Text} (path : '/' ∉ value) (slash : '/' ∈ start) :
    startsWith value start = false := by
  refine Bool.eq_false_iff.mpr fun starts => path ?_
  exact (List.isPrefixOf_iff_prefix.mp starts).subset slash

theorem rdropWhile_dots {dots : Text} (last : ∀ c ∈ name.getLast?, c ≠ '.')
    (dotted : ∀ c ∈ dots, c = '.') : (name ++ dots).rdropWhile (· == '.') = name := by
  refine Word.rdropWhile_append (fun c member => ?_) fun c member => ?_
  · exact beq_eq_false_iff_ne.mpr (last c member)
  · exact beq_iff_eq.mpr (dotted c member)

theorem rpartitionColon_eq {host port : Text} (last : ':' ∉ port) :
    rpartitionColon (host ++ ':' :: port) = (host, port) := by
  rw [rpartitionColon, Word.rdropWhile_separator last, Word.rtakeWhile_separator last,
    List.dropLast_concat]

theorem spells_of_cut {host tail : Text} (path : '/' ∉ host)
    (nonempty : host.rdropWhile (· == '.') ≠ [])
    (cut : tail = [] ∧ ':' ∉ host ∨ ∃ port, tail = ':' :: port ∧ isDigits port = true) :
    Spells (host.rdropWhile (· == '.')) (host ++ tail) := by
  obtain ⟨dots, host_eq, dotted⟩ := Word.exists_rdropWhile (· == '.') host
  have part : host.rdropWhile (· == '.') ⊆ host := (List.rdropWhile_prefix _ _).subset
  have undotted : ∀ c ∈ (host.rdropWhile (· == '.')).getLast?, c ≠ '.' := by
    intro c last
    exact beq_eq_false_iff_ne.mp (@Word.getLast?_rdropWhile _ (· == '.') host c last)
  refine ⟨nonempty, undotted, fun member => path (part member), dots, tail, by rw [← host_eq],
    fun c member => beq_iff_eq.mp (dotted c member), ?_⟩
  exact cut.imp_left fun whole => ⟨whole.1, fun member => whole.2 (part member)⟩

theorem Spells.of_port {host port : Text} (spells : Spells name (host ++ ':' :: port))
    (last : ':' ∉ port) : isDigits port = true ∧ name = host.rdropWhile (· == '.') := by
  obtain ⟨dots, tail, same, dotted, cut⟩ := spells.suffix
  rcases cut with ⟨rfl, plain⟩ | ⟨other, rfl, digits⟩
  · have colon : ':' ∈ name ++ dots ++ [] := same ▸ List.mem_append_right _ List.mem_cons_self
    rw [List.append_nil, List.mem_append] at colon
    rcases colon with colon | colon
    · exact absurd colon plain
    · exact absurd (dotted _ colon) (by decide)
  · obtain ⟨rfl, rfl⟩ := Word.append_cons_inj last (not_mem_digits digits (by decide)) same
    exact ⟨digits, (rdropWhile_dots spells.last dotted).symm⟩

theorem Spells.of_plain (spells : Spells name value) (plain : ':' ∉ value) :
    name = value.rdropWhile (· == '.') := by
  obtain ⟨dots, tail, rfl, dotted, cut⟩ := spells.suffix
  rcases cut with ⟨rfl, -⟩ | ⟨port, rfl, -⟩
  · rw [List.append_nil, rdropWhile_dots spells.last dotted]
  · exact absurd (List.mem_append_right _ List.mem_cons_self) plain

theorem cut_ok_iff {host error : Text} :
    (if (host.rdropWhile (· == '.')).isEmpty = true then Except.error error
      else .ok (host.rdropWhile (· == '.'))) = .ok name ↔
        name = host.rdropWhile (· == '.') ∧ name ≠ [] := by
  by_cases empty : (host.rdropWhile (· == '.')).isEmpty = true
  · rw [if_pos empty]
    refine iff_of_false nofun ?_
    rintro ⟨rfl, nonempty⟩
    exact nonempty (List.isEmpty_iff.mp empty)
  · rw [if_neg empty]
    constructor
    · rintro ⟨⟩
      exact ⟨rfl, fun none => empty (List.isEmpty_iff.mpr none)⟩
    · rintro ⟨rfl, -⟩
      rfl

theorem normalizeHostname_ok_iff : normalizeHostname folding hostname = .ok name ↔
    Spells name (folding.casefold (strip hostname)) := by
  rw [normalizeHostname]
  generalize folding.casefold (strip hostname) = value
  by_cases path : '/' ∈ value
  · refine iff_of_false ?_ fun spells => spells.not_mem_slash path
    rw [List.contains_iff_mem.mpr path]
    cases startsWith value "http://" || startsWith value "https://" <;> nofun
  have scheme : (startsWith value "http://" || startsWith value "https://") = false := by
    rw [startsWith_eq_false path (by decide), startsWith_eq_false path (by decide)]
    rfl
  rw [scheme, Bool.eq_false_iff.mpr fun member => path (List.contains_iff_mem.mp member)]
  by_cases colon : ':' ∈ value
  · obtain ⟨host, port, rfl, last⟩ := Word.exists_last colon
    rw [List.contains_iff_mem.mpr colon, rpartitionColon_eq last]
    simp only [if_true, Bool.false_eq_true, if_false]
    have host_path : '/' ∉ host := fun member => path (List.mem_append_left _ member)
    by_cases refused : (host.isEmpty || !isDigits port) = true
    · rw [if_pos refused]
      refine iff_of_false nofun fun spells => ?_
      obtain ⟨digits, rfl⟩ := spells.of_port last
      rw [digits, Bool.not_true, Bool.or_false, List.isEmpty_iff] at refused
      exact spells.nonempty (by rw [refused, List.rdropWhile_nil])
    · rw [if_neg refused]
      rw [Bool.or_eq_true, not_or, Bool.not_eq_true', Bool.not_eq_false] at refused
      refine Iff.trans (show _ ↔ _ from cut_ok_iff) ?_
      constructor
      · rintro ⟨rfl, nonempty⟩
        exact spells_of_cut host_path nonempty (.inr ⟨port, rfl, refused.2⟩)
      · exact fun spells => ⟨(spells.of_port last).2, spells.nonempty⟩
  · rw [Bool.eq_false_iff.mpr fun member => colon (List.contains_iff_mem.mp member)]
    refine Iff.trans (show _ ↔ _ from cut_ok_iff) ?_
    constructor
    · rintro ⟨rfl, nonempty⟩
      have spells := @spells_of_cut value [] path nonempty (.inl ⟨rfl, colon⟩)
      rwa [List.append_nil] at spells
    · exact fun spells => ⟨spells.of_plain colon, spells.nonempty⟩

theorem fixes_of_isSpace (space : isSpace c = true) : Word.Fixes folding.char c :=
  ⟨folding.space c space, fun other member => folding.plain other c member (.inl space)⟩

theorem fixes_of_separator (separator : isHostSeparator c = true) : Word.Fixes folding.char c := by
  refine ⟨?_, fun other member => folding.plain other c member (.inr separator)⟩
  rw [isHostSeparator, Bool.or_eq_true, Bool.or_eq_true, beq_iff_eq, beq_iff_eq,
    beq_iff_eq] at separator
  rcases separator with (rfl | rfl) | rfl <;> exact folding.ascii _ (by decide)

/-- Case folding leaves every character as it is. -/
def Folded (folding : CaseFolding) (value : Text) : Prop := ∀ c ∈ value, folding.char c = [c]

theorem folded_casefold : Folded folding (folding.casefold value) := by
  intro c member
  obtain ⟨original, -, made⟩ := List.mem_flatMap.mp member
  exact folding.stable original c made

theorem Folded.casefold (folded : Folded folding value) : folding.casefold value = value := by
  induction value with
  | nil => rfl
  | cons first rest ih =>
      have later := ih fun c member => folded c (List.mem_cons_of_mem _ member)
      rw [CaseFolding.casefold] at later ⊢
      rw [List.flatMap_cons, folded first List.mem_cons_self, later, List.singleton_append]

/-- No white space at either end. -/
def Trimmed (value : Text) : Prop :=
  (∀ c ∈ value.head?, isSpace c = false) ∧ ∀ c ∈ value.getLast?, isSpace c = false

theorem Trimmed.strip (trimmed : Trimmed value) : strip value = value := by
  rw [SkillCentric.strip, stripChars, Word.dropWhile_of_head trimmed.1,
    Word.rdropWhile_of_last trimmed.2]

theorem trimmed_strip (value : Text) : Trimmed (strip value) := by
  refine ⟨fun c head => ?_, fun c last => Word.getLast?_rdropWhile last⟩
  obtain ⟨back, same, -⟩ := Word.exists_rdropWhile isSpace (value.dropWhile isSpace)
  refine @Word.head?_dropWhile _ isSpace value c ?_
  rw [same]
  exact List.mem_head?_append_of_mem_head? head

theorem head?_casefold (first : Char) (rest : Text) :
    (folding.casefold (first :: rest)).head? = (folding.char first).head? := by
  obtain ⟨head, tail, made⟩ := List.exists_cons_of_ne_nil (folding.nonempty first)
  rw [CaseFolding.casefold, List.flatMap_cons, made]
  rfl

theorem getLast?_casefold (last : Char) (rest : Text) :
    (folding.casefold (rest ++ [last])).getLast? = (folding.char last).getLast? := by
  rw [CaseFolding.casefold, List.flatMap_append, List.flatMap_singleton,
    List.getLast?_append_of_ne_nil _ (folding.nonempty last)]

theorem strip_sublist (value : Text) : (strip value).Sublist value :=
  (List.rdropWhile_prefix _ _).sublist.trans (List.dropWhile_sublist _)

theorem trimmed_casefold : Trimmed (folding.casefold value) ↔ Trimmed value := by
  have apart {c d : Char} (made : d ∈ folding.char c) : isSpace d = isSpace c := by
    cases space : isSpace c with
    | true =>
        rw [folding.space c space] at made
        rw [List.mem_singleton.mp made, space]
    | false =>
        refine Bool.eq_false_iff.mpr fun folded => ?_
        rw [folding.plain c d made (.inl folded), folded] at space
        cases space
  refine and_congr ?_ ?_
  · cases value with
    | nil => exact Iff.rfl
    | cons first rest =>
        obtain ⟨head, tail, made⟩ := List.exists_cons_of_ne_nil (folding.nonempty first)
        rw [head?_casefold, made]
        simp only [List.head?_cons, Option.mem_some_iff, forall_eq']
        rw [apart (made ▸ List.mem_cons_self)]
  · induction value using List.reverseRecOn with
    | nil => exact Iff.rfl
    | append_singleton rest last _ =>
        have nonempty := folding.nonempty last
        rw [getLast?_casefold, List.getLast?_concat, List.getLast?_eq_some_getLast nonempty]
        simp only [Option.mem_some_iff, forall_eq']
        rw [apart (List.getLast_mem nonempty)]

/-- White space before the dots and the port. -/
def SpaceBeforeSuffix (value : Text) : Prop :=
  ∃ front space dots tail, value = front ++ space :: (dots ++ tail) ∧ isSpace space = true ∧
    (∀ c ∈ dots, c = '.') ∧ (tail = [] ∨ ∃ rest, tail = ':' :: rest)

/-- The text has at most one colon, and no white space before its dots and port. -/
def Settled (hostname : Text) : Prop :=
  (strip hostname).count ':' ≤ 1 ∧ ¬ SpaceBeforeSuffix (strip hostname)

theorem normalizeHostname_self_iff (folded : Folded folding name) (spells : Spells name value)
    (head : ∀ c ∈ name.head?, isSpace c = false) :
    normalizeHostname folding name = .ok name ↔
      ':' ∉ name ∧ ∀ c ∈ name.getLast?, isSpace c = false := by
  rw [normalizeHostname_ok_iff]
  constructor
  · intro again
    have part := strip_sublist name
    rw [Folded.casefold fun c member => folded c (part.mem member)] at again
    -- Nothing can follow the name in the shorter of the two.
    obtain ⟨dots, tail, same, -, cut⟩ := again.suffix
    have short := part.length_le
    rw [same, List.append_assoc, List.length_append] at short
    have none : dots ++ tail = [] := List.eq_nil_of_length_eq_zero (by omega)
    rw [List.append_assoc, none, List.append_nil] at same
    refine ⟨?_, fun c last => (trimmed_strip name).2 c (same.symm ▸ last)⟩
    rcases cut with ⟨-, plain⟩ | ⟨port, rfl, -⟩
    · exact plain
    · exact absurd (List.append_eq_nil_iff.mp none).2 (List.cons_ne_nil _ _)
  · rintro ⟨plain, last⟩
    rw [(show Trimmed name from ⟨head, last⟩).strip, folded.casefold]
    exact ⟨spells.nonempty, spells.last, spells.path, [], [], by simp, by simp, .inl ⟨rfl, plain⟩⟩

theorem dotted_of_casefold (dotted : ∀ c ∈ folding.casefold value, c = '.') :
    ∀ c ∈ value, c = '.' := by
  intro c member
  obtain ⟨first, rest, made⟩ := List.exists_cons_of_ne_nil (folding.nonempty c)
  have made_mem : first ∈ folding.char c := made ▸ List.mem_cons_self
  have dot := dotted first (List.mem_flatMap.mpr ⟨c, member, made_mem⟩)
  exact (folding.plain c first made_mem (.inr (dot ▸ by decide))).trans dot

theorem rdropWhile_space {front dots : Text} {space : Char} (is_space : isSpace space = true)
    (dotted : ∀ c ∈ dots, c = '.') :
    (front ++ space :: dots).rdropWhile (· == '.') = front ++ [space] := by
  rw [List.append_cons]
  refine rdropWhile_dots (fun c last => ?_) dotted
  rw [List.getLast?_concat] at last
  cases last
  rintro rfl
  exact absurd is_space (by decide)

theorem Spells.exists_space (spells : Spells name (folding.casefold value))
    (count : value.count ':' ≤ 1) (before : SpaceBeforeSuffix value) :
    ∃ c ∈ name.getLast?, isSpace c = true := by
  obtain ⟨front, space, dots, tail, rfl, is_space, dotted, cut⟩ := before
  suffices ended : ∃ front, name = front ++ [space] by
    obtain ⟨front, rfl⟩ := ended
    exact ⟨space, by rw [List.getLast?_concat]; rfl, is_space⟩
  have dots_folded : Folded folding dots := fun c member =>
    (dotted c member).symm ▸ (fixes_of_separator (by decide)).kept
  have folded : folding.casefold (front ++ space :: (dots ++ tail)) =
      folding.casefold front ++ space :: (dots ++ folding.casefold tail) := by
    have dots_fixed := dots_folded.casefold
    rw [CaseFolding.casefold] at dots_fixed ⊢
    rw [List.flatMap_append, List.flatMap_cons, List.flatMap_append, folding.space space is_space,
      dots_fixed]
    rfl
  rw [folded] at spells
  rcases cut with rfl | ⟨rest, rfl⟩
  · rw [show folding.casefold [] = [] from rfl, List.append_nil] at spells
    by_cases colon : ':' ∈ folding.casefold front
    · -- The white space would stand in the port.
      obtain ⟨left, right, split, last⟩ := Word.exists_last colon
      rw [split, List.append_assoc, List.cons_append] at spells
      have later : ':' ∉ right ++ space :: dots := by
        simp only [List.mem_append, List.mem_cons, not_or]
        exact ⟨last, fun same => absurd (same ▸ is_space) (by decide),
          fun member => absurd (dotted _ member) (by decide)⟩
      have plain : isDigit space = false :=
        Bool.eq_false_iff.mpr fun digit => by
          rw [isSpace_of_isDigit digit] at is_space; cases is_space
      exact absurd (List.mem_append_right right List.mem_cons_self)
        (not_mem_digits (spells.of_port later).1 plain)
    · have plain : ':' ∉ folding.casefold front ++ space :: dots := by
        simp only [List.mem_append, List.mem_cons, not_or]
        exact ⟨colon, fun same => absurd (same ▸ is_space) (by decide),
          fun member => absurd (dotted _ member) (by decide)⟩
      exact ⟨_, (spells.of_plain plain).trans (rdropWhile_space is_space dotted)⟩
  · have colon : Word.Fixes folding.char ':' := fixes_of_separator (by decide)
    have last : ':' ∉ folding.casefold rest := by
      rw [CaseFolding.casefold, colon.mem_flatMap]
      intro member
      have more := List.count_pos_iff.mpr member
      simp only [List.count_append, List.count_cons_self, List.count_cons] at count
      omega
    have tail_folded : folding.casefold (':' :: rest) = ':' :: folding.casefold rest := by
      rw [CaseFolding.casefold, List.flatMap_cons, colon.kept]
      rfl
    rw [tail_folded, ← List.cons_append, ← List.append_assoc] at spells
    exact ⟨_, (spells.of_port last).2.trans (rdropWhile_space is_space dotted)⟩

theorem Spells.spaceBeforeSuffix (spells : Spells name (folding.casefold value)) {space : Char}
    (last : space ∈ name.getLast?) (is_space : isSpace space = true) : SpaceBeforeSuffix value := by
  obtain ⟨front, rfl⟩ : ∃ front, name = front ++ [space] := by
    exact ⟨name.dropLast, (List.dropLast_append_getLast? space last).symm⟩
  obtain ⟨dots, tail, same, dotted, cut⟩ := spells.suffix
  rw [List.append_assoc, List.append_assoc, List.singleton_append] at same
  obtain ⟨left, right, rfl, -, made⟩ := (fixes_of_isSpace is_space).exists_split same
  rcases cut with ⟨rfl, -⟩ | ⟨port, rfl, -⟩
  · refine ⟨left, space, right, [], by rw [List.append_nil], is_space, ?_, .inl rfl⟩
    rw [List.append_nil] at made
    exact @dotted_of_casefold folding _ fun c member => dotted c (made ▸ member)
  · obtain ⟨dots', rest, rfl, made', -⟩ := (fixes_of_separator (by decide)).exists_split made
    refine ⟨left, space, dots', ':' :: rest, rfl, is_space, ?_, .inr ⟨rest, rfl⟩⟩
    exact @dotted_of_casefold folding _ fun c member => dotted c (made' ▸ member)

theorem Spells.folded (spells : Spells name (folding.casefold value)) : Folded folding name := by
  obtain ⟨dots, tail, same, -⟩ := spells.suffix
  refine fun c member => @folded_casefold folding value c ?_
  rw [same, List.append_assoc]
  exact List.mem_append_left _ member

theorem Spells.head?_eq (spells : Spells name value) : name.head? = value.head? := by
  obtain ⟨dots, tail, rfl, -⟩ := spells.suffix
  rw [List.append_assoc, List.head?_append_of_ne_nil _ spells.nonempty]

theorem normal_again_iff (accepted : normalizeHostname folding hostname = .ok name) :
    normalizeHostname folding name = .ok name ↔ Settled hostname := by
  have spells := normalizeHostname_ok_iff.mp accepted
  have head : ∀ c ∈ name.head?, isSpace c = false := by
    rw [spells.head?_eq]
    exact (trimmed_casefold.mpr (trimmed_strip hostname)).1
  have colons : (strip hostname).count ':' = (folding.casefold (strip hostname)).count ':' :=
    (Word.count_flatMap (fixes_of_separator (by decide))).symm
  rw [normalizeHostname_self_iff spells.folded spells head, Settled]
  constructor
  · rintro ⟨plain, last⟩
    have count : (strip hostname).count ':' ≤ 1 := by
      obtain ⟨dots, tail, same, dotted, cut⟩ := spells.suffix
      have no_dots : dots.count ':' = 0 :=
        List.count_eq_zero.mpr fun member => absurd (dotted _ member) (by decide)
      rw [colons, same, List.count_append, List.count_append, List.count_eq_zero.mpr plain, no_dots]
      rcases cut with ⟨rfl, -⟩ | ⟨port, rfl, digits⟩
      · decide
      · rw [List.count_cons_self, List.count_eq_zero.mpr (not_mem_digits digits (by decide))]
    refine ⟨count, fun before => ?_⟩
    obtain ⟨c, ends, space⟩ := spells.exists_space count before
    rw [last c ends] at space
    cases space
  · rintro ⟨count, before⟩
    refine ⟨fun colon => ?_, fun c last => Bool.eq_false_iff.mpr fun space =>
      before (spells.spaceBeforeSuffix last space)⟩
    obtain ⟨dots, tail, same, -, cut⟩ := spells.suffix
    rcases cut with ⟨-, plain⟩ | ⟨port, rfl, -⟩
    · exact plain colon
    · have more := List.count_pos_iff.mpr colon
      rw [colons, same, List.count_append, List.count_append, List.count_cons_self] at count
      omega

/-- A text of ASCII characters. -/
def Ascii (value : Text) : Prop := ∀ c ∈ value, c.toNat < 128

/-- A normal form of the Worker, followed by its port and its dot. -/
structure Accepted (name value : Text) : Prop where
  nonempty : name ≠ []
  chars : ∀ c ∈ name, isHostChar c = true
  first : ∀ c ∈ name.head?, isWordChar c = true
  last : ∀ c ∈ name.getLast?, isWordChar c = true
  suffix : ∃ port dot, value = name ++ (port ++ dot) ∧
    (port = [] ∨ ∃ number, port = ':' :: number ∧ isNumber number = true) ∧
      (dot = [] ∨ dot = ['.'])

theorem exists_dot (value : Text) :
    ∃ dot, value = (if value.getLast? = some '.' then value.dropLast else value) ++ dot ∧
      (dot = [] ∨ dot = ['.']) := by
  by_cases dotted : value.getLast? = some '.'
  · rw [if_pos dotted]
    exact ⟨['.'], (List.dropLast_append_getLast? '.' dotted).symm, .inr rfl⟩
  · rw [if_neg dotted]
    exact ⟨[], (List.append_nil _).symm, .inl rfl⟩

def cutPort (value : Text) : Text :=
  match value.splitOn ':' with
  | [host, port] =>
      if !host.isEmpty && host.all isHostChar && isNumber port then host else value
  | _ => value

theorem exists_port (value : Text) :
    ∃ port, value = cutPort value ++ port ∧
      (port = [] ∨ ∃ number, port = ':' :: number ∧ isNumber number = true) := by
  unfold cutPort
  split
  · rename_i host port found
    split
    · rename_i matched
      refine ⟨':' :: port, ?_, .inr ⟨port, rfl, (Bool.and_eq_true_iff.mp matched).2⟩⟩
      have whole : [':'].intercalate (value.splitOn ':') = value := List.intercalate_splitOn ':'
      rw [found] at whole
      rw [← whole, List.intercalate, List.intersperse_cons_cons, List.intersperse_singleton]
      simp only [List.flatten_cons, List.flatten_nil, List.append_nil, List.singleton_append]
    · exact ⟨[], (List.append_nil _).symm, .inl rfl⟩
  · exact ⟨[], (List.append_nil _).symm, .inl rfl⟩

theorem accepted_of_ok (normal : normalizeTenantHostname hostname = .ok name) :
    Accepted name (toLowerCase (trim hostname)) := by
  have valid (host : Text) (checked : (if !host.isEmpty && host.all isHostChar &&
      host.head?.any isWordChar && host.getLast?.any isWordChar &&
        (host.splitOn '.').all (!·.isEmpty) then Except.ok host
      else Except.error ("tenant_hostname_invalid" : Text)) = .ok name) :
      host = name ∧ name ≠ [] ∧ (∀ c ∈ name, isHostChar c = true) ∧
        name.head?.any isWordChar = true ∧ name.getLast?.any isWordChar = true := by
    split at checked
    · rename_i holds
      cases checked
      simp only [Bool.and_eq_true, Bool.not_eq_true', List.isEmpty_eq_false_iff, List.all_eq_true]
        at holds
      exact ⟨rfl, holds.1.1.1.1, holds.1.1.1.2, holds.1.1.2, holds.1.2⟩
    · cases checked
  obtain ⟨dot, undotted, dots⟩ := exists_dot (toLowerCase (trim hostname))
  generalize rest_eq : (if (toLowerCase (trim hostname)).getLast? = some '.' then
    (toLowerCase (trim hostname)).dropLast else toLowerCase (trim hostname)) = rest at undotted
  obtain ⟨port, unported, ports⟩ := exists_port rest
  obtain ⟨same, nonempty, chars, first, last⟩ :=
    valid (cutPort rest) (by rw [← rest_eq]; exact normal)
  refine ⟨nonempty, chars, fun c head => ?_, fun c ends => ?_, port, dot, ?_, ports, dots⟩
  · rw [head] at first
    exact first
  · rw [ends] at last
    exact last
  · rw [undotted, ← same, ← List.append_assoc, ← unported]

theorem casefold_of_ascii (ascii : Ascii value) : folding.casefold value = toLowerCase value := by
  induction value with
  | nil => rfl
  | cons first rest ih =>
      have later := ih fun c member => ascii c (List.mem_cons_of_mem _ member)
      have small := ascii first List.mem_cons_self
      have plain : ¬ first.toNat = 0x212A := by omega
      rw [CaseFolding.casefold, toLowerCase] at later ⊢
      rw [List.flatMap_cons, List.map_cons, later, folding.ascii first small, if_neg plain]
      rfl

theorem isSpace_of_isTrimmed (small : c.toNat < 128) (trimmed : isTrimmed c = true) :
    isSpace c = true := by
  simp only [isTrimmed, isSpace, Bool.or_eq_true, Bool.and_eq_true, decide_eq_true_eq,
    beq_iff_eq] at trimmed ⊢
  omega

theorem trim_subset (value : Text) : trim value ⊆ value :=
  ((List.rdropWhile_prefix _ _).sublist.trans (List.dropWhile_sublist _)).subset

theorem strip_eq_trim (ascii : Ascii value) (nonempty : trim value ≠ [])
    (trimmed : Trimmed (trim value)) : strip value = trim value := by
  obtain ⟨front, value_eq, fronts⟩ := Word.exists_dropWhile isTrimmed value
  obtain ⟨back, rest_eq, backs⟩ := Word.exists_rdropWhile isTrimmed (value.dropWhile isTrimmed)
  have whole : value = front ++ (trim value ++ back) := by
    rw [trim, stripChars, ← rest_eq, ← value_eq]
  have spaces {part : Text} (within : part ⊆ value) (all : ∀ c ∈ part, isTrimmed c = true) :
      ∀ c ∈ part, isSpace c = true :=
    fun c member => isSpace_of_isTrimmed (ascii c (within member)) (all c member)
  have front_spaces := spaces (fun c member => whole ▸ List.mem_append_left _ member) fronts
  have back_spaces := spaces
    (fun c member => whole ▸ List.mem_append_right _ (List.mem_append_right _ member)) backs
  have head : ∀ c ∈ (trim value ++ back).head?, isSpace c = false := by
    rw [List.head?_append_of_ne_nil _ nonempty]
    exact trimmed.1
  rw [strip, stripChars]
  conv_lhs => rw [whole]
  rw [Word.dropWhile_append_of_all front_spaces, Word.dropWhile_of_head head,
    Word.rdropWhile_append trimmed.2 back_spaces]

theorem isSpace_of_isHostChar (host : isHostChar c = true) : isSpace c = false := by
  refine Bool.eq_false_iff.mpr fun space => ?_
  have code := mem_spaces space
  have apart : ∀ n ∈ spaces, isHostChar (Char.ofNat n) = false := by decide
  rw [← Char.ofNat_toNat c, apart _ code] at host
  cases host

theorem decimal_of_isNumber {number : Text} (is_number : isNumber number = true) :
    ∀ c ∈ number, '0' ≤ c ∧ c ≤ '9' := by
  intro c member
  have digit := List.all_eq_true.mp (Bool.and_eq_true_iff.mp is_number).2 c member
  rwa [Bool.and_eq_true, decide_eq_true_eq, decide_eq_true_eq] at digit

theorem isDigits_of_isNumber {number : Text} (is_number : isNumber number = true) :
    isDigits number = true := by
  rw [isDigits, (Bool.and_eq_true_iff.mp is_number).1, Bool.true_and, List.all_eq_true]
  exact fun c member => isDigit_of_decimal (decimal_of_isNumber is_number c member)

theorem Accepted.isSpace_eq_false (accepted : Accepted name value) :
    ∀ c ∈ value, isSpace c = false := by
  obtain ⟨port, dot, rfl, ports, dots⟩ := accepted.suffix
  intro c member
  rcases List.mem_append.mp member with member | member
  · exact isSpace_of_isHostChar (accepted.chars c member)
  rcases List.mem_append.mp member with member | member
  · rcases ports with rfl | ⟨number, rfl, digits⟩
    · cases member
    · rcases List.mem_cons.mp member with rfl | member
      · decide
      · exact isSpace_of_isDigit (isDigit_of_decimal (decimal_of_isNumber digits c member))
  · rcases dots with rfl | rfl
    · cases member
    · rw [List.mem_singleton.mp member]
      decide

theorem Accepted.trimmed (accepted : Accepted name value) : Trimmed value :=
  ⟨fun c head => accepted.isSpace_eq_false c (List.mem_of_mem_head? head),
    fun c last => accepted.isSpace_eq_false c (List.mem_of_getLast? last)⟩

theorem Accepted.not_mem (accepted : Accepted name value) (other : isHostChar c = false) :
    c ∉ name := by
  intro member
  rw [accepted.chars c member] at other
  cases other

theorem Accepted.last_ne_dot (accepted : Accepted name value) : ∀ c ∈ name.getLast?, c ≠ '.' := by
  rintro c last rfl
  exact absurd (accepted.last '.' last) (by decide)

/-- A port and a dot behind it. -/
def PortThenDot (value : Text) : Prop := ∃ host port, value = host ++ ':' :: (port ++ ['.'])

theorem portThenDot_casefold : PortThenDot (folding.casefold value) ↔ PortThenDot value := by
  constructor
  · rintro ⟨host, port, same⟩
    obtain ⟨left, right, rfl, -, made⟩ := (fixes_of_separator (by decide)).exists_split same
    obtain ⟨middle, rest, rfl, -, made⟩ := (fixes_of_separator (by decide)).exists_split made
    have rest_nil : rest = [] := by
      cases rest with
      | nil => rfl
      | cons first rest =>
          rw [List.flatMap_cons] at made
          exact absurd (List.append_eq_nil_iff.mp made).1 (folding.nonempty first)
    exact ⟨left, middle, by rw [rest_nil]⟩
  · rintro ⟨host, port, rfl⟩
    refine ⟨folding.casefold host, folding.casefold port, ?_⟩
    have colon : folding.char ':' = [':'] := (fixes_of_separator (by decide)).kept
    have dot : folding.char '.' = ['.'] := (fixes_of_separator (by decide)).kept
    simp only [CaseFolding.casefold, List.flatMap_append, List.flatMap_cons,
      List.flatMap_nil, colon,
      dot, List.singleton_append, List.append_nil]

theorem Accepted.spells_iff (accepted : Accepted name value) :
    Spells name value ↔ ¬ PortThenDot value := by
  obtain ⟨port, dot, rfl, ports, dots⟩ := accepted.suffix
  have plain : ':' ∉ name := accepted.not_mem (by decide)
  have path : '/' ∉ name := accepted.not_mem (by decide)
  have spells {rest : Text} (suffix) : Spells name rest :=
    ⟨accepted.nonempty, accepted.last_ne_dot, path, suffix⟩
  rcases ports with rfl | ⟨number, rfl, is_number⟩
  · refine iff_of_true (spells ⟨dot, [], by simp, ?_, .inl ⟨rfl, plain⟩⟩) ?_
    · rcases dots with rfl | rfl <;> simp
    · rintro ⟨host, port, same⟩
      have colon : ':' ∈ name ++ ([] ++ dot) := same ▸ List.mem_append_right _ List.mem_cons_self
      rcases dots with rfl | rfl <;> simp [plain] at colon
  · have digits := isDigits_of_isNumber is_number
    rcases dots with rfl | rfl
    · refine iff_of_true
        (spells ⟨[], ':' :: number, by simp, by simp, .inr ⟨number, rfl, digits⟩⟩) ?_
      rintro ⟨host, port, same⟩
      have filled : number ≠ [] := by
        rintro rfl
        cases is_number
      have ends := congrArg List.getLast? same
      rw [List.append_nil, List.append_cons, List.getLast?_append_of_ne_nil _ filled, ←
        List.cons_append,
        ← List.append_assoc, List.getLast?_concat] at ends
      exact absurd (decimal_of_isNumber is_number '.' (List.mem_of_getLast? ends)) (by decide)
    · refine iff_of_false (fun spelled => ?_) fun apart => apart ⟨name, number, rfl⟩
      have last : ':' ∉ number ++ ['.'] := by
        rw [List.mem_append, not_or]
        exact ⟨not_mem_digits digits (by decide), by decide⟩
      exact absurd (List.mem_append_right number (List.mem_singleton.mpr rfl))
        (not_mem_digits (spelled.of_port last).1 (by decide))

theorem python_agrees_iff (ascii : Ascii hostname)
    (normal : normalizeTenantHostname hostname = .ok name) :
    normalizeHostname folding hostname = .ok name ↔ ¬ PortThenDot (strip hostname) := by
  have accepted := accepted_of_ok normal
  have lowered : folding.casefold (trim hostname) = toLowerCase (trim hostname) :=
    casefold_of_ascii fun c member => ascii c (trim_subset hostname member)
  rw [← lowered] at accepted
  have nonempty : trim hostname ≠ [] := by
    intro empty
    obtain ⟨port, dot, same, -⟩ := accepted.suffix
    rw [empty] at same
    exact accepted.nonempty (List.append_eq_nil_iff.mp same.symm).1
  rw [normalizeHostname_ok_iff, strip_eq_trim ascii nonempty (trimmed_casefold.mp accepted.trimmed),
    accepted.spells_iff, portThenDot_casefold]

end SkillCentric.HostnameForms
