import SkillCentric.Library.Words
import SkillCentric.Runtime.TransitionSignals

/-!
# Protected paths in a text

A path token of two or more segments is matched from end to end wherever white space delimits it, so
it is always reported.  It is reported as protected by the way it is spelled: after leading `./`,
its text begins with a protected prefix.
-/

namespace SkillCentric

open Slug Pattern TransitionSignals

namespace ProtectedPaths

/-- The name of a file or folder, as the scan reads it. -/
def Segment (segment : Text) : Prop := segment ≠ [] ∧ ∀ c ∈ segment, isSegmentChar c = true

def pathOf (segments : List Text) : Text := List.intercalate ['/'] segments

/-- Nothing or white space stands before. -/
def EndsOpen (before : Text) : Prop :=
  before = [] ∨ ∃ front space, before = front ++ [space] ∧ isSpace space = true

/-- Nothing or white space stands after. -/
def BeginsOpen (after : Text) : Prop :=
  after = [] ∨ ∃ space rest, after = space :: rest ∧ isSpace space = true

/-- A text mentions a relative path, delimited by white space. -/
structure Mentions (text before : Text) (segments : List Text) (after : Text) : Prop where
  split : text = before ++ (pathOf segments ++ after)
  segment : ∀ segment ∈ segments, Segment segment
  endsOpen : EndsOpen before
  beginsOpen : BeginsOpen after

/-- One more segment of a path in normal form, the last one first. -/
def resolve (resolved : List Text) (segment : Text) : List Text :=
  if segment = ("." : Text) then resolved
  else if segment = (".." : Text) then
    match resolved with
    | [] => [".."]
    | last :: rest => if last = (".." : Text) then ".." :: last :: rest else rest
  else segment :: resolved

def normalForm (segments : List Text) : List Text := (segments.foldl resolve []).reverse

/-- The normal form lies under a protected prefix. -/
def UnderProtected (segments : List Text) : Prop :=
  ∃ start ∈ protectedPathPrefixes, start <+: pathOf (normalForm segments)

/-- The path is spelled with a protected prefix, but for leading `./`. -/
def SpelledOut (path : Text) : Prop :=
  ∃ count, ∃ start ∈ protectedPathPrefixes, ∃ rest,
    path = (List.replicate count ("./" : Text)).flatten ++ (start ++ rest)

def undotted (path : Text) : Text := path.rdropWhile (· == '.')

/-- A signal of a kind at a place. -/
def Reported (signals : List TransitionSignal) (kind : Text) (start stop : Nat) : Prop :=
  ∃ signal ∈ signals,
    signal.signalKind = kind ∧ signal.offsetStart = start ∧ signal.offsetEnd = stop

/-- The span lies around the signal in the same artifact. -/
def Covers (span : EvidenceSpan) (signal : TransitionSignal) : Prop :=
  span.artifactId = signal.artifactId ∧ span.artifactHash = signal.artifactHash ∧
    span.offsetStart ≤ signal.offsetStart ∧ (signal.offsetEnd : Int) ≤ span.offsetEnd

section Characters

variable {c : Char}

theorem toNat_of_isAlphanumeric (alphanumeric : isAlphanumeric c = true) :
    48 ≤ c.toNat ∧ c.toNat ≤ 122 := by
  simp only [isAlphanumeric, isAsciiLetter, Bool.or_eq_true, Bool.and_eq_true, decide_eq_true_eq,
    Char.le_def] at alphanumeric
  obtain (⟨low, high⟩ | ⟨low, high⟩) | ⟨low, high⟩ := alphanumeric
  · exact ⟨le_trans (by decide) low, le_trans high (by decide)⟩
  · exact ⟨le_trans (by decide) low, le_trans high (by decide)⟩
  · exact ⟨le_trans (by decide) low, le_trans high (by decide)⟩

theorem not_isSpace_of_toNat (low : 33 ≤ c.toNat) (high : c.toNat ≤ 126) : isSpace c = false := by
  by_contra space
  replace space := Bool.eq_true_of_not_eq_false space
  simp only [isSpace, Bool.or_eq_true, Bool.and_eq_true, decide_eq_true_eq, beq_iff_eq] at space
  omega

theorem not_isSpace_of_isAlphanumeric (alphanumeric : isAlphanumeric c = true) :
    isSpace c = false := by
  obtain ⟨low, high⟩ := toNat_of_isAlphanumeric alphanumeric
  exact not_isSpace_of_toNat (by omega) (by omega)

theorem not_isSpace_of_contains {text : Text} (printed : text.all (fun c => !isSpace c) = true)
    (among : text.contains c = true) : isSpace c = false := by
  have each := List.all_eq_true.mp printed c (List.contains_iff_mem.mp among)
  simpa using each

theorem not_isSpace_of_isPathChar (isChar : isPathChar c = true) : isSpace c = false := by
  obtain alphanumeric | among := Bool.or_eq_true_iff.mp isChar
  · exact not_isSpace_of_isAlphanumeric alphanumeric
  · exact not_isSpace_of_contains (by decide) among

theorem not_isSpace_of_isSegmentChar (isChar : isSegmentChar c = true) : isSpace c = false := by
  obtain alphanumeric | among := Bool.or_eq_true_iff.mp isChar
  · exact not_isSpace_of_isAlphanumeric alphanumeric
  · exact not_isSpace_of_contains (by decide) among

theorem isPathChar_of_isSegmentChar (isChar : isSegmentChar c = true) : isPathChar c = true := by
  refine Bool.or_eq_true_iff.mpr ((Bool.or_eq_true_iff.mp isChar).imp_right fun among => ?_)
  have member := List.contains_iff_mem.mp among
  have each : ("_.-" : Text).all (fun c => ("._~@%+=:,/\\-" : Text).contains c) = true := by
    decide
  exact List.all_eq_true.mp each c member

end Characters

/-- A path of two or more segments: the first one, and the rest. -/
structure Split (path first rest : Text) : Prop where
  whole : path = first ++ '/' :: rest
  segment : Segment first
  nonempty : rest ≠ []
  chars : ∀ c ∈ rest, isSegmentChar c = true ∨ c = '/'

section Match

variable {tables : PatternTables} {previous : Option Char}
  {path first rest before after taken : Text}

theorem pathChar_of_split (split : Split path first rest) {c : Char} (inRest : c ∈ rest) :
    isPathChar c = true := by
  obtain isChar | rfl := split.chars c inRest
  · exact isPathChar_of_isSegmentChar isChar
  · decide

theorem chars_of_split (split : Split path first rest) :
    ∀ c ∈ path, isSegmentChar c = true ∨ c = '/' := by
  intro c inPath
  rw [split.whole, List.mem_append, List.mem_cons] at inPath
  obtain inFirst | rfl | inRest := inPath
  · exact Or.inl (split.segment.2 c inFirst)
  · exact Or.inr rfl
  · exact split.chars c inRest

theorem slash_notMem (split : Split path first rest) : '/' ∉ first := fun slash =>
  absurd (split.segment.2 '/' slash) (by decide)

theorem prefix_path (opens : BeginsOpen after) (unspaced : ∀ c ∈ taken, isSpace c = false)
    (starts : taken <+: path ++ after) : taken <+: path := by
  obtain rfl | ⟨space, tail, rfl, isBlank⟩ := opens
  · rwa [List.append_nil] at starts
  · have separates : ¬ isSpace space = false := by rw [isBlank]; simp
    exact List.prefix_of_prefix_length_le starts (List.prefix_append path _)
      (length_le_of_isPrefix separates unspaced starts)

theorem takeWhile_rest (split : Split path first rest) (opens : BeginsOpen after) :
    (rest ++ after).takeWhile isPathChar = rest := by
  rw [List.takeWhile_append_of_pos fun c inRest => pathChar_of_split split inRest]
  obtain rfl | ⟨space, tail, rfl, isBlank⟩ := opens
  · rw [List.takeWhile_nil, List.append_nil]
  · have stops : ¬ isPathChar space = true := fun isChar =>
      absurd isBlank (by rw [not_isSpace_of_isPathChar isChar]; exact Bool.false_ne_true)
    rw [List.takeWhile_cons_of_neg stops, List.append_nil]

theorem found_pathFrom {start : Pattern} (split : Split path first rest) (opens : BeginsOpen after)
    (slashFree : ∀ front ∈ start.takes previous (path ++ after), '/' ∉ front)
    (isFound : (pathFrom start).found previous (path ++ after) = some taken) : taken = path := by
  obtain ⟨front, among, back, isBack, rfl⟩ := found_next isFound
  obtain ⟨slash, inSlash, tail, isTail, rfl⟩ := found_next isBack
  obtain ⟨c, others, behind, isSlash, rfl⟩ := mem_takes_one.mp inSlash
  obtain rfl : c = '/' := beq_iff_eq.mp isSlash
  have starts := prefix_of_mem_takes among
  have shape : front ++ '/' :: others = first ++ '/' :: (rest ++ after) := by
    rw [← behind, List.prefix_iff_eq_append.mp starts, split.whole, List.append_assoc,
      List.cons_append]
  obtain ⟨rfl, rfl⟩ := Word.append_cons_inj_first (slashFree front among) (slash_notMem split) shape
  have enough : 1 ≤ rest.length := List.length_pos_iff.mpr split.nonempty
  rw [behind, List.length_singleton, List.drop_one, List.tail_cons] at isTail
  have whole := (found_run (takeWhile_rest split opens) enough).symm.trans isTail
  rw [← Option.some.inj whole, split.whole]
  rfl

theorem found_pathFrom_ne_none {start : Pattern} (split : Split path first rest)
    (opens : BeginsOpen after) (among : first ∈ start.takes previous (path ++ after)) :
    (pathFrom start).found previous (path ++ after) ≠ none := by
  have enough : 1 ≤ rest.length := List.length_pos_iff.mpr split.nonempty
  have behind : (path ++ after).drop first.length = '/' :: (rest ++ after) := by
    rw [split.whole, List.append_assoc, List.drop_left, List.cons_append]
  have inTail := mem_takes_of_found (@found_run (lastOf (lastOf previous first) ['/'])
    (rest ++ after) rest isPathChar 1 (takeWhile_rest split opens) enough)
  intro none
  refine found_eq_none.mp none path ?_
  refine mem_takes_next.mpr ⟨first, among, '/' :: rest, mem_takes_next.mpr
    ⟨['/'], mem_takes_one.mpr ⟨'/', rest ++ after, behind, rfl, rfl⟩, rest, ?_, rfl⟩,
    split.whole.symm⟩
  rw [behind]
  exact inTail

theorem colon_notMem {pattern : Pattern} (split : Split path first rest) (opens : BeginsOpen after)
    (within : pattern.Within fun c => isSpace c = false)
    (among : taken ∈ pattern.takes previous (path ++ after)) : ':' ∉ taken := by
  intro colon
  have starts := prefix_path opens (all_of_mem_takes within among) (prefix_of_mem_takes among)
  obtain isChar | same := chars_of_split split ':' (starts.subset colon)
  · exact absurd isChar (by decide)
  · exact absurd same (by decide)

theorem within_isNoneOf (excluded : Text) : ∀ c, isNoneOf excluded c = true → isSpace c = false :=
  fun c none => by simpa using (Bool.and_eq_true_iff.mp none).1

theorem within_word {word : Text} (printed : word.all (fun c => !isSpace c) = true) :
    (literal word).Within fun c => isSpace c = false :=
  within_literal fun c inWord => by simpa using List.all_eq_true.mp printed c inWord

theorem within_mark {mark : Char} (printed : isSpace mark = false) :
    (one (· == mark)).Within fun c => isSpace c = false :=
  fun _ same => beq_iff_eq.mp same ▸ printed

theorem within_windowsPath : windowsPath.Within fun c => isSpace c = false := by
  refine within_inOrder fun pattern among => ?_
  simp only [List.mem_cons, List.not_mem_nil, or_false] at among
  obtain rfl | rfl | rfl | rfl := among
  · exact fun c letter => not_isSpace_of_isAlphanumeric (Bool.or_eq_true_iff.mpr (Or.inl letter))
  · exact within_mark (by decide)
  · exact within_mark (by decide)
  · exact within_isNoneOf _

theorem within_url : url.Within fun c => isSpace c = false := by
  refine within_inOrder fun pattern among => ?_
  simp only [List.mem_cons, List.not_mem_nil, or_false] at among
  obtain rfl | rfl | rfl | rfl := among
  · exact within_word (by decide)
  · exact ⟨within_word (by decide), trivial⟩
  · exact within_word (by decide)
  · exact within_isNoneOf _

theorem found_windowsPath (split : Split path first rest) (opens : BeginsOpen after) :
    windowsPath.found previous (path ++ after) = none := by
  refine found_eq_none.mpr fun taken among => colon_notMem split opens within_windowsPath among ?_
  obtain ⟨letter, -, others, inOthers, rfl⟩ := mem_takes_next.mp among
  obtain ⟨colon, inColon, marks, -, rfl⟩ := mem_takes_next.mp inOthers
  obtain ⟨c, -, -, same, rfl⟩ := mem_takes_one.mp inColon
  rw [beq_iff_eq.mp same]
  exact List.mem_append_right _ List.mem_cons_self

theorem found_url (split : Split path first rest) (opens : BeginsOpen after) :
    url.found previous (path ++ after) = none := by
  refine found_eq_none.mpr fun taken among => colon_notMem split opens within_url among ?_
  obtain ⟨scheme, -, others, inOthers, rfl⟩ := mem_takes_next.mp among
  obtain ⟨secure, -, behind, inBehind, rfl⟩ := mem_takes_next.mp inOthers
  obtain ⟨colon, inColon, host, -, rfl⟩ := mem_takes_next.mp inBehind
  rw [eq_of_mem_takes_literal inColon]
  exact List.mem_append_right _ (List.mem_append_right _ List.mem_cons_self)

theorem found_pathGroup (split : Split path first rest) (opens : BeginsOpen after) :
    pathGroup.found previous (path ++ after) = some path := by
  have named : ∀ taken,
      (pathFrom (firstOf (namedDirectories.map literal))).found previous (path ++ after) =
        some taken →
        taken = path := by
    refine fun taken isFound => found_pathFrom split opens (fun front among => ?_) isFound
    obtain ⟨pattern, inPatterns, inTakes⟩ := mem_takes_firstOf.mp among
    obtain ⟨name, inNames, rfl⟩ := List.mem_map.mp inPatterns
    rw [eq_of_mem_takes_literal inTakes]
    have slashFree : namedDirectories.all (fun name => !name.contains '/') = true := by decide
    simpa using List.all_eq_true.mp slashFree name inNames
  have unnamed : (pathFrom (some1 isSegmentChar)).found previous (path ++ after) = some path := by
    have segment : first ∈ (some1 isSegmentChar).takes previous (path ++ after) := by
      refine mem_takes_run.mpr ⟨?_, List.length_pos_iff.mpr split.segment.1⟩
      rw [longest, split.whole, List.append_assoc, List.takeWhile_append_of_pos split.segment.2]
      exact List.prefix_append _ _
    obtain ⟨taken, isFound⟩ :=
      Option.ne_none_iff_exists'.mp (found_pathFrom_ne_none split opens segment)
    have within : (some1 isSegmentChar).Within fun c => isSegmentChar c = true :=
      fun _ isChar => isChar
    rw [isFound, found_pathFrom split opens (fun front among slash => ?_) isFound]
    exact absurd (all_of_mem_takes within among '/' slash) (by decide)
  change (orElse windowsPath (orElse url (orElse (pathFrom (firstOf (namedDirectories.map literal)))
    (pathFrom (some1 isSegmentChar))))).found previous (path ++ after) = some path
  rw [found_orElse, found_windowsPath split opens, Option.none_or, found_orElse,
    found_url split opens, Option.none_or, found_orElse, unnamed]
  cases isFound : (pathFrom (firstOf (namedDirectories.map literal))).found
    previous (path ++ after) with
  | none => rfl
  | some taken => rw [named taken isFound, Option.some_or]

end Match

section Signals

variable {tables : PatternTables} {sha256Hex : Text → Text} {artifactId text before after : Text}
  {path first rest : Text} {signals : List TransitionSignal}

theorem matchAt_path {previous : Option Char} (split : Split path first rest)
    (opens : BeginsOpen after) (open_ : previous.all isSpace = true) :
    matchAt (pathPattern tables) previous (path ++ after) = some [[], path] := by
  have held : (!previous.any fun c => tables.isWord c || c == '.' || c == '-') = true := by
    cases previous with
    | none => rfl
    | some c =>
        have blank : isSpace c = true := open_
        have word := tables.isWord_of_isSpace c blank
        have dot : c ≠ '.' := fun same => absurd (same ▸ blank) (by decide)
        have hyphen : c ≠ '-' := fun same => absurd (same ▸ blank) (by decide)
        simp [word, dot, hyphen]
  rw [pathPattern, matchAt_here held, matchAt_single, found_pathGroup split opens]
  rfl

theorem path_ne_nil (split : Split path first rest) : path ≠ [] := by
  rw [split.whole]
  exact List.append_ne_nil_of_right_ne_nil _ (List.cons_ne_nil _ _)

theorem within_pathPattern :
    ∀ pattern ∈ pathPattern tables, pattern.Within fun c => isSpace c = false := by
  have rest : (some1 isPathChar).Within fun c => isSpace c = false :=
    fun _ => not_isSpace_of_isPathChar
  have slash : (one (· == '/')).Within fun c => isSpace c = false := within_mark (by decide)
  have named : (firstOf (namedDirectories.map literal)).Within fun c => isSpace c = false := by
    refine within_firstOf fun pattern among => ?_
    obtain ⟨name, inNames, rfl⟩ := List.mem_map.mp among
    have printed : namedDirectories.all (fun name => name.all fun c => !isSpace c) = true := by
      decide
    exact within_word (List.all_eq_true.mp printed name inNames)
  intro pattern among
  obtain rfl | rfl : pattern = _ ∨ pattern = pathGroup := by
    simpa only [pathPattern, List.mem_cons, List.not_mem_nil, or_false] using among
  · trivial
  · exact ⟨within_windowsPath, within_url, ⟨named, slash, rest⟩,
      fun _ => not_isSpace_of_isSegmentChar, slash, rest⟩

theorem mem_findIter (split : Split path first rest) (ends : EndsOpen before)
    (opens : BeginsOpen after) :
    (before.length, [[], path]) ∈ findIter (pathPattern tables) (before ++ (path ++ after)) := by
  have nonempty : ([[], path] : List Text).flatten ≠ [] := by simpa using path_ne_nil split
  obtain rfl | ⟨front, space, rfl, blank⟩ := ends
  · exact mem_finds_of_matchAt (matchAt_path split opens rfl) nonempty
  · have separates : ¬ isSpace space = false := by rw [blank]; simp
    obtain ⟨others, found⟩ :=
      @finds_append_separator (pathPattern tables) _ within_pathPattern space
      separates front (path ++ after) 0 0 none (Nat.zero_le _)
    rw [findIter, List.append_assoc, List.singleton_append, found, List.length_append, Nat.zero_add]
    exact List.mem_append_right _ (mem_finds_of_matchAt (matchAt_path split opens blank) nonempty)

theorem trimPathToken_path (split : Split path first rest) :
    trimPathToken path = undotted path := by
  refine Word.rdropWhile_congr fun c inPath => ?_
  have marks : (".,;:)]\x7d'\"`" : Text).all
      (fun c => c == '.' || (!isSegmentChar c && c != '/')) = true := by
    decide
  by_cases dot : c = '.'
  · rw [dot]
    decide
  · rw [beq_false_of_ne dot, Bool.eq_false_iff]
    intro trimmed
    have outside := List.all_eq_true.mp marks c (List.contains_iff_mem.mp trimmed)
    obtain isChar | rfl := chars_of_split split c inPath
    · simp [dot, isChar] at outside
    · simp at outside

theorem undotted_path (split : Split path first rest) :
    undotted path = first ++ '/' :: undotted rest := by
  rw [split.whole]
  exact Word.rdropWhile_append_cons (by decide)

theorem mem_allSignals (split : Split path first rest) (ends : EndsOpen before)
    (opens : BeginsOpen after) {signal : TransitionSignal}
    (among : signal ∈ pathSignalsAt sha256Hex artifactId (before ++ (path ++ after))
      (before.length, [[], path])) :
    signal ∈ allSignals tables sha256Hex artifactId (before ++ (path ++ after)) := by
  have inPaths : signal ∈ pathSignals tables sha256Hex artifactId (before ++ (path ++ after)) :=
    List.mem_flatMap.mpr ⟨_, mem_findIter split ends opens, among⟩
  simp only [allSignals, List.mem_append, inPaths, true_or]

def pathSignal (sha256Hex : Text → Text) (artifactId text path : Text) (offset : Nat)
    (kind source : Text) : TransitionSignal :=
  signal kind (undotted path) artifactId (artifactHash sha256Hex text) text offset
    (offset + (undotted path).length) source (some (pathKind (undotted path)))

theorem pathSignalsAt_path (split : Split path first rest) {offset : Nat} :
    pathSignalsAt sha256Hex artifactId text (offset, [[], path]) =
      pathSignal sha256Hex artifactId text path offset "path_reference" "scanner:path" ::
        (if isProtectedPath (undotted path) then
          [pathSignal sha256Hex artifactId text path offset "protected_path_reference"
            "scanner:protected_path"]
        else []) := by
  have value : trimPathToken ([[], path] : List Text).flatten = undotted path := by
    rw [List.flatten_cons, List.nil_append, List.flatten_singleton, trimPathToken_path split]
  have nonempty : (undotted path).isEmpty = false := by
    rw [undotted_path split]
    exact List.isEmpty_eq_false_iff.mpr
      (List.append_ne_nil_of_right_ne_nil _ (List.cons_ne_nil _ _))
  have slash : occursIn (undotted path) ("/" : Text) = true := by
    rw [undotted_path split]
    exact decide_eq_true ⟨first, undotted rest, by simp⟩
  have whole : looksLikeSentenceFragment (undotted path) = false := by
    rw [looksLikeSentenceFragment, slash]
    simp
  rw [pathSignalsAt, value]
  simp only [nonempty, whole, Bool.or_self, Bool.false_eq_true, if_false]
  rfl

end Signals

section Duplicates

variable {signals : List TransitionSignal} {dict : Dict (Text × Text × Nat × Nat) TransitionSignal}

theorem get?_deduped {key : Text × Text × Nat × Nat} {value : TransitionSignal}
    (stored :
      (signals.foldl (fun dict signal => Dict.set dict (keyOf signal) signal) dict).get? key =
      some value) :
    dict.get? key = some value ∨ (value ∈ signals ∧ keyOf value = key) := by
  induction signals generalizing dict with
  | nil => exact Or.inl stored
  | cons signal signals ih =>
      obtain before | ⟨among, same⟩ := ih stored
      · rw [Dict.get?_set] at before
        split at before
        next same =>
          obtain rfl := Option.some.inj before
          exact Or.inr ⟨List.mem_cons_self, same.symm⟩
        next => exact Or.inl before
      · exact Or.inr ⟨List.mem_cons_of_mem _ among, same⟩

theorem isSome_deduped {key : Text × Text × Nat × Nat}
    (known : (dict.get? key).isSome = true ∨ ∃ signal ∈ signals, keyOf signal = key) :
    ((signals.foldl (fun dict signal => Dict.set dict (keyOf signal) signal) dict).get?
      key).isSome =
      true := by
  induction signals generalizing dict with
  | nil => simpa using known
  | cons signal signals ih =>
      refine ih ?_
      rw [Dict.get?_set]
      by_cases same : key = keyOf signal
      · rw [if_pos same]
        exact Or.inl rfl
      · rw [if_neg same]
        refine known.imp_right ?_
        rintro ⟨other, among, isKey⟩
        obtain rfl | inRest := List.mem_cons.mp among
        · exact absurd isKey.symm same
        · exact ⟨other, inRest, isKey⟩

theorem mem_of_mem_dedupe {signal : TransitionSignal} (among : signal ∈ dedupeSignals signals) :
    signal ∈ signals := by
  rw [dedupeSignals, List.mem_insertionSort, Dict.mem_values_iff] at among
  obtain ⟨key, stored⟩ := among
  obtain empty | ⟨inSignals, -⟩ := get?_deduped stored
  · rw [Dict.get?_empty] at empty
    cases empty
  · exact inSignals

theorem reported_of_mem {signal : TransitionSignal} (among : signal ∈ signals) :
    Reported (dedupeSignals signals) signal.signalKind signal.offsetStart signal.offsetEnd := by
  obtain ⟨value, stored⟩ := Option.isSome_iff_exists.mp
    (@isSome_deduped signals Dict.empty (keyOf signal) (Or.inr ⟨signal, among, rfl⟩))
  obtain empty | ⟨-, same⟩ := get?_deduped stored
  · rw [Dict.get?_empty] at empty
    cases empty
  · refine ⟨value, ?_, congrArg (·.1) same, congrArg (·.2.2.1) same, congrArg (·.2.2.2) same⟩
    rw [dedupeSignals, List.mem_insertionSort, Dict.mem_values_iff]
    exact ⟨keyOf signal, stored⟩

end Duplicates

section Spelling

variable {path first rest : Text} {segments : List Text}

/-- A protected prefix ends in a slash, and `./` is not in front of it. -/
theorem shape_of_prefix {start : Text} (among : start ∈ protectedPathPrefixes) :
    (∃ front, start = front ++ ['/']) ∧ ∀ rest, dropHere (start ++ rest) = start ++ rest := by
  simp only [protectedPathPrefixes, List.mem_cons, List.not_mem_nil, or_false] at among
  obtain rfl | rfl | rfl | rfl | rfl | rfl | rfl | rfl | rfl := among
  · exact ⟨⟨".github", rfl⟩, fun _ => rfl⟩
  · exact ⟨⟨"docs/adr", rfl⟩, fun _ => rfl⟩
  · exact ⟨⟨"docs/policies", rfl⟩, fun _ => rfl⟩
  · exact ⟨⟨"migrations", rfl⟩, fun _ => rfl⟩
  · exact ⟨⟨"policies", rfl⟩, fun _ => rfl⟩
  · exact ⟨⟨"schemas", rfl⟩, fun _ => rfl⟩
  · exact ⟨⟨"src/skill_centric_agent_system/composition", rfl⟩, fun _ => rfl⟩
  · exact ⟨⟨"src/skill_centric_agent_system/runtime", rfl⟩, fun _ => rfl⟩
  · exact ⟨⟨"workers/control-api", rfl⟩, fun _ => rfl⟩

theorem dropHere_replicate (count : Nat) (rest : Text) :
    dropHere ((List.replicate count ("./" : Text)).flatten ++ rest) = dropHere rest := by
  induction count with
  | zero => rfl
  | succ count ih =>
      rw [List.replicate_succ, List.flatten_cons, List.append_assoc]
      exact ih

theorem forwardSlashes_eq_self {value : Text} (absent : '\\' ∉ value) :
    forwardSlashes value = value := by
  rw [forwardSlashes]
  refine (List.map_congr_left fun c among => if_neg ?_).trans (List.map_id value)
  rintro rfl
  exact absent among

theorem isProtectedPath_of_spelledOut (split : Split path first rest) (spelled : SpelledOut path) :
    isProtectedPath (undotted path) = true := by
  obtain ⟨count, start, among, tail, shape⟩ := spelled
  obtain ⟨⟨front, ends⟩, kept⟩ := shape_of_prefix among
  have bare : undotted path =
      (List.replicate count ("./" : Text)).flatten ++ (start ++ undotted tail) := by
    have cut : path = ((List.replicate count ("./" : Text)).flatten ++ front) ++ '/' :: tail := by
      rw [shape, ends, List.append_assoc, List.append_assoc]
      rfl
    rw [cut, undotted, Word.rdropWhile_append_cons (by decide), ends, List.append_assoc,
      List.append_assoc]
    rfl
  have forward : '\\' ∉ undotted path := by
    intro back
    obtain isChar | same := chars_of_split split '\\' ((List.rdropWhile_prefix _ path).subset back)
    · exact absurd isChar (by decide)
    · exact absurd same (by decide)
  rw [isProtectedPath, forwardSlashes_eq_self forward, bare, dropHere_replicate, kept]
  exact List.any_eq_true.mpr ⟨start, among, List.isPrefixOf_iff_prefix.mpr (List.prefix_append _ _)⟩

theorem pathOf_cons_cons (first second : Text) (others : List Text) :
    pathOf (first :: second :: others) = first ++ '/' :: pathOf (second :: others) := by
  simp [pathOf, List.intercalate]

theorem chars_pathOf (each : ∀ segment ∈ segments, Segment segment) :
    ∀ c ∈ pathOf segments, isSegmentChar c = true ∨ c = '/' := by
  intro c among
  induction segments with
  | nil => cases among
  | cons segment others ih =>
      cases others with
      | nil =>
          rw [pathOf, List.intercalate_singleton] at among
          exact Or.inl ((each segment List.mem_cons_self).2 c among)
      | cons second others =>
          rw [pathOf_cons_cons, List.mem_append, List.mem_cons] at among
          obtain inSegment | rfl | inOthers := among
          · exact Or.inl ((each segment List.mem_cons_self).2 c inSegment)
          · exact Or.inr rfl
          · exact ih (fun other inRest => each other (List.mem_cons_of_mem _ inRest)) inOthers

theorem pathOf_ne_nil {segment : Text} {others : List Text} (nonempty : segment ≠ []) :
    pathOf (segment :: others) ≠ [] := by
  cases others with
  | nil => rwa [pathOf, List.intercalate_singleton]
  | cons second others =>
      rw [pathOf_cons_cons]
      exact List.append_ne_nil_of_left_ne_nil nonempty _

theorem not_underProtected_singleton {segment : Text} (isSegment : Segment segment) :
    ¬ UnderProtected [segment] := by
  rintro ⟨start, among, starts⟩
  obtain ⟨⟨front, ends⟩, -⟩ := shape_of_prefix among
  have slash : '/' ∈ pathOf (normalForm [segment]) := starts.subset (by simp [ends])
  have none : '/' ∉ segment := fun inSegment =>
    absurd (isSegment.2 '/' inSegment) (by decide)
  rw [normalForm, List.foldl_cons, List.foldl_nil, resolve] at slash
  split at slash
  next => exact absurd slash (by decide)
  next =>
    split at slash
    next => exact absurd slash (by decide)
    next =>
      rw [List.reverse_singleton, pathOf, List.intercalate_singleton] at slash
      exact none slash

theorem exists_split (each : ∀ segment ∈ segments, Segment segment)
    (under : UnderProtected segments) :
    ∃ first rest, Split (pathOf segments) first rest := by
  cases segments with
  | nil =>
      obtain ⟨start, among, starts⟩ := under
      obtain ⟨⟨front, ends⟩, -⟩ := shape_of_prefix among
      rw [ends] at starts
      exact absurd (List.prefix_nil.mp starts)
        (List.append_ne_nil_of_right_ne_nil _ (List.cons_ne_nil _ _))
  | cons segment others =>
      have isSegment := each segment List.mem_cons_self
      cases others with
      | nil => exact absurd under (not_underProtected_singleton isSegment)
      | cons second others =>
          have behind : ∀ other ∈ second :: others, Segment other :=
            fun other inRest => each other (List.mem_cons_of_mem _ inRest)
          exact ⟨segment, pathOf (second :: others), pathOf_cons_cons _ _ _, isSegment,
            pathOf_ne_nil (behind second List.mem_cons_self).1, chars_pathOf behind⟩

end Spelling

section Scan

variable {tables : PatternTables} {sha256Hex : Text → Text} {artifactId text before after : Text}
  {segments : List Text} {signal : TransitionSignal}

theorem span_of_mem (among : signal ∈ scanTransitionSignals tables sha256Hex artifactId text) :
    signal.span = slice text signal.offsetStart signal.offsetEnd := by
  have ofPattern : ∀ {pattern kind source},
      signal ∈ patternSignals sha256Hex artifactId text pattern kind source →
        signal.span = slice text signal.offsetStart signal.offsetEnd := by
    intro pattern kind source inPattern
    obtain ⟨found, -, rfl⟩ := List.mem_map.mp inPattern
    rfl
  have inAll := mem_of_mem_dedupe among
  simp only [allSignals, List.mem_append] at inAll
  obtain (((((inPaths | inPattern) | inPattern) | inPattern) | inPattern) | inPattern)
      | inPattern :=
    inAll
  · obtain ⟨found, -, inFound⟩ := List.mem_flatMap.mp inPaths
    rw [pathSignalsAt] at inFound
    split at inFound
    next => cases inFound
    next =>
      obtain rfl | inRest := List.mem_cons.mp inFound
      · rfl
      · split at inRest
        next =>
          rw [List.mem_singleton.mp inRest]
          rfl
        next => cases inRest
  all_goals exact ofPattern inPattern

theorem reported_of_mentions (mentions : Mentions text before segments after)
    (under : UnderProtected segments) :
    let stop := before.length + (undotted (pathOf segments)).length
    Reported (scanTransitionSignals tables sha256Hex artifactId text) "path_reference" before.length
        stop ∧
      (SpelledOut (pathOf segments) →
        Reported (scanTransitionSignals tables sha256Hex artifactId text) "protected_path_reference"
          before.length stop) := by
  obtain ⟨first, rest, split⟩ := exists_split mentions.segment under
  have signals := @pathSignalsAt_path sha256Hex artifactId text _ _ _ split before.length
  have reported : ∀ signal ∈ pathSignalsAt sha256Hex artifactId text
      (before.length, [[], pathOf segments]),
      Reported (scanTransitionSignals tables sha256Hex artifactId text) signal.signalKind
        signal.offsetStart signal.offsetEnd := by
    intro signal among
    rw [mentions.split] at among ⊢
    exact reported_of_mem (mem_allSignals split mentions.endsOpen mentions.beginsOpen among)
  rw [signals] at reported
  refine ⟨reported _ List.mem_cons_self, fun spelled => ?_⟩
  rw [if_pos (isProtectedPath_of_spelledOut split spelled)] at reported
  exact reported _ (List.mem_cons_of_mem _ List.mem_cons_self)

theorem uncovered_of_mem {evidence : TransitionEvidence}
    (artifact : ⟨artifactId, text⟩ ∈ evidence.rawArtifacts)
    (among : signal ∈ scanTransitionSignals tables sha256Hex artifactId text)
    (kind : signal.signalKind = ("protected_path_reference" : Text))
    (none : ∀ span ∈ evidence.protectedPathReference, ¬ Covers span signal) :
    uncovered signal ∈ scannerCoverageViolations tables sha256Hex evidence := by
  have open_ : signalIsCovered evidence signal = false := by
    have spans : coveringSpans evidence signal.signalKind = evidence.protectedPathReference := by
      rw [kind]
      rfl
    rw [signalIsCovered, spans, List.any_eq_false]
    intro span inSpans covers
    simp only [spanCovers, Bool.and_eq_true, decide_eq_true_eq] at covers
    obtain ⟨⟨⟨id, hash⟩, start⟩, stop⟩ := covers
    exact none span inSpans ⟨id, hash, start, stop⟩
  refine List.mem_append_right _
    (List.mem_map_of_mem (List.mem_filter.mpr ⟨?_, by rw [open_]; rfl⟩))
  exact List.mem_flatMap.mpr ⟨_, artifact, among⟩

end Scan

/-- In every text, a relative path that white space delimits and whose normal form lies under a
protected prefix is reported as a path up to its trailing dots, and as a protected path when it is
spelled with a protected prefix after leading `./`; every reported span is the text between its
offsets; and evidence without a span that covers a reported protected path has a violation. -/
theorem protected_paths_reported (tables : PatternTables) (sha256Hex : Text → Text)
    (artifactId text : Text) :
    (∀ before segments after, Mentions text before segments after → UnderProtected segments →
      let stop := before.length + (undotted (pathOf segments)).length
      Reported (scanTransitionSignals tables sha256Hex artifactId text) "path_reference"
          before.length stop ∧
        (SpelledOut (pathOf segments) →
          Reported (scanTransitionSignals tables sha256Hex artifactId text)
            "protected_path_reference" before.length stop)) ∧
    (∀ signal ∈ scanTransitionSignals tables sha256Hex artifactId text,
      signal.span = slice text signal.offsetStart signal.offsetEnd) ∧
    ∀ evidence : TransitionEvidence, ⟨artifactId, text⟩ ∈ evidence.rawArtifacts →
      ∀ signal ∈ scanTransitionSignals tables sha256Hex artifactId text,
        signal.signalKind = ("protected_path_reference" : Text) →
        (∀ span ∈ evidence.protectedPathReference, ¬ Covers span signal) →
        uncovered signal ∈ scannerCoverageViolations tables sha256Hex evidence :=
  ⟨fun _ _ _ => reported_of_mentions, fun _ => span_of_mem,
    fun _ artifact _ among kind => uncovered_of_mem artifact among kind⟩

instance (segment : Text) : Decidable (Segment segment) :=
  decidable_of_iff (segment ≠ [] ∧ segment.all isSegmentChar = true)
    (and_congr_right fun _ => List.all_eq_true)

/-- At the end of a sentence. -/
theorem protected_paths_reported_sentence :
    Reported (scanTransitionSignals PatternTables.ascii (fun _ => []) "turn-a" "./docs/adr/0001.")
      "protected_path_reference" 0 15 := by
  have reported := (protected_paths_reported PatternTables.ascii (fun _ => []) "turn-a"
    "./docs/adr/0001.").1 [] [".", "docs", "adr", "0001."] []
  have mentions : Mentions "./docs/adr/0001." [] [".", "docs", "adr", "0001."] [] :=
    ⟨by decide, by decide, Or.inl rfl, Or.inl rfl⟩
  have under : UnderProtected [".", "docs", "adr", "0001."] :=
    ⟨"docs/adr/", by decide, by decide⟩
  exact (reported mentions under).2 ⟨1, "docs/adr/", by decide, "0001.", by decide⟩

/-- A path under `migrations/` by another way, and one whose last segment ends in a dot. -/
def otherSpellings : List (List Text) :=
  [["docs", "..", "migrations", "0001.sql"], ["docs", "adr", "0001."]]

/-- A path lies under a protected prefix, and no protected path signal covers it. -/
def Unreported (segments : List Text) : Prop :=
  Mentions (pathOf segments) [] segments [] ∧ UnderProtected segments ∧
    ¬∃ signal ∈ scanTransitionSignals PatternTables.ascii (fun _ => []) "turn-a" (pathOf segments),
      signal.signalKind = ("protected_path_reference" : Text) ∧ signal.offsetStart ≤ 0 ∧
        (pathOf segments).length ≤ signal.offsetEnd

theorem unreported_of_mem {segments : List Text} (among : segments ∈ otherSpellings) :
    Unreported segments := by
  have segment : ∀ segments ∈ otherSpellings, ∀ segment ∈ segments, Segment segment := by
    decide
  have under : ∀ segments ∈ otherSpellings,
      ∃ start ∈ protectedPathPrefixes, start <+: pathOf (normalForm segments) := by
    decide
  have unreported : ∀ segments ∈ otherSpellings,
      ¬∃ signal ∈ scanTransitionSignals PatternTables.ascii (fun _ =>
        []) "turn-a" (pathOf segments),
        signal.signalKind = ("protected_path_reference" : Text) ∧ signal.offsetStart ≤ 0 ∧
          (pathOf segments).length ≤ signal.offsetEnd := by
    decide
  exact ⟨⟨(List.append_nil _).symm, segment segments among, Or.inl rfl, Or.inl rfl⟩,
    under segments among, unreported segments among⟩

theorem other_spellings_unreported :
    Unreported ["docs", "..", "migrations", "0001.sql"] ∧ Unreported ["docs", "adr", "0001."] :=
  ⟨unreported_of_mem List.mem_cons_self,
    unreported_of_mem (List.mem_cons_of_mem _ List.mem_cons_self)⟩

end ProtectedPaths

end SkillCentric
