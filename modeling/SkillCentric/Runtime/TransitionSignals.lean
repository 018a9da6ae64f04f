import SkillCentric.Library.Patterns
import SkillCentric.Runtime.TaskIntake

/-!
# Transition signals

`scan_transition_signals` looks for paths, intents and references in the text of an artifact, and
`scanner_coverage_violations` asks the extracted evidence to cover what it found.  The evidence has
passed its schema.  The digest of a text is a parameter.
-/

namespace SkillCentric

open Slug Pattern

/-- The Unicode tables that patterns read. -/
structure PatternTables extends CharacterTables where
  /-- The lower-case form of one character. -/
  lower : Char → Char
  /-- The class `\d`. -/
  isDecimal : Char → Bool
  /-- White space is no part of a word. -/
  isWord_of_isSpace : ∀ c, isSpace c = true → isWord c = false

namespace PatternTables

/-- A character agrees with a lower-case one where case is ignored. -/
def agrees (tables : PatternTables) (lowered c : Char) : Bool :=
  tables.lower c == lowered || (lowered == 'i' && c == 'ı') || (lowered == 's' && c == 'ſ')

/-- A word in any case. -/
def word (tables : PatternTables) (text : Text) : Pattern := spelled tables.agrees text

/-- `\b`. -/
def edge (tables : PatternTables) : Pattern := here tables.boundary

/-- `\s+`. -/
def gap : Pattern := some1 isSpace

/-- White space between words in any case. -/
def words (tables : PatternTables) (texts : List Text) : Pattern :=
  inOrder ((texts.map tables.word).intersperse gap)

private theorem toNat_of_isWord {c : Char} (isWord : CharacterTables.ascii.isWord c = true) :
    48 ≤ c.toNat ∧ c.toNat ≤ 122 := by
  simp only [CharacterTables.ascii, isWordChar, isLetter, Bool.or_eq_true, Bool.and_eq_true,
    decide_eq_true_eq, Char.le_def, beq_iff_eq] at isWord
  obtain ((⟨low, high⟩ | ⟨low, high⟩) | ⟨low, high⟩) | rfl := isWord
  · exact ⟨le_trans (by decide) low, le_trans high (by decide)⟩
  · exact ⟨le_trans (by decide) low, le_trans high (by decide)⟩
  · exact ⟨le_trans (by decide) low, le_trans high (by decide)⟩
  · decide

private theorem isWord_of_isSpace_ascii (c : Char) (space : isSpace c = true) :
    CharacterTables.ascii.isWord c = false := by
  by_contra isWord
  obtain ⟨low, high⟩ := toNat_of_isWord (Bool.eq_true_of_not_eq_false isWord)
  simp only [isSpace, Bool.or_eq_true, Bool.and_eq_true, decide_eq_true_eq, beq_iff_eq] at space
  omega

/-- The tables on ASCII text. -/
def ascii : PatternTables where
  toCharacterTables := CharacterTables.ascii
  lower c := if 'A' ≤ c && c ≤ 'Z' then Char.ofNat (c.toNat + 32) else c
  isDecimal c := '0' ≤ c && c ≤ '9'
  isWord_of_isSpace := isWord_of_isSpace_ascii

end PatternTables

/-- A signal. -/
structure TransitionSignal where
  signalKind : Text
  value : Text
  artifactId : Text
  artifactHash : Text
  span : Text
  offsetStart : Nat
  offsetEnd : Nat
  source : Text
  pathKind : Option Text
  deriving DecidableEq

namespace TransitionSignals

/-- A letter of ASCII. -/
def isAsciiLetter (c : Char) : Bool := ('A' ≤ c && c ≤ 'Z') || ('a' ≤ c && c ≤ 'z')

/-- A letter or digit of ASCII. -/
def isAlphanumeric (c : Char) : Bool := isAsciiLetter c || ('0' ≤ c && c ≤ '9')

/-- The class `[A-Za-z0-9_.-]`. -/
def isSegmentChar (c : Char) : Bool := isAlphanumeric c || ("_.-" : Text).contains c

/-- The class `[A-Za-z0-9._~@%+=:,/\\-]`. -/
def isPathChar (c : Char) : Bool := isAlphanumeric c || ("._~@%+=:,/\\-" : Text).contains c

/-- No white space, and none of some characters. -/
def isNoneOf (excluded : Text) (c : Char) : Bool := !isSpace c && !excluded.contains c

/-- `PROTECTED_PATH_PREFIXES`. -/
def protectedPathPrefixes : List Text :=
  [".github/", "docs/adr/", "docs/policies/", "migrations/", "policies/", "schemas/",
    "src/skill_centric_agent_system/composition/", "src/skill_centric_agent_system/runtime/",
    "workers/control-api/"]

/-- The directories that `PATH_PATTERN` names. -/
def namedDirectories : List Text :=
  [".github", "docs", "examples", "migrations", "policies", "schemas", "scripts", "src", "tests",
    "workers"]

/-- A Windows path. -/
def windowsPath : Pattern :=
  inOrder [one isAsciiLetter, one (· == ':'), one (· == '\\'), some1 (isNoneOf "`'\"<>|")]

/-- A URL. -/
def url : Pattern :=
  inOrder [literal "http", optional (literal "s"), literal "://", some1 (isNoneOf "`'\"<>")]

/-- A first segment, and what follows it. -/
def pathFrom (first : Pattern) : Pattern := inOrder [first, one (· == '/'), some1 isPathChar]

/-- The group of `PATH_PATTERN`. -/
def pathGroup : Pattern :=
  firstOf [windowsPath, url, pathFrom (firstOf (namedDirectories.map literal)),
    pathFrom (some1 isSegmentChar)]

/-- `PATH_PATTERN`. -/
def pathPattern (tables : PatternTables) : List Pattern :=
  [here fun before _ => !before.any fun c => tables.isWord c || c == '.' || c == '-', pathGroup]

/-- A pattern with the number of groups before the one that a signal is about. -/
structure SignalPattern where
  groups : List Pattern
  lead : Nat

/-- Words in any case that stand for themselves. -/
def wordSignal (tables : PatternTables) (alternatives : List Pattern) : SignalPattern :=
  ⟨[tables.edge, firstOf alternatives, tables.edge], 1⟩

/-- `WRITE_INTENT_PATTERN`. -/
def writeIntentPattern (tables : PatternTables) : SignalPattern :=
  wordSignal tables <|
    [inOrder [tables.word "apply",
        optional (inOrder [PatternTables.gap, tables.words ["the", "fix"]])]] ++
      (["fix", "patch", "change", "update", "modify", "edit", "add", "create", "write", "implement",
        "commit", "push", "merge"] : List Text).map tables.word ++
      [inOrder [tables.word "open", PatternTables.gap,
          optional (inOrder [tables.word "a", PatternTables.gap]), tables.word "pr"],
        inOrder [tables.word "open", PatternTables.gap,
          optional (inOrder [tables.word "a", PatternTables.gap]),
          tables.words ["pull", "request"]]]

/-- `DESTRUCTIVE_INTENT_PATTERN`. -/
def destructiveIntentPattern (tables : PatternTables) : SignalPattern :=
  wordSignal tables <|
    (["delete", "remove", "drop", "destroy", "wipe", "purge", "overwrite"] : List Text).map
        tables.word ++
      [inOrder [tables.word "force", optional (one fun c => c == '-' || isSpace c),
          tables.word "push"],
        tables.words ["reset", "--hard"], tables.words ["rm", "-rf"]]

/-- `REPOSITORY_REFERENCE_PATTERN`. -/
def repositoryReferencePattern (tables : PatternTables) : SignalPattern :=
  wordSignal tables [tables.words ["this", "repo"], tables.words ["this", "repository"],
    tables.word "repo", tables.word "repository", tables.words ["working", "tree"]]

/-- `PULL_REQUEST_REFERENCE_PATTERN`. -/
def pullRequestReferencePattern (tables : PatternTables) : SignalPattern :=
  wordSignal tables
    [inOrder [tables.word "pr", many isSpace, optional (one (· == '#')), some1 tables.isDecimal],
      inOrder [tables.words ["pull", "request"], PatternTables.gap, optional (one (· == '#')),
        some1 tables.isDecimal]]

/-- A quotation mark or nothing. -/
def optionalQuote : Pattern := optional (one fun c => ("`'\"" : Text).contains c)

/-- `BRANCH_REFERENCE_PATTERN`. -/
def branchReferencePattern (tables : PatternTables) : SignalPattern :=
  ⟨[inOrder [tables.edge, firstOf ((["branch", "head", "base"] : List Text).map tables.word),
      PatternTables.gap, optionalQuote],
    some1 fun c => isAlphanumeric (tables.lower c) || ("._/-ıſ" : Text).contains c,
    optionalQuote], 1⟩

/-- `COMMIT_REFERENCE_PATTERN`. -/
def commitReferencePattern (tables : PatternTables) : SignalPattern :=
  ⟨[inOrder [tables.edge, optional (inOrder [tables.word "commit", PatternTables.gap])],
    run (fun c => ("abcdef0123456789" : Text).contains (tables.lower c)) 7 (some 40),
    tables.edge], 1⟩

/-- `text[start:end]`. -/
def slice (text : Text) (start stop : Nat) : Text := (text.drop start).take (stop - start)

/-- `_signal`. -/
def signal (signalKind value artifactId artifactHash text : Text) (offsetStart offsetEnd : Nat)
    (source : Text) (pathKind : Option Text) : TransitionSignal :=
  ⟨signalKind, value, artifactId, artifactHash, slice text offsetStart offsetEnd, offsetStart,
    offsetEnd, source, pathKind⟩

/-- `_trim_path_token`. -/
def trimPathToken (value : Text) : Text := value.rdropWhile fun c =>
(".,;:)]\x7d'\"`" : Text).contains c

/-- `_looks_like_sentence_fragment`. -/
def looksLikeSentenceFragment (value : Text) : Bool :=
  !occursIn value "://" && !occursIn value "/" && !occursIn value "\\"

/-- `_path_kind`. -/
def pathKind (value : Text) : Text :=
  if value.head?.any isAsciiLetter && startsWith (value.drop 1) ":\\" then "windows_path"
  else if startsWith value "http://" || startsWith value "https://" then "url_path"
  else if startsWith value "/" || startsWith value "./" || startsWith value "../" then "posix_path"
  else "repo_path"

/-- `value.replace("\\", "/")`. -/
def forwardSlashes (value : Text) : Text := value.map fun c => if c = '\\' then '/' else c

/-- A path without its leading `./`. -/
def dropHere : Text → Text
  | '.' :: '/' :: rest => dropHere rest
  | value => value

/-- `_is_protected_path`. -/
def isProtectedPath (value : Text) : Bool :=
  protectedPathPrefixes.any (startsWith (dropHere (forwardSlashes value)))

section Scan

variable (tables : PatternTables) (sha256Hex : Text → Text) (artifactId text : Text)

/-- `_sha256`. -/
def artifactHash : Text := ("sha256:" : Text) ++ sha256Hex text

/-- The signals of one match of `PATH_PATTERN`. -/
def pathSignalsAt (found : Nat × List Text) : List TransitionSignal :=
  let value := trimPathToken found.2.flatten
  let start := found.1
  let stop := start + value.length
  if value.isEmpty || looksLikeSentenceFragment value then []
  else
    signal "path_reference" value artifactId (artifactHash sha256Hex text) text start stop
        "scanner:path" (some (pathKind value)) ::
      (if isProtectedPath value then
        [signal "protected_path_reference" value artifactId (artifactHash sha256Hex text) text start
          stop "scanner:protected_path" (some (pathKind value))]
      else [])

/-- The signals of `PATH_PATTERN`. -/
def pathSignals : List TransitionSignal :=
  (findIter (pathPattern tables) text).flatMap (pathSignalsAt sha256Hex artifactId text)

/-- `_pattern_signals`. -/
def patternSignals (pattern : SignalPattern) (signalKind source : Text) : List TransitionSignal :=
  (findIter pattern.groups text).map fun found =>
    let start := found.1 + (found.2.take pattern.lead).flatten.length
    let span := found.2.getD pattern.lead []
    signal signalKind span artifactId (artifactHash sha256Hex text) text start (start + span.length)
      source none

/-- The signals before duplicates are removed. -/
def allSignals : List TransitionSignal :=
  pathSignals tables sha256Hex artifactId text ++
    patternSignals sha256Hex artifactId text (writeIntentPattern tables) "write_intent"
      "scanner:write_intent" ++
    patternSignals sha256Hex artifactId text (destructiveIntentPattern tables) "destructive_intent"
      "scanner:destructive_intent" ++
    patternSignals sha256Hex artifactId text (repositoryReferencePattern tables)
      "repository_reference" "scanner:repository_reference" ++
    patternSignals sha256Hex artifactId text (pullRequestReferencePattern tables)
      "pull_request_reference" "scanner:repository_reference" ++
    patternSignals sha256Hex artifactId text (branchReferencePattern tables) "branch_reference"
      "scanner:repository_reference" ++
    patternSignals sha256Hex artifactId text (commitReferencePattern tables) "commit_reference"
      "scanner:repository_reference"

end Scan

/-- The key under which duplicates are removed. -/
def keyOf (signal : TransitionSignal) : Text × Text × Nat × Nat :=
  (signal.signalKind, signal.artifactId, signal.offsetStart, signal.offsetEnd)

/-- The order of the signals. -/
def orderOf (signal : TransitionSignal) : Text ×ₗ Nat ×ₗ Text :=
  toLex (signal.artifactId, toLex (signal.offsetStart, signal.signalKind))

/-- `_dedupe_signals`. -/
def dedupeSignals (signals : List TransitionSignal) : List TransitionSignal :=
  let deduped := signals.foldl (fun dict signal => Dict.set dict (keyOf signal) signal) Dict.empty
  deduped.values.insertionSort fun left right => orderOf left ≤ orderOf right

/-- `scan_transition_signals`. -/
def scanTransitionSignals (tables : PatternTables) (sha256Hex : Text → Text) (artifactId text :
Text) : List TransitionSignal := dedupeSignals (allSignals tables sha256Hex artifactId text)

/-- `REQUIRED_SCANNER_IDS`. -/
def requiredScannerIds : List (Text × Text) :=
  [("path", "0.1.0"), ("repository_reference", "0.1.0"), ("write_intent", "0.1.0"),
    ("destructive_intent", "0.1.0"), ("protected_path", "0.1.0"), ("pull_request_reference",
    "0.1.0"), ("branch_reference", "0.1.0"), ("commit_reference", "0.1.0")]

/-- A span of evidence, as far as coverage reads it. -/
structure EvidenceSpan where
  artifactId : Text
  artifactHash : Text
  offsetStart : Int
  offsetEnd : Int

/-- A raw artifact, as far as coverage reads it. -/
structure RawArtifact where
  artifactId : Text
  text : Text

/-- Transition evidence, as far as coverage reads it. -/
structure TransitionEvidence where
  scannerVersions : Dict Text Text
  rawArtifacts : List RawArtifact
  mentionedPaths : List EvidenceSpan
  repositoryBound : List EvidenceSpan
  explicitWriteIntent : List EvidenceSpan
  explicitDestructiveIntent : List EvidenceSpan
  protectedPathReference : List EvidenceSpan

/-- `_span_covers`. -/
def spanCovers (signal : TransitionSignal) (span : EvidenceSpan) : Bool :=
  span.artifactId = signal.artifactId && span.artifactHash = signal.artifactHash &&
    span.offsetStart ≤ signal.offsetStart && signal.offsetEnd ≤ span.offsetEnd

/-- The spans that may cover a signal. -/
def coveringSpans (evidence : TransitionEvidence) (signalKind : Text) : List EvidenceSpan :=
  if signalKind = ("path_reference" : Text) then evidence.mentionedPaths
  else if signalKind = ("protected_path_reference" : Text) then evidence.protectedPathReference
  else if signalKind = ("write_intent" : Text) then evidence.explicitWriteIntent
  else if signalKind = ("destructive_intent" : Text) then evidence.explicitDestructiveIntent
  else if (["repository_reference", "pull_request_reference", "branch_reference",
      "commit_reference"] : List Text).contains signalKind then evidence.repositoryBound
  else []

/-- `_signal_is_covered`. -/
def signalIsCovered (evidence : TransitionEvidence) (signal : TransitionSignal) : Bool :=
  (coveringSpans evidence signal.signalKind).any (spanCovers signal)

/-- `scan_evidence_artifacts`. -/
def scanEvidenceArtifacts (tables : PatternTables) (sha256Hex : Text → Text)
    (evidence : TransitionEvidence) : List TransitionSignal :=
  evidence.rawArtifacts.flatMap fun artifact =>
    scanTransitionSignals tables sha256Hex artifact.artifactId artifact.text

/-- The violation of a signal that is not covered. -/
def uncovered (signal : TransitionSignal) : Text :=
  ("scanner signal not covered by extracted evidence: " : Text) ++ signal.signalKind ++ [' '] ++
    Json.quoteText signal.span ++ (" at " : Text) ++ signal.artifactId ++ [':'] ++
    decimal signal.offsetStart ++ ['-'] ++ decimal signal.offsetEnd

/-- `scanner_coverage_violations`. -/
def scannerCoverageViolations (tables : PatternTables) (sha256Hex : Text → Text)
    (evidence : TransitionEvidence) : List Text :=
  let missing := (requiredScannerIds.map Prod.fst).filter fun scannerId =>
    (evidence.scannerVersions.get? scannerId).isNone
  let outdated := requiredScannerIds.filter fun scanner =>
    (evidence.scannerVersions.get? scanner.1).any (· ≠ scanner.2)
  (missing.insertionSort (· ≤ ·)).map (fun scannerId =>
      ("source.scanner_versions missing required scanner " : Text) ++ scannerId) ++
    outdated.map (fun scanner => ("source.scanner_versions." : Text) ++ scanner.1 ++
      (" must be " : Text) ++ scanner.2) ++
    ((scanEvidenceArtifacts tables sha256Hex evidence).filter fun signal =>
      !signalIsCovered evidence signal).map uncovered

end TransitionSignals

end SkillCentric
