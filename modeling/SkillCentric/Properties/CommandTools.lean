import SkillCentric.Runtime.CommandAdapters

/-!
# Command tools

What the accepted argument lists mean to the programs that read them.  Git and pytest are not part
of the repository: how they read a list of arguments is a parameter, and what the proofs use of it
is stated by `GitManual` and `PytestManual`.
-/

namespace SkillCentric

namespace CommandTools

open Slug

/-- What a run of git does beyond reading the repository. -/
inductive GitEffect where
  | writesFile
  | runsProgram
  | readsOutside

/-- How git reads the arguments of a run. -/
structure GitReading where
  /-- The options before the subcommand, `-c`, `-C`, `--git-dir` and the like. -/
  globals : List Text
  subcommand : Text
  /-- The options after it that are in force once all arguments are read, by their full names. -/
  options : List Text
  /-- `--no-index` is in force, given or implied by a path outside the working tree. -/
  noIndex : Bool

/-- The effects of a run: `--output`, `--ext-diff` and `--textconv` are options of `diff`, `log` and
`show`, and `--no-index` is one of `diff`.  Nothing is known of a run with options before its
subcommand, or of another subcommand. -/
inductive GitReading.Does (reading : GitReading) : GitEffect → Prop
  | global {effect : GitEffect} (given : reading.globals ≠ []) : reading.Does effect
  | other {effect : GitEffect}
      (unknown : reading.subcommand ∉ GitReadAdapter.allowedSubcommands) : reading.Does effect
  | output {option : Text} (shows : reading.subcommand ≠ "status") (read : option ∈ reading.options)
      (spelled : isSpelling "--output" option = true) : reading.Does .writesFile
  | program {option : Text} (shows : reading.subcommand ≠ "status")
      (read : option ∈ reading.options)
        (spelled : option ∈ (["--ext-diff", "--textconv"] : List Text)) :
      reading.Does .runsProgram
  | outside (compares : reading.subcommand = "diff") (unindexed : reading.noIndex = true) :
      reading.Does .readsOutside

/-- `git [options] <subcommand> [arguments]`: a list that starts with a subcommand has no options
before it. -/
structure GitManual (git : List Text → GitReading) : Prop where
  no_globals : ∀ subcommand ∈ GitReadAdapter.allowedSubcommands, ∀ arguments,
    (git (subcommand :: arguments)).globals = []
  first : ∀ subcommand ∈ GitReadAdapter.allowedSubcommands, ∀ arguments,
    (git (subcommand :: arguments)).subcommand = subcommand

/-- No option in force writes a file, runs a program or compares outside the repository. -/
structure GitReading.ReadOnly (reading : GitReading) : Prop where
  options : reading.subcommand ≠ "status" → ∀ option ∈ reading.options,
    isSpelling "--output" option = false ∧ option ∉ (["--ext-diff", "--textconv"] : List Text)
  index : reading.subcommand = "diff" → reading.noIndex = false

/-- An accepted list starts with one of the four subcommands. -/
theorem gitArguments_ok {payload : JsonObject} {args : List Text}
    (accepted : GitReadAdapter.arguments payload = .ok args) :
    ∃ subcommand ∈ GitReadAdapter.allowedSubcommands, ∃ rest, args = subcommand :: rest := by
  unfold GitReadAdapter.arguments at accepted
  cases given : stringArray ((Json.obj payload).item "args") with
  | none =>
      rw [given] at accepted
      cases accepted
  | some listed =>
      rw [given] at accepted
      simp only at accepted
      split_ifs at accepted with allowed
      obtain ⟨_, -, same⟩ := Stateful.bind_eq_ok.mp accepted
      cases same
      cases args with
      | nil => cases allowed
      | cons subcommand rest =>
          exact ⟨subcommand, List.contains_iff_mem.mp allowed, rest, rfl⟩

/-- A run of one of the four subcommands without options before it has no effect exactly when the
options in force are harmless. -/
theorem does_nothing_iff {reading : GitReading} (no_globals : reading.globals = [])
    (known : reading.subcommand ∈ GitReadAdapter.allowedSubcommands) :
    (∀ effect, ¬reading.Does effect) ↔ reading.ReadOnly := by
  constructor
  · intro harmless
    refine ⟨fun shows option read => ⟨?_, fun spelled => ?_⟩, fun compares => ?_⟩
    · exact Bool.of_not_eq_true fun spelled => harmless _ (.output shows read spelled)
    · exact harmless _ (.program shows read spelled)
    · exact Bool.of_not_eq_true fun unindexed => harmless _ (.outside compares unindexed)
  · intro readOnly effect done
    cases done with
    | global given => exact given no_globals
    | other unknown => exact unknown known
    | output shows read spelled =>
        exact Bool.false_ne_true ((readOnly.options shows _ read).1.symm.trans spelled)
    | program shows read spelled => exact (readOnly.options shows _ read).2 spelled
    | outside compares unindexed =>
        exact Bool.false_ne_true ((readOnly.index compares).symm.trans unindexed)

/-- An argument, or a line of an argument file, that pytest reads as options, and the names of the
options that it gives.  A cluster of short options gives several. -/
structure OptionString where
  text : Text
  names : List Text
  deriving DecidableEq

/-- The other names of an option. -/
def shortNames (option : Text) : List Text :=
  if option = ("--override-ini" : Text) then ["-o"] else []

/-- A list of arguments sets an option, under one of its names. -/
def SetsOption (pytest : List Text → List OptionString) (args : List Text) (option : Text) : Prop :=
  ∃ string ∈ pytest args, ∃ name ∈ string.names, name = option ∨ name ∈ shortNames option

/-- A long name is given in full, its value behind `=` or in the next argument: pytest takes no
abbreviations. -/
def PytestManual (pytest : List Text → List OptionString) : Prop :=
  ∀ args, ∀ string ∈ pytest args, ∀ blocked ∈ TestRunnerAdapter.blockedArgs,
    blocked ∈ string.names ↔ isSpelling blocked string.text = true

/-- No string gives the short name of `--override-ini`, and none that an argument file brought in
spells a blocked option. -/
def OnlyAllowed (pytest : List Text → List OptionString) (args : List Text) : Prop :=
  ∀ string ∈ pytest args, ("-o" : Text) ∉ string.names ∧
    (string.text ∈ args ∨
      ∀ blocked ∈ TestRunnerAdapter.blockedArgs, isSpelling blocked string.text = false)

theorem sets_nothing_iff {pytest : List Text → List OptionString} {payload : JsonObject}
    {args : List Text} (manual : PytestManual pytest)
    (accepted : TestRunnerAdapter.arguments payload = .ok args) :
    (∀ blocked ∈ TestRunnerAdapter.blockedArgs, ¬SetsOption pytest args blocked) ↔
      OnlyAllowed pytest args := by
  obtain ⟨-, clear⟩ := TestRunnerAdapter.arguments_ok.mp accepted
  constructor
  · intro unset string read
    refine ⟨fun short => ?_, .inr fun blocked listed => Bool.of_not_eq_true fun spelled => ?_⟩
    · exact unset "--override-ini" (by decide) ⟨string, read, _, short, .inr (by decide)⟩
    · have named := (manual args string read blocked listed).mpr spelled
      exact unset blocked listed ⟨string, read, blocked, named, .inl rfl⟩
  · rintro allowed blocked listed ⟨string, read, name, named, called⟩
    obtain ⟨no_short, typed⟩ := allowed string read
    rcases called with rfl | short
    · -- the adapter lets no long name through, so an argument file brought it in
      have spelled := (manual args string read name listed).mp named
      rcases typed with typed | unspelled
      · exact Bool.false_ne_true (((clear _ typed).2 name listed).symm.trans spelled)
      · exact Bool.false_ne_true ((unspelled name listed).symm.trans spelled)
    · unfold shortNames at short
      split_ifs at short
      · rw [List.mem_singleton.mp short] at named
        exact no_short named
      · cases short

/-- Git on lists without abbreviations, values that look like options and paths outside. -/
def plainGit (args : List Text) : GitReading where
  globals := []
  subcommand := args.headD []
  options := (args.tail.takeWhile (· ≠ ("--" : Text))).filter (startsWith · "-")
  noIndex := ("--no-index" : Text) ∈ args.tail

theorem plainGit_manual : GitManual plainGit where
  no_globals _ _ _ := rfl
  first _ _ _ := rfl

/-- Pytest on lists without argument files, clusters and other options with values. -/
def plainPytest (args : List Text) : List OptionString :=
  (args.takeWhile (· ≠ ("--" : Text))).map fun text => {
    text
    names := TestRunnerAdapter.blockedArgs.filter (isSpelling · text) ++
      if startsWith text "-o" then ([("-o" : Text)] : List Text) else [] }

theorem plainPytest_manual : PytestManual plainPytest := by
  intro args string read blocked listed
  obtain ⟨text, -, rfl⟩ := List.mem_map.mp read
  have no_short : blocked ∉ (if startsWith text "-o" then [("-o" : Text)] else []) := by
    split_ifs
    · rw [List.mem_singleton]
      rintro rfl
      revert listed
      decide
    · exact List.not_mem_nil
  exact List.mem_append.trans ((or_iff_left no_short).trans
    (List.mem_filter.trans (and_iff_right listed)))

/-- A payload of both adapters. -/
def samplePayload (args pytestArgs : List Text) : JsonObject :=
  [("args", .arr (args.map Json.str)), ("pytest_args", .arr (pytestArgs.map Json.str))]

end CommandTools

end SkillCentric
