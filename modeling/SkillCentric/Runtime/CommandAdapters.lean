import SkillCentric.Library.Stateful
import SkillCentric.Library.Utf8
import SkillCentric.Runtime.Artifacts
import SkillCentric.Runtime.Coercions
import SkillCentric.Runtime.TenantStatus

/-!
# Command adapters

`GitReadAdapter` and `TestRunnerAdapter`: the checks of an argument list, the process that is run
with it, and the limited texts of its two streams.  The process is a parameter.
-/

namespace SkillCentric

open Slug

/-- What `subprocess.run` answers. -/
structure CompletedProcess where
  returncode : Int
  stdout : Text
  stderr : Text

/-- `isinstance(value, list) and all(isinstance(item, str) for item in value)`. -/
def stringArray : Json → Option (List Text)
  | .arr items => items.mapM fun
      | .str text => some text
      | _ => none
  | _ => none

/-- An argument is a blocked one, with or without a value. -/
def isSpelling (blocked arg : Text) : Bool := arg = blocked || startsWith arg (blocked ++ ['='])

/-- `_reject_blocked_args`. -/
def rejectBlockedArgs (toolName : Text) (args blockedArgs : List Text) : Except PyError Unit :=
  args.forM fun arg =>
    if '\x00' ∈ arg then
      .error ⟨.valueError, toolName ++ (" arguments must not contain NUL bytes." : Text), none⟩
    else
      blockedArgs.forM fun blocked =>
        if isSpelling blocked arg then
          .error ⟨.valueError,
            toolName ++ (" argument is not allowed: " : Text) ++ blocked ++ ("." : Text), none⟩
        else .ok ()

/-- `_limit_text`. -/
def limitText (value : Text) (maxBytes : Nat) : Text × Bool :=
  let encoded := encodeUtf8 value
  if encoded.length ≤ maxBytes then (value, false) else (Utf8.decode (encoded.take maxBytes), true)

/-- The answer of an adapter about a process: the fields before the ones of the process, and the
limited streams. -/
def commandResult (fields : JsonObject) (completed : CompletedProcess) (maxOutputBytes : Nat) :
    JsonObject :=
  let stdout := limitText completed.stdout maxOutputBytes
  let stderr := limitText completed.stderr maxOutputBytes
  fields ++ ([
    ("returncode", .int completed.returncode),
    ("stdout", .str stdout.1),
    ("stderr", .str stderr.1),
    ("stdout_truncated", .bool stdout.2),
    ("stderr_truncated", .bool stderr.2)] : JsonObject)

namespace GitReadAdapter

/-- `ALLOWED_SUBCOMMANDS`, sorted. -/
def allowedSubcommands : List Text := ["diff", "log", "show", "status"]

/-- `BLOCKED_ARGS`. -/
def blockedArgs : List Text := ["-c", "--config-env", "--exec-path", "--git-dir", "--work-tree"]

/-- `MAX_OUTPUT_BYTES`. -/
def maxOutputBytes : Nat := 50000

/-- The checked arguments. -/
def arguments (payload : JsonObject) : Except PyError (List Text) :=
  match stringArray ((Json.obj payload).item "args") with
  | none => .error ⟨.valueError, "git-read requires args as a string array.", none⟩
  | some args =>
      if args.head?.any allowedSubcommands.contains then do
        rejectBlockedArgs "git-read" args blockedArgs
        return args
      else
        .error ⟨.valueError, ("git-read subcommand must be one of: " : Text) ++
          Json.join allowedSubcommands ++ ("." : Text), none⟩

/-- `invoke`. -/
def invoke (run : List Text → Except PyError CompletedProcess) (payload : JsonObject) :
    Except PyError JsonObject := do
  let args ← arguments payload
  let completed ← run ("git" :: args)
  return commandResult [("args", .arr (args.map Json.str))] completed maxOutputBytes

end GitReadAdapter

namespace TestRunnerAdapter

/-- `BLOCKED_ARGS`. -/
def blockedArgs : List Text := ["--override-ini", "--basetemp"]

/-- `MAX_OUTPUT_BYTES`. -/
def maxOutputBytes : Nat := 80000

/-- The command before the arguments. -/
def command : List Text := ["python", "-m", "pytest"]

/-- The checked arguments. -/
def arguments (payload : JsonObject) : Except PyError (List Text) :=
  match stringArray ((Json.obj payload).item "pytest_args" (.arr [])) with
  | none => .error ⟨.valueError, "test-runner requires pytest_args as a string array.", none⟩
  | some args => do
      rejectBlockedArgs "test-runner" args blockedArgs
      return args

/-- `invoke`. -/
def invoke (run : List Text → Except PyError CompletedProcess) (payload : JsonObject) :
    Except PyError JsonObject := do
  let args ← arguments payload
  let completed ← run (command ++ args)
  return commandResult [("command", .arr ((command ++ args).map Json.str))] completed maxOutputBytes

end TestRunnerAdapter

theorem rejectBlockedArgs_ok {toolName : Text} {args blockedArgs : List Text} {value : Unit} :
    rejectBlockedArgs toolName args blockedArgs = .ok value ↔
      ∀ arg ∈ args, '\x00' ∉ arg ∧ ∀ blocked ∈ blockedArgs, isSpelling blocked arg = false := by
  unfold rejectBlockedArgs
  rw [Stateful.forM_eq_ok]
  refine forall₂_congr fun arg _ => ?_
  by_cases nul : '\x00' ∈ arg
  · simp [nul]
  · rw [if_neg nul, Stateful.forM_eq_ok]
    refine ⟨fun checked => ⟨nul, fun blocked listed => ?_⟩, fun ⟨_, clear⟩ blocked listed => ?_⟩
    · by_contra spelled
      have refused := checked blocked listed
      rw [if_pos (Bool.of_not_eq_false spelled)] at refused
      cases refused
    · rw [if_neg (by simp [clear blocked listed])]

/-- The list that `test-runner` accepts is the one of the payload, without a spelling of a blocked
argument. -/
theorem TestRunnerAdapter.arguments_ok {payload : JsonObject} {args : List Text} :
    arguments payload = .ok args ↔
      stringArray ((Json.obj payload).item "pytest_args" (.arr [])) = some args ∧
        ∀ arg ∈ args, '\x00' ∉ arg ∧ ∀ blocked ∈ blockedArgs, isSpelling blocked arg = false := by
  unfold arguments
  cases stringArray ((Json.obj payload).item "pytest_args" (.arr [])) with
  | none => simp
  | some listed =>
      simp only [Stateful.bind_eq_ok, rejectBlockedArgs_ok]
      constructor
      · rintro ⟨-, clear, same⟩
        cases same
        exact ⟨rfl, clear⟩
      · rintro ⟨same, clear⟩
        cases same
        exact ⟨⟨⟩, clear, rfl⟩

end SkillCentric
