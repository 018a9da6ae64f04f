import SkillCentric.Control.TenantAdmin
import SkillCentric.Library.Journal
import SkillCentric.Library.Runs

/-!
# Runs of the control API

A run is a list of events: a request arrives, a queued message is delivered (any number of times
until it is acknowledged), one request performs its next statement, one dies, or the surroundings
move the clock and take the bindings down or up again.  Every request is a thread of one pool, so a
run is an arbitrary interleaving of the statements of its requests.
-/

namespace SkillCentric.Control

open SkillCentric

/-- What a thread serves. -/
inductive Request where
  | knowledgeIngest (body : KnowledgeIngestRequest)
  | memoryIngest (body : MemoryIngestRequest)
  | tenantAdmin (tenantId : Id) (hostname : Text) (request : TenantAdminRequest)
  | delivery (number : Nat) (message : EmbeddingIndexMessage)

/-- What a thread ends with. -/
inductive Outcome where
  | responded (response : Response)
  | processed (outcome : EmbeddingOutcome)
  deriving DecidableEq

/-- The request was accepted. -/
def Outcome.accepted : Outcome → Bool
  | .responded response => response.accepted
  | .processed _ => true

/-- The program that serves a request. -/
def Request.program (env : Env) : Request → Worker Outcome
  | .knowledgeIngest body => do return .responded (← handleKnowledgeIngest env body)
  | .memoryIngest body => do return .responded (← handleMemoryIngest env body)
  | .tenantAdmin tenantId hostname request => do
      return .responded (← handleTenantAdminContext env tenantId hostname request)
  | .delivery number message => do return .processed (← deliver env number message)

/-- The control plane with the statements carried out so far. -/
abbrev World := Journaled Op ControlPlane

/-- Perform a statement for a thread and write it down when it went through. -/
def execTagged : (op : Nat × Op) → World → TaggedReply Op.Reply op × World :=
  journaled exec fun _ reply => reply.isOk

/-- A thread of the control API: its number and what it serves. -/
abbrev Serving := Thread (TaggedReply Op.Reply) World (Nat × Request) Text Outcome

abbrev System := Pool (TaggedReply Op.Reply) World (Nat × Request) Text Outcome

namespace System

/-- The control plane of a system. -/
abbrev plane (system : System) : ControlPlane := system.state.state

/-- The statements carried out so far. -/
abbrev journal (system : System) : List (Nat × Op) := system.state.journal

/-- A control plane on which no request has arrived yet. -/
def initial (plane : ControlPlane) : System := ⟨⟨plane, []⟩, []⟩

/-- Start a thread for a request. -/
def receive (env : Env) (system : System) (request : Request) : System :=
  system.spawn (system.threads.length, request)
    ((request.program env).tag system.threads.length)

/-- The request a thread serves. -/
def requestOf (system : System) (index : Nat) : Option Request :=
  system.threads[index]?.map (·.info.2)

end System

/-- Events of a run. -/
inductive Event where
  | receive (request : Request)
  | deliver (number : Nat)
  | step (index : Nat)
  | crash (index : Nat)
  | surroundings (clock : Datetime) (fault : Option Text)

/-- A request that reaches the API from outside; deliveries are started by the queue. -/
def Request.external : Request → Bool
  | .delivery _ _ => false
  | _ => true

namespace System

/-- One event. -/
def step (env : Env) (system : System) : Event → System
  | .receive request => if request.external then receive env system request else system
  | .deliver number =>
      match system.plane.ingestQueue.find? fun entry => entry.1 = number with
      | some (_, message) => receive env system (.delivery number message)
      | none => system
  | .step index => Pool.step execTagged system index
  | .crash index => Pool.crash system index (.error "crashed".toList)
  | .surroundings clock fault =>
      { system with state := { system.state with state := { system.plane with clock, fault } } }

/-- The system after a run. -/
def run (env : Env) (system : System) (events : List Event) : System :=
  events.foldl (step env) system

/-- What a thread has ended with, unless it raised an error or is still running. -/
def outcomeOf (system : System) (index : Nat) : Option Outcome :=
  match system.threads[index]? with
  | some ⟨_, _, .done (.ok outcome)⟩ => some outcome
  | _ => none

/-- The thread's request was accepted. -/
def accepted (system : System) (index : Nat) : Bool :=
  (system.outcomeOf index).any Outcome.accepted

/-- The statement a thread performs next. -/
def nextOp (system : System) (index : Nat) : Option Op :=
  (system.threads[index]?.bind Thread.nextOp).map Prod.snd

end System

namespace Sample

/-- Nine o'clock on 1 July 2026, UTC. -/
def nine : Datetime := 63918493200000000

/-- Digests of the texts the sample requests hash. -/
def digests : List (Text × Text) :=
  [("2026-07-01T09:00:00.000Z",
      "bc4b1093ec9b6ba4cdcbdf2b692a8413918ad7ecfb7c0281afb18ebd298d9019"),
    ("2026-07-01T10:00:00.000Z",
      "0d6f2047b19aba2a5364ebc0445f9e194e51ccd737c44b9ce90f3501c68aa643"),
    ("alpha\n", "b6a98d9ce9a2d9149288fa3df42d377c3e42737afdcdaf714e33c0a100b51060"),
    ("beta\n", "f2c82decdd7181cf98945929a62598db7e6b477e11f6e0eb0ae97020eff151ad")]

/-- SHA-256 on the texts of `digests`. -/
def sha256Hex (text : Text) : Text :=
  match digests.find? fun entry => entry.1 = text with
  | some entry => entry.2
  | none => List.replicate 64 '0'

def env : Env where
  environment := "dev"
  sha256Hex := sha256Hex
  sha256Hex_length := by
    intro text
    unfold sha256Hex
    split
    · rename_i entry found
      have all : ∀ entry ∈ digests, entry.2.length = 64 := by decide
      exact all entry (List.mem_of_find?_eq_some found)
    · simp
  sha256Hex_digits := by
    intro text c member
    unfold sha256Hex at member
    split at member
    · rename_i entry found
      have all : ∀ entry ∈ digests, entry.2.all Slug.isWordChar = true := by decide
      exact List.all_eq_true.mp (all entry (List.mem_of_find?_eq_some found)) c member
    · rw [List.eq_of_mem_replicate member]
      decide

/-- Ten o'clock on the same day. -/
def ten : Datetime := nine + 3600000000

/-- The identifier with a text. -/
def id (text : String)
    (valid : TaskAnalyzer.isId text.toList = true := by exact Eq.refl true) : Id :=
  ⟨text.toList, valid⟩

/-- The version with a text. -/
def version (text : String) (valid : isSemver text.toList = true := by exact Eq.refl true) :
  Semver :=
  ⟨text.toList, valid⟩

/-- A control plane with a knowledge scope and a memory scope. -/
def scopes : ControlPlane where
  clock := nine
  database :=
    { modules :=
        ⟨[⟨"mod-handbook".toList, .knowledgeScope, .active⟩,
          ⟨"mod-notes".toList, .memoryScope, .active⟩], by decide⟩ }

/-- A memory record of the memory scope. -/
def memory (memoryId : Id) (semver : Semver) (note : String) : Request :=
  .memoryIngest
    { id := memoryId
      memoryScopeId := id "mod-notes"
      version := semver
      content := .obj [("note", .str note.toList)]
      sourceRunId := id "run-1"
      sourceProfileId := id "profile-1"
      sensitivity := .internal
      retentionPolicy := id "standard" }

/-- A document of the knowledge scope. -/
def handbook (semver : Semver) (content : String) : Request :=
  .knowledgeIngest
    { source :=
        { id := id "wiki"
          name := "Wiki".toList
          sourceType := .url
          uri := "https://wiki.test".toList
          owner := "ops".toList
          sensitivity := .internal }
      document :=
        { id := id "handbook", version := semver, content := content.toList,
          scopeId := id "mod-handbook" }
      proposal := none }

end Sample

end SkillCentric.Control
