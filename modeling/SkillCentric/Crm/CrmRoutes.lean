import SkillCentric.Library.Patterns
import SkillCentric.Library.Routes
import SkillCentric.Runtime.TaskAnalyzer

/-!
# The routes of the CRM

Write requests pass two allowlists of regular expressions, the proxy's by kind and the one of the
mobile actions, and reach the branches of `Handler.handle_request`, which compare
the segments of the path.
-/

namespace SkillCentric.Crm

open SkillCentric Slug

namespace CrmRoutes

inductive ProxyKind where
  | overview
  | admin
  | customers
  deriving DecidableEq, Repr

def ProxyKind.text : ProxyKind → Text
  | overview => "overview"
  | admin => "admin"
  | customers => "customers"

/-- The class `\d`. -/
def isDecimal (c : Char) : Bool := decide ('0' ≤ c) && decide (c ≤ '9')

/-- The class `[a-z0-9_-]` in both cases of the letters. -/
def isCodeChar (c : Char) : Bool :=
  isWordChar c || (decide ('A' ≤ c) && decide (c ≤ 'Z')) || c == '_' || c == '-'

/-- Lower-case letters, digits, underscores, slashes and hyphens. -/
def isCodePathChar (c : Char) : Bool := isWordChar c || c == '_' || c == '/' || c == '-'

/-- What stands between two slashes of an expression. -/
inductive Piece where
  | lit (text : Text)
  /-- A text in lower case under the flag `i`. -/
  | anyCase (text : Text)
  /-- `\d+`. -/
  | digits
  /-- `[a-z0-9_-]+` under the flag `i`. -/
  | code
  /-- A run of `isCodePathChar`. -/
  | codePath
  deriving DecidableEq

def Piece.pattern : Piece → Pattern
  | lit text => Pattern.literal text
  | anyCase text => Pattern.spelled (fun expected c => c.toLower == expected) text
  | digits => Pattern.some1 isDecimal
  | code => Pattern.some1 isCodeChar
  | codePath => Pattern.some1 isCodePathChar

/-- The end of the text. -/
def atEnd : Pattern := .here fun _ next => next.isNone

/-- The groups of `^piece\/piece\/…$`. -/
def regex : List Piece → List Pattern
  | [] => [atEnd]
  | [piece] => [piece.pattern, atEnd]
  | piece :: pieces => piece.pattern :: Pattern.literal "/" :: regex pieces

/-- `regex.test(path)`. -/
def test (pieces : List Piece) (path : Text) : Bool :=
  (Pattern.matchAt (regex pieces) none path).isSome

local instance : Coe String Piece := ⟨fun text => .lit text⟩

/-- `ALLOWED_WRITE_PATHS`. -/
def allowedWritePaths : ProxyKind → List (List Piece)
  | .overview =>
      [["tasks"],
        ["tasks", .digits],
        ["tasks", .digits, "archive"],
        ["tasks", .digits, "delete"],
        ["emails", "assign"],
        ["emails", "suggestions", .digits, "accept"],
        ["emails", .digits, "archive"],
        ["emails", .digits, "delete"]]
  | .admin =>
      [["users"],
        ["users", .digits],
        ["users", .digits, "delete"],
        ["users", .digits, "roles"],
        ["users", .digits, "workdays"],
        ["company-settings"],
        ["integrations"]]
  | .customers =>
      [["cases"],
        ["customers"],
        ["leads"],
        ["leads", .digits, "notes"],
        ["customers", .digits],
        [.anyCase "customers", .digits, .anyCase "sections", .code],
        ["cases", .digits],
        ["cases", .digits, "archive"],
        ["cases", .digits, "restore"],
        ["cases", .digits, "documents"],
        ["cases", .digits, "documents", .digits, "archive"],
        ["cases", .digits, "carat-imports", .digits, "positions"],
        ["cases", .digits, "confirmations"],
        ["confirmations", .digits, "exceptions", .digits, "decide"],
        ["cases", .digits, "notes"],
        [.anyCase "cases", .digits, .anyCase "sections", .code]]

/-- `ACTION_ALLOWLIST`. -/
def actionAllowlist : List (List Piece) :=
  [["overview", "tasks"],
    ["overview", "tasks", .digits],
    ["overview", "tasks", .digits, "archive"],
    ["overview", "tasks", .digits, "delete"],
    ["overview", "emails", "assign"],
    ["overview", "emails", "suggestions", .digits, "accept"],
    ["overview", "emails", .digits, "archive"],
    ["overview", "emails", .digits, "delete"],
    ["customers", "customers"],
    ["customers", "customers", .digits],
    ["customers", "customers", .digits, "sections", .codePath],
    ["customers", "leads"],
    ["customers", "leads", .digits, "notes"],
    ["customers", "cases"],
    ["customers", "cases", .digits],
    ["customers", "cases", .digits, "notes"],
    ["customers", "cases", .digits, "documents"],
    ["customers", "cases", .digits, "carat-imports", .digits, "positions"],
    ["customers", "cases", .digits, "confirmations"],
    ["customers", "cases", .digits, "sections", .codePath],
    ["customers", "confirmations", .digits, "exceptions", .digits, "decide"]]

/-- The test of `proxyRoute` for a write. -/
def allowedForWrite (kind : ProxyKind) (path : Text) : Bool :=
  (allowedWritePaths kind).any fun pieces => test pieces path

/-- `allowedActionPath`. -/
def allowedActionPath (path : Text) : Bool := actionAllowlist.any fun pieces => test pieces path

/-- The functions that `handle_request` calls for a `POST`. -/
inductive Handler where
  | mobileAppleSession
  | upsertUser (known : Bool)
  | saveRoles
  | saveWorkdays
  | saveCompany
  | saveIntegration
  | saveCustomer (known : Bool)
  | saveLead
  | saveLeadNote
  | saveCustomerSection
  | createCustomerCase
  | saveCustomerCase
  | setCustomerCaseArchiveState (archived : Bool)
  | saveCustomerCaseSection
  | saveCustomerCaseNote
  | createCustomerCaseDocumentMetadata
  | archiveCustomerCaseDocument
  | selectCaratImportPositions
  | createSupplierOrderConfirmation
  | decideSupplierConfirmationException
  | createTask
  | updateTask
  | setTaskLifecycle (action : Text)
  | assignEmail
  | decideEmailSuggestion (decision : Text)
  | setEmailLifecycle (action : Text)
  deriving DecidableEq

/-- A branch: the segments it compares, its function and the places of the arguments. -/
structure Branch where
  segments : List (Option Text)
  handler : Handler
  args : List Nat

local instance : Coe String (Option Text) := ⟨fun text => some text⟩

/-- The branches of `handle_request` for a `POST`, in order; `none` is a segment that is not
compared. -/
def postBranches : List Branch :=
  [⟨["mobile", "apple-session"], .mobileAppleSession, []⟩,
    ⟨["admin", "users"], .upsertUser false, []⟩,
    ⟨["admin", "users", none], .upsertUser true, [2]⟩,
    ⟨["admin", "users", none, "roles"], .saveRoles, [2]⟩,
    ⟨["admin", "users", none, "workdays"], .saveWorkdays, [2]⟩,
    ⟨["admin", "company-settings"], .saveCompany, []⟩,
    ⟨["admin", "integrations"], .saveIntegration, []⟩,
    ⟨["customers", "customers"], .saveCustomer false, []⟩,
    ⟨["customers", "leads"], .saveLead, []⟩,
    ⟨["customers", "leads", none, "notes"], .saveLeadNote, [2]⟩,
    ⟨["customers", "customers", none], .saveCustomer true, [2]⟩,
    ⟨["customers", "customers", none, "sections", none], .saveCustomerSection, [2, 4]⟩,
    ⟨["customers", "cases"], .createCustomerCase, []⟩,
    ⟨["customers", "cases", none], .saveCustomerCase, [2]⟩,
    ⟨["customers", "cases", none, "archive"], .setCustomerCaseArchiveState true, [2]⟩,
    ⟨["customers", "cases", none, "restore"], .setCustomerCaseArchiveState false, [2]⟩,
    ⟨["customers", "cases", none, "sections", none], .saveCustomerCaseSection, [2, 4]⟩,
    ⟨["customers", "cases", none, "notes"], .saveCustomerCaseNote, [2]⟩,
    ⟨["customers", "cases", none, "documents"], .createCustomerCaseDocumentMetadata, [2]⟩,
    ⟨["customers", "cases", none, "documents", none, "archive"], .archiveCustomerCaseDocument,
      [2, 4]⟩,
    ⟨["customers", "cases", none, "carat-imports", none, "positions"], .selectCaratImportPositions,
      [2, 4]⟩,
    ⟨["customers", "cases", none, "confirmations"], .createSupplierOrderConfirmation, [2]⟩,
    ⟨["customers", "confirmations", none, "exceptions", none, "decide"],
      .decideSupplierConfirmationException, [2, 4]⟩,
    ⟨["overview", "tasks"], .createTask, []⟩,
    ⟨["overview", "tasks", none], .updateTask, [2]⟩,
    ⟨["overview", "tasks", none, "archive"], .setTaskLifecycle "archive", [2]⟩,
    ⟨["overview", "tasks", none, "delete"], .setTaskLifecycle "delete", [2]⟩,
    ⟨["overview", "emails", "assign"], .assignEmail, []⟩,
    ⟨["overview", "emails", "suggestions", none, "accept"], .decideEmailSuggestion "accepted", [3]⟩,
    ⟨["overview", "emails", none, "archive"], .setEmailLifecycle "archive", [2]⟩,
    ⟨["overview", "emails", none, "delete"], .setEmailLifecycle "delete", [2]⟩]

/-- `[part for part in path.split("/") if part]`. -/
def partsOf (path : Text) : List Text := (path.splitOn '/').filter fun part => !part.isEmpty

/-- The function that a `POST` of a path is dispatched to, with its arguments from the path; nothing
is `not_found`. -/
def dispatch (path : Text) : Option (Handler × List Text) :=
  let parts := partsOf path
  (postBranches.find? fun branch => Slot.takes branch.segments parts).map fun branch =>
    (branch.handler, branch.args.map fun i => parts.getD i [])

/-- The parameters of a function that come from the path: the name of each stands before it. -/
def Handler.params : Handler → List Text
  | mobileAppleSession | upsertUser false | saveCompany | saveIntegration | saveCustomer false
  | saveLead | createCustomerCase | createTask | assignEmail => []
  | upsertUser true | saveRoles | saveWorkdays => ["users"]
  | saveCustomer true => ["customers"]
  | saveLeadNote => ["leads"]
  | saveCustomerSection => ["customers", "sections"]
  | saveCustomerCase | setCustomerCaseArchiveState _ | saveCustomerCaseNote
  | createCustomerCaseDocumentMetadata | createSupplierOrderConfirmation => ["cases"]
  | saveCustomerCaseSection => ["cases", "sections"]
  | archiveCustomerCaseDocument => ["cases", "documents"]
  | selectCaratImportPositions => ["cases", "carat-imports"]
  | decideSupplierConfirmationException => ["confirmations", "exceptions"]
  | updateTask | setTaskLifecycle _ => ["tasks"]
  | decideEmailSuggestion _ => ["suggestions"]
  | setEmailLifecycle _ => ["emails"]

end CrmRoutes

end SkillCentric.Crm
