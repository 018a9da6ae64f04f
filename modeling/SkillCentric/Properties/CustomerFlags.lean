import SkillCentric.Crm.CustomerSaves
import SkillCentric.Library.Stateful

/-!
# The flags of a saved customer

`normalize_bool` gives the texts `true` and `false`, and both are true in Python.
-/

namespace SkillCentric.Crm.CustomerSaves

open SkillCentric Slug

section Payload

variable {μ : Type} {host : Host} {context : UserContext} {data : Form} {customerId : Option Text}
  {payload : Payload}

theorem truthy_flagText (locale : Locale) (data : Form) (key : Text) :
    truthy (flagText locale data key) = true := by
  unfold flagText boolText
  split <;> rfl

theorem castBoolean_flagText (locale : Locale) (data : Form) (key : Text) :
    castBoolean (flagText locale data key) = data.flag locale key noneText := by
  unfold flagText boolText
  cases data.flag locale key noneText <;> rfl

theorem exists_payloadOf
    (prepared : savePayload host context data customerId =
      (.ok payload : Except (SaveError μ) Payload)) :
    ∃ customerNumber caseNumber caratOrderNumber, payload =
      payloadOf host context data customerId customerNumber caseNumber caratOrderNumber := by
  unfold savePayload at prepared
  split at prepared
  · cases prepared
  · obtain ⟨customerNumber, -, prepared⟩ := Stateful.bind_eq_ok.mp prepared
    obtain ⟨caseNumber, -, prepared⟩ := Stateful.bind_eq_ok.mp prepared
    obtain ⟨caratOrderNumber, -, prepared⟩ := Stateful.bind_eq_ok.mp prepared
    exact ⟨customerNumber, caseNumber, caratOrderNumber, (Except.ok.inj prepared).symm⟩

end Payload

section Written

variable {host : Host} {db : Tables} {payload : Payload}

theorem customerRow_eq_some {base row : CustomerRow}
    (written : customerRow host payload base = some row) :
    row.id = base.id ∧ row.isActive = base.isActive ∧
      row.hasCustomVat = castBoolean payload.hasCustomVat ∧
      row.primaryPhoneNormalized = nullIfEmpty payload.primaryPhoneNormalized ∧
      row.primaryMobileNormalized = nullIfEmpty payload.primaryMobileNormalized := by
  unfold customerRow at written
  obtain ⟨rate, -, written⟩ := Option.bind_eq_some_iff.mp written
  obtain ⟨owner, -, written⟩ := Option.bind_eq_some_iff.mp written
  obtain rfl := Option.some.inj written
  exact ⟨rfl, rfl, rfl, rfl, rfl⟩

theorem writtenRow_eq_some {row : CustomerRow}
    (written : writtenRow host db payload = some (some row)) :
    row.hasCustomVat = castBoolean payload.hasCustomVat ∧
      (payload.customerId = [] → row.id = db.customers.nextKey) := by
  unfold writtenRow at written
  split at written
  · obtain ⟨row', made, same⟩ := Option.map_eq_some_iff.mp written
    obtain rfl := Option.some.inj same
    have columns := customerRow_eq_some made
    exact ⟨columns.2.2.1, fun _ => columns.1⟩
  · rename_i given
    obtain ⟨id, -, written⟩ := Option.bind_eq_some_iff.mp written
    split at written
    · cases written
    · obtain ⟨row', made, same⟩ := Option.map_eq_some_iff.mp written
      obtain rfl := Option.some.inj same
      refine ⟨(customerRow_eq_some made).2.2.1, fun empty => ?_⟩
      rw [empty] at given
      exact absurd rfl given

variable {after : Tables} {saved : Saved}

theorem statementParts_eq_some {row : Option CustomerRow}
    (done : statementParts host db payload = some (row, after, saved)) :
    writtenRow host db payload = some row ∧
      after.customers = (row.map (customersAfter db payload)).getD db.customers ∧
      saved.customerId = row.map CustomerRow.id := by
  unfold statementParts at done
  obtain ⟨written, found, done⟩ := Option.bind_eq_some_iff.mp done
  split at done
  · cases done
  · obtain ⟨addresses, -, done⟩ := Option.bind_eq_some_iff.mp done
    obtain ⟨contacts, -, done⟩ := Option.bind_eq_some_iff.mp done
    obtain ⟨case, -, done⟩ := Option.bind_eq_some_iff.mp done
    obtain ⟨rfl, rfl, rfl⟩ := Option.some.inj done
    exact ⟨found, rfl, rfl⟩

theorem saveStatement_eq_some :
    saveStatement host db payload = some (after, saved) ↔
      ∃ row, statementParts host db payload = some (row, after, saved) ∧
        row.all (numbersFree db) = true := by
  unfold saveStatement
  constructor
  · intro done
    obtain ⟨⟨row, other, answer⟩, parts, done⟩ := Option.bind_eq_some_iff.mp done
    dsimp only at done
    split at done
    · rename_i free
      obtain ⟨rfl, rfl⟩ := Option.some.inj done
      exact ⟨row, parts, free⟩
    · cases done
  · rintro ⟨row, parts, free⟩
    rw [parts]
    exact if_pos free

theorem savePayloadTo_eq_ok {allow : Text} {isUpdate : Bool}
    (done : savePayloadTo host db payload allow isUpdate = (after, .ok saved)) :
    saveStatement host db payload = some (after, saved) := by
  unfold savePayloadTo at done
  split at done
  · cases done
  split at done
  · cases done
  split at done
  · cases done
  dsimp only at done
  split at done
  · cases done
  split at done
  · cases done
  rename_i ran
  split at done
  · cases done
    exact ran
  · cases done

theorem eq_of_mem_customersAfter {row other : CustomerRow}
    (written : writtenRow host db payload = some (some row))
    (member : other ∈ customersAfter db payload row) (same : other.id = row.id) : other = row := by
  unfold customersAfter at member
  split at member
  · rename_i empty
    have id := (writtenRow_eq_some written).2 (List.isEmpty_iff.mp empty)
    rcases Table.mem_insertAll_singleton.mp member with old | rfl
    · have below := Table.key_lt_nextKey old
      change other.id < _ at below
      omega
    · rw [← id]
  · obtain ⟨old, -, rfl⟩ := Table.mem_update.mp member
    split at same
    · rename_i equal
      rw [if_pos equal, equal]
    · rename_i differs
      exact absurd same differs

end Written

/-- The form fields that `normalize_bool` reads. -/
def flagKeys : List Text := ["create_case", "allow_duplicate_email", "has_custom_vat"]

/-- A flag has in Python the truth value that it has in SQL. -/
def FlagAgrees (locale : Locale) (data : Form) (key : Text) : Prop :=
  truthy (flagText locale data key) = castBoolean (flagText locale data key)

theorem flagAgrees_iff (locale : Locale) (data : Form) (key : Text) :
    FlagAgrees locale data key ↔ data.flag locale key noneText = true := by
  rw [FlagAgrees, truthy_flagText, castBoolean_flagText, eq_comm]

section Save

variable (host : Host) (db : Tables) (context : UserContext) (data : Form)
  (customerId : Option Text)

/-- A customer stored without custom VAT carries no rate and no label. -/
def VatConsistent : Prop :=
  ∀ after saved, saveCustomer host db context data customerId = (after, .ok saved) →
    ∀ row ∈ after.customers, saved.customerId = some row.id → row.hasCustomVat = false →
      row.customVatRate = none ∧ row.customVatRateLabel = none

/-- A new customer with the email of an active customer is rejected unless that is allowed. -/
def EmailGuarded : Prop :=
  let email := host.locale.lower (data.stripped "primary_email")
  customerId.any truthy = false → truthy email = true →
    (∃ row ∈ db.customers, row.isActive = true ∧
      host.locale.sqlLower (row.primaryEmail.getD []) = host.locale.sqlLower email) →
    data.flag host.locale "allow_duplicate_email" noneText = true ∨
      ∃ error, (saveCustomer host db context data customerId).2 = .error error

/-- A case number is drawn only for a case that the statement creates. -/
def CaseNumberUsed : Prop :=
  ∀ payload, savePayload host context data customerId =
      (.ok payload : Except (SaveError DuplicateMatch) Payload) →
    payload.caseNumber ≠ [] → castBoolean payload.createCase = true

variable {host db context data customerId}

theorem vatConsistent_of_flag (set : data.flag host.locale "has_custom_vat" noneText = true) :
    VatConsistent host db context data customerId := by
  intro after saved done row member stored without
  unfold saveCustomer at done
  split at done
  · cases done
  rename_i payload prepared
  obtain ⟨customerNumber, caseNumber, caratOrderNumber, rfl⟩ := exists_payloadOf prepared
  obtain ⟨written, parts, -⟩ := saveStatement_eq_some.mp (savePayloadTo_eq_ok done)
  obtain ⟨found, customers, id⟩ := statementParts_eq_some parts
  rw [id] at stored
  cases written with
  | none => cases stored
  | some target =>
      rw [customers] at member
      have same : row = target :=
        eq_of_mem_customersAfter found member (Option.some.inj stored).symm
      have flag : row.hasCustomVat = true := by
        rw [same, (writtenRow_eq_some found).1]
        exact (castBoolean_flagText host.locale data "has_custom_vat").trans set
      rw [flag] at without
      cases without

theorem caseNumberUsed_of_flag (set : data.flag host.locale "create_case" noneText = true) :
    CaseNumberUsed host context data customerId := by
  intro payload prepared _
  obtain ⟨customerNumber, caseNumber, caratOrderNumber, rfl⟩ := exists_payloadOf prepared
  exact (castBoolean_flagText host.locale data "create_case").trans set

end Save

/-- The flags of a form mean the same in Python and in SQL, with what follows from it for custom
VAT, duplicate emails and case numbers, if and only if all of them are set. -/
theorem formFlags_agree_iff (host : Host) (db : Tables) (context : UserContext) (data : Form)
    (customerId : Option Text) :
    ((∀ key ∈ flagKeys, FlagAgrees host.locale data key) ∧
      VatConsistent host db context data customerId ∧
      EmailGuarded host db context data customerId ∧ CaseNumberUsed host context data customerId) ↔
      ∀ key ∈ flagKeys, data.flag host.locale key noneText = true := by
  constructor
  · rintro ⟨agree, -⟩ key member
    exact (flagAgrees_iff host.locale data key).mp (agree key member)
  · intro set
    refine ⟨fun key member => (flagAgrees_iff host.locale data key).mpr (set key member),
      vatConsistent_of_flag (set _ (by decide)), fun _ _ _ => .inl (set _ (by decide)),
      caseNumberUsed_of_flag (set _ (by decide))⟩

/-- A host for ASCII texts. -/
def asciiHost : Host where
  locale := .ascii
  digits := .onAscii
  integer text := if text.all Char.isDigit then some (Nat.ofDigitChars 10 text 0 : Nat) else none
  vatRate text := if text.all Char.isDigit then some (Nat.ofDigitChars 10 text 0 : Nat) else none
  sortKey := List.map Char.toNat
  uniqueNumber front := some (front ++ ("1A2B3C4D" : Text))

/-- The user who saves. -/
def seller : UserContext where
  primaryUserId := 7
  isAdmin := false
  scopeUserIds := [7]

def plainForm : Form :=
  [("last_name", "Muster"), ("primary_email", "muster@example.org"), ("has_custom_vat", "false"),
    ("custom_vat_rate", "7"), ("custom_vat_rate_label", "reduced"), ("create_case", "false"),
    ("allow_duplicate_email", "false")]

/-- An active customer with the email of the form. -/
def emailOwner : CustomerRow where
  id := 1
  customerNumber := some "PRV-000000"
  customerType := "private"
  salutation := none
  title := none
  firstName := none
  lastName := some "Beispiel"
  companyName := none
  vatId := none
  taxNumber := none
  legalForm := none
  registryCourt := none
  registryNumber := none
  objectCustomerLabel := none
  displayName := "Beispiel"
  primaryEmail := some "muster@example.org"
  primaryPhone := none
  primaryPhoneNormalized := none
  primaryMobile := none
  primaryMobileNormalized := none
  preferredContactChannel := "email"
  country := "DE"
  taxTreatment := some "standard_de"
  taxTreatmentNote := none
  hasCustomVat := false
  customVatRate := none
  customVatRateLabel := none
  notes := none
  ownerUserId := some 7
  createdByUserId := some 7
  isActive := true

def oneCustomer : Tables where
  customers := ⟨[emailOwner], by decide⟩
  addresses := .empty
  contacts := .empty
  cases := .empty
  events := .empty
  userIds := [7]

/-- The customer is stored next to one with the same email, without custom VAT but with its rate and
label, and the case number that is drawn goes to no case. -/
theorem unset_flags_ignored :
    let result := saveCustomer asciiHost oneCustomer seller plainForm none
    (result.2.toOption.bind Saved.customerId = some 2 ∧
      (result.1.customers.rows.map fun row =>
        (row.hasCustomVat, row.customVatRate, row.customVatRateLabel)) =
        [(false, none, none), (false, some 7, some ("reduced" : Text))] ∧
      result.1.cases.rows = [] ∧
      (savePayload asciiHost seller plainForm none :
        Except (SaveError DuplicateMatch) Payload).toOption.map Payload.caseNumber =
          some "V-1A2B3C4D") := by
  decide

end SkillCentric.Crm.CustomerSaves
