import SkillCentric.Crm.PhoneNumbers
import SkillCentric.Crm.WorkspaceSaves

/-!
# Saving a customer

`save_customer` turns a form into a payload of texts, looks for duplicates with two queries, and
sends the payload with one statement that writes the customer, an address, a contact, a case and an
event.  No text holds a zero character, which `::jsonb` refuses.
-/

namespace SkillCentric.Crm

open SkillCentric Slug

namespace CustomerSaves

/-- What the request handler and the database are built on. -/
structure Host where
  locale : Locale
  digits : DecimalDigits
  /-- `text::bigint` and `text::smallint`. -/
  integer : Text → Option Int
  /-- `text::numeric` in a column `NUMERIC(5, 2)`. -/
  vatRate : Text → Option ℚ
  /-- The sort key of a text in the collation of the database. -/
  sortKey : Text → List Nat
  /-- `generate_unique_number` for a text in front. -/
  uniqueNumber : Text → Option Text

/-- The `ApiError`s of a save. -/
inductive SaveError (μ : Type) where
  | badRequest (message : Text)
  | conflict (message : Text) (found : List μ)
  | notFound (message : Text)
  | database

/-- The text that `normalize_bool` returns. -/
def boolText (value : Bool) : Text := if value then "true" else "false"

/-- The truth value of a text in Python. -/
def truthy (text : Text) : Bool := !text.isEmpty

/-- `text::boolean` of what `normalize_bool` returns. -/
def castBoolean (text : Text) : Bool := decide (text = ("true" : Text))

/-- A row of `app.customers`. -/
structure CustomerRow where
  id : Nat
  customerNumber : Option Text
  customerType : Text
  salutation : Option Text
  title : Option Text
  firstName : Option Text
  lastName : Option Text
  companyName : Option Text
  vatId : Option Text
  taxNumber : Option Text
  legalForm : Option Text
  registryCourt : Option Text
  registryNumber : Option Text
  objectCustomerLabel : Option Text
  displayName : Text
  primaryEmail : Option Text
  primaryPhone : Option Text
  primaryPhoneNormalized : Option Text
  primaryMobile : Option Text
  primaryMobileNormalized : Option Text
  preferredContactChannel : Text
  country : Text
  taxTreatment : Option Text
  taxTreatmentNote : Option Text
  hasCustomVat : Bool
  customVatRate : Option ℚ
  customVatRateLabel : Option Text
  notes : Option Text
  ownerUserId : Option Int
  createdByUserId : Option Int
  isActive : Bool
  deriving DecidableEq

instance : Keyed CustomerRow Nat := ⟨CustomerRow.id⟩

/-- The `CHECK` constraints of `app.customers`; `iso_country_code` is the country. -/
def CustomerRow.checks (locale : Locale) (row : CustomerRow) : Bool :=
  let blank (text : Text) := (btrim text).isEmpty
  row.customerNumber.all (fun number => !blank number) &&
    decide (row.customerType ∈ (["private", "company"] : List Text)) && !blank row.displayName &&
    row.primaryEmail.all (fun email => email == locale.sqlLower email) &&
    decide
      (row.preferredContactChannel ∈ (["email", "phone", "mobile", "post", "none"] : List Text)) &&
    !blank row.country && row.customVatRate.all (fun rate => decide (0 ≤ rate)) &&
    (!row.hasCustomVat || row.customVatRate.isSome) &&
    row.objectCustomerLabel.all (fun label => decide (label ∈ (["architect", "developer", "company",
      "partner", "joinery", "contractor", "other"] : List Text))) &&
    row.taxTreatment.all (fun treatment => decide (treatment ∈ (["standard_de", "eu_business",
      "third_country_export", "switzerland_export", "nato_forces", "custom"] : List Text)))

/-- A row of `app.customer_addresses`. -/
structure AddressRow where
  id : Nat
  customerId : Nat
  addressType : Text
  recipientName : Option Text
  street : Text
  houseNumber : Option Text
  postalCode : Text
  city : Text
  country : Text
  isPrimary : Bool
  deriving DecidableEq

instance : Keyed AddressRow Nat := ⟨AddressRow.id⟩

/-- The `CHECK` constraints of `app.customer_addresses` on what the statement writes. -/
def AddressRow.checks (row : AddressRow) : Bool :=
  !(btrim row.street).isEmpty && !(btrim row.postalCode).isEmpty && !(btrim row.city).isEmpty &&
    !(btrim row.country).isEmpty

/-- A row of `app.customer_contacts`. -/
structure ContactRow where
  id : Nat
  customerId : Nat
  contactType : Text
  firstName : Option Text
  lastName : Option Text
  displayName : Text
  email : Option Text
  phone : Option Text
  phoneNormalized : Option Text
  isPrimary : Bool
  deriving DecidableEq

instance : Keyed ContactRow Nat := ⟨ContactRow.id⟩

/-- The `CHECK` constraints of `app.customer_contacts` on what the statement writes. -/
def ContactRow.checks (locale : Locale) (row : ContactRow) : Bool :=
  !(btrim row.displayName).isEmpty && row.email.all fun email => email == locale.sqlLower email

/-- A row of `app.customer_cases`. -/
structure CaseRow where
  id : Nat
  caseNumber : Option Text
  customerDisplayName : Text
  statusPhase : Option Int
  ownerUserId : Option Int
  customerId : Option Nat
  caseTitle : Option Text
  caseType : Text
  caseStatus : Text
  caratOrderNumber : Option Text
  createdByUserId : Option Int
  responsibleUserId : Option Int
  isActive : Bool
  deriving DecidableEq

instance : Keyed CaseRow Nat := ⟨CaseRow.id⟩

/-- The `CHECK` constraints of `app.customer_cases` on what the statement writes, with the phases
that `status_phase_id` may refer to. -/
def CaseRow.checks (row : CaseRow) : Bool :=
  !(btrim row.customerDisplayName).isEmpty &&
    row.statusPhase.all (fun phase => decide (1 ≤ phase ∧ phase ≤ 11)) &&
    decide (row.caseType ∈ (["kitchen_project", "kitchen_project_b2b", "service", "aftersales",
      "complaint", "other"] : List Text))

/-- A row of `app.communication_events`, as a saved customer writes it. -/
structure EventRow where
  id : Nat
  eventType : Text
  customerCaseId : Option Nat
  actorUserId : Option Int
  title : Text
  body : Option Text
  deriving DecidableEq

instance : Keyed EventRow Nat := ⟨EventRow.id⟩

/-- The tables of a save, and the ids of `app.users`. -/
structure Tables where
  customers : Table CustomerRow
  addresses : Table AddressRow
  contacts : Table ContactRow
  cases : Table CaseRow
  events : Table EventRow
  userIds : List Int

/-- `customer_display_name`. -/
def customerDisplayName (locale : Locale) (data : Form) : Text :=
  let name :=
    if data.orDefault "customer_type" "private" = ("company" : Text) then
      data.stripped "company_name"
    else
      let first := data.stripped "first_name"
      let last := data.stripped "last_name"
      if first.isEmpty || last.isEmpty then first ++ last else first ++ ' ' :: last
  if truthy name then name
  else if truthy (data.stripped "company_name") then data.stripped "company_name"
  else locale.lower (data.stripped "primary_email")

/-- `CARAT_ORDER_NUMBER_PATTERN.fullmatch`. -/
def isCaratOrderNumber (text : Text) : Bool :=
  let isAlnum (c : Char) := isWordChar c || (decide ('A' ≤ c) && decide (c ≤ 'Z'))
  let front := text.takeWhile isAlnum
  match text.drop front.length with
  | '-' :: back =>
      decide (1 ≤ front.length ∧ front.length ≤ 5) && decide (1 ≤ back.length ∧ back.length ≤ 3) &&
        back.all isAlnum
  | _ => false

/-- The query's payload, each value as text. -/
structure Payload where
  customerId : Text
  customerNumber : Text
  customerType : Text
  salutation : Text
  title : Text
  firstName : Text
  lastName : Text
  companyName : Text
  legalForm : Text
  vatId : Text
  taxNumber : Text
  registryCourt : Text
  registryNumber : Text
  objectCustomerLabel : Text
  country : Text
  taxTreatment : Text
  taxTreatmentNote : Text
  hasCustomVat : Text
  customVatRate : Text
  customVatRateLabel : Text
  contactFirstName : Text
  contactLastName : Text
  contactDisplayName : Text
  contactEmail : Text
  contactPhone : Text
  contactPhoneNormalized : Text
  displayName : Text
  primaryEmail : Text
  primaryPhone : Text
  primaryPhoneNormalized : Text
  primaryMobile : Text
  primaryMobileNormalized : Text
  preferredContactChannel : Text
  notes : Text
  ownerUserId : Text
  street : Text
  houseNumber : Text
  postalCode : Text
  city : Text
  createCase : Text
  caseNumber : Text
  caratOrderNumber : Text
  caseTitle : Text
  caseType : Text
  statusPhaseId : Text
  responsibleUserId : Text
  actorUserId : Nat
  context : UserContext

/-- `data.get(key)`, unless it is absent or empty. -/
def given (data : Form) (key : Text) : Option Text := (data.lookup key).filter truthy

/-- `normalize_bool(data.get(key))`. -/
def flagText (locale : Locale) (data : Form) (key : Text) : Text :=
  boolText (data.flag locale key noneText)

/-- `generate_unique_number`. -/
def generateUniqueNumber {μ : Type} (host : Host) (front : Text) : Except (SaveError μ) Text :=
  match host.uniqueNumber front with
  | some number => .ok number
  | none => .error (.conflict "number_generation_collision" [])

/-- `generate_customer_number`. -/
def generateCustomerNumber {μ : Type} (host : Host) (customerType : Text) :
    Except (SaveError μ) Text :=
  generateUniqueNumber host (if customerType = ("company" : Text) then "OBJ-" else "PRV-")

/-- `generate_case_number`. -/
def generateCaseNumber {μ : Type} (host : Host) : Except (SaveError μ) Text :=
  generateUniqueNumber host "V-"

/-- `normalize_carat_order_number`. -/
def normalizeCaratOrderNumber {μ : Type} (locale : Locale) (value : Text) :
    Except (SaveError μ) Text :=
  let normalized := locale.upper (strip value)
  if truthy normalized && !isCaratOrderNumber normalized then
    .error (.badRequest "carat_order_number_invalid")
  else .ok normalized

/-- The values that `save_customer` computes before the payload. -/
def payloadOf (host : Host) (context : UserContext) (data : Form) (customerId : Option Text)
    (customerNumber caseNumber caratOrderNumber : Text) : Payload :=
  let actor := decimal context.primaryUserId
  let customerType := data.orDefault "customer_type" "private"
  let isCompany := decide (customerType = ("company" : Text))
  let ifCompany (key : Text) : Text := if isCompany then data.stripped key else []
  let contactFirstName := data.stripped "contact_first_name"
  let contactLastName := data.stripped "contact_last_name"
  let contactPhone := data.stripped "contact_phone"
  let country := host.locale.upper (strip (data.get "country" "DE"))
  let hasCustomVat := flagText host.locale data "has_custom_vat"
  let customVatRate := (data.stripped "custom_vat_rate").map fun c => if c = ',' then '.' else c
  { customerId := strip (customerId.getD [])
    customerNumber, customerType
    salutation := data.stripped "salutation"
    title := data.stripped "title"
    firstName := if isCompany then [] else data.stripped "first_name"
    lastName := if isCompany then [] else data.stripped "last_name"
    companyName := data.stripped "company_name"
    legalForm := ifCompany "legal_form"
    vatId := ifCompany "vat_id"
    taxNumber := ifCompany "tax_number"
    registryCourt := ifCompany "registry_court"
    registryNumber := ifCompany "registry_number"
    objectCustomerLabel := ifCompany "object_customer_label"
    country := if truthy country then country else "DE"
    taxTreatment := data.orDefault "tax_treatment" "standard_de"
    taxTreatmentNote := data.stripped "tax_treatment_note"
    hasCustomVat
    customVatRate := if !truthy hasCustomVat then [] else customVatRate
    customVatRateLabel := if truthy hasCustomVat then data.stripped "custom_vat_rate_label" else []
    contactFirstName, contactLastName
    contactDisplayName :=
      if contactFirstName.isEmpty || contactLastName.isEmpty then
        contactFirstName ++ contactLastName
      else contactFirstName ++ ' ' :: contactLastName
    contactEmail := host.locale.lower (data.stripped "contact_email")
    contactPhone
    contactPhoneNormalized := normalizePhoneNumber host.digits contactPhone
    displayName := customerDisplayName host.locale data
    primaryEmail := host.locale.lower (data.stripped "primary_email")
    primaryPhone := data.stripped "primary_phone"
    primaryPhoneNormalized := normalizePhoneNumber host.digits (data.get "primary_phone" [])
    primaryMobile := data.stripped "primary_mobile"
    primaryMobileNormalized := normalizePhoneNumber host.digits (data.get "primary_mobile" [])
    preferredContactChannel := data.orDefault "preferred_contact_channel" "email"
    notes := data.stripped "notes"
    ownerUserId := (given data "owner_user_id").getD actor
    street := data.stripped "street"
    houseNumber := data.stripped "house_number"
    postalCode := data.stripped "postal_code"
    city := data.stripped "city"
    createCase := flagText host.locale data "create_case"
    caseNumber, caratOrderNumber
    caseTitle := data.stripped "case_title"
    caseType := strip (data.get "case_type"
      (if strip (data.get "customer_type" "private") = ("company" : Text) then "kitchen_project_b2b"
        else "kitchen_project"))
    statusPhaseId := (given data "status_phase_id").getD "1"
    responsibleUserId :=
      ((given data "responsible_user_id").or (given data "owner_user_id")).getD actor
    actorUserId := context.primaryUserId
    context }

/-- The payload of `save_customer`, or the error before the queries. -/
def savePayload {μ : Type} (host : Host) (context : UserContext) (data : Form)
    (customerId : Option Text) : Except (SaveError μ) Payload :=
  if !truthy (customerDisplayName host.locale data) then
    .error (.badRequest "customer_name_required")
  else do
    let customerNumber ←
      (if customerId.any truthy then .ok []
        else generateCustomerNumber host (data.orDefault "customer_type" "private"))
    let caseNumber ←
      (if truthy (flagText host.locale data "create_case") then generateCaseNumber host else .ok [])
    let caratOrderNumber ←
      normalizeCaratOrderNumber host.locale (data.get "carat_order_number" [])
    return payloadOf host context data customerId customerNumber caseNumber caratOrderNumber

inductive MatchType where
  | email
  | phone
  | mobile
  | namePostalCode
  | unknown
  deriving DecidableEq, Repr

inductive MatchScope where
  | all
  | email
  deriving DecidableEq, Repr

/-- A match of `customer_duplicate_matches`. -/
structure DuplicateMatch where
  customer : CustomerRow
  /-- The postal code, city, street and house number of an address, the
  primary one if there is one. -/
  address : Option AddressRow
  activeCaseCount : Nat
  matchType : MatchType

section Matching

variable (host : Host) (db : Tables) (payload : Payload) (row : CustomerRow)

def matchesEmail : Bool :=
  truthy payload.primaryEmail &&
    decide
      (host.locale.sqlLower (row.primaryEmail.getD []) = host.locale.sqlLower payload.primaryEmail)

def matchesPhone : Bool :=
  truthy payload.primaryPhoneNormalized &&
    decide (row.primaryPhoneNormalized.getD [] = payload.primaryPhoneNormalized)

def matchesMobile : Bool :=
  truthy payload.primaryMobileNormalized &&
    decide (row.primaryMobileNormalized.getD [] = payload.primaryMobileNormalized)

def matchesNamePostalCode : Bool :=
  truthy payload.postalCode &&
    decide (host.locale.sqlLower row.displayName = host.locale.sqlLower payload.displayName) &&
    db.addresses.rows.any fun address =>
      decide (address.customerId = row.id ∧ address.postalCode = payload.postalCode)

/-- The first criterion that a customer meets. -/
def matchType : MatchType :=
  if matchesEmail host payload row then .email
  else if matchesPhone payload row then .phone
  else if matchesMobile payload row then .mobile
  else if matchesNamePostalCode host db payload row then .namePostalCode
  else .unknown

/-- The order `display_name, id`. -/
def NameBefore (row other : CustomerRow) : Prop :=
  host.sortKey row.displayName < host.sortKey other.displayName ∨
    host.sortKey row.displayName = host.sortKey other.displayName ∧ row.id ≤ other.id

instance : DecidableRel (NameBefore host) := fun _ _ => inferInstanceAs (Decidable (_ ∨ _))

/-- The order `is_primary DESC, id`. -/
def PrimaryBefore (isPrimary otherPrimary : Bool) (id otherId : Nat) : Prop :=
  (isPrimary = true ∧ otherPrimary = false) ∨ isPrimary = otherPrimary ∧ id ≤ otherId

instance (isPrimary otherPrimary : Bool) (id otherId : Nat) :
    Decidable (PrimaryBefore isPrimary otherPrimary id otherId) :=
  inferInstanceAs (Decidable (_ ∨ _))

/-- The `WHERE` clause of `candidates`, for the id that is left out. -/
def isCandidate (scope : MatchScope) (self : Int) : Bool :=
  row.isActive && decide ((row.id : Int) ≠ self) &&
    (matchesEmail host payload row || matchesPhone payload row || matchesMobile payload row ||
      matchesNamePostalCode host db payload row) &&
    (decide (scope = .all) || matchesEmail host payload row)

/-- The address that a match shows. -/
def shownAddress : Option AddressRow :=
  ((db.addresses.rows.filter fun address => address.customerId = row.id).insertionSort
    fun address other => PrimaryBefore address.isPrimary other.isPrimary address.id other.id).head?

def duplicateMatch : DuplicateMatch where
  customer := row
  address := shownAddress db row
  activeCaseCount := db.cases.rows.countP fun case =>
    decide (case.customerId = some row.id) && case.isActive &&
      decide (case.caseStatus ≠ ("archived" : Text))
  matchType := matchType host db payload row

end Matching

section Save

variable (host : Host) (db : Tables) (payload : Payload)

/-- `NULLIF(text, '')::type`. -/
def castOptional {α : Type} (cast : Text → Option α) (text : Text) : Option (Option α) :=
  if text.isEmpty then some none else (cast text).map some

/-- The first matching customers in order. -/
def candidates (scope : MatchScope) (self : Int) : List CustomerRow :=
  ((db.customers.rows.filter fun row => isCandidate host db payload row scope self).insertionSort
    (NameBefore host)).take 5

/-- `customer_duplicate_matches`. -/
def customerDuplicateMatches (scope : MatchScope) :
    Except (SaveError DuplicateMatch) (List DuplicateMatch) :=
  match castOptional host.integer payload.customerId with
  | none => .error .database
  | some self =>
    .ok ((candidates host db payload scope (self.getD 0)).map (duplicateMatch host db payload))

/-- The columns that are inserted and updated alike. -/
def customerRow (base : CustomerRow) : Option CustomerRow := do
  let customVatRate ← castOptional host.vatRate payload.customVatRate
  let ownerUserId ← castOptional host.integer payload.ownerUserId
  return { base with
    customerType := payload.customerType
    salutation := nullIfEmpty payload.salutation
    title := nullIfEmpty payload.title
    firstName := nullIfEmpty payload.firstName
    lastName := nullIfEmpty payload.lastName
    companyName := nullIfEmpty payload.companyName
    vatId := nullIfEmpty payload.vatId
    taxNumber := nullIfEmpty payload.taxNumber
    legalForm := nullIfEmpty payload.legalForm
    registryCourt := nullIfEmpty payload.registryCourt
    registryNumber := nullIfEmpty payload.registryNumber
    objectCustomerLabel := nullIfEmpty payload.objectCustomerLabel
    displayName := payload.displayName
    primaryEmail := nullIfEmpty payload.primaryEmail
    primaryPhone := nullIfEmpty payload.primaryPhone
    primaryPhoneNormalized := nullIfEmpty payload.primaryPhoneNormalized
    primaryMobile := nullIfEmpty payload.primaryMobile
    primaryMobileNormalized := nullIfEmpty payload.primaryMobileNormalized
    preferredContactChannel := payload.preferredContactChannel
    country := payload.country
    taxTreatment := nullIfEmpty payload.taxTreatment
    taxTreatmentNote := nullIfEmpty payload.taxTreatmentNote
    hasCustomVat := castBoolean payload.hasCustomVat
    customVatRate
    customVatRateLabel := nullIfEmpty payload.customVatRateLabel
    notes := nullIfEmpty payload.notes
    ownerUserId }

/-- A row before its columns are written; the number and the creator stay as they are then. -/
def emptyRow (id : Nat) : CustomerRow where
  id := id
  customerNumber := nullIfEmpty payload.customerNumber
  customerType := []
  salutation := none
  title := none
  firstName := none
  lastName := none
  companyName := none
  vatId := none
  taxNumber := none
  legalForm := none
  registryCourt := none
  registryNumber := none
  objectCustomerLabel := none
  displayName := []
  primaryEmail := none
  primaryPhone := none
  primaryPhoneNormalized := none
  primaryMobile := none
  primaryMobileNormalized := none
  preferredContactChannel := []
  country := []
  taxTreatment := none
  taxTreatmentNote := none
  hasCustomVat := false
  customVatRate := none
  customVatRateLabel := none
  notes := none
  ownerUserId := none
  createdByUserId := some payload.actorUserId
  isActive := true

/-- A user that a column refers to exists. -/
def refers (user : Option Int) : Bool := user.all db.userIds.contains

/-- The partial unique indexes on the normalised numbers, for a row that is written. -/
def numbersFree (row : CustomerRow) : Bool :=
  db.customers.rows.all fun other =>
    decide (other.id = row.id) || !other.isActive ||
      !(row.primaryPhoneNormalized.isSome &&
        decide (other.primaryPhoneNormalized = row.primaryPhoneNormalized)) &&
      !(row.primaryMobileNormalized.isSome &&
        decide (other.primaryMobileNormalized = row.primaryMobileNormalized))

/-- The other constraints of a row that is written. -/
def rowAdmitted (row : CustomerRow) : Bool :=
  row.checks host.locale && refers db row.ownerUserId && refers db row.createdByUserId &&
    db.customers.rows.all fun other =>
      decide (other.id = row.id) ||
        !(row.customerNumber.isSome && decide (other.customerNumber = row.customerNumber))

/-- `visible_customer`. -/
def visibleCustomer (id : Int) : Option CustomerRow :=
  db.customers.rows.find? fun row =>
    decide ((row.id : Int) = id) && row.isActive &&
      (payload.context.isAdmin || row.ownerUserId.any fun owner =>
        payload.context.scopeUserIds.any fun user => decide ((user : Int) = owner))

/-- The row that `updated_customer` or `inserted_customer` writes. -/
def writtenRow : Option (Option CustomerRow) :=
  if payload.customerId.isEmpty then
    (customerRow host payload (emptyRow payload db.customers.nextKey)).map some
  else do
    let id ← host.integer payload.customerId
    match visibleCustomer db payload id with
    | none => some none
    | some row => (customerRow host payload row).map some

/-- The customers after the row is written. -/
def customersAfter (row : CustomerRow) : Table CustomerRow :=
  if payload.customerId.isEmpty then
    db.customers.insertAll [row] (fun id row => { row with id }) fun _ _ => rfl
  else
    db.customers.update (fun old => if old.id = row.id then { row with id := old.id } else old)
      fun old => by split <;> rfl

/-- `address_input` is not empty. -/
def hasAddress : Bool := truthy payload.street && truthy payload.postalCode && truthy payload.city

/-- `existing_address`. -/
def existingAddress (customer : Nat) : Option AddressRow :=
  ((db.addresses.rows.filter fun address =>
    decide (address.customerId = customer ∧ address.addressType = ("billing" : Text))).insertionSort
      fun address other =>
        PrimaryBefore address.isPrimary other.isPrimary address.id other.id).head?

/-- The columns that are written to an address. -/
def addressRow (base : AddressRow) : AddressRow :=
  { base with
    recipientName := some payload.displayName
    street := payload.street
    houseNumber := nullIfEmpty payload.houseNumber
    postalCode := payload.postalCode
    city := payload.city
    country := payload.country
    isPrimary := true }

/-- `updated_address` and `inserted_address`; an address without a customer is refused. -/
def addressesAfter (customer : Option Nat) : Option (Table AddressRow) :=
  if !hasAddress payload then some db.addresses
  else match customer with
  | none => none
  | some customer =>
      let base : AddressRow :=
        ⟨0, customer, "billing", none, [], none, [], [], [], true⟩
      if !(addressRow payload base).checks then none
      else match existingAddress db customer with
      | some old => some (db.addresses.update
          (fun row => if row.id = old.id then addressRow payload row else row) fun row => by
            split <;> rfl)
      | none =>
        some (db.addresses.insertAll [addressRow payload base] (fun id row => { row with id })
          fun _ _ => rfl)

/-- `contact_input` is not empty. -/
def hasContact : Bool :=
  decide (payload.customerType = ("company" : Text)) &&
    (truthy payload.contactDisplayName || truthy payload.contactEmail ||
      truthy payload.contactPhone)

/-- `existing_contact`. -/
def existingContact (customer : Nat) : Option ContactRow :=
  ((db.contacts.rows.filter fun contact =>
    decide (contact.customerId = customer ∧ contact.contactType = ("primary" : Text))).insertionSort
      fun contact other =>
        PrimaryBefore contact.isPrimary other.isPrimary contact.id other.id).head?

/-- The columns that are written to a contact. -/
def contactRow (base : ContactRow) : ContactRow :=
  { base with
    firstName := nullIfEmpty payload.contactFirstName
    lastName := nullIfEmpty payload.contactLastName
    displayName :=
      if truthy payload.contactDisplayName then payload.contactDisplayName
      else if truthy payload.contactEmail then payload.contactEmail
      else payload.contactPhone
    email := nullIfEmpty payload.contactEmail
    phone := nullIfEmpty payload.contactPhone
    phoneNormalized := nullIfEmpty payload.contactPhoneNormalized
    isPrimary := true }

/-- `updated_contact` and `inserted_contact`; a contact without a customer is refused. -/
def contactsAfter (customer : Option Nat) : Option (Table ContactRow) :=
  if !hasContact payload then some db.contacts
  else match customer with
  | none => none
  | some customer =>
      let base : ContactRow :=
        ⟨0, customer, "primary", none, none, [], none, none, none, true⟩
      if !(contactRow payload base).checks host.locale then none
      else match existingContact db customer with
      | some old => some (db.contacts.update
          (fun row => if row.id = old.id then contactRow payload row else row) fun row => by
            split <;> rfl)
      | none =>
        some (db.contacts.insertAll [contactRow payload base] (fun id row => { row with id })
          fun _ _ => rfl)

/-- `created_case`: the row, if there is one. -/
def createdCase (customer : Option Nat) : Option (Option CaseRow) :=
  if !castBoolean payload.createCase then some none
  else do
    let phase ← castOptional host.integer payload.statusPhaseId
    let responsible ← castOptional host.integer payload.responsibleUserId
    let row : CaseRow := {
      id := db.cases.nextKey
      caseNumber := nullIfEmpty payload.caseNumber
      customerDisplayName := payload.displayName
      statusPhase := phase
      ownerUserId := responsible
      customerId := customer
      caseTitle := nullIfEmpty payload.caseTitle
      caseType := payload.caseType
      caseStatus := "active"
      caratOrderNumber := nullIfEmpty payload.caratOrderNumber
      createdByUserId := some payload.actorUserId
      responsibleUserId := responsible
      isActive := true }
    if row.checks && refers db responsible && refers db row.createdByUserId &&
        db.cases.rows.all (fun other =>
          !(row.caseNumber.isSome && decide (other.caseNumber = row.caseNumber))) then
      some (some row)
    else none

/-- The answer of a save. -/
structure Saved where
  customerId : Option Nat
  customerCaseId : Option Nat

/-- The statement without the unique indexes on the normalised numbers: the row that is written, the
tables and the answer. -/
def statementParts : Option (Option CustomerRow × Tables × Saved) := do
  let row ← writtenRow host db payload
  if !row.all (rowAdmitted host db) then none
  else
    let customer := row.map CustomerRow.id
    let addresses ← addressesAfter db payload customer
    let contacts ← contactsAfter host db payload customer
    let case ← createdCase host db payload customer
    let caseId := case.map CaseRow.id
    let event : EventRow := {
      id := 0
      eventType := if payload.customerId.isEmpty then "customer_created" else "customer_updated"
      customerCaseId := caseId
      actorUserId := some payload.actorUserId
      title := payload.displayName
      body := nullIfEmpty payload.notes }
    let after : Tables := {
      customers := (row.map (customersAfter db payload)).getD db.customers
      addresses, contacts
      cases := db.cases.insertAll case.toList (fun id row => { row with id }) fun _ _ => rfl
      events := db.events.insertAll [event] (fun id row => { row with id }) fun _ _ => rfl
      userIds := db.userIds }
    return (row, after, ⟨customer, caseId⟩)

/-- The statement that writes the payload. -/
def saveStatement : Option (Tables × Saved) := do
  let (row, after, saved) ← statementParts host db payload
  if row.all (numbersFree db) then some (after, saved) else none

/-- The queries and the statement of `save_customer`; `isUpdate` is the truth value of its argument
`customer_id`. -/
def savePayloadTo (allowDuplicateEmail : Text) (isUpdate : Bool) :
    Tables × Except (SaveError DuplicateMatch) Saved :=
  match customerDuplicateMatches host db payload .email with
  | .error error => (db, .error error)
  | .ok emailMatches =>
      if !emailMatches.isEmpty && !truthy allowDuplicateEmail && !isUpdate then
        (db, .error (.conflict "customer_email_duplicate_found" emailMatches))
      else match customerDuplicateMatches host db payload .all with
      | .error error => (db, .error error)
      | .ok found =>
          let duplicates := found.filter fun found => decide (found.matchType ≠ .email)
          if !duplicates.isEmpty then (db, .error (.conflict "customer_duplicate_found" duplicates))
          else match saveStatement host db payload with
          | none => (db, .error .database)
          | some (after, saved) =>
              if saved.customerId.isSome then (after, .ok saved)
              else (after, .error (.notFound "customer_not_found"))

/-- `save_customer`: the tables afterwards and the answer. -/
def saveCustomer (context : UserContext) (data : Form) (customerId : Option Text) :
    Tables × Except (SaveError DuplicateMatch) Saved :=
  match savePayload host context data customerId with
  | .error error => (db, .error error)
  | .ok payload =>
      savePayloadTo host db payload (flagText host.locale data "allow_duplicate_email")
        (customerId.any truthy)

end Save

end CustomerSaves

end SkillCentric.Crm
