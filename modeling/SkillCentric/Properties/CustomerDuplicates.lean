import SkillCentric.Library.Limits
import SkillCentric.Properties.CustomerFlags

/-!
# Duplicates of a new customer

One query names the first criterion that a customer meets and keeps five rows.  The unique indexes
catch what it misses of the phone numbers; a duplicate by name and postal code can pass.
-/

namespace SkillCentric.Crm.CustomerSaves

open SkillCentric Slug

section Candidates

variable (host : Host) (db : Tables) (payload : Payload)

theorem nameBefore_total (row other : CustomerRow) :
    NameBefore host row other ∨ NameBefore host other row := by
  unfold NameBefore
  rcases lt_trichotomy (host.sortKey row.displayName) (host.sortKey other.displayName) with
    less | same | more
  · exact .inl (.inl less)
  · rcases Nat.le_total row.id other.id with le | ge
    · exact .inl (.inr ⟨same, le⟩)
    · exact .inr (.inr ⟨same.symm, ge⟩)
  · exact .inr (.inl more)

theorem nameBefore_trans {row other third : CustomerRow} (first : NameBefore host row other)
    (second : NameBefore host other third) : NameBefore host row third := by
  unfold NameBefore at first second ⊢
  rcases first with less | ⟨same, le⟩
  · rcases second with more | ⟨equal, -⟩
    · exact .inl (less.trans more)
    · exact .inl (equal ▸ less)
  · rcases second with more | ⟨equal, later⟩
    · exact .inl (same.symm ▸ more)
    · exact .inr ⟨same.trans equal, le.trans later⟩

theorem id_eq_of_nameBefore {row other : CustomerRow} (first : NameBefore host row other)
    (second : NameBefore host other row) : row.id = other.id := by
  unfold NameBefore at first second
  rcases first with less | ⟨same, le⟩
  · rcases second with more | ⟨equal, -⟩
    · exact absurd (less.trans more) (lt_irrefl _)
    · exact absurd (equal ▸ less) (lt_irrefl _)
  · rcases second with more | ⟨-, ge⟩
    · exact absurd (same ▸ more) (lt_irrefl _)
    · exact Nat.le_antisymm le ge

/-- Fewer than five customers that match stand before this one. -/
def AmongFirstFive (row : CustomerRow) : Prop :=
  (db.customers.rows.filter fun other =>
    isCandidate host db payload other .all 0 &&
      decide (NameBefore host other row ∧ other ≠ row)).length < 5

theorem mem_candidates_of_matching {row : CustomerRow} (member : row ∈ db.customers)
    (matching : isCandidate host db payload row .all 0 = true) :
    row ∈ candidates host db payload .all 0 ↔ AmongFirstFive host db payload row := by
  have distinct (first : CustomerRow)
      (firstMember :
        first ∈ db.customers.rows.filter fun row => isCandidate host db payload row .all 0)
      (second : CustomerRow)
      (secondMember :
        second ∈ db.customers.rows.filter fun row => isCandidate host db payload row .all 0)
      (before : NameBefore host first second) (after : NameBefore host second first) :
      first = second :=
    Table.eq_of_key (List.mem_filter.mp firstMember).1 (List.mem_filter.mp secondMember).1
      (id_eq_of_nameBefore host before after)
  unfold candidates AmongFirstFive
  rw [mem_take_insertionSort_iff 5 (nameBefore_total host) (fun _ _ _ => nameBefore_trans host)
    distinct (db.customers.rows_nodup.filter _) (List.mem_filter.mpr ⟨member, matching⟩),
    List.filter_filter]
  simp only [Bool.and_comm]

theorem mem_candidates_iff {row : CustomerRow} : row ∈ candidates host db payload .all 0 ↔
    row ∈ db.customers ∧ isCandidate host db payload row .all 0 = true ∧
      AmongFirstFive host db payload row := by
  constructor
  · intro member
    obtain ⟨stored, matching⟩ := List.mem_filter.mp
      ((List.perm_insertionSort (NameBefore host) _).mem_iff.mp (List.mem_of_mem_take member))
    exact ⟨stored, matching, (mem_candidates_of_matching host db payload stored matching).mp member⟩
  · rintro ⟨member, matching, few⟩
    exact (mem_candidates_of_matching host db payload member matching).mpr few

theorem matchType_ne_email_iff (row : CustomerRow) :
    matchType host db payload row ≠ .email ↔ matchesEmail host payload row = false := by
  unfold matchType
  cases matchesEmail host payload row with
  | true => simp
  | false =>
      simp only [Bool.false_eq_true, if_false, iff_true]
      split_ifs <;> decide

end Candidates

section Numbers

variable {host : Host} {db : Tables} {payload : Payload}

theorem getD_eq_iff {stored : Option Text} {number : Text} :
    (truthy number && decide (stored.getD [] = number)) = true ↔
      (nullIfEmpty number).isSome = true ∧ stored = nullIfEmpty number := by
  unfold truthy nullIfEmpty
  cases number with
  | nil => simp
  | cons c rest => cases stored <;> simp

theorem numbersFree_eq_false_iff {row : CustomerRow} (new : payload.customerId = [])
    (written : writtenRow host db payload = some (some row)) :
    numbersFree db row = false ↔ ∃ other ∈ db.customers, other.isActive = true ∧
      (matchesPhone payload other = true ∨ matchesMobile payload other = true) := by
  have id := (writtenRow_eq_some written).2 new
  have numbers : row.primaryPhoneNormalized = nullIfEmpty payload.primaryPhoneNormalized ∧
      row.primaryMobileNormalized = nullIfEmpty payload.primaryMobileNormalized := by
    unfold writtenRow at written
    rw [if_pos (List.isEmpty_iff.mpr new)] at written
    obtain ⟨row', made, same⟩ := Option.map_eq_some_iff.mp written
    obtain rfl := Option.some.inj same
    exact (customerRow_eq_some made).2.2.2
  unfold numbersFree
  rw [List.all_eq_false]
  refine exists_congr fun other => and_congr_right fun member => ?_
  have apart : other.id ≠ row.id := by
    have below : other.id < db.customers.nextKey := Table.key_lt_nextKey member
    omega
  rw [matchesPhone, matchesMobile, getD_eq_iff, getD_eq_iff, ← numbers.1, ← numbers.2]
  cases other.isActive with
  | false => simp
  | true =>
      simp only [apart, decide_false, Bool.not_true, Bool.or_self, Bool.false_or, Bool.and_eq_true,
        Bool.not_eq_true', Bool.and_eq_false_iff, decide_eq_false_iff_not, true_and]
      cases row.primaryPhoneNormalized <;> cases row.primaryMobileNormalized <;> simp <;> tauto

theorem exists_row_of_statementParts (new : payload.customerId = []) {row : Option CustomerRow}
    {after : Tables} {saved : Saved}
    (parts : statementParts host db payload = some (row, after, saved)) :
    ∃ target, row = some target ∧ writtenRow host db payload = some (some target) ∧
      saved.customerId = some target.id := by
  obtain ⟨written, -, id⟩ := statementParts_eq_some parts
  have made := written
  unfold writtenRow at made
  rw [if_pos (List.isEmpty_iff.mpr new)] at made
  obtain ⟨target, -, rfl⟩ := Option.map_eq_some_iff.mp made
  exact ⟨target, rfl, written, id⟩

theorem saveStatement_eq_none_iff (new : payload.customerId = []) :
    saveStatement host db payload = none ↔ statementParts host db payload = none ∨
      ∃ other ∈ db.customers, other.isActive = true ∧
        (matchesPhone payload other = true ∨ matchesMobile payload other = true) := by
  cases parts : statementParts host db payload with
  | none =>
      refine iff_of_true ?_ (.inl rfl)
      rw [saveStatement, parts]
      rfl
  | some found =>
      obtain ⟨row, after, saved⟩ := found
      obtain ⟨target, rfl, written, -⟩ := exists_row_of_statementParts new parts
      rw [← numbersFree_eq_false_iff new written, saveStatement, parts]
      cases free : numbersFree db target <;> simp [free]

end Numbers

section Rejected

variable {host : Host} {db : Tables} {context : UserContext} {data : Form} {payload : Payload}
  (prepared : savePayload host context data none =
    (.ok payload : Except (SaveError DuplicateMatch) Payload))

include prepared

theorem customerId_of_new : payload.customerId = [] := by
  obtain ⟨customerNumber, caseNumber, caratOrderNumber, rfl⟩ := exists_payloadOf prepared
  rfl

theorem rejected_iff : (∃ error, (saveCustomer host db context data none).2 = .error error) ↔
    (∃ row ∈ candidates host db payload .all 0, matchesEmail host payload row = false) ∨
      saveStatement host db payload = none := by
  have new := customerId_of_new prepared
  have query (scope : MatchScope) : customerDuplicateMatches host db payload scope =
      .ok ((candidates host db payload scope 0).map (duplicateMatch host db payload)) := by
    rw [customerDuplicateMatches, new]
    rfl
  have allowed (found : List DuplicateMatch) :
      (!found.isEmpty && !truthy (flagText host.locale data "allow_duplicate_email") &&
        !(none : Option Text).any truthy) = false := by
    rw [truthy_flagText, Bool.not_true, Bool.and_false, Bool.false_and]
  have visible : (((candidates host db payload .all 0).map (duplicateMatch host db payload)).filter
      fun found => decide (found.matchType ≠ .email)).isEmpty = false ↔
        ∃ row ∈ candidates host db payload .all 0, matchesEmail host payload row = false := by
    rw [← Bool.not_eq_true, List.isEmpty_iff, List.filter_eq_nil_iff]
    simp only [List.forall_mem_map, decide_eq_true_eq, not_forall, not_not, exists_prop]
    exact exists_congr fun row =>
      and_congr_right fun _ => matchType_ne_email_iff host db payload row
  rw [← visible]
  unfold saveCustomer savePayloadTo
  rw [prepared]
  simp only [query, allowed, Bool.false_eq_true, if_false]
  generalize ((candidates host db payload .all 0).map (duplicateMatch host db payload)).filter
      (fun found => decide (found.matchType ≠ .email)) = duplicates
  cases none : duplicates.isEmpty with
  | false => simp
  | true =>
      simp only [Bool.not_true, Bool.false_eq_true, if_false, reduceCtorEq, false_or]
      cases ran : saveStatement host db payload with
      | none => simp
      | some found =>
          obtain ⟨after, saved⟩ := found
          obtain ⟨row, parts, -⟩ := saveStatement_eq_some.mp ran
          obtain ⟨target, -, -, id⟩ := exists_row_of_statementParts new parts
          simp [id]

end Rejected

/-- A new customer that shares a normalised number, or the display name and postal code, with an
active customer is rejected if and only if no active customer has its name and postal code, or one
has its phone or mobile number, or fewer than five matching customers stand before one that matches
by another criterion than the email, or the statement fails on another constraint. -/
theorem duplicate_rejected_iff (host : Host) (db : Tables) (context : UserContext) (data : Form)
    (payload : Payload) (prepared : savePayload host context data none =
      (.ok payload : Except (SaveError DuplicateMatch) Payload)) :
    ((∃ row ∈ db.customers, row.isActive = true ∧ (matchesPhone payload row = true ∨
        matchesMobile payload row = true ∨ matchesNamePostalCode host db payload row = true)) →
      ∃ error, (saveCustomer host db context data none).2 = .error error) ↔
    (¬∃ row ∈ db.customers,
      row.isActive = true ∧ matchesNamePostalCode host db payload row = true) ∨
      (∃ row ∈ db.customers, row.isActive = true ∧
        (matchesPhone payload row = true ∨ matchesMobile payload row = true)) ∨
      (∃ row ∈ db.customers, isCandidate host db payload row .all 0 = true ∧
        matchesEmail host payload row = false ∧ AmongFirstFive host db payload row) ∨
      statementParts host db payload = none := by
  have seen : (∃ row ∈ candidates host db payload .all 0, matchesEmail host payload row = false) ↔
      ∃ row ∈ db.customers, isCandidate host db payload row .all 0 = true ∧
        matchesEmail host payload row = false ∧ AmongFirstFive host db payload row := by
    refine exists_congr fun row => ?_
    rw [mem_candidates_iff, and_assoc, and_assoc,
      and_comm (b := matchesEmail host payload row = false)]
  have split : (∃ row ∈ db.customers, row.isActive = true ∧ (matchesPhone payload row = true ∨
      matchesMobile payload row = true ∨ matchesNamePostalCode host db payload row = true)) ↔
      (∃ row ∈ db.customers, row.isActive = true ∧
        (matchesPhone payload row = true ∨ matchesMobile payload row = true)) ∨
      ∃ row ∈ db.customers,
        row.isActive = true ∧ matchesNamePostalCode host db payload row = true := by
    rw [← exists_or]
    refine exists_congr fun row => ?_
    rw [← or_assoc, and_or_left, and_or_left]
  have cases_of (shared named returned refused : Prop) :
      (shared ∨ named → returned ∨ refused ∨ shared) ↔ ¬named ∨ shared ∨ returned ∨ refused := by
    by_cases both : shared
    · simp only [both, true_or, or_true, imp_self]
    · by_cases found : named
      · simp only [both, found, or_false, false_or, or_true, true_implies, not_true]
      · simp only [both, found, or_self, false_implies, not_false_eq_true, true_or]
  rw [rejected_iff prepared, seen, saveStatement_eq_none_iff (customerId_of_new prepared), split]
  exact cases_of _ _ _ _

def ownerAddress : AddressRow where
  id := 1
  customerId := 1
  addressType := "billing"
  recipientName := some "Beispiel"
  street := "Hauptstraße"
  houseNumber := some "1"
  postalCode := "10115"
  city := "Berlin"
  country := "DE"
  isPrimary := true

/-- The tables with one customer at an address. -/
def oneAddress : Tables := { oneCustomer with addresses := ⟨[ownerAddress], by decide⟩ }

/-- A customer of this name and postal code, with an email of its own or with the owner's. -/
def sameName (email : Text) : Form :=
  [("last_name", "Beispiel"), ("primary_email", email), ("street", "Hauptstraße"),
    ("postal_code", "10115"), ("city", "Berlin"), ("allow_duplicate_email", "true")]

theorem duplicate_rejected_otherEmail :
    (∃ row ∈ oneAddress.customers, row.isActive = true ∧ matchesNamePostalCode asciiHost oneAddress
      (payloadOf asciiHost seller (sameName "other@example.org") none "PRV-1A2B3C4D"
        "V-1A2B3C4D" [])
      row = true) ∧
      ∃ error, (saveCustomer asciiHost oneAddress seller (sameName "other@example.org") none).2 =
        .error error := by
  refine ⟨⟨emailOwner, List.mem_singleton_self _, rfl, by decide⟩, ?_⟩
  exact (duplicate_rejected_iff asciiHost oneAddress seller (sameName "other@example.org")
    (payloadOf asciiHost seller (sameName "other@example.org") none "PRV-1A2B3C4D" "V-1A2B3C4D" [])
    rfl).mpr (.inr (.inr (.inl ⟨emailOwner, List.mem_singleton_self _, by decide, by decide,
      by unfold AmongFirstFive; decide⟩)))
    ⟨emailOwner, List.mem_singleton_self _, rfl, .inr (.inr (by decide))⟩

/-- With the email of the customer of this name and postal code, the duplicate is stored. -/
theorem name_behind_email_missed :
    (sameName "muster@example.org").flag .ascii "allow_duplicate_email" noneText = true ∧
      (∃ row ∈ oneAddress.customers,
        row.isActive = true ∧ matchesNamePostalCode asciiHost oneAddress
        (payloadOf asciiHost seller (sameName "muster@example.org") none "PRV-1A2B3C4D"
          "V-1A2B3C4D" [])
        row = true) ∧
      (saveCustomer asciiHost oneAddress seller (sameName "muster@example.org")
        none).2.toOption.bind
        Saved.customerId = some 2 := by
  exact ⟨by decide, ⟨emailOwner, List.mem_singleton_self _, rfl, by decide⟩, by decide⟩

end SkillCentric.Crm.CustomerSaves
