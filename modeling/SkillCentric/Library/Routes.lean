import Mathlib.Data.List.Forall2
import Mathlib.Tactic

/-!
# Routes and cascades of branches

A route describes paths segment by segment, a cascade is a list of branches that are tried in order.
Which branch takes the paths of a route can be read off the two descriptions when no branch before
it takes some of them only.
-/

namespace SkillCentric

/-- A segment of a route: a fixed text, or any segment that is accepted. -/
inductive Slot (σ : Type) where
  | lit (segment : σ)
  | var (accepts : σ → Bool)

namespace Slot

variable {σ : Type} [DecidableEq σ]

/-- A segment that fits. -/
def fits : Slot σ → σ → Bool
  | lit expected, segment => decide (segment = expected)
  | var accepts, segment => accepts segment

/-- The segments of a path that a route describes. -/
def Fits (route : List (Slot σ)) (segments : List σ) : Prop :=
  List.Forall₂ (fun slot segment => slot.fits segment = true) route segments

/-- A branch takes the paths of its length that have its fixed segments. -/
def takes : List (Option σ) → List σ → Bool
  | [], [] => true
  | none :: branch, _ :: segments => takes branch segments
  | some expected :: branch, segment :: segments =>
      decide (segment = expected) && takes branch segments
  | _, _ => false

/-- No segment that fits is the expected one. -/
def excludesSlot : Slot σ → Option σ → Bool
  | _, none => false
  | lit segment, some expected => decide (segment ≠ expected)
  | var accepts, some expected => !accepts expected

/-- A branch takes no path of a route. -/
def excludes : List (Slot σ) → List (Option σ) → Bool
  | [], [] => false
  | slot :: route, expected :: branch => excludesSlot slot expected || excludes route branch
  | _, _ => true

/-- Every segment that fits is the expected one. -/
def coversSlot : Slot σ → Option σ → Bool
  | _, none => true
  | lit segment, some expected => decide (segment = expected)
  | var _, some _ => false

/-- A branch takes every path of a route. -/
def covers : List (Slot σ) → List (Option σ) → Bool
  | [], [] => true
  | slot :: route, expected :: branch => coversSlot slot expected && covers route branch
  | _, _ => false

section Branch

variable {route : List (Slot σ)} {segments : List σ} (described : Fits route segments)

include described

theorem takes_eq_false {branch : List (Option σ)} (excluded : excludes route branch = true) :
    takes branch segments = false := by
  induction described generalizing branch with
  | nil =>
      cases branch with
      | nil => cases excluded
      | cons expected branch => cases expected <;> rfl
  | @cons slot segment route segments fit described ih =>
      cases branch with
      | nil => rfl
      | cons expected branch =>
          rw [excludes, Bool.or_eq_true] at excluded
          rcases excluded with here | later
          · cases expected with
            | none => cases here
            | some expected =>
                have apart : segment ≠ expected := by
                  rintro rfl
                  cases slot with
                  | lit fixed =>
                      rw [fits, decide_eq_true_eq] at fit
                      rw [excludesSlot, decide_eq_true_eq] at here
                      exact here fit.symm
                  | var accepts =>
                      rw [fits] at fit
                      rw [excludesSlot, fit] at here
                      cases here
                rw [takes, decide_eq_false apart, Bool.false_and]
          · cases expected with
            | none => exact ih later
            | some expected => rw [takes, ih later, Bool.and_false]

theorem takes_eq_true {branch : List (Option σ)} (covered : covers route branch = true) :
    takes branch segments = true := by
  induction described generalizing branch with
  | nil =>
      cases branch with
      | nil => rfl
      | cons expected branch => cases covered
  | @cons slot segment route segments fit described ih =>
      cases branch with
      | nil => cases covered
      | cons expected branch =>
          rw [covers, Bool.and_eq_true] at covered
          cases expected with
          | none => exact ih covered.2
          | some expected =>
              cases slot with
              | var accepts => cases covered.1
              | lit fixed =>
                  rw [fits, decide_eq_true_eq] at fit
                  have same : fixed = expected := by simpa [coversSlot] using covered.1
                  rw [takes, decide_eq_true (fit.trans same), ih covered.2, Bool.and_self]

end Branch

section Cascade

variable {β : Type} (branch : β → List (Option σ))

/-- The first branch that takes a path of a route, if it takes them all. -/
def resolve (route : List (Slot σ)) : List β → Option β
  | [] => none
  | entry :: rest =>
      if excludes route (branch entry) then resolve route rest
      else if covers route (branch entry) then some entry
      else none

variable {route : List (Slot σ)} {segments : List σ} (described : Fits route segments)
  {entries : List β}

include described

theorem find?_eq_of_resolve {found : β} (resolved : resolve branch route entries = some found) :
    entries.find? (fun entry => takes (branch entry) segments) = some found := by
  induction entries with
  | nil => cases resolved
  | cons entry rest ih =>
      rw [resolve] at resolved
      split_ifs at resolved with excluded covered
      · rw [List.find?_cons, takes_eq_false described excluded]
        exact ih resolved
      · rw [← Option.some.inj resolved, List.find?_cons, takes_eq_true described covered]

theorem find?_eq_none_of_excludes
    (excluded : entries.all (fun entry => excludes route (branch entry)) = true) :
    entries.find? (fun entry => takes (branch entry) segments) = none := by
  rw [List.find?_eq_none]
  intro entry member
  rw [takes_eq_false described (List.all_eq_true.mp excluded entry member)]
  decide

end Cascade

/-- The segment that follows the first occurrence of a name. -/
def following (name : σ) : List σ → Option σ
  | [] => none
  | segment :: rest => if segment = name then rest.head? else following name rest

/-- Its place in the paths of a route, if it is the same in all of them. -/
def followingIndex (name : σ) : List (Slot σ) → Option Nat
  | [] => none
  | lit segment :: rest => if segment = name then some 1 else (followingIndex name rest).map (· + 1)
  | var accepts :: rest => if accepts name then none else (followingIndex name rest).map (· + 1)

theorem following_eq {route : List (Slot σ)} {segments : List σ} (described : Fits route segments)
    {name : σ} {i : Nat} (index : followingIndex name route = some i) :
    following name segments = segments[i]? := by
  induction described generalizing i with
  | nil => cases index
  | @cons slot segment route segments fit described ih =>
      cases slot with
      | lit fixed =>
          rw [fits, decide_eq_true_eq] at fit
          rw [followingIndex] at index
          split_ifs at index with same
          · obtain rfl := Option.some.inj index
            rw [following, if_pos (fit.trans same), List.getElem?_cons_succ, List.head?_eq_getElem?]
          · obtain ⟨j, found, rfl⟩ := Option.map_eq_some_iff.mp index
            rw [following, if_neg fun equal => same (fit.symm.trans equal), ih found,
              List.getElem?_cons_succ]
      | var accepts =>
          rw [followingIndex] at index
          split_ifs at index with accepted
          obtain ⟨j, found, rfl⟩ := Option.map_eq_some_iff.mp index
          have apart : segment ≠ name := by
            rintro rfl
            exact accepted fit
          rw [following, if_neg apart, ih found, List.getElem?_cons_succ]

end Slot

/-- Segments with slashes between them. -/
def slashJoin (segments : List (List Char)) : List Char := List.intercalate ['/'] segments

theorem slashJoin_cons_cons (segment other : List Char) (rest : List (List Char)) :
    slashJoin (segment :: other :: rest) = segment ++ '/' :: slashJoin (other :: rest) := by
  rw [slashJoin, List.intercalate_cons_cons, List.append_assoc]
  rfl

theorem splitOn_slashJoin {segments : List (List Char)} (nonempty : segments ≠ [])
    (plain : ∀ segment ∈ segments, '/' ∉ segment) : (slashJoin segments).splitOn '/' = segments :=
  List.splitOn_intercalate '/' plain nonempty

end SkillCentric
