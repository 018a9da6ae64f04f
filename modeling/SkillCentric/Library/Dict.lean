import Mathlib.Tactic

/-!
# Insertion-ordered dictionaries

`Dict κ ν` is the map type of the host language: keys are unique, iteration follows first
insertion, assigning to a present key keeps its position.  The uniqueness of keys is a field, so
every entry of `entries` is the value found by `get?`.
-/

namespace SkillCentric

/-- A dictionary with unique keys in insertion order. -/
@[ext]
structure Dict (κ : Type) (ν : Type) where
  entries : List (κ × ν)
  nodup : (entries.map Prod.fst).Nodup

namespace Dict

variable {κ ν : Type}

/-- The dictionary without entries. -/
def empty : Dict κ ν := ⟨[], by simp⟩

instance : Inhabited (Dict κ ν) := ⟨empty⟩

/-- Values in insertion order. -/
def values (dict : Dict κ ν) : List ν := dict.entries.map Prod.snd

/-- Rewrite every value, leaving keys and order alone. -/
def mapValues (dict : Dict κ ν) (f : κ → ν → ν) : Dict κ ν where
  entries := dict.entries.map fun entry => (entry.1, f entry.1 entry.2)
  nodup := by simpa [List.map_map, Function.comp_def] using dict.nodup

variable (dict : Dict κ ν)

theorem values_mapValues (f : κ → ν → ν) :
    (dict.mapValues f).values = dict.entries.map fun entry => f entry.1 entry.2 := by
  simp [mapValues, values, Function.comp_def]

variable [DecidableEq κ]

/-- Look up a key in an association list. -/
def find (key : κ) : List (κ × ν) → Option ν
  | [] => none
  | entry :: rest => if entry.1 = key then some entry.2 else find key rest

/-- The value stored under a key. -/
def get? (dict : Dict κ ν) (key : κ) : Option ν := find key dict.entries

/-- Rewrite the value under one key, if there is one. -/
def modify (dict : Dict κ ν) (key : κ) (f : ν → ν) : Dict κ ν :=
  dict.mapValues fun other value => if other = key then f value else value

theorem mem_keys_iff_find (key : κ) (entries : List (κ × ν)) :
    key ∈ entries.map Prod.fst ↔ (find key entries).isSome := by
  induction entries with
  | nil => simp [find]
  | cons entry rest ih =>
      by_cases same : entry.1 = key
      · simp [find, same]
      · simp only [find, same, if_false, ← ih, List.map_cons, List.mem_cons]
        simp [Ne.symm same]

/-- Assign a value: in place under a present key, at the end under a new one. -/
def set (dict : Dict κ ν) (key : κ) (value : ν) : Dict κ ν :=
  if present : (dict.get? key).isSome then
    dict.modify key fun _ => value
  else
    { entries := dict.entries ++ [(key, value)]
      nodup := by
        have absent : key ∉ dict.entries.map Prod.fst := by
          rwa [mem_keys_iff_find]
        rw [List.map_append]
        refine List.Nodup.append dict.nodup (by simp) ?_
        simpa using absent }

/-- Remove a key. -/
def erase (dict : Dict κ ν) (key : κ) : Dict κ ν where
  entries := dict.entries.filter fun entry => entry.1 ≠ key
  nodup := (List.filter_sublist.map Prod.fst).nodup dict.nodup

theorem get?_erase (key other : κ) :
    (dict.erase key).get? other = if other = key then none else dict.get? other := by
  show find other (dict.entries.filter fun entry => entry.1 ≠ key) = _
  unfold get?
  induction dict.entries with
  | nil => simp [find]
  | cons entry rest ih =>
      by_cases erased : entry.1 = key
      · rw [List.filter_cons_of_neg (by simpa using erased), ih, find]
        split_ifs with same same'
        · rfl
        · exact absurd (same'.symm.trans erased) same
        · rfl
      · rw [List.filter_cons_of_pos (by simpa using erased), find, find, ih]
        split_ifs with found same
        · exact absurd (found.trans same) erased
        · rfl
        · rfl
        · rfl

@[simp]
theorem get?_empty (key : κ) : (empty : Dict κ ν).get? key = none := rfl

private theorem find_map (f : κ → ν → ν) (key : κ) (entries : List (κ × ν)) :
    find key (entries.map fun entry => (entry.1, f entry.1 entry.2)) =
      (find key entries).map (f key) := by
  induction entries with
  | nil => rfl
  | cons entry rest ih =>
      by_cases same : entry.1 = key
      · simp [find, same]
      · simpa [find, same] using ih

@[simp]
theorem get?_mapValues (f : κ → ν → ν) (key : κ) :
    (dict.mapValues f).get? key = (dict.get? key).map (f key) :=
  find_map f key dict.entries

theorem get?_modify (key other : κ) (f : ν → ν) :
    (dict.modify key f).get? other =
      if other = key then (dict.get? other).map f else dict.get? other := by
  rw [modify, get?_mapValues]
  split_ifs with same
  · rfl
  · cases dict.get? other <;> rfl

@[simp]
theorem get?_modify_self (key : κ) (f : ν → ν) :
    (dict.modify key f).get? key = (dict.get? key).map f := by
  simp [get?_modify]

theorem get?_modify_ne {key other : κ} (f : ν → ν) (differ : other ≠ key) :
    (dict.modify key f).get? other = dict.get? other := by
  simp [get?_modify, differ]

theorem find_append (key : κ) (left right : List (κ × ν)) :
    find key (left ++ right) = (find key left).or (find key right) := by
  induction left with
  | nil => simp [find]
  | cons entry rest ih =>
      by_cases same : entry.1 = key
      · simp [find, same]
      · simpa [find, same] using ih

theorem get?_set (key other : κ) (value : ν) :
    (dict.set key value).get? other = if other = key then some value else dict.get? other := by
  unfold set
  split
  · rename_i present
    obtain ⟨old, found⟩ := Option.isSome_iff_exists.mp present
    rw [get?_modify]
    split_ifs with same
    · rw [same, found]
      rfl
    · rfl
  · rename_i absent
    simp only [get?, find_append]
    split_ifs with same
    · subst same
      have missing : find other dict.entries = none := by simpa [get?] using absent
      simp [missing, find]
    · simp [find, Ne.symm same]

@[simp]
theorem get?_set_self (key : κ) (value : ν) :
    (dict.set key value).get? key = some value := by
  simp [get?_set]

theorem get?_set_ne {key other : κ} (value : ν) (differ : other ≠ key) :
    (dict.set key value).get? other = dict.get? other := by
  simp [get?_set, differ]

theorem mem_entries_iff (key : κ) (value : ν) :
    (key, value) ∈ dict.entries ↔ dict.get? key = some value := by
  obtain ⟨entries, nodup⟩ := dict
  induction entries with
  | nil => simp [get?, find]
  | cons entry rest ih =>
      simp only [List.map_cons, List.nodup_cons] at nodup
      have rest_iff := ih nodup.2
      simp only [get?] at rest_iff ⊢
      by_cases same : entry.1 = key
      · have absent : (key, value) ∉ rest := fun member =>
          nodup.1 (same ▸ List.mem_map_of_mem (f := Prod.fst) member)
        simp [find, same, absent, Prod.ext_iff, eq_comm]
      · have entry_ne : (key, value) ≠ entry := fun equal => same (by simp [← equal])
        simp [find, same, entry_ne, rest_iff]

theorem mem_values_iff (value : ν) :
    value ∈ dict.values ↔ ∃ key, dict.get? key = some value := by
  simp [values, ← mem_entries_iff]

/-- A present value splits the value list, and `modify` rewrites it at that position only. -/
theorem values_modify_split (key : κ) (f : ν → ν) {value : ν} (found : dict.get? key = some value) :
    ∃ before after, dict.values = before ++ value :: after ∧
      (dict.modify key f).values = before ++ f value :: after := by
  obtain ⟨entries, nodup⟩ := dict
  simp only [get?, values, modify, mapValues] at found ⊢
  induction entries with
  | nil => simp [find] at found
  | cons entry rest ih =>
      simp only [List.map_cons, List.nodup_cons] at nodup
      by_cases same : entry.1 = key
      · simp only [find, same, if_true, Option.some.injEq] at found
        refine ⟨[], rest.map Prod.snd, by simp [found], ?_⟩
        have untouched : ∀ other ∈ rest,
            (if other.1 = key then f other.2 else other.2) = other.2 := by
          intro other member
          have other_ne : other.1 ≠ key := fun equal =>
            nodup.1 (same ▸ equal ▸ List.mem_map_of_mem (f := Prod.fst) member)
          simp [other_ne]
        simp only [List.map_cons, List.map_map, same, if_true, found, List.nil_append,
          Function.comp_def]
        rw [List.map_congr_left untouched]
      · simp only [find, same, if_false] at found
        obtain ⟨before, after, split, split_modify⟩ := ih nodup.2 found
        refine ⟨entry.2 :: before, after, by simp [split], ?_⟩
        simpa [same] using split_modify

theorem modify_of_absent (key : κ) (f : ν → ν)
    (absent : dict.get? key = none) : (dict.modify key f).values = dict.values := by
  have key_ne : ∀ entry ∈ dict.entries, entry.1 ≠ key := by
    rintro ⟨other, value⟩ member rfl
    rw [mem_entries_iff] at member
    simp [absent] at member
  simp only [values, modify, mapValues, List.map_map]
  refine List.map_congr_left fun entry member => ?_
  simp [key_ne entry member]

theorem values_set_of_absent (key : κ) (value : ν) (absent : dict.get? key = none) :
    (dict.set key value).values = dict.values ++ [value] := by
  simp [set, absent, values]

theorem values_set_of_present (key : κ) (value : ν) {old : ν} (found : dict.get? key = some old) :
    (dict.set key value).values = (dict.modify key fun _ => value).values := by
  simp [set, found]

theorem set_of_same {key : κ} {value : ν} (found : dict.get? key = some value) :
    dict.set key value = dict := by
  have unchanged : ∀ entry ∈ dict.entries,
      (entry.1, if entry.1 = key then value else entry.2) = entry := by
    rintro ⟨other, old⟩ member
    rw [mem_entries_iff] at member
    by_cases same : other = key
    · subst same
      rw [member] at found
      cases found
      simp
    · simp [same]
  have entries_eq : (dict.set key value).entries = dict.entries := by
    simp only [set, found, modify, mapValues]
    exact (List.map_congr_left unchanged).trans (List.map_id _)
  exact Dict.ext entries_eq

theorem filter_key (key : κ) :
    dict.entries.filter (fun entry => entry.1 = key) = (dict.get? key).toList.map (key, ·) := by
  obtain ⟨entries, nodup⟩ := dict
  simp only [get?]
  induction entries with
  | nil => rfl
  | cons entry rest ih =>
      simp only [List.map_cons, List.nodup_cons] at nodup
      by_cases same : entry.1 = key
      · have absent : rest.filter (fun other => other.1 = key) = [] := by
          rw [List.filter_eq_nil_iff]
          intro other member equal
          refine nodup.1 ?_
          rw [same, ← of_decide_eq_true equal]
          exact List.mem_map_of_mem member
        rw [List.filter_cons_of_pos (by simpa using same), absent]
        subst same
        simp [find]
      · rw [List.filter_cons_of_neg (by simpa using same), ih nodup.2]
        simp [find, same]

theorem filter_values_of_key (key : κ) (p : ν → Bool)
    (only : ∀ other value, dict.get? other = some value → p value → other = key) :
    dict.values.filter p = (dict.get? key).toList.filter p := by
  have keyed : ∀ entry ∈ dict.entries, p entry.2 = (p entry.2 && decide (entry.1 = key)) := by
    rintro ⟨other, value⟩ member
    cases holds : p value with
    | false => rfl
    | true => simp [only other value ((mem_entries_iff dict other value).mp member) holds]
  calc dict.values.filter p
      = (dict.entries.filter fun entry => p entry.2).map Prod.snd := by
        simp [values, List.filter_map, Function.comp_def]
    _ = ((dict.entries.filter fun entry => entry.1 = key).filter fun entry => p entry.2).map
          Prod.snd := by rw [List.filter_filter, List.filter_congr keyed]
    _ = (dict.get? key).toList.filter p := by
        rw [filter_key]
        cases dict.get? key with
        | none => rfl
        | some value => cases holds : p value <;> simp [holds]

section Count

variable (dict : Dict κ ν) (key : κ) (p : ν → Bool)

theorem countP_modify_le_succ (f : ν → ν) :
    (dict.modify key f).values.countP p ≤ dict.values.countP p + 1 := by
  cases found : dict.get? key with
  | none =>
      rw [modify_of_absent dict key f found]
      omega
  | some value =>
      obtain ⟨before, after, split, changed⟩ := values_modify_split dict key f found
      rw [split, changed]
      simp only [List.countP_append, List.countP_cons]
      split <;> split <;> omega

theorem countP_modify_le (f : ν → ν)
    (counted : ∀ value, dict.get? key = some value → p (f value) → p value) :
    (dict.modify key f).values.countP p ≤ dict.values.countP p := by
  cases found : dict.get? key with
  | none => rw [modify_of_absent dict key f found]
  | some value =>
      have implied := counted value found
      obtain ⟨before, after, split, changed⟩ := values_modify_split dict key f found
      rw [split, changed]
      simp only [List.countP_append, List.countP_cons]
      split
      · rename_i counts
        rw [if_pos (implied counts)]
      · omega

theorem countP_set_le {value : ν} (uncounted : p value = false) :
    (dict.set key value).values.countP p ≤ dict.values.countP p := by
  cases found : dict.get? key with
  | none =>
      rw [values_set_of_absent dict key value found]
      simp [uncounted]
  | some old =>
      rw [values_set_of_present dict key value found]
      exact countP_modify_le dict key p _ fun _ _ counts => by simp [uncounted] at counts

omit [DecidableEq κ] in
theorem countP_mapValues_le (f : κ → ν → ν) (counted : ∀ key value, p (f key value) → p value) :
    (dict.mapValues f).values.countP p ≤ dict.values.countP p := by
  rw [values_mapValues, values, List.countP_map, List.countP_map]
  exact List.countP_mono_left fun entry _ counts => counted entry.1 entry.2 counts

end Count

end Dict

end SkillCentric
