import SkillCentric.Crm.CrmRoutes

/-!
# Write routes

Every path of the allowlists is read back into its segments.  The branch that takes the paths of an
expression is computed from both descriptions; only the deletion of a user has none.
-/

namespace SkillCentric.Crm.CrmRoutes

open SkillCentric Slug

def Piece.fits : Piece → Text → Bool
  | lit text, segment => decide (segment = text)
  | anyCase text, segment => decide (segment.map Char.toLower = text)
  | digits, segment => !segment.isEmpty && segment.all isDecimal
  | code, segment => !segment.isEmpty && segment.all isCodeChar
  | codePath, segment => !segment.isEmpty && segment.all isCodePathChar

variable {previous : Option Char} {text taken : Text} {pieces : List Piece} {path : Text}
  {segments : List Text} {segment : Text} {route : List (Slot Text)}

theorem all_of_mem_takes_some1 {accepts : Char → Bool}
    (among : taken ∈ (Pattern.some1 accepts).takes previous text) :
    (!taken.isEmpty && taken.all accepts) = true := by
  obtain ⟨starts, least⟩ := Pattern.mem_takes_run.mp among
  rw [Bool.and_eq_true, Bool.not_eq_true', List.all_eq_true]
  constructor
  · cases taken with
    | nil => exact absurd least (by decide)
    | cons c rest => rfl
  · intro c member
    exact List.mem_takeWhile_imp (starts.subset member)

theorem map_toLower_of_mem_takes {word : Text}
    (among : taken ∈ (Piece.anyCase word).pattern.takes previous text) :
    taken.map Char.toLower = word := by
  rw [Piece.pattern, Pattern.spelled] at among
  induction word generalizing previous text taken with
  | nil =>
      rw [List.mem_singleton.mp among]
      rfl
  | cons c word ih =>
      cases word with
      | nil =>
          obtain ⟨other, rest, -, same, rfl⟩ := Pattern.mem_takes_one.mp among
          rw [List.map_singleton, beq_iff_eq.mp same]
      | cons next word =>
          obtain ⟨front, inFront, back, inBack, rfl⟩ := Pattern.mem_takes_next.mp among
          obtain ⟨other, rest, -, same, rfl⟩ := Pattern.mem_takes_one.mp inFront
          rw [List.map_append, ih inBack, List.map_singleton, beq_iff_eq.mp same]
          rfl

theorem fits_of_mem_takes {piece : Piece}
    (among : taken ∈ piece.pattern.takes previous text) : piece.fits taken = true := by
  cases piece with
  | lit word => exact decide_eq_true (Pattern.eq_of_mem_takes_literal among)
  | anyCase word => exact decide_eq_true (map_toLower_of_mem_takes among)
  | digits => exact all_of_mem_takes_some1 among
  | code => exact all_of_mem_takes_some1 among
  | codePath => exact all_of_mem_takes_some1 among

theorem eq_nil_of_mem_splits_atEnd {text : Text} {parts : List Text}
    (among : parts ∈ Pattern.splits [atEnd] previous text) : text = [] := by
  obtain ⟨taken, inTakes, -⟩ := Pattern.mem_splits_cons.mp among
  rw [atEnd, Pattern.takes] at inTakes
  cases text with
  | nil => rfl
  | cons c rest => cases inTakes

theorem exists_segments_of_mem_splits
    {parts : List Text} (among : parts ∈ Pattern.splits (regex pieces) previous path) :
    ∃ segments,
      List.Forall₂ (fun piece segment => Piece.fits piece segment = true) pieces segments ∧
      path = slashJoin segments := by
  induction pieces generalizing previous path parts with
  | nil => exact ⟨[], .nil, eq_nil_of_mem_splits_atEnd among⟩
  | cons piece pieces ih =>
      cases pieces with
      | nil =>
          obtain ⟨taken, inTakes, others, inOthers, -⟩ := Pattern.mem_splits_cons.mp among
          obtain ⟨rest, rfl⟩ := Pattern.prefix_of_mem_takes inTakes
          rw [List.drop_left] at inOthers
          refine ⟨[taken], .cons (fits_of_mem_takes inTakes) .nil, ?_⟩
          rw [eq_nil_of_mem_splits_atEnd inOthers, List.append_nil, slashJoin,
            List.intercalate_singleton]
      | cons next pieces =>
          obtain ⟨taken, inTakes, others, inOthers, -⟩ := Pattern.mem_splits_cons.mp among
          obtain ⟨rest, rfl⟩ := Pattern.prefix_of_mem_takes inTakes
          rw [List.drop_left] at inOthers
          obtain ⟨slash, inSlash, later, inLater, -⟩ := Pattern.mem_splits_cons.mp inOthers
          obtain ⟨back, rfl⟩ := Pattern.prefix_of_mem_takes inSlash
          rw [List.drop_left] at inLater
          obtain ⟨segments, fit, rfl⟩ := ih inLater
          refine ⟨taken :: segments, .cons (fits_of_mem_takes inTakes) fit, ?_⟩
          cases segments with
          | nil => cases fit
          | cons segment segments =>
              rw [Pattern.eq_of_mem_takes_literal inSlash, slashJoin_cons_cons]
              rfl

theorem exists_segments_of_test (tested : test pieces path = true) :
    ∃ segments,
      List.Forall₂ (fun piece segment => Piece.fits piece segment = true) pieces segments ∧
      path = slashJoin segments := by
  obtain ⟨parts, found⟩ := Option.isSome_iff_exists.mp tested
  exact exists_segments_of_mem_splits (List.mem_of_mem_head? (Option.mem_def.mpr found))

theorem partsOf_slashJoin (nonempty : segments ≠ [])
    (plain : ∀ segment ∈ segments, segment ≠ [] ∧ '/' ∉ segment) :
    partsOf ('/' :: slashJoin segments) = segments := by
  have whole : '/' :: slashJoin segments = slashJoin ([] :: segments) := by
    cases segments with
    | nil => exact absurd rfl nonempty
    | cons segment rest => rfl
  have split : ('/' :: slashJoin segments).splitOn '/' = [] :: segments := by
    rw [whole]
    refine splitOn_slashJoin (List.cons_ne_nil _ _) ?_
    intro part member
    rcases List.mem_cons.mp member with rfl | later
    · exact List.not_mem_nil
    · exact (plain part later).2
  rw [partsOf, split, List.filter_cons_of_neg (by decide), List.filter_eq_self]
  intro part member
  have filled := (plain part member).1
  simpa using filled

def Piece.slot : Piece → Slot Text
  | lit text => .lit text
  | anyCase text => .lit text
  | codePath => .var fun segment => codePath.fits segment && decide ('/' ∉ segment)
  | piece => .var piece.fits

def plainPieces (pieces : List Piece) : Bool :=
  pieces.all fun
    | .lit text => decide (text ≠ [] ∧ '/' ∉ text)
    | .anyCase text => decide (text ≠ [] ∧ '/' ∉ text)
    | _ => true

theorem not_slash_of_all {accepts : Char → Bool} (no : accepts '/' = false)
    (all : segment.all accepts = true) : '/' ∉ segment := by
  intro member
  have slash := List.all_eq_true.mp all _ member
  rw [no] at slash
  cases slash

theorem plain_of_fits (piece : Piece) (plain : plainPieces [piece] = true)
    (fit : piece.slot.fits segment = true) : segment ≠ [] ∧ '/' ∉ segment := by
  have filled {accepts : Char → Bool} (fit : (!segment.isEmpty && segment.all accepts) = true) :
      segment ≠ [] ∧ segment.all accepts = true := by
    rw [Bool.and_eq_true, Bool.not_eq_true', List.isEmpty_eq_false_iff] at fit
    exact fit
  cases piece with
  | lit text =>
      obtain rfl := of_decide_eq_true fit
      simpa [plainPieces] using plain
  | anyCase text =>
      obtain rfl := of_decide_eq_true fit
      simpa [plainPieces] using plain
  | digits => exact ⟨(filled fit).1, not_slash_of_all (by decide) (filled fit).2⟩
  | code => exact ⟨(filled fit).1, not_slash_of_all (by decide) (filled fit).2⟩
  | codePath =>
      obtain ⟨fit, single⟩ := (Bool.and_eq_true _ _).mp fit
      exact ⟨(filled fit).1, of_decide_eq_true single⟩

theorem plain_of_described
    (plain : plainPieces pieces = true) (described : Slot.Fits (pieces.map Piece.slot) segments) :
    ∀ segment ∈ segments, segment ≠ [] ∧ '/' ∉ segment := by
  induction pieces generalizing segments with
  | nil =>
      cases described
      exact fun _ member => absurd member List.not_mem_nil
  | cons piece pieces ih =>
      cases described with
      | cons fit described =>
          rw [plainPieces, List.all_cons, Bool.and_eq_true] at plain
          refine List.forall_mem_cons.mpr ⟨plain_of_fits piece ?_ fit,
            ih plain.2 described⟩
          rw [plainPieces, List.all_cons, plain.1]
          rfl

/-- A `POST` of a path reaches a function, whose arguments are the segments after their names, and
every number of the path is one of them. -/
def Dispatched (path : Text) : Prop :=
  ∃ handler args, dispatch path = some (handler, args) ∧
    args.map some = handler.params.map (fun name => Slot.following name (partsOf path).tail) ∧
    ∀ part ∈ partsOf path, part.all isDecimal = true → part ∈ args

def numbersPassed (args : List Nat) : Nat → List (Slot Text) → Bool
  | _, [] => true
  | i, .lit text :: rest => !text.all isDecimal && numbersPassed args (i + 1) rest
  | i, .var _ :: rest => decide (i ∈ args) && numbersPassed args (i + 1) rest

def routeOk (route : List (Slot Text)) : Bool :=
  match Slot.resolve Branch.segments route postBranches with
  | none => false
  | some branch =>
      decide (branch.args.map some =
        branch.handler.params.map fun name => (Slot.followingIndex name route.tail).map (· + 1)) &&
      branch.args.all (fun i => decide (i < route.length)) && numbersPassed branch.args 0 route

theorem mem_args_of_numbersPassed {args : List Nat} {offset : Nat}
    (before : List Text) (passed : numbersPassed args offset route = true)
    (size : before.length = offset) (described : Slot.Fits route segments) :
    ∀ part ∈ segments, part.all isDecimal = true →
      part ∈ args.map fun i => (before ++ segments).getD i [] := by
  induction described generalizing offset before with
  | nil => exact fun _ member => absurd member List.not_mem_nil
  | @cons slot segment route segments fit described ih =>
      have next : before ++ segment :: segments = (before ++ [segment]) ++ segments := by simp
      have later (rest : numbersPassed args (offset + 1) route = true) :=
        ih (before ++ [segment]) rest (by simp [size])
      intro part member number
      rw [next]
      cases slot with
      | lit text =>
          rw [numbersPassed, Bool.and_eq_true] at passed
          rcases List.mem_cons.mp member with rfl | other
          · obtain rfl := of_decide_eq_true fit
            rw [number] at passed
            exact absurd passed.1 (by decide)
          · exact later passed.2 part other number
      | var accepts =>
          rw [numbersPassed, Bool.and_eq_true, decide_eq_true_eq] at passed
          rcases List.mem_cons.mp member with rfl | other
          · refine List.mem_map.mpr ⟨offset, passed.1, ?_⟩
            rw [← next, List.getD_eq_getElem?_getD, List.getElem?_append_right size.le, size,
              Nat.sub_self]
            rfl
          · exact later passed.2 part other number

theorem dispatched_of_routeOk
    (described : Slot.Fits route (partsOf path)) (ok : routeOk route = true) : Dispatched path := by
  unfold routeOk at ok
  split at ok
  · cases ok
  rename_i branch resolved
  rw [Bool.and_eq_true, Bool.and_eq_true, decide_eq_true_eq] at ok
  obtain ⟨⟨named, within⟩, passed⟩ := ok
  have found := Slot.find?_eq_of_resolve Branch.segments described resolved
  refine ⟨branch.handler, branch.args.map fun i => (partsOf path).getD i [], ?_, ?_,
    mem_args_of_numbersPassed [] passed rfl described⟩
  · rw [dispatch, found]
    rfl
  · -- each argument stands where its name is followed
    have length := described.length_eq
    have tail : Slot.Fits route.tail (partsOf path).tail := by
      generalize partsOf path = parts at described
      cases described with
      | nil => exact .nil
      | cons _ rest => exact rest
    have read := congrArg (List.map fun index : Option Nat =>
      index.map fun i => (partsOf path).getD i []) named
    rw [List.map_map, List.map_map] at read
    rw [List.map_map]
    refine read.trans (List.map_congr_left fun name member => ?_)
    obtain ⟨i, argument, index⟩ := List.mem_map.mp (named ▸ List.mem_map_of_mem member)
    obtain ⟨j, after, rfl⟩ := Option.map_eq_some_iff.mp index.symm
    have bound := of_decide_eq_true (List.all_eq_true.mp within _ argument)
    rw [Slot.following_eq tail after]
    simp only [Function.comp_apply, after, Option.map_some, List.getElem?_tail]
    rw [List.getD_eq_getElem?_getD, List.getElem?_eq_getElem (by omega), Option.getD_some]

theorem not_dispatched_of_excludes (described : Slot.Fits route (partsOf path))
    (excluded : postBranches.all (fun entry => Slot.excludes route entry.segments) = true) :
    ¬ Dispatched path := by
  rintro ⟨handler, args, found, -⟩
  rw [dispatch, Slot.find?_eq_none_of_excludes Branch.segments described excluded] at found
  cases found

/-- The path that a proxy calls. -/
def target (kind : ProxyKind) (path : Text) : Text := '/' :: (kind.text ++ '/' :: path)

theorem partsOf_target (kind : ProxyKind) (nonempty : segments ≠ [])
    (plain : ∀ segment ∈ segments, segment ≠ [] ∧ '/' ∉ segment) :
    partsOf (target kind (slashJoin segments)) = kind.text :: segments := by
  have whole : target kind (slashJoin segments) = '/' :: slashJoin (kind.text :: segments) := by
    cases segments with
    | nil => exact absurd rfl nonempty
    | cons segment rest => rw [target, slashJoin_cons_cons]
  have plainKind : kind.text ≠ [] ∧ '/' ∉ kind.text := by cases kind <;> decide
  rw [whole, partsOf_slashJoin (List.cons_ne_nil _ _) (List.forall_mem_cons.mpr ⟨plainKind, plain⟩)]

/-- No letter before the last slash is in upper case. -/
def wordsLower (path : Text) : Bool :=
  (path.splitOn '/').dropLast.all fun segment => segment.all fun c => !c.isUpper

private theorem toLower_eq_self {c : Char} (small : c.isUpper = false) : c.toLower = c :=
  dif_neg (of_decide_eq_false small)

theorem eq_of_map_toLower {segment word : Text} (same : segment.map Char.toLower = word)
    (lower : segment.all (fun c => !c.isUpper) = true) : segment = word := by
  rw [← same]
  refine (List.map_id' segment).symm.trans (List.map_congr_left fun c member => ?_)
  have small : c.isUpper = false := by simpa using List.all_eq_true.mp lower c member
  exact (toLower_eq_self small).symm

def simplePieces (pieces : List Piece) : Bool :=
  pieces.all fun
    | .lit text => decide (text ≠ [] ∧ '/' ∉ text) && text.all fun c => !c.isUpper
    | .digits => true
    | _ => false

theorem simple_of_fits (piece : Piece) (simple : simplePieces [piece] = true)
    (fit : piece.fits segment = true) :
    piece.slot.fits segment = true ∧ (segment ≠ [] ∧ '/' ∉ segment) ∧
      segment.all (fun c => !c.isUpper) = true := by
  rw [simplePieces, List.all_cons, List.all_nil, Bool.and_true] at simple
  cases piece with
  | lit text =>
      obtain rfl := of_decide_eq_true fit
      rw [Bool.and_eq_true, decide_eq_true_eq] at simple
      exact ⟨decide_eq_true rfl, simple⟩
  | digits =>
      refine ⟨fit, plain_of_fits .digits rfl fit, ?_⟩
      rw [Piece.fits, Bool.and_eq_true] at fit
      refine List.all_eq_true.mpr fun c member => ?_
      have digit := List.all_eq_true.mp fit.2 c member
      rw [isDecimal, Bool.and_eq_true, decide_eq_true_eq, decide_eq_true_eq] at digit
      have small : c.isUpper = false := by
        change decide _ = false
        rw [decide_eq_false_iff_not]
        exact fun letter => absurd (letter.1.trans digit.2) (by decide)
      rw [small]
      rfl
  | anyCase | code | codePath => cases simple

theorem simple_of_described (simple : simplePieces pieces = true)
    (fit : List.Forall₂ (fun piece segment => Piece.fits piece segment = true) pieces segments) :
    Slot.Fits (pieces.map Piece.slot) segments ∧
      ∀ segment ∈ segments, (segment ≠ [] ∧ '/' ∉ segment) ∧
        segment.all (fun c => !c.isUpper) = true := by
  induction fit with
  | nil => exact ⟨.nil, fun _ member => absurd member List.not_mem_nil⟩
  | @cons piece segment pieces segments fit rest ih =>
      rw [simplePieces, List.all_cons, Bool.and_eq_true] at simple
      obtain ⟨slots, plain⟩ := ih simple.2
      obtain ⟨slot, here⟩ := simple_of_fits piece
        (by rw [simplePieces, List.all_cons, simple.1]; rfl) fit
      exact ⟨.cons slot slots, List.forall_mem_cons.mpr ⟨here, plain⟩⟩

def routeOf (kind : ProxyKind) (pieces : List Piece) : List (Slot Text) :=
  .lit kind.text :: pieces.map Piece.slot

theorem fits_lit (text : Text) : (Slot.lit text).fits text = true := decide_eq_true rfl

theorem exists_segments_of_simple (nonempty : pieces ≠ [])
    (simple : simplePieces pieces = true) (tested : test pieces path = true) :
    ∃ segments, path = slashJoin segments ∧ segments ≠ [] ∧
      Slot.Fits (pieces.map Piece.slot) segments ∧
      (∀ segment ∈ segments, segment ≠ [] ∧ '/' ∉ segment) ∧
      ∀ segment ∈ segments, segment.all (fun c => !c.isUpper) = true := by
  obtain ⟨segments, fit, rfl⟩ := exists_segments_of_test tested
  obtain ⟨slots, each⟩ := simple_of_described simple fit
  refine ⟨segments, rfl, ?_, slots, fun segment member => (each segment member).1,
    fun segment member => (each segment member).2⟩
  rintro rfl
  cases fit
  exact nonempty rfl

theorem dispatched_of_simple {kind : ProxyKind}
    (nonempty : pieces ≠ []) (simple : simplePieces pieces = true)
    (ok : routeOk (routeOf kind pieces) = true) (tested : test pieces path = true) :
    Dispatched (target kind path) ∧ wordsLower path = true := by
  obtain ⟨segments, rfl, filled, slots, plain, lower⟩ :=
    exists_segments_of_simple nonempty simple tested
  constructor
  · refine dispatched_of_routeOk ?_ ok
    rw [partsOf_target kind filled plain]
    exact .cons (fits_lit _) slots
  · rw [wordsLower, splitOn_slashJoin filled fun segment member => (plain segment member).2,
      List.all_eq_true]
    intro segment member
    exact lower segment (List.mem_of_mem_dropLast member)

/-- The expression of the paths that delete a user. -/
def userDeletion : List Piece := [.lit "users".toList, .digits, .lit "delete".toList]

theorem not_dispatched_of_userDeletion (tested : test userDeletion path = true) :
    ¬ Dispatched (target .admin path) := by
  obtain ⟨segments, rfl, filled, slots, plain, -⟩ :=
    exists_segments_of_simple (by decide) (by decide) tested
  refine not_dispatched_of_excludes ?_ (show postBranches.all (fun entry =>
    Slot.excludes (routeOf .admin userDeletion) entry.segments) = true by decide)
  rw [partsOf_target .admin filled plain]
  exact .cons (fits_lit _) slots

/-- The expression of the paths of a section, under the flag `i`. -/
def sectionPieces (name : Text) : List Piece :=
  [.anyCase name, .digits, .anyCase "sections".toList, .code]

def otherSpelling (word : Text) : Slot Text :=
  .var fun segment => (Piece.anyCase word).fits segment && decide (segment ≠ word)

def sectionRoute (first third : Slot Text) : List (Slot Text) :=
  [.lit ProxyKind.customers.text, first, Piece.digits.slot, third, Piece.code.slot]

theorem fits_var {accepts : Text → Bool} (accepted : accepts segment = true) :
    (Slot.var accepts).fits segment = true := accepted

theorem plain_of_anyCase {word segment : Text} (plain : word ≠ [] ∧ '/' ∉ word)
    (fit : (Piece.anyCase word).fits segment = true) : segment ≠ [] ∧ '/' ∉ segment := by
  obtain rfl := of_decide_eq_true fit
  constructor
  · rintro rfl
    exact plain.1 rfl
  · intro member
    have slash : Char.toLower '/' ∈ segment.map Char.toLower := List.mem_map_of_mem member
    exact plain.2 slash

theorem dispatched_section_iff {name path : Text} (plain : name ≠ [] ∧ '/' ∉ name)
    (small : name.all (fun c => !c.isUpper) = true)
    (ok : routeOk (routeOf .customers (sectionPieces name)) = true)
    (first : postBranches.all (fun entry => Slot.excludes
      (sectionRoute (otherSpelling name) (.var (Piece.anyCase "sections".toList).fits))
        entry.segments) = true)
    (third : postBranches.all (fun entry => Slot.excludes
      (sectionRoute (.var (Piece.anyCase name).fits) (otherSpelling "sections".toList))
        entry.segments) = true)
    (tested : test (sectionPieces name) path = true) :
    Dispatched (target .customers path) ↔ wordsLower path = true := by
  obtain ⟨segments, fit, rfl⟩ := exists_segments_of_test tested
  obtain ⟨record, segments, atRecord, fits, rfl⟩ := List.forall₂_cons_left_iff.mp fit
  obtain ⟨number, segments, atNumber, later, rfl⟩ := List.forall₂_cons_left_iff.mp fits
  obtain ⟨word, segments, atWord, last, rfl⟩ := List.forall₂_cons_left_iff.mp later
  obtain ⟨code, segments, atCode, none, rfl⟩ := List.forall₂_cons_left_iff.mp last
  obtain rfl := List.forall₂_nil_left_iff.mp none
  have each : ∀ segment ∈ [record, number, word, code], segment ≠ [] ∧ '/' ∉ segment := by
    refine List.forall_mem_cons.mpr ⟨plain_of_anyCase plain atRecord, List.forall_mem_cons.mpr
      ⟨plain_of_fits .digits rfl atNumber, List.forall_mem_cons.mpr
        ⟨plain_of_anyCase (by decide) atWord,
          List.forall_mem_cons.mpr ⟨plain_of_fits .code rfl atCode, ?_⟩⟩⟩⟩
    exact fun _ member => absurd member List.not_mem_nil
  have parts := partsOf_target .customers (List.cons_ne_nil _ _) each
  have numberSmall := (simple_of_fits .digits rfl atNumber).2.2
  have sectionsSmall : ("sections".toList : Text).all (fun c => !c.isUpper) = true := by decide
  have lower : wordsLower (slashJoin [record, number, word, code]) = true ↔
      record.all (fun c => !c.isUpper) = true ∧ word.all (fun c => !c.isUpper) = true := by
    rw [wordsLower, splitOn_slashJoin (List.cons_ne_nil _ _) fun segment member =>
      (each segment member).2]
    simp only [List.dropLast_cons_cons, List.dropLast_singleton, List.all_cons, List.all_nil,
      numberSmall, Bool.true_and, Bool.and_true, Bool.and_eq_true]
  rw [lower]
  constructor
  · intro dispatched
    by_contra other
    rcases not_and_or.mp other with upper | upper
    · refine not_dispatched_of_excludes ?_ first dispatched
      rw [parts]
      have apart : record ≠ name := by
        rintro rfl
        exact upper small
      exact .cons (fits_lit _) (.cons (fits_var (by rw [atRecord, decide_eq_true apart]; rfl))
        (.cons atNumber (.cons atWord (.cons atCode .nil))))
    · refine not_dispatched_of_excludes ?_ third dispatched
      rw [parts]
      have apart : word ≠ "sections".toList := by
        rintro rfl
        exact upper sectionsSmall
      exact .cons (fits_lit _) (.cons atRecord (.cons atNumber
        (.cons (fits_var (by rw [atWord, decide_eq_true apart]; rfl)) (.cons atCode .nil))))
  · rintro ⟨recordSmall, wordSmall⟩
    obtain rfl := eq_of_map_toLower (of_decide_eq_true atRecord) recordSmall
    obtain rfl := eq_of_map_toLower (of_decide_eq_true atWord) wordSmall
    refine dispatched_of_routeOk ?_ ok
    rw [parts]
    exact .cons (fits_lit _) (.cons (fits_lit _) (.cons atNumber
      (.cons (fits_lit _) (.cons atCode .nil))))

def sectionAction (name : Text) : List Piece :=
  [.lit "customers".toList, .lit name, .digits, .lit "sections".toList, .codePath]

/-- The section code of a path is one segment. -/
def SingleSegment (path : Text) : Prop :=
  ∀ front code : Text, path = front ++ "/sections/".toList ++ code → '/' ∉ code

theorem dispatched_of_simpleAction (nonempty : pieces ≠ [])
    (simple : simplePieces pieces = true) (ok : routeOk (pieces.map Piece.slot) = true)
    (tested : test pieces path = true) : Dispatched ('/' :: path) := by
  obtain ⟨segments, rfl, filled, slots, plain, -⟩ :=
    exists_segments_of_simple nonempty simple tested
  refine dispatched_of_routeOk ?_ ok
  rw [partsOf_slashJoin filled plain]
  exact slots

theorem dispatched_of_sectionAction {name path : Text} (plain : name ≠ [] ∧ '/' ∉ name)
    (ok : routeOk ((sectionAction name).map Piece.slot) = true)
    (tested : test (sectionAction name) path = true) (single : SingleSegment path) :
    Dispatched ('/' :: path) := by
  obtain ⟨segments, fit, rfl⟩ := exists_segments_of_test tested
  obtain ⟨area, segments, atArea, fits, rfl⟩ := List.forall₂_cons_left_iff.mp fit
  obtain ⟨record, segments, atRecord, rest, rfl⟩ := List.forall₂_cons_left_iff.mp fits
  obtain ⟨number, segments, atNumber, later, rfl⟩ := List.forall₂_cons_left_iff.mp rest
  obtain ⟨word, segments, atWord, last, rfl⟩ := List.forall₂_cons_left_iff.mp later
  obtain ⟨code, segments, atCode, none, rfl⟩ := List.forall₂_cons_left_iff.mp last
  obtain rfl := List.forall₂_nil_left_iff.mp none
  obtain rfl := of_decide_eq_true atArea
  obtain rfl := of_decide_eq_true atRecord
  obtain rfl := of_decide_eq_true atWord
  have whole : '/' ∉ code := by
    refine single (slashJoin ["customers".toList, record, number]) code ?_
    simp only [slashJoin_cons_cons]
    simp [slashJoin]
  have slots : Slot.Fits ((sectionAction record).map Piece.slot)
      ["customers".toList, record, number, "sections".toList, code] :=
    .cons (fits_lit _) (.cons (fits_lit _) (.cons atNumber (.cons (fits_lit _) (.cons
      (fits_var (by rw [atCode, decide_eq_true whole]; rfl)) .nil))))
  have pieces : plainPieces (sectionAction record) = true := by
    simpa [plainPieces, sectionAction] using plain
  refine dispatched_of_routeOk ?_ ok
  rw [partsOf_slashJoin (List.cons_ne_nil _ _) (plain_of_described pieces slots)]
  exact slots

theorem allowedWritePaths_cases (kind : ProxyKind) (among : pieces ∈ allowedWritePaths kind) :
    (kind = .admin ∧ pieces = userDeletion) ∨
      (pieces ≠ [] ∧ simplePieces pieces = true ∧ routeOk (routeOf kind pieces) = true) ∨
      (kind = .customers ∧
        (pieces = sectionPieces "customers".toList ∨ pieces = sectionPieces "cases".toList)) := by
  have every : ∀ pieces ∈ allowedWritePaths kind, (kind = .admin ∧ pieces = userDeletion) ∨
      (pieces ≠ [] ∧ simplePieces pieces = true ∧ routeOk (routeOf kind pieces) = true) ∨
      (kind = .customers ∧
        (pieces = sectionPieces "customers".toList ∨ pieces = sectionPieces "cases".toList)) := by
    cases kind <;> decide
  exact every pieces among

theorem actionAllowlist_cases (among : pieces ∈ actionAllowlist) :
    (pieces ≠ [] ∧ simplePieces pieces = true ∧ routeOk (pieces.map Piece.slot) = true) ∨
      pieces = sectionAction "customers".toList ∨ pieces = sectionAction "cases".toList := by
  have every : ∀ pieces ∈ actionAllowlist,
      (pieces ≠ [] ∧ simplePieces pieces = true ∧ routeOk (pieces.map Piece.slot) = true) ∨
      pieces = sectionAction "customers".toList ∨ pieces = sectionAction "cases".toList := by
    decide
  exact every pieces among

theorem dispatched_write_iff {kind : ProxyKind} (allowed : allowedForWrite kind path = true) :
    Dispatched (target kind path) ↔
      ¬(kind = .admin ∧ test userDeletion path = true) ∧ wordsLower path = true := by
  obtain ⟨pieces, among, tested⟩ := List.any_eq_true.mp allowed
  have no : kind = .admin ∧ test userDeletion path = true → ¬ Dispatched (target kind path) := by
    rintro ⟨rfl, deletion⟩
    exact not_dispatched_of_userDeletion deletion
  rcases allowedWritePaths_cases kind among with
    ⟨rfl, rfl⟩ | ⟨nonempty, simple, ok⟩ | ⟨rfl, sections⟩
  · constructor
    · exact fun dispatched => absurd dispatched (no ⟨rfl, tested⟩)
    · exact fun other => absurd ⟨rfl, tested⟩ other.1
  · obtain ⟨dispatched, lower⟩ := dispatched_of_simple nonempty simple ok tested
    exact ⟨fun _ => ⟨fun deletion => no deletion dispatched, lower⟩, fun _ => dispatched⟩
  · have other : ¬(ProxyKind.customers = .admin ∧ test userDeletion path = true) :=
      fun deletion => by cases deletion.1
    rw [and_iff_right other]
    rcases sections with rfl | rfl
    · exact dispatched_section_iff (by decide) (by decide) (by decide) (by decide)
        (by decide) tested
    · exact dispatched_section_iff (by decide) (by decide) (by decide) (by decide)
        (by decide) tested

/-- Allowed paths of the proxies are dispatched apart from the deletion of a user and from words in
other spellings, and allowed actions with one segment as section code always are. -/
theorem writes_dispatched_iff (path : Text) :
    (∀ kind, allowedForWrite kind path = true →
      (Dispatched (target kind path) ↔
        ¬(kind = .admin ∧ test userDeletion path = true) ∧ wordsLower path = true)) ∧
      (allowedActionPath path = true → SingleSegment path → Dispatched ('/' :: path)) := by
  constructor
  · intro kind allowed
    exact dispatched_write_iff allowed
  · intro allowed single
    obtain ⟨pieces, among, tested⟩ := List.any_eq_true.mp allowed
    rcases actionAllowlist_cases among with ⟨nonempty, simple, ok⟩ | rfl | rfl
    · exact dispatched_of_simpleAction nonempty simple ok tested
    · exact dispatched_of_sectionAction (by decide) (by decide) tested single
    · exact dispatched_of_sectionAction (by decide) (by decide) tested single

private theorem tasks_single : SingleSegment "overview/tasks".toList := by
  intro front code same
  have letter : 'c' ∈ "overview/tasks".toList := by
    rw [same]
    simp
  exact absurd letter (by decide)

theorem tasks_dispatched :
    Dispatched (target .overview "tasks/7/archive".toList) ∧ Dispatched "/overview/tasks".toList :=
  ⟨((writes_dispatched_iff "tasks/7/archive".toList).1 .overview (by decide)).mpr
      ⟨by decide, by decide⟩,
    (writes_dispatched_iff "overview/tasks".toList).2 (by decide) tasks_single⟩

/-- The deletion of a user and a section in capital letters are allowed and found nowhere. -/
theorem allowed_not_dispatched :
    (allowedForWrite .admin "users/5/delete".toList = true ∧
      dispatch (target .admin "users/5/delete".toList) = none) ∧
    allowedForWrite .customers "Customers/5/sections/notes".toList = true ∧
      dispatch (target .customers "Customers/5/sections/notes".toList) = none := by
  decide

end SkillCentric.Crm.CrmRoutes
