import SkillCentric.Crm.CrmProxy
import SkillCentric.Library.Stateful

/-!
# Confinement of the proxy

A forwarded request goes to the area of its kind just when reading the address changes nothing of
the checked path, and a redirect leaves the public origin just when another host follows its slash.
-/

namespace SkillCentric.Crm.CrmProxy

open SkillCentric Slug UrlPaths CrmRoutes

variable {η : Type} {hostOf : WebScheme → Text → Option η}

theorem safeDecodeSegment_slashes {segment decoded : Text}
    (safe : safeDecodeSegment segment = some decoded) : ∀ c ∈ decoded, isSlash c = false := by
  have kept := (Option.filter_eq_some_iff.mp safe).2
  simp only [Bool.and_eq_true, Bool.not_eq_true', List.contains_eq_mem,
    decide_eq_false_iff_not] at kept
  intro c member
  rw [isSlash, Bool.or_eq_false_iff, beq_eq_false_iff_ne, beq_eq_false_iff_ne]
  constructor
  · rintro rfl
    exact kept.1.1 member
  · rintro rfl
    exact kept.1.2 member

theorem isSlash_not_slash {text : Text} (slashes : ∀ c ∈ text, isSlash c = false) : '/' ∉ text :=
  fun member => absurd (slashes _ member) (by decide)

variable {segments decoded : List Text}

theorem decoded_slashes (safe : segments.mapM safeDecodeSegment = some decoded) :
    ∀ segment ∈ decoded, ∀ c ∈ segment, isSlash c = false := by
  intro segment member
  obtain ⟨source, -, decoded⟩ := (Stateful.mem_mapM safe segment).mp member
  exact safeDecodeSegment_slashes decoded

theorem checked_slashes (safe : segments.mapM safeDecodeSegment = some decoded) :
    ∀ segment ∈ (slashJoin decoded).splitOn '/', ∀ c ∈ segment, isSlash c = false := by
  have each := decoded_slashes safe
  cases decoded with
  | nil =>
      intro segment member
      rw [List.mem_singleton.mp member]
      exact fun _ inNil => absurd inNil List.not_mem_nil
  | cons first rest =>
      rw [splitOn_slashJoin (List.cons_ne_nil _ _) fun segment member =>
        isSlash_not_slash (each segment member)]
      exact each

/-- The address of the base and below it the area and the checked path. -/
structure Confined (hostOf : WebScheme → Text → Option η) (base : UpstreamBase) (kind : ProxyKind)
    (sent : UpstreamRequest η) : Prop where
  scheme : sent.upstream.scheme = base.scheme
  host : hostOf base.scheme base.authority = some sent.upstream.host
  path : sent.upstream.path =
    (base.path ++ kind.text :: sent.path.splitOn '/').map encode

/-- Segments that keep their meaning in an address. -/
structure Addressable (segments : List Text) : Prop where
  plain : ∀ segment ∈ segments, Plain segment
  breaks : ∀ segment ∈ segments, ∀ c ∈ segment, isBreak c = false
  ends : ∀ last ∈ segments.getLast?, ∀ c ∈ last.getLast?, isBlank c = false

instance (segments : List Text) : Decidable (Addressable segments) :=
  decidable_of_iff ((segments.all fun segment => decide (Plain segment)) = true ∧
      (segments.all fun segment => segment.all fun c => !isBreak c) = true ∧
      (segments.getLast?.all fun last => last.getLast?.all fun c => !isBlank c) = true)
    ⟨fun ⟨plain, breaks, ends⟩ => ⟨by simpa using plain, by simpa using breaks,
        by simpa [Option.all_eq_true] using ends⟩,
      fun keeps => ⟨by simpa using keeps.plain, by simpa using keeps.breaks,
        by simpa [Option.all_eq_true] using keeps.ends⟩⟩

theorem addressable_splitOn {segments : List Text} (plain : ∀ segment ∈ segments, '/' ∉ segment) :
    Addressable ((slashJoin segments).splitOn '/') ↔ Addressable segments := by
  cases segments with
  | nil => exact iff_of_true (by decide) (by decide)
  | cons first rest => rw [splitOn_slashJoin (List.cons_ne_nil _ _) plain]

theorem slashJoin_append {segments others : List Text} (filled : others ≠ []) :
    segments.flatMap ('/' :: ·) ++ '/' :: slashJoin others =
      '/' :: slashJoin (segments ++ others) := by
  induction segments with
  | nil => rfl
  | cons segment rest ih =>
      obtain ⟨first, more, split⟩ := List.exists_cons_of_ne_nil
        (List.append_ne_nil_of_right_ne_nil rest filled)
      rw [List.flatMap_cons, List.append_assoc, ih, List.cons_append, List.cons_append, split,
        slashJoin_cons_cons]

private theorem slashJoin_splitOn (text : Text) : slashJoin (text.splitOn '/') = text :=
  List.intercalate_splitOn '/'

theorem upstream_text (base : UpstreamBase) (kind : ProxyKind) (path : Text) :
    base.text ++ '/' :: (kind.text ++ '/' :: path) = '/' :: '/' ::
      (base.authority ++ '/' :: slashJoin (base.path ++ kind.text :: path.splitOn '/')) := by
  obtain ⟨first, more, split⟩ := List.exists_cons_of_ne_nil (List.splitOn_ne_nil '/' path)
  have tail : kind.text ++ '/' :: path = slashJoin (kind.text :: path.splitOn '/') := by
    rw [split, slashJoin_cons_cons, ← split, slashJoin_splitOn]
  rw [UpstreamBase.text, tail, ← slashJoin_append (List.cons_ne_nil _ _)]
  simp only [List.cons_append, List.append_assoc]

theorem kind_plain (kind : ProxyKind) : Plain kind.text ∧
    (∀ c ∈ kind.text, isSlash c = false) ∧ ∀ c ∈ kind.text, isBreak c = false := by
  cases kind <;>
    exact ⟨by decide, all_not_iff.mp (by decide), all_not_iff.mp (by decide)⟩

theorem readable_iff (base : UpstreamBase) (kind : ProxyKind) {segments : List Text}
    (filled : segments ≠ []) :
    (cleanSegments (base.path ++ kind.text :: segments) = base.path ++ kind.text :: segments ∧
      ∀ segment ∈ base.path ++ kind.text :: segments, Plain segment) ↔ Addressable segments := by
  have last : (base.path ++ kind.text :: segments).getLast? = segments.getLast? := by
    rw [List.getLast?_append_of_ne_nil _ (List.cons_ne_nil _ _),
      List.getLast?_cons_of_ne_nil filled]
  rw [cleanSegments_eq_iff, last]
  simp only [List.forall_mem_append, List.forall_mem_cons]
  constructor
  · rintro ⟨⟨⟨-, -, breaks⟩, ends⟩, -, -, plain⟩
    exact ⟨plain, breaks, ends⟩
  · rintro ⟨plain, breaks, ends⟩
    exact ⟨⟨⟨base.breaks, (kind_plain kind).2.2, breaks⟩, ends⟩, base.plain, (kind_plain kind).1,
      plain⟩

theorem confined_iff {base : UpstreamBase} {kind : ProxyKind}
    {request : ProxyRequest} {sent : UpstreamRequest η}
    (safe : segments.mapM safeDecodeSegment = some decoded)
    (done : forwarded hostOf base kind segments request = some sent) :
    Confined hostOf base kind sent ↔ Addressable decoded := by
  have built := (Option.filter_eq_some_iff.mp done).1
  rw [buildUpstreamUrl] at built
  obtain ⟨other, same, built⟩ := Option.bind_eq_some_iff.mp built
  obtain rfl := Option.some.inj (same.symm.trans safe)
  split at built
  · cases built
  obtain ⟨upstream, read, built⟩ := Option.bind_eq_some_iff.mp built
  obtain rfl := Option.some.inj built
  rw [upstream_text, parse_authority base.named] at read
  obtain ⟨host, named, rfl⟩ := Option.map_eq_some_iff.mp read
  have slashes : ∀ segment ∈ base.path ++ kind.text :: (slashJoin other).splitOn '/',
      ∀ c ∈ segment, isSlash c = false := by
    simp only [List.forall_mem_append, List.forall_mem_cons]
    exact ⟨base.slashes, (kind_plain kind).2.1, checked_slashes safe⟩
  have filled := List.append_ne_nil_of_right_ne_nil base.path
    (List.cons_ne_nil kind.text ((slashJoin other).splitOn '/'))
  rw [← addressable_splitOn fun segment member =>
      isSlash_not_slash (decoded_slashes safe segment member),
    ← readable_iff base kind (List.splitOn_ne_nil '/' _), ← pathOf_clean_iff filled slashes]
  constructor
  · exact fun confined => confined.path
  · exact fun path => ⟨rfl, named, path⟩

/-- A return target whose slash another host follows. -/
def LeavesFor (hostOf : WebScheme → Text → Option η) (base : Address WebScheme η)
    (returnTo : Text) :
    Prop :=
  ∃ c after host, clean (returnTo.drop 1) = c :: after ∧ isSlash c = true ∧
    hostOf base.scheme (authorityOf after).1 = some host ∧ host ≠ base.host

/-- The origin of an address. -/
def origin (address : Address WebScheme η) : WebScheme × η := (address.scheme, address.host)

theorem origin_iff {base target : Address WebScheme η} {rest : Text}
    (read : parseFromRoot hostOf base rest = some target) :
    origin target = origin base ↔ ¬ LeavesFor hostOf base ('/' :: rest) := by
  have stays (path : List Text) : origin { base with path := path } = origin base := rfl
  rw [parseFromRoot] at read
  split at read
  · rename_i empty
    obtain rfl := Option.some.inj read
    refine iff_of_true rfl ?_
    rintro ⟨c, after, host, cleaned, -⟩
    rw [List.drop_one, List.tail_cons, empty] at cleaned
    cases cleaned
  · rename_i c after cleaned
    split at read
    · rename_i slash
      obtain ⟨host, named, rfl⟩ := Option.map_eq_some_iff.mp read
      rw [origin, origin, Prod.mk.injEq, and_iff_right rfl]
      constructor
      · rintro same ⟨_, _, other, again, -, found, apart⟩
        rw [List.drop_one, List.tail_cons, cleaned] at again
        cases again
        obtain rfl := Option.some.inj (found.symm.trans named)
        exact apart same
      · intro stays
        by_contra apart
        exact stays ⟨c, after, host, cleaned, slash, named, apart⟩
    · rename_i plain
      obtain rfl := Option.some.inj read
      refine iff_of_true rfl ?_
      rintro ⟨_, _, host, again, slash, -⟩
      rw [List.drop_one, List.tail_cons, cleaned] at again
      cases again
      exact plain slash

theorem redirect_iff {configured : Option (WebScheme × Text)} {request : ProxyRequest}
    {returnTo : Text} {base target : Address WebScheme η}
    (returned : returnTarget hostOf request = some returnTo)
    (read : parse hostOf (publicRedirectOrigin configured request).1
      (publicRedirectOrigin configured request).2 = some base)
    (redirected : redirectAddress hostOf configured request = some target) :
    origin target = origin base ↔ ¬ LeavesFor hostOf base returnTo := by
  rw [redirectAddress, returned] at redirected
  obtain ⟨other, same, redirected⟩ := Option.bind_eq_some_iff.mp redirected
  obtain rfl := Option.some.inj same
  obtain ⟨other, again, redirected⟩ := Option.bind_eq_some_iff.mp redirected
  obtain rfl := Option.some.inj (again.symm.trans read)
  split at redirected
  · exact origin_iff redirected
  · cases redirected

/-- Lower-case names of hosts are read as they are. -/
def plainHost (_ : WebScheme) (authority : Text) : Option Text :=
  if authority.isEmpty then none else some authority

def sampleBase : UpstreamBase where
  scheme := .http
  authority := "admin.internal"
  path := []
  named := ⟨by decide, all_not_iff.mp (by decide), all_not_iff.mp (by decide)⟩
  plain := fun _ member => absurd member List.not_mem_nil
  slashes := fun _ member => absurd member List.not_mem_nil
  breaks := fun _ member => absurd member List.not_mem_nil

def sampleRequest (method : Text) (returnTo : Text) : ProxyRequest where
  method := method
  searchParams := [("return_to", returnTo)]
  forwardedHost := none
  host := some "crm.example"
  forwardedProto := none
  referer := none

/-- The addresses of the public origin and of a path below it. -/
def publicAddress (path : Text) : Address WebScheme Text := ⟨.https, "crm.example", [path]⟩

end SkillCentric.Crm.CrmProxy
