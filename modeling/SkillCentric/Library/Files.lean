import SkillCentric.Library.Dict

/-!
# File trees with links

A tree of files, folders and symbolic links, addressed by lists of names.  Following a route
resolves every link on it; the path it ends at is free of links, and on such a path the operations
of the tree reach exactly the node under it.
-/

namespace SkillCentric

namespace Files

variable {ν β : Type}

/-- One move along a route. -/
inductive Move (ν : Type) where
  | up
  | down (name : ν)

/-- Where a route starts and how it goes on. -/
structure Route (ν : Type) where
  absolute : Bool
  moves : List (Move ν)

/-- What a path leads to. -/
inductive Node (ν β : Type) where
  | file (content : β)
  | folder
  | link (target : Route ν)

/-- A file tree below the root folder: every other node is in a folder. -/
structure Tree (ν β : Type) [DecidableEq ν] where
  nodes : Dict (List ν) (Node ν β)
  parents : ∀ path name, (nodes.get? (path ++ [name])).isSome →
    path = [] ∨ nodes.get? path = some .folder

variable [DecidableEq ν]

namespace Tree

/-- The node at a path. -/
def node? (tree : Tree ν β) (path : List ν) : Option (Node ν β) :=
  if path = [] then some .folder else tree.nodes.get? path

/-- The tree without nodes. -/
def empty : Tree ν β := ⟨.empty, fun _ _ found => by simp at found⟩

/-- A path is a folder. -/
def isFolder (tree : Tree ν β) (path : List ν) : Bool :=
  match tree.node? path with
  | some .folder => true
  | _ => false

/-- Make the moves of a route from a path on, following links by `follow`.  A strict walk stays in
folders that exist. -/
def walk (tree : Tree ν β) (strict : Bool) (follow : List ν → Route ν → Option (List ν)) :
    List ν → List (Move ν) → Option (List ν)
  | path, [] => some path
  | path, .up :: rest =>
      if strict && !tree.isFolder path then none else walk tree strict follow path.dropLast rest
  | path, .down name :: rest =>
      if strict && !tree.isFolder path then none
      else match tree.node? (path ++ [name]) with
        | some (.link target) =>
            match follow path target with
            | some reached => walk tree strict follow reached rest
            | none => none
        | _ => walk tree strict follow (path ++ [name]) rest

/-- Follow a route from a path on, through links that are nested to a depth. -/
def follow (tree : Tree ν β) (strict : Bool) : Nat → List ν → Route ν → Option (List ν)
  | 0, _, _ => none
  | depth + 1, path, route =>
      tree.walk strict (tree.follow strict depth) (if route.absolute then [] else path) route.moves

/-- An entry of the tree is a link. -/
def isLink (entry : List ν × Node ν β) : Bool :=
  match entry.2 with
  | .link _ => true
  | _ => false

/-- Links that are nested deeper than there are links contain themselves. -/
def depth (tree : Tree ν β) : Nat := tree.nodes.entries.countP isLink + 1

/-- The path that a route leads to, whether or not anything is there; none in a loop of links. -/
def resolve (tree : Tree ν β) (path : List ν) (route : Route ν) : Option (List ν) :=
  tree.follow false tree.depth path route

/-- The path of the node under a path, links followed. -/
def locate (tree : Tree ν β) (path : List ν) : Option (List ν) :=
  tree.follow true tree.depth [] ⟨true, path.map .down⟩

/-- The node under a path, links followed. -/
def stat (tree : Tree ν β) (path : List ν) : Option (Node ν β) := (tree.locate path).bind tree.node?

/-- Neither a path nor a folder above it is a link. -/
def Physical (tree : Tree ν β) (path : List ν) : Prop :=
  ∀ front, front <+: path → ∀ target, tree.node? front ≠ some (.link target)

variable {tree : Tree ν β} {path : List ν} {strict : Bool}

theorem node?_nil : tree.node? [] = some .folder := rfl

theorem physical_nil : tree.Physical [] := by
  intro front above target
  rw [List.prefix_nil.mp above, node?_nil]
  simp

variable {front : List ν} {name : ν} {follow : List ν → Route ν → Option (List ν)}
  {reached : List ν}

theorem Physical.of_prefix (physical : tree.Physical path) (above : front <+: path) :
    tree.Physical front :=
  fun other before => physical other (before.trans above)

theorem Physical.append (physical : tree.Physical path)
    (no_link : ∀ target, tree.node? (path ++ [name]) ≠ some (.link target)) :
    tree.Physical (path ++ [name]) := by
  intro front above target
  rcases List.prefix_concat_iff.mp above with rfl | above
  · exact no_link target
  · exact physical front above target

theorem walk_physical {moves : List (Move ν)}
    (follow_physical : ∀ path route reached, tree.Physical path → follow path route = some reached →
      tree.Physical reached)
    (physical : tree.Physical path) (walked : tree.walk strict follow path moves = some reached) :
    tree.Physical reached := by
  induction moves generalizing path with
  | nil =>
      cases walked
      exact physical
  | cons move rest ih =>
      cases move with
      | up =>
          rw [walk] at walked
          split_ifs at walked
          exact ih (physical.of_prefix (List.dropLast_prefix path)) walked
      | down name =>
          rw [walk] at walked
          split_ifs at walked
          cases found : tree.node? (path ++ [name]) with
          | none =>
              simp only [found] at walked
              exact ih (physical.append (by simp [found])) walked
          | some node =>
              cases node with
              | link target =>
                  simp only [found] at walked
                  cases followed : follow path target with
                  | none => simp [followed] at walked
                  | some next =>
                      simp only [followed] at walked
                      exact ih (follow_physical _ _ _ physical followed) walked
              | file content =>
                  simp only [found] at walked
                  exact ih (physical.append (by simp [found])) walked
              | folder =>
                  simp only [found] at walked
                  exact ih (physical.append (by simp [found])) walked

theorem follow_physical {depth : Nat} {route : Route ν}
    (physical : tree.Physical path)
    (followed : tree.follow strict depth path route = some reached) :
    tree.Physical reached := by
  induction depth generalizing path route reached with
  | zero => cases followed
  | succ depth ih =>
      rw [follow] at followed
      refine walk_physical (fun _ _ _ start next => ih start next) ?_ followed
      split_ifs
      · exact physical_nil
      · exact physical

theorem resolve_physical {route : Route ν} (physical : tree.Physical path)
    (resolved : tree.resolve path route = some reached) : tree.Physical reached :=
  follow_physical physical resolved

theorem isFolder_of_node? (found : (tree.node? (path ++ [name])).isSome) :
    tree.isFolder path = true := by
  have stored : (tree.nodes.get? (path ++ [name])).isSome := by
    simpa [node?] using found
  unfold isFolder node?
  rcases tree.parents path name stored with rfl | folder
  · rfl
  · split_ifs
    · rfl
    · rw [folder]

theorem isFolder_of_above {front names : List ν} (names_ne : names ≠ [])
    (found : (tree.node? (front ++ names)).isSome) : tree.isFolder front = true := by
  induction names using List.reverseRecOn with
  | nil => exact (names_ne rfl).elim
  | append_singleton names name ih =>
      rw [← List.append_assoc] at found
      have folder := isFolder_of_node? found
      by_cases none : names = []
      · rwa [none, List.append_nil] at folder
      · refine ih none ?_
        unfold isFolder at folder
        cases node : tree.node? (front ++ names) with
        | none => simp [node] at folder
        | some _ => rfl

theorem walk_down (front : List ν) {names : List ν}
    (physical : tree.Physical (front ++ names)) (found : (tree.node? (front ++ names)).isSome) :
    tree.walk true follow front (names.map .down) = some (front ++ names) := by
  induction names generalizing front with
  | nil => simp [walk]
  | cons name names ih =>
      have folder := isFolder_of_above (List.cons_ne_nil name names) found
      have split : front ++ name :: names = (front ++ [name]) ++ names := by simp
      rw [split] at physical found ⊢
      have step : tree.walk true follow front ((name :: names).map .down) =
          tree.walk true follow (front ++ [name]) (names.map .down) := by
        have no_link := physical (front ++ [name]) (List.prefix_append _ _)
        rw [List.map_cons, walk]
        simp only [folder, Bool.not_true, Bool.and_false, Bool.false_eq_true, if_false]
      rw [step]
      exact ih (front ++ [name]) physical found

theorem walk_down_eq (front : List ν) {names reached : List ν}
    (physical : tree.Physical (front ++ names))
    (walked : tree.walk true follow front (names.map .down) = some reached) :
    reached = front ++ names := by
  induction names generalizing front with
  | nil =>
      cases walked
      simp
  | cons name names ih =>
      have split : front ++ name :: names = (front ++ [name]) ++ names := by simp
      have no_link : ∀ target, tree.node? (front ++ [name]) ≠ some (.link target) :=
        physical (front ++ [name]) (by rw [split]; exact List.prefix_append _ _)
      rw [List.map_cons, walk] at walked
      split_ifs at walked
      rw [split] at physical ⊢
      refine ih (front ++ [name]) physical ?_
      cases node : tree.node? (front ++ [name]) with
      | none => simpa only [node] using walked
      | some found =>
          cases found with
          | link target => exact (no_link target node).elim
          | _ => simpa only [node] using walked

theorem stat_of_physical (physical : tree.Physical path) : tree.stat path = tree.node? path := by
  have located :
      tree.locate path = tree.walk true (tree.follow true (tree.nodes.entries.countP isLink))
      [] (path.map .down) := rfl
  unfold stat
  cases found : tree.node? path with
  | some node =>
      rw [located, walk_down [] physical (by rw [List.nil_append, found]; rfl)]
      exact found
  | none =>
      cases reached : tree.locate path with
      | none => rfl
      | some other =>
          rw [located] at reached
          rw [walk_down_eq [] physical reached]
          exact found

theorem isFolder_iff : tree.isFolder path = true ↔ tree.node? path = some .folder := by
  unfold isFolder
  cases tree.node? path with
  | none => simp
  | some node => cases node <;> simp

theorem get?_of_isFolder (path_ne : path ≠ []) (folder : tree.isFolder path = true) :
    tree.nodes.get? path = some .folder := by
  have found := isFolder_iff.mp folder
  rwa [node?, if_neg path_ne] at found

/-- Put a node at a path in a folder that exists, unless it replaces a folder. -/
def put (tree : Tree ν β) (path : List ν) (node : Node ν β) : Option (Tree ν β) :=
  if possible : path ≠ [] ∧ tree.isFolder path.dropLast = true ∧ tree.isFolder path = false then
    some {
      nodes := tree.nodes.set path node
      parents := fun front name found => by
        by_cases front_ne : front = []
        · exact .inl front_ne
        · have kept : tree.nodes.get? front = some .folder := by
            by_cases new : front ++ [name] = path
            · have above := possible.2.1
              rw [← new, List.dropLast_concat] at above
              exact get?_of_isFolder front_ne above
            · rw [Dict.get?_set_ne _ _ new] at found
              exact (tree.parents front name found).resolve_left front_ne
          have differs : front ≠ path := by
            intro same
            have folder : tree.isFolder front = true := by
              rw [isFolder_iff, node?, if_neg front_ne, kept]
            rw [same, possible.2.2] at folder
            cases folder
          rw [Dict.get?_set_ne _ _ differs]
          exact .inr kept }
  else none

/-- Create the folders along the names that are missing. -/
def mkdirsFrom : Tree ν β → List ν → List ν → Option (Tree ν β)
  | tree, _, [] => some tree
  | tree, front, name :: rest =>
      match tree.node? (front ++ [name]) with
      | some .folder => mkdirsFrom tree (front ++ [name]) rest
      | some _ => none
      | none => match tree.put (front ++ [name]) .folder with
          | some made => mkdirsFrom made (front ++ [name]) rest
          | none => none

/-- Create a folder and the missing ones above it, on a link-free path. -/
def mkdirs (tree : Tree ν β) (path : List ν) : Option (Tree ν β) := tree.mkdirsFrom [] path

/-- Write a file, on a link-free path. -/
def write (tree : Tree ν β) (path : List ν) (content : β) : Option (Tree ν β) :=
  tree.put path (.file content)

/-- Remove what is at a path, unless it is a folder. -/
def unlink (tree : Tree ν β) (path : List ν) : Option (Tree ν β) :=
  if possible : (tree.nodes.get? path).isSome = true ∧ tree.isFolder path = false then
    some {
      nodes := tree.nodes.erase path
      parents := fun front name found => by
        rw [Dict.get?_erase] at found
        split_ifs at found with removed
        · cases found
        · refine (tree.parents front name found).imp_right fun folder => ?_
          have differs : front ≠ path := by
            intro same
            have stays : tree.isFolder front = true := by
              unfold isFolder node?
              split_ifs
              · rfl
              · rw [folder]
            rw [same, possible.2] at stays
            cases stays
          rw [Dict.get?_erase, if_neg differs, folder] }
  else none

/-- Create the folders along the names that are missing, through links to folders; with the path of
the last one. -/
def makeFolders : Tree ν β → List ν → List ν → Option (Tree ν β × List ν)
  | tree, front, [] => some (tree, front)
  | tree, front, name :: rest =>
      match tree.node? (front ++ [name]) with
      | some .folder => makeFolders tree (front ++ [name]) rest
      | some (.link target) =>
          match tree.follow true tree.depth front target with
          | some reached => if tree.isFolder reached then makeFolders tree reached rest else none
          | none => none
      | some (.file _) => none
      | none => match tree.put (front ++ [name]) .folder with
          | some made => makeFolders made (front ++ [name]) rest
          | none => none

/-- Write a file in a folder, through a link to it. -/
def save (tree : Tree ν β) (folder : List ν) (name : ν) (content : β) : Option (Tree ν β) :=
  match tree.node? (folder ++ [name]) with
  | some (.link target) =>
      match tree.follow false tree.depth folder target with
      | some reached => tree.put reached (.file content)
      | none => none
  | _ => tree.put (folder ++ [name]) (.file content)

/-- The names in a folder. -/
def children (tree : Tree ν β) (path : List ν) : List ν :=
  tree.nodes.entries.filterMap fun entry =>
    match entry.1.getLast? with
    | some name => if entry.1.dropLast = path then some name else none
    | none => none

variable {after : Tree ν β} {node : Node ν β}

theorem node?_put (made : tree.put path node = some after) (other : List ν) :
    after.node? other = if other = path then some node else tree.node? other := by
  unfold put at made
  split_ifs at made with possible
  cases made
  unfold node?
  by_cases root : other = []
  · have differs : other ≠ path := root ▸ possible.1.symm
    rw [if_pos root, if_neg differs, if_pos root]
  · rw [if_neg root, if_neg root, Dict.get?_set]

theorem node?_mkdirsFrom {front names : List ν} (made : tree.mkdirsFrom front names = some after)
    (other : List ν) :
    after.node? other = tree.node? other ∨
      other <+: front ++ names ∧ tree.node? other = none ∧ after.node? other = some .folder := by
  induction names generalizing tree front with
  | nil =>
      cases made
      exact .inl rfl
  | cons name names ih =>
      have split : front ++ name :: names = (front ++ [name]) ++ names := by simp
      rw [split]
      unfold mkdirsFrom at made
      cases found : tree.node? (front ++ [name]) with
      | some node =>
          cases node with
          | folder =>
              simp only [found] at made
              exact ih made
          | _ => simp [found] at made
      | none =>
          simp only [found] at made
          cases put_one : tree.put (front ++ [name]) .folder with
          | none => simp [put_one] at made
          | some middle =>
              simp only [put_one] at made
              have middle_node := node?_put put_one other
              by_cases same : other = front ++ [name]
              · rw [if_pos same] at middle_node
                refine .inr ⟨same ▸ List.prefix_append _ _, same ▸ found, ?_⟩
                rcases ih made with kept | ⟨-, missing, -⟩
                · rw [kept, middle_node]
                · rw [middle_node] at missing
                  cases missing
              · rw [if_neg same] at middle_node
                rw [← middle_node]
                exact ih made

theorem node?_mkdirs (made : tree.mkdirs path = some after) (other : List ν) :
    after.node? other = tree.node? other ∨
      other <+: path ∧ tree.node? other = none ∧ after.node? other = some .folder :=
  node?_mkdirsFrom made other

theorem node?_unlink (removed : tree.unlink path = some after) (other : List ν) :
    after.node? other = if other = path then none else tree.node? other := by
  unfold unlink at removed
  split_ifs at removed with possible
  cases removed
  have path_ne : path ≠ [] := by
    intro root
    have folder := possible.2
    rw [root] at folder
    cases folder
  unfold node?
  by_cases root : other = []
  · have differs : other ≠ path := root ▸ path_ne.symm
    rw [if_pos root, if_neg differs, if_pos root]
  · rw [if_neg root, if_neg root, Dict.get?_erase]

theorem unlink_isSome (stored : (tree.node? path).isSome) (no_folder : tree.isFolder path = false) :
    (tree.unlink path).isSome = true := by
  have path_ne : path ≠ [] := by
    intro root
    rw [root] at no_folder
    cases no_folder
  rw [node?, if_neg path_ne] at stored
  unfold unlink
  rw [dif_pos ⟨stored, no_folder⟩]
  rfl

theorem walk_link {target : Route ν} (rest : List (Move ν))
    (linked : tree.node? (front ++ [name]) = some (.link target)) :
    tree.walk false follow front (.down name :: rest) =
      (follow front target).bind fun reached => tree.walk false follow reached rest := by
  rw [walk]
  simp only [Bool.false_and, Bool.false_eq_true, if_false, linked]
  cases follow front target <;> rfl

theorem walk_plain (rest : List (Move ν))
    (no_link : ∀ target, tree.node? (front ++ [name]) ≠ some (.link target)) :
    tree.walk false follow front (.down name :: rest) =
      tree.walk false follow (front ++ [name]) rest := by
  rw [walk]
  simp only [Bool.false_and, Bool.false_eq_true, if_false]

section Links

variable {other : Tree ν β} (links : ∀ path target,
  other.node? path = some (.link target) ↔ tree.node? path = some (.link target))

include links

theorem walk_congr (follow : List ν → Route ν → Option (List ν)) (front : List ν)
    (moves : List (Move ν)) :
    other.walk false follow front moves = tree.walk false follow front moves := by
  induction moves generalizing front with
  | nil => rfl
  | cons move rest ih =>
      cases move with
      | up =>
          rw [walk, walk]
          simp only [Bool.false_and, Bool.false_eq_true, if_false]
          exact ih _
      | down name =>
          by_cases linked : ∃ target, tree.node? (front ++ [name]) = some (.link target)
          · obtain ⟨target, linked⟩ := linked
            rw [walk_link rest linked, walk_link rest ((links _ _).mpr linked)]
            simp only [ih]
          · have plain : ∀ target, tree.node? (front ++ [name]) ≠ some (.link target) :=
              fun target found => linked ⟨target, found⟩
            rw [walk_plain rest plain,
              walk_plain rest fun target found => plain target ((links _ _).mp found)]
            exact ih _

theorem follow_congr (depth : Nat) (path : List ν) (route : Route ν) :
    other.follow false depth path route = tree.follow false depth path route := by
  induction depth generalizing path route with
  | zero => rfl
  | succ depth ih =>
      have same : other.follow false depth = tree.follow false depth :=
        funext fun path => funext fun route => ih path route
      rw [follow, follow, same]
      exact walk_congr links _ _ _

end Links

theorem resolve_unlink {content : β} (removed : tree.unlink path = some after)
    (file : tree.node? path = some (.file content)) (front : List ν) (route : Route ν) :
    after.resolve front route = tree.resolve front route := by
  have links : ∀ other target, after.node? other = some (.link target) ↔
      tree.node? other = some (.link target) := by
    intro other target
    rw [node?_unlink removed]
    split_ifs with same
    · rw [same, file]
      exact iff_of_false nofun nofun
    · rfl
  have depths : after.depth = tree.depth := by
    unfold unlink at removed
    split_ifs at removed with possible
    cases removed
    have path_ne : path ≠ [] := by
      intro root
      rw [root] at file
      cases file
    rw [node?, if_neg path_ne] at file
    unfold depth Dict.erase
    rw [List.countP_filter]
    congr 1
    refine List.countP_congr fun entry listed => ?_
    have link_stays : isLink entry = true → entry.1 ≠ path := by
      intro link same
      have stored := (tree.nodes.mem_entries_iff entry.1 entry.2).mp listed
      rw [same, file] at stored
      rw [isLink, ← Option.some.inj stored] at link
      cases link
    simpa using link_stays
  unfold resolve
  rw [depths]
  exact follow_congr links _ _ _

theorem isFolder_mkdirsFrom (front : List ν) {names : List ν} (start : tree.isFolder front = true)
    (made : tree.mkdirsFrom front names = some after) : after.isFolder (front ++ names) = true := by
  induction names generalizing tree front with
  | nil =>
      cases made
      rwa [List.append_nil]
  | cons name names ih =>
      have split : front ++ name :: names = (front ++ [name]) ++ names := by simp
      rw [split]
      unfold mkdirsFrom at made
      cases found : tree.node? (front ++ [name]) with
      | some node =>
          cases node with
          | folder =>
              simp only [found] at made
              exact ih (front ++ [name]) (isFolder_iff.mpr found) made
          | _ => simp [found] at made
      | none =>
          simp only [found] at made
          cases put_one : tree.put (front ++ [name]) .folder with
          | none => simp [put_one] at made
          | some middle =>
              simp only [put_one] at made
              have placed : middle.node? (front ++ [name]) = some .folder := by
                rw [node?_put put_one, if_pos rfl]
              exact ih (front ++ [name]) (isFolder_iff.mpr placed) made

theorem isFolder_mkdirs (made : tree.mkdirs path = some after) : after.isFolder path = true :=
  isFolder_mkdirsFrom [] rfl made

theorem mkdirsFrom_append (tree : Tree ν β) (front left right : List ν) :
    tree.mkdirsFrom front (left ++ right) =
      (tree.mkdirsFrom front left).bind fun made => made.mkdirsFrom (front ++ left) right := by
  induction left generalizing tree front with
  | nil => simp [mkdirsFrom]
  | cons name rest ih =>
      have split : front ++ name :: rest = front ++ [name] ++ rest := by simp
      rw [List.cons_append, mkdirsFrom, mkdirsFrom, split]
      cases tree.node? (front ++ [name]) with
      | none =>
          simp only
          cases tree.put (front ++ [name]) .folder with
          | none => rfl
          | some made => exact ih made (front ++ [name])
      | some node =>
          cases node with
          | folder => exact ih tree (front ++ [name])
          | _ => rfl

theorem mkdirs_of_isFolder (folder : tree.isFolder path = true) : tree.mkdirs path = some tree := by
  have all : ∀ front names : List ν, tree.isFolder (front ++ names) = true →
      tree.mkdirsFrom front names = some tree := by
    intro front names folder
    induction names generalizing front with
    | nil => rfl
    | cons name rest ih =>
        have split : front ++ name :: rest = front ++ [name] ++ rest := by simp
        rw [split] at folder
        have here : tree.isFolder (front ++ [name]) = true := by
          by_cases last : rest = []
          · rwa [last, List.append_nil] at folder
          · exact isFolder_of_above last (by rw [isFolder_iff.mp folder]; rfl)
        rw [mkdirsFrom, isFolder_iff.mp here]
        exact ih _ folder
  exact all [] path folder

theorem put_of_same (stored : tree.node? path = some node)
    (no_folder : tree.isFolder path = false) :
    tree.put path node = some tree := by
  have path_ne : path ≠ [] := by
    rintro rfl
    cases no_folder
  have above : tree.isFolder path.dropLast = true := by
    rw [← List.dropLast_append_getLast path_ne] at stored
    exact isFolder_of_node? (by rw [stored]; rfl)
  have entry : tree.nodes.get? path = some node := by rwa [node?, if_neg path_ne] at stored
  unfold put
  rw [dif_pos ⟨path_ne, above, no_folder⟩]
  simp only [Dict.set_of_same tree.nodes entry]

theorem put_isSome (path_ne : path ≠ []) (above : tree.isFolder path.dropLast = true)
    (no_folder : tree.isFolder path = false) : (tree.put path node).isSome = true := by
  unfold put
  rw [dif_pos ⟨path_ne, above, no_folder⟩]
  rfl

/-- Everything that is in one tree is in another one. -/
def Keeps (tree after : Tree ν β) : Prop :=
  ∀ path, (tree.node? path).isSome = true → (after.node? path).isSome = true

theorem Keeps.refl : Keeps tree tree := fun _ there => there

theorem Keeps.trans {other : Tree ν β} (first : Keeps tree after) (second : Keeps after other) :
    Keeps tree other :=
  fun path there => second path (first path there)

theorem put_keeps (made : tree.put path node = some after) : Keeps tree after := by
  intro other there
  rw [node?_put made]
  split_ifs
  · rfl
  · exact there

theorem makeFolders_keeps {front names reached : List ν}
    (made : tree.makeFolders front names = some (after, reached)) : Keeps tree after := by
  induction names generalizing tree front with
  | nil =>
      cases made
      exact .refl
  | cons name names ih =>
      unfold makeFolders at made
      cases found : tree.node? (front ++ [name]) with
      | some node =>
          cases node with
          | folder =>
              simp only [found] at made
              exact ih made
          | link target =>
              simp only [found] at made
              cases followed : tree.follow true tree.depth front target with
              | none => simp [followed] at made
              | some next =>
                  simp only [followed] at made
                  split_ifs at made
                  exact ih made
          | file content => simp [found] at made
      | none =>
          simp only [found] at made
          cases placed : tree.put (front ++ [name]) .folder with
          | none => simp [placed] at made
          | some middle =>
              simp only [placed] at made
              exact (put_keeps placed).trans (ih made)

theorem save_keeps {folder : List ν} {content : β}
    (saved : tree.save folder name content = some after) : Keeps tree after := by
  unfold save at saved
  split at saved
  · split at saved
    · exact put_keeps saved
    · cases saved
  · exact put_keeps saved

theorem mem_children :
    name ∈ tree.children path ↔ (tree.node? (path ++ [name])).isSome := by
  have stored : tree.node? (path ++ [name]) = tree.nodes.get? (path ++ [name]) := if_neg (by simp)
  rw [stored, children, List.mem_filterMap]
  constructor
  · rintro ⟨⟨key, node⟩, listed, named⟩
    cases last : key.getLast? with
    | none => simp [last] at named
    | some own =>
        simp only [last] at named
        split_ifs at named with inside
        cases named
        have key_eq : key = path ++ [name] := by
          rw [← inside, List.dropLast_append_getLast? name last]
        rw [Dict.mem_entries_iff, key_eq] at listed
        rw [listed]
        rfl
  · intro found
    obtain ⟨node, found⟩ := Option.isSome_iff_exists.mp found
    exact ⟨(path ++ [name], node), (Dict.mem_entries_iff _ _ _).mpr found, by simp⟩

end Tree

end Files

end SkillCentric
