import Mathlib.Logic.Relation
import Mathlib.Tactic

/-!
# Depth-first traversal with errors

A traversal of a directed graph that reports edges it does not like and vertices it meets again
while it still visits them.  A traversal without a report has seen the whole closure of its roots,
every edge of it is liked, and the closure has no cycle.  Vertices are told apart by a key.
-/

namespace SkillCentric

/-- What a traversal needs to know of a graph. -/
structure Traversal (V K E ε : Type) where
  key : V → K
  edges : V → List E
  target : E → Option V
  edgeErrors : V → E → List ε
  cycleError : List V → V → ε
  cutError : ε

/-- The state of a traversal. -/
structure Traversed (K ε : Type) where
  reached : List K := []
  visiting : List K := []
  errors : List ε := []

namespace Traversal

variable {V K E ε : Type} (graph : Traversal V K E ε)

/-- Report errors. -/
def report (state : Traversed K ε) (errors : List ε) : Traversed K ε :=
  { state with errors := state.errors ++ errors }

/-- Follow one edge of a vertex, with `visit` for what is at its end. -/
def follow (visit : V → Traversed K ε → Traversed K ε) (vertex : V) (state : Traversed K ε)
    (edge : E) : Traversed K ε :=
  let state := report state (graph.edgeErrors vertex edge)
  match graph.target edge with
  | none => state
  | some next => visit next state

/-- Begin the visit of a vertex. -/
def enter (vertex : V) (state : Traversed K ε) : Traversed K ε :=
  { state with
    visiting := graph.key vertex :: state.visiting
    reached := state.reached ++ [graph.key vertex] }

/-- End the visit of a vertex. -/
def leave [DecidableEq K] (vertex : V) (state : Traversed K ε) : Traversed K ε :=
  { state with visiting := state.visiting.filter (· ≠ graph.key vertex) }

/-- Visit a vertex at the end of a path. -/
def visit [DecidableEq K] : Nat → List V → V → Traversed K ε → Traversed K ε
  | 0, _, _, state => report state [graph.cutError]
  | fuel + 1, path, vertex, state =>
      if graph.key vertex ∈ state.visiting then report state [graph.cycleError path vertex]
      else if graph.key vertex ∈ state.reached then state
      else graph.leave vertex ((graph.edges vertex).foldl
        (graph.follow (visit fuel (path ++ [vertex])) vertex) (graph.enter vertex state))

/-- Visit the roots one after the other. -/
def traverse [DecidableEq K] (fuel : Nat) (roots : List V) : Traversed K ε :=
  roots.foldl (fun state root => graph.visit fuel [] root state) {}

/-- There is an edge from a vertex to another. -/
def Adjacent (vertex next : V) : Prop := ∃ edge ∈ graph.edges vertex, graph.target edge = some next

/-- A list of vertices each of which has its edges liked and leading into the rest of the list. -/
inductive Closed : List V → Prop
  | nil : Closed []
  | cons {vertex : V} {rest : List V} (closed : Closed rest)
      (liked : ∀ edge ∈ graph.edges vertex, graph.edgeErrors vertex edge = [] ∧
        ∃ next ∈ rest, graph.target edge = some next) : Closed (vertex :: rest)

variable {graph} {order : List V}

theorem Closed.liked (closed : graph.Closed order) {vertex : V}
    (member : vertex ∈ order) {edge : E} (listed : edge ∈ graph.edges vertex) :
    graph.edgeErrors vertex edge = [] ∧ ∃ next ∈ order, graph.target edge = some next := by
  induction closed with
  | nil => cases member
  | @cons head rest closed liked ih =>
      rcases List.mem_cons.mp member with rfl | later
      · obtain ⟨clean, next, found, at_end⟩ := liked edge listed
        exact ⟨clean, next, List.mem_cons_of_mem _ found, at_end⟩
      · obtain ⟨clean, next, found, at_end⟩ := ih later
        exact ⟨clean, next, List.mem_cons_of_mem _ found, at_end⟩

theorem Closed.mem_of_reaches (closed : graph.Closed order) {vertex next : V}
    (member : vertex ∈ order) (reaches : Relation.ReflTransGen graph.Adjacent vertex next) :
    next ∈ order := by
  induction reaches with
  | refl => exact member
  | tail _ step ih =>
      obtain ⟨edge, listed, at_end⟩ := step
      obtain ⟨-, found, found_mem, found_at_end⟩ := closed.liked ih listed
      obtain rfl := Option.some.inj (at_end.symm.trans found_at_end)
      exact found_mem

theorem Closed.acyclic (closed : graph.Closed order) {vertex : V}
    (member : vertex ∈ order) : ¬Relation.TransGen graph.Adjacent vertex vertex := by
  induction closed with
  | nil => cases member
  | @cons head rest closed liked ih =>
      intro cycle
      rcases List.mem_cons.mp member with rfl | later
      · obtain ⟨next, ⟨edge, listed, at_end⟩, back⟩ := Relation.TransGen.head'_iff.mp cycle
        obtain ⟨-, found, found_mem, found_at_end⟩ := liked edge listed
        obtain rfl := Option.some.inj (at_end.symm.trans found_at_end)
        exact ih (closed.mem_of_reaches found_mem back) cycle
      · exact ih later cycle

theorem errors_follow {visitNext : V → Traversed K ε → Traversed K ε}
    (grows : ∀ next state, state.errors <+: (visitNext next state).errors) (vertex : V)
    (state : Traversed K ε) (edge : E) :
    state.errors <+: (graph.follow visitNext vertex state edge).errors := by
  have reported : state.errors <+: (report state (graph.edgeErrors vertex edge)).errors :=
    List.prefix_append _ _
  unfold follow
  cases graph.target edge with
  | none => exact reported
  | some next => exact reported.trans (grows next _)

theorem errors_foldl {α : Type} {step : Traversed K ε → α → Traversed K ε}
    (grows : ∀ state item, state.errors <+: (step state item).errors) (items : List α)
    (state : Traversed K ε) : state.errors <+: (items.foldl step state).errors := by
  induction items generalizing state with
  | nil => exact List.prefix_rfl
  | cons item rest ih => exact (grows state item).trans (ih _)

theorem errors_visit [DecidableEq K] (fuel : Nat) (path : List V) (vertex : V)
    (state : Traversed K ε) :
    state.errors <+: (graph.visit fuel path vertex state).errors := by
  induction fuel generalizing path vertex state with
  | zero => exact List.prefix_append _ _
  | succ fuel ih =>
      unfold visit
      split_ifs
      · exact List.prefix_append _ _
      · exact List.prefix_rfl
      · exact errors_foldl (errors_follow (ih (path ++ [vertex])) vertex)
          (graph.edges vertex) (graph.enter vertex state)

section Clean

variable {Known : V → Prop} (graph)

/-- Known vertices have their own keys, edges lead to known vertices, and an edge that leads nowhere
is reported. -/
structure Lawful (Known : V → Prop) : Prop where
  key_injective : ∀ vertex other, Known vertex → Known other →
    graph.key vertex = graph.key other → vertex = other
  known_target : ∀ edge next, graph.target edge = some next → Known next
  missing : ∀ vertex edge, graph.target edge = none → graph.edgeErrors vertex edge ≠ []

/-- A state without reports whose finished vertices are listed in `order`, last finished first. -/
structure Clean (Known : V → Prop) (state : Traversed K ε) (order : List V) : Prop where
  no_errors : state.errors = []
  closed : graph.Closed order
  known : ∀ vertex ∈ order, Known vertex
  reached : ∀ vertex, Known vertex →
    (graph.key vertex ∈ state.reached ↔ vertex ∈ order ∨ graph.key vertex ∈ state.visiting)
  apart : ∀ vertex ∈ order, graph.key vertex ∉ state.visiting

variable {graph}

theorem errors_eq_nil {state after : Traversed K ε} (grows : state.errors <+: after.errors)
    (clean : after.errors = []) : state.errors = [] := by
  rw [clean] at grows
  exact List.prefix_nil.mp grows

/-- What following an edge, or all edges, of a vertex leaves: more finished vertices, the same
vertices under visit. -/
structure Finishes (Known : V → Prop) (state after : Traversed K ε) (order final : List V) :
    Prop where
  extends_order : order <:+ final
  clean : graph.Clean Known after final
  visiting : after.visiting = state.visiting

section Follow

variable {visitNext : V → Traversed K ε → Traversed K ε} (lawful : graph.Lawful Known)
  (visits : ∀ next state order, Known next → graph.Clean Known state order →
    (visitNext next state).errors = [] →
    ∃ final, graph.Finishes Known state (visitNext next state) order final ∧ next ∈ final)
  (grows : ∀ next state, state.errors <+: (visitNext next state).errors)

include lawful visits grows

theorem follow_finishes {vertex : V} {edge : E} {state : Traversed K ε} {order : List V}
    (clean : graph.Clean Known state order)
    (ends : (graph.follow visitNext vertex state edge).errors = []) :
    ∃ final, graph.Finishes Known state (graph.follow visitNext vertex state edge) order final ∧
      graph.edgeErrors vertex edge = [] ∧ ∃ next ∈ final, graph.target edge = some next := by
  have reported : (report state (graph.edgeErrors vertex edge)).errors = [] := by
    unfold follow at ends
    cases at_end : graph.target edge with
    | none =>
        rw [at_end] at ends
        exact ends
    | some next =>
        rw [at_end] at ends
        exact errors_eq_nil (grows next _) ends
  have liked : graph.edgeErrors vertex edge = [] := (List.append_eq_nil_iff.mp reported).2
  have same : report state (graph.edgeErrors vertex edge) = state := by
    rw [report, liked, List.append_nil]
  unfold follow at ends ⊢
  rw [same] at ends ⊢
  cases at_end : graph.target edge with
  | none => exact absurd liked (lawful.missing vertex edge at_end)
  | some next =>
      rw [at_end] at ends
      obtain ⟨final, finishes, member⟩ :=
        visits next state order (lawful.known_target edge next at_end) clean ends
      exact ⟨final, finishes, liked, next, member, rfl⟩

theorem foldl_finishes {vertex : V} {edges : List E} {state : Traversed K ε} {order : List V}
    (clean : graph.Clean Known state order)
    (ends : (edges.foldl (graph.follow visitNext vertex) state).errors = []) :
    ∃ final, graph.Finishes Known state (edges.foldl (graph.follow visitNext vertex) state) order
        final ∧
      ∀ edge ∈ edges, graph.edgeErrors vertex edge = [] ∧
        ∃ next ∈ final, graph.target edge = some next := by
  induction edges generalizing state order with
  | nil => exact ⟨order, ⟨List.suffix_rfl, clean, rfl⟩, List.forall_mem_nil _⟩
  | cons edge rest ih =>
      have first_ends : (graph.follow visitNext vertex state edge).errors = [] :=
        errors_eq_nil (errors_foldl (errors_follow grows vertex) rest _) ends
      obtain ⟨middle, first, liked, next, next_mem, at_end⟩ :=
        follow_finishes lawful visits grows clean first_ends
      obtain ⟨final, later, rest_liked⟩ := ih first.clean ends
      refine ⟨final, ⟨first.extends_order.trans later.extends_order, later.clean,
        later.visiting.trans first.visiting⟩, ?_⟩
      exact List.forall_mem_cons.mpr
        ⟨⟨liked, next, later.extends_order.mem next_mem, at_end⟩, rest_liked⟩

end Follow

variable [DecidableEq K] {state : Traversed K ε}

theorem Clean.enter (clean : graph.Clean Known state order)
    {vertex : V} (unmet : graph.key vertex ∉ state.reached) :
    graph.Clean Known (graph.enter vertex state) order where
  no_errors := clean.no_errors
  closed := clean.closed
  known := clean.known
  reached other other_known := by
    have before := clean.reached other other_known
    simp only [Traversal.enter, List.mem_append, List.mem_cons, List.not_mem_nil, or_false]
    rw [before]
    tauto
  apart other finished := by
    simp only [Traversal.enter, List.mem_cons, not_or]
    refine ⟨fun same => unmet ?_, clean.apart other finished⟩
    have other_known := clean.known other finished
    rw [← same]
    exact (clean.reached other other_known).mpr (.inl finished)

theorem Clean.leave {visiting : List K} {vertex : V}
    (clean : graph.Clean Known state order) (lawful : graph.Lawful Known) (known : Known vertex)
    (under_visit : state.visiting = graph.key vertex :: visiting)
    (other_visits : graph.key vertex ∉ visiting)
    (liked : ∀ edge ∈ graph.edges vertex, graph.edgeErrors vertex edge = [] ∧
      ∃ next ∈ order, graph.target edge = some next) :
    graph.Clean Known (graph.leave vertex state) (vertex :: order) ∧
      (graph.leave vertex state).visiting = visiting := by
  have left : (graph.leave vertex state).visiting = visiting := by
    rw [Traversal.leave, under_visit, List.filter_cons_of_neg (by simp), List.filter_eq_self]
    intro key member
    exact decide_eq_true fun same => other_visits (same ▸ member)
  refine ⟨⟨clean.no_errors, .cons clean.closed liked,
    List.forall_mem_cons.mpr ⟨known, clean.known⟩, ?_, ?_⟩, left⟩
  · intro other other_known
    have before := clean.reached other other_known
    rw [under_visit, List.mem_cons] at before
    rw [left, List.mem_cons]
    change graph.key other ∈ state.reached ↔ _
    rw [before]
    have same_iff : graph.key other = graph.key vertex ↔ other = vertex :=
      ⟨lawful.key_injective other vertex other_known known, congrArg graph.key⟩
    rw [same_iff]
    tauto
  · intro other member
    rw [left]
    rcases List.mem_cons.mp member with rfl | finished
    · exact other_visits
    · intro found
      refine clean.apart other finished ?_
      rw [under_visit]
      exact List.mem_cons_of_mem _ found

theorem visit_finishes (lawful : graph.Lawful Known) (fuel : Nat) (path : List V) {vertex : V}
    (known : Known vertex)
    (clean : graph.Clean Known state order)
    (ends : (graph.visit fuel path vertex state).errors = []) :
    ∃ final, graph.Finishes Known state (graph.visit fuel path vertex state) order final ∧
      vertex ∈ final := by
  induction fuel generalizing path vertex state order with
  | zero => exact absurd (List.append_eq_nil_iff.mp ends).2 (List.cons_ne_nil _ _)
  | succ fuel ih =>
      unfold visit at ends ⊢
      split_ifs at ends ⊢ with under_visit met
      · exact absurd (List.append_eq_nil_iff.mp ends).2 (List.cons_ne_nil _ _)
      · have finished := ((clean.reached vertex known).mp met).resolve_right under_visit
        exact ⟨order, ⟨List.suffix_rfl, clean, rfl⟩, finished⟩
      · obtain ⟨middle, finishes, liked⟩ := foldl_finishes lawful
          (fun next state order known clean ends => ih _ known clean ends)
          (errors_visit fuel (path ++ [vertex])) (clean.enter met) ends
        obtain ⟨left_clean, left_visiting⟩ := finishes.clean.leave lawful known finishes.visiting
          under_visit liked
        exact ⟨vertex :: middle,
          ⟨finishes.extends_order.trans (List.suffix_cons _ _), left_clean, left_visiting⟩,
          List.mem_cons_self⟩

theorem foldl_visit_finishes (lawful : graph.Lawful Known) {fuel : Nat} {roots : List V}
    (known : ∀ root ∈ roots, Known root) {state : Traversed K ε} {order : List V}
    (clean : graph.Clean Known state order)
    (ends : (roots.foldl (fun state root => graph.visit fuel [] root state) state).errors = []) :
    ∃ final, order <:+ final ∧ (∀ root ∈ roots, root ∈ final) ∧ graph.Clean Known
      (roots.foldl (fun state root => graph.visit fuel [] root state) state) final := by
  induction roots generalizing state order with
  | nil => exact ⟨order, List.suffix_rfl, List.forall_mem_nil _, clean⟩
  | cons first rest ih =>
      obtain ⟨first_known, rest_known⟩ := List.forall_mem_cons.mp known
      have first_ends : (graph.visit fuel [] first state).errors = [] :=
        errors_eq_nil (errors_foldl (fun state root => errors_visit fuel [] root state) rest _) ends
      obtain ⟨middle, finishes, first_mem⟩ :=
        visit_finishes lawful fuel [] first_known clean first_ends
      obtain ⟨final, extended, rest_mem, final_clean⟩ :=
        ih rest_known finishes.clean ends
      exact ⟨final, finishes.extends_order.trans extended,
        List.forall_mem_cons.mpr ⟨extended.mem first_mem, rest_mem⟩, final_clean⟩

theorem traverse_clean (lawful : graph.Lawful Known) {fuel : Nat} {roots : List V}
    (known : ∀ root ∈ roots, Known root) (ends : (graph.traverse fuel roots).errors = [])
    {root vertex : V} (root_mem : root ∈ roots)
    (reaches : Relation.ReflTransGen graph.Adjacent root vertex) :
    graph.key vertex ∈ (graph.traverse fuel roots).reached ∧
    (∀ edge ∈ graph.edges vertex, graph.edgeErrors vertex edge = [] ∧
      (graph.target edge).isSome = true) ∧
    ¬Relation.TransGen graph.Adjacent vertex vertex := by
  have start : graph.Clean Known ({} : Traversed K ε) [] :=
    ⟨rfl, .nil, List.forall_mem_nil _, fun _ _ => by simp, List.forall_mem_nil _⟩
  obtain ⟨final, -, roots_mem, clean⟩ := foldl_visit_finishes lawful known start ends
  have finished := clean.closed.mem_of_reaches (roots_mem root root_mem) reaches
  refine ⟨?_, fun edge listed => ?_, clean.closed.acyclic finished⟩
  · exact (clean.reached vertex (clean.known vertex finished)).mpr (.inl finished)
  · obtain ⟨liked, next, -, at_end⟩ := clean.closed.liked finished listed
    exact ⟨liked, by rw [at_end]; rfl⟩

end Clean

section Fuel

theorem reached_follow {visitNext : V → Traversed K ε → Traversed K ε}
    (grows : ∀ next state, state.reached ⊆ (visitNext next state).reached) (vertex : V)
    (state : Traversed K ε) (edge : E) :
    state.reached ⊆ (graph.follow visitNext vertex state edge).reached := by
  unfold follow
  cases graph.target edge with
  | none => exact List.Subset.refl _
  | some next => exact grows next (report state (graph.edgeErrors vertex edge))

theorem reached_foldl {α : Type} {step : Traversed K ε → α → Traversed K ε}
    (grows : ∀ state item, state.reached ⊆ (step state item).reached) (items : List α)
    (state : Traversed K ε) : state.reached ⊆ (items.foldl step state).reached := by
  induction items generalizing state with
  | nil => exact List.Subset.refl _
  | cons item rest ih => exact List.Subset.trans (grows state item) (ih _)

variable [DecidableEq K]

/-- The keys that were not met yet. -/
def unmet (keys : Finset K) (state : Traversed K ε) : Finset K := keys.filter (· ∉ state.reached)

theorem card_unmet_le {keys : Finset K} {state after : Traversed K ε}
    (grows : state.reached ⊆ after.reached) :
    (unmet keys after).card ≤ (unmet keys state).card := by
  refine Finset.card_le_card fun key member => ?_
  rw [unmet, Finset.mem_filter] at member ⊢
  exact ⟨member.1, fun met => member.2 (grows met)⟩

theorem card_unmet_enter {keys : Finset K} {state : Traversed K ε} {vertex : V}
    (listed : graph.key vertex ∈ keys) (unseen : graph.key vertex ∉ state.reached) :
    (unmet keys (graph.enter vertex state)).card < (unmet keys state).card := by
  refine Finset.card_lt_card ⟨fun key member => ?_, fun all => ?_⟩
  · rw [unmet, Finset.mem_filter] at member ⊢
    exact ⟨member.1, fun met => member.2 (List.mem_append_left _ met)⟩
  · have still := all (Finset.mem_filter.mpr ⟨listed, unseen⟩)
    exact (Finset.mem_filter.mp still).2 (List.mem_append_right _ (List.mem_singleton_self _))

theorem reached_visit (fuel : Nat) (path : List V) (vertex : V) (state : Traversed K ε) :
    state.reached ⊆ (graph.visit fuel path vertex state).reached := by
  induction fuel generalizing path vertex state with
  | zero => exact List.Subset.refl _
  | succ fuel ih =>
      unfold visit
      split_ifs
      · exact List.Subset.refl _
      · exact List.Subset.refl _
      · exact List.Subset.trans (List.subset_append_left _ _)
          (reached_foldl (reached_follow (ih (path ++ [vertex])) vertex)
            (graph.edges vertex) (graph.enter vertex state))

end Fuel

section Keeps

variable {Allowed : V → Prop} {Q : Traversed K ε → Prop}

/-- A property of states that no step of a traversal among allowed vertices breaks. -/
structure Keeps [DecidableEq K] (graph : Traversal V K E ε) (Allowed : V → Prop)
    (Q : Traversed K ε → Prop) : Prop where
  allowed :
    ∀ vertex edge next, edge ∈ graph.edges vertex → graph.target edge = some next → Allowed next
  edge : ∀ state vertex edge, edge ∈ graph.edges vertex → Q state →
    Q (report state (graph.edgeErrors vertex edge))
  cycle : ∀ state path vertex, Q state → Q (report state [graph.cycleError path vertex])
  cut : ∀ state, Q state → Q (report state [graph.cutError])
  enter : ∀ state vertex, Allowed vertex → Q state → Q (graph.enter vertex state)
  leave : ∀ state vertex, Q state → Q (graph.leave vertex state)

variable [DecidableEq K] {state : Traversed K ε} {roots : List V}

theorem Keeps.visit (keeps : graph.Keeps Allowed Q) (fuel : Nat) (path : List V) {vertex : V}
    (allowed : Allowed vertex) (holds : Q state) :
    Q (graph.visit fuel path vertex state) := by
  induction fuel generalizing path vertex state with
  | zero => exact keeps.cut state holds
  | succ fuel ih =>
      have edges (list : List E) (inside : list ⊆ graph.edges vertex) {inner : Traversed K ε}
          (inner_holds : Q inner) :
          Q (list.foldl (graph.follow (graph.visit fuel (path ++ [vertex])) vertex) inner) := by
        induction list generalizing inner with
        | nil => exact inner_holds
        | cons edge rest later =>
            obtain ⟨listed, rest_inside⟩ := List.cons_subset.mp inside
            refine later rest_inside ?_
            have reported := keeps.edge inner vertex edge listed inner_holds
            unfold follow
            cases at_end : graph.target edge with
            | none => exact reported
            | some next => exact ih _ (keeps.allowed vertex edge next listed at_end) reported
      unfold Traversal.visit
      split_ifs
      · exact keeps.cycle state path vertex holds
      · exact holds
      · exact keeps.leave _ vertex
          (edges _ (List.Subset.refl _) (keeps.enter state vertex allowed holds))

theorem Keeps.traverse (keeps : graph.Keeps Allowed Q) {fuel : Nat}
    (allowed : ∀ root ∈ roots, Allowed root) (start : Q {}) : Q (graph.traverse fuel roots) := by
  unfold Traversal.traverse
  generalize ({} : Traversed K ε) = state at start
  induction roots generalizing state with
  | nil => exact start
  | cons root rest ih =>
      obtain ⟨root_allowed, rest_allowed⟩ := List.forall_mem_cons.mp allowed
      exact ih rest_allowed _ (keeps.visit fuel [] root_allowed start)

theorem errors_traverse {P : ε → Prop} (fuel : Nat) (roots : List V)
    (edge : ∀ vertex edge,
      edge ∈ graph.edges vertex → ∀ error ∈ graph.edgeErrors vertex edge, P error)
    (cycle : ∀ path vertex, P (graph.cycleError path vertex)) (cut : P graph.cutError) :
    ∀ error ∈ (graph.traverse fuel roots).errors, P error := by
  have keeps : graph.Keeps (fun _ => True) fun state => ∀ error ∈ state.errors, P error :=
    { allowed := fun _ _ _ _ _ => trivial
      edge := fun state vertex met listed holds =>
        List.forall_mem_append.mpr ⟨holds, edge vertex met listed⟩
      cycle := fun state path vertex holds =>
        List.forall_mem_append.mpr ⟨holds, List.forall_mem_singleton.mpr (cycle path vertex)⟩
      cut :=
        fun state holds => List.forall_mem_append.mpr ⟨holds, List.forall_mem_singleton.mpr cut⟩
      enter := fun _ _ _ holds => holds
      leave := fun _ _ holds => holds }
  exact keeps.traverse (fun _ _ => trivial) (List.forall_mem_nil _)

theorem reached_traverse_subset (keys : Set K) {fuel : Nat}
    (inside : ∀ vertex edge next, edge ∈ graph.edges vertex → graph.target edge = some next →
      graph.key next ∈ keys) (listed : ∀ root ∈ roots, graph.key root ∈ keys) :
    ∀ key ∈ (graph.traverse fuel roots).reached, key ∈ keys := by
  have keeps : graph.Keeps (fun vertex => graph.key vertex ∈ keys)
      fun state => ∀ key ∈ state.reached, key ∈ keys :=
    { allowed := inside
      edge := fun _ _ _ _ holds => holds
      cycle := fun _ _ _ holds => holds
      cut := fun _ holds => holds
      enter := fun _ _ allowed holds =>
        List.forall_mem_append.mpr ⟨holds, List.forall_mem_singleton.mpr allowed⟩
      leave := fun _ _ holds => holds }
  exact keeps.traverse listed (List.forall_mem_nil _)

theorem visiting_subset_visit (fuel : Nat) (path : List V) (vertex : V)
    (met : state.visiting ⊆ state.reached) :
    (graph.visit fuel path vertex state).visiting ⊆
      (graph.visit fuel path vertex state).reached := by
  have keeps : graph.Keeps (fun _ => True) fun state => state.visiting ⊆ state.reached :=
    { allowed := fun _ _ _ _ _ => trivial
      edge := fun _ _ _ _ holds => holds
      cycle := fun _ _ _ holds => holds
      cut := fun _ holds => holds
      enter := fun state vertex _ holds => List.cons_subset.mpr
        ⟨List.mem_append_right _ List.mem_cons_self,
          List.Subset.trans holds (List.subset_append_left _ _)⟩
      leave := fun state vertex holds => List.Subset.trans (List.filter_subset_self _) holds }
  exact keeps.visit fuel path trivial met

theorem mem_reached_visit (fuel : Nat) (path : List V) (vertex : V)
    (met : state.visiting ⊆ state.reached) :
    graph.key vertex ∈ (graph.visit (fuel + 1) path vertex state).reached := by
  unfold visit
  split_ifs with under_visit known
  · exact met under_visit
  · exact known
  · exact reached_foldl (reached_follow (reached_visit fuel (path ++ [vertex])) vertex)
      (graph.edges vertex) (graph.enter vertex state)
      (List.mem_append_right _ (List.mem_singleton_self _))

theorem roots_reached {fuel : Nat} :
    ∀ root ∈ roots, graph.key root ∈ (graph.traverse (fuel + 1) roots).reached := by
  unfold traverse
  have start : ({} : Traversed K ε).visiting ⊆ ({} : Traversed K ε).reached := List.nil_subset _
  generalize ({} : Traversed K ε) = state at start
  induction roots generalizing state with
  | nil => exact List.forall_mem_nil _
  | cons first rest ih =>
      have next : (graph.visit (fuel + 1) [] first state).visiting ⊆
          (graph.visit (fuel + 1) [] first state).reached :=
            visiting_subset_visit (fuel + 1) [] first start
      refine List.forall_mem_cons.mpr ⟨?_, ih _ next⟩
      exact reached_foldl (fun state root => reached_visit (fuel + 1) [] root state) rest _
        (mem_reached_visit fuel [] first start)

end Keeps

section Acyclic

variable [DecidableEq K] {keys : Finset K}

/-- Every vertex has its own key, edges are liked and stay among the keys, and there is no cycle. -/
structure Sound (graph : Traversal V K E ε) (keys : Finset K) : Prop where
  key_injective : ∀ vertex other, graph.key vertex = graph.key other → vertex = other
  inside : ∀ vertex edge next, edge ∈ graph.edges vertex → graph.target edge = some next →
    graph.key next ∈ keys
  liked : ∀ vertex edge, edge ∈ graph.edges vertex → graph.edgeErrors vertex edge = []
  acyclic : ∀ vertex, ¬Relation.TransGen graph.Adjacent vertex vertex

theorem Sound.visit (sound : graph.Sound keys) (fuel : Nat) (path : List V) {vertex : V}
    (listed : graph.key vertex ∈ keys) {state : Traversed K ε}
    (enough : (unmet keys state).card < fuel)
    (before : ∀ key ∈ state.visiting, ∃ earlier, graph.key earlier = key ∧
      Relation.TransGen graph.Adjacent earlier vertex) :
    (graph.visit fuel path vertex state).errors = state.errors ∧
      (graph.visit fuel path vertex state).visiting = state.visiting := by
  induction fuel generalizing path vertex state with
  | zero => exact absurd enough (Nat.not_lt_zero _)
  | succ fuel ih =>
      unfold Traversal.visit
      split_ifs with under_visit met
      · obtain ⟨earlier, same, cycle⟩ := before _ under_visit
        rw [sound.key_injective earlier vertex same] at cycle
        exact absurd cycle (sound.acyclic vertex)
      · exact ⟨rfl, rfl⟩
      · have below (edges : List E) (inside : edges ⊆ graph.edges vertex) {inner : Traversed K ε}
            (fewer : (unmet keys inner).card < fuel)
            (visiting : inner.visiting = graph.key vertex :: state.visiting) :
            (edges.foldl (graph.follow (graph.visit fuel (path ++ [vertex])) vertex) inner).errors =
              inner.errors ∧
            (edges.foldl (graph.follow (graph.visit fuel (path ++ [vertex])) vertex)
              inner).visiting =
              inner.visiting := by
          induction edges generalizing inner with
          | nil => exact ⟨rfl, rfl⟩
          | cons edge rest later =>
              obtain ⟨edge_mem, rest_inside⟩ := List.cons_subset.mp inside
              have reported : report inner (graph.edgeErrors vertex edge) = inner := by
                rw [report, sound.liked vertex edge edge_mem, List.append_nil]
              have step : (graph.follow (graph.visit fuel (path ++ [vertex])) vertex inner
                  edge).errors = inner.errors ∧
                  (graph.follow (graph.visit fuel (path ++ [vertex])) vertex inner edge).visiting =
                    inner.visiting := by
                unfold follow
                rw [reported]
                cases at_end : graph.target edge with
                | none => exact ⟨rfl, rfl⟩
                | some next =>
                    have adjacent : graph.Adjacent vertex next := ⟨edge, edge_mem, at_end⟩
                    refine ih _ (sound.inside vertex edge next edge_mem at_end) fewer ?_
                    rw [visiting]
                    refine List.forall_mem_cons.mpr ⟨⟨vertex, rfl, .single adjacent⟩, ?_⟩
                    intro key member
                    obtain ⟨earlier, same, leads⟩ := before key member
                    exact ⟨earlier, same, leads.tail adjacent⟩
              have grown : inner.reached ⊆
                  (graph.follow (graph.visit fuel (path ++ [vertex])) vertex inner edge).reached :=
                reached_follow (reached_visit fuel (path ++ [vertex])) vertex inner edge
              obtain ⟨errors, kept⟩ := later rest_inside
                (lt_of_le_of_lt (card_unmet_le grown) fewer) (step.2.trans visiting)
              exact ⟨errors.trans step.1, kept.trans step.2⟩
        have entered := card_unmet_enter listed met
        have fewer : (unmet keys (graph.enter vertex state)).card < fuel := by omega
        obtain ⟨errors, visiting⟩ := below (graph.edges vertex) (List.Subset.refl _) fewer rfl
        refine ⟨errors, ?_⟩
        rw [leave, visiting, enter, List.filter_cons_of_neg (by simp), List.filter_eq_self]
        intro key member
        exact decide_eq_true fun same => under_visit (same ▸ member)

theorem Sound.traverse (sound : graph.Sound keys) {fuel : Nat} (enough : keys.card < fuel)
    {roots : List V} (listed : ∀ root ∈ roots, graph.key root ∈ keys) :
    (graph.traverse fuel roots).errors = [] := by
  have state (state : Traversed K ε) (visiting : state.visiting = []) :
      (roots.foldl (fun state root => graph.visit fuel [] root state) state).errors =
        state.errors := by
    induction roots generalizing state with
    | nil => rfl
    | cons root rest ih =>
        obtain ⟨root_listed, rest_listed⟩ := List.forall_mem_cons.mp listed
        have fewer : (unmet keys state).card < fuel :=
          lt_of_le_of_lt (Finset.card_filter_le keys _) enough
        obtain ⟨errors, kept⟩ := sound.visit fuel [] root_listed fewer (by simp [visiting])
        exact (ih rest_listed _ (kept.trans visiting)).trans errors
  exact state {} rfl

end Acyclic

end Traversal

end SkillCentric
