import SkillCentric.Library.DepthFirst

/-!
# Runs of a depth-first traversal

The recursion of a traversal as a relation without fuel.  Enough fuel computes it, so it ends on
every finite graph; what it meets is what the roots lead to, whatever is reported on the way; and it
reports nothing exactly when all of that is liked and on no cycle.
-/

namespace SkillCentric

namespace Traversal

variable {V K E ε : Type}

/-- What a traversal has before it. -/
inductive Task (V E : Type) where
  | roots (roots : List V)
  | visit (path : List V) (vertex : V)
  | follow (path : List V) (vertex : V) (edges : List E)

variable (graph : Traversal V K E ε)

/-- The vertices that a task visits first. -/
def starts : Task V E → List V
  | .roots roots => roots
  | .visit _ vertex => [vertex]
  | .follow _ _ edges => edges.filterMap graph.target

/-- The roots lead to a vertex. -/
def Reachable (roots : List V) (vertex : V) : Prop :=
  ∃ root ∈ roots, Relation.ReflTransGen graph.Adjacent root vertex

variable {graph}

theorem Reachable.tail {roots : List V} {vertex next : V} (reachable : graph.Reachable roots vertex)
    (adjacent : graph.Adjacent vertex next) : graph.Reachable roots next := by
  obtain ⟨root, listed, leads⟩ := reachable
  exact ⟨root, listed, leads.tail adjacent⟩

variable [DecidableEq K]

/-- Carrying out a task in a state ends in another state. -/
inductive Runs (graph : Traversal V K E ε) : Task V E → Traversed K ε → Traversed K ε → Prop
  | cycle {path : List V} {vertex : V} {state : Traversed K ε}
      (under_visit : graph.key vertex ∈ state.visiting) :
      Runs graph (.visit path vertex) state (report state [graph.cycleError path vertex])
  | met {path : List V} {vertex : V} {state : Traversed K ε}
      (left : graph.key vertex ∉ state.visiting) (met : graph.key vertex ∈ state.reached) :
      Runs graph (.visit path vertex) state state
  | enter {path : List V} {vertex : V} {state after : Traversed K ε}
      (left : graph.key vertex ∉ state.visiting) (unmet : graph.key vertex ∉ state.reached)
      (below : Runs graph (.follow (path ++ [vertex]) vertex (graph.edges vertex))
        (graph.enter vertex state) after) :
      Runs graph (.visit path vertex) state (graph.leave vertex after)
  | done {path : List V} {vertex : V} {state : Traversed K ε} :
      Runs graph (.follow path vertex []) state state
  | skip {path : List V} {vertex : V} {edge : E} {edges : List E} {state after : Traversed K ε}
      (nowhere : graph.target edge = none)
      (rest : Runs graph (.follow path vertex edges) (report state (graph.edgeErrors vertex edge))
        after) :
      Runs graph (.follow path vertex (edge :: edges)) state after
  | next {path : List V} {vertex next : V} {edge : E} {edges : List E}
      {state middle after : Traversed K ε} (at_end : graph.target edge = some next)
      (first : Runs graph (.visit path next) (report state (graph.edgeErrors vertex edge)) middle)
      (rest : Runs graph (.follow path vertex edges) middle after) :
      Runs graph (.follow path vertex (edge :: edges)) state after
  | noRoots {state : Traversed K ε} : Runs graph (.roots []) state state
  | root {root : V} {roots : List V} {state middle after : Traversed K ε}
      (first : Runs graph (.visit [] root) state middle)
      (rest : Runs graph (.roots roots) middle after) :
      Runs graph (.roots (root :: roots)) state after

variable {task : Task V E} {state after other : Traversed K ε} {roots : List V}

section Fuel

variable {keys : Finset K} (inside : ∀ vertex edge next, edge ∈ graph.edges vertex →
  graph.target edge = some next → graph.key next ∈ keys)

include inside

theorem runs_visit (fuel : Nat) (path : List V) {vertex : V} (member : graph.key vertex ∈ keys)
    {state : Traversed K ε} (enough : (unmet keys state).card < fuel) :
    graph.Runs (.visit path vertex) state (graph.visit fuel path vertex state) := by
  induction fuel generalizing path vertex state with
  | zero => exact absurd enough (Nat.not_lt_zero _)
  | succ fuel ih =>
      rw [visit]
      split_ifs with under_visit met
      · exact .cycle under_visit
      · exact .met under_visit met
      · -- the vertex entered is one vertex less to meet for all visits below
        have below (edges : List E) (among : edges ⊆ graph.edges vertex) (inner : Traversed K ε)
            (fewer : (Traversal.unmet keys inner).card < fuel) :
            graph.Runs (.follow (path ++ [vertex]) vertex edges) inner
              (edges.foldl (graph.follow (graph.visit fuel (path ++ [vertex])) vertex) inner) := by
          induction edges generalizing inner with
          | nil => exact .done
          | cons edge rest later =>
              obtain ⟨edge_mem, rest_among⟩ := List.cons_subset.mp among
              have grown : inner.reached ⊆
                  (graph.follow (graph.visit fuel (path ++ [vertex])) vertex inner edge).reached :=
                reached_follow (reached_visit fuel (path ++ [vertex])) vertex inner edge
              have rest_runs := later rest_among _ (lt_of_le_of_lt (card_unmet_le grown) fewer)
              rw [List.foldl_cons]
              cases at_end : graph.target edge with
              | none =>
                  refine .skip at_end ?_
                  simpa only [Traversal.follow, at_end] using rest_runs
              | some next =>
                  refine .next at_end (ih _ (inside vertex edge next edge_mem at_end) fewer) ?_
                  simpa only [Traversal.follow, at_end] using rest_runs
        have entered := card_unmet_enter member met
        exact .enter under_visit met (below (graph.edges vertex) (List.Subset.refl _) _ (by omega))

theorem runs_traverse {fuel : Nat} (enough : keys.card < fuel)
    (roots_listed : ∀ root ∈ roots, graph.key root ∈ keys) :
    graph.Runs (.roots roots) {} (graph.traverse fuel roots) := by
  unfold traverse
  generalize ({} : Traversed K ε) = state
  induction roots generalizing state with
  | nil => exact .noRoots
  | cons root rest ih =>
      obtain ⟨root_listed, rest_listed⟩ := List.forall_mem_cons.mp roots_listed
      have fewer : (unmet keys state).card < fuel :=
        lt_of_le_of_lt (Finset.card_filter_le keys _) enough
      exact .root (runs_visit inside fuel [] root_listed fewer) (ih rest_listed _)

end Fuel

/-- A run meets more, reports more and leaves the vertices under visit as they were. -/
structure Grows (state after : Traversed K ε) : Prop where
  reached : state.reached ⊆ after.reached
  errors : state.errors <+: after.errors
  visiting : after.visiting = state.visiting

omit [DecidableEq K] in
theorem Grows.trans (first : Grows state after) (second : Grows after other) : Grows state other :=
  ⟨List.Subset.trans first.reached second.reached, first.errors.trans second.errors,
    second.visiting.trans first.visiting⟩

omit [DecidableEq K] in
theorem grows_report (errors : List ε) : Grows state (report state errors) :=
  ⟨List.Subset.refl _, List.prefix_append _ _, rfl⟩

theorem visiting_leave {vertex : V}
    (under_visit : after.visiting = graph.key vertex :: state.visiting)
    (fresh : graph.key vertex ∉ state.visiting) :
    (graph.leave vertex after).visiting = state.visiting := by
  rw [leave, under_visit, List.filter_cons_of_neg (by simp), List.filter_eq_self]
  intro key member
  exact decide_eq_true fun same => fresh (same ▸ member)

theorem Runs.grows (runs : graph.Runs task state after) : Grows state after := by
  induction runs with
  | cycle under_visit => exact grows_report _
  | met left met => exact ⟨List.Subset.refl _, List.prefix_rfl, rfl⟩
  | enter left unmet below ih =>
      exact ⟨List.Subset.trans (List.subset_append_left _ _) ih.reached, ih.errors,
        visiting_leave ih.visiting left⟩
  | done => exact ⟨List.Subset.refl _, List.prefix_rfl, rfl⟩
  | skip nowhere rest ih => exact (grows_report _).trans ih
  | next at_end first rest visited ih => exact ((grows_report _).trans visited).trans ih
  | noRoots => exact ⟨List.Subset.refl _, List.prefix_rfl, rfl⟩
  | root first rest visited ih => exact visited.trans ih

theorem Runs.reached_sound (runs : graph.Runs task state after) :
    ∀ key ∈ after.reached, key ∈ state.reached ∨
      ∃ vertex, graph.Reachable (graph.starts task) vertex ∧ graph.key vertex = key := by
  induction runs with
  | cycle under_visit => exact fun key member => .inl member
  | met left met => exact fun key member => .inl member
  | @enter path vertex state after left unmet below ih =>
      intro key member
      rcases ih key member with entered | ⟨found, ⟨start, first, leads⟩, same⟩
      · rcases List.mem_append.mp entered with before | this
        · exact .inl before
        · exact .inr
            ⟨vertex, ⟨vertex, List.mem_cons_self, .refl⟩, (List.mem_singleton.mp this).symm⟩
      · obtain ⟨edge, listed, at_end⟩ := List.mem_filterMap.mp first
        have adjacent : graph.Adjacent vertex start := ⟨edge, listed, at_end⟩
        exact .inr ⟨found, ⟨vertex, List.mem_cons_self, .head adjacent leads⟩, same⟩
  | done => exact fun key member => .inl member
  | @skip path vertex edge edges state after nowhere rest ih =>
      have same : graph.starts (.follow path vertex (edge :: edges)) =
          graph.starts (.follow path vertex edges) := List.filterMap_cons_none nowhere
      rw [same]
      exact ih
  | @next path vertex next edge edges state middle after at_end first rest visited ih =>
      have same : graph.starts (.follow path vertex (edge :: edges)) =
          next :: graph.starts (.follow path vertex edges) := List.filterMap_cons_some at_end
      intro key member
      rw [same]
      rcases ih key member with before | ⟨found, ⟨start, listed, leads⟩, same⟩
      · rcases visited key before with before | ⟨found, ⟨start, listed, leads⟩, same⟩
        · exact .inl before
        · rw [List.mem_singleton.mp listed] at leads
          exact .inr ⟨found, ⟨next, List.mem_cons_self, leads⟩, same⟩
      · exact .inr ⟨found, ⟨start, List.mem_cons_of_mem _ listed, leads⟩, same⟩
  | noRoots => exact fun key member => .inl member
  | @root root roots state middle after first rest visited ih =>
      intro key member
      rcases ih key member with before | ⟨found, ⟨start, listed, leads⟩, same⟩
      · rcases visited key before with before | ⟨found, ⟨start, listed, leads⟩, same⟩
        · exact .inl before
        · rw [List.mem_singleton.mp listed] at leads
          exact .inr ⟨found, ⟨root, List.mem_cons_self, leads⟩, same⟩
      · exact .inr ⟨found, ⟨start, List.mem_cons_of_mem _ listed, leads⟩, same⟩

theorem Runs.reached_nodup (runs : graph.Runs task state after) (nodup : state.reached.Nodup) :
    after.reached.Nodup := by
  induction runs with
  | cycle under_visit => exact nodup
  | met left met => exact nodup
  | enter left unmet below ih =>
      refine ih (List.nodup_append.mpr ⟨nodup, List.nodup_singleton _, ?_⟩)
      rintro key member other (_ | ⟨_, ⟨⟩⟩) rfl
      exact unmet member
  | done => exact nodup
  | skip nowhere rest ih => exact ih nodup
  | next at_end first rest visited ih => exact ih (visited nodup)
  | noRoots => exact nodup
  | root first rest visited ih => exact ih (visited nodup)

section Complete

variable {Known : V → Prop}

/-- Every vertex that was met and left has its successors met. -/
def Settled (graph : Traversal V K E ε) (Known : V → Prop) (state : Traversed K ε) : Prop :=
  ∀ vertex, Known vertex → graph.key vertex ∈ state.reached →
    graph.key vertex ∈ state.visiting ∨
      ∀ next, graph.Adjacent vertex next → graph.key next ∈ state.reached

variable (key_injective : ∀ vertex other, Known vertex → Known other →
    graph.key vertex = graph.key other → vertex = other)
  (known_target : ∀ edge next, graph.target edge = some next → Known next)

include key_injective in
theorem Settled.leave {vertex : V} (settled : graph.Settled Known after) (known : Known vertex)
    (under_visit : after.visiting = graph.key vertex :: state.visiting)
    (fresh : graph.key vertex ∉ state.visiting)
    (followed : ∀ next, graph.Adjacent vertex next → graph.key next ∈ after.reached) :
    graph.Settled Known (graph.leave vertex after) := by
  intro found found_known met
  rw [visiting_leave under_visit fresh]
  rcases settled found found_known met with visiting | finished
  · rw [under_visit] at visiting
    rcases List.mem_cons.mp visiting with same | earlier
    · rw [key_injective found vertex found_known known same]
      exact .inr followed
    · exact .inl earlier
  · exact .inr finished

include key_injective known_target in
theorem Runs.reached_complete (runs : graph.Runs task state after)
    (known : ∀ start ∈ graph.starts task, Known start) (inside : state.visiting ⊆ state.reached)
    (settled : graph.Settled Known state) :
    (∀ start ∈ graph.starts task, graph.key start ∈ after.reached) ∧ graph.Settled Known after := by
  induction runs with
  | cycle under_visit =>
      exact ⟨fun start listed => by rw [List.mem_singleton.mp listed]; exact inside under_visit,
        settled⟩
  | met left met =>
    exact ⟨fun start listed => by rw [List.mem_singleton.mp listed]; exact met, settled⟩
  | @enter path vertex state after left unmet below ih =>
      have entered : graph.Settled Known (graph.enter vertex state) := by
        intro found found_known member
        rcases List.mem_append.mp member with before | this
        · rcases settled found found_known before with visiting | finished
          · exact .inl (List.mem_cons_of_mem _ visiting)
          · exact .inr fun next adjacent => List.mem_append_left _ (finished next adjacent)
        · exact .inl (List.mem_singleton.mp this ▸ List.mem_cons_self)
      have inside_entered :
          (graph.enter vertex state).visiting ⊆ (graph.enter vertex state).reached :=
        List.cons_subset.mpr ⟨List.mem_append_right _ (List.mem_singleton_self _),
          List.Subset.trans inside (List.subset_append_left _ _)⟩
      have successors :
          ∀ start ∈ graph.starts (.follow (path ++ [vertex]) vertex (graph.edges vertex)),
          Known start := by
        intro start listed
        obtain ⟨edge, -, at_end⟩ := List.mem_filterMap.mp listed
        exact known_target edge start at_end
      obtain ⟨followed, settled⟩ := ih successors inside_entered entered
      refine ⟨fun start listed => ?_, settled.leave key_injective (known vertex List.mem_cons_self)
        below.grows.visiting left fun next adjacent => ?_⟩
      · rw [List.mem_singleton.mp listed]
        exact below.grows.reached (List.mem_append_right _ (List.mem_singleton_self _))
      · obtain ⟨edge, listed, at_end⟩ := adjacent
        exact followed next (List.mem_filterMap.mpr ⟨edge, listed, at_end⟩)
  | done => exact ⟨List.forall_mem_nil _, settled⟩
  | @skip path vertex edge edges state after nowhere rest ih =>
      have same : graph.starts (.follow path vertex (edge :: edges)) =
          graph.starts (.follow path vertex edges) := List.filterMap_cons_none nowhere
      rw [same] at known ⊢
      exact ih known inside settled
  | @next path vertex next edge edges state middle after at_end first rest visited ih =>
      have same : graph.starts (.follow path vertex (edge :: edges)) =
          next :: graph.starts (.follow path vertex edges) := List.filterMap_cons_some at_end
      rw [same] at known ⊢
      obtain ⟨next_known, rest_known⟩ := List.forall_mem_cons.mp known
      obtain ⟨next_met, middle_settled⟩ :=
        visited (List.forall_mem_singleton.mpr next_known) inside settled
      have middle_inside : middle.visiting ⊆ middle.reached := by
        rw [first.grows.visiting]
        exact List.Subset.trans inside first.grows.reached
      obtain ⟨others_met, after_settled⟩ := ih rest_known middle_inside middle_settled
      exact ⟨List.forall_mem_cons.mpr
        ⟨rest.grows.reached (next_met next List.mem_cons_self), others_met⟩, after_settled⟩
  | noRoots => exact ⟨List.forall_mem_nil _, settled⟩
  | @root root roots state middle after first rest visited ih =>
      obtain ⟨root_known, rest_known⟩ := List.forall_mem_cons.mp known
      obtain ⟨root_met, middle_settled⟩ :=
        visited (List.forall_mem_singleton.mpr root_known) inside settled
      have middle_inside : middle.visiting ⊆ middle.reached := by
        rw [first.grows.visiting]
        exact List.Subset.trans inside first.grows.reached
      obtain ⟨others_met, after_settled⟩ := ih rest_known middle_inside middle_settled
      exact ⟨List.forall_mem_cons.mpr
        ⟨rest.grows.reached (root_met root List.mem_cons_self), others_met⟩, after_settled⟩

include key_injective known_target in
theorem Runs.mem_reached_iff (runs : graph.Runs (.roots roots) {} after)
    (known : ∀ root ∈ roots, Known root) {key : K} : key ∈ after.reached ↔
      ∃ vertex, graph.Reachable roots vertex ∧ graph.key vertex = key := by
  constructor
  · intro met
    exact (runs.reached_sound key met).resolve_left List.not_mem_nil
  · rintro ⟨vertex, ⟨root, listed, leads⟩, rfl⟩
    obtain ⟨roots_met, settled⟩ := runs.reached_complete key_injective known_target known
      (List.nil_subset _) fun _ _ member => absurd member List.not_mem_nil
    have met : Known vertex ∧ graph.key vertex ∈ after.reached := by
      induction leads with
      | refl => exact ⟨known root listed, roots_met root listed⟩
      | tail _ step ih =>
          have ⟨edge, _, at_end⟩ := step
          have left : after.visiting = [] := runs.grows.visiting
          exact ⟨known_target edge _ at_end,
            (settled _ ih.1 ih.2).resolve_left (by simp [left]) _ step⟩
    exact met.2

end Complete

section Reports

variable {Known : V → Prop}

/-- A set of known vertices that is left by no edge, whose edges are liked and where no cycle is. -/
structure Faultless (graph : Traversal V K E ε) (Known Inside : V → Prop) : Prop where
  known : ∀ vertex, Inside vertex → Known vertex
  closed : ∀ vertex next, Inside vertex → graph.Adjacent vertex next → Inside next
  liked : ∀ vertex, Inside vertex → ∀ edge ∈ graph.edges vertex, graph.edgeErrors vertex edge = []
  acyclic : ∀ vertex, Inside vertex → ¬Relation.TransGen graph.Adjacent vertex vertex

/-- The vertices under visit lead to what a task is about, which is in a set. -/
def OnTheWay (graph : Traversal V K E ε) (Known Inside : V → Prop) (state : Traversed K ε) :
    Task V E → Prop
  | .roots roots => state.visiting = [] ∧ ∀ root ∈ roots, Inside root
  | .visit _ vertex => Inside vertex ∧ ∀ key ∈ state.visiting, ∃ earlier, Known earlier ∧
      graph.key earlier = key ∧ Relation.TransGen graph.Adjacent earlier vertex
  | .follow _ vertex edges => Inside vertex ∧ edges ⊆ graph.edges vertex ∧
      ∀ key ∈ state.visiting, ∃ earlier, Known earlier ∧
        graph.key earlier = key ∧ Relation.ReflTransGen graph.Adjacent earlier vertex

variable {Inside : V → Prop}

theorem Runs.errors_eq (runs : graph.Runs task state after)
    (faultless : graph.Faultless Known Inside)
    (key_injective : ∀ vertex other, Known vertex → Known other →
      graph.key vertex = graph.key other → vertex = other)
    (way : graph.OnTheWay Known Inside state task) : after.errors = state.errors := by
  induction runs with
  | @cycle path vertex state under_visit =>
      obtain ⟨inside, leads⟩ := way
      obtain ⟨earlier, known, same, cycle⟩ := leads _ under_visit
      rw [key_injective earlier vertex known (faultless.known vertex inside) same] at cycle
      exact absurd cycle (faultless.acyclic vertex inside)
  | met left met => rfl
  | @enter path vertex state after left unmet below ih =>
      obtain ⟨inside, leads⟩ := way
      refine ih ⟨inside, List.Subset.refl _, List.forall_mem_cons.mpr
        ⟨⟨vertex, faultless.known vertex inside, rfl, .refl⟩, fun key member => ?_⟩⟩
      obtain ⟨earlier, known, same, path⟩ := leads key member
      exact ⟨earlier, known, same, path.to_reflTransGen⟩
  | done => rfl
  | @skip path vertex edge edges state after nowhere rest ih =>
      obtain ⟨inside, within, leads⟩ := way
      obtain ⟨listed, rest_within⟩ := List.cons_subset.mp within
      have reported : report state (graph.edgeErrors vertex edge) = state := by
        rw [report, faultless.liked vertex inside edge listed, List.append_nil]
      rw [reported] at ih
      exact ih ⟨inside, rest_within, leads⟩
  | @next path vertex next edge edges state middle after at_end first rest visited ih =>
      obtain ⟨inside, within, leads⟩ := way
      obtain ⟨listed, rest_within⟩ := List.cons_subset.mp within
      have reported : report state (graph.edgeErrors vertex edge) = state := by
        rw [report, faultless.liked vertex inside edge listed, List.append_nil]
      have adjacent : graph.Adjacent vertex next := ⟨edge, listed, at_end⟩
      rw [reported] at visited first
      have visited := visited ⟨faultless.closed vertex next inside adjacent, fun key member => by
        obtain ⟨earlier, known, same, path⟩ := leads key member
        exact ⟨earlier, known, same, .tail' path adjacent⟩⟩
      refine (ih ⟨inside, rest_within, ?_⟩).trans visited
      rw [first.grows.visiting]
      exact leads
  | noRoots => rfl
  | @root root roots state middle after first rest visited ih =>
      obtain ⟨none, inside⟩ := way
      obtain ⟨root_inside, rest_inside⟩ := List.forall_mem_cons.mp inside
      have visited := visited ⟨root_inside, by simp [none]⟩
      exact (ih ⟨first.grows.visiting.trans none, rest_inside⟩).trans visited

/-- A task is about vertices of a set. -/
def Within (graph : Traversal V K E ε) (Inside : V → Prop) : Task V E → Prop
  | .roots roots => ∀ root ∈ roots, Inside root
  | .visit _ vertex => Inside vertex
  | .follow _ vertex edges => Inside vertex ∧ edges ⊆ graph.edges vertex

theorem Runs.errors_forall {P : ε → Prop} (runs : graph.Runs task state after)
    (closed : ∀ vertex next, Inside vertex → graph.Adjacent vertex next → Inside next)
    (edge : ∀ vertex, Inside vertex → ∀ edge ∈ graph.edges vertex,
      ∀ error ∈ graph.edgeErrors vertex edge, P error)
    (cycle : ∀ path vertex, P (graph.cycleError path vertex)) (within : graph.Within Inside task)
    (before : ∀ error ∈ state.errors, P error) : ∀ error ∈ after.errors, P error := by
  induction runs with
  | @cycle path vertex state under_visit =>
      exact List.forall_mem_append.mpr ⟨before, List.forall_mem_singleton.mpr (cycle path vertex)⟩
  | met left met => exact before
  | enter left unmet below ih => exact ih ⟨within, List.Subset.refl _⟩ before
  | done => exact before
  | @skip path vertex first edges state after nowhere rest ih =>
      obtain ⟨inside, among⟩ := within
      obtain ⟨listed, rest_among⟩ := List.cons_subset.mp among
      exact ih ⟨inside, rest_among⟩
        (List.forall_mem_append.mpr ⟨before, edge vertex inside first listed⟩)
  | @next path vertex next first edges state middle after at_end visit rest visited ih =>
      obtain ⟨inside, among⟩ := within
      obtain ⟨listed, rest_among⟩ := List.cons_subset.mp among
      refine ih ⟨inside, rest_among⟩
        (visited (closed vertex next inside ⟨first, listed, at_end⟩) ?_)
      exact List.forall_mem_append.mpr ⟨before, edge vertex inside first listed⟩
  | noRoots => exact before
  | root first rest visited ih =>
      obtain ⟨root_inside, rest_inside⟩ := List.forall_mem_cons.mp within
      exact ih rest_inside (visited root_inside before)

theorem traverse_errors_eq_nil_iff (lawful : graph.Lawful Known) {keys : Finset K}
    (inside : ∀ vertex edge next, edge ∈ graph.edges vertex → graph.target edge = some next →
      graph.key next ∈ keys) {fuel : Nat} (enough : keys.card < fuel)
    (known : ∀ root ∈ roots, Known root) (roots_listed : ∀ root ∈ roots, graph.key root ∈ keys) :
    (graph.traverse fuel roots).errors = [] ↔ ∀ vertex, graph.Reachable roots vertex →
      (∀ edge ∈ graph.edges vertex, graph.edgeErrors vertex edge = []) ∧
        ¬Relation.TransGen graph.Adjacent vertex vertex := by
  constructor
  · rintro clean vertex ⟨root, root_mem, leads⟩
    obtain ⟨-, liked, acyclic⟩ := traverse_clean lawful known clean root_mem leads
    exact ⟨fun edge edge_mem => (liked edge edge_mem).1, acyclic⟩
  · intro fine
    have runs := runs_traverse inside enough roots_listed
    have known_reachable : ∀ vertex, graph.Reachable roots vertex → Known vertex := by
      rintro vertex ⟨root, root_mem, leads⟩
      rcases leads.cases_tail with rfl | ⟨_, _, edge, _, at_end⟩
      · exact known vertex root_mem
      · exact lawful.known_target edge vertex at_end
    have faultless : graph.Faultless Known (graph.Reachable roots) :=
      ⟨known_reachable, fun _ _ reachable adjacent => reachable.tail adjacent,
        fun vertex reachable => (fine vertex reachable).1,
        fun vertex reachable => (fine vertex reachable).2⟩
    exact runs.errors_eq faultless lawful.key_injective
      ⟨rfl, fun root root_mem => ⟨root, root_mem, .refl⟩⟩

end Reports

end Traversal

end SkillCentric
