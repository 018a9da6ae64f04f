import SkillCentric.Library.Conduct

/-!
# Logs with drawn indices

The threads of a pool append rows to a log.  A thread draws an index of a run first and files a row
under it later.  When every thread files only under indices that it has drawn, and under each of
them once, the rows of a run have different indices, however the threads are interleaved.
-/

namespace SkillCentric

variable {Op : Type} {Reply : Op → Type} {State Info ε α Row Run : Type}

/-- Operations that draw indices of runs and operations that file rows. -/
structure TicketLog (exec : (op : Op) → State → Reply op × State) (Row Run : Type) where
  /-- The rows of the log, oldest first. -/
  rows : State → List Row
  run : Row → Run
  index : Row → Nat
  /-- The index of a run that is drawn next. -/
  next : State → Run → Nat
  /-- An index of the run has been drawn. -/
  opened : State → Run → Prop
  draws : Op → Option Run
  files : Op → Option Row
  /-- No operation draws and files. -/
  apart : ∀ op run, draws op = some run → files op = none
  /-- Rows are only appended, and only by filing them. -/
  rows_exec : ∀ op state, rows (exec op state).2 = rows state ∨
    ∃ row, files op = some row ∧ rows (exec op state).2 = rows state ++ [row]
  /-- Drawing takes the next index of one run. -/
  next_draw : ∀ op run, draws op = some run → ∀ state,
    next (exec op state).2 run = next state run + 1
  next_other : ∀ op run, draws op = some run → ∀ state other, other ≠ run →
    next (exec op state).2 other = next state other
  opens : ∀ op run, draws op = some run → ∀ state, opened (exec op state).2 run
  stays : ∀ op state run, opened state run → opened (exec op state).2 run
  /-- Nothing but drawing moves the indices, once an index of the run has been drawn. -/
  next_kept :
    ∀ op, draws op = none → ∀ state, (∀ row, files op = some row → opened state (run row)) →
    ∀ other, next (exec op state).2 other = next state other

namespace TicketLog

variable {exec : (op : Op) → State → Reply op × State} (log : TicketLog exec Row Run)

/-- Run and index of a row. -/
def key (row : Row) : Run × Nat := (log.run row, log.index row)

/-- The indices that were drawn, with their runs. -/
def tickets (past : Past Op State) : List (Run × Nat) :=
  past.filterMap fun (op, state) => (log.draws op).map fun run => (run, log.next state run)

/-- The indices of a run that were drawn. -/
def drawn [DecidableEq Run] (run : Run) (past : Past Op State) : List Nat :=
  ((log.tickets past).filter (·.1 = run)).map (·.2)

/-- The rows that were filed, with the states they were filed in. -/
def filings (past : Past Op State) : List (Row × State) :=
  past.filterMap fun (op, state) => (log.files op).map (·, state)

/-- The rows that operations added. -/
def added (past : Past Op State) : List Row :=
  past.flatMap fun (op, state) => (log.rows (exec op state).2).drop (log.rows state).length

/-- Rows are filed under indices that were drawn, and under each index once. -/
def Orderly (past : Past Op State) (op : Op) : Prop :=
  ∀ row, log.files op = some row → log.key row ∈ log.tickets past ∧
    ∀ filing ∈ log.filings past, log.key filing.1 ≠ log.key row

/-- The rows of a run have different indices, below those that are still to be drawn. -/
structure Sound (state : State) : Prop where
  distinct : ((log.rows state).map log.key).Nodup
  below : ∀ row ∈ log.rows state, log.index row < log.next state (log.run row)

section Pasts

variable {log} {past : Past Op State} {op : Op} {state : State}

@[simp]
theorem tickets_nil : log.tickets [] = [] := rfl

@[simp]
theorem filings_nil : log.filings [] = [] := rfl

theorem tickets_append : log.tickets (past ++ [(op, state)]) =
    log.tickets past ++ ((log.draws op).map fun run => (run, log.next state run)).toList := by
  rw [tickets, List.filterMap_append]
  congr 1

theorem filings_append : log.filings (past ++ [(op, state)]) =
    log.filings past ++ ((log.files op).map (·, state)).toList := by
  rw [filings, List.filterMap_append]
  congr 1

theorem tickets_of_draw {run : Run} (drawing : log.draws op = some run) :
    log.tickets (past ++ [(op, state)]) = log.tickets past ++ [(run, log.next state run)] := by
  rw [tickets_append, drawing]
  rfl

theorem tickets_of_rest (rest : log.draws op = none) :
    log.tickets (past ++ [(op, state)]) = log.tickets past := by
  rw [tickets_append, rest]
  exact List.append_nil _

theorem filings_of_file {row : Row} (filing : log.files op = some row) :
    log.filings (past ++ [(op, state)]) = log.filings past ++ [(row, state)] := by
  rw [filings_append, filing]
  rfl

theorem filings_of_rest (rest : log.files op = none) :
    log.filings (past ++ [(op, state)]) = log.filings past := by
  rw [filings_append, rest]
  exact List.append_nil _

@[simp]
theorem added_nil : log.added [] = [] := rfl

theorem added_append : log.added (past ++ [(op, state)]) =
    log.added past ++ (log.rows (exec op state).2).drop (log.rows state).length := by
  rw [added, List.flatMap_append, List.flatMap_singleton]
  rfl

theorem added_of_rest (rest : log.files op = none) :
    log.added (past ++ [(op, state)]) = log.added past := by
  rcases log.rows_exec op state with same | ⟨row, filing, -⟩
  · rw [added_append, same, List.drop_length, List.append_nil]
  · rw [rest] at filing
    cases filing

theorem orderly_of_rest (rest : log.files op = none) : log.Orderly past op := by
  intro row filing
  rw [rest] at filing
  cases filing

/-- A past that has drawn some indices and filed nothing. -/
structure Blank (log : TicketLog exec Row Run) (drawn : List (Run × Nat)) (past : Past Op State) :
    Prop where
  tickets : log.tickets past = drawn
  filings : log.filings past = []
  added : log.added past = []

theorem blank_nil : log.Blank [] [] := ⟨rfl, rfl, rfl⟩

theorem Blank.rest {drawn : List (Run × Nat)} (blank : log.Blank drawn past)
    (draws : log.draws op = none) (files : log.files op = none) (state : State) :
    log.Blank drawn (past ++ [(op, state)]) :=
  ⟨(tickets_of_rest draws).trans blank.tickets, (filings_of_rest files).trans blank.filings,
    (added_of_rest files).trans blank.added⟩

theorem Blank.draw {run : Run} (blank : log.Blank [] past) (draws : log.draws op = some run)
    (state : State) : log.Blank [(run, log.next state run)] (past ++ [(op, state)]) := by
  have files := log.apart op run draws
  exact ⟨by rw [tickets_of_draw draws, blank.tickets]; rfl,
    (filings_of_rest files).trans blank.filings, (added_of_rest files).trans blank.added⟩

theorem Blank.orderly {drawn : List (Run × Nat)} {row : Row} (blank : log.Blank drawn past)
    (files : log.files op = some row) (listed : log.key row ∈ drawn) : log.Orderly past op := by
  intro other filing
  rw [files] at filing
  cases filing
  rw [blank.tickets, blank.filings]
  exact ⟨listed, fun _ none => nomatch none⟩

theorem rows_grow (op : Op) (state : State) :
    log.rows state <+: log.rows (exec op state).2 := by
  rcases log.rows_exec op state with same | ⟨row, -, appended⟩
  · rw [same]
  · rw [appended]
    exact List.prefix_append _ _

theorem mem_of_filing {filing : Row × State} (filed : filing ∈ log.filings past) :
    ∃ entry ∈ past, entry.2 = filing.2 := by
  obtain ⟨entry, listed, same⟩ := List.mem_filterMap.mp filed
  obtain ⟨row, -, rfl⟩ := Option.map_eq_some_iff.mp same
  exact ⟨entry, listed, rfl⟩

theorem Sound.indices [DecidableEq Run] (sound : log.Sound state) (run : Run) :
    (((log.rows state).filter (log.run · = run)).map log.index).Nodup := by
  have distinct := List.pairwise_map.mp sound.distinct
  refine List.pairwise_map.mpr ((distinct.filter _).imp_of_mem fun {left right} first second => ?_)
  have owner := of_decide_eq_true (List.mem_filter.mp first).2
  have other := of_decide_eq_true (List.mem_filter.mp second).2
  exact fun differs same => differs (Prod.ext (owner.trans other.symm) same)

end Pasts

end TicketLog

theorem flatMap_set_perm {β γ : Type} {f : β → List γ} {items : List β} {index : Nat}
    {old : β} (new : β) (more : List γ) (found : items[index]? = some old)
    (grown : f new = f old ++ more) :
    ((items.set index new).flatMap f).Perm (items.flatMap f ++ more) := by
  induction items generalizing index with
  | nil => cases found
  | cons head rest ih =>
      cases index with
      | zero =>
          cases found
          simp only [List.set_cons_zero, List.flatMap_cons, grown, List.append_assoc]
          exact (List.perm_append_comm).append_left _
      | succ index =>
          simp only [List.set_cons_succ, List.flatMap_cons, List.append_assoc]
          exact (ih found).append_left _

namespace TicketLog

variable {exec : (op : Op) → State → Reply op × State} (log : TicketLog exec Row Run)
  [DecidableEq Run]

/-- What is known of the log of a pool that started in a state. -/
structure Ledger (start : State) (pool : Pool Reply State Info ε α) : Prop where
  sound : log.Sound pool.state
  /-- The indices of a run are drawn one after another. -/
  drawn : ∀ run, ∃ count, log.next pool.state run = log.next start run + count ∧
    (pool.threads.flatMap fun thread => log.drawn run thread.past).Perm
      (List.range' (log.next start run) count)
  opened : ∀ (index : Nat) (thread : Thread Reply State Info ε α),
    pool.threads[index]? = some thread → ∀ ticket ∈ log.tickets thread.past,
      log.opened pool.state ticket.1 ∧ ticket.2 < log.next pool.state ticket.1
  /-- No index is drawn by two threads. -/
  single : ∀ (index other : Nat) (thread peer : Thread Reply State Info ε α),
    pool.threads[index]? = some thread → pool.threads[other]? = some peer →
      ∀ ticket ∈ log.tickets thread.past, ticket ∈ log.tickets peer.past → index = other
  /-- The row under a drawn index was filed by the thread that drew it. -/
  filed : ∀ (index : Nat) (thread : Thread Reply State Info ε α),
    pool.threads[index]? = some thread → ∀ row ∈ log.rows pool.state,
      log.key row ∈ log.tickets thread.past →
        ∃ filing ∈ log.filings thread.past, log.key filing.1 = log.key row
  /-- An index has no row when one is filed under it. -/
  fresh : ∀ (index : Nat) (thread : Thread Reply State Info ε α),
    pool.threads[index]? = some thread → ∀ filing ∈ log.filings thread.past,
      ∀ row ∈ log.rows filing.2, log.key row ≠ log.key filing.1

variable {log} {start : State} {pool : Pool Reply State Info ε α}

theorem drawn_of_draw {past : Past Op State} {op : Op} {state : State} {run : Run}
    (drawing : log.draws op = some run) (other : Run) :
    log.drawn other (past ++ [(op, state)]) =
      log.drawn other past ++ if run = other then [log.next state run] else [] := by
  rw [drawn, tickets_of_draw drawing, List.filter_append, List.map_append]
  congr 1
  split_ifs with same <;> simp [same]

theorem drawn_of_rest {past : Past Op State} {op : Op} {state : State}
    (rest : log.draws op = none) (run : Run) :
    log.drawn run (past ++ [(op, state)]) = log.drawn run past := by
  rw [drawn, tickets_of_rest rest, drawn]

theorem ledger_initial (sound : log.Sound start) :
    log.Ledger start (⟨start, []⟩ : Pool Reply State Info ε α) where
  sound := sound
  drawn run := ⟨0, rfl, .refl _⟩
  opened := by simp
  single := by simp
  filed := by simp
  fresh := by simp

theorem Ledger.spawn (ledger : log.Ledger start pool) {info : Info} {program : Program Reply ε α} :
    log.Ledger start (pool.spawn info program) := by
  refine ⟨ledger.sound, fun run => ?_, fun index thread found ticket drawn => ?_,
    fun index other thread peer found located ticket drawn again => ?_,
    fun index thread found row stored drawn => ?_, fun index thread found filing filed => ?_⟩
  · obtain ⟨count, next, drawn⟩ := ledger.drawn run
    refine ⟨count, next, ?_⟩
    simpa only [Pool.spawn, List.flatMap_append, List.flatMap_singleton, TicketLog.drawn,
      tickets_nil, List.filter_nil, List.map_nil, List.append_nil] using drawn
  · rcases Pool.getElem?_spawn found with old | ⟨-, rfl⟩
    · exact ledger.opened index thread old ticket drawn
    · cases drawn
  · rcases Pool.getElem?_spawn found with old | ⟨-, rfl⟩
    · rcases Pool.getElem?_spawn located with older | ⟨-, rfl⟩
      · exact ledger.single index other thread peer old older ticket drawn again
      · cases again
    · cases drawn
  · rcases Pool.getElem?_spawn found with old | ⟨-, rfl⟩
    · exact ledger.filed index thread old row stored drawn
    · cases drawn
  · rcases Pool.getElem?_spawn found with old | ⟨-, rfl⟩
    · exact ledger.fresh index thread old filing filed
    · cases filed

theorem Ledger.of_pasts (ledger : log.Ledger start pool) {after : Pool Reply State Info ε α}
    (rows : log.rows after.state = log.rows pool.state)
    (next : log.next after.state = log.next pool.state)
    (opened : log.opened after.state = log.opened pool.state)
    (pasts : after.threads.map Thread.past = pool.threads.map Thread.past) :
    log.Ledger start after := by
  have old {index : Nat} {thread : Thread Reply State Info ε α}
      (found : after.threads[index]? = some thread) :
      ∃ before, pool.threads[index]? = some before ∧ before.past = thread.past := by
    have past := congrArg (·[index]?) pasts
    simp only [List.getElem?_map, found, Option.map_some] at past
    exact Option.map_eq_some_iff.mp past.symm
  refine ⟨⟨?_, ?_⟩, fun run => ?_, fun index thread found ticket drawn => ?_,
    fun index other thread peer found located ticket drawn again => ?_,
    fun index thread found row stored drawn => ?_, fun index thread found filing filed => ?_⟩
  · rw [rows]
    exact ledger.sound.distinct
  · rw [rows, next]
    exact ledger.sound.below
  · obtain ⟨count, position, drawn⟩ := ledger.drawn run
    refine ⟨count, next ▸ position, ?_⟩
    have flat (pool : Pool Reply State Info ε α) :
        (pool.threads.flatMap fun thread => log.drawn run thread.past) =
          (pool.threads.map Thread.past).flatMap (log.drawn run) := (List.flatMap_map ..).symm
    rw [flat, pasts, ← flat]
    exact drawn
  · obtain ⟨before, located, same⟩ := old found
    rw [opened, next]
    exact ledger.opened index before located ticket (same ▸ drawn)
  · obtain ⟨before, there, same⟩ := old found
    obtain ⟨beside, here, alike⟩ := old located
    exact ledger.single index other before beside there here ticket (same ▸ drawn) (alike ▸ again)
  · obtain ⟨before, located, same⟩ := old found
    rw [rows] at stored
    rw [← same] at drawn ⊢
    exact ledger.filed index before located row stored drawn
  · obtain ⟨before, located, same⟩ := old found
    exact ledger.fresh index before located filing (same ▸ filed)

theorem Ledger.crash (ledger : log.Ledger start pool) {index : Nat} {outcome : Except ε α} :
    log.Ledger start (pool.crash index outcome) := by
  refine ledger.of_pasts rfl rfl rfl (List.ext_getElem? fun other => ?_)
  simp only [Pool.crash, List.getElem?_map, List.getElem?_modify]
  cases pool.threads[other]? with
  | none => rfl
  | some thread =>
      simp only [Option.map_some, Option.map_eq_map]
      split <;> rfl

section Step

variable {index : Nat} {thread : Thread Reply State Info ε α} {op : Op}
  {rest : Reply op → Program Reply ε α}

/-- The thread after an operation. -/
abbrev performed (exec : (op : Op) → State → Reply op × State) (state : State)
    (thread : Thread Reply State Info ε α) (op : Op) (rest : Reply op → Program Reply ε α) :
    Thread Reply State Info ε α :=
  { thread with past := thread.past ++ [(op, state)], program := rest (exec op state).1 }

theorem Ledger.draw (ledger : log.Ledger start pool) (found : pool.threads[index]? = some thread)
    {run : Run} (drawing : log.draws op = some run) :
    log.Ledger start ⟨(exec op pool.state).2,
      pool.threads.set index (performed exec pool.state thread op rest)⟩ := by
  have silent := log.apart op run drawing
  have rows : log.rows (exec op pool.state).2 = log.rows pool.state := by
    rcases log.rows_exec op pool.state with same | ⟨row, filing, -⟩
    · exact same
    · rw [silent] at filing
      cases filing
  have moved (other : Run) : log.next pool.state other ≤ log.next (exec op pool.state).2 other := by
    by_cases same : other = run
    · rw [same, log.next_draw op run drawing]
      omega
    · rw [log.next_other op run drawing pool.state other same]
  have past : log.tickets (performed exec pool.state thread op rest).past =
      log.tickets thread.past ++ [(run, log.next pool.state run)] := tickets_of_draw drawing
  have filings : log.filings (performed exec pool.state thread op rest).past =
      log.filings thread.past := filings_of_rest silent
  -- a thread of the new pool with its tickets before the step
  have old {other : Nat} {peer : Thread Reply State Info ε α}
      (located : (pool.threads.set index (performed exec pool.state thread op rest))[other]? =
        some peer) :
      ∃ before,
        pool.threads[other]? = some before ∧ log.filings peer.past = log.filings before.past ∧
        ∀ ticket ∈ log.tickets peer.past, ticket ∈ log.tickets before.past ∨
          (other = index ∧ ticket = (run, log.next pool.state run)) := by
    rw [List.getElem?_set] at located
    split_ifs at located with same bound
    · cases located
      refine ⟨thread, same ▸ found, filings, fun ticket drawn => ?_⟩
      rw [past] at drawn
      exact (List.mem_append.mp drawn).imp id fun new => ⟨same.symm, List.mem_singleton.mp new⟩
    · exact ⟨peer, located, rfl, fun ticket drawn => .inl drawn⟩
  refine ⟨⟨by rw [rows]; exact ledger.sound.distinct, fun row stored => ?_⟩, fun other => ?_,
    fun other peer located ticket drawn => ?_,
    fun other last peer partner located there ticket drawn again => ?_,
    fun other peer located row stored drawn => ?_, fun other peer located filing filed => ?_⟩
  · rw [rows] at stored
    exact lt_of_lt_of_le (ledger.sound.below row stored) (moved _)
  · obtain ⟨count, next, drawn⟩ := ledger.drawn other
    have grown := flatMap_set_perm (f := fun thread => log.drawn other thread.past)
      (performed exec pool.state thread op rest) _ found (drawn_of_draw drawing other)
    by_cases same : run = other
    · subst same
      refine ⟨count + 1, by rw [log.next_draw op run drawing, next]; rfl, grown.trans ?_⟩
      rw [if_pos rfl, List.range'_concat, next, one_mul]
      exact drawn.append_right _
    · refine ⟨count, by rw [log.next_other op run drawing _ other (Ne.symm same), next], ?_⟩
      rw [if_neg same, List.append_nil] at grown
      exact grown.trans drawn
  · obtain ⟨before, there, -, tickets⟩ := old located
    rcases tickets ticket drawn with earlier | ⟨-, rfl⟩
    · obtain ⟨opened, below⟩ := ledger.opened other before there ticket earlier
      exact ⟨log.stays op pool.state ticket.1 opened, lt_of_lt_of_le below (moved _)⟩
    · refine ⟨log.opens op run drawing pool.state, ?_⟩
      dsimp only
      rw [log.next_draw op run drawing]
      omega
  · obtain ⟨before, there, -, tickets⟩ := old located
    obtain ⟨beside, here, -, others⟩ := old ‹_›
    rcases tickets ticket drawn with earlier | ⟨same, rfl⟩
    · rcases others ticket again with older | ⟨same, rfl⟩
      · exact ledger.single other last before beside there here ticket earlier older
      · exact absurd (ledger.opened other before there _ earlier).2 (lt_irrefl _)
    · rcases others _ again with older | ⟨alike, -⟩
      · exact absurd (ledger.opened last beside here _ older).2 (lt_irrefl _)
      · exact same.trans alike.symm
  · obtain ⟨before, there, same, tickets⟩ := old located
    rw [rows] at stored
    rw [same]
    rcases tickets _ drawn with earlier | ⟨-, taken⟩
    · exact ledger.filed other before there row stored earlier
    · have below := ledger.sound.below row stored
      obtain ⟨owner, position⟩ := Prod.mk.inj taken
      rw [owner, position] at below
      exact absurd below (lt_irrefl _)
  · obtain ⟨before, there, same, -⟩ := old located
    rw [same] at filed
    exact ledger.fresh other before there filing filed

theorem Ledger.file (ledger : log.Ledger start pool) (found : pool.threads[index]? = some thread)
    (quiet : log.draws op = none) (orderly : log.Orderly thread.past op) :
    log.Ledger start ⟨(exec op pool.state).2,
      pool.threads.set index (performed exec pool.state thread op rest)⟩ := by
  have next (other : Run) : log.next (exec op pool.state).2 other = log.next pool.state other :=
    log.next_kept op quiet pool.state (fun row filing =>
      (ledger.opened index thread found _ (orderly row filing).1).1) other
  have unstored {row : Row} (filing : log.files op = some row) :
      ∀ other ∈ log.rows pool.state, log.key other ≠ log.key row := by
    intro other stored same
    obtain ⟨drawn, once⟩ := orderly row filing
    obtain ⟨entry, filed, alike⟩ := ledger.filed index thread found other stored (same ▸ drawn)
    exact once entry filed (alike.trans same)
  have past : log.tickets (performed exec pool.state thread op rest).past =
      log.tickets thread.past := tickets_of_rest quiet
  have filings : log.filings (performed exec pool.state thread op rest).past =
      log.filings thread.past ++ ((log.files op).map (·, pool.state)).toList := filings_append
  have old {other : Nat} {peer : Thread Reply State Info ε α}
      (located : (pool.threads.set index (performed exec pool.state thread op rest))[other]? =
        some peer) :
      ∃ before, pool.threads[other]? = some before ∧
        log.tickets peer.past = log.tickets before.past ∧
        (∀ filing ∈ log.filings before.past, filing ∈ log.filings peer.past) ∧
        ∀ filing ∈ log.filings peer.past, filing ∈ log.filings before.past ∨
          (log.files op = some filing.1 ∧ filing.2 = pool.state) := by
    rw [List.getElem?_set] at located
    split_ifs at located with same bound
    · cases located
      refine ⟨thread, same ▸ found, past, fun filing filed => ?_, fun filing filed => ?_⟩
      · rw [filings]
        exact List.mem_append_left _ filed
      · rw [filings, List.mem_append, Option.mem_toList] at filed
        refine filed.imp id fun new => ?_
        obtain ⟨row, filing, rfl⟩ := Option.map_eq_some_iff.mp new
        exact ⟨filing, rfl⟩
    · exact ⟨peer, located, rfl, fun _ => id, fun filing filed => .inl filed⟩
  have stored_iff (row : Row) : row ∈ log.rows (exec op pool.state).2 →
      row ∈ log.rows pool.state ∨ log.files op = some row := by
    rcases log.rows_exec op pool.state with same | ⟨added, filing, appended⟩
    · rw [same]
      exact .inl
    · rw [appended, List.mem_append, List.mem_singleton]
      exact Or.imp id fun same => same ▸ filing
  refine ⟨⟨?_, fun row stored => ?_⟩, fun other => ?_,
    fun other peer located ticket drawn => ?_,
    fun other last peer partner located there ticket drawn again => ?_,
    fun other peer located row stored drawn => ?_, fun other peer located filing filed => ?_⟩
  · rcases log.rows_exec op pool.state with same | ⟨row, filing, appended⟩
    · rw [same]
      exact ledger.sound.distinct
    · rw [appended, List.map_append]
      refine ledger.sound.distinct.append (List.nodup_singleton _) fun key listed new => ?_
      obtain ⟨other, stored, rfl⟩ := List.mem_map.mp listed
      exact unstored filing other stored (List.mem_singleton.mp new)
  · rw [next]
    rcases stored_iff row stored with earlier | filing
    · exact ledger.sound.below row earlier
    · exact (ledger.opened index thread found _ (orderly row filing).1).2
  · obtain ⟨count, start_next, drawn⟩ := ledger.drawn other
    have grown := flatMap_set_perm (f := fun thread => log.drawn other thread.past)
      (performed exec pool.state thread op rest) [] found
        (by rw [List.append_nil]; exact drawn_of_rest quiet other)
    refine ⟨count, by rw [next, start_next], ?_⟩
    rw [List.append_nil] at grown
    exact grown.trans drawn
  · obtain ⟨before, there, same, -, -⟩ := old located
    rw [same] at drawn
    obtain ⟨opened, below⟩ := ledger.opened other before there ticket drawn
    exact ⟨log.stays op pool.state ticket.1 opened, by rw [next]; exact below⟩
  · obtain ⟨before, here, same, -, -⟩ := old located
    obtain ⟨beside, place, alike, -, -⟩ := old there
    exact ledger.single other last before beside here place ticket (same ▸ drawn) (alike ▸ again)
  · obtain ⟨before, there, same, more, -⟩ := old located
    rw [same] at drawn
    rcases stored_iff row stored with earlier | filing
    · obtain ⟨entry, filed, alike⟩ := ledger.filed other before there row earlier drawn
      exact ⟨entry, more entry filed, alike⟩
    · -- only the thread that drew the index files under it
      have own := ledger.single other index before thread there found _ drawn (orderly row filing).1
      subst own
      rw [List.getElem?_set_self (List.getElem?_eq_some_iff.mp found).1] at located
      cases located
      refine ⟨(row, pool.state), ?_, rfl⟩
      rw [filings, filing]
      exact List.mem_append_right _ (List.mem_singleton.mpr rfl)
  · obtain ⟨before, there, -, -, filings⟩ := old located
    rcases filings filing filed with earlier | ⟨filing, now⟩
    · exact ledger.fresh other before there _ earlier
    · rw [now]
      exact unstored filing

theorem Ledger.step (ledger : log.Ledger start pool) (index : Nat)
    (orderly : ∀ thread op, pool.threads[index]? = some thread → thread.nextOp = some op →
      log.Orderly thread.past op) : log.Ledger start (pool.step exec index) := by
  cases found : pool.threads[index]? with
  | none =>
      rw [Pool.step_of_none exec found]
      exact ledger
  | some thread =>
      have orderly (op : Op) := orderly thread op found
      rw [Pool.step_of_thread exec found]
      obtain ⟨info, past, program⟩ := thread
      cases program with
      | done outcome =>
          obtain ⟨bound, same⟩ := List.getElem?_eq_some_iff.mp found
          have unmoved : pool.threads.set index ⟨info, past, .done outcome⟩ = pool.threads := by
            rw [← same]
            exact List.set_getElem_self bound
          exact ledger.of_pasts rfl rfl rfl (congrArg (List.map Thread.past) unmoved)
      | call op rest =>
          cases drawing : log.draws op with
          | some run => exact ledger.draw found drawing
          | none => exact ledger.file found drawing (orderly op rfl)

end Step

end TicketLog

end SkillCentric
