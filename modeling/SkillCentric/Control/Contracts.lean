import SkillCentric.Control.System

/-!
# Contracts of the handlers

Rules for the handlers as threads: a statement either goes through, and is written down in the
journal, or throws and leaves the world as it was.  `Serves` is the triple of a handler run by a
numbered thread; the footprint rules let whole stretches of a handler pass at once when each of its
statements keeps an assertion.
-/

namespace SkillCentric.Control

open SkillCentric Program

variable {α β : Type}

variable {plane after : ControlPlane} {op : Op} {index : Nat} {thread : Serving} {system : System}
  {contract : Nat × Request → Contract (Nat × Op) World} {careful : System → Event → Prop}

theorem attemptOn_error {outcome : Except Text Database} {error : Text}
    (failed : plane.attemptOn outcome = (.error error, after)) : after = plane := by
  unfold ControlPlane.attemptOn at failed
  split at failed <;> cases failed
  rfl

theorem attemptOn_ok {outcome : Except Text Database}
    (went : plane.attemptOn outcome = (.ok (), after)) :
    ∃ database, outcome = .ok database ∧ after = { plane with database } := by
  unfold ControlPlane.attemptOn at went
  split at went
  · cases went
    exact ⟨_, rfl, rfl⟩
  · cases went

theorem exec_error {error : Text}
    (failed : exec op plane = (.error error, after)) : after = plane := by
  unfold exec at failed
  split at failed
  · cases failed
    rfl
  · cases op <;> simp only [execute] at failed <;>
      first
      | exact attemptOn_error failed
      | cases failed

theorem exec_ok {answer : op.Answer} (went : exec op plane = (.ok answer, after)) :
    plane.fault = none ∧ execute op plane = (.ok answer, after) := by
  unfold exec at went
  split at went
  · cases went
  · exact ⟨‹_›, went⟩

theorem execTagged_cases (op : Nat × Op) (now : World) :
    (∃ error, execTagged op now = (.error error, now)) ∨
      ∃ answer after, exec op.2 now.state = (.ok answer, after) ∧
        execTagged op now = (.ok answer, ⟨after, now.journal ++ [op]⟩) := by
  cases result : exec op.2 now.state with
  | mk reply after =>
      cases reply with
      | error error =>
          refine .inl ⟨error, ?_⟩
          simp [execTagged, journaled, result, Except.isOk, Except.toBool, exec_error result]
      | ok answer =>
          exact .inr ⟨answer, after, rfl,
            by simp [execTagged, journaled, result, Except.isOk, Except.toBool]⟩

section Serves

variable (contract : Contract (Nat × Op) World) (index : Nat)

/-- The triple of a handler that runs as the thread with the given number. -/
def Serves (pre : World → Prop) (program : Worker α) (returned : α → World → Prop)
    (raised : Text → World → Prop) : Prop :=
  contract.Triple execTagged pre (program.tag index) returned raised

variable {contract index} {pre : World → Prop} {returned : α → World → Prop}
  {raised : Text → World → Prop}

theorem serves_pure {value : α} (post : ∀ world, pre world → returned value world) :
    Serves contract index pre (pure value) returned raised :=
  Contract.triple_pure post

theorem serves_throw {error : Text} (post : ∀ world, pre world → raised error world) :
    Serves contract index pre (throw error : Worker α) returned raised :=
  Contract.triple_throw post

variable {program : Worker α}

theorem serves_bind {next : α → Worker β} {middle : α → World → Prop}
    {returned : β → World → Prop} (first : Serves contract index pre program middle raised)
    (second : ∀ value, Serves contract index (middle value) (next value) returned raised) :
    Serves contract index pre (program >>= next) returned raised := by
  rw [Serves, tag_bind]
  exact Contract.triple_bind first second

theorem serves_attempt {middle : Text → World → Prop}
    (body : Serves contract index pre program returned middle) :
    Serves contract index pre program.attempt
      (fun outcome world =>
        match outcome with
        | .ok value => returned value world
        | .error error => middle error world) raised := by
  rw [Serves, tag_attempt]
  refine Contract.Triple.conseq (Contract.triple_attempt body) (fun _ holds => holds) ?_
    fun _ _ post => post
  intro outcome world post
  cases outcome <;> exact post

theorem Serves.conseq {pre' : World → Prop} {returned' : α → World → Prop}
    {raised' : Text → World → Prop} (serves : Serves contract index pre program returned raised)
    (strengthen : ∀ world, pre' world → pre world)
    (weaken : ∀ value world, returned value world → returned' value world)
    (weaken_raised : ∀ error world, raised error world → raised' error world) :
    Serves contract index pre' program returned' raised' :=
  Contract.Triple.conseq serves strengthen weaken weaken_raised

theorem serves_perform {returned : op.Answer → World → Prop} (stable : contract.Stable pre)
    (owed : ∀ past now, pre now → contract.allowed past (index, op) now →
      contract.guar (index, op) now)
    (went : ∀ past now answer after, pre now → contract.allowed past (index, op) now →
      exec op now.state = (.ok answer, after) →
      returned answer ⟨after, now.journal ++ [(index, op)]⟩)
    (failed : ∀ error now, pre now → raised error now) :
    Serves contract index pre (perform op) returned raised := by
  have body : contract.Triple execTagged pre ((Program.op op : Worker op.Reply).tag index)
      (fun reply world =>
        Except.casesOn reply (fun error => raised error world) fun answer => returned answer world)
      raised := by
    refine Contract.triple_op stable fun past now holds permitted =>
      ⟨owed past now holds permitted, ?_⟩
    rcases execTagged_cases (index, op) now with ⟨error, result⟩ | ⟨answer, after, ran, result⟩
    · rw [result]
      exact failed error now holds
    · rw [result]
      exact went past now answer after holds permitted ran
  refine serves_bind body fun reply => ?_
  cases reply with
  | ok answer => exact serves_pure fun _ post => post
  | error error => exact serves_throw fun _ post => post

theorem yields_tag {p : Op → Prop} {returned : α → Prop} (yields : program.Yields exec p returned) :
    (program.tag index).Yields execTagged (fun op => op.1 = index ∧ p op.2) returned := by
  induction program with
  | done outcome => cases outcome <;> exact yields
  | call op next ih =>
      exact ⟨⟨rfl, yields.1⟩, fun now => ih _ (yields.2 now.state)⟩

theorem serves_of_yields {p : Op → Prop} {value : α → Prop}
    (yields : program.Yields exec p value) (stable : contract.Stable pre)
    (step : ∀ op past now, p op → pre now → contract.allowed past (index, op) now →
      contract.guar (index, op) now ∧
        (∀ answer after, exec op now.state = (.ok answer, after) →
          pre ⟨after, now.journal ++ [(index, op)]⟩)) :
    Serves contract index pre program (fun result world => value result ∧ pre world)
      (fun _ => pre) := by
  refine Contract.triple_of_yields (yields_tag yields) stable ?_
  rintro ⟨number, op⟩ past now ⟨rfl, holds⟩ assertion permitted
  obtain ⟨owed, kept⟩ := step op past now holds assertion permitted
  refine ⟨owed, ?_⟩
  rcases execTagged_cases (number, op) now with ⟨error, result⟩ | ⟨answer, after, ran, result⟩
  · rw [result]
    exact assertion
  · rw [result]
    exact kept answer after ran

end Serves

section Footprint

variable {p : Op → Prop}

theorem yields_perform (holds : p op) :
    (perform op).Yields exec p fun _ => True := by
  refine yields_seq (yields_op holds fun _ => trivial) fun reply => ?_
  cases reply with
  | ok answer => exact yields_pure trivial
  | error error => exact yields_throw

theorem yields_nowIso (holds : p .now) : nowIso.Yields exec p fun _ => True :=
  yields_seq (yields_perform holds) fun _ => yields_pure trivial

/-- A text that `nowIso` can answer. -/
def Stamp (timestamp : Text) : Prop := ∃ time, timestamp = toISOString time

theorem yields_nowIso_stamp (holds : p .now) : nowIso.Yields exec p Stamp :=
  yields_seq (yields_perform holds) fun time => yields_pure ⟨time, rfl⟩

theorem yields_archiveAfter (holds : p .now) : archiveAfter.Yields exec p fun _ => True :=
  yields_seq (yields_perform holds) fun _ => yields_pure trivial

theorem yields_writeAuditEvent (env : Env) (eventType targetKind targetId timestamp : Text)
    (reads : p .now)
    (holds : ∀ archiveAfter,
      p (.replaceAuditEvent (auditRow env eventType targetKind targetId timestamp archiveAfter))) :
    (writeAuditEvent env eventType targetKind targetId timestamp).Yields exec p fun _ => True :=
  yields_seq (yields_archiveAfter reads) fun archiveAfter => yields_perform (holds archiveAfter)

theorem yields_forEach {items : List α} {body : α → Worker Unit}
    (holds : ∀ item ∈ items, (body item).Yields exec p fun _ => True) :
    (forEach items body).Yields exec p fun _ => True := by
  induction items with
  | nil => exact yields_pure trivial
  | cons item rest ih =>
      exact yields_seq (holds item (by simp)) fun _ =>
        ih fun other member => holds other (by simp [member])

end Footprint

/-- The operations a thread has carried out. -/
def own (index : Nat) (world : World) : List (Nat × Op) :=
  world.journal.filter fun entry => entry.1 = index

theorem mem_own {world : World} :
    (index, op) ∈ own index world ↔ (index, op) ∈ world.journal := by
  simp [own]

/-- Every thread knows its number and tags its operations with it, and the journal names threads
only. -/
structure Numbered (system : System) : Prop where
  threads : ∀ (index : Nat) (thread : Serving), system.threads[index]? = some thread →
    thread.info.1 = index ∧
      thread.program.Yields execTagged (fun op => op.1 = index) fun _ => True
  journal : ∀ entry ∈ system.journal, entry.1 < system.threads.length

theorem nextOp_of_yields {p : Nat × Op → Prop} {returned : Outcome → Prop}
    (yields : thread.program.Yields execTagged p returned) {op : Nat × Op}
    (next : thread.nextOp = some op) : p op := by
  unfold Thread.nextOp at next
  split at next
  · cases next
  · rename_i head rest program_eq
    cases next
    rw [program_eq] at yields
    exact yields.1

theorem yields_advance {p : Nat × Op → Prop} {returned : Outcome → Prop}
    (yields : thread.program.Yields execTagged p returned) (world : World) :
    (thread.advance execTagged world).program.Yields execTagged p returned := by
  unfold Thread.advance
  split
  · exact yields
  · rename_i head rest program_eq
    rw [program_eq] at yields
    exact yields.2 world

theorem Numbered.world_step (numbered : Numbered system) (index : Nat) :
    (Pool.step execTagged system index).state = system.state ∨
      ∃ thread op answer after, system.threads[index]? = some thread ∧
        thread.nextOp = some (index, op) ∧ exec op system.plane = (.ok answer, after) ∧
        thread.effect execTagged system.state = ⟨after, system.journal ++ [(index, op)]⟩ ∧
        (Pool.step execTagged system index).state = ⟨after, system.journal ++ [(index, op)]⟩ := by
  cases found : system.threads[index]? with
  | none => exact .inl (by rw [Pool.step_of_none execTagged found])
  | some thread =>
      rw [Pool.step_of_thread execTagged found]
      cases next : thread.nextOp with
      | none => exact .inl (thread.effect_of_done execTagged next)
      | some op =>
          obtain ⟨number, op⟩ := op
          obtain rfl : number = index :=
            nextOp_of_yields (numbered.threads index thread found).2 next
          have effect : thread.effect execTagged system.state =
              (execTagged (number, op) system.state).2 := thread.effect_of_nextOp execTagged next
          rcases execTagged_cases (number, op) system.state with
            ⟨error, result⟩ | ⟨answer, after, ran, result⟩
          · refine .inl ?_
            rw [effect, result]
          · refine .inr ⟨thread, op, answer, after, rfl, next, ran, ?_⟩
            simp only [effect, result, and_self]

theorem numbered_initial (plane : ControlPlane) : Numbered (System.initial plane) where
  threads := by simp [System.initial]
  journal := by simp [System.initial, System.journal]

theorem Numbered.receive (numbered : Numbered system) (env : Env)
    (request : Request) : Numbered (system.receive env request) where
  threads := by
    intro index thread found
    rcases Pool.getElem?_spawn found with old | ⟨rfl, rfl⟩
    · exact numbered.threads index thread old
    · exact ⟨rfl, (yields_tag (yields_trivial (request.program env))).mono
        (fun op holds => holds.1) fun _ _ => trivial⟩
  journal := by
    intro entry member
    have bound := numbered.journal entry member
    simp only [System.receive, Pool.spawn, List.length_append]
    omega

theorem Numbered.poolStep (numbered : Numbered system) (index : Nat) :
    Numbered (Pool.step execTagged system index) where
  threads := by
    intro other thread found
    obtain ⟨old, located, info_eq, kept, advanced⟩ := Pool.getElem?_step execTagged found
    obtain ⟨number, yields⟩ := numbered.threads other old located
    refine ⟨info_eq ▸ number, ?_⟩
    by_cases same : other = index
    · rw [advanced same]
      exact yields_advance yields _
    · rw [kept same]
      exact yields
  journal := by
    intro entry member
    have length_eq :
        (Pool.step execTagged system index).threads.length = system.threads.length := by
      unfold Pool.step
      split <;> simp
    rw [length_eq]
    rcases numbered.world_step index with same | ⟨thread, op, answer, after, found, -, -, -, result⟩
    · rw [System.journal, same] at member
      exact numbered.journal entry member
    · rw [System.journal, result] at member
      rcases List.mem_append.mp member with old | new
      · exact numbered.journal entry old
      · rw [List.mem_singleton.mp new]
        exact (List.getElem?_eq_some_iff.mp found).1

theorem Numbered.crash (numbered : Numbered system) (index : Nat)
    (error : Text) : Numbered (Pool.crash system index (.error error)) where
  threads := by
    intro other thread found
    obtain ⟨old, located, info_eq, kept | dropped⟩ := Pool.getElem?_crash found
    · exact kept ▸ numbered.threads other old located
    · rw [dropped]
      exact ⟨info_eq ▸ (numbered.threads other old located).1, trivial⟩
  journal := by
    intro entry member
    have bound := numbered.journal entry member
    simpa [Pool.crash] using bound

theorem Numbered.step (numbered : Numbered system) (env : Env) (event : Event) :
    Numbered (system.step env event) := by
  cases event with
  | receive request =>
      simp only [System.step]
      split
      · exact numbered.receive env request
      · exact numbered
  | deliver number =>
      simp only [System.step]
      split
      · exact numbered.receive env _
      · exact numbered
  | step index => exact numbered.poolStep index
  | crash index => exact numbered.crash index _
  | surroundings clock fault => exact ⟨numbered.threads, numbered.journal⟩

theorem Numbered.own_new (numbered : Numbered system) :
    own system.threads.length system.state = [] := by
  rw [own, List.filter_eq_nil_iff]
  intro entry member same
  have bound := numbered.journal entry member
  simp only [decide_eq_true_eq] at same
  omega

theorem requestOf_eq {request : Request} :
    system.requestOf index = some request ↔
      ∃ thread, system.threads[index]? = some thread ∧ thread.info.2 = request := by
  simp [System.requestOf]

theorem requestOf_step (env : Env) (event : Event) {request : Request}
    (known : system.requestOf index = some request) :
    (system.step env event).requestOf index = some request := by
  obtain ⟨thread, found, rfl⟩ := requestOf_eq.mp known
  have spawned (info : Nat × Request) (program : Program (TaggedReply Op.Reply) Text Outcome) :
      (Pool.spawn system info program).threads[index]? = some thread := by
    have bound := (List.getElem?_eq_some_iff.mp found).1
    rw [Pool.spawn, List.getElem?_append_left bound, found]
  rw [requestOf_eq]
  cases event with
  | receive arriving =>
      simp only [System.step]
      split
      · exact ⟨thread, spawned _ _, rfl⟩
      · exact ⟨thread, found, rfl⟩
  | deliver number =>
      simp only [System.step]
      split
      · exact ⟨thread, spawned _ _, rfl⟩
      · exact ⟨thread, found, rfl⟩
  | step other =>
      obtain ⟨next, located, info_eq⟩ := Pool.getElem?_step_of execTagged other found
      exact ⟨next, located, by rw [info_eq]⟩
  | crash other =>
      obtain ⟨next, located, info_eq⟩ :=
        Pool.getElem?_crash_of other (.error "crashed".toList) found
      exact ⟨next, located, by rw [info_eq]⟩
  | surroundings clock fault => exact ⟨thread, found, rfl⟩

theorem world_of_other (env : Env) (system : System) {event : Event}
    (other : ∀ index, event ≠ .step index) :
    (system.step env event).journal = system.journal ∧
      ∃ clock fault, (system.step env event).plane = { system.plane with clock, fault } := by
  cases event with
  | receive request =>
      simp only [System.step]
      split <;> exact ⟨rfl, _, _, rfl⟩
  | deliver number =>
      simp only [System.step]
      split <;> exact ⟨rfl, _, _, rfl⟩
  | step index => exact (other index rfl).elim
  | crash index => exact ⟨rfl, _, _, rfl⟩
  | surroundings clock fault => exact ⟨rfl, _, _, rfl⟩

/-- What keeps the threads of a system within their contracts: new threads meet theirs, the
surroundings disturb nobody, and a statement that is carried out is one the other live threads rely
on. -/
structure Disciplined (env : Env) (contract : Nat × Request → Contract (Nat × Op) World)
    (careful : System → Event → Prop) : Prop where
  serves : ∀ index request world, own index world = [] →
    (contract (index, request)).Meets execTagged [] ((request.program env).tag index)
      (fun _ _ _ => True) world
  surroundings : ∀ info (world : World) clock fault,
    (contract info).rely world { world with state := { world.state with clock, fault } }
  allowed : ∀ info past op world, (contract info).allowed past op world
  interference : ∀ (system : System) (index other : Nat) (thread peer : Serving) (op : Op)
    (answer : op.Answer) (after : ControlPlane), Numbered system → careful system (.step index) →
    system.threads[index]? = some thread → thread.nextOp = some (index, op) →
    (contract thread.info).guar (index, op) system.state →
    exec op system.plane = (.ok answer, after) →
    other ≠ index → system.threads[other]? = some peer → peer.Live →
    (contract peer.info).rely system.state ⟨after, system.journal ++ [(index, op)]⟩

/-- A system whose threads are numbered and within their contracts. -/
structure Guarded (contract : Nat × Request → Contract (Nat × Op) World) (system : System) :
    Prop where
  numbered : Numbered system
  sound : Pool.Sound execTagged contract system

theorem guarded_initial (contract : Nat × Request → Contract (Nat × Op) World)
    (plane : ControlPlane) : Guarded contract (System.initial plane) where
  numbered := numbered_initial plane
  sound := by
    intro index thread found
    simp [System.initial] at found

theorem Guarded.receive {env : Env} (disciplined : Disciplined env contract careful)
    (guarded : Guarded contract system) (request : Request) :
    Guarded contract (system.receive env request) where
  numbered := guarded.numbered.receive env request
  sound := guarded.sound.spawn (disciplined.serves _ _ _ guarded.numbered.own_new)

theorem Guarded.step {env : Env} (disciplined : Disciplined env contract careful)
    (guarded : Guarded contract system) {event : Event}
    (care : careful system event) : Guarded contract (system.step env event) := by
  refine ⟨guarded.numbered.step env event, ?_⟩
  cases event with
  | receive request =>
      simp only [System.step]
      split
      · exact (guarded.receive disciplined request).sound
      · exact guarded.sound
  | deliver number =>
      simp only [System.step]
      split
      · exact (guarded.receive disciplined _).sound
      · exact guarded.sound
  | step index =>
      simp only [System.step]
      cases found : system.threads[index]? with
      | none =>
          rw [Pool.step_of_none execTagged found]
          exact guarded.sound
      | some thread =>
          refine guarded.sound.step found (fun op _ => disciplined.allowed _ _ _ _) ?_
          intro other peer differ located live
          rcases guarded.numbered.world_step index with
            same | ⟨runner, op, answer, after, at_index, next, ran, effect, -⟩
          · rw [Pool.step_of_thread execTagged found] at same
            rw [show thread.effect execTagged system.state = system.state from same]
            exact (contract peer.info).rely_refl _
          · rw [found] at at_index
            cases at_index
            rw [effect]
            exact disciplined.interference system index other thread peer op answer after
              guarded.numbered care found next
              (guarded.sound.guar found next (disciplined.allowed _ _ _ _)) ran differ located live
  | crash index => exact guarded.sound.crash
  | surroundings clock fault =>
      exact guarded.sound.of_rely fun _ thread _ _ => disciplined.surroundings thread.info _ _ _

theorem Guarded.guar {env : Env} (disciplined : Disciplined env contract careful)
    (guarded : Guarded contract system)
    (found : system.threads[index]? = some thread) (next : thread.nextOp = some (index, op)) :
    (contract thread.info).guar (index, op) system.state :=
  guarded.sound.guar found next (disciplined.allowed _ _ _ _)

end SkillCentric.Control
