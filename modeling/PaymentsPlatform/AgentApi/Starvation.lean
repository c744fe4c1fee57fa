import PaymentsPlatform.AgentApi.ToolPool

/-!
# When the pool starves

A worker that waits for a nested call keeps its place in the pool.  As long as no worker takes up
a nested call while seven others are about to wait or wait already, some worker is always left to
run the calls that are waited for (`pool_never_starves`).
-/

namespace PaymentsPlatform.AgentApi.ToolPool

namespace Pool

/-- The worker waits for a call that is still in the queue. -/
def waitsForQueued (pool : Pool) (worker : Worker) : Bool :=
  match worker.phase with
  | .waiting ticket _ _ _ => pool.queue.any (·.ticket = ticket)
  | _ => false

/-- Every worker waits for a call that is still in the queue. -/
structure Starved (pool : Pool) : Prop where
  full : maxWorkers ≤ pool.workers.length
  waiting : ∀ worker ∈ pool.workers, pool.waitsForQueued worker = true

/-- The pool does not starve, and no deadline has passed. -/
structure Safe (pool : Pool) : Prop where
  fed : ¬ pool.Starved
  punctual : pool.timeouts = []

variable (settings : ToolSettings)

/-- The worker is about to make a nested call, or waits for one that is still in the queue. -/
def commits (pool : Pool) (worker : Worker) : Bool :=
  match worker.phase with
  | .running (.call _ _) => pool.calls worker.request < settings.maxToolCalls
  | _ => pool.waitsForQueued worker

def committed (pool : Pool) : Nat := pool.workers.countP (pool.commits settings)

/-- A worker takes up a call that makes a nested call, or goes on from one nested call to another
or to a retry. -/
def takesUp (pool : Pool) : Action → Bool
  | .start =>
      match pool.queue with
      | [] => false
      | first :: _ => pool.workers.length < maxWorkers && pool.commits settings first.taken
  | .advance position _ =>
      match pool.workers[position]? with
      | some ⟨ticket, request, .waiting awaited _ attempts next⟩ =>
          match pool.outcomes awaited with
          | some answer => retries settings answer attempts ||
              pool.commits settings ⟨ticket, request, .running (next answer)⟩
          | none => false
      | _ => false
  | _ => false

/-- Nested calls are taken up only while one worker is left besides. -/
def Permitted (pool : Pool) (action : Action) : Prop :=
  pool.takesUp settings action = true → pool.committed settings + 1 < maxWorkers

instance (pool : Pool) (action : Action) : Decidable (Permitted settings pool action) :=
  inferInstanceAs (Decidable (_ → _))

/-! ## Futures -/

/-- A future has ended, or its task is in the queue or with a worker. -/
def Located (tasks : Task → Prop) (phases : Phase → Prop) (pool : Pool) (ticket : Nat) : Prop :=
  pool.outcomes ticket ≠ none ∨
    (∃ queued ∈ pool.queue, queued.ticket = ticket ∧ tasks queued.task) ∨
    ∃ worker ∈ pool.workers, worker.ticket = ticket ∧ phases worker.phase

section Located

variable {tasks : Task → Prop} {phases : Phase → Prop} {pool : Pool} {ticket : Nat}

theorem located_enqueue (request : Nat) (task : Task) (located : Located tasks phases pool ticket) :
    Located tasks phases (pool.enqueue request task) ticket := by
  rcases located with
    ended | ⟨queued, listed, same⟩ | withWorker
  · exact Or.inl ended
  · exact Or.inr (Or.inl ⟨queued, List.mem_append_left _ listed, same⟩)
  · exact Or.inr (Or.inr withWorker)

theorem located_enqueued (pool : Pool) (request : Nat) {task : Task} (isTask : tasks task) :
    Located tasks phases (pool.enqueue request task) pool.tickets :=
  Or.inr (Or.inl ⟨_, List.mem_append_right _ (List.mem_singleton.mpr rfl), rfl, isTask⟩)

theorem located_start (taken : ∀ task, tasks task → phases (Phase.ofTask task))
    (located : Located tasks phases pool ticket) : Located tasks phases pool.start ticket := by
  unfold start
  split
  next => exact located
  next first rest queue =>
    split
    next => exact located
    next =>
      rcases located with
        ended | ⟨queued, listed, same, isTask⟩ | ⟨worker, listed, same⟩
      · exact Or.inl ended
      · rw [queue] at listed
        rcases List.mem_cons.mp listed with
          rfl | later
        · exact Or.inr (Or.inr ⟨queued.taken, List.mem_append_right _ (List.mem_singleton.mpr rfl),
            same, taken _ isTask⟩)
        · exact Or.inr (Or.inl ⟨queued, later, same, isTask⟩)
      · exact Or.inr (Or.inr ⟨worker, List.mem_append_left _ listed, same⟩)

theorem located_finish {position : Nat} {worker : Worker} {outcome : Outcome}
    (isWorker : pool.workers[position]? = some worker)
    (located : Located tasks phases pool ticket) :
    Located tasks phases (pool.finish position worker outcome) ticket := by
  have ends : worker.ticket = ticket → Located tasks phases (pool.finish position worker outcome)
      ticket := by
    rintro rfl
    exact Or.inl (by simp [finish])
  rcases located with
    ended | inQueue | ⟨other, listed, same, isPhase⟩
  · by_cases isTicket : worker.ticket = ticket
    · exact ends isTicket
    · refine Or.inl ?_
      simpa [finish, Function.update_of_ne (Ne.symm isTicket)] using ended
  · exact Or.inr (Or.inl inQueue)
  · obtain ⟨index, isOther⟩ := List.mem_iff_getElem?.mp listed
    by_cases sameIndex : index = position
    · subst sameIndex
      rw [isWorker] at isOther
      cases isOther
      exact ends same
    · exact Or.inr (Or.inr ⟨other, List.mem_eraseIdx_iff_getElem?.mpr ⟨index, sameIndex, isOther⟩,
        same, isPhase⟩)

theorem located_setPhase {position : Nat} {worker : Worker} {phase : Phase}
    (isWorker : pool.workers[position]? = some worker)
    (keeps : phases worker.phase → phases phase)
    (located : Located tasks phases pool ticket) :
    Located tasks phases (pool.setPhase position worker phase) ticket := by
  rcases located with
    ended | inQueue | ⟨other, listed, same, isPhase⟩
  · exact Or.inl ended
  · exact Or.inr (Or.inl inQueue)
  · obtain ⟨index, isOther⟩ := List.mem_iff_getElem?.mp listed
    refine Or.inr (Or.inr ?_)
    by_cases sameIndex : index = position
    · subst sameIndex
      rw [isWorker] at isOther
      cases isOther
      obtain ⟨inside, -⟩ := List.getElem?_eq_some_iff.mp isWorker
      exact ⟨_, List.mem_set inside _, same, keeps isPhase⟩
    · refine ⟨other, List.mem_iff_getElem?.mpr ⟨index, ?_⟩, same, isPhase⟩
      rw [setPhase, List.getElem?_set_ne (Ne.symm sameIndex)]
      exact isOther

end Located

/-! ## Workers that wait -/

section Counting

variable {α : Type} {before after : α → Bool} {list : List α} {position : Nat} {old new : α}

theorem countP_set_le (found : list[position]? = some old)
    (others : ∀ entry ∈ list, after entry = true → before entry = true) :
    (list.set position new).countP after + (before old).toNat ≤
      list.countP before + (after new).toNat := by
  obtain ⟨inside, isOld⟩ := List.getElem?_eq_some_iff.mp found
  have front : (list.take position).countP after ≤ (list.take position).countP before :=
    List.countP_mono_left fun entry listed => others entry (List.mem_of_mem_take listed)
  have back : (list.drop (position + 1)).countP after ≤ (list.drop (position + 1)).countP before :=
    List.countP_mono_left fun entry listed => others entry (List.mem_of_mem_drop listed)
  have whole : list.countP before = (list.take position).countP before +
      ((list.drop (position + 1)).countP before + (before old).toNat) := by
    conv_lhs => rw [← List.take_append_drop position list, List.drop_eq_getElem_cons inside]
    rw [List.countP_append, List.countP_cons, isOld]
    cases before old <;> rfl
  rw [List.set_eq_take_append_cons_drop, if_pos inside, List.countP_append, List.countP_cons, whole]
  have single : (if after new = true then 1 else 0) = (after new).toNat := by
    cases after new <;> rfl
  omega

end Counting

/-- No worker has come to wait for a future that is in the queue already, and no limit has
widened. -/
structure Later (before after : Pool) : Prop where
  queue : ∀ queued ∈ after.queue, queued ∈ before.queue ∨ before.tickets ≤ queued.ticket
  calls : ∀ request, before.calls request ≤ after.calls request

/-- The worker waits for a future that has been handed out. -/
def Knows (pool : Pool) (worker : Worker) : Prop :=
  ∀ ticket tool attempts next, worker.phase = .waiting ticket tool attempts next →
    ticket < pool.tickets

theorem commits_of_later {before after : Pool} (later : Later before after) {worker : Worker}
    (knows : Knows before worker) (commitsAfter : after.commits settings worker = true) :
    before.commits settings worker = true := by
  unfold commits at commitsAfter ⊢
  split
  next tool next phase =>
    rw [phase] at commitsAfter
    simp only [decide_eq_true_eq] at commitsAfter ⊢
    exact Nat.lt_of_le_of_lt (later.calls worker.request) commitsAfter
  next notCalling =>
    unfold waitsForQueued at commitsAfter ⊢
    cases phase : worker.phase with
    | leaf tool => simp [phase] at commitsAfter
    | running work =>
        cases work with
        | finish outcome => simp [phase] at commitsAfter
        | call tool next => exact absurd phase (notCalling tool next)
    | waiting ticket tool attempts next =>
        simp only [phase, List.any_eq_true, decide_eq_true_eq] at commitsAfter ⊢
        obtain ⟨queued, listed, same⟩ := commitsAfter
        rcases later.queue queued listed with
          earlier | fresh
        · exact ⟨queued, earlier, same⟩
        · have known := knows ticket tool attempts next phase
          omega

/-! ## The invariant -/

/-- A call of a worker is one of a tool that calls no other. -/
abbrev LocatedLeaf : Pool → Nat → Prop :=
  Located (fun task => ∃ tool, task = .leaf tool) fun phase => ∃ tool, phase = .leaf tool

abbrev LocatedTask : Pool → Nat → Prop := Located (fun _ => True) fun _ => True

/-- Every future that is waited for will be heard of. -/
structure Tracked (pool : Pool) : Prop where
  workers : ∀ worker ∈ pool.workers, ∀ ticket tool attempts next,
    worker.phase = .waiting ticket tool attempts next →
      ticket < pool.tickets ∧ LocatedLeaf pool ticket
  clients : ∀ client ∈ pool.clients, client.settled = none → LocatedTask pool client.ticket

structure Sound (pool : Pool) : Prop where
  few : pool.committed settings < maxWorkers
  tracked : Tracked pool
  punctual : pool.timeouts = []

variable {settings}

theorem Sound.fed {pool : Pool} (sound : Sound settings pool) : ¬ pool.Starved := by
  intro starved
  have all : pool.committed settings = pool.workers.length := by
    apply List.countP_eq_length.mpr
    intro worker listed
    have waits := starved.waiting worker listed
    unfold commits
    split
    next tool next phase => simp [waitsForQueued, phase] at waits
    next => exact waits
  have few := sound.few
  have full := starved.full
  omega

/-- Time passes only where no call is left. -/
theorem Sound.idle {pool : Pool} (sound : Sound settings pool) (quiescent : pool.isQuiescent = true) :
    pool.workers = [] ∧ ∀ client ∈ pool.clients, client.settled.isSome := by
  unfold isQuiescent at quiescent
  simp only [Bool.and_eq_true, Bool.or_eq_true, List.all_eq_true, List.isEmpty_iff,
    decide_eq_true_eq] at quiescent
  obtain ⟨⟨filled, blocked⟩, clients⟩ := quiescent
  have waits : ∀ worker ∈ pool.workers, ∃ ticket tool attempts next,
      worker.phase = .waiting ticket tool attempts next ∧ pool.outcomes ticket = none := by
    intro worker listed
    have isBlocked := blocked worker listed
    unfold Pool.isBlocked at isBlocked
    split at isBlocked
    next ticket tool attempts next phase =>
      exact ⟨ticket, tool, attempts, next, phase, Option.isNone_iff_eq_none.mp isBlocked⟩
    next => cases isBlocked
  have queued : ∀ worker ∈ pool.workers, pool.waitsForQueued worker = true := by
    intro worker listed
    obtain ⟨ticket, tool, attempts, next, phase, open_⟩ := waits worker listed
    rcases (sound.tracked.workers worker listed ticket tool attempts next phase).2 with
      ended | ⟨queued, inQueue, same, -⟩ | ⟨other, isWorker, -, leaf, isLeaf⟩
    · exact absurd open_ ended
    · unfold waitsForQueued
      rw [phase]
      simp only [List.any_eq_true, decide_eq_true_eq]
      exact ⟨queued, inQueue, same⟩
    · obtain ⟨_, _, _, _, otherPhase, -⟩ := waits other isWorker
      rw [isLeaf] at otherPhase
      cases otherPhase
  have emptyQueue : pool.queue = [] := by
    rcases filled with
      empty | full
    · exact empty
    · exact absurd ⟨full, queued⟩ sound.fed
  have noWorker : pool.workers = [] := by
    apply List.eq_nil_iff_forall_not_mem.mpr
    intro worker listed
    have isQueued := queued worker listed
    unfold waitsForQueued at isQueued
    rw [emptyQueue] at isQueued
    split at isQueued <;> simp at isQueued
  refine ⟨noWorker, ?_⟩
  intro client listed
  rcases clients client listed with
    settled | unanswered
  · exact settled
  · by_contra unsettled
    rcases sound.tracked.clients client listed (by simpa using unsettled) with
      ended | ⟨queued, inQueue, -⟩ | ⟨worker, isWorker, -⟩
    · exact ended (Option.isNone_iff_eq_none.mp unanswered)
    · rw [emptyQueue] at inQueue
      cases inQueue
    · rw [noWorker] at isWorker
      cases isWorker

theorem Sound.expire_eq {pool : Pool} (sound : Sound settings pool) (waiter : Waiter) :
    pool.expire settings waiter = pool := by
  unfold expire
  split
  next quiescent =>
    obtain ⟨noWorker, settled⟩ := sound.idle quiescent
    cases waiter with
    | worker position => simp [noWorker]
    | client position =>
        cases isClient : pool.clients[position]? with
        | none => simp [isClient]
        | some client =>
            have isSettled := settled client (List.mem_of_getElem? isClient)
            simp only [isClient]
            exact if_pos isSettled
  next => rfl

/-! ## Steps -/

section Steps

variable {pool after : Pool} {position : Nat} {worker : Worker}

theorem Tracked.knows (tracked : Tracked pool) (listed : worker ∈ pool.workers) :
    Knows pool worker := fun ticket tool attempts next phase =>
  (tracked.workers worker listed ticket tool attempts next phase).1

theorem Tracked.enqueue (tracked : Tracked pool) (request : Nat) (task : Task) :
    Tracked (pool.enqueue request task) where
  workers := by
    intro worker listed ticket tool attempts next phase
    obtain ⟨known, located⟩ := tracked.workers worker listed ticket tool attempts next phase
    exact ⟨Nat.lt_succ_of_lt known, located_enqueue request task located⟩
  clients := by
    intro client listed unsettled
    exact located_enqueue request task (tracked.clients client listed unsettled)

theorem Tracked.start (tracked : Tracked pool) : Tracked pool.start where
  workers := by
    intro worker listed ticket tool attempts next phase
    have before : worker ∈ pool.workers := by
      unfold Pool.start at listed
      split at listed
      next => exact listed
      next first rest queue =>
        split at listed
        next => exact listed
        next =>
          rcases List.mem_append.mp listed with
            before | isTaken
          · exact before
          · rw [List.mem_singleton] at isTaken
            subst isTaken
            unfold Queued.taken at phase
            cases task : first.task <;> simp [Phase.ofTask, task] at phase
    obtain ⟨known, located⟩ := tracked.workers worker before ticket tool attempts next phase
    refine ⟨?_, located_start (fun task ⟨tool, isLeaf⟩ => ⟨tool, by rw [isLeaf]; rfl⟩) located⟩
    unfold Pool.start
    split
    next => exact known
    next => split <;> exact known
  clients := by
    intro client listed unsettled
    have before : client ∈ pool.clients := by
      unfold Pool.start at listed
      split at listed
      next => exact listed
      next => split at listed <;> exact listed
    exact located_start (fun _ _ => trivial) (tracked.clients client before unsettled)

theorem Tracked.finish (tracked : Tracked pool) (isWorker : pool.workers[position]? = some worker)
    (outcome : Outcome) : Tracked (pool.finish position worker outcome) where
  workers := by
    intro other listed ticket tool attempts next phase
    obtain ⟨known, located⟩ := tracked.workers other (List.mem_of_mem_eraseIdx listed) ticket tool
      attempts next phase
    exact ⟨known, located_finish isWorker located⟩
  clients := by
    intro client listed unsettled
    exact located_finish isWorker (tracked.clients client listed unsettled)

theorem Tracked.setPhase (tracked : Tracked pool)
    (isWorker : pool.workers[position]? = some worker) {phase : Phase}
    (notLeaf : ∀ tool, worker.phase ≠ .leaf tool)
    (waits : ∀ ticket tool attempts next, phase = .waiting ticket tool attempts next →
      ticket < pool.tickets ∧ LocatedLeaf pool ticket) :
    Tracked (pool.setPhase position worker phase) where
  workers := by
    intro other listed ticket tool attempts next otherPhase
    have located : ticket < pool.tickets ∧ LocatedLeaf pool ticket := by
      rcases List.mem_or_eq_of_mem_set listed with
        before | isNew
      · exact tracked.workers other before ticket tool attempts next otherPhase
      · subst isNew
        exact waits ticket tool attempts next otherPhase
    refine ⟨located.1, located_setPhase isWorker ?_ located.2⟩
    rintro ⟨leaf, isLeaf⟩
    exact absurd isLeaf (notLeaf leaf)
  clients := by
    intro client listed unsettled
    exact located_setPhase isWorker (fun _ => trivial) (tracked.clients client listed unsettled)

theorem later_enqueue (request : Nat) (task : Task) : Later pool (pool.enqueue request task) where
  queue := by
    intro queued listed
    rcases List.mem_append.mp listed with
      before | isNew
    · exact Or.inl before
    · rw [List.mem_singleton] at isNew
      subst isNew
      exact Or.inr (Nat.le_refl _)
  calls _ := Nat.le_refl _

theorem committed_le (tracked : Tracked pool) (later : Later pool after)
    (same : after.workers = pool.workers) : after.committed settings ≤ pool.committed settings := by
  unfold committed
  rw [same]
  exact List.countP_mono_left fun worker listed =>
    commits_of_later settings later (tracked.knows listed)

theorem committed_set_le (tracked : Tracked pool) (later : Later pool after)
    (isWorker : pool.workers[position]? = some worker) {phase : Phase} {extra : Nat}
    (same : after.workers = pool.workers.set position { worker with phase := phase })
    (replaced : (after.commits settings { worker with phase := phase }).toNat ≤
      (pool.commits settings worker).toNat + extra) :
    after.committed settings ≤ pool.committed settings + extra := by
  have replacing := @countP_set_le _ (pool.commits settings) (after.commits settings) pool.workers
    position worker { worker with phase := phase } isWorker
    fun other listed => commits_of_later settings later (tracked.knows listed)
  unfold committed
  rw [same]
  omega

theorem Sound.submit (sound : Sound settings pool) (request : Nat) (task : Task) :
    Sound settings (pool.submit settings request task) := by
  unfold Pool.submit
  split
  next => exact sound
  next =>
    refine ⟨?_, ⟨?_, ?_⟩, sound.punctual⟩
    · refine Nat.lt_of_le_of_lt (committed_le sound.tracked ⟨?_, ?_⟩ rfl) sound.few
      · exact (later_enqueue request task).queue
      · intro other
        by_cases same : other = request
        · subst same
          simp
        · simp [Function.update_of_ne same]
    · exact (sound.tracked.enqueue request task).workers
    · intro client listed unsettled
      rcases List.mem_append.mp listed with
        before | isNew
      · exact (sound.tracked.enqueue request task).clients client before unsettled
      · rw [List.mem_singleton] at isNew
        subst isNew
        have located : LocatedTask (pool.enqueue request task) pool.tickets :=
          located_enqueued pool request trivial
        exact located

theorem Sound.start (sound : Sound settings pool) (permitted : Permitted settings pool .start) :
    Sound settings pool.start := by
  refine ⟨?_, sound.tracked.start, ?_⟩
  · unfold Pool.start
    split
    next => exact sound.few
    next first rest queue =>
      split
      next => exact sound.few
      next hasRoom =>
        have later : Later pool { pool with
            queue := rest, workers := pool.workers ++ [first.taken] } :=
          ⟨fun queued listed => Or.inl (queue ▸ List.mem_cons_of_mem _ listed),
            fun _ => Nat.le_refl _⟩
        have others : pool.workers.countP (Pool.commits settings { pool with
            queue := rest, workers := pool.workers ++ [first.taken] }) ≤ pool.committed settings :=
          List.countP_mono_left fun worker listed =>
            commits_of_later settings later (sound.tracked.knows listed)
        unfold committed
        rw [List.countP_append, List.countP_singleton]
        split
        next commitsAfter =>
          have knows : Knows pool first.taken := by
            intro ticket tool attempts next phase
            unfold Queued.taken at phase
            cases task : first.task <;> simp [Phase.ofTask, task] at phase
          have takesUp : pool.takesUp settings .start = true := by
            simp only [Pool.takesUp, queue, Bool.and_eq_true, decide_eq_true_eq]
            exact ⟨Nat.lt_of_not_le hasRoom, commits_of_later settings later knows commitsAfter⟩
          exact Nat.lt_of_le_of_lt (Nat.add_le_add_right others 1) (permitted takesUp)
        next => exact Nat.lt_of_le_of_lt others sound.few
  · unfold Pool.start
    split
    next => exact sound.punctual
    next => split <;> exact sound.punctual

theorem Sound.finish (sound : Sound settings pool) (isWorker : pool.workers[position]? = some worker)
    (outcome : Outcome) : Sound settings (pool.finish position worker outcome) where
  few := by
    apply Nat.lt_of_le_of_lt _ sound.few
    exact (List.eraseIdx_sublist pool.workers position).countP_le
  tracked := sound.tracked.finish isWorker outcome
  punctual := sound.punctual

theorem Sound.running (sound : Sound settings pool)
    (isWorker : pool.workers[position]? = some worker) (notLeaf : ∀ tool, worker.phase ≠ .leaf tool)
    {work : Work} (permitted : pool.commits settings { worker with phase := .running work } = true →
      pool.committed settings + 1 < maxWorkers) :
    Sound settings (pool.setPhase position worker (.running work)) where
  few := by
    have later : Later pool (pool.setPhase position worker (.running work)) :=
      ⟨fun _ listed => Or.inl listed, fun _ => Nat.le_refl _⟩
    cases commitsAfter : pool.commits settings { worker with phase := .running work } with
    | true =>
        have few := permitted commitsAfter
        have most := @committed_set_le settings pool _ position worker sound.tracked later isWorker
          (.running work) 1 rfl (Nat.le_add_left_of_le (Bool.toNat_le _))
        omega
    | false =>
        have few := sound.few
        have most := @committed_set_le settings pool _ position worker sound.tracked later isWorker
          (.running work) 0 rfl (by
            change (pool.commits settings { worker with phase := .running work }).toNat ≤ _
            rw [commitsAfter]
            exact Nat.zero_le _)
        omega
  tracked := by
    apply sound.tracked.setPhase isWorker notLeaf
    intro ticket tool attempts next phase
    cases phase
  punctual := sound.punctual

theorem Sound.waiting (sound : Sound settings pool)
    (isWorker : pool.workers[position]? = some worker) (notLeaf : ∀ tool, worker.phase ≠ .leaf tool)
    {calls : Nat → Nat} (more : ∀ request, pool.calls request ≤ calls request)
    (tool : String) (attempts : Nat) (next : Outcome → Work)
    (permitted : pool.commits settings worker = true ∨ pool.committed settings + 1 < maxWorkers) :
    Sound settings (({ pool with calls := calls }.enqueue worker.request (.leaf tool)).setPhase
      position worker (.waiting pool.tickets tool attempts next)) where
  few := by
    have later : Later pool (({ pool with calls := calls }.enqueue worker.request
        (.leaf tool)).setPhase position worker (.waiting pool.tickets tool attempts next)) :=
      ⟨(later_enqueue worker.request (.leaf tool)).queue, more⟩
    rcases permitted with
      commitsBefore | few
    · have most := @committed_set_le settings pool _ position worker sound.tracked later isWorker
        (.waiting pool.tickets tool attempts next) 0 rfl (by
          rw [commitsBefore]
          exact Bool.toNat_le _)
      have few := sound.few
      omega
    · have most := @committed_set_le settings pool _ position worker sound.tracked later isWorker
        (.waiting pool.tickets tool attempts next) 1 rfl (Nat.le_add_left_of_le (Bool.toNat_le _))
      omega
  tracked := by
    have enqueued : Tracked ({ pool with calls := calls }.enqueue worker.request (.leaf tool)) :=
      ⟨(sound.tracked.enqueue worker.request (.leaf tool)).workers,
        (sound.tracked.enqueue worker.request (.leaf tool)).clients⟩
    apply enqueued.setPhase isWorker notLeaf
    intro ticket otherTool otherAttempts otherNext phase
    cases phase
    exact ⟨Nat.lt_succ_self _, located_enqueued _ worker.request ⟨tool, rfl⟩⟩
  punctual := sound.punctual

theorem Sound.advance (sound : Sound settings pool) (position : Nat) (outcome : Outcome)
    (permitted : Permitted settings pool (.advance position outcome)) :
    Sound settings (pool.advance settings position outcome) := by
  unfold Pool.advance
  cases isWorker : pool.workers[position]? with
  | none => exact sound
  | some worker =>
      obtain ⟨ticket, request, phase⟩ := worker
      cases phase with
      | leaf tool => exact sound.finish isWorker outcome
      | running work =>
          cases work with
          | finish result => exact sound.finish isWorker result
          | call tool next =>
              simp only
              split
              next reached =>
                apply sound.running isWorker (fun _ same => by cases same)
                intro commitsAfter
                unfold Pool.commits at commitsAfter
                split at commitsAfter
                next =>
                  have within := of_decide_eq_true commitsAfter
                  exact absurd within (Nat.not_lt.mpr reached)
                next => cases commitsAfter
              next within =>
                apply sound.waiting isWorker (fun _ same => by cases same)
                · intro other
                  by_cases same : other = request
                  · subst same
                    simp
                  · simp [Function.update_of_ne same]
                · exact Or.inl (decide_eq_true (Nat.lt_of_not_le within))
      | waiting awaited tool attempts next =>
          simp only
          cases answered : pool.outcomes awaited with
          | none => exact sound
          | some answer =>
              have allowed : (retries settings answer attempts ||
                  pool.commits settings ⟨ticket, request, .running (next answer)⟩) = true →
                  pool.committed settings + 1 < maxWorkers := by
                intro goesOn
                apply permitted
                simp only [Pool.takesUp, isWorker, answered]
                exact goesOn
              simp only [answerWorker]
              split
              next again =>
                exact sound.waiting isWorker (fun _ same => by cases same) (fun _ => Nat.le_refl _)
                  tool (attempts + 1) next (Or.inr (allowed (by simp [again])))
              next =>
                apply sound.running isWorker (fun _ same => by cases same)
                intro commitsAfter
                exact allowed (by simp [commitsAfter])

theorem Sound.settle (sound : Sound settings pool) (position : Nat) :
    Sound settings (pool.settle settings position) := by
  unfold Pool.settle
  cases isClient : pool.clients[position]? with
  | none => exact sound
  | some client =>
      simp only
      split
      next outcome unsettled answered =>
        unfold answerClient
        split
        next =>
          have enqueued := sound.tracked.enqueue client.request client.task
          refine ⟨Nat.lt_of_le_of_lt (committed_le sound.tracked ⟨?_, ?_⟩ rfl) sound.few,
            ⟨enqueued.workers, ?_⟩, sound.punctual⟩
          · exact (later_enqueue client.request client.task).queue
          · exact fun _ => Nat.le_refl _
          · intro other listed unsettled
            rcases List.mem_or_eq_of_mem_set listed with
              before | isNew
            · exact enqueued.clients other before unsettled
            · subst isNew
              have located : LocatedTask (pool.enqueue client.request client.task) pool.tickets :=
                located_enqueued pool client.request trivial
              exact located
        next =>
          refine ⟨sound.few, ⟨sound.tracked.workers, ?_⟩, sound.punctual⟩
          intro other listed unsettled
          rcases List.mem_or_eq_of_mem_set listed with
            before | isNew
          · exact sound.tracked.clients other before unsettled
          · subst isNew
            cases unsettled
      next => exact sound

theorem Sound.step (sound : Sound settings pool) {action : Action}
    (permitted : Permitted settings pool action) : Sound settings (pool.step settings action) := by
  cases action with
  | submit request task => exact sound.submit request task
  | start => exact sound.start permitted
  | advance position outcome => exact sound.advance position outcome permitted
  | settle position => exact sound.settle position
  | expire waiter =>
      change Sound settings (pool.expire settings waiter)
      rw [sound.expire_eq]
      exact sound

end Steps

theorem sound_empty (settings : ToolSettings) : Sound settings {} where
  few := Nat.zero_lt_succ _
  tracked := ⟨by simp, by simp⟩
  punctual := rfl

/-- In a run that takes up nested calls only while one worker is left besides, the pool never
starves and no deadline passes. -/
theorem pool_never_starves {settings : ToolSettings} {actions : List Action}
    (along : Machine.Along (step settings) (Permitted settings) {} actions) :
    Safe (Machine.run (step settings) {} actions) := by
  have sound : Sound settings (Machine.run (step settings) {} actions) :=
    Machine.run_invariant_along (step settings) (fun _ _ permitted sound => sound.step permitted)
      (sound_empty settings) along
  exact ⟨sound.fed, sound.punctual⟩

/-! ## Without a worker that is left -/

section Called

/-- A worker has made its call. -/
def called (pool : Pool) (position : Nat) (worker : Worker) (tool : String)
    (next : Outcome → Work) : Pool :=
  ({ pool with
    calls := Function.update pool.calls worker.request
      (pool.calls worker.request + 1) }.enqueue worker.request (.leaf tool)).setPhase position worker
    (.waiting pool.tickets tool 1 next)

variable {settings : ToolSettings} {pool : Pool} {position : Nat} {worker : Worker} {tool : String}
  {next : Outcome → Work}

theorem advance_eq_called (isWorker : pool.workers[position]? = some worker)
    (phase : worker.phase = .running (.call tool next))
    (within : pool.calls worker.request < settings.maxToolCalls) (outcome : Outcome) :
    pool.step settings (.advance position outcome) = pool.called position worker tool next := by
  change pool.advance settings position outcome = _
  unfold Pool.advance
  rw [isWorker]
  simp only [phase]
  exact if_neg (Nat.not_le.mpr within)

theorem waits_called {other : Worker} (waits : pool.waitsForQueued other = true) :
    (pool.called position worker tool next).waitsForQueued other = true := by
  unfold waitsForQueued at waits ⊢
  split at waits
  next =>
    obtain ⟨queued, inQueue, same⟩ := List.any_eq_true.mp waits
    exact List.any_eq_true.mpr ⟨queued, List.mem_append_left _ inQueue, same⟩
  next => cases waits

theorem waits_called_self : (pool.called position worker tool next).waitsForQueued
    { worker with phase := .waiting pool.tickets tool 1 next } = true :=
  List.any_eq_true.mpr ⟨⟨pool.tickets, worker.request, .leaf tool⟩,
    List.mem_append_right _ (List.mem_singleton.mpr rfl), decide_eq_true rfl⟩

theorem requests_called (isWorker : pool.workers[position]? = some worker) :
    (pool.called position worker tool next).workers.map Worker.request =
      pool.workers.map Worker.request := by
  apply List.ext_getElem?
  intro index
  simp only [called, setPhase, enqueue, List.getElem?_map, List.getElem?_set]
  split
  next same =>
    subst same
    rw [isWorker]
    split
    next => rfl
    next outside =>
      obtain ⟨inside, -⟩ := List.getElem?_eq_some_iff.mp isWorker
      exact absurd inside outside
  next => rfl

theorem commits_called (isWorker : pool.workers[position]? = some worker)
    (requests : (pool.workers.map Worker.request).Nodup)
    (all : ∀ other ∈ pool.workers, pool.commits settings other = true) :
    ∀ other ∈ (pool.called position worker tool next).workers,
      (pool.called position worker tool next).commits settings other = true := by
  intro other listed
  obtain ⟨index, isOther⟩ := List.mem_iff_getElem?.mp listed
  by_cases same : index = position
  · subst same
    obtain ⟨inside, -⟩ := List.getElem?_eq_some_iff.mp isWorker
    simp only [called, setPhase, enqueue, List.getElem?_set_self inside] at isOther
    cases isOther
    exact waits_called_self
  · simp only [called, setPhase, enqueue, List.getElem?_set_ne (Ne.symm same)] at isOther
    have before := all other (List.mem_of_getElem? isOther)
    have elsewhere : other.request ≠ worker.request := by
      intro sameRequest
      apply same
      obtain ⟨inside, -⟩ := List.getElem?_eq_some_iff.mp isOther
      apply (List.getElem?_inj (by simpa using inside) requests).mp
      rw [List.getElem?_map, List.getElem?_map, isOther, isWorker, Option.map_some, Option.map_some,
        sameRequest]
    unfold Pool.commits at before ⊢
    split
    next phase =>
      rw [phase] at before
      simpa [called, setPhase, enqueue, Function.update_of_ne elsewhere] using before
    next notCalling =>
      split at before
      next phase => exact absurd phase (notCalling _ _)
      next => exact waits_called before

end Called

/-- Where every worker is about to wait or waits already, the pool starves as soon as each has
made its call. -/
theorem starves_of_commits {settings : ToolSettings} {pool : Pool}
    (full : maxWorkers ≤ pool.workers.length)
    (all : ∀ worker ∈ pool.workers, pool.commits settings worker = true)
    (requests : (pool.workers.map Worker.request).Nodup) :
    ∃ actions, Starved (Machine.run (step settings) pool actions) := by
  induction count : pool.workers.countP fun worker => !pool.waitsForQueued worker using
    Nat.strong_induction_on generalizing pool with
  | h size ih =>
      by_cases waiting : ∀ worker ∈ pool.workers, pool.waitsForQueued worker = true
      · exact ⟨[], full, waiting⟩
      · push Not at waiting
        obtain ⟨worker, listed, idle⟩ := waiting
        obtain ⟨position, isWorker⟩ := List.mem_iff_getElem?.mp listed
        have isCommitted := all worker listed
        unfold Pool.commits at isCommitted
        split at isCommitted
        next tool next phase =>
          have replacing := @countP_set_le _ (fun other => !pool.waitsForQueued other)
            (fun other => !(pool.called position worker tool next).waitsForQueued other)
            pool.workers position worker { worker with phase := .waiting pool.tickets tool 1 next }
            isWorker fun other _ idleAfter => by
              cases waits : pool.waitsForQueued other with
              | true => simp [waits_called waits] at idleAfter
              | false => rfl
          rw [waits_called_self, Bool.eq_false_iff.mpr idle] at replacing
          have fewer : (pool.called position worker tool next).workers.countP (fun other =>
              !(pool.called position worker tool next).waitsForQueued other) < size := by
            rw [← count]
            exact replacing
          obtain ⟨actions, starved⟩ := ih _ fewer
            (by simpa [called, setPhase, enqueue] using full)
            (commits_called isWorker requests all) (requests_called isWorker ▸ requests) rfl
          refine ⟨.advance position .timedOut :: actions, ?_⟩
          rw [Machine.run_cons, advance_eq_called isWorker phase (of_decide_eq_true isCommitted)]
          exact starved
        next => exact absurd isCommitted idle

/-! ## Eight checks at once -/

/-- The settings of a request, with one retry. -/
def oneRetry : ToolSettings := ⟨20, 1⟩

/-- A check of the volume of a dataset. -/
def volumeCheck : Task :=
  .function (runRule ⟨true, true⟩ ⟨fun _ => true, 1000⟩
    ⟨"iceberg.silver.slv_pdm_loans", .volume, none, [("min_rows", .int 1)]⟩)

/-- Eight requests call `dq.run_rule`, and each of the workers takes one check up. -/
def eightChecks : List Action :=
  (List.range 8).map (fun request => .submit request volumeCheck) ++
    List.replicate 8 .start ++ (List.range 8).map fun position => .advance position .timedOut

/-- The workers have taken all the checks up. -/
theorem takenUp_starves : ∃ actions,
    Starved (Machine.run (step oneRetry) (Machine.run (step oneRetry) {} (eightChecks.take 16))
      actions) :=
  starves_of_commits (by decide) (by decide) (by decide)

/-- The pool starves. -/
theorem eightChecks_starve :
    ¬ ∀ actions, Safe (Machine.run (step oneRetry) {} actions) := by
  intro safe
  have waiting : ((Machine.run (step oneRetry) {} eightChecks).workers.all
      (Machine.run (step oneRetry) {} eightChecks).waitsForQueued) = true := by decide +kernel
  apply (safe eightChecks).fed
  exact ⟨by decide +kernel, List.all_eq_true.mp waiting⟩

/-- Seven requests at once leave a worker that runs the nested calls. -/
def sevenChecks : List Action :=
  (List.range 7).map (fun request => .submit request volumeCheck) ++ List.replicate 7 .start ++
    (List.range 7).map (fun position => .advance position .timedOut) ++
      [.start, .advance 7 (.raised true), .advance 0 .timedOut]

theorem sevenChecks_safe : Safe (Machine.run (step oneRetry) {} sevenChecks) :=
  pool_never_starves (by decide +kernel)

end Pool

end PaymentsPlatform.AgentApi.ToolPool
