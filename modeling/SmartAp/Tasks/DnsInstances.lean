import SmartAp.Tasks.AnyCommands
import SmartAp.Tasks.SocketOwnership

/-!
# The instances of the DNS task

Under any commands, at most one instance of `dns_server_task` has not yet set `EVT_DNS_STOPPED_BIT`,
and it is the one `ctx->dns_task` stands for (`Sys.OneDnsTask`). An instance that has set the bit
may live on for a while: it may still read `EVT_DNS_RUNNING_BIT` and send `DNS_ERROR`, also after
`stop_dns_server` has returned and the next instance was created.

## The invariant

Inside `start_dns_server` and `stop_dns_server` the handle, the running bit and the stopped bit are
changed one after the other, and between two of these steps any other task may move. So the
invariant has a part for each place of the orchestrator (`OrchPc.InstanceFacts`). An instance moves
in one of a few ways (`DnsMove`), which is all that the step of an instance has to be split into
(`oneDnsTask_dns`); `oneDnsTask_orchestrator` is the step of the orchestrator.

Nothing here depends on when an instance publishes its descriptor; `SmartAp.Tasks.SocketOwnership`
is about that. The results hold for any commands in the queue, not only those that the other tasks
send, since they are used for runs in which `DNS_ERROR` is sent as well.
-/

/-- The wait of `stop_dns_server` has taken the stopped bit. -/
def OrchPc.consumed : OrchPc → Bool
  | .stopDns _ (.close _) | .stopDns _ .clearTask => true
  | _ => false

/-- What is known inside `start_dns_server` and `stop_dns_server`. -/
def OrchPc.InstanceFacts (s : Sys) : OrchPc → Prop
  | .startDns _ .clearStopped => s.ctx.dnsTask = none
  | .startDns _ .setRunning | .startDns _ .create =>
    s.ctx.dnsTask = none ∧ s.ctx.events.dnsStopped = false
  | .stopDns _ (.close _) | .stopDns _ .clearTask => ∀ j, (s.dns j).finished = true
  | _ => True

/-- The invariant. -/
structure Sys.OneDnsTask (s : Sys) : Prop where
  /-- Only the instance in `ctx->dns_task` may still be running. -/
  others : ∀ j, s.ctx.dnsTask ≠ some j → (s.dns j).finished = true
  stopped : s.ctx.events.dnsStopped = true → ∀ j, (s.dns j).finished = true
  /-- The bit of an instance that has finished is there until the orchestrator takes it. -/
  reported : ∀ i, s.ctx.dnsTask = some i → (s.dns i).finished = true → s.orch.consumed = false →
    s.ctx.events.dnsStopped = true
  unborn : ∀ j, s.dnsCreated ≤ j → s.dns j = .unborn
  facts : s.orch.InstanceFacts s

variable {cfg : TaskConfig} {s s' : Sys}

/-- An instance that has not finished is the current one. -/
theorem Sys.OneDnsTask.current (hinv : s.OneDnsTask) {i : ℕ} (hi : (s.dns i).finished = false) :
    s.ctx.dnsTask = some i := by
  by_contra hne
  rw [hinv.others i hne] at hi
  cases hi

/-- What the facts about the orchestrator's place need of a step that does not move it. -/
theorem OrchPc.InstanceFacts.of_task {pc : OrchPc} (hfacts : pc.InstanceFacts s)
    (htask : s'.ctx.dnsTask = s.ctx.dnsTask)
    (hstopped : s.ctx.dnsTask = none → s'.ctx.events.dnsStopped = s.ctx.events.dnsStopped)
    (hfin : ∀ j, (s.dns j).finished = true → (s'.dns j).finished = true) :
    pc.InstanceFacts s' := by
  cases pc with
  | startDns caller k =>
    cases k with
    | clearStopped => exact htask.trans hfacts
    | setRunning | create => exact ⟨htask.trans hfacts.1, (hstopped hfacts.1).trans hfacts.2⟩
    | take | give => trivial
  | stopDns caller k =>
    cases k with
    | close sock | clearTask => exact fun j ↦ hfin j (hfacts j)
    | _ => trivial
  | _ => trivial

/-! ### The DNS task -/

/-- How an instance moves, and what it does to the stopped bit and to the command queue. -/
inductive DnsMove (s s' : Sys) (i : ℕ) (ok : Bool) : DnsPc → Prop
  | run {pc : DnsPc} : (s.dns i).finished = false → pc.finished = false →
      s'.ctx.events.dnsStopped = s.ctx.events.dnsStopped →
      s'.ctx.serverCmdQueue = s.ctx.serverCmdQueue → DnsMove s s' i ok pc
  | stop (exitedByError : Bool) : s.dns i = .setStopped exitedByError →
      s'.ctx.events.dnsStopped = true → s'.ctx.serverCmdQueue = s.ctx.serverCmdQueue →
      DnsMove s s' i ok (if exitedByError then .testRunning else .deleted)
  | test : s.dns i = .testRunning → s'.ctx.events.dnsStopped = s.ctx.events.dnsStopped →
      s'.ctx.serverCmdQueue = s.ctx.serverCmdQueue →
      DnsMove s s' i ok (if s.ctx.events.dnsRunning then .sendError else .deleted)
  | send : s.dns i = .sendError → s'.ctx.events.dnsStopped = s.ctx.events.dnsStopped →
      s'.ctx.serverCmdQueue =
        (if ok then s.ctx.serverCmdQueue ++ [.dnsError] else s.ctx.serverCmdQueue) →
      DnsMove s s' i ok .deleted

theorem dnsServerTask_move {i : ℕ} {ok : Bool} (h : dnsServerTask cfg s i ok = some s') :
    s.dns i ≠ .unborn ∧ ∃ pc, s'.dns = Function.update s.dns i pc ∧ DnsMove s s' i ok pc := by
  cases hpc : s.dns i <;> simp only [dnsServerTask, hpc] at h
  case unborn | deleted => cases h
  case setStopped exitedByError =>
    obtain rfl := Option.some.inj h
    exact ⟨by simp, _, rfl, .stop exitedByError hpc rfl rfl⟩
  case testRunning =>
    obtain rfl := Option.some.inj h
    exact ⟨by simp, _, rfl, .test hpc rfl rfl⟩
  case sendError =>
    obtain ⟨ctx, hctx, rfl⟩ := Option.map_eq_some_iff.1 h
    refine ⟨by simp, _, rfl, ?_⟩
    cases ok with
    | true =>
      obtain rfl := SysCtx.queueSend_true hctx
      exact .send hpc rfl rfl
    | false =>
      obtain rfl := SysCtx.queueSend_false hctx
      exact .send hpc rfl rfl
  case socket =>
    split at h <;> obtain rfl := Option.some.inj h <;>
      exact ⟨by simp, _, rfl, .run (by rw [hpc]; rfl) rfl rfl rfl⟩
  case store sock =>
    split at h <;> cases h
    exact ⟨by simp, _, rfl, .run (by rw [hpc]; rfl) rfl rfl rfl⟩
  all_goals
    obtain rfl := Option.some.inj h
    refine ⟨by simp, _, rfl, .run (by rw [hpc]; rfl) ?_ rfl rfl⟩
    split <;> try split
    all_goals rfl

/-- What has finished stays finished. -/
theorem DnsMove.finished {i : ℕ} {ok : Bool} {pc : DnsPc} (h : DnsMove s s' i ok pc)
    (hi : (s.dns i).finished = true) : pc.finished = true := by
  cases h with
  | run hrun => exact absurd (hrun.symm.trans hi) (by decide)
  | stop exitedByError => cases exitedByError <;> rfl
  | test => split <;> rfl
  | send => rfl

/-- **The step of a DNS task.** -/
theorem oneDnsTask_dns {i : ℕ} {ok : Bool} (h : dnsServerTask cfg s i ok = some s')
    (hinv : s.OneDnsTask) : s'.OneDnsTask := by
  obtain ⟨hsame, -⟩ := sameInside_of_step (a := .dns i ok) h (fun _ ↦ nofun)
  obtain ⟨hborn, pc, hdns, hmove⟩ := dnsServerTask_move h
  have hfin : ∀ j, (s.dns j).finished = true → (s'.dns j).finished = true := fun j hj ↦ by
    rw [hdns]
    exact finished_update hmove.finished hj
  -- the bit changes only when the one instance that runs sets it
  have hbit : s'.ctx.events.dnsStopped = s.ctx.events.dnsStopped ∨
      s'.ctx.events.dnsStopped = true ∧ (s.dns i).finished = false ∧ pc.finished = true := by
    cases hmove with
    | run _ _ hbit => exact .inl hbit
    | stop exitedByError hpc hset =>
      exact .inr ⟨hset, by rw [hpc]; rfl, by cases exitedByError <;> rfl⟩
    | test _ hbit => exact .inl hbit
    | send _ hbit => exact .inl hbit
  have hkeep : s.ctx.events.dnsStopped = true → s'.ctx.events.dnsStopped = true := fun hset ↦
    hbit.elim (fun heq ↦ heq.trans hset) fun hnew ↦ hnew.1
  refine ⟨fun j hj ↦ ?_, fun hset j ↦ ?_, fun j hj hfinj hcons ↦ ?_, fun j hj ↦ ?_, ?_⟩
  · rw [hsame.dnsTask] at hj
    exact hfin j (hinv.others j hj)
  · rcases hbit with hbit | ⟨-, hrun, hpc⟩
    · exact hfin j (hinv.stopped (hbit ▸ hset) j)
    · by_cases hji : j = i
      · rw [hji, hdns, Function.update_self]
        exact hpc
      · refine hfin j (hinv.others j ?_)
        rw [hinv.current hrun]
        exact fun heq ↦ hji (Option.some.inj heq).symm
  · rw [hsame.dnsTask] at hj
    rw [hsame.orch] at hcons
    by_cases hji : j = i
    · subst hji
      rw [hdns, Function.update_self] at hfinj
      cases hmove with
      | run _ hpc => exact absurd (hpc.symm.trans hfinj) (by decide)
      | stop _ _ hset => exact hset
      | test hpc => exact hkeep (hinv.reported j hj (by rw [hpc]; rfl) hcons)
      | send hpc => exact hkeep (hinv.reported j hj (by rw [hpc]; rfl) hcons)
    · rw [hdns, Function.update_of_ne hji] at hfinj
      exact hkeep (hinv.reported j hj hfinj hcons)
  · rw [hsame.dnsCreated] at hj
    have hji : j ≠ i := fun hji ↦ hborn (hji ▸ hinv.unborn j hj)
    rw [hdns, Function.update_of_ne hji]
    exact hinv.unborn j hj
  · rw [hsame.orch]
    refine hinv.facts.of_task hsame.dnsTask (fun hnone ↦ ?_) hfin
    refine hbit.resolve_right fun ⟨_, hrun, _⟩ ↦ ?_
    rw [hinv.current hrun] at hnone
    cases hnone

/-! ### The orchestrator -/

theorem oneDnsTask_startDns {caller : StartCaller} {k : StartDnsPc} {ok : Bool}
    (h : startDnsServer s caller ok k = some s') (hpc : s.orch = .startDns caller k)
    (hinv : s.OneDnsTask) : s'.OneDnsTask := by
  have hfacts := hinv.facts
  have hcons : s.orch.consumed = false := by rw [hpc]; rfl
  have hafter : ∀ t : Sys, caller.afterDns.InstanceFacts t := fun t ↦ by cases caller <;> trivial
  rw [hpc] at hfacts
  cases k <;> simp only [startDnsServer] at h
  case take =>
    split at h
    · cases h
    · split at h <;> obtain rfl := Option.some.inj h
      · rename_i hnone
        exact ⟨hinv.others, hinv.stopped, fun i hi hfin _ ↦ hinv.reported i hi hfin hcons,
          hinv.unborn, hnone⟩
      · exact ⟨hinv.others, hinv.stopped, fun i hi hfin _ ↦ hinv.reported i hi hfin hcons,
          hinv.unborn, hafter _⟩
  case clearStopped =>
    obtain rfl := Option.some.inj h
    have hnone : s.ctx.dnsTask = none := hfacts
    refine ⟨hinv.others, by simp, fun i hi ↦ ?_, hinv.unborn, hnone, rfl⟩
    rw [hnone] at hi
    cases hi
  case setRunning =>
    obtain rfl := Option.some.inj h
    exact ⟨hinv.others, hinv.stopped, fun i hi hfin _ ↦ hinv.reported i hi hfin hcons,
      hinv.unborn, hfacts⟩
  case give =>
    obtain rfl := Option.some.inj h
    exact ⟨hinv.others, hinv.stopped, fun i hi hfin _ ↦ hinv.reported i hi hfin hcons,
      hinv.unborn, hafter _⟩
  case create =>
    obtain ⟨hnone, hclear⟩ := hfacts
    split at h <;> obtain rfl := Option.some.inj h
    · refine ⟨fun j hj ↦ ?_, fun hset ↦ ?_, fun i hi hfin _ ↦ ?_, fun j hj ↦ ?_, trivial⟩
      · have hne : j ≠ s.dnsCreated := fun hji ↦ hj (congrArg some hji.symm)
        show (Function.update s.dns s.dnsCreated .checkRunning j).finished = true
        rw [Function.update_of_ne hne]
        exact hinv.others j (by rw [hnone]; simp)
      · have hset' : s.ctx.events.dnsStopped = true := hset
        rw [hclear] at hset'
        cases hset'
      · -- the new instance has not finished
        obtain rfl := Option.some.inj hi
        change
          (Function.update s.dns s.dnsCreated .checkRunning s.dnsCreated).finished = true at hfin
        rw [Function.update_self] at hfin
        cases hfin
      · have hlt : s.dnsCreated < j := hj
        show Function.update s.dns s.dnsCreated .checkRunning j = .unborn
        rw [Function.update_of_ne (Nat.ne_of_gt hlt)]
        exact hinv.unborn j (Nat.le_of_lt hlt)
    · refine ⟨hinv.others, hinv.stopped, fun i hi hfin _ ↦ hinv.reported i hi hfin hcons,
        hinv.unborn, ?_⟩
      show s.orch.InstanceFacts _
      rw [hpc]
      exact ⟨hnone, hclear⟩

theorem oneDnsTask_stopDns {caller : StopCaller} {k : StopDnsPc} {ok : Bool}
    (h : stopDnsServer s caller ok k = some s') (hpc : s.orch = .stopDns caller k)
    (hinv : s.OneDnsTask) : s'.OneDnsTask := by
  have hfacts := hinv.facts
  have hreported := hinv.reported
  have hafter : ∀ t : Sys, caller.afterDns.InstanceFacts t := fun t ↦ by cases caller <;> trivial
  rw [hpc] at hfacts hreported
  cases k <;> simp only [stopDnsServer] at h
  case test =>
    split at h
    · cases h
    · split at h <;> obtain rfl := Option.some.inj h
      · exact ⟨hinv.others, hinv.stopped, fun i hi hfin _ ↦ hreported i hi hfin rfl, hinv.unborn,
          hafter _⟩
      · exact ⟨hinv.others, hinv.stopped, fun i hi hfin _ ↦ hreported i hi hfin rfl, hinv.unborn,
          trivial⟩
  case clearRunning | hung sock =>
    obtain rfl := Option.some.inj h
    exact ⟨hinv.others, hinv.stopped, fun i hi hfin _ ↦ hreported i hi hfin rfl, hinv.unborn,
      trivial⟩
  case snapshot =>
    split at h <;> cases h
    exact ⟨hinv.others, hinv.stopped, fun i hi hfin _ ↦ hreported i hi hfin rfl, hinv.unborn,
      trivial⟩
  case wait sock =>
    split at h <;> split at h <;> cases h
    · -- the bit was set, so that every instance has finished
      rename_i _ hset
      exact ⟨hinv.others, by simp, fun _ _ _ ↦ by simp [OrchPc.consumed], hinv.unborn,
        hinv.stopped hset⟩
    · exact ⟨hinv.others, hinv.stopped, fun i hi hfin _ ↦ hreported i hi hfin rfl, hinv.unborn,
        trivial⟩
  case close sock =>
    obtain rfl := Option.some.inj h
    exact ⟨hinv.others, hinv.stopped, fun _ _ _ ↦ by simp [OrchPc.consumed], hinv.unborn, hfacts⟩
  case clearTask =>
    split at h <;> cases h
    exact ⟨fun j _ ↦ hfacts j, hinv.stopped, by simp, hinv.unborn, hafter _⟩
  case restart =>
    obtain rfl := Option.some.inj h
    refine ⟨hinv.others, hinv.stopped, hinv.reported, hinv.unborn, ?_⟩
    show s.orch.InstanceFacts _
    rw [hpc]
    trivial

/-- Only `start_dns_server` creates an instance. -/
theorem orchestrator_dnsCreated {ok : Bool} (h : serverOrchestratorTask s ok = some s')
    (hstart : ∀ caller k, s.orch ≠ .startDns caller k) : s'.dnsCreated = s.dnsCreated := by
  cases hpc : s.orch <;> simp only [serverOrchestratorTask, hpc] at h
  case startDns caller k => exact absurd hpc (hstart caller k)
  case stopDns caller k =>
    obtain ⟨_, _, _, _, _, _, _, rfl, -⟩ := stopDnsServer_frame h
    rfl
  case startWeb k =>
    obtain ⟨_, _, _, _, rfl, -⟩ := startWebserver_frame h
    rfl
  case stopWeb caller k =>
    obtain ⟨_, _, _, rfl, -⟩ := stopWebserver_frame h
    rfl
  case receive =>
    split at h <;> cases h <;> rfl
  case deleted => cases h
  all_goals
    obtain rfl := Option.some.inj h
    rfl

theorem OrchPc.instanceFacts_of_outsideDns {pc : OrchPc} (h : pc.outsideDns = true) :
    pc.consumed = false ∧ ∀ s, pc.InstanceFacts s := by
  cases pc with
  | startDns caller k =>
    cases k with
    | take => exact ⟨rfl, fun _ ↦ trivial⟩
    | _ => cases h
  | stopDns caller k =>
    cases k with
    | test => exact ⟨rfl, fun _ ↦ trivial⟩
    | _ => cases h
  | _ => exact ⟨rfl, fun _ ↦ trivial⟩

/-- **The orchestrator's step.** -/
theorem oneDnsTask_orchestrator {ok : Bool} (h : serverOrchestratorTask s ok = some s')
    (hinv : s.OneDnsTask) : s'.OneDnsTask := by
  by_cases hstart : ∃ caller k, s.orch = .startDns caller k
  · obtain ⟨caller, k, hpc⟩ := hstart
    simp only [serverOrchestratorTask, hpc] at h
    exact oneDnsTask_startDns h hpc hinv
  by_cases hstop : ∃ caller k, s.orch = .stopDns caller k
  · obtain ⟨caller, k, hpc⟩ := hstop
    simp only [serverOrchestratorTask, hpc] at h
    exact oneDnsTask_stopDns h hpc hinv
  have hstart' : ∀ caller k, s.orch ≠ .startDns caller k := fun caller k hpc ↦
    hstart ⟨caller, k, hpc⟩
  obtain ⟨hsame, hout, hout'⟩ := serverOrchestratorTask_outsideDns h hstart'
    fun caller k hpc ↦ hstop ⟨caller, k, hpc⟩
  have hcons := (OrchPc.instanceFacts_of_outsideDns hout).1
  refine ⟨?_, ?_, fun i hi hfin _ ↦ ?_, ?_, (OrchPc.instanceFacts_of_outsideDns hout').2 _⟩
  · rw [hsame.dnsTask, hsame.dns]
    exact hinv.others
  · rw [hsame.dnsStopped, hsame.dns]
    exact hinv.stopped
  · rw [hsame.dnsTask] at hi
    rw [hsame.dns] at hfin
    exact hsame.dnsStopped.trans (hinv.reported i hi hfin hcons)
  · rw [orchestrator_dnsCreated h hstart', hsame.dns]
    exact hinv.unborn

/-! ### The run -/

theorem Sys.OneDnsTask.of_same (hinv : s.OneDnsTask) (hdns : s.SameDns s')
    (hinside : s.SameInside s') : s'.OneDnsTask where
  others := by
    rw [hdns.dnsTask, hdns.dns]
    exact hinv.others
  stopped := by
    rw [hdns.dnsStopped, hdns.dns]
    exact hinv.stopped
  reported := by
    rw [hdns.dnsTask, hdns.dns, hdns.dnsStopped, hinside.orch]
    exact hinv.reported
  unborn := by
    rw [hinside.dnsCreated, hdns.dns]
    exact hinv.unborn
  facts := by
    rw [hinside.orch]
    exact hinv.facts.of_task hdns.dnsTask (fun _ ↦ hdns.dnsStopped) fun j hj ↦ hdns.dns ▸ hj

theorem oneDnsTask_step {a : CommandAction} (h : s.stepCommanded cfg a = some s')
    (hinv : s.OneDnsTask) : s'.OneDnsTask := by
  rcases commanded_step_cases h with ⟨ok, -, hrun⟩ | hsame
  · exact oneDnsTask_orchestrator hrun hinv
  cases a with
  | post cmd =>
    obtain rfl := stepCommanded_post h
    exact hinv.of_same {} hsame.inside
  | stations n =>
    obtain rfl := stepCommanded_stations h
    exact hinv.of_same {} hsame.inside
  | task a =>
    have hrun := stepCommanded_task h
    by_cases ha : ∃ i ok, a = .dns i ok
    · obtain ⟨i, ok, rfl⟩ := ha
      exact oneDnsTask_dns hrun hinv
    by_cases ha' : ∃ ok, a = .orchestrator ok
    · obtain ⟨ok, rfl⟩ := ha'
      exact oneDnsTask_orchestrator hrun hinv
    exact hinv.of_same (sameDns_of_step hrun (fun ok hok ↦ ha' ⟨ok, hok⟩)
      fun i ok hi ↦ ha ⟨i, ok, hi⟩) hsame.inside

/-- At most one instance runs, under any commands. -/
theorem oneDnsTask_of_commanded {G : Sys → CommandAction → Prop}
    (h : (commandedSystem cfg).ReachableBy G s) : s.OneDnsTask := by
  refine h.invariant (I := Sys.OneDnsTask) ?_ fun s a s' _ hinv _ hst ↦
    oneDnsTask_step (show s.stepCommanded cfg a = some s' from hst) hinv
  exact ⟨fun _ _ ↦ rfl, nofun, nofun, fun _ _ ↦ rfl, trivial⟩
