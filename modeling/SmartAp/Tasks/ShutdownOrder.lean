import SmartAp.Tasks.System

/-!
# Shutdown is exclusive and ordered

Any number of tasks may call `free_proc` at any time. One of them gets `shutdown_sem`, which is
never given back, and only that one may reach the teardown and return `true`. The teardown stops the
Wi-Fi driver and unmounts the storage, so it must find the servers gone.

## The invariants

* `ServerFacts` says, for each place of the orchestrator, how `EVT_SERVERS_RUNNING_BIT`,
  `ctx->dns_task`, `ctx->web_server` and `EVT_DNS_RUNNING_BIT` stand to each other. Between two
  commands a clear running bit means that nothing runs (`Sys.Down`); both ways out of the
  orchestrator go through a stop or find the bit clear, so that nothing runs once it is deleted.
* `Sys.OneShutdown` says that the semaphore has one owner and that the owner reaches the teardown
  only after the two critical done bits.

A `START` or `DNS_ERROR` left in the queue is harmless: once the orchestrator has reported, it never
moves again (`nothing_created_of_orchestratorDone`).
-/

/-- Nothing runs. -/
def Sys.Down (s : Sys) : Prop :=
  s.ctx.dnsTask = none ∧ s.ctx.events.dnsRunning = false ∧ s.ctx.webServer = none ∧
    s.ctx.events.serversRunning = false

/-- The running bit while `start_dns_server` runs for this caller. -/
def StartCaller.running : StartCaller → Bool
  | .startCmd => false
  | .dnsErrorCmd => true

/-- The running bit while `stop_dns_server` or `stop_webserver` runs for this caller. -/
def StopCaller.running : StopCaller → Bool
  | .dnsErrorCmd => true
  | .stopCmd | .shutdownCmd | .orchExit => false

/-- `stop_dns_server` has cleared `EVT_DNS_RUNNING_BIT`. -/
def StopDnsPc.cleared : StopDnsPc → Bool
  | .test | .clearRunning => false
  | _ => true

/-- How the running bit and the two servers stand to each other at a place of the orchestrator. -/
def OrchPc.ServerFacts (s : Sys) : OrchPc → Prop
  | .receive | .timeoutTest | .startTest | .stopTest | .dnsErrorTest | .shutdownTest | .loopTest
  | .exitTest => s.ctx.events.serversRunning = false → s.Down
  | .startDns caller _ => s.ctx.events.serversRunning = caller.running
  | .stopList => s.ctx.events.serversRunning = true
  | .stopDns caller k =>
    s.ctx.events.serversRunning = caller.running ∧
      (k.cleared = true → s.ctx.events.dnsRunning = false)
  | .stopWeb _ .take =>
    s.ctx.dnsTask = none ∧ s.ctx.events.dnsRunning = false ∧ s.ctx.events.serversRunning = false
  | .startList | .stopWeb _ (.httpdStop _) | .stopSetStopped | .shutdownSetStopped
  | .shutdownSetDone | .exitSetStopped | .exitSetDone | .deleted => s.Down
  | .startWeb _ | .startSet | .stopClear | .shutdownClear | .exitClear => True

/-- The orchestrator's side of the invariant. -/
structure Sys.ServersOrdered (s : Sys) : Prop where
  facts : s.orch.ServerFacts s
  /-- Without a task the running bit of the DNS server is set only just before the create. -/
  dnsBit : s.ctx.dnsTask = none → s.ctx.events.dnsRunning = true →
    ∃ caller, s.orch = .startDns caller .create
  done : s.ctx.events.orchestratorDone = true → s.orch = .deleted

variable {cfg : TaskConfig} {s s' : Sys}

/-! ### The orchestrator -/

/-- Away from `start_dns_server`, no task means no running bit. -/
theorem Sys.ServersOrdered.dnsRunning_eq_false (hinv : s.ServersOrdered)
    (hpc : ∀ caller, s.orch ≠ .startDns caller .create) (hnone : s.ctx.dnsTask = none) :
    s.ctx.events.dnsRunning = false := by
  rw [← Bool.not_eq_true]
  intro hrun
  obtain ⟨caller, horch⟩ := hinv.dnsBit hnone hrun
  exact hpc caller horch

/-- The orchestrator has not reported before it is deleted. -/
theorem Sys.ServersOrdered.not_done (hinv : s.ServersOrdered) (hpc : s.orch ≠ .deleted) :
    s.ctx.events.orchestratorDone = false := by
  rw [← Bool.not_eq_true]
  exact fun hdone ↦ hpc (hinv.done hdone)

/-- A move of the orchestrator that only changes its place (and bits no fact mentions). -/
theorem Sys.ServersOrdered.of_goto (hinv : s.ServersOrdered)
    (hcreate : ∀ caller, s.orch ≠ .startDns caller .create) (hdeleted : s.orch ≠ .deleted)
    (htask : s'.ctx.dnsTask = s.ctx.dnsTask)
    (hdns : s'.ctx.events.dnsRunning = s.ctx.events.dnsRunning)
    (hdone : s'.ctx.events.orchestratorDone = s.ctx.events.orchestratorDone)
    (hfacts : s'.orch.ServerFacts s') : s'.ServersOrdered where
  facts := hfacts
  dnsBit hnone hrun := by
    rw [htask] at hnone
    rw [hdns, hinv.dnsRunning_eq_false hcreate hnone] at hrun
    cases hrun
  done hset := by
    rw [hdone, hinv.not_done hdeleted] at hset
    cases hset

theorem StartCaller.facts_afterDns {caller : StartCaller}
    (h : s.ctx.events.serversRunning = caller.running) : caller.afterDns.ServerFacts s := by
  cases caller with
  | startCmd => trivial
  | dnsErrorCmd =>
    intro hclear
    rw [h] at hclear
    cases hclear

theorem StopCaller.facts_afterDns {caller : StopCaller}
    (hrun : s.ctx.events.serversRunning = caller.running) (hnone : s.ctx.dnsTask = none)
    (hdns : s.ctx.events.dnsRunning = false) : caller.afterDns.ServerFacts s := by
  cases caller with
  | dnsErrorCmd => exact hrun
  | stopCmd | shutdownCmd | orchExit => exact ⟨hnone, hdns, hrun⟩

theorem serversOrdered_startDns {caller : StartCaller} {k : StartDnsPc} {ok : Bool}
    (h : startDnsServer s caller ok k = some s') (hpc : s.orch = .startDns caller k)
    (hinv : s.ServersOrdered) : s'.ServersOrdered := by
  have hrun : s.ctx.events.serversRunning = caller.running := by
    have hfacts := hinv.facts
    rw [hpc] at hfacts
    exact hfacts
  have hcreate : k ≠ .create → ∀ c, s.orch ≠ .startDns c .create := by
    intro hk c horch
    rw [hpc] at horch
    cases horch
    exact hk rfl
  have hdeleted : s.orch ≠ .deleted := by rw [hpc]; simp
  have hdone := hinv.not_done hdeleted
  have hafter : ∀ {t : Sys}, t.ctx.events.serversRunning = caller.running →
      caller.afterDns.ServerFacts t := StartCaller.facts_afterDns
  cases k <;> simp only [startDnsServer] at h
  case take =>
    split at h
    · cases h
    · split at h <;> obtain rfl := Option.some.inj h
      · exact hinv.of_goto (hcreate (by simp)) hdeleted rfl rfl rfl hrun
      · exact hinv.of_goto (hcreate (by simp)) hdeleted rfl rfl rfl (hafter hrun)
  case clearStopped =>
    obtain rfl := Option.some.inj h
    exact hinv.of_goto (hcreate (by simp)) hdeleted rfl rfl rfl hrun
  case setRunning =>
    obtain rfl := Option.some.inj h
    exact ⟨hrun, fun _ _ ↦ ⟨caller, rfl⟩, fun hset ↦ absurd (hdone.symm.trans hset) (by decide)⟩
  case create =>
    split at h <;> obtain rfl := Option.some.inj h
    · exact ⟨hrun, by simp, fun hset ↦ absurd (hdone.symm.trans hset) (by decide)⟩
    · refine ⟨?_, by simp, fun hset ↦ absurd (hdone.symm.trans hset) (by decide)⟩
      show s.orch.ServerFacts _
      rw [hpc]
      exact hrun
  case give =>
    obtain rfl := Option.some.inj h
    exact hinv.of_goto (hcreate (by simp)) hdeleted rfl rfl rfl (hafter hrun)

theorem serversOrdered_stopDns {caller : StopCaller} {k : StopDnsPc} {ok : Bool}
    (h : stopDnsServer s caller ok k = some s') (hpc : s.orch = .stopDns caller k)
    (hinv : s.ServersOrdered) : s'.ServersOrdered := by
  obtain ⟨hrun, hclear⟩ : s.ctx.events.serversRunning = caller.running ∧
      (k.cleared = true → s.ctx.events.dnsRunning = false) := by
    have hfacts := hinv.facts
    rw [hpc] at hfacts
    exact hfacts
  have hcreate : ∀ c, s.orch ≠ .startDns c .create := by rw [hpc]; simp
  have hdeleted : s.orch ≠ .deleted := by rw [hpc]; simp
  have hdone := hinv.not_done hdeleted
  cases k <;> simp only [stopDnsServer] at h
  case test =>
    split at h
    · cases h
    · split at h <;> obtain rfl := Option.some.inj h
      · rename_i hnone
        exact hinv.of_goto hcreate hdeleted rfl rfl rfl
          (StopCaller.facts_afterDns hrun hnone (hinv.dnsRunning_eq_false hcreate hnone))
      · exact hinv.of_goto hcreate hdeleted rfl rfl rfl ⟨hrun, by simp [StopDnsPc.cleared]⟩
  case clearRunning =>
    obtain rfl := Option.some.inj h
    exact ⟨⟨hrun, fun _ ↦ rfl⟩, fun _ ↦ by simp,
      fun hset ↦ absurd (hdone.symm.trans hset) (by decide)⟩
  case snapshot =>
    split at h <;> cases h
    exact hinv.of_goto hcreate hdeleted rfl rfl rfl ⟨hrun, fun _ ↦ hclear rfl⟩
  case wait sock =>
    split at h <;> split at h <;> cases h <;>
      exact hinv.of_goto hcreate hdeleted rfl rfl rfl ⟨hrun, fun _ ↦ hclear rfl⟩
  case close sock | hung sock =>
    obtain rfl := Option.some.inj h
    exact hinv.of_goto hcreate hdeleted rfl rfl rfl ⟨hrun, fun _ ↦ hclear rfl⟩
  case clearTask =>
    split at h <;> cases h
    have hdns := hclear rfl
    exact ⟨StopCaller.facts_afterDns hrun rfl hdns,
      fun _ hset ↦ absurd (hdns.symm.trans hset) (by decide),
      fun hset ↦ absurd (hdone.symm.trans hset) (by decide)⟩
  case restart =>
    obtain rfl := Option.some.inj h
    refine hinv.of_goto hcreate hdeleted rfl rfl rfl ?_
    show s.orch.ServerFacts _
    rw [hpc]
    exact ⟨hrun, hclear⟩

/-- Once `stop_webserver` has taken the handle, nothing runs. -/
theorem serversOrdered_stopWeb {caller : StopCaller} {k : StopWebPc} {ok : Bool}
    (h : stopWebserver s caller ok k = some s') (hpc : s.orch = .stopWeb caller k)
    (hinv : s.ServersOrdered) : s'.ServersOrdered := by
  have hfacts := hinv.facts
  have hcreate : ∀ c, s.orch ≠ .startDns c .create := by rw [hpc]; simp
  have hdeleted : s.orch ≠ .deleted := by rw [hpc]; simp
  rw [hpc] at hfacts
  cases k with
  | take =>
    simp only [stopWebserver] at h
    split at h <;> cases h
    exact hinv.of_goto hcreate hdeleted rfl rfl rfl ⟨hfacts.1, hfacts.2.1, rfl, hfacts.2.2⟩
  | httpdStop server =>
    have hdown : s.Down := hfacts
    cases server <;> simp only [stopWebserver] at h <;> obtain rfl := Option.some.inj h <;>
      refine hinv.of_goto hcreate hdeleted rfl rfl rfl ?_ <;>
      cases caller <;> first | exact hdown | exact fun _ ↦ hdown

/-- **The orchestrator's step.** -/
theorem serversOrdered_orchestrator {ok : Bool} (h : serverOrchestratorTask s ok = some s')
    (hinv : s.ServersOrdered) : s'.ServersOrdered := by
  have hfacts := hinv.facts
  cases hpc : s.orch <;> simp only [serverOrchestratorTask, hpc] at h
  case startDns caller k => exact serversOrdered_startDns h hpc hinv
  case stopDns caller k => exact serversOrdered_stopDns h hpc hinv
  case stopWeb caller k => exact serversOrdered_stopWeb h hpc hinv
  case deleted => cases h
  all_goals
    have hcreate : ∀ c, s.orch ≠ .startDns c .create := by rw [hpc]; simp
    have hdeleted : s.orch ≠ .deleted := by rw [hpc]; simp
    have hdone := hinv.not_done hdeleted
    rw [hpc] at hfacts
  case receive =>
    split at h <;> cases h
    · rename_i cmd _ _
      refine hinv.of_goto hcreate hdeleted rfl rfl rfl ?_
      cases cmd <;> exact hfacts
    · exact hinv.of_goto hcreate hdeleted rfl rfl rfl hfacts
  case timeoutTest | loopTest =>
    obtain rfl := Option.some.inj h
    refine hinv.of_goto hcreate hdeleted rfl rfl rfl ?_
    cases s.ctx.events.shutdown <;> exact hfacts
  case startTest =>
    obtain rfl := Option.some.inj h
    refine hinv.of_goto hcreate hdeleted rfl rfl rfl ?_
    cases hrun : s.ctx.events.serversRunning with
    | false => exact hfacts hrun
    | true => exact hfacts
  case startList =>
    obtain rfl := Option.some.inj h
    refine hinv.of_goto hcreate hdeleted rfl rfl rfl ?_
    cases hempty : ok && decide (s.staCount = 0) with
    | false => exact hfacts.2.2.2
    | true => exact fun _ ↦ hfacts
  case startWeb k =>
    obtain ⟨_, _, _, _, rfl, ⟨k', rfl⟩ | rfl⟩ := startWebserver_frame h <;>
      exact hinv.of_goto hcreate hdeleted rfl rfl rfl trivial
  case startSet =>
    obtain rfl := Option.some.inj h
    exact hinv.of_goto hcreate hdeleted rfl rfl rfl (by simp [OrchPc.ServerFacts])
  case stopTest =>
    obtain rfl := Option.some.inj h
    refine hinv.of_goto hcreate hdeleted rfl rfl rfl ?_
    cases hrun : s.ctx.events.serversRunning with
    | false => exact hfacts hrun
    | true => exact hrun
  case stopList =>
    obtain rfl := Option.some.inj h
    refine hinv.of_goto hcreate hdeleted rfl rfl rfl ?_
    cases hempty : ok && decide (s.staCount = 0) with
    | false => exact fun hclear ↦ absurd (hclear.symm.trans hfacts) (by decide)
    | true => trivial
  case stopClear | shutdownClear | exitClear =>
    obtain rfl := Option.some.inj h
    exact hinv.of_goto hcreate hdeleted rfl rfl rfl ⟨rfl, by simp [StopDnsPc.cleared]⟩
  case stopSetStopped =>
    obtain rfl := Option.some.inj h
    exact hinv.of_goto hcreate hdeleted rfl rfl rfl fun _ ↦ hfacts
  case dnsErrorTest =>
    obtain rfl := Option.some.inj h
    refine hinv.of_goto hcreate hdeleted rfl rfl rfl ?_
    split
    · -- the running bit of the DNS server is set only while the servers run
      rename_i hdns
      refine ⟨?_, by simp [StopDnsPc.cleared]⟩
      cases hrun : s.ctx.events.serversRunning with
      | true => rfl
      | false => exact absurd ((hfacts hrun).2.1.symm.trans hdns) (by decide)
    · exact hfacts
  case shutdownTest | exitTest =>
    obtain rfl := Option.some.inj h
    refine hinv.of_goto hcreate hdeleted rfl rfl rfl ?_
    cases hrun : s.ctx.events.serversRunning with
    | false => exact hfacts hrun
    | true => trivial
  case shutdownSetStopped | exitSetStopped =>
    obtain rfl := Option.some.inj h
    exact hinv.of_goto hcreate hdeleted rfl rfl rfl hfacts
  case shutdownSetDone | exitSetDone =>
    obtain rfl := Option.some.inj h
    have hdown : s.Down := hfacts
    exact ⟨hfacts, fun _ hset ↦ absurd (hdown.2.1.symm.trans hset) (by decide), fun _ ↦ rfl⟩

/-! ### The callers of `free_proc` -/

/-- The task has taken `shutdown_sem`. -/
def MonitorPc.owns : MonitorPc → Bool
  | .setShutdown | .sendShutdown | .waitDone | .checkCritical _ _ | .teardown _
  | .returned true => true
  | _ => false

/-- What the owner of the semaphore knows about the two critical tasks. -/
def MonitorPc.DoneFacts (s : Sys) : MonitorPc → Prop
  | .checkCritical orchestratorDone apDone =>
    (orchestratorDone = true → s.ctx.events.orchestratorDone = true) ∧
      (apDone = true → s.ctx.events.apDone = true)
  | .teardown _ | .returned true =>
    s.ctx.events.orchestratorDone = true ∧ s.ctx.events.apDone = true
  | _ => True

/-- The side of the callers of `free_proc`. -/
structure Sys.OneShutdown (s : Sys) : Prop where
  one : ∀ i j, (s.monitor i).owns = true → (s.monitor j).owns = true → i = j
  taken : ∀ i, (s.monitor i).owns = true → s.ctx.shutdownSem = false
  critical : ∀ i, (s.monitor i).DoneFacts s

theorem MonitorPc.DoneFacts.mono {pc : MonitorPc} (h : pc.DoneFacts s)
    (horch : s.ctx.events.orchestratorDone = true → s'.ctx.events.orchestratorDone = true)
    (hap : s.ctx.events.apDone = true → s'.ctx.events.apDone = true) : pc.DoneFacts s' := by
  cases pc with
  | checkCritical orchestratorDone apDone =>
    exact ⟨fun ho ↦ horch (h.1 ho), fun ha ↦ hap (h.2 ha)⟩
  | teardown k => exact ⟨horch h.1, hap h.2⟩
  | returned result =>
    cases result with
    | false => trivial
    | true => exact ⟨horch h.1, hap h.2⟩
  | _ => trivial

/-- A caller of `free_proc` becomes the owner only by taking the free semaphore, and then the
semaphore is no longer free; it moves past the wait only with the done bits. -/
theorem monitorTask_owner {i : ℕ} {ok : Bool} (h : monitorTask cfg s i ok = some s')
    (hdone : (s.monitor i).DoneFacts s) :
    ∃ pc, s'.monitor = Function.update s.monitor i pc ∧ pc.DoneFacts s ∧
      (s'.ctx.shutdownSem = s.ctx.shutdownSem ∧ (pc.owns = true → (s.monitor i).owns = true) ∨
        s.ctx.shutdownSem = true ∧ s'.ctx.shutdownSem = false) := by
  cases hpc : s.monitor i <;> simp only [monitorTask, hpc] at h
  case takeSem =>
    split at h <;> obtain rfl := Option.some.inj h
    · rename_i hsem
      exact ⟨_, rfl, trivial, .inr ⟨hsem, rfl⟩⟩
    · exact ⟨_, rfl, trivial, .inl ⟨rfl, by simp [MonitorPc.owns]⟩⟩
  case sendShutdown =>
    obtain ⟨ctx, hctx, rfl⟩ := Option.map_eq_some_iff.1 h
    rcases SysCtx.queueSend_cases hctx with rfl | rfl <;>
      exact ⟨_, rfl, trivial, .inl ⟨rfl, fun _ ↦ rfl⟩⟩
  case waitDone =>
    split at h
    · split at h <;> cases h
      rename_i hall
      simp only [EventBits.allDone, Bool.and_eq_true] at hall
      exact ⟨_, rfl, ⟨hall.1.2, hall.1.1.1.1⟩, .inl ⟨rfl, fun _ ↦ rfl⟩⟩
    · obtain rfl := Option.some.inj h
      exact ⟨_, rfl, ⟨id, id⟩, .inl ⟨rfl, fun _ ↦ rfl⟩⟩
  case checkCritical orchestratorDone apDone =>
    rw [hpc] at hdone
    split at h <;> obtain rfl := Option.some.inj h
    · rename_i hboth
      rw [Bool.and_eq_true] at hboth
      exact ⟨_, rfl, ⟨hdone.1 hboth.1, hdone.2 hboth.2⟩, .inl ⟨rfl, fun _ ↦ rfl⟩⟩
    · exact ⟨_, (by rw [← hpc, Function.update_eq_self]), hdone, .inl ⟨rfl, fun _ ↦ rfl⟩⟩
  case teardown k =>
    rw [hpc] at hdone
    obtain rfl := Option.some.inj h
    refine ⟨_, rfl, ?_, .inl ⟨rfl, fun _ ↦ rfl⟩⟩
    cases k <;> exact hdone
  case returned result =>
    rw [hpc] at hdone
    cases result <;> obtain rfl := Option.some.inj h
    · exact ⟨_, rfl, trivial, .inl ⟨rfl, by simp [MonitorPc.owns]⟩⟩
    · exact ⟨_, (by rw [← hpc, Function.update_eq_self]), hdone, .inl ⟨rfl, fun _ ↦ rfl⟩⟩
  case setShutdown =>
    obtain rfl := Option.some.inj h
    exact ⟨_, rfl, trivial, .inl ⟨rfl, fun _ ↦ rfl⟩⟩
  case deleted => cases h
  case triggered | setDone =>
    obtain rfl := Option.some.inj h
    exact ⟨_, rfl, trivial, .inl ⟨rfl, by simp [MonitorPc.owns]⟩⟩
  all_goals
    obtain rfl := Option.some.inj h
    refine ⟨_, rfl, ?_, .inl ⟨rfl, ?_⟩⟩
    · split <;> trivial
    · split <;> simp [MonitorPc.owns]

/-- **The step of a caller of `free_proc`.** -/
theorem oneShutdown_monitor {i : ℕ} {ok : Bool} (h : monitorTask cfg s i ok = some s')
    (hinv : s.OneShutdown) : s'.OneShutdown := by
  have hsame : s.ctx.events.SameServers s'.ctx.events := by
    obtain ⟨_, _, _, _, _, rfl, hbits, -, -⟩ := monitorTask_frame h
    exact hbits.same
  obtain ⟨pc, hmon, hpc, hsem⟩ := monitorTask_owner h (hinv.critical i)
  have hother : ∀ j, j ≠ i → s'.monitor j = s.monitor j := fun j hji ↦ by
    rw [hmon, Function.update_of_ne hji]
  have hself : s'.monitor i = pc := by rw [hmon, Function.update_self]
  have hkeep : ∀ {pc : MonitorPc}, pc.DoneFacts s → pc.DoneFacts s' := fun hp ↦
    hp.mono hsame.orchestratorDone.trans hsame.apDone.trans
  -- an owner after the step was one before, or the semaphore was free and nobody was
  have hown : ∀ j, (s'.monitor j).owns = true →
      (s.monitor j).owns = true ∨ j = i ∧ s.ctx.shutdownSem = true := fun j hj ↦ by
    by_cases hji : j = i
    · rw [hji, hself] at hj
      rcases hsem with ⟨-, hkeepOwn⟩ | ⟨hfree, -⟩
      · exact .inl (hji ▸ hkeepOwn hj)
      · exact .inr ⟨hji, hfree⟩
    · rw [hother j hji] at hj
      exact .inl hj
  have hfree : ∀ j, (s.monitor j).owns = true → s.ctx.shutdownSem = true → False :=
    fun j hj hf ↦ absurd ((hinv.taken j hj).symm.trans hf) (by decide)
  refine ⟨fun j k hj hk ↦ ?_, fun j hj ↦ ?_, fun j ↦ ?_⟩
  · rcases hown j hj with hj | ⟨rfl, hfj⟩ <;> rcases hown k hk with hk | ⟨rfl, hfk⟩
    · exact hinv.one j k hj hk
    · exact (hfree j hj hfk).elim
    · exact (hfree k hk hfj).elim
    · rfl
  · rcases hsem with ⟨hsem, hkeepOwn⟩ | ⟨-, htaken⟩
    · rw [hsem]
      by_cases hji : j = i
      · exact hinv.taken i (hkeepOwn (hself ▸ hji ▸ hj))
      · exact hinv.taken j (hother j hji ▸ hj)
    · exact htaken
  · by_cases hji : j = i
    · rw [hji, hself]
      exact hkeep hpc
    · rw [hother j hji]
      exact hkeep (hinv.critical j)

/-! ### The run -/

theorem OrchPc.ServerFacts.of_sameInside {pc : OrchPc} (h : pc.ServerFacts s)
    (hsame : s.SameInside s') : pc.ServerFacts s' := by
  have hdown : s.Down → s'.Down := fun ⟨h1, h2, h3, h4⟩ ↦
    ⟨hsame.dnsTask.trans h1, hsame.dnsRunning.trans h2, hsame.webServer.trans h3,
      hsame.serversRunning.trans h4⟩
  cases pc with
  | receive | timeoutTest | startTest | stopTest | dnsErrorTest | shutdownTest | loopTest
  | exitTest => exact fun hclear ↦ hdown (h (hsame.serversRunning.symm.trans hclear))
  | startDns caller k => exact hsame.serversRunning.trans h
  | stopList => exact hsame.serversRunning.trans h
  | stopDns caller k =>
    exact ⟨hsame.serversRunning.trans h.1, fun hk ↦ hsame.dnsRunning.trans (h.2 hk)⟩
  | stopWeb caller k =>
    cases k with
    | take =>
      exact ⟨hsame.dnsTask.trans h.1, hsame.dnsRunning.trans h.2.1,
        hsame.serversRunning.trans h.2.2⟩
    | httpdStop server => exact hdown h
  | startWeb k => trivial
  | startSet | stopClear | shutdownClear | exitClear => trivial
  | _ => exact hdown h

theorem Sys.ServersOrdered.of_sameInside (hinv : s.ServersOrdered) (hsame : s.SameInside s') :
    s'.ServersOrdered where
  facts := by
    rw [hsame.orch]
    exact hinv.facts.of_sameInside hsame
  dnsBit hnone hrun := by
    rw [hsame.orch]
    exact hinv.dnsBit (hsame.dnsTask.symm.trans hnone) (hsame.dnsRunning.symm.trans hrun)
  done hset := by
    rw [hsame.orch]
    exact hinv.done (hsame.orchestratorDone.symm.trans hset)

theorem serversOrdered_step {a : TaskAction} (h : a.run cfg s = some s')
    (hinv : s.ServersOrdered) : s'.ServersOrdered := by
  by_cases ha : ∃ ok, a = .orchestrator ok
  · obtain ⟨ok, rfl⟩ := ha
    exact serversOrdered_orchestrator h hinv
  obtain ⟨hsame, -⟩ := sameInside_of_step h fun ok hok ↦ ha ⟨ok, hok⟩
  exact hinv.of_sameInside hsame

/-- The done bits of the two critical tasks are never cleared. -/
theorem doneBits_of_step {a : TaskAction} (h : a.run cfg s = some s') (hinv : s.ServersOrdered) :
    (s.ctx.events.orchestratorDone = true → s'.ctx.events.orchestratorDone = true) ∧
      (s.ctx.events.apDone = true → s'.ctx.events.apDone = true) := by
  by_cases ha : ∃ ok, a = .orchestrator ok
  · obtain ⟨ok, rfl⟩ := ha
    refine ⟨fun hset ↦ ?_, (serverOrchestratorTask_outside h).apDone.trans⟩
    -- a deleted orchestrator does not move
    simp only [TaskAction.run, serverOrchestratorTask, hinv.done hset] at h
    cases h
  · obtain ⟨hsame, hap⟩ := sameInside_of_step h fun ok hok ↦ ha ⟨ok, hok⟩
    exact ⟨hsame.orchestratorDone.trans, hap⟩

theorem oneShutdown_step {a : TaskAction} (h : a.run cfg s = some s') (hord : s.ServersOrdered)
    (hinv : s.OneShutdown) : s'.OneShutdown := by
  by_cases ha : ∃ i ok, a = .monitor i ok
  · obtain ⟨i, ok, rfl⟩ := ha
    exact oneShutdown_monitor h hinv
  obtain ⟨hmon, hsem⟩ := monitor_of_step h fun i ok hi ↦ ha ⟨i, ok, hi⟩
  obtain ⟨horch, hap⟩ := doneBits_of_step h hord
  refine ⟨?_, ?_, fun i ↦ ?_⟩
  · rw [hmon]
    exact hinv.one
  · rw [hmon, hsem]
    exact hinv.taken
  · rw [hmon]
    exact (hinv.critical i).mono horch hap

/-- Both sides of the invariant hold in every reachable state. -/
theorem shutdown_invariant (h : (taskSystem cfg).Reachable s) : s.ServersOrdered ∧ s.OneShutdown := by
  refine StepSystem.ReachableBy.invariant (I := fun s ↦ s.ServersOrdered ∧ s.OneShutdown) ?_ ?_ h
  · have hentry : ∀ i, ((Sys.start cfg).monitor i).owns = false ∧
        ((Sys.start cfg).monitor i).DoneFacts (Sys.start cfg) := fun i ↦ by
      show (cfg.monitorKind i).entry.owns = false ∧ (cfg.monitorKind i).entry.DoneFacts _
      cases cfg.monitorKind i <;> exact ⟨rfl, trivial⟩
    refine ⟨⟨fun _ ↦ ⟨rfl, rfl, rfl, rfl⟩, nofun, nofun⟩, ⟨fun i j hi ↦ ?_, fun i hi ↦ ?_,
      fun i ↦ (hentry i).2⟩⟩
    · exact absurd ((hentry i).1.symm.trans hi) (by decide)
    · exact absurd ((hentry i).1.symm.trans hi) (by decide)
  · intro s a s' _ hinv _ hst
    have hrun := taskSystem_step hst
    exact ⟨serversOrdered_step hrun hinv.1, oneShutdown_step hrun hinv.1 hinv.2⟩

/-- Once it has reported, the orchestrator is deleted and nothing runs. -/
theorem down_of_orchestratorDone (h : (taskSystem cfg).Reachable s)
    (hdone : s.ctx.events.orchestratorDone = true) : s.orch = .deleted ∧ s.Down := by
  have hord := (shutdown_invariant h).1
  have hpc := hord.done hdone
  have hfacts := hord.facts
  rw [hpc] at hfacts
  exact ⟨hpc, hfacts⟩

/-- After the orchestrator has reported, no step creates a server. -/
theorem nothing_created_of_orchestratorDone {t : Sys} (h : (taskSystem cfg).Reachable s)
    (hdone : s.ctx.events.orchestratorDone = true) (hst : (taskSystem cfg).LeadsTo s t) :
    t.dnsCreated = s.dnsCreated ∧ t.serversCreated = s.serversCreated := by
  suffices ht : t.ctx.events.orchestratorDone = true ∧ t.dnsCreated = s.dnsCreated ∧
      t.serversCreated = s.serversCreated from ht.2
  refine StepSystem.Reachable.invariant_from (I := fun t ↦ t.ctx.events.orchestratorDone = true ∧
    t.dnsCreated = s.dnsCreated ∧ t.serversCreated = s.serversCreated) h ⟨hdone, rfl, rfl⟩ hst ?_
  rintro u a u' hu ⟨hset, hdns, hweb⟩ hstep
  have hrun := taskSystem_step hstep
  have ha : ∀ ok, a ≠ .orchestrator ok := by
    rintro ok rfl
    simp only [TaskAction.run, serverOrchestratorTask, (down_of_orchestratorDone hu hset).1] at hrun
    cases hrun
  obtain ⟨hsame, -⟩ := sameInside_of_step hrun ha
  exact ⟨hsame.orchestratorDone.trans hset, hsame.dnsCreated.trans hdns,
    hsame.serversCreated.trans hweb⟩

/-- The task whose `free_proc` has returned `true` never leaves this place. -/
theorem returned_true_stays {t : Sys} {i : ℕ} (h : (taskSystem cfg).Reachable s)
    (hi : s.monitor i = .returned true) (hst : (taskSystem cfg).LeadsTo s t) :
    t.monitor i = .returned true := by
  refine StepSystem.Reachable.invariant_from (I := fun t ↦ t.monitor i = .returned true) h hi hst ?_
  intro u a u' hu hpc hstep
  have hrun := taskSystem_step hstep
  by_cases ha : ∃ j ok, a = .monitor j ok
  · obtain ⟨j, ok, rfl⟩ := ha
    by_cases hji : j = i
    · subst hji
      simp only [TaskAction.run, monitorTask, hpc] at hrun
      obtain rfl := Option.some.inj hrun
      exact hpc
    · obtain ⟨pc, hmon, -⟩ := monitorTask_owner hrun ((shutdown_invariant hu).2.critical j)
      rw [hmon, Function.update_of_ne (Ne.symm hji)]
      exact hpc
  · rw [(monitor_of_step hrun fun j ok hj ↦ ha ⟨j, ok, hj⟩).1]
    exact hpc

/-- **Shutdown is exclusive and ordered.** Once a call of `free_proc` has returned `true`, no other
one ever does; the teardown runs only after the two critical tasks have reported and with nothing
running; and after the orchestrator has reported no server is ever created again. -/
theorem shutdown_exclusive_and_ordered (h : (taskSystem cfg).Reachable s) :
    (∀ i, s.monitor i = .returned true → ∀ t, (taskSystem cfg).LeadsTo s t →
      ∀ j, t.monitor j = .returned true ↔ j = i) ∧
    (∀ i k, s.monitor i = .teardown k →
      s.ctx.events.orchestratorDone = true ∧ s.ctx.events.apDone = true ∧
        s.ctx.webServer = none ∧ s.ctx.dnsTask = none ∧ s.ctx.events.serversRunning = false) ∧
    (s.ctx.events.orchestratorDone = true → ∀ t, (taskSystem cfg).LeadsTo s t →
      t.dnsCreated = s.dnsCreated ∧ t.serversCreated = s.serversCreated) := by
  refine ⟨fun i hi t hst j ↦ ⟨fun hj ↦ ?_, ?_⟩, fun i k hi ↦ ?_, fun hdone t hst ↦
    nothing_created_of_orchestratorDone h hdone hst⟩
  · have hone := (shutdown_invariant (h.leadsTo hst)).2.one j i
    rw [hj, returned_true_stays h hi hst] at hone
    exact hone rfl rfl
  · rintro rfl
    exact returned_true_stays h hi hst
  · have hcritical := (shutdown_invariant h).2.critical i
    rw [hi] at hcritical
    obtain ⟨horch, hap⟩ := hcritical
    obtain ⟨-, hdown⟩ := down_of_orchestratorDone h horch
    exact ⟨horch, hap, hdown.2.2.1, hdown.1, hdown.2.2.2⟩

/-- The battery is low: the monitor shuts down, every task reports, and the teardown begins. -/
theorem shutdown_exclusive_and_ordered_battery : ∃ s, (taskSystem defaultConfig).Reachable s ∧
    s.monitor 0 = .teardown .wifiDeauth ∧ s.ctx.webServer = none ∧ s.ctx.dnsTask = none := by
  have hrun : ((taskSystem defaultConfig).exec (fun _ _ ↦ True) (taskSystem defaultConfig).start
      ([.monitor 0 true, .monitor 0 true, .monitor 0 true, .monitor 0 true, .monitor 0 true,
        .smartAp true, .smartAp true, .beep, .beep, .monitor 1 true, .monitor 1 true] ++
        List.replicate 4 (.orchestrator true) ++ [.monitor 0 true])).any
      (fun s ↦ s.monitor 0 = .teardown .wifiDeauth) = true := by decide +kernel
  obtain ⟨s, hs, hp⟩ := StepSystem.exists_reachableBy_of_exec hrun
  have hpc := of_decide_eq_true hp
  obtain ⟨-, -, hweb, hdns, -⟩ := (shutdown_exclusive_and_ordered hs).2.1 0 _ hpc
  exact ⟨s, hs, hpc, hweb, hdns⟩
