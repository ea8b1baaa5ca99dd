import SmartAp.Tasks.ClientsServed
import SmartAp.Tasks.ShutdownOrder

/-!
# Servers do not outlive the last client

The counterpart of `SmartAp.Tasks.ClientsServed`: once everything has settled and no station is
left, nothing runs. It holds in every run in which queue sends and reads of the station list do not
fail and no shutdown begins; `httpd_start` and `httpd_stop` may fail.

The invariant is `DownOrPending`: without a station, either the running bit is clear and the
orchestrator is not about to set it (`OrchPc.committed`), or a `STOP` is on its way (`StopPending`).
Two reads of the station list carry it. `START` reads the list right before it commits itself, so a
commitment without a station means that the station left after the read, and its event is still in
flight. `STOP` is dropped, by the handler or by the orchestrator, only when a list that is not empty
was read, and then the last station is still to leave. A `STOP` that overtakes a `START` finds the
bit clear, and the `START` behind it then finds the list empty.

A restart of the DNS server neither sets the running bit nor commits the orchestrator to it.
-/

/-- `START` has read a station list that was not empty; the running bit will be set. -/
def OrchPc.committed : OrchPc → Bool
  | .startDns .startCmd _ | .startWeb _ | .startSet => true
  | _ => false

/-- Places between the receipt of a `STOP` and the clear of the running bit. -/
def OrchPc.stopping : OrchPc → Bool
  | .stopTest | .stopList | .stopClear => true
  | _ => false

/-- The handler works on a disconnect event and has not yet found a station left. -/
def HandlerPc.disconnecting : HandlerPc → Bool
  | .entry .staDisconnected | .discList | .discShutdownTest | .discSend => true
  | _ => false

/-- `xQueueSend` and `esp_wifi_ap_get_sta_list` do not fail at this step. -/
def SendsAndListsSucceed (s : Sys) : TaskAction → Bool
  | .handler ok =>
    ok || !(s.handler = .connList || s.handler = .connSend || s.handler = .discList ||
      s.handler = .discSend)
  | .orchestrator ok => ok || !(s.orch = .startList || s.orch = .stopList)
  | .dns i ok => ok || !(s.dns i = .sendError)
  | .monitor i ok => ok || !(s.monitor i = .sendShutdown)
  | _ => true

/-- The runs in question: no send and no list read fails, and no shutdown has begun. -/
def LastClientRun (s : Sys) (a : TaskAction) : Prop :=
  SendsAndListsSucceed s a = true ∧ s.ctx.events.shutdown = false

instance (s : Sys) (a : TaskAction) : Decidable (LastClientRun s a) := by
  unfold LastClientRun; infer_instance

/-! ### The invariant -/

/-- A `STOP` is on its way. -/
def Sys.StopPending (s : Sys) : Prop :=
  .staDisconnected ∈ s.wifiEvents ∨ s.handler.disconnecting = true ∨
    .stop ∈ s.ctx.serverCmdQueue ∨ s.orch.stopping = true

/-- Without a station, the servers are down to stay or a `STOP` is on its way. -/
def Sys.DownOrPending (s : Sys) : Prop :=
  s.staCount = 0 →
    (s.ctx.events.serversRunning = false ∧ s.orch.committed = false) ∨ s.StopPending

variable {cfg : TaskConfig} {s s' : Sys}

/-! ### The orchestrator -/

/-- A `STOP` stays on its way when the orchestrator takes it out of the queue or has it in hand. -/
theorem Sys.StopPending.of_orchestrator (hpending : s.StopPending) (hout : s.SameOutside s')
    (hqueue : .stop ∈ s.ctx.serverCmdQueue →
      .stop ∈ s'.ctx.serverCmdQueue ∨ s'.orch.stopping = true)
    (hstop : s.orch.stopping = true → s'.orch.stopping = true) : s'.StopPending := by
  rw [Sys.StopPending, hout.wifiEvents, hout.handler]
  rcases hpending with hev | hh | hmem | hhand
  · exact .inl hev
  · exact .inr (.inl hh)
  · exact .inr (.inr (hqueue hmem))
  · exact .inr (.inr (.inr (hstop hhand)))

/-- A move of the orchestrator that leaves the queue alone, does not set the running bit, does not
commit itself and keeps a `STOP` it has in hand. -/
theorem Sys.DownOrPending.of_move (hinv : s.DownOrPending) (hout : s.SameOutside s')
    (hqueue : s'.ctx.serverCmdQueue = s.ctx.serverCmdQueue)
    (hrunning : s.ctx.events.serversRunning = false → s'.ctx.events.serversRunning = false)
    (hcommitted : s.orch.committed = false → s'.orch.committed = false)
    (hstop : s.orch.stopping = true → s'.orch.stopping = true) : s'.DownOrPending := by
  intro hcount
  rw [hout.staCount] at hcount
  rcases hinv hcount with ⟨hclear, hfree⟩ | hpending
  · exact .inl ⟨hrunning hclear, hcommitted hfree⟩
  · exact .inr (hpending.of_orchestrator hout (fun hmem ↦ .inl (hqueue ▸ hmem)) hstop)

/-- The orchestrator takes a command off the queue. -/
theorem downOrPending_receive {cmd : ServerCmd} {rest : List ServerCmd} (hpc : s.orch = .receive)
    (hq : s.ctx.serverCmdQueue = cmd :: rest)
    (hs' : s' = { s with ctx.serverCmdQueue := rest, orch := cmd.dispatch })
    (hout : s.SameOutside s') (hinv : s.DownOrPending) : s'.DownOrPending := by
  subst hs'
  intro hcount
  rcases hinv hcount with ⟨hclear, -⟩ | hpending
  · exact .inl ⟨hclear, by cases cmd <;> rfl⟩
  · -- a `STOP` at the head of the queue is in hand now
    refine .inr (hpending.of_orchestrator hout (fun hmem ↦ ?_) (by simp [hpc, OrchPc.stopping]))
    rw [hq, List.mem_cons] at hmem
    rcases hmem with rfl | hrest
    · exact .inr rfl
    · exact .inl hrest

/-- **The orchestrator's step.** It commits itself to a start, and drops a `STOP`, only on a station
list that is not empty. -/
theorem downOrPending_orchestrator {ok : Bool} (h : serverOrchestratorTask s ok = some s')
    (hguard : LastClientRun s (.orchestrator ok)) (hinv : s.DownOrPending) :
    s'.DownOrPending := by
  have hout := serverOrchestratorTask_outside h
  have hok := hguard.1
  cases hpc : s.orch <;> simp only [serverOrchestratorTask, hpc] at h
  case receive =>
    cases hq : s.ctx.serverCmdQueue with
    | nil =>
      rw [hq] at h
      cases ok <;> cases h
      exact hinv.of_move hout rfl id (fun _ ↦ rfl) (by simp [hpc, OrchPc.stopping])
    | cons cmd rest =>
      rw [hq] at h
      cases ok <;> cases h
      exact downOrPending_receive hpc hq rfl hout hinv
  case startList =>
    obtain rfl := Option.some.inj h
    obtain rfl : ok = true := by simpa [SendsAndListsSucceed, hpc] using hok
    intro hcount
    have hzero : s.staCount = 0 := hcount
    rcases hinv hzero with ⟨hclear, -⟩ | hpending
    · exact .inl ⟨hclear, by simp [hzero, OrchPc.committed]⟩
    · exact .inr (hpending.of_orchestrator hout .inl (by simp [hpc, OrchPc.stopping]))
  case startSet =>
    -- the bit goes up: only a pending `STOP` can keep the invariant
    obtain rfl := Option.some.inj h
    intro hcount
    rcases hinv hcount with ⟨-, hfree⟩ | hpending
    · rw [hpc] at hfree
      cases hfree
    · exact .inr (hpending.of_orchestrator hout .inl (by simp [hpc, OrchPc.stopping]))
  case stopTest =>
    obtain rfl := Option.some.inj h
    intro _
    by_cases hrun : s.ctx.events.serversRunning = true
    · exact .inr (.inr (.inr (.inr (by simp [hrun, OrchPc.stopping]))))
    · exact .inl ⟨Bool.eq_false_iff.2 hrun, by simp [hrun, OrchPc.committed]⟩
  case stopList =>
    obtain rfl := Option.some.inj h
    obtain rfl : ok = true := by simpa [SendsAndListsSucceed, hpc] using hok
    intro hcount
    have hzero : s.staCount = 0 := hcount
    exact .inr (.inr (.inr (.inr (by simp [hzero, OrchPc.stopping]))))
  case stopClear =>
    obtain rfl := Option.some.inj h
    exact fun _ ↦ .inl ⟨rfl, rfl⟩
  case startDns caller k =>
    obtain ⟨_, _, _, _, _, _, _, _, rfl, hcase⟩ := startDnsServer_frame h
    rw [hpc] at hcase
    refine hinv.of_move hout rfl id ?_ (by simp [hpc, OrchPc.stopping])
    rcases hcase with rfl | ⟨k', rfl⟩ | rfl <;> cases caller <;>
      simp [hpc, OrchPc.committed, StartCaller.afterDns]
  case startWeb k =>
    obtain ⟨_, _, _, _, rfl, -⟩ := startWebserver_frame h
    exact hinv.of_move hout rfl id (by simp [hpc, OrchPc.committed])
      (by simp [hpc, OrchPc.stopping])
  case stopDns caller k =>
    obtain ⟨_, _, _, _, _, _, _, rfl, hcase⟩ := stopDnsServer_frame h
    rw [hpc] at hcase
    refine hinv.of_move hout rfl id (fun _ ↦ ?_) (by simp [hpc, OrchPc.stopping])
    rcases hcase with rfl | ⟨k', rfl⟩ | rfl <;> cases caller <;> rfl
  case stopWeb caller k =>
    obtain ⟨_, _, _, rfl, hcase⟩ := stopWebserver_frame h
    refine hinv.of_move hout rfl id (fun _ ↦ ?_) (by simp [hpc, OrchPc.stopping])
    rcases hcase with ⟨k', rfl⟩ | rfl <;> cases caller <;> rfl
  case shutdownClear | exitClear =>
    obtain rfl := Option.some.inj h
    exact fun _ ↦ .inl ⟨rfl, rfl⟩
  case deleted => cases h
  all_goals
    -- neither a start nor a `STOP` is in hand, before or after
    obtain rfl := Option.some.inj h
    refine hinv.of_move hout rfl id (fun _ ↦ ?_) (by simp [hpc, OrchPc.stopping])
    try split
    all_goals rfl

/-! ### Stations and the event handler -/

/-- A move of the handler or of a station that leaves the orchestrator alone. -/
theorem Sys.DownOrPending.of_pending (hinv : s.DownOrPending) (horch : s'.orch = s.orch)
    (hrunning : s'.ctx.events.serversRunning = s.ctx.events.serversRunning)
    (hcount : s'.staCount = 0 → s.staCount = 0 ∨ s'.StopPending)
    (hpending : s'.staCount = 0 → s.StopPending → s'.StopPending) : s'.DownOrPending := by
  intro hzero
  rw [hrunning, horch]
  rcases hcount hzero with hzero' | hp
  · exact (hinv hzero').imp_right (hpending hzero)
  · exact .inr hp

theorem downOrPending_disconnects (h : stationDisconnects s = some s') : s'.DownOrPending := by
  rw [stationDisconnects] at h
  split at h
  · cases h
  · obtain rfl := Option.some.inj h
    exact fun _ ↦ .inr (.inl (by simp))

/-- **The handler's step.** A disconnect event becomes a `STOP` in the queue unless a station is
left. -/
theorem downOrPending_handler {ok : Bool} (h : wifiEventHandler cfg s ok = some s')
    (hguard : LastClientRun s (.handler ok)) (hinv : s.DownOrPending) : s'.DownOrPending := by
  obtain ⟨hok, hshutdown⟩ := hguard
  cases hpc : s.handler <;> simp only [wifiEventHandler, hpc] at h
  case idle =>
    cases hev : s.wifiEvents with
    | nil => rw [hev] at h; cases h
    | cons ev rest =>
      rw [hev] at h
      obtain rfl := Option.some.inj h
      refine hinv.of_pending rfl rfl .inl fun _ hp ↦ ?_
      rcases hp with hmem | hdisc | hrest
      · rw [hev, List.mem_cons] at hmem
        rcases hmem with rfl | hmem
        · exact .inr (.inl rfl)
        · exact .inl hmem
      · rw [hpc] at hdisc
        cases hdisc
      · exact .inr (.inr hrest)
  case discList =>
    obtain rfl := Option.some.inj h
    obtain rfl : ok = true := by simpa [SendsAndListsSucceed, hpc] using hok
    refine hinv.of_pending rfl rfl .inl fun hzero _ ↦ .inr (.inl ?_)
    have hzero' : s.staCount = 0 := hzero
    simp [hzero', HandlerPc.disconnecting]
  case discSend =>
    obtain ⟨ctx, hctx, rfl⟩ := Option.map_eq_some_iff.1 h
    obtain rfl : ok = true := by simpa [SendsAndListsSucceed, hpc] using hok
    obtain rfl := SysCtx.queueSend_true hctx
    refine hinv.of_pending rfl rfl .inl fun _ _ ↦ .inr (.inr (.inl ?_))
    simp
  case connSend =>
    obtain ⟨ctx, hctx, rfl⟩ := Option.map_eq_some_iff.1 h
    obtain rfl : ok = true := by simpa [SendsAndListsSucceed, hpc] using hok
    obtain rfl := SysCtx.queueSend_true hctx
    refine hinv.of_pending rfl rfl .inl fun _ hp ↦ ?_
    rcases hp with hmem | hdisc | hstop | horch
    · exact .inl hmem
    · rw [hpc] at hdisc
      cases hdisc
    · exact .inr (.inr (.inl (List.mem_append_left _ hstop)))
    · exact .inr (.inr (.inr horch))
  case entry ev =>
    obtain rfl := Option.some.inj h
    refine hinv.of_pending rfl rfl .inl fun _ hp ↦ ?_
    rcases hp with hmem | hdisc | hrest
    · exact .inl hmem
    · rw [hpc] at hdisc
      cases ev with
      | staConnected => cases hdisc
      | staDisconnected =>
        exact .inr (.inl (by simp [hshutdown, WifiEvent.branch, HandlerPc.disconnecting]))
    · exact .inr (.inr hrest)
  all_goals
    -- the event stays in the handler's hands, or there was none to lose
    obtain rfl := Option.some.inj h
    refine hinv.of_pending rfl rfl .inl fun _ hp ↦ ?_
    rcases hp with hmem | hdisc | hrest
    · exact .inl hmem
    · rw [hpc] at hdisc
      exact .inr (.inl (by simp_all [HandlerPc.disconnecting]))
    · exact .inr (.inr hrest)

/-! ### The run -/

/-- **The step of the system.** -/
theorem downOrPending_step {a : TaskAction} (h : a.run cfg s = some s')
    (hguard : LastClientRun s a) (hinv : s.DownOrPending) : s'.DownOrPending := by
  cases a with
  | connect =>
    obtain rfl := Option.some.inj h
    exact fun hzero ↦ absurd hzero (Nat.succ_ne_zero _)
  | disconnect => exact downOrPending_disconnects h
  | handler ok => exact downOrPending_handler h hguard hinv
  | orchestrator ok => exact downOrPending_orchestrator h hguard hinv
  | dns i ok =>
    obtain ⟨_, _, _, _, _, rfl, rfl | rfl⟩ := dnsServerTask_frame h
    · exact hinv
    · refine hinv.of_pending rfl rfl .inl fun _ hp ↦ ?_
      exact hp.imp_right fun h ↦ h.imp_right fun h ↦ h.imp_left (List.mem_append_left _)
  | monitor i ok =>
    obtain ⟨_, _, _, _, _, rfl, hbits, rfl | ⟨-, rfl⟩, -⟩ := monitorTask_frame h
    · exact hinv.of_pending rfl hbits.same.serversRunning .inl fun _ ↦ id
    · refine hinv.of_pending rfl hbits.same.serversRunning .inl fun _ hp ↦ ?_
      exact hp.imp_right fun h ↦ h.imp_right fun h ↦ h.imp_left (List.mem_append_left _)
  | smartAp ok =>
    obtain ⟨_, _, rfl, -⟩ := smartApTask_frame h
    exact hinv
  | beep =>
    obtain ⟨_, _, rfl⟩ := beepTask_frame h
    exact hinv

theorem downOrPending_of_reachableBy (h : (taskSystem cfg).ReachableBy LastClientRun s) :
    s.DownOrPending := by
  refine h.invariant (I := Sys.DownOrPending) (fun _ ↦ .inl ⟨rfl, rfl⟩) ?_
  intro s a s' _ hinv hguard hst
  exact downOrPending_step (taskSystem_step hst) hguard hinv

/-- **Servers do not outlive the last client**: once nothing is in flight and no station is there,
the running bits are clear and both handles are `NULL`. -/
theorem servers_down_without_clients (h : (taskSystem cfg).ReachableBy LastClientRun s)
    (hquiet : s.Quiescent) (hcount : s.staCount = 0) :
    s.ctx.events.serversRunning = false ∧ s.ctx.events.dnsRunning = false ∧
      s.ctx.dnsTask = none ∧ s.ctx.webServer = none := by
  obtain ⟨hevents, hhandler, hqueue, horch⟩ := hquiet
  have hclear : s.ctx.events.serversRunning = false := by
    rcases downOrPending_of_reachableBy h hcount with ⟨hclear, -⟩ | hev | hh | hstop | hst
    · exact hclear
    · rw [hevents] at hev
      cases hev
    · rw [hhandler] at hh
      cases hh
    · rw [hqueue] at hstop
      cases hstop
    · rw [horch] at hst
      cases hst
  have hfacts := (shutdown_invariant h.reachable).1.facts
  rw [horch] at hfacts
  obtain ⟨htask, hdns, hweb, -⟩ := hfacts hclear
  exact ⟨hclear, hdns, htask, hweb⟩

/-- A station comes, the DNS task fails and is restarted, the station leaves, and everything is
down. -/
theorem servers_down_without_clients_after_restart : ∃ s,
    (taskSystem defaultConfig).ReachableBy LastClientRun s ∧ s.dnsCreated = 2 ∧
      s.serversCreated = 1 ∧ s.ctx.dnsTask = none ∧ s.ctx.webServer = none := by
  have hrun : ((taskSystem defaultConfig).exec LastClientRun (taskSystem defaultConfig).start
      (firstClient ++ [.dns 0 true, .dns 0 false, .dns 0 true, .dns 0 true, .dns 0 true] ++
        List.replicate 14 (.orchestrator true) ++ [.disconnect] ++
        List.replicate 5 (.handler true) ++ List.replicate 7 (.orchestrator true) ++
        [.dns 1 true, .dns 1 true] ++ List.replicate 7 (.orchestrator true))).any
      (fun s ↦ s.Quiescent ∧ s.staCount = 0 ∧ s.dnsCreated = 2 ∧ s.serversCreated = 1) = true := by
    decide +kernel
  obtain ⟨s, hs, hp⟩ := StepSystem.exists_reachableBy_of_exec hrun
  obtain ⟨hquiet, hcount, hdns, hservers⟩ := of_decide_eq_true hp
  obtain ⟨-, -, htask, hweb⟩ := servers_down_without_clients hs hquiet hcount
  exact ⟨s, hs, hdns, hservers, htask, hweb⟩
