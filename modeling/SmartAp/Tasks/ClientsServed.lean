import SmartAp.Tasks.System

/-!
# No client is left without servers

A station that joins must find the DNS and HTTP servers up once everything has settled. Two tasks
decide this between them: `wifi_event_handler` sends `START` when it finds
`EVT_SERVERS_RUNNING_BIT` clear, and the orchestrator, on `STOP`, reads the station list once more
before it clears the bit.

## The lost client

The two reads do not exclude each other. Between the orchestrator's read of an *empty* station list
and its clear of the bit (`OrchPc.stopClear`) a station may join and its event may be handled: the
handler still sees the bit set, sends nothing, and the orchestrator then takes the servers down.
`client_lost` is that run.

## What holds

`clients_served` excludes exactly that step: in every run in which no connect event tests the
running bit while the orchestrator stands at `stopClear` (with a station there and no other `START`
on its way), a quiescent state with a station has its servers. The invariant is `ServedOrPending`:
while there is a station, either the bit is set and is not about to be cleared, or a `START` is on
its way (`StartPending`): as an event not yet tested, in the handler, in the queue, or in the
orchestrator's hands.
-/

/-- Places between the receipt of a `START` and the set of the running bit. -/
def OrchPc.starting : OrchPc → Bool
  | .startTest | .startList | .startDns .startCmd _ | .startWeb _ | .startSet => true
  | _ => false

/-- Places on the way out: the `SHUTDOWN` branch and `orch_exit`. -/
def OrchPc.leaving : OrchPc → Bool
  | .shutdownTest | .shutdownClear | .shutdownSetStopped | .shutdownSetDone
  | .stopDns .shutdownCmd _ | .stopWeb .shutdownCmd _
  | .exitTest | .exitClear | .exitSetStopped | .exitSetDone
  | .stopDns .orchExit _ | .stopWeb .orchExit _ | .deleted => true
  | _ => false

/-- The handler works on a connect event and has not yet found the servers running. -/
def HandlerPc.connecting : HandlerPc → Bool
  | .entry .staConnected | .connList | .connTest | .connShutdownTest | .connSend => true
  | _ => false

/-- Nothing is in flight: no event, no command, the orchestrator waits in `xQueueReceive`. -/
def Sys.Quiescent (s : Sys) : Prop :=
  s.wifiEvents = [] ∧ s.handler = .idle ∧ s.ctx.serverCmdQueue = [] ∧ s.orch = .receive

instance (s : Sys) : Decidable s.Quiescent := by unfold Sys.Quiescent; infer_instance

/-- `xQueueSend`, `esp_wifi_ap_get_sta_list` and `httpd_start` do not fail at this step. -/
def NeverFails (s : Sys) : TaskAction → Bool
  | .handler ok =>
    ok || !(s.handler = .connList || s.handler = .connSend || s.handler = .discList ||
      s.handler = .discSend)
  | .orchestrator ok =>
    ok || !(s.orch = .startList || s.orch = .stopList || s.orch = .startWeb .httpdStart)
  | .dns i ok => ok || !(s.dns i = .sendError)
  | .monitor i ok => ok || !(s.monitor i = .sendShutdown)
  | _ => true

/-- A connect event tests the running bit between the orchestrator's read of an empty station list
and its clear of the bit, a station is there, and no other `START` is on its way. -/
def TestsInStopWindow (s : Sys) : TaskAction → Bool
  | .handler _ =>
    s.handler = .connTest && s.orch = .stopClear && 0 < s.staCount &&
      .staConnected ∉ s.wifiEvents && .start ∉ s.ctx.serverCmdQueue
  | _ => false

/-- The runs in question: nothing fails and no shutdown has begun. -/
def ClientRun (s : Sys) (a : TaskAction) : Prop :=
  NeverFails s a = true ∧ s.ctx.events.shutdown = false

instance (s : Sys) (a : TaskAction) : Decidable (ClientRun s a) := by
  unfold ClientRun; infer_instance

/-- And no connect event is tested in the window. -/
def ClientRunOutsideWindow (s : Sys) (a : TaskAction) : Prop :=
  ClientRun s a ∧ TestsInStopWindow s a = false

instance (s : Sys) (a : TaskAction) : Decidable (ClientRunOutsideWindow s a) := by
  unfold ClientRunOutsideWindow; infer_instance

/-! ### The invariant -/

/-- A `START` is on its way. -/
def Sys.StartPending (s : Sys) : Prop :=
  .staConnected ∈ s.wifiEvents ∨ s.handler.connecting = true ∨
    .start ∈ s.ctx.serverCmdQueue ∨ s.orch.starting = true

/-- While there is a station, the servers are up to stay or a `START` is on its way. -/
def Sys.ServedOrPending (s : Sys) : Prop :=
  0 < s.staCount →
    (s.ctx.events.serversRunning = true ∧ s.orch ≠ .stopClear) ∨ s.StartPending

/-- No shutdown has begun: the command was not sent and the orchestrator is not on its way out. -/
def Sys.NotLeaving (s : Sys) : Prop :=
  .shutdown ∉ s.ctx.serverCmdQueue ∧ s.orch.leaving = false

variable {cfg : TaskConfig} {s s' : Sys}

/-! ### The orchestrator -/

/-- A `START` stays on its way when the orchestrator takes it out of the queue or has it in hand. -/
theorem Sys.StartPending.of_orchestrator (hpending : s.StartPending) (hout : s.SameOutside s')
    (hqueue : .start ∈ s.ctx.serverCmdQueue →
      .start ∈ s'.ctx.serverCmdQueue ∨ s'.orch.starting = true)
    (hstart : s.orch.starting = true → s'.orch.starting = true) : s'.StartPending := by
  rw [Sys.StartPending, hout.wifiEvents, hout.handler]
  rcases hpending with hev | hh | hmem | hhand
  · exact .inl hev
  · exact .inr (.inl hh)
  · exact .inr (.inr (hqueue hmem))
  · exact .inr (.inr (.inr (hstart hhand)))

/-- A move of the orchestrator that changes neither the queue nor the running bit, keeps a `START`
it has in hand and does not lead to the clear of the bit. -/
theorem Sys.ServedOrPending.of_move (hinv : s.ServedOrPending) (hout : s.SameOutside s')
    (hqueue : s'.ctx.serverCmdQueue = s.ctx.serverCmdQueue)
    (hrunning : s'.ctx.events.serversRunning = s.ctx.events.serversRunning)
    (hstart : s.orch.starting = true → s'.orch.starting = true)
    (hclear : s'.orch ≠ .stopClear) : s'.ServedOrPending := by
  intro hcount
  rw [hout.staCount] at hcount
  rcases hinv hcount with ⟨hrun, -⟩ | hpending
  · exact .inl ⟨hrunning.trans hrun, hclear⟩
  · exact .inr (hpending.of_orchestrator hout (fun hmem ↦ .inl (hqueue ▸ hmem)) hstart)

/-- The orchestrator takes a command off the queue. -/
theorem servedOrPending_receive {cmd : ServerCmd} {rest : List ServerCmd} (hpc : s.orch = .receive)
    (hq : s.ctx.serverCmdQueue = cmd :: rest)
    (hs' : s' = { s with ctx.serverCmdQueue := rest, orch := cmd.dispatch })
    (hout : s.SameOutside s') (hnl : s.NotLeaving) (hinv : s.ServedOrPending) :
    s'.NotLeaving ∧ s'.ServedOrPending := by
  subst hs'
  have hqueue := hnl.1
  rw [hq, List.mem_cons, not_or] at hqueue
  refine ⟨⟨hqueue.2, ?_⟩, fun hcount ↦ ?_⟩
  · cases cmd <;> first | rfl | exact absurd rfl hqueue.1
  · rcases hinv hcount with ⟨hrun, -⟩ | hpending
    · exact .inl ⟨hrun, by cases cmd <;> simp [ServerCmd.dispatch]⟩
    · -- a `START` at the head of the queue is in hand now
      refine .inr (hpending.of_orchestrator hout (fun hmem ↦ ?_) (by simp [hpc, OrchPc.starting]))
      rw [hq, List.mem_cons] at hmem
      rcases hmem with rfl | hrest
      · exact .inr rfl
      · exact .inl hrest

/-- **The orchestrator's step.** It never loses a `START` it has received, and it reaches the clear
of the running bit only on an empty station list. -/
theorem servedOrPending_orchestrator {ok : Bool} (h : serverOrchestratorTask s ok = some s')
    (hguard : ClientRun s (.orchestrator ok)) (hnl : s.NotLeaving) (hinv : s.ServedOrPending) :
    s'.NotLeaving ∧ s'.ServedOrPending := by
  have hout := serverOrchestratorTask_outside h
  obtain ⟨hok, hshutdown⟩ := hguard
  obtain ⟨hqueue, hleaving⟩ := hnl
  cases hpc : s.orch <;> simp only [serverOrchestratorTask, hpc, hshutdown] at h
  case receive =>
    cases hq : s.ctx.serverCmdQueue with
    | nil =>
      rw [hq] at h
      cases ok <;> cases h
      refine ⟨⟨by simpa using hqueue, rfl⟩, hinv.of_move hout rfl rfl ?_ (by simp)⟩
      simp [hpc, OrchPc.starting]
    | cons cmd rest =>
      rw [hq] at h
      cases ok <;> cases h
      exact servedOrPending_receive hpc hq rfl hout ⟨hqueue, hleaving⟩ hinv
  case startTest =>
    obtain rfl := Option.some.inj h
    by_cases hrun : s.ctx.events.serversRunning = true
    · exact ⟨⟨hqueue, by simp [hrun, OrchPc.leaving]⟩, fun _ ↦ .inl ⟨hrun, by simp [hrun]⟩⟩
    · refine ⟨⟨hqueue, by simp [hrun, OrchPc.leaving]⟩, hinv.of_move hout rfl rfl ?_ ?_⟩
      · simp [hrun, OrchPc.starting]
      · simp [hrun]
  case startList =>
    obtain rfl := Option.some.inj h
    by_cases hcount : s.staCount = 0
    · refine ⟨⟨hqueue, ?_⟩, fun hpos ↦ absurd hcount (Nat.pos_iff_ne_zero.1 hpos)⟩
      cases ok <;> simp [hcount, OrchPc.leaving]
    · -- a station is still there: the start goes on
      refine ⟨⟨hqueue, by simp [hcount, OrchPc.leaving]⟩, hinv.of_move hout rfl rfl ?_ ?_⟩
      · simp [hcount, OrchPc.starting]
      · simp [hcount]
  case startDns caller k =>
    obtain ⟨_, _, _, _, _, _, _, _, rfl, hcase⟩ := startDnsServer_frame h
    rw [hpc] at hcase
    refine ⟨⟨hqueue, ?_⟩, hinv.of_move hout rfl rfl ?_ ?_⟩ <;>
      rcases hcase with rfl | ⟨k', rfl⟩ | rfl <;> cases caller <;>
      simp [hpc, OrchPc.leaving, OrchPc.starting, StartCaller.afterDns]
  case startWeb k =>
    obtain ⟨_, _, _, _, rfl, hcase⟩ := startWebserver_frame h
    refine ⟨⟨hqueue, ?_⟩, hinv.of_move hout rfl rfl ?_ ?_⟩ <;>
      rcases hcase with ⟨k', rfl⟩ | rfl <;> simp [OrchPc.leaving, OrchPc.starting]
  case startSet =>
    obtain rfl := Option.some.inj h
    exact ⟨⟨hqueue, rfl⟩, fun _ ↦ .inl ⟨rfl, by simp⟩⟩
  case stopList =>
    obtain rfl := Option.some.inj h
    by_cases hcount : s.staCount = 0
    · refine ⟨⟨hqueue, ?_⟩, fun hpos ↦ absurd hcount (Nat.pos_iff_ne_zero.1 hpos)⟩
      cases ok <;> simp [hcount, OrchPc.leaving]
    · refine ⟨⟨hqueue, by simp [hcount, OrchPc.leaving]⟩, hinv.of_move hout rfl rfl ?_ ?_⟩
      · simp [hpc, OrchPc.starting]
      · simp [hcount]
  case stopClear =>
    -- the bit goes down: only a pending `START` can keep the invariant
    obtain rfl := Option.some.inj h
    refine ⟨⟨hqueue, rfl⟩, fun hcount ↦ ?_⟩
    rcases hinv hcount with ⟨-, hne⟩ | hpending
    · exact absurd hpc hne
    · exact .inr (hpending.of_orchestrator hout .inl (by simp [hpc, OrchPc.starting]))
  case stopDns caller k =>
    obtain ⟨_, _, _, _, _, _, _, rfl, hcase⟩ := stopDnsServer_frame h
    rw [hpc] at hcase
    refine ⟨⟨hqueue, ?_⟩, hinv.of_move hout rfl rfl ?_ ?_⟩ <;>
      rcases hcase with rfl | ⟨k', rfl⟩ | rfl <;> cases caller <;>
      simp_all [OrchPc.leaving, OrchPc.starting, StopCaller.afterDns]
  case stopWeb caller k =>
    obtain ⟨_, _, _, rfl, hcase⟩ := stopWebserver_frame h
    refine ⟨⟨hqueue, ?_⟩, hinv.of_move hout rfl rfl ?_ ?_⟩ <;>
      rcases hcase with ⟨k', rfl⟩ | rfl <;> cases caller <;>
      simp_all [OrchPc.leaving, OrchPc.starting, StopCaller.afterWeb]
  case timeoutTest | loopTest | stopTest | stopSetStopped | dnsErrorTest =>
    obtain rfl := Option.some.inj h
    refine ⟨⟨hqueue, ?_⟩, hinv.of_move hout rfl rfl ?_ ?_⟩ <;> try split
    all_goals simp_all [OrchPc.leaving, OrchPc.starting]
  all_goals exact absurd hleaving (by simp [hpc, OrchPc.leaving])

/-! ### Stations and the event handler -/

/-- A move of the handler or of a station that leaves the orchestrator alone. -/
theorem Sys.ServedOrPending.of_pending (hinv : s.ServedOrPending) (horch : s'.orch = s.orch)
    (hrunning : s'.ctx.events.serversRunning = s.ctx.events.serversRunning)
    (hcount : 0 < s'.staCount → 0 < s.staCount ∨ s'.StartPending)
    (hpending : s.StartPending → s'.StartPending ∨
      (s.ctx.events.serversRunning = true ∧ s.orch ≠ .stopClear)) : s'.ServedOrPending := by
  intro hpos
  rw [hrunning, horch]
  rcases hcount hpos with hpos | hp
  · rcases hinv hpos with hserved | hp
    · exact .inl hserved
    · exact (hpending hp).symm
  · exact .inr hp

theorem servedOrPending_connects (h : stationConnects s = some s') (hinv : s.ServedOrPending) :
    s'.ServedOrPending := by
  obtain rfl := Option.some.inj h
  refine hinv.of_pending rfl rfl (fun _ ↦ .inr (.inl ?_)) fun hp ↦ .inl ?_
  · simp
  · exact hp.imp_left fun hev ↦ List.mem_append_left _ hev

theorem servedOrPending_disconnects (h : stationDisconnects s = some s')
    (hinv : s.ServedOrPending) : s'.ServedOrPending := by
  rw [stationDisconnects] at h
  split at h
  · cases h
  · rename_i hne
    obtain rfl := Option.some.inj h
    refine hinv.of_pending rfl rfl (fun _ ↦ .inl (Nat.pos_of_ne_zero hne)) fun hp ↦ .inl ?_
    exact hp.imp_left fun hev ↦ List.mem_append_left _ hev

/-- **The handler's step.** Outside the window, an event that finds the bit set finds it set to
stay; an event that finds it clear becomes a `START` in the queue. -/
theorem servedOrPending_handler {ok : Bool} (h : wifiEventHandler cfg s ok = some s')
    (hguard : ClientRunOutsideWindow s (.handler ok)) (hinv : s.ServedOrPending) :
    s'.ServedOrPending := by
  obtain ⟨⟨hok, hshutdown⟩, hwindow⟩ := hguard
  cases hpc : s.handler <;> simp only [wifiEventHandler, hpc] at h
  case idle =>
    cases hev : s.wifiEvents with
    | nil => rw [hev] at h; cases h
    | cons ev rest =>
      rw [hev] at h
      obtain rfl := Option.some.inj h
      refine hinv.of_pending rfl rfl .inl fun hp ↦ .inl ?_
      rcases hp with hmem | hconn | hrest
      · rw [hev, List.mem_cons] at hmem
        rcases hmem with rfl | hmem
        · exact .inr (.inl rfl)
        · exact .inl hmem
      · rw [hpc] at hconn; cases hconn
      · exact .inr (.inr hrest)
  case connTest =>
    obtain rfl := Option.some.inj h
    by_cases horch : s.orch = .stopClear
    · -- in the window: no station is there, or another `START` is on its way
      intro hpos
      have hother : 0 < s.staCount → .staConnected ∉ s.wifiEvents → .start ∈ s.ctx.serverCmdQueue := by
        simpa [TestsInStopWindow, hpc, horch] using hwindow
      by_cases hev : .staConnected ∈ s.wifiEvents
      · exact .inr (.inl hev)
      · exact .inr (.inr (.inr (.inl (hother hpos hev))))
    · refine hinv.of_pending rfl rfl .inl fun hp ↦ ?_
      by_cases hrun : s.ctx.events.serversRunning = true
      · exact .inr ⟨hrun, horch⟩
      · exact .inl (.inr (.inl (by simp [hrun, HandlerPc.connecting])))
  case connSend =>
    obtain ⟨ctx, hctx, rfl⟩ := Option.map_eq_some_iff.1 h
    obtain rfl : ok = true := by simpa [NeverFails, hpc] using hok
    obtain rfl := SysCtx.queueSend_true hctx
    refine hinv.of_pending rfl rfl .inl fun _ ↦ .inl (.inr (.inr (.inl ?_)))
    simp
  case discSend =>
    obtain ⟨ctx, hctx, rfl⟩ := Option.map_eq_some_iff.1 h
    obtain rfl : ok = true := by simpa [NeverFails, hpc] using hok
    obtain rfl := SysCtx.queueSend_true hctx
    refine hinv.of_pending rfl rfl .inl fun hp ↦ .inl ?_
    rcases hp with hmem | hconn | hq | hst
    · exact .inl hmem
    · rw [hpc] at hconn; cases hconn
    · exact .inr (.inr (.inl (List.mem_append_left _ hq)))
    · exact .inr (.inr (.inr hst))
  case entry ev =>
    obtain rfl := Option.some.inj h
    refine hinv.of_pending rfl rfl .inl fun hp ↦ .inl ?_
    rcases hp with hmem | hconn | hrest
    · exact .inl hmem
    · rw [hpc] at hconn
      cases ev with
      | staConnected => exact .inr (.inl (by simp [hshutdown, WifiEvent.branch, HandlerPc.connecting]))
      | staDisconnected => cases hconn
    · exact .inr (.inr hrest)
  all_goals
    -- the event stays in the handler's hands, or there was none to lose
    obtain rfl := Option.some.inj h
    refine hinv.of_pending rfl rfl .inl fun hp ↦ .inl ?_
    rcases hp with hmem | hconn | hrest
    · exact .inl hmem
    · rw [hpc] at hconn
      exact .inr (.inl (by simp_all [HandlerPc.connecting]))
    · exact .inr (.inr hrest)

/-! ### The run -/

/-- **The step of the system.** -/
theorem servedOrPending_step {a : TaskAction} (h : a.run cfg s = some s')
    (hguard : ClientRunOutsideWindow s a)
    (hann : ∀ i, (s.monitor i).announced = true → s.ctx.events.shutdown = true)
    (hnl : s.NotLeaving) (hinv : s.ServedOrPending) : s'.NotLeaving ∧ s'.ServedOrPending := by
  cases a with
  | connect =>
    refine ⟨?_, servedOrPending_connects h hinv⟩
    obtain rfl := Option.some.inj h
    exact hnl
  | disconnect =>
    refine ⟨?_, servedOrPending_disconnects h hinv⟩
    obtain ⟨_, _, rfl⟩ := stationDisconnects_frame h
    exact hnl
  | handler ok =>
    refine ⟨?_, servedOrPending_handler h hguard hinv⟩
    obtain ⟨_, _, _, rfl, rfl | rfl | rfl⟩ := wifiEventHandler_frame h
    · exact hnl
    all_goals exact ⟨by simpa using hnl.1, hnl.2⟩
  | orchestrator ok => exact servedOrPending_orchestrator h hguard.1 hnl hinv
  | dns i ok =>
    obtain ⟨_, _, _, _, _, rfl, rfl | rfl⟩ := dnsServerTask_frame h
    · exact ⟨hnl, hinv⟩
    · refine ⟨⟨by simpa using hnl.1, hnl.2⟩, hinv.of_pending rfl rfl .inl fun hp ↦ .inl ?_⟩
      exact hp.imp_right fun h ↦ h.imp_right fun h ↦ h.imp_left (List.mem_append_left _)
  | monitor i ok =>
    -- the one command of these tasks is sent after the shutdown bit is set
    obtain ⟨_, _, _, _, _, rfl, hbits, rfl | ⟨hpc, -⟩, -⟩ := monitorTask_frame h
    · exact ⟨hnl, hinv.of_pending rfl hbits.same.serversRunning .inl .inl⟩
    · have hset := hann i (by rw [hpc]; rfl)
      rw [hguard.1.2] at hset
      cases hset
  | smartAp ok =>
    obtain ⟨_, _, rfl, -⟩ := smartApTask_frame h
    exact ⟨hnl, hinv⟩
  | beep =>
    obtain ⟨_, _, rfl⟩ := beepTask_frame h
    exact ⟨hnl, hinv⟩

/-- The invariant holds in every state of a run outside the window. -/
theorem servedOrPending_of_reachableBy (h : (taskSystem cfg).ReachableBy ClientRunOutsideWindow s) :
    s.NotLeaving ∧ s.ServedOrPending := by
  refine h.invariant (I := fun s ↦ s.NotLeaving ∧ s.ServedOrPending) ?_ ?_
  · exact ⟨⟨List.not_mem_nil, rfl⟩, fun hpos ↦ absurd hpos (Nat.lt_irrefl 0)⟩
  · intro s a s' hs hinv hguard hst
    exact servedOrPending_step (taskSystem_step hst) hguard (shutdown_of_announced hs) hinv.1 hinv.2

/-- **No client is left without servers**, in a run outside the window: once nothing is in flight,
a station that is there has them. -/
theorem clients_served (h : (taskSystem cfg).ReachableBy ClientRunOutsideWindow s)
    (hquiet : s.Quiescent) (hcount : 0 < s.staCount) : s.ctx.events.serversRunning = true := by
  obtain ⟨hevents, hhandler, hqueue, horch⟩ := hquiet
  rcases (servedOrPending_of_reachableBy h).2 hcount with ⟨hrun, -⟩ | hev | hh | hstart | hst
  · exact hrun
  · rw [hevents] at hev
    cases hev
  · rw [hhandler] at hh
    cases hh
  · rw [hqueue] at hstart
    cases hstart
  · rw [horch] at hst
    cases hst

/-! ### Two runs -/

/-- The first station joins and the servers come up. -/
def firstClient : List TaskAction :=
  [.connect, .handler true, .handler true, .handler true, .handler true, .handler true,
    .handler true] ++ List.replicate 14 (.orchestrator true)

/-- It leaves; while the orchestrator stands between its read of the empty list and the clear of
the bit, another station joins and its event is handled. -/
def secondClient : List TaskAction :=
  [.disconnect, .handler true, .handler true, .handler true, .handler true, .handler true,
    .orchestrator true, .orchestrator true, .orchestrator true,
    .connect, .handler true, .handler true, .handler true, .handler true,
    .orchestrator true, .orchestrator true, .orchestrator true, .orchestrator true,
    .dns 0 true, .dns 0 true] ++ List.replicate 7 (.orchestrator true)

/-- The servers come up for the first station. -/
theorem clients_served_first : ∃ s, (taskSystem defaultConfig).ReachableBy ClientRunOutsideWindow s ∧
    0 < s.staCount ∧ s.ctx.events.serversRunning = true := by
  have hrun : ((taskSystem defaultConfig).exec ClientRunOutsideWindow
      (taskSystem defaultConfig).start firstClient).any
      (fun s ↦ s.Quiescent ∧ 0 < s.staCount) = true := by decide +kernel
  obtain ⟨s, hs, hp⟩ := StepSystem.exists_reachableBy_of_exec hrun
  obtain ⟨hquiet, hcount⟩ := of_decide_eq_true hp
  exact ⟨s, hs, hcount, clients_served hs hquiet hcount⟩

/-- **The lost client.** Everything has settled, a station is there, and the servers are down. -/
theorem client_lost : ∃ s, (taskSystem defaultConfig).ReachableBy ClientRun s ∧ s.Quiescent ∧
    0 < s.staCount ∧ s.ctx.events.serversRunning = false := by
  have hrun : ((taskSystem defaultConfig).exec ClientRun
      (taskSystem defaultConfig).start (firstClient ++ secondClient)).any
      (fun s ↦ s.Quiescent ∧ 0 < s.staCount ∧ s.ctx.events.serversRunning = false) = true := by
    decide +kernel
  obtain ⟨s, hs, hp⟩ := StepSystem.exists_reachableBy_of_exec hrun
  exact ⟨s, hs, of_decide_eq_true hp⟩
