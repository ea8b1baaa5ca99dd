import SmartAp.Tasks.Context

/-!
# Shutdown: `free_proc` and the tasks around it

`battery_monitor_task` and `reset_timer_task` are the two callers of `free_proc`. Both wait for
`EVT_SHUTDOWN_BIT` in a loop and leave when they see it; both set their own done bit *before* they
call `free_proc`, so that `free_proc` does not wait for its caller. Any number of them may exist
(`TaskConfig.monitorKind` says which of the two a task is).

`free_proc` takes `shutdown_sem` without waiting and never gives it back, sets the shutdown bit,
sends `SHUTDOWN`, waits for the done bits of all tasks and, when the wait expires, insists only on
the two critical ones. Its teardown part is kept call by call (`TeardownPc`).

After `free_proc` has returned `true` the caller restarts or sleeps, after `false` it deletes
itself.

`smart_ap_task` and `beep_task` matter here for their done bits only: `smart_ap_task` scans and
changes the channel between two tests of the shutdown bit, `beep_task` runs its sessions (the token
that guards them is not part of this state).
-/

/-- The done bit of the task that calls `free_proc`. -/
def MonitorKind.setDoneBit (k : MonitorKind) (e : EventBits) : EventBits :=
  match k with
  | .battery => { e with battDone := true }
  | .resetTimer => { e with resetDone := true }

/-- All tasks have reported: the bits `free_proc` waits for. -/
def EventBits.allDone (e : EventBits) (batteryControl : Bool) : Bool :=
  e.apDone && e.beepDone && (!batteryControl || e.battDone) && e.orchestratorDone && e.resetDone

/-- The call after a teardown call. -/
def TeardownPc.next : TeardownPc → MonitorPc
  | .wifiDeauth => .teardown .wifiStop
  | .wifiStop => .teardown .handlerUnregister
  | .handlerUnregister => .teardown .wifiDeinit
  | .wifiDeinit => .teardown .eventLoopDelete
  | .eventLoopDelete => .teardown .storageDeinit
  | .storageDeinit => .teardown .nvsDeinit
  | .nvsDeinit => .returned true

/-- Where the task starts: the battery is measured before the first wait, the uptime is read after
it. -/
def MonitorKind.entry : MonitorKind → MonitorPc
  | .battery => .measure
  | .resetTimer => .waiting

/-- One step of `battery_monitor_task` or `reset_timer_task`. `ok` tells whether the trigger fired
(on a measurement), whether the queue had room, and whether the wait for the done bits was satisfied
or expired. -/
def monitorTask (cfg : TaskConfig) (s : Sys) (i : ℕ) (ok : Bool) : Option Sys :=
  let goto (pc : MonitorPc) : Sys := { s with monitor := Function.update s.monitor i pc }
  match s.monitor i with
  | .measure => some (goto (if ok then .triggered else .waiting))
  | .waiting =>
    -- the wait returns the bits; a measurement follows only when the shutdown bit was clear
    some (goto (if s.ctx.events.shutdown then .setDone else .measure))
  | .triggered =>
    some { goto .takeSem with ctx.events := (cfg.monitorKind i).setDoneBit s.ctx.events }
  -- free_proc
  | .takeSem =>
    if s.ctx.shutdownSem then some { goto .setShutdown with ctx.shutdownSem := false }
    else some (goto (.returned false))
  | .setShutdown => some { goto .sendShutdown with ctx.events.shutdown := true }
  | .sendShutdown =>
    (s.ctx.queueSend cfg.serverCmdQueueSize .shutdown ok).map fun ctx ↦
      { goto .waitDone with ctx := ctx }
  | .waitDone =>
    if ok then
      if s.ctx.events.allDone cfg.batteryControl then some (goto (.teardown .wifiDeauth)) else none
    else
      some (goto (.checkCritical s.ctx.events.orchestratorDone s.ctx.events.apDone))
  | .checkCritical orchestratorDone apDone =>
    if orchestratorDone && apDone then some (goto (.teardown .wifiDeauth))
    else some { s with restarted := true }
  | .teardown k => some (goto k.next)
  -- back in the caller
  | .returned true => some { s with restarted := true }
  | .returned false => some (goto .deleted)
  | .setDone =>
    some { goto .deleted with ctx.events := (cfg.monitorKind i).setDoneBit s.ctx.events }
  | .deleted => none

/-- One step of `smart_ap_task`. `ok = false` is a failing `esp_wifi_get_config`. -/
def smartApTask (s : Sys) (ok : Bool) : Option Sys :=
  match s.smartAp with
  | .waiting =>
    some { s with smartAp := if s.ctx.events.shutdown then .setDone else .scanning }
  | .scanning => some { s with smartAp := .shutdownTest }
  | .shutdownTest =>
    some { s with
      smartAp := if s.ctx.events.shutdown then .setDone
        else if ok then .applyChannel else .waiting }
  | .applyChannel => some { s with smartAp := .waiting }
  | .setDone => some { s with ctx.events.apDone := true, smartAp := .deleted }
  | .deleted => none

/-- One step of `beep_task`. -/
def beepTask (s : Sys) : Option Sys :=
  match s.beep with
  | .shutdownTest =>
    some { s with beep := if s.ctx.events.shutdown then .setDone else .session }
  | .session => some { s with beep := .shutdownTest }
  | .setDone => some { s with ctx.events.beepDone := true, beep := .deleted }
  | .deleted => none

/-! ### What a step can do -/

variable {cfg : TaskConfig} {s s' : Sys} {i : ℕ} {ok : Bool}

/-- The caller of `free_proc` has set the shutdown bit. -/
def MonitorPc.announced : MonitorPc → Bool
  | .sendShutdown | .waitDone | .checkCritical _ _ | .teardown _ | .returned true => true
  | _ => false

/-- What a caller of `free_proc` may do to the event group: set the shutdown bit or its own done
bit. -/
def EventBits.OnlyReports (e e' : EventBits) : Prop :=
  e' = e ∨ e' = { e with shutdown := true } ∨ ∃ k : MonitorKind, e' = k.setDoneBit e

/-- The bits of the other tasks are as they were. -/
structure EventBits.SameServers (e e' : EventBits) : Prop where
  dnsRunning : e'.dnsRunning = e.dnsRunning
  dnsStopped : e'.dnsStopped = e.dnsStopped
  serversRunning : e'.serversRunning = e.serversRunning
  apDone : e'.apDone = e.apDone
  orchestratorDone : e'.orchestratorDone = e.orchestratorDone

theorem EventBits.OnlyReports.same {e e' : EventBits} (h : e.OnlyReports e') :
    e.SameServers e' := by
  rcases h with rfl | rfl | ⟨k, rfl⟩
  · constructor <;> rfl
  · constructor <;> rfl
  · cases k <;> constructor <;> rfl

/-- A step of a caller of `free_proc` touches its own place, the event group (`OnlyReports`), the
shutdown semaphore and the command queue (only to append `SHUTDOWN`, after the shutdown bit), or
it restarts the device. -/
theorem monitorTask_frame (h : monitorTask cfg s i ok = some s') :
    ∃ e sem queue pc r,
      s' = { s with
        ctx.events := e, ctx.shutdownSem := sem, ctx.serverCmdQueue := queue
        monitor := Function.update s.monitor i pc, restarted := r } ∧
      s.ctx.events.OnlyReports e ∧
      (queue = s.ctx.serverCmdQueue ∨
        s.monitor i = .sendShutdown ∧ queue = s.ctx.serverCmdQueue ++ [.shutdown]) ∧
      (pc.announced = true → (s.monitor i).announced = true ∨ e.shutdown = true) := by
  -- a restart leaves the task where it stands
  have hstay : s.monitor = Function.update s.monitor i (s.monitor i) :=
    (Function.update_eq_self i s.monitor).symm
  cases hpc : s.monitor i <;> simp only [monitorTask, hpc] at h
  case triggered =>
    obtain rfl := Option.some.inj h
    exact ⟨_, _, _, _, _, rfl, .inr (.inr ⟨_, rfl⟩), .inl rfl, by simp [MonitorPc.announced]⟩
  case takeSem =>
    split at h <;> obtain rfl := Option.some.inj h <;>
      exact ⟨_, _, _, _, _, rfl, .inl rfl, .inl rfl, by simp [MonitorPc.announced]⟩
  case setShutdown =>
    obtain rfl := Option.some.inj h
    exact ⟨_, _, _, _, _, rfl, .inr (.inl rfl), .inl rfl, fun _ ↦ .inr rfl⟩
  case sendShutdown =>
    obtain ⟨ctx, hctx, rfl⟩ := Option.map_eq_some_iff.1 h
    rcases SysCtx.queueSend_cases hctx with rfl | rfl
    · exact ⟨_, _, _, _, _, rfl, .inl rfl, .inr ⟨rfl, rfl⟩, fun _ ↦ .inl rfl⟩
    · exact ⟨_, _, _, _, _, rfl, .inl rfl, .inl rfl, fun _ ↦ .inl rfl⟩
  case waitDone =>
    split at h
    · split at h <;> cases h
      exact ⟨_, _, _, _, _, rfl, .inl rfl, .inl rfl, fun _ ↦ .inl rfl⟩
    · obtain rfl := Option.some.inj h
      exact ⟨_, _, _, _, _, rfl, .inl rfl, .inl rfl, fun _ ↦ .inl rfl⟩
  case checkCritical orchestratorDone apDone =>
    split at h <;> obtain rfl := Option.some.inj h
    · exact ⟨_, _, _, _, _, rfl, .inl rfl, .inl rfl, fun _ ↦ .inl rfl⟩
    · exact ⟨_, _, _, s.monitor i, _, by rw [← hstay], .inl rfl, .inl rfl, fun _ ↦ .inl rfl⟩
  case teardown k =>
    obtain rfl := Option.some.inj h
    exact ⟨_, _, _, _, _, rfl, .inl rfl, .inl rfl, fun _ ↦ .inl rfl⟩
  case returned result =>
    cases result <;> obtain rfl := Option.some.inj h
    · exact ⟨_, _, _, _, _, rfl, .inl rfl, .inl rfl, by simp [MonitorPc.announced]⟩
    · exact ⟨_, _, _, s.monitor i, _, by rw [← hstay], .inl rfl, .inl rfl, fun h ↦ .inl (hpc ▸ h)⟩
  case setDone =>
    obtain rfl := Option.some.inj h
    exact ⟨_, _, _, _, _, rfl, .inr (.inr ⟨_, rfl⟩), .inl rfl, by simp [MonitorPc.announced]⟩
  case deleted => cases h
  all_goals
    obtain rfl := Option.some.inj h
    refine ⟨_, _, _, _, _, rfl, .inl rfl, .inl rfl, ?_⟩
    split <;> simp [MonitorPc.announced]

/-- `smart_ap_task` touches its own place and, only to set it, its done bit. -/
theorem smartApTask_frame (h : smartApTask s ok = some s') :
    ∃ done pc, s' = { s with ctx.events.apDone := done, smartAp := pc } ∧
      (s.ctx.events.apDone = true → done = true) := by
  unfold smartApTask at h
  split at h <;> cases h <;> exact ⟨_, _, rfl, by simp⟩

/-- `beep_task` touches its own place and its done bit. -/
theorem beepTask_frame (h : beepTask s = some s') :
    ∃ done pc, s' = { s with ctx.events.beepDone := done, beep := pc } := by
  unfold beepTask at h
  split at h <;> cases h <;> exact ⟨_, _, rfl⟩
