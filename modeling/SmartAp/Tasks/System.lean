import SmartAp.Tasks.DnsTask
import SmartAp.Tasks.Orchestrator
import SmartAp.Tasks.PowerMgmt
import SmartAp.Tasks.WifiEvents

/-!
# The interleaved system

One action is one step of one task, or a station joining or leaving; any task may move at any time.
`taskSystem` is the step system whose runs the results about the tasks quantify over.
-/

/-- Who moves, and how the environment answers. -/
inductive TaskAction
  | connect
  | disconnect
  | handler (ok : Bool)
  | orchestrator (ok : Bool)
  | dns (i : ℕ) (ok : Bool)
  | monitor (i : ℕ) (ok : Bool)
  | smartAp (ok : Bool)
  | beep
  deriving DecidableEq, Repr

/-- The step of the task that moves. -/
def TaskAction.run (cfg : TaskConfig) (s : Sys) : TaskAction → Option Sys
  | .connect => stationConnects s
  | .disconnect => stationDisconnects s
  | .handler ok => wifiEventHandler cfg s ok
  | .orchestrator ok => serverOrchestratorTask s ok
  | .dns i ok => dnsServerTask cfg s i ok
  | .monitor i ok => monitorTask cfg s i ok
  | .smartAp ok => smartApTask s ok
  | .beep => beepTask s

/-- One step of the system. After `esp_restart` nothing moves. -/
def Sys.step (cfg : TaskConfig) (s : Sys) (a : TaskAction) : Option Sys :=
  if s.restarted then none else a.run cfg s

/-- The state after start-up: the context as `sys_ctx_create` leaves it, every task at its entry, no
station. -/
def Sys.start (cfg : TaskConfig) : Sys where
  monitor i := (cfg.monitorKind i).entry

/-- The tasks of the firmware as a step system. -/
def taskSystem (cfg : TaskConfig) : StepSystem Sys TaskAction where
  start := Sys.start cfg
  step := Sys.step cfg

/-- The defaults of the configuration menu, with the battery control compiled in: task 0 is
`battery_monitor_task`, task 1 is `reset_timer_task`. -/
def defaultConfig : TaskConfig where
  serverCmdQueueSize := 16
  batteryControl := true
  monitorKind i := if i = 0 then .battery else .resetTimer

theorem Sys.step_eq_some_iff {cfg : TaskConfig} {s s' : Sys} {a : TaskAction} :
    s.step cfg a = some s' ↔ s.restarted = false ∧ a.run cfg s = some s' := by
  unfold Sys.step
  cases s.restarted <;> simp

/-- A step of the system is a step of the task that moves. -/
theorem taskSystem_step {cfg : TaskConfig} {s s' : Sys} {a : TaskAction}
    (h : (taskSystem cfg).step s a = some s') : a.run cfg s = some s' :=
  (Sys.step_eq_some_iff.1 h).2

/-! ### The shutdown bit -/

variable {cfg : TaskConfig} {s s' : Sys}

/-- No task clears the shutdown bit. -/
theorem shutdown_of_step {a : TaskAction} (h : a.run cfg s = some s')
    (hs : s.ctx.events.shutdown = true) : s'.ctx.events.shutdown = true := by
  cases a with
  | connect =>
    obtain rfl := Option.some.inj h
    exact hs
  | disconnect =>
    obtain ⟨_, _, rfl⟩ := stationDisconnects_frame h
    exact hs
  | handler ok =>
    obtain ⟨_, _, _, rfl, -⟩ := wifiEventHandler_frame h
    exact hs
  | orchestrator ok => exact (serverOrchestratorTask_outside h).shutdown.trans hs
  | dns i ok =>
    obtain ⟨_, _, _, _, _, rfl, -⟩ := dnsServerTask_frame h
    exact hs
  | monitor i ok =>
    obtain ⟨_, _, _, _, _, rfl, hbits, -, -⟩ := monitorTask_frame h
    rcases hbits with rfl | rfl | ⟨k, rfl⟩
    · exact hs
    · rfl
    · cases k <;> exact hs
  | smartAp ok =>
    obtain ⟨_, _, rfl, -⟩ := smartApTask_frame h
    exact hs
  | beep =>
    obtain ⟨_, _, rfl⟩ := beepTask_frame h
    exact hs

/-- Only a step of `battery_monitor_task` or `reset_timer_task` moves these tasks or takes the
semaphore. -/
theorem monitor_of_step {a : TaskAction} (h : a.run cfg s = some s')
    (ha : ∀ i ok, a ≠ .monitor i ok) :
    s'.monitor = s.monitor ∧ s'.ctx.shutdownSem = s.ctx.shutdownSem := by
  cases a with
  | connect =>
    obtain rfl := Option.some.inj h
    exact ⟨rfl, rfl⟩
  | disconnect =>
    obtain ⟨_, _, rfl⟩ := stationDisconnects_frame h
    exact ⟨rfl, rfl⟩
  | handler ok =>
    obtain ⟨_, _, _, rfl, -⟩ := wifiEventHandler_frame h
    exact ⟨rfl, rfl⟩
  | orchestrator ok =>
    have hout := serverOrchestratorTask_outside h
    exact ⟨hout.monitor, hout.shutdownSem⟩
  | dns i ok =>
    obtain ⟨_, _, _, _, _, rfl, -⟩ := dnsServerTask_frame h
    exact ⟨rfl, rfl⟩
  | monitor i ok => exact absurd rfl (ha i ok)
  | smartAp ok =>
    obtain ⟨_, _, rfl, -⟩ := smartApTask_frame h
    exact ⟨rfl, rfl⟩
  | beep =>
    obtain ⟨_, _, rfl⟩ := beepTask_frame h
    exact ⟨rfl, rfl⟩

/-- A caller of `free_proc` that has passed the set of the shutdown bit finds it set ever after. -/
theorem shutdown_of_announced {G : Sys → TaskAction → Prop} (h : (taskSystem cfg).ReachableBy G s)
    (i : ℕ) (hi : (s.monitor i).announced = true) : s.ctx.events.shutdown = true := by
  suffices hinv : ∀ j, (s.monitor j).announced = true → s.ctx.events.shutdown = true from hinv i hi
  refine h.invariant (I := fun s ↦ ∀ j, (s.monitor j).announced = true →
    s.ctx.events.shutdown = true) (fun j hj ↦ ?_) fun s a s' _ hinv _ hst j hj ↦ ?_
  · change (cfg.monitorKind j).entry.announced = true at hj
    cases hk : cfg.monitorKind j <;> rw [hk] at hj <;> cases hj
  · have hrun := taskSystem_step hst
    by_cases ha : ∃ i ok, a = .monitor i ok
    · obtain ⟨i, ok, rfl⟩ := ha
      have hkeep := shutdown_of_step hrun
      obtain ⟨_, _, _, pc, _, rfl, -, -, hpc⟩ := monitorTask_frame hrun
      change (Function.update s.monitor i pc j).announced = true at hj
      by_cases hji : j = i
      · rw [hji, Function.update_self] at hj
        exact (hpc hj).elim (fun h ↦ hkeep (hinv i h)) id
      · rw [Function.update_of_ne hji] at hj
        exact hkeep (hinv j hj)
    · rw [(monitor_of_step hrun fun i ok hi ↦ ha ⟨i, ok, hi⟩).1] at hj
      exact shutdown_of_step hrun (hinv j hj)

/-! ### What only the orchestrator writes -/

/-- The orchestrator's place, the handles of the servers, the bits that tell whether they run, and
how many were created. -/
structure Sys.SameInside (s s' : Sys) : Prop where
  orch : s'.orch = s.orch
  dnsTask : s'.ctx.dnsTask = s.ctx.dnsTask
  webServer : s'.ctx.webServer = s.ctx.webServer
  dnsRunning : s'.ctx.events.dnsRunning = s.ctx.events.dnsRunning
  serversRunning : s'.ctx.events.serversRunning = s.ctx.events.serversRunning
  orchestratorDone : s'.ctx.events.orchestratorDone = s.ctx.events.orchestratorDone
  dnsCreated : s'.dnsCreated = s.dnsCreated
  serversCreated : s'.serversCreated = s.serversCreated

/-- The other tasks leave all of it alone; `EVT_AP_DONE_BIT` may only be set. -/
theorem sameInside_of_step {a : TaskAction} (h : a.run cfg s = some s')
    (ha : ∀ ok, a ≠ .orchestrator ok) :
    s.SameInside s' ∧ (s.ctx.events.apDone = true → s'.ctx.events.apDone = true) := by
  cases a with
  | connect =>
    obtain rfl := Option.some.inj h
    exact ⟨by constructor <;> rfl, id⟩
  | disconnect =>
    obtain ⟨_, _, rfl⟩ := stationDisconnects_frame h
    exact ⟨by constructor <;> rfl, id⟩
  | handler ok =>
    obtain ⟨_, _, _, rfl, -⟩ := wifiEventHandler_frame h
    exact ⟨by constructor <;> rfl, id⟩
  | orchestrator ok => exact absurd rfl (ha ok)
  | dns i ok =>
    obtain ⟨_, _, _, _, _, rfl, -⟩ := dnsServerTask_frame h
    exact ⟨by constructor <;> rfl, id⟩
  | monitor i ok =>
    obtain ⟨_, _, _, _, _, rfl, hbits, -, -⟩ := monitorTask_frame h
    have hsame := hbits.same
    refine ⟨?_, hsame.apDone.trans⟩
    constructor <;> first | rfl | exact hsame.dnsRunning | exact hsame.serversRunning |
      exact hsame.orchestratorDone
  | smartAp ok =>
    obtain ⟨_, _, rfl, hmono⟩ := smartApTask_frame h
    exact ⟨by constructor <;> rfl, hmono⟩
  | beep =>
    obtain ⟨_, _, rfl⟩ := beepTask_frame h
    exact ⟨by constructor <;> rfl, id⟩
