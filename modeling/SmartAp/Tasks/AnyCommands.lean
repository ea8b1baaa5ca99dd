import SmartAp.Tasks.ShutdownOrder

/-!
# The orchestrator under arbitrary commands

In the firmware the commands come from the event handler, the DNS task and `free_proc`. Some results
about the orchestrator do not depend on who sends what: they hold for every sequence of commands and
every answer of the station list. `commandedSystem` is the task system with an environment that may,
at any time, append any command to the queue and set the station count to anything. Every run of
`taskSystem` is one of its runs (`commanded_of_taskSystem`).

`commanded_step_cases` is the one fact about a step: either the orchestrator moves, or everything
that only the orchestrator writes is as it was (`Sys.SameServers`).
-/

/-- A step of a task, or a move of the environment. -/
inductive CommandAction
  /-- Some task sends the command. -/
  | post (cmd : ServerCmd)
  /-- The access point counts `n` stations from now on. -/
  | stations (n : ℕ)
  | task (a : TaskAction)
  deriving DecidableEq, Repr

/-- One step under arbitrary commands. -/
def Sys.stepCommanded (cfg : TaskConfig) (s : Sys) : CommandAction → Option Sys
  | .post cmd =>
    if s.restarted then none
    else
      (s.ctx.queueSend cfg.serverCmdQueueSize cmd true).map fun ctx ↦ { s with ctx := ctx }
  | .stations n => if s.restarted then none else some { s with staCount := n }
  | .task a => s.step cfg a

/-- The tasks under arbitrary commands. -/
def commandedSystem (cfg : TaskConfig) : StepSystem Sys CommandAction where
  start := Sys.start cfg
  step := Sys.stepCommanded cfg

variable {cfg : TaskConfig} {s s' : Sys}

/-- What a run of the tasks reaches, a run under arbitrary commands reaches. -/
theorem commanded_of_taskSystem (h : (taskSystem cfg).Reachable s) :
    (commandedSystem cfg).Reachable s := by
  induction h with
  | start => exact .start
  | step _ _ hst ih => exact .step (a := .task _) ih trivial hst

/-! ### What a step can do -/

/-- A post appends the command. -/
theorem stepCommanded_post {cmd : ServerCmd} (h : s.stepCommanded cfg (.post cmd) = some s') :
    s' = { s with ctx.serverCmdQueue := s.ctx.serverCmdQueue ++ [cmd] } := by
  simp only [Sys.stepCommanded] at h
  split at h
  · cases h
  · obtain ⟨ctx, hctx, rfl⟩ := Option.map_eq_some_iff.1 h
    obtain rfl := SysCtx.queueSend_true hctx
    rfl

theorem stepCommanded_stations {n : ℕ} (h : s.stepCommanded cfg (.stations n) = some s') :
    s' = { s with staCount := n } := by
  simp only [Sys.stepCommanded] at h
  split at h
  · cases h
  · exact (Option.some.inj h).symm

theorem stepCommanded_task {a : TaskAction} (h : s.stepCommanded cfg (.task a) = some s') :
    a.run cfg s = some s' :=
  (Sys.step_eq_some_iff.1 h).2

/-- Nothing moves after `esp_restart`. -/
theorem stepCommanded_live {a : CommandAction} (h : s.stepCommanded cfg a = some s') :
    s.restarted = false := by
  cases a with
  | task a => exact (Sys.step_eq_some_iff.1 h).1
  | _ =>
    simp only [Sys.stepCommanded] at h
    split at h
    · cases h
    · exact Bool.eq_false_iff.2 ‹_›

/-- What only the orchestrator writes, the running HTTP servers included. -/
structure Sys.SameServers (s s' : Sys) : Prop where
  inside : s.SameInside s'
  serversAlive : s'.serversAlive = s.serversAlive

/-- The other tasks leave the HTTP servers alone. -/
theorem sameServers_of_step {a : TaskAction} (h : a.run cfg s = some s')
    (ha : ∀ ok, a ≠ .orchestrator ok) : s.SameServers s' := by
  refine ⟨(sameInside_of_step h ha).1, ?_⟩
  cases a with
  | connect =>
    obtain rfl := Option.some.inj h
    rfl
  | disconnect =>
    obtain ⟨_, _, rfl⟩ := stationDisconnects_frame h
    rfl
  | handler ok =>
    obtain ⟨_, _, _, rfl, -⟩ := wifiEventHandler_frame h
    rfl
  | orchestrator ok => exact absurd rfl (ha ok)
  | dns i ok =>
    obtain ⟨_, _, _, _, _, rfl, -⟩ := dnsServerTask_frame h
    rfl
  | monitor i ok =>
    obtain ⟨_, _, _, _, _, rfl, -⟩ := monitorTask_frame h
    rfl
  | smartAp ok =>
    obtain ⟨_, _, rfl, -⟩ := smartApTask_frame h
    rfl
  | beep =>
    obtain ⟨_, _, rfl⟩ := beepTask_frame h
    rfl

/-- A step is the orchestrator's, or leaves alone what only the orchestrator writes. -/
theorem commanded_step_cases {a : CommandAction} (h : s.stepCommanded cfg a = some s') :
    (∃ ok, a = .task (.orchestrator ok) ∧ serverOrchestratorTask s ok = some s') ∨
      s.SameServers s' := by
  cases a with
  | post cmd =>
    obtain rfl := stepCommanded_post h
    exact .inr ⟨by constructor <;> rfl, rfl⟩
  | stations n =>
    obtain rfl := stepCommanded_stations h
    exact .inr ⟨by constructor <;> rfl, rfl⟩
  | task a =>
    have hrun := stepCommanded_task h
    by_cases ha : ∃ ok, a = .orchestrator ok
    · obtain ⟨ok, rfl⟩ := ha
      exact .inl ⟨ok, rfl, hrun⟩
    · exact .inr (sameServers_of_step hrun fun ok hok ↦ ha ⟨ok, hok⟩)

/-- Nobody clears the shutdown bit. -/
theorem shutdown_of_commanded {a : CommandAction} (h : s.stepCommanded cfg a = some s')
    (hs : s.ctx.events.shutdown = true) : s'.ctx.events.shutdown = true := by
  cases a with
  | post cmd =>
    obtain rfl := stepCommanded_post h
    exact hs
  | stations n =>
    obtain rfl := stepCommanded_stations h
    exact hs
  | task a => exact shutdown_of_step (stepCommanded_task h) hs

/-! ### The order of the servers -/

/-- The invariant of `SmartAp.Tasks.ShutdownOrder` does not depend on who sends the commands. -/
theorem serversOrdered_of_commanded {G : Sys → CommandAction → Prop}
    (h : (commandedSystem cfg).ReachableBy G s) : s.ServersOrdered := by
  refine h.invariant ⟨fun _ ↦ ⟨rfl, rfl, rfl, rfl⟩, nofun, nofun⟩ fun s a s' _ hinv _ hst ↦ ?_
  rcases commanded_step_cases hst with ⟨ok, -, hrun⟩ | hsame
  · exact serversOrdered_orchestrator hrun hinv
  · exact hinv.of_sameInside hsame.inside
