import SmartAp.Tasks.AnyCommands

/-!
# Downloads and the running bit

`main_handler` serves a file chunk by chunk and polls the event group between two chunks: when it
finds `EVT_SHUTDOWN_BIT` set or `EVT_SERVERS_RUNNING_BIT` clear it leaves the loop, because the
servers are stopping. This module adds the HTTP tasks to the system of
`SmartAp.Tasks.AnyCommands`, one for each server that `httpd_start` creates, as far as they serve
files.

An HTTP task serves requests from the moment its handler is registered. `httpd_stop` sends the task
a message and waits until it has ended; it ends between two requests. When the message cannot be
sent `httpd_stop` fails, and the server goes on unowned.

The list `stopping` is history, not state of the program: the servers that the orchestrator has
begun to stop, that is, those that `ctx->web_server` stood for when it cleared the running bit on
`STOP`, on `SHUTDOWN` or on its way out.

## The download cut off at the start

A server is reachable before the orchestrator sets the running bit: the handler is registered inside
`start_webserver`, the bit is set after it has returned (`OrchPc.startSet`). A transfer that polls
in between finds the bit clear although nothing is being stopped. `healthy_download_cut_off` is that
run.

## What holds

`download_cut_off_only_when_stopping` excludes exactly that poll (`PollsBeforeSet`).
-/

/-- Places of the HTTP task of one server. `left` is the number of chunks of the file that were not
read yet. -/
inductive HttpPc
  /-- There is no such server, or its handler is not registered yet. -/
  | unregistered
  /-- Waiting for a request. -/
  | idle
  /-- `fread` is next. -/
  | read (left : ℕ)
  /-- A chunk was read; `xEventGroupGetBits` is next. -/
  | poll (left : ℕ)
  /-- `httpd_resp_send_chunk` is next. -/
  | send (left : ℕ)
  /-- The loop was left through the branch for stopping servers. -/
  | cutOff
  /-- The task has ended. -/
  | stopped
  deriving DecidableEq, Repr

/-- The task exists and its handler is registered. -/
def HttpPc.registered : HttpPc → Bool
  | .unregistered | .stopped => false
  | _ => true

/-- The task is inside `main_handler`. -/
def HttpPc.serving : HttpPc → Bool
  | .read _ | .poll _ | .send _ | .cutOff => true
  | .unregistered | .idle | .stopped => false

/-- The tasks with the HTTP tasks. -/
structure WebSys where
  base : Sys
  http : ℕ → HttpPc := fun _ ↦ .unregistered
  /-- The servers the orchestrator has begun to stop. -/
  stopping : List ℕ := []

/-- Who moves. -/
inductive WebAction
  | base (a : CommandAction)
  /-- Server `w` receives a request for a file of so many chunks. -/
  | request (w chunks : ℕ)
  /-- The HTTP task of server `w`; `ok` tells whether `fread` or the send succeeded. -/
  | http (w : ℕ) (ok : Bool)
  deriving DecidableEq, Repr

/-- One step of `main_handler` in the HTTP task of server `w`. -/
def mainHandlerTask (s : WebSys) (w : ℕ) (ok : Bool) : Option WebSys :=
  let goto (pc : HttpPc) : WebSys := { s with http := Function.update s.http w pc }
  match s.http w with
  | .unregistered | .idle | .stopped => none
  -- the end of the file, or an error of `fread`
  | .read 0 => some (goto .idle)
  | .read (left + 1) => some (goto (if ok then .poll left else .idle))
  | .poll left =>
    some (goto
      (if s.base.ctx.events.shutdown || !s.base.ctx.events.serversRunning then .cutOff
        else .send left))
  | .send left => some (goto (if ok then .read left else .idle))
  | .cutOff => some (goto .idle)

/-- What a step of the orchestrator means for the HTTP tasks: a registered handler starts to serve,
a stopped server has ended, and a clear of the running bit begins the stop of the current server. -/
def WebSys.follow (s : WebSys) (ok : Bool) (base : Sys) : Option WebSys :=
  match s.base.orch with
  | .startWeb (.register w) =>
    some { s with base := base, http := Function.update s.http w .idle }
  | .stopWeb _ (.httpdStop (some w)) =>
    if ok then
      if (s.http w).serving then none
      else some { s with base := base, http := Function.update s.http w .stopped }
    else some { s with base := base }
  | .stopClear | .shutdownClear | .exitClear =>
    some { s with base := base, stopping := s.base.ctx.webServer.toList ++ s.stopping }
  | _ => some { s with base := base }

/-- One step. -/
def WebSys.step (cfg : TaskConfig) (s : WebSys) : WebAction → Option WebSys
  | .base (.task (.orchestrator ok)) =>
    (s.base.stepCommanded cfg (.task (.orchestrator ok))).bind (s.follow ok)
  | .base a => (s.base.stepCommanded cfg a).map fun base ↦ { s with base := base }
  | .request w chunks =>
    if s.base.restarted then none
    else if s.http w = .idle then
      some { s with http := Function.update s.http w (.read chunks) }
    else none
  | .http w ok => if s.base.restarted then none else mainHandlerTask s w ok

/-- The tasks with the HTTP tasks, under arbitrary commands. -/
def webSystem (cfg : TaskConfig) : StepSystem WebSys WebAction where
  start := { base := Sys.start cfg }
  step := WebSys.step cfg

/-- A transfer polls between the registration of its handler and the set of the running bit. -/
def PollsBeforeSet (s : WebSys) : WebAction → Bool
  | .http w _ =>
    match s.http w with
    | .poll _ =>
      s.base.orch = .startSet && s.base.ctx.webServer = some w && !s.base.ctx.events.shutdown
    | _ => false
  | _ => false

/-- No transfer polls there. -/
def NoPollBeforeSet (s : WebSys) (a : WebAction) : Prop := PollsBeforeSet s a = false

instance (s : WebSys) (a : WebAction) : Decidable (NoPollBeforeSet s a) := by
  unfold NoPollBeforeSet; infer_instance

/-! ### The invariant -/

/-- A server that serves is being stopped, or it is the current one and the running bit is set or is
about to be set. -/
structure WebSys.Owned (s : WebSys) : Prop where
  live : ∀ w, (s.http w).registered = true → w ∈ s.stopping ∨
    s.base.ctx.webServer = some w ∧
      (s.base.ctx.events.serversRunning = true ∨ s.base.orch = .startSet)
  published : ∀ w, s.base.orch = .startWeb (.register w) → s.base.ctx.webServer = some w
  cutOff : ∀ w, s.http w = .cutOff → s.base.ctx.events.shutdown = true ∨ w ∈ s.stopping

variable {cfg : TaskConfig} {s s' : WebSys}

/-- What a step keeps that moves only the tasks of `SmartAp.Tasks.System`. -/
theorem WebSys.Owned.of_base (hinv : s.Owned) {base : Sys}
    (hweb : base.ctx.webServer = s.base.ctx.webServer)
    (hrunning : s.base.ctx.events.serversRunning = true ∨ s.base.orch = .startSet →
      base.ctx.events.serversRunning = true ∨ base.orch = .startSet)
    (hpublished : ∀ w, base.orch = .startWeb (.register w) → base.ctx.webServer = some w)
    (hshutdown : s.base.ctx.events.shutdown = true → base.ctx.events.shutdown = true) :
    WebSys.Owned { s with base := base } where
  live w hw := (hinv.live w hw).imp_right fun ⟨hcur, hup⟩ ↦ ⟨hweb.trans hcur, hrunning hup⟩
  published := hpublished
  cutOff w hw := (hinv.cutOff w hw).imp_left hshutdown

/-- While the running bit is clear and nobody is about to set it, every server that serves is being
stopped. -/
theorem WebSys.Owned.stopping_of_clear (hinv : s.Owned)
    (hclear : s.base.ctx.events.serversRunning = false) (hset : s.base.orch ≠ .startSet) {w : ℕ}
    (hw : (s.http w).registered = true) : w ∈ s.stopping := by
  rcases hinv.live w hw with hstop | ⟨-, hrun | horch⟩
  · exact hstop
  · exact absurd (hclear.symm.trans hrun) (by decide)
  · exact absurd horch hset

/-- A move of one HTTP task. -/
theorem WebSys.Owned.of_http (hinv : s.Owned) {w : ℕ} {pc : HttpPc}
    (hlive : pc.registered = true → w ∈ s.stopping ∨ s.base.ctx.webServer = some w ∧
      (s.base.ctx.events.serversRunning = true ∨ s.base.orch = .startSet))
    (hcut : pc = .cutOff → s.base.ctx.events.shutdown = true ∨ w ∈ s.stopping) :
    WebSys.Owned { s with http := Function.update s.http w pc } where
  live v hv := by
    change (Function.update s.http w pc v).registered = true at hv
    by_cases hvw : v = w
    · subst hvw
      rw [Function.update_self] at hv
      exact hlive hv
    · rw [Function.update_of_ne hvw] at hv
      exact hinv.live v hv
  published := hinv.published
  cutOff v hv := by
    change Function.update s.http w pc v = .cutOff at hv
    by_cases hvw : v = w
    · subst hvw
      rw [Function.update_self] at hv
      exact hcut hv
    · rw [Function.update_of_ne hvw] at hv
      exact hinv.cutOff v hv

/-! ### The orchestrator -/

/-- Away from the places where the HTTP servers change hands, the orchestrator leaves
`ctx->web_server` and the running bit alone. -/
theorem orchestrator_keeps_web {s s' : Sys} {ok : Bool} (h : serverOrchestratorTask s ok = some s')
    (hweb : ∀ k, s.orch ≠ .startWeb k) (hstop : ∀ caller k, s.orch ≠ .stopWeb caller k)
    (hclear : s.orch ≠ .stopClear ∧ s.orch ≠ .shutdownClear ∧ s.orch ≠ .exitClear) :
    s'.ctx.webServer = s.ctx.webServer ∧
      (s.ctx.events.serversRunning = true ∨ s.orch = .startSet →
        s'.ctx.events.serversRunning = true) ∧
      ∀ w, s'.orch ≠ .startWeb (.register w) := by
  cases hpc : s.orch <;> simp only [serverOrchestratorTask, hpc] at h
  case startWeb k => exact absurd hpc (hweb k)
  case stopWeb caller k => exact absurd hpc (hstop caller k)
  case stopClear => exact absurd hpc hclear.1
  case shutdownClear => exact absurd hpc hclear.2.1
  case exitClear => exact absurd hpc hclear.2.2
  case deleted => cases h
  case startDns caller k =>
    obtain ⟨_, _, _, _, _, _, _, _, rfl, hcase⟩ := startDnsServer_frame h
    refine ⟨rfl, fun hup ↦ hup.resolve_right (by simp), fun w ↦ ?_⟩
    rw [hpc] at hcase
    rcases hcase with rfl | ⟨k', rfl⟩ | rfl <;> cases caller <;> simp [StartCaller.afterDns]
  case stopDns caller k =>
    obtain ⟨_, _, _, _, _, _, _, rfl, hcase⟩ := stopDnsServer_frame h
    refine ⟨rfl, fun hup ↦ hup.resolve_right (by simp), fun w ↦ ?_⟩
    rw [hpc] at hcase
    rcases hcase with rfl | ⟨k', rfl⟩ | rfl <;> cases caller <;> simp [StopCaller.afterDns]
  case receive =>
    split at h <;> cases h
    · rename_i cmd _ _
      exact ⟨rfl, fun hup ↦ hup.resolve_right (by simp), fun w ↦ by
        cases cmd <;> simp [ServerCmd.dispatch]⟩
    · exact ⟨rfl, fun hup ↦ hup.resolve_right (by simp), fun w ↦ by simp⟩
  case startSet =>
    obtain rfl := Option.some.inj h
    exact ⟨rfl, fun _ ↦ rfl, by simp⟩
  all_goals
    obtain rfl := Option.some.inj h
    refine ⟨rfl, fun hup ↦ hup.resolve_right (by simp), fun w ↦ ?_⟩
    try split
    all_goals simp

/-- `start_webserver` publishes a handle only where there is none, and registers the handlers of the
server it has published. -/
theorem owned_startWeb {ok : Bool} {base : Sys} {k : StartWebPc}
    (h : startWebserver s.base ok k = some base) (hpc : s.base.orch = .startWeb k)
    (hfollow : s.follow ok base = some s') (hinv : s.Owned) : s'.Owned := by
  have hne : s.base.orch ≠ .startSet := by rw [hpc]; simp
  simp only [WebSys.follow, hpc] at hfollow
  cases k <;> simp only [startWebserver] at h
  case test =>
    obtain rfl := Option.some.inj hfollow
    split at h
    · cases h
    · split at h <;> obtain rfl := Option.some.inj h <;>
        exact hinv.of_base rfl (fun hup ↦ .inl (hup.resolve_right hne)) (fun w ↦ by simp) id
  case httpdStart =>
    obtain rfl := Option.some.inj hfollow
    split at h <;> obtain rfl := Option.some.inj h <;>
      exact hinv.of_base rfl (fun hup ↦ .inl (hup.resolve_right hne)) (fun w ↦ by simp) id
  case publish server =>
    obtain rfl := Option.some.inj hfollow
    split at h
    · cases h
    · split at h <;> obtain rfl := Option.some.inj h
      · -- the field was empty: every server that serves is being stopped
        rename_i hnone
        refine ⟨fun w hw ↦ ?_, fun w hw ↦ ?_, hinv.cutOff⟩
        · rcases hinv.live w hw with hstop | ⟨hcur, -⟩
          · exact .inl hstop
          · rw [hnone] at hcur
            cases hcur
        · cases hw
          rfl
      · exact hinv.of_base rfl (fun hup ↦ .inl (hup.resolve_right hne)) (fun w ↦ by simp) id
  case register server =>
    obtain rfl := Option.some.inj hfollow
    obtain rfl := Option.some.inj h
    have hcur := hinv.published server hpc
    have hmoved : WebSys.Owned { s with base := { s.base with orch := .startSet } } :=
      hinv.of_base rfl (fun _ ↦ .inr rfl) (fun w ↦ by simp) id
    exact hmoved.of_http (fun _ ↦ .inr ⟨hcur, .inr rfl⟩) (by simp)

/-- `stop_webserver` takes the handle when all servers that serve are being stopped. -/
theorem owned_stopWeb {caller : StopCaller} {ok : Bool} {base : Sys} {k : StopWebPc}
    (h : stopWebserver s.base caller ok k = some base) (hpc : s.base.orch = .stopWeb caller k)
    (hfollow : s.follow ok base = some s') (hord : s.base.ServersOrdered) (hinv : s.Owned) :
    s'.Owned := by
  have hfacts := hord.facts
  have hne : s.base.orch ≠ .startSet := by rw [hpc]; simp
  have hclear : s.base.ctx.events.serversRunning = false := by
    rw [hpc] at hfacts
    cases k with
    | take => exact hfacts.2.2
    | httpdStop server => exact hfacts.2.2.2
  simp only [WebSys.follow, hpc] at hfollow
  obtain ⟨web, alive, pc, rfl, hcase⟩ := stopWebserver_frame h
  -- whatever happens to the handle
  have hmoved : WebSys.Owned { s with base := { s.base with
      ctx.webServer := web, serversAlive := alive, orch := pc } } := by
    refine ⟨fun w hw ↦ .inl (hinv.stopping_of_clear hclear hne hw), fun w hw ↦ ?_, hinv.cutOff⟩
    rcases hcase with ⟨k', rfl⟩ | rfl
    · cases hw
    · cases caller <;> cases hw
  rcases k with - | - | server <;> simp only at hfollow
  · obtain rfl := Option.some.inj hfollow
    exact hmoved
  · obtain rfl := Option.some.inj hfollow
    exact hmoved
  · split at hfollow
    · split at hfollow
      · cases hfollow
      · obtain rfl := Option.some.inj hfollow
        exact hmoved.of_http (by simp [HttpPc.registered]) (by simp)
    · obtain rfl := Option.some.inj hfollow
      exact hmoved

/-- **The orchestrator's step.** -/
theorem owned_orchestrator {ok : Bool} {base : Sys}
    (h : serverOrchestratorTask s.base ok = some base) (hfollow : s.follow ok base = some s')
    (hord : s.base.ServersOrdered) (hinv : s.Owned) : s'.Owned := by
  have hshutdown := (serverOrchestratorTask_outside h).shutdown
  cases hpc : s.base.orch
  case startWeb k =>
    simp only [serverOrchestratorTask, hpc] at h
    exact owned_startWeb h hpc hfollow hinv
  case stopWeb caller k =>
    simp only [serverOrchestratorTask, hpc] at h
    exact owned_stopWeb h hpc hfollow hord hinv
  all_goals simp only [WebSys.follow, hpc] at hfollow
  case stopClear | shutdownClear | exitClear =>
    simp only [serverOrchestratorTask, hpc] at h
    obtain rfl := Option.some.inj hfollow
    obtain rfl := Option.some.inj h
    have hne : s.base.orch ≠ .startSet := by rw [hpc]; simp
    refine ⟨fun w hw ↦ .inl ?_, fun w ↦ by simp, fun w hw ↦ ?_⟩
    · rw [List.mem_append, Option.mem_toList]
      exact (hinv.live w hw).symm.imp_left fun hcur ↦ hcur.1
    · exact (hinv.cutOff w hw).imp_right (List.mem_append_right _)
  all_goals
    obtain rfl := Option.some.inj hfollow
    obtain ⟨hweb, hrun, hpub⟩ := orchestrator_keeps_web h (by simp [hpc]) (by simp [hpc])
      (by simp [hpc])
    exact hinv.of_base hweb (fun hup ↦ .inl (hrun hup)) (fun w hw ↦ absurd hw (hpub w))
      hshutdown.trans

/-! ### The HTTP tasks -/

/-- **The step of an HTTP task.** It leaves its loop for stopping servers only when they are. -/
theorem owned_mainHandler {w : ℕ} {ok : Bool} (h : mainHandlerTask s w ok = some s')
    (hguard : NoPollBeforeSet s (.http w ok)) (hinv : s.Owned) : s'.Owned := by
  have hlive : (s.http w).registered = true → _ := hinv.live w
  cases hpc : s.http w <;> simp only [mainHandlerTask, hpc] at h
  case unregistered | idle | stopped => cases h
  case read left =>
    rw [hpc] at hlive
    cases left <;> obtain rfl := Option.some.inj h
    · exact hinv.of_http (fun _ ↦ hlive rfl) nofun
    · exact hinv.of_http (fun _ ↦ hlive rfl) (by cases ok <;> exact nofun)
  case poll left =>
    rw [hpc] at hlive
    obtain rfl := Option.some.inj h
    refine hinv.of_http (fun _ ↦ hlive rfl) fun hcut ↦ ?_
    cases hdown : s.base.ctx.events.shutdown with
    | true => exact .inl rfl
    | false =>
      -- the running bit was clear: outside the window the server is being stopped
      refine .inr ?_
      cases hrun : s.base.ctx.events.serversRunning with
      | true => simp [hdown, hrun] at hcut
      | false =>
        rcases hlive rfl with hstop | ⟨hcur, hset | horch⟩
        · exact hstop
        · exact absurd (hrun.symm.trans hset) (by decide)
        · simp [NoPollBeforeSet, PollsBeforeSet, hpc, hcur, horch, hdown] at hguard
  case send left =>
    rw [hpc] at hlive
    obtain rfl := Option.some.inj h
    exact hinv.of_http (fun _ ↦ hlive rfl) (by cases ok <;> exact nofun)
  case cutOff =>
    rw [hpc] at hlive
    obtain rfl := Option.some.inj h
    exact hinv.of_http (fun _ ↦ hlive rfl) nofun

/-! ### The run -/

theorem follow_base {ok : Bool} {base : Sys} (h : s.follow ok base = some s') :
    s'.base = base := by
  simp only [WebSys.follow] at h
  split at h
  · cases h
    rfl
  · split at h
    · split at h <;> cases h
      rfl
    · cases h
      rfl
  all_goals
    cases h
    rfl

/-- Without the HTTP tasks, a run is a run under arbitrary commands. -/
theorem base_reachable {G : WebSys → WebAction → Prop} (h : (webSystem cfg).ReachableBy G s) :
    (commandedSystem cfg).Reachable s.base := by
  refine h.project WebSys.base rfl fun s a s' _ hst ↦ ?_
  simp only [webSystem, WebSys.step] at hst
  split at hst
  · obtain ⟨base, hbase, hfollow⟩ := Option.bind_eq_some_iff.1 hst
    rw [follow_base hfollow]
    exact .inr ⟨.task (.orchestrator _), trivial, hbase⟩
  · rename_i a _ _
    obtain ⟨base, hbase, rfl⟩ := Option.map_eq_some_iff.1 hst
    exact .inr ⟨a, trivial, hbase⟩
  · split at hst
    · cases hst
    · split at hst <;> cases hst
      exact .inl rfl
  · split at hst
    · cases hst
    · simp only [mainHandlerTask] at hst
      split at hst <;> cases hst <;> exact .inl rfl

theorem owned_step {a : WebAction} (h : s.step cfg a = some s') (hguard : NoPollBeforeSet s a)
    (hord : s.base.ServersOrdered) (hinv : s.Owned) : s'.Owned := by
  simp only [WebSys.step] at h
  split at h
  · obtain ⟨base, hbase, hfollow⟩ := Option.bind_eq_some_iff.1 h
    exact owned_orchestrator (stepCommanded_task hbase) hfollow hord hinv
  · rename_i a hne
    obtain ⟨base, hbase, rfl⟩ := Option.map_eq_some_iff.1 h
    rcases commanded_step_cases hbase with ⟨ok, rfl, -⟩ | hsame
    · exact absurd rfl (hne ok)
    · refine hinv.of_base hsame.inside.webServer ?_ (fun w hw ↦ ?_) (shutdown_of_commanded hbase)
      · rw [hsame.inside.serversRunning, hsame.inside.orch]
        exact id
      · rw [hsame.inside.orch] at hw
        exact hsame.inside.webServer.trans (hinv.published w hw)
  · split at h
    · cases h
    · split at h <;> cases h
      rename_i hidle
      exact hinv.of_http (fun _ ↦ hinv.live _ (by rw [hidle]; rfl)) nofun
  · split at h
    · cases h
    · exact owned_mainHandler h hguard hinv

theorem owned_of_reachableBy (h : (webSystem cfg).ReachableBy NoPollBeforeSet s) : s.Owned := by
  refine h.invariant ⟨nofun, nofun, nofun⟩ fun s a s' hs hinv hguard hst ↦ ?_
  exact owned_step hst hguard (serversOrdered_of_commanded (base_reachable hs)) hinv

/-- **A download is cut off only when its server is stopping**, in a run in which no transfer polls
between the registration of its handler and the set of the running bit. -/
theorem download_cut_off_only_when_stopping
    (h : (webSystem cfg).ReachableBy NoPollBeforeSet s) (w : ℕ) (hw : s.http w = .cutOff) :
    s.base.ctx.events.shutdown = true ∨ w ∈ s.stopping :=
  (owned_of_reachableBy h).cutOff w hw

/-! ### Two runs -/

/-- The servers are started for a station, up to the registration of the handler. -/
def startUpToRegister : List WebAction :=
  [.base (.stations 1), .base (.post .start)] ++
    List.replicate 12 (.base (.task (.orchestrator true)))

/-- The running bit is set, a download begins, and `STOP` cuts it off. -/
theorem download_cut_off_only_when_stopping_stop : ∃ s,
    (webSystem defaultConfig).ReachableBy NoPollBeforeSet s ∧ s.http 0 = .cutOff ∧
      (s.base.ctx.events.shutdown = true ∨ 0 ∈ s.stopping) := by
  have hrun : ((webSystem defaultConfig).exec NoPollBeforeSet (webSystem defaultConfig).start
      (startUpToRegister ++ List.replicate 2 (.base (.task (.orchestrator true))) ++
        [.request 0 2, .http 0 true, .http 0 true, .http 0 true, .http 0 true,
          .base (.stations 0), .base (.post .stop)] ++
        List.replicate 4 (.base (.task (.orchestrator true))) ++ [.http 0 true])).any
      (fun s ↦ s.http 0 = .cutOff) = true := by decide +kernel
  obtain ⟨s, hs, hp⟩ := StepSystem.exists_reachableBy_of_exec hrun
  have hcut := of_decide_eq_true hp
  exact ⟨s, hs, hcut, download_cut_off_only_when_stopping hs 0 hcut⟩

/-- **The healthy download.** The first request comes right after the registration of the handler
and is cut off; nothing has begun to stop, and the running bit is set next. -/
theorem healthy_download_cut_off : ∃ s, (webSystem defaultConfig).Reachable s ∧
    s.http 0 = .cutOff ∧ s.base.ctx.events.shutdown = false ∧ s.stopping = [] ∧
      s.base.ctx.webServer = some 0 ∧ s.base.ctx.events.serversRunning = true := by
  have hrun : ((webSystem defaultConfig).exec (fun _ _ ↦ True) (webSystem defaultConfig).start
      (startUpToRegister ++ [.request 0 1, .http 0 true, .http 0 true,
        .base (.task (.orchestrator true))])).any
      (fun s ↦ s.http 0 = .cutOff ∧ s.base.ctx.events.shutdown = false ∧ s.stopping = [] ∧
        s.base.ctx.webServer = some 0 ∧ s.base.ctx.events.serversRunning = true) = true := by
    decide +kernel
  obtain ⟨s, hs, hp⟩ := StepSystem.exists_reachableBy_of_exec hrun
  exact ⟨s, hs, of_decide_eq_true hp⟩
