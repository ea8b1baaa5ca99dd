import SmartAp.Tasks.Context

/-!
# The server orchestrator

`server_orchestrator_task` with `start_dns_server`, `stop_dns_server`, `start_webserver` and
`stop_webserver` inlined, one shared access at a time. The Boolean argument of a step is the answer
of the environment at a call that can go two ways: a message arrived or the receive timed out, the
station list could be read or not, `xTaskCreate`, `httpd_start`, `httpd_stop` succeeded or not, the
wait for `EVT_DNS_STOPPED_BIT` saw the bit or expired. Steps without a choice ignore it.

`esp_restart` does not return: it sets `Sys.restarted`, after which nothing moves
(`SmartAp.Tasks.System`). The back-off delay of the `DNS_ERROR` branch is a pause between two steps
and leaves no trace in the state, so neither it nor its counter is kept.

## What a step can do

The functions are split the way the source is, and each has its own step. Callers of the
orchestrator's step reason through the `frame` lemmas: a step of the orchestrator never touches the
station count, the event queue, the event handler, the other tasks' places or the shutdown bits.
-/

/-- Where `start_dns_server` returns to. -/
def StartCaller.afterDns : StartCaller → OrchPc
  | .startCmd => .startWeb .test
  | .dnsErrorCmd => .loopTest

/-- Where `stop_dns_server` returns to: on to `stop_webserver`, but for `DNS_ERROR`, which starts
the DNS server again. -/
def StopCaller.afterDns : StopCaller → OrchPc
  | .dnsErrorCmd => .startDns .dnsErrorCmd .take
  | .stopCmd => .stopWeb .stopCmd .take
  | .shutdownCmd => .stopWeb .shutdownCmd .take
  | .orchExit => .stopWeb .orchExit .take

/-- Where `stop_webserver` returns to. `DNS_ERROR` does not call it. -/
def StopCaller.afterWeb : StopCaller → OrchPc
  | .stopCmd => .stopSetStopped
  | .dnsErrorCmd => .loopTest
  | .shutdownCmd => .shutdownSetStopped
  | .orchExit => .exitSetStopped

/-- The `switch (msg.cmd)`. -/
def ServerCmd.dispatch : ServerCmd → OrchPc
  | .start => .startTest
  | .stop => .stopTest
  | .shutdown => .shutdownTest
  | .dnsError => .dnsErrorTest

/-- One step of `start_dns_server`. `start_dns_server` gives up with `esp_restart` when the task
cannot be created, after clearing the running bit and giving the mutex back. -/
def startDnsServer (s : Sys) (caller : StartCaller) (ok : Bool) : StartDnsPc → Option Sys
  | .take =>
    if s.ctx.stateMtx then none
    else if s.ctx.dnsTask = none then
      some { s with ctx.stateMtx := true, orch := .startDns caller .clearStopped }
    else some { s with orch := caller.afterDns }
  | .clearStopped =>
    some { s with ctx.events.dnsStopped := false, orch := .startDns caller .setRunning }
  | .setRunning =>
    some { s with ctx.events.dnsRunning := true, orch := .startDns caller .create }
  | .create =>
    if ok then
      some { s with
        ctx.dnsTask := some s.dnsCreated
        dns := Function.update s.dns s.dnsCreated .checkRunning
        dnsCreated := s.dnsCreated + 1
        orch := .startDns caller .give }
    else
      some { s with
        ctx.events.dnsRunning := false, ctx.stateMtx := false, restarted := true }
  | .give => some { s with ctx.stateMtx := false, orch := caller.afterDns }

/-- One step of `stop_dns_server`, the only place where a descriptor of the DNS task is closed. -/
def stopDnsServer (s : Sys) (caller : StopCaller) (ok : Bool) : StopDnsPc → Option Sys
  | .test =>
    if s.ctx.stateMtx then none
    else if s.ctx.dnsTask = none then some { s with orch := caller.afterDns }
    else some { s with orch := .stopDns caller .clearRunning }
  | .clearRunning =>
    some { s with ctx.events.dnsRunning := false, orch := .stopDns caller .snapshot }
  | .snapshot =>
    if s.ctx.stateMtx then none
    else some { s with ctx.dnsSocket := none, orch := .stopDns caller (.wait s.ctx.dnsSocket) }
  | .wait sock =>
    if ok then
      if s.ctx.events.dnsStopped then
        some { s with ctx.events.dnsStopped := false, orch := .stopDns caller (.close sock) }
      else none
    else if s.ctx.events.dnsStopped then none
    else some { s with orch := .stopDns caller (.hung sock) }
  | .close sock =>
    some { s with
      socksClosed := sock.toList ++ s.socksClosed, orch := .stopDns caller .clearTask }
  | .clearTask =>
    if s.ctx.stateMtx then none
    else some { s with ctx.dnsTask := none, orch := caller.afterDns }
  | .hung sock =>
    some { s with
      socksClosed := sock.toList ++ s.socksClosed, orch := .stopDns caller .restart }
  | .restart => some { s with restarted := true }

/-- One step of `start_webserver`. The second critical section repeats the test of
`ctx->web_server` and stops the new server when another one was published meanwhile. -/
def startWebserver (s : Sys) (ok : Bool) : StartWebPc → Option Sys
  | .test =>
    if s.ctx.stateMtx then none
    else if s.ctx.webServer = none then some { s with orch := .startWeb .httpdStart }
    else some { s with orch := .startSet }
  | .httpdStart =>
    if ok then
      some { s with
        serversAlive := s.serversCreated :: s.serversAlive
        serversCreated := s.serversCreated + 1
        orch := .startWeb (.publish s.serversCreated) }
    else some { s with orch := .startSet }
  | .publish server =>
    if s.ctx.stateMtx then none
    else if s.ctx.webServer = none then
      some { s with ctx.webServer := some server, orch := .startWeb (.register server) }
    else
      some { s with
        serversAlive := if ok then s.serversAlive.erase server else s.serversAlive
        orch := .startSet }
  | .register _ => some { s with orch := .startSet }

/-- One step of `stop_webserver`. A failing `httpd_stop` is only logged. -/
def stopWebserver (s : Sys) (caller : StopCaller) (ok : Bool) : StopWebPc → Option Sys
  | .take =>
    if s.ctx.stateMtx then none
    else
      some { s with ctx.webServer := none, orch := .stopWeb caller (.httpdStop s.ctx.webServer) }
  | .httpdStop none => some { s with orch := caller.afterWeb }
  | .httpdStop (some server) =>
    some { s with
      serversAlive := if ok then s.serversAlive.erase server else s.serversAlive
      orch := caller.afterWeb }

/-- One step of `server_orchestrator_task`. -/
def serverOrchestratorTask (s : Sys) (ok : Bool) : Option Sys :=
  match s.orch with
  | .receive =>
    match s.ctx.serverCmdQueue, ok with
    | cmd :: rest, true => some { s with ctx.serverCmdQueue := rest, orch := cmd.dispatch }
    | [], false => some { s with orch := .timeoutTest }
    | _, _ => none
  | .timeoutTest =>
    some { s with orch := if s.ctx.events.shutdown then .exitTest else .receive }
  -- SERVER_CMD_START
  | .startTest =>
    some { s with orch := if s.ctx.events.serversRunning then .loopTest else .startList }
  | .startList =>
    -- skipped only when the list could be read and is empty
    some { s with
      orch := if ok && s.staCount = 0 then .loopTest else .startDns .startCmd .take }
  | .startDns caller k => startDnsServer s caller ok k
  | .startWeb k => startWebserver s ok k
  | .startSet => some { s with ctx.events.serversRunning := true, orch := .loopTest }
  -- SERVER_CMD_STOP
  | .stopTest =>
    some { s with orch := if s.ctx.events.serversRunning then .stopList else .stopSetStopped }
  | .stopList =>
    some { s with orch := if ok && s.staCount = 0 then .stopClear else .loopTest }
  | .stopClear =>
    some { s with ctx.events.serversRunning := false, orch := .stopDns .stopCmd .test }
  | .stopDns caller k => stopDnsServer s caller ok k
  | .stopWeb caller k => stopWebserver s caller ok k
  | .stopSetStopped => some { s with ctx.events.serversStopped := true, orch := .loopTest }
  -- SERVER_CMD_DNS_ERROR
  | .dnsErrorTest =>
    some { s with
      orch := if s.ctx.events.dnsRunning then .stopDns .dnsErrorCmd .test else .loopTest }
  -- SERVER_CMD_SHUTDOWN
  | .shutdownTest =>
    some { s with
      orch := if s.ctx.events.serversRunning then .shutdownClear else .shutdownSetStopped }
  | .shutdownClear =>
    some { s with ctx.events.serversRunning := false, orch := .stopDns .shutdownCmd .test }
  | .shutdownSetStopped =>
    some { s with ctx.events.serversStopped := true, orch := .shutdownSetDone }
  | .shutdownSetDone =>
    some { s with ctx.events.orchestratorDone := true, orch := .deleted }
  | .loopTest =>
    some { s with orch := if s.ctx.events.shutdown then .exitTest else .receive }
  -- orch_exit
  | .exitTest =>
    some { s with orch := if s.ctx.events.serversRunning then .exitClear else .exitSetStopped }
  | .exitClear =>
    some { s with ctx.events.serversRunning := false, orch := .stopDns .orchExit .test }
  | .exitSetStopped => some { s with ctx.events.serversStopped := true, orch := .exitSetDone }
  | .exitSetDone => some { s with ctx.events.orchestratorDone := true, orch := .deleted }
  | .deleted => none

/-! ### What a step can do -/

variable {s s' : Sys} {ok : Bool}

/-- `start_dns_server` touches the two DNS bits, the mutex, `ctx->dns_task` and the table of
instances; it stays inside or returns to its caller. -/
theorem startDnsServer_frame {caller : StartCaller} {k : StartDnsPc}
    (h : startDnsServer s caller ok k = some s') :
    ∃ stopped running mtx task dns n pc r,
      s' = { s with
        ctx.events.dnsStopped := stopped, ctx.events.dnsRunning := running
        ctx.stateMtx := mtx, ctx.dnsTask := task
        dns := dns, dnsCreated := n, orch := pc, restarted := r } ∧
      (pc = s.orch ∨ (∃ k', pc = .startDns caller k') ∨ pc = caller.afterDns) := by
  cases k <;> simp only [startDnsServer] at h
  case take =>
    split at h
    · cases h
    · split at h <;> obtain rfl := Option.some.inj h
      · exact ⟨_, _, _, _, _, _, _, _, rfl, .inr (.inl ⟨_, rfl⟩)⟩
      · exact ⟨_, _, _, _, _, _, _, _, rfl, .inr (.inr rfl)⟩
  case create =>
    split at h <;> obtain rfl := Option.some.inj h
    · exact ⟨_, _, _, _, _, _, _, _, rfl, .inr (.inl ⟨_, rfl⟩)⟩
    · exact ⟨_, _, _, _, _, _, _, _, rfl, .inl rfl⟩
  case give =>
    obtain rfl := Option.some.inj h
    exact ⟨_, _, _, _, _, _, _, _, rfl, .inr (.inr rfl)⟩
  all_goals
    obtain rfl := Option.some.inj h
    exact ⟨_, _, _, _, _, _, _, _, rfl, .inr (.inl ⟨_, rfl⟩)⟩

/-- `stop_dns_server` touches the two DNS bits, `ctx->dns_task`, `ctx->dns_socket` and the closed
descriptors; it stays inside or returns to its caller. -/
theorem stopDnsServer_frame {caller : StopCaller} {k : StopDnsPc}
    (h : stopDnsServer s caller ok k = some s') :
    ∃ stopped running task sock closed pc r,
      s' = { s with
        ctx.events.dnsStopped := stopped, ctx.events.dnsRunning := running
        ctx.dnsTask := task, ctx.dnsSocket := sock
        socksClosed := closed, orch := pc, restarted := r } ∧
      (pc = s.orch ∨ (∃ k', pc = .stopDns caller k') ∨ pc = caller.afterDns) := by
  cases k <;> simp only [stopDnsServer] at h
  case test =>
    split at h
    · cases h
    · split at h <;> obtain rfl := Option.some.inj h
      · exact ⟨_, _, _, _, _, _, _, rfl, .inr (.inr rfl)⟩
      · exact ⟨_, _, _, _, _, _, _, rfl, .inr (.inl ⟨_, rfl⟩)⟩
  case snapshot =>
    split at h <;> cases h
    exact ⟨_, _, _, _, _, _, _, rfl, .inr (.inl ⟨_, rfl⟩)⟩
  case wait sock =>
    split at h <;> split at h <;> cases h <;>
      exact ⟨_, _, _, _, _, _, _, rfl, .inr (.inl ⟨_, rfl⟩)⟩
  case restart =>
    obtain rfl := Option.some.inj h
    exact ⟨_, _, _, _, _, _, _, rfl, .inl rfl⟩
  case clearTask =>
    split at h <;> cases h
    exact ⟨_, _, _, _, _, _, _, rfl, .inr (.inr rfl)⟩
  all_goals
    obtain rfl := Option.some.inj h
    exact ⟨_, _, _, _, _, _, _, rfl, .inr (.inl ⟨_, rfl⟩)⟩

/-- `start_webserver` touches `ctx->web_server` and the HTTP servers; it stays inside or goes on
to set `EVT_SERVERS_RUNNING_BIT`. -/
theorem startWebserver_frame {k : StartWebPc} (h : startWebserver s ok k = some s') :
    ∃ web alive n pc,
      s' = { s with
        ctx.webServer := web, serversAlive := alive, serversCreated := n, orch := pc } ∧
      ((∃ k', pc = .startWeb k') ∨ pc = .startSet) := by
  cases k <;> simp only [startWebserver] at h
  case register =>
    obtain rfl := Option.some.inj h
    exact ⟨_, _, _, _, rfl, .inr rfl⟩
  case httpdStart =>
    split at h <;> obtain rfl := Option.some.inj h
    · exact ⟨_, _, _, _, rfl, .inl ⟨_, rfl⟩⟩
    · exact ⟨_, _, _, _, rfl, .inr rfl⟩
  all_goals
    split at h
    · cases h
    · split at h <;> obtain rfl := Option.some.inj h
      · exact ⟨_, _, _, _, rfl, .inl ⟨_, rfl⟩⟩
      · exact ⟨_, _, _, _, rfl, .inr rfl⟩

/-- `stop_webserver` touches `ctx->web_server` and the running servers; it stays inside or returns
to its caller. -/
theorem stopWebserver_frame {caller : StopCaller} {k : StopWebPc}
    (h : stopWebserver s caller ok k = some s') :
    ∃ web alive pc,
      s' = { s with ctx.webServer := web, serversAlive := alive, orch := pc } ∧
      ((∃ k', pc = .stopWeb caller k') ∨ pc = caller.afterWeb) := by
  rcases k with - | _ | server <;> simp only [stopWebserver] at h
  · split at h <;> cases h
    exact ⟨_, _, _, rfl, .inl ⟨_, rfl⟩⟩
  all_goals
    obtain rfl := Option.some.inj h
    exact ⟨_, _, _, rfl, .inr rfl⟩

/-- What the orchestrator never touches: the stations, the events and their handler, the tasks
around `free_proc`, and the bits that those tasks write. -/
structure Sys.SameOutside (s s' : Sys) : Prop where
  staCount : s'.staCount = s.staCount
  wifiEvents : s'.wifiEvents = s.wifiEvents
  handler : s'.handler = s.handler
  monitor : s'.monitor = s.monitor
  smartAp : s'.smartAp = s.smartAp
  beep : s'.beep = s.beep
  shutdownSem : s'.ctx.shutdownSem = s.ctx.shutdownSem
  shutdown : s'.ctx.events.shutdown = s.ctx.events.shutdown
  apDone : s'.ctx.events.apDone = s.ctx.events.apDone
  socksOpened : s'.socksOpened = s.socksOpened

theorem serverOrchestratorTask_outside (h : serverOrchestratorTask s ok = some s') :
    s.SameOutside s' := by
  cases hpc : s.orch <;> simp only [serverOrchestratorTask, hpc] at h
  case receive => split at h <;> cases h <;> constructor <;> rfl
  case startDns caller k =>
    obtain ⟨_, _, _, _, _, _, _, _, rfl, -⟩ := startDnsServer_frame h
    constructor <;> rfl
  case stopDns caller k =>
    obtain ⟨_, _, _, _, _, _, _, rfl, -⟩ := stopDnsServer_frame h
    constructor <;> rfl
  case startWeb k =>
    obtain ⟨_, _, _, _, rfl, -⟩ := startWebserver_frame h
    constructor <;> rfl
  case stopWeb caller k =>
    obtain ⟨_, _, _, rfl, -⟩ := stopWebserver_frame h
    constructor <;> rfl
  all_goals cases h <;> constructor <;> rfl
