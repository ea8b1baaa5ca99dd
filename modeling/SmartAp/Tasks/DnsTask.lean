import SmartAp.Tasks.Context

/-!
# The DNS task's life cycle

`dns_server_task` seen from the outside: when it reads the running bit, opens and publishes its
socket, and how it ends. What it does with a datagram is `SmartAp.Dns.Packet`; here the whole packet
handling is the one step `recv`, which comes back to the loop test or fails.

The Boolean is the environment's answer: `socket()` and `bind()` succeed or not; `recvfrom` delivers
a datagram or times out (`true`) or fails (`false`); a failure is transient (`true`, the task sleeps
and goes on) or fatal; the send of `DNS_ERROR` finds room or times out.

The task never closes its socket and never clears `ctx->dns_socket`: both are left to
`stop_dns_server`.
-/

/-- One step of DNS task instance `i`. -/
def dnsServerTask (cfg : TaskConfig) (s : Sys) (i : ℕ) (ok : Bool) : Option Sys :=
  match s.dns i with
  | .unborn => none
  | .checkRunning =>
    some { s with
      dns := Function.update s.dns i
        (if s.ctx.events.dnsRunning then .socket else .setStopped false) }
  | .socket =>
    if ok then
      some { s with
        socksOpened := s.socksOpened + 1
        dns := Function.update s.dns i (.store s.socksOpened) }
    else some { s with dns := Function.update s.dns i (.setStopped true) }
  | .store sock =>
    if s.ctx.stateMtx then none
    else
      some { s with
        ctx.dnsSocket := some sock, dns := Function.update s.dns i (.bind sock) }
  | .bind sock =>
    some { s with
      dns := Function.update s.dns i (if ok then .loopTest sock else .setStopped true) }
  | .loopTest sock =>
    some { s with
      dns := Function.update s.dns i
        (if s.ctx.events.dnsRunning then .recv sock else .setStopped false) }
  | .recv sock =>
    some { s with dns := Function.update s.dns i (if ok then .loopTest sock else .recvError sock) }
  | .recvError sock =>
    some { s with
      dns := Function.update s.dns i
        (if !s.ctx.events.dnsRunning then .setStopped false
          else if ok then .loopTest sock else .setStopped true) }
  | .setStopped exitedByError =>
    some { s with
      ctx.events.dnsStopped := true
      dns := Function.update s.dns i (if exitedByError then .testRunning else .deleted) }
  | .testRunning =>
    some { s with
      dns := Function.update s.dns i
        (if s.ctx.events.dnsRunning then .sendError else .deleted) }
  | .sendError =>
    (s.ctx.queueSend cfg.serverCmdQueueSize .dnsError ok).map fun ctx ↦
      { s with ctx := ctx, dns := Function.update s.dns i .deleted }
  | .deleted => none

/-! ### What a step can do -/

variable {cfg : TaskConfig} {s s' : Sys} {i : ℕ} {ok : Bool}

/-- A step of a DNS task touches its own place, the published descriptor, the stopped bit, the
command queue (only to append `DNS_ERROR`) and the count of opened sockets. -/
theorem dnsServerTask_frame (h : dnsServerTask cfg s i ok = some s') :
    ∃ sock stopped queue pc n,
      s' = { s with
        ctx.dnsSocket := sock, ctx.events.dnsStopped := stopped, ctx.serverCmdQueue := queue
        dns := Function.update s.dns i pc, socksOpened := n } ∧
      (queue = s.ctx.serverCmdQueue ∨ queue = s.ctx.serverCmdQueue ++ [.dnsError]) := by
  cases hpc : s.dns i <;> simp only [dnsServerTask, hpc] at h
  case unborn | deleted => cases h
  case socket =>
    split at h <;> obtain rfl := Option.some.inj h
    · exact ⟨_, _, _, _, _, rfl, .inl rfl⟩
    · exact ⟨_, _, _, _, _, rfl, .inl rfl⟩
  case store sock =>
    split at h <;> cases h
    exact ⟨_, _, _, _, _, rfl, .inl rfl⟩
  case sendError =>
    obtain ⟨ctx, hctx, rfl⟩ := Option.map_eq_some_iff.1 h
    rcases SysCtx.queueSend_cases hctx with rfl | rfl
    · exact ⟨_, _, _, _, _, rfl, .inr rfl⟩
    · exact ⟨_, _, _, _, _, rfl, .inl rfl⟩
  all_goals
    obtain rfl := Option.some.inj h
    exact ⟨_, _, _, _, _, rfl, .inl rfl⟩
