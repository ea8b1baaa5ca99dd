import SmartAp.Tasks.Context

/-!
# Stations and the Wi-Fi event handler

The Wi-Fi driver counts stations and posts one event for each change, in one atomic step
(`stationConnects`, `stationDisconnects`). The event loop takes the events in order and runs
`wifi_event_handler` on one at a time.

The handler only reads shared state and sends commands: it reads the station list, tests the
shutdown bit (twice) and `EVT_SERVERS_RUNNING_BIT`, and sends `START` or `STOP`. The list read on
a connect only feeds a log line. The remaining events of the source (`AP_START`, `STA_START`,
`SCAN_DONE`) touch nothing the other modelled tasks read and are left out.
-/

/-- A station joins: the count goes up and the event is posted. -/
def stationConnects (s : Sys) : Option Sys :=
  some { s with
    staCount := s.staCount + 1, wifiEvents := s.wifiEvents ++ [.staConnected] }

/-- A station leaves. -/
def stationDisconnects (s : Sys) : Option Sys :=
  if s.staCount = 0 then none
  else
    some { s with
      staCount := s.staCount - 1, wifiEvents := s.wifiEvents ++ [.staDisconnected] }

/-- The branch `wifi_event_handler` takes for an event. -/
def WifiEvent.branch : WifiEvent → HandlerPc
  | .staConnected => .connList
  | .staDisconnected => .discList

/-- One step of the event loop running `wifi_event_handler`. `ok` is the answer of
`esp_wifi_ap_get_sta_list` and of `xQueueSend`. -/
def wifiEventHandler (cfg : TaskConfig) (s : Sys) (ok : Bool) : Option Sys :=
  match s.handler with
  | .idle =>
    match s.wifiEvents with
    | [] => none
    | ev :: rest => some { s with wifiEvents := rest, handler := .entry ev }
  | .entry ev =>
    some { s with handler := if s.ctx.events.shutdown then .idle else ev.branch }
  | .connList => some { s with handler := .connTest }
  | .connTest =>
    some { s with handler := if s.ctx.events.serversRunning then .idle else .connShutdownTest }
  | .connShutdownTest =>
    some { s with handler := if s.ctx.events.shutdown then .idle else .connSend }
  | .connSend =>
    (s.ctx.queueSend cfg.serverCmdQueueSize .start ok).map fun ctx ↦
      { s with ctx := ctx, handler := .idle }
  | .discList =>
    some { s with handler := if ok && s.staCount = 0 then .discShutdownTest else .idle }
  | .discShutdownTest =>
    some { s with handler := if s.ctx.events.shutdown then .idle else .discSend }
  | .discSend =>
    (s.ctx.queueSend cfg.serverCmdQueueSize .stop ok).map fun ctx ↦
      { s with ctx := ctx, handler := .idle }

/-! ### What a step can do -/

variable {cfg : TaskConfig} {s s' : Sys} {ok : Bool}

/-- A station that leaves touches the count and the event queue. -/
theorem stationDisconnects_frame (h : stationDisconnects s = some s') :
    ∃ n evs, s' = { s with staCount := n, wifiEvents := evs } := by
  rw [stationDisconnects] at h
  split at h
  · cases h
  · obtain rfl := Option.some.inj h
    exact ⟨_, _, rfl⟩

/-- The handler touches its own place, the event queue and the command queue. -/
theorem wifiEventHandler_frame (h : wifiEventHandler cfg s ok = some s') :
    ∃ evs pc queue,
      s' = { s with wifiEvents := evs, handler := pc, ctx.serverCmdQueue := queue } ∧
      (queue = s.ctx.serverCmdQueue ∨ queue = s.ctx.serverCmdQueue ++ [.start] ∨
        queue = s.ctx.serverCmdQueue ++ [.stop]) := by
  cases hpc : s.handler <;> simp only [wifiEventHandler, hpc] at h
  case idle =>
    split at h <;> cases h
    exact ⟨_, _, _, rfl, .inl rfl⟩
  case connSend | discSend =>
    obtain ⟨ctx, hctx, rfl⟩ := Option.map_eq_some_iff.1 h
    rcases SysCtx.queueSend_cases hctx with rfl | rfl
    · exact ⟨_, _, _, rfl, .inr (by simp)⟩
    · exact ⟨_, _, _, rfl, .inl rfl⟩
  all_goals
    obtain rfl := Option.some.inj h
    exact ⟨_, _, _, rfl, .inl rfl⟩
