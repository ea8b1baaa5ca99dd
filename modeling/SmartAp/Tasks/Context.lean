import SmartAp.Transition.Guarded
import Mathlib.Data.Nat.Notation
import Mathlib.Logic.Function.Basic

/-!
# The shared system context and the program counters of the tasks

The tasks of the firmware share one `sys_ctx_t`: an event group, a mutex, the shutdown semaphore,
the handles of the two servers and the command queue of the orchestrator. This module holds that
record and, for each task, the places its code can stand at between two accesses to shared state.
The steps themselves are in `SmartAp.Tasks.Orchestrator`, `SmartAp.Tasks.DnsTask`,
`SmartAp.Tasks.WifiEvents` and `SmartAp.Tasks.PowerMgmt`; `SmartAp.Tasks.System` interleaves them.

## Granularity

Every test, set and clear of an event bit, every queue operation, every read of the station list
and every call that creates or destroys a server is a step of its own. A critical section under
`ctx->state_mtx` whose body is a single access (the test of `dns_task`, the read-and-clear of
`dns_socket`, the store of a descriptor) is one step, enabled while the mutex is free. The one
section with several steps inside, in `start_dns_server`, holds the mutex across them
(`SysCtx.stateMtx`).

## Identities

Instances of the DNS task, HTTP server instances and socket descriptors are numbered as they are
created, and a number is never used twice. A descriptor is thus an *opened socket*, not the small
integer the operating system hands out and later reuses: "closed exactly once" is a statement about
one call of `socket()`.
-/

/-- `server_cmd_t`. -/
inductive ServerCmd
  | start
  | stop
  | shutdown
  | dnsError
  deriving DecidableEq, Repr

/-- The event group `ctx->events`, one field for each `EVT_*_BIT` that a modelled task reads or
writes. -/
structure EventBits where
  shutdown : Bool := false
  dnsRunning : Bool := false
  beepDone : Bool := false
  apDone : Bool := false
  battDone : Bool := false
  serversRunning : Bool := false
  serversStopped : Bool := false
  orchestratorDone : Bool := false
  dnsStopped : Bool := false
  resetDone : Bool := false
  deriving DecidableEq, Repr

/-- `sys_ctx_t`. A handle is `none` where the C field is `NULL`, `dnsSocket` is `none` where it
is `-1`. -/
structure SysCtx where
  events : EventBits := {}
  /-- `state_mtx` is held across steps (only `start_dns_server` does). -/
  stateMtx : Bool := false
  /-- `shutdown_sem` is available. -/
  shutdownSem : Bool := true
  webServer : Option ℕ := none
  dnsSocket : Option ℕ := none
  dnsTask : Option ℕ := none
  serverCmdQueue : List ServerCmd := []
  deriving DecidableEq, Repr

/-! ### The orchestrator -/

/-- Who called `start_dns_server`. -/
inductive StartCaller
  | startCmd
  | dnsErrorCmd
  deriving DecidableEq, Repr

/-- Who called `stop_dns_server` (and, but for `dnsErrorCmd`, `stop_webserver` after it). -/
inductive StopCaller
  | stopCmd
  | dnsErrorCmd
  | shutdownCmd
  | orchExit
  deriving DecidableEq, Repr

/-- Places inside `start_dns_server`. -/
inductive StartDnsPc
  /-- `xSemaphoreTake(ctx->state_mtx)` and the test of `ctx->dns_task`. -/
  | take
  | clearStopped
  | setRunning
  /-- `xTaskCreate(dns_server_task, ..., &ctx->dns_task)`. -/
  | create
  | give
  deriving DecidableEq, Repr

/-- Places inside `stop_dns_server`; `sock` is its local variable. -/
inductive StopDnsPc
  | test
  | clearRunning
  /-- `sock = ctx->dns_socket; ctx->dns_socket = -1` under the mutex, then `shutdown(sock)`. -/
  | snapshot
  /-- `xEventGroupWaitBits(EVT_DNS_STOPPED_BIT)`, clearing the bit on exit. -/
  | wait (sock : Option ℕ)
  | close (sock : Option ℕ)
  | clearTask
  /-- The wait expired: the socket is closed, then `esp_restart` is called. -/
  | hung (sock : Option ℕ)
  | restart
  deriving DecidableEq, Repr

/-- Places inside `start_webserver`. -/
inductive StartWebPc
  | test
  | httpdStart
  /-- The second critical section, with the handle `httpd_start` returned. -/
  | publish (server : ℕ)
  | register (server : ℕ)
  deriving DecidableEq, Repr

/-- Places inside `stop_webserver`. -/
inductive StopWebPc
  | take
  | httpdStop (server : Option ℕ)
  deriving DecidableEq, Repr

/-- Places inside `server_orchestrator_task`. -/
inductive OrchPc
  | receive
  /-- The receive timed out; the shutdown bit is tested. -/
  | timeoutTest
  | startTest
  | startList
  | startDns (caller : StartCaller) (k : StartDnsPc)
  | startWeb (k : StartWebPc)
  | startSet
  | stopTest
  | stopList
  /-- `STOP` read an empty station list; `EVT_SERVERS_RUNNING_BIT` is about to be cleared. -/
  | stopClear
  | stopDns (caller : StopCaller) (k : StopDnsPc)
  | stopWeb (caller : StopCaller) (k : StopWebPc)
  | stopSetStopped
  | dnsErrorTest
  | shutdownTest
  | shutdownClear
  | shutdownSetStopped
  | shutdownSetDone
  /-- The test of the shutdown bit after the `switch`. -/
  | loopTest
  | exitTest
  | exitClear
  | exitSetStopped
  | exitSetDone
  | deleted
  deriving DecidableEq, Repr

/-! ### The DNS task -/

/-- Places inside `dns_server_task`. The descriptor is the local variable `sock`, the flag is
`exited_by_error`. -/
inductive DnsPc
  /-- The number does not name an instance yet. -/
  | unborn
  | checkRunning
  | socket
  /-- `socket()` has returned; `ctx->dns_socket = sock` comes next. -/
  | store (sock : ℕ)
  | bind (sock : ℕ)
  | loopTest (sock : ℕ)
  | recv (sock : ℕ)
  /-- `recvfrom` failed with an error that is not a timeout. -/
  | recvError (sock : ℕ)
  | setStopped (exitedByError : Bool)
  | testRunning
  | sendError
  | deleted
  deriving DecidableEq, Repr

/-- The instance has set `EVT_DNS_STOPPED_BIT`, or was never created. -/
def DnsPc.finished : DnsPc → Bool
  | .unborn | .testRunning | .sendError | .deleted => true
  | _ => false

/-! ### Wi-Fi events -/

/-- The two station events `wifi_event_handler` turns into commands. -/
inductive WifiEvent
  | staConnected
  | staDisconnected
  deriving DecidableEq, Repr

/-- Places inside `wifi_event_handler`. -/
inductive HandlerPc
  | idle
  /-- The event was taken from the event queue; the shutdown bit is tested first. -/
  | entry (ev : WifiEvent)
  | connList
  | connTest
  | connShutdownTest
  | connSend
  | discList
  | discShutdownTest
  | discSend
  deriving DecidableEq, Repr

/-! ### Shutdown -/

/-- Which task runs `free_proc`. -/
inductive MonitorKind
  | battery
  | resetTimer
  deriving DecidableEq, Repr

/-- The teardown part of `free_proc`, call by call. -/
inductive TeardownPc
  | wifiDeauth
  | wifiStop
  | handlerUnregister
  | wifiDeinit
  | eventLoopDelete
  | storageDeinit
  | nvsDeinit
  deriving DecidableEq, Repr

/-- Places inside `battery_monitor_task` and `reset_timer_task`, with `free_proc` inlined. -/
inductive MonitorPc
  /-- The battery is measured, or the uptime is read. -/
  | measure
  /-- Waiting for `EVT_SHUTDOWN_BIT` or the next measurement. -/
  | waiting
  /-- The trigger fired: the task sets its own done bit, then calls `free_proc`. -/
  | triggered
  | takeSem
  | setShutdown
  | sendShutdown
  | waitDone
  /-- `done_bits` as returned by the wait; the critical tasks are checked. -/
  | checkCritical (orchestratorDone apDone : Bool)
  | teardown (k : TeardownPc)
  /-- `free_proc` has returned. -/
  | returned (result : Bool)
  | setDone
  | deleted
  deriving DecidableEq, Repr

/-- Places inside `smart_ap_task`. -/
inductive SmartApPc
  | waiting
  | scanning
  | shutdownTest
  | applyChannel
  | setDone
  | deleted
  deriving DecidableEq, Repr

/-- Places inside `beep_task`. -/
inductive BeepPc
  | shutdownTest
  | session
  | setDone
  | deleted
  deriving DecidableEq, Repr

/-! ### The whole state -/

/-- The compile-time choices the tasks depend on. -/
structure TaskConfig where
  /-- `CONFIG_SMART_AP_SERVER_CMD_QUEUE_SIZE`. -/
  serverCmdQueueSize : ℕ
  /-- `CONFIG_SMART_AP_BATTERY_CONTROL_ENABLED`. -/
  batteryControl : Bool
  /-- The tasks that may call `free_proc`. -/
  monitorKind : ℕ → MonitorKind

/-- The state of the firmware's tasks and of what they share. -/
structure Sys where
  ctx : SysCtx := {}
  /-- Stations the access point counts as connected. -/
  staCount : ℕ := 0
  /-- Events posted and not yet taken by the event loop. -/
  wifiEvents : List WifiEvent := []
  handler : HandlerPc := .idle
  orch : OrchPc := .receive
  dns : ℕ → DnsPc := fun _ ↦ .unborn
  /-- DNS task instances created so far. -/
  dnsCreated : ℕ := 0
  /-- Descriptors `socket()` has returned so far. -/
  socksOpened : ℕ := 0
  /-- The descriptors passed to `close()`, latest first. -/
  socksClosed : List ℕ := []
  /-- HTTP servers `httpd_start` has created so far. -/
  serversCreated : ℕ := 0
  /-- HTTP servers that are running. -/
  serversAlive : List ℕ := []
  monitor : ℕ → MonitorPc
  smartAp : SmartApPc := .waiting
  beep : BeepPc := .shutdownTest
  /-- `esp_restart` or deep sleep has ended the run. -/
  restarted : Bool := false

/-- `xQueueSend` on the command queue: there is room, or the timeout expires. `ok` tells which. -/
def SysCtx.queueSend (size : ℕ) (c : SysCtx) (cmd : ServerCmd) (ok : Bool) : Option SysCtx :=
  if ok then
    if c.serverCmdQueue.length < size then
      some { c with serverCmdQueue := c.serverCmdQueue ++ [cmd] }
    else none
  else if c.serverCmdQueue.length < size then none
  else some c

/-- A send appends the command or, when it fails, changes nothing. -/
theorem SysCtx.queueSend_cases {size : ℕ} {c c' : SysCtx} {cmd : ServerCmd} {ok : Bool}
    (h : c.queueSend size cmd ok = some c') :
    c' = { c with serverCmdQueue := c.serverCmdQueue ++ [cmd] } ∨ c' = c := by
  unfold SysCtx.queueSend at h
  split at h <;> split at h <;> simp_all

/-- A send that does not fail appends the command. -/
theorem SysCtx.queueSend_true {size : ℕ} {c c' : SysCtx} {cmd : ServerCmd}
    (h : c.queueSend size cmd true = some c') :
    c' = { c with serverCmdQueue := c.serverCmdQueue ++ [cmd] } := by
  unfold SysCtx.queueSend at h
  split at h <;> split at h <;> simp_all

/-- A send that fails changes nothing. -/
theorem SysCtx.queueSend_false {size : ℕ} {c c' : SysCtx} {cmd : ServerCmd}
    (h : c.queueSend size cmd false = some c') : c' = c := by
  unfold SysCtx.queueSend at h
  split at h <;> split at h <;> simp_all
