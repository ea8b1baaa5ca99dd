import SmartAp.Tasks.AnyCommands

/-!
# What the running bit says

`EVT_SERVERS_RUNNING_BIT` is what `START` and `STOP` go by: a `START` that finds it set does
nothing. It should be set exactly when both servers are up.

## The failed start

`start_webserver` returns nothing. When `httpd_start` fails it logs the failure and returns, and the
orchestrator sets the bit as after a success; until the next stop every `START` is ignored although
no HTTP server runs. `start_dns_server`, called just before, restarts the device in the same
situation. `bit_set_without_webserver` is that run.

## What holds

In every run in which `httpd_start` does not fail, under any commands, the bit tells the truth
whenever the orchestrator waits for a command (`running_bit_truthful`). A clear bit means that
nothing runs (`Sys.ServersOrdered`); that a set bit means that both servers run is `OrchPc.UpFacts`,
which follows the two handles through `start_dns_server`, `start_webserver` and the restart of the
DNS task. A failing `httpd_stop` does no harm here: `ctx->web_server` is cleared before the call.
-/

/-- An HTTP server runs and `ctx->web_server` is its handle. -/
def Sys.WebUp (s : Sys) : Prop := ∃ w, s.ctx.webServer = some w ∧ w ∈ s.serversAlive

/-- There is a DNS task and it is supposed to run. -/
def Sys.DnsUp (s : Sys) : Prop := s.ctx.dnsTask ≠ none ∧ s.ctx.events.dnsRunning = true

/-- The running bit, the HTTP server, the handle of the DNS task and the running bit of the DNS
server agree. -/
def Sys.BitTruthful (s : Sys) : Prop :=
  (s.ctx.events.serversRunning = true ↔ s.WebUp) ∧ (s.WebUp ↔ s.ctx.dnsTask ≠ none) ∧
    (s.ctx.dnsTask ≠ none ↔ s.ctx.events.dnsRunning = true)

/-- `httpd_start` does not fail at this step. -/
def HttpdStarts (s : Sys) (a : CommandAction) : Prop :=
  ¬(s.orch = .startWeb .httpdStart ∧ a = .task (.orchestrator false))

instance (s : Sys) (a : CommandAction) : Decidable (HttpdStarts s a) := by
  unfold HttpdStarts; infer_instance

/-- The HTTP server while `start_dns_server` runs for this caller. -/
def StartCaller.WebFacts (s : Sys) : StartCaller → Prop
  | .startCmd => s.ctx.webServer = none
  | .dnsErrorCmd => s.WebUp

/-- What is up at a place of the orchestrator. -/
def OrchPc.UpFacts (s : Sys) : OrchPc → Prop
  | .receive | .timeoutTest | .startTest | .stopTest | .dnsErrorTest | .shutdownTest | .loopTest
  | .exitTest => s.ctx.events.serversRunning = true → s.WebUp ∧ s.DnsUp
  | .startDns caller k =>
    caller.WebFacts s ∧
      match k with
      | .take => s.ctx.dnsTask = none
      | .clearStopped | .setRunning => True
      | .create => s.restarted = false → s.ctx.events.dnsRunning = true
      | .give => s.DnsUp
  | .startWeb k =>
    s.DnsUp ∧
      match k with
      | .test | .httpdStart => s.ctx.webServer = none
      | .publish w => s.ctx.webServer = none ∧ w ∈ s.serversAlive
      | .register _ => s.WebUp
  | .startSet | .stopList => s.WebUp ∧ s.DnsUp
  | .stopDns .dnsErrorCmd _ => s.WebUp
  | _ => True

variable {cfg : TaskConfig} {s s' : Sys}

/-! ### The orchestrator -/

/-- Both servers stay as they are. -/
structure Sys.SameUp (s s' : Sys) : Prop where
  webServer : s'.ctx.webServer = s.ctx.webServer := by rfl
  serversAlive : s'.serversAlive = s.serversAlive := by rfl
  dnsTask : s'.ctx.dnsTask = s.ctx.dnsTask := by rfl
  dnsRunning : s'.ctx.events.dnsRunning = s.ctx.events.dnsRunning := by rfl
  serversRunning : s'.ctx.events.serversRunning = s.ctx.events.serversRunning := by rfl

theorem Sys.SameUp.webUp (h : s.SameUp s') : s'.WebUp ↔ s.WebUp := by
  unfold Sys.WebUp
  rw [h.webServer, h.serversAlive]

theorem Sys.SameUp.dnsUp (h : s.SameUp s') : s'.DnsUp ↔ s.DnsUp := by
  unfold Sys.DnsUp
  rw [h.dnsTask, h.dnsRunning]

theorem Sys.SameUp.webFacts (h : s.SameUp s') (caller : StartCaller) :
    caller.WebFacts s' ↔ caller.WebFacts s := by
  cases caller with
  | startCmd =>
    unfold StartCaller.WebFacts
    rw [h.webServer]
  | dnsErrorCmd => exact h.webUp

theorem OrchPc.UpFacts.of_same {pc : OrchPc} (hfacts : pc.UpFacts s) (h : s.SameUp s')
    (hlive : s.restarted = false) : pc.UpFacts s' := by
  cases pc with
  | receive | timeoutTest | startTest | stopTest | dnsErrorTest | shutdownTest | loopTest
  | exitTest =>
    intro hrun
    obtain ⟨hweb, hdns⟩ := hfacts (h.serversRunning.symm.trans hrun)
    exact ⟨h.webUp.2 hweb, h.dnsUp.2 hdns⟩
  | startDns caller k =>
    obtain ⟨hweb, hk⟩ := hfacts
    refine ⟨(h.webFacts caller).2 hweb, ?_⟩
    cases k with
    | take => exact h.dnsTask.trans hk
    | clearStopped | setRunning => trivial
    | create => exact fun _ ↦ h.dnsRunning.trans (hk hlive)
    | give => exact h.dnsUp.2 hk
  | startWeb k =>
    obtain ⟨hdns, hk⟩ := hfacts
    refine ⟨h.dnsUp.2 hdns, ?_⟩
    cases k with
    | test | httpdStart => exact h.webServer.trans hk
    | publish w => exact ⟨h.webServer.trans hk.1, h.serversAlive ▸ hk.2⟩
    | register w => exact h.webUp.2 hk
  | startSet | stopList => exact ⟨h.webUp.2 hfacts.1, h.dnsUp.2 hfacts.2⟩
  | stopDns caller k =>
    cases caller with
    | dnsErrorCmd => exact h.webUp.2 hfacts
    | stopCmd | shutdownCmd | orchExit => trivial
  | _ => trivial

theorem upFacts_startDns {caller : StartCaller} {k : StartDnsPc} {ok : Bool}
    (h : startDnsServer s caller ok k = some s') (hpc : s.orch = .startDns caller k)
    (hlive : s.restarted = false) (hinv : s.orch.UpFacts s) : s'.orch.UpFacts s' := by
  rw [hpc] at hinv
  obtain ⟨hweb, hk⟩ := hinv
  -- back in the caller both servers are up, or the HTTP server is started next
  have hafter : ∀ t : Sys, caller.WebFacts t → t.DnsUp → caller.afterDns.UpFacts t := by
    intro t hw hd
    cases caller with
    | startCmd => exact ⟨hd, hw⟩
    | dnsErrorCmd => exact fun _ ↦ ⟨hw, hd⟩
  cases k <;> simp only [startDnsServer] at h
  case take =>
    split at h
    · cases h
    · obtain rfl := Option.some.inj h
      exact ⟨by cases caller <;> exact hweb, trivial⟩
  case clearStopped =>
    obtain rfl := Option.some.inj h
    exact ⟨by cases caller <;> exact hweb, trivial⟩
  case setRunning =>
    obtain rfl := Option.some.inj h
    exact ⟨by cases caller <;> exact hweb, fun _ ↦ rfl⟩
  case create =>
    split at h <;> obtain rfl := Option.some.inj h
    · exact ⟨by cases caller <;> exact hweb, by simp, hk hlive⟩
    · show s.orch.UpFacts _
      rw [hpc]
      exact ⟨by cases caller <;> exact hweb, by simp⟩
  case give =>
    obtain rfl := Option.some.inj h
    exact hafter _ (by cases caller <;> exact hweb) hk

theorem upFacts_startWeb {k : StartWebPc} {ok : Bool} (h : startWebserver s ok k = some s')
    (hpc : s.orch = .startWeb k) (hok : k = .httpdStart → ok = true)
    (hinv : s.orch.UpFacts s) : s'.orch.UpFacts s' := by
  rw [hpc] at hinv
  obtain ⟨hdns, hk⟩ := hinv
  cases k <;> simp only [startWebserver] at h
  case test =>
    split at h
    · cases h
    · obtain rfl := Option.some.inj h
      exact ⟨hdns, hk⟩
  case httpdStart =>
    rw [hok rfl] at h
    obtain rfl := Option.some.inj h
    exact ⟨hdns, hk, List.mem_cons_self⟩
  case publish w =>
    obtain ⟨hnone, halive⟩ := hk
    split at h
    · cases h
    · obtain rfl := Option.some.inj h
      exact ⟨hdns, w, rfl, halive⟩
  case register w =>
    obtain rfl := Option.some.inj h
    exact ⟨hk, hdns⟩

theorem upFacts_stopDns {caller : StopCaller} {k : StopDnsPc} {ok : Bool}
    (h : stopDnsServer s caller ok k = some s') (hpc : s.orch = .stopDns caller k)
    (hinv : s.orch.UpFacts s) : s'.orch.UpFacts s' := by
  cases caller with
  | dnsErrorCmd =>
    -- the HTTP server is left alone, and the DNS task is gone before it is started again
    have hweb : s.WebUp := by rw [hpc] at hinv; exact hinv
    cases k <;> simp only [stopDnsServer] at h
    case test =>
      split at h
      · cases h
      · split at h <;> obtain rfl := Option.some.inj h
        · exact ⟨hweb, ‹_›⟩
        · exact hweb
    case snapshot =>
      split at h <;> cases h
      exact hweb
    case wait sock => split at h <;> split at h <;> cases h <;> exact hweb
    case clearTask =>
      split at h <;> cases h
      exact ⟨hweb, rfl⟩
    case restart =>
      obtain rfl := Option.some.inj h
      show s.orch.UpFacts _
      rw [hpc]
      exact hweb
    all_goals
      obtain rfl := Option.some.inj h
      exact hweb
  | stopCmd | shutdownCmd | orchExit =>
    obtain ⟨_, _, _, _, _, _, _, rfl, hcase⟩ := stopDnsServer_frame h
    rw [hpc] at hcase
    rcases hcase with rfl | ⟨k', rfl⟩ | rfl <;> trivial

/-- **The orchestrator's step.** -/
theorem upFacts_orchestrator {ok : Bool} (h : serverOrchestratorTask s ok = some s')
    (hguard : HttpdStarts s (.task (.orchestrator ok))) (hlive : s.restarted = false)
    (hord : s.ServersOrdered) (hinv : s.orch.UpFacts s) : s'.orch.UpFacts s' := by
  have hfacts := hord.facts
  cases hpc : s.orch <;> simp only [serverOrchestratorTask, hpc] at h
  case startDns caller k => exact upFacts_startDns h hpc hlive hinv
  case startWeb k =>
    refine upFacts_startWeb h hpc (fun hk ↦ ?_) hinv
    rw [← Bool.not_eq_false]
    rintro rfl
    exact hguard ⟨hk ▸ hpc, rfl⟩
  case stopDns caller k => exact upFacts_stopDns h hpc hinv
  all_goals rw [hpc] at hinv hfacts
  case receive =>
    split at h <;> cases h
    · rename_i cmd _ _
      cases cmd <;> exact hinv
    · exact hinv
  case timeoutTest | loopTest =>
    obtain rfl := Option.some.inj h
    cases hdown : s.ctx.events.shutdown <;> simp only <;> exact hinv
  case startTest =>
    obtain rfl := Option.some.inj h
    cases hrun : s.ctx.events.serversRunning <;> simp only
    · trivial
    · exact fun _ ↦ hinv hrun
  case startList =>
    obtain rfl := Option.some.inj h
    obtain ⟨hdns, -, hweb, hclear⟩ : s.Down := hfacts
    cases hempty : ok && decide (s.staCount = 0) <;> simp only
    · exact ⟨hweb, hdns⟩
    · exact fun hrun ↦ absurd (hclear.symm.trans hrun) (by decide)
  case startSet =>
    obtain rfl := Option.some.inj h
    exact fun _ ↦ hinv
  case stopTest =>
    obtain rfl := Option.some.inj h
    cases hrun : s.ctx.events.serversRunning <;> simp only
    · trivial
    · exact hinv hrun
  case stopList =>
    obtain rfl := Option.some.inj h
    cases hempty : ok && decide (s.staCount = 0) <;> simp only
    · exact fun _ ↦ hinv
    · trivial
  case dnsErrorTest =>
    obtain rfl := Option.some.inj h
    cases hdns : s.ctx.events.dnsRunning <;> simp only
    · exact hinv
    · -- the DNS server is supposed to run only while the running bit is set
      refine (hinv ?_).1
      cases hrun : s.ctx.events.serversRunning with
      | true => rfl
      | false => exact absurd ((hfacts hrun).2.1.symm.trans hdns) (by decide)
  case stopWeb caller k =>
    have hclear : s.ctx.events.serversRunning = false := by
      cases k with
      | take => exact hfacts.2.2
      | httpdStop server => exact hfacts.2.2.2
    obtain ⟨_, _, _, rfl, ⟨k', rfl⟩ | rfl⟩ := stopWebserver_frame h
    · trivial
    · cases caller with
      | dnsErrorCmd => exact fun hrun ↦ absurd (hclear.symm.trans hrun) (by decide)
      | stopCmd | shutdownCmd | orchExit => trivial
  case stopSetStopped =>
    obtain rfl := Option.some.inj h
    obtain ⟨-, -, -, hclear⟩ : s.Down := hfacts
    exact fun hrun ↦ absurd (hclear.symm.trans hrun) (by decide)
  case shutdownTest | exitTest =>
    obtain rfl := Option.some.inj h
    cases hrun : s.ctx.events.serversRunning <;> simp only <;> trivial
  case deleted => cases h
  all_goals
    obtain rfl := Option.some.inj h
    trivial

/-! ### The run -/

theorem Sys.SameServers.sameUp (h : s.SameServers s') : s.SameUp s' where
  webServer := h.inside.webServer
  serversAlive := h.serversAlive
  dnsTask := h.inside.dnsTask
  dnsRunning := h.inside.dnsRunning
  serversRunning := h.inside.serversRunning

/-- What is up holds in every state of a run in which `httpd_start` does not fail. -/
theorem upFacts_of_commanded (h : (commandedSystem cfg).ReachableBy HttpdStarts s) :
    s.orch.UpFacts s := by
  refine h.invariant (I := fun s ↦ s.orch.UpFacts s) nofun fun s a s' hs hinv hguard hst ↦ ?_
  have hlive := stepCommanded_live hst
  rcases commanded_step_cases hst with ⟨ok, rfl, hrun⟩ | hsame
  · exact upFacts_orchestrator hrun hguard hlive (serversOrdered_of_commanded hs) hinv
  · rw [hsame.inside.orch]
    exact hinv.of_same hsame.sameUp hlive

/-- Nothing runs, or both servers do: the bit tells which. -/
theorem bitTruthful_of_facts (hdown : s.ctx.events.serversRunning = false → s.Down)
    (hup : s.ctx.events.serversRunning = true → s.WebUp ∧ s.DnsUp) : s.BitTruthful := by
  cases hrun : s.ctx.events.serversRunning with
  | true =>
    obtain ⟨hweb, htask, hdns⟩ := hup hrun
    exact ⟨iff_of_true hrun hweb, iff_of_true hweb htask, iff_of_true htask hdns⟩
  | false =>
    obtain ⟨htask, hdns, hweb, -⟩ := hdown hrun
    have hnoweb : ¬s.WebUp := by
      rintro ⟨w, hw, -⟩
      rw [hweb] at hw
      cases hw
    have hnotask : ¬s.ctx.dnsTask ≠ none := not_not_intro htask
    refine ⟨iff_of_false ?_ hnoweb, iff_of_false hnoweb hnotask, iff_of_false hnotask ?_⟩
    · rw [hrun]
      decide
    · rw [hdns]
      decide

/-- **The running bit tells the truth**, in a run in which `httpd_start` does not fail: whenever the
orchestrator waits for a command, and whenever it has received a `START`, so that one it ignores
finds both servers up. -/
theorem running_bit_truthful (h : (commandedSystem cfg).ReachableBy HttpdStarts s) :
    (s.orch = .receive → s.BitTruthful) ∧
      (s.orch = .startTest → s.ctx.events.serversRunning = true → s.WebUp ∧ s.DnsUp) := by
  have hdown := (serversOrdered_of_commanded h).facts
  have hup := upFacts_of_commanded h
  refine ⟨fun horch ↦ ?_, fun horch ↦ ?_⟩
  · rw [horch] at hdown hup
    exact bitTruthful_of_facts hdown hup
  · rw [horch] at hup
    exact hup

/-! ### Two runs -/

/-- A `START` for a station, handled up to the call of `httpd_start`. -/
def startUpToHttpd : List CommandAction :=
  [.stations 1, .post .start] ++ List.replicate 9 (.task (.orchestrator true))

/-- `httpd_start` succeeds, and the orchestrator waits for a command with the bit set. -/
theorem running_bit_truthful_started : ∃ s,
    (commandedSystem defaultConfig).ReachableBy HttpdStarts s ∧ s.orch = .receive ∧
      s.ctx.events.serversRunning = true ∧ s.WebUp := by
  have hrun : ((commandedSystem defaultConfig).exec HttpdStarts (commandedSystem defaultConfig).start
      (startUpToHttpd ++ List.replicate 5 (.task (.orchestrator true)))).any
      (fun s ↦ s.orch = .receive ∧ s.ctx.events.serversRunning = true) = true := by decide +kernel
  obtain ⟨s, hs, hp⟩ := StepSystem.exists_reachableBy_of_exec hrun
  obtain ⟨horch, hset⟩ := of_decide_eq_true hp
  exact ⟨s, hs, horch, hset, ((running_bit_truthful hs).1 horch).1.1 hset⟩

/-- **The failed start.** The orchestrator waits for a command with the bit set and no HTTP server,
and a second `START` has been ignored. -/
theorem bit_set_without_webserver : ∃ s, (commandedSystem defaultConfig).Reachable s ∧
    s.orch = .receive ∧ s.ctx.events.serversRunning = true ∧ s.ctx.webServer = none ∧
      s.serversAlive = [] ∧ ¬s.BitTruthful := by
  have hrun : ((commandedSystem defaultConfig).exec (fun _ _ ↦ True)
      (commandedSystem defaultConfig).start
      (startUpToHttpd ++ [.task (.orchestrator false), .task (.orchestrator true),
        .task (.orchestrator true), .post .start] ++
        List.replicate 3 (.task (.orchestrator true)))).any
      (fun s ↦ s.orch = .receive ∧ s.ctx.events.serversRunning = true ∧ s.ctx.webServer = none ∧
        s.serversAlive = [] ∧ s.ctx.serverCmdQueue = []) = true := by decide +kernel
  obtain ⟨s, hs, hp⟩ := StepSystem.exists_reachableBy_of_exec hrun
  obtain ⟨horch, hset, hweb, halive, -⟩ := of_decide_eq_true hp
  refine ⟨s, hs, horch, hset, hweb, halive, fun htrue ↦ ?_⟩
  obtain ⟨w, hw, -⟩ := htrue.1.1 hset
  rw [hweb] at hw
  cases hw
