import SmartAp.Tasks.DnsInstances

/-!
# Who reported the DNS error

An instance of `dns_server_task` that ends by an error sends `DNS_ERROR`, and the orchestrator
restarts the DNS server. The message does not say which instance sent it; the only guard is
`EVT_DNS_RUNNING_BIT`, one bit for all instances: "DNS error ignored (not supposed to be running)".

This module adds history to the system of `SmartAp.Tasks.AnyCommands`: who sent each `DNS_ERROR` in
the queue, and who sent the one received last. `DNS_ERROR` comes from the DNS task only; the other
commands are arbitrary.

## The stale message

The message outlives its instance. An instance that has set `EVT_DNS_STOPPED_BIT` is stopped as far
as `stop_dns_server` can tell, but it may not have sent its message yet; and a message already sent
may stand behind a `STOP` and a `START` in the queue. When it is handled the bit is set again, by
the next instance, and this healthy instance is stopped. `healthy_dns_task_stopped` is such a run.

## What holds

`dns_error_of_current_instance` excludes the step that makes a message stale: the creation of an
instance while an error of an earlier one is outstanding (`CreatesOverError`).
-/

/-- The tasks with the senders of the errors. -/
structure ErrSys where
  base : Sys
  /-- Who sent the `DNS_ERROR`s in the queue, oldest first. -/
  senders : List ℕ := []
  /-- Who sent the `DNS_ERROR` received last. -/
  handled : Option ℕ := none

/-- What a step means for the errors: a receive takes the oldest one, a send adds one. -/
def ErrSys.follow (s : ErrSys) (base : Sys) : CommandAction → ErrSys
  | .task (.orchestrator _) =>
    match s.base.orch, s.base.ctx.serverCmdQueue with
    | .receive, .dnsError :: _ =>
      { base := base, senders := s.senders.tail, handled := s.senders.head? }
    | _, _ => { s with base := base }
  | .task (.dns i ok) =>
    { s with
      base := base
      senders := if ok && s.base.dns i = .sendError then s.senders ++ [i] else s.senders }
  | _ => { s with base := base }

/-- One step. Nobody but the DNS task sends `DNS_ERROR`. -/
def ErrSys.step (cfg : TaskConfig) (s : ErrSys) (a : CommandAction) : Option ErrSys :=
  if a = .post .dnsError then none
  else (s.base.stepCommanded cfg a).map fun base ↦ s.follow base a

/-- The tasks with the senders of the errors, under arbitrary other commands. -/
def errSystem (cfg : TaskConfig) : StepSystem ErrSys CommandAction where
  start := { base := Sys.start cfg }
  step := ErrSys.step cfg

/-- The instance has set `EVT_DNS_STOPPED_BIT` after an error and may still send `DNS_ERROR`. -/
def DnsPc.erring : DnsPc → Bool
  | .testRunning | .sendError => true
  | _ => false

/-- An error is in the queue or about to be sent. -/
def ErrSys.errorOutstanding (s : ErrSys) : Bool :=
  !s.senders.isEmpty || (List.range s.base.dnsCreated).any fun j ↦ (s.base.dns j).erring

/-- `xTaskCreate` creates an instance while an error of an earlier one is outstanding. -/
def CreatesOverError (s : ErrSys) : CommandAction → Bool
  | .task (.orchestrator ok) =>
    match s.base.orch with
    | .startDns _ .create => ok && s.errorOutstanding
    | _ => false
  | _ => false

/-- No message becomes stale. -/
def NoCreateOverError (s : ErrSys) (a : CommandAction) : Prop := CreatesOverError s a = false

instance (s : ErrSys) (a : CommandAction) : Decidable (NoCreateOverError s a) := by
  unfold NoCreateOverError; infer_instance

/-! ### The invariant -/

/-- No instance other than `j` is the current one. -/
def Sys.NoneBut (s : Sys) (j : ℕ) : Prop := ∀ i, s.ctx.dnsTask = some i → i = j

/-- The error received last was sent by an instance that has ended, and that is the current one if
there is one. -/
def ErrSys.HandledCurrent (s : ErrSys) : Prop :=
  ∃ j, s.handled = some j ∧ s.base.dns j = .deleted ∧ s.base.NoneBut j

/-- What is known in the `DNS_ERROR` branch. -/
def OrchPc.ErrorFacts (s : ErrSys) : OrchPc → Prop
  | .dnsErrorTest => s.HandledCurrent
  | .stopDns .dnsErrorCmd .test => s.HandledCurrent ∧ s.base.ctx.events.dnsRunning = true
  | _ => True

/-- Every error is the current instance's. -/
structure ErrSys.ErrorsCurrent (s : ErrSys) : Prop where
  erring : ∀ j, (s.base.dns j).erring = true → s.base.NoneBut j
  queued : ∀ j ∈ s.senders, s.base.dns j = .deleted ∧ s.base.NoneBut j
  count : s.senders.length = s.base.ctx.serverCmdQueue.count .dnsError
  facts : s.base.orch.ErrorFacts s

variable {cfg : TaskConfig} {s s' : ErrSys}

/-- What the facts need of a step that does not move the orchestrator. -/
theorem OrchPc.ErrorFacts.of_step {pc : OrchPc} (hfacts : pc.ErrorFacts s)
    (hhandled : s'.handled = s.handled)
    (hdeleted : ∀ j, s.base.dns j = .deleted → s'.base.dns j = .deleted)
    (hnone : ∀ j, s.base.NoneBut j → s'.base.NoneBut j)
    (hrunning : s'.base.ctx.events.dnsRunning = s.base.ctx.events.dnsRunning) :
    pc.ErrorFacts s' := by
  have hcur : s.HandledCurrent → s'.HandledCurrent := fun ⟨j, hj, hdel, hbut⟩ ↦
    ⟨j, hhandled.trans hj, hdeleted j hdel, hnone j hbut⟩
  cases pc with
  | dnsErrorTest => exact hcur hfacts
  | stopDns caller k =>
    cases caller with
    | dnsErrorCmd =>
      cases k with
      | test => exact ⟨hcur hfacts.1, hrunning.trans hfacts.2⟩
      | _ => trivial
    | _ => trivial
  | _ => trivial

/-! ### The DNS task -/

theorem DnsPc.finished_of_erring {pc : DnsPc} (h : pc.erring = true) : pc.finished = true := by
  cases pc <;> first | rfl | cases h

/-- An instance that moves is not deleted. -/
theorem DnsMove.ne_deleted {s s' : Sys} {i : ℕ} {ok : Bool} {pc : DnsPc}
    (h : DnsMove s s' i ok pc) : s.dns i ≠ .deleted := by
  intro hdel
  cases h with
  | run hrun => simp [hdel, DnsPc.finished] at hrun
  | stop _ hpc => simp [hdel] at hpc
  | test hpc => simp [hdel] at hpc
  | send hpc => simp [hdel] at hpc

/-- **The step of a DNS task.** -/
theorem errorsCurrent_dns {i : ℕ} {ok : Bool} {base : Sys}
    (h : dnsServerTask cfg s.base i ok = some base) (hone : s.base.OneDnsTask)
    (hinv : s.ErrorsCurrent) : (s.follow base (.task (.dns i ok))).ErrorsCurrent := by
  obtain ⟨hsame, -⟩ := sameInside_of_step (a := .dns i ok) h (fun _ ↦ nofun)
  obtain ⟨-, pc, hdns, hmove⟩ := dnsServerTask_move h
  have hnone : ∀ j, s.base.NoneBut j → base.NoneBut j := fun j hj k hk ↦
    hj k (hsame.dnsTask.symm.trans hk)
  have hdeleted : ∀ j, s.base.dns j = .deleted → base.dns j = .deleted := fun j hj ↦ by
    have hji : j ≠ i := fun hji ↦ hmove.ne_deleted (hji ▸ hj)
    rw [hdns, Function.update_of_ne hji]
    exact hj
  have herring : ∀ j, (base.dns j).erring = true → s.base.NoneBut j := fun j hj ↦ by
    by_cases hji : j = i
    · subst hji
      rw [hdns, Function.update_self] at hj
      cases hmove with
      | run _ hpc => exact absurd (hpc.symm.trans (DnsPc.finished_of_erring hj)) (by decide)
      | stop exitedByError hpc =>
        -- it was the one instance that had not finished
        intro k hk
        rw [hone.current (i := j) (by rw [hpc]; rfl)] at hk
        exact (Option.some.inj hk).symm
      | test hpc => exact hinv.erring j (by rw [hpc]; rfl)
      | send => cases hj
    · rw [hdns, Function.update_of_ne hji] at hj
      exact hinv.erring j hj
  refine ⟨fun j hj ↦ hnone j (herring j hj), fun j hj ↦ ?_, ?_, ?_⟩
  · change j ∈ (if ok && s.base.dns i = .sendError then s.senders ++ [i] else s.senders) at hj
    show base.dns j = .deleted ∧ base.NoneBut j
    split at hj
    · rename_i hsend
      rcases List.mem_append.1 hj with hold | hnew
      · exact (hinv.queued j hold).imp (hdeleted j) (hnone j)
      · -- the sender of the new message
        obtain rfl := List.mem_singleton.1 hnew
        obtain ⟨-, hpc⟩ : ok = true ∧ s.base.dns j = .sendError := by simpa using hsend
        refine ⟨?_, hnone j (hinv.erring j (by rw [hpc]; rfl))⟩
        rw [hdns, Function.update_self]
        cases hmove with
        | run hrun => simp [hpc, DnsPc.finished] at hrun
        | stop _ hpc' => simp [hpc] at hpc'
        | test hpc' => simp [hpc] at hpc'
        | send => rfl
    · exact (hinv.queued j hj).imp (hdeleted j) (hnone j)
  · show (if ok && s.base.dns i = .sendError then s.senders ++ [i] else s.senders).length =
      base.ctx.serverCmdQueue.count .dnsError
    cases hmove with
    | send hpc _ hqueue =>
      rw [hqueue]
      cases ok <;> simp [hpc, hinv.count]
    | run hrun _ _ hqueue =>
      have hpc : s.base.dns i ≠ .sendError := fun hpc ↦ by simp [hpc, DnsPc.finished] at hrun
      simp [hpc, hqueue, hinv.count]
    | stop _ hpc _ hqueue => simp [hpc, hqueue, hinv.count]
    | test hpc _ hqueue => simp [hpc, hqueue, hinv.count]
  · show base.orch.ErrorFacts _
    rw [hsame.orch]
    exact hinv.facts.of_step rfl hdeleted hnone hsame.dnsRunning

/-! ### The orchestrator -/

/-- A step of the orchestrator that leaves the queue alone and at most forgets the current
instance. -/
theorem ErrSys.ErrorsCurrent.of_move (hinv : s.ErrorsCurrent) {base : Sys}
    (hdns : base.dns = s.base.dns)
    (htask : base.ctx.dnsTask = s.base.ctx.dnsTask ∨ base.ctx.dnsTask = none)
    (hqueue : base.ctx.serverCmdQueue = s.base.ctx.serverCmdQueue)
    (hfacts : base.orch.ErrorFacts { s with base := base }) :
    ErrSys.ErrorsCurrent { s with base := base } := by
  have hnone : ∀ j, s.base.NoneBut j → base.NoneBut j := fun j hj k hk ↦ by
    rcases htask with hsame | hclear
    · exact hj k (hsame.symm.trans hk)
    · rw [hclear] at hk
      cases hk
  refine ⟨fun j hj ↦ hnone j (hinv.erring j ?_), fun j hj ↦ ?_, ?_, hfacts⟩
  · rw [← hdns]
    exact hj
  · refine (hinv.queued j hj).imp (fun hdel ↦ ?_) (hnone j)
    rw [← hdns] at hdel
    exact hdel
  · rw [hqueue]
    exact hinv.count

theorem StartCaller.errorFacts_afterDns (caller : StartCaller) : caller.afterDns.ErrorFacts s := by
  cases caller <;> trivial

theorem StopCaller.errorFacts_afterDns (caller : StopCaller) : caller.afterDns.ErrorFacts s := by
  cases caller <;> trivial

theorem errorsCurrent_startDns {caller : StartCaller} {k : StartDnsPc} {ok : Bool} {base : Sys}
    (h : startDnsServer s.base caller ok k = some base) (hpc : s.base.orch = .startDns caller k)
    (hguard : NoCreateOverError s (.task (.orchestrator ok))) (hone : s.base.OneDnsTask)
    (hinv : s.ErrorsCurrent) : ErrSys.ErrorsCurrent { s with base := base } := by
  cases k <;> simp only [startDnsServer] at h
  case take =>
    split at h
    · cases h
    · split at h <;> obtain rfl := Option.some.inj h
      · exact hinv.of_move rfl (.inl rfl) rfl trivial
      · exact hinv.of_move rfl (.inl rfl) rfl caller.errorFacts_afterDns
  case create =>
    split at h <;> obtain rfl := Option.some.inj h
    · -- no error is outstanding: there is nothing the new instance could be blamed for
      rename_i hok
      subst hok
      have hclean : s.errorOutstanding = false := by
        simpa [NoCreateOverError, CreatesOverError, hpc] using hguard
      obtain ⟨hsenders, hquiet⟩ : s.senders = [] ∧
          ∀ j < s.base.dnsCreated, (s.base.dns j).erring = false := by
        simpa [ErrSys.errorOutstanding] using hclean
      refine ⟨fun j hj ↦ ?_, fun j hj ↦ ?_, hinv.count, trivial⟩
      · change (Function.update s.base.dns s.base.dnsCreated .checkRunning j).erring = true at hj
        by_cases hji : j = s.base.dnsCreated
        · rw [hji, Function.update_self] at hj
          cases hj
        · rw [Function.update_of_ne hji] at hj
          rcases Nat.lt_or_ge j s.base.dnsCreated with hlt | hge
          · rw [hquiet j hlt] at hj
            cases hj
          · rw [hone.unborn j hge] at hj
            cases hj
      · change j ∈ s.senders at hj
        rw [hsenders] at hj
        cases hj
    · refine hinv.of_move rfl (.inl rfl) rfl ?_
      show s.base.orch.ErrorFacts _
      rw [hpc]
      trivial
  case give =>
    obtain rfl := Option.some.inj h
    exact hinv.of_move rfl (.inl rfl) rfl caller.errorFacts_afterDns
  all_goals
    obtain rfl := Option.some.inj h
    exact hinv.of_move rfl (.inl rfl) rfl trivial

theorem errorsCurrent_stopDns {caller : StopCaller} {k : StopDnsPc} {ok : Bool} {base : Sys}
    (h : stopDnsServer s.base caller ok k = some base) (hpc : s.base.orch = .stopDns caller k)
    (hinv : s.ErrorsCurrent) : ErrSys.ErrorsCurrent { s with base := base } := by
  have hinside : ∀ {t : ErrSys} {k' : StopDnsPc}, k' ≠ .test →
      (OrchPc.stopDns caller k').ErrorFacts t := fun {_ k'} hk ↦ by
    cases caller <;> cases k' <;> trivial
  cases k <;> simp only [stopDnsServer] at h
  case test =>
    split at h
    · cases h
    · split at h <;> obtain rfl := Option.some.inj h
      · exact hinv.of_move rfl (.inl rfl) rfl caller.errorFacts_afterDns
      · exact hinv.of_move rfl (.inl rfl) rfl (hinside (by simp))
  case snapshot =>
    split at h <;> cases h
    exact hinv.of_move rfl (.inl rfl) rfl (hinside (by simp))
  case wait sock =>
    split at h <;> split at h <;> cases h <;>
      exact hinv.of_move rfl (.inl rfl) rfl (hinside (by simp))
  case clearTask =>
    split at h <;> cases h
    exact hinv.of_move rfl (.inr rfl) rfl caller.errorFacts_afterDns
  case restart =>
    obtain rfl := Option.some.inj h
    refine hinv.of_move rfl (.inl rfl) rfl ?_
    show s.base.orch.ErrorFacts _
    rw [hpc]
    exact hinside (by simp)
  all_goals
    obtain rfl := Option.some.inj h
    exact hinv.of_move rfl (.inl rfl) rfl (hinside (by simp))

/-- A command is received: a `DNS_ERROR` is the current instance's. -/
theorem errorsCurrent_receive {ok : Bool} {base : Sys}
    (h : serverOrchestratorTask s.base ok = some base) (hpc : s.base.orch = .receive)
    (hinv : s.ErrorsCurrent) : (s.follow base (.task (.orchestrator ok))).ErrorsCurrent := by
  simp only [serverOrchestratorTask, hpc] at h
  cases hq : s.base.ctx.serverCmdQueue with
  | nil =>
    rw [hq] at h
    cases ok <;> cases h
    simp only [ErrSys.follow, hpc, hq]
    exact hinv.of_move rfl (.inl rfl) rfl trivial
  | cons cmd rest =>
    rw [hq] at h
    cases ok <;> cases h
    have hcount := hinv.count
    rw [hq] at hcount
    by_cases hcmd : cmd = .dnsError
    · subst hcmd
      simp only [ErrSys.follow, hpc, hq]
      cases hs : s.senders with
      | nil => simp [hs] at hcount
      | cons j senders =>
        have hqueued := hinv.queued
        rw [hs] at hqueued hcount
        refine ⟨hinv.erring, fun k hk ↦ hqueued k (List.mem_cons_of_mem _ hk), ?_, j, rfl,
          hqueued j List.mem_cons_self⟩
        simpa using hcount
    · have hfollow : s.follow { s.base with ctx.serverCmdQueue := rest, orch := cmd.dispatch }
          (.task (.orchestrator true)) =
          { s with base := { s.base with ctx.serverCmdQueue := rest, orch := cmd.dispatch } } := by
        cases cmd <;> first | exact absurd rfl hcmd | simp only [ErrSys.follow, hpc, hq]
      rw [hfollow]
      refine ⟨hinv.erring, hinv.queued, ?_, ?_⟩
      · show s.senders.length = rest.count .dnsError
        rw [hcount, List.count_cons_of_ne hcmd]
      · cases cmd <;> first | exact absurd rfl hcmd | trivial

/-- **The orchestrator's step.** -/
theorem errorsCurrent_orchestrator {ok : Bool} {base : Sys}
    (h : serverOrchestratorTask s.base ok = some base)
    (hguard : NoCreateOverError s (.task (.orchestrator ok))) (hone : s.base.OneDnsTask)
    (hinv : s.ErrorsCurrent) : (s.follow base (.task (.orchestrator ok))).ErrorsCurrent := by
  by_cases hreceive : s.base.orch = .receive
  · exact errorsCurrent_receive h hreceive hinv
  have hfollow : s.follow base (.task (.orchestrator ok)) = { s with base := base } := by
    simp only [ErrSys.follow]
    split
    · exact absurd ‹_› hreceive
    · rfl
  rw [hfollow]
  have hfacts := hinv.facts
  cases hpc : s.base.orch <;> simp only [serverOrchestratorTask, hpc] at h
  case receive => exact absurd hpc hreceive
  case startDns caller k => exact errorsCurrent_startDns h hpc hguard hone hinv
  case stopDns caller k => exact errorsCurrent_stopDns h hpc hinv
  case deleted => cases h
  case startWeb k =>
    obtain ⟨_, _, _, _, rfl, ⟨k', rfl⟩ | rfl⟩ := startWebserver_frame h <;>
      exact hinv.of_move rfl (.inl rfl) rfl trivial
  case stopWeb caller k =>
    obtain ⟨_, _, _, rfl, ⟨k', rfl⟩ | rfl⟩ := stopWebserver_frame h
    · exact hinv.of_move rfl (.inl rfl) rfl trivial
    · exact hinv.of_move rfl (.inl rfl) rfl (by cases caller <;> trivial)
  case dnsErrorTest =>
    rw [hpc] at hfacts
    obtain rfl := Option.some.inj h
    refine hinv.of_move rfl (.inl rfl) rfl ?_
    cases hdns : s.base.ctx.events.dnsRunning
    · trivial
    · exact ⟨hfacts, hdns⟩
  all_goals
    obtain rfl := Option.some.inj h
    refine hinv.of_move rfl (.inl rfl) rfl ?_
    show OrchPc.ErrorFacts _ _
    first | trivial | (split <;> trivial)

/-! ### The run -/

theorem errStep_base {a : CommandAction} (h : s.step cfg a = some s') :
    a ≠ .post .dnsError ∧
      ∃ base, s.base.stepCommanded cfg a = some base ∧ s' = s.follow base a := by
  rw [ErrSys.step] at h
  split at h
  · cases h
  · obtain ⟨base, hbase, rfl⟩ := Option.map_eq_some_iff.1 h
    exact ⟨‹_›, base, hbase, rfl⟩

theorem errFollow_base {a : CommandAction} (base : Sys) : (s.follow base a).base = base := by
  cases a with
  | task a =>
    cases a with
    | orchestrator ok =>
      simp only [ErrSys.follow]
      split <;> rfl
    | _ => rfl
  | _ => rfl

/-- Without the history, a run is a run under arbitrary commands. -/
theorem errBase_reachable {G : ErrSys → CommandAction → Prop}
    (h : (errSystem cfg).ReachableBy G s) : (commandedSystem cfg).Reachable s.base := by
  refine h.project ErrSys.base rfl fun s a s' _ hst ↦ ?_
  obtain ⟨-, base, hbase, rfl⟩ := errStep_base hst
  rw [errFollow_base]
  exact .inr ⟨a, trivial, hbase⟩

/-- A step of another task. -/
theorem ErrSys.ErrorsCurrent.of_other (hinv : s.ErrorsCurrent) {base : Sys}
    (hdns : s.base.SameDns base) (hinside : s.base.SameInside base)
    (hcount : base.ctx.serverCmdQueue.count .dnsError =
      s.base.ctx.serverCmdQueue.count .dnsError) :
    ErrSys.ErrorsCurrent { s with base := base } := by
  have hnone : ∀ j, s.base.NoneBut j → base.NoneBut j := fun j hj k hk ↦
    hj k (hdns.dnsTask.symm.trans hk)
  refine ⟨fun j hj ↦ hnone j (hinv.erring j (hdns.dns ▸ hj)), fun j hj ↦
    (hinv.queued j hj).imp (fun hdel ↦ hdns.dns ▸ hdel) (hnone j), hinv.count.trans hcount.symm, ?_⟩
  show base.orch.ErrorFacts _
  rw [hinside.orch]
  exact hinv.facts.of_step rfl (fun j hdel ↦ hdns.dns ▸ hdel) hnone hinside.dnsRunning

/-- The tasks around the DNS task and the orchestrator send no `DNS_ERROR`. -/
theorem count_dnsError_of_step {s s' : Sys} {a : TaskAction} (h : a.run cfg s = some s')
    (horch : ∀ ok, a ≠ .orchestrator ok) (hdns : ∀ i ok, a ≠ .dns i ok) :
    s'.ctx.serverCmdQueue.count .dnsError = s.ctx.serverCmdQueue.count .dnsError := by
  cases a with
  | connect =>
    obtain rfl := Option.some.inj h
    rfl
  | disconnect =>
    obtain ⟨_, _, rfl⟩ := stationDisconnects_frame h
    rfl
  | handler ok =>
    obtain ⟨_, _, _, rfl, rfl | rfl | rfl⟩ := wifiEventHandler_frame h
    · rfl
    · simp
    · simp
  | orchestrator ok => exact absurd rfl (horch ok)
  | dns i ok => exact absurd rfl (hdns i ok)
  | monitor i ok =>
    obtain ⟨_, _, _, _, _, rfl, -, rfl | ⟨-, rfl⟩, -⟩ := monitorTask_frame h
    · rfl
    · simp
  | smartAp ok =>
    obtain ⟨_, _, rfl, -⟩ := smartApTask_frame h
    rfl
  | beep =>
    obtain ⟨_, _, rfl⟩ := beepTask_frame h
    rfl

theorem errorsCurrent_step {a : CommandAction} (h : s.step cfg a = some s')
    (hguard : NoCreateOverError s a) (hone : s.base.OneDnsTask) (hinv : s.ErrorsCurrent) :
    s'.ErrorsCurrent := by
  obtain ⟨hpost, base, hbase, rfl⟩ := errStep_base h
  cases a with
  | post cmd =>
    obtain rfl := stepCommanded_post hbase
    have hcmd : cmd ≠ .dnsError := fun hcmd ↦ hpost (congrArg CommandAction.post hcmd)
    refine hinv.of_other {} (by constructor <;> rfl) ?_
    simp [hcmd]
  | stations n =>
    obtain rfl := stepCommanded_stations hbase
    exact hinv.of_other {} (by constructor <;> rfl) rfl
  | task a =>
    have hrun := stepCommanded_task hbase
    by_cases horch : ∃ ok, a = .orchestrator ok
    · obtain ⟨ok, rfl⟩ := horch
      exact errorsCurrent_orchestrator hrun hguard hone hinv
    by_cases hdns : ∃ i ok, a = .dns i ok
    · obtain ⟨i, ok, rfl⟩ := hdns
      exact errorsCurrent_dns hrun hone hinv
    have hout : ∀ ok, a ≠ .orchestrator ok := fun ok ha ↦ horch ⟨ok, ha⟩
    have hother : ∀ i ok, a ≠ .dns i ok := fun i ok ha ↦ hdns ⟨i, ok, ha⟩
    have hfollow : s.follow base (.task a) = { s with base := base } := by
      cases a with
      | orchestrator ok => exact absurd rfl (hout ok)
      | dns i ok => exact absurd rfl (hother i ok)
      | _ => rfl
    rw [hfollow]
    exact hinv.of_other (sameDns_of_step hrun hout hother) (sameInside_of_step hrun hout).1
      (count_dnsError_of_step hrun hout hother)

theorem errorsCurrent_of_reachableBy (h : (errSystem cfg).ReachableBy NoCreateOverError s) :
    s.ErrorsCurrent := by
  refine h.invariant (I := ErrSys.ErrorsCurrent) ?_ fun s a s' hs hinv hguard hst ↦
    errorsCurrent_step (show s.step cfg a = some s' from hst) hguard
      (oneDnsTask_of_commanded (errBase_reachable hs)) hinv
  exact ⟨nofun, nofun, rfl, trivial⟩

/-- The `DNS_ERROR` branch is about to call `stop_dns_server` on the instance that sent the message:
it is the current one, it has ended, and its stopped bit is set. -/
def ErrSys.StopsReporter (s : ErrSys) : Prop :=
  ∃ i, s.base.ctx.dnsTask = some i ∧ s.handled = some i ∧ s.base.dns i = .deleted ∧
    s.base.ctx.events.dnsStopped = true

/-- **`DNS_ERROR` restarts the instance that sent it**, in a run in which no instance is created
while an error of an earlier one is outstanding. -/
theorem dns_error_of_current_instance (h : (errSystem cfg).ReachableBy NoCreateOverError s)
    (horch : s.base.orch = .stopDns .dnsErrorCmd .test) : s.StopsReporter := by
  have hbase := errBase_reachable h
  have hone := oneDnsTask_of_commanded hbase
  have hord := serversOrdered_of_commanded hbase
  have hfacts := (errorsCurrent_of_reachableBy h).facts
  rw [horch] at hfacts
  obtain ⟨⟨j, hhandled, hdel, hbut⟩, hrunning⟩ := hfacts
  -- the running bit is set, so that there is a current instance
  cases htask : s.base.ctx.dnsTask with
  | none =>
    obtain ⟨caller, hcreate⟩ := hord.dnsBit htask hrunning
    rw [horch] at hcreate
    cases hcreate
  | some i =>
    obtain rfl := hbut i htask
    refine ⟨i, htask, hhandled, hdel, hone.reported i htask ?_ ?_⟩
    · rw [hdel]
      rfl
    · rw [horch]
      rfl

/-! ### Two runs -/

/-- The servers are started for a station. -/
def startServers : List CommandAction :=
  [.stations 1, .post .start] ++ List.replicate 14 (.task (.orchestrator true))

/-- Instance `i` fails to open its socket, sets its bit and reads the running bit. -/
def failsBeforeSend (i : ℕ) : List CommandAction :=
  [.task (.dns i true), .task (.dns i false), .task (.dns i true), .task (.dns i true)]

/-- An instance fails and is the one that is restarted. -/
theorem dns_error_of_current_instance_failed : ∃ s,
    (errSystem defaultConfig).ReachableBy NoCreateOverError s ∧
      s.base.orch = .stopDns .dnsErrorCmd .test ∧ s.StopsReporter := by
  have hrun : ((errSystem defaultConfig).exec NoCreateOverError (errSystem defaultConfig).start
      (startServers ++ failsBeforeSend 0 ++ [.task (.dns 0 true), .task (.orchestrator true),
        .task (.orchestrator true)])).any
      (fun s ↦ s.base.orch = .stopDns .dnsErrorCmd .test) = true := by decide +kernel
  obtain ⟨s, hs, hp⟩ := StepSystem.exists_reachableBy_of_exec hrun
  have horch := of_decide_eq_true hp
  exact ⟨s, hs, horch, dns_error_of_current_instance hs horch⟩

/-- **The stale message.** Instance 0 is about to send its error; `STOP` and `START` are handled,
and instance 1 runs; then the message of instance 0 is sent, and the orchestrator stops instance
1. -/
theorem healthy_dns_task_stopped : ∃ s, (errSystem defaultConfig).Reachable s ∧
    s.base.orch = .stopDns .dnsErrorCmd .test ∧ s.handled = some 0 ∧
      s.base.ctx.dnsTask = some 1 ∧ (s.base.dns 1).finished = false ∧ ¬s.StopsReporter := by
  have hrun : ((errSystem defaultConfig).exec (fun _ _ ↦ True) (errSystem defaultConfig).start
      (startServers ++ failsBeforeSend 0 ++ [.stations 0, .post .stop] ++
        List.replicate 14 (.task (.orchestrator true)) ++ startServers ++
        [.task (.dns 0 true), .task (.orchestrator true), .task (.orchestrator true)])).any
      (fun s ↦ s.base.orch = .stopDns .dnsErrorCmd .test ∧ s.handled = some 0 ∧
        s.base.ctx.dnsTask = some 1 ∧ (s.base.dns 1).finished = false) = true := by decide +kernel
  obtain ⟨s, hs, hp⟩ := StepSystem.exists_reachableBy_of_exec hrun
  obtain ⟨horch, hhandled, htask, hruns⟩ := of_decide_eq_true hp
  refine ⟨s, hs, horch, hhandled, htask, hruns, ?_⟩
  rintro ⟨i, hcur, hsent, -⟩
  cases hcur.symm.trans htask
  cases hsent.symm.trans hhandled
