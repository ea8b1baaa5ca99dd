import SmartAp.Tasks.System
import Mathlib.Data.List.Perm.Basic
import Mathlib.Data.List.Nodup

/-!
# Who closes the DNS socket

`dns_server_task` opens its socket and publishes it in `ctx->dns_socket`; only `stop_dns_server`
closes it. The header of the source promises that the descriptor is always released and never closed
twice.

## The late store

`stop_dns_server` takes its snapshot of `ctx->dns_socket` *before* it waits for the task. An
instance that has passed its test of `EVT_DNS_RUNNING_BIT` but not yet published its descriptor then
publishes it behind the snapshot; the stop call closes nothing, and the next instance overwrites the
field. `socket_leaked` is that run.

## What holds

`sockets_closed_once` excludes exactly that step (`LateStore`). The invariant `SocketsOwned` says
where every descriptor is: `Sys.socks` lists the closed ones, the one in the local variable of
`stop_dns_server`, the published one and the one an instance is about to publish, and it is a
permutation of the descriptors opened so far. The other fields say when a place is empty.
-/

/-- The instance has not published a descriptor yet. -/
def DnsPc.unpublished : DnsPc → Bool
  | .checkRunning | .socket | .store _ => true
  | _ => false

/-- The descriptor an instance has opened and not yet published. -/
def DnsPc.held : DnsPc → Option ℕ
  | .store sock => some sock
  | _ => none

/-- The descriptor in the local variable of `stop_dns_server`. -/
def OrchPc.sock : OrchPc → Option ℕ
  | .stopDns _ (.wait sock) | .stopDns _ (.close sock) | .stopDns _ (.hung sock) => sock
  | _ => none

/-- The descriptor the current instance holds. -/
def Sys.heldByTask (s : Sys) : Option ℕ := s.ctx.dnsTask.bind fun i ↦ (s.dns i).held

/-- The descriptors, place by place. -/
def Sys.socks (s : Sys) : List ℕ :=
  s.socksClosed ++ s.orch.sock.toList ++ s.ctx.dnsSocket.toList ++ s.heldByTask.toList

/-- What is known inside `start_dns_server` and `stop_dns_server`. -/
def OrchPc.DnsFacts (s : Sys) : OrchPc → Prop
  | .startDns _ .clearStopped => s.ctx.dnsTask = none
  | .startDns _ .setRunning | .startDns _ .create =>
    s.ctx.dnsTask = none ∧ s.ctx.events.dnsStopped = false
  | .stopDns _ .test => True
  | .stopDns _ (.wait _) => s.ctx.dnsTask ≠ none ∧ s.ctx.dnsSocket = none
  | .stopDns _ (.close _) | .stopDns _ .clearTask =>
    s.ctx.dnsTask ≠ none ∧ s.ctx.dnsSocket = none ∧ ∀ j, (s.dns j).finished = true
  | .stopDns _ _ => s.ctx.dnsTask ≠ none
  | _ => True

/-- The invariant. -/
structure Sys.SocketsOwned (s : Sys) : Prop where
  /-- Only the instance in `ctx->dns_task` may still be running. -/
  others : ∀ j, s.ctx.dnsTask ≠ some j → (s.dns j).finished = true
  stopped : s.ctx.events.dnsStopped = true → ∀ j, (s.dns j).finished = true
  unset : s.ctx.dnsTask = none → s.ctx.dnsSocket = none
  starting : ∀ i, s.ctx.dnsTask = some i → (s.dns i).unpublished = true → s.ctx.dnsSocket = none
  facts : s.orch.DnsFacts s
  socks : s.socks.Perm (List.range s.socksOpened)

/-- An instance publishes its descriptor between the snapshot of `stop_dns_server` and the end of
its wait. -/
def LateStore (s : Sys) : TaskAction → Bool
  | .dns i _ =>
    match s.dns i, s.orch with
    | .store _, .stopDns _ (.wait _) => true
    | _, _ => false
  | _ => false

/-- No descriptor is published behind the snapshot. -/
def NoLateStore (s : Sys) (a : TaskAction) : Prop := LateStore s a = false

instance (s : Sys) (a : TaskAction) : Decidable (NoLateStore s a) := by
  unfold NoLateStore; infer_instance

variable {cfg : TaskConfig} {s s' : Sys}

/-! ### The DNS task -/

/-- An instance that has not finished is the current one. -/
theorem Sys.SocketsOwned.current (hinv : s.SocketsOwned) {i : ℕ}
    (hi : (s.dns i).finished = false) : s.ctx.dnsTask = some i := by
  by_contra hne
  rw [hinv.others i hne] at hi
  cases hi

/-- What a step of an instance must respect for the facts about the orchestrator to stay. -/
theorem OrchPc.DnsFacts.of_task_step {pc : OrchPc} (hfacts : pc.DnsFacts s)
    (htask : s'.ctx.dnsTask = s.ctx.dnsTask)
    (hstopped : s.ctx.dnsTask = none → s'.ctx.events.dnsStopped = s.ctx.events.dnsStopped)
    (hwait : ∀ caller sock, pc = .stopDns caller (.wait sock) →
      s'.ctx.dnsSocket = s.ctx.dnsSocket)
    (hclose : (∀ j, (s.dns j).finished = true) →
      s'.ctx.dnsSocket = s.ctx.dnsSocket ∧ ∀ j, (s'.dns j).finished = true) :
    pc.DnsFacts s' := by
  cases pc with
  | startDns caller k =>
    cases k with
    | clearStopped => exact htask.trans hfacts
    | setRunning | create => exact ⟨htask.trans hfacts.1, (hstopped hfacts.1).trans hfacts.2⟩
    | take | give => trivial
  | stopDns caller k =>
    cases k with
    | test => trivial
    | wait sock => exact ⟨htask ▸ hfacts.1, (hwait _ _ rfl).trans hfacts.2⟩
    | close sock | clearTask =>
      obtain ⟨hsome, hunset, hfin⟩ := hfacts
      exact ⟨htask ▸ hsome, (hclose hfin).1.trans hunset, (hclose hfin).2⟩
    | clearRunning | snapshot | hung sock | restart =>
      exact fun hnone ↦ hfacts (htask.symm.trans hnone)
  | _ => trivial

/-- The finished instances stay finished when one moves to a place that is finished if the old one
was. -/
theorem finished_update {dns : ℕ → DnsPc} {i : ℕ} {pc : DnsPc}
    (hpc : (dns i).finished = true → pc.finished = true) {j : ℕ}
    (hj : (dns j).finished = true) : (Function.update dns i pc j).finished = true := by
  by_cases hji : j = i
  · rw [hji, Function.update_self]
    exact hpc (hji ▸ hj)
  · rw [Function.update_of_ne hji]
    exact hj

/-- A move of an instance that neither opens nor publishes a descriptor. -/
theorem Sys.SocketsOwned.of_task_move (hinv : s.SocketsOwned) {i : ℕ} {pc : DnsPc}
    {queue : List ServerCmd} {stopped : Bool}
    (hfin : (s.dns i).finished = true → pc.finished = true)
    (hheld : pc.held = (s.dns i).held)
    (hpub : pc.unpublished = true → (s.dns i).unpublished = true)
    (hstopped : stopped = s.ctx.events.dnsStopped ∨
      (s.dns i).finished = false ∧ pc.finished = true) :
    Sys.SocketsOwned { s with
      ctx.serverCmdQueue := queue, ctx.events.dnsStopped := stopped
      dns := Function.update s.dns i pc } where
  others j hj := finished_update hfin (hinv.others j hj)
  stopped hset j := by
    rcases hstopped with rfl | ⟨hrun, hpc⟩
    · exact finished_update hfin (hinv.stopped hset j)
    · by_cases hji : j = i
      · show (Function.update s.dns i pc j).finished = true
        rw [hji, Function.update_self]
        exact hpc
      · refine finished_update hfin (hinv.others j ?_)
        rw [hinv.current hrun]
        exact fun h ↦ hji (Option.some.inj h).symm
  unset := hinv.unset
  starting j hj hun := by
    change (Function.update s.dns i pc j).unpublished = true at hun
    by_cases hji : j = i
    · rw [hji, Function.update_self] at hun
      exact hinv.starting i (hji ▸ hj) (hpub hun)
    · rw [Function.update_of_ne hji] at hun
      exact hinv.starting j hj hun
  facts := by
    refine hinv.facts.of_task_step rfl (fun hnone ↦ ?_) (fun _ _ _ ↦ rfl) fun hall ↦
      ⟨rfl, fun j ↦ finished_update hfin (hall j)⟩
    rcases hstopped with h | ⟨hrun, -⟩
    · exact h
    · rw [hinv.current hrun] at hnone
      cases hnone
  socks := by
    have hsame : (s.ctx.dnsTask.bind fun j ↦ (Function.update s.dns i pc j).held) =
        s.heldByTask := by
      refine Option.bind_congr fun j _ ↦ ?_
      by_cases hji : j = i
      · rw [hji, Function.update_self, hheld]
      · rw [Function.update_of_ne hji]
    have hsocks := hinv.socks
    rw [Sys.socks, ← hsame] at hsocks
    exact hsocks

/-- `socket()` succeeds: the new descriptor is held by the current instance. -/
theorem Sys.SocketsOwned.of_socket (hinv : s.SocketsOwned) {i : ℕ} (hpc : s.dns i = .socket) :
    Sys.SocketsOwned { s with
      socksOpened := s.socksOpened + 1
      dns := Function.update s.dns i (.store s.socksOpened) } := by
  have hrun : (s.dns i).finished = false := by rw [hpc]; rfl
  have hcur := hinv.current hrun
  have hfin : (s.dns i).finished = true → (DnsPc.store s.socksOpened).finished = true := by
    rw [hrun]
    simp
  exact {
    others := fun j hj ↦ finished_update hfin (hinv.others j hj)
    stopped := fun hset j ↦ finished_update hfin (hinv.stopped hset j)
    unset := hinv.unset
    starting := fun j hj _ ↦ by
      have hji : i = j := Option.some.inj (hcur.symm.trans hj)
      exact hinv.starting i hcur (by rw [hpc]; rfl)
    facts := hinv.facts.of_task_step rfl (fun _ ↦ rfl) (fun _ _ _ ↦ rfl) fun hall ↦
      ⟨rfl, fun j ↦ finished_update hfin (hall j)⟩
    socks := by
      have hsocks := hinv.socks
      rw [Sys.socks, Sys.heldByTask, hcur, Option.bind_some, hpc] at hsocks
      show (s.socksClosed ++ s.orch.sock.toList ++ s.ctx.dnsSocket.toList ++
        (s.ctx.dnsTask.bind fun j ↦
          (Function.update s.dns i (.store s.socksOpened) j).held).toList).Perm _
      rw [hcur, Option.bind_some, Function.update_self, List.range_succ]
      exact List.Perm.append_right [s.socksOpened] (by simpa [DnsPc.held] using hsocks) }

/-- The descriptor is published into an empty field. -/
theorem Sys.SocketsOwned.of_store (hinv : s.SocketsOwned) {i sock : ℕ}
    (hpc : s.dns i = .store sock)
    (hwait : ∀ caller local_, s.orch ≠ .stopDns caller (.wait local_)) :
    Sys.SocketsOwned { s with
      ctx.dnsSocket := some sock, dns := Function.update s.dns i (.bind sock) } := by
  have hrun : (s.dns i).finished = false := by rw [hpc]; rfl
  have hcur := hinv.current hrun
  have hfin : (s.dns i).finished = true → (DnsPc.bind sock).finished = true := by
    rw [hrun]
    simp
  have hunset : s.ctx.dnsSocket = none := hinv.starting i hcur (by rw [hpc]; rfl)
  exact {
    others := fun j hj ↦ finished_update hfin (hinv.others j hj)
    stopped := fun hset j ↦ finished_update hfin (hinv.stopped hset j)
    unset := fun hnone ↦ by
      have hnone' : s.ctx.dnsTask = none := hnone
      rw [hcur] at hnone'
      cases hnone'
    starting := fun j hj hun ↦ by
      have hji : i = j := Option.some.inj (hcur.symm.trans hj)
      change (Function.update s.dns i (.bind sock) j).unpublished = true at hun
      rw [← hji, Function.update_self] at hun
      cases hun
    facts := hinv.facts.of_task_step rfl (fun _ ↦ rfl)
      (fun caller local_ h ↦ absurd h (hwait caller local_)) fun hall ↦ by
        have hi := hall i
        rw [hrun] at hi
        cases hi
    socks := by
      have hsocks := hinv.socks
      rw [Sys.socks, Sys.heldByTask, hcur, Option.bind_some, hpc, hunset] at hsocks
      show (s.socksClosed ++ s.orch.sock.toList ++ (some sock).toList ++
        (s.ctx.dnsTask.bind fun j ↦ (Function.update s.dns i (.bind sock) j).held).toList).Perm _
      rw [hcur, Option.bind_some, Function.update_self]
      simpa [DnsPc.held] using hsocks }

/-- **The step of a DNS task.** -/
theorem socketsOwned_dns {i : ℕ} {ok : Bool} (h : dnsServerTask cfg s i ok = some s')
    (hguard : NoLateStore s (.dns i ok)) (hinv : s.SocketsOwned) : s'.SocketsOwned := by
  cases hpc : s.dns i <;> simp only [dnsServerTask, hpc] at h
  case unborn => cases h
  case deleted => cases h
  case socket =>
    split at h <;> obtain rfl := Option.some.inj h
    · exact hinv.of_socket hpc
    · refine hinv.of_task_move ?_ ?_ ?_ (.inl rfl) <;> simp [hpc, DnsPc.finished, DnsPc.held,
        DnsPc.unpublished]
  case store sock =>
    split at h <;> cases h
    refine hinv.of_store hpc fun caller local_ horch ↦ ?_
    simp [NoLateStore, LateStore, hpc, horch] at hguard
  case setStopped exitedByError =>
    obtain rfl := Option.some.inj h
    refine hinv.of_task_move ?_ ?_ ?_ (.inr ⟨by rw [hpc]; rfl, ?_⟩) <;>
      cases exitedByError <;> simp [hpc, DnsPc.finished, DnsPc.held, DnsPc.unpublished]
  case sendError =>
    obtain ⟨ctx, hctx, rfl⟩ := Option.map_eq_some_iff.1 h
    rcases SysCtx.queueSend_cases hctx with rfl | rfl <;>
      refine hinv.of_task_move ?_ ?_ ?_ (.inl rfl) <;>
      simp [hpc, DnsPc.finished, DnsPc.held, DnsPc.unpublished]
  all_goals
    -- the instance goes on or stops, with the descriptor where it was
    obtain rfl := Option.some.inj h
    refine hinv.of_task_move ?_ ?_ ?_ (.inl rfl) <;> rw [hpc] <;> (try split) <;> (try split) <;>
      simp [DnsPc.finished, DnsPc.held, DnsPc.unpublished]

/-! ### The orchestrator -/

/-- The DNS task, its handle, its stopped bit and the descriptors are as they were. -/
structure Sys.SameDns (s s' : Sys) : Prop where
  dns : s'.dns = s.dns := by rfl
  dnsTask : s'.ctx.dnsTask = s.ctx.dnsTask := by rfl
  dnsSocket : s'.ctx.dnsSocket = s.ctx.dnsSocket := by rfl
  dnsStopped : s'.ctx.events.dnsStopped = s.ctx.events.dnsStopped := by rfl
  socksOpened : s'.socksOpened = s.socksOpened := by rfl
  socksClosed : s'.socksClosed = s.socksClosed := by rfl

/-- A step that leaves all of it alone. -/
theorem Sys.SocketsOwned.of_same (hinv : s.SocketsOwned) (hsame : s.SameDns s')
    (horch : s'.orch.sock = s.orch.sock) (hfacts : s'.orch.DnsFacts s') : s'.SocketsOwned where
  others := by rw [hsame.dnsTask, hsame.dns]; exact hinv.others
  stopped := by rw [hsame.dnsStopped, hsame.dns]; exact hinv.stopped
  unset := by rw [hsame.dnsTask, hsame.dnsSocket]; exact hinv.unset
  starting := by rw [hsame.dnsTask, hsame.dnsSocket, hsame.dns]; exact hinv.starting
  facts := hfacts
  socks := by
    rw [Sys.socks, Sys.heldByTask, hsame.socksClosed, horch, hsame.dnsSocket, hsame.dnsTask,
      hsame.dns, hsame.socksOpened]
    exact hinv.socks

/-- The orchestrator is outside `start_dns_server` and `stop_dns_server`, or at their first step. -/
def OrchPc.outsideDns : OrchPc → Bool
  | .startDns _ .take | .stopDns _ .test => true
  | .startDns _ _ | .stopDns _ _ => false
  | _ => true

theorem OrchPc.facts_of_outsideDns {pc : OrchPc} (h : pc.outsideDns = true) :
    pc.sock = none ∧ ∀ s, pc.DnsFacts s := by
  cases pc with
  | startDns caller k =>
    cases k with
    | take => exact ⟨rfl, fun _ ↦ trivial⟩
    | _ => cases h
  | stopDns caller k =>
    cases k with
    | test => exact ⟨rfl, fun _ ↦ trivial⟩
    | _ => cases h
  | _ => exact ⟨rfl, fun _ ↦ trivial⟩

theorem StartCaller.afterDns_outsideDns (caller : StartCaller) :
    caller.afterDns.outsideDns = true := by
  cases caller <;> rfl

theorem StopCaller.afterDns_outsideDns (caller : StopCaller) :
    caller.afterDns.outsideDns = true := by
  cases caller <;> rfl

theorem socketsOwned_startDns {caller : StartCaller} {k : StartDnsPc} {ok : Bool}
    (h : startDnsServer s caller ok k = some s') (hpc : s.orch = .startDns caller k)
    (hinv : s.SocketsOwned) : s'.SocketsOwned := by
  have hsock : s.orch.sock = none := by rw [hpc]; rfl
  have hfacts := hinv.facts
  have hback := OrchPc.facts_of_outsideDns caller.afterDns_outsideDns
  rw [hpc] at hfacts
  cases k <;> simp only [startDnsServer] at h
  case take =>
    split at h
    · cases h
    · split at h <;> obtain rfl := Option.some.inj h
      · rename_i hnone
        exact hinv.of_same {} hsock.symm hnone
      · exact hinv.of_same {} (hback.1.trans hsock.symm) (hback.2 _)
  case clearStopped =>
    obtain rfl := Option.some.inj h
    have hnone : s.ctx.dnsTask = none := hfacts
    have hsocks := hinv.socks
    rw [Sys.socks, hsock] at hsocks
    exact {
      others := hinv.others
      stopped := by simp
      unset := hinv.unset
      starting := hinv.starting
      facts := ⟨hnone, rfl⟩
      socks := hsocks }
  case setRunning =>
    obtain rfl := Option.some.inj h
    exact hinv.of_same {} hsock.symm hfacts
  case give =>
    obtain rfl := Option.some.inj h
    exact hinv.of_same {} (hback.1.trans hsock.symm) (hback.2 _)
  case create =>
    obtain ⟨hnone, hclear⟩ := hfacts
    split at h <;> obtain rfl := Option.some.inj h
    · -- the new instance is the only one that runs, and it has no descriptor yet
      have hall : ∀ j, (s.dns j).finished = true := fun j ↦ hinv.others j (by rw [hnone]; simp)
      have hunset := hinv.unset hnone
      exact {
        others := fun j hj ↦ by
          have hne : j ≠ s.dnsCreated := fun hji ↦ hj (congrArg some hji.symm)
          show (Function.update s.dns s.dnsCreated .checkRunning j).finished = true
          rw [Function.update_of_ne hne]
          exact hall j
        stopped := fun hset ↦ by
          have hset' : s.ctx.events.dnsStopped = true := hset
          rw [hclear] at hset'
          cases hset'
        unset := by simp
        starting := fun _ _ _ ↦ hunset
        facts := trivial
        socks := by
          have hsocks := hinv.socks
          rw [Sys.socks, Sys.heldByTask, hnone, hsock] at hsocks
          show (s.socksClosed ++ [] ++ s.ctx.dnsSocket.toList ++
            ((some s.dnsCreated).bind fun j ↦
              (Function.update s.dns s.dnsCreated .checkRunning j).held).toList).Perm _
          rw [Option.bind_some, Function.update_self]
          exact hsocks }
    · exact hinv.of_same {} rfl (by
        show s.orch.DnsFacts _
        rw [hpc]
        exact ⟨hnone, hclear⟩)

/-- A descriptor moves from a local variable to the closed ones. -/
theorem closed_perm (sock closed published held : List ℕ) :
    (sock ++ closed ++ [] ++ published ++ held).Perm (closed ++ sock ++ published ++ held) := by
  rw [List.append_nil]
  exact ((List.perm_append_comm).append_right _).append_right _

theorem socketsOwned_stopDns {caller : StopCaller} {k : StopDnsPc} {ok : Bool}
    (h : stopDnsServer s caller ok k = some s') (hpc : s.orch = .stopDns caller k)
    (hinv : s.SocketsOwned) : s'.SocketsOwned := by
  have hfacts := hinv.facts
  have hsocks := hinv.socks
  have hback := OrchPc.facts_of_outsideDns caller.afterDns_outsideDns
  rw [hpc] at hfacts
  rw [Sys.socks, hpc] at hsocks
  cases k <;> simp only [stopDnsServer] at h
  case test =>
    have hsock : s.orch.sock = none := by rw [hpc]; rfl
    split at h
    · cases h
    · split at h <;> obtain rfl := Option.some.inj h
      · exact hinv.of_same {} (hback.1.trans hsock.symm) (hback.2 _)
      · rename_i hsome
        exact hinv.of_same {} hsock.symm hsome
  case clearRunning =>
    obtain rfl := Option.some.inj h
    exact hinv.of_same {} (by rw [hpc]; rfl) hfacts
  case snapshot =>
    split at h <;> cases h
    exact {
      others := hinv.others
      stopped := hinv.stopped
      unset := fun _ ↦ rfl
      starting := fun _ _ _ ↦ rfl
      facts := ⟨hfacts, rfl⟩
      socks := by
        show (s.socksClosed ++ s.ctx.dnsSocket.toList ++ [] ++ s.heldByTask.toList).Perm _
        simpa [OrchPc.sock] using hsocks }
  case wait sock =>
    split at h <;> split at h <;> cases h
    · -- the bit was set, so that the instance has finished
      rename_i _ hset
      exact {
        others := hinv.others
        stopped := by simp
        unset := hinv.unset
        starting := hinv.starting
        facts := ⟨hfacts.1, hfacts.2, hinv.stopped hset⟩
        socks := hsocks }
    · exact hinv.of_same {} (by rw [hpc]; rfl) hfacts.1
  case close sock | hung sock =>
    obtain rfl := Option.some.inj h
    exact {
      others := hinv.others
      stopped := hinv.stopped
      unset := hinv.unset
      starting := hinv.starting
      facts := hfacts
      socks := (closed_perm _ _ _ _).trans hsocks }
  case clearTask =>
    split at h <;> cases h
    obtain ⟨hsome, hunset, hfin⟩ := hfacts
    have hheld : s.heldByTask = none := by
      rw [Sys.heldByTask, Option.bind_eq_none_iff]
      intro j _
      cases hj : s.dns j <;> first | rfl | exact absurd (hfin j) (by simp [hj, DnsPc.finished])
    exact {
      others := fun j _ ↦ hfin j
      stopped := fun _ ↦ hfin
      unset := fun _ ↦ hunset
      starting := by simp
      facts := hback.2 _
      socks := by
        rw [hheld] at hsocks
        rw [Sys.socks]
        show (s.socksClosed ++ caller.afterDns.sock.toList ++ _ ++ _).Perm _
        rw [hback.1]
        exact hsocks }
  case restart =>
    obtain rfl := Option.some.inj h
    exact hinv.of_same {} rfl (by
      show s.orch.DnsFacts _
      rw [hpc]
      exact hfacts)

/-- Outside `start_dns_server` and `stop_dns_server` the orchestrator leaves the DNS task alone and
stays outside. -/
theorem serverOrchestratorTask_outsideDns {ok : Bool} (h : serverOrchestratorTask s ok = some s')
    (hstart : ∀ caller k, s.orch ≠ .startDns caller k)
    (hstop : ∀ caller k, s.orch ≠ .stopDns caller k) :
    s.SameDns s' ∧ s.orch.outsideDns = true ∧ s'.orch.outsideDns = true := by
  cases hpc : s.orch <;> simp only [serverOrchestratorTask, hpc] at h
  case startDns caller k => exact absurd hpc (hstart caller k)
  case stopDns caller k => exact absurd hpc (hstop caller k)
  case startWeb k =>
    obtain ⟨_, _, _, _, rfl, ⟨k', rfl⟩ | rfl⟩ := startWebserver_frame h <;>
      exact ⟨{}, rfl, rfl⟩
  case stopWeb caller k =>
    obtain ⟨_, _, _, rfl, ⟨k', rfl⟩ | rfl⟩ := stopWebserver_frame h
    · exact ⟨{}, rfl, rfl⟩
    · cases caller <;> exact ⟨{}, rfl, rfl⟩
  case receive =>
    split at h <;> cases h
    · rename_i cmd _ _
      cases cmd <;> exact ⟨{}, rfl, rfl⟩
    · exact ⟨{}, rfl, rfl⟩
  case deleted => cases h
  all_goals
    obtain rfl := Option.some.inj h
    refine ⟨{}, rfl, ?_⟩
    first | rfl | (split <;> rfl)

theorem socketsOwned_orchestrator {ok : Bool} (h : serverOrchestratorTask s ok = some s')
    (hinv : s.SocketsOwned) : s'.SocketsOwned := by
  by_cases hstart : ∃ caller k, s.orch = .startDns caller k
  · obtain ⟨caller, k, hpc⟩ := hstart
    simp only [serverOrchestratorTask, hpc] at h
    exact socketsOwned_startDns h hpc hinv
  by_cases hstop : ∃ caller k, s.orch = .stopDns caller k
  · obtain ⟨caller, k, hpc⟩ := hstop
    simp only [serverOrchestratorTask, hpc] at h
    exact socketsOwned_stopDns h hpc hinv
  obtain ⟨hsame, hout, hout'⟩ :=
    serverOrchestratorTask_outsideDns h (fun caller k hpc ↦ hstart ⟨caller, k, hpc⟩)
      fun caller k hpc ↦ hstop ⟨caller, k, hpc⟩
  have hfacts' := OrchPc.facts_of_outsideDns hout'
  have hfacts := OrchPc.facts_of_outsideDns hout
  exact hinv.of_same hsame (hfacts'.1.trans hfacts.1.symm) (hfacts'.2 s')

/-! ### The run -/

/-- The tasks around the DNS task and the orchestrator leave all of it alone. -/
theorem sameDns_of_step {a : TaskAction} (h : a.run cfg s = some s')
    (horch : ∀ ok, a ≠ .orchestrator ok) (hdns : ∀ i ok, a ≠ .dns i ok) : s.SameDns s' := by
  cases a with
  | connect =>
    obtain rfl := Option.some.inj h
    exact {}
  | disconnect =>
    obtain ⟨_, _, rfl⟩ := stationDisconnects_frame h
    exact {}
  | handler ok =>
    obtain ⟨_, _, _, rfl, -⟩ := wifiEventHandler_frame h
    exact {}
  | orchestrator ok => exact absurd rfl (horch ok)
  | dns i ok => exact absurd rfl (hdns i ok)
  | monitor i ok =>
    obtain ⟨_, _, _, _, _, rfl, hbits, -, -⟩ := monitorTask_frame h
    exact { dnsStopped := hbits.same.dnsStopped }
  | smartAp ok =>
    obtain ⟨_, _, rfl, -⟩ := smartApTask_frame h
    exact {}
  | beep =>
    obtain ⟨_, _, rfl⟩ := beepTask_frame h
    exact {}

/-- **The step of the system.** -/
theorem socketsOwned_step {a : TaskAction} (h : a.run cfg s = some s') (hguard : NoLateStore s a)
    (hinv : s.SocketsOwned) : s'.SocketsOwned := by
  by_cases horch : ∃ ok, a = .orchestrator ok
  · obtain ⟨ok, rfl⟩ := horch
    exact socketsOwned_orchestrator h hinv
  by_cases hdns : ∃ i ok, a = .dns i ok
  · obtain ⟨i, ok, rfl⟩ := hdns
    exact socketsOwned_dns h hguard hinv
  have hout : ∀ ok, a ≠ .orchestrator ok := fun ok ha ↦ horch ⟨ok, ha⟩
  have hsame := sameDns_of_step h hout fun i ok ha ↦ hdns ⟨i, ok, ha⟩
  have hpc := (sameInside_of_step h hout).1.orch
  refine hinv.of_same hsame (congrArg OrchPc.sock hpc) ?_
  rw [hpc]
  exact hinv.facts.of_task_step hsame.dnsTask (fun _ ↦ hsame.dnsStopped)
    (fun _ _ _ ↦ hsame.dnsSocket) fun hall ↦ ⟨hsame.dnsSocket, hsame.dns ▸ hall⟩

/-- The invariant holds in every state of a run without a late store. -/
theorem socketsOwned_of_reachableBy (h : (taskSystem cfg).ReachableBy NoLateStore s) :
    s.SocketsOwned := by
  refine h.invariant ?_ fun s a s' _ hinv hguard hst ↦
    socketsOwned_step (taskSystem_step hst) hguard hinv
  exact {
    others := fun _ _ ↦ rfl
    stopped := nofun
    unset := fun _ ↦ rfl
    starting := nofun
    facts := trivial
    socks := List.Perm.refl [] }

/-- Without a task handle the orchestrator holds no descriptor. -/
theorem OrchPc.DnsFacts.sock_eq_none {pc : OrchPc} (h : pc.DnsFacts s)
    (hnone : s.ctx.dnsTask = none) : pc.sock = none := by
  cases pc with
  | stopDns caller k =>
    cases k with
    | wait sock | close sock => exact absurd hnone h.1
    | hung sock => exact absurd hnone h
    | _ => rfl
  | _ => rfl

/-- **Every descriptor is closed exactly once**, in a run without a late store: none is closed
twice or without having been opened, and whenever `ctx->dns_task` is `NULL` all that were opened
have been closed. -/
theorem sockets_closed_once (h : (taskSystem cfg).ReachableBy NoLateStore s) :
    s.socksClosed.Nodup ∧ (∀ sock ∈ s.socksClosed, sock < s.socksOpened) ∧
      (s.ctx.dnsTask = none → ∀ sock < s.socksOpened, s.socksClosed.count sock = 1) := by
  have hinv := socketsOwned_of_reachableBy h
  have hnodup : s.socks.Nodup := hinv.socks.nodup_iff.2 List.nodup_range
  have hclosed : s.socksClosed.Nodup := by
    rw [Sys.socks, List.append_assoc, List.append_assoc] at hnodup
    exact hnodup.of_append_left
  refine ⟨hclosed, fun sock hmem ↦ ?_, fun hnone sock hlt ↦ ?_⟩
  · rw [← List.mem_range, ← hinv.socks.mem_iff]
    simp [Sys.socks, hmem]
  · -- every other place is empty
    have hplaces : s.socks = s.socksClosed := by
      simp [Sys.socks, Sys.heldByTask, hnone, hinv.unset hnone, hinv.facts.sock_eq_none hnone]
    have hmem : sock ∈ s.socksClosed := by
      rw [← hplaces, hinv.socks.mem_iff, List.mem_range]
      exact hlt
    exact List.count_eq_one_of_mem hclosed hmem

/-! ### Two runs -/

/-- The DNS server is started for a station and its instance goes through `as`; then the station
leaves and `STOP` is handled up to the wait for the instance. -/
def stopDuringStartup (as : List TaskAction) : List TaskAction :=
  [.connect] ++ List.replicate 6 (.handler true) ++ List.replicate 14 (.orchestrator true) ++ as ++
    [.disconnect] ++ List.replicate 5 (.handler true) ++ List.replicate 7 (.orchestrator true)

/-- The stop call finds the published descriptor and closes it. -/
theorem sockets_closed_once_published : ∃ s,
    (taskSystem defaultConfig).ReachableBy NoLateStore s ∧ s.ctx.dnsTask = none ∧
      s.socksOpened = 1 ∧ s.socksClosed.count 0 = 1 := by
  have hrun : ((taskSystem defaultConfig).exec NoLateStore (taskSystem defaultConfig).start
      (stopDuringStartup [.dns 0 true, .dns 0 true, .dns 0 true, .dns 0 true] ++
        [.dns 0 true, .dns 0 true, .orchestrator true, .orchestrator true, .orchestrator true])).any
      (fun s ↦ s.ctx.dnsTask = none ∧ s.socksOpened = 1) = true := by decide +kernel
  obtain ⟨s, hs, hp⟩ := StepSystem.exists_reachableBy_of_exec hrun
  obtain ⟨hnone, hopened⟩ := of_decide_eq_true hp
  exact ⟨s, hs, hnone, hopened, (sockets_closed_once hs).2.2 hnone 0 (by omega)⟩

/-- **The leak.** The instance publishes its descriptor behind the snapshot: the stop call has
returned, `ctx->dns_task` is `NULL`, and the descriptor is still open. -/
theorem socket_leaked : ∃ s, (taskSystem defaultConfig).Reachable s ∧ s.orch = .receive ∧
    s.ctx.dnsTask = none ∧ s.socksOpened = 1 ∧ s.socksClosed = [] := by
  have hrun : ((taskSystem defaultConfig).exec (fun _ _ ↦ True) (taskSystem defaultConfig).start
      (stopDuringStartup [.dns 0 true, .dns 0 true] ++
        [.dns 0 true, .dns 0 true, .dns 0 true, .dns 0 true] ++
        List.replicate 7 (.orchestrator true))).any
      (fun s ↦ s.orch = .receive ∧ s.ctx.dnsTask = none ∧ s.socksOpened = 1 ∧
        s.socksClosed = []) = true := by decide +kernel
  obtain ⟨s, hs, hp⟩ := StepSystem.exists_reachableBy_of_exec hrun
  exact ⟨s, hs, of_decide_eq_true hp⟩
