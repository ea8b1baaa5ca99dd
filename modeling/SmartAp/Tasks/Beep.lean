import SmartAp.Tasks.PowerMgmt
import SmartAp.Transition.Fair
import Mathlib.Data.List.Basic

/-!
# The beep token

`POST /beep` is answered by `beep_handler`, which runs in an HTTP task; the beeping is done by
`beep_task`. Between them stand the binary semaphore `beep_sem`, available at start-up, and the
queue `beep_queue` with one slot. The handler takes the semaphore without waiting, tests the
shutdown bit, and sends the command without waiting; the task gives the semaphore back when it has
finished. So there is one token: in the semaphore, in the hands of a handler, in the queue, or in
the hands of the task.

Any number of requests may be in progress, each at its own place (`BeepReq`), and any of them, the
task or `free_proc` (which sets `EVT_SHUTDOWN_BIT`) may move next. The command in the queue is kept
with the number of the request that sent it, and `sessions` is history: the requests whose beep
session has begun. A request in JavaScript gets its answer as JSON, another one as a redirect; the
choice between the two is no part of this state.

## One token

`BeepSys.OneToken` is the invariant of every interleaving. Its first fields count the token over its
places; the token is lost only when the task leaves its loop with it, which it does only after
shutdown has begun. Its last field is the account of the commands: a request stands once in the
queue or in the history if it was answered "started", and not at all otherwise. That a request gets
*at most* one session is read off this field in every reachable state, without any fairness.

## Sessions come

That it gets one *at all* is about infinite runs. `beep_task` can move in every state until it is
deleted (`beepTask_enabled`), so weak fairness is the whole assumption: a scheduler that does not
forget a task that is ready. Runs of this kind start from every reachable state before shutdown
(`exists_beeping_run`), in which the token is therefore never stuck.

`BeepSys.beepTask` refines the places `SmartAp.Tasks.PowerMgmt` keeps of the same task
(`beepTask_refines`).
-/

/-- What `beep_handler` answers. -/
inductive BeepAnswer
  | busy
  | started
  /-- `500`, shutdown has begun. -/
  | internalError
  /-- `"error"`, the queue was full. -/
  | queueError
  deriving DecidableEq, Repr

/-- Places of a request inside `beep_handler`. -/
inductive BeepReq
  /-- `xSemaphoreTake(ctx->beep_sem, 0)`. -/
  | takeSem
  | shutdownTest
  /-- `xQueueSend(ctx->beep_queue, &cmd, 0)`. -/
  | send
  /-- `xSemaphoreGive(ctx->beep_sem)`, then the answer. -/
  | giveBack (answer : BeepAnswer)
  | answered (answer : BeepAnswer)
  deriving DecidableEq, Repr

/-- The request has taken the semaphore and neither sent its command nor given it back. -/
def BeepReq.holds : BeepReq → Bool
  | .shutdownTest | .send | .giveBack _ => true
  | .takeSem | .answered _ => false

/-- Places inside `beep_task`; `req` is the request whose command was received. -/
inductive BeepTaskPc
  /-- The test at the head of the loop. -/
  | shutdownTest
  /-- `xQueueReceive(ctx->beep_queue, ...)`. -/
  | receive
  /-- `esp_timer_get_time() < end_us`. -/
  | timeTest (req : ℕ)
  /-- A round of three beeps and six pauses; the shutdown bit is tested before each. -/
  | round (req left : ℕ)
  /-- The test after `beep_stop`. -/
  | stopTest (req : ℕ)
  /-- `xSemaphoreGive(ctx->beep_sem)`. -/
  | give (req : ℕ)
  | setDone
  | deleted
  deriving DecidableEq, Repr

/-- The request whose beep the task has received and not yet finished. -/
def BeepTaskPc.request : BeepTaskPc → Option ℕ
  | .timeTest req | .round req _ | .stopTest req | .give req => some req
  | _ => none

/-- The task has left its loop. -/
def BeepTaskPc.left : BeepTaskPc → Bool
  | .setDone | .deleted => true
  | _ => false

/-- What the requests and `beep_task` share. -/
structure BeepSys where
  /-- `EVT_SHUTDOWN_BIT`. -/
  shutdown : Bool := false
  /-- `EVT_BEEP_DONE_BIT`. -/
  beepDone : Bool := false
  /-- `beep_sem` is available. -/
  beepSem : Bool := true
  /-- The senders of the commands in `beep_queue`. -/
  beepQueue : List ℕ := []
  /-- The requests in order of arrival. -/
  reqs : List BeepReq := []
  task : BeepTaskPc := .shutdownTest
  /-- The requests whose session has begun, latest first. -/
  sessions : List ℕ := []
  deriving Repr

/-- The length of `beep_queue`. -/
def beepQueueSize : ℕ := 1

/-- One step of `beep_handler` for request `i`. -/
def BeepSys.beepHandler (s : BeepSys) (i : ℕ) : Option BeepSys :=
  let goto (pc : BeepReq) : BeepSys := { s with reqs := s.reqs.set i pc }
  match s.reqs[i]? with
  | none => none
  | some .takeSem =>
    if s.beepSem then some { goto .shutdownTest with beepSem := false }
    else some (goto (.answered .busy))
  | some .shutdownTest => some (goto (if s.shutdown then .giveBack .internalError else .send))
  | some .send =>
    if s.beepQueue.length < beepQueueSize then
      some { goto (.answered .started) with beepQueue := s.beepQueue ++ [i] }
    else some (goto (.giveBack .queueError))
  | some (.giveBack answer) => some { goto (.answered answer) with beepSem := true }
  | some (.answered _) => none

/-- One step of `beep_task`. `ok` tells whether the receive found a command, and whether there is
time left. -/
def BeepSys.beepTask (s : BeepSys) (ok : Bool) : Option BeepSys :=
  match s.task with
  | .shutdownTest => some { s with task := if s.shutdown then .setDone else .receive }
  | .receive =>
    match s.beepQueue, ok with
    | req :: rest, true =>
      some { s with beepQueue := rest, task := .timeTest req, sessions := req :: s.sessions }
    | [], false => some { s with task := .shutdownTest }
    | _, _ => none
  | .timeTest req => some { s with task := if ok then .round req 9 else .stopTest req }
  | .round req 0 => some { s with task := .timeTest req }
  | .round req (left + 1) =>
    some { s with task := if s.shutdown then .stopTest req else .round req left }
  | .stopTest req => some { s with task := if s.shutdown then .setDone else .give req }
  | .give _ => some { s with beepSem := true, task := .shutdownTest }
  | .setDone => some { s with beepDone := true, task := .deleted }
  | .deleted => none

/-- Who moves. -/
inductive BeepAction
  /-- A request arrives. -/
  | request
  | handler (i : ℕ)
  | task (ok : Bool)
  /-- `free_proc` sets the shutdown bit. -/
  | setShutdown
  deriving DecidableEq, Repr

def BeepSys.step (s : BeepSys) : BeepAction → Option BeepSys
  | .request => some { s with reqs := s.reqs ++ [.takeSem] }
  | .handler i => s.beepHandler i
  | .task ok => s.beepTask ok
  | .setShutdown => some { s with shutdown := true }

/-- `beep_handler` for any number of requests with `beep_task`. -/
def beepSystem : StepSystem BeepSys BeepAction where
  start := {}
  step := BeepSys.step

/-! ### The invariant -/

/-- The tokens, place by place. -/
def BeepSys.tokens (s : BeepSys) : ℕ :=
  s.beepSem.toNat + s.beepQueue.length + s.reqs.countP BeepReq.holds + s.task.request.isSome.toNat

/-- Request `j` has taken the semaphore and its beep is not finished. -/
def BeepSys.Unfinished (s : BeepSys) (j : ℕ) : Prop :=
  (∃ pc, s.reqs[j]? = some pc ∧ pc.holds = true) ∨ j ∈ s.beepQueue ∨ s.task.request = some j

/-- The invariant. -/
structure BeepSys.OneToken (s : BeepSys) : Prop where
  tokens : s.tokens ≤ 1
  /-- The token is lost only when the task leaves its loop with it. -/
  kept : s.task.left = false → s.tokens = 1
  left : s.task.left = true → s.shutdown = true
  /-- The semaphore is given back only because shutdown has begun. -/
  givesBack : ∀ (i : ℕ) (answer : BeepAnswer),
    s.reqs[i]? = some (.giveBack answer) → answer = .internalError
  received : ∀ req, s.task.request = some req → req ∈ s.sessions
  /-- The command of a request that was answered "started" is in the queue or was received. -/
  started : ∀ i : ℕ, (s.beepQueue ++ s.sessions).count i =
    if s.reqs[i]? = some (.answered .started) then 1 else 0

variable {s s' : BeepSys}

/-! ### The handler -/

/-- A request that moves changes the count of the holders by what it holds before and after. -/
theorem countP_holds_set {i : ℕ} {pc pc' : BeepReq} (h : s.reqs[i]? = some pc) :
    (s.reqs.set i pc').countP BeepReq.holds + pc.holds.toNat =
      s.reqs.countP BeepReq.holds + pc'.holds.toNat := by
  obtain ⟨hlt, rfl⟩ := List.getElem?_eq_some_iff.1 h
  rw [List.countP_set hlt]
  cases hold : (s.reqs[i]).holds with
  | false => cases pc'.holds <;> simp
  | true =>
    have hpos : 0 < s.reqs.countP BeepReq.holds :=
      List.countP_pos_iff.2 ⟨_, List.getElem_mem hlt, hold⟩
    cases pc'.holds <;> simp <;> omega

theorem getElem?_reqs_set {i j : ℕ} {pc pc' : BeepReq} (h : s.reqs[i]? = some pc) :
    (s.reqs.set i pc')[j]? = if j = i then some pc' else s.reqs[j]? := by
  obtain ⟨hlt, -⟩ := List.getElem?_eq_some_iff.1 h
  rw [List.getElem?_set]
  by_cases hji : j = i
  · rw [if_pos hji.symm, if_pos hji, if_pos hlt]
  · rw [if_neg (Ne.symm hji), if_neg hji]

/-- A move of one request that keeps the number of tokens and, when it answers "started", has put
its command into the queue. -/
theorem BeepSys.OneToken.of_req (hinv : s.OneToken) {i : ℕ} {pc pc' : BeepReq} {sem : Bool}
    {queue : List ℕ} (hpc : s.reqs[i]? = some pc)
    (htokens : sem.toNat + queue.length + pc'.holds.toNat =
      s.beepSem.toNat + s.beepQueue.length + pc.holds.toNat)
    (hback : ∀ answer, pc' = .giveBack answer → answer = .internalError)
    (hbefore : pc ≠ .answered .started)
    (hstarted : queue = s.beepQueue ∧ pc' ≠ .answered .started ∨
      queue = s.beepQueue ++ [i] ∧ pc' = .answered .started) :
    BeepSys.OneToken { s with reqs := s.reqs.set i pc', beepSem := sem, beepQueue := queue } := by
  have hsame : BeepSys.tokens { s with
      reqs := s.reqs.set i pc', beepSem := sem, beepQueue := queue } = s.tokens := by
    have hcount : (s.reqs.set i pc').countP BeepReq.holds + pc.holds.toNat =
        s.reqs.countP BeepReq.holds + pc'.holds.toNat := countP_holds_set hpc
    simp only [BeepSys.tokens]
    omega
  refine ⟨hsame ▸ hinv.tokens, fun hleft ↦ hsame.trans (hinv.kept hleft), hinv.left,
    fun j answer hj ↦ ?_, hinv.received, fun j ↦ ?_⟩
  · change (s.reqs.set i pc')[j]? = _ at hj
    rw [getElem?_reqs_set hpc] at hj
    split at hj
    · exact hback answer (Option.some.inj hj)
    · exact hinv.givesBack j answer hj
  · show (queue ++ s.sessions).count j = if (s.reqs.set i pc')[j]? = _ then 1 else 0
    rw [getElem?_reqs_set hpc]
    have hold := hinv.started j
    by_cases hji : j = i
    · subst hji
      rw [hpc, if_neg fun h ↦ hbefore (Option.some.inj h)] at hold
      rcases hstarted with ⟨rfl, hpc'⟩ | ⟨rfl, rfl⟩
      · simpa [hpc'] using hold
      · simp only [List.count_append, List.count_singleton_self, if_true] at hold ⊢
        omega
    · rw [if_neg hji, ← hold]
      rcases hstarted with ⟨rfl, -⟩ | ⟨rfl, -⟩
      · rfl
      · simp [List.count_append, Ne.symm hji]

/-- A token in the hands of a request is nowhere else. -/
theorem BeepSys.OneToken.of_holds (hinv : s.OneToken) {i : ℕ} {pc : BeepReq}
    (hpc : s.reqs[i]? = some pc) (hholds : pc.holds = true) :
    s.beepSem = false ∧ s.beepQueue = [] ∧ s.task.request = none := by
  have htokens := hinv.tokens
  have hpos : 0 < s.reqs.countP BeepReq.holds :=
    List.countP_pos_iff.2 ⟨pc, List.mem_of_getElem? hpc, hholds⟩
  simp only [BeepSys.tokens] at htokens
  refine ⟨?_, List.length_eq_zero_iff.1 (by omega), ?_⟩
  · rw [← Bool.toNat_eq_zero]
    omega
  · cases hreq : s.task.request with
    | none => rfl
    | some req =>
      simp only [hreq, Option.isSome_some, Bool.toNat_true] at htokens
      omega

/-- **The step of a request.** -/
theorem oneToken_handler {i : ℕ} (h : s.beepHandler i = some s') (hinv : s.OneToken) :
    s'.OneToken := by
  simp only [BeepSys.beepHandler] at h
  cases hpc : s.reqs[i]? with
  | none =>
    rw [hpc] at h
    cases h
  | some pc =>
    rw [hpc] at h
    cases pc with
    | takeSem =>
      simp only at h
      split at h <;> obtain rfl := Option.some.inj h
      · rename_i hsem
        exact hinv.of_req hpc (by simp [hsem, BeepReq.holds, Nat.add_comm]) nofun nofun
          (.inl ⟨rfl, nofun⟩)
      · exact hinv.of_req hpc rfl nofun nofun (.inl ⟨rfl, nofun⟩)
    | shutdownTest =>
      obtain rfl := Option.some.inj h
      refine hinv.of_req hpc ?_ ?_ nofun (.inl ⟨rfl, ?_⟩) <;> cases s.shutdown <;>
        simp [BeepReq.holds]
    | send =>
      -- the token is in the request's hands: the queue is empty
      have hempty := (hinv.of_holds hpc rfl).2.1
      simp only [hempty, List.length_nil, beepQueueSize, Nat.zero_lt_one, if_true] at h
      obtain rfl := Option.some.inj h
      exact hinv.of_req hpc (by simp [hempty, BeepReq.holds]) nofun nofun
        (.inr ⟨by rw [hempty], rfl⟩)
    | giveBack answer =>
      obtain rfl := Option.some.inj h
      have hsem := (hinv.of_holds hpc rfl).1
      obtain rfl := hinv.givesBack i answer hpc
      exact hinv.of_req hpc (by simp [hsem, BeepReq.holds, Nat.add_comm]) nofun nofun
        (.inl ⟨rfl, nofun⟩)
    | answered answer => cases h

/-! ### The task -/

/-- The token in the hands of the task is nowhere else. -/
theorem BeepSys.OneToken.of_request (hinv : s.OneToken) {req : ℕ}
    (hreq : s.task.request = some req) : s.beepSem = false ∧ s.beepQueue = [] := by
  have htokens := hinv.tokens
  simp only [BeepSys.tokens, hreq, Option.isSome_some, Bool.toNat_true] at htokens
  refine ⟨?_, List.length_eq_zero_iff.1 (by omega)⟩
  rw [← Bool.toNat_eq_zero]
  omega

/-- A move of the task that leaves the queue alone. -/
theorem BeepSys.OneToken.of_task (hinv : s.OneToken) {pc : BeepTaskPc} {sem done : Bool}
    (htokens : sem.toNat + pc.request.isSome.toNat ≤
      s.beepSem.toNat + s.task.request.isSome.toNat)
    (hkept : pc.left = false → s.task.left = false ∧
      sem.toNat + pc.request.isSome.toNat = s.beepSem.toNat + s.task.request.isSome.toNat)
    (hleft : pc.left = true → s.shutdown = true)
    (hreq : ∀ req, pc.request = some req → s.task.request = some req) :
    BeepSys.OneToken { s with task := pc, beepSem := sem, beepDone := done } := by
  refine ⟨?_, fun hpc ↦ ?_, hleft, hinv.givesBack, fun req h ↦ hinv.received req (hreq req h),
    hinv.started⟩
  · have hle := hinv.tokens
    simp only [BeepSys.tokens] at hle ⊢
    omega
  · obtain ⟨hin, heq⟩ := hkept hpc
    have hone := hinv.kept hin
    simp only [BeepSys.tokens] at hone ⊢
    omega

/-- **The step of the task.** -/
theorem oneToken_task {ok : Bool} (h : s.beepTask ok = some s') (hinv : s.OneToken) :
    s'.OneToken := by
  cases hpc : s.task <;> simp only [BeepSys.beepTask, hpc] at h
  case shutdownTest =>
    obtain rfl := Option.some.inj h
    refine hinv.of_task ?_ ?_ ?_ ?_ <;> cases hdown : s.shutdown <;>
      simp [hpc, BeepTaskPc.request, BeepTaskPc.left]
  case receive =>
    split at h <;> cases h
    · rename_i req rest hq
      have hkept := hinv.kept (by rw [hpc]; rfl)
      have htokens : BeepSys.tokens { s with
          beepQueue := rest, task := .timeTest req, sessions := req :: s.sessions } = s.tokens := by
        simp only [BeepSys.tokens, hpc, hq, BeepTaskPc.request, List.length_cons,
          Option.isSome_some, Option.isSome_none, Bool.toNat_true, Bool.toNat_false]
        omega
      refine ⟨htokens ▸ hinv.tokens, fun _ ↦ htokens.trans hkept, nofun, hinv.givesBack,
        fun _ h ↦ ?_, fun i ↦ ?_⟩
      · obtain rfl := Option.some.inj h
        exact List.mem_cons_self
      -- the command moves from the queue to the history
      have hstarted := hinv.started i
      rw [hq] at hstarted
      rw [← hstarted]
      show (rest ++ req :: s.sessions).count i = (req :: rest ++ s.sessions).count i
      exact List.perm_middle.count_eq i
    · refine hinv.of_task ?_ ?_ ?_ ?_ <;> simp [hpc, BeepTaskPc.request, BeepTaskPc.left]
  case timeTest req =>
    obtain rfl := Option.some.inj h
    refine hinv.of_task ?_ ?_ ?_ ?_ <;> cases ok <;> simp [hpc, BeepTaskPc.request, BeepTaskPc.left]
  case round req left =>
    cases left with
    | zero =>
      obtain rfl := Option.some.inj h
      refine hinv.of_task ?_ ?_ ?_ ?_ <;> simp [hpc, BeepTaskPc.request, BeepTaskPc.left]
    | succ left =>
      obtain rfl := Option.some.inj h
      refine hinv.of_task ?_ ?_ ?_ ?_ <;> cases s.shutdown <;>
        simp [hpc, BeepTaskPc.request, BeepTaskPc.left]
  case stopTest req =>
    -- on shutdown the token is lost with the task
    obtain rfl := Option.some.inj h
    refine hinv.of_task ?_ ?_ ?_ ?_ <;> cases hdown : s.shutdown <;>
      simp [hpc, BeepTaskPc.request, BeepTaskPc.left]
  case give req =>
    obtain rfl := Option.some.inj h
    have hreq : s.task.request = some req := by rw [hpc]; rfl
    have hsem := (hinv.of_request hreq).1
    refine hinv.of_task ?_ ?_ ?_ ?_ <;> simp [hpc, hsem, BeepTaskPc.request, BeepTaskPc.left]
  case setDone =>
    obtain rfl := Option.some.inj h
    have hdown := hinv.left (by rw [hpc]; rfl)
    refine hinv.of_task ?_ ?_ ?_ ?_ <;> simp [hpc, hdown, BeepTaskPc.request, BeepTaskPc.left]
  case deleted => cases h

/-! ### The run -/

theorem oneToken_step {a : BeepAction} (h : s.step a = some s') (hinv : s.OneToken) :
    s'.OneToken := by
  cases a with
  | request =>
    obtain rfl := Option.some.inj h
    -- the new request has not taken the semaphore
    have hreqs : ∀ (i : ℕ) (pc : BeepReq), pc ≠ .takeSem →
        ((s.reqs ++ [.takeSem])[i]? = some pc ↔ s.reqs[i]? = some pc) := fun i pc hpc ↦ by
      rcases Nat.lt_or_ge i s.reqs.length with hlt | hge
      · rw [List.getElem?_append_left hlt]
      · rw [List.getElem?_append_right hge, List.getElem?_eq_none hge, List.getElem?_singleton]
        split <;> simp [Ne.symm hpc]
    have htokens : BeepSys.tokens { s with reqs := s.reqs ++ [.takeSem] } = s.tokens := by
      simp [BeepSys.tokens, BeepReq.holds]
    refine ⟨htokens ▸ hinv.tokens, fun hleft ↦ htokens.trans (hinv.kept hleft), hinv.left,
      fun i answer hi ↦ hinv.givesBack i answer ((hreqs i (.giveBack answer) nofun).1 hi),
      hinv.received, fun i ↦ ?_⟩
    rw [hinv.started i]
    exact if_congr (hreqs i (.answered .started) nofun).symm rfl rfl
  | handler i => exact oneToken_handler h hinv
  | task ok => exact oneToken_task h hinv
  | setShutdown =>
    obtain rfl := Option.some.inj h
    exact ⟨hinv.tokens, hinv.kept, fun _ ↦ rfl, hinv.givesBack, hinv.received, hinv.started⟩

theorem oneToken_of_reachable (h : beepSystem.Reachable s) : s.OneToken := by
  refine StepSystem.ReachableBy.invariant (I := BeepSys.OneToken) ?_ ?_ h
  · exact ⟨by decide, fun _ ↦ by decide, nofun, nofun, nofun, fun i ↦ by simp [beepSystem]⟩
  · intro s a s' _ hinv _ hst
    exact oneToken_step hst hinv

/-- Without the semaphore some beep is not finished, or shutdown has begun. -/
theorem BeepSys.OneToken.unfinished (hinv : s.OneToken) (hsem : s.beepSem = false) :
    s.shutdown = true ∨ ∃ j, s.Unfinished j := by
  cases hleft : s.task.left with
  | true => exact .inl (hinv.left hleft)
  | false =>
    refine .inr ?_
    have htokens := hinv.kept hleft
    simp only [BeepSys.tokens, hsem, Bool.toNat_false] at htokens
    cases hreq : s.task.request with
    | some req => exact ⟨req, .inr (.inr hreq)⟩
    | none =>
      cases hq : s.beepQueue with
      | cons j rest => exact ⟨j, .inr (.inl (by rw [hq]; exact List.mem_cons_self))⟩
      | nil =>
        rw [hreq, hq] at htokens
        obtain ⟨pc, hmem, hholds⟩ := List.countP_pos_iff.1
          (show 0 < s.reqs.countP BeepReq.holds by simp at htokens; omega)
        obtain ⟨j, hj⟩ := List.mem_iff_getElem?.1 hmem
        exact ⟨j, .inl ⟨pc, hj, hholds⟩⟩

/-- A request that is answered "busy" found the semaphore taken. -/
theorem beepHandler_busy {i : ℕ} (hinv : s.OneToken) (h : s.beepHandler i = some s')
    (hbusy : s'.reqs[i]? = some (.answered .busy)) :
    s.reqs[i]? = some .takeSem ∧ s.beepSem = false := by
  simp only [BeepSys.beepHandler] at h
  cases hpc : s.reqs[i]? with
  | none =>
    rw [hpc] at h
    cases h
  | some pc =>
    rw [hpc] at h
    cases pc with
    | takeSem =>
      simp only at h
      split at h <;> obtain rfl := Option.some.inj h
      · change (s.reqs.set i .shutdownTest)[i]? = _ at hbusy
        rw [getElem?_reqs_set hpc, if_pos rfl] at hbusy
        cases hbusy
      · exact ⟨rfl, Bool.eq_false_iff.2 ‹_›⟩
    | shutdownTest =>
      obtain rfl := Option.some.inj h
      change (s.reqs.set i _)[i]? = _ at hbusy
      rw [getElem?_reqs_set hpc, if_pos rfl] at hbusy
      cases hdown : s.shutdown <;> simp [hdown] at hbusy
    | send =>
      simp only at h
      split at h <;> obtain rfl := Option.some.inj h <;>
        · change (s.reqs.set i _)[i]? = _ at hbusy
          rw [getElem?_reqs_set hpc, if_pos rfl] at hbusy
          cases hbusy
    | giveBack answer =>
      obtain rfl := Option.some.inj h
      change (s.reqs.set i _)[i]? = _ at hbusy
      rw [getElem?_reqs_set hpc, if_pos rfl, hinv.givesBack i answer hpc] at hbusy
      cases hbusy
    | answered answer => cases h

/-! ### Sessions -/

/-- The steps of the requests leave the task alone, and the queue only grows. -/
theorem others_keep_task {a : BeepAction} (h : s.step a = some s') (ha : ∀ ok, a ≠ .task ok) :
    s'.task = s.task ∧ ∀ j ∈ s.beepQueue, j ∈ s'.beepQueue := by
  cases a with
  | request =>
    obtain rfl := Option.some.inj h
    exact ⟨rfl, fun _ ↦ id⟩
  | task ok => exact absurd rfl (ha ok)
  | setShutdown =>
    obtain rfl := Option.some.inj h
    exact ⟨rfl, fun _ ↦ id⟩
  | handler i =>
    simp only [BeepSys.step, BeepSys.beepHandler] at h
    split at h
    case h_1 | h_6 => cases h
    case h_2 =>
      split at h <;> cases h <;> exact ⟨rfl, fun _ ↦ id⟩
    case h_4 =>
      split at h <;> cases h
      · exact ⟨rfl, fun j hj ↦ List.mem_append_left _ hj⟩
      · exact ⟨rfl, fun _ ↦ id⟩
    all_goals
      obtain rfl := Option.some.inj h
      exact ⟨rfl, fun _ ↦ id⟩

/-- The history only grows. -/
theorem sessions_grow {a : BeepAction} (h : s.step a = some s') :
    s.sessions.Sublist s'.sessions := by
  cases a with
  | request | setShutdown =>
    obtain rfl := Option.some.inj h
    exact .refl _
  | handler i =>
    simp only [BeepSys.step, BeepSys.beepHandler] at h
    split at h <;> try split at h
    all_goals cases h <;> exact .refl _
  | task ok =>
    simp only [BeepSys.step, BeepSys.beepTask] at h
    split at h <;> try split at h
    all_goals first | (cases h; done) | skip
    all_goals
      obtain rfl := Option.some.inj h
      first | exact .refl _ | exact .cons _ (.refl _)

/-- While shutdown has not begun, the task is in its loop with a command in the queue to receive. -/
theorem BeepSys.OneToken.task_of_queued (hinv : s.OneToken) (hup : s.shutdown = false) {i : ℕ}
    (hi : i ∈ s.beepQueue) :
    s.beepQueue = [i] ∧ (s.task = .shutdownTest ∨ s.task = .receive) := by
  have htokens := hinv.tokens
  simp only [BeepSys.tokens] at htokens
  have hpos := List.length_pos_of_mem hi
  obtain ⟨j, hj⟩ := List.length_eq_one_iff.1 (show s.beepQueue.length = 1 by omega)
  refine ⟨by rw [hj] at hi ⊢; rw [List.mem_singleton.1 hi], ?_⟩
  cases hpc : s.task with
  | shutdownTest => exact .inl rfl
  | receive => exact .inr rfl
  | setDone | deleted =>
    have hdown := hinv.left (by rw [hpc]; rfl)
    rw [hup] at hdown
    cases hdown
  | _ =>
    simp only [hpc, BeepTaskPc.request, Option.isSome_some, Bool.toNat_true] at htokens
    omega

/-- With a command in the queue, a step of the task comes to the receive, or receives it. -/
theorem beepTask_receives (hinv : s.OneToken) (hup : s.shutdown = false) {i : ℕ}
    (hi : i ∈ s.beepQueue) {ok : Bool} (h : s.beepTask ok = some s') :
    (s.task = .shutdownTest → i ∈ s'.beepQueue ∧ s'.task = .receive) ∧
      (s.task = .receive → i ∈ s'.sessions) := by
  obtain ⟨hone, -⟩ := hinv.task_of_queued hup hi
  refine ⟨fun hpc ↦ ?_, fun hpc ↦ ?_⟩
  · simp only [BeepSys.beepTask, hpc, hup] at h
    obtain rfl := Option.some.inj h
    exact ⟨hi, rfl⟩
  · simp only [BeepSys.beepTask, hpc, hone] at h
    cases ok <;> cases h
    exact List.mem_cons_self

/-- The task moves. -/
def BeepAction.isTask (a : BeepAction) : Prop := ∃ ok, a = .task ok

/-- **A command in the queue is received**, if the task keeps moving and shutdown does not begin:
first the task comes to its receive, then the receive takes the command. -/
theorem queued_is_received (r : beepSystem.Run) (hfair : r.Fair BeepAction.isTask)
    (hup : ∀ n, (r.state n).shutdown = false) {n i : ℕ} (hi : i ∈ (r.state n).beepQueue) :
    ∃ m, n ≤ m ∧ i ∈ (r.state m).sessions := by
  have hinv : ∀ m, (r.state m).OneToken := fun m ↦ oneToken_of_reachable (r.reachable m)
  have hother : ∀ m pc, i ∈ (r.state m).beepQueue ∧ (r.state m).task = pc →
      ¬(r.action m).isTask → i ∈ (r.state (m + 1)).beepQueue ∧ (r.state (m + 1)).task = pc :=
    fun m pc ⟨hq, hpc⟩ hm ↦ by
      obtain ⟨hsame, hkeep⟩ := others_keep_task (r.step m) fun ok hok ↦ hm ⟨ok, hok⟩
      exact ⟨hkeep i hq, hsame.trans hpc⟩
  have htask : ∀ m, i ∈ (r.state m).beepQueue → (r.action m).isTask →
      ((r.state m).task = .shutdownTest →
        i ∈ (r.state (m + 1)).beepQueue ∧ (r.state (m + 1)).task = .receive) ∧
      ((r.state m).task = .receive → i ∈ (r.state (m + 1)).sessions) := by
    rintro m hq ⟨ok, hok⟩
    have hst := r.step m
    rw [hok] at hst
    exact beepTask_receives (hinv m) (hup m) hq hst
  obtain ⟨m, hm, hreceive⟩ : ∃ m, n ≤ m ∧ i ∈ (r.state m).beepQueue ∧
      (r.state m).task = .receive := by
    rcases ((hinv n).task_of_queued (hup n) hi).2 with htest | hreceive
    · exact r.ensures hfair (P := fun s ↦ i ∈ s.beepQueue ∧ s.task = .shutdownTest)
        (Q := fun s ↦ i ∈ s.beepQueue ∧ s.task = .receive) ⟨hi, htest⟩
        (fun m ↦ hother m _) fun m hp ha ↦ (htask m hp.1 ha).1 hp.2
    · exact ⟨n, Nat.le_refl n, hi, hreceive⟩
  obtain ⟨k, hk, hsession⟩ := r.ensures hfair
    (P := fun s ↦ i ∈ s.beepQueue ∧ s.task = .receive) (Q := fun s ↦ i ∈ s.sessions) hreceive
    (fun m ↦ hother m _) fun m hp ha ↦ (htask m hp.1 ha).2 hp.2
  exact ⟨k, Nat.le_trans hm hk, hsession⟩

/-- **A request that was answered "started" gets exactly one session**, if the task keeps moving and
shutdown does not begin. -/
theorem started_gets_one_session (r : beepSystem.Run) (hfair : r.Fair BeepAction.isTask)
    (hup : ∀ n, (r.state n).shutdown = false) {n i : ℕ}
    (hi : (r.state n).reqs[i]? = some (.answered .started)) :
    ∃ m, n ≤ m ∧ ∀ k, m ≤ k → (r.state k).sessions.count i = 1 := by
  have hcount := fun m ↦ (oneToken_of_reachable (r.reachable m)).started i
  have hle : ∀ m, (r.state m).sessions.count i ≤ 1 := fun m ↦ by
    have h := hcount m
    rw [List.count_append] at h
    split at h <;> omega
  have hreceived : ∃ m, n ≤ m ∧ i ∈ (r.state m).sessions := by
    have h := hcount n
    rw [if_pos hi] at h
    rcases List.mem_append.1 (List.count_pos_iff.1 (by omega :
      0 < ((r.state n).beepQueue ++ (r.state n).sessions).count i)) with hq | hsession
    · exact queued_is_received r hfair hup hq
    · exact ⟨n, Nat.le_refl n, hsession⟩
  obtain ⟨m, hm, hsession⟩ := hreceived
  refine ⟨m, hm, fun k hk ↦ Nat.le_antisymm (hle k) ?_⟩
  have hstays : i ∈ (r.state k).sessions :=
    r.keeps (P := fun s ↦ i ∈ s.sessions) hsession
      (fun j _ hj ↦ (sessions_grow (r.step j)).subset hj) hk
  exact List.count_pos_iff.2 hstays

/-! ### The task never stops -/

/-- Until it is deleted, the task can move: the receive finds a command or times out. -/
theorem beepTask_enabled (h : s.task ≠ .deleted) : beepSystem.Enabled BeepAction.isTask s := by
  obtain ⟨ok, s', hst⟩ : ∃ ok s', s.beepTask ok = some s' := by
    cases hpc : s.task with
    | deleted => exact absurd hpc h
    | receive =>
      cases hq : s.beepQueue with
      | nil => exact ⟨false, by simp [BeepSys.beepTask, hpc, hq]⟩
      | cons req rest => exact ⟨true, by simp [BeepSys.beepTask, hpc, hq]⟩
    | round req left => cases left <;> exact ⟨false, by simp [BeepSys.beepTask, hpc]⟩
    | _ => exact ⟨false, by simp [BeepSys.beepTask, hpc]⟩
  exact ⟨.task ok, s', ⟨ok, rfl⟩, hst⟩

/-- The task does not set the shutdown bit. -/
theorem beepTask_shutdown {ok : Bool} (h : s.beepTask ok = some s') :
    s'.shutdown = s.shutdown := by
  simp only [BeepSys.beepTask] at h
  split at h <;> try split at h
  all_goals first | (cases h; done) | skip
  all_goals
    obtain rfl := Option.some.inj h
    rfl

/-- Before shutdown the task is not deleted. -/
theorem BeepSys.OneToken.task_ne_deleted (hinv : s.OneToken) (hup : s.shutdown = false) :
    s.task ≠ .deleted := fun hpc ↦ by
  have hdown := hinv.left (by rw [hpc]; rfl)
  rw [hup] at hdown
  cases hdown

/-- **A run without shutdown in which the task keeps moving** starts from every reachable state
before shutdown. -/
theorem exists_beeping_run (h : beepSystem.Reachable s) (hup : s.shutdown = false) :
    ∃ r : beepSystem.Run, r.state 0 = s ∧ r.Fair BeepAction.isTask ∧
      ∀ n, (r.state n).shutdown = false := by
  refine StepSystem.exists_run_of_enabled (I := fun s ↦ s.shutdown = false) ?_ h hup
  intro t ht hup
  have hne := (oneToken_of_reachable ht).task_ne_deleted hup
  obtain ⟨a, t', ⟨ok, rfl⟩, hst⟩ := beepTask_enabled hne
  exact ⟨.task ok, t', ⟨ok, rfl⟩, hst, (beepTask_shutdown hst).trans hup⟩

/-! ### Conservation over every run -/

/-- "busy" is answered while the beep of another request is not finished, or after shutdown has
begun. -/
theorem BeepSys.OneToken.unfinished_of_busy (hinv : s.OneToken) {i : ℕ}
    (hst : s.beepHandler i = some s') (hbusy : s'.reqs[i]? = some (.answered .busy)) :
    s.shutdown = true ∨ ∃ j, j ≠ i ∧ s.Unfinished j := by
  obtain ⟨htake, hsem⟩ := beepHandler_busy hinv hst hbusy
  refine (hinv.unfinished hsem).imp_right fun ⟨j, hj⟩ ↦ ⟨j, ?_, hj⟩
  -- a request that is about to take the semaphore has no beep of its own
  rintro rfl
  have hnone := hinv.started j
  rw [htake, if_neg (by simp), List.count_eq_zero, List.mem_append, not_or] at hnone
  rcases hj with ⟨pc, hpc, hholds⟩ | hq | hreq
  · rw [htake] at hpc
    cases hpc
    cases hholds
  · exact hnone.1 hq
  · exact hnone.2 (hinv.received j hreq)

/-- The place of `beep_task` as far as shutdown goes. The tests at the head of the loop and after
`beep_stop` are the same test there. -/
def BeepTaskPc.place : BeepTaskPc → BeepPc
  | .shutdownTest | .stopTest _ => .shutdownTest
  | .receive | .timeTest _ | .round _ _ | .give _ => .session
  | .setDone => .setDone
  | .deleted => .deleted

/-- The state of `SmartAp.Tasks.System` shows what this one has of the task. -/
structure BeepSys.ShownBy (s : BeepSys) (t : Sys) : Prop where
  place : t.beep = s.task.place
  shutdown : t.ctx.events.shutdown = s.shutdown
  beepDone : t.ctx.events.beepDone = s.beepDone

theorem beepTask_at_test {t : Sys} (h : t.beep = .shutdownTest) :
    beepTask t =
      some { t with beep := if t.ctx.events.shutdown then .setDone else .session } := by
  rw [beepTask, h]

theorem beepTask_at_session {t : Sys} (h : t.beep = .session) :
    beepTask t = some { t with beep := .shutdownTest } := by
  rw [beepTask, h]

/-- **The task refines the one of the shutdown model**: each of its steps is a step there, or
nothing happens there. -/
theorem beepTask_refines {ok : Bool} {t : Sys} (h : s.beepTask ok = some s')
    (hshown : s.ShownBy t) :
    s'.ShownBy t ∨ ∃ t', beepTask t = some t' ∧ s'.ShownBy t' := by
  obtain ⟨hplace, hdown, hdone⟩ := hshown
  cases hpc : s.task <;> simp only [BeepSys.beepTask, hpc] at h <;> rw [hpc] at hplace
  case shutdownTest | stopTest req =>
    obtain rfl := Option.some.inj h
    refine .inr ⟨_, beepTask_at_test hplace, ?_, hdown, hdone⟩
    show (if t.ctx.events.shutdown then BeepPc.setDone else BeepPc.session) = _
    rw [hdown]
    cases s.shutdown <;> rfl
  case receive =>
    split at h <;> cases h
    · exact .inl ⟨hplace, hdown, hdone⟩
    · exact .inr ⟨_, beepTask_at_session hplace, rfl, hdown, hdone⟩
  case timeTest req =>
    obtain rfl := Option.some.inj h
    cases ok with
    | true => exact .inl ⟨hplace, hdown, hdone⟩
    | false => exact .inr ⟨_, beepTask_at_session hplace, rfl, hdown, hdone⟩
  case round req left =>
    cases left with
    | zero =>
      obtain rfl := Option.some.inj h
      exact .inl ⟨hplace, hdown, hdone⟩
    | succ left =>
      obtain rfl := Option.some.inj h
      by_cases hset : s.shutdown = true
      · exact .inr ⟨_, beepTask_at_session hplace, by simp [hset, BeepTaskPc.place], hdown, hdone⟩
      · exact .inl ⟨by simpa [hset, BeepTaskPc.place] using hplace, hdown, hdone⟩
  case give req =>
    obtain rfl := Option.some.inj h
    exact .inr ⟨_, beepTask_at_session hplace, rfl, hdown, hdone⟩
  case setDone =>
    obtain rfl := Option.some.inj h
    exact .inr ⟨{ t with ctx.events.beepDone := true, beep := .deleted },
      by rw [beepTask, hplace]; rfl, rfl, hdown, rfl⟩
  case deleted => cases h
