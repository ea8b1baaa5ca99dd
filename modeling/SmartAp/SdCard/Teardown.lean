import SmartAp.SdCard.CardLock
import SmartAp.Transition.Guarded
import Mathlib.Data.List.Basic

/-!
# Calls of the driver while it is torn down

The callbacks of FatFs and the functions of the password API run in any number of tasks. Each one
tests `Stat` or `s_spi_mutex`, takes the mutex, moves bytes over the bus and gives the mutex back,
and between any two of these steps any other task may run. One task calls
`sd_spi_diskio_unregister`, which resets `Stat` and `cs_pin` under the mutex, and then
`sd_spi_bus_deinit`, which deletes the mutex while it holds it.

What a call has tested before it takes the mutex need not be so any more when it gets it:
`ff_sd_spi_read`, `ff_sd_spi_write`, `ff_sd_spi_ioctl` and `sd_spi_is_locked` do not test `Stat`
again (the other functions of the password API do), and none can know that the mutex is still there.
So a call can move bytes on a driver that is torn down, or wait for a mutex that is deleted. It is a
matter of the calls that stand between their test and the mutex when `Stat` is reset and when the
mutex is deleted, and of the pointer to the deleted mutex (`DriverSys.Undisturbed`); otherwise all
goes well (`driver_not_torn_down`).
-/

/-! ### The state -/

/-- What a task has called. -/
inductive CallKind
  | read
  | write
  | ioctl
  | isLocked
  | password (call : PasswordCall)

/-- Where a call stands. -/
inductive CallPc
  /-- Before the test of `STA_NOINIT`. -/
  | testStat
  /-- Before the test of `STA_PROTECT`. -/
  | testProtect
  /-- Before the test of `s_spi_mutex`. -/
  | testMutex
  /-- Before `xSemaphoreTake`. -/
  | take
  /-- In `xSemaphoreTake`. -/
  | waiting
  /-- With the mutex, before the test of `STA_NOINIT` in `sd_do_lock_unlock_locked`. -/
  | testHeld
  | transfer
  /-- Before the change of `Stat`, if there is one. -/
  | update
  | give
  | returned
  deriving DecidableEq

structure DriverCall where
  kind : CallKind
  pc : CallPc

/-- Where the task stands that tears the driver down. -/
inductive SdTeardownPc
  /-- `sd_spi_diskio_unregister`: before the test of `s_spi_mutex`. -/
  | testUnregister
  | takeUnregister
  | waitUnregister
  /-- `select_card` and `deselect`. -/
  | selectCard
  /-- `cs_pin = GPIO_NUM_MAX` -/
  | resetPin
  /-- `Stat = STA_NOINIT` -/
  | resetStat
  | giveUnregister
  /-- `sd_spi_bus_deinit`: before the test of `s_spi_mutex`. -/
  | testDeinit
  | takeDeinit
  | waitDeinit
  | spiDeinit
  | deleteMutex
  /-- `s_spi_mutex = NULL` -/
  | clearMutex
  | finished
  deriving DecidableEq

inductive SdTask
  | teardown
  | call (i : ℕ)
  deriving DecidableEq

/-- The driver, and the tasks that use it. -/
structure DriverSys where
  /-- `s_spi_mutex != NULL` -/
  mutex : Bool
  /-- The mutex has not been deleted. -/
  alive : Bool
  holder : Option SdTask
  stat : DStatus
  /-- `cs_pin` is a configured pin. -/
  pin : Bool
  /-- `s_hw_initialized` -/
  hw : Bool
  teardown : SdTeardownPc
  calls : List DriverCall

/-! ### The steps -/

/-- Where a call begins. -/
def CallKind.entry : CallKind → CallPc
  | read | write | ioctl | isLocked => .testStat
  | password _ => .testMutex

/-- What comes after the test of `STA_NOINIT` without the mutex. -/
def CallKind.afterStat : CallKind → CallPc
  | write => .testProtect
  | isLocked => .testMutex
  | read | ioctl | password _ => .take

/-- What comes when the mutex is taken. -/
def CallKind.afterTake : CallKind → CallPc
  | password _ => .testHeld
  | read | write | ioctl | isLocked => .transfer

/-- The change of `Stat` after `ESP_OK`. -/
def CallKind.done : CallKind → DStatus → DStatus
  | password call => call.request.done
  | read | write | ioctl | isLocked => id

theorem CallKind.done_noInit (kind : CallKind) {stat : DStatus} :
    (kind.done stat).noInit = stat.noInit := by
  cases kind with
  | password call => exact PasswordCall.request_done_noInit
  | _ => rfl

namespace DriverSys

variable (s : DriverSys)

/-- Call `i` moves on. -/
def moveCall (i : ℕ) (c : DriverCall) (pc : CallPc) : DriverSys :=
  { s with calls := s.calls.set i { c with pc } }

/-- A step of call `i`. The choice is between getting the mutex and the end of the wait, between one
more byte and the end of the transfer, and between success and failure. What `xSemaphoreTake` does
with a deleted mutex is not defined. -/
def callStep (i : ℕ) (choice : Bool) : Option DriverSys :=
  match s.calls[i]? with
  | none => none
  | some c =>
    match c.pc with
    | .testStat => some (s.moveCall i c (if s.stat.noInit then .returned else c.kind.afterStat))
    | .testProtect => some (s.moveCall i c (if s.stat.isProtected then .returned else .take))
    | .testMutex => some (s.moveCall i c (if s.mutex then .take else .returned))
    | .take =>
      if s.alive then
        if s.holder = none then
          some { s.moveCall i c c.kind.afterTake with holder := some (.call i) }
        else some (s.moveCall i c .waiting)
      else none
    | .waiting =>
      if choice then
        if s.alive && s.holder = none then
          some { s.moveCall i c c.kind.afterTake with holder := some (.call i) }
        else none
      else some (s.moveCall i c .returned)
    | .testHeld => some (s.moveCall i c (if s.stat.noInit then .give else .transfer))
    | .transfer => some (if choice then s else s.moveCall i c .update)
    | .update =>
      some { s.moveCall i c .give with stat := if choice then c.kind.done s.stat else s.stat }
    | .give => some { s.moveCall i c .returned with holder := none }
    | .returned => none

/-- A step of the task that tears the driver down. -/
def teardownStep (choice : Bool) : Option DriverSys :=
  match s.teardown with
  | .testUnregister => some { s with teardown := if s.mutex then .takeUnregister else .testDeinit }
  | .takeUnregister =>
    if s.holder = none then some { s with teardown := .selectCard, holder := some .teardown }
    else some { s with teardown := .waitUnregister }
  | .waitUnregister =>
    if choice then
      if s.holder = none then some { s with teardown := .selectCard, holder := some .teardown }
      else none
    else some { s with teardown := .testDeinit }
  | .selectCard => some { s with teardown := if choice then .selectCard else .resetPin }
  | .resetPin => some { s with teardown := .resetStat, pin := false }
  | .resetStat => some { s with teardown := .giveUnregister, stat := ⟨true, false⟩ }
  | .giveUnregister => some { s with teardown := .testDeinit, holder := none }
  | .testDeinit => some { s with teardown := if s.mutex then .takeDeinit else .finished }
  | .takeDeinit =>
    if s.holder = none then some { s with teardown := .spiDeinit, holder := some .teardown }
    else some { s with teardown := .waitDeinit }
  | .waitDeinit =>
    if choice then
      if s.holder = none then some { s with teardown := .spiDeinit, holder := some .teardown }
      else none
    else some { s with teardown := .finished }
  | .spiDeinit => some { s with teardown := .deleteMutex, hw := false }
  | .deleteMutex => some { s with teardown := .clearMutex, alive := false, holder := none }
  | .clearMutex => some { s with teardown := .finished, mutex := false }
  | .finished => none

end DriverSys

/-- Who moves. -/
inductive DriverAction
  /-- A task begins a call. -/
  | begin (kind : CallKind)
  | call (i : ℕ) (choice : Bool)
  | teardown (choice : Bool)

def DriverSys.step (s : DriverSys) : DriverAction → Option DriverSys
  | .begin kind => some { s with calls := s.calls ++ [⟨kind, kind.entry⟩] }
  | .call i choice => s.callStep i choice
  | .teardown choice => s.teardownStep choice

/-- The system. At the start the disk is initialised, and may be write-protected. -/
def driverSystem (isProtected : Bool) : StepSystem DriverSys DriverAction where
  start := {
    mutex := true, alive := true, holder := none, stat := ⟨false, isProtected⟩
    pin := true, hw := true
    teardown := .testUnregister, calls := [] }
  step := DriverSys.step

/-! ### What is expected -/

/-- The places at which a call moves bytes. -/
def CallPc.Exchanges (pc : CallPc) : Prop := pc = .transfer

/-- The places at which a call takes the mutex, waits for it or gives it. -/
def CallPc.UsesMutex (pc : CallPc) : Prop := pc = .take ∨ pc = .waiting ∨ pc = .give

namespace SdTeardownPc

def Exchanges (pc : SdTeardownPc) : Prop := pc = .selectCard

def UsesMutex (pc : SdTeardownPc) : Prop :=
  pc = .takeUnregister ∨ pc = .waitUnregister ∨ pc = .giveUnregister ∨ pc = .takeDeinit ∨
    pc = .waitDeinit

instance : DecidablePred UsesMutex := fun _ ↦ inferInstanceAs (Decidable (_ ∨ _))

end SdTeardownPc

namespace DriverSys

/-- A task is where it moves bytes. -/
def Exchanges (s : DriverSys) : SdTask → Prop
  | .teardown => s.teardown.Exchanges
  | .call i => ∃ c, s.calls[i]? = some c ∧ c.pc.Exchanges

/-- A task is where it takes the mutex, waits for it or gives it. -/
def UsesMutex (s : DriverSys) : SdTask → Prop
  | .teardown => s.teardown.UsesMutex
  | .call i => ∃ c, s.calls[i]? = some c ∧ c.pc.UsesMutex

/-- The driver works, and the task has its mutex. -/
structure Intact (s : DriverSys) (t : SdTask) : Prop where
  mutex : s.mutex = true ∧ s.alive = true
  holder : s.holder = some t
  init : s.stat.noInit = false
  pin : s.pin = true
  hw : s.hw = true

/-- Bytes are moved only on a driver that works, and no mutex is used that was deleted. -/
structure NotTornDown (s : DriverSys) : Prop where
  exchange : ∀ t, s.Exchanges t → s.Intact t
  mutex : ∀ t, s.UsesMutex t → s.alive = true

end DriverSys

/-- The call has found `STA_NOINIT` clear, and has not taken the mutex yet. -/
def DriverCall.TestedStat (c : DriverCall) : Prop :=
  c.pc = .testProtect ∨
    c.kind.entry = .testStat ∧ (c.pc = .testMutex ∨ c.pc = .take ∨ c.pc = .waiting)

instance : DecidablePred DriverCall.TestedStat := fun _ ↦ inferInstanceAs (Decidable (_ ∨ _))

/-- **The condition.** When `Stat` is reset, no call has tested it without having taken the mutex.
When the mutex is deleted, `Stat` has been reset, and no call takes the mutex or waits for it. And
no call tests `s_spi_mutex` while it points to a deleted mutex. -/
def DriverSys.Undisturbed (s : DriverSys) : DriverAction → Prop
  | .begin _ => True
  | .call i _ => ∀ c ∈ s.calls[i]?, c.pc = .testMutex → s.mutex = true → s.alive = true
  | .teardown _ =>
    (s.teardown = .resetStat → ∀ c ∈ s.calls, ¬ c.TestedStat) ∧
      (s.teardown = .deleteMutex →
        s.stat.noInit = true ∧ ∀ c ∈ s.calls, c.pc ≠ .take ∧ c.pc ≠ .waiting)

instance (s : DriverSys) (a : DriverAction) : Decidable (s.Undisturbed a) :=
  match a with
  | .begin _ => inferInstanceAs (Decidable True)
  | .call i _ => inferInstanceAs (Decidable (∀ c ∈ s.calls[i]?, _))
  | .teardown _ => inferInstanceAs (Decidable (_ ∧ _))

/-! ### The invariant -/

/-- The call has the mutex. -/
def CallPc.Holds (pc : CallPc) : Prop :=
  pc = .testHeld ∨ pc = .transfer ∨ pc = .update ∨ pc = .give

instance : DecidablePred CallPc.Holds := fun _ ↦ inferInstanceAs (Decidable (_ ∨ _))

namespace SdTeardownPc

/-- The task has the mutex. -/
def Holds (pc : SdTeardownPc) : Prop :=
  pc = .selectCard ∨ pc = .resetPin ∨ pc = .resetStat ∨ pc = .giveUnregister ∨ pc = .spiDeinit ∨
    pc = .deleteMutex

instance : DecidablePred Holds := fun _ ↦ inferInstanceAs (Decidable (_ ∨ _))

/-- `Stat` has not been reset yet. -/
def BeforeReset (pc : SdTeardownPc) : Prop :=
  pc = .testUnregister ∨ pc = .takeUnregister ∨ pc = .waitUnregister ∨ pc = .selectCard ∨
    pc = .resetPin ∨ pc = .resetStat

instance : DecidablePred BeforeReset := fun _ ↦ inferInstanceAs (Decidable (_ ∨ _))

end SdTeardownPc

/-- What holds of each call. -/
structure CallInv (s : DriverSys) (i : ℕ) (c : DriverCall) : Prop where
  tested : c.TestedStat → s.stat.noInit = false
  queued : c.pc = .take ∨ c.pc = .waiting → s.alive = true
  holds : c.pc.Holds ↔ s.holder = some (.call i)
  transfer : c.pc = .transfer → s.stat.noInit = false

structure DriverInv (s : DriverSys) : Prop where
  calls : ∀ i c, s.calls[i]? = some c → CallInv s i c
  holder : ∀ i, s.holder = some (.call i) → i < s.calls.length
  teardown : s.teardown.Holds ↔ s.holder = some .teardown
  alive : s.alive = false →
    (s.teardown = .clearMutex ∨ s.teardown = .finished) ∧ s.holder = none ∧ s.stat.noInit = true
  mutex : s.mutex = true ↔ s.alive = true ∨ s.teardown = .clearMutex
  deleted : s.teardown = .clearMutex → s.alive = false
  before : s.teardown.BeforeReset → s.stat.noInit = false
  pin : s.pin = false → s.stat.noInit = true ∨ s.teardown = .resetStat
  hw : s.hw = false → s.alive = false ∨ s.teardown = .deleteMutex

variable {s s' : DriverSys} {i : ℕ} {c c' : DriverCall} {choice : Bool}

/-- What another task does to `Stat` and to the mutex decides what a call can rely on. -/
theorem CallInv.of_same (h : CallInv s i c) (hinit : s'.stat.noInit = s.stat.noInit)
    (halive : s'.alive = s.alive)
    (hholder : s'.holder = some (.call i) ↔ s.holder = some (.call i)) : CallInv s' i c :=
  ⟨fun hc ↦ hinit.trans (h.tested hc), fun hc ↦ halive.trans (h.queued hc),
    h.holds.trans hholder.symm, fun hc ↦ hinit.trans (h.transfer hc)⟩

/-- One call moves: the rest of the driver stays, apart from the mutex that this call takes or
gives. -/
theorem DriverInv.of_call (hinv : DriverInv s) (hc : s.calls[i]? = some c)
    (hcalls : s'.calls = s.calls.set i c') (hmutex : s'.mutex = s.mutex)
    (halive : s'.alive = s.alive) (hpin : s'.pin = s.pin) (hhw : s'.hw = s.hw)
    (hteardown : s'.teardown = s.teardown) (hinit : s'.stat.noInit = s.stat.noInit)
    (hother : ∀ t, t ≠ .call i → (s'.holder = some t ↔ s.holder = some t))
    (hfree : s.alive = false → s'.holder = none) (hown : CallInv s' i c') : DriverInv s' := by
  have hi : i < s.calls.length := (List.getElem?_eq_some_iff.1 hc).1
  constructor
  · intro j d hd
    rw [hcalls, List.getElem?_set] at hd
    split at hd
    · rename_i hij
      subst hij
      obtain rfl := Option.some.inj hd
      exact hown
    · rename_i hij
      refine (hinv.calls j d hd).of_same hinit halive (hother _ fun heq ↦ hij ?_)
      exact (SdTask.call.inj heq).symm
  · intro j hj
    rw [hcalls, List.length_set]
    by_cases hij : j = i
    · exact hij ▸ hi
    · exact hinv.holder j ((hother _ fun heq ↦ hij (SdTask.call.inj heq)).1 hj)
  · rw [hteardown, hinv.teardown, hother .teardown SdTask.noConfusion]
  · intro hdead
    rw [halive] at hdead
    rw [hteardown, hinit]
    exact ⟨(hinv.alive hdead).1, hfree hdead, (hinv.alive hdead).2.2⟩
  · rw [hmutex, halive, hteardown, hinv.mutex]
  · rw [hteardown, halive]
    exact hinv.deleted
  · rw [hteardown, hinit]
    exact hinv.before
  · rw [hpin, hinit, hteardown]
    exact hinv.pin
  · rw [hhw, halive, hteardown]
    exact hinv.hw

/-- A call moves that neither takes the mutex nor gives it. -/
theorem DriverInv.moveCall (hinv : DriverInv s) (hc : s.calls[i]? = some c) {pc : CallPc}
    (hown : CallInv s i { c with pc }) : DriverInv (s.moveCall i c pc) :=
  hinv.of_call hc rfl rfl rfl rfl rfl rfl rfl (fun _ _ ↦ Iff.rfl)
    (fun hdead ↦ (hinv.alive hdead).2.1) (hown.of_same rfl rfl Iff.rfl)

theorem CallPc.Holds.not_tested (h : c.pc.Holds) : ¬ c.TestedStat := by
  rintro (hpc | ⟨-, hpc | hpc | hpc⟩) <;> rw [hpc] at h <;> revert h <;> decide

/-- A call moves without having the mutex. -/
theorem CallInv.outside (h : CallInv s i c) (hout : ¬ c.pc.Holds) {pc : CallPc} (hout' : ¬ pc.Holds)
    (htested : DriverCall.TestedStat { c with pc } → s.stat.noInit = false)
    (hqueued : pc = .take ∨ pc = .waiting → s.alive = true) : CallInv s i { c with pc } where
  tested := htested
  queued := hqueued
  holds := iff_of_false hout' fun hheld ↦ hout (h.holds.2 hheld)
  transfer hpc := absurd (.inr (.inl hpc)) hout'

/-- A call goes for the mutex with what it has tested before. -/
theorem CallInv.queues (h : CallInv s i c) (hfrom : c.pc = .testMutex ∨ c.pc = .take) {pc : CallPc}
    (hto : pc = .take ∨ pc = .waiting) (halive : s.alive = true) : CallInv s i { c with pc } := by
  have hout : ¬ c.pc.Holds := by rcases hfrom with hpc | hpc <;> rw [hpc] <;> decide
  have hout' : ¬ pc.Holds := by rcases hto with rfl | rfl <;> decide
  refine h.outside hout hout' (fun htested ↦ ?_) fun _ ↦ halive
  rcases htested with hpc | ⟨hentry, -⟩
  · rcases hto with rfl | rfl <;> cases hpc
  · exact h.tested (.inr ⟨hentry, hfrom.imp_right .inl⟩)

/-- A call ends without having the mutex. -/
theorem CallInv.returned (h : CallInv s i c) (hout : ¬ c.pc.Holds) :
    CallInv s i { c with pc := .returned } :=
  h.outside hout (by decide) (by simp [DriverCall.TestedStat]) nofun

/-- A call moves with the mutex. -/
theorem CallInv.inside (h : CallInv s i c) (hin : c.pc.Holds) {pc : CallPc} (hin' : pc.Holds)
    (htransfer : pc = .transfer → s.stat.noInit = false) : CallInv s i { c with pc } where
  tested htested := absurd htested hin'.not_tested
  queued hpc := by
    rcases hpc with rfl | rfl <;> exact absurd hin' (by decide)
  holds := iff_of_true hin' (h.holds.1 hin)
  transfer := htransfer

/-- Where `STA_NOINIT` is clear, the mutex is there. -/
theorem DriverInv.alive_of_init (hinv : DriverInv s) (hinit : s.stat.noInit = false) :
    s.alive = true := by
  refine Bool.eq_true_of_not_eq_false fun hdead ↦ ?_
  exact Bool.false_ne_true (hinit.symm.trans (hinv.alive hdead).2.2)

/-- A call takes the mutex. -/
theorem DriverInv.acquire (hinv : DriverInv s) (hc : s.calls[i]? = some c)
    (hqueued : c.pc = .take ∨ c.pc = .waiting) (hfree : s.holder = none) :
    DriverInv { s.moveCall i c c.kind.afterTake with holder := some (.call i) } := by
  have hcall := hinv.calls i c hc
  have halive := hcall.queued hqueued
  refine hinv.of_call hc rfl rfl rfl rfl rfl rfl rfl (fun t ht ↦ ?_) (fun hdead ↦ ?_) ?_
  · rw [hfree]
    exact ⟨fun heq ↦ absurd (Option.some.inj heq).symm ht, nofun⟩
  · rw [halive] at hdead
    cases hdead
  · -- a call of the password API tests `Stat` again; the others rely on what they have tested
    have hin : c.kind.afterTake.Holds := by
      cases c.kind with
      | password call => exact .inl rfl
      | _ => exact .inr (.inl rfl)
    refine ⟨fun htested ↦ absurd htested (CallPc.Holds.not_tested hin), fun hpc ↦ ?_,
      iff_of_true hin rfl, fun htransfer ↦ hcall.tested (.inr ⟨?_, .inr hqueued⟩)⟩
    · exact halive
    · cases hkind : c.kind with
      | password call =>
        have hpc : CallKind.afterTake c.kind = .transfer := htransfer
        rw [hkind] at hpc
        cases hpc
      | _ => rfl

/-- **A call's step.** -/
theorem DriverInv.callStep (hinv : DriverInv s) (hguard : s.Undisturbed (.call i choice))
    (hst : s.callStep i choice = some s') : DriverInv s' := by
  rw [DriverSys.callStep] at hst
  cases hc : s.calls[i]? with
  | none => rw [hc] at hst; cases hst
  | some c =>
    rw [hc] at hst
    dsimp only at hst
    have hcall := hinv.calls i c hc
    cases hpc : c.pc <;> rw [hpc] at hst <;> dsimp only at hst
    case testStat =>
      obtain rfl := Option.some.inj hst
      cases hinit : s.stat.noInit with
      | true => exact hinv.moveCall hc (hcall.returned (by rw [hpc]; decide))
      | false =>
        have hout : ¬ c.kind.afterStat.Holds := by
          cases c.kind <;> simp [CallKind.afterStat, CallPc.Holds]
        exact hinv.moveCall hc (hcall.outside (by rw [hpc]; decide) hout (fun _ ↦ hinit)
          fun _ ↦ hinv.alive_of_init hinit)
    case testProtect =>
      obtain rfl := Option.some.inj hst
      have hinit := hcall.tested (.inl hpc)
      split
      · exact hinv.moveCall hc (hcall.returned (by rw [hpc]; decide))
      · exact hinv.moveCall hc (hcall.outside (by rw [hpc]; decide) (by decide) (fun _ ↦ hinit)
          fun _ ↦ hinv.alive_of_init hinit)
    case testMutex =>
      obtain rfl := Option.some.inj hst
      split
      · rename_i hmutex
        exact hinv.moveCall hc
          (hcall.queues (.inl hpc) (.inl rfl) (hguard c hc hpc hmutex))
      · exact hinv.moveCall hc (hcall.returned (by rw [hpc]; decide))
    case take =>
      split at hst
      · split at hst
        · rename_i hfree
          obtain rfl := Option.some.inj hst
          exact hinv.acquire hc (.inl hpc) hfree
        · obtain rfl := Option.some.inj hst
          have halive := hcall.queued (.inl hpc)
          exact hinv.moveCall hc (hcall.queues (.inr hpc) (.inr rfl) halive)
      · cases hst
    case waiting =>
      split at hst
      · split at hst
        · rename_i hfree
          obtain rfl := Option.some.inj hst
          exact hinv.acquire hc (.inr hpc) (of_decide_eq_true (Bool.and_eq_true_iff.1 hfree).2)
        · cases hst
      · obtain rfl := Option.some.inj hst
        exact hinv.moveCall hc (hcall.returned (by rw [hpc]; decide))
    case testHeld =>
      obtain rfl := Option.some.inj hst
      have hin : c.pc.Holds := .inl hpc
      split
      · exact hinv.moveCall hc (hcall.inside hin (by decide) nofun)
      · rename_i hinit
        exact hinv.moveCall hc
          (hcall.inside hin (by decide) fun _ ↦ Bool.eq_false_of_not_eq_true hinit)
    case transfer =>
      obtain rfl := Option.some.inj hst
      split
      · exact hinv
      · exact hinv.moveCall hc (hcall.inside (.inr (.inl hpc)) (by decide) nofun)
    case update =>
      obtain rfl := Option.some.inj hst
      have hin : c.pc.Holds := .inr (.inr (.inl hpc))
      have hinit : (if choice then c.kind.done s.stat else s.stat).noInit = s.stat.noInit := by
        split
        · exact c.kind.done_noInit
        · rfl
      exact hinv.of_call hc rfl rfl rfl rfl rfl rfl hinit (fun _ _ ↦ Iff.rfl)
        (fun hdead ↦ (hinv.alive hdead).2.1)
        ((hcall.inside hin (show CallPc.give.Holds by decide) nofun).of_same hinit rfl Iff.rfl)
    case give =>
      obtain rfl := Option.some.inj hst
      have hheld := hcall.holds.1 (.inr (.inr (.inr hpc)))
      refine hinv.of_call hc rfl rfl rfl rfl rfl rfl rfl (fun t ht ↦ ?_) (fun _ ↦ rfl) ?_
      · rw [hheld]
        exact ⟨nofun, fun heq ↦ absurd (Option.some.inj heq).symm ht⟩
      · exact ⟨by simp [DriverCall.TestedStat], nofun,
          iff_of_false (show ¬ CallPc.returned.Holds by decide) nofun, nofun⟩
    case returned => cases hst

/-! ### The teardown -/

/-- What is left to show for a step of the teardown: its place, the mutex and the rest of the driver
go together. -/
structure TeardownInv (s : DriverSys) : Prop where
  teardown : s.teardown.Holds ↔ s.holder = some .teardown
  alive : s.alive = false →
    (s.teardown = .clearMutex ∨ s.teardown = .finished) ∧ s.holder = none ∧ s.stat.noInit = true
  mutex : s.mutex = true ↔ s.alive = true ∨ s.teardown = .clearMutex
  deleted : s.teardown = .clearMutex → s.alive = false
  before : s.teardown.BeforeReset → s.stat.noInit = false
  pin : s.pin = false → s.stat.noInit = true ∨ s.teardown = .resetStat
  hw : s.hw = false → s.alive = false ∨ s.teardown = .deleteMutex

/-- The invariant of the driver, as the teardown needs it. -/
theorem DriverInv.teardownInv (hinv : DriverInv s) : TeardownInv s :=
  ⟨hinv.teardown, hinv.alive, hinv.mutex, hinv.deleted, hinv.before, hinv.pin, hinv.hw⟩

/-- **A step of the teardown**, as far as the driver goes: each one changes the place together with
what the place says of the driver. -/
theorem TeardownInv.step (hinv : TeardownInv s) (hguard : s.Undisturbed (.teardown choice))
    (hst : s.teardownStep choice = some s') : TeardownInv s' := by
  obtain ⟨hteardown, halive, hmutex, hdeleted, hbefore, hpin, hhw⟩ := hinv
  rw [DriverSys.teardownStep] at hst
  cases hpc : s.teardown <;> rw [hpc] at hst <;> dsimp only at hst <;>
    simp only [hpc, SdTeardownPc.Holds, SdTeardownPc.BeforeReset]
      at hteardown halive hmutex hdeleted hbefore hpin hhw
  case testUnregister | testDeinit =>
    obtain rfl := Option.some.inj hst
    split <;> constructor <;> simp_all [SdTeardownPc.Holds, SdTeardownPc.BeforeReset]
  case takeUnregister | takeDeinit =>
    split at hst <;> obtain rfl := Option.some.inj hst <;> constructor <;>
      simp_all [SdTeardownPc.Holds, SdTeardownPc.BeforeReset]
  case waitUnregister | waitDeinit =>
    -- the mutex, or the end of the wait
    split at hst
    · split at hst
      · obtain rfl := Option.some.inj hst
        constructor <;> simp_all [SdTeardownPc.Holds, SdTeardownPc.BeforeReset]
      · cases hst
    · obtain rfl := Option.some.inj hst
      constructor <;> simp_all [SdTeardownPc.Holds, SdTeardownPc.BeforeReset]
  case selectCard =>
    obtain rfl := Option.some.inj hst
    split <;> constructor <;> simp_all [SdTeardownPc.Holds, SdTeardownPc.BeforeReset]
  case resetPin | resetStat | giveUnregister | spiDeinit | clearMutex =>
    obtain rfl := Option.some.inj hst
    constructor <;> simp_all [SdTeardownPc.Holds, SdTeardownPc.BeforeReset]
  case deleteMutex =>
    obtain rfl := Option.some.inj hst
    have hreset : s.stat.noInit = true := (hguard.2 hpc).1
    constructor <;> simp_all [SdTeardownPc.Holds, SdTeardownPc.BeforeReset]
  case finished => cases hst

/-- What is left to show for the calls. -/
structure CallsKept (s s' : DriverSys) : Prop where
  calls : s'.calls = s.calls
  holder : ∀ i, s'.holder = some (.call i) ↔ s.holder = some (.call i)
  kept : ∀ i c, s.calls[i]? = some c → CallInv s' i c

/-- A step that changes neither mutex nor register keeps the calls where they are. -/
theorem DriverInv.callsKept_of_same (hinv : DriverInv s) (hcalls : s'.calls = s.calls)
    (hinit : s'.stat.noInit = s.stat.noInit) (halive : s'.alive = s.alive)
    (hholder : s'.holder = s.holder) : CallsKept s s' := by
  have hiff : ∀ i, s'.holder = some (.call i) ↔ s.holder = some (.call i) := fun i ↦ by rw [hholder]
  exact ⟨hcalls, hiff, fun i c hc ↦ (hinv.calls i c hc).of_same hinit halive (hiff i)⟩

/-- The mutex goes from or to the task that tears the driver down. -/
theorem DriverInv.callsKept_of_mutex (hinv : DriverInv s) (hcalls : s'.calls = s.calls)
    (hinit : s'.stat.noInit = s.stat.noInit) (halive : s'.alive = s.alive)
    (hholder : ∀ i, s.holder ≠ some (.call i)) (hholder' : ∀ i, s'.holder ≠ some (.call i)) :
    CallsKept s s' := by
  have hiff : ∀ i, s'.holder = some (.call i) ↔ s.holder = some (.call i) :=
    fun i ↦ iff_of_false (hholder' i) (hholder i)
  exact ⟨hcalls, hiff, fun i c hc ↦ (hinv.calls i c hc).of_same hinit halive (hiff i)⟩

/-- What the calls rely on is not taken away by the teardown. -/
theorem DriverInv.callsKept (hinv : DriverInv s) (hguard : s.Undisturbed (.teardown choice))
    (hst : s.teardownStep choice = some s') : CallsKept s s' := by
  have hfree : s.holder = none → ∀ i, s.holder ≠ some (.call i) := fun hnone i hi ↦ by
    rw [hnone] at hi
    cases hi
  have hheld : s.teardown.Holds → ∀ i, s.holder ≠ some (.call i) := fun hholds i hi ↦ by
    rw [hinv.teardown.1 hholds] at hi
    cases hi
  rw [DriverSys.teardownStep] at hst
  cases hpc : s.teardown <;> rw [hpc] at hst <;> dsimp only at hst
  case testUnregister | testDeinit | selectCard | resetPin | spiDeinit | clearMutex =>
    obtain rfl := Option.some.inj hst
    exact hinv.callsKept_of_same rfl rfl rfl rfl
  case takeUnregister | takeDeinit =>
    split at hst <;> obtain rfl := Option.some.inj hst
    · rename_i hnone
      exact hinv.callsKept_of_mutex rfl rfl rfl (hfree hnone) nofun
    · exact hinv.callsKept_of_same rfl rfl rfl rfl
  case waitUnregister | waitDeinit =>
    split at hst
    · split at hst
      · rename_i hnone
        obtain rfl := Option.some.inj hst
        exact hinv.callsKept_of_mutex rfl rfl rfl (hfree hnone) nofun
      · cases hst
    · obtain rfl := Option.some.inj hst
      exact hinv.callsKept_of_same rfl rfl rfl rfl
  case giveUnregister =>
    obtain rfl := Option.some.inj hst
    exact hinv.callsKept_of_mutex rfl rfl rfl (hheld (by rw [hpc]; decide)) nofun
  case resetStat =>
    -- no call relies on `Stat`: none is between its test and the mutex, and none has the mutex
    obtain rfl := Option.some.inj hst
    have hnot := hheld (by rw [hpc]; decide)
    refine ⟨rfl, fun _ ↦ Iff.rfl, fun i c hc ↦ ?_⟩
    have hcall := hinv.calls i c hc
    exact ⟨fun htested ↦ absurd htested (hguard.1 hpc c (List.mem_of_getElem? hc)), hcall.queued,
      hcall.holds, fun htransfer ↦ absurd (hcall.holds.1 (.inr (.inl htransfer))) (hnot i)⟩
  case deleteMutex =>
    -- no call uses the mutex
    obtain rfl := Option.some.inj hst
    have hnot := hheld (by rw [hpc]; decide)
    refine ⟨rfl, fun i ↦ iff_of_false nofun (hnot i), fun i c hc ↦ ?_⟩
    have hcall := hinv.calls i c hc
    obtain ⟨htake, hwaiting⟩ := (hguard.2 hpc).2 c (List.mem_of_getElem? hc)
    exact ⟨hcall.tested, fun hqueued ↦ (hqueued.elim htake hwaiting).elim,
      iff_of_false (fun hholds ↦ hnot i (hcall.holds.1 hholds)) nofun, hcall.transfer⟩
  case finished => cases hst

/-- A step of the teardown keeps the invariant. -/
theorem DriverInv.teardownStep (hinv : DriverInv s) (hguard : s.Undisturbed (.teardown choice))
    (hst : s.teardownStep choice = some s') : DriverInv s' := by
  obtain ⟨hcalls, hholder, hkept⟩ := hinv.callsKept hguard hst
  obtain ⟨hteardown, halive, hmutex, hdeleted, hbefore, hpin, hhw⟩ :=
    hinv.teardownInv.step hguard hst
  refine ⟨fun i c hc ↦ hkept i c (hcalls ▸ hc), fun i hi ↦ ?_, hteardown, halive, hmutex, hdeleted,
    hbefore, hpin, hhw⟩
  rw [hcalls]
  exact hinv.holder i ((hholder i).1 hi)

/-- A new call relies on nothing. -/
theorem DriverInv.begin (hinv : DriverInv s) (kind : CallKind) :
    DriverInv { s with calls := s.calls ++ [⟨kind, kind.entry⟩] } := by
  refine ⟨fun i c hc ↦ ?_, fun i hi ↦ ?_, hinv.teardown, hinv.alive, hinv.mutex, hinv.deleted,
    hinv.before, hinv.pin, hinv.hw⟩
  · rw [List.getElem?_append] at hc
    split at hc
    · exact (hinv.calls i c hc).of_same rfl rfl Iff.rfl
    · rename_i hlen
      rw [List.getElem?_singleton] at hc
      split at hc
      · obtain rfl := Option.some.inj hc
        refine ⟨fun htested ↦ ?_, fun hqueued ↦ ?_,
          iff_of_false ?_ fun hi ↦ hlen (hinv.holder i hi), fun htransfer ↦ ?_⟩
        · cases kind <;> simp [DriverCall.TestedStat, CallKind.entry] at htested
        · cases kind <;> simp [CallKind.entry] at hqueued
        · cases kind <;> simp [CallKind.entry, CallPc.Holds]
        · cases kind <;> simp [CallKind.entry] at htransfer
      · cases hc
  · rw [List.length_append]
    exact Nat.lt_add_right 1 (hinv.holder i hi)

/-! ### The result -/

variable {isProtected : Bool}

/-- The invariant holds in every run without the two excluded steps. -/
theorem driverInv_of_guarded
    (h : (driverSystem isProtected).ReachableBy DriverSys.Undisturbed s) : DriverInv s := by
  refine h.invariant (I := DriverInv) ?_ fun s a s' _ hinv hguard hst ↦ ?_
  · constructor <;> simp [driverSystem, SdTeardownPc.Holds, SdTeardownPc.BeforeReset]
  · cases a with
    | begin kind =>
      obtain rfl := Option.some.inj hst
      exact hinv.begin kind
    | call i choice => exact hinv.callStep hguard hst
    | teardown choice => exact hinv.teardownStep hguard hst

/-- **No byte is moved on a driver that is torn down, and no deleted mutex is used**, in every run
in which no call stands between its test and the mutex when `Stat` is reset and when the mutex is
deleted. -/
theorem driver_not_torn_down
    (h : (driverSystem isProtected).ReachableBy DriverSys.Undisturbed s) : s.NotTornDown := by
  have hinv := driverInv_of_guarded h
  -- the parts of the driver go only while the other task has the mutex, or once `Stat` is reset
  have hintact : ∀ t, s.holder = some t → s.stat.noInit = false →
      (t = .teardown → s.teardown = .selectCard) → s.Intact t := by
    intro t ht hinit hplace
    have halive := hinv.alive_of_init hinit
    have hnot : ∀ pc : SdTeardownPc, pc.Holds → pc ≠ .selectCard → s.teardown ≠ pc := by
      rintro pc hholds hne rfl
      have hholder := hinv.teardown.1 hholds
      exact hne (hplace (Option.some.inj (ht.symm.trans hholder)))
    refine ⟨⟨hinv.mutex.2 (.inl halive), halive⟩, ht, hinit, ?_, ?_⟩
    · refine Bool.eq_true_of_not_eq_false fun hpin ↦ ?_
      rcases hinv.pin hpin with hreset | hpc
      · exact Bool.false_ne_true (hinit.symm.trans hreset)
      · exact hnot _ (by decide) (by decide) hpc
    · refine Bool.eq_true_of_not_eq_false fun hhw ↦ ?_
      rcases hinv.hw hhw with hdead | hpc
      · exact Bool.false_ne_true (hdead.symm.trans halive)
      · exact hnot _ (by decide) (by decide) hpc
  constructor
  · rintro (_ | i) hexchanges
    · have hpc : s.teardown = .selectCard := hexchanges
      have hholds : s.teardown.Holds := .inl hpc
      exact hintact _ (hinv.teardown.1 hholds) (hinv.before (by rw [hpc]; decide)) fun _ ↦ hpc
    · obtain ⟨c, hc, hpc⟩ := hexchanges
      have hcall := hinv.calls i c hc
      exact hintact _ (hcall.holds.1 (.inr (.inl hpc))) (hcall.transfer hpc) nofun
  · rintro (_ | i) huses
    · refine Bool.eq_true_of_not_eq_false fun hdead ↦ ?_
      have huses : s.teardown.UsesMutex := huses
      rcases (hinv.alive hdead).1 with hpc | hpc <;> rw [hpc] at huses <;> revert huses <;> decide
    · obtain ⟨c, hc, hpc⟩ := huses
      have hcall := hinv.calls i c hc
      rcases hpc with hpc | hpc | hpc
      · exact hcall.queued (.inl hpc)
      · exact hcall.queued (.inr hpc)
      · refine Bool.eq_true_of_not_eq_false fun hdead ↦ ?_
        have hholder := hcall.holds.1 (.inr (.inr (.inr hpc)))
        rw [(hinv.alive hdead).2.1] at hholder
        cases hholder

/-- A read comes to its end, and then the driver is torn down. -/
theorem driver_not_torn_down_idle : ∃ s, s.teardown = .finished ∧ s.mutex = false ∧
    (driverSystem false).ReachableBy DriverSys.Undisturbed s ∧ s.NotTornDown := by
  have hrun : ((driverSystem false).exec DriverSys.Undisturbed (driverSystem false).start
      ([.begin .read, .call 0 true, .call 0 true, .call 0 true, .call 0 false, .call 0 true,
        .call 0 true] ++
        [.teardown true, .teardown true, .teardown true, .teardown false, .teardown true,
          .teardown true, .teardown true, .teardown true, .teardown true, .teardown true,
          .teardown true, .teardown true])).any
      (fun s ↦ s.teardown = .finished ∧ s.mutex = false) = true := by decide +kernel
  obtain ⟨s, hs, hp⟩ := StepSystem.exists_reachableBy_of_exec hrun
  obtain ⟨hfinished, hmutex⟩ := of_decide_eq_true hp
  exact ⟨s, hfinished, hmutex, hs, driver_not_torn_down hs⟩

/-- A read has tested `Stat` when the disk is unregistered, and gets the mutex afterwards; a call of
the password API waits for the mutex when it is deleted. -/
theorem torn_down_driver_used :
    (∃ s, (driverSystem false).Reachable s ∧ s.Exchanges (.call 0) ∧ s.stat.noInit = true ∧
      s.pin = false ∧ ¬ s.NotTornDown) ∧
    ∃ s, (driverSystem false).Reachable s ∧ s.UsesMutex (.call 0) ∧ s.alive = false ∧
      ¬ s.NotTornDown := by
  have hread : ((driverSystem false).exec (fun _ _ ↦ True) (driverSystem false).start
      [.begin .read, .call 0 true, .teardown true, .teardown true, .teardown false, .teardown true,
        .teardown true, .teardown true, .call 0 true]).any
      (fun s ↦ s.calls[0]?.any (·.pc = .transfer) ∧ s.stat.noInit = true ∧ s.pin = false) =
        true := by
    decide +kernel
  have hlock : ((driverSystem false).exec (fun _ _ ↦ True) (driverSystem false).start
      [.begin (.password (.forceErase 0)), .call 0 true, .teardown true, .teardown true,
        .teardown false, .teardown true, .teardown true, .teardown true, .teardown true,
        .teardown true, .call 0 true, .teardown true, .teardown true]).any
      (fun s ↦ s.calls[0]?.any (·.pc = .waiting) ∧ s.alive = false) = true := by
    decide +kernel
  constructor
  · obtain ⟨s, hs, hp⟩ := StepSystem.exists_reachableBy_of_exec hread
    obtain ⟨hcall, hinit, hpin⟩ := of_decide_eq_true hp
    obtain ⟨c, hc, hpc⟩ := (Option.any_eq_true _ _).1 hcall
    have htransfer : c.pc = .transfer := of_decide_eq_true hpc
    have hexchanges : s.Exchanges (.call 0) := ⟨c, hc, htransfer⟩
    refine ⟨s, hs, hexchanges, hinit, hpin, fun hsafe ↦ ?_⟩
    exact Bool.false_ne_true ((hsafe.exchange _ hexchanges).init.symm.trans hinit)
  · obtain ⟨s, hs, hp⟩ := StepSystem.exists_reachableBy_of_exec hlock
    obtain ⟨hcall, hdead⟩ := of_decide_eq_true hp
    obtain ⟨c, hc, hpc⟩ := (Option.any_eq_true _ _).1 hcall
    have hwaiting : c.pc = .waiting := of_decide_eq_true hpc
    have huses : s.UsesMutex (.call 0) := ⟨c, hc, .inr (.inl hwaiting)⟩
    refine ⟨s, hs, huses, hdead, fun hsafe ↦ ?_⟩
    exact Bool.false_ne_true (hdead.symm.trans (hsafe.mutex _ huses))
