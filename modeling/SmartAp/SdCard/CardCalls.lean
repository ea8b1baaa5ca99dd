import SmartAp.SdCard.Logged
import SmartAp.SdCard.Addresses
import SmartAp.SdCard.CardLock

/-!
# Every call of the driver

FatFs and the application call the driver in ten ways (`CardCall`). A call is refused by its first
checks, or it takes the mutex, does its work and gives it back (`CardCall.run_does`); the work of
each call is its `body`. Whatever the host does, a call leaves the mutex free, the card deselected
and `Stat` in step with `CardType` (`CardLaw`), and so does any sequence of calls
(`card_calls_sound`).

## Refusals

Some requests of `ff_sd_spi_ioctl` are refused only in its `switch`, when the mutex is taken; like
all the others they end with `deselect`, which exchanges a byte (`CardCall.RefusedInSwitch`). The
lock functions test for an initialised card under the mutex too, and send nothing then
(`CardCall.RefusedInside`). All three kinds of refusal are conditions on the arguments and on the
registers before the call.

## One proof for ten calls

`Does` is the shape that the calls share. It is stated once, with rules for the checks (`Does.ite`,
`Does.get`) and for the mutex (`Does.mutex`), and each call is shown to have it. What the bodies
keep comes from two sources: `SdPort.StableAll`, for what all functions of the port keep, and one
lemma for each exit of a body, for the card being deselected (`CardCall.body_deselected`).

`SoundBetween` is the invariant between calls, and `run_law` the step; `sound_afterCalls` is the
induction over a sequence. The mutex and the select line are read off the host's log.
-/

/-- A call of the driver. -/
inductive CardCall
  | init (pdrv : ℕ)
  | read (pdrv : ℕ) (sector : UInt32) (count : ℕ)
  | write (pdrv : ℕ) (buff : List UInt8) (sector : UInt32) (count : ℕ)
  | ioctl (pdrv : ℕ) (cmd : UInt8) (buff : Option (UInt32 × UInt32))
  | isLocked (pdrv : ℕ)
  | password (call : PasswordCall)

/-- `Stat` tells whether there is a card of a known type. -/
def InStep (stat : DStatus) (cardType : UInt8) : Prop := stat.noInit = true ↔ cardType = 0

namespace CardCall

variable {κ : Type}

/-- The call, without its result. The mutex is there once the driver is registered. -/
def run (port : SdPort κ) (opt : SdOptions) : CardCall → SdM κ PUnit
  | init pdrv => do
    let _ ← ffSdSpiInitialize port opt pdrv
  | read pdrv sector count => do
    let _ ← ffSdSpiRead port pdrv sector count
  | write pdrv buff sector count => do
    let _ ← ffSdSpiWrite port pdrv buff sector count
  | ioctl pdrv cmd buff => do
    let _ ← ffSdSpiIoctl port pdrv cmd buff
  | isLocked pdrv => do
    let _ ← sdSpiIsLocked port true pdrv
  | password call => do
    let _ ← call.run port true

/-- The call is refused before it takes the mutex. -/
def Refused (stat : DStatus) : CardCall → Prop
  | init pdrv => pdrv ≠ 0 ∨ stat.noInit = false
  | read pdrv _ count => (pdrv ≠ 0 ∨ count = 0) ∨ stat.noInit = true
  | write pdrv _ _ count => (pdrv ≠ 0 ∨ count = 0) ∨ stat.noInit = true ∨ stat.isProtected = true
  | ioctl pdrv _ _ | isLocked pdrv => pdrv ≠ 0 ∨ stat.noInit = true
  | password call => ¬ call.Accepted

/-- `CMD42` is refused under the mutex when the card is not initialised. -/
def RefusedInside (stat : DStatus) : CardCall → Prop
  | password call => call.Accepted ∧ stat.noInit = true
  | _ => False

/-- A request is refused by the `switch`: there is no buffer, no such request, or no such request
for this card. -/
def RefusedInSwitch (cardType : UInt8) : CardCall → Prop
  | ioctl _ cmd buff => buff = none ∧ cmd ≠ ctrlSync ∨
      cmd ∉ [ctrlSync, getSectorCount, getSectorSize, getBlockSize, ctrlTrim] ∨
        cmd = ctrlTrim ∧ cardType &&& ctSdc = 0
  | _ => False

/-! ### What is done under the mutex -/

/-- Under the mutex, if it can be taken. -/
def underMutex (port : SdPort κ) (m : SdM κ PUnit) : SdM κ PUnit := do
  if ← onPort port.takeMutex then
    m
    toPort port.giveMutex

/-- The work of a call. -/
def body (port : SdPort κ) (opt : SdOptions) (cardType : UInt8) : CardCall → SdM κ PUnit
  | init _ => initializeCard port opt
  | read _ sector count => do
    let _ ← readTransfer port (sectorAddress cardType sector) count
    toPort port.deselect
  | write _ buff sector count => do
    let _ ← writeTransfer port buff (sectorAddress cardType sector) count
    toPort port.deselect
  | ioctl _ cmd buff => do
    let _ ← ioctlSwitch port cardType cmd buff
    toPort port.deselect
  | isLocked _ => do
    let _ ← sendStatus port
  | password call => do
    let ret ← sdDoLockUnlockLocked port call.request.control call.request.pwd1 call.request.len1
      call.request.pwd2 call.request.len2
    if ret = .ok then
      modify fun d ↦ { d with stat := call.request.done d.stat }

variable {port : SdPort κ} {opt : SdOptions} {call : CardCall} {d : SdDriver κ}

/-- Without the mutex nothing is done. -/
theorem underMutex_of_notTaken {m : SdM κ PUnit} (htake : (port.takeMutex d.card).1 = false) :
    underMutex port m d = (⟨⟩, { d with card := (port.takeMutex d.card).2 }) := by
  show (if (port.takeMutex d.card).1 then _ else pure ⟨⟩ : SdM κ PUnit) _ = _
  rw [htake]
  rfl

/-- With the mutex the steps are done, and the mutex is given back. -/
theorem underMutex_of_taken {m : SdM κ PUnit} (htake : (port.takeMutex d.card).1 = true) :
    underMutex port m d = (do m; toPort port.giveMutex : SdM κ PUnit)
      { d with card := (port.takeMutex d.card).2 } := by
  show (if (port.takeMutex d.card).1 then _ else _ : SdM κ PUnit) _ = _
  rw [htake]
  rfl

section Guards

variable {α : Type} {refused : Prop} {m : SdM κ α} {n : SdM κ PUnit} {a : α}

/-- From this state a function is refused and leaves it as it is, or it does `n` under the mutex. -/
def Does (port : SdPort κ) (d : SdDriver κ) (refused : Prop) (m : SdM κ α) (n : SdM κ PUnit) :
    Prop :=
  (refused → (m d).2 = d) ∧ (¬ refused → (m d).2 = (underMutex port n d).2)

/-- A call that returns at once when its check fails is refused there. -/
theorem Does.ite {c : Prop} [Decidable c] (hdoes : Does port d refused m n) :
    Does port d (c ∨ refused) (if c then pure a else m) n := by
  by_cases hc : c
  · rw [if_pos hc]
    exact ⟨fun _ ↦ rfl, fun habs ↦ absurd (.inl hc) habs⟩
  · rw [if_neg hc]
    exact ⟨fun hrefused ↦ hdoes.1 (hrefused.resolve_left hc),
      fun haccepted ↦ hdoes.2 (mt .inr haccepted)⟩

/-- To look at the driver first is no step. -/
theorem Does.get {f : SdDriver κ → SdM κ α} (hdoes : Does port d refused (f d) n) :
    Does port d refused (get >>= f) n := hdoes

/-- The function goes on only with the mutex. -/
theorem Does.mutex (h : ∀ d, (m d).2 = ((do n; toPort port.giveMutex : SdM κ PUnit) d).2) :
    Does port d False (do if ← onPort port.takeMutex then m else return a) n := by
  refine ⟨False.elim, fun _ ↦ ?_⟩
  show ((if (port.takeMutex d.card).1 then m else pure a : SdM κ α) _).2 = _
  cases htake : (port.takeMutex d.card).1 with
  | true =>
    rw [underMutex_of_taken htake]
    exact h _
  | false =>
    rw [underMutex_of_notTaken htake]
    rfl

/-- The condition of a refusal, in other words. -/
theorem Does.congr {refused' : Prop} (hdoes : Does port d refused m n)
    (hrefused : refused' ↔ refused) : Does port d refused' m n := by
  rwa [Does, hrefused]

end Guards

/-- **A call is refused, or does its work under the mutex.** -/
theorem run_does (call : CardCall) :
    Does port d (call.Refused d.stat) (call.run port opt) (call.body port opt d.cardType) := by
  cases call with
  | init pdrv =>
    have hdoes : Does port d (pdrv ≠ 0 ∨ (!d.stat.noInit) = true ∨ False)
        (ffSdSpiInitialize port opt pdrv) (initializeCard port opt) :=
      .ite (.get (.ite (.mutex fun _ ↦ rfl)))
    exact hdoes.congr (by simp [Refused])
  | read pdrv sector count =>
    have hdoes : Does port d ((pdrv ≠ 0 ∨ count = 0) ∨ d.stat.noInit = true ∨ False)
        (ffSdSpiRead port pdrv sector count) ((read pdrv sector count).body port opt d.cardType) :=
      .ite (.get (.ite (.mutex fun _ ↦ rfl)))
    exact hdoes.congr (by simp [Refused])
  | write pdrv buff sector count =>
    have hdoes : Does port d ((pdrv ≠ 0 ∨ count = 0) ∨ d.stat.noInit = true ∨
        d.stat.isProtected = true ∨ False) (ffSdSpiWrite port pdrv buff sector count)
        ((write pdrv buff sector count).body port opt d.cardType) :=
      .ite (.get (.ite (.ite (.mutex fun _ ↦ rfl))))
    exact hdoes.congr (by simp [Refused])
  | ioctl pdrv cmd buff =>
    have hdoes : Does port d (pdrv ≠ 0 ∨ d.stat.noInit = true ∨ False)
        (ffSdSpiIoctl port pdrv cmd buff) ((ioctl pdrv cmd buff).body port opt d.cardType) :=
      .ite (.get (.ite (.mutex fun _ ↦ rfl)))
    exact hdoes.congr (by simp [Refused])
  | isLocked pdrv =>
    have hdoes : Does port d ((pdrv ≠ 0 ∨ d.stat.noInit = true) ∨ (!true) = true ∨ False)
        (sdSpiIsLocked port true pdrv) ((isLocked pdrv).body port opt d.cardType) :=
      .get (.ite (.ite (.mutex fun _ ↦ rfl)))
    exact hdoes.congr (by simp [Refused])
  | password call =>
    by_cases haccepted : call.Accepted
    · have hdoes : Does port d ((!true) = true ∨ False) (call.request.run port true)
          ((password call).body port opt d.cardType) := by
        refine .ite (a := .invalidState) (.mutex fun d ↦ ?_)
        set out := sdDoLockUnlockLocked port call.request.control call.request.pwd1
          call.request.len1 call.request.pwd2 call.request.len2 d
        show ((if out.1 = .ok then _ else _ : SdM κ EspErr) out.2).2 =
          (((if out.1 = .ok then _ else _ : SdM κ PUnit) >>= fun _ ↦
            toPort port.giveMutex) out.2).2
        by_cases hok : out.1 = .ok
        · rw [if_pos hok, if_pos hok]
          rfl
        · rw [if_neg hok, if_neg hok]
          rfl
      rw [← PasswordCall.run_of_accepted haccepted] at hdoes
      exact hdoes.congr (by simp [Refused, haccepted])
    · refine ⟨fun _ ↦ ?_, fun habs ↦ absurd haccepted habs⟩
      show (call.run port true d).2 = d
      rw [PasswordCall.run_of_not_accepted haccepted]
      rfl

/-! ### What the work of a call keeps -/

/-- What the commands of a call keep, and the registers do not see, the call keeps. -/
theorem body_stable {allowed : SdSent → Prop} {P : SdDriver κ → Prop}
    (stable : port.StableAll allowed P) (hall : ∀ sent, allowed sent)
    (hregisters : ∀ d d', d'.card = d.card → P d → P d') (cardType : UInt8) (call : CardCall) :
    Keeps P (call.body port opt cardType) := by
  cases call with
  | init pdrv =>
    exact stable_initializeCard stable.toStable (hall _) (hall _) (fun _ _ _ ↦ hall _) hregisters
  | read pdrv sector count =>
    exact .bind (stable_readTransfer stable (hall _) (hall _) (hall _)) fun _ ↦ stable.deselect
  | write pdrv buff sector count =>
    exact .bind (stable_writeTransfer stable (hall _) (hall _) (hall _) fun _ _ ↦ hall _)
      fun _ ↦ stable.deselect
  | ioctl pdrv cmd buff =>
    exact .bind (stable_ioctlSwitch stable (fun _ _ ↦ hall _) cardType cmd buff)
      fun _ ↦ stable.deselect
  | isLocked pdrv =>
    exact .bind (stable_sendStatus stable.toStable (hall _)) fun _ ↦ .pure _
  | password call =>
    exact .bind (stable_sdDoLockUnlockLocked stable (hall _) (hall _) (hall _)) fun _ ↦
      .ite (.modify fun d hd ↦ hregisters d _ rfl hd) (.pure _)

/-- A card is found, or not. -/
theorem finishInitialize_inStep (ty : UInt8) :
    Triple (fun _ ↦ True) (finishInitialize port ty) fun _ d ↦ InStep d.stat d.cardType := by
  have hkeep := fun R ↦ (stableAll_registers port R).toStable
  refine .bind (Q := fun _ (d : SdDriver κ) ↦ d.cardType = ty) (.modify fun _ _ ↦ rfl) fun _ ↦
    .bind (hkeep fun _ cardType ↦ cardType = ty).deselect fun _ ↦ .ite (fun hty ↦ ?_) fun hty ↦ ?_
  · refine .bind (Q := fun _ d ↦ d.stat.noInit = false ∧ d.cardType = ty)
      (.modify fun _ hd ↦ ⟨rfl, hd⟩) fun _ ↦ ?_
    have hfound := hkeep fun stat cardType ↦ stat.noInit = false ∧ cardType = ty
    refine .bind (hfound.setSpeed true) fun _ ↦ .bind (stable_sendStatus hfound trivial) fun _ ↦ ?_
    have hstep : ∀ d : SdDriver κ, d.stat.noInit = false ∧ d.cardType = ty →
        InStep d.stat d.cardType := by
      rintro d ⟨hinit, htype⟩
      rw [InStep, hinit, htype]
      exact iff_of_false Bool.false_ne_true hty
    exact .ite (fun _ ↦ .modify fun d hd ↦ hstep _ hd) fun _ ↦ .pure hstep
  · refine .modify fun d hd ↦ iff_of_true rfl ?_
    exact hd.trans (not_not.1 hty)

/-- After an initialization the state and the card type agree. -/
theorem initializeCard_inStep :
    Triple (fun d ↦ d.stat.noInit = true ∧ d.cardType = 0) (initializeCard port opt)
      fun _ d ↦ InStep d.stat d.cardType := by
  have hkeep := (stableAll_registers port fun stat cardType ↦
    stat.noInit = true ∧ cardType = 0).toStable
  refine .bind (hkeep.setSpeed false) fun _ ↦ .bind (stable_cmd0Loop hkeep trivial _) fun _ ↦
    .ite (fun _ ↦ ?_) fun _ ↦ .modify fun d hd ↦ iff_of_true rfl hd.2
  exact .bind_of_any fun _ ↦ .bind_of_any fun ty ↦ finishInitialize_inStep ty

/-- **`Stat` and `CardType` stay in step.** -/
theorem body_inStep {stat : DStatus} {cardType : UInt8} (haccepted : ¬ call.Refused stat)
    (hstep : InStep stat cardType) :
    Triple (fun d ↦ d.stat = stat ∧ d.cardType = cardType) (call.body port opt cardType)
      fun _ d ↦ InStep d.stat d.cardType := by
  have hkeep := stableAll_registers port fun stat' cardType' ↦ stat' = stat ∧ cardType' = cardType
  have hsame : ∀ d : SdDriver κ, d.stat = stat ∧ d.cardType = cardType →
      InStep d.stat d.cardType := by
    rintro d ⟨hstat, htype⟩
    rw [hstat, htype]
    exact hstep
  cases call with
  | init pdrv =>
    obtain ⟨-, hinit⟩ := not_or.1 haccepted
    rw [Bool.not_eq_false] at hinit
    refine initializeCard_inStep.weaken (fun d hd ↦ ?_) fun _ _ ↦ id
    rw [hd.1, hd.2]
    exact ⟨hinit, hstep.1 hinit⟩
  | read pdrv sector count =>
    exact .bind (stable_readTransfer hkeep trivial trivial trivial) fun _ ↦
      hkeep.deselect.weaken (fun _ ↦ id) fun _ ↦ hsame
  | write pdrv buff sector count =>
    exact .bind (stable_writeTransfer hkeep trivial trivial trivial fun _ _ ↦ trivial) fun _ ↦
      hkeep.deselect.weaken (fun _ ↦ id) fun _ ↦ hsame
  | ioctl pdrv cmd buff =>
    exact .bind (stable_ioctlSwitch hkeep (fun _ _ ↦ trivial) cardType cmd buff) fun _ ↦
      hkeep.deselect.weaken (fun _ ↦ id) fun _ ↦ hsame
  | isLocked pdrv =>
    exact .bind (stable_sendStatus hkeep.toStable trivial) fun _ ↦ .pure hsame
  | password call =>
    refine .bind (stable_sdDoLockUnlockLocked hkeep trivial trivial trivial) fun _ ↦
      .ite (fun _ ↦ .modify fun d hd ↦ ?_) fun _ ↦ .pure hsame
    show (call.request.done d.stat).noInit = true ↔ d.cardType = 0
    rw [PasswordCall.request_done_noInit]
    exact hsame d hd

/-! ### Calls that are refused under the mutex -/

/-- `CMD42` is not sent to a card that is not initialised. -/
theorem body_of_refusedInside {cardType : UInt8} (hrefused : call.RefusedInside d.stat) :
    call.body port opt cardType d = (⟨⟩, d) := by
  cases call with
  | password call =>
    set out := sdDoLockUnlockLocked port call.request.control call.request.pwd1 call.request.len1
      call.request.pwd2 call.request.len2 d with hout
    have hcommand : out = (.invalidState, d) := by
      show (if d.stat.noInit then _ else _ : SdM κ EspErr) d = _
      rw [hrefused.2]
      rfl
    show (if out.1 = .ok then _ else _ : SdM κ PUnit) out.2 = _
    rw [hcommand]
    rfl
  | _ => exact hrefused.elim

/-- A command that the switch does not know is refused with no step. -/
theorem ioctlSwitch_refused {cardType cmd : UInt8} {pdrv : ℕ} {buff : Option (UInt32 × UInt32)}
    (hrefused : (ioctl pdrv cmd buff).RefusedInSwitch cardType) :
    ioctlSwitch port cardType cmd buff d = ((.parErr, none), d) := by
  rcases hrefused with ⟨rfl, hsync⟩ | hother | ⟨rfl, htype⟩
  · rw [ioctlSwitch, if_neg hsync]
    simp only [if_true]
    split_ifs <;> rfl
  · simp only [List.mem_cons, List.not_mem_nil, or_false, not_or] at hother
    obtain ⟨h0, h1, h2, h3, h4⟩ := hother
    rcases buff with - | ⟨st, ed⟩ <;>
      rw [ioctlSwitch, if_neg h0, if_neg h1, if_neg h2, if_neg h3, if_neg h4] <;> rfl
  · cases buff with
    | none => rfl
    | some words =>
      have htrim : ioctlTrim port cardType words.1 words.2 = pure .parErr := if_pos htype
      show (do let res ← ioctlTrim port cardType words.1 words.2; return (res, none) :
        SdM κ (DResult × Option IoctlValue)) d = _
      rw [htrim]
      rfl

/-- A request that is refused by the `switch` is followed by `deselect`. -/
theorem body_of_refusedInSwitch {cardType : UInt8} (hrefused : call.RefusedInSwitch cardType) :
    call.body port opt cardType d = (⟨⟩, { d with card := port.deselect d.card }) := by
  cases call with
  | ioctl pdrv cmd buff =>
    show toPort port.deselect (ioctlSwitch port cardType cmd buff d).2 = _
    rw [ioctlSwitch_refused hrefused]
    rfl
  | _ => exact hrefused.elim

end CardCall

/-! ### The card is deselected at the end -/

section Deselects

variable {κ : Type} {h : SpiHost κ} {opt : SdOptions}

/-- What does not touch the log. -/
theorem keeps_deselected {m : SdM (Bus (Logged κ)) PUnit} (hlog : ∀ d, (m d).2.log = d.log) :
    Keeps Deselected m := fun d hd ↦ by
  show csLevel (m d).2.log = true
  rw [hlog]
  exact hd

/-- The status request ends with the card deselected. -/
theorem sendStatus_deselected {P : SdDriver (Bus (Logged κ)) → Prop} :
    Triple P (sendStatus (h.logged.port opt)) fun _ ↦ Deselected :=
  .bind_of_any fun _ ↦ .bind_of_any fun _ ↦ .bind deselect_deselected fun _ ↦ .pure fun _ ↦ id

/-- A reset that the card did not answer leaves it deselected. -/
theorem cmd0Loop_deselected (retries : ℕ) :
    Triple Deselected (cmd0Loop (h.logged.port opt) retries)
      fun ok d ↦ ok = false → Deselected d := by
  induction retries with
  | zero => exact .pure fun _ hd _ ↦ hd
  | succ retries ih =>
    refine .bind_of_any fun ok ↦ .ite (fun _ ↦ .pure fun _ _ ↦ nofun) fun _ ↦ ?_
    exact .bind deselect_deselected fun _ ↦ .bind (keeps_deselected fun _ ↦ rfl) fun _ ↦ ih

/-- The end of an initialization deselects the card, found or not. -/
theorem finishInitialize_deselected {P : SdDriver (Bus (Logged κ)) → Prop} (ty : UInt8) :
    Triple P (finishInitialize (h.logged.port opt) ty) fun _ ↦ Deselected := by
  have hkeep : ∀ f : SdDriver (Bus (Logged κ)) → SdDriver (Bus (Logged κ)),
      (∀ d, (f d).log = d.log) → Keeps Deselected (modify f : SdM (Bus (Logged κ)) PUnit) :=
    fun _ hf ↦ keeps_deselected hf
  refine .bind_of_any fun _ ↦ .bind deselect_deselected fun _ ↦ .ite (fun _ ↦ ?_) fun _ ↦ ?_
  · refine .bind_of_any fun _ ↦ .bind_of_any fun _ ↦ .bind sendStatus_deselected fun _ ↦ ?_
    exact Keeps.ite (hkeep _ fun _ ↦ rfl) (.pure _)
  · exact hkeep _ fun _ ↦ rfl

/-- An initialization leaves the card deselected. -/
theorem initializeCard_deselected :
    Keeps Deselected (initializeCard (h.logged.port opt) opt) := by
  refine .bind (keeps_deselected fun _ ↦ rfl) fun _ ↦
    Triple.bind (cmd0Loop_deselected _) fun ok ↦ ?_
  refine .ite (fun _ ↦ ?_) fun hfailed ↦ ?_
  · exact .bind_of_any fun _ ↦ .bind_of_any fun ty ↦ finishInitialize_deselected ty
  · exact .modify fun d hd ↦ hd (Bool.eq_false_iff.2 hfailed)

/-- A lock operation leaves the card deselected, at each of its exits. -/
theorem sdDoLockUnlockLocked_deselected (r : LockRequest) : Keeps Deselected
    (sdDoLockUnlockLocked (h.logged.port opt) r.control r.pwd1 r.len1 r.pwd2 r.len2) := by
  have hfail : Triple (fun _ ↦ True) (do
      toPort (h.logged.port opt).deselect
      return .fail : SdM (Bus (Logged κ)) EspErr) fun _ ↦ Deselected :=
    .bind deselect_deselected fun _ ↦ .pure fun _ ↦ id
  refine .bind .get fun _ ↦ .ite (.pure _) <| .ite (.pure _) ?_
  have hcalloc : Keeps Deselected (onPort (h.logged.port opt).calloc) := fun _ hd ↦ hd
  refine .bind hcalloc fun _ ↦ .ite ?_ (.pure _)
  refine Triple.bind_of_any fun _ ↦ .ite (fun _ ↦ hfail) fun _ ↦ .bind_of_any fun _ ↦
    .ite (fun _ ↦ ?_) fun _ ↦ hfail
  exact .bind_of_any fun _ ↦ .bind_of_any fun _ ↦ .bind sendStatus_deselected fun _ ↦
    .pure fun _ ↦ id

/-- **Every call leaves the card deselected.** -/
theorem CardCall.body_deselected (cardType : UInt8) (call : CardCall) :
    Keeps Deselected (call.body (h.logged.port opt) opt cardType) := by
  cases call with
  | init pdrv => exact initializeCard_deselected
  | read pdrv sector count => exact Triple.bind_of_any fun _ ↦ deselect_deselected
  | write pdrv buff sector count => exact Triple.bind_of_any fun _ ↦ deselect_deselected
  | ioctl pdrv cmd buff => exact Triple.bind_of_any fun _ ↦ deselect_deselected
  | isLocked pdrv => exact Triple.bind sendStatus_deselected fun _ ↦ .pure fun _ ↦ id
  | password call =>
    exact .bind (sdDoLockUnlockLocked_deselected call.request) fun _ ↦
      .ite (keeps_deselected fun _ ↦ rfl) (.pure _)

end Deselects

/-! ### The law of a call -/

/-- What a call adds to the log. -/
inductive CallEvents : List HostEvent → Prop
  | none : CallEvents []
  | notTaken : CallEvents [.take false]
  | held {bus : List HostEvent} : (∀ e ∈ bus, e.IsBus) → CallEvents (.take true :: (bus ++ [.give]))

section Law

variable {κ : Type} {h : SpiHost κ} {opt : SdOptions} {call : CardCall}
  {d d' : SdDriver (Bus (Logged κ))}

/-- Between two calls. -/
structure SoundBetween (d : SdDriver (Bus (Logged κ))) : Prop where
  free : mutexHeld d.log = false
  deselected : Deselected d
  balanced : takes d.log = gives d.log
  inStep : InStep d.stat d.cardType

/-- `Stat` and `CardType` are unchanged. -/
def SameRegisters (d d' : SdDriver (Bus (Logged κ))) : Prop :=
  d'.stat = d.stat ∧ d'.cardType = d.cardType

/-- What a call does, from one state to another. -/
structure CardLaw (call : CardCall) (d d' : SdDriver (Bus (Logged κ))) : Prop where
  sound : SoundBetween d'
  events : ∃ events, d'.log = d.log ++ events ∧ CallEvents events
  refused : call.Refused d.stat → d' = d
  notTaken : d'.log = d.log ++ [.take false] → SameRegisters d d'
  refusedInside : call.RefusedInside d.stat →
    exchanged d'.log = exchanged d.log ∧ SameRegisters d d'
  refusedInSwitch : ¬ call.Refused d.stat → call.RefusedInSwitch d.cardType →
    SameRegisters d d' ∧ (d'.log = d.log ++ [.take false] ∨
      ∃ miso, d'.log = d.log ++ [.take true, .cs true, .byte 0xFF miso, .give])

/-- A refused call did nothing, as the law asks. -/
theorem CardLaw.of_refused (hsound : SoundBetween d) (hrefused : call.Refused d.stat) :
    CardLaw call d d where
  sound := hsound
  events := ⟨[], (List.append_nil d.log).symm, .none⟩
  refused _ := rfl
  notTaken _ := ⟨rfl, rfl⟩
  refusedInside _ := ⟨rfl, rfl, rfl⟩
  refusedInSwitch haccepted := absurd hrefused haccepted

/-- A call that did not get the mutex noted that and did nothing else. -/
theorem CardLaw.of_notTaken (hsound : SoundBetween d) (haccepted : ¬ call.Refused d.stat)
    (hlog : d'.log = d.log ++ [.take false]) (hsame : SameRegisters d d') : CardLaw call d d' where
  sound := by
    refine ⟨?_, ?_, ?_, ?_⟩
    · rw [hlog, mutexHeld, List.foldl_append]
      show (mutexHeld d.log || false) = false
      rw [hsound.free]
      rfl
    · rw [Deselected, hlog, csLevel, List.foldl_append]
      exact hsound.deselected
    · rw [hlog, takes, gives, List.count_append, List.count_append]
      exact congrArg (· + 0) hsound.balanced
    · rw [hsame.1, hsame.2]
      exact hsound.inStep
  events := ⟨_, hlog, .notTaken⟩
  refused habs := absurd habs haccepted
  notTaken _ := hsame
  refusedInside _ := by
    refine ⟨?_, hsame⟩
    rw [hlog, exchanged, List.filterMap_append]
    exact List.append_nil _
  refusedInSwitch _ _ := ⟨hsame, .inl hlog⟩

/-- The mutex was taken, something was done on the bus, and the mutex was given back. -/
theorem SoundBetween.of_held (hsound : SoundBetween d) {bus : List HostEvent}
    (hbus : ∀ e ∈ bus, e.IsBus) (hlog : d'.log = d.log ++ (.take true :: (bus ++ [.give])))
    (hdeselected : Deselected d') (hstep : InStep d'.stat d'.cardType) : SoundBetween d' := by
  refine ⟨?_, hdeselected, ?_, hstep⟩
  · rw [hlog, ← List.cons_append, ← List.append_assoc, mutexHeld, List.foldl_append]
    rfl
  · have htake : bus.count (.take true) = 0 :=
      List.count_eq_zero.2 fun hmem ↦ hbus _ hmem
    have hgive : bus.count .give = 0 := List.count_eq_zero.2 fun hmem ↦ hbus _ hmem
    have hbalanced := hsound.balanced
    simp only [takes, gives] at hbalanced
    rw [hlog, takes, gives, List.count_append, List.count_append, List.count_cons, List.count_cons,
      List.count_append, List.count_append, htake, hgive, hbalanced]
    rfl

/-- A call that got the mutex kept the law while it held it. -/
theorem CardLaw.of_held (hsound : SoundBetween d) (haccepted : ¬ call.Refused d.stat)
    {asked out : SdDriver (Bus (Logged κ))} (hasked : asked.log = d.log ++ [.take true])
    (hsame : SameRegisters d asked)
    (hout : call.body (h.logged.port opt) opt d.cardType asked = (⟨⟩, out))
    (hlog : d'.log = out.log ++ [.give]) (hsame' : SameRegisters out d') : CardLaw call d d' := by
  have hbus : BusSince asked.log (call.body (h.logged.port opt) opt d.cardType asked).2.log :=
    CardCall.body_stable (stableAll_busSince asked.log) (fun _ ↦ trivial)
      (fun d d' hcard hd ↦ by rwa [SdDriver.log_congr hcard]) d.cardType call asked
      (.refl asked.log)
  have hdeselected : Deselected (call.body (h.logged.port opt) opt d.cardType asked).2 :=
    CardCall.body_deselected d.cardType call asked (by
      rw [Deselected, hasked, csLevel, List.foldl_append]
      exact hsound.deselected)
  have hstep : InStep (call.body (h.logged.port opt) opt d.cardType asked).2.stat
      (call.body (h.logged.port opt) opt d.cardType asked).2.cardType :=
    CardCall.body_inStep haccepted hsound.inStep asked hsame
  rw [hout] at hbus hdeselected hstep
  obtain ⟨bus, hbus, hbody⟩ := hbus
  have hall : d'.log = d.log ++ (.take true :: (bus ++ [.give])) := by
    rw [hlog, hbody, hasked]
    simp only [List.append_assoc, List.cons_append, List.nil_append]
  constructor
  case sound =>
    refine hsound.of_held hbus hall ?_ ?_
    · rw [Deselected, hlog, csLevel, List.foldl_append]
      exact hdeselected
    · rw [hsame'.1, hsame'.2]
      exact hstep
  case events => exact ⟨_, hall, .held hbus⟩
  case refused => exact fun habs ↦ absurd habs haccepted
  case notTaken =>
    intro habs
    rw [hall] at habs
    cases List.append_cancel_left habs
  case refusedInside =>
    intro hrefused
    rw [← hsame.1] at hrefused
    rw [CardCall.body_of_refusedInside hrefused] at hout
    obtain rfl : asked = out := congrArg Prod.snd hout
    refine ⟨?_, hsame'.1.trans hsame.1, hsame'.2.trans hsame.2⟩
    rw [hlog, hasked, exchanged, List.filterMap_append, List.filterMap_append]
    exact (List.append_nil _).trans (List.append_nil _)
  case refusedInSwitch =>
    intro _ hrefused
    rw [CardCall.body_of_refusedInSwitch hrefused] at hout
    obtain rfl : { asked with card := (h.logged.port opt).deselect asked.card } = out :=
      congrArg Prod.snd hout
    obtain ⟨miso, hmiso⟩ : ∃ miso, (toPort (h.logged.port opt).deselect asked).2.log =
        asked.log ++ [.cs true, .byte 0xFF miso] := deselect_log asked
    refine ⟨⟨hsame'.1.trans hsame.1, hsame'.2.trans hsame.2⟩, .inr ⟨miso, hlog.trans ?_⟩⟩
    refine (congrArg (· ++ [HostEvent.give]) hmiso).trans ?_
    simp only [hasked, List.append_assoc, List.cons_append, List.nil_append]

/-- **One call keeps the law.** -/
theorem run_law (hsound : SoundBetween d) (call : CardCall) :
    CardLaw call d (call.run (h.logged.port opt) opt d).2 := by
  by_cases hrefused : call.Refused d.stat
  · rw [(CardCall.run_does call).1 hrefused]
    exact .of_refused hsound hrefused
  rw [(CardCall.run_does call).2 hrefused]
  cases htake : ((h.logged.port opt).takeMutex d.card).1 with
  | false =>
    rw [CardCall.underMutex_of_notTaken htake]
    refine .of_notTaken hsound hrefused ?_ ⟨rfl, rfl⟩
    rw [← htake]
    rfl
  | true =>
    have hasked : ({ d with card := ((h.logged.port opt).takeMutex d.card).2 } :
        SdDriver (Bus (Logged κ))).log = d.log ++ [.take true] := by
      rw [← htake]
      rfl
    rw [CardCall.underMutex_of_taken htake]
    exact .of_held hsound hrefused hasked ⟨rfl, rfl⟩ rfl rfl ⟨rfl, rfl⟩

/-- The driver when it is registered. -/
def registeredDriver (host : κ) : SdDriver (Bus (Logged κ)) := ⟨⟨true, false⟩, 0, ⟨⟨host, []⟩, []⟩⟩

/-- The driver after these calls. -/
def afterCalls (h : SpiHost κ) (opt : SdOptions) (calls : List CardCall)
    (d : SdDriver (Bus (Logged κ))) : SdDriver (Bus (Logged κ)) :=
  calls.foldl (fun d call ↦ (call.run (h.logged.port opt) opt d).2) d

/-- The driver is sound when it was registered. -/
theorem sound_registeredDriver (host : κ) : SoundBetween (registeredDriver host) :=
  ⟨rfl, rfl, rfl, iff_of_true rfl rfl⟩

/-- The driver is sound between any calls. -/
theorem sound_afterCalls (calls : List CardCall) (hsound : SoundBetween d) :
    SoundBetween (afterCalls h opt calls d) := by
  induction calls generalizing d with
  | nil => exact hsound
  | cons call calls ih => exact ih (run_law hsound call).sound

/-- **Every call of every run keeps the law**, on every host. -/
theorem card_calls_sound (h : SpiHost κ) (opt : SdOptions) (host : κ) (calls : List CardCall)
    (call : CardCall) : CardLaw call (afterCalls h opt calls (registeredDriver host))
      (afterCalls h opt (calls ++ [call]) (registeredDriver host)) := by
  rw [afterCalls, afterCalls, List.foldl_append]
  exact run_law (sound_afterCalls calls (sound_registeredDriver host)) call

end Law

/-- The bytes of an MMC that is initialised. -/
def mmcScript : List UInt8 :=
  let command (r1 : UInt8) : List UInt8 := List.replicate 9 0xFF ++ [r1]
  List.replicate 17 0xFF ++ [0x01] ++ [0xFF] ++ command 0x05 ++ command 0x05 ++ command 0x00 ++
    command 0x00 ++ [0xFF] ++ command 0x00 ++ [0x00, 0xFF]

/-- The size of the sectors is asked for without a buffer: a byte goes out although the request is
refused. -/
theorem refused_request_exchanges_byte :
    let d := afterCalls scriptHost ⟨1, false⟩ [.init 0] (registeredDriver mmcScript)
    let out := ffSdSpiIoctl (scriptHost.logged.port ⟨1, false⟩) 0 getSectorSize none d
    d.stat.noInit = false ∧ out.1 = (.parErr, none) ∧
      exchanged out.2.log = exchanged d.log ++ [(0xFF, 0x00)] := by
  decide +kernel
