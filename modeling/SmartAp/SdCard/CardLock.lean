import SmartAp.SdCard.LockableCard
import Mathlib.Data.Bool.Basic

/-!
# `STA_PROTECT` and the lock of the card

A card with a password is locked or unlocked with `CMD42`, and the driver keeps the lock in
`STA_PROTECT`, which decides whether `ff_sd_spi_write` refuses to write. The card is the one of the
SD specification (`LockCard`): the driver sends it a block with a control byte and passwords, and
reads from its status whether it has done what the block says.

`ESP_OK` tells exactly whether it has. The flag follows the card after every call but one:
`sd_spi_clear_password` on a locked card unlocks it, and `Stat` stays as it is
(`PasswordCall.right_iff`, `protect_mirrors_lock`). From then on the driver refuses to write to a
card that is not locked.

## What is assumed of the card

The results are about any port with a card behind it that meets `SdPort.PasswordCard`, and this
assumption is about the two exchanges the driver has with a card that no call is using: `CMD42`
with a block of 512 bytes, and `CMD13`. It says nothing of the port in the middle of an exchange,
of other commands or of other blocks; in particular a `NULL` block, which `xmit_datablock` refuses,
and a card that is not ready are left alone.

`lockableHost_passwordCard` meets it with the protocol functions of the driver themselves, over a
card that works byte by byte. The two runs at the end of the module are runs of that host.
-/

/-! ### The calls -/

/-- What a call sends to the card, and what it does to `Stat` after `ESP_OK`. -/
structure LockRequest where
  control : UInt8
  pwd1 : Option (List UInt8)
  len1 : UInt8
  pwd2 : Option (List UInt8)
  len2 : UInt8
  done : DStatus → DStatus

namespace LockRequest

def block (r : LockRequest) : List UInt8 := lockBlock r.control r.pwd1 r.len1 r.pwd2 r.len2

def run {κ : Type} (port : SdPort κ) (mutex : Bool) (r : LockRequest) : SdM κ EspErr :=
  lockUnlock port mutex r.control r.pwd1 r.len1 r.pwd2 r.len2 r.done

@[simp] theorem block_control (r : LockRequest) : r.block.getD 0 0 = r.control := rfl

end LockRequest

/-- A call of the password API. A password is what stands at the pointer, `none` for `NULL`. -/
inductive PasswordCall
  | unlock (pdrv : ℕ) (password : Option (List UInt8)) (pwdLen : UInt8)
  | lock (pdrv : ℕ) (password : Option (List UInt8)) (pwdLen : UInt8)
  | setPassword (pdrv : ℕ) (oldPwd : Option (List UInt8)) (oldLen : UInt8)
      (newPwd : Option (List UInt8)) (newLen : UInt8)
  | clearPassword (pdrv : ℕ) (password : Option (List UInt8)) (pwdLen : UInt8)
  | forceErase (pdrv : ℕ)

namespace PasswordCall

variable {κ : Type}

def run (port : SdPort κ) (mutex : Bool) : PasswordCall → SdM κ EspErr
  | unlock pdrv password pwdLen => sdSpiUnlock port mutex pdrv password pwdLen
  | lock pdrv password pwdLen => sdSpiLock port mutex pdrv password pwdLen
  | setPassword pdrv oldPwd oldLen newPwd newLen =>
    sdSpiSetPassword port mutex pdrv oldPwd oldLen newPwd newLen
  | clearPassword pdrv password pwdLen => sdSpiClearPassword port mutex pdrv password pwdLen
  | forceErase pdrv => sdSpiForceErase port mutex pdrv

/-- The arguments are accepted. -/
def Accepted : PasswordCall → Prop
  | unlock pdrv password pwdLen | lock pdrv password pwdLen | clearPassword pdrv password pwdLen =>
    ¬ (pdrv ≠ 0 ∨ password = none ∨ pwdLen = 0 ∨ pwdLen > 16)
  | setPassword pdrv _ oldLen newPwd newLen =>
    ¬ (pdrv ≠ 0 ∨ newPwd = none ∨ newLen = 0 ∨ newLen > 16) ∧ ¬ oldLen > 16
  | forceErase pdrv => ¬ pdrv ≠ 0

/-- What it sends to the card, and what it does to `Stat` after `ESP_OK`. -/
def request : PasswordCall → LockRequest
  | unlock _ password pwdLen => ⟨0x00, password, pwdLen, none, 0, ({ · with isProtected := false })⟩
  | lock _ password pwdLen =>
    ⟨sdLockLock, password, pwdLen, none, 0, ({ · with isProtected := true })⟩
  | setPassword _ oldPwd oldLen newPwd newLen =>
    ⟨sdLockSetPwd, oldPwd, oldLen, newPwd, newLen, id⟩
  | clearPassword _ password pwdLen => ⟨sdLockClrPwd, password, pwdLen, none, 0, id⟩
  | forceErase _ => ⟨sdLockErase, none, 0, none, 0, ({ · with isProtected := false })⟩

variable {port : SdPort κ} {mutex : Bool} {call : PasswordCall}

/-- A call with bad arguments returns before it does anything. -/
theorem run_of_not_accepted (h : ¬ call.Accepted) : call.run port mutex = pure .invalidArg := by
  cases call with
  | setPassword pdrv oldPwd oldLen newPwd newLen =>
    show sdSpiSetPassword port mutex pdrv oldPwd oldLen newPwd newLen = _
    rw [sdSpiSetPassword]
    split
    · rfl
    · rename_i hnew
      exact if_pos (not_not.1 fun hold ↦ h ⟨hnew, hold⟩)
  | _ => exact if_pos (not_not.1 h)

/-- A call that passes its checks is its request. -/
theorem run_of_accepted (h : call.Accepted) :
    call.run port mutex = call.request.run port mutex := by
  cases call with
  | setPassword pdrv oldPwd oldLen newPwd newLen =>
    show sdSpiSetPassword port mutex pdrv oldPwd oldLen newPwd newLen = _
    rw [sdSpiSetPassword, if_neg h.1, if_neg h.2]
    rfl
  | _ => exact if_neg h

/-- Accepted passwords have at most 16 bytes. -/
theorem request_len (h : call.Accepted) :
    ¬ (call.request.len1 > 16 ∨ call.request.len2 > 16) := by
  cases call with
  | setPassword pdrv oldPwd oldLen newPwd newLen =>
    exact fun hlen ↦ hlen.elim h.2 fun hnew ↦ h.1 (.inr (.inr (.inr hnew)))
  | forceErase pdrv => exact of_decide_eq_false rfl
  | _ => exact fun hlen ↦ hlen.elim (fun hpwd ↦ h (.inr (.inr (.inr hpwd)))) (of_decide_eq_false rfl)

/-- No call resets the driver. -/
theorem request_done_noInit {stat : DStatus} : (call.request.done stat).noInit = stat.noInit := by
  cases call <;> rfl

end PasswordCall

/-! ### What a call does -/

section Calls

variable {κ : Type} {port : SdPort κ} {card : κ → LockCard} {r : LockRequest} {mutex : Bool}
  {d₀ : SdDriver κ}

/-- `CMD42` with a block, as `sd_do_lock_unlock_locked` sends it: until the card is deselected. -/
def SdPort.afterLock (port : SdPort κ) (block : List UInt8) (k : κ) : κ :=
  port.deselect (port.waitReady (port.xmitDatablock block 0xFE (port.sendCmd cmd42 0 k).2).2).2

/-- `CMD13`: the second byte of the answer, and the port when the card is deselected. -/
def SdPort.afterStatus (port : SdPort κ) (k : κ) : UInt8 × κ :=
  let status := port.exchange 0xFF (port.sendCmd cmd13 0 k).2
  (status.1, port.deselect status.2)

/-- The card behind the port. Between two exchanges it is idle. It carries out a block of 512 bytes
that comes with `CMD42`, `CMD13` tells whether that has failed, and nothing goes wrong on the
way. -/
structure SdPort.PasswordCard (port : SdPort κ) (card : κ → LockCard) (idle : κ → Prop) :
    Prop where
  takeMutex : ∀ k, idle k → card (port.takeMutex k).2 = card k ∧ idle (port.takeMutex k).2
  giveMutex : ∀ k, idle k → card (port.giveMutex k) = card k ∧ idle (port.giveMutex k)
  calloc : ∀ k, idle k → card (port.calloc k).2 = card k ∧ idle (port.calloc k).2
  lock : ∀ block k, idle k → block.length = 512 → (port.sendCmd cmd42 0 k).1 = 0 ∧
    (port.xmitDatablock block 0xFE (port.sendCmd cmd42 0 k).2).1 = true ∧
      card (port.afterLock block k) = (card k).cmd42 block ∧ idle (port.afterLock block k)
  status : ∀ k, idle k → (port.sendCmd cmd13 0 k).1 ≤ 1 ∧
    ((port.afterStatus k).1 &&& 0x02 ≠ 0 ↔ (card k).failed = true) ∧
      card (port.afterStatus k).2 = card k ∧ idle (port.afterStatus k).2

variable {idle : κ → Prop}

/-- The driver with this `Stat` and this card, between two exchanges. -/
structure HasCard (card : κ → LockCard) (idle : κ → Prop) (stat : DStatus) (c : LockCard)
    (d : SdDriver κ) : Prop where
  stat_eq : d.stat = stat
  card_eq : card d.card = c
  is_idle : idle d.card

variable {stat : DStatus} {c : LockCard}

/-- A step that the card does not see keeps the card and the register. -/
theorem hasCard_toPort {f : κ → κ} (h : ∀ k, idle k → card (f k) = card k ∧ idle (f k)) :
    Keeps (HasCard card idle stat c) (toPort f) :=
  fun d hd ↦ ⟨hd.stat_eq, (h d.card hd.is_idle).1.trans hd.card_eq, (h d.card hd.is_idle).2⟩

/-- The same of a step with a result. -/
theorem hasCard_onPort {α : Type} {f : κ → α × κ}
    (h : ∀ k, idle k → card (f k).2 = card k ∧ idle (f k).2) :
    Keeps (HasCard card idle stat c) (onPort f) :=
  fun d hd ↦ ⟨hd.stat_eq, (h d.card hd.is_idle).1.trans hd.card_eq, (h d.card hd.is_idle).2⟩

/-- The block has 512 bytes, whatever the passwords are. -/
theorem LockRequest.length_block (hlen : ¬ (r.len1 > 16 ∨ r.len2 > 16)) :
    r.block.length = 512 := by
  have hlen1 : r.len1.toNat ≤ 16 := UInt8.not_lt.1 fun h ↦ hlen (.inl h)
  have hlen2 : r.len2.toNat ≤ 16 := UInt8.not_lt.1 fun h ↦ hlen (.inr h)
  have htake1 := List.length_take_le r.len1.toNat (r.pwd1.getD [])
  have htake2 := List.length_take_le r.len2.toNat (r.pwd2.getD [])
  simp only [LockRequest.block, lockBlock, List.length_append, List.length_cons,
    List.length_replicate]
  omega

/-- The card has got its block, and the result tells whether it has failed. -/
def Reports (card : κ → LockCard) (idle : κ → Prop) (stat : DStatus) (c : LockCard) (ret : EspErr)
    (d : SdDriver κ) : Prop :=
  (ret = .ok ↔ c.failed = false) ∧ HasCard card idle stat c d

/-- The driver with this `Stat` and this port. -/
def AtPort (stat : DStatus) (k : κ) (d : SdDriver κ) : Prop := d.stat = stat ∧ d.card = k

/-- A step of the port is the step of its card. -/
theorem triple_onPort {α : Type} {f : κ → α × κ} {k : κ} :
    Triple (AtPort stat k) (onPort f) fun a d ↦ a = (f k).1 ∧ AtPort stat (f k).2 d := by
  rintro d ⟨rfl, rfl⟩
  exact ⟨rfl, rfl, rfl⟩

/-- The same of a step without a result. -/
theorem triple_toPort {f : κ → κ} {k : κ} :
    Triple (AtPort stat k) (toPort f) fun _ ↦ AtPort stat (f k) := by
  rintro d ⟨rfl, rfl⟩
  exact ⟨rfl, rfl⟩

/-- The status request is CMD13 and the second byte of its answer. -/
theorem sendStatus_port {k : κ} : Triple (AtPort stat k) (sendStatus port) fun res d ↦
    res = ((port.sendCmd cmd13 0 k).1, (port.afterStatus k).1) ∧
      AtPort stat (port.afterStatus k).2 d := by
  rintro d ⟨rfl, rfl⟩
  exact ⟨rfl, rfl, rfl⟩

variable (hcard : port.PasswordCard card idle)

include hcard

/-- With memory for the block, the card gets it, and its status decides. -/
theorem sdDoLockUnlockLocked_port (hinit : stat.noInit = false)
    (hlen : ¬ (r.len1 > 16 ∨ r.len2 > 16)) {k : κ} (hidle : idle k)
    (hcalloc : (port.calloc k).1 = true) :
    Triple (AtPort stat k) (sdDoLockUnlockLocked port r.control r.pwd1 r.len1 r.pwd2 r.len2)
      (Reports card idle stat ((card k).cmd42 r.block)) := by
  obtain ⟨hcard₁, hidle₁⟩ := hcard.calloc k hidle
  obtain ⟨hres, hsent, hcard₂, hidle₂⟩ := hcard.lock r.block _ hidle₁ (r.length_block hlen)
  obtain ⟨hr1, hr2, hcard₃, hidle₃⟩ := hcard.status _ hidle₂
  rw [hcard₁] at hcard₂
  rw [hcard₂] at hr2 hcard₃
  refine triple_get_bind fun d hd ↦ .ite (fun hno ↦ ?_) fun _ ↦ .ite (fun hbad ↦ ?_) fun _ ↦ ?_
  · rw [hd.1, hinit] at hno
    cases hno
  · exact absurd hbad hlen
  refine .weaken (P := AtPort stat k) ?_ (fun t ht ↦ ht ▸ hd) fun _ _ ↦ id
  -- the exchange with the card: the command, the block, and the status
  refine .bind triple_onPort fun ok ↦ .of_fact fun hok ↦ .ite (fun _ ↦ ?_) fun hno ↦
    absurd (hok.trans hcalloc) hno
  refine .bind triple_onPort fun res ↦ .of_fact fun hres' ↦ .ite (fun hbad ↦ ?_) fun _ ↦ ?_
  · exact absurd (hres'.trans hres) hbad
  refine .bind triple_onPort fun sent ↦ .of_fact fun hsent' ↦ .ite (fun _ ↦ ?_) fun hbad ↦
    absurd (hsent'.trans hsent) hbad
  refine .bind triple_onPort fun _ ↦ .of_fact fun _ ↦ .bind triple_toPort fun _ ↦
    .bind sendStatus_port fun status ↦ .of_fact fun hstatus ↦ .pure fun t ht ↦ ?_
  refine ⟨?_, ht.1, (congrArg card ht.2).trans hcard₃, ht.2 ▸ hidle₃⟩
  have hr1' : status.1 ≤ 1 := hstatus ▸ hr1
  have hr2' : status.2 &&& 0x02 ≠ 0 ↔ ((card k).cmd42 r.block).failed = true := hstatus ▸ hr2
  split
  · rename_i hfailed
    simp [hr2'.1 hfailed]
  · rename_i hok
    simpa [hr1'] using hr2'.not.1 hok

/-- With the buffer at hand the operation is CMD42 of the card, and the register is its status. -/
theorem sdDoLockUnlockLocked_spec (hinit : stat.noInit = false)
    (hlen : ¬ (r.len1 > 16 ∨ r.len2 > 16)) :
    Triple (fun d ↦ HasCard card idle stat c d ∧ (port.calloc d.card).1 = true)
      (sdDoLockUnlockLocked port r.control r.pwd1 r.len1 r.pwd2 r.len2)
      (Reports card idle stat (c.cmd42 r.block)) := by
  rintro d ⟨⟨hstat, rfl, hidle⟩, hcalloc⟩
  exact sdDoLockUnlockLocked_port hcard hinit hlen hidle hcalloc d ⟨hstat, rfl⟩

/-- Without memory nothing is sent. -/
theorem sdDoLockUnlockLocked_noMem :
    Triple (fun d ↦ HasCard card idle stat c d ∧ (port.calloc d.card).1 = false)
      (sdDoLockUnlockLocked port r.control r.pwd1 r.len1 r.pwd2 r.len2) fun ret d ↦
        ret ≠ .ok ∧ HasCard card idle stat c d := by
  refine .bind (Q := fun d' d ↦ d' = d ∧ HasCard card idle stat c d ∧
      (port.calloc d.card).1 = false)
    (.get fun d hd ↦ ⟨rfl, hd⟩) fun d' ↦ .ite (fun _ ↦ .pure fun d hd ↦ ⟨nofun, hd.2.1⟩) fun _ ↦
      .ite (fun _ ↦ .pure fun d hd ↦ ⟨nofun, hd.2.1⟩) fun _ ↦ ?_
  refine .bind (Q := fun ok d ↦ ok = false ∧ HasCard card idle stat c d)
    (fun d hd ↦ ⟨hd.2.2, hasCard_onPort hcard.calloc d hd.2.1⟩) fun ok ↦
    .ite (fun hok d hd ↦ ?_) fun _ ↦ .pure fun d hd ↦ ⟨nofun, hd.2⟩
  rw [hd.1] at hok
  cases hok

omit hcard in
/-- The mutex is taken, and there is memory for the block. -/
def Served (port : SdPort κ) (mutex : Bool) (k : κ) : Prop :=
  mutex = true ∧ (port.takeMutex k).1 = true ∧ (port.calloc (port.takeMutex k).2).1 = true

/-- A request that is served is CMD42 of the card. -/
theorem LockRequest.run_served (hinit : stat.noInit = false)
    (hlen : ¬ (r.len1 > 16 ∨ r.len2 > 16)) :
    Triple (fun d ↦ HasCard card idle stat c d ∧ Served port mutex d.card) (r.run port mutex)
      fun ret d ↦ (ret = .ok ↔ (c.cmd42 r.block).failed = false) ∧
        HasCard card idle (if ret = .ok then r.done stat else stat) (c.cmd42 r.block) d := by
  refine .ite (fun hno d hd ↦ ?_) fun _ ↦ ?_
  · rw [hd.2.1] at hno
    cases hno
  refine .bind (Q := fun taken d ↦ taken = true ∧ HasCard card idle stat c d ∧
      (port.calloc d.card).1 = true)
    (fun d hd ↦ ⟨hd.2.2.1, hasCard_onPort hcard.takeMutex d hd.1, hd.2.2.2⟩) fun taken ↦
    .ite (fun _ ↦ ?_) fun htaken d hd ↦ absurd hd.1 htaken
  refine .bind (Q := Reports card idle stat (c.cmd42 r.block))
    (fun d hd ↦ sdDoLockUnlockLocked_spec hcard hinit hlen d hd.2) fun ret ↦ .ite (fun hok ↦ ?_)
    fun hfail ↦ ?_
  · refine .bind (Q := fun _ d ↦ (ret = .ok ↔ (c.cmd42 r.block).failed = false) ∧
        HasCard card idle (r.done stat) (c.cmd42 r.block) d)
      (.modify fun d hd ↦ ⟨hd.1, congrArg r.done hd.2.stat_eq, hd.2.card_eq, hd.2.is_idle⟩)
      fun _ d hd ↦ ⟨hd.1, ?_⟩
    show HasCard card idle (if ret = .ok then r.done stat else stat) _ _
    rw [if_pos hok]
    exact hasCard_toPort hcard.giveMutex d hd.2
  · refine fun d hd ↦ ⟨hd.1, ?_⟩
    show HasCard card idle (if ret = .ok then r.done stat else stat) _ _
    rw [if_neg hfail]
    exact hasCard_toPort hcard.giveMutex d hd.2

/-- A request without memory or mutex changes neither card nor register. -/
theorem LockRequest.run_not_served :
    Triple (fun d ↦ HasCard card idle stat c d ∧ ¬ Served port mutex d.card) (r.run port mutex)
      fun ret d ↦ ret ≠ .ok ∧ HasCard card idle stat c d := by
  refine .ite (fun _ ↦ .pure fun d hd ↦ ⟨nofun, hd.1⟩) fun hmutex ↦ ?_
  refine .bind (Q := fun taken d ↦ HasCard card idle stat c d ∧
      (taken = true → (port.calloc d.card).1 = false)) (fun d hd ↦
    ⟨hasCard_onPort hcard.takeMutex d hd.1, fun htaken ↦ ?_⟩) fun taken ↦
    .ite (fun htaken ↦ ?_) fun _ ↦ .pure fun d hd ↦ ⟨nofun, hd.1⟩
  · exact Bool.eq_false_of_not_eq_true fun hcalloc ↦ hd.2 ⟨by simpa using hmutex, htaken, hcalloc⟩
  refine .bind (Q := fun ret d ↦ ret ≠ .ok ∧ HasCard card idle stat c d)
    (fun d hd ↦ sdDoLockUnlockLocked_noMem hcard d ⟨hd.1, hd.2 htaken⟩) fun ret ↦
    .ite (fun hok d hd ↦ absurd hok hd.1) fun _ d hd ↦ ?_
  exact ⟨hd.1, hasCard_toPort hcard.giveMutex d hd.2⟩

end Calls

/-! ### The flag and the lock -/

section Mirrors

variable {κ : Type} (port : SdPort κ) (mutex : Bool) (card : κ → LockCard) {idle : κ → Prop}

/-- `STA_PROTECT` is set if and only if the card is locked. -/
def Mirrors (d : SdDriver κ) : Prop := d.stat.isProtected = true ↔ (card d.card).locked = true

namespace PasswordCall

/-- After the call the flag follows the card, and the call returns `ESP_OK` if and only if the card
has carried out the operation. -/
def Right (call : PasswordCall) (d : SdDriver κ) : Prop :=
  Mirrors card (call.run port mutex d).2 ∧
    (card (call.run port mutex d).2.card).performed =
      if (call.run port mutex d).1 = .ok then call.request.block :: (card d.card).performed
      else (card d.card).performed

/-- `sd_spi_clear_password` with the right password, while the card is locked. -/
def ClearsLocked (call : PasswordCall) (d : SdDriver κ) : Prop :=
  (∃ pdrv password pwdLen, call = .clearPassword pdrv password pwdLen) ∧
    call.Accepted ∧ Served port mutex d.card ∧ (card d.card).locked = true ∧
      (card d.card).password = some (lockData call.request.block)

/-- Something holds of each call of a sequence and the state it is made in. -/
def Each (P : PasswordCall → SdDriver κ → Prop) : List PasswordCall → SdDriver κ → Prop
  | [], _ => True
  | call :: calls, d => P call d ∧ Each P calls (call.run port mutex d).2

end PasswordCall

variable {port mutex card} {call : PasswordCall} {d : SdDriver κ}

/-- The flag that a call leaves, when the card has done what it was asked for. -/
theorem done_mirrors {c c' : LockCard} {stat : DStatus}
    (h : c.operation call.request.block = some c')
    (hmirrors : stat.isProtected = true ↔ c.locked = true) :
    ((call.request.done stat).isProtected = true ↔ c'.locked = true) ↔
      ¬ ((∃ pdrv password pwdLen, call = .clearPassword pdrv password pwdLen) ∧
        c.locked = true) := by
  rw [LockCard.operation, LockRequest.block_control] at h
  cases call with
  | unlock pdrv password pwdLen =>
    simp [PasswordCall.request, LockCard.operate_unlock h]
  | lock pdrv password pwdLen =>
    simp [PasswordCall.request, LockCard.operate_lock h]
  | setPassword pdrv oldPwd oldLen newPwd newLen =>
    simp [PasswordCall.request, LockCard.operate_setPwd h, hmirrors]
  | clearPassword pdrv password pwdLen =>
    simp [PasswordCall.request, (LockCard.operate_clrPwd h).2, ← hmirrors]
  | forceErase pdrv =>
    simp [PasswordCall.request, LockCard.operate_erase h]

variable (hcard : port.PasswordCard card idle)

include hcard

/-- **One call.** The port is idle again afterwards. -/
theorem PasswordCall.right_iff (hidle : idle d.card) (hinit : d.stat.noInit = false)
    (hmirrors : Mirrors card d) :
    (idle (call.run port mutex d).2.card ∧ (call.run port mutex d).2.stat.noInit = false) ∧
      (call.Right port mutex card d ↔ ¬ call.ClearsLocked port mutex card d) := by
  by_cases hacc : call.Accepted
  swap
  · -- the arguments are refused
    rw [Right, run_of_not_accepted hacc]
    exact ⟨⟨hidle, hinit⟩, fun _ h ↦ hacc h.2.1, fun _ ↦ ⟨hmirrors, rfl⟩⟩
  rw [Right, run_of_accepted hacc]
  by_cases hserved : Served port mutex d.card
  swap
  · -- the card is not reached
    obtain ⟨hret, hstat, hcard', hidle'⟩ := LockRequest.run_not_served (r := call.request) hcard d
      ⟨⟨rfl, rfl, hidle⟩, hserved⟩
    rw [Mirrors, hstat, hcard', if_neg hret]
    exact ⟨⟨hidle', hinit⟩, fun _ h ↦ hserved h.2.2.1, fun _ ↦ ⟨hmirrors, rfl⟩⟩
  obtain ⟨hok, hstat, hcard', hidle'⟩ := LockRequest.run_served (r := call.request) hcard hinit
    (request_len hacc) d ⟨⟨rfl, rfl, hidle⟩, hserved⟩
  rw [LockCard.cmd42_failed, Option.isNone_eq_false_iff] at hok
  rw [Mirrors, hstat, hcard', LockCard.cmd42_locked, LockCard.cmd42_performed]
  cases hop : (card d.card).operation call.request.block with
  | none =>
    -- the card refuses
    have hret : ¬ (call.request.run port mutex d).1 = .ok := by simp [hok, hop]
    rw [if_neg hret, if_neg hret]
    refine ⟨⟨hidle', hinit⟩, fun _ hclears ↦ ?_, fun _ ↦ ⟨hmirrors, rfl⟩⟩
    obtain ⟨⟨pdrv, password, pwdLen, hcall⟩, -, -, -, hpassword⟩ := hclears
    have hsome := LockCard.operate_clrPwd_eq hpassword
    subst hcall
    rw [show (card d.card).operate sdLockClrPwd _ = _ from hop] at hsome
    cases hsome
  | some c' =>
    have hret : (call.request.run port mutex d).1 = .ok := by simp [hok, hop]
    rw [if_pos hret, if_pos hret]
    refine ⟨⟨hidle', request_done_noInit.trans hinit⟩, ?_⟩
    refine (and_iff_left rfl).trans <| (done_mirrors hop hmirrors).trans <|
      not_congr ⟨fun hclears ↦ ?_, fun hclears ↦ ?_⟩
    · obtain ⟨⟨pdrv, password, pwdLen, rfl⟩, hlocked⟩ := hclears
      exact ⟨⟨pdrv, password, pwdLen, rfl⟩, hacc, hserved, hlocked,
        (LockCard.operate_clrPwd hop).1⟩
    · exact ⟨hclears.1, hclears.2.2.2.1⟩

/-- **`STA_PROTECT` follows the lock through a sequence of calls** if and only if none of them
clears the password of a locked card. -/
theorem protect_mirrors_lock (hidle : idle d.card) (hinit : d.stat.noInit = false)
    (hmirrors : Mirrors card d) (calls : List PasswordCall) :
    PasswordCall.Each port mutex (PasswordCall.Right port mutex card) calls d ↔
      PasswordCall.Each port mutex
        (fun call d ↦ ¬ call.ClearsLocked port mutex card d) calls d := by
  induction calls generalizing d with
  | nil => exact Iff.rfl
  | cons call calls ih =>
    obtain ⟨⟨hidle', hinit'⟩, hright⟩ :
        (idle (call.run port mutex d).2.card ∧ (call.run port mutex d).2.stat.noInit = false) ∧
          (call.Right port mutex card d ↔ ¬ call.ClearsLocked port mutex card d) :=
      PasswordCall.right_iff hcard hidle hinit hmirrors
    refine ⟨fun ⟨hcall, hcalls⟩ ↦ ⟨hright.1 hcall, (ih hidle' hinit' hcall.1).1 hcalls⟩, ?_⟩
    rintro ⟨hcall, hcalls⟩
    have hmirrors' : Mirrors card (call.run port mutex d).2 := (hright.2 hcall).1
    exact ⟨hright.2 hcall, (ih hidle' hinit' hmirrors').2 hcalls⟩

/-- **What the one call leaves behind**: a card without a password that is not locked, and a disk
that is still protected. -/
theorem PasswordCall.ClearsLocked.stale (hclears : call.ClearsLocked port mutex card d)
    (hidle : idle d.card) (hinit : d.stat.noInit = false) (hmirrors : Mirrors card d) :
    (call.run port mutex d).1 = .ok ∧ (call.run port mutex d).2.stat = d.stat ∧
      d.stat.isProtected = true ∧ (card (call.run port mutex d).2.card).locked = false ∧
        (card (call.run port mutex d).2.card).password = none := by
  obtain ⟨⟨pdrv, password, pwdLen, rfl⟩, hacc, hserved, hlocked, hpassword⟩ := hclears
  obtain ⟨hok, hstat, hcard', -⟩ := LockRequest.run_served
    (r := (PasswordCall.clearPassword pdrv password pwdLen).request) hcard hinit
    (request_len hacc) d ⟨⟨rfl, rfl, hidle⟩, hserved⟩
  have hop : (card d.card).operation (PasswordCall.clearPassword pdrv password pwdLen).request.block =
      some _ := LockCard.operate_clrPwd_eq hpassword
  rw [run_of_accepted hacc]
  rw [LockCard.cmd42_some hop] at hok hcard'
  rw [if_pos (hok.2 rfl)] at hstat
  rw [hcard', hstat]
  exact ⟨hok.2 rfl, rfl, hmirrors.2 hlocked, rfl, rfl⟩

end Mirrors

/-- A write to a disk that is protected is refused, and nothing is sent. -/
theorem ffSdSpiWrite_protected {κ : Type} {port : SdPort κ} {d : SdDriver κ}
    (hinit : d.stat.noInit = false) (hprotected : d.stat.isProtected = true) (buff : List UInt8)
    (sector : UInt32) (count : ℕ) :
    ffSdSpiWrite port 0 buff sector (count + 1) d = (.wrPrt, d) := by
  show (if d.stat.noInit then _ else _ : SdM κ DResult) d = _
  rw [hinit, hprotected]
  rfl

/-! ### The card on the bus meets the assumption -/

namespace LockableCard

/-- The card behind the bus. -/
def lockCard (b : Bus LockableCard) : LockCard := b.host.card

/-- No command is under way. -/
def BusIdle (b : Bus LockableCard) : Prop := b.host.Idle

/-- An idle bus, as the triples of the exchanges have it. -/
theorem on_of_busIdle {b : Bus LockableCard} (h : BusIdle b) : On (lockCard b) false .idle b := by
  obtain ⟨⟨card, selected, phase⟩, trace⟩ := b
  obtain ⟨rfl, rfl⟩ : selected = false ∧ phase = .idle := h
  rfl

/-- A card between its exchanges is as the port finds it between calls. -/
theorem busIdle_of_on {c : LockCard} {b : Bus LockableCard} (h : On c false .idle b) :
    lockCard b = c ∧ BusIdle b := by
  have hhost : b.host = ⟨c, false, .idle⟩ := h
  rw [lockCard, BusIdle, hhost]
  exact ⟨rfl, rfl, rfl⟩

end LockableCard

/-- `CMD13` over the protocol functions. -/
theorem afterStatus_port {κ : Type} (h : SpiHost κ) (opt : SdOptions) (b : Bus κ) :
    (h.port opt).afterStatus b = ((h.spiRwByte 0xFF (h.sendCmd cmd13 0 b).2).1,
      (h.deselect (h.spiRwByte 0xFF (h.sendCmd cmd13 0 b).2).2).2) := rfl

open LockableCard

/-- **The protocol functions of the driver, over the card that works byte by byte**, are a port with
a card behind it. -/
theorem lockableHost_passwordCard (opt : SdOptions) :
    (lockableHost.port opt).PasswordCard lockCard BusIdle where
  takeMutex _ hidle := ⟨rfl, hidle⟩
  giveMutex _ hidle := ⟨rfl, hidle⟩
  calloc _ hidle := ⟨rfl, hidle⟩
  lock block b hidle hlen := by
    obtain ⟨hres, hcmd⟩ := sendCmd_lock b (on_of_busIdle hidle)
    obtain ⟨hsent, hblock⟩ := xmitDatablock_lock hlen _ hcmd
    have hready := (waitReady_lock _ hblock).2
    have hdone : On ((lockCard b).cmd42 block) false .idle
        ((lockableHost.port opt).afterLock block b) := deselect_on _ hready
    exact ⟨hres, hsent, busIdle_of_on hdone⟩
  status b hidle := by
    obtain ⟨hres, hcmd⟩ := sendCmd_status b (on_of_busIdle hidle)
    obtain ⟨hr2, hread⟩ := readStatus_on _ hcmd
    rw [afterStatus_port]
    dsimp only
    rw [hr2]
    refine ⟨?_, status_failed, busIdle_of_on (deselect_on _ hread)⟩
    show (lockableHost.sendCmd cmd13 0 b).1 ≤ 1
    rw [hres]
    decide

/-- The port. -/
def lockablePort : SdPort (Bus LockableCard) := lockableHost.port ⟨10, false⟩

/-- The card behind the driver's own primitives is one with a password. -/
theorem lockablePort_passwordCard : lockablePort.PasswordCard lockCard BusIdle :=
  lockableHost_passwordCard ⟨10, false⟩

/-- A driver with a card that has a password of one byte. -/
def lockedDriver (locked : Bool) : SdDriver (Bus LockableCard) :=
  ⟨⟨false, locked⟩, ctSd2, ⟨⟨⟨some [1], locked, fun _ ↦ rfl, false, []⟩, false, .idle⟩, []⟩⟩

theorem lockedDriver_idle (locked : Bool) : BusIdle (lockedDriver locked).card := ⟨rfl, rfl⟩

theorem lockedDriver_mirrors (locked : Bool) : Mirrors lockCard (lockedDriver locked) := Iff.rfl

/-- The password of a locked card is cleared: the card is unlocked, `STA_PROTECT` stays, and a write
is refused. -/
theorem cleared_card_refused :
    ¬ PasswordCall.Each lockablePort true (PasswordCall.Right lockablePort true lockCard)
        [.clearPassword 0 (some [1]) 1] (lockedDriver true) ∧
      (let out := sdSpiClearPassword lockablePort true 0 (some [1]) 1 (lockedDriver true)
       out.1 = .ok ∧ (lockCard out.2.card).locked = false ∧ (lockCard out.2.card).password = none ∧
        (ffSdSpiWrite lockablePort 0 [] 0 1 out.2).1 = .wrPrt) := by
  have haccepted : (PasswordCall.clearPassword 0 (some [1]) 1).Accepted := by
    simp [PasswordCall.Accepted]
  have hclears : (PasswordCall.clearPassword 0 (some [1]) 1).ClearsLocked lockablePort true lockCard
      (lockedDriver true) :=
    ⟨⟨0, some [1], 1, rfl⟩, haccepted, ⟨rfl, rfl, rfl⟩, rfl, by decide⟩
  obtain ⟨hok, hstat, hprotected, hlocked, hpassword⟩ := hclears.stale
    lockablePort_passwordCard (lockedDriver_idle true) rfl (lockedDriver_mirrors true)
  refine ⟨fun heach ↦ ?_, ?_⟩
  · obtain ⟨⟨hmirrors, -⟩, -⟩ := heach
    rw [Mirrors, hstat, hlocked] at hmirrors
    exact Bool.false_ne_true (hmirrors.1 hprotected)
  · have hrun : sdSpiClearPassword lockablePort true 0 (some [1]) 1 =
        (PasswordCall.clearPassword 0 (some [1]) 1).run lockablePort true := rfl
    rw [hrun]
    generalize (PasswordCall.clearPassword 0 (some [1]) 1).run lockablePort true
      (lockedDriver true) = out at *
    exact ⟨hok, hlocked, hpassword, congrArg Prod.fst (ffSdSpiWrite_protected
      (congrArg DStatus.noInit hstat)
      ((congrArg DStatus.isProtected hstat).trans hprotected) [] 0 0)⟩

/-- The card is locked and unlocked again. -/
theorem protect_mirrors_lock_twice :
    PasswordCall.Each lockablePort true (PasswordCall.Right lockablePort true lockCard)
      [.lock 0 (some [1]) 1, .unlock 0 (some [1]) 1] (lockedDriver false) := by
  refine (protect_mirrors_lock lockablePort_passwordCard (lockedDriver_idle false) rfl
    (lockedDriver_mirrors false) _).2 ⟨?_, ?_, trivial⟩
  · rintro ⟨⟨pdrv, password, pwdLen, hcall⟩, -⟩
    cases hcall
  · rintro ⟨⟨pdrv, password, pwdLen, hcall⟩, -⟩
    cases hcall
