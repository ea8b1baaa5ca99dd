import SmartAp.SdCard.CardLock
import SmartAp.SdCard.Stable
import SmartAp.Program.Access

/-!
# The block of `CMD42`

`sd_do_lock_unlock_locked` builds the block in place, store by store: `lockProgram` is these stores,
and `lockProgram_stays` says that they stay inside the 512 bytes and leave the block that the driver
sends (`LockRequest.block`). The program is one of `SmartAp.Program.Access`, in which each store is
checked where it is made.

## What a block says

`EncodedBy` says what the block has to be, given without the code: 512 bytes, the bits of the
operation, the sum of the lengths, and then the passwords of the caller one behind the other, the
old one first, and zeros. It says as well that they can be read back from the block, by a card that
knows the length of its own password. A password that is not given is the empty one.

The length byte is the sum of the lengths and the copies look at the pointers as well, so that the
two disagree for one kind of call, `sd_spi_set_password` with no old password and a length for it
(`NullWithLength`). `lock_payload_iff`: for every other call the block gives the caller's passwords
back, and for this kind it does not. The card then takes a password that ends with zeros, of a
length that the caller never gave (`null_old_password_wrong`).
-/

open BufferProgram

/-! ### The stores -/

/-- A password that is copied. -/
def placedPassword (pwd : Option (List UInt8)) (len : UInt8) : List UInt8 :=
  (pwd.getD []).take len.toNat

/-- `if (len && pwd) { memcpy(p, pwd, len); p += len; }`, with `p` afterwards. -/
def copyPassword (p : ℕ) (pwd : Option (List UInt8)) (len : UInt8) : BufferProgram UInt8 ℕ :=
  match pwd with
  | some bytes =>
    if len ≠ 0 then do
      copy p (bytes.take len.toNat)
      return p + len.toNat
    else return p
  | none => return p

/-- The stores to the block. -/
def lockProgram (r : LockRequest) : BufferProgram UInt8 Unit := do
  put 0 r.control
  put 1 (r.len1 + r.len2)
  let p ← copyPassword 2 r.pwd1 r.len1
  let _ ← copyPassword p r.pwd2 r.len2

/-- What `calloc(512, 1)` returns. -/
def zeroBlock : List UInt8 := List.replicate 512 0

/-- There are as many bytes at the pointers as the lengths say. -/
structure LockRequest.Readable (r : LockRequest) : Prop where
  pwd1 : ∀ bytes, r.pwd1 = some bytes → r.len1.toNat ≤ bytes.length
  pwd2 : ∀ bytes, r.pwd2 = some bytes → r.len2.toNat ≤ bytes.length

section Stores

variable {pwd : Option (List UInt8)} {len : UInt8}

theorem length_placedPassword (hreadable : ∀ bytes, pwd = some bytes → len.toNat ≤ bytes.length) :
    (placedPassword pwd len).length = if pwd = none then 0 else len.toNat := by
  cases pwd with
  | none => simp [placedPassword]
  | some bytes => simpa [placedPassword] using hreadable bytes rfl

theorem length_placedPassword_le : (placedPassword pwd len).length ≤ len.toNat :=
  List.length_take_le _ _

/-- A password is copied into the zeros, and `p` is behind it. -/
theorem copyPassword_stays (pre : List UInt8) (n : ℕ) (known : Set ℕ)
    (hreadable : ∀ bytes, pwd = some bytes → len.toNat ≤ bytes.length)
    (hroom : len.toNat ≤ n) (hsize : pre.length + n ≤ 512) :
    (copyPassword pre.length pwd len).Stays 512 ⟨pre ++ List.replicate n 0, known, []⟩ fun p s' ↦
      p = (pre ++ placedPassword pwd len).length ∧ s'.buffer = pre ++ placedPassword pwd len ++
        List.replicate (n - (placedPassword pwd len).length) 0 ∧ s'.sent = [] := by
  have hnothing (hplaced : placedPassword pwd len = []) : pre.length =
      (pre ++ placedPassword pwd len).length ∧ pre ++ List.replicate n 0 =
        pre ++ placedPassword pwd len ++
          List.replicate (n - (placedPassword pwd len).length) 0 ∧
            ([] : List (List UInt8)) = [] := by
    rw [hplaced]
    simp
  cases pwd with
  | none => exact hnothing List.take_nil
  | some bytes =>
    rw [copyPassword]
    by_cases hlen : len = 0
    · subst hlen
      rw [if_neg (not_not.2 rfl)]
      exact hnothing (List.take_zero)
    · rw [if_pos hlen]
      have hlength : (placedPassword (some bytes) len).length = len.toNat :=
        length_placedPassword hreadable
      have hzeros : List.replicate n (0 : UInt8) =
          List.replicate len.toNat 0 ++ List.replicate (n - len.toNat) 0 := by
        rw [List.replicate_append_replicate, Nat.add_sub_cancel' hroom]
      have hcopy : (copy pre.length (placedPassword (some bytes) len)).Stays 512
          ⟨pre ++ List.replicate len.toNat 0 ++ List.replicate (n - len.toNat) 0, known, []⟩ _ :=
        stays_copy pre _ _ _ (by rw [List.length_replicate, hlength]) (by omega)
      rw [List.append_assoc, ← hzeros] at hcopy
      refine stays_bind.2 (hcopy.mono fun _ s' h ↦ ⟨?_, ?_, h.2.1⟩)
      · rw [List.length_append, hlength]
      · rw [h.1, hlength]

/-- **The stores stay inside the 512 bytes**, and leave the block that is sent. -/
theorem lockProgram_stays {r : LockRequest} (hreadable : r.Readable)
    (hlen : ¬ (r.len1 > 16 ∨ r.len2 > 16)) :
    (lockProgram r).Stays 512 ⟨zeroBlock, ∅, []⟩ fun _ s' ↦ s'.buffer = r.block := by
  have hlen1 : r.len1.toNat ≤ 16 := UInt8.not_lt.1 fun h ↦ hlen (.inl h)
  have hlen2 : r.len2.toNat ≤ 16 := UInt8.not_lt.1 fun h ↦ hlen (.inr h)
  have hplaced1 : (placedPassword r.pwd1 r.len1).length ≤ r.len1.toNat := length_placedPassword_le
  have hzeros : (zeroBlock.set 0 r.control).set 1 (r.len1 + r.len2) =
      [r.control, r.len1 + r.len2] ++ List.replicate 510 0 := rfl
  refine ⟨by decide, by decide, ?_⟩
  rw [hzeros]
  show (copyPassword 2 r.pwd1 r.len1 >>= _).Stays 512 ⟨_, _, []⟩ _
  have hfirst := copyPassword_stays [r.control, r.len1 + r.len2] 510 (insert 1 (insert 0 ∅))
    hreadable.pwd1 (by omega) (le_refl 512)
  refine stays_bind.2 (hfirst.mono fun p s h ↦ ?_)
  obtain ⟨rfl, hbuffer, hsent⟩ := h
  obtain ⟨buffer, known, sent⟩ := s
  obtain rfl : buffer = _ := hbuffer
  obtain rfl : sent = [] := hsent
  refine stays_bind.2 ((copyPassword_stays _ _ _ hreadable.pwd2 (by omega) ?_).mono
    fun p s h ↦ ?_)
  · rw [List.length_append]
    show 2 + _ + _ ≤ 512
    omega
  · show s.buffer = r.block
    rw [h.2.1, LockRequest.block, lockBlock]
    show _ = [r.control, r.len1 + r.len2] ++
      (placedPassword r.pwd1 r.len1 ++ placedPassword r.pwd2 r.len2) ++ _
    rw [List.append_assoc [r.control, r.len1 + r.len2]]
    congr 2
    simp only [List.length_cons, List.length_append]
    have hleft : ∀ a b : ℕ, 510 - a - b = 512 - (a + b + 1 + 1) := fun a b ↦ by omega
    exact hleft (placedPassword r.pwd1 r.len1).length (placedPassword r.pwd2 r.len2).length

end Stores

/-! ### What the block says -/

namespace PasswordCall

/-- The bits of the operation in the control byte. -/
def controlBits : PasswordCall → UInt8
  | unlock .. => 0x00
  | setPassword .. => 0x01
  | clearPassword .. => 0x02
  | lock .. => 0x04
  | forceErase .. => 0x08

/-- The passwords of the caller: that of the card, and the new one. -/
def passwords : PasswordCall → List UInt8 × List UInt8
  | unlock _ password pwdLen | lock _ password pwdLen | clearPassword _ password pwdLen =>
    (placedPassword password pwdLen, [])
  | setPassword _ oldPwd oldLen newPwd newLen =>
    (placedPassword oldPwd oldLen, placedPassword newPwd newLen)
  | forceErase _ => ([], [])

/-- No old password, and a length for it. -/
def NullWithLength : PasswordCall → Prop
  | setPassword _ oldPwd oldLen _ _ => oldPwd = none ∧ oldLen ≠ 0
  | _ => False

/-- The block says what the caller asks for, and can be decoded. -/
structure EncodedBy (call : PasswordCall) (block : List UInt8) : Prop where
  length : block.length = 512
  control : block.getD 0 0 = call.controlBits
  count : (block.getD 1 0).toNat = call.passwords.1.length + call.passwords.2.length
  body : block.drop 2 = call.passwords.1 ++ call.passwords.2 ++
    List.replicate (510 - (call.passwords.1.length + call.passwords.2.length)) 0
  decoded : lockData block = call.passwords.1 ++ call.passwords.2
  split : (lockData block).splitAt call.passwords.1.length = call.passwords

variable {call : PasswordCall}

theorem request_control (call : PasswordCall) : call.request.control = call.controlBits := by
  cases call <;> rfl

theorem passwords_eq (call : PasswordCall) :
    call.passwords = (placedPassword call.request.pwd1 call.request.len1,
      placedPassword call.request.pwd2 call.request.len2) := by
  cases call <;> rfl

theorem block_eq (call : PasswordCall) : call.request.block =
    [call.controlBits, call.request.len1 + call.request.len2] ++
      (call.passwords.1 ++ call.passwords.2 ++
        List.replicate (510 - (call.passwords.1.length + call.passwords.2.length)) 0) := by
  rw [passwords_eq, ← request_control, LockRequest.block, lockBlock]
  show [call.request.control, call.request.len1 + call.request.len2] ++ _ ++ _ = _
  rw [List.append_assoc]
  simp only [List.length_cons, List.length_append, Nat.reduceSubDiff]
  rfl

/-- Two lengths of at most 16 do not wrap. -/
theorem toNat_len_add (h : call.Accepted) : (call.request.len1 + call.request.len2).toNat =
    call.request.len1.toNat + call.request.len2.toNat := by
  have hlen := request_len h
  have hlen1 : call.request.len1.toNat ≤ 16 := UInt8.not_lt.1 fun h ↦ hlen (.inl h)
  have hlen2 : call.request.len2.toNat ≤ 16 := UInt8.not_lt.1 fun h ↦ hlen (.inr h)
  rw [UInt8.toNat_add]
  omega

/-- Except in the one kind of call, as much is placed as the lengths say. -/
theorem length_passwords_iff (h : call.Accepted) (hreadable : call.request.Readable) :
    call.request.len1.toNat + call.request.len2.toNat =
      call.passwords.1.length + call.passwords.2.length ↔ ¬ call.NullWithLength := by
  rw [passwords_eq, length_placedPassword hreadable.pwd1, length_placedPassword hreadable.pwd2]
  cases call with
  | setPassword pdrv oldPwd oldLen newPwd newLen =>
    have hnew : newPwd ≠ none := fun hnone ↦ h.1 (.inr (.inl hnone))
    show oldLen.toNat + newLen.toNat = (if oldPwd = none then 0 else oldLen.toNat) +
      (if newPwd = none then 0 else newLen.toNat) ↔ ¬ (oldPwd = none ∧ oldLen ≠ 0)
    have hzero : oldLen ≠ 0 ↔ oldLen.toNat ≠ 0 := not_congr UInt8.toNat_inj.symm
    rw [if_neg hnew, hzero]
    split <;> rename_i hold <;> simp [hold]
  | forceErase pdrv => exact iff_of_true rfl id
  | unlock pdrv password pwdLen | lock pdrv password pwdLen | clearPassword pdrv password pwdLen =>
    have hpwd : password ≠ none := fun hnone ↦ h (.inr (.inl hnone))
    refine iff_of_true ?_ id
    show pwdLen.toNat + 0 = (if password = none then 0 else pwdLen.toNat) + 0
    rw [if_neg hpwd]

/-- **The block encodes the call** except for that kind. -/
theorem encodedBy_block_iff (h : call.Accepted) (hreadable : call.request.Readable) :
    call.EncodedBy call.request.block ↔ ¬ call.NullWithLength := by
  have hcount : (call.request.block.getD 1 0).toNat =
      call.request.len1.toNat + call.request.len2.toNat := by
    rw [block_eq]
    exact toNat_len_add h
  rw [← length_passwords_iff h hreadable]
  refine ⟨fun hencoded ↦ hcount.symm.trans hencoded.count, fun hlength ↦ ?_⟩
  have hbody : call.request.block.drop 2 = call.passwords.1 ++ call.passwords.2 ++
      List.replicate (510 - (call.passwords.1.length + call.passwords.2.length)) 0 := by
    rw [block_eq]
    rfl
  have hdecoded : lockData call.request.block = call.passwords.1 ++ call.passwords.2 := by
    rw [lockData, hbody, hcount, hlength, ← List.length_append, List.take_left]
  refine ⟨?_, ?_, hcount.trans hlength, hbody, hdecoded, ?_⟩
  · have hsmall := request_len h
    have hlen1 : call.request.len1.toNat ≤ 16 := UInt8.not_lt.1 fun h ↦ hsmall (.inl h)
    have hlen2 : call.request.len2.toNat ≤ 16 := UInt8.not_lt.1 fun h ↦ hsmall (.inr h)
    rw [block_eq]
    simp only [List.length_append, List.length_cons, List.length_nil, List.length_replicate]
    omega
  · rw [block_eq]
    rfl
  · rw [hdecoded, List.splitAt_eq, List.take_left, List.drop_left]

end PasswordCall

/-! ### The block that is handed over -/

section Handed

variable {κ : Type} {port : SdPort κ} {allowed : SdSent → Prop}

theorem onlySends_lockRequest {r : LockRequest} {mutex : Bool} (h42 : allowed (.command cmd42 0))
    (h13 : allowed (.command cmd13 0)) (hblock : allowed (.block r.block 0xFE)) :
    Keeps (OnlySends allowed) (r.run port.recorded mutex) := by
  refine .ite (.pure _) <| .bind onlySends_lift fun _ ↦ .ite ?_ (.pure _)
  refine .bind (stable_sdDoLockUnlockLocked (stableAll_onlySends port allowed) h42 h13 hblock)
    fun ret ↦ ?_
  have hgive : Keeps (OnlySends allowed) (do
      toPort port.recorded.giveMutex
      return ret) := .bind (onlySends_toPort fun _ ↦ rfl) fun _ ↦ .pure _
  exact .ite (.bind (.modify fun _ hd ↦ hd) fun _ ↦ hgive) hgive

/-- A block that is handed over is the one of an accepted call. -/
theorem handed_block {mutex : Bool} {call : PasswordCall} {d : SdDriver (Recorded κ)}
    {block : List UInt8} {token : UInt8} (hnone : d.card.sent = [])
    (hmem : .block block token ∈ (call.run port.recorded mutex d).2.card.sent) :
    call.Accepted ∧ block = call.request.block := by
  by_cases haccepted : call.Accepted
  · rw [PasswordCall.run_of_accepted haccepted] at hmem
    have honly : OnlySends (fun x ↦ ∀ b t, x = .block b t → b = call.request.block)
        (call.request.run port.recorded mutex d).2 := by
      refine onlySends_lockRequest nofun nofun (fun b t hb ↦ ?_) d (onlySends_nothing hnone)
      cases hb
      rfl
    exact ⟨haccepted, honly _ hmem block token rfl⟩
  · rw [PasswordCall.run_of_not_accepted haccepted] at hmem
    have hmem' : SdSent.block block token ∈ d.card.sent := hmem
    rw [hnone] at hmem'
    cases hmem'

/-- **The block of `CMD42`.** It is written inside its 512 bytes, and it encodes the passwords of
the caller, if and only if a length is not given for an old password that is `NULL`. -/
theorem lock_payload_iff (port : SdPort κ) (mutex : Bool) (call : PasswordCall)
    (d : SdDriver (Recorded κ)) {block : List UInt8} {token : UInt8}
    (hreadable : call.request.Readable) (hnone : d.card.sent = [])
    (hmem : .block block token ∈ (call.run port.recorded mutex d).2.card.sent) :
    (call.EncodedBy block ↔ ¬ call.NullWithLength) ∧
      ((lockProgram call.request).run zeroBlock).buffer = block ∧
      Confined 512 ∅ ((lockProgram call.request).run zeroBlock).accesses := by
  obtain ⟨haccepted, rfl⟩ := handed_block hnone hmem
  obtain ⟨hconfined, _, hbuffer⟩ :=
    (lockProgram_stays hreadable (PasswordCall.request_len haccepted)).confined
  exact ⟨PasswordCall.encodedBy_block_iff haccepted hreadable, hbuffer, hconfined⟩

end Handed

/-- An initialised card that answers `CMD42` with 0, and a driver with an empty record. -/
def answeringDriver : SdDriver (Recorded (Bus (List UInt8))) :=
  ⟨⟨false, false⟩, ctSd2, ⟨List.replicate 9 0xFF ++ [0x00], []⟩, []⟩

/-- A password is replaced: the block has both. -/
theorem lock_payload_iff_first : ∃ block,
    (PasswordCall.setPassword 0 (some [9, 8, 7]) 3 (some [1, 2, 3, 4]) 4).EncodedBy block ∧
      lockData block = [9, 8, 7, 1, 2, 3, 4] := by
  have hmem : SdSent.block
      (PasswordCall.setPassword 0 (some [9, 8, 7]) 3 (some [1, 2, 3, 4]) 4).request.block 0xFE ∈
        ((PasswordCall.setPassword 0 (some [9, 8, 7]) 3 (some [1, 2, 3, 4]) 4).run
          (scriptHost.port ⟨1, false⟩).recorded true answeringDriver).2.card.sent := by
    decide +kernel
  have hencoded := (lock_payload_iff _ true _ answeringDriver ⟨?_, ?_⟩ rfl hmem).1.2 ?_
  · exact ⟨_, hencoded, hencoded.decoded⟩
  · rintro bytes hbytes
    cases hbytes
    decide
  · rintro bytes hbytes
    cases hbytes
    decide
  · exact fun h ↦ nomatch h.1

/-- With a length of 4 and no old password the card is told a password of 8 bytes. -/
theorem null_old_password_wrong :
    .block (PasswordCall.setPassword 0 none 4 (some [1, 2, 3, 4]) 4).request.block 0xFE ∈
        ((PasswordCall.setPassword 0 none 4 (some [1, 2, 3, 4]) 4).run
          (scriptHost.port ⟨1, false⟩).recorded true answeringDriver).2.card.sent ∧
      lockData (PasswordCall.setPassword 0 none 4 (some [1, 2, 3, 4]) 4).request.block =
        [1, 2, 3, 4, 0, 0, 0, 0] ∧
      ¬ (PasswordCall.setPassword 0 none 4 (some [1, 2, 3, 4]) 4).EncodedBy
        (PasswordCall.setPassword 0 none 4 (some [1, 2, 3, 4]) 4).request.block := by
  refine ⟨by decide +kernel, by decide +kernel, fun hencoded ↦ ?_⟩
  exact absurd hencoded.count (by decide +kernel)
