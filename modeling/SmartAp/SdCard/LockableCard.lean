import SmartAp.SdCard.Bus
import Mathlib.Data.List.Infix

/-!
# A card with a password

The card of the SD specification as far as `CMD42` goes, twice: as what a block of `CMD42` does to
its password and its lock (`LockCard`), and as a device on the bus that takes a byte and gives one
(`LockableCard`). The driver is not part of this module.

## The card on the bus

`LockableCard.exchange` is one exchange of a byte, and `LockableCard.select` a change of the chip
select line. A command is six bytes, the first with the start bits `01`; its answer comes one byte
later, and what follows an answer is another command or, after `CMD42`, the token `0xFE` and a block
of 512 bytes with its checksum. While the card carries out the block it is busy. Two things of the
specification are there because the driver has to cope with them: the byte before the answer
(`send_cmd` polls for it) and the busy byte after the block. Checksums are not tested, as in a card
on which `CMD59` has not switched them on, and the commands other than `CMD42` and `CMD13` are
refused as illegal.

The card lives in `phase`; deselecting it from any phase leaves it waiting for a command. So between
the calls of the driver it is `Idle`, and the triples of the last section say what each of the
driver's exchanges does to an idle card: `sendCmd_lock`, `xmitDatablock_lock` and what comes after
make up `CMD42`, and `sendCmd_status` is `CMD13`. They hold of every block of 512 bytes, so that the
card needs no particular password or call to be met.
-/

/-! ### The card -/

/-- The state of a card, as far as `CMD42` goes. -/
@[ext]
structure LockCard where
  password : Option (List UInt8)
  locked : Bool
  /-- Only a card with a password is locked. -/
  locked_password : locked = true → password.isSome = true
  /-- `LOCK_UNLOCK_FAILED` -/
  failed : Bool
  /-- The blocks that were carried out, the last one first. -/
  performed : List (List UInt8)

/-- The passwords in a block of `CMD42`: the second byte gives their length. -/
def lockData (block : List UInt8) : List UInt8 := (block.drop 2).take (block.getD 1 0).toNat

namespace LockCard

variable (c : LockCard)

/-- The new password in the data of `SET_PWD`. It follows the old one. -/
def newPassword (data : List UInt8) : Option (List UInt8) :=
  let old := c.password.getD []
  if old <+: data ∧ old.length < data.length ∧ data.length ≤ old.length + 16 then
    some (data.drop old.length)
  else none

/-- What a control byte asks for, if the card does it. -/
def operate (control : UInt8) (data : List UInt8) : Option LockCard :=
  if control = 0x00 then
    if c.password = some data then some { c with locked := false, locked_password := nofun }
    else none
  else if control = sdLockLock then
    if h : c.password = some data then
      some { c with locked := true, locked_password := fun _ ↦ by rw [h]; rfl }
    else none
  else if control = sdLockSetPwd then
    (c.newPassword data).map fun new ↦ { c with password := some new, locked_password _ := rfl }
  else if control = sdLockClrPwd then
    if c.password = some data then
      some { c with password := none, locked := false, locked_password := nofun }
    else none
  else if control = sdLockErase then
    if c.locked then some { c with password := none, locked := false, locked_password := nofun }
    else none
  else none

/-- The operation of a block. -/
def operation (block : List UInt8) : Option LockCard :=
  c.operate (block.getD 0 0) (lockData block)

/-- The card after the block of a `CMD42`. -/
def cmd42 (block : List UInt8) : LockCard :=
  match c.operation block with
  | some c' => { c' with failed := false, performed := block :: c.performed }
  | none => { c with failed := true }

variable {c}

theorem cmd42_some {block : List UInt8} {c' : LockCard} (h : c.operation block = some c') :
    c.cmd42 block = { c' with failed := false, performed := block :: c.performed } := by
  rw [cmd42, h]

theorem cmd42_none {block : List UInt8} (h : c.operation block = none) :
    c.cmd42 block = { c with failed := true } := by
  rw [cmd42, h]

/-- The status tells whether the block was carried out. -/
theorem cmd42_failed (block : List UInt8) :
    (c.cmd42 block).failed = (c.operation block).isNone := by
  cases h : c.operation block with
  | some c' => rw [cmd42_some h]; rfl
  | none => rw [cmd42_none h]; rfl

theorem cmd42_performed (block : List UInt8) :
    (c.cmd42 block).performed =
      if (c.operation block).isSome then block :: c.performed else c.performed := by
  cases h : c.operation block with
  | some c' => rw [cmd42_some h]; rfl
  | none => rw [cmd42_none h]; rfl

theorem cmd42_locked (block : List UInt8) :
    (c.cmd42 block).locked = ((c.operation block).getD c).locked := by
  cases h : c.operation block with
  | some c' => rw [cmd42_some h]; rfl
  | none => rw [cmd42_none h]; rfl

variable {data : List UInt8} {c' : LockCard}

theorem operate_unlock (h : c.operate 0x00 data = some c') : c'.locked = false := by
  rw [operate, if_pos rfl] at h
  split at h
  · obtain rfl := Option.some.inj h
    rfl
  · cases h

theorem operate_lock (h : c.operate sdLockLock data = some c') : c'.locked = true := by
  rw [operate, if_neg (by decide), if_pos rfl] at h
  split at h
  · obtain rfl := Option.some.inj h
    rfl
  · cases h

theorem operate_setPwd (h : c.operate sdLockSetPwd data = some c') : c'.locked = c.locked := by
  rw [operate, if_neg (by decide), if_neg (by decide), if_pos rfl] at h
  obtain ⟨new, -, rfl⟩ := Option.map_eq_some_iff.1 h
  rfl

theorem operate_clrPwd (h : c.operate sdLockClrPwd data = some c') :
    c.password = some data ∧ c'.locked = false := by
  rw [operate, if_neg (by decide), if_neg (by decide), if_neg (by decide), if_pos rfl] at h
  split at h
  · rename_i hpassword
    obtain rfl := Option.some.inj h
    exact ⟨hpassword, rfl⟩
  · cases h

/-- With the right password `CLR_PWD` is carried out. -/
theorem operate_clrPwd_eq (h : c.password = some data) : c.operate sdLockClrPwd data =
    some { c with password := none, locked := false, locked_password := nofun } := by
  rw [operate, if_neg (by decide), if_neg (by decide), if_neg (by decide), if_pos rfl, if_pos h]

theorem operate_erase (h : c.operate sdLockErase data = some c') : c'.locked = false := by
  rw [operate, if_neg (by decide), if_neg (by decide), if_neg (by decide), if_neg (by decide),
    if_pos rfl] at h
  split at h
  · obtain rfl := Option.some.inj h
    rfl
  · cases h

end LockCard

/-! ### The card on the bus -/

/-- What the card waits for or sends. -/
inductive LockCardPhase
  /-- It waits for a command. -/
  | idle
  /-- The first byte of a command, and the bytes after it. -/
  | command (first : UInt8) (rest : List UInt8)
  /-- Bytes to be sent, and what comes then. -/
  | answer (bytes : List UInt8) (next : LockCardPhase)
  /-- It waits for the token of a block. -/
  | awaitBlock
  | block (bytes : List UInt8)

/-- The card, and what it is about on the bus. -/
structure LockableCard where
  card : LockCard
  selected : Bool
  phase : LockCardPhase

namespace LockableCard

/-- The second byte of the answer to `CMD13`. -/
def status (c : LockCard) : UInt8 :=
  (if c.locked then 0x01 else 0x00) ||| if c.failed then 0x02 else 0x00

/-- The answer to a command, from its first byte. -/
def response (c : LockCard) (first : UInt8) : LockCardPhase :=
  if first = 0x40 ||| cmd42 then .answer [0xFF, 0x00] .awaitBlock
  else if first = 0x40 ||| cmd13 then .answer [0xFF, 0x00, status c] .idle
  else .answer [0xFF, 0x04] .idle

/-- A byte comes in and another one goes out. -/
def exchange (mosi : UInt8) (k : LockableCard) : UInt8 × LockableCard :=
  if !k.selected then (0xFF, k)
  else match k.phase with
    | .idle =>
      (0xFF, { k with phase := if mosi &&& 0xC0 = 0x40 then .command mosi [] else .idle })
    | .command first rest =>
      (0xFF, { k with phase :=
        if rest.length = 4 then response k.card first else .command first (rest ++ [mosi]) })
    | .answer [] next => (0xFF, { k with phase := next })
    | .answer (byte :: bytes) next => (byte, { k with phase := .answer bytes next })
    | .awaitBlock => (0xFF, { k with phase := if mosi = 0xFE then .block [] else .awaitBlock })
    | .block bytes =>
      (0xFF, if bytes.length = 513 then
        { k with card := k.card.cmd42 (bytes.take 512), phase := .answer [0xE5, 0x00] .idle }
      else { k with phase := .block (bytes ++ [mosi]) })

/-- The chip select line is set. -/
def select (level : Bool) (k : LockableCard) : LockableCard :=
  { k with selected := !level, phase := .idle }

/-- Not selected, and waiting for a command. -/
def Idle (k : LockableCard) : Prop := k.selected = false ∧ k.phase = .idle

end LockableCard

/-- A host with the card on its bus, on which nothing goes wrong. -/
def lockableHost : SpiHost LockableCard where
  takeMutex k := (true, k)
  giveMutex k := k
  delay k := k
  calloc k := (true, k)
  setSpeed _ k := k
  setLevel := LockableCard.select
  trans := LockableCard.exchange
  polls _ := 8

/-! ### The exchanges of the driver -/

namespace LockableCard

open SpiHost

variable {c : LockCard}

/-- The card with these is on the bus. -/
def On (c : LockCard) (selected : Bool) (phase : LockCardPhase) : Bus LockableCard → Prop :=
  HostAt ⟨c, selected, phase⟩

theorem deselect_on {selected : Bool} {phase : LockCardPhase} :
    Triple (On c selected phase) lockableHost.deselect fun _ ↦ On c false .idle :=
  lockableHost.deselect_hosted

theorem selectCard_on :
    Triple (On c false .idle) lockableHost.selectCard fun ok b ↦ ok = true ∧ On c true .idle b := by
  refine .bind (lockableHost.setCs_hosted false) fun _ ↦
    .bind (lockableHost.spiRwByte_hosted 0xFF) fun _ ↦ .of_fact fun _ ↦ ?_
  refine .bind (lockableHost.waitReady_hosted rfl) fun ok ↦ .ite (fun _ ↦ ?_) fun hok b hb ↦ ?_
  · exact .pure fun b hb ↦ ⟨rfl, hb.2⟩
  · exact absurd hb.1 hok

/-- The packet of a command, without the checksum. -/
theorem sendBytes_frame_on {cmd : UInt8} (arg : UInt32)
    (hstart : (0x40 ||| cmd) &&& 0xC0 = 0x40) :
    Triple (On c true .idle) (lockableHost.sendBytes (frame cmd arg))
      fun _ ↦ On c true (.command (0x40 ||| cmd) (frame cmd arg).tail) := by
  have hfirst : (lockableHost.trans (0x40 ||| cmd) ⟨c, true, .idle⟩).2 =
      ⟨c, true, .command (0x40 ||| cmd) []⟩ := by
    show (⟨c, true, ite _ _ _⟩ : LockableCard) = _
    rw [if_pos hstart]
  have hrest := lockableHost.sendBytes_hosted
    (fun bytes ↦ ⟨c, true, .command (0x40 ||| cmd) bytes⟩) (n := 4) (fun bytes d hlen ↦ ?_)
    (frame cmd arg).tail [] (le_refl 4)
  · refine .bind (lockableHost.spiRwByte_hosted (0x40 ||| cmd)) fun _ ↦ .of_fact fun _ ↦ ?_
    rw [hfirst]
    exact hrest
  · show (⟨c, true, ite _ _ _⟩ : LockableCard) = _
    rw [if_neg (by omega)]

/-- The checksum ends the command, and the answer comes with the second byte. -/
theorem sendFrame_on {cmd : UInt8} (arg : UInt32) (hstart : (0x40 ||| cmd) &&& 0xC0 = 0x40)
    (hcmd : cmd ≠ cmd12) {res : UInt8} {bytes : List UInt8} {next : LockCardPhase}
    (hresponse : response c (0x40 ||| cmd) = .answer (0xFF :: res :: bytes) next)
    (hres : res &&& 0x80 = 0) :
    Triple (On c true .idle) (lockableHost.sendFrame cmd arg) fun r b ↦
      r = res ∧ On c true (.answer bytes next) b := by
  have hcrc : Triple (On c true (.command (0x40 ||| cmd) (frame cmd arg).tail))
      (lockableHost.spiRwByte (crc7 (frame cmd arg)))
      fun _ ↦ On c true (.answer (0xFF :: res :: bytes) next) := by
    refine (lockableHost.spiRwByte_hosted _).weaken (fun _ ↦ id) fun _ b hb ↦ ?_
    rw [← hresponse]
    exact hb.2
  have hlast : Triple (On c true (.answer (res :: bytes) next)) (lockableHost.awaitAnswer 8)
      fun r b ↦ r = res ∧ On c true (.answer bytes next) b := by
    refine .bind (lockableHost.spiRwByte_hosted 0xFF) fun r ↦ .of_fact fun hr ↦ ?_
    obtain rfl : r = res := hr
    exact .ite (fun hbusy ↦ absurd hres hbusy) fun _ ↦ .pure fun b hb ↦ ⟨rfl, hb⟩
  refine .bind (sendBytes_frame_on arg hstart) fun _ ↦ .bind hcrc fun _ ↦
    .ite (fun h ↦ absurd h hcmd) fun _ ↦ ?_
  -- the byte before the answer has its top bit set, and one more byte is read
  refine .bind (lockableHost.spiRwByte_hosted 0xFF) fun r ↦ .of_fact fun hr ↦ ?_
  obtain rfl : r = 0xFF := hr
  exact .ite (fun _ ↦ hlast) fun hnot ↦ absurd (by decide) hnot

/-- A command, from its packet on. -/
theorem sendCmd_on {cmd : UInt8} (arg : UInt32) (hplain : cmd &&& 0x80 = 0)
    (hstart : (0x40 ||| cmd) &&& 0xC0 = 0x40) (hcmd : cmd ≠ cmd0 ∧ cmd ≠ cmd12) {res : UInt8}
    {bytes : List UInt8} {next : LockCardPhase}
    (hresponse : response c (0x40 ||| cmd) = .answer (0xFF :: res :: bytes) next)
    (hres : res &&& 0x80 = 0) :
    Triple (On c false .idle) (lockableHost.sendCmd cmd arg) fun r b ↦
      r = res ∧ On c true (.answer bytes next) b := by
  rw [sendCmd, if_neg (not_not.2 hplain), sendPlainCmd, if_pos hcmd]
  refine .bind deselect_on fun _ ↦ .bind selectCard_on fun ok ↦ .ite (fun _ ↦ ?_) fun hok b hb ↦ ?_
  · exact (sendFrame_on arg hstart hcmd.2 hresponse hres).weaken (fun _ hb ↦ hb.2) fun _ _ ↦ id
  · exact absurd hb.1 hok

/-- **`CMD42` is answered with 0**, and the card waits for the block. -/
theorem sendCmd_lock : Triple (On c false .idle) (lockableHost.sendCmd cmd42 0) fun res b ↦
    res = 0 ∧ On c true (.answer [] .awaitBlock) b :=
  sendCmd_on 0 (by decide) (by decide) (by decide) rfl (by decide)

/-- **`CMD13` is answered with 0**, and the status follows. -/
theorem sendCmd_status : Triple (On c false .idle) (lockableHost.sendCmd cmd13 0) fun res b ↦
    res = 0 ∧ On c true (.answer [status c] .idle) b :=
  sendCmd_on 0 (by decide) (by decide) (by decide) rfl (by decide)

/-- The bytes of a block and of its checksum are collected. -/
theorem exchange_block {bytes : List UInt8} (d : UInt8) (hshort : bytes.length < 513) :
    (lockableHost.trans d ⟨c, true, .block bytes⟩).2 = ⟨c, true, .block (bytes ++ [d])⟩ := by
  show (ite _ _ _ : LockableCard) = _
  rw [if_neg (by omega)]

/-- With the last byte of the checksum the block is carried out. -/
theorem exchange_last {block : List UInt8} (high low : UInt8) (hlen : block.length = 512) :
    (lockableHost.trans low ⟨c, true, .block (block ++ [high])⟩).2 =
      ⟨c.cmd42 block, true, .answer [0xE5, 0x00] .idle⟩ := by
  show (ite _ _ _ : LockableCard) = _
  rw [if_pos (by rw [List.length_append, hlen]; rfl), List.take_left' hlen]

/-- **The block is accepted and carried out.** -/
theorem xmitDatablock_lock {block : List UInt8} (hlen : block.length = 512) :
    Triple (On c true (.answer [] .awaitBlock)) (lockableHost.xmitDatablock block 0xFE)
      fun ok b ↦ ok = true ∧ On (c.cmd42 block) true (.answer [0x00] .idle) b := by
  have hblock : Triple (On c true (.block [])) (lockableHost.sendBytes block)
      fun _ ↦ On c true (.block block) :=
    lockableHost.sendBytes_hosted (fun bytes ↦ ⟨c, true, .block bytes⟩)
      (fun bytes d ↦ exchange_block d) block [] (by rw [List.length_nil]; omega)
  have hhigh : ∀ high, Triple (On c true (.block block)) (lockableHost.spiRwByte high)
      fun _ ↦ On c true (.block (block ++ [high])) := fun high ↦ by
    refine (lockableHost.spiRwByte_hosted high).weaken (fun _ ↦ id) fun _ b hb ↦ ?_
    rw [On, ← exchange_block high (by omega)]
    exact hb.2
  have hlow : ∀ high low, Triple (On c true (.block (block ++ [high])))
      (lockableHost.spiRwByte low)
      fun _ ↦ On (c.cmd42 block) true (.answer [0xE5, 0x00] .idle) := fun high low ↦ by
    refine (lockableHost.spiRwByte_hosted low).weaken (fun _ ↦ id) fun _ b hb ↦ ?_
    rw [On, ← exchange_last high low hlen]
    exact hb.2
  have hne : block ≠ [] := fun h ↦ by simp [h] at hlen
  -- the card is ready and takes the token
  refine .bind (lockableHost.waitReady_hosted rfl) fun ok ↦ .ite (fun _ ↦ ?_) fun hok b hb ↦
    absurd hb.1 hok
  refine .of_fact fun _ ↦ .bind (lockableHost.spiRwByte_hosted 0xFE) fun _ ↦ .of_fact fun _ ↦
    .ite (fun _ ↦ ?_) fun hstop ↦ absurd (by decide) hstop
  refine .ite (fun hnull ↦ absurd hnull hne) fun _ ↦ ?_
  rw [List.take_of_length_le hlen.le]
  refine .bind hblock fun _ ↦ .bind (hhigh _) fun _ ↦ .bind (hlow _ _) fun _ ↦
    .bind (lockableHost.spiRwByte_hosted 0xFF) fun resp ↦ .pure fun b hb ↦ ?_
  obtain ⟨hresp, hb⟩ := hb
  obtain rfl : resp = 0xE5 := hresp
  exact ⟨by decide, hb⟩

/-- The card is busy for one byte and then ready. -/
theorem waitReady_lock : Triple (On c true (.answer [0x00] .idle)) lockableHost.waitReady
    fun ok b ↦ ok = true ∧ On c true .idle b := by
  rintro ⟨_, trace⟩ rfl
  exact ⟨rfl, rfl⟩

/-- The status is the next byte. -/
theorem readStatus_on : Triple (On c true (.answer [status c] .idle)) (lockableHost.spiRwByte 0xFF)
    fun r2 b ↦ r2 = status c ∧ On c true (.answer [] .idle) b :=
  lockableHost.spiRwByte_hosted 0xFF

/-- Its second bit tells whether the last `CMD42` has failed. -/
theorem status_failed : status c &&& 0x02 ≠ 0 ↔ c.failed = true := by
  rw [status]
  cases c.locked <;> cases c.failed <;> decide

end LockableCard
