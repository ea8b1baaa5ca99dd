import SmartAp.SdCard.Frames
import SmartAp.Crc.Aligned
import SmartAp.Bits.Fields

/-!
# The frames of commands

What `send_cmd` puts on the bus are frames as the specification has them, and the two checksums of
the driver are remainders of polynomials.

## The checksums

`crc7` keeps its seven bits at the top of a byte, so that it is a register of eight bits whose
generator is moved up by one place (`crc7_remainder`). The division is that of
`SmartAp.Crc.Aligned`, and a bit, a byte and a list of bytes are three lemmas (`crc7Round_toBitVec`,
`crc7Update_toBitVec`, `crc7_toBitVec`). With that a packet of `send_cmd` is a frame (`ValidFrame`):
the fields are given by their bits, and the check is on the polynomial of the frame, not on the
driver's own `crc7`.

## The receiver

What `send_cmd` puts on the bus is read by a receiver that collects packets and the answers to them
(`FrameReader`). It knows nothing of the driver, and it synchronises on the two start bits, so that
a byte of clocks between commands is no part of a frame.

`SendsCommand` says what it has read after a command: its frame and the answer, if the card was
ready for it, or nothing. An `ACMD` has the flag 0x80 in its number; its frame comes right after a
frame of `CMD55` that was answered with at most 1, and otherwise is not sent (`SendsAcmd`). Both
hold from any state of the receiver and on every host.
-/

open Polynomial

/-! ### Frames -/

/-- The receiver's check: bits 7 to 1 are the remainder of the five bytes before. -/
def PassesCrc7 (frame : List UInt8) : Prop :=
  (BitVec.ofNat 7 (bitField frame 7 1)).poly =
    X ^ 7 * Crc.message (toBitVecs (frame.take 5)) %ₘ (X ^ 7 + X ^ 3 + 1)

/-- **The frame of a command**, as the specification has it. -/
structure ValidFrame (cmd : UInt8) (arg : UInt32) (frame : List UInt8) : Prop where
  length : frame.length = 6
  start : bitField frame 47 46 = 0b01
  command : bitField frame 45 40 = cmd.toNat
  argument : bitField frame 39 8 = arg.toNat
  check : PassesCrc7 frame
  stop : bitField frame 0 0 = 1

/-- What a receiver waits for. -/
inductive FramePhase
  | waiting
  /-- The rest of a packet, after these bytes. -/
  | receiving (bytes : List UInt8)
  /-- An answer is due, after the stuff byte if there is one. -/
  | answering (stuff : Bool)

/-- What a receiver has seen. -/
inductive FrameEntry
  | packet (frame : List UInt8)
  | answer (r1 : UInt8)
  deriving DecidableEq

/-- A receiver on the bus. -/
@[ext]
structure FrameReader where
  phase : FramePhase
  log : List FrameEntry

namespace FrameReader

/-- A byte was exchanged. A packet begins with the bits 01, whatever came before. -/
def byte : FrameReader → (mosi miso : UInt8) → FrameReader
  | ⟨.receiving bytes, log⟩, mosi, _ =>
    if bytes.length = 5 then
      ⟨.answering (bytes.head? = some (0x40 ||| cmd12)), log ++ [.packet (bytes ++ [mosi])]⟩
    else ⟨.receiving (bytes ++ [mosi]), log⟩
  | ⟨.waiting, log⟩, mosi, _ => ⟨if mosi &&& 0xC0 = 0x40 then .receiving [mosi] else .waiting, log⟩
  | ⟨.answering stuff, log⟩, mosi, miso =>
    if mosi &&& 0xC0 = 0x40 then ⟨.receiving [mosi], log⟩
    else if stuff then ⟨.answering false, log⟩
    else if miso &&& 0x80 = 0 then ⟨.waiting, log ++ [.answer miso]⟩
    else ⟨.answering false, log⟩

def event (m : FrameReader) : BusEvent → FrameReader
  | .cs _ => ⟨.waiting, m.log⟩
  | .byte mosi miso => m.byte mosi miso

/-- Nothing is due. -/
def waiting (log : List FrameEntry) : FrameReader := ⟨.waiting, log⟩

/-- An answer is due. -/
def answering (log : List FrameEntry) : FrameReader := ⟨.answering false, log⟩

/-- After a packet, when the command is answered with `res`. -/
def after (log : List FrameEntry) (frame : List UInt8) (res : UInt8) : FrameReader :=
  if res &&& 0x80 = 0 then .waiting (log ++ [.packet frame, .answer res])
  else .answering (log ++ [.packet frame])

end FrameReader

/-- The receiver of a bus. -/
def Bus.frames {κ : Type} (b : Bus κ) : FrameReader :=
  b.trace.foldl FrameReader.event (.waiting [])

/-- A packet, and the answer to it unless the highest bit of `res` is set. -/
def exchangeOf (frame : List UInt8) (res : UInt8) : List FrameEntry :=
  .packet frame :: if res &&& 0x80 = 0 then [.answer res] else []

theorem FrameReader.log_after (log : List FrameEntry) (frame : List UInt8) (res : UInt8) :
    (FrameReader.after log frame res).log = log ++ exchangeOf frame res := by
  rw [FrameReader.after, exchangeOf]
  split <;> rfl

/-- An answer of at most 1 was received. -/
theorem FrameReader.after_answered {log : List FrameEntry} {frame : List UInt8} {res : UInt8}
    (h : res ≤ 1) : FrameReader.after log frame res =
      .waiting (log ++ [.packet frame, .answer res]) := by
  have hbits : ∀ r : BitVec 8, r ≤ 1#8 → r &&& 0x80#8 = 0#8 := by decide
  have hbit : res &&& 0x80 = 0 := by
    rw [← UInt8.toBitVec_inj]
    exact hbits res.toBitVec h
  rw [FrameReader.after, if_pos hbit]

/-! ### Checksums -/

/-- The generator of `crc7`. -/
def crc7Generator : BitVec 7 := 0x09#7

/-- The generator of the command CRC. -/
theorem generator_crc7 : Crc.generator crc7Generator = X ^ 7 + X ^ 3 + 1 := by
  rw [Crc.generator, BitVec.poly, crc7Generator]
  simp [Finset.sum_range_succ]
  ring

/-- The generator of the data CRC. -/
theorem generator_crc16 : Crc.generator crc16Generator = X ^ 16 + X ^ 12 + X ^ 5 + 1 := by
  rw [Crc.generator, BitVec.poly, crc16Generator]
  simp [Finset.sum_range_succ]
  ring

/-- One bit of the command CRC is one step of the division. -/
theorem crc7Round_toBitVec (crc : UInt8) :
    (crc7Round crc).toBitVec = Crc.step (crc7Generator ++ 0#1) crc.toBitVec := by
  have hmsb : crc &&& 0x80 ≠ 0 ↔ crc.toBitVec.msb = true := by
    rw [Ne, ← UInt8.toBitVec_inj, UInt8.toBitVec_and, BitVec.msb_eq_getLsbD_last,
      show UInt8.toBitVec 0x80 = BitVec.twoPow 8 7 by decide, BitVec.and_twoPow]
    cases crc.toBitVec.getLsbD 7 <;> decide
  rw [crc7Round, Crc.step, show crc7Generator ++ 0#1 = 0x12#8 by decide]
  simp only [hmsb]
  split <;> simp

/-- One byte of the command CRC is eight steps of it. -/
theorem crc7Update_toBitVec (crc data : UInt8) : (crc7Update crc data).toBitVec =
    Crc.update (crc7Generator ++ 0#1) crc.toBitVec data.toBitVec := by
  rw [crc7Update, Crc.update,
    Function.Semiconj.iterate_right (f := UInt8.toBitVec) crc7Round_toBitVec 8]
  simp

/-- The last byte of a command is the CRC and the stop bit. -/
theorem crc7_toBitVec (data : List UInt8) :
    (crc7 data).toBitVec = Crc.crc (crc7Generator ++ 0#1) (toBitVecs data) ||| 1#8 := by
  have hfold : ∀ crc : UInt8, (data.foldl crc7Update crc).toBitVec =
      (toBitVecs data).foldl (Crc.update (crc7Generator ++ 0#1)) crc.toBitVec := by
    induction data with
    | nil => exact fun _ ↦ rfl
    | cons d data ih =>
      intro crc
      rw [List.foldl_cons, ih, crc7Update_toBitVec]
      rfl
  rw [crc7, UInt8.toBitVec_or, hfold]
  rfl

/-- **`crc7` is the remainder**, with the stop bit below it. -/
theorem crc7_remainder (data : List UInt8) : ∃ r : BitVec 7,
    r.poly = X ^ 7 * Crc.message (toBitVecs data) %ₘ (X ^ 7 + X ^ 3 + 1) ∧
      (crc7 data).toNat = 2 * r.toNat + 1 := by
  obtain ⟨r, hcrc, hr⟩ := Crc.aligned_crc (g := crc7Generator) (s := 1) (by decide) (toBitVecs data)
  have hstop : ∀ r : BitVec 7, ((r ++ 0#1) ||| 1#8).toNat = 2 * r.toNat + 1 := by decide
  refine ⟨r, ?_, ?_⟩
  · rw [hr, generator_crc7]
  · rw [← UInt8.toNat_toBitVec, crc7_toBitVec, hcrc]
    exact hstop r

/-- **`crc16` is the remainder.** -/
theorem crc16_remainder (data : List UInt8) : (crc16 data).toBitVec.poly =
    X ^ 16 * Crc.message (toBitVecs data) %ₘ (X ^ 16 + X ^ 12 + X ^ 5 + 1) := by
  rw [crc16_toBitVec, ← generator_crc16]
  exact Crc.poly_crc (by decide) _

/-! ### A packet is a frame -/

theorem or_start_toNat {cmd : UInt8} (hcmd : cmd < 64) : (0x40 ||| cmd).toNat = 64 + cmd.toNat := by
  rw [UInt8.toNat_or]
  exact (Nat.two_pow_add_eq_or_of_lt (i := 6) hcmd 1).symm

theorem start_bits {cmd : UInt8} (hcmd : cmd < 64) : (0x40 ||| cmd) &&& 0xC0 = 0x40 := by
  have hbits : ∀ c : BitVec 8, c < 64#8 → (0x40#8 ||| c) &&& 0xC0#8 = 0x40#8 := by decide
  rw [← UInt8.toBitVec_inj]
  exact hbits cmd.toBitVec hcmd

theorem no_flag {cmd : UInt8} (hcmd : cmd < 64) : cmd &&& 0x80 = 0 := by
  have hbits : ∀ c : BitVec 8, c < 64#8 → c &&& 0x80#8 = 0#8 := by decide
  rw [← UInt8.toBitVec_inj]
  exact hbits cmd.toBitVec hcmd

theorem acmd_flag {cmd : UInt8} (hcmd : cmd < 64) :
    (0x80 + cmd) &&& 0x80 ≠ 0 ∧ (0x80 + cmd) &&& 0x7F = cmd := by
  have hbits : ∀ c : BitVec 8, c < 64#8 →
      (0x80#8 + c) &&& 0x80#8 ≠ 0#8 ∧ (0x80#8 + c) &&& 0x7F#8 = c := by decide
  rw [Ne, ← UInt8.toBitVec_inj, ← UInt8.toBitVec_inj]
  exact hbits cmd.toBitVec hcmd

theorem or_start_inj {cmd cmd' : UInt8} (hcmd : cmd < 64) (hcmd' : cmd' < 64) :
    0x40 ||| cmd = 0x40 ||| cmd' ↔ cmd = cmd' := by
  rw [← UInt8.toNat_inj, ← UInt8.toNat_inj, or_start_toNat hcmd, or_start_toNat hcmd']
  exact Nat.add_left_cancel_iff

/-- The number of a packet. -/
theorem bigEndian_packet {cmd : UInt8} (hcmd : cmd < 64) (arg : UInt32) :
    bigEndian (packet cmd arg) =
      (64 + cmd.toNat) * 2 ^ 40 + arg.toNat * 2 ^ 8 + (crc7 (SpiHost.frame cmd arg)).toNat := by
  have hbytes : bigEndian (packet cmd arg) = (((((0 * 256 + (0x40 ||| cmd).toNat) * 256 +
      (arg >>> 24).toUInt8.toNat) * 256 + (arg >>> 16).toUInt8.toNat) * 256 +
      (arg >>> 8).toUInt8.toNat) * 256 + arg.toUInt8.toNat) * 256 +
      (crc7 (SpiHost.frame cmd arg)).toNat := rfl
  have hlt := arg.toNat_lt
  rw [hbytes, or_start_toNat hcmd]
  simp [Nat.shiftRight_eq_div_pow]
  omega

/-- **What `send_cmd` builds is a frame.** -/
theorem validFrame_packet {cmd : UInt8} (hcmd : cmd < 64) (arg : UInt32) :
    ValidFrame cmd arg (packet cmd arg) := by
  obtain ⟨r, hr, hcrc⟩ := crc7_remainder (SpiHost.frame cmd arg)
  have hnumber := bigEndian_packet hcmd arg
  have harg := arg.toNat_lt
  have hr7 := r.isLt
  have hcmd' : cmd.toNat < 64 := hcmd
  rw [hcrc] at hnumber
  have hcheck : bitField (packet cmd arg) 7 1 = r.toNat := by
    rw [bitField, hnumber]
    omega
  refine ⟨rfl, ?_, ?_, ?_, ?_, ?_⟩
  · rw [bitField, hnumber]
    omega
  · rw [bitField, hnumber]
    omega
  · rw [bitField, hnumber]
    omega
  · rw [PassesCrc7, hcheck, BitVec.ofNat_toNat, BitVec.setWidth_eq, hr]
    rfl
  · rw [bitField, hnumber]
    omega

/-! ### What the receiver sees -/

namespace SpiHost

variable {κ : Type} (h : SpiHost κ) {m : FrameReader} {log : List FrameEntry}

/-- The card is ready for a command. It is not asked before `CMD0` and `CMD12`. -/
def ReadyFor (cmd : UInt8) (b : Bus κ) : Prop :=
  cmd ≠ cmd0 ∧ cmd ≠ cmd12 → (h.selectCard (h.deselect b).2).1 = true

/-- The reader sees each byte on the bus. -/
theorem spiRwByte_frames (data : UInt8) : Triple (fun b ↦ b.frames = m) (h.spiRwByte data)
    fun miso b ↦ b.frames = m.byte data miso := h.spiRwByte_observed data

/-- Between commands a byte of clocks is no frame. -/
theorem spiRwByte_waiting : Triple (fun b ↦ b.frames = .waiting log) (h.spiRwByte 0xFF)
    fun _ b ↦ b.frames = .waiting log := h.spiRwByte_frames 0xFF

/-- At a change of the select line the reader waits for a frame. -/
theorem setCs_frames (level : Bool) : Triple (fun b ↦ b.frames.log = log) (h.setCs level)
    fun _ b ↦ b.frames = .waiting log := by
  rintro b rfl
  exact h.setCs_observed level b rfl

theorem deselect_frames : Triple (fun b ↦ b.frames.log = log) h.deselect
    fun _ b ↦ b.frames = .waiting log :=
  .bind (h.setCs_frames true) fun _ ↦ .bind h.spiRwByte_waiting fun _ ↦ .pure fun _ ↦ id

/-- To select the card sends no frame. -/
theorem selectCard_frames : Triple (fun b ↦ b.frames = .waiting log) h.selectCard
    fun _ b ↦ b.frames = .waiting log := by
  have hlog : ∀ b : Bus κ, b.frames = .waiting log → b.frames.log = log :=
    fun _ hb ↦ congrArg FrameReader.log hb
  have hwait : Triple (fun b ↦ b.frames = .waiting log) h.waitReady
      fun _ b ↦ b.frames = .waiting log := h.waitReady_observed fun _ ↦ rfl
  refine .bind ((h.setCs_frames false).weaken hlog fun _ _ ↦ id) fun _ ↦
    .bind h.spiRwByte_waiting fun _ ↦ .bind hwait fun ok ↦
      .ite (fun _ ↦ .pure fun _ ↦ id) fun _ ↦ ?_
  exact .bind (h.deselect_frames.weaken hlog fun _ _ ↦ id) fun _ ↦ .pure fun _ ↦ id

/-- A packet but its last byte. -/
theorem sendBytes_frames {cmd : UInt8} (hcmd : cmd < 64) (arg : UInt32) :
    Triple (fun b ↦ b.frames = .waiting log) (h.sendBytes (frame cmd arg))
      fun _ b ↦ b.frames = ⟨.receiving (frame cmd arg), log⟩ := by
  have hstep : ∀ bytes d miso, bytes.length < 5 → FrameReader.event ⟨.receiving bytes, log⟩
      (.byte d miso) = ⟨.receiving (bytes ++ [d]), log⟩ :=
    fun _ _ _ hlt ↦ if_neg (Nat.ne_of_lt hlt)
  refine .bind (h.spiRwByte_frames (0x40 ||| cmd)) fun _ ↦ ?_
  refine (h.sendBytes_observed (fun bytes ↦ (⟨.receiving bytes, log⟩ : FrameReader)) hstep _
    [0x40 ||| cmd] (le_refl 5)).weaken (fun b hb ↦ ?_) fun _ _ ↦ id
  refine hb.trans ?_
  rw [FrameReader.waiting, FrameReader.byte, if_pos (start_bits hcmd)]

/-- The wait for an answer. -/
theorem awaitAnswer_frames (n : ℕ) : Triple (fun b ↦ b.frames = .answering log) (h.awaitAnswer n)
    fun res b ↦ b.frames =
      if res &&& 0x80 = 0 then .waiting (log ++ [.answer res]) else .answering log := by
  induction n with
  | zero =>
    refine (h.spiRwByte_frames 0xFF).weaken (fun _ ↦ id) fun res b hb ↦ ?_
    rw [hb]
    rfl
  | succ n ih =>
    refine .bind (h.spiRwByte_frames 0xFF) fun res ↦ .ite (fun hres ↦ ?_) fun hres ↦ ?_
    · refine ih.weaken (fun b hb ↦ ?_) fun _ _ ↦ id
      rw [hb]
      exact if_neg hres
    · rw [not_not] at hres
      refine .pure fun b hb ↦ ?_
      rw [hb, if_pos hres]
      exact if_pos hres

/-- **A packet, and the answer to it.** -/
theorem sendFrame_frames {cmd : UInt8} (hcmd : cmd < 64) (arg : UInt32) :
    Triple (fun b ↦ b.frames = .waiting log) (h.sendFrame cmd arg)
      fun res b ↦ b.frames = .after log (packet cmd arg) res := by
  have hlast : Triple (fun b ↦ b.frames = ⟨.receiving (frame cmd arg), log⟩)
      (h.spiRwByte (crc7 (frame cmd arg))) fun _ b ↦ b.frames =
        ⟨.answering (cmd = cmd12), log ++ [.packet (packet cmd arg)]⟩ := by
    refine (h.spiRwByte_frames _).weaken (fun _ ↦ id) fun _ b hb ↦ hb.trans ?_
    have hstuff : (frame cmd arg).head? = some (0x40 ||| cmd12) ↔ cmd = cmd12 := by
      rw [frame, List.head?_cons, Option.some_inj]
      exact or_start_inj hcmd (by decide)
    have hlength : (frame cmd arg).length = 5 := rfl
    rw [FrameReader.byte, if_pos hlength]
    simp only [hstuff]
    rfl
  refine .bind (h.sendBytes_frames hcmd arg) fun _ ↦ .bind hlast fun _ ↦ ?_
  have hanswer : Triple (fun b ↦ b.frames = .answering (log ++ [.packet (packet cmd arg)]))
      (h.awaitAnswer 9) fun res b ↦ b.frames = .after log (packet cmd arg) res := by
    refine (h.awaitAnswer_frames 9).weaken (fun _ ↦ id) fun res b hb ↦ ?_
    rw [hb, FrameReader.after, List.append_assoc]
    rfl
  refine .ite (fun hstop ↦ ?_) fun hother ↦ ?_
  · -- the stuff byte
    refine .bind ((h.spiRwByte_frames 0xFF).weaken (fun _ ↦ id) fun _ b hb ↦ ?_) fun _ ↦ hanswer
    rw [hb, decide_eq_true hstop]
    rfl
  · rw [decide_eq_false hother]
    exact hanswer

/-- A command that is no `ACMD`: one packet, if the card is ready for it. -/
theorem sendPlainCmd_frames {cmd : UInt8} (hcmd : cmd < 64) (arg : UInt32) (b₀ : Bus κ) :
    Triple (fun b ↦ b = b₀ ∧ b.frames = .waiting log) (h.sendPlainCmd cmd arg) fun res b ↦
      (h.ReadyFor cmd b₀ → b.frames = .after log (packet cmd arg) res) ∧
        (¬ h.ReadyFor cmd b₀ → res = 0xFF ∧ b.frames = .waiting log) := by
  refine .ite (fun hselect ↦ ?_) fun hother ↦ ?_
  · have hdeselect : Triple (fun b ↦ b = b₀ ∧ b.frames = .waiting log) h.deselect
        fun _ b ↦ b = (h.deselect b₀).2 ∧ b.frames = .waiting log := by
      rintro b ⟨rfl, hb⟩
      exact ⟨rfl, h.deselect_frames b (congrArg FrameReader.log hb)⟩
    have hready : Triple (fun b ↦ b = (h.deselect b₀).2 ∧ b.frames = .waiting log) h.selectCard
        fun ok b ↦ (ok = true ↔ h.ReadyFor cmd b₀) ∧ b.frames = .waiting log := by
      rintro b ⟨rfl, hb⟩
      exact ⟨⟨fun hok _ ↦ hok, fun hready ↦ hready hselect⟩, h.selectCard_frames _ hb⟩
    refine .bind hdeselect fun _ ↦ .bind hready fun ok ↦ .of_fact fun hok ↦
      .ite (fun htrue ↦ ?_) fun hfalse ↦ .pure fun b hb ↦ ?_
    · refine (h.sendFrame_frames hcmd arg).weaken (fun _ ↦ id) fun res b hb ↦ ?_
      exact ⟨fun _ ↦ hb, fun hno ↦ absurd (hok.1 htrue) hno⟩
    · exact ⟨fun hyes ↦ absurd (hok.2 hyes) hfalse, fun _ ↦ ⟨rfl, hb⟩⟩
  · refine (h.sendFrame_frames hcmd arg).weaken (fun _ hb ↦ hb.2) fun res b hb ↦ ?_
    exact ⟨fun _ ↦ hb, fun hno ↦ absurd (fun hselect ↦ absurd hselect hother) hno⟩

/-! ### The law -/

theorem frames_nil (k : κ) : (⟨k, []⟩ : Bus κ).frames = .waiting [] := rfl

/-- **A command**: its frame and the answer, if the card is ready for it. -/
def SendsCommand (cmd : UInt8) (arg : UInt32) (k : κ) : Prop :=
  let out := h.sendCmd cmd arg ⟨k, []⟩
  (h.ReadyFor cmd ⟨k, []⟩ → ∃ frame, ValidFrame cmd arg frame ∧
      out.2.frames.log = exchangeOf frame out.1) ∧
    (¬ h.ReadyFor cmd ⟨k, []⟩ → out.2.frames.log = [])

/-- **An `ACMD`**: its frame comes right after a frame of `CMD55` that was answered with at most 1;
otherwise nothing follows what `CMD55` has put on the bus. -/
def SendsAcmd (cmd : UInt8) (arg : UInt32) (k : κ) : Prop :=
  let first := h.sendCmd cmd55 0 ⟨k, []⟩
  let out := h.sendCmd (0x80 + cmd) arg ⟨k, []⟩
  (first.1 ≤ 1 ∧ h.ReadyFor cmd first.2 → ∃ frame55 frame, ValidFrame cmd55 0 frame55 ∧
      ValidFrame cmd arg frame ∧
        out.2.frames.log = .packet frame55 :: .answer first.1 :: exchangeOf frame out.1) ∧
    (¬ (first.1 ≤ 1 ∧ h.ReadyFor cmd first.2) → out.2.frames.log = first.2.frames.log)

/-- A command sends one frame, with its number, argument and CRC. -/
theorem sendsCommand {cmd : UInt8} (hcmd : cmd < 64) (arg : UInt32) (k : κ) :
    h.SendsCommand cmd arg k := by
  have hplain : h.sendCmd cmd arg = h.sendPlainCmd cmd arg := if_neg (not_not.2 (no_flag hcmd))
  have hrun := h.sendPlainCmd_frames hcmd arg ⟨k, []⟩ ⟨k, []⟩ ⟨rfl, frames_nil k⟩
  rw [SendsCommand, hplain]
  refine ⟨fun hready ↦ ⟨packet cmd arg, validFrame_packet hcmd arg, ?_⟩, fun hno ↦ ?_⟩
  · rw [hrun.1 hready, FrameReader.log_after]
    rfl
  · rw [(hrun.2 hno).2]
    rfl

/-- `CMD55`, when it is answered with at most 1. -/
theorem sendCmd55_frames {b : Bus κ} (hb : b.frames = .waiting [])
    (hle : (h.sendPlainCmd cmd55 0 b).1 ≤ 1) : (h.sendPlainCmd cmd55 0 b).2.frames =
      .waiting [.packet (packet cmd55 0), .answer (h.sendPlainCmd cmd55 0 b).1] := by
  have hcmd : cmd55 < 64 := by decide
  have hrun := h.sendPlainCmd_frames hcmd 0 b b ⟨rfl, hb⟩
  by_cases hready : h.ReadyFor cmd55 b
  · rw [hrun.1 hready, FrameReader.after_answered hle]
    rfl
  · rw [(hrun.2 hready).1] at hle
    exact absurd hle (by decide)

/-- An application command sends the frame of CMD55 and, if that was taken, its own. -/
theorem sendsAcmd {cmd : UInt8} (hcmd : cmd < 64) (arg : UInt32) (k : κ) :
    h.SendsAcmd cmd arg k := by
  obtain ⟨hflag, hclear⟩ := acmd_flag hcmd
  have hfirst : h.sendCmd cmd55 0 = h.sendPlainCmd cmd55 0 := rfl
  have hout : h.sendCmd (0x80 + cmd) arg ⟨k, []⟩ = if (h.sendPlainCmd cmd55 0 ⟨k, []⟩).1 > 1 then
      h.sendPlainCmd cmd55 0 ⟨k, []⟩
        else h.sendPlainCmd cmd arg (h.sendPlainCmd cmd55 0 ⟨k, []⟩).2 := by
    rw [sendCmd, if_pos hflag, hclear]
    show (if (h.sendPlainCmd cmd55 0 ⟨k, []⟩).1 > 1 then
      (pure (h.sendPlainCmd cmd55 0 ⟨k, []⟩).1 : BusM κ UInt8) else h.sendPlainCmd cmd arg)
        (h.sendPlainCmd cmd55 0 ⟨k, []⟩).2 = _
    split <;> rfl
  have hsecond := fun hle ↦ h.sendPlainCmd_frames hcmd arg _ _
    ⟨rfl, h.sendCmd55_frames (frames_nil k) hle⟩
  rw [SendsAcmd, hfirst, hout]
  refine ⟨fun ⟨hle, hready⟩ ↦ ?_, fun hno ↦ ?_⟩
  · have hgo : ¬ (h.sendPlainCmd cmd55 0 ⟨k, []⟩).1 > 1 := UInt8.not_lt.2 hle
    rw [if_neg hgo]
    refine ⟨packet cmd55 0, packet cmd arg, validFrame_packet (by decide) 0,
      validFrame_packet hcmd arg, ?_⟩
    rw [(hsecond hle).1 hready, FrameReader.log_after]
    rfl
  · split
    · rfl
    · rename_i hgt
      have hle := UInt8.not_lt.1 hgt
      rw [((hsecond hle).2 fun hready ↦ hno ⟨hle, hready⟩).2, h.sendCmd55_frames (frames_nil k) hle]

end SpiHost

/-- **The checksums are remainders, and commands go out as frames**, each `ACMD` after an accepted
`CMD55`. -/
theorem command_frames_decode :
    (∀ m : List UInt8, ∃ r : BitVec 7,
      r.poly = X ^ 7 * Crc.message (toBitVecs m) %ₘ (X ^ 7 + X ^ 3 + 1) ∧
        (crc7 m).toNat = 2 * r.toNat + 1) ∧
    (∀ m : List UInt8, (crc16 m).toBitVec.poly =
      X ^ 16 * Crc.message (toBitVecs m) %ₘ (X ^ 16 + X ^ 12 + X ^ 5 + 1)) ∧
    ∀ {κ : Type} (h : SpiHost κ) (cmd : UInt8) (arg : UInt32) (k : κ), cmd < 64 →
      h.SendsCommand cmd arg k ∧ h.SendsAcmd cmd arg k :=
  ⟨crc7_remainder, crc16_remainder,
    fun h _ arg k hcmd ↦ ⟨h.sendsCommand hcmd arg k, h.sendsAcmd hcmd arg k⟩⟩

/-- The answers of a card to `CMD55` and `ACMD41`. -/
def acmd41Script : List UInt8 :=
  List.replicate 9 0xFF ++ 0x01 :: List.replicate 9 0xFF ++ [0x00]

/-- `ACMD41` on a card that accepts it. -/
theorem command_frames_decode_acmd41 : ∃ frame55 frame, ValidFrame cmd55 0 frame55 ∧
    ValidFrame 41 0x40000000 frame ∧
      (scriptHost.sendCmd (0x80 + 41) 0x40000000 ⟨acmd41Script, []⟩).2.frames.log =
        [.packet frame55, .answer 0x01, .packet frame, .answer 0x00] := by
  have hfirst : (scriptHost.sendCmd cmd55 0 ⟨acmd41Script, []⟩).1 = 0x01 := by decide +kernel
  have hsecond : (scriptHost.sendCmd (0x80 + 41) 0x40000000 ⟨acmd41Script, []⟩).1 = 0x00 := by
    decide +kernel
  have hready : scriptHost.ReadyFor 41 (scriptHost.sendCmd cmd55 0 ⟨acmd41Script, []⟩).2 :=
    fun _ ↦ by decide +kernel
  have hsent := (command_frames_decode.2.2 scriptHost 41 0x40000000 acmd41Script (by decide)).2.1
  rw [hfirst, hsecond] at hsent
  exact hsent ⟨by decide, hready⟩
