import SmartAp.SdCard.Monitor
import SmartAp.Crc.Errors

/-!
# The frames of blocks

A block goes over the bus as 512 bytes and two bytes of checksum, and `rcvr_datablock` reads such a
frame back. `SpiHost.sentFrame` is what `xmit_datablock` puts on the bus and `SpiHost.Delivers` is a
card that sends a frame; `frames_checked` puts the two together, for a frame that arrives as it was
sent and for one with errors.

## Sending and receiving

The two directions do not share a host. What is sent is read off the record of the bus
(`xmitDatablock_mosi`). What is received comes from a host that sends given bytes as long as it is
only read (`Sends`), after a token within the timeout (`SendsFrame`); `rcvrDatablock_sends` says
that then the data arrive, and that the checksum decides whether the call succeeds.

## Errors

A frame is a polynomial over two elements, and its checksum is right just when the generator divides
it (`checksum_iff`). So a frame that was sent is valid (`valid_withCrc`), and one in which bits have
changed is not, if the polynomial of the changes is no multiple of the generator
(`not_valid_of_changes`). Which patterns of changes have that property is said in
`SmartAp.Crc.Errors`: all bursts of at most 16 bits, and any two bits of a frame of this length.
-/

/-! ### The bytes on the bus -/

/-- What went out on the bus. -/
def Bus.mosi {κ : Type} (b : Bus κ) : List UInt8 :=
  b.trace.filterMap fun
    | .byte mosi _ => some mosi
    | .cs _ => none

namespace SpiHost

variable {κ : Type} (h : SpiHost κ)

/-- **The frame that `xmit_datablock` sends**: 514 bytes after the token. -/
def sentFrame (buff : List UInt8) (b : Bus κ) : List UInt8 :=
  let sent := (h.xmitDatablock buff 0xFE b).2.mosi.drop b.mosi.length
  ((sent.dropWhile (· = 0xFF)).drop 1).take 514

/-- The card sends these bytes next, as long as it is only read, and then something holds of it. -/
def Sends : List UInt8 → (κ → Prop) → κ → Prop
  | [], After, k => After k
  | miso :: rest, After, k => (h.trans 0xFF k).1 = miso ∧ Sends rest After (h.trans 0xFF k).2

/-- The card sends a frame, within the timeout. -/
def SendsFrame (frame : List UInt8) (After : κ → Prop) (k : κ) : Prop :=
  ∃ n ≤ h.polls k, h.Sends (List.replicate n 0xFF ++ 0xFE :: frame) After k

/-- A frame arrives on the bus. -/
def Delivers (frame : List UInt8) (b : Bus κ) : Prop :=
  h.SendsFrame frame (fun _ ↦ True) b.host

/-! ### Sending -/

section Sending

variable {out : List UInt8}

/-- Each byte goes out on the line. -/
theorem spiRwByte_mosi (data : UInt8) : Triple (fun b ↦ b.mosi = out) (h.spiRwByte data)
    fun _ b ↦ b.mosi = out ++ [data] := by
  rintro b rfl
  exact List.filterMap_append

/-- The bytes go out in their order. -/
theorem sendBytes_mosi (data : List UInt8) : Triple (fun b ↦ b.mosi = out) (h.sendBytes data)
    fun _ b ↦ b.mosi = out ++ data := by
  induction data generalizing out with
  | nil => exact .pure fun b hb ↦ by rw [hb, List.append_nil]
  | cons d data ih =>
    refine .bind (h.spiRwByte_mosi d) fun _ ↦ ih.weaken (fun _ ↦ id) fun _ b hb ↦ ?_
    rw [hb, List.append_assoc, List.singleton_append]

/-- To wait for the card sends clocks only. -/
theorem waitReady_mosi : Triple (fun b ↦ b.mosi = out) h.waitReady
    fun _ b ↦ ∃ n, b.mosi = out ++ List.replicate n 0xFF := by
  intro b hb
  have hpoll : Keeps (fun b ↦ ∃ n, b.mosi = out ++ List.replicate n 0xFF)
      (do let d ← h.spiRwByte 0xFF; return d = 0xFF : BusM κ Bool) := by
    rintro b ⟨n, hn⟩
    refine ⟨n + 1, (h.spiRwByte_mosi 0xFF b hn).trans ?_⟩
    rw [List.replicate_succ', List.append_assoc]
  exact Keeps.repeatUntil hpoll (.pure ⟨⟩) (h.polls b.host) b ⟨0, by simpa using hb⟩

/-- A block that is sent: the wait, the token, the frame, and a byte for the response. -/
theorem xmitDatablock_mosi {buff : List UInt8} (hbuff : buff.length = 512) {b : Bus κ}
    (hready : (h.waitReady b).1 = true) : ∃ n, (h.xmitDatablock buff 0xFE b).2.mosi =
      b.mosi ++ (List.replicate n 0xFF ++ 0xFE :: (withCrc buff ++ [0xFF])) := by
  have hsent : Triple (fun b' ↦ b' = b) (h.xmitDatablock buff 0xFE) fun _ b' ↦
      ∃ n, b'.mosi = b.mosi ++ (List.replicate n 0xFF ++ 0xFE :: (withCrc buff ++ [0xFF])) := by
    have hwait : Triple (fun b' ↦ b' = b) h.waitReady fun ready b' ↦
        ready = true ∧ ∃ n, b'.mosi = b.mosi ++ List.replicate n 0xFF := by
      rintro b' rfl
      exact ⟨hready, h.waitReady_mosi b' rfl⟩
    refine .bind hwait fun ready ↦ .ite (fun _ ↦ ?_) fun hno b' hb' ↦ absurd hb'.1 hno
    rintro b' ⟨-, n, hn⟩
    refine ⟨n, ?_⟩
    have hrest : Triple (fun b' ↦ b'.mosi = b.mosi ++ List.replicate n 0xFF) (do
        let _ ← h.spiRwByte 0xFE
        if buff = [] then return false
        h.sendBytes (buff.take 512)
        let _ ← h.spiRwByte (crc16 (buff.take 512) >>> 8).toUInt8
        let _ ← h.spiRwByte (crc16 (buff.take 512)).toUInt8
        let resp ← h.spiRwByte 0xFF
        return decide (resp &&& 0x1F = 0x05) : BusM κ Bool) fun _ b' ↦
          b'.mosi = b.mosi ++ (List.replicate n 0xFF ++ 0xFE :: (withCrc buff ++ [0xFF])) := by
      rw [List.take_of_length_le hbuff.le]
      refine .bind (h.spiRwByte_mosi 0xFE) fun _ ↦ .ite (fun hnil ↦ ?_) fun _ ↦ ?_
      · rw [hnil] at hbuff
        cases hbuff
      refine .bind (h.sendBytes_mosi buff) fun _ ↦ .bind (h.spiRwByte_mosi _) fun _ ↦
        .bind (h.spiRwByte_mosi _) fun _ ↦ .bind (h.spiRwByte_mosi 0xFF) fun _ ↦
          .pure fun b' hb' ↦ ?_
      rw [hb', withCrc]
      simp
    exact hrest b' hn
  exact hsent b rfl

theorem sentFrame_eq {buff : List UInt8} (hbuff : buff.length = 512) {b : Bus κ}
    (hready : (h.waitReady b).1 = true) : h.sentFrame buff b = withCrc buff := by
  obtain ⟨n, hn⟩ := h.xmitDatablock_mosi hbuff hready
  have hlength : (withCrc buff).length = 514 := by rw [withCrc, List.length_append, hbuff]; rfl
  rw [sentFrame, hn, List.drop_left, List.dropWhile_append]
  simp [List.take_left' hlength]

end Sending

/-! ### Receiving -/

section Receiving

variable {After : κ → Prop}

theorem spiRwByte_sends (miso : UInt8) (rest : List UInt8) :
    Triple (fun b ↦ h.Sends (miso :: rest) After b.host) (h.spiRwByte 0xFF)
      fun res b ↦ res = miso ∧ h.Sends rest After b.host := fun _ hb ↦ hb

theorem readBytes_sends (data rest : List UInt8) :
    Triple (fun b ↦ h.Sends (data ++ rest) After b.host) (h.readBytes data.length)
      fun res b ↦ res = data ∧ h.Sends rest After b.host := by
  induction data with
  | nil => exact .pure fun b hb ↦ ⟨rfl, hb⟩
  | cons d data ih =>
    refine .bind (h.spiRwByte_sends d (data ++ rest)) fun d' ↦ .of_fact fun hd ↦ ?_
    refine .bind ih fun data' ↦ .of_fact fun hdata ↦ .pure fun b hb ↦ ⟨?_, hb⟩
    rw [hd, hdata]

theorem awaitToken_sends {token : UInt8} (htoken : token ≠ 0xFF) (rest : List UInt8) {n polls : ℕ}
    (hn : n ≤ polls) :
    Triple (fun b ↦ h.Sends (List.replicate n 0xFF ++ token :: rest) After b.host)
      (h.awaitToken polls) fun res b ↦ res = token ∧ h.Sends rest After b.host := by
  induction n generalizing polls with
  | zero =>
    cases polls with
    | zero => exact h.spiRwByte_sends token rest
    | succ polls =>
      refine .bind (h.spiRwByte_sends token rest) fun res ↦ .of_fact fun hres ↦ ?_
      rw [hres, if_neg htoken]
      exact .pure fun b hb ↦ ⟨rfl, hb⟩
  | succ n ih =>
    obtain ⟨polls, rfl⟩ := Nat.exists_eq_add_of_lt (Nat.lt_of_lt_of_le n.succ_pos hn)
    rw [Nat.zero_add] at hn ⊢
    refine .bind (h.spiRwByte_sends 0xFF _) fun res ↦ .of_fact fun hres ↦ ?_
    rw [if_pos hres]
    exact ih (Nat.le_of_succ_le_succ hn)

/-- **A frame is received** with its data, and its checksum decides. -/
theorem rcvrDatablock_sends (crcOn : Bool) (buff : List UInt8) (high low : UInt8) :
    Triple (fun b ↦ h.SendsFrame (buff ++ [high, low]) After b.host)
      (h.rcvrDatablock crcOn buff.length) fun res b ↦
        res = (!crcOn || decide (high.toUInt16 <<< 8 ||| low.toUInt16 = crc16 buff), buff) ∧
          After b.host := by
  rintro b ⟨n, hn, hsends⟩
  have hreceived : Triple
      (fun b' ↦ h.Sends (List.replicate n 0xFF ++ 0xFE :: (buff ++ [high, low])) After b'.host)
      (h.rcvrWithin crcOn buff.length (h.polls b.host)) fun res b' ↦
        res = (!crcOn || decide (high.toUInt16 <<< 8 ||| low.toUInt16 = crc16 buff), buff) ∧
          After b'.host := by
    refine .bind (h.awaitToken_sends (by decide) _ hn) fun token ↦ .of_fact fun htoken ↦
      .ite (fun hother ↦ absurd htoken hother) fun _ ↦ ?_
    refine .bind (h.readBytes_sends buff [high, low]) fun buff' ↦ .of_fact fun hbuff ↦ ?_
    refine .bind (h.spiRwByte_sends high [low]) fun high' ↦ .of_fact fun hhigh ↦ ?_
    refine .bind (h.spiRwByte_sends low []) fun low' ↦ .of_fact fun hlow ↦
      .pure fun b' hb' ↦ ⟨?_, hb'⟩
    rw [hbuff, hhigh, hlow]
  exact hreceived b hsends

end Receiving

end SpiHost

/-! ### The checksum -/

/-- The generator of `crc16`. -/
def crc16Generator : BitVec 16 := 0x1021#16

/-- The bytes, as the library of checksums has them. -/
def toBitVecs (frame : List UInt8) : List (BitVec 8) := frame.map UInt8.toBitVec

theorem crc16Generator_odd : (Crc.generator crc16Generator).coeff 0 ≠ 0 := by
  rw [Crc.generator, Polynomial.coeff_add, BitVec.coeff_poly]
  simp [crc16Generator]

theorem poly_setWidth (d : BitVec 8) : (d.setWidth 16).poly = d.poly := by
  ext i
  rw [BitVec.coeff_poly, BitVec.coeff_poly, BitVec.getLsbD_setWidth]
  by_cases hi : i < 16
  · simp [hi]
  · simp [hi, BitVec.getLsbD_of_ge d i (by omega)]

/-- Two bytes of checksum make a word. -/
theorem poly_checksum (high low : UInt8) :
    (high.toUInt16 <<< 8 ||| low.toUInt16).toBitVec.poly =
      Polynomial.X ^ 8 * high.toBitVec.poly + low.toBitVec.poly := by
  have hword : (high.toUInt16 <<< 8 ||| low.toUInt16).toBitVec =
      (high.toBitVec.setWidth 16 <<< (16 - 8)) ^^^ low.toBitVec.setWidth 16 := by
    refine BitVec.eq_of_getLsbD_eq fun i hi ↦ ?_
    rcases Nat.lt_or_ge i 8 with hlow | hhigh
    · simp [hlow]
    · simp [BitVec.getLsbD_of_ge low.toBitVec i hhigh]
  rw [hword, BitVec.poly_xor, Crc.poly_top (by decide), poly_setWidth]

/-- **The checksum is right** if the frame is a multiple of the generator. -/
theorem checksum_iff (buff : List UInt8) (high low : UInt8) :
    high.toUInt16 <<< 8 ||| low.toUInt16 = crc16 buff ↔
      Crc.Valid crc16Generator (toBitVecs (buff ++ [high, low])) := by
  have hmessage : Crc.message (toBitVecs (buff ++ [high, low])) =
      Polynomial.X ^ 16 * Crc.message (toBitVecs buff) +
        (high.toUInt16 <<< 8 ||| low.toUInt16).toBitVec.poly := by
    rw [poly_checksum, toBitVecs, List.map_append, Crc.message, List.foldl_append]
    show Polynomial.X ^ 8 * (Polynomial.X ^ 8 * Crc.message (toBitVecs buff) + _) + _ = _
    ring
  rw [Crc.Valid, hmessage, ← Crc.crc_eq_iff (by decide), eq_comm, ← UInt16.toBitVec_inj,
    crc16_toBitVec]
  rfl

/-- A frame that is sent is valid. -/
theorem valid_withCrc (buff : List UInt8) :
    Crc.Valid crc16Generator (toBitVecs (withCrc buff)) := by
  refine (checksum_iff buff _ _).1 ?_
  rw [← UInt16.toBitVec_inj]
  refine BitVec.eq_of_getLsbD_eq fun i hi ↦ ?_
  simp only [UInt16.toBitVec_or, UInt16.toBitVec_shiftLeft, UInt8.toBitVec_toUInt16,
    UInt16.toBitVec_toUInt8, UInt16.toBitVec_shiftRight, BitVec.getLsbD_or]
  rcases Nat.lt_or_ge i 8 with hlow | hhigh
  · simp [hlow, hi]
  · have hdown : i - 8 < 16 ∧ i - 8 < 8 ∧ 8 + (i - 8) = i := by omega
    simp [hi, Nat.not_lt.2 hhigh, hdown]

/-! ### The law -/

/-- The bits of a frame that have changed. -/
def changesOf (frame frame' : List UInt8) : List Bool :=
  changedBits (toBitVecs frame) (toBitVecs frame')

/-- A changed frame is not valid. -/
theorem not_valid_of_changes {buff frame : List UInt8} (hbuff : buff.length = 512)
    (hframe : frame.length = 514) (h : IsBurst 16 (changesOf (withCrc buff) frame) ∨
      IsTwoBits (changesOf (withCrc buff) frame)) :
    ¬ Crc.Valid crc16Generator (toBitVecs frame) := by
  have hlength : (toBitVecs (withCrc buff)).length = 514 := by
    rw [toBitVecs, List.length_map, withCrc, List.length_append, hbuff]
    rfl
  have hlength' : (toBitVecs frame).length = 514 := by rwa [toBitVecs, List.length_map]
  refine Crc.not_valid_of_changed (by decide) crc16Generator_odd (valid_withCrc buff)
    (hlength'.trans hlength.symm) ?_ h
  -- the register is not back at 1 for as many steps as a frame has bits
  rw [hlength]
  decide +kernel

/-- **Frames round-trip and errors are caught.** A frame that arrives as `xmit_datablock` has sent
it is accepted and gives the block back; one with a change of at most 16 adjacent bits, or of two
bits, is not accepted. -/
theorem frames_checked {κ κ' : Type} (sender : SpiHost κ) (receiver : SpiHost κ') (b : Bus κ)
    (b' : Bus κ') {buff : List UInt8} (hbuff : buff.length = 512)
    (hready : (sender.waitReady b).1 = true) :
    (receiver.Delivers (sender.sentFrame buff b) b' →
        (receiver.rcvrDatablock true 512 b').1 = (true, buff)) ∧
      ∀ frame : List UInt8, frame.length = 514 →
        (IsBurst 16 (changesOf (sender.sentFrame buff b) frame) ∨
          IsTwoBits (changesOf (sender.sentFrame buff b) frame)) →
        receiver.Delivers frame b' → (receiver.rcvrDatablock true 512 b').1.1 = false := by
  rw [sender.sentFrame_eq hbuff hready]
  refine ⟨fun hdelivers ↦ ?_, fun frame hframe hchanged hdelivers ↦ ?_⟩
  · have hreceived := receiver.rcvrDatablock_sends true buff _ _ b' hdelivers
    rw [(checksum_iff buff _ _).2 (valid_withCrc buff), hbuff] at hreceived
    simpa using hreceived
  · obtain ⟨data, high, low, rfl, hdata⟩ : ∃ data high low, frame = data ++ [high, low] ∧
        data.length = 512 := by
      have hrest : (frame.drop 512).length = 2 := by rw [List.length_drop, hframe]
      obtain ⟨high, low, hpair⟩ := List.length_eq_two.1 hrest
      refine ⟨frame.take 512, high, low, ?_, List.length_take_of_le (by omega)⟩
      rw [← hpair, List.take_append_drop]
    have hreceived := (receiver.rcvrDatablock_sends true data high low b' hdelivers).1
    have hwrong := not_valid_of_changes hbuff hframe hchanged
    rw [← checksum_iff] at hwrong
    rw [hdata] at hreceived
    rw [hreceived]
    simp [hwrong]

theorem scriptHost_sends (bytes : List UInt8) :
    scriptHost.Sends bytes (fun _ ↦ True) bytes := by
  induction bytes with
  | nil => trivial
  | cons miso rest ih => exact ⟨rfl, ih⟩

/-- A block of zeros, from one card to another. -/
theorem frames_checked_zeros :
    (scriptHost.rcvrDatablock true 512 ⟨0xFE :: withCrc (List.replicate 512 0), []⟩).1 =
      (true, List.replicate 512 0) := by
  have hready : (scriptHost.waitReady ⟨[0xFF], []⟩).1 = true := by decide
  refine (frames_checked scriptHost scriptHost ⟨[0xFF], []⟩ _ List.length_replicate hready).1 ?_
  rw [scriptHost.sentFrame_eq List.length_replicate hready]
  exact ⟨0, Nat.zero_le _, scriptHost_sends _⟩
