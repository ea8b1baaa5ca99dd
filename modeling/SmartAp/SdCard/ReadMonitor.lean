import SmartAp.SdCard.Monitor
import Mathlib.Data.List.GetD

/-!
# What the card sends in a read

A second monitor beside the bus, for the other direction. It reads the packets of commands from the
bytes that go out, and the answers, the tokens and the blocks from the bytes that come in
(`ReadPhase`). What it has understood is a list of entries (`ReadEntry`). It knows nothing of the
driver; the lemmas below say what each protocol function lets it see.

What comes next on the bus is decided by the command and its answer (`ReadPhase.afterAnswer`): after
an accepted read command a token is due, after the token 512 bytes and a checksum, and then another
token or nothing (`ReadPhase.afterBlock`). A block enters the log with its checksum, whether that is
right or wrong, so that a law of reads can say which blocks a result may rest on.

The lemmas follow the protocol functions upwards: bytes, waits, the answer (`awaitAnswer_reader`), a
command (`sendPlainCmd_reader`), the token, and a block that is awaited (`rcvrWithin_reader`), where
the two ends of `rcvr_datablock` are told apart: no block comes, or one comes and its checksum
decides.
-/

/-- What comes next on the bus. -/
inductive ReadPhase
  | command
  /-- The rest of a packet, after these bytes. -/
  | frame (bytes : List UInt8)
  /-- A byte that means nothing, after the packet of `CMD12`. -/
  | stuff (packet : List UInt8)
  /-- The answer to a packet, within one more poll than `polls`. -/
  | answer (packet : List UInt8) (polls : ℕ)
  /-- A token from the card, after this command, or else the next packet. -/
  | token (cmd : UInt8)
  /-- The rest of a block, after these bytes. -/
  | block (cmd : UInt8) (bytes : List UInt8)

/-- What was understood. -/
inductive ReadEntry
  | deselected
  | sent (packet : List UInt8)
  | answered (packet : List UInt8) (r1 : UInt8)
  /-- A token that does not begin a block. -/
  | token (value : UInt8)
  /-- The bytes of a block are its 512 bytes and the checksum. -/
  | block (bytes : List UInt8)
  deriving DecidableEq

/-- What follows a packet. -/
def ReadPhase.afterPacket (packet : List UInt8) : ReadPhase :=
  if packet.head? = some (0x40 ||| cmd12) then .stuff packet else .answer packet 9

/-- What follows an answer. -/
def ReadPhase.afterAnswer (packet : List UInt8) (r1 : UInt8) : ReadPhase :=
  if r1 = 0 ∧ packet.head? = some (0x40 ||| cmd17) then .token cmd17
  else if r1 = 0 ∧ packet.head? = some (0x40 ||| cmd18) then .token cmd18
  else .command

/-- What follows a block. -/
def ReadPhase.afterBlock (cmd : UInt8) : ReadPhase := if cmd = cmd17 then .command else .token cmd

/-- What comes next, and what has been understood so far. -/
structure ReadMonitor where
  phase : ReadPhase
  log : List ReadEntry

namespace ReadMonitor

/-- A byte was exchanged. -/
def byte : ReadMonitor → (mosi miso : UInt8) → ReadMonitor
  | ⟨.command, log⟩, mosi, _ => ⟨if mosi &&& 0xC0 = 0x40 then .frame [mosi] else .command, log⟩
  | ⟨.frame bytes, log⟩, mosi, _ =>
    if bytes.length = 5 then ⟨.afterPacket (bytes ++ [mosi]), log ++ [.sent (bytes ++ [mosi])]⟩
    else ⟨.frame (bytes ++ [mosi]), log⟩
  | ⟨.stuff packet, log⟩, _, _ => ⟨.answer packet 9, log⟩
  | ⟨.answer packet polls, log⟩, _, miso =>
    if miso &&& 0x80 = 0 then ⟨.afterAnswer packet miso, log ++ [.answered packet miso]⟩
    else match polls with
      | 0 => ⟨.command, log⟩
      | polls + 1 => ⟨.answer packet polls, log⟩
  | ⟨.token cmd, log⟩, mosi, miso =>
    if mosi &&& 0xC0 = 0x40 then ⟨.frame [mosi], log⟩
    else if miso = 0xFF then ⟨.token cmd, log⟩
    else if miso = 0xFE then ⟨.block cmd [], log⟩
    else ⟨.command, log ++ [.token miso]⟩
  | ⟨.block cmd bytes, log⟩, _, miso =>
    if bytes.length = 513 then ⟨.afterBlock cmd, log ++ [.block (bytes ++ [miso])]⟩
    else ⟨.block cmd (bytes ++ [miso]), log⟩

def event (m : ReadMonitor) : BusEvent → ReadMonitor
  | .cs true => ⟨.command, m.log ++ [.deselected]⟩
  | .cs false => ⟨.command, m.log⟩
  | .byte mosi miso => m.byte mosi miso

/-- A packet may begin. -/
def Between (m : ReadMonitor) : Prop := m.phase = .command ∨ ∃ cmd, m.phase = .token cmd

/-- Between commands a byte with the start bits begins a frame. -/
theorem byte_between {m : ReadMonitor} (h : m.Between) {mosi : UInt8} (hmosi : mosi &&& 0xC0 = 0x40)
    (miso : UInt8) : m.byte mosi miso = ⟨.frame [mosi], m.log⟩ := by
  obtain ⟨phase, log⟩ := m
  rcases h with hphase | ⟨cmd, hphase⟩
  · obtain rfl : phase = .command := hphase
    rw [byte, if_pos hmosi]
  · obtain rfl : phase = .token cmd := hphase
    rw [byte, if_pos hmosi]

end ReadMonitor

/-- The monitor of a bus. -/
def Bus.reader {κ : Type} (b : Bus κ) : ReadMonitor :=
  b.trace.foldl ReadMonitor.event ⟨.command, []⟩

/-- The packet was answered with `res`, or not at all if the highest bit of `res` is set. -/
def ReadAnswered (packet : List UInt8) (log : List ReadEntry) (res : UInt8) (m : ReadMonitor) :
    Prop :=
  if res &&& 0x80 = 0 then m = ⟨.afterAnswer packet res, log ++ [.answered packet res]⟩
  else m = ⟨.command, log⟩

namespace SpiHost

variable {κ : Type} (h : SpiHost κ) {m : ReadMonitor} {log : List ReadEntry}

/-! ### Bytes -/

theorem spiRwByte_reader (data : UInt8) : Triple (fun b ↦ b.reader = m) (h.spiRwByte data)
    fun miso b ↦ b.reader = m.byte data miso := h.spiRwByte_observed data

theorem setCs_reader (level : Bool) : Triple (fun b ↦ b.reader = m) (h.setCs level)
    fun _ b ↦ b.reader = m.event (.cs level) := h.setCs_observed level

/-- Bytes `0xFF` between commands. -/
theorem spiRwByte_command : Triple (fun b ↦ b.reader = ⟨.command, log⟩) (h.spiRwByte 0xFF)
    fun _ b ↦ b.reader = ⟨.command, log⟩ :=
  h.spiRwByte_reader 0xFF

/-- Bytes that go on with a packet. -/
theorem sendBytes_packet (data bytes : List UInt8) (hlen : bytes.length + data.length ≤ 5) :
    Triple (fun b ↦ b.reader = ⟨.frame bytes, log⟩) (h.sendBytes data)
      fun _ b ↦ b.reader = ⟨.frame (bytes ++ data), log⟩ := by
  have hstep : ∀ bytes d miso, bytes.length < 5 →
      ReadMonitor.event ⟨.frame bytes, log⟩ (.byte d miso) = ⟨.frame (bytes ++ [d]), log⟩ :=
    fun _ _ _ hlt ↦ if_neg (Nat.ne_of_lt hlt)
  exact h.sendBytes_observed (fun bytes ↦ (⟨.frame bytes, log⟩ : ReadMonitor)) hstep data bytes hlen

/-! ### The select line and the wait -/

/-- To wait for the card sends no command. -/
theorem waitReady_command : Triple (fun b ↦ b.reader = ⟨.command, log⟩) h.waitReady
    fun _ b ↦ b.reader = ⟨.command, log⟩ :=
  h.waitReady_observed fun _ ↦ rfl

/-- To deselect the card ends what it was sending. -/
theorem deselect_reader : Triple (fun b ↦ b.reader.log = log) h.deselect
    fun _ b ↦ b.reader = ⟨.command, log ++ [.deselected]⟩ := by
  rintro b rfl
  have hcs : Triple (fun b' ↦ b'.reader = b.reader) h.deselect
      fun _ b' ↦ b'.reader = ⟨.command, b.reader.log ++ [.deselected]⟩ :=
    .bind (h.setCs_reader true) fun _ ↦ .bind h.spiRwByte_command fun _ ↦ .pure fun _ hb ↦ hb
  exact hcs b rfl

/-- A card that does not get ready is deselected again. -/
theorem selectCard_reader : Triple (fun b ↦ b.reader = ⟨.command, log⟩) h.selectCard fun ok b ↦
    if ok then b.reader = ⟨.command, log⟩ else b.reader = ⟨.command, log ++ [.deselected]⟩ := by
  refine .bind (h.setCs_reader false) fun _ ↦ .bind h.spiRwByte_command fun _ ↦
    .bind h.waitReady_command fun ok ↦ .ite (fun _ ↦ ?_) fun _ ↦ ?_
  · exact .pure fun _ hb ↦ hb
  · have hdeselect : Triple (fun b ↦ b.reader = ⟨.command, log⟩) h.deselect
        fun _ b ↦ b.reader = ⟨.command, log ++ [.deselected]⟩ :=
      h.deselect_reader.weaken (fun b hb ↦ by rw [hb]) fun _ _ ↦ id
    exact .bind hdeselect fun _ ↦ .pure fun _ hb ↦ hb

/-! ### Commands -/

/-- The answer is the first byte without the top bit, if one comes in time. -/
theorem awaitAnswer_reader (packet : List UInt8) (n : ℕ) :
    Triple (fun b ↦ b.reader = ⟨.answer packet n, log⟩) (h.awaitAnswer n)
      fun res b ↦ ReadAnswered packet log res b.reader := by
  induction n with
  | zero =>
    refine (h.spiRwByte_reader 0xFF).weaken (fun _ ↦ id) fun res b hb ↦ ?_
    rw [hb, ReadMonitor.byte, ReadAnswered]
    split <;> rfl
  | succ n ih =>
    refine .bind (h.spiRwByte_reader 0xFF) fun res ↦ .ite (fun hres ↦ ?_) fun hres ↦ ?_
    · refine ih.weaken (fun b hb ↦ ?_) fun _ _ ↦ id
      rw [hb, ReadMonitor.byte, if_neg hres]
    · refine .pure fun b hb ↦ ?_
      rw [not_not] at hres
      rw [hb, ReadMonitor.byte, ReadAnswered, if_pos hres, if_pos hres]

/-- A packet is sent, and may be answered. -/
theorem sendFrame_reader {cmd : UInt8} (hcmd : (0x40 ||| cmd) &&& 0xC0 = 0x40)
    (hinj : 0x40 ||| cmd = 0x40 ||| cmd12 → cmd = cmd12) (arg : UInt32) (hm : m.Between) :
    Triple (fun b ↦ b.reader = m) (h.sendFrame cmd arg) fun res b ↦
      ReadAnswered (packet cmd arg) (m.log ++ [.sent (packet cmd arg)]) res b.reader := by
  have hframe : Triple (fun b ↦ b.reader = m) (h.sendBytes (frame cmd arg))
      fun _ b ↦ b.reader = ⟨.frame (frame cmd arg), m.log⟩ := by
    refine .bind (h.spiRwByte_reader (0x40 ||| cmd)) fun _ ↦ ?_
    refine (h.sendBytes_packet _ [0x40 ||| cmd] (le_refl 5)).weaken (fun b hb ↦ ?_) fun _ _ ↦ id
    rw [hb, ReadMonitor.byte_between hm hcmd]
  have hcrc : Triple (fun b ↦ b.reader = ⟨.frame (frame cmd arg), m.log⟩)
      (h.spiRwByte (crc7 (frame cmd arg))) fun _ b ↦
        b.reader = ⟨.afterPacket (packet cmd arg), m.log ++ [.sent (packet cmd arg)]⟩ :=
    h.spiRwByte_reader _
  refine .bind hframe fun _ ↦ .bind hcrc fun _ ↦ .ite (fun hstuff ↦ ?_) fun hstuff ↦ ?_
  · subst hstuff
    exact .bind (h.spiRwByte_reader 0xFF) fun _ ↦ h.awaitAnswer_reader _ 9
  · have hphase : ReadPhase.afterPacket (packet cmd arg) = .answer (packet cmd arg) 9 :=
      if_neg fun hhead ↦ hstuff (hinj (Option.some.inj hhead))
    rw [hphase]
    exact h.awaitAnswer_reader (packet cmd arg) 9

/-- What the way to the card leaves in the log. -/
def Approach (pre : List ReadEntry) (packet : List UInt8) (res : UInt8) (log : List ReadEntry)
    (m : ReadMonitor) : Prop :=
  (∀ e ∈ pre, e = .deselected) ∧
    (ReadAnswered packet (log ++ pre ++ [.sent packet]) res m ∨
      res = 0xFF ∧ m = ⟨.command, log ++ pre⟩)

/-- A command other than `CMD0` and `CMD12`: the card is selected anew. -/
theorem sendPlainCmd_reader (cmd : UInt8) (hcmd : (0x40 ||| cmd) &&& 0xC0 = 0x40)
    (hinj : 0x40 ||| cmd = 0x40 ||| cmd12 → cmd = cmd12) (hidle : cmd ≠ cmd0) (hstuff : cmd ≠ cmd12)
    (arg : UInt32) :
    Triple (fun b ↦ b.reader.log = log) (h.sendPlainCmd cmd arg) fun res b ↦
      ∃ pre, Approach pre (packet cmd arg) res log b.reader := by
  refine .ite (fun _ ↦ ?_) fun hother ↦ absurd ⟨hidle, hstuff⟩ hother
  refine .bind h.deselect_reader fun _ ↦ .bind h.selectCard_reader fun ok ↦
    .ite (fun hok ↦ ?_) fun hok ↦ ?_
  · simp only [hok, if_true]
    refine (h.sendFrame_reader hcmd hinj arg (.inl rfl)).weaken (fun _ ↦ id) fun res b hb ↦ ?_
    exact ⟨[.deselected], by simp, .inl hb⟩
  · simp only [hok, Bool.false_eq_true, if_false]
    refine .pure fun b hb ↦ ⟨[.deselected, .deselected], by simp, .inr ⟨rfl, ?_⟩⟩
    rw [hb, List.append_assoc]
    rfl

/-! ### Blocks -/

/-- The token is the first byte that is no fill byte, if one came in time. -/
theorem awaitToken_reader {cmd : UInt8} (n : ℕ) :
    Triple (fun b ↦ b.reader = ⟨.token cmd, log⟩) (h.awaitToken n)
      fun token b ↦ b.reader = if token = 0xFF then ⟨.token cmd, log⟩
        else if token = 0xFE then ⟨.block cmd [], log⟩ else ⟨.command, log ++ [.token token]⟩ := by
  induction n with
  | zero => exact h.spiRwByte_reader 0xFF
  | succ n ih =>
    refine .bind (h.spiRwByte_reader 0xFF) fun token ↦ .ite (fun htoken ↦ ?_) fun _ ↦ ?_
    · refine ih.weaken (fun b hb ↦ ?_) fun _ _ ↦ id
      rw [hb, htoken]
      rfl
    · exact .pure fun _ hb ↦ hb

/-- Bytes that go on with a block. -/
theorem readBytes_reader {cmd : UInt8} (n : ℕ) (bytes : List UInt8)
    (hlen : bytes.length + n ≤ 513) :
    Triple (fun b ↦ b.reader = ⟨.block cmd bytes, log⟩) (h.readBytes n)
      fun data b ↦ data.length = n ∧ b.reader = ⟨.block cmd (bytes ++ data), log⟩ := by
  induction n generalizing bytes with
  | zero => exact .pure fun b hb ↦ ⟨rfl, by rw [hb, List.append_nil]⟩
  | succ n ih =>
    refine .bind (h.spiRwByte_reader 0xFF) fun d ↦ ?_
    have hrest := ih (bytes ++ [d]) (by rw [List.length_append, List.length_singleton]; omega)
    refine .bind (hrest.weaken (fun b hb ↦ ?_) fun _ _ ↦ id) fun data ↦ .pure fun b hb ↦ ?_
    · rw [hb, ReadMonitor.byte, if_neg (by omega)]
    · refine ⟨congrArg (· + 1) hb.1, ?_⟩
      rw [hb.2, List.append_assoc, List.singleton_append]

end SpiHost

/-- The last two bytes are the checksum of the ones before them. -/
def ChecksumRight (bytes : List UInt8) : Prop :=
  (bytes.getD 512 0).toUInt16 <<< 8 ||| (bytes.getD 513 0).toUInt16 = crc16 (bytes.take 512)

namespace SpiHost

variable {κ : Type} (h : SpiHost κ) {m : ReadMonitor} {log : List ReadEntry}

/-- **A block is awaited**: it does not come, or it does and the checksum decides. -/
theorem rcvrWithin_reader {cmd : UInt8} (crcOn : Bool) (polls : ℕ) :
    Triple (fun b ↦ b.reader = ⟨.token cmd, log⟩) (h.rcvrWithin crcOn 512 polls) fun res b ↦
      (res = (false, []) ∧ (b.reader = ⟨.token cmd, log⟩ ∨
        ∃ token, b.reader = ⟨.command, log ++ [.token token]⟩)) ∨
      ∃ bytes, bytes.length = 514 ∧ res.2 = bytes.take 512 ∧
        (res.1 = true ↔ (crcOn = true → ChecksumRight bytes)) ∧
        b.reader = ⟨.afterBlock cmd, log ++ [.block bytes]⟩ := by
  refine .bind (h.awaitToken_reader polls) fun token ↦
    .ite (fun htoken ↦ .pure fun b hb ↦ ?_) fun htoken ↦ ?_
  · refine .inl ⟨rfl, ?_⟩
    rw [if_neg htoken] at hb
    split at hb
    · exact .inl hb
    · exact .inr ⟨token, hb⟩
  · rw [not_not] at htoken
    subst htoken
    refine .bind (h.readBytes_reader 512 [] (by decide)) fun buff ↦ .of_fact fun hbuff ↦ ?_
    refine .bind (h.spiRwByte_reader 0xFF) fun high ↦ .bind (h.spiRwByte_reader 0xFF) fun low ↦
      .pure fun b hb ↦ .inr ⟨buff ++ [high, low], ?_, ?_, ?_, ?_⟩
    · rw [List.length_append, hbuff]
      rfl
    · rw [List.take_left' hbuff]
    · rw [ChecksumRight, List.take_left' hbuff]
      have hhigh : (buff ++ [high, low]).getD 512 0 = high := by
        rw [List.getD_append_right _ _ _ _ hbuff.le, hbuff]
        rfl
      have hlow : (buff ++ [high, low]).getD 513 0 = low := by
        rw [List.getD_append_right _ _ _ _ (by omega), hbuff]
        rfl
      rw [hhigh, hlow]
      cases crcOn <;> simp
    · rw [hb, List.nil_append, ReadMonitor.byte, if_neg (by omega), ReadMonitor.byte,
        if_pos (by rw [List.length_append, hbuff]; rfl), List.append_assoc, List.singleton_append]

end SpiHost
