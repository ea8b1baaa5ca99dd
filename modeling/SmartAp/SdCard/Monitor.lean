import SmartAp.SdCard.Bus

/-!
# What the card reads from the bus

A monitor beside the bus reads it as a card does: packets of commands, and after an accepted `CMD24`
or `CMD25` the blocks and the stop token (`CardPhase`). What it has understood is a list of entries
(`BusEntry`). It knows nothing of the driver; the lemmas below say what each protocol function lets
it see.

## Why there is one

What a driver has sent cannot be read off its calls: a block that is begun and a block that is sent
are different things, and a byte means something only by what came before. The monitor is defined
from the side of the card, by the bytes in both directions and the select line, and its state is
reached from the record of the bus by a fold. A theorem about the driver can then speak of blocks
and tokens and stays true if the driver is written in another way.

## The lemmas

Each is a triple with the monitor before and after: a byte that means nothing (`spiRwByte_idle`),
the bytes of a packet and of a block (`sendBytes_frame`, `sendBytes_block`), the waits, a whole
command (`sendPlainCmd_monitor`), and a whole block with its response (`xmitDatablock_monitor`,
`xmitDatablock_stop`). The modules above use these and never the steps of the monitor.
-/

/-- What a card is waiting for. -/
inductive CardPhase
  | command
  /-- The rest of a packet, after these bytes. -/
  | frame (bytes : List UInt8)
  /-- The answer to a packet is due, within one more poll than `polls`. -/
  | answer (packet : List UInt8) (polls : ℕ)
  /-- A token, after this command. -/
  | data (cmd : UInt8)
  /-- The rest of a block, after these bytes. -/
  | block (cmd token : UInt8) (bytes : List UInt8)
  /-- The response to a block is due. -/
  | response (cmd token : UInt8) (bytes : List UInt8)
  /-- The end of the programming, after a stop token. -/
  | stopped

/-- What was understood. -/
inductive BusEntry
  | deselected
  | answered (packet : List UInt8) (r1 : UInt8)
  /-- The bytes of a block are its 512 bytes and the checksum. -/
  | block (token : UInt8) (bytes : List UInt8) (response : UInt8)
  | stop
  | ready
  deriving DecidableEq

/-- What follows an answer. -/
def CardPhase.afterAnswer (packet : List UInt8) (r1 : UInt8) : CardPhase :=
  if r1 = 0 ∧ packet.head? = some (0x40 ||| cmd24) then .data cmd24
  else if r1 = 0 ∧ packet.head? = some (0x40 ||| cmd25) then .data cmd25
  else .command

/-- What the card waits for, and what has been understood so far. -/
@[ext]
structure Monitor where
  phase : CardPhase
  log : List BusEntry

namespace Monitor

/-- A byte was exchanged. -/
def byte : Monitor → (mosi miso : UInt8) → Monitor
  | ⟨.command, log⟩, mosi, _ => ⟨if mosi &&& 0xC0 = 0x40 then .frame [mosi] else .command, log⟩
  | ⟨.frame bytes, log⟩, mosi, _ =>
    ⟨if bytes.length = 5 then .answer (bytes ++ [mosi]) 9 else .frame (bytes ++ [mosi]), log⟩
  | ⟨.answer packet polls, log⟩, _, miso =>
    if miso &&& 0x80 = 0 then ⟨.afterAnswer packet miso, log ++ [.answered packet miso]⟩
    else match polls with
      | 0 => ⟨.command, log⟩
      | polls + 1 => ⟨.answer packet polls, log⟩
  | ⟨.data cmd, log⟩, mosi, _ =>
    if mosi = 0xFF then ⟨.data cmd, log⟩
    else if mosi = 0xFD then ⟨.stopped, log ++ [.stop]⟩
    else ⟨.block cmd mosi [], log⟩
  | ⟨.block cmd token bytes, log⟩, mosi, _ =>
    ⟨if bytes.length = 513 then .response cmd token (bytes ++ [mosi])
      else .block cmd token (bytes ++ [mosi]), log⟩
  | ⟨.response cmd token bytes, log⟩, _, miso =>
    ⟨if cmd = cmd24 then .command else .data cmd, log ++ [.block token bytes miso]⟩
  | ⟨.stopped, log⟩, _, miso =>
    if miso = 0xFF then ⟨.command, log ++ [.ready]⟩ else ⟨.stopped, log⟩

def event (m : Monitor) : BusEvent → Monitor
  | .cs true => ⟨.command, m.log ++ [.deselected]⟩
  | .cs false => ⟨.command, m.log⟩
  | .byte mosi miso => m.byte mosi miso

/-- A byte `0xFF` means nothing to the card. -/
def Idle (m : Monitor) : Prop := ∀ miso, m.byte 0xFF miso = m

theorem idle_command (log : List BusEntry) : Idle ⟨.command, log⟩ := fun _ ↦ rfl

theorem idle_data (cmd : UInt8) (log : List BusEntry) : Idle ⟨.data cmd, log⟩ := fun _ ↦ rfl

end Monitor

/-- The monitor of a bus. -/
def Bus.monitor {κ : Type} (b : Bus κ) : Monitor := b.trace.foldl Monitor.event ⟨.command, []⟩

/-- The six bytes of a command. -/
def packet (cmd : UInt8) (arg : UInt32) : List UInt8 :=
  SpiHost.frame cmd arg ++ [crc7 (SpiHost.frame cmd arg)]

/-- The packet was answered with `res`, or not at all if the highest bit of `res` is set. -/
def Answered (packet : List UInt8) (log : List BusEntry) (res : UInt8) (m : Monitor) : Prop :=
  if res &&& 0x80 = 0 then m = ⟨.afterAnswer packet res, log ++ [.answered packet res]⟩
  else m = ⟨.command, log⟩

/-- A block with its checksum, as it goes over the bus. -/
def withCrc (buff : List UInt8) : List UInt8 :=
  buff ++ [(crc16 buff >>> 8).toUInt8, (crc16 buff).toUInt8]

namespace SpiHost

variable {κ : Type} (h : SpiHost κ) {m : Monitor} {log : List BusEntry}

/-! ### Bytes -/

theorem spiRwByte_monitor (data : UInt8) : Triple (fun b ↦ b.monitor = m) (h.spiRwByte data)
    fun miso b ↦ b.monitor = m.byte data miso := h.spiRwByte_observed data

theorem setCs_monitor (level : Bool) : Triple (fun b ↦ b.monitor = m) (h.setCs level)
    fun _ b ↦ b.monitor = m.event (.cs level) := h.setCs_observed level

/-- What is read with `0xFF` does not count. -/
theorem spiRwByte_idle (hidle : m.Idle) : Triple (fun b ↦ b.monitor = m) (h.spiRwByte 0xFF)
    fun _ b ↦ b.monitor = m :=
  (h.spiRwByte_monitor 0xFF).weaken (fun _ ↦ id) fun miso _ hb ↦ hb.trans (hidle miso)

/-- Bytes that go on with a packet. -/
theorem sendBytes_frame (data bytes : List UInt8) (hlen : bytes.length + data.length ≤ 5) :
    Triple (fun b ↦ b.monitor = ⟨.frame bytes, log⟩) (h.sendBytes data)
      fun _ b ↦ b.monitor = ⟨.frame (bytes ++ data), log⟩ := by
  have hstep : ∀ bytes d miso, bytes.length < 5 →
      Monitor.event ⟨.frame bytes, log⟩ (.byte d miso) = ⟨.frame (bytes ++ [d]), log⟩ :=
    fun _ _ _ hlt ↦ congrArg (Monitor.mk · log) (if_neg (Nat.ne_of_lt hlt))
  exact h.sendBytes_observed (fun bytes ↦ (⟨.frame bytes, log⟩ : Monitor)) hstep data bytes hlen

/-- Bytes that go on with a block. -/
theorem sendBytes_block {cmd token : UInt8} (data bytes : List UInt8)
    (hlen : bytes.length + data.length ≤ 513) :
    Triple (fun b ↦ b.monitor = ⟨.block cmd token bytes, log⟩) (h.sendBytes data)
      fun _ b ↦ b.monitor = ⟨.block cmd token (bytes ++ data), log⟩ := by
  have hstep : ∀ bytes d miso, bytes.length < 513 → Monitor.event ⟨.block cmd token bytes, log⟩
      (.byte d miso) = ⟨.block cmd token (bytes ++ [d]), log⟩ :=
    fun _ _ _ hlt ↦ congrArg (Monitor.mk · log) (if_neg (Nat.ne_of_lt hlt))
  exact h.sendBytes_observed (fun bytes ↦ (⟨.block cmd token bytes, log⟩ : Monitor)) hstep data
    bytes hlen

/-! ### The select line and the wait -/

/-- A wait in which nothing is understood. -/
theorem waitReady_idle (hidle : m.Idle) :
    Triple (fun b ↦ b.monitor = m) h.waitReady fun _ b ↦ b.monitor = m :=
  h.waitReady_observed hidle

/-- The wait after a stop token: the card is ready, or still busy. -/
theorem waitReady_stopped : Triple (fun b ↦ b.monitor = ⟨.stopped, log⟩) h.waitReady fun ok b ↦
    if ok then b.monitor = ⟨.command, log ++ [.ready]⟩ else b.monitor = ⟨.stopped, log⟩ := by
  intro b hb
  refine Triple.repeatUntil (P := fun b ↦ b.monitor = ⟨.stopped, log⟩)
    (Q := fun b ↦ b.monitor = ⟨.command, log ++ [.ready]⟩) ?_ (.pure ⟨⟩) (h.polls b.host) b hb
  refine .bind (h.spiRwByte_monitor 0xFF) fun d ↦ .pure fun b hb ↦ ?_
  rw [hb, Monitor.byte]
  by_cases hd : d = 0xFF <;> simp [hd]

theorem deselect_monitor : Triple (fun b ↦ b.monitor.log = log) h.deselect
    fun _ b ↦ b.monitor = ⟨.command, log ++ [.deselected]⟩ := by
  rintro b rfl
  have hcs : Triple (fun b' ↦ b'.monitor = b.monitor) h.deselect
      fun _ b' ↦ b'.monitor = ⟨.command, b.monitor.log ++ [.deselected]⟩ :=
    .bind (h.setCs_monitor true) fun _ ↦
      .bind (h.spiRwByte_idle (Monitor.idle_command _)) fun _ ↦ .pure fun _ hb ↦ hb
  exact hcs b rfl

theorem selectCard_monitor : Triple (fun b ↦ b.monitor = ⟨.command, log⟩) h.selectCard fun ok b ↦
    if ok then b.monitor = ⟨.command, log⟩
    else b.monitor = ⟨.command, log ++ [.deselected]⟩ := by
  refine .bind (h.setCs_monitor false) fun _ ↦
    .bind (h.spiRwByte_idle (Monitor.idle_command log)) fun _ ↦
      .bind (h.waitReady_idle (Monitor.idle_command log)) fun ok ↦ .ite (fun _ ↦ ?_) fun _ ↦ ?_
  · exact .pure fun _ hb ↦ hb
  · have hdeselect : Triple (fun b ↦ b.monitor = ⟨.command, log⟩) h.deselect
        fun _ b ↦ b.monitor = ⟨.command, log ++ [.deselected]⟩ :=
      h.deselect_monitor.weaken (fun b hb ↦ by rw [hb]) fun _ _ ↦ id
    exact .bind hdeselect fun _ ↦ .pure fun _ hb ↦ hb

/-! ### Commands -/

theorem awaitAnswer_monitor (packet : List UInt8) (n : ℕ) :
    Triple (fun b ↦ b.monitor = ⟨.answer packet n, log⟩) (h.awaitAnswer n)
      fun res b ↦ Answered packet log res b.monitor := by
  induction n with
  | zero =>
    refine (h.spiRwByte_monitor 0xFF).weaken (fun _ ↦ id) fun res b hb ↦ ?_
    rw [hb, Monitor.byte, Answered]
    split <;> rfl
  | succ n ih =>
    refine .bind (h.spiRwByte_monitor 0xFF) fun res ↦ .ite (fun hres ↦ ?_) fun hres ↦ ?_
    · refine ih.weaken (fun b hb ↦ ?_) fun _ _ ↦ id
      rw [hb, Monitor.byte, if_neg hres]
    · refine .pure fun b hb ↦ ?_
      rw [not_not] at hres
      rw [hb, Monitor.byte, Answered, if_pos hres, if_pos hres]

theorem sendFrame_monitor {cmd : UInt8} (hcmd : (0x40 ||| cmd) &&& 0xC0 = 0x40)
    (hstuff : cmd ≠ cmd12) (arg : UInt32) :
    Triple (fun b ↦ b.monitor = ⟨.command, log⟩) (h.sendFrame cmd arg)
      fun res b ↦ Answered (packet cmd arg) log res b.monitor := by
  have hframe : Triple (fun b ↦ b.monitor = ⟨.command, log⟩) (h.sendBytes (frame cmd arg))
      fun _ b ↦ b.monitor = ⟨.frame (frame cmd arg), log⟩ := by
    refine .bind (h.spiRwByte_monitor (0x40 ||| cmd)) fun _ ↦ ?_
    refine (h.sendBytes_frame _ [0x40 ||| cmd] (le_refl 5)).weaken (fun b hb ↦ ?_) fun _ _ ↦ id
    rw [hb, Monitor.byte, if_pos hcmd]
  refine .bind hframe fun _ ↦ .bind (h.spiRwByte_monitor _) fun _ ↦ ?_
  refine .ite (fun hstuff' ↦ absurd hstuff' hstuff) fun _ ↦ ?_
  exact h.awaitAnswer_monitor (packet cmd arg) 9

/-- A command other than `CMD0` and `CMD12`: the card is selected anew, and the packet may be
answered. -/
theorem sendPlainCmd_monitor (cmd : UInt8) (hcmd : (0x40 ||| cmd) &&& 0xC0 = 0x40)
    (hidle : cmd ≠ cmd0) (hstuff : cmd ≠ cmd12) (arg : UInt32) :
    Triple (fun b ↦ b.monitor.log = log) (h.sendPlainCmd cmd arg) fun res b ↦
      ∃ pre, (∀ e ∈ pre, e = .deselected) ∧
        Answered (packet cmd arg) (log ++ pre) res b.monitor := by
  refine .ite (fun _ ↦ ?_) fun hother ↦ absurd ⟨hidle, hstuff⟩ hother
  refine .bind h.deselect_monitor fun _ ↦ .bind h.selectCard_monitor fun ok ↦
    .ite (fun hok ↦ ?_) fun hok ↦ ?_
  · simp only [hok, if_true]
    refine (h.sendFrame_monitor hcmd hstuff arg).weaken (fun _ ↦ id) fun res b hb ↦ ?_
    exact ⟨[.deselected], by simp, hb⟩
  · simp only [hok, Bool.false_eq_true, if_false]
    refine .pure fun b hb ↦ ⟨[.deselected, .deselected], by simp, ?_⟩
    rw [Answered, if_neg (by decide), hb, List.append_assoc]
    rfl

/-! ### Blocks -/

/-- A block is not begun, or it is sent whole and the response decides. -/
theorem xmitDatablock_monitor {cmd token : UInt8} (hidle : token ≠ 0xFF) (hstop : token ≠ 0xFD)
    {buff : List UInt8} (hbuff : buff.length = 512) :
    Triple (fun b ↦ b.monitor = ⟨.data cmd, log⟩) (h.xmitDatablock buff token) fun ok b ↦
      (ok = false ∧ b.monitor = ⟨.data cmd, log⟩) ∨
        ∃ resp, (ok = true ↔ resp &&& 0x1F = 0x05) ∧
          b.monitor = ⟨if cmd = cmd24 then .command else .data cmd,
            log ++ [.block token (withCrc buff) resp]⟩ := by
  refine .bind (h.waitReady_idle (Monitor.idle_data cmd log)) fun ready ↦ .ite (fun _ ↦ ?_)
    fun _ ↦ .pure fun b hb ↦ .inl ⟨rfl, hb⟩
  refine .bind (h.spiRwByte_monitor token) fun _ ↦ .ite (fun _ ↦ ?_)
    fun hstop' ↦ absurd hstop hstop'
  refine .ite (fun hnil ↦ ?_) fun _ ↦ ?_
  · rw [hnil] at hbuff
    cases hbuff
  rw [List.take_of_length_le hbuff.le]
  have hbytes : Triple (fun b ↦ b.monitor = Monitor.byte ⟨.data cmd, log⟩ token 0)
      (h.sendBytes buff) fun _ b ↦ b.monitor = ⟨.block cmd token buff, log⟩ := by
    refine (h.sendBytes_block buff [] (by simp [hbuff])).weaken (fun b hb ↦ ?_) fun _ _ ↦ id
    rw [hb, Monitor.byte, if_neg hidle, if_neg hstop]
  refine .bind hbytes fun _ ↦ .bind (h.spiRwByte_monitor _) fun _ ↦
    .bind (h.spiRwByte_monitor _) fun _ ↦ .bind (h.spiRwByte_monitor 0xFF) fun resp ↦ .pure ?_
  intro b hb
  refine .inr ⟨resp, decide_eq_true_iff, ?_⟩
  rw [hb]
  simp [Monitor.byte, hbuff, withCrc]

/-- The stop token is sent when the card is ready before it; the result is whether it becomes ready
after it. -/
theorem xmitDatablock_stop {cmd : UInt8} (b₀ : Bus κ) :
    Triple (fun b ↦ b = b₀ ∧ b.monitor = ⟨.data cmd, log⟩) (h.xmitDatablock [] 0xFD) fun ok b ↦
      if (h.waitReady b₀).1 = true then
        if ok then b.monitor = ⟨.command, log ++ [.stop, .ready]⟩
        else b.monitor = ⟨.stopped, log ++ [.stop]⟩
      else ok = false ∧ b.monitor = ⟨.data cmd, log⟩ := by
  have hwait : Triple (fun b ↦ b = b₀ ∧ b.monitor = ⟨.data cmd, log⟩) h.waitReady
      fun ready b ↦ ready = (h.waitReady b₀).1 ∧ b.monitor = ⟨.data cmd, log⟩ := by
    rintro b ⟨rfl, hb⟩
    exact ⟨rfl, h.waitReady_idle (Monitor.idle_data cmd log) b hb⟩
  refine .bind hwait fun ready ↦ .ite (fun hready ↦ ?_) fun hready ↦ .pure fun b hb ↦ ?_
  · refine .bind (Q := fun _ b ↦ ready = (h.waitReady b₀).1 ∧
      b.monitor = ⟨.stopped, log ++ [.stop]⟩)
      (fun b hb ↦ ⟨hb.1, h.spiRwByte_monitor 0xFD b hb.2⟩) fun _ ↦
      .ite (fun hstop ↦ absurd rfl hstop) fun _ b hb ↦ ?_
    rw [if_pos (hb.1.symm.trans hready)]
    have hstopped := h.waitReady_stopped b hb.2
    rw [List.append_assoc] at hstopped
    exact hstopped
  · rw [if_neg (hb.1 ▸ hready)]
    exact ⟨rfl, hb.2⟩

end SpiHost
