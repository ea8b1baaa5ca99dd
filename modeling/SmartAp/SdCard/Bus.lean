import SmartAp.SdCard.Driver
import SmartAp.Crc.Remainder

/-!
# The protocol functions of the SD card

What `SmartAp.SdCard.Driver` takes as the port is here written out byte by byte: `spi_rw_byte`,
`wait_ready`, `select_card`, `send_cmd`, `xmit_datablock` and `rcvr_datablock` of `diskio_sd_spi.c`,
on a host that moves single bytes. `SpiHost.port` is the port made of them.

## The host

The host may be anything: what the card sends, how long a wait lasts and whether the mutex is taken
depend on the host's state in any way. A loop that polls the card until a deadline is bounded by the
number of polls that the host allows, since there is no clock here; `SmartAp.SdCard.Polling` has
one, and `SmartAp.SdCard.PollingReplays` shows that nothing is lost.

## The record

Beside the host stands a record of what was seen on the bus, which no function reads. It is what
monitors are folded over. `spiRwByte_observed`, `setCs_observed` and `sendBytes_observed` are the
steps of any monitor, so that each of the monitors in the modules that follow gets its lemmas about
the protocol functions from these by instantiation. The other view is that of a host with a state of
its own (`HostAt`), for cards that are programs.

The checksums are here as the code computes them. `crc16_toBitVec` connects the one of the blocks to
the division of polynomials.
-/

/-- The chip select line is set, or a byte goes out and another one comes in. -/
inductive BusEvent
  | cs (level : Bool)
  | byte (mosi miso : UInt8)
  deriving DecidableEq

/-- The hardware and the operating system. -/
structure SpiHost (κ : Type) where
  takeMutex : κ → Bool × κ
  giveMutex : κ → κ
  delay : κ → κ
  calloc : κ → Bool × κ
  setSpeed : (highSpeed : Bool) → κ → κ
  /-- `gpio_set_level(cs_pin, level)` -/
  setLevel : (level : Bool) → κ → κ
  /-- `spi_trans` with one byte. -/
  trans : UInt8 → κ → UInt8 × κ
  /-- The number of polls before the one at which the deadline has passed. -/
  polls : κ → ℕ

/-- The host, with a record of the bus. -/
structure Bus (κ : Type) where
  host : κ
  trace : List BusEvent

/-! ### Checksums -/

/-- One round of the inner loop of `crc7`. -/
def crc7Round (crc : UInt8) : UInt8 := if crc &&& 0x80 ≠ 0 then (crc <<< 1) ^^^ 0x12 else crc <<< 1

/-- The body of its outer loop. -/
def crc7Update (crc data : UInt8) : UInt8 := crc7Round^[8] (crc ^^^ data)

/-- `crc7` -/
def crc7 (data : List UInt8) : UInt8 := data.foldl crc7Update 0 ||| 0x01

/-- One round of the inner loop of `crc16`. -/
def crc16Round (crc : UInt16) : UInt16 :=
  if crc &&& 0x8000 ≠ 0 then (crc <<< 1) ^^^ 0x1021 else crc <<< 1

/-- The body of its outer loop. -/
def crc16Update (crc : UInt16) (data : UInt8) : UInt16 :=
  crc16Round^[8] (crc ^^^ (data.toUInt16 <<< 8))

/-- `crc16` -/
def crc16 (data : List UInt8) : UInt16 := data.foldl crc16Update 0

/-- One bit of the data CRC is one step of the division by the generator. -/
theorem crc16Round_toBitVec (crc : UInt16) :
    (crc16Round crc).toBitVec = Crc.step 0x1021#16 crc.toBitVec := by
  have hmsb : crc &&& 0x8000 ≠ 0 ↔ crc.toBitVec.msb = true := by
    rw [Ne, ← UInt16.toBitVec_inj, UInt16.toBitVec_and, BitVec.msb_eq_getLsbD_last,
      show UInt16.toBitVec 0x8000 = BitVec.twoPow 16 15 by decide, BitVec.and_twoPow]
    cases crc.toBitVec.getLsbD 15 <;> decide
  rw [crc16Round, Crc.step]
  simp only [hmsb]
  split <;> simp

/-- One byte of the data CRC is eight steps of it. -/
theorem crc16Update_toBitVec (crc : UInt16) (data : UInt8) :
    (crc16Update crc data).toBitVec = Crc.update 0x1021#16 crc.toBitVec data.toBitVec := by
  rw [crc16Update, Crc.update,
    Function.Semiconj.iterate_right (f := UInt16.toBitVec) crc16Round_toBitVec 8]
  simp

/-- **The checksum of a block is the remainder** by `X ^ 16 + X ^ 12 + X ^ 5 + 1`. -/
theorem crc16_toBitVec (data : List UInt8) :
    (crc16 data).toBitVec = Crc.crc 0x1021#16 (data.map UInt8.toBitVec) := by
  have hfold : ∀ crc : UInt16, (data.foldl crc16Update crc).toBitVec =
      (data.map UInt8.toBitVec).foldl (Crc.update 0x1021#16) crc.toBitVec := by
    induction data with
    | nil => exact fun _ ↦ rfl
    | cons d data ih =>
      intro crc
      rw [List.map_cons, List.foldl_cons, List.foldl_cons, ih, crc16Update_toBitVec]
  exact hfold 0

/-! ### Single bytes -/

/-- A program on the bus. -/
abbrev BusM (κ : Type) := StateM (Bus κ)

def cmd55 : UInt8 := 55

namespace SpiHost

variable {κ α : Type} (h : SpiHost κ)

/-- A function of the host that leaves the bus alone. -/
def call (f : κ → α × κ) : Bus κ → α × Bus κ := fun b ↦
  ((f b.host).1, { b with host := (f b.host).2 })

/-- `spi_rw_byte` -/
def spiRwByte (data : UInt8) : BusM κ UInt8 := fun b ↦
  let (miso, host) := h.trans data b.host
  (miso, ⟨host, b.trace ++ [.byte data miso]⟩)

/-- `cs_high` and `cs_low` -/
def setCs (level : Bool) : BusM κ PUnit := fun b ↦
  (⟨⟩, ⟨h.setLevel level b.host, b.trace ++ [.cs level]⟩)

/-- Send the bytes of a list, whatever comes in. -/
def sendBytes : List UInt8 → BusM κ PUnit
  | [] => return ⟨⟩
  | data :: rest => do
    let _ ← h.spiRwByte data
    sendBytes rest

/-- Receive a number of bytes. -/
def readBytes : ℕ → BusM κ (List UInt8)
  | 0 => return []
  | n + 1 => do
    let data ← h.spiRwByte 0xFF
    let rest ← readBytes n
    return data :: rest

/-! ### The card -/

/-- `wait_ready`. The clock of the host tells how many polls there are. -/
def waitReady : BusM κ Bool := fun b ↦
  repeatUntil (do let d ← h.spiRwByte 0xFF; return d = 0xFF) (return ⟨⟩) (h.polls b.host) b

/-- `deselect` -/
def deselect : BusM κ PUnit := do
  h.setCs true
  let _ ← h.spiRwByte 0xFF

/-- `select_card` -/
def selectCard : BusM κ Bool := do
  h.setCs false
  let _ ← h.spiRwByte 0xFF
  if ← h.waitReady then return true
  h.deselect
  return false

/-- The wait for a token: the last byte that was read. -/
def awaitToken : ℕ → BusM κ UInt8
  | 0 => h.spiRwByte 0xFF
  | n + 1 => do
    let token ← h.spiRwByte 0xFF
    if token = 0xFF then awaitToken n else return token

/-- `rcvr_datablock`, with what is written to the buffer. -/
def rcvrDatablock (crcOn : Bool) (btr : ℕ) : BusM κ (Bool × List UInt8) := fun b ↦ (do
  let token ← h.awaitToken (h.polls b.host)
  if token ≠ 0xFE then return (false, [])
  let buff ← h.readBytes btr
  let high ← h.spiRwByte 0xFF
  let low ← h.spiRwByte 0xFF
  return (!crcOn || high.toUInt16 <<< 8 ||| low.toUInt16 = crc16 buff, buff) : BusM κ _) b

/-- `xmit_datablock`; `[]` stands for `NULL`. -/
def xmitDatablock (buff : List UInt8) (token : UInt8) : BusM κ Bool := do
  if ← h.waitReady then
    let _ ← h.spiRwByte token
    if token ≠ 0xFD then
      if buff = [] then return false
      h.sendBytes (buff.take 512)
      let crc := crc16 (buff.take 512)
      let _ ← h.spiRwByte (crc >>> 8).toUInt8
      let _ ← h.spiRwByte crc.toUInt8
      let resp ← h.spiRwByte 0xFF
      return resp &&& 0x1F = 0x05
    else h.waitReady
  else return false

/-- The wait for an answer: at most `n + 1` bytes are read. -/
def awaitAnswer : ℕ → BusM κ UInt8
  | 0 => h.spiRwByte 0xFF
  | n + 1 => do
    let res ← h.spiRwByte 0xFF
    if res &&& 0x80 ≠ 0 then awaitAnswer n else return res

/-- The packet of a command, without the checksum. -/
def frame (cmd : UInt8) (arg : UInt32) : List UInt8 :=
  [0x40 ||| cmd, (arg >>> 24).toUInt8, (arg >>> 16).toUInt8, (arg >>> 8).toUInt8, arg.toUInt8]

/-- What `send_cmd` does from the packet on. -/
def sendFrame (cmd : UInt8) (arg : UInt32) : BusM κ UInt8 := do
  h.sendBytes (frame cmd arg)
  let _ ← h.spiRwByte (crc7 (frame cmd arg))
  if cmd = cmd12 then
    let _ ← h.spiRwByte 0xFF
  h.awaitAnswer 9

/-- `send_cmd` for a command that is no `ACMD`. -/
def sendPlainCmd (cmd : UInt8) (arg : UInt32) : BusM κ UInt8 := do
  if cmd ≠ cmd0 ∧ cmd ≠ cmd12 then
    h.deselect
    if ← h.selectCard then h.sendFrame cmd arg else return 0xFF
  else h.sendFrame cmd arg

/-- **`send_cmd`.** -/
def sendCmd (cmd : UInt8) (arg : UInt32) : BusM κ UInt8 := do
  if cmd &&& 0x80 ≠ 0 then
    let res ← h.sendPlainCmd cmd55 0
    if res > 1 then return res else h.sendPlainCmd (cmd &&& 0x7F) arg
  else h.sendPlainCmd cmd arg

/-- A program without a result, as the port has it. -/
def run (m : BusM κ PUnit) (b : Bus κ) : Bus κ := (m b).2

/-- **The port.** -/
def port (opt : SdOptions) : SdPort (Bus κ) where
  takeMutex := call h.takeMutex
  giveMutex b := { b with host := h.giveMutex b.host }
  delay b := { b with host := h.delay b.host }
  calloc := call h.calloc
  setSpeed highSpeed b := { b with host := h.setSpeed highSpeed b.host }
  csHigh := run (h.setCs true)
  csLow := run (h.setCs false)
  exchange := h.spiRwByte
  waitReady := h.waitReady
  selectCard := h.selectCard
  deselect := run h.deselect
  sendCmd := h.sendCmd
  rcvrDatablock := h.rcvrDatablock opt.crcOn
  xmitDatablock := h.xmitDatablock
  polls b := h.polls b.host

/-! ### Receiving -/

/-- `rcvr_datablock`, when the deadline passes at a known poll. -/
def rcvrWithin (crcOn : Bool) (btr polls : ℕ) : BusM κ (Bool × List UInt8) := do
  let token ← h.awaitToken polls
  if token ≠ 0xFE then return (false, [])
  let buff ← h.readBytes btr
  let high ← h.spiRwByte 0xFF
  let low ← h.spiRwByte 0xFF
  return (!crcOn || high.toUInt16 <<< 8 ||| low.toUInt16 = crc16 buff, buff)

theorem length_readBytes (n : ℕ) (b : Bus κ) : (h.readBytes n b).1.length = n := by
  induction n generalizing b with
  | zero => rfl
  | succ n ih =>
    have hrest := ih (h.spiRwByte 0xFF b).2
    show ((h.spiRwByte 0xFF b).1 :: (h.readBytes n (h.spiRwByte 0xFF b).2).1).length = n + 1
    rw [List.length_cons, hrest]

/-- A block that arrives has all its bytes. -/
theorem length_rcvrDatablock {crcOn : Bool} {btr : ℕ} {b : Bus κ}
    (harrived : (h.rcvrDatablock crcOn btr b).1.1 = true) :
    (h.rcvrDatablock crcOn btr b).1.2.length = btr := by
  have hlength : Triple (fun _ ↦ True) (h.rcvrWithin crcOn btr (h.polls b.host))
      fun res _ ↦ res.1 = true → res.2.length = btr := by
    refine .bind_of_any fun token ↦ .ite (fun _ ↦ .pure fun _ _ ↦ nofun) fun _ ↦ ?_
    refine .bind (Q := fun buff _ ↦ buff.length = btr) (fun b _ ↦ h.length_readBytes btr b)
      fun buff b hb ↦ ?_
    exact fun _ ↦ hb
  exact hlength b trivial harrived

/-! ### Watching the bus -/

section Observed

variable {σ : Type} {step : σ → BusEvent → σ} {start m : σ}

/-- A byte is one event. -/
theorem spiRwByte_observed (data : UInt8) :
    Triple (fun b ↦ b.trace.foldl step start = m) (h.spiRwByte data)
      fun miso b ↦ b.trace.foldl step start = step m (.byte data miso) := by
  rintro b rfl
  exact List.foldl_append

/-- A monitor sees a change of the select line as one event. -/
theorem setCs_observed (level : Bool) :
    Triple (fun b ↦ b.trace.foldl step start = m) (h.setCs level)
      fun _ b ↦ b.trace.foldl step start = step m (.cs level) := by
  rintro b rfl
  exact List.foldl_append

/-- Bytes that are collected as they go out. -/
theorem sendBytes_observed (collected : List UInt8 → σ) {n : ℕ}
    (hstep : ∀ bytes d miso, bytes.length < n →
      step (collected bytes) (.byte d miso) = collected (bytes ++ [d]))
    (data bytes : List UInt8) (hlen : bytes.length + data.length ≤ n) :
    Triple (fun b ↦ b.trace.foldl step start = collected bytes) (h.sendBytes data)
      fun _ b ↦ b.trace.foldl step start = collected (bytes ++ data) := by
  induction data generalizing bytes with
  | nil => exact .pure fun b hb ↦ by rw [hb, List.append_nil]
  | cons d data ih =>
    rw [List.length_cons] at hlen
    refine .bind (h.spiRwByte_observed d) fun miso ↦ ?_
    rw [hstep bytes d miso (by omega)]
    refine (ih (bytes ++ [d]) ?_).weaken (fun _ ↦ id) fun _ b hb ↦ ?_
    · rw [List.length_append, List.length_singleton]
      omega
    · rw [hb, List.append_assoc, List.singleton_append]

/-- A wait in which nothing is understood. -/
theorem waitReady_observed (hidle : ∀ miso, step m (.byte 0xFF miso) = m) :
    Triple (fun b ↦ b.trace.foldl step start = m) h.waitReady
      fun _ b ↦ b.trace.foldl step start = m := by
  intro b hb
  have hpoll : Keeps (fun b ↦ b.trace.foldl step start = m)
      (do let d ← h.spiRwByte 0xFF; return d = 0xFF : BusM κ Bool) :=
    .bind ((h.spiRwByte_observed 0xFF).weaken (fun _ ↦ id) fun miso _ hb ↦ hb.trans (hidle miso))
      fun _ ↦ .pure _
  exact Keeps.repeatUntil hpoll (.pure ⟨⟩) (h.polls b.host) b hb

end Observed

/-! ### Following the host -/

section Hosted

/-- The host is in this state. -/
def HostAt (k : κ) (b : Bus κ) : Prop := b.host = k

variable {k : κ}

/-- One byte on the bus is one transfer of the host. -/
theorem spiRwByte_hosted (data : UInt8) :
    Triple (HostAt k) (h.spiRwByte data) fun miso b ↦
      miso = (h.trans data k).1 ∧ HostAt (h.trans data k).2 b := by
  rintro b rfl
  exact ⟨rfl, rfl⟩

/-- The select line is a step of the host. -/
theorem setCs_hosted (level : Bool) :
    Triple (HostAt k) (h.setCs level) fun _ ↦ HostAt (h.setLevel level k) := by
  rintro b rfl
  rfl

/-- To deselect is the line and one byte of clocks. -/
theorem deselect_hosted :
    Triple (HostAt k) h.deselect fun _ ↦ HostAt (h.trans 0xFF (h.setLevel true k)).2 := by
  rintro b rfl
  rfl

/-- A host that collects the bytes that go out. -/
theorem sendBytes_hosted (collected : List UInt8 → κ) {n : ℕ}
    (hstep : ∀ bytes d, bytes.length < n →
      (h.trans d (collected bytes)).2 = collected (bytes ++ [d]))
    (data bytes : List UInt8) (hlen : bytes.length + data.length ≤ n) :
    Triple (HostAt (collected bytes)) (h.sendBytes data)
      fun _ ↦ HostAt (collected (bytes ++ data)) := by
  induction data generalizing bytes with
  | nil => exact .pure fun b hb ↦ by rwa [List.append_nil]
  | cons d data ih =>
    rw [List.length_cons] at hlen
    refine .bind (h.spiRwByte_hosted d) fun miso ↦ .of_fact fun _ ↦ ?_
    rw [hstep bytes d (by omega)]
    refine (ih (bytes ++ [d]) ?_).weaken (fun _ ↦ id) fun _ b hb ↦ ?_
    · rw [List.length_append, List.length_singleton]
      omega
    · rwa [List.append_assoc, List.singleton_append] at hb

/-- One poll of a wait. -/
theorem poll_hosted : Triple (HostAt k)
    (do let d ← h.spiRwByte 0xFF; return d = 0xFF : BusM κ Bool) fun ok b ↦
      ok = decide ((h.trans 0xFF k).1 = 0xFF) ∧ HostAt (h.trans 0xFF k).2 b := by
  refine .bind (h.spiRwByte_hosted 0xFF) fun d ↦ .pure fun b hb ↦ ?_
  obtain ⟨rfl, hb⟩ := hb
  exact ⟨rfl, hb⟩

/-- A wait that ends with the first poll. -/
theorem waitReady_hosted (hready : (h.trans 0xFF k).1 = 0xFF) :
    Triple (HostAt k) h.waitReady fun ok b ↦ ok = true ∧ HostAt (h.trans 0xFF k).2 b := by
  intro b hb
  refine triple_repeatUntil_first (h.poll_hosted.weaken (fun _ ↦ id) fun ok b hb ↦ ?_)
    (h.polls b.host) b hb
  exact ⟨hb.1.trans (decide_eq_true hready), hb.2⟩

end Hosted

end SpiHost

/-- The card sends the bytes of a list, and then it is busy. -/
def scriptHost : SpiHost (List UInt8) where
  takeMutex k := (true, k)
  giveMutex k := k
  delay k := k
  calloc k := (true, k)
  setSpeed _ k := k
  setLevel _ k := k
  trans _ k := (k.headD 0x00, k.tail)
  polls _ := 1
