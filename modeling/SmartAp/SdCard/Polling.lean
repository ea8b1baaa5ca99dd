import SmartAp.Program.Deadline
import SmartAp.SdCard.Bus

/-!
# Polling the card

The loops of `diskio_sd_spi.c` that poll the card, with the clock on which they test their
deadlines: `wait_ready`, the wait for a token in `rcvr_datablock`, and the loops with `ACMD41` and
`CMD1` in `ff_sd_spi_initialize`. Nothing says that they end; they are given fuel. What goes over
the bus without a loop of this kind is taken from `SmartAp.SdCard.Bus`.

## Time

A run has a host and, beside it, the true time at each reading of the counter (`Polling.time`); what
`vTaskDelay` does to the time is in it. The counter has 32 bits and wraps, and the code compares
differences of it. What a clock has to be like for that to work is a condition on `time`, and
nothing of it is assumed in this module.

## Notes

A run notes the answers to commands and what is stored in `CardType` (`CardNote`), beside the state
of the driver. No function reads the notes.

In `SmartAp.SdCard.Bus` a host tells how many polls there are. That the two agree is shown in
`SmartAp.SdCard.PollingReplays`.
-/

/-- `TickType_t` -/
abbrev TickType := BitVec 32

/-- The loops with a deadline. -/
inductive PollLoop
  | waitReady
  | token
  /-- The loop for a card that accepts `CMD8`. -/
  | sd2
  /-- The loop for any other card. -/
  | other
  deriving DecidableEq

/-- What is noted of a run, which no function reads. -/
inductive CardNote
  /-- `send_cmd` has returned. -/
  | answered (cmd res : UInt8)
  /-- `CardType` has been set. -/
  | recorded (ty : UInt8)
  deriving DecidableEq

/-- The driver, with the notes. -/
structure Polled (κ : Type) where
  driver : SdDriver (Bus κ)
  notes : List CardNote

/-- The state of a run. -/
abbrev PollState (κ : Type) := Timed PollLoop (Polled κ)

/-- A program of the driver whose loops are given fuel. -/
abbrev PollM (κ : Type) := FuelM (PollState κ)

/-- The options of the driver, and what it runs on. -/
structure Polling (κ : Type) extends SdOptions where
  host : SpiHost κ
  /-- The true time in ticks, at each reading of the counter. -/
  time : ℕ → ℕ
  /-- `configTICK_RATE_HZ` -/
  tickRateHz : TickType
  /-- `SD_WAIT_READY_MS` -/
  waitReadyMs : TickType
  /-- `SD_READ_TOKEN_TIMEOUT_MS` -/
  readTokenTimeoutMs : TickType
  /-- `SD_INIT_TIMEOUT_MS` -/
  initTimeoutMs : TickType

namespace Polling

variable {κ α : Type} (p : Polling κ) (fuel : ℕ)

/-! ### Parts without a deadline -/

/-- The port, for what does not wait. -/
def port : SdPort (Bus κ) := p.host.port p.toSdOptions

/-- A program of the driver. -/
def onDriver (m : SdM (Bus κ) α) : PollM κ α :=
  untimed fun s ↦ ((m s.driver).1, { s with driver := (m s.driver).2 })

/-- A program on the bus. -/
def onBus (m : BusM κ α) : PollM κ α := onDriver (onPort m)

def note (x : CardNote) : PollM κ PUnit :=
  untimed (modify fun s ↦ { s with notes := s.notes ++ [x] })

/-- `xTaskGetTickCount` -/
def getTickCount : PollM κ TickType := readTicks p.time 32

/-- `vTaskDelay(1)`, if a tick has passed. -/
def delayAfterTick (t0 : TickType) : PollM κ PUnit := do
  let t ← p.getTickCount
  if 1 ≤ t - t0 then onDriver (toPort p.port.delay)

/-- `MS_TO_TICKS_SAFE` -/
def msToTicksSafe (ms : TickType) : TickType :=
  if ms < 1000 / p.tickRateHz then 1 else ms * p.tickRateHz / 1000

/-! ### The protocol functions that wait -/

/-- **`wait_ready`.** -/
def waitReady (wt : TickType) : PollM κ Bool := do
  let t0 ← p.getTickCount
  enterLoop .waitReady
  let ready ← pollLoop p.time .waitReady t0 (p.msToTicksSafe wt)
    (do let d ← onBus (p.host.spiRwByte 0xFF); return if d = 0xFF then some d else none)
    (p.delayAfterTick t0) (pure ⟨⟩) fuel
  return ready.isSome

/-- The wait for a token: the last byte that was read. -/
def awaitToken : PollM κ UInt8 := do
  let t0 ← p.getTickCount
  enterLoop .token
  let token ← pollLoop p.time .token t0 (p.msToTicksSafe p.readTokenTimeoutMs)
    (do let token ← onBus (p.host.spiRwByte 0xFF); return if token = 0xFF then none else some token)
    (p.delayAfterTick t0) (pure ⟨⟩) fuel
  return token.getD 0xFF

/-- `rcvr_datablock` -/
def rcvrDatablock (btr : ℕ) : PollM κ (Bool × List UInt8) := do
  let token ← p.awaitToken fuel
  if token ≠ 0xFE then return (false, [])
  let buff ← onBus (p.host.readBytes btr)
  let high ← onBus (p.host.spiRwByte 0xFF)
  let low ← onBus (p.host.spiRwByte 0xFF)
  return (!p.crcOn || high.toUInt16 <<< 8 ||| low.toUInt16 = crc16 buff, buff)

/-- `select_card` -/
def selectCard : PollM κ Bool := do
  onBus (p.host.setCs false)
  let _ ← onBus (p.host.spiRwByte 0xFF)
  if ← p.waitReady fuel p.waitReadyMs then return true
  onBus p.host.deselect
  return false

/-- `send_cmd` for a command that is no `ACMD`. -/
def sendPlainCmd (cmd : UInt8) (arg : UInt32) : PollM κ UInt8 := do
  if cmd ≠ cmd0 ∧ cmd ≠ cmd12 then
    onBus p.host.deselect
    if ← p.selectCard fuel then onBus (p.host.sendFrame cmd arg) else return 0xFF
  else onBus (p.host.sendFrame cmd arg)

/-- The bytes of `send_cmd`. -/
def sendBareCmd (cmd : UInt8) (arg : UInt32) : PollM κ UInt8 := do
  if cmd &&& 0x80 ≠ 0 then
    let res ← p.sendPlainCmd fuel cmd55 0
    if res > 1 then return res else p.sendPlainCmd fuel (cmd &&& 0x7F) arg
  else p.sendPlainCmd fuel cmd arg

/-- **`send_cmd`**, with a note of what it returns. -/
def sendCmd (cmd : UInt8) (arg : UInt32) : PollM κ UInt8 := do
  let res ← p.sendBareCmd fuel cmd arg
  note (.answered cmd res)
  return res

/-! ### Initialisation -/

/-- **The loops with `ACMD41` and `CMD1`**: the card has answered with 0. -/
def pollReady (loop : PollLoop) (t0 : TickType) (cmd : UInt8) (arg : UInt32) : PollM κ Bool := do
  enterLoop loop
  let ready ← pollLoop p.time loop t0 (p.msToTicksSafe p.initTimeoutMs)
    (do let res ← p.sendCmd fuel cmd arg; return if res = 0 then some res else none)
    (pure ⟨⟩) (p.delayAfterTick t0) fuel
  return ready.isSome

/-- One attempt at `CMD0`. -/
def cmd0Attempt : PollM κ Bool := do
  onDriver (toPort p.port.csHigh)
  onDriver (times 10 (do let _ ← readByte p.port))
  onDriver (toPort p.port.csLow)
  let _ ← onDriver (readByte p.port)
  let res ← p.sendCmd fuel cmd0 0
  return res = 1

/-- The attempts at `CMD0`. -/
def cmd0Loop : ℕ → PollM κ Bool
  | 0 => return false
  | retry + 1 => do
    if ← p.cmd0Attempt fuel then return true
    onDriver (toPort p.port.deselect)
    onDriver (toPort p.port.delay)
    cmd0Loop retry

/-- `ty` for a card that accepts `CMD8`; the clock has been read before that. -/
def identifySd2 (t0 : TickType) : PollM κ UInt8 := do
  let (_, _, ocr2, ocr3) ← onDriver (readOcr p.port)
  if ocr2 = 0x01 ∧ ocr3 = 0xAA then
    if ← p.pollReady fuel .sd2 t0 acmd41 ((1 : UInt32) <<< 30) then
      let res ← p.sendCmd fuel cmd58 0
      if res = 0 then
        let (ocr0, _, _, _) ← onDriver (readOcr p.port)
        return if ocr0 &&& 0x40 ≠ 0 then ctSd2 ||| ctBlock else ctSd2
      else return 0
    else return 0
  else return 0

/-- `ty` for any other card. -/
def identifyOther : PollM κ UInt8 := do
  let t0 ← p.getTickCount
  let res ← p.sendCmd fuel acmd41 0
  if res ≤ 1 then
    let ready ← p.pollReady fuel .other t0 acmd41 0
    return if ready then ctSd1 else 0
  else
    let ready ← p.pollReady fuel .other t0 cmd1 0
    return if ready then ctMmc else 0

/-- `ty`, after the CRC option and the block length have been set. -/
def configureCard (ty : UInt8) : PollM κ UInt8 := do
  if ty = 0 then return 0
  else
    if p.crcOn then
      let _ ← p.sendCmd fuel cmd59 1
    if ty &&& ctBlock = 0 then
      let res ← p.sendCmd fuel cmd16 512
      return if res ≠ 0 then 0 else ty
    else return ty

/-- `ty`, from `CMD8` on. -/
def identifyCard : PollM κ UInt8 := do
  let t0 ← p.getTickCount
  let res ← p.sendCmd fuel cmd8 0x1AA
  let ty ← if res = 1 then p.identifySd2 fuel t0 else p.identifyOther fuel
  p.configureCard fuel ty

/-- `CMD13`: the first byte of the answer, and the second. -/
def sendStatus : PollM κ (UInt8 × UInt8) := do
  let r1 ← p.sendCmd fuel cmd13 0
  let r2 ← onDriver (readByte p.port)
  onDriver (toPort p.port.deselect)
  return (r1, r2)

/-- `CardType = ty` -/
def setCardType (ty : UInt8) : PollM κ PUnit := do
  onDriver (modify fun d ↦ { d with cardType := ty })
  note (.recorded ty)

/-- What follows the identification. -/
def finishInitialize (ty : UInt8) : PollM κ PUnit := do
  setCardType ty
  onDriver (toPort p.port.deselect)
  if ty ≠ 0 then
    onDriver (modify fun d ↦ { d with stat := { d.stat with noInit := false } })
    onDriver (toPort (p.port.setSpeed true))
    let (r1, r2) ← p.sendStatus fuel
    if r1 ≤ 1 ∧ r2 &&& 0x01 ≠ 0 then
      onDriver (modify fun d ↦ { d with stat := { d.stat with isProtected := true } })
  else
    onDriver (modify fun d ↦ { d with stat := ⟨true, false⟩ })

/-- The part of `ff_sd_spi_initialize` under the mutex. -/
def initializeCard : PollM κ PUnit := do
  onDriver (toPort (p.port.setSpeed false))
  if ← p.cmd0Loop fuel p.cmd0Retries then
    onDriver (toPort p.port.deselect)
    let ty ← p.identifyCard fuel
    p.finishInitialize fuel ty
  else
    onDriver (modify fun d ↦ { d with stat := ⟨true, false⟩ })

/-- **`ff_sd_spi_initialize`.** -/
def ffSdSpiInitialize (pdrv : ℕ) : PollM κ DStatus := do
  if pdrv ≠ 0 then return ⟨true, false⟩
  let d ← onDriver get
  if !d.stat.noInit then return d.stat
  if ← onDriver (onPort p.port.takeMutex) then
    p.initializeCard fuel
    onDriver (toPort p.port.giveMutex)
    let d ← onDriver get
    return d.stat
  else return ⟨true, false⟩

end Polling
