import SmartAp.SdCard.Layers
import SmartAp.Program.Triple

/-!
# The driver of the SD card

The callbacks FatFs uses and the unlocking of a card, from `diskio_sd_spi.c`, as programs over
`SdDriver`: `Stat`, `CardType`, and whatever is behind the port.

## The port

`SdPort` is what these functions are written on: the protocol functions of the same file
(`send_cmd`, `rcvr_datablock`, ...), the exchange of a byte, the chip select, and the operating
system. Its state `κ` holds the card, the bus and the clock. Every function of the port returns; in
particular the clock decides, when a card is polled with `ACMD41` or `CMD1`, at which poll the
deadline has passed (`polls`).

## Two levels

A result about the driver over an arbitrary port holds of every implementation of the protocol
functions, and `SmartAp.SdCard.Bus` has the one of the source. So what concerns `Stat`, `CardType`,
the mutex and the order of the commands is proved here, with the port a parameter, and what concerns
bytes there. `SdPort.Stable` is the interface for assertions that all functions of the port keep.

The mutex is a function of the port that can fail, and what is done under it is a program between
taking and giving it. Tasks that wait for it do not occur on this level; interleavings are the
matter of `SmartAp.SdCard.Teardown`.
-/

/-- What the driver is written on. -/
structure SdPort (κ : Type) where
  /-- `xSemaphoreTake(s_spi_mutex, ...)` -/
  takeMutex : κ → Bool × κ
  /-- `xSemaphoreGive(s_spi_mutex)` -/
  giveMutex : κ → κ
  /-- `vTaskDelay(1)` -/
  delay : κ → κ
  /-- `calloc(512, 1)` succeeds. -/
  calloc : κ → Bool × κ
  setSpeed : (highSpeed : Bool) → κ → κ
  csHigh : κ → κ
  csLow : κ → κ
  /-- `spi_rw_byte` -/
  exchange : UInt8 → κ → UInt8 × κ
  waitReady : κ → Bool × κ
  selectCard : κ → Bool × κ
  deselect : κ → κ
  sendCmd : (cmd : UInt8) → (arg : UInt32) → κ → UInt8 × κ
  /-- The result, and what was written to the buffer. -/
  rcvrDatablock : (btr : ℕ) → κ → (Bool × List UInt8) × κ
  xmitDatablock : (buff : List UInt8) → (token : UInt8) → κ → Bool × κ
  /-- The number of polls before the one at which the deadline has passed. -/
  polls : κ → ℕ

/-- `DRESULT`. -/
inductive DResult
  | ok
  | error
  | wrPrt
  | notRdy
  | parErr
  deriving DecidableEq

/-- The options of the driver. -/
structure SdOptions where
  /-- `CONFIG_SD_SPI_CMD0_RETRIES` -/
  cmd0Retries : ℕ
  /-- `SD_DATA_CRC16_CALC_ON` -/
  crcOn : Bool

/-! ### Commands and card types -/

def cmd0 : UInt8 := 0
def cmd1 : UInt8 := 1
def cmd8 : UInt8 := 8
def cmd12 : UInt8 := 12
def cmd13 : UInt8 := 13
def cmd16 : UInt8 := 16
def cmd17 : UInt8 := 17
def cmd18 : UInt8 := 18
def cmd24 : UInt8 := 24
def cmd25 : UInt8 := 25
def cmd42 : UInt8 := 42
def cmd58 : UInt8 := 58
def cmd59 : UInt8 := 59
def acmd23 : UInt8 := 0x80 + 23
def acmd41 : UInt8 := 0x80 + 41

def ctMmc : UInt8 := 0x01
def ctSd1 : UInt8 := 0x02
def ctSd2 : UInt8 := 0x04
/-- `CT_SDC` -/
def ctSdc : UInt8 := ctSd1 ||| ctSd2
def ctBlock : UInt8 := 0x08

/-- A program of the driver. -/
abbrev SdM (κ : Type) := StateM (SdDriver κ)

variable {κ α : Type}

/-- A function of the port, with a result. -/
def onPort (f : κ → α × κ) : SdM κ α := fun d ↦ ((f d.card).1, { d with card := (f d.card).2 })

/-- A function of the port without one. -/
def toPort (f : κ → κ) : SdM κ PUnit := modify fun d ↦ { d with card := f d.card }

variable (port : SdPort κ) (opt : SdOptions)

/-- `spi_rw_byte(0xFF)` -/
def readByte : SdM κ UInt8 := onPort (port.exchange 0xFF)

/-! ### Initialisation -/

/-- One attempt at `CMD0`: 80 clocks with the card deselected, one with it selected, then the
command. -/
def cmd0Attempt : SdM κ Bool := do
  toPort port.csHigh
  times 10 (do let _ ← readByte port)
  toPort port.csLow
  let _ ← readByte port
  let res ← onPort (port.sendCmd cmd0 0)
  return res = 1

/-- The attempts at `CMD0`. -/
def cmd0Loop : ℕ → SdM κ Bool
  | 0 => return false
  | retry + 1 => do
    if ← cmd0Attempt port then return true
    toPort port.deselect
    toPort port.delay
    cmd0Loop retry

/-- Poll with a command until it is answered with 0, at most until the deadline. -/
def pollReady (cmd : UInt8) (arg : UInt32) : SdM κ Bool := do
  let d ← get
  repeatUntil (do let res ← onPort (port.sendCmd cmd arg); return res = 0) (toPort port.delay)
    (port.polls d.card)

/-- The four bytes of `ocr`. -/
def readOcr : SdM κ (UInt8 × UInt8 × UInt8 × UInt8) := do
  let ocr0 ← readByte port
  let ocr1 ← readByte port
  let ocr2 ← readByte port
  let ocr3 ← readByte port
  return (ocr0, ocr1, ocr2, ocr3)

/-- `ty` for a card that accepts `CMD8`. -/
def identifySd2 : SdM κ UInt8 := do
  let (_, _, ocr2, ocr3) ← readOcr port
  if ocr2 = 0x01 ∧ ocr3 = 0xAA then
    if ← pollReady port acmd41 ((1 : UInt32) <<< 30) then
      let res ← onPort (port.sendCmd cmd58 0)
      if res = 0 then
        let (ocr0, _, _, _) ← readOcr port
        return if ocr0 &&& 0x40 ≠ 0 then ctSd2 ||| ctBlock else ctSd2
      else return 0
    else return 0
  else return 0

/-- `ty` for any other card. -/
def identifyOther : SdM κ UInt8 := do
  let res ← onPort (port.sendCmd acmd41 0)
  if res ≤ 1 then
    let ready ← pollReady port acmd41 0
    return if ready then ctSd1 else 0
  else
    let ready ← pollReady port cmd1 0
    return if ready then ctMmc else 0

/-- `ty`, after the CRC option and the block length have been set. -/
def identifyCard : SdM κ UInt8 := do
  let res ← onPort (port.sendCmd cmd8 0x1AA)
  let ty ← if res = 1 then identifySd2 port else identifyOther port
  if ty = 0 then return 0
  else
    if opt.crcOn then
      let _ ← onPort (port.sendCmd cmd59 1)
    if ty &&& ctBlock = 0 then
      let res ← onPort (port.sendCmd cmd16 512)
      return if res ≠ 0 then 0 else ty
    else return ty

/-- `CMD13`: the first byte of the answer, and the second. -/
def sendStatus : SdM κ (UInt8 × UInt8) := do
  let r1 ← onPort (port.sendCmd cmd13 0)
  let r2 ← readByte port
  toPort port.deselect
  return (r1, r2)

/-- What follows the identification: `STA_NOINIT` is cleared for a card of a known type, and
`STA_PROTECT` is set when `CMD13` reports the card locked. -/
def finishInitialize (ty : UInt8) : SdM κ PUnit := do
  modify fun d ↦ { d with cardType := ty }
  toPort port.deselect
  if ty ≠ 0 then
    modify fun d ↦ { d with stat := { d.stat with noInit := false } }
    toPort (port.setSpeed true)
    let (r1, r2) ← sendStatus port
    if r1 ≤ 1 ∧ r2 &&& 0x01 ≠ 0 then
      modify fun d ↦ { d with stat := { d.stat with isProtected := true } }
  else
    modify fun d ↦ { d with stat := ⟨true, false⟩ }

/-- The part of `ff_sd_spi_initialize` under the mutex. -/
def initializeCard : SdM κ PUnit := do
  toPort (port.setSpeed false)
  if ← cmd0Loop port opt.cmd0Retries then
    toPort port.deselect
    let ty ← identifyCard port opt
    finishInitialize port ty
  else
    modify fun d ↦ { d with stat := ⟨true, false⟩ }

/-- **`ff_sd_spi_initialize`.** -/
def ffSdSpiInitialize (pdrv : ℕ) : SdM κ DStatus := do
  if pdrv ≠ 0 then return ⟨true, false⟩
  let d ← get
  if !d.stat.noInit then return d.stat
  if ← onPort port.takeMutex then
    initializeCard port opt
    toPort port.giveMutex
    let d ← get
    return d.stat
  else return ⟨true, false⟩

/-- `ff_sd_spi_status`. -/
def ffSdSpiStatus (pdrv : ℕ) : SdM κ DStatus := do
  if pdrv ≠ 0 then return ⟨true, false⟩
  let d ← get
  return d.stat

/-! ### Reading -/

/-- The loop over the blocks of `CMD18`: all blocks arrived, and what was written to the buffer. -/
def readBlocks : ℕ → SdM κ (Bool × List UInt8)
  | 0 => return (true, [])
  | count + 1 => do
    let (ok, block) ← onPort (port.rcvrDatablock 512)
    if ok then
      let (rest, blocks) ← readBlocks count
      return (rest, block ++ blocks)
    else return (false, block)

/-- The transfer of `ff_sd_spi_read`. -/
def readTransfer (sector : UInt32) (count : ℕ) : SdM κ (Bool × List UInt8) := do
  if count = 1 then
    let res ← onPort (port.sendCmd cmd17 sector)
    if res = 0 then onPort (port.rcvrDatablock 512) else return (false, [])
  else
    let res ← onPort (port.sendCmd cmd18 sector)
    if res = 0 then
      let blocks ← readBlocks port count
      let _ ← onPort (port.sendCmd cmd12 0)
      let _ ← onPort port.waitReady
      return blocks
    else return (false, [])

/-- **`ff_sd_spi_read`**, with what is written to the buffer. -/
def ffSdSpiRead (pdrv : ℕ) (sector : UInt32) (count : ℕ) : SdM κ (DResult × List UInt8) := do
  if pdrv ≠ 0 ∨ count = 0 then return (.parErr, [])
  let d ← get
  if d.stat.noInit then return (.notRdy, [])
  if ← onPort port.takeMutex then
    let sector := if d.cardType &&& ctBlock = 0 then sector * 512 else sector
    let (ok, buff) ← readTransfer port sector count
    toPort port.deselect
    toPort port.giveMutex
    return (if ok then .ok else .error, buff)
  else return (.error, [])

/-- `ff_sd_spi_ioctl` with `GET_SECTOR_SIZE`. -/
def ffSdSpiSectorSize (pdrv : ℕ) : SdM κ (DResult × ℕ) := do
  if pdrv ≠ 0 then return (.parErr, 0)
  let d ← get
  if d.stat.noInit then return (.notRdy, 0)
  if ← onPort port.takeMutex then
    toPort port.deselect
    toPort port.giveMutex
    return (.ok, 512)
  else return (.error, 0)

/-! ### Writing -/

/-- The loop over the blocks of `CMD25`: every block was accepted. -/
def writeBlocks : (count : ℕ) → (buff : List UInt8) → SdM κ Bool
  | 0, _ => return true
  | count + 1, buff => do
    if ← onPort (port.xmitDatablock (buff.take 512) 0xFC) then
      writeBlocks count (buff.drop 512)
    else return false

/-- The transfer of `ff_sd_spi_write`: `count` has become 0. The stop token has no block; `[]`
stands for the `NULL` that is passed with it. -/
def writeTransfer (buff : List UInt8) (sector : UInt32) (count : ℕ) : SdM κ Bool := do
  if count = 1 then
    let res ← onPort (port.sendCmd cmd24 sector)
    if res = 0 then onPort (port.xmitDatablock (buff.take 512) 0xFE) else return false
  else
    let d ← get
    if d.cardType &&& ctSdc ≠ 0 then
      let _ ← onPort (port.sendCmd acmd23 (UInt32.ofNat count))
    let res ← onPort (port.sendCmd cmd25 sector)
    if res = 0 then
      let written ← writeBlocks port count buff
      let stopped ← onPort (port.xmitDatablock [] 0xFD)
      return written && stopped
    else return false

/-- **`ff_sd_spi_write`.** -/
def ffSdSpiWrite (pdrv : ℕ) (buff : List UInt8) (sector : UInt32) (count : ℕ) : SdM κ DResult := do
  if pdrv ≠ 0 ∨ count = 0 then return .parErr
  let d ← get
  if d.stat.noInit then return .notRdy
  if d.stat.isProtected then return .wrPrt
  if ← onPort port.takeMutex then
    let sector := if d.cardType &&& ctBlock = 0 then sector * 512 else sector
    let ok ← writeTransfer port buff sector count
    toPort port.deselect
    toPort port.giveMutex
    return if ok then .ok else .error
  else return .error

/-! ### Passwords -/

/-- `SD_LOCK_SET_PWD` -/
def sdLockSetPwd : UInt8 := (1 : UInt8) <<< 0
/-- `SD_LOCK_CLR_PWD` -/
def sdLockClrPwd : UInt8 := (1 : UInt8) <<< 1
/-- `SD_LOCK_LOCK` -/
def sdLockLock : UInt8 := (1 : UInt8) <<< 2
/-- `SD_LOCK_ERASE` -/
def sdLockErase : UInt8 := (1 : UInt8) <<< 3

/-- The block of `CMD42`. A password is what stands at the pointer, `none` for `NULL`. -/
def lockBlock (control : UInt8) (pwd1 : Option (List UInt8)) (len1 : UInt8)
    (pwd2 : Option (List UInt8)) (len2 : UInt8) : List UInt8 :=
  let bytes := control :: (len1 + len2) ::
    ((pwd1.getD []).take len1.toNat ++ (pwd2.getD []).take len2.toNat)
  bytes ++ List.replicate (512 - bytes.length) 0

/-- `sd_do_lock_unlock_locked`. -/
def sdDoLockUnlockLocked (control : UInt8) (pwd1 : Option (List UInt8)) (len1 : UInt8)
    (pwd2 : Option (List UInt8)) (len2 : UInt8) : SdM κ EspErr := do
  let d ← get
  if d.stat.noInit then return .invalidState
  if len1 > 16 ∨ len2 > 16 then return .invalidArg
  if ← onPort port.calloc then
    let res ← onPort (port.sendCmd cmd42 0)
    if res ≠ 0 then
      toPort port.deselect
      return .fail
    if ← onPort (port.xmitDatablock (lockBlock control pwd1 len1 pwd2 len2) 0xFE) then
      let _ ← onPort port.waitReady
      toPort port.deselect
      let (r1, r2) ← sendStatus port
      return if r2 &&& 0x02 ≠ 0 then .invalidArg else if r1 ≤ 1 then .ok else .fail
    else
      toPort port.deselect
      return .fail
  else return .noMem

/-- `sd_spi_unlock`; `mutex` tells whether `s_spi_mutex` is there. -/
def sdSpiUnlock (mutex : Bool) (pdrv : ℕ) (password : Option (List UInt8)) (pwdLen : UInt8) :
    SdM κ EspErr := do
  if pdrv ≠ 0 ∨ password = none ∨ pwdLen = 0 ∨ pwdLen > 16 then return .invalidArg
  if !mutex then return .invalidState
  if ← onPort port.takeMutex then
    let ret ← sdDoLockUnlockLocked port 0x00 password pwdLen none 0
    if ret = .ok then
      modify fun d ↦ { d with stat := { d.stat with isProtected := false } }
    toPort port.giveMutex
    return ret
  else return .timeout

/-- What the functions below share once their arguments are accepted: `CMD42` under the mutex, and
after `ESP_OK` a change of `Stat`. -/
def lockUnlock (mutex : Bool) (control : UInt8) (pwd1 : Option (List UInt8)) (len1 : UInt8)
    (pwd2 : Option (List UInt8)) (len2 : UInt8) (done : DStatus → DStatus) : SdM κ EspErr := do
  if !mutex then return .invalidState
  if ← onPort port.takeMutex then
    let ret ← sdDoLockUnlockLocked port control pwd1 len1 pwd2 len2
    if ret = .ok then
      modify fun d ↦ { d with stat := done d.stat }
    toPort port.giveMutex
    return ret
  else return .timeout

/-- `sd_spi_lock` -/
def sdSpiLock (mutex : Bool) (pdrv : ℕ) (password : Option (List UInt8)) (pwdLen : UInt8) :
    SdM κ EspErr := do
  if pdrv ≠ 0 ∨ password = none ∨ pwdLen = 0 ∨ pwdLen > 16 then return .invalidArg
  lockUnlock port mutex sdLockLock password pwdLen none 0 ({ · with isProtected := true })

/-- `sd_spi_set_password` -/
def sdSpiSetPassword (mutex : Bool) (pdrv : ℕ) (oldPwd : Option (List UInt8)) (oldLen : UInt8)
    (newPwd : Option (List UInt8)) (newLen : UInt8) : SdM κ EspErr := do
  if pdrv ≠ 0 ∨ newPwd = none ∨ newLen = 0 ∨ newLen > 16 then return .invalidArg
  if oldLen > 16 then return .invalidArg
  lockUnlock port mutex sdLockSetPwd oldPwd oldLen newPwd newLen id

/-- `sd_spi_clear_password`; `Stat` stays as it is. -/
def sdSpiClearPassword (mutex : Bool) (pdrv : ℕ) (password : Option (List UInt8))
    (pwdLen : UInt8) : SdM κ EspErr := do
  if pdrv ≠ 0 ∨ password = none ∨ pwdLen = 0 ∨ pwdLen > 16 then return .invalidArg
  lockUnlock port mutex sdLockClrPwd password pwdLen none 0 id

/-- `sd_spi_force_erase` -/
def sdSpiForceErase (mutex : Bool) (pdrv : ℕ) : SdM κ EspErr := do
  if pdrv ≠ 0 then return .invalidArg
  lockUnlock port mutex sdLockErase none 0 none 0 ({ · with isProtected := false })
