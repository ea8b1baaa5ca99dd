import SmartAp.SdCard.Driver
import Mathlib.Data.Int.Notation

/-!
# The control requests

`ff_sd_spi_ioctl` and `sd_spi_is_locked` from `diskio_sd_spi.c`. What a request writes through
`buff` is part of its result: a word, or a double word, or nothing. The sizes of the card are
computed by the decoder of the CSD, which is translated byte by byte with its shifts and sums on 32
bits.

A shift by a count outside 0..31 has no value in C, and is `IoctlValue.undefined`.
`SmartAp.SdCard.Geometry` says of which CSD it is reached: one for which the exponent of the erase
block is a multiple of 4, since the decoder keeps two of its bits and subtracts 1.
-/

/-- `CTRL_SYNC` -/
def ctrlSync : UInt8 := 0
/-- `GET_SECTOR_COUNT` -/
def getSectorCount : UInt8 := 1
/-- `GET_SECTOR_SIZE` -/
def getSectorSize : UInt8 := 2
/-- `GET_BLOCK_SIZE` -/
def getBlockSize : UInt8 := 3
/-- `CTRL_TRIM` -/
def ctrlTrim : UInt8 := 4

def cmd9 : UInt8 := 9
def cmd32 : UInt8 := 32
def cmd33 : UInt8 := 33
def cmd38 : UInt8 := 38
def acmd13 : UInt8 := 0x80 + 13

/-- What is written to `*buff`. -/
inductive IoctlValue
  | word (v : UInt16)
  | dword (v : UInt32)
  | undefined
  deriving DecidableEq

/-- `x << count`, on 32 bits. -/
def shiftDword (x : UInt32) (count : ℤ) : IoctlValue :=
  if 0 ≤ count ∧ count ≤ 31 then .dword (x <<< UInt32.ofNat count.toNat) else .undefined

/-! ### Decoding -/

/-- `csd[i]` -/
def csdAt (csd : List UInt8) (i : ℕ) : UInt8 := csd.getD i 0

/-- The number of sectors, unless the block length is invalid. -/
def decodeSectorCount (csd : List UInt8) : Option IoctlValue :=
  if csdAt csd 0 >>> 6 = 1 then
    let csize : UInt32 := (csdAt csd 9).toUInt32 + (csdAt csd 8).toUInt32 <<< (8 : UInt32) +
      (csdAt csd 7 &&& (63 : UInt8)).toUInt32 <<< (16 : UInt32) + 1
    some (.dword (csize <<< 10))
  else
    let n : UInt8 := (csdAt csd 5 &&& (15 : UInt8)) + (csdAt csd 10 &&& (128 : UInt8)) >>> (7 : UInt8) +
      (csdAt csd 9 &&& (3 : UInt8)) <<< (1 : UInt8) + 2
    let csize : UInt32 := (csdAt csd 8 >>> (6 : UInt8)).toUInt32 +
      (csdAt csd 7).toUInt32 <<< (2 : UInt32) +
      (csdAt csd 6 &&& (3 : UInt8)).toUInt32 <<< (10 : UInt32) + 1
    if n < 9 then none else some (shiftDword csize (n.toNat - 9))

/-- The erase block of a card of version 1. -/
def decodeBlockSizeSd1 (csd : List UInt8) : IoctlValue :=
  let sectors : UInt32 := (csdAt csd 10 &&& (63 : UInt8)).toUInt32 <<< (1 : UInt32) +
    ((csdAt csd 11 &&& (128 : UInt8)) >>> (7 : UInt8)).toUInt32 + 1
  shiftDword sectors ((csdAt csd 13 >>> (6 : UInt8)).toNat - 1)

/-- The erase group of an MMC. -/
def decodeBlockSizeMmc (csd : List UInt8) : IoctlValue :=
  let size : UInt32 := ((csdAt csd 10 &&& (124 : UInt8)) >>> (2 : UInt8)).toUInt32 + 1
  let mult : UInt32 := (csdAt csd 11 &&& (3 : UInt8)).toUInt32 <<< (3 : UInt32) +
    ((csdAt csd 11 &&& (224 : UInt8)) >>> (5 : UInt8)).toUInt32 + 1
  .dword (size * mult)

/-! ### The requests -/

variable {κ : Type} (port : SdPort κ)

/-- `(send_cmd(CMD9, 0) == 0) && rcvr_datablock(csd, 16)` -/
def readCsd : SdM κ (Option (List UInt8)) := do
  let res ← onPort (port.sendCmd cmd9 0)
  if res = 0 then
    let (ok, csd) ← onPort (port.rcvrDatablock 16)
    return if ok then some csd else none
  else return none

/-- `GET_SECTOR_COUNT` -/
def ioctlSectorCount : SdM κ (DResult × Option IoctlValue) := do
  match ← readCsd port with
  | none => return (.error, none)
  | some csd =>
    match decodeSectorCount csd with
    | none => return (.error, none)
    | some v => return (.ok, some v)

/-- `GET_BLOCK_SIZE` -/
def ioctlBlockSize (cardType : UInt8) : SdM κ (DResult × Option IoctlValue) := do
  if cardType &&& ctSd2 ≠ 0 then
    let res ← onPort (port.sendCmd acmd13 0)
    if res = 0 then
      let _ ← readByte port
      let (ok, sdst) ← onPort (port.rcvrDatablock 64)
      if ok then return (.ok, some (shiftDword 16 (csdAt sdst 10 >>> 4).toNat))
      else return (.error, none)
    else return (.error, none)
  else
    match ← readCsd port with
    | none => return (.error, none)
    | some csd =>
      if cardType &&& ctSd1 ≠ 0 then return (.ok, some (decodeBlockSizeSd1 csd))
      else return (.ok, some (decodeBlockSizeMmc csd))

/-- `CTRL_TRIM`, from the sector `st` to the sector `ed`. -/
def ioctlTrim (cardType : UInt8) (st ed : UInt32) : SdM κ DResult := do
  if cardType &&& ctSdc = 0 then return .parErr
  let st := if cardType &&& ctBlock = 0 then st * 512 else st
  let ed := if cardType &&& ctBlock = 0 then ed * 512 else ed
  let res ← onPort (port.sendCmd cmd32 st)
  if res ≠ 0 then return .error
  let res ← onPort (port.sendCmd cmd33 ed)
  if res ≠ 0 then return .error
  let res ← onPort (port.sendCmd cmd38 0)
  if res ≠ 0 then return .error
  let ready ← onPort port.waitReady
  return if ready then .ok else .error

/-- The `switch`; `buff` holds two words, and is `none` for `NULL`. -/
def ioctlSwitch (cardType cmd : UInt8) (buff : Option (UInt32 × UInt32)) :
    SdM κ (DResult × Option IoctlValue) := do
  if cmd = ctrlSync then
    let ok ← onPort port.selectCard
    return (if ok then .ok else .error, none)
  else if cmd = getSectorCount then
    if buff = none then return (.parErr, none) else ioctlSectorCount port
  else if cmd = getSectorSize then
    if buff = none then return (.parErr, none) else return (.ok, some (.word 512))
  else if cmd = getBlockSize then
    if buff = none then return (.parErr, none) else ioctlBlockSize port cardType
  else if cmd = ctrlTrim then
    match buff with
    | none => return (.parErr, none)
    | some (st, ed) =>
      let res ← ioctlTrim port cardType st ed
      return (res, none)
  else return (.parErr, none)

/-- **`ff_sd_spi_ioctl`**, with what is written to `*buff`. -/
def ffSdSpiIoctl (pdrv : ℕ) (cmd : UInt8) (buff : Option (UInt32 × UInt32)) :
    SdM κ (DResult × Option IoctlValue) := do
  if pdrv ≠ 0 then return (.parErr, none)
  let d ← get
  if d.stat.noInit then return (.notRdy, none)
  if ← onPort port.takeMutex then
    let res ← ioctlSwitch port d.cardType cmd buff
    toPort port.deselect
    toPort port.giveMutex
    return res
  else return (.error, none)

/-- `sd_spi_is_locked` -/
def sdSpiIsLocked (mutex : Bool) (pdrv : ℕ) : SdM κ Bool := do
  let d ← get
  if pdrv ≠ 0 ∨ d.stat.noInit = true then return false
  if !mutex then return false
  if ← onPort port.takeMutex then
    let (r1, r2) ← sendStatus port
    toPort port.giveMutex
    return decide (r1 ≤ 1 ∧ r2 &&& 0x01 ≠ 0)
  else return false

section

variable {port} {d : SdDriver κ} {cmd : UInt8} {buff : Option (UInt32 × UInt32)}

/-- Under the mutex the function is the `switch`. -/
theorem ffSdSpiIoctl_of_taken (hinit : d.stat.noInit = false)
    (htake : (port.takeMutex d.card).1 = true) :
    ffSdSpiIoctl port 0 cmd buff d =
      let out := ioctlSwitch port d.cardType cmd buff { d with card := (port.takeMutex d.card).2 }
      (out.1, { out.2 with card := port.giveMutex (port.deselect out.2.card) }) := by
  show (if d.stat.noInit then _ else _ : SdM κ (DResult × Option IoctlValue)) d = _
  rw [hinit]
  show (if (port.takeMutex d.card).1 then _ else _ : SdM κ (DResult × Option IoctlValue)) _ = _
  rw [htake]
  rfl

/-- Without it nothing is written and nothing is `RES_OK`. -/
theorem ffSdSpiIoctl_of_not_taken {pdrv : ℕ} (h : ¬ (pdrv = 0 ∧ d.stat.noInit = false ∧
    (port.takeMutex d.card).1 = true)) :
    (ffSdSpiIoctl port pdrv cmd buff d).1.1 ≠ .ok ∧
      (ffSdSpiIoctl port pdrv cmd buff d).1.2 = none := by
  by_cases hdrive : pdrv = 0
  · subst hdrive
    cases hinit : d.stat.noInit with
    | true =>
      have hrefused : ffSdSpiIoctl port 0 cmd buff d = ((.notRdy, none), d) := by
        show (if d.stat.noInit then _ else _ : SdM κ (DResult × Option IoctlValue)) d = _
        rw [hinit]
        rfl
      rw [hrefused]
      exact ⟨nofun, rfl⟩
    | false =>
      cases htake : (port.takeMutex d.card).1 with
      | true => exact absurd ⟨rfl, hinit, htake⟩ h
      | false =>
        have hfailed : (ffSdSpiIoctl port 0 cmd buff d).1 = (.error, none) := by
          show ((if d.stat.noInit then _ else _ : SdM κ (DResult × Option IoctlValue)) d).1 = _
          rw [hinit]
          show ((if (port.takeMutex d.card).1 then _ else _ :
            SdM κ (DResult × Option IoctlValue)) _).1 = _
          rw [htake]
          rfl
        rw [hfailed]
        exact ⟨nofun, rfl⟩
  · rw [ffSdSpiIoctl, if_pos hdrive]
    exact ⟨nofun, rfl⟩

end
