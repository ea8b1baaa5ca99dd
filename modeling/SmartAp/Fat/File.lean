import SmartAp.Fat.Volume

/-!
# An open file

`f_read`, `f_write`, `f_lseek`, `f_truncate` and `f_sync` of `ff.c` on a file object. The object has
a buffer of one sector; whole sectors go between the disk and the caller directly.

## How the code is cut

Each function is a loop over rounds, and a round has the steps of the source under names of their
own: entering a cluster (`enterCluster`, `enterRead`, `enterWrite`), a transfer of whole sectors
(`readAligned`, `writeAligned`), the buffer (`writeBack`, `loadSector`), the last part of a sector.
A later module has one lemma for each of them. The macro `ABORT` is `abortFile`: it sets `err` of
the object and leaves. `LEAVE_FF` without an error of the object is a plain result.

Loops have a budget as those of the allocation have. Each round of a transfer moves a byte at least
and each round of a seek goes on by a cluster, so it is the number of bytes, or of clusters, and one
more; that it is enough is a part of each function's lemma.

## What is given

`validate`, which every call begins with, is not run here: a call is given what `validate` returns.
The time stamp of `f_sync` is given to it as well. The caller's buffer is a list of bytes, to be
written, or one that is returned with the number of the bytes that were read. The size is 32 bits
wide, since the configuration has no exFAT, and `f_write` is clipped where it would overflow.
-/

/-- `FIL`, with the filesystem object; the bits of `flag` are fields of their own. -/
structure FatFile where
  fs : FatFs
  sclust : ℕ
  objsize : ℕ
  /-- `FA_READ` -/
  canRead : Bool
  /-- `FA_WRITE` -/
  canWrite : Bool
  /-- `FA_MODIFIED` -/
  modified : Bool
  /-- `FA_DIRTY` -/
  dirty : Bool
  err : FResult
  fptr : ℕ
  clust : ℕ
  sect : ℕ
  dirSect : ℕ
  dirPtr : ℕ
  buf : Memory

abbrev FileM := StateM FatFile

def FatFile.fsPart : StatePart FatFile FatFs where
  get := FatFile.fs
  set s fs := { s with fs := fs }
  get_set _ _ := rfl
  set_set _ _ _ := rfl
  set_get _ := rfl

/-- A function of the filesystem object. -/
def onFs {α : Type} (m : FatM α) : FileM α := FatFile.fsPart.zoom m

/-- A function of the window and the disk. -/
def onDisk {α : Type} (m : WinM α) : FileM α := onFs (FatFs.windowPart.zoom m)

/-! ### The disk -/

/-- `disk_read` of some sectors, from `sect` on; `none` if it fails. -/
def diskReadSectors (sect : ℕ) : WinM (Option Memory) := fun s ↦
  match s.disk.faults 0 with
  | none => (some (blockAt 512 s.disk.bytes sect), { s with disk := s.disk.next })
  | some _ => (none, { s with disk := s.disk.next })

/-- `disk_write` of `cc` sectors. -/
def diskWriteSectors (sect cc : ℕ) (data : Memory) : WinM Bool := fun s ↦
  match s.disk.faults 0 with
  | none => (true, { s with
      disk := { s.disk.next with bytes := overlayBlocks 512 s.disk.bytes sect cc data } })
  | some junk => (false, { s with
      disk := { s.disk.next with bytes := overlayBlocks 512 s.disk.bytes sect cc junk } })

/-- `disk_read` of one sector into the buffer of the file. -/
def diskReadBuf (sect : ℕ) : FileM Bool := fun s ↦
  match s.fs.window.disk.faults 0 with
  | none => (true, { s with
      buf := blockAt 512 s.fs.window.disk.bytes sect
      fs.window.disk := s.fs.window.disk.next })
  | some junk => (false, { s with buf := junk, fs.window.disk := s.fs.window.disk.next })

/-- "Write-back dirty sector cache" -/
def writeBack : FileM Bool := do
  let s ← get
  if s.dirty then
    if ← onDisk (diskWriteSectors s.sect 1 s.buf) then
      modify fun s ↦ { s with dirty := false }
      return true
    else return false
  else return true

/-- Why a function does not go on. -/
inductive Halt
  /-- "disk full" -/
  | full
  /-- `ABORT` -/
  | abort (res : FResult)
  /-- A search in the FAT would not end. -/
  | endless

/-- `ABORT`: the error stays in the file object. -/
def abortFile (res : FResult) : FileM PUnit := modify fun s ↦ { s with err := res }

section

variable (g : FatGeometry)

/-- The bytes of a cluster. -/
def FatGeometry.bcs (g : FatGeometry) : ℕ := g.csize * 512

/-- "Clip at cluster boundary" -/
def clipCluster (csect cc : ℕ) : ℕ := if g.csize < csect + cc then g.csize - csect else cc

/-! ### Reading -/

/-- "Follow cluster chain": from the origin, or on the FAT. -/
def followChain : FileM ℕ := do
  let s ← get
  if s.fptr = 0 then return s.sclust else onFs (getFatFs g s.clust)

/-- "On the cluster boundary?" -/
def enterRead (csect : ℕ) : FileM FResult :=
  if csect = 0 then do
    let clst ← followChain g
    if clst < 2 then return .intErr
    else if clst = fatDiskError then return .diskErr
    else
      modify fun s ↦ { s with clust := clst }
      return .ok
  else return .ok

/-- "Read maximum contiguous sectors directly", and replace one of them with cached data. -/
def readSectors (sect cc : ℕ) : FileM (Except FResult (List UInt8)) := do
  match ← onDisk (diskReadSectors sect) with
  | none => return .error .diskErr
  | some data =>
    let s ← get
    let data := if s.dirty ∧ sub32 s.sect sect < cc then overlay 512 data (sub32 s.sect sect) s.buf
      else data
    return .ok ((List.range (512 * cc)).map data)

/-- "Load data sector if not in cache" -/
def loadSector (sect : ℕ) : FileM FResult := do
  let s ← get
  if s.sect ≠ sect then
    if ← writeBack then
      if ← diskReadBuf sect then
        modify fun s ↦ { s with sect := sect }
        return .ok
      else return .diskErr
    else return .diskErr
  else return .ok

/-- "Extract partial sector" -/
def readBuffered (btr : ℕ) : FileM (Except FResult (List UInt8)) := do
  let s ← get
  let rcnt := if btr < 512 - s.fptr % 512 then btr else 512 - s.fptr % 512
  return .ok ((List.range rcnt).map fun i ↦ s.buf (s.fptr % 512 + i))

/-- The rest of a round on a sector boundary. -/
def readAligned (btr csect : ℕ) : FileM (Except FResult (List UInt8)) := do
  let s ← get
  let sect := clst2sect g s.clust
  if sect = 0 then return .error .intErr
  else if 0 < btr / 512 then readSectors (add32 sect csect) (clipCluster g csect (btr / 512))
  else
    let res ← loadSector (add32 sect csect)
    if res = .ok then readBuffered btr else return .error res

/-- A round of `f_read`: the bytes read in it. -/
def readRound (btr : ℕ) : FileM (Except FResult (List UInt8)) := do
  let s ← get
  if s.fptr % 512 = 0 then
    let csect := s.fptr / 512 &&& (g.csize - 1)
    let res ← enterRead g csect
    if res = .ok then readAligned g btr csect else return .error res
  else readBuffered btr

/-- The loop of `f_read`; `out` is what was read so far. -/
def readLoop : (fuel btr : ℕ) → (out : List UInt8) → FileM (Option (FResult × List UInt8))
  | 0, btr, out => return if btr = 0 then some (.ok, out) else none
  | fuel + 1, btr, out =>
    if btr = 0 then return some (.ok, out)
    else do
      match ← readRound g btr with
      | .error res =>
        abortFile res
        return some (res, out)
      | .ok data =>
        modify fun s ↦ { s with fptr := s.fptr + data.length }
        readLoop fuel (btr - data.length) (out ++ data)

/-- **`f_read`**; the list is what was read, `*br` bytes. -/
def fRead (check : FResult) (btr : ℕ) : FileM (Option (FResult × List UInt8)) := do
  let s ← get
  if check ≠ .ok then return some (check, [])
  else if s.err ≠ .ok then return some (s.err, [])
  else if !s.canRead then return some (.denied, [])
  else
    let remain := sub32 s.objsize s.fptr
    let btr := if remain < btr then remain else btr
    readLoop g btr btr []

/-! ### Writing -/

/-- "Follow or stretch cluster chain" -/
def stretchChain : FileM (Option ℕ) := do
  let s ← get
  if s.fptr = 0 then
    if s.sclust = 0 then onFs (createChain g 0) else return some s.sclust
  else onFs (createChain g s.clust)

/-- "Update current cluster", and "set start cluster if the first write". -/
def enterCluster (clst : ℕ) : FileM (Except Halt PUnit) :=
  if clst = 0 then return .error .full
  else if clst = 1 then return .error (.abort .intErr)
  else if clst = fatDiskError then return .error (.abort .diskErr)
  else do
    modify fun s ↦ { s with clust := clst, sclust := if s.sclust = 0 then clst else s.sclust }
    return .ok ⟨⟩

/-- "On the cluster boundary?" -/
def enterWrite (csect : ℕ) : FileM (Except Halt PUnit) :=
  if csect = 0 then do
    match ← stretchChain g with
    | none => return .error .endless
    | some clst => enterCluster clst
  else return .ok ⟨⟩

/-- "Write maximum contiguous sectors directly", and refill the buffer if it is one of them. -/
def writeSectors (data : List UInt8) (sect cc : ℕ) : FileM (Except Halt ℕ) := do
  if ← onDisk (diskWriteSectors sect cc fun i ↦ data.getD i 0) then
    modify fun s ↦ if sub32 s.sect sect < cc then
      { s with buf := fun i ↦ data.getD (sub32 s.sect sect * 512 + i) 0, dirty := false } else s
    return .ok (512 * cc)
  else return .error (.abort .diskErr)

/-- "Fill sector cache with file data", except at the end of the file. -/
def fillSector (sect : ℕ) : FileM FResult := do
  let s ← get
  if s.sect ≠ sect ∧ s.fptr < s.objsize then
    if ← diskReadBuf sect then
      modify fun s ↦ { s with sect := sect }
      return .ok
    else return .diskErr
  else
    modify fun s ↦ { s with sect := sect }
    return .ok

/-- `memcpy` of `n` bytes to offset `o` of the buffer. -/
def fitData (buf : Memory) (o n : ℕ) (data : List UInt8) : Memory :=
  fun i ↦ if o ≤ i ∧ i < o + n then data.getD (i - o) 0 else buf i

/-- "Fit data to the sector" -/
def writeBuffered (data : List UInt8) : FileM (Except Halt ℕ) := do
  let s ← get
  let o := s.fptr % 512
  let wcnt := if data.length < 512 - o then data.length else 512 - o
  modify fun s ↦ { s with buf := fitData s.buf o wcnt data, dirty := true }
  return .ok wcnt

/-- The rest of a round on a sector boundary. -/
def writeAligned (data : List UInt8) (csect : ℕ) : FileM (Except Halt ℕ) := do
  if ← writeBack then
    let s ← get
    let sect := clst2sect g s.clust
    if sect = 0 then return .error (.abort .intErr)
    else if 0 < data.length / 512 then
      writeSectors data (add32 sect csect) (clipCluster g csect (data.length / 512))
    else
      let res ← fillSector (add32 sect csect)
      if res = .ok then writeBuffered data else return .error (.abort res)
  else return .error (.abort .diskErr)

/-- A round of `f_write`: the number of bytes written in it. -/
def writeRound (data : List UInt8) : FileM (Except Halt ℕ) := do
  let s ← get
  if s.fptr % 512 = 0 then
    let csect := s.fptr / 512 &&& (g.csize - 1)
    match ← enterWrite g csect with
    | .error halt => return .error halt
    | .ok _ => writeAligned g data csect
  else writeBuffered data

/-- The end of a round: the pointer, and the size if the file has grown. -/
def FatFile.advance (s : FatFile) (wcnt : ℕ) : FatFile :=
  { s with
    fptr := s.fptr + wcnt
    objsize := if s.objsize < s.fptr + wcnt then s.fptr + wcnt else s.objsize }

/-- The loop of `f_write`; `bw` is the number of bytes written so far. -/
def writeLoop : (fuel : ℕ) → (data : List UInt8) → (bw : ℕ) → FileM (Option (FResult × ℕ))
  | 0, data, bw => do
    modify fun s ↦ { s with modified := true }
    return if data.length = 0 then some (.ok, bw) else none
  | fuel + 1, data, bw =>
    if data.length = 0 then do
      modify fun s ↦ { s with modified := true }
      return some (.ok, bw)
    else do
      match ← writeRound g data with
      | .error .full =>
        modify fun s ↦ { s with modified := true }
        return some (.ok, bw)
      | .error (.abort res) =>
        abortFile res
        return some (res, bw)
      | .error .endless => return none
      | .ok wcnt =>
        modify fun s ↦ s.advance wcnt
        writeLoop fuel (data.drop wcnt) (bw + wcnt)

/-- The data of a call of `f_write`; its length is a `UINT`. -/
structure WriteData where
  bytes : List UInt8
  length_lt : bytes.length < 0x100000000

/-- "Check fptr wrap-around (file size cannot reach 4 GiB at FAT volume)" -/
def clipData (fptr : ℕ) (data : WriteData) : List UInt8 :=
  if add32 fptr data.bytes.length < fptr then data.bytes.take (0xFFFFFFFF - fptr) else data.bytes

/-- **`f_write`**, with `*bw`. -/
def fWrite (check : FResult) (data : WriteData) : FileM (Option (FResult × ℕ)) := do
  let s ← get
  if check ≠ .ok then return some (check, 0)
  else if s.err ≠ .ok then return some (s.err, 0)
  else if !s.canWrite then return some (.denied, 0)
  else writeLoop g data.bytes.length (clipData s.fptr data) 0

/-! ### Seeking -/

/-- `a & ~b` -/
def andNot32 (a b : ℕ) : ℕ := (UInt32.ofNat a &&& ~~~ UInt32.ofNat b).toNat

/-- "Start from the first cluster"; "if no cluster chain, create a new chain". -/
def firstCluster : FileM (Except Halt ℕ) := do
  let s ← get
  if s.sclust = 0 then
    match ← onFs (createChain g 0) with
    | none => return .error .endless
    | some clst =>
      if clst = 1 then return .error (.abort .intErr)
      else if clst = fatDiskError then return .error (.abort .diskErr)
      else
        modify fun s ↦ { s with sclust := clst, clust := clst }
        return .ok clst
  else
    modify fun s ↦ { s with clust := s.sclust }
    return .ok s.sclust

/-- "Follow chain with forced stretch", or without one if not in write mode. -/
def seekCluster (clst : ℕ) : FileM (Option ℕ) := do
  let s ← get
  if s.canWrite then onFs (createChain g clst)
  else
    let clst ← onFs (getFatFs g clst)
    return some clst

/-- After the cluster following loop: the current sector, 0 on a sector boundary. -/
def seekSector (clst ofs : ℕ) : FileM (Except Halt ℕ) := do
  modify fun s ↦ { s with fptr := s.fptr + ofs }
  if ofs % 512 ≠ 0 then
    let nsect := clst2sect g clst
    if nsect = 0 then return .error (.abort .intErr) else return .ok (add32 nsect (ofs / 512))
  else return .ok 0

/-- A round of the loop with the next cluster `ncl`; `rest` is the loop. -/
def seekRound (rest : (clst ofs : ℕ) → FileM (Except Halt ℕ)) (ncl ofs : ℕ) :
    FileM (Except Halt ℕ) := do
  let s ← get
  if ncl = 0 ∧ s.canWrite then seekSector g ncl 0
  else if ncl = fatDiskError then return .error (.abort .diskErr)
  else if ncl ≤ 1 ∨ g.nFatent ≤ ncl then return .error (.abort .intErr)
  else
    modify fun s ↦ { s with clust := ncl }
    rest ncl (ofs - g.bcs)

/-- "Cluster following loop" -/
def seekLoop : (fuel clst ofs : ℕ) → FileM (Except Halt ℕ)
  | 0, _, _ => return .error .endless
  | fuel + 1, clst, ofs =>
    if g.bcs < ofs then do
      modify fun s ↦ { s with fptr := s.fptr + g.bcs }
      match ← seekCluster g clst with
      | none => return .error .endless
      | some ncl => seekRound g (seekLoop fuel) ncl ofs
    else seekSector g clst ofs

/-- "Follow the cluster chain", if there is one. -/
def seekChain (clst ofs : ℕ) : FileM (Except Halt ℕ) :=
  if clst ≠ 0 then seekLoop g (ofs / g.bcs + 1) clst ofs else return .ok 0

/-- The new file pointer, from the old one: the sector for it, if it is inside of one. -/
def seekPointer (ifptr ofs : ℕ) : FileM (Except Halt ℕ) := do
  modify fun s ↦ { s with fptr := 0 }
  if 0 < ofs then
    if 0 < ifptr ∧ (ifptr - 1) / g.bcs ≤ (ofs - 1) / g.bcs then
      let fptr := andNot32 (ifptr - 1) (g.bcs - 1)
      modify fun s ↦ { s with fptr := fptr }
      let s ← get
      seekChain g s.clust (ofs - fptr)
    else
      match ← firstCluster g with
      | .error halt => return .error halt
      | .ok clst => seekChain g clst ofs
  else return .ok 0

/-- "Set file change flag if the file size is extended" -/
def FatFile.extendSize (s : FatFile) : FatFile :=
  if s.objsize < s.fptr then { s with objsize := s.fptr, modified := true } else s

/-- "Fill sector cache if needed" -/
def seekLoad (nsect : ℕ) : FileM FResult := do
  let s ← get
  if s.fptr % 512 ≠ 0 then loadSector nsect else return .ok

/-- **`f_lseek`**, the normal seek. -/
def fLseek (check : FResult) (ofs : UInt32) : FileM (Option FResult) := do
  let s ← get
  if check ≠ .ok then return some check
  else if s.err ≠ .ok then return some s.err
  else
    let ofs := if s.objsize < ofs.toNat ∧ !s.canWrite then s.objsize else ofs.toNat
    match ← seekPointer g s.fptr ofs with
    | .error .endless => return none
    | .error .full => return none
    | .error (.abort res) =>
      abortFile res
      return some res
    | .ok nsect =>
      modify fun s ↦ s.extendSize
      let res ← seekLoad nsect
      if res = .ok then return some .ok
      else
        abortFile res
        return some res

/-! ### Truncating -/

/-- "Remove remaining clusters" -/
def cutChain (s : FatFile) : FileM (Option FResult) := do
  let ncl ← onFs (getFatFs g s.clust)
  if ncl = fatDiskError then return some .diskErr
  else if ncl = 1 then return some .intErr
  else if ncl < g.nFatent then onFs (removeChain g ncl s.clust)
  else return some .ok

/-- "Remove entire cluster chain", or the rest of it. -/
def truncateChain : FileM (Option FResult) := do
  let s ← get
  if s.fptr = 0 then
    let res ← onFs (removeChain g s.sclust 0)
    modify fun s ↦ { s with sclust := 0 }
    return res
  else cutChain g s

/-- The buffer is written back when the chain was cut. -/
def truncateBack (res : FResult) : FileM FResult :=
  if res = .ok then do
    if ← writeBack then return .ok else return .diskErr
  else return res

/-- **`f_truncate`** -/
def fTruncate (check : FResult) : FileM (Option FResult) := do
  let s ← get
  if check ≠ .ok then return some check
  else if s.err ≠ .ok then return some s.err
  else if !s.canWrite then return some .denied
  else if s.fptr < s.objsize then
    match ← truncateChain g with
    | none => return none
    | some res =>
      modify fun s ↦ { s with objsize := s.fptr, modified := true }
      let res ← truncateBack res
      if res = .ok then return some .ok
      else
        abortFile res
        return some res
  else return some .ok

/-! ### Synchronizing -/

/-- `disk_ioctl(CTRL_SYNC)` -/
def diskSync : WinM Bool := fun s ↦ ((s.disk.faults 0).isNone, { s with disk := s.disk.next })

/-- "Create FSInfo structure" -/
def fsInfo (freeClst lastClst : ℕ) : Memory :=
  st32 (st32 (st32 (st32 (st32 (fun _ ↦ 0) 0 0x41615252) 484 0x61417272) 488 freeClst) 492 lastClst)
    508 0xAA550000

/-- "FAT32: Update FSInfo sector"; the result of the write is not looked at. -/
def writeFsInfo : FatM PUnit := do
  let s ← get
  if s.fsiFlag = 1 then
    modify fun s ↦ { s with fsiFlag := 0 }
    if g.fsType = .fat32 then
      modify fun s ↦ { s with
        window.win := fsInfo s.freeClst s.lastClst, window.winsect := add32 g.volbase 1 }
      let s ← get
      let _ ← FatFs.windowPart.zoom (diskWrite s.window.winsect s.window.win)
      return ⟨⟩
    else return ⟨⟩
  else return ⟨⟩

/-- `sync_fs` -/
def syncFs : FatM FResult := do
  let res ← FatFs.windowPart.zoom (syncWindow g)
  if res = .ok then
    writeFsInfo g
    if ← FatFs.windowPart.zoom diskSync then return .ok else return .diskErr
  else return res

/-- `st_clust` -/
def stClust (p : Memory) (dir cl : ℕ) : Memory :=
  if g.fsType = .fat32 then st16 (st16 p (dir + 26) cl) (dir + 20) (cl / 0x10000)
  else st16 p (dir + 26) cl

/-- `ld_clust` -/
def ldClust (p : Memory) (dir : ℕ) : ℕ :=
  if g.fsType = .fat32 then ld16 p (dir + 26) ||| ld16 p (dir + 20) <<< 16 else ld16 p (dir + 26)

/-- "Update the directory entry" -/
def updateEntry (p : Memory) (dir sclust objsize time : ℕ) : Memory :=
  st16 (st32 (st32 (stClust g (Function.update p (dir + 11) (p (dir + 11) ||| 0x20)) dir sclust)
    (dir + 28) objsize) (dir + 22) time) (dir + 18) 0

/-- **`f_sync`** -/
def fSync (check : FResult) (time : ℕ) : FileM FResult := do
  let s ← get
  if check ≠ .ok then return check
  else if s.modified then
    if ← writeBack then
      let res ← onDisk (moveWindow g s.dirSect)
      if res = .ok then
        modify fun s ↦ { s with
          fs.window.win := updateEntry g s.fs.window.win s.dirPtr s.sclust s.objsize time
          fs.window.wflag := true }
        let res ← onFs (syncFs g)
        modify fun s ↦ { s with modified := false }
        return res
      else return res
    else return .diskErr
  else return .ok

end
