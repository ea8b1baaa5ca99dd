import SmartAp.SdCard.Driver

/-!
# Mounting a volume of the card

`mount_volume` of `ff.c` on the callbacks of the driver: the checks of the disk status, the reading
of sector 0, and then the analysis of what stands there.

The analysis itself (`check_fs` on a sector that was read, the partition table, the parameters of
the volume) is not embedded. It reads sectors and ends in one of three results, and this is all that
is known of it here: a `VolumeScan`.
-/

/-- The options of FatFs. -/
structure MountOptions where
  /-- `FF_FS_READONLY` -/
  readOnly : Bool
  /-- `FF_SS_WL`; `FF_MIN_SS` and `FF_MAX_SS` are the minimum and the maximum of this and 512. -/
  wlSectorSize : ℕ

/-- How an analysis ends. -/
inductive ScanResult
  | mountable
  | diskErr
  | noFilesystem

def ScanResult.toFResult : ScanResult → FResult
  | mountable => .ok
  | diskErr => .diskErr
  | noFilesystem => .noFilesystem

/-- An analysis: read a sector and go on with what was read, or end. -/
inductive VolumeScan
  | done (res : ScanResult)
  | read (sect : UInt32) (next : Option (List UInt8) → VolumeScan)

variable {κ : Type} (port : SdPort κ) (sd : SdOptions) (opt : MountOptions)

/-- `disk_read(pdrv, win, sect, 1)`; `none` is any result but `RES_OK`. -/
def readWindow (pdrv : ℕ) (sect : UInt32) : SdM κ (Option (List UInt8)) := do
  let (res, win) ← ffSdSpiRead port pdrv sect 1
  return if res = .ok then some win else none

/-- Run an analysis. -/
def runScan (pdrv : ℕ) : VolumeScan → SdM κ FResult
  | .done res => return res.toFResult
  | .read sect next => do
    let win ← readWindow port pdrv sect
    runScan pdrv (next win)

/-- `find_volume` and the rest of `mount_volume`: sector 0, then the analysis. A sector 0 that
cannot be read is `FR_DISK_ERR`. -/
def findVolume (scan : List UInt8 → VolumeScan) (pdrv : ℕ) : SdM κ FResult := do
  match ← readWindow port pdrv 0 with
  | none => return .diskErr
  | some win => runScan port pdrv (scan win)

/-- The sector size, when there is more than one. -/
def checkSectorSize (pdrv : ℕ) : SdM κ Bool := do
  if opt.wlSectorSize = 512 then return true
  let (res, ss) ← ffSdSpiSectorSize port pdrv
  return res = .ok ∧ ss ≤ max 512 opt.wlSectorSize ∧ min 512 opt.wlSectorSize ≤ ss ∧
    ss &&& (ss - 1) = 0

/-- The test for write protection; a `mode` without a write access passes. -/
def writeProtected (mode : UInt8) (stat : DStatus) : Bool :=
  !opt.readOnly && mode &&& 0xFE != 0 && stat.isProtected

/-- `mount_volume` on an object that is not valid. -/
def mountInvalid (scan : List UInt8 → VolumeScan) (mode : UInt8) (pdrv : ℕ) : SdM κ FResult := do
  let stat ← ffSdSpiInitialize port sd pdrv
  if stat.noInit then return .notReady
  if writeProtected opt mode stat then return .writeProtected
  if ← checkSectorSize port opt pdrv then findVolume port scan pdrv else return .diskErr

/-- **`mount_volume`** on a registered object of the given `fs_type`. `lock` tells whether the
volume can be locked, and `mode` is the desired access. -/
def mountVolume (scan : List UInt8 → VolumeScan) (lock : Bool) (mode fsType : UInt8) (pdrv : ℕ) :
    SdM κ FResult := do
  if !lock then return .timeout
  if fsType ≠ 0 then
    let stat ← ffSdSpiStatus pdrv
    if stat.noInit then mountInvalid port sd opt scan mode pdrv
    else return if writeProtected opt mode stat then .writeProtected else .ok
  else mountInvalid port sd opt scan mode pdrv

/-! ### The result -/

variable {port sd opt} {scan : List UInt8 → VolumeScan} {pdrv : ℕ}

theorem writeProtected_read (stat : DStatus) : writeProtected opt 0 stat = false := by
  rw [writeProtected]
  simp

/-- An analysis does not find the card write-protected. -/
theorem runScan_ne_writeProtected (pdrv : ℕ) (scan : VolumeScan) :
    Triple (fun _ ↦ True) (runScan port pdrv scan) fun res _ ↦ res ≠ .writeProtected := by
  induction scan with
  | done res =>
    refine .pure fun _ _ ↦ ?_
    cases res <;> exact FResult.noConfusion
  | read sect next ih => exact .bind_of_any ih

/-- **With the access mode of `f_mount`, `mount_volume` never returns `FR_WRITE_PROTECTED`**,
whatever the status of the disk. -/
theorem mountVolume_ne_writeProtected (lock : Bool) (fsType : UInt8) :
    Triple (fun _ ↦ True) (mountVolume port sd opt scan lock 0 fsType pdrv)
      fun res _ ↦ res ≠ .writeProtected := by
  have hinvalid : Triple (fun _ ↦ True) (mountInvalid port sd opt scan 0 pdrv)
      fun res _ ↦ res ≠ .writeProtected := by
    refine .bind_of_any fun stat ↦ .ite (fun _ ↦ .pure fun _ _ ↦ FResult.noConfusion)
      fun _ ↦ ?_
    rw [writeProtected_read, if_neg (by simp)]
    refine .bind_of_any fun ok ↦ .ite (fun _ ↦ ?_) fun _ ↦
      .pure fun _ _ ↦ FResult.noConfusion
    refine .bind_of_any fun win ↦ ?_
    rcases win with - | win
    · exact .pure fun _ _ ↦ FResult.noConfusion
    · exact runScan_ne_writeProtected pdrv (scan win)
  refine .ite (fun _ ↦ .pure fun _ _ ↦ FResult.noConfusion) fun _ ↦
    .ite (fun _ ↦ ?_) fun _ ↦ hinvalid
  refine .bind_of_any fun stat ↦ .ite (fun _ ↦ hinvalid) fun _ ↦ .pure fun _ _ ↦ ?_
  rw [writeProtected_read, if_neg (by simp)]
  exact FResult.noConfusion
