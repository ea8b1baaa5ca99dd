import SmartAp.Fat.Volume
import SmartAp.Fat.Allocation

/-!
# From the disk to a volume

The part of `mount_volume` that finds a volume on the disk and fills the filesystem object, down to
the FSInfo sector. `initVolume` starts from the window as `f_mount` leaves it, with any contents.

## Nothing is written

While a volume is looked for, the window is clean, so that to move it reads a sector and writes
nothing. `CleanOn D` says both: the window is clean, and the disk has the bytes `D`. It is kept by
`check_fs` (`checkFs_spec`), by the search through the partitions (`findPartition_spec`,
`findFatVolume_spec`) and by what reads the FSInfo sector (`readFsInfo_spec`), and holds also when
the mount is refused.

## What mounting establishes

When it ends with `FR_OK`, the object describes what the disk has at the sector that was found
(`BpbOnDisk`), the window is clean, and the FAT behind it is the table that the disk holds
(`initVolume_sound`): what the functions of the FAT assume is what mounting has established, as far
as the parameter block is one that a disk can have.

Two numbers come from the FSInfo sector of a FAT32 volume, `last_clst` and `free_clst`, and they are
taken as they stand there. Nothing is proved of them, and the results that need a right count say
so.
-/

/-- `FSI_LeadSig`, `FSI_StrucSig` and `FSI_TrailSig` -/
def fsinfoSigned (win : Memory) : Bool :=
  ld32 win 0 = 0x41615252 ∧ ld32 win 484 = 0x61417272 ∧ ld32 win 508 = 0xAA550000

/-- "Get FSInfo if available", from the window that holds the boot sector. -/
def readFsInfo (g : FatGeometry) : FatM Unit := do
  modify fun s ↦ { s with lastClst := 0xFFFFFFFF, freeClst := 0xFFFFFFFF, fsiFlag := 0x80 }
  let s ← get
  if g.fsType = .fat32 ∧ ld16 s.window.win 48 = 1 then
    let res ← FatFs.windowPart.zoom (moveWindow g (add32 g.volbase 1))
    if res = .ok then
      modify fun s ↦ { s with fsiFlag := 0 }
      modify fun s ↦ if fsinfoSigned s.window.win then
        { s with freeClst := ld32 s.window.win 488, lastClst := ld32 s.window.win 492 } else s
    else return ()
  else return ()

/-- `mount_volume` from `find_volume` on; `g` is what the object was mounted with before. -/
def initVolume (g : FatGeometry) (opt : MountOptions) (part : ℕ) :
    FatM (FResult × Option FatGeometry) := do
  let fmt ← FatFs.windowPart.zoom (findFatVolume g opt part)
  match fmt with
  | .diskError => return (.diskErr, none)
  | .notFat => return (.noFilesystem, none)
  | .notBoot => return (.noFilesystem, none)
  | .fat =>
    let s ← get
    match analyzeBpb s.window.win s.window.winsect with
    | none => return (.noFilesystem, none)
    | some g' =>
      readFsInfo g'
      return (.ok, some g')

/-! ### A window that is clean -/

/-- The disk has the contents `D`, and the window is a copy of a sector of it. -/
structure CleanOn (D : Memory) (s : FatWindow) : Prop where
  wflag : s.wflag = false
  bytes : s.disk.bytes = D
  winsect_le : s.winsect ≤ noSector
  win : s.winsect < noSector → s.win = blockAt 512 D s.winsect

variable {g : FatGeometry} {opt : MountOptions} {D : Memory}

/-- To move a clean window reads a sector and writes nothing. -/
theorem moveWindow_clean {k : ℕ} (hk : k ≤ noSector) :
    Triple (CleanOn D) (moveWindow g k) fun res s ↦
      CleanOn D s ∧ (res = .ok → s.winsect = k) := by
  intro s h
  by_cases hs : k = s.winsect
  · have hrun : moveWindow g k s = (.ok, s) := by
      simp [moveWindow, hs, run_bind, run_get, run_pure]
    rw [hrun]
    exact ⟨h, fun _ ↦ hs.symm⟩
  have hsync : syncWindow g s = (.ok, s) := by
    simp [syncWindow, h.wflag, run_bind, run_get, run_pure]
  cases hf : s.disk.faults 0 with
  | none =>
    have hmove : moveWindow g k s = (.ok, { s with
        winsect := k, win := blockAt 512 s.disk.bytes k, disk := s.disk.next }) := by
      simp [moveWindow, hs, hsync, diskReadWin, hf, run_bind, run_get, run_map, run_modify]
    rw [hmove]
    exact ⟨⟨h.wflag, h.bytes, hk, fun _ ↦ by rw [h.bytes]⟩, fun _ ↦ rfl⟩
  | some junk =>
    have hmove : moveWindow g k s = (.diskErr, { s with
        winsect := noSector, win := junk, disk := s.disk.next }) := by
      simp [moveWindow, hs, hsync, diskReadWin, hf, run_bind, run_get, run_map, run_modify]
    rw [hmove]
    exact ⟨⟨h.wflag, h.bytes, Nat.le_refl _, fun hlt ↦ absurd hlt (Nat.lt_irrefl _)⟩,
      fun hres ↦ FResult.noConfusion hres⟩

/-- What a search for a boot sector leaves. -/
def SearchDone (opt : MountOptions) (D : Memory) (fmt : BootSector) (s : FatWindow) : Prop :=
  CleanOn D s ∧ (fmt = .fat → checkBootSector opt s.win = .fat)

/-- `check_fs` says what the boot sector is, by the bytes of the disk. -/
theorem checkFs_spec {sect : ℕ} (hsect : sect ≤ noSector) :
    Triple (fun s ↦ s.disk.bytes = D) (checkFs g opt sect) (SearchDone opt D) := by
  refine triple_modify_bind ?_
  refine .weaken (.bind (moveWindow_clean (g := g) (D := D) hsect) fun res ↦
    .ite (fun _ ↦ .pure fun s hs ↦ ⟨hs.1, fun h ↦ absurd h (by decide)⟩) fun _ ↦
      triple_get_bind fun s hs ↦ .pure fun t ht ↦ ?_) ?_ fun _ _ h ↦ h
  · rw [ht]
    exact ⟨hs.1, fun h ↦ h⟩
  · rintro _ ⟨s, rfl, rfl⟩
    exact ⟨rfl, rfl, Nat.le_refl _, fun h ↦ absurd h (Nat.lt_irrefl _)⟩

/-- Of the partitions the first one with a FAT volume is taken. -/
theorem findPartition_spec {pts : List ℕ} (hpts : ∀ pt ∈ pts, pt ≤ noSector) :
    Triple (CleanOn D) (findPartition g opt pts) (SearchDone opt D) := by
  induction pts with
  | nil => exact .pure fun s hs ↦ ⟨hs, fun h ↦ absurd h (by decide)⟩
  | cons pt pts ih =>
    have hcheck : Triple (CleanOn D) (checkPartition g opt pt) (SearchDone opt D) :=
      .ite (fun _ ↦ (checkFs_spec (hpts pt List.mem_cons_self)).weaken (fun s hs ↦ hs.bytes)
        fun _ _ h ↦ h) fun _ ↦ .pure fun s hs ↦ ⟨hs, fun h ↦ absurd h (by decide)⟩
    refine .bind hcheck fun fmt ↦ .ite (fun _ ↦ .pure fun s hs ↦ hs) fun _ ↦ ?_
    exact (ih fun q hq ↦ hpts q (List.mem_cons_of_mem pt hq)).weaken (fun s hs ↦ hs.1)
      fun _ _ h ↦ h

/-- The start of a partition is a sector that a disk can have. -/
theorem mbrPartitions_le {win : Memory} {pt : ℕ} (h : pt ∈ mbrPartitions win) : pt ≤ noSector := by
  obtain ⟨i, -, rfl⟩ := List.mem_map.1 h
  have hlt := ld32_lt win (446 + i * 16 + 8)
  rw [noSector]
  omega

/-- The volume is in sector 0 or at the start of a partition of the table there. -/
theorem findFatVolume_spec (part : ℕ) :
    Triple (fun s ↦ s.disk.bytes = D) (findFatVolume g opt part) (SearchDone opt D) := by
  refine .bind (checkFs_spec (Nat.zero_le _)) fun fmt ↦ .ite (fun _ ↦ .pure fun s hs ↦ hs) fun _ ↦
    .ite (fun _ ↦ .pure fun s hs ↦ ⟨hs.1, fun h ↦ absurd h (by decide)⟩) fun _ ↦
      triple_get_bind fun s hs ↦ ?_
  refine (findPartition_spec fun pt hpt ↦ ?_).weaken (fun t ht ↦ ht ▸ hs.1) fun _ _ h ↦ h
  split at hpt
  · exact mbrPartitions_le hpt
  · rw [List.mem_singleton.1 hpt]
    rcases hget : (mbrPartitions s.win)[part - 1]? with - | v
    · rw [List.getD_eq_getElem?_getD, hget]
      exact Nat.zero_le _
    · rw [List.getD_eq_getElem?_getD, hget]
      exact mbrPartitions_le (List.mem_of_getElem? hget)

theorem add32_le (a b : ℕ) : add32 a b ≤ noSector := by
  rw [add32_eq, noSector]
  omega

/-- The FSInfo sector is read through the window, and the window stays clean. -/
theorem readFsInfo_spec (g : FatGeometry) :
    Triple (fun s ↦ CleanOn D s.window) (readFsInfo g) fun _ s ↦ CleanOn D s.window := by
  have hmove : Triple (fun s : FatFs ↦ CleanOn D s.window)
      (FatFs.windowPart.zoom (moveWindow g (add32 g.volbase 1))) fun _ s ↦ CleanOn D s.window :=
    fun s hs ↦ (moveWindow_clean (add32_le _ _) s.window hs).1
  refine triple_modify_bind (triple_get_bind fun s hs ↦ ?_)
  refine Triple.weaken (P := fun s ↦ CleanOn D s.window) ?_ ?_ fun _ _ h ↦ h
  · refine .ite (fun _ ↦ .bind hmove fun res ↦ .ite (fun _ ↦ ?_) fun _ ↦ .pure fun s hs ↦ hs)
      fun _ ↦ .pure fun s hs ↦ hs
    refine .bind (.modify (R := fun _ s ↦ CleanOn D s.window) fun s hs ↦ hs) fun _ ↦
      .modify fun s hs ↦ ?_
    split
    · exact hs
    · exact hs
  · rintro _ rfl
    obtain ⟨s₀, hs₀, rfl⟩ := hs
    exact hs₀

/-- A volume that was found on the disk `D`. -/
structure FoundVolume (opt : MountOptions) (D : Memory) (g : FatGeometry) (s : FatWindow) :
    Prop where
  clean : CleanOn D s
  block : ∃ win, analyzeBpb win g.volbase = some g ∧ checkBootSector opt win = .fat ∧
    (g.volbase < noSector → win = blockAt 512 D g.volbase)

/-- What a mount on the disk `D` leaves: the bytes of the disk as they were, and a volume exactly when
it reports `FR_OK`. -/
def MountDone (opt : MountOptions) (D : Memory) (r : FResult × Option FatGeometry) (s : FatFs) :
    Prop :=
  s.window.disk.bytes = D ∧ (r.2 = none → r.1 ≠ .ok) ∧
    ∀ g, r.2 = some g → r.1 = .ok ∧ FoundVolume opt D g s.window

/-- **Mounting does not write**, and what it mounts is what the disk has. -/
theorem initVolume_spec (g : FatGeometry) (opt : MountOptions) (part : ℕ) (D : Memory) :
    Triple (fun s ↦ s.window.disk.bytes = D) (initVolume g opt part) (MountDone opt D) := by
  have hfind : Triple (fun s : FatFs ↦ s.window.disk.bytes = D)
      (FatFs.windowPart.zoom (findFatVolume g opt part))
      fun fmt s ↦ SearchDone opt D fmt s.window :=
    fun s hs ↦ findFatVolume_spec part s.window hs
  refine .bind hfind fun fmt ↦ ?_
  have hfail : ∀ res : FResult, res ≠ .ok →
      Triple (fun s : FatFs ↦ SearchDone opt D fmt s.window) (pure (res, none)) (MountDone opt D) :=
    fun res hres ↦ .pure fun s hs ↦ ⟨hs.1.bytes, fun _ ↦ hres, fun g' h ↦ by cases h⟩
  cases fmt with
  | diskError => exact hfail _ (by decide)
  | notFat => exact hfail _ (by decide)
  | notBoot => exact hfail _ (by decide)
  | fat =>
    refine triple_get_bind fun s hs ↦ ?_
    cases hbpb : analyzeBpb s.window.win s.window.winsect with
    | none => exact (hfail _ (by decide)).weaken (fun t ht ↦ ht ▸ hs) fun _ _ h ↦ h
    | some g' =>
      refine .weaken (.bind (readFsInfo_spec g') fun _ ↦
        .pure fun t ht ↦ ⟨ht.bytes, fun h ↦ (by cases h), ?_⟩) (fun t ht ↦ ht ▸ hs.1) fun _ _ h ↦ h
      rintro g'' ⟨⟩
      have hvol := (analyzeBpb_accepted hbpb).volbase
      refine ⟨rfl, ht, s.window.win, hvol ▸ hbpb, hs.2 rfl, fun hlt ↦ ?_⟩
      rw [hvol] at hlt ⊢
      exact hs.1.win hlt

/-! ### What the FAT functions assume -/

/-- A clean window shows the disk. -/
theorem CleanOn.shows {s : FatWindow} {ρ : Prop} (h : CleanOn D s)
    (hreliable : ρ → ∀ n, s.disk.faults n = none) (hmirrored : ρ → g.Mirrored D) :
    Shows g ρ D s where
  image a ha := by
    by_cases hk : a / 512 = s.winsect
    · rw [overlay_of_eq _ _ hk, h.win (hk ▸ ha.exists_sector), blockAt, ← hk, Nat.div_add_mod']
    · rw [overlay_of_ne _ _ hk, h.bytes]
  clean _ a _ := by rw [h.bytes]
  dirty hw := absurd (h.wflag.symm.trans hw) (by decide)
  winsect_le := h.winsect_le
  reliable := hreliable
  mirrored hρ := by
    rw [h.bytes]
    exact hmirrored hρ

/-- A parameter block that a disk with sectors of 32 bits can have. -/
structure BpbOnDisk (win : Memory) (bsect : ℕ) (ty : FatType) : Prop where
  sector : bsect < noSector
  disk : bsect + bpbTotal win ≤ noSector
  carry : bpbSystemSize win < 0x100000000
  fsinfo : ty = .fat32 → 1 < ld16 win 14

/-- **A mounted volume is sound, and its FAT is the one on the disk.** The bytes of the disk are what
they were, also when no volume is found or a sector cannot be read. -/
theorem initVolume_sound (g : FatGeometry) (opt : MountOptions) (part : ℕ) (D : Memory) :
    Triple (fun s ↦ s.window.disk.bytes = D) (initVolume g opt part) fun r s ↦
      s.window.disk.bytes = D ∧ (r.2 = none → r.1 ≠ .ok) ∧
        ∀ g', r.2 = some g' → r.1 = .ok ∧
          (BpbOnDisk (blockAt 512 D g'.volbase) g'.volbase g'.fsType →
            g'.VolumeSound ∧ LaidOut (blockAt 512 D g'.volbase) g'.volbase g' ∧
              TableShows g' False D (fatEntry g' D) s.window) := by
  refine (initVolume_spec g opt part D).weaken (fun _ h ↦ h) ?_
  rintro r s ⟨hbytes, hnone, hr⟩
  refine ⟨hbytes, hnone, fun g' hg' ↦ ⟨(hr g' hg').1, fun hdisk ↦ ?_⟩⟩
  obtain ⟨-, hclean, win, hbpb, -, hwin⟩ := hr g' hg'
  rw [hwin hdisk.sector] at hbpb
  have haccepted := analyzeBpb_accepted hbpb
  have hlaid := (analyzeBpb_laidOut_iff hbpb hdisk.disk).2 hdisk.carry
  have hsound := haccepted.volumeSound hlaid hdisk.disk hdisk.fsinfo
  exact ⟨hsound, hlaid, D, hclean.shows (fun h ↦ h.elim) (fun h ↦ h.elim), FatOf.self D⟩

/-- A disk with a partition table, of which the second entry is a volume at sector 8. Its cluster 2 is
the end of a chain. -/
def partitionedDisk : Memory := fun a ↦
  if a < 512 then [(470, 8), (510, 0x55), (511, 0xAA)].lookup a |>.getD 0
  else if a < 8 * 512 then 0
  else if a = 9 * 512 + 3 then 0xFF
  else if a = 9 * 512 + 4 then 0x0F
  else smallBlock (a - 8 * 512)

/-- The volume of the partition. -/
def partitionVolume : FatGeometry :=
  { smallVolume with volbase := 8, fatbase := 9, dirbase := 11, database := 12 }

/-- An object for this disk, on which nothing is mounted. -/
def FatFs.onPartitionedDisk : FatFs := ⟨.empty ⟨partitionedDisk, fun _ ↦ none⟩, 0, 0, 0⟩

/-- The first sector is no volume, and the first partition is none. -/
theorem initVolume_sound_small :
    (initVolume smallVolume ⟨false, 512⟩ 0 .onPartitionedDisk).1 = (.ok, some partitionVolume) ∧
      partitionVolume.VolumeSound ∧
        LaidOut (blockAt 512 partitionedDisk 8) 8 partitionVolume ∧
        TableShows partitionVolume False partitionedDisk (fatEntry partitionVolume partitionedDisk)
          (initVolume smallVolume ⟨false, 512⟩ 0 .onPartitionedDisk).2.window ∧
        fatEntry partitionVolume partitionedDisk 2 = 0xFFF := by
  have hrun : (initVolume smallVolume ⟨false, 512⟩ 0 .onPartitionedDisk).1 =
      (.ok, some partitionVolume) := by decide +kernel
  obtain ⟨-, -, hmounted⟩ :=
    initVolume_sound smallVolume ⟨false, 512⟩ 0 partitionedDisk .onPartitionedDisk rfl
  obtain ⟨-, hsound⟩ := hmounted partitionVolume (congrArg Prod.snd hrun)
  obtain ⟨hvolume, hlaid, htable⟩ :=
    hsound ⟨by decide, by decide +kernel, by decide +kernel, fun h ↦ FatType.noConfusion h⟩
  exact ⟨hrun, hvolume, hlaid, htable, by decide +kernel⟩
