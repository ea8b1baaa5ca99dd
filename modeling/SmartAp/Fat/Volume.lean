import SmartAp.Fat.Clusters
import SmartAp.SdCard.MountVolume

/-!
# The analysis of a volume

What `mount_volume` of `ff.c` does with the sectors it reads: `check_fs` and `find_volume`, which
look for a boot sector, and then the fields of the BIOS parameter block, from which the layout of
the volume is computed in numbers of 32 bits.

## What is accepted

`analyzeBpb` is the code, with its arithmetic modulo `2 ^ 32` (`add32`, `mul32`) and its checks in
their order. `BpbAccepted` collects what is known when it accepts: each field of the geometry as a
term in the fields of the block, and each check that was passed. A block that is accepted has a
layout in which the FAT has an entry for each cluster and the number of the clusters is right for
the type (`BpbAccepted.volumeSound`), which is what the modules on the FAT, on files and on
directories assume of a volume.

## What is laid out

Whether the areas lie one after the other on the volume is another matter. The size of the FATs is
multiplied and added without a look at the carry, and so a block with a FAT that is too large by far
is accepted: its data area begins inside the FATs, or even before them. `analyzeBpb_laidOut_iff`
says exactly when it does not: when the size of the system area, computed without an overflow
(`bpbSystemSize`), is a number of 32 bits.

This is said for a volume that ends within the numbers of the sectors, `bsect + bpbTotal ≤
noSector`. The code does not check that either, and a volume that begins near the end of the numbers
has areas that wrap around whatever its block says. A disk has sectors of that number only with 2
TiB.
-/

def add32 (a b : ℕ) : ℕ := (UInt32.ofNat a + UInt32.ofNat b).toNat

def mul32 (a b : ℕ) : ℕ := (UInt32.ofNat a * UInt32.ofNat b).toNat

theorem add32_eq (a b : ℕ) : add32 a b = (a + b) % 0x100000000 := by
  rw [add32, UInt32.toNat_add, UInt32.toNat_ofNat', UInt32.toNat_ofNat']
  omega

theorem mul32_eq (a b : ℕ) : mul32 a b = a * b % 0x100000000 := by
  rw [mul32, UInt32.toNat_mul, UInt32.toNat_ofNat', UInt32.toNat_ofNat', ← Nat.mul_mod]

/-! ### The boot sector -/

/-- What `check_fs` and `find_volume` return; exFAT is not built in. -/
inductive BootSector
  /-- 0: "FAT/FAT32 VBR" -/
  | fat
  /-- 2: "Not FAT and valid BS" -/
  | notFat
  /-- 3: "Not FAT and invalid BS" -/
  | notBoot
  /-- 4: "Disk error" -/
  | diskError
  deriving DecidableEq

/-- "FAT32   " -/
def fat32Name : List UInt8 := [0x46, 0x41, 0x54, 0x33, 0x32, 0x20, 0x20, 0x20]

/-- The signs of a boot sector without a name of the filesystem. -/
def looksLikeFat (opt : MountOptions) (win : Memory) : Bool :=
  let w := ld16 win 11
  let b := (win 13).toNat
  w &&& (w - 1) = 0 ∧ min 512 opt.wlSectorSize ≤ w ∧ w ≤ max 512 opt.wlSectorSize ∧
    b ≠ 0 ∧ b &&& (b - 1) = 0 ∧ ld16 win 14 ≠ 0 ∧ sub32 (win 16).toNat 1 ≤ 1 ∧
    ld16 win 17 ≠ 0 ∧ (128 ≤ ld16 win 19 ∨ 0x10000 ≤ ld32 win 32) ∧ ld16 win 22 ≠ 0

/-- `check_fs` on a sector that was read. -/
def checkBootSector (opt : MountOptions) (win : Memory) : BootSector :=
  if (win 0 = 0xEB ∨ win 0 = 0xE9 ∨ win 0 = 0xE8) ∧
      (ld16 win 510 = 0xAA55 ∧ (List.range 8).map (fun i ↦ win (82 + i)) = fat32Name ∨
        looksLikeFat opt win) then .fat
  else if ld16 win 510 = 0xAA55 then .notFat
  else .notBoot

section

variable (g : FatGeometry) (opt : MountOptions)

/-- `check_fs`; `g` is what the object was mounted with before. -/
def checkFs (sect : ℕ) : WinM BootSector := do
  modify fun s ↦ { s with wflag := false, winsect := noSector }
  let res ← moveWindow g sect
  if res ≠ .ok then return .diskError
  else
    let s ← get
    return checkBootSector opt s.win

/-- "Check if the partition is FAT" -/
def checkPartition (pt : ℕ) : WinM BootSector :=
  if pt ≠ 0 then checkFs g opt pt else return .notBoot

/-- The partitions are tried until one of them is a FAT volume. -/
def findPartition : List ℕ → WinM BootSector
  | [] => return .notBoot
  | pt :: pts => do
    let fmt ← checkPartition g opt pt
    if fmt = .fat ∨ pts = [] then return fmt else findPartition pts

/-- `mbr_pt` -/
def mbrPartitions (win : Memory) : List ℕ :=
  (List.range 4).map fun i ↦ ld32 win (446 + i * 16 + 8)

/-- `find_volume`; `part` is 0 to try them all. -/
def findFatVolume (part : ℕ) : WinM BootSector := do
  let fmt ← checkFs g opt 0
  if fmt ≠ .notFat ∧ (fmt ≠ .fat ∨ part = 0) then return fmt
  else if 4 < part then return .notBoot
  else
    let s ← get
    findPartition g opt
      (if part = 0 then mbrPartitions s.win else [(mbrPartitions s.win).getD (part - 1) 0])

end

/-! ### The parameter block -/

/-- The FAT sub type, by the number of clusters. -/
def fatTypeOf (nclst : ℕ) : Option FatType :=
  if nclst ≤ 0xFF5 then some .fat12
  else if nclst ≤ 0xFFF5 then some .fat16
  else if nclst ≤ 0x0FFFFFF5 then some .fat32
  else none

/-- `BPB_FATSz`: "Number of sectors per FAT" -/
def bpbFatSize (win : Memory) : ℕ := if ld16 win 22 = 0 then ld32 win 36 else ld16 win 22

/-- `BPB_TotSec`: "Number of sectors on the volume" -/
def bpbTotal (win : Memory) : ℕ := if ld16 win 19 = 0 then ld32 win 32 else ld16 win 19

/-- `sysect`: the sectors before the data area, as the code adds them. -/
def bpbSystem (win : Memory) : ℕ :=
  add32 (add32 (ld16 win 14) (mul32 (bpbFatSize win) (win 16).toNat)) (ld16 win 17 / (512 / 32))

/-- The fields of the object, unless the FAT is smaller than the `szbfat` bytes needed. -/
def bpbGeometry (win : Memory) (bsect nclst : ℕ) (fmt : FatType) (dirbase szbfat : ℕ) :
    Option FatGeometry :=
  if bpbFatSize win < (szbfat + (512 - 1)) / 512 then none
  else some
    { fsType := fmt, nFats := (win 16).toNat, csize := (win 13).toNat, nRootdir := ld16 win 17
      nFatent := nclst + 2, fsize := bpbFatSize win, volbase := bsect
      fatbase := add32 bsect (ld16 win 14), dirbase, database := add32 bsect (bpbSystem win) }

/-- The end of the analysis, when the sub type is known. -/
def bpbLayout (win : Memory) (bsect nclst : ℕ) (fmt : FatType) : Option FatGeometry :=
  let nFatent := nclst + 2
  if fmt = .fat32 then
    if ld16 win 42 ≠ 0 then none
    else if ld16 win 17 ≠ 0 then none
    else bpbGeometry win bsect nclst fmt (ld32 win 44) (nFatent * 4)
  else if ld16 win 17 = 0 then none
  else bpbGeometry win bsect nclst fmt
    (add32 (add32 bsect (ld16 win 14)) (mul32 (bpbFatSize win) (win 16).toNat))
    (if fmt = .fat16 then nFatent * 2 else nFatent * 3 / 2 + nFatent % 2)

/-- The analysis of the parameter block in the sector `bsect`; `none` is `FR_NO_FILESYSTEM`. -/
def analyzeBpb (win : Memory) (bsect : ℕ) : Option FatGeometry :=
  let csize := (win 13).toNat
  if ld16 win 11 ≠ 512 then none
  else if (win 16).toNat ≠ 1 ∧ (win 16).toNat ≠ 2 then none
  else if csize = 0 ∨ csize &&& (csize - 1) ≠ 0 then none
  else if ld16 win 17 % (512 / 32) ≠ 0 then none
  else if ld16 win 14 = 0 then none
  else if bpbTotal win < bpbSystem win then none
  else
    let nclst := (bpbTotal win - bpbSystem win) / csize
    if nclst = 0 then none
    else match fatTypeOf nclst with
      | none => none
      | some fmt => bpbLayout win bsect nclst fmt

/-! ### What is accepted -/

/-- A parameter block that was accepted, and the layout computed from it. -/
structure BpbAccepted (win : Memory) (bsect : ℕ) (g : FatGeometry) : Prop where
  nFats : g.nFats = (win 16).toNat
  oneOrTwo : g.nFats = 1 ∨ g.nFats = 2
  csize : g.csize = (win 13).toNat
  csize_pos : 0 < g.csize
  csize_and : g.csize &&& (g.csize - 1) = 0
  nRootdir : g.nRootdir = ld16 win 17
  rootdir_aligned : g.nRootdir % 16 = 0
  fsize : g.fsize = bpbFatSize win
  reserved_pos : 0 < ld16 win 14
  system_le : bpbSystem win ≤ bpbTotal win
  nFatent : g.nFatent = (bpbTotal win - bpbSystem win) / g.csize + 2
  two_lt : 2 < g.nFatent
  fsType : fatTypeOf (g.nFatent - 2) = some g.fsType
  volbase : g.volbase = bsect
  fatbase : g.fatbase = add32 bsect (ld16 win 14)
  database : g.database = add32 bsect (bpbSystem win)
  root_fat32 : g.fsType = .fat32 → g.nRootdir = 0 ∧ g.dirbase = ld32 win 44
  root_fixed : g.fsType ≠ .fat32 → 0 < g.nRootdir ∧
    g.dirbase = add32 g.fatbase (mul32 g.fsize g.nFats)
  covers : g.fsType.bytes g.nFatent ≤ g.fsize * 512

/-- A geometry that `bpbGeometry` gives is that of the fields, within the bounds checked. -/
theorem bpbGeometry_accepted {win : Memory} {bsect nclst dirbase szbfat : ℕ} {fmt : FatType}
    {g : FatGeometry} (h : bpbGeometry win bsect nclst fmt dirbase szbfat = some g)
    (hfats : (win 16).toNat = 1 ∨ (win 16).toNat = 2) (hcsize : 0 < (win 13).toNat)
    (hand : (win 13).toNat &&& ((win 13).toNat - 1) = 0) (hroot : ld16 win 17 % 16 = 0)
    (hreserved : 0 < ld16 win 14) (hsystem : bpbSystem win ≤ bpbTotal win)
    (hnclst : nclst = (bpbTotal win - bpbSystem win) / (win 13).toNat) (hpos : 0 < nclst)
    (hfmt : fatTypeOf nclst = some fmt)
    (hfat32 : fmt = .fat32 → ld16 win 17 = 0 ∧ dirbase = ld32 win 44)
    (hfixed : fmt ≠ .fat32 → 0 < ld16 win 17 ∧ dirbase =
      add32 (add32 bsect (ld16 win 14)) (mul32 (bpbFatSize win) (win 16).toNat))
    (hneeded : szbfat = fmt.bytes (nclst + 2)) : BpbAccepted win bsect g := by
  rw [bpbGeometry] at h
  split at h
  · cases h
  rename_i hfits
  cases h
  refine ⟨rfl, hfats, rfl, hcsize, hand, rfl, hroot, rfl, hreserved, hsystem,
    congrArg (· + 2) hnclst, Nat.add_lt_add_right hpos 2, hfmt, rfl, rfl, rfl, hfat32, hfixed, ?_⟩
  show fmt.bytes (nclst + 2) ≤ bpbFatSize win * 512
  omega

/-- A geometry that was found is that of the fields of the boot sector. -/
theorem analyzeBpb_accepted {win : Memory} {bsect : ℕ} {g : FatGeometry}
    (h : analyzeBpb win bsect = some g) : BpbAccepted win bsect g := by
  simp only [analyzeBpb] at h
  split at h
  · cases h
  split at h
  · cases h
  rename_i hfats
  split at h
  · cases h
  rename_i hcsize
  split at h
  · cases h
  rename_i hroot
  split at h
  · cases h
  rename_i hreserved
  split at h
  · cases h
  rename_i hsystem
  split at h
  · cases h
  rename_i hnclst
  split at h
  · cases h
  rename_i fmt hfmt
  rw [bpbLayout] at h
  split at h
  · rename_i hfat32
    split at h
    · cases h
    split at h
    · cases h
    rename_i hrootdir
    refine bpbGeometry_accepted h (by omega) (by omega) (by omega) (by omega) (by omega) (by omega)
      rfl (Nat.pos_of_ne_zero hnclst) hfmt (fun _ ↦ ⟨by omega, rfl⟩)
      (fun hne ↦ absurd hfat32 hne) ?_
    rw [hfat32, FatType.bytes]
  · rename_i hfixed
    split at h
    · cases h
    rename_i hrootdir
    refine bpbGeometry_accepted h (by omega) (by omega) (by omega) (by omega) (by omega) (by omega)
      rfl (Nat.pos_of_ne_zero hnclst) hfmt (fun hf ↦ absurd hf hfixed)
      (fun _ ↦ ⟨Nat.pos_of_ne_zero hrootdir, rfl⟩) ?_
    cases fmt with
    | fat12 => rfl
    | fat16 => rfl
    | fat32 => exact absurd rfl hfixed

/-- The entries suffice, and their values do. -/
theorem BpbAccepted.chainSound {win : Memory} {bsect : ℕ} {g : FatGeometry}
    (h : BpbAccepted win bsect g) (hplaced : g.FatsPlaced) : g.ChainSound where
  toFatsPlaced := hplaced
  covers := h.covers
  two_lt := h.two_lt
  lt_range := by
    have htype := h.fsType
    have htwo := h.two_lt
    rw [fatTypeOf] at htype
    rw [FatGeometry.entryRange]
    split at htype
    · rw [← Option.some.inj htype]
      simp only
      omega
    split at htype
    · rw [← Option.some.inj htype]
      simp only
      omega
    split at htype
    · rw [← Option.some.inj htype]
      simp only
      omega
    · cases htype

/-! ### The areas of the volume -/

/-- **The areas lie one after the other**, inside the volume. -/
structure LaidOut (win : Memory) (bsect : ℕ) (g : FatGeometry) : Prop where
  fatbase : g.fatbase = bsect + ld16 win 14
  database : g.database = g.fatbase + g.nFats * g.fsize + g.nRootdir / 16
  data_le : g.database + g.csize * (g.nFatent - 2) ≤ bsect + bpbTotal win

theorem ld32_lt (p : Memory) (o : ℕ) : ld32 p o < 0x100000000 := by
  rw [ld32_eq]
  exact loadWord_lt p o 4

/-- The sectors before the data area, as they are. -/
def bpbSystemSize (win : Memory) : ℕ :=
  ld16 win 14 + bpbFatSize win * (win 16).toNat + ld16 win 17 / 16

/-- The size of the system area as the code adds it up, with its overflow. -/
theorem bpbSystem_eq (win : Memory) : bpbSystem win = bpbSystemSize win % 0x100000000 := by
  rw [bpbSystem, add32_eq, add32_eq, mul32_eq, bpbSystemSize]
  omega

/-- **A block that is accepted describes areas one after the other exactly when the size of the
system area has 32 bits**, if the volume lies on a disk with numbers of 32 bits. -/
theorem analyzeBpb_laidOut_iff {win : Memory} {bsect : ℕ} {g : FatGeometry}
    (h : analyzeBpb win bsect = some g) (hdisk : bsect + bpbTotal win ≤ noSector) :
    LaidOut win bsect g ↔ bpbSystemSize win < 0x100000000 := by
  have ha := analyzeBpb_accepted h
  have hsystem := bpbSystem_eq win
  have hle := ha.system_le
  have hmul : g.nFats * g.fsize = bpbFatSize win * (win 16).toNat := by
    rw [ha.nFats, ha.fsize, Nat.mul_comm]
  have hclusters : g.csize * (g.nFatent - 2) ≤ bpbTotal win - bpbSystem win := by
    rw [ha.nFatent, Nat.add_sub_cancel, Nat.mul_comm]
    exact Nat.div_mul_le_self _ _
  have hdata := ha.database
  have hfat := ha.fatbase
  rw [add32_eq] at hdata hfat
  rw [noSector] at hdisk
  have hroot := ha.nRootdir
  constructor
  · intro hl
    have h₁ := hl.database
    have h₂ := hl.fatbase
    have h₃ := hl.data_le
    rw [hmul, hroot, h₂] at h₁
    rw [bpbSystemSize] at hsystem ⊢
    omega
  · intro hlt
    rw [Nat.mod_eq_of_lt hlt] at hsystem
    have hsize : ld16 win 14 ≤ bpbSystemSize win := by
      rw [bpbSystemSize]
      omega
    have h₁ : g.fatbase = bsect + ld16 win 14 := by omega
    refine ⟨h₁, ?_, ?_⟩
    · rw [hmul, hroot, h₁]
      rw [bpbSystemSize] at hsystem
      omega
    · omega

/-- The parameter block of a volume of 128 sectors, at sector 0. -/
def smallBlock : Memory := fun i ↦
  [0xEB, 0, 0x90, 0, 0, 0, 0, 0, 0, 0, 0, 0, 2, 1, 1, 0, 2, 16, 0, 128, 0, 0xF8, 1, 0].getD i 0

/-- The boot sector of the volume of 128 sectors. -/
theorem analyzeBpb_smallBlock : analyzeBpb smallBlock 0 = some smallVolume := by
  decide

theorem analyzeBpb_laidOut_iff_small :
    LaidOut smallBlock 0 smallVolume ↔ bpbSystemSize smallBlock < 0x100000000 :=
  analyzeBpb_laidOut_iff analyzeBpb_smallBlock (by decide)

/-- What the functions above the FAT rely on. -/
structure FatGeometry.VolumeSound (g : FatGeometry) : Prop extends g.ChainSound where
  oneOrTwo : g.nFats = 1 ∨ g.nFats = 2
  csize_pow : g.csize.isPowerOfTwo
  fats_le : g.fatbase + g.nFats * g.fsize ≤ g.database
  data_le : g.database + g.csize * (g.nFatent - 2) ≤ noSector

/-- **A layout that is accepted and laid out is sound**, if the FSInfo sector of a FAT32 volume is a
reserved one. -/
theorem BpbAccepted.volumeSound {win : Memory} {bsect : ℕ} {g : FatGeometry}
    (h : BpbAccepted win bsect g) (hl : LaidOut win bsect g)
    (hdisk : bsect + bpbTotal win ≤ noSector) (hinfo : g.fsType = .fat32 → 1 < ld16 win 14) :
    g.VolumeSound := by
  have hfats := hl.database
  have hdata := hl.data_le
  have hmul : g.nFats * g.fsize = g.fsize ∨ g.nFats * g.fsize = 2 * g.fsize :=
    h.oneOrTwo.imp (fun h ↦ by rw [h, Nat.one_mul]) fun h ↦ by rw [h]
  have hplaced : g.FatsPlaced := by
    refine ⟨by omega, fun h₂ ↦ ?_, fun ht ↦ ?_⟩
    · rw [h₂] at hfats
      omega
    · have := hinfo ht
      have := hl.fatbase
      have := h.volbase
      omega
  have hpow := (Nat.and_sub_one_eq_zero_iff_isPowerOfTwo (Nat.ne_of_gt h.csize_pos)).1 h.csize_and
  exact ⟨h.chainSound hplaced, h.oneOrTwo, hpow, by omega, by omega⟩

/-! ### Clusters and sectors -/

/-- `clst2sect`; 0 for a number that is no cluster. -/
def clst2sect (g : FatGeometry) (clst : ℕ) : ℕ :=
  if g.nFatent - 2 ≤ sub32 clst 2 then 0 else add32 g.database (mul32 g.csize (sub32 clst 2))

variable {g : FatGeometry}

/-- The first sector of a cluster. -/
theorem clst2sect_eq (hg : g.VolumeSound) {c : ℕ} (hc : g.Valid c) :
    clst2sect g c = g.database + g.csize * (c - 2) := by
  have h₁ := hc.1
  have h₂ := hc.2
  have hrange := hg.lt_range
  have hle := g.entryRange_le
  have hdata := hg.data_le
  rw [noSector] at hdata
  have hsub : sub32 c 2 = c - 2 := by
    rw [sub32, UInt32.toNat_sub, UInt32.toNat_ofNat', UInt32.toNat_ofNat']
    omega
  have hmono : g.csize * (c - 2) ≤ g.csize * (g.nFatent - 2) :=
    Nat.mul_le_mul_left _ (by omega)
  rw [clst2sect, hsub, if_neg (by omega), mul32_eq, add32_eq]
  omega

/-- The sectors of a cluster are in the data area. -/
theorem clst2sect_bounds (hg : g.VolumeSound) {c : ℕ} (hc : g.Valid c) :
    g.database ≤ clst2sect g c ∧
      clst2sect g c + g.csize ≤ g.database + g.csize * (g.nFatent - 2) := by
  have h₁ := hc.1
  have h₂ := hc.2
  rw [clst2sect_eq hg hc]
  refine ⟨Nat.le_add_right _ _, ?_⟩
  have hmono : g.csize * (c - 2 + 1) ≤ g.csize * (g.nFatent - 2) :=
    Nat.mul_le_mul_left _ (by omega)
  rw [Nat.mul_succ] at hmono
  omega

/-- **Different clusters share no sector.** -/
theorem clst2sect_disjoint (hg : g.VolumeSound) {c d : ℕ} (hc : g.Valid c) (hd : g.Valid d)
    (hne : c ≠ d) : clst2sect g c + g.csize ≤ clst2sect g d ∨
      clst2sect g d + g.csize ≤ clst2sect g c := by
  have hstep : ∀ {c d : ℕ}, g.Valid c → g.Valid d → c < d →
      clst2sect g c + g.csize ≤ clst2sect g d := by
    intro c d hc hd hlt
    have h₁ := hc.1
    rw [clst2sect_eq hg hc, clst2sect_eq hg hd]
    have hmono : g.csize * (c - 2 + 1) ≤ g.csize * (d - 2) := Nat.mul_le_mul_left _ (by omega)
    rw [Nat.mul_succ] at hmono
    omega
  rcases Nat.lt_or_gt_of_ne hne with h | h
  · exact .inl (hstep hc hd h)
  · exact .inr (hstep hd hc h)

/-- A data sector is in no FAT. -/
theorem clst2sect_tracked (hg : g.VolumeSound) {c k : ℕ} (hc : g.Valid c) (hk : k < g.csize) :
    g.Tracked (clst2sect g c + k) ∧ ¬ g.InFat (clst2sect g c + k) := by
  have hbounds := clst2sect_bounds hg hc
  have hfats := hg.fats_le
  have hdata := hg.data_le
  have hmul : g.nFats * g.fsize = g.fsize ∨ g.nFats * g.fsize = 2 * g.fsize :=
    hg.oneOrTwo.imp (fun h ↦ by rw [h, Nat.one_mul]) fun h ↦ by rw [h]
  refine ⟨⟨by omega, fun hm ↦ ?_, fun hi ↦ ?_⟩, fun hin ↦ ?_⟩
  · have h₁ := hm.1
    have h₂ := hm.2.2
    rw [h₁] at hfats
    omega
  · have := hg.fsinfo_lt hi.1
    omega
  · have := hin.2
    omega
