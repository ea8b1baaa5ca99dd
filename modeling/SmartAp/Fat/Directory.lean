import SmartAp.Fat.LongName
import SmartAp.Fat.FileSeek

/-!
# The table of a directory

A directory is a table of entries of 32 bytes, in a fixed area (the root of a FAT12 or FAT16 volume)
or in the sectors of a chain of clusters. `dir_sdi`, `dir_next` and `dir_clear` of `ff.c`, which
move through it.

## Where a directory is

`DirPlace` is the place of a directory, fixed or a chain, and `sector` the sector of an entry in
either. The rest of the development speaks of entry `n` of a place and not of sectors. What the code
keeps redundantly, the offset, the cluster, the sector and the pointer into the window, is one
condition: `DirAt` says that the directory object stands at entry `n`.

## What it holds

`DirView` is the volume as a directory sees it: the table, the chains, the bytes outside of the FAT,
and the window, which may be on a sector of the directory and be dirty. `DirPlace.entries` is the
list of the entries, in the order of the table. The entry in the window is the entry of the list
(`moveEntry_view`), and a change of it changes that entry and no other (`DirView.edited`), because
the sectors of a directory are different from each other (`DirView.sector_inj`) and are not in the
FAT.

`MAX_DIR` bounds a directory at 2 MiB. The bound is part of the code and of the capacity of a place,
so a directory with a longer chain is one whose further entries no function sees.
-/

/-- The state of a search for the entries of a long name: `ord` and `sum`, which are variables of
`dir_read` and `dir_find`, `blk_ofs` and `obj.attr` of the directory object, and `lfnbuf`. -/
structure LfnSeq where
  ord : UInt8
  sum : UInt8
  blkOfs : ℕ
  attr : UInt8
  lfnbuf : LfnBuf

/-- `FF_DIR`, with the filesystem object. -/
structure FatDir where
  fs : FatFs
  sclust : ℕ
  dptr : ℕ
  clust : ℕ
  sect : ℕ
  /-- The offset of `dir` in the window. -/
  dir : ℕ
  /-- The name in the form of an entry, with the flags in byte 11. -/
  fn : Memory
  seq : LfnSeq

abbrev DirM := StateM FatDir

def FatDir.fsPart : StatePart FatDir FatFs where
  get := FatDir.fs
  set s fs := { s with fs := fs }
  get_set _ _ := rfl
  set_set _ _ _ := rfl
  set_get _ := rfl

/-- A function of the filesystem object. -/
def onDirFs {α : Type} (m : FatM α) : DirM α := FatDir.fsPart.zoom m

/-- `MAX_DIR` -/
def maxDir : ℕ := 0x200000

/-- The 32 bytes of an entry. -/
def dirEntry (m : Memory) (o : ℕ) : Memory := fun i ↦ if i < 32 then m (o + i) else 0

/-- The entry at `dp->dir`. -/
def FatDir.entry (s : FatDir) : Memory := dirEntry s.fs.window.win s.dir

section

variable (g : FatGeometry)

/-- "Follow cluster chain", over so many clusters. -/
def followClusters : (n clst : ℕ) → DirM (Except FResult ℕ)
  | 0, clst => return .ok clst
  | n + 1, clst => do
    let clst ← onDirFs (getFatFs g clst)
    if clst = fatDiskError then return .error .diskErr
    else if clst < 2 ∨ g.nFatent ≤ clst then return .error .intErr
    else followClusters n clst

/-- The end of `dir_sdi`, in the table or the cluster that begins at `sect`. -/
def setEntry (clst sect ofs : ℕ) : DirM FResult := do
  modify fun s ↦ { s with clust := clst, sect := sect }
  if sect = 0 then return .intErr
  else
    modify fun s ↦ { s with sect := sect + ofs / 512, dir := ofs % 512 }
    return .ok

/-- "Replace cluster# 0 with root cluster#" -/
def FatGeometry.startOf (sclust : ℕ) : ℕ :=
  if sclust = 0 ∧ g.fsType = .fat32 then g.dirbase else sclust

/-- **`dir_sdi`** -/
def dirSdi (ofs : ℕ) : DirM FResult :=
  if maxDir ≤ ofs ∨ ofs % 32 ≠ 0 then return .intErr
  else do
    modify fun s ↦ { s with dptr := ofs }
    let s ← get
    let clst := g.startOf s.sclust
    if clst = 0 then
      if g.nRootdir ≤ ofs / 32 then return .intErr else setEntry 0 g.dirbase ofs
    else
      match ← followClusters g (ofs / g.bcs) clst with
      | .error res => return res
      | .ok clst => setEntry clst (clst2sect g clst) (ofs % g.bcs)

/-! ### `dir_clear` -/

/-- "Allocate a temporary buffer": the size for which `ff_memalloc` succeeds. -/
def clearBuffer (memalloc : ℕ → Bool) : (rounds szb : ℕ) → ℕ
  | 0, szb => szb
  | rounds + 1, szb =>
    if 512 < szb ∧ memalloc szb = false then clearBuffer memalloc rounds (szb / 2) else szb

/-- The sectors that are written at once. -/
def clearSectors (memalloc : ℕ → Bool) : ℕ :=
  let szb := clearBuffer memalloc 16 (if 0x8000 ≤ g.csize * 512 then 0x8000 else g.csize * 512)
  if 512 < szb then szb / 512 else 1

/-- "Fill the cluster with 0" -/
def clearLoop (sect szb : ℕ) : (fuel n : ℕ) → FatM ℕ
  | 0, n => return n
  | fuel + 1, n =>
    if n < g.csize then do
      if ← FatFs.windowPart.zoom (diskWriteSectors (sect + n) szb fun _ ↦ 0) then
        clearLoop sect szb fuel (n + szb)
      else return n
    else return n

/-- **`dir_clear`** -/
def dirClear (memalloc : ℕ → Bool) (clst : ℕ) : FatM FResult := do
  if (← FatFs.windowPart.zoom (syncWindow g)) ≠ .ok then return .diskErr
  else
    let sect := clst2sect g clst
    modify fun s ↦ { s with window.winsect := sect, window.win := fun _ ↦ 0 }
    let n ← clearLoop g sect (clearSectors g memalloc) g.csize 0
    return if n = g.csize then .ok else .diskErr

/-! ### `dir_next` -/

/-- `dp->sect = 0; return FR_NO_FILE` -/
def endOfDir : DirM (Option FResult) := do
  modify fun s ↦ { s with sect := 0 }
  return some .noFile

/-- "Next entry" in the sector where the object is. -/
def enterEntry (ofs : ℕ) : DirM (Option FResult) := do
  modify fun s ↦ { s with dptr := ofs, dir := ofs % 512 }
  return some .ok

/-- "Initialize data for new cluster" -/
def enterDirCluster (clst ofs : ℕ) : DirM (Option FResult) := do
  modify fun s ↦ { s with clust := clst, sect := clst2sect g clst }
  enterEntry ofs

/-- "Allocate a cluster", and "Clean up the stretched table". -/
def stretchDir (memalloc : ℕ → Bool) (ofs : ℕ) : DirM (Option FResult) := do
  let s ← get
  match ← onDirFs (createChain g s.clust) with
  | none => return none
  | some clst =>
    if clst = 0 then return some .denied
    else if clst = 1 then return some .intErr
    else if clst = fatDiskError then return some .diskErr
    else if (← onDirFs (dirClear g memalloc clst)) ≠ .ok then return some .diskErr
    else enterDirCluster g clst ofs

/-- "It reached end of dynamic table" -/
def endOfTable (stretch : Option (ℕ → Bool)) (ofs : ℕ) : DirM (Option FResult) :=
  match stretch with
  | none => endOfDir
  | some memalloc => stretchDir g memalloc ofs

/-- "Cluster changed?" -/
def nextCluster (stretch : Option (ℕ → Bool)) (ofs : ℕ) : DirM (Option FResult) := do
  let s ← get
  let clst ← onDirFs (getFatFs g s.clust)
  if clst ≤ 1 then return some .intErr
  else if clst = fatDiskError then return some .diskErr
  else if g.nFatent ≤ clst then
    endOfTable g stretch ofs
  else enterDirCluster g clst ofs

/-- **`dir_next`**. To stretch the table it is told what `ff_memalloc` does in `dir_clear`. -/
def dirNext (stretch : Option (ℕ → Bool)) : DirM (Option FResult) := do
  let s ← get
  let ofs := s.dptr + 32
  if maxDir ≤ ofs then endOfDir
  else if s.sect = 0 then return some .noFile
  else if ofs % 512 = 0 then
    modify fun s ↦ { s with sect := s.sect + 1 }
    if s.clust = 0 then
      if g.nRootdir ≤ ofs / 32 then endOfDir else enterEntry ofs
    else if ofs / 512 &&& (g.csize - 1) = 0 then nextCluster g stretch ofs
    else enterEntry ofs
  else enterEntry ofs

/-- The entry in the window changed, and `fs->wflag = 1`. -/
def FatDir.edited (s : FatDir) (e : Memory) : FatDir :=
  { s with
    fs.window.win := overlay 32 s.fs.window.win (s.dir / 32) e
    fs.window.wflag := true }

end

/-! ### Where the table is -/

/-- What a directory relies on: the root of a FAT12 or FAT16 volume is between the FATs and the data
area, in whole sectors. -/
structure FatGeometry.DirSound (g : FatGeometry) : Prop extends g.VolumeSound where
  root_le : g.fsType ≠ .fat32 → g.fatbase + g.nFats * g.fsize ≤ g.dirbase ∧
    g.dirbase + g.nRootdir / 16 ≤ g.database
  root_size : g.fsType ≠ .fat32 → g.nRootdir % 16 = 0 ∧ 0 < g.nRootdir

/-- **The layout that `mount_volume` accepts has this.** -/
theorem BpbAccepted.dirSound {win : Memory} {bsect : ℕ} {g : FatGeometry}
    (h : BpbAccepted win bsect g) (hl : LaidOut win bsect g)
    (hdisk : bsect + bpbTotal win ≤ noSector) (hinfo : g.fsType = .fat32 → 1 < ld16 win 14) :
    g.DirSound where
  toVolumeSound := h.volumeSound hl hdisk hinfo
  root_le ht := by
    have hdata := hl.data_le
    have hbase := hl.database
    have hroot := (h.root_fixed ht).2
    rw [add32_eq, mul32_eq, Nat.mul_comm] at hroot
    rw [noSector] at hdisk
    omega
  root_size ht := ⟨h.rootdir_aligned, (h.root_fixed ht).1⟩

/-- Where the table of a directory is. -/
inductive DirPlace
  /-- The root of a FAT12 or FAT16 volume. -/
  | fixed
  | chain (l : List ℕ)

namespace DirPlace

variable (g : FatGeometry) (p : DirPlace)

/-- The chains it takes. -/
def chains : DirPlace → List (List ℕ)
  | fixed => []
  | chain l => [l]

/-- The disk sector of sector `k` of the table. -/
def sectorNo : DirPlace → ℕ → ℕ
  | fixed, k => g.dirbase + k
  | chain l, k => g.sectorOf l k

/-- The cluster of sector `k` of the table; 0 for the fixed area. -/
def clusterNo : DirPlace → ℕ → ℕ
  | fixed, _ => 0
  | chain l, k => l.getD (k / g.csize) 0

/-- The number of entries there is room for. -/
def tableSize : DirPlace → ℕ
  | fixed => g.nRootdir
  | chain l => l.length * g.csize * 16

/-- The number of entries that are used: 65536 at most. -/
def capacity : ℕ := min (p.tableSize g) (maxDir / 32)

/-- The address of entry `n`. -/
def addr (n : ℕ) : ℕ := p.sectorNo g (n / 16) * 512 + n % 16 * 32

/-- **The entries of the table**, in the memory `D`. -/
def entries (D : Memory) : List Memory :=
  (List.range (p.capacity g)).map fun n ↦ dirEntry D (p.addr g n)

/-- The table that a directory with the first cluster `sclust` has. -/
def Starts (sclust : ℕ) : DirPlace → Prop
  | fixed => g.fsType ≠ .fat32 ∧ sclust = 0
  | chain l => l.head? = some (g.startOf sclust)

end DirPlace

variable {g : FatGeometry} {ρ : Prop} {others : List (List ℕ)} {D : Memory} {T : ℕ → ℕ}
  {last free : ℕ} {p : DirPlace} {s t : FatDir} {n k : ℕ}

/-- An entry is its 32 bytes. -/
@[simp] theorem dirEntry_dirEntry (m : Memory) (o : ℕ) :
    dirEntry (dirEntry m o) 0 = dirEntry m o := by
  funext i
  simp only [dirEntry, Nat.zero_add]
  split
  · rfl
  · rfl

/-- Entries with the same bytes are the same. -/
theorem dirEntry_congr {m m' : Memory} {o o' : ℕ} (h : ∀ i < 32, m (o + i) = m' (o' + i)) :
    dirEntry m o = dirEntry m' o' := by
  funext i
  rw [dirEntry, dirEntry]
  split
  · rename_i hi
    exact h i hi
  · rfl

/-- The chains of the directory and of the other objects. -/
structure DirChains (g : FatGeometry) (ρ : Prop) (T : ℕ → ℕ) (free : ℕ) (ls : List (List ℕ)) :
    Prop where
  linked : LinkedLists T g.Valid (g.nFatent ≤ ·) ls
  counted : ρ → Counted g T free
  sane : ρ → ∀ c, g.Valid c → T c ≠ 1

/-- **The directory object belongs to the directory at `p`**, on a volume that holds `T` and `D`. -/
structure DirView (g : FatGeometry) (ρ : Prop) (others : List (List ℕ)) (D : Memory) (T : ℕ → ℕ)
    (last free : ℕ) (p : DirPlace) (s : FatDir) : Prop where
  data : DataShows g ρ (p.chains ++ others) D T last free s.fs
  chains : DirChains g ρ T free (p.chains ++ others)
  starts : p.Starts g s.sclust

/-- **The object stands at entry `n`.** -/
structure DirAt (g : FatGeometry) (p : DirPlace) (n : ℕ) (s : FatDir) : Prop where
  lt : n < p.capacity g
  dptr : s.dptr = n * 32
  clust : s.clust = p.clusterNo g (n / 16)
  sect : s.sect = p.sectorNo g (n / 16)
  dir : s.dir = n % 16 * 32

/-- What the functions leave alone: all but the place in the table and the filesystem object. -/
def SameDir (s t : FatDir) : Prop :=
  t = { s with fs := t.fs, dptr := t.dptr, clust := t.clust, sect := t.sect, dir := t.dir }

/-! ### The sectors of the table -/

section Sectors

/-- The entries that are used fit into the table. -/
theorem DirPlace.capacity_le : p.capacity g ≤ p.tableSize g := Nat.min_le_left _ _

/-- No directory has more than 65536 entries. -/
theorem DirPlace.capacity_le_max : p.capacity g ≤ 65536 := Nat.min_le_right _ _

/-- The cluster of a sector of a chain. -/
theorem DirPlace.chain_index (hg : g.DirSound) {l : List ℕ}
    (hk : k * 16 < (DirPlace.chain l).tableSize g) : k / g.csize < l.length := by
  rw [DirPlace.tableSize] at hk
  exact (Nat.div_lt_iff_lt_mul (g.csize_pos hg.toVolumeSound)).2 (Nat.lt_of_mul_lt_mul_right hk)

/-- The fixed area is between the FATs and the data area. -/
theorem DirPlace.fixed_sector (hg : g.DirSound) (hfix : g.fsType ≠ .fat32)
    (hk : k * 16 < (DirPlace.fixed).tableSize g) :
    g.fatbase + g.nFats * g.fsize ≤ g.dirbase + k ∧ g.dirbase + k < g.database := by
  have hroot := hg.root_le hfix
  have hsize := hg.root_size hfix
  rw [DirPlace.tableSize] at hk
  omega

/-- **A sector of the table** is on the disk, in no FAT, and in no cluster that is free or belongs
to an object beside the directory. -/
theorem DirView.sector (hg : g.DirSound) (hs : DirView g ρ others D T last free p s)
    (hk : k * 16 < p.tableSize g) :
    g.Tracked (p.sectorNo g k) ∧ ¬ g.InFat (p.sectorNo g k) ∧
      ¬ g.SpareSector (p.chains ++ others) (p.sectorNo g k) ∧ p.sectorNo g k ≠ 0 := by
  have hv := hg.toVolumeSound
  have hmul : g.nFats * g.fsize = g.fsize ∨ g.nFats * g.fsize = 2 * g.fsize :=
    hv.oneOrTwo.imp (fun h ↦ by rw [h, Nat.one_mul]) fun h ↦ by rw [h]
  cases p with
  | fixed =>
    obtain ⟨hle, hlt⟩ := DirPlace.fixed_sector hg hs.starts.1 hk
    have hdata := hv.data_le
    have hfirst := hv.fats_le
    refine ⟨⟨?_, fun hm ↦ ?_, fun hi ↦ absurd hi.1 hs.starts.1⟩, fun hin ↦ ?_, ?_, ?_⟩
    · show g.dirbase + k < noSector
      omega
    · have h₁ := hm.1
      have h₂ : g.dirbase + k < g.fatbase + 2 * g.fsize := hm.2.2
      rw [h₁] at hle
      omega
    · have h₁ : g.dirbase + k < g.fatbase + g.fsize := hin.2
      omega
    · rintro ⟨c, hc, -, hcle, -⟩
      have hbounds := clst2sect_bounds hv hc
      have hcle : clst2sect g c ≤ g.dirbase + k := hcle
      omega
    · show g.dirbase + k ≠ 0
      have hcovers := hv.covers
      have htwo := hv.two_lt
      intro h0
      have hsize : g.fsize = 0 := by omega
      rw [hsize] at hcovers
      cases ht : g.fsType <;> simp only [ht, FatType.bytes] at hcovers <;> omega
  | chain l =>
    have hidx := DirPlace.chain_index hg hk
    have hlinked := hs.chains.linked
    have hvalid : ∀ c ∈ l, g.Valid c := hlinked.nodes l List.mem_cons_self
    have hspare : g.SpareSector others (g.sectorOf l k) :=
      FatGeometry.sectorOf_spare hv hvalid (fun c hc ↦ hlinked.notMem_of_mem_head hc) hidx
    obtain ⟨htracked, hnot, hne⟩ := hspare.tracked hv
    refine ⟨htracked, hnot, ?_, hne⟩
    rintro ⟨c, hc, hout, hle, hlt⟩
    have hsect := g.sectorOf_getElem (n := k) hidx
    have hmem : l[k / g.csize] ∈ l := List.getElem_mem hidx
    have hmod := Nat.mod_lt k (g.csize_pos hv)
    have hcne : c ≠ l[k / g.csize] := fun h ↦ hout l List.mem_cons_self (h ▸ hmem)
    have hdisj := clst2sect_disjoint hv hc (hvalid _ hmem) hcne
    have hle : clst2sect g c ≤ g.sectorOf l k := hle
    have hlt : g.sectorOf l k < clst2sect g c + g.csize := hlt
    omega

/-- Different sectors of the table are different sectors of the disk. -/
theorem DirView.sector_inj (hg : g.DirSound) (hs : DirView g ρ others D T last free p s) {k' : ℕ}
    (hk : k * 16 < p.tableSize g) (hk' : k' * 16 < p.tableSize g)
    (h : p.sectorNo g k = p.sectorNo g k') : k = k' := by
  cases p with
  | fixed => exact Nat.add_left_cancel h
  | chain l =>
    have hlinked := hs.chains.linked
    exact g.sectorOf_inj hg.toVolumeSound (hlinked.nodes l List.mem_cons_self)
      (List.nodup_append.1 hlinked.nodup).1 (DirPlace.chain_index hg hk)
      (DirPlace.chain_index hg hk') h

/-- The sector of an entry that is used is in the table. -/
theorem DirPlace.sector_of_entry (hn : n < p.capacity g) : n / 16 * 16 < p.tableSize g := by
  have := p.capacity_le (g := g)
  omega

/-- The entries do not overlap. -/
theorem DirView.addr_apart (hg : g.DirSound) (hs : DirView g ρ others D T last free p s) {n' : ℕ}
    (hn : n < p.capacity g) (hn' : n' < p.capacity g) (hne : n ≠ n') :
    p.addr g n + 32 ≤ p.addr g n' ∨ p.addr g n' + 32 ≤ p.addr g n := by
  have hinj := hs.sector_inj hg (DirPlace.sector_of_entry hn) (DirPlace.sector_of_entry hn')
  rw [DirPlace.addr, DirPlace.addr]
  by_cases hsect : p.sectorNo g (n / 16) = p.sectorNo g (n' / 16)
  · have hdiv := hinj hsect
    rw [hsect]
    omega
  · omega

end Sectors

/-! ### The entry in the window -/

/-- Nothing has changed. -/
theorem SameDir.refl (s : FatDir) : SameDir s s := rfl

/-- Two changes of the place. -/
theorem SameDir.trans {u : FatDir} (h : SameDir s t) (h' : SameDir t u) : SameDir s u := by
  rw [SameDir] at *
  rw [h', h]

/-- Another state of the filesystem object. -/
theorem DirView.of_data {D' : Memory} (hs : DirView g ρ others D T last free p s) {fs : FatFs}
    (h : DataShows g ρ (p.chains ++ others) D' T last free fs) :
    DirView g ρ others D' T last free p { s with fs := fs } :=
  ⟨h, hs.chains, hs.starts⟩

/-- Another place in the table. -/
theorem DirView.moved (hs : DirView g ρ others D T last free p s) (hfs : t.fs = s.fs)
    (hstart : t.sclust = s.sclust) : DirView g ρ others D T last free p t :=
  ⟨hfs ▸ hs.data, hs.chains, hstart ▸ hs.starts⟩

/-- How the move of the window to entry `n` ends. -/
def EntryLoaded (g : FatGeometry) (ρ : Prop) (others : List (List ℕ)) (D : Memory) (T : ℕ → ℕ)
    (last free : ℕ) (p : DirPlace) (n : ℕ) (s : FatDir) (res : FResult) (t : FatDir) : Prop :=
  DirView g ρ others D T last free p t ∧ t = { s with fs := t.fs } ∧
    (res = .ok ∧ t.fs.window.winsect = s.sect ∧ t.entry = dirEntry D (p.addr g n) ∨
      res = .diskErr ∧ ¬ ρ)

/-- **The entry in the window is the entry of the list.** -/
theorem moveEntry_view (hg : g.DirSound) (hs : DirView g ρ others D T last free p s)
    (hat : DirAt g p n s) :
    Triple (fun t ↦ t = s) (onDirFs (FatFs.windowPart.zoom (moveWindow g s.sect)))
      (EntryLoaded g ρ others D T last free p n s) := by
  rintro s rfl
  obtain ⟨htracked, hnot, hspare, -⟩ := hs.sector hg (DirPlace.sector_of_entry hat.lt)
  rw [← hat.sect] at htracked hnot hspare
  obtain ⟨hdata, hres⟩ := moveWindow_data hg.toVolumeSound (Nat.le_of_lt htracked.exists_sector)
    hspare s.fs hs.data
  refine ⟨hs.of_data hdata, rfl, hres.imp_left fun ⟨hok, hwin⟩ ↦ ⟨hok, hwin, ?_⟩⟩
  refine dirEntry_congr fun i hi ↦ ?_
  have hdir := hat.dir
  have hbyte := hdata.win_eq (hwin.symm ▸ htracked) (hwin.symm ▸ hnot) (i := s.dir + i) (by omega)
  show (FatFs.windowPart.zoom (moveWindow g s.sect) s.fs).2.window.win (s.dir + i) = _
  rw [hbyte, hwin, hat.sect, hdir, DirPlace.addr, Nat.add_assoc]

/-- The list has an entry for each that is used. -/
theorem DirPlace.length_entries (D : Memory) : (p.entries g D).length = p.capacity g := by
  rw [DirPlace.entries, List.length_map, List.length_range]

/-- Entry `n` of the list. -/
theorem DirPlace.getElem?_entries (D : Memory) (hn : n < p.capacity g) :
    (p.entries g D)[n]? = some (dirEntry D (p.addr g n)) := by
  rw [DirPlace.entries, List.getElem?_map, List.getElem?_range hn, Option.map_some]

/-- **An entry changed in the window is an entry of the list changed**, and nothing else. -/
theorem DirView.edited (hg : g.DirSound) (hs : DirView g ρ others D T last free p s)
    (hat : DirAt g p n s) (hwin : s.fs.window.winsect = s.sect) (e : Memory) :
    ∃ D', DirView g ρ others D' T last free p (s.edited e) ∧
      p.entries g D' = (p.entries g D).set n (dirEntry e 0) ∧
      ∀ a, a < p.addr g n ∨ p.addr g n + 32 ≤ a → D' a = D a := by
  obtain ⟨htracked, hnot, -, -⟩ := hs.sector hg (DirPlace.sector_of_entry hat.lt)
  rw [← hat.sect, ← hwin] at htracked hnot
  have hdir := hat.dir
  have hdiv : s.dir / 32 = n % 16 := by omega
  have haddr : p.addr g n = s.fs.window.winsect * 512 + n % 16 * 32 := by
    rw [DirPlace.addr, hwin, hat.sect]
  -- The bytes of the entry, and the others.
  have hin : ∀ i < 32, overlay 512 D s.fs.window.winsect (overlay 32 s.fs.window.win (s.dir / 32) e)
      (p.addr g n + i) = e i := fun i hi ↦ by
    rw [haddr, Nat.add_assoc, overlay_mul_add _ _ _ (by omega), hdiv, overlay_mul_add _ _ _ hi]
  have hout : ∀ a, a < p.addr g n ∨ p.addr g n + 32 ≤ a →
      overlay 512 D s.fs.window.winsect (overlay 32 s.fs.window.win (s.dir / 32) e) a = D a := by
    intro a ha
    by_cases hsect : a / 512 = s.fs.window.winsect
    · have hsplit : a = s.fs.window.winsect * 512 + a % 512 := by omega
      rw [overlay_of_eq _ _ hsect, overlay_of_ne _ _ (by omega),
        hs.data.win_eq htracked hnot (Nat.mod_lt _ (by decide)), ← hsplit]
    · exact overlay_of_ne _ _ hsect
  refine ⟨_, hs.of_data (hs.data.edited hg.toVolumeSound htracked hnot _), ?_, hout⟩
  refine List.ext_getElem? fun k ↦ ?_
  by_cases hk : k < p.capacity g
  · rw [DirPlace.getElem?_entries _ hk, List.getElem?_set, DirPlace.length_entries]
    by_cases hkn : n = k
    · subst hkn
      rw [if_pos rfl, if_pos hat.lt]
      exact congrArg some (dirEntry_congr fun i hi ↦ by rw [hin i hi, Nat.zero_add])
    · rw [if_neg hkn, DirPlace.getElem?_entries _ hk]
      refine congrArg some (dirEntry_congr fun i hi ↦ hout _ ?_)
      have := hs.addr_apart hg hat.lt hk hkn
      omega
  · rw [List.getElem?_eq_none (by rw [DirPlace.length_entries]; omega),
      List.getElem?_eq_none (by rw [List.length_set, DirPlace.length_entries]; omega)]
