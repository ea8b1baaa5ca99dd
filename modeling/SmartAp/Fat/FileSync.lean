import SmartAp.Fat.FileWrite

/-!
# Synchronizing a file

`f_sync` writes the buffer back, puts the first cluster and the size into the directory entry of the
file, and writes the window and the FSInfo sector. It changes no byte of the volume but those of the
entry (`fSync_shows`). When it returns `FR_OK` for a file that was changed, everything is on the
disk: what the disk holds is what the volume shows (`OnDisk`).

## The entry

The entry is found by `dir_sect` and `dir_ptr`, which `f_open` has stored, and its sector is read
into the window; `updateEntry` is the change there. The fields of an entry are words at offsets of
their own, so that what one store does to the field of another is a matter of distance
(`ld16_st16_of_disjoint`, `ldClust_updateEntry`), and a field that is in the window is read from
there (`ldClust_overlay`).

## Errors

An error of the disk is returned, and it is **not** kept: unlike the other calls, `f_sync` does not
set `err` of the object. It clears `FA_MODIFIED` whatever `sync_fs` returns. So a second `f_sync`
after a failed one may return `FR_OK` with nothing written, and `OnDisk` is said of a file that has
the flag when the call begins.
-/

variable {g : FatGeometry} {ρ : Prop} {others : List (List ℕ)} {V D : Memory} {T : ℕ → ℕ}
  {last free : ℕ} {l : List ℕ} {s t : FatFile}

/-! ### The filesystem object -/

/-- The window on a sector beside the file. -/
theorem moveWindow_data (hg : g.VolumeSound) {k : ℕ} (hk : k ≤ noSector)
    (hspare : ¬ g.SpareSector others k) :
    Triple (DataShows g ρ others D T last free) (FatFs.windowPart.zoom (moveWindow g k))
      fun res s ↦ DataShows g ρ others D T last free s ∧
        (res = .ok ∧ s.window.winsect = k ∨ res = .diskErr ∧ ¬ ρ) := by
  rintro s ⟨⟨m₀, ⟨⟨m, hshows, hfat⟩, hlast, hfree⟩, hD⟩, hwindow⟩
  obtain ⟨hshows', hres⟩ := moveWindow_spec hg.toFatsPlaced m hk s.window hshows
  have hnoSector : ¬ g.SpareSector others noSector := fun h ↦ absurd (h.lt hg) (Nat.lt_irrefl _)
  have hwindow' := moveWindow_winsect (g := g) (P := fun k ↦ ¬ g.SpareSector others k) hspare
    hnoSector s.window hwindow
  exact ⟨⟨⟨m₀, ⟨⟨m, hshows', hfat⟩, hlast, hfree⟩, hD⟩, hwindow'⟩, hres⟩

/-- The window holds what the volume holds there. -/
theorem DataShows.win_eq {s : FatFs} (h : DataShows g ρ others D T last free s)
    (hk : g.Tracked s.window.winsect) (hout : ¬ g.InFat s.window.winsect) {i : ℕ} (hi : i < 512) :
    s.window.win i = D (s.window.winsect * 512 + i) := by
  obtain ⟨⟨m₀, ⟨⟨m, hshows, hfat⟩, -, -⟩, hD⟩, -⟩ := h
  have hdiv := mul_add_div_of_lt s.window.winsect hi
  have hwin := hshows.win_eq (a := s.window.winsect * 512 + i) (hdiv.symm ▸ hk) hdiv
  have hmod : (s.window.winsect * 512 + i) % 512 = i := by omega
  rw [hmod] at hwin
  rw [hwin, hfat.outside _ (hdiv.symm ▸ hout), hD _ (hdiv.symm ▸ hout)]

/-- The window edited beside the FAT. -/
theorem DataShows.edited {s : FatFs} (hg : g.VolumeSound)
    (h : DataShows g ρ others D T last free s) (hk : g.Tracked s.window.winsect)
    (hout : ¬ g.InFat s.window.winsect) (w : Memory) :
    DataShows g ρ others (overlay 512 D s.window.winsect w) T last free
      { s with window.win := w, window.wflag := true } := by
  obtain ⟨⟨m₀, ⟨⟨m, hshows, hfat⟩, hlast, hfree⟩, hD⟩, hwindow⟩ := h
  have hedit : Shows g ρ (overlay 512 m s.window.winsect w)
      { s.window with win := w, wflag := true } :=
    ⟨hshows.edited hk w, hshows.reliable, hshows.mirrored⟩
  have hentry : ∀ c, g.Valid c → fatEntry g (overlay 512 m s.window.winsect w) c = T c :=
    fun c hc ↦ by
      rw [← hfat.entry c hc]
      refine fatEntry_congr fun i hi ↦ overlay_of_ne _ _ fun hin ↦ hout (hin ▸ ?_)
      have hentry := hg.entry_inFat hc.2
      exact ⟨by omega, by omega⟩
  refine ⟨⟨_, ⟨⟨_, hedit, ⟨hentry, fun _ _ ↦ rfl, fun _ ↦ rfl, fun _ _ ↦ rfl⟩⟩, hlast, hfree⟩,
    fun a ha ↦ ?_⟩, hwindow⟩
  by_cases hin : a / 512 = s.window.winsect
  · rw [overlay_of_eq _ _ hin, overlay_of_eq _ _ hin]
  · rw [overlay_of_ne _ _ hin, overlay_of_ne _ _ hin, hfat.outside a ha, hD a ha]

/-- **The disk holds what the volume shows.** -/
structure OnDisk (g : FatGeometry) (V : Memory) (T : ℕ → ℕ) (disk : Memory) : Prop where
  data : ∀ a, g.Tracked (a / 512) → ¬ g.InFat (a / 512) → disk a = V a
  table : ∀ c, g.Valid c → fatEntry g disk c = T c

/-- Writing the FAT window back changes no data sector. -/
theorem syncWindow_data (hg : g.VolumeSound) :
    Triple (DataShows g ρ others D T last free) (FatFs.windowPart.zoom (syncWindow g))
      fun res s ↦ DataShows g ρ others D T last free s ∧
        (res = .ok ∧ s.window.wflag = false ∨ res = .diskErr ∧ ¬ ρ) := by
  rintro s ⟨⟨m₀, ⟨⟨m, hshows, hfat⟩, hlast, hfree⟩, hD⟩, hwindow⟩
  obtain ⟨⟨hshows', hwinsect, -⟩, hres⟩ := syncWindow_spec hg.toFatsPlaced m s.window.winsect
    s.window.win s.window ⟨hshows, rfl, rfl⟩
  exact ⟨⟨⟨m₀, ⟨⟨m, hshows', hfat⟩, hlast, hfree⟩, hD⟩, by
    show ¬ g.SpareSector others (syncWindow g s.window).2.winsect
    rw [hwinsect]
    exact hwindow⟩, hres⟩

/-- What a clean window shows is on the disk. -/
theorem DataShows.onDisk (hg : g.VolumeSound) {s : FatFs}
    (h : DataShows g ρ others D T last free s) (hclean : s.window.wflag = false) :
    OnDisk g D T s.window.disk.bytes := by
  obtain ⟨⟨m₀, ⟨⟨m, hshows, hfat⟩, -, -⟩, hD⟩, -⟩ := h
  constructor
  · intro a ha hout
    rw [hshows.clean hclean a ha, hfat.outside a hout, hD a hout]
  · intro c hc
    rw [← hfat.entry c hc]
    refine fatEntry_congr fun i hi ↦ hshows.clean hclean _ ?_
    have hentry := hg.entry_inFat hc.2
    exact FatGeometry.InFat.tracked hg.toFatsPlaced ⟨by omega, by omega⟩

/-- The window moved to a sector that is not looked at, and that sector written. -/
theorem Shows.aside {m : Memory} {s : FatWindow} (h : Shows g ρ m s) (hclean : s.wflag = false)
    {k : ℕ} (hk : k ≤ noSector) (hnot : ¬ g.Tracked k) (hout : ¬ g.InFat k)
    (hmirror : ¬ g.InMirror k) (w data : Memory) (faults : ℕ → Option Memory)
    (hreliable : ρ → ∀ n, faults n = none) :
    Shows g ρ m
      { s with winsect := k, win := w, disk := ⟨overlay 512 s.disk.bytes k data, faults⟩ } where
  image a ha := by
    have hne : a / 512 ≠ k := fun he ↦ hnot (he ▸ ha)
    exact (overlay_of_ne _ _ hne).trans ((overlay_of_ne _ _ hne).trans (h.clean hclean a ha))
  clean _ a ha := by
    have hne : a / 512 ≠ k := fun he ↦ hnot (he ▸ ha)
    exact (overlay_of_ne _ _ hne).trans (h.clean hclean a ha)
  dirty hd := absurd (hclean.symm.trans hd) (by decide)
  winsect_le := hk
  reliable := hreliable
  mirrored hρ := (h.mirrored hρ).overlay_of_not data hout hmirror

/-- A write puts the data or something else into the sector. -/
theorem diskWrite_run (sect : ℕ) (buf : Memory) (s : FatWindow) :
    ∃ data, (diskWrite sect buf s).2 =
      { s with disk := ⟨overlay 512 s.disk.bytes sect data, s.disk.next.faults⟩ } := by
  rw [diskWrite]
  split
  · exact ⟨buf, rfl⟩
  · exact ⟨_, rfl⟩

/-- The FSInfo sector is none of those that are looked at. -/
theorem writeFsInfo_data (hg : g.VolumeSound) :
    Triple (fun s ↦ DataShows g ρ others D T last free s ∧ s.window.wflag = false) (writeFsInfo g)
      fun _ s ↦ DataShows g ρ others D T last free s ∧ s.window.wflag = false := by
  refine triple_get_bind ?_
  rintro s ⟨hs, hclean⟩
  have hs' : DataShows g ρ others D T last free { s with fsiFlag := 0 } := by
    obtain ⟨⟨m₀, halloc, hD⟩, hwindow⟩ := hs
    exact ⟨⟨m₀, ⟨halloc.table, halloc.lastClst, halloc.freeClst⟩, hD⟩, hwindow⟩
  refine .ite (fun _ ↦ triple_modify_then (.ite (fun ht ↦ ?_) fun _ ↦ .pure ?_)) fun _ ↦ .pure ?_
  · have hinfo := hg.fsinfo_lt ht
    have hfirst := hg.first_le
    have hsect : add32 g.volbase 1 = g.volbase + 1 := by
      rw [add32_eq, Nat.mod_eq_of_lt (by rw [noSector] at hfirst; omega)]
    rw [hsect]
    obtain ⟨⟨m₀, ⟨⟨m, hshows, hfat⟩, hlast, hfree⟩, hD⟩, -⟩ := hs
    have hnot : ¬ g.Tracked (g.volbase + 1) := fun h ↦ h.not_fsinfo ⟨ht, rfl⟩
    -- The write may fail; what it leaves in the sector does not matter.
    have hwritten : ∀ w data faults, (ρ → ∀ n, faults n = none) →
        DataShows g ρ others D T last free { s with fsiFlag := 0, window := { s.window with
          winsect := g.volbase + 1, win := w
          disk := ⟨overlay 512 s.window.disk.bytes (g.volbase + 1) data, faults⟩ } } :=
      fun w data faults hreliable ↦
        ⟨⟨m₀, ⟨⟨m, hshows.aside hclean (by omega) hnot (fun h ↦ by have := h.1; omega)
          (fun h ↦ by have := h.2.1; omega) w data faults hreliable, hfat⟩, hlast, hfree⟩, hD⟩,
          fun h ↦ hnot (h.tracked hg).1⟩
    refine triple_modify_then (triple_get_bind ?_)
    rintro _ rfl
    refine .bind (Q := fun _ s ↦ DataShows g ρ others D T last free s ∧ s.window.wflag = false) ?_
      fun _ ↦ .pure fun _ h ↦ h
    rintro _ rfl
    obtain ⟨data, hrun⟩ := diskWrite_run (g.volbase + 1) (fsInfo s.freeClst s.lastClst)
      ⟨s.window.wflag, g.volbase + 1, fsInfo s.freeClst s.lastClst, s.window.disk⟩
    constructor
    · show DataShows g ρ others D T last free { s with fsiFlag := 0, window :=
        (diskWrite (g.volbase + 1) (fsInfo s.freeClst s.lastClst)
          ⟨s.window.wflag, g.volbase + 1, fsInfo s.freeClst s.lastClst, s.window.disk⟩).2 }
      rw [hrun]
      exact hwritten _ _ _ fun hρ n ↦ hshows.reliable hρ (n + 1)
    · show (diskWrite (g.volbase + 1) (fsInfo s.freeClst s.lastClst)
          ⟨s.window.wflag, g.volbase + 1, fsInfo s.freeClst s.lastClst, s.window.disk⟩).2.wflag = false
      rw [hrun]
      exact hclean
  · rintro _ rfl
    exact ⟨hs', hclean⟩
  · rintro _ rfl
    exact ⟨hs, hclean⟩

/-- **`sync_fs`** brings everything to the disk, or the disk fails. -/
theorem syncFs_data (hg : g.VolumeSound) :
    Triple (DataShows g ρ others D T last free) (syncFs g) fun res s ↦
      DataShows g ρ others D T last free s ∧
        (res = .ok ∧ OnDisk g D T s.window.disk.bytes ∨ res = .diskErr ∧ ¬ ρ) := by
  have hsync : ∀ s, DataShows g ρ others D T last free s ∧ s.window.wflag = false →
      DataShows g ρ others D T last free (FatFs.windowPart.zoom diskSync s).2 ∧
        OnDisk g D T (FatFs.windowPart.zoom diskSync s).2.window.disk.bytes ∧
        ((FatFs.windowPart.zoom diskSync s).1 = false → ¬ ρ) := by
    rintro s ⟨hs, hclean⟩
    have hdisk := hs.onDisk hg hclean
    obtain ⟨⟨m₀, ⟨⟨m, hshows, hfat⟩, hlast, hfree⟩, hD⟩, hwindow⟩ := hs
    have hshows' : Shows g ρ m { s.window with disk := s.window.disk.next } :=
      ⟨hshows.disk_congr fun _ _ ↦ rfl, fun hρ n ↦ hshows.reliable hρ (n + 1), hshows.mirrored⟩
    refine ⟨⟨⟨m₀, ⟨⟨m, hshows', hfat⟩, hlast, hfree⟩, hD⟩, hwindow⟩, hdisk, fun h hρ ↦ ?_⟩
    have hnone := hshows.reliable hρ 0
    have hfail : (s.window.disk.faults 0).isNone = false := h
    rw [hnone] at hfail
    exact absurd hfail (by decide)
  refine .bind (syncWindow_data hg) fun res ↦ .ite (fun hok ↦ ?_) fun hok ↦ .pure ?_
  · refine .bind (Q := fun _ s ↦ DataShows g ρ others D T last free s ∧ s.window.wflag = false)
      (fun s ⟨hs, hres⟩ ↦ writeFsInfo_data hg s
        ⟨hs, (hres.resolve_right fun h ↦ FResult.noConfusion (hok.symm.trans h.1)).2⟩) fun _ ↦ ?_
    refine .bind (Q := fun ok s ↦ DataShows g ρ others D T last free s ∧
      OnDisk g D T s.window.disk.bytes ∧ (ok = false → ¬ ρ)) hsync fun ok ↦
        .ite (fun _ ↦ .pure ?_) fun hfail ↦ .pure ?_
    · rintro s ⟨hs, hdisk, -⟩
      exact ⟨hs, .inl ⟨rfl, hdisk⟩⟩
    · rintro s ⟨hs, -, hρ⟩
      exact ⟨hs, .inr ⟨rfl, hρ (by simpa using hfail)⟩⟩
  · rintro s ⟨hs, hres⟩
    exact ⟨hs, .inr (hres.resolve_left fun h ↦ hok h.1)⟩

/-! ### The directory entry -/

section Entry

variable {p : Memory} {dir sclust objsize time : ℕ}

/-- The number of the first cluster is stored inside of the entry. -/
theorem stClust_apply_of_notMem {i : ℕ} (hi : i < dir ∨ dir + 32 ≤ i) :
    stClust g p dir sclust i = p i := by
  rw [stClust]
  split
  · rw [st16_eq, storeWord_apply_of_notMem _ _ (by omega), st16_eq,
      storeWord_apply_of_notMem _ _ (by omega)]
  · rw [st16_eq, storeWord_apply_of_notMem _ _ (by omega)]

/-- Only the entry changes. -/
theorem updateEntry_apply_of_notMem {i : ℕ} (hi : i < dir ∨ dir + 32 ≤ i) :
    updateEntry g p dir sclust objsize time i = p i := by
  rw [updateEntry, st16_eq, storeWord_apply_of_notMem _ _ (by omega), st32_eq,
    storeWord_apply_of_notMem _ _ (by omega), st32_eq, storeWord_apply_of_notMem _ _ (by omega),
    stClust_apply_of_notMem hi, Function.update_of_ne (by omega)]

/-- The size is in the entry. -/
theorem ld32_updateEntry (hsize : objsize < 0x100000000) :
    ld32 (updateEntry g p dir sclust objsize time) (dir + 28) = objsize := by
  rw [updateEntry, ld32_eq, st16_eq, loadWord_storeWord_of_disjoint _ _ (by omega), st32_eq,
    loadWord_storeWord_of_disjoint _ _ (by omega), st32_eq, loadWord_storeWord]
  exact Nat.mod_eq_of_lt hsize

theorem ld16_st16_of_disjoint (p : Memory) {a b : ℕ} (v : ℕ) (h : b + 2 ≤ a ∨ a + 2 ≤ b) :
    ld16 (st16 p a v) b = ld16 p b := by
  rw [ld16_eq, ld16_eq, st16_eq, loadWord_storeWord_of_disjoint _ _ h]

theorem ld16_st32_of_disjoint (p : Memory) {a b : ℕ} (v : ℕ) (h : b + 2 ≤ a ∨ a + 4 ≤ b) :
    ld16 (st32 p a v) b = ld16 p b := by
  rw [ld16_eq, ld16_eq, st32_eq, loadWord_storeWord_of_disjoint _ _ h]

theorem ld16_st16 (p : Memory) (a v : ℕ) : ld16 (st16 p a v) a = v % 0x10000 := by
  rw [ld16_eq, st16_eq, loadWord_storeWord]
  rfl

/-- **The first cluster is in the entry.** -/
theorem ldClust_stClust {cl : ℕ} (hcl : cl < 0x100000000) (h16 : g.fsType ≠ .fat32 → cl < 0x10000) :
    ldClust g (stClust g p dir cl) dir = cl := by
  by_cases ht : g.fsType = .fat32
  · have hlow : cl % 0x10000 < 2 ^ 16 := Nat.mod_lt _ (by decide)
    rw [ldClust, stClust, if_pos ht, if_pos ht, ld16_st16_of_disjoint _ _ (by omega), ld16_st16,
      ld16_st16, Nat.or_comm, ← Nat.shiftLeft_add_eq_or_of_lt hlow, Nat.shiftLeft_eq]
    omega
  · rw [ldClust, stClust, if_neg ht, if_neg ht, ld16_st16, Nat.mod_eq_of_lt (h16 ht)]

/-- **The first cluster is in the entry.** -/
theorem ldClust_updateEntry (hcl : sclust < 0x100000000)
    (h16 : g.fsType ≠ .fat32 → sclust < 0x10000) :
    ldClust g (updateEntry g p dir sclust objsize time) dir = sclust := by
  have hhigh : ld16 (updateEntry g p dir sclust objsize time) (dir + 20) =
      ld16 (stClust g (Function.update p (dir + 11) (p (dir + 11) ||| 0x20)) dir sclust)
        (dir + 20) := by
    rw [updateEntry, ld16_st16_of_disjoint _ _ (by omega), ld16_st32_of_disjoint _ _ (by omega),
      ld16_st32_of_disjoint _ _ (by omega)]
  have hlow : ld16 (updateEntry g p dir sclust objsize time) (dir + 26) =
      ld16 (stClust g (Function.update p (dir + 11) (p (dir + 11) ||| 0x20)) dir sclust)
        (dir + 26) := by
    rw [updateEntry, ld16_st16_of_disjoint _ _ (by omega), ld16_st32_of_disjoint _ _ (by omega),
      ld16_st32_of_disjoint _ _ (by omega)]
  have hentry : ldClust g (updateEntry g p dir sclust objsize time) dir =
      ldClust g (stClust g (Function.update p (dir + 11) (p (dir + 11) ||| 0x20)) dir sclust)
        dir := by
    rw [ldClust, ldClust, hhigh, hlow]
  rw [hentry, ldClust_stClust hcl h16]

/-- An entry of a sector is an entry of the memory. -/
theorem ld16_overlay (m w : Memory) (k : ℕ) {i : ℕ} (hi : i + 2 ≤ 512) :
    ld16 (overlay 512 m k w) (k * 512 + i) = ld16 w i := by
  rw [ld16_eq, ld16_eq, loadWord_overlay _ _ _ hi]

theorem ld32_overlay (m w : Memory) (k : ℕ) {i : ℕ} (hi : i + 4 ≤ 512) :
    ld32 (overlay 512 m k w) (k * 512 + i) = ld32 w i := by
  rw [ld32_eq, ld32_eq, loadWord_overlay _ _ _ hi]

/-- The first cluster in an entry that the window holds is the one of the window. -/
theorem ldClust_overlay (m w : Memory) (k : ℕ) {i : ℕ} (hi : i + 32 ≤ 512) :
    ldClust g (overlay 512 m k w) (k * 512 + i) = ldClust g w i := by
  rw [ldClust, ldClust, Nat.add_assoc, Nat.add_assoc, ld16_overlay _ _ _ (by omega),
    ld16_overlay _ _ _ (by omega)]

end Entry

/-! ### The function -/

/-- The address of the directory entry of the file. -/
def FatFile.entryAddr (s : FatFile) : ℕ := s.dirSect * 512 + s.dirPtr

/-- The entry lies in a sector that is neither of the FAT nor of the file. -/
structure EntryPlaced (g : FatGeometry) (others : List (List ℕ)) (s : FatFile) : Prop where
  tracked : g.Tracked s.dirSect
  notFat : ¬ g.InFat s.dirSect
  notSpare : ¬ g.SpareSector others s.dirSect
  fits : s.dirPtr + 32 ≤ 512

/-- **The file is on the disk**, and its entry is that of the object. -/
structure Durable (g : FatGeometry) (V : Memory) (T : ℕ → ℕ) (s : FatFile) : Prop where
  onDisk : OnDisk g V T s.fs.window.disk.bytes
  clust : s.sclust < 0x100000000 → (g.fsType ≠ .fat32 → s.sclust < 0x10000) →
    ldClust g V s.entryAddr = s.sclust
  size : s.objsize < 0x100000000 → ld32 V (s.entryAddr + 28) = s.objsize

/-- How `f_sync` ends for a file that was changed. -/
structure SyncEnds (g : FatGeometry) (ρ : Prop) (others : List (List ℕ)) (V : Memory) (T : ℕ → ℕ)
    (last free : ℕ) (s : FatFile) (res : FResult) (t : FatFile) : Prop where
  shows : ∃ V', FileShows g ρ others V' T last free t ∧
    (∀ a, a < s.entryAddr ∨ s.entryAddr + 32 ≤ a → V' a = V a) ∧
    (res = .ok ∧ t.modified = false ∧ t.dirty = false ∧ Durable g V' T t ∨ res ≠ .ok ∧ ¬ ρ)
  same : t = { s with fs := t.fs, dirty := t.dirty, modified := t.modified }

/-- Another filesystem object under a clean buffer. -/
theorem FileShows.of_data {T' : ℕ → ℕ} {last' free' : ℕ} {V' : Memory}
    (hs : FileShows g ρ others V T last free s) (hd : s.dirty = false) {fs : FatFs}
    (hfs : DataShows g ρ others V' T' last' free' fs)
    (hrest : LinkedLists T' g.Valid (g.nFatent ≤ ·) others) :
    FileShows g ρ others V' T' last' free' { s with fs := fs } :=
  ⟨⟨V', hfs, (FatFile.viewOf_clean (s := { s with fs := fs }) hd V').symm⟩, hrest, hs.sect, hs.dirty⟩

/-- The entry is put into the window. -/
theorem entry_data (hg : g.VolumeSound) (hp : EntryPlaced g others s) {fs : FatFs}
    (h : DataShows g ρ others V T last free fs) (hw : fs.window.winsect = s.dirSect) (time : ℕ) :
    ∃ V', DataShows g ρ others V' T last free { fs with
        window.win := updateEntry g fs.window.win s.dirPtr s.sclust s.objsize time
        window.wflag := true } ∧
      (∀ a, a < s.entryAddr ∨ s.entryAddr + 32 ≤ a → V' a = V a) ∧
      (s.sclust < 0x100000000 → (g.fsType ≠ .fat32 → s.sclust < 0x10000) →
        ldClust g V' s.entryAddr = s.sclust) ∧
      (s.objsize < 0x100000000 → ld32 V' (s.entryAddr + 28) = s.objsize) := by
  have hfits := hp.fits
  refine ⟨_, h.edited hg (hw ▸ hp.tracked) (hw ▸ hp.notFat) _, fun a ha ↦ ?_, fun hcl h16 ↦ ?_,
    fun hsize ↦ ?_⟩
  · rw [FatFile.entryAddr] at ha
    by_cases hin : a / 512 = s.dirSect
    · have hsplit : a = fs.window.winsect * 512 + a % 512 := by omega
      rw [overlay_of_eq _ _ (hw ▸ hin), updateEntry_apply_of_notMem (by omega),
        h.win_eq (hw ▸ hp.tracked) (hw ▸ hp.notFat) (Nat.mod_lt _ (by decide)), ← hsplit]
    · rw [overlay_of_ne _ _ (hw ▸ hin)]
  · rw [FatFile.entryAddr, ← hw, ldClust_overlay _ _ _ hfits, ldClust_updateEntry hcl h16]
  · rw [FatFile.entryAddr, ← hw, Nat.add_assoc, ld32_overlay _ _ _ (by omega),
      ld32_updateEntry hsize]

/-- **`f_sync`** on a file that was changed. -/
theorem fSync_shows (hg : g.VolumeSound) (hs : FileShows g ρ others V T last free s)
    (hp : EntryPlaced g others s) {check : FResult} (hcheck : check = .ok)
    (hmod : s.modified = true) (time : ℕ) :
    Triple (fun t ↦ t = s) (fSync g check time) (SyncEnds g ρ others V T last free s) := by
  have hnoop : ∀ t, FileShows g ρ others V T last free t →
      t = { s with fs := t.fs, dirty := t.dirty } → ∀ res, res ≠ .ok ∧ ¬ ρ →
      SyncEnds g ρ others V T last free s res t := fun t ht htc res hres ↦
    ⟨⟨V, ht, fun _ _ ↦ rfl, .inr hres⟩, by rw [htc]⟩
  refine triple_get_bind ?_
  rintro s rfl
  refine .ite (fun h ↦ absurd hcheck h) fun _ ↦ .ite (fun _ ↦ ?_) fun h ↦ absurd hmod h
  refine .bind (writeBack_shows hg hs) fun ok ↦ .ite (fun hok ↦ ?_) fun hok ↦ .pure ?_
  · rintro t ⟨ht, htc, hres⟩
    obtain ⟨-, hclean⟩ := hres.resolve_right fun h ↦ absurd (hok.symm.trans h.1) (by decide)
    obtain ⟨hfs, hwin⟩ := moveWindow_data hg (Nat.le_of_lt hp.tracked.exists_sector) hp.notSpare
      t.fs (ht.clean hclean)
    have hmove : Triple (fun u ↦ u = t) (onDisk (moveWindow g s.dirSect)) fun res u ↦
        u = { t with fs := u.fs } ∧ DataShows g ρ others V T last free u.fs ∧
          (res = .ok ∧ u.fs.window.winsect = s.dirSect ∨ res = .diskErr ∧ ¬ ρ) := by
      rintro t rfl
      exact ⟨rfl, hfs, hwin⟩
    refine Triple.bind (R := SyncEnds g ρ others V T last free s) hmove
      (fun res ↦ .ite (fun hres ↦ ?_) fun hres ↦ .pure ?_) t rfl
    · rintro u ⟨huc, hu, hwinsect⟩
      obtain ⟨-, hwinsect⟩ := hwinsect.resolve_right fun h ↦ FResult.noConfusion (hres.symm.trans h.1)
      have hus : u = { s with fs := u.fs, dirty := u.dirty } := by rw [huc, htc]
      have hud : u.dirty = false := by rw [huc]; exact hclean
      have hpu : EntryPlaced g others u := by
        rw [hus]
        exact ⟨hp.tracked, hp.notFat, hp.notSpare, hp.fits⟩
      have haddr : u.entryAddr = s.entryAddr := by rw [hus]; rfl
      have hdir : s.dirSect = u.dirSect := by rw [hus]
      obtain ⟨V', hdata, hkept, hclust, hsize⟩ :=
        entry_data hg hpu hu (hwinsect.trans hdir) time
      have hsync : Triple (fun v ↦ v = { u with
            fs.window.win := updateEntry g u.fs.window.win u.dirPtr u.sclust u.objsize time
            fs.window.wflag := true }) (onFs (syncFs g)) fun res v ↦ v = { u with fs := v.fs } ∧
          DataShows g ρ others V' T last free v.fs ∧
          (res = .ok ∧ OnDisk g V' T v.fs.window.disk.bytes ∨ res = .diskErr ∧ ¬ ρ) := by
        rintro _ rfl
        exact ⟨rfl, syncFs_data hg _ hdata⟩
      refine (?_ : Triple (fun v ↦ v = u) _ (SyncEnds g ρ others V T last free s)) u rfl
      refine triple_modify_then (.bind hsync fun res ↦ triple_modify_bind (.pure ?_))
      rintro _ ⟨v, ⟨hvc, hv, hend⟩, rfl⟩
      have hsame : ({ v with modified := false } : FatFile) =
          { s with fs := v.fs, dirty := u.dirty, modified := false } := by rw [hvc, hus]
      rw [hsame]
      have hshows : FileShows g ρ others V' T last free
          { s with fs := v.fs, dirty := u.dirty, modified := false } := by
        have h := ht.of_data hclean hv ht.rest
        rw [htc] at h
        rw [huc, htc]
        exact ⟨h.data, h.rest, h.sect, h.dirty⟩
      refine ⟨⟨V', hshows, haddr ▸ hkept, ?_⟩, rfl⟩
      rcases hend with ⟨rfl, hdisk⟩ | ⟨rfl, hρ⟩
      · refine .inl ⟨rfl, rfl, hud, hdisk, ?_, ?_⟩
        · rw [hus] at hclust
          exact hclust
        · rw [hus] at hsize
          exact hsize
      · exact .inr ⟨FResult.noConfusion, hρ⟩
    · rintro u ⟨huc, hu, hwinsect⟩
      obtain ⟨rfl, hρ⟩ := hwinsect.resolve_left fun h ↦ hres h.1
      rw [huc]
      exact hnoop _ (ht.of_data hclean hu ht.rest) (by rw [htc]) _ ⟨FResult.noConfusion, hρ⟩
  · rintro t ⟨ht, htc, hres⟩
    obtain ⟨-, hρ⟩ := hres.resolve_left fun h ↦ hok h.1
    exact hnoop t ht htc _ ⟨FResult.noConfusion, hρ⟩
