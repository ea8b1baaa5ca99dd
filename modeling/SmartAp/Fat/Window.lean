import SmartAp.SdCard.Layers
import SmartAp.Store.Overlay
import SmartAp.Program.Zoom

/-!
# The window of a volume

FatFs reads and writes the disk through a window of one sector, `win`, in the filesystem object.
`sync_window` and `move_window` of `ff.c`.

## The disk

`FatDisk` is the disk under the volume, byte by byte. Each call of it can fail: `faults` says of the
calls to come which of them work, and what a call that fails leaves where its data should be.

## What the window shows

Sector by sector the volume is the disk with the window laid over it. `Shows g ρ m s` says that this
is the memory `m`. A call that fails does not change it: a sector that could not be written is still
in the window, which stays dirty, and a window that could not be filled is marked as no sector. So
`m` is what the functions above the window work on. Two places are excepted, as FatFs does not read
what it writes there: the second FAT, a copy of the first, and the FSInfo sector.

`ρ` is the assumption that no call of the disk fails; under it the second FAT is equal to the first
whenever no function is running, which is a part of `Shows`.
-/

/-- The disk under a volume. -/
structure FatDisk where
  bytes : Memory
  /-- The calls to come: `none` works; `some junk` fails, with `junk` for the data. -/
  faults : ℕ → Option Memory

/-- The outcome of the next call. -/
def FatDisk.next (d : FatDisk) : FatDisk := { d with faults := fun n ↦ d.faults (n + 1) }

/-- `fs_type` of a volume that is mounted. -/
inductive FatType
  | fat12
  | fat16
  | fat32
  deriving DecidableEq

/-- The fields of `FATFS` that `mount_volume` sets and no other function changes. -/
structure FatGeometry where
  fsType : FatType
  nFats : ℕ
  csize : ℕ
  nRootdir : ℕ
  nFatent : ℕ
  fsize : ℕ
  volbase : ℕ
  fatbase : ℕ
  dirbase : ℕ
  database : ℕ
  deriving DecidableEq

/-- The fields of `FATFS` for the window, with the disk. -/
structure FatWindow where
  wflag : Bool
  winsect : ℕ
  win : Memory
  disk : FatDisk

abbrev WinM := StateM FatWindow

/-- `LBA_t` and `DWORD` subtraction. -/
def sub32 (a b : ℕ) : ℕ := (UInt32.ofNat a - UInt32.ofNat b).toNat

/-- `(LBA_t)0 - 1`, the number of no sector. -/
def noSector : ℕ := 0xFFFFFFFF

/-- `disk_write` of one sector. -/
def diskWrite (sect : ℕ) (buf : Memory) : WinM Bool := fun s ↦
  match s.disk.faults 0 with
  | none => (true, { s with disk := { s.disk.next with bytes := overlay 512 s.disk.bytes sect buf } })
  | some junk =>
    (false, { s with disk := { s.disk.next with bytes := overlay 512 s.disk.bytes sect junk } })

/-- `disk_read` of one sector into the window. -/
def diskReadWin (sect : ℕ) : WinM Bool := fun s ↦
  match s.disk.faults 0 with
  | none => (true, { s with win := blockAt 512 s.disk.bytes sect, disk := s.disk.next })
  | some junk => (false, { s with win := junk, disk := s.disk.next })

section

variable (g : FatGeometry)

/-- The second half of `sync_window`: "Reflect it to 2nd FAT if needed". -/
def reflectWindow : WinM Unit := do
  let s ← get
  if sub32 s.winsect g.fatbase < g.fsize ∧ g.nFats = 2 then
    let _ ← diskWrite (s.winsect + g.fsize) s.win
    return ()
  else return ()

/-- `sync_window`. -/
def syncWindow : WinM FResult := do
  let s ← get
  if s.wflag then
    if ← diskWrite s.winsect s.win then
      modify fun s ↦ { s with wflag := false }
      reflectWindow g
      return .ok
    else return .diskErr
  else return .ok

/-- `move_window`. -/
def moveWindow (sect : ℕ) : WinM FResult := do
  let s ← get
  if sect ≠ s.winsect then
    let res ← syncWindow g
    if res = .ok then
      if ← diskReadWin sect then
        modify fun s ↦ { s with winsect := sect }
        return .ok
      else
        modify fun s ↦ { s with winsect := noSector }
        return .diskErr
    else return res
  else return .ok

/-! ### What the window shows -/

/-- The sectors of the first FAT. -/
def FatGeometry.InFat (k : ℕ) : Prop := g.fatbase ≤ k ∧ k < g.fatbase + g.fsize

/-- The sectors of the second FAT. -/
def FatGeometry.InMirror (k : ℕ) : Prop :=
  g.nFats = 2 ∧ g.fatbase + g.fsize ≤ k ∧ k < g.fatbase + 2 * g.fsize

/-- The sectors whose contents are tracked. -/
structure FatGeometry.Tracked (k : ℕ) : Prop where
  exists_sector : k < noSector
  not_mirror : ¬ g.InMirror k
  not_fsinfo : ¬ (g.fsType = .fat32 ∧ k = g.volbase + 1)

/-- The second FAT is a copy of the first. -/
def FatGeometry.Mirrored (disk : Memory) : Prop :=
  g.nFats = 2 → ∀ a, g.InFat (a / 512) → disk (a + g.fsize * 512) = disk a

/-- The sectors of the FATs have numbers, and the FSInfo sector is not one of them. -/
structure FatGeometry.FatsPlaced : Prop where
  first_le : g.fatbase + g.fsize ≤ noSector
  second_le : g.nFats = 2 → g.fatbase + 2 * g.fsize ≤ noSector
  fsinfo_lt : g.fsType = .fat32 → g.volbase + 1 < g.fatbase

/-- The volume, seen through the window, is `m`. -/
structure Tracks (m : Memory) (s : FatWindow) : Prop where
  image : ∀ a, g.Tracked (a / 512) → overlay 512 s.disk.bytes s.winsect s.win a = m a
  clean : s.wflag = false → ∀ a, g.Tracked (a / 512) → s.disk.bytes a = m a
  dirty : s.wflag = true → g.Tracked s.winsect
  winsect_le : s.winsect ≤ noSector

/-- **The volume, seen through the window, is `m`**, and if the disk never fails, both FATs are
equal. -/
structure Shows (ρ : Prop) (m : Memory) (s : FatWindow) : Prop extends Tracks g m s where
  reliable : ρ → ∀ n, s.disk.faults n = none
  mirrored : ρ → g.Mirrored s.disk.bytes

end

/-- One comparison of the difference tests both ends of an area. -/
theorem sub32_lt_iff {a b n : ℕ} (ha : a ≤ noSector) (hb : b + n ≤ noSector) :
    sub32 a b < n ↔ b ≤ a ∧ a < b + n := by
  rw [noSector] at ha hb
  rw [sub32, UInt32.toNat_sub, UInt32.toNat_ofNat', UInt32.toNat_ofNat']
  omega

section Lemmas

variable {g : FatGeometry} {ρ : Prop} {m : Memory} {s : FatWindow}

/-- The window tracks the sectors of the first FAT. -/
theorem FatGeometry.InFat.tracked {k : ℕ} (hg : g.FatsPlaced) (h : g.InFat k) : g.Tracked k where
  exists_sector := Nat.lt_of_lt_of_le h.2 hg.first_le
  not_mirror hk := absurd h.2 (Nat.not_lt_of_le hk.2.1)
  not_fsinfo hk := absurd (hg.fsinfo_lt hk.1) (Nat.not_lt_of_le (hk.2 ▸ h.1))

/-- What is not in the window is on the disk. -/
theorem Tracks.disk_eq (h : Tracks g m s) {a : ℕ} (ha : g.Tracked (a / 512))
    (hk : a / 512 ≠ s.winsect) : s.disk.bytes a = m a := by
  rw [← h.image a ha, overlay_of_ne _ _ hk]

/-- A byte of the window. -/
theorem Tracks.win_eq (h : Tracks g m s) {a : ℕ} (ha : g.Tracked (a / 512))
    (hk : a / 512 = s.winsect) : s.win (a % 512) = m a := by
  rw [← h.image a ha, overlay_of_eq _ _ hk]

/-- What the disk holds where nothing is tracked does not matter. -/
theorem Tracks.disk_congr (h : Tracks g m s) {d : FatDisk}
    (hd : ∀ a, g.Tracked (a / 512) → d.bytes a = s.disk.bytes a) :
    Tracks g m { s with disk := d } where
  image a ha := by
    rw [← h.image a ha]
    by_cases hk : a / 512 = s.winsect
    · rw [overlay_of_eq _ _ hk, overlay_of_eq _ _ hk]
    · rw [overlay_of_ne _ _ hk, overlay_of_ne _ _ hk, hd a ha]
  clean hw a ha := (hd a ha).trans (h.clean hw a ha)
  dirty := h.dirty
  winsect_le := h.winsect_le

/-- Nor what it holds behind a dirty window. -/
theorem Tracks.overlay_dirty (h : Tracks g m s) (hw : s.wflag = true) (buf : Memory)
    (faults : ℕ → Option Memory) :
    Tracks g m { s with disk := ⟨overlay 512 s.disk.bytes s.winsect buf, faults⟩ } where
  image a ha := by
    simp only [overlay_overlay]
    exact h.image a ha
  clean hc := absurd (hw.symm.trans hc) (by simp)
  dirty := h.dirty
  winsect_le := h.winsect_le

/-- The window written back. -/
theorem Tracks.written (h : Tracks g m s) (faults : ℕ → Option Memory) :
    Tracks g m { s with wflag := false, disk := ⟨overlay 512 s.disk.bytes s.winsect s.win, faults⟩ }
    where
  image a ha := by
    simp only [overlay_overlay]
    exact h.image a ha
  clean _ a ha := h.image a ha
  dirty hw := absurd hw (by simp)
  winsect_le := h.winsect_le

/-- The window filled from the disk. -/
theorem Tracks.filled (h : Tracks g m s) (hw : s.wflag = false) {k : ℕ} (hk : k ≤ noSector)
    (faults : ℕ → Option Memory) :
    Tracks g m { s with winsect := k, win := blockAt 512 s.disk.bytes k,
                        disk := ⟨s.disk.bytes, faults⟩ } where
  image a ha := by
    simp only [overlay_blockAt]
    exact h.clean hw a ha
  clean _ := h.clean hw
  dirty hd := absurd (hw.symm.trans hd) (by simp)
  winsect_le := hk

/-- The window that could not be filled. -/
theorem Tracks.invalid (h : Tracks g m s) (hw : s.wflag = false) (junk : Memory)
    (faults : ℕ → Option Memory) :
    Tracks g m { s with winsect := noSector, win := junk, disk := ⟨s.disk.bytes, faults⟩ } where
  image a ha := by
    rw [overlay_of_ne _ _ (Nat.ne_of_lt ha.exists_sector)]
    exact h.clean hw a ha
  clean _ := h.clean hw
  dirty hd := absurd (hw.symm.trans hd) (by simp)
  winsect_le := Nat.le_refl _

/-- The window edited. -/
theorem Tracks.edited (h : Tracks g m s) (hk : g.Tracked s.winsect) (w : Memory) :
    Tracks g (overlay 512 m s.winsect w) { s with win := w, wflag := true } where
  image a ha := by
    by_cases hka : a / 512 = s.winsect
    · rw [overlay_of_eq _ _ hka, overlay_of_eq _ _ hka]
    · rw [overlay_of_ne _ _ hka, overlay_of_ne _ _ hka, h.disk_eq ha hka]
  clean hc := absurd hc (by simp)
  dirty _ := hk
  winsect_le := h.winsect_le

/-- The window of an object without a sector in it. -/
def FatWindow.empty (disk : FatDisk) : FatWindow := ⟨false, noSector, fun _ ↦ 0, disk⟩

/-- It shows the disk. -/
theorem Shows.empty (g : FatGeometry) (disk : FatDisk) (hreliable : ρ → ∀ n, disk.faults n = none)
    (hmirrored : ρ → g.Mirrored disk.bytes) : Shows g ρ disk.bytes (.empty disk) where
  image _ ha := overlay_of_ne _ _ (Nat.ne_of_lt ha.exists_sector)
  clean _ _ _ := rfl
  dirty hw := absurd hw (by simp [FatWindow.empty])
  winsect_le := Nat.le_refl _
  reliable := hreliable
  mirrored := hmirrored

/-! ### The second FAT -/

/-- A write outside of the FATs. -/
theorem FatGeometry.Mirrored.overlay_of_not {disk : Memory} (h : g.Mirrored disk) (buf : Memory)
    {k : ℕ} (hk : ¬ g.InFat k) (hm : ¬ g.InMirror k) : g.Mirrored (overlay 512 disk k buf) := by
  intro hfats a ha
  have hmirror : g.InMirror ((a + g.fsize * 512) / 512) := by
    refine ⟨hfats, ?_, ?_⟩ <;> have := ha.1 <;> have := ha.2 <;> omega
  have hne : (a + g.fsize * 512) / 512 ≠ k := fun he ↦ hm (he ▸ hmirror)
  have hne' : a / 512 ≠ k := fun he ↦ hk (he ▸ ha)
  rw [overlay_of_ne _ _ hne, overlay_of_ne _ _ hne', h hfats a ha]

/-- A sector written to both FATs. -/
theorem FatGeometry.Mirrored.overlay_both {disk : Memory} (h : g.Mirrored disk) (buf : Memory)
    {k : ℕ} (hk : g.InFat k) :
    g.Mirrored (overlay 512 (overlay 512 disk k buf) (k + g.fsize) buf) := by
  intro hfats a ha
  have h₁ := ha.1
  have h₂ := ha.2
  have h₃ := hk.1
  have h₄ := hk.2
  have hshift : (a + g.fsize * 512) / 512 = a / 512 + g.fsize := by omega
  have hfirst : overlay 512 (overlay 512 disk k buf) (k + g.fsize) buf a =
      overlay 512 disk k buf a := overlay_of_ne _ _ (by omega)
  rw [hfirst]
  by_cases hka : a / 512 = k
  · rw [overlay_of_eq _ _ (by omega), overlay_of_eq _ _ hka]
    congr 1
    omega
  · rw [overlay_of_ne _ _ (by omega), overlay_of_ne _ _ (by omega), overlay_of_ne _ _ hka,
      h hfats a ha]

/-! ### The functions -/

/-- The write to the second FAT. Only the mirror changes; with a disk that never fails it is what
the first FAT has become. -/
theorem reflectWindow_spec (hg : g.FatsPlaced) {before : Memory} (h : Tracks g m s)
    (hk : g.Tracked s.winsect) (hreliable : ρ → ∀ n, s.disk.faults n = none)
    (hbefore : ρ → g.Mirrored before)
    (hbytes : s.disk.bytes = overlay 512 before s.winsect s.win) :
    ∃ d, (reflectWindow g s).2 = { s with disk := d } ∧ Shows g ρ m { s with disk := d } := by
  have hin : sub32 s.winsect g.fatbase < g.fsize ↔ g.InFat s.winsect :=
    sub32_lt_iff h.winsect_le hg.first_le
  by_cases hc : sub32 s.winsect g.fatbase < g.fsize ∧ g.nFats = 2
  · have hfat := hin.1 hc.1
    -- The write goes to the mirror, where nothing is tracked.
    have hmirror : ∀ buf a, g.Tracked (a / 512) →
        overlay 512 s.disk.bytes (s.winsect + g.fsize) buf a = s.disk.bytes a := by
      intro buf a ha
      refine overlay_of_ne _ _ fun he ↦ ha.not_mirror ⟨hc.2, ?_, ?_⟩
      · rw [he]; exact Nat.add_le_add_right hfat.1 _
      · rw [he]; have := hfat.2; omega
    cases hf : s.disk.faults 0 with
    | none =>
      refine ⟨⟨overlay 512 s.disk.bytes (s.winsect + g.fsize) s.win, s.disk.next.faults⟩, ?_, ?_⟩
      · simp [reflectWindow, diskWrite, hc, hf, FatDisk.next, run_bind, run_get, run_map]
      · refine ⟨h.disk_congr (hmirror _), fun hρ n ↦ hreliable hρ (n + 1), fun hρ ↦ ?_⟩
        simp only [hbytes]
        exact (hbefore hρ).overlay_both _ hfat
    | some junk =>
      have hρ : ¬ ρ := fun hρ ↦ by simp [hreliable hρ 0] at hf
      refine ⟨⟨overlay 512 s.disk.bytes (s.winsect + g.fsize) junk, s.disk.next.faults⟩, ?_, ?_⟩
      · simp [reflectWindow, diskWrite, hc, hf, FatDisk.next, run_bind, run_get, run_map]
      · exact ⟨h.disk_congr (hmirror _), fun h ↦ absurd h hρ, fun h ↦ absurd h hρ⟩
  · refine ⟨s.disk, ?_, h, hreliable, fun hρ ↦ ?_⟩
    · simp [reflectWindow, hc, run_bind, run_get, run_pure]
    · by_cases hfats : g.nFats = 2
      · rw [hbytes]
        exact (hbefore hρ).overlay_of_not _ (fun hfat ↦ hc ⟨hin.2 hfat, hfats⟩) hk.not_mirror
      · exact fun h ↦ absurd h hfats

/-- **`sync_window` keeps what the window shows**, and the window. It is clean when the function
returns `FR_OK`. -/
theorem syncWindow_spec (hg : g.FatsPlaced) (m : Memory) (k : ℕ) (w : Memory) :
    Triple (fun s ↦ Shows g ρ m s ∧ s.winsect = k ∧ s.win = w) (syncWindow g) fun res s ↦
      (Shows g ρ m s ∧ s.winsect = k ∧ s.win = w) ∧
        (res = .ok ∧ s.wflag = false ∨ res = .diskErr ∧ ¬ ρ) := by
  rintro s ⟨h, rfl, rfl⟩
  cases hw : s.wflag with
  | false =>
    have hrun : syncWindow g s = (.ok, s) := by
      simp [syncWindow, hw, run_bind, run_get, run_pure]
    rw [hrun]
    exact ⟨⟨h, rfl, rfl⟩, .inl ⟨rfl, hw⟩⟩
  | true =>
    cases hf : s.disk.faults 0 with
    | some junk =>
      have hρ : ¬ ρ := fun hρ ↦ by simp [h.reliable hρ 0] at hf
      have hrun : syncWindow g s = (.diskErr, { s with
          disk := ⟨overlay 512 s.disk.bytes s.winsect junk, s.disk.next.faults⟩ }) := by
        simp [syncWindow, diskWrite, hf, hw, FatDisk.next, run_bind, run_get, run_pure]
      rw [hrun]
      exact ⟨⟨⟨h.overlay_dirty hw junk _, fun h ↦ absurd h hρ, fun h ↦ absurd h hρ⟩, rfl, rfl⟩,
        .inr ⟨rfl, hρ⟩⟩
    | none =>
      have hrun : syncWindow g s = (.ok, (reflectWindow g { s with
          wflag := false
          disk := ⟨overlay 512 s.disk.bytes s.winsect s.win, s.disk.next.faults⟩ }).2) := by
        simp [syncWindow, diskWrite, hf, hw, FatDisk.next, run_bind, run_get, run_map, run_modify]
      obtain ⟨d, hd, hshows⟩ := reflectWindow_spec hg (h.written s.disk.next.faults) (h.dirty hw)
        (fun hρ n ↦ h.reliable hρ (n + 1)) h.mirrored rfl
      rw [hrun, hd]
      exact ⟨⟨hshows, rfl, rfl⟩, .inl ⟨rfl, rfl⟩⟩

/-- **`move_window` keeps what the window shows.** When it returns `FR_OK`, the window is on the
sector asked for. -/
theorem moveWindow_spec (hg : g.FatsPlaced) (m : Memory) {k : ℕ} (hk : k ≤ noSector) :
    Triple (Shows g ρ m) (moveWindow g k) fun res s ↦
      Shows g ρ m s ∧ (res = .ok ∧ s.winsect = k ∨ res = .diskErr ∧ ¬ ρ) := by
  intro s h
  by_cases hs : k = s.winsect
  · have hrun : moveWindow g k s = (.ok, s) := by
      simp [moveWindow, hs, run_bind, run_get, run_pure]
    rw [hrun]
    exact ⟨h, .inl ⟨rfl, hs.symm⟩⟩
  obtain ⟨⟨hsync, -, -⟩, hres⟩ := syncWindow_spec hg m s.winsect s.win s ⟨h, rfl, rfl⟩
  generalize hrun : syncWindow g s = r at hsync hres
  obtain ⟨res, t⟩ := r
  rcases hres with ⟨rfl, hclean⟩ | ⟨rfl, hρ⟩
  · cases hf : t.disk.faults 0 with
    | none =>
      have hmove : moveWindow g k s = (.ok, { t with
          winsect := k, win := blockAt 512 t.disk.bytes k, disk := t.disk.next }) := by
        simp [moveWindow, hs, hrun, diskReadWin, hf, run_bind, run_get, run_map, run_modify]
      rw [hmove]
      exact ⟨⟨hsync.filled hclean hk _, fun hρ n ↦ hsync.reliable hρ (n + 1), hsync.mirrored⟩,
        .inl ⟨rfl, rfl⟩⟩
    | some junk =>
      have hρ : ¬ ρ := fun hρ ↦ absurd (hf.symm.trans (hsync.reliable hρ 0)) (by simp)
      have hmove : moveWindow g k s = (.diskErr, { t with
          winsect := noSector, win := junk, disk := t.disk.next }) := by
        simp [moveWindow, hs, hrun, diskReadWin, hf, run_bind, run_get, run_map, run_modify]
      rw [hmove]
      exact ⟨⟨hsync.invalid hclean junk _, fun h ↦ absurd h hρ, fun h ↦ absurd h hρ⟩,
        .inr ⟨rfl, hρ⟩⟩
  · have hmove : moveWindow g k s = (.diskErr, t) := by
      simp [moveWindow, hs, hrun, run_bind, run_get, run_pure]
    rw [hmove]
    exact ⟨hsync, .inr ⟨rfl, hρ⟩⟩

end Lemmas
