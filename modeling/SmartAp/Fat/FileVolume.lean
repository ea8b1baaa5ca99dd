import SmartAp.Fat.Content

/-!
# The volume under an open file

A file object and the filesystem object share a disk: the one writes sectors of its chain, the other
sectors of the FAT, and the window of the latter must not hold a sector of the former.

## The window stays away from the data

`DataShows` says that it does not, and what the volume holds outside of the FAT. The functions of
the FAT keep it, because they leave the window where it was or move it into the FAT
(`FatWindow.Near`): one lemma for each of them, up to `createChain_near` and `removeChain_near`,
with nothing said of the table. Together with what the functions do to the table, this gives
`getFatFs_data`, `createChain_data` and `removeChain_data`, in which the data sectors stay. A
transfer of spare sectors is a change of exactly these (`diskWriteSectors_data`).

## The chain of the file

`FileChain` is the chain of the file beside the others, linked and ended in the table. What
`create_chain` does to it is `Stretched`, which has the cases that a caller distinguishes: the next
cluster of the chain, a new one, none because the volume is full, and a chain that is lost to an
error of the disk. The full volume is said under `ρ`, by which no call of the disk fails, the count
of the free clusters is right or unknown, and no entry is damaged: without it `create_chain` may
find no cluster for other reasons.

The results on files are built on these lemmas alone; neither the bytes of the FAT nor the window
occur in the modules that follow.
-/

variable {g : FatGeometry} {ρ : Prop}

/-! ### Where the window goes -/

/-- The window is where it was, or in the FAT, or nowhere. -/
def FatWindow.Near (g : FatGeometry) (k : ℕ) (s : FatWindow) : Prop :=
  s.winsect = k ∨ g.InFat s.winsect ∨ s.winsect = noSector

section Near

variable {k : ℕ}

/-- A write to the disk does not move the window. -/
theorem diskWrite_winsect (sect : ℕ) (buf : Memory) :
    Keeps (fun s ↦ s.winsect = k) (diskWrite sect buf) := by
  intro s hs
  rw [diskWrite]
  split <;> exact hs

/-- Writing the window back does not move it. -/
theorem syncWindow_winsect : Keeps (fun s ↦ s.winsect = k) (syncWindow g) := by
  have hreflect : Keeps (fun s ↦ s.winsect = k) (reflectWindow g) :=
    .bind .get fun s ↦ .ite (.bind (diskWrite_winsect _ _) fun _ ↦ .pure _) (.pure _)
  refine .bind .get fun s ↦ .ite (.bind (diskWrite_winsect _ _) fun ok ↦ .ite ?_ (.pure _)) (.pure _)
  exact .bind (.modify fun s hs ↦ hs) fun _ ↦ .bind hreflect fun _ ↦ .pure _

/-- `move_window` goes to the sector that it is asked for, or loses the window. -/
theorem moveWindow_winsect {P : ℕ → Prop} {sect : ℕ} (hsect : P sect) (hno : P noSector) :
    Keeps (fun s ↦ P s.winsect) (moveWindow g sect) := by
  have hsync : Keeps (fun s ↦ P s.winsect) (syncWindow g) := fun s hs ↦ by
    have h : (syncWindow g s).2.winsect = s.winsect := syncWindow_winsect s rfl
    show P (syncWindow g s).2.winsect
    rw [h]
    exact hs
  have hread : Keeps (fun s ↦ P s.winsect) (diskReadWin sect) := fun s hs ↦ by
    rw [diskReadWin]
    split <;> exact hs
  refine .bind .get fun s ↦ .ite (.bind hsync fun res ↦ .ite (.bind hread fun ok ↦ .ite ?_ ?_)
    (.pure _)) (.pure _)
  · exact .bind (.modify fun s _ ↦ hsect) fun _ ↦ .pure _
  · exact .bind (.modify fun s _ ↦ hno) fun _ ↦ .pure _

/-- A window that is moved to a sector of the FAT is there, where it was, or nowhere. -/
theorem moveWindow_near {sect : ℕ} (hsect : g.InFat sect) :
    Keeps (FatWindow.Near g k) (moveWindow g sect) :=
  moveWindow_winsect (P := fun j ↦ j = k ∨ g.InFat j ∨ j = noSector) (.inr (.inl hsect))
    (.inr (.inr rfl))

/-- The sectors that an entry lies in. -/
theorem FatGeometry.FatSound.entry_sector (hg : g.FatSound) {c o : ℕ} (hc : g.Valid c)
    (ho : g.entryAt c ≤ g.fatbase * 512 + o ∧ g.fatbase * 512 + o < g.entryAt c + g.entryBytes) :
    g.InFat (g.fatbase + o / 512) := by
  have hentry := hg.entry_inFat hc.2
  exact ⟨by omega, by omega⟩

/-- `get_fat` moves the window to sectors of the FAT only. -/
theorem getFat_near (hg : g.FatSound) (c : ℕ) : Keeps (FatWindow.Near g k) (getFat g c) := by
  rw [getFat]
  split
  · exact .pure _
  rename_i hc
  have hvalid : g.Valid c := ⟨by omega, by omega⟩
  have hin : ∀ {o : ℕ}, g.entryAt c ≤ g.fatbase * 512 + o →
      g.fatbase * 512 + o < g.entryAt c + g.entryBytes → g.InFat (g.fatbase + o / 512) :=
    fun h₁ h₂ ↦ hg.entry_sector hvalid ⟨h₁, h₂⟩
  simp only [FatGeometry.entryAt, FatGeometry.entryBytes] at hin
  cases ht : g.fsType with
  | fat12 =>
    simp only [ht] at hin
    refine .bind (moveWindow_near (hin (by omega) (by omega))) fun res ↦ .ite (.pure _) ?_
    refine .bind .get fun s ↦ .bind (moveWindow_near (hin (by omega) (by omega))) fun res ↦
      .ite (.pure _) (.bind .get fun _ ↦ .pure _)
  | fat16 =>
    simp only [ht] at hin
    have hdiv : c / (512 / 2) = c * 2 / 512 := by omega
    rw [hdiv]
    exact .bind (moveWindow_near (hin (by omega) (by omega))) fun res ↦
      .ite (.pure _) (.bind .get fun _ ↦ .pure _)
  | fat32 =>
    simp only [ht] at hin
    have hdiv : c / (512 / 4) = c * 4 / 512 := by omega
    rw [hdiv]
    exact .bind (moveWindow_near (hin (by omega) (by omega))) fun res ↦
      .ite (.pure _) (.bind .get fun _ ↦ .pure _)

/-- `put_fat` moves the window to sectors of the FAT only. -/
theorem putFat_near (hg : g.FatSound) (c val : ℕ) :
    Keeps (FatWindow.Near g k) (putFat g c val) := by
  rw [putFat]
  split
  · rename_i hvalid
    have hin : ∀ {o : ℕ}, g.entryAt c ≤ g.fatbase * 512 + o →
        g.fatbase * 512 + o < g.entryAt c + g.entryBytes → g.InFat (g.fatbase + o / 512) :=
      fun h₁ h₂ ↦ hg.entry_sector hvalid ⟨h₁, h₂⟩
    simp only [FatGeometry.entryAt, FatGeometry.entryBytes] at hin
    cases ht : g.fsType with
    | fat12 =>
      simp only [ht] at hin
      refine .bind (moveWindow_near (hin (by omega) (by omega))) fun res ↦ .ite (.pure _) ?_
      refine .bind (.modify fun s hs ↦ hs) fun _ ↦
        .bind (moveWindow_near (hin (by omega) (by omega))) fun res ↦ .ite (.pure _) ?_
      exact .bind (.modify fun s hs ↦ hs) fun _ ↦ .pure _
    | fat16 =>
      simp only [ht] at hin
      have hdiv : c / (512 / 2) = c * 2 / 512 := by omega
      rw [hdiv]
      refine .bind (moveWindow_near (hin (by omega) (by omega))) fun res ↦ .ite (.pure _) ?_
      exact .bind (.modify fun s hs ↦ hs) fun _ ↦ .pure _
    | fat32 =>
      simp only [ht] at hin
      have hdiv : c / (512 / 4) = c * 4 / 512 := by omega
      rw [hdiv]
      refine .bind (moveWindow_near (hin (by omega) (by omega))) fun res ↦ .ite (.pure _) ?_
      exact .bind .get fun s ↦ .bind (.modify fun s hs ↦ hs) fun _ ↦ .pure _
  · exact .pure _

/-- The same for the filesystem object. -/
def FatFs.Near (g : FatGeometry) (k : ℕ) (s : FatFs) : Prop := s.window.Near g k

/-- The same of `get_fat` on the volume. -/
theorem getFatFs_near (hg : g.FatSound) (c : ℕ) : Keeps (FatFs.Near g k) (getFatFs g c) :=
  Keeps.zoom (p := FatFs.windowPart) (getFat_near hg c)

/-- The same of `put_fat` on the volume. -/
theorem putFatFs_near (hg : g.FatSound) (c val : ℕ) :
    Keeps (FatFs.Near g k) (putFatFs g c val) :=
  Keeps.zoom (p := FatFs.windowPart) (putFat_near hg c val)

/-- The loop of `remove_chain` moves the window to sectors of the FAT only. -/
theorem removeLoop_near (hg : g.FatSound) (fuel clst : ℕ) :
    Keeps (FatFs.Near g k) (removeLoop g fuel clst) := by
  induction fuel generalizing clst with
  | zero => exact .pure _
  | succ fuel ih =>
    refine .bind (getFatFs_near hg clst) fun nxt ↦ .ite (.pure _) (.ite (.pure _) (.ite (.pure _) ?_))
    refine .bind (putFatFs_near hg clst 0) fun res ↦ .ite (.pure _) ?_
    refine .bind (.modify fun s hs ↦ ?_) fun _ ↦ .ite (ih nxt) (.pure _)
    rw [countFreed]
    split <;> exact hs

/-- So does the whole of `remove_chain`. -/
theorem removeChain_near (hg : g.FatSound) (clst pclst : ℕ) :
    Keeps (FatFs.Near g k) (removeChain g clst pclst) :=
  .ite (.pure _) (.ite (.bind (putFatFs_near hg pclst _) fun _ ↦
    .ite (.pure _) (removeLoop_near hg _ _)) (removeLoop_near hg _ _))

/-- The search for a free cluster moves the window to sectors of the FAT only. -/
theorem findFree_near (hg : g.FatSound) (fuel scl ncl : ℕ) :
    Keeps (FatFs.Near g k) (findFree g fuel scl ncl) := by
  induction fuel generalizing ncl with
  | zero => exact .pure _
  | succ fuel ih =>
    exact .ite (.pure _) (.bind (getFatFs_near hg _) fun cs ↦
      .ite (.pure _) (.ite (.pure _) (.ite (.pure _) (ih _))))

/-- So does the whole of `create_chain`. -/
theorem createChain_near (hg : g.FatSound) (clst : ℕ) :
    Keeps (FatFs.Near g k) (createChain g clst) := by
  have hchoose : ∀ scl, Keeps (FatFs.Near g k) (chooseCluster g clst scl) := fun scl ↦
    .ite (.bind (getFatFs_near hg _) fun cs ↦ .ite (.pure _)
      (.ite (.bind .get fun s ↦ findFree_near hg _ _ _) (.pure _))) (findFree_near hg _ _ _)
  have hlink : ∀ ncl, Keeps (FatFs.Near g k) (linkCluster g clst ncl) := fun ncl ↦ by
    refine .bind (putFatFs_near hg ncl _) fun res ↦
      .bind (.ite (putFatFs_near hg clst ncl) (.pure _)) fun res ↦ .ite ?_ (.pure _)
    refine .bind (.modify fun s hs ↦ ?_) fun _ ↦ .pure _
    rw [countTaken]
    split <;> exact hs
  have hallocate : ∀ scl, Keeps (FatFs.Near g k) (allocateCluster g clst scl) := fun scl ↦ by
    refine .bind .get fun s ↦ .ite (.pure _) (.bind (hchoose scl) fun r ↦ ?_)
    rcases r with - | r | ncl
    · exact .pure _
    · exact .pure _
    · exact .bind (hlink ncl) fun _ ↦ .pure _
  exact .ite (.bind .get fun s ↦ hallocate _) (.bind (getFatFs_near hg clst) fun cs ↦
    .ite (.pure _) (.ite (.pure _) (.ite (.pure _) (hallocate _))))

end Near

/-! ### What the volume holds -/

section Data

variable {m : Memory} {s : FatWindow} {others : List (List ℕ)} {D : Memory} {T : ℕ → ℕ}
  {last free : ℕ}

/-- An entry is its bytes. -/
theorem fatEntry_congr {m' : Memory} {c : ℕ}
    (h : ∀ i < g.entryBytes, m' (g.entryAt c + i) = m (g.entryAt c + i)) :
    fatEntry g m' c = fatEntry g m c := by
  cases ht : g.fsType <;> simp only [FatGeometry.entryBytes, ht] at h <;>
    simp only [fatEntry, ht, loadWord_congr h]

/-- Sectors written beside the window and the FATs. -/
theorem Shows.writeBlocks (h : Shows g ρ m s) {k n : ℕ}
    (hk : ∀ j, k ≤ j → j < k + n → g.Tracked j ∧ ¬ g.InFat j ∧ j ≠ s.winsect) (data : Memory)
    (faults : ℕ → Option Memory) (hreliable : ρ → ∀ n, faults n = none) :
    Shows g ρ (overlayBlocks 512 m k n data)
      { s with disk := ⟨overlayBlocks 512 s.disk.bytes k n data, faults⟩ } where
  image a ha := by
    by_cases hw : a / 512 = s.winsect
    · have hout : ¬ (k ≤ a / 512 ∧ a / 512 < k + n) := fun hin ↦ (hk _ hin.1 hin.2).2.2 hw
      rw [overlay_of_eq _ _ hw, overlayBlocks_of_notMem _ _ hout, h.win_eq ha hw]
    · rw [overlay_of_ne _ _ hw]
      exact overlayBlocks_apply_congr k n data (h.disk_eq ha hw)
  clean hw a ha := overlayBlocks_apply_congr k n data (h.clean hw a ha)
  dirty := h.dirty
  winsect_le := h.winsect_le
  reliable := hreliable
  mirrored hρ hfats a ha := by
    have hmirror : g.InMirror ((a + g.fsize * 512) / 512) := by
      have h₁ := ha.1
      have h₂ := ha.2
      exact ⟨hfats, by omega, by omega⟩
    have hout : ¬ (k ≤ a / 512 ∧ a / 512 < k + n) := fun hin ↦ (hk _ hin.1 hin.2).2.1 ha
    have hout' : ¬ (k ≤ (a + g.fsize * 512) / 512 ∧ (a + g.fsize * 512) / 512 < k + n) :=
      fun hin ↦ (hk _ hin.1 hin.2).1.not_mirror hmirror
    have hcopy := h.mirrored hρ hfats a ha
    rw [← overlayBlocks_of_notMem s.disk.bytes data hout',
      ← overlayBlocks_of_notMem s.disk.bytes data hout] at hcopy
    exact hcopy

/-- **The volume holds the table `T`, and `D` outside of the FAT**; the window is on no sector that
a file with these other chains beside it can have. -/
structure DataShows (g : FatGeometry) (ρ : Prop) (others : List (List ℕ)) (D : Memory) (T : ℕ → ℕ)
    (last free : ℕ) (s : FatFs) : Prop where
  alloc : ∃ m₀, AllocShows g ρ m₀ T last free s ∧ ∀ a, ¬ g.InFat (a / 512) → m₀ a = D a
  window : ¬ g.SpareSector others s.window.winsect

/-- A spare sector is not in the window: the disk has it. -/
theorem DataShows.disk_eq (hg : g.VolumeSound) {s : FatFs}
    (h : DataShows g ρ others D T last free s) {a : ℕ} (ha : g.SpareSector others (a / 512)) :
    s.window.disk.bytes a = D a := by
  obtain ⟨⟨m₀, ⟨⟨m, hshows, hfat⟩, -, -⟩, hD⟩, hwindow⟩ := h
  obtain ⟨htracked, hout, -⟩ := ha.tracked hg
  have hne : a / 512 ≠ s.window.winsect := fun hw ↦ hwindow (hw ▸ ha)
  rw [hshows.disk_eq htracked hne, hfat.outside a hout, hD a hout]

/-- **A transfer of spare sectors** changes these and nothing else. -/
theorem diskWriteSectors_data (hg : g.VolumeSound) {k n : ℕ}
    (hk : ∀ j, k ≤ j → j < k + n → g.SpareSector others j) (data : Memory) :
    Triple (DataShows g ρ others D T last free) (FatFs.windowPart.zoom (diskWriteSectors k n data))
      fun ok s ↦ ok = true ∧ DataShows g ρ others (overlayBlocks 512 D k n data) T last free s ∨
        ok = false ∧ ¬ ρ ∧ ∃ junk,
          DataShows g ρ others (overlayBlocks 512 D k n junk) T last free s := by
  rintro s ⟨⟨m₀, ⟨⟨m, hshows, hfat⟩, hlast, hfree⟩, hD⟩, hwindow⟩
  have hsectors : ∀ j, k ≤ j → j < k + n → g.Tracked j ∧ ¬ g.InFat j ∧ j ≠ s.window.winsect :=
    fun j h₁ h₂ ↦ by
      obtain ⟨htracked, hout, -⟩ := (hk j h₁ h₂).tracked hg
      exact ⟨htracked, hout, fun hw ↦ hwindow (hw ▸ hk j h₁ h₂)⟩
  have hwrite : ∀ w faults, (ρ → ∀ n, faults n = none) →
      DataShows g ρ others (overlayBlocks 512 D k n w) T last free
        { s with window.disk := ⟨overlayBlocks 512 s.window.disk.bytes k n w, faults⟩ } := by
    intro w faults hreliable
    have hentry : ∀ c, g.Valid c → fatEntry g (overlayBlocks 512 m k n w) c = T c := fun c hc ↦ by
      rw [← hfat.entry c hc]
      refine fatEntry_congr fun i hi ↦ overlayBlocks_of_notMem _ _ fun hin ↦ ?_
      have hentry := hg.entry_inFat hc.2
      exact (hsectors _ hin.1 hin.2).2.1 ⟨by omega, by omega⟩
    refine ⟨⟨overlayBlocks 512 m k n w,
      ⟨⟨_, hshows.writeBlocks hsectors w faults hreliable, ?_⟩, hlast, hfree⟩, ?_⟩, hwindow⟩
    · exact ⟨hentry, fun _ _ ↦ rfl, fun _ ↦ rfl, fun _ _ ↦ rfl⟩
    · intro a ha
      exact overlayBlocks_apply_congr k n w ((hfat.outside a ha).trans (hD a ha))
  cases hf : s.window.disk.faults 0 with
  | none =>
    have hrun : diskWriteSectors k n data s.window = (true, { s.window with
        disk := ⟨overlayBlocks 512 s.window.disk.bytes k n data, s.window.disk.next.faults⟩ }) := by
      simp [diskWriteSectors, hf, FatDisk.next]
    refine .inl ⟨congrArg Prod.fst hrun, ?_⟩
    rw [StatePart.zoom]
    show DataShows _ _ _ _ _ _ _ (FatFs.windowPart.set s (diskWriteSectors k n data s.window).2)
    rw [hrun]
    exact hwrite data _ fun hρ n ↦ hshows.reliable hρ (n + 1)
  | some junk =>
    have hρ : ¬ ρ := fun hρ ↦ absurd (hf.symm.trans (hshows.reliable hρ 0)) (by simp)
    have hrun : diskWriteSectors k n data s.window = (false, { s.window with
        disk := ⟨overlayBlocks 512 s.window.disk.bytes k n junk, s.window.disk.next.faults⟩ }) := by
      simp [diskWriteSectors, hf, FatDisk.next]
    refine .inr ⟨congrArg Prod.fst hrun, hρ, junk, ?_⟩
    rw [StatePart.zoom]
    show DataShows _ _ _ _ _ _ _ (FatFs.windowPart.set s (diskWriteSectors k n data s.window).2)
    rw [hrun]
    exact hwrite junk _ fun h ↦ absurd h hρ

/-- The functions of the FAT leave the window on no spare sector. -/
theorem DataShows.of_near (hg : g.VolumeSound) {s t : FatFs} {T' : ℕ → ℕ} {last' free' : ℕ}
    (h : DataShows g ρ others D T last free s) (hnear : FatFs.Near g s.window.winsect t)
    {m₀ : Memory} (ht : AllocShows g ρ m₀ T' last' free' t)
    (hD : ∀ a, ¬ g.InFat (a / 512) → m₀ a = D a) : DataShows g ρ others D T' last' free' t where
  alloc := ⟨m₀, ht, hD⟩
  window hspare := by
    rcases hnear with hw | hw | hw
    · exact h.window (hw ▸ hspare)
    · exact (hspare.tracked hg).2.1 hw
    · exact absurd (hspare.lt hg) (hw ▸ Nat.lt_irrefl _)

/-- `get_fat` looks up, and the data sectors stay. -/
theorem getFatFs_data (hg : g.VolumeSound) (c : ℕ) :
    Triple (DataShows g ρ others D T last free) (getFatFs g c) fun r s ↦
      (r = lookupFat g T c ∧ r ≠ fatDiskError ∨ r = fatDiskError ∧ ¬ ρ) ∧
        DataShows g ρ others D T last free s := by
  intro s hs
  obtain ⟨m₀, halloc, hD⟩ := hs.alloc
  obtain ⟨hres, ht⟩ := getFatFs_spec hg.toFatSound T last free c s halloc
  exact ⟨hres, hs.of_near hg (getFatFs_near hg.toFatSound c s (.inl rfl)) ht hD⟩

/-- `create_chain` changes the FAT as said by `Created`, and the data sectors stay. -/
theorem createChain_data (hg : g.VolumeSound) (clst : ℕ) :
    Triple (DataShows g ρ others D T last free) (createChain g clst) fun r s ↦
      ∃ v T' last' free', r = some v ∧ Created g ρ T last free clst v T' last' free' ∧
        DataShows g ρ others D T' last' free' s := by
  intro s hs
  obtain ⟨m₀, halloc, hD⟩ := hs.alloc
  obtain ⟨v, T', last', free', hr, hcreated, ht⟩ :=
    createChain_spec hg.toChainSound T last free clst s halloc
  exact ⟨v, T', last', free', hr, hcreated,
    hs.of_near hg (createChain_near hg.toFatSound clst s (.inl rfl)) ht hD⟩

/-- `remove_chain` changes the FAT as said by `RemovedChain`, and the data sectors stay. -/
theorem removeChain_data (hg : g.VolumeSound) (clst pclst : ℕ) :
    Triple (DataShows g ρ others D T last free) (removeChain g clst pclst) fun r s ↦
      ∃ res T' free', r = some res ∧ RemovedChain g ρ T free clst pclst res T' free' ∧
        DataShows g ρ others D T' last free' s := by
  intro s hs
  obtain ⟨m₀, halloc, hD⟩ := hs.alloc
  obtain ⟨res, T', free', hr, hremoved, ht⟩ :=
    removeChain_spec hg.toChainSound T last free clst pclst s halloc
  exact ⟨res, T', free', hr, hremoved,
    hs.of_near hg (removeChain_near hg.toFatSound clst pclst s (.inl rfl)) ht hD⟩

end Data

/-! ### The chain of a file -/

section Chain

variable {others : List (List ℕ)} {T T' : ℕ → ℕ} {last free last' free' : ℕ} {l : List ℕ}

/-- **The chain of a file beside the others.** If the disk never fails, the count of the free
clusters is right and no entry is damaged. -/
structure FileChain (g : FatGeometry) (ρ : Prop) (others : List (List ℕ)) (T : ℕ → ℕ) (free : ℕ)
    (l : List ℕ) : Prop where
  linked : LinkedLists T g.Valid (g.nFatent ≤ ·) (l :: others)
  counted : ρ → Counted g T free
  sane : ρ → ∀ c, g.Valid c → T c ≠ 1

theorem FileChain.valid (h : FileChain g ρ others T free l) : ∀ c ∈ l, g.Valid c :=
  h.linked.nodes l List.mem_cons_self

theorem FileChain.nodup (h : FileChain g ρ others T free l) : l.Nodup :=
  (List.nodup_append.1 h.linked.nodup).1

/-- The sectors of the file are in no other chain. -/
theorem FileChain.spare (hg : g.VolumeSound) (h : FileChain g ρ others T free l) {n : ℕ}
    (hn : n / g.csize < l.length) : g.SpareSector others (g.sectorOf l n) :=
  FatGeometry.sectorOf_spare hg h.valid (fun _ hc ↦ h.linked.notMem_of_mem_head hc) hn

/-- The entry of a cluster of the chain that is not the last. -/
theorem FileChain.entry (h : FileChain g ρ others T free l) {i c d : ℕ} (hc : l[i]? = some c)
    (hd : l[i + 1]? = some d) : T c = d := by
  obtain ⟨a, b, hlink, -⟩ := h.linked.linked l List.mem_cons_self
  obtain ⟨hi, rfl⟩ := List.getElem?_eq_some_iff.1 hd
  have hsplit : l = l.take (i + 1) ++ l[i + 1] :: l.drop (i + 1 + 1) := by
    rw [List.getElem_cons_drop, List.take_append_drop]
  rw [hsplit] at hlink
  obtain ⟨e, hfirst, hsecond⟩ := Links.append_iff.1 hlink
  rw [List.take_add_one, hc] at hfirst
  exact (Links.snoc_iff.1 hfirst).2.trans hsecond.1

/-- What `create_chain` does for cluster `i` of a file, given the one before it. -/
inductive Stretched (g : FatGeometry) (ρ : Prop) (others : List (List ℕ)) (T : ℕ → ℕ) (free : ℕ)
    (l : List ℕ) (i : ℕ) : ℕ → (ℕ → ℕ) → (free : ℕ) → Prop
  | follows {c : ℕ} (h : l[i]? = some c) : Stretched g ρ others T free l i c T free
  | grown {c free' : ℕ} {T' : ℕ → ℕ} (hi : i = l.length) (hc : g.Valid c)
    (h : FileChain g ρ others T' free' (l ++ [c])) : Stretched g ρ others T free l i c T' free'
  | full (hi : i = l.length) (h : ρ → freeClusters g T = ∅) :
    Stretched g ρ others T free l i 0 T free
  /-- The chain is lost. -/
  | lost {v free' : ℕ} {T' : ℕ → ℕ} (hv : v = 1 ∨ v = fatDiskError) (hρ : ¬ ρ)
    (h : LinkedLists T' g.Valid (g.nFatent ≤ ·) others) :
    Stretched g ρ others T free l i v T' free'

/-- The cluster before cluster `i`, as `create_chain` is given it. -/
def Precedes (l : List ℕ) (i clst : ℕ) : Prop :=
  i = 0 ∧ l = [] ∧ clst = 0 ∨ ∃ j, i = j + 1 ∧ l[j]? = some clst

/-- A cluster that was added brings no entry 1 into the table. -/
theorem Created.sane (hg : g.ChainSound) {clst v : ℕ} (hρ : ρ)
    (h : Created g ρ T last free clst v T' last' free') (hsane : ∀ c, g.Valid c → T c ≠ 1) :
    ∀ c, g.Valid c → T' c ≠ 1 := by
  have hend : g.endOfChain ≠ 1 := by
    have := hg.two_lt
    have := hg.le_endOfChain
    omega
  cases h with
  | follows _ _ => exact hsane
  | full _ _ => exact hsane
  | damaged _ => exact hsane
  | unread h => exact absurd hρ h
  | unmarked h _ _ _ => exact absurd hρ h
  | unlinked h _ _ _ _ _ => exact absurd hρ h
  | created _ hc _ _ =>
    intro c hv
    have hc2 := hc.1
    rw [linkTable]
    split
    · rw [Function.update_apply]
      split
      · exact hend
      · exact hsane c hv
    · rw [Function.update_apply, Function.update_apply]
      split
      · omega
      · split
        · exact hend
        · exact hsane c hv

/-- The count stays when no cluster is returned. -/
theorem Created.free_eq {clst v : ℕ} (h : Created g ρ T last free clst v T' last' free')
    (hv : v < 2) : free' = free := by
  cases h with
  | created _ hc _ _ => exact absurd hc.1 (Nat.not_le_of_lt hv)
  | _ => rfl

/-- `create_chain` behind a cluster of the file gives its follower or adds one, unless no cluster is
free or the chain is lost. -/
theorem Created.stretched (hg : g.ChainSound) (hchain : FileChain g ρ others T free l) {i clst v : ℕ}
    (hi : Precedes l i clst) (h : Created g ρ T last free clst v T' last' free') :
    Stretched g ρ others T free l i v T' free' := by
  have hcounted := fun hρ ↦ h.counted hg hρ (hchain.counted hρ)
  have hsane := fun hρ ↦ h.sane hg hρ (hchain.sane hρ)
  by_cases hlast : i = l.length
  · -- `create_chain` is given the last cluster of the chain.
    have hclst : clst = l.getLastD 0 := by
      rcases hi with ⟨-, rfl, rfl⟩ | ⟨j, rfl, hj⟩
      · rfl
      · rw [List.getLastD_eq_getLast?, List.getLast?_eq_getElem?, ← hlast, Nat.add_sub_cancel, hj,
          Option.getD_some]
    have hfree := h.free_eq
    cases Created.extended hg hchain.linked (hclst ▸ h) with
    | linked hc hl => exact .grown hlast hc ⟨hl, hcounted, hsane⟩
    | failed hρ hl => exact .lost (.inr rfl) hρ hl
    | full hfull =>
      obtain rfl : free' = free := hfree (by decide)
      refine .full hlast fun hρ ↦ ?_
      rcases hfull with h0 | hnone
      · exact Finset.card_eq_zero.1 ((hchain.counted hρ (by omega)).symm.trans h0)
      · exact Finset.eq_empty_of_forall_notMem fun c hc ↦
          hnone c (mem_freeClusters.1 hc).1 (mem_freeClusters.1 hc).2
    | damaged hone =>
      obtain ⟨c, hc, hone⟩ := hone
      exact .lost (.inl rfl) (fun hρ ↦ hchain.sane hρ c hc hone) hchain.linked.tail
  · obtain ⟨j, rfl, hj⟩ := hi.resolve_left fun hi ↦ hlast (by rw [hi.1, hi.2.1]; rfl)
    obtain ⟨hjlt, -⟩ := List.getElem?_eq_some_iff.1 hj
    have hnext : l[j + 1]? = some l[j + 1] := List.getElem?_eq_getElem (by omega)
    have hentry := hchain.entry hj hnext
    have hvalid : g.Valid (T clst) := hentry ▸ hchain.valid _ (List.getElem_mem _)
    have hclst : g.Valid clst := hchain.valid _ (List.mem_of_getElem? hj)
    have hnot : ¬ (clst = 0 ∨ g.Valid clst ∧ g.nFatent ≤ T clst) := by
      rintro (rfl | ⟨-, hle⟩)
      · exact absurd hclst.1 (by decide)
      · exact absurd hvalid.2 (Nat.not_lt_of_le hle)
    cases h with
    | follows _ _ => exact .follows (hentry ▸ hnext)
    | full hend _ => exact absurd hend hnot
    | created _ _ _ hend => exact absurd hend hnot
    | damaged h =>
      refine .lost (.inl rfl) (fun hρ ↦ ?_) hchain.linked.tail
      rcases h with ⟨-, hlookup⟩ | ⟨c, hc, hone⟩
      · rw [lookupFat, if_pos hclst] at hlookup
        exact absurd hvalid.1 (Nat.not_le_of_lt hlookup)
      · exact hchain.sane hρ c hc hone
    | unread hρ => exact .lost (.inr rfl) hρ hchain.linked.tail
    | unmarked hρ hc h x => exact .lost (.inr rfl) hρ (hchain.linked.tail.update_free hg h x)
    | @unlinked ncl hρ hc h0 _ _ x =>
      refine .lost (.inr rfl) hρ (hchain.linked.tail.congr fun k hk c hck ↦ ?_)
      have hcx : c ≠ clst := fun hcx ↦
        hchain.linked.notMem_of_mem_head (List.mem_of_getElem? hj) k hk (hcx ▸ hck)
      have hcn : c ≠ ncl := fun hcn ↦
        hchain.linked.notMem_of_free hg h0 k (List.mem_cons_of_mem _ hk) (hcn ▸ hck)
      rw [Function.update_of_ne hcx, Function.update_of_ne hcn]

end Chain

section Cut

variable {others : List (List ℕ)} {T T' : ℕ → ℕ} {free free' : ℕ} {l l₂ : List ℕ}

/-- What `remove_chain` does to the chain of a file, given the rest of it. -/
theorem RemovedChain.shortened (hg : g.ChainSound) {c : ℕ} {res : FResult}
    (hchain : FileChain g ρ others T free (l ++ c :: l₂))
    (h : RemovedChain g ρ T free c (l.getLastD 0) res T' free') :
    res = .ok ∧ FileChain g ρ others T' free' l ∨
      res = .diskErr ∧ ¬ ρ ∧ LinkedLists T' g.Valid (g.nFatent ≤ ·) others := by
  rcases h.cut hg hchain.linked with ⟨rfl, hl⟩ | hlost
  · refine .inl ⟨rfl, hl, fun hρ ↦ h.counted hg hρ ?_ (hchain.counted hρ), fun hρ d hd ↦ ?_⟩
    · rcases List.eq_nil_or_concat' l with rfl | ⟨l, x, rfl⟩
      · exact .inl rfl
      · refine .inr fun h0 ↦ ?_
        rw [List.getLastD_eq_getLast?, List.getLast?_concat, Option.getD_some] at h0
        exact hchain.linked.notMem_of_free hg h0 _ List.mem_cons_self (by simp)
    · have hsane := hchain.sane hρ d hd
      have hend : g.endOfChain ≠ 1 := by
        have := hg.two_lt
        have := hg.le_endOfChain
        omega
      cases h with
      | whole _ _ h =>
        obtain ⟨_, hfreed⟩ := h.kept_or_free
        rcases hfreed d FResult.noConfusion with hkept | hkept
        · exact hkept ▸ hsane
        · rw [hkept]; decide
      | rest _ _ h =>
        obtain ⟨_, hfreed⟩ := h.kept_or_free
        rcases hfreed d FResult.noConfusion with hkept | hkept
        · rw [hkept, Function.update_apply]
          split
          · exact hend
          · exact hsane
        · rw [hkept]; decide
  · exact .inr hlost

end Cut
