import SmartAp.Fat.FileVolume

/-!
# The buffer of an open file

An open file is seen through its buffer as the volume is seen through the window: `V` is what the
volume holds with the buffer laid over it, if the buffer is dirty.

## Two invariants

`FileShows` is this much, and it is kept whatever happens, also by a call that is broken off. It
says that the buffer is of a sector of no other file, so that writing it back harms none.

`FileView` adds what holds as long as the file has no error: the buffer agrees with `V`, the object
describes the chain `l`, and the chain is long enough for the size. A call that fails loses it, sets
the error of the object, and every later call is refused because of that error.

The transfers of the buffer do not change `V` (`writeBack_view`, `loadSector_view`): a dirty buffer
that is written back is the same volume, and a sector that is loaded shows what was there. When the
disk fails in the middle, a dirty buffer stays dirty. `Cached` is a step that changes the buffer and
nothing else of the object, and `Placed` says which cluster and sector the object holds for a
position.
-/

/-- The volume under a file with its buffer. -/
def FatFile.viewOf (s : FatFile) (D : Memory) : Memory :=
  if s.dirty then overlay 512 D s.sect s.buf else D

/-- A changed buffer hides its sector of the disk. -/
theorem FatFile.viewOf_dirty {s : FatFile} (h : s.dirty = true) (D : Memory) :
    s.viewOf D = overlay 512 D s.sect s.buf := if_pos h

/-- A buffer without changes hides nothing. -/
theorem FatFile.viewOf_clean {s : FatFile} (h : s.dirty = false) (D : Memory) : s.viewOf D = D :=
  if_neg (by rw [h]; decide)

/-- Another buffer for the same sector. -/
theorem FatFile.overlay_viewOf (s : FatFile) (D w : Memory) :
    overlay 512 (s.viewOf D) s.sect w = overlay 512 D s.sect w := by
  rw [FatFile.viewOf]
  split
  · exact overlay_overlay _ _ _ _
  · rfl

/-- **The volume, seen through the buffer of the file, is `V`.** -/
structure FileShows (g : FatGeometry) (ρ : Prop) (others : List (List ℕ)) (V : Memory) (T : ℕ → ℕ)
    (last free : ℕ) (s : FatFile) : Prop where
  data : ∃ D, DataShows g ρ others D T last free s.fs ∧ V = s.viewOf D
  rest : LinkedLists T g.Valid (g.nFatent ≤ ·) others
  sect : s.sect = 0 ∨ g.SpareSector others s.sect
  dirty : s.dirty = true → s.sect ≠ 0

/-- The object has no error, and describes a file with the chain `l`. -/
structure Describes (g : FatGeometry) (ρ : Prop) (others : List (List ℕ)) (T : ℕ → ℕ) (free : ℕ)
    (l : List ℕ) (s : FatFile) : Prop where
  chain : FileChain g ρ others T free l
  sclust : s.sclust = l.headD 0
  size_le : s.objsize ≤ l.length * g.bcs
  size_lt : s.objsize < 0x100000000
  err : s.err = .ok

/-- **An open file without an error**, with the chain `l`. -/
structure FileView (g : FatGeometry) (ρ : Prop) (others : List (List ℕ)) (V : Memory) (T : ℕ → ℕ)
    (last free : ℕ) (l : List ℕ) (s : FatFile) : Prop
    extends FileShows g ρ others V T last free s, Describes g ρ others T free l s where
  buf : s.sect ≠ 0 → ∀ i < 512, s.buf i = V (s.sect * 512 + i)

/-- The cluster and the sector of the object are those of the position `p`. -/
structure Placed (g : FatGeometry) (l : List ℕ) (p : ℕ) (s : FatFile) : Prop where
  clust : 0 < p → l[(p - 1) / g.bcs]? = some s.clust
  sect : p % 512 ≠ 0 → s.sect = g.sectorOf l (p / 512)

/-- The objects differ in what is cached. -/
def Cached (s t : FatFile) : Prop :=
  t = { s with fs := t.fs, clust := t.clust, sect := t.sect, buf := t.buf, dirty := t.dirty }

variable {g : FatGeometry} {ρ : Prop} {others : List (List ℕ)} {V D : Memory} {T : ℕ → ℕ}
  {last free : ℕ} {l : List ℕ} {s t : FatFile}

theorem Cached.refl (s : FatFile) : Cached s s := rfl

/-- What changes the buffer only may be done twice. -/
theorem Cached.trans {u : FatFile} (h : Cached s t) (h' : Cached t u) : Cached s u := by
  rw [Cached] at h h' ⊢
  rw [h', h]

/-- The view of the file, when what is cached has changed. -/
theorem FileView.of_cached (h : FileView g ρ others V T last free l s) (hc : Cached s t)
    (ht : FileShows g ρ others V T last free t)
    (hbuf : t.sect ≠ 0 → ∀ i < 512, t.buf i = V (t.sect * 512 + i)) :
    FileView g ρ others V T last free l t := by
  rw [Cached] at hc
  refine ⟨ht, ?_, hbuf⟩
  rw [hc]
  exact ⟨h.chain, h.sclust, h.size_le, h.size_lt, h.err⟩

/-- The number of the sector in the buffer is one that the disk can have. -/
theorem FileShows.sect_le (hg : g.VolumeSound) (h : FileShows g ρ others V T last free s) :
    s.sect ≤ noSector := by
  rcases h.sect with h0 | hspare
  · rw [h0]; exact Nat.zero_le _
  · exact Nat.le_of_lt (hspare.lt hg)

/-- A buffer that is in use holds a data sector that is of no other file. -/
theorem FileShows.spare (h : FileShows g ρ others V T last free s) (hs : s.sect ≠ 0) :
    g.SpareSector others s.sect :=
  h.sect.resolve_left hs

/-- A clean buffer is not seen. -/
theorem FileShows.clean (h : FileShows g ρ others V T last free s) (hs : s.dirty = false) :
    DataShows g ρ others V T last free s.fs := by
  obtain ⟨D, hdata, hV⟩ := h.data
  rw [FatFile.viewOf_clean hs] at hV
  exact hV ▸ hdata

/-- What the disk holds in a spare sector, if the buffer is not a dirty copy of it. -/
theorem FileShows.disk_eq (hg : g.VolumeSound) (h : FileShows g ρ others V T last free s) {a : ℕ}
    (ha : g.SpareSector others (a / 512)) (hne : s.dirty = true → a / 512 ≠ s.sect) :
    s.fs.window.disk.bytes a = V a := by
  obtain ⟨D, hdata, rfl⟩ := h.data
  rw [hdata.disk_eq hg ha, FatFile.viewOf]
  split
  · rename_i hd
    rw [overlay_of_ne _ _ (hne hd)]
  · rfl

/-! ### The transfers -/

/-- **`writeBack` changes nothing that is seen.** The buffer is clean, or the disk has failed. -/
theorem writeBack_shows (hg : g.VolumeSound) (hs : FileShows g ρ others V T last free s) :
    Triple (fun t ↦ t = s) writeBack fun ok t ↦ FileShows g ρ others V T last free t ∧
      t = { s with fs := t.fs, dirty := t.dirty } ∧
      (ok = true ∧ t.dirty = false ∨ ok = false ∧ ¬ ρ) := by
  refine triple_get_bind ?_
  rintro s rfl
  refine .ite (fun hd ↦ ?_) fun hd ↦ .pure ?_
  · obtain ⟨D, hdata, rfl⟩ := hs.data
    have hspare := hs.spare (hs.dirty hd)
    have hsector : ∀ j, s.sect ≤ j → j < s.sect + 1 → g.SpareSector others j := fun j h₁ h₂ ↦ by
      obtain rfl : j = s.sect := by omega
      exact hspare
    have hview := FatFile.viewOf_dirty hd D
    have hwrite : Triple (fun t ↦ t = s) (onDisk (diskWriteSectors s.sect 1 s.buf)) fun ok t ↦
        t = { s with fs := t.fs } ∧
          (ok = true ∧ DataShows g ρ others (s.viewOf D) T last free t.fs ∨
          ok = false ∧ ¬ ρ ∧ ∃ junk,
            DataShows g ρ others (overlay 512 D s.sect junk) T last free t.fs) := by
      rintro s rfl
      have h := diskWriteSectors_data hg hsector s.buf s.fs hdata
      simp only [overlayBlocks_one, ← hview] at h
      exact ⟨rfl, h⟩
    refine .bind hwrite fun ok ↦ .ite (fun hok ↦ ?_) fun hok ↦ .pure ?_
    · refine triple_modify_bind (.pure ?_)
      rintro _ ⟨t, ⟨ht, hres⟩, rfl⟩
      obtain ⟨-, hdata'⟩ := hres.resolve_right fun h ↦ absurd (hok.symm.trans h.1) (by decide)
      refine ⟨⟨⟨_, hdata', ?_⟩, hs.rest, ?_, fun h ↦ Bool.noConfusion h⟩, ?_, .inl ⟨rfl, rfl⟩⟩
      · exact (FatFile.viewOf_clean rfl _).symm
      · rw [ht]; exact hs.sect
      · rw [ht]
    · rintro t ⟨ht, hres⟩
      obtain ⟨-, hρ, junk, hdata'⟩ := hres.resolve_left fun h ↦ hok h.1
      have hd' : t.dirty = true := by rw [ht]; exact hd
      refine ⟨⟨⟨_, hdata', ?_⟩, hs.rest, ?_, fun _ ↦ ?_⟩, ?_, .inr ⟨rfl, hρ⟩⟩
      · rw [FatFile.viewOf_dirty hd', hview, ht, overlay_overlay]
      · rw [ht]; exact hs.sect
      · rw [ht]; exact hs.dirty hd
      · rw [ht]
  · rintro s rfl
    exact ⟨hs, rfl, .inl ⟨rfl, by simpa using hd⟩⟩

/-- The same as long as the file has no error. -/
theorem writeBack_view (hg : g.VolumeSound) (hs : FileView g ρ others V T last free l s) :
    Triple (fun t ↦ t = s) writeBack fun ok t ↦ FileView g ρ others V T last free l t ∧
      t = { s with fs := t.fs, dirty := t.dirty } ∧
      (ok = true ∧ t.dirty = false ∨ ok = false ∧ ¬ ρ) := by
  refine (writeBack_shows hg hs.toFileShows).weaken (fun _ h ↦ h) ?_
  rintro ok t ⟨hshows, ht, hres⟩
  refine ⟨hs.of_cached ?_ hshows ?_, ht, hres⟩
  · rw [Cached, ht]
  · rw [ht]; exact hs.buf

/-- **A sector is read into the clean buffer.** -/
theorem diskReadBuf_shows (hg : g.VolumeSound) (hs : FileShows g ρ others V T last free s)
    (hd : s.dirty = false) {k : ℕ} (hk : g.SpareSector others k) :
    Triple (fun t ↦ t = s) (diskReadBuf k) fun ok t ↦ FileShows g ρ others V T last free t ∧
      t = { s with fs := t.fs, buf := t.buf } ∧
      (ok = true ∧ (∀ i < 512, t.buf i = V (k * 512 + i)) ∨ ok = false ∧ ¬ ρ) := by
  rintro s rfl
  have hclean := hs.clean hd
  have hnext : ∀ buf, FileShows g ρ others V T last free
      { s with buf := buf, fs.window.disk := s.fs.window.disk.next } := fun buf ↦ by
    obtain ⟨⟨m₀, ⟨⟨m, hshows, hfat⟩, hlast, hfree⟩, hD⟩, hwindow⟩ := hclean
    have hshows' : Shows g ρ m { s.fs.window with disk := s.fs.window.disk.next } :=
      ⟨hshows.disk_congr fun _ _ ↦ rfl, fun hρ n ↦ hshows.reliable hρ (n + 1), hshows.mirrored⟩
    refine ⟨⟨V, ⟨⟨m₀, ⟨⟨m, hshows', hfat⟩, hlast, hfree⟩, hD⟩, hwindow⟩, ?_⟩, hs.rest, hs.sect,
      hs.dirty⟩
    exact (FatFile.viewOf_clean (by exact hd) V).symm
  cases hf : s.fs.window.disk.faults 0 with
  | none =>
    have hrun : diskReadBuf k s = (true, { s with
        buf := blockAt 512 s.fs.window.disk.bytes k
        fs.window.disk := s.fs.window.disk.next }) := by
      simp [diskReadBuf, hf]
    rw [hrun]
    refine ⟨hnext _, rfl, .inl ⟨rfl, fun i hi ↦ ?_⟩⟩
    have hdiv : (k * 512 + i) / 512 = k := mul_add_div_of_lt k hi
    exact hs.disk_eq hg (hdiv.symm ▸ hk) fun h ↦ absurd (hd.symm.trans h) (by decide)
  | some junk =>
    have hρ : ¬ ρ := fun hρ ↦ by
      obtain ⟨⟨m₀, ⟨⟨m, hshows, -⟩, -, -⟩, -⟩, -⟩ := hclean
      exact absurd (hf.symm.trans (hshows.reliable hρ 0)) (by simp)
    have hrun : diskReadBuf k s =
        (false, { s with buf := junk, fs.window.disk := s.fs.window.disk.next }) := by
      simp [diskReadBuf, hf]
    rw [hrun]
    exact ⟨hnext _, rfl, .inr ⟨rfl, hρ⟩⟩

/-- **A sector of the file is in the buffer** after `loadSector`. -/
theorem loadSector_view (hg : g.VolumeSound) (hs : FileView g ρ others V T last free l s) {k : ℕ}
    (hk : g.SpareSector others k) :
    Triple (fun t ↦ t = s) (loadSector k) fun res t ↦
      Cached s t ∧ t.clust = s.clust ∧
      (res = .ok ∧ FileView g ρ others V T last free l t ∧ t.sect = k ∨
        res = .diskErr ∧ ¬ ρ ∧ FileShows g ρ others V T last free t) := by
  refine triple_get_bind ?_
  rintro s rfl
  refine .ite (fun hne ↦ ?_) fun heq ↦ .pure ?_
  · refine .bind (writeBack_view hg hs) fun ok ↦ .ite (fun hok ↦ ?_) fun hok ↦ .pure ?_
    · rintro t ⟨ht, htc, hres⟩
      obtain ⟨-, hclean⟩ := hres.resolve_right fun h ↦ absurd (hok.symm.trans h.1) (by decide)
      refine Triple.bind (R := fun (res : FResult) u ↦ Cached s u ∧ u.clust = s.clust ∧
        (res = .ok ∧ FileView g ρ others V T last free l u ∧ u.sect = k ∨
          res = .diskErr ∧ ¬ ρ ∧ FileShows g ρ others V T last free u))
        (diskReadBuf_shows hg ht.toFileShows hclean hk) (fun ok ↦ .ite (fun hok ↦ ?_) fun hok ↦ ?_)
        t rfl
      · refine triple_modify_bind (.pure ?_)
        rintro _ ⟨u, ⟨hu, huc, hres⟩, rfl⟩
        obtain ⟨-, hbuf⟩ := hres.resolve_right fun h ↦ absurd (hok.symm.trans h.1) (by decide)
        have hud : u.dirty = false := by rw [huc]; exact hclean
        have hcached : Cached s { u with sect := k } := by
          rw [Cached, huc, htc]
        have hshows : FileShows g ρ others V T last free { u with sect := k } := by
          refine ⟨⟨V, hu.clean hud, ?_⟩, hu.rest, .inr hk, fun h ↦
            absurd (hud.symm.trans h) (by simp)⟩
          exact (FatFile.viewOf_clean (by exact hud) V).symm
        refine ⟨hcached, ?_, .inl ⟨rfl, hs.of_cached hcached hshows fun _ ↦ hbuf, rfl⟩⟩
        rw [huc, htc]
      · refine .pure ?_
        rintro u ⟨hu, huc, hres⟩
        obtain ⟨-, hρ⟩ := hres.resolve_left fun h ↦ hok h.1
        refine ⟨?_, ?_, .inr ⟨rfl, hρ, hu⟩⟩
        · rw [Cached, huc, htc]
        · rw [huc, htc]
    · rintro t ⟨ht, htc, hres⟩
      obtain ⟨-, hρ⟩ := hres.resolve_left fun h ↦ hok h.1
      refine ⟨?_, ?_, .inr ⟨rfl, hρ, ht.toFileShows⟩⟩
      · rw [Cached, htc]
      · rw [htc]
  · rintro s rfl
    exact ⟨.refl s, rfl, .inl ⟨rfl, hs, Decidable.not_not.1 heq⟩⟩
