import SmartAp.Fat.FileCache

/-!
# Reading a file

`f_read` returns the bytes of the file from the file pointer on, whether they come from the buffer,
from the disk, or from both (`fRead_view`). A call that is broken off by an error of the disk has
returned the bytes before.

## A round

A round begins at any position. At the start of a sector it enters the sector (`enterRead_view`),
and there it reads as many whole sectors of the cluster as are asked for straight into the caller's
memory (`readAligned_view`). What the buffer holds of these sectors is laid over them afterwards,
since a dirty buffer is newer than the disk. Then, or in the middle of a sector, the rest is taken
from the buffer, which is loaded first if it is of another sector.

`ReadEnds` is the invariant over rounds: the bytes so far are those of the file from where the call
began, the pointer is behind them, and the volume shows what it showed. It is proved once for a
round and carried over the loop by induction on the budget.
-/

variable {g : FatGeometry} {ρ : Prop} {others : List (List ℕ)} {V D : Memory} {T : ℕ → ℕ}
  {last free : ℕ} {l : List ℕ} {s t : FatFile}

/-! ### The cluster -/

/-- A cluster of the chain is a cluster, and not one of the numbers that report an error. -/
theorem FileView.sound (hg : g.VolumeSound) (hs : FileView g ρ others V T last free l s) {c : ℕ}
    (hc : c ∈ l) : 2 ≤ c ∧ c < g.nFatent ∧ c ≠ fatDiskError := by
  have hvalid := hs.chain.valid c hc
  refine ⟨hvalid.1, hvalid.2, fun h ↦ not_valid_fatDiskError hg.toChainSound (h ▸ hvalid)⟩

/-- `get_fat` does not change what is seen. -/
theorem getFat_view (hg : g.VolumeSound) (hs : FileView g ρ others V T last free l s) (c : ℕ) :
    Triple (fun t ↦ t = s) (onFs (getFatFs g c)) fun r t ↦
      FileView g ρ others V T last free l t ∧ t = { s with fs := t.fs } ∧
      (r = lookupFat g T c ∧ r ≠ fatDiskError ∨ r = fatDiskError ∧ ¬ ρ) := by
  rintro s rfl
  obtain ⟨D, hdata, hV⟩ := hs.data
  obtain ⟨hres, hdata'⟩ := getFatFs_data hg c s.fs hdata
  exact ⟨hs.of_cached rfl ⟨⟨D, hdata', hV⟩, hs.rest, hs.sect, hs.dirty⟩ hs.buf, rfl, hres⟩

/-- The first sector of a cluster of the file, and the sector `n` of the file in it. -/
theorem FileView.sector (hg : g.VolumeSound) (hs : FileView g ρ others V T last free l s) {n c : ℕ}
    (hc : l[n / g.csize]? = some c) :
    clst2sect g c ≠ 0 ∧ add32 (clst2sect g c) (n % g.csize) = g.sectorOf l n ∧
      g.SpareSector others (g.sectorOf l n) := by
  obtain ⟨hlt, rfl⟩ := List.getElem?_eq_some_iff.1 hc
  have hspare := hs.chain.spare hg hlt
  have hsect := g.sectorOf_getElem hlt
  have hle := hspare.lt hg
  have hfirst : g.SpareSector others (clst2sect g l[n / g.csize]) :=
    ⟨_, hs.chain.valid _ (List.getElem_mem hlt),
      hs.chain.linked.notMem_of_mem_head (List.getElem_mem hlt), Nat.le_refl _,
      Nat.lt_add_of_pos_right (g.csize_pos hg)⟩
  refine ⟨(hfirst.tracked hg).2.2, ?_, hspare⟩
  rw [add32_eq, ← hsect, Nat.mod_eq_of_lt (by rw [noSector] at hle; omega)]

/-- **The cluster at the file pointer** is entered, or the disk has failed. -/
theorem enterRead_view (hg : g.VolumeSound) (hs : FileView g ρ others V T last free l s)
    (hp : Placed g l s.fptr s) (hlt : s.fptr < l.length * g.bcs) (hsector : s.fptr % 512 = 0) :
    Triple (fun t ↦ t = s) (enterRead g (s.fptr / 512 % g.csize)) fun res t ↦
      FileView g ρ others V T last free l t ∧ t = { s with fs := t.fs, clust := t.clust } ∧
      (res = .ok ∧ l[s.fptr / g.bcs]? = some t.clust ∨ res = .diskErr ∧ ¬ ρ) := by
  have hpos := g.bcs_pos hg
  have hmod := g.mod_bcs s.fptr
  have hidx : s.fptr / g.bcs < l.length := (Nat.div_lt_iff_lt_mul hpos).2 hlt
  refine .ite (fun hcsect ↦ ?_) fun hcsect ↦ .pure ?_
  · have hzero : s.fptr % g.bcs = 0 := by omega
    have hfollow : Triple (fun t ↦ t = s) (followChain g) fun r t ↦
        FileView g ρ others V T last free l t ∧ t = { s with fs := t.fs } ∧
        (l[s.fptr / g.bcs]? = some r ∨ r = fatDiskError ∧ ¬ ρ) := by
      refine triple_get_bind ?_
      rintro s rfl
      refine .ite (fun h0 ↦ .pure ?_) fun h0 ↦ ?_
      · rintro s rfl
        refine ⟨hs, rfl, .inl ?_⟩
        rw [h0, Nat.zero_div] at hidx ⊢
        rw [hs.sclust, List.headD_eq_head?_getD, List.head?_eq_getElem?,
          List.getElem?_eq_getElem hidx, Option.getD_some]
      · refine (getFat_view hg hs s.clust).weaken (fun _ h ↦ h) ?_
        rintro r t ⟨ht, htc, hres⟩
        refine ⟨ht, htc, hres.imp_left fun h ↦ ?_⟩
        have hprev := hp.clust (Nat.pos_of_ne_zero h0)
        have hdiv := pred_div_of_mod_eq hpos hzero (Nat.pos_of_ne_zero h0)
        have hnext : l[(s.fptr - 1) / g.bcs + 1]? = some l[s.fptr / g.bcs] := by
          rw [hdiv, List.getElem?_eq_getElem hidx]
        rw [h.1, lookupFat, if_pos (hs.chain.valid _ (List.mem_of_getElem? hprev)),
          hs.chain.entry hprev hnext, List.getElem?_eq_getElem hidx]
    refine .bind hfollow fun clst ↦ .ite (fun h2 ↦ .pure ?_) fun h2 ↦ .ite (fun he ↦ .pure ?_)
      fun he ↦ triple_modify_bind (.pure ?_)
    · rintro t ⟨ht, htc, hres⟩
      rcases hres with hc | ⟨rfl, -⟩
      · exact absurd (hs.sound hg (List.mem_of_getElem? hc)).1 (Nat.not_le_of_lt h2)
      · exact absurd h2 (by decide)
    · rintro t ⟨ht, htc, hres⟩
      refine ⟨ht, ?_, .inr ⟨rfl, (hres.resolve_left fun hc ↦ ?_).2⟩⟩
      · rw [htc]
      · exact (hs.sound hg (List.mem_of_getElem? hc)).2.2 he
    · rintro _ ⟨t, ⟨ht, htc, hres⟩, rfl⟩
      have hc := hres.resolve_right fun h ↦ he h.1
      refine ⟨?_, ?_, .inl ⟨rfl, hc⟩⟩
      · exact ht.of_cached rfl ⟨ht.data, ht.rest, ht.sect, ht.dirty⟩ ht.buf
      · rw [htc]
  · rintro s rfl
    refine ⟨hs, rfl, .inl ⟨rfl, ?_⟩⟩
    have hne : s.fptr % g.bcs ≠ 0 := by omega
    rw [← pred_div_of_mod_ne hpos hne]
    exact hp.clust (Nat.pos_of_ne_zero fun h0 ↦ hne (by rw [h0, Nat.zero_mod]))

/-! ### The bytes -/

theorem sub32_eq {a b : ℕ} (hb : b ≤ a) (ha : a ≤ noSector) : sub32 a b = a - b := by
  rw [noSector] at ha
  rw [sub32, UInt32.toNat_sub, UInt32.toNat_ofNat', UInt32.toNat_ofNat']
  omega

/-- **Sectors read directly**, one of them from the buffer if it is dirty. -/
theorem readSectors_view (hg : g.VolumeSound) (hs : FileView g ρ others V T last free l s) {k n : ℕ}
    (hk : ∀ j < n, g.SpareSector others (k + j)) (hn : 0 < n) :
    Triple (fun t ↦ t = s) (readSectors k n) fun r t ↦
      FileView g ρ others V T last free l t ∧ t = { s with fs := t.fs } ∧
      (r = .ok ((List.range (512 * n)).map fun i ↦ V (k * 512 + i)) ∨
        r = .error .diskErr ∧ ¬ ρ) := by
  have hlast := (hk (n - 1) (by omega)).lt hg
  have hread : Triple (fun t ↦ t = s) (onDisk (diskReadSectors k)) fun r t ↦
      FileView g ρ others V T last free l t ∧ t = { s with fs := t.fs } ∧
      (r = some (blockAt 512 s.fs.window.disk.bytes k) ∨ r = none ∧ ¬ ρ) := by
    rintro s rfl
    obtain ⟨D, ⟨⟨m₀, ⟨⟨m, hshows, hfat⟩, hl, hf⟩, hD⟩, hwindow⟩, hV⟩ := hs.data
    have hshows' : Shows g ρ m { s.fs.window with disk := s.fs.window.disk.next } :=
      ⟨hshows.disk_congr fun _ _ ↦ rfl, fun hρ n ↦ hshows.reliable hρ (n + 1), hshows.mirrored⟩
    have hnext : FileView g ρ others V T last free l
        { s with fs.window.disk := s.fs.window.disk.next } :=
      hs.of_cached rfl ⟨⟨D, ⟨⟨m₀, ⟨⟨m, hshows', hfat⟩, hl, hf⟩, hD⟩, hwindow⟩, hV⟩, hs.rest, hs.sect,
        hs.dirty⟩ hs.buf
    cases hfault : s.fs.window.disk.faults 0 with
    | none =>
      have hrun : onDisk (diskReadSectors k) s = (some (blockAt 512 s.fs.window.disk.bytes k),
          { s with fs.window.disk := s.fs.window.disk.next }) := by
        simp [onDisk, onFs, StatePart.zoom, FatFile.fsPart, FatFs.windowPart, diskReadSectors, hfault]
      rw [hrun]
      exact ⟨hnext, rfl, .inl rfl⟩
    | some junk =>
      have hρ : ¬ ρ := fun hρ ↦ absurd (hfault.symm.trans (hshows.reliable hρ 0)) (by simp)
      have hrun : onDisk (diskReadSectors k) s = (none,
          { s with fs.window.disk := s.fs.window.disk.next }) := by
        simp [onDisk, onFs, StatePart.zoom, FatFile.fsPart, FatFs.windowPart, diskReadSectors, hfault]
      rw [hrun]
      exact ⟨hnext, rfl, .inr ⟨rfl, hρ⟩⟩
  refine .bind hread fun r ↦ ?_
  rintro t ⟨ht, htc, rfl | ⟨rfl, hρ⟩⟩
  · refine ⟨ht, htc, .inl (congrArg Except.ok (List.map_congr_left fun i hi ↦ ?_))⟩
    have hi := List.mem_range.1 hi
    have hdirty : t.dirty = s.dirty := by rw [htc]
    have hsect : t.sect = s.sect := by rw [htc]
    have hbuf : t.buf = s.buf := by rw [htc]
    rw [hdirty, hsect, hbuf]
    have hspare : g.SpareSector others ((k * 512 + i) / 512) := by
      have hdiv : (k * 512 + i) / 512 = k + i / 512 := by omega
      exact hdiv ▸ hk (i / 512) (by omega)
    have hin : sub32 s.sect k < n ↔ k ≤ s.sect ∧ s.sect < k + n :=
      sub32_lt_iff (hs.sect_le hg) (by omega)
    by_cases hcached : s.dirty = true ∧ (k * 512 + i) / 512 = s.sect
    · -- The sector is the one in the buffer.
      have hsub : sub32 s.sect k = s.sect - k := sub32_eq (by omega) (hs.sect_le hg)
      have haddr : s.sect * 512 + i % 512 = k * 512 + i := by omega
      rw [if_pos ⟨hcached.1, hin.2 (by omega)⟩, hsub, overlay_of_eq _ _ (by omega),
        hs.buf (hs.dirty hcached.1) _ (Nat.mod_lt _ (by decide)), haddr]
    · have hdisk : blockAt 512 s.fs.window.disk.bytes k i = V (k * 512 + i) :=
        hs.disk_eq hg hspare fun hd he ↦ hcached ⟨hd, he⟩
      split
      · rename_i hc
        have hmem := hin.1 hc.2
        have hsub : sub32 s.sect k = s.sect - k := sub32_eq hmem.1 (hs.sect_le hg)
        rw [hsub, overlay_of_ne, hdisk]
        intro he
        exact hcached ⟨hc.1, by omega⟩
      · exact hdisk
  · exact ⟨ht, htc, .inr ⟨rfl, hρ⟩⟩

/-- What a round of `f_read` has done. -/
structure ReadRound (g : FatGeometry) (ρ : Prop) (others : List (List ℕ)) (V : Memory) (T : ℕ → ℕ)
    (last free : ℕ) (l : List ℕ) (s : FatFile) (btr : ℕ) (data : List UInt8) (t : FatFile) :
    Prop where
  view : FileView g ρ others V T last free l t
  cached : Cached s t
  pos : 0 < data.length
  le : data.length ≤ btr
  bytes : data = g.fileBytes V l s.fptr data.length
  placed : Placed g l (s.fptr + data.length) t

/-- **What is read from the buffer** when the sector is in it. -/
theorem readBuffered_view (hg : g.VolumeSound) (ht : FileView g ρ others V T last free l t)
    (hc : Cached s t) (hclust : l[s.fptr / g.bcs]? = some t.clust)
    (hsect : t.sect = g.sectorOf l (s.fptr / 512)) {btr : ℕ} (hbtr : 0 < btr) :
    Triple (fun u ↦ u = t) (readBuffered btr) fun r u ↦
      ∃ data, r = .ok data ∧ ReadRound g ρ others V T last free l s btr data u := by
  refine triple_get_bind ?_
  rintro t rfl
  refine .pure ?_
  rintro t rfl
  have hptr : t.fptr = s.fptr := by rw [hc]
  rw [hptr]
  generalize hn : (if btr < 512 - s.fptr % 512 then btr else 512 - s.fptr % 512) = n
  have hn' : 0 < n ∧ n ≤ btr ∧ s.fptr % 512 + n ≤ 512 := by
    split at hn <;> omega
  obtain ⟨hpos, hle, hfits⟩ := hn'
  have hcluster : s.fptr % g.bcs + n ≤ g.bcs := by
    have hmod := Nat.mod_lt (s.fptr / 512) (g.csize_pos hg)
    rw [g.mod_bcs, FatGeometry.bcs]
    omega
  have hspare : g.SpareSector others t.sect := by
    rw [← g.div_bcs] at hclust
    exact hsect ▸ (ht.sector hg hclust).2.2
  have hdata : (List.range n).map (fun i ↦ t.buf (s.fptr % 512 + i)) =
      g.fileBytes V l s.fptr n := by
    rw [← g.fileBytes_cluster V hcluster]
    refine List.map_congr_left fun i hi ↦ ?_
    have hi := List.mem_range.1 hi
    rw [ht.buf (hspare.tracked hg).2.2 _ (by omega), hsect, FatGeometry.addrOf, Nat.add_assoc]
  have hlen : (g.fileBytes V l s.fptr n).length = n := g.length_fileBytes V _ _
  refine ⟨_, rfl, ?_⟩
  rw [hdata]
  refine ⟨ht, hc, by omega, by omega, by rw [hlen], ?_⟩
  rw [hlen]
  constructor
  · intro _
    rw [last_div hpos hcluster]
    exact hclust
  · intro hmod
    rw [hsect]
    congr 1
    omega

/-- How a round of `f_read` ends. -/
def ReadEnds (g : FatGeometry) (ρ : Prop) (others : List (List ℕ)) (V : Memory) (T : ℕ → ℕ)
    (last free : ℕ) (l : List ℕ) (s : FatFile) (btr : ℕ) (r : Except FResult (List UInt8))
    (t : FatFile) : Prop :=
  (∃ data, r = .ok data ∧ ReadRound g ρ others V T last free l s btr data t) ∨
    r = .error .diskErr ∧ ¬ ρ ∧ FileShows g ρ others V T last free t ∧ Cached s t

/-- The number of sectors transferred at once stays in the cluster. -/
theorem clipCluster_spec {csect cc : ℕ} (hcsect : csect < g.csize) (hcc : 0 < cc) :
    0 < clipCluster g csect cc ∧ csect + clipCluster g csect cc ≤ g.csize ∧
      clipCluster g csect cc ≤ cc := by
  rw [clipCluster]
  split <;> omega

/-- The sectors of a file from one to the end of the cluster. -/
theorem FileChain.spare_add (hg : g.VolumeSound) (h : FileChain g ρ others T free l) {n m j : ℕ}
    (hn : n / g.csize < l.length) (hm : n % g.csize + m ≤ g.csize) (hj : j < m) :
    g.SpareSector others (g.sectorOf l n + j) := by
  have hdiv : (n + j) / g.csize = n / g.csize := by
    have := last_div (b := g.csize) (p := n) (n := j + 1) (Nat.succ_pos j) (by omega)
    simpa using this
  rw [← g.sectorOf_add (by omega)]
  exact h.spare hg (hdiv ▸ hn)

/-- At a sector boundary `f_read` reads whole sectors straight into the caller's memory, or one into
the buffer. -/
theorem readAligned_view (hg : g.VolumeSound) (ht : FileView g ρ others V T last free l t)
    (hc : Cached s t) (hclust : l[s.fptr / g.bcs]? = some t.clust) (hsector : s.fptr % 512 = 0)
    {btr : ℕ} (hbtr : 0 < btr) :
    Triple (fun u ↦ u = t) (readAligned g btr (s.fptr / 512 % g.csize))
      (ReadEnds g ρ others V T last free l s btr) := by
  rw [← g.div_bcs] at hclust
  obtain ⟨hne, hadd, hspare⟩ := ht.sector hg hclust
  have hcsect := Nat.mod_lt (s.fptr / 512) (g.csize_pos hg)
  have hmod := g.mod_bcs s.fptr
  refine triple_get_bind ?_
  rintro t rfl
  refine .ite (fun h0 ↦ absurd h0 hne) fun _ ↦ ?_
  rw [hadd]
  refine .ite (fun hcc ↦ ?_) fun hcc ↦ ?_
  · obtain ⟨hpos, hfits, hle⟩ := clipCluster_spec hcsect hcc
    obtain ⟨hidx, -⟩ := List.getElem?_eq_some_iff.1 hclust
    refine (readSectors_view hg ht (fun j hj ↦ ht.chain.spare_add hg hidx hfits hj) hpos).weaken
      (fun _ h ↦ h) ?_
    generalize clipCluster g (s.fptr / 512 % g.csize) (btr / 512) = n at hpos hfits hle
    rintro r u ⟨hu, huc, hr⟩
    have hcached : Cached s u := hc.trans (by rw [Cached, huc])
    rcases hr with rfl | ⟨rfl, hρ⟩
    · have hcluster : s.fptr % g.bcs + 512 * n ≤ g.bcs := by
        rw [hmod, FatGeometry.bcs]
        omega
      have haddr : g.sectorOf l (s.fptr / 512) * 512 = g.addrOf l s.fptr := by
        rw [FatGeometry.addrOf, hsector, Nat.add_zero]
      have hlen : (g.fileBytes V l s.fptr (512 * n)).length = 512 * n := g.length_fileBytes V _ _
      refine .inl ⟨_, rfl, ?_⟩
      rw [haddr, g.fileBytes_cluster V hcluster]
      refine ⟨hu, hcached, by omega, by omega, by rw [hlen], ?_⟩
      rw [hlen]
      constructor
      · intro _
        rw [last_div (by omega) hcluster, huc, ← g.div_bcs]
        exact hclust
      · intro h
        omega
    · exact .inr ⟨rfl, hρ, hu.toFileShows, hcached⟩
  · refine .bind (loadSector_view hg ht hspare) fun res ↦ .ite (fun hres ↦ ?_) fun hres ↦ .pure ?_
    · rintro u ⟨huc, hclust', hu⟩
      obtain ⟨-, hview, hsect⟩ := hu.resolve_right fun h ↦ FResult.noConfusion (hres.symm.trans h.1)
      refine .inl (readBuffered_view hg hview (hc.trans huc) ?_ hsect hbtr u rfl)
      rw [hclust', ← g.div_bcs]
      exact hclust
    · rintro u ⟨huc, -, hu⟩
      obtain ⟨rfl, hρ, hshows⟩ := hu.resolve_left fun h ↦ hres h.1
      exact .inr ⟨rfl, hρ, hshows, hc.trans huc⟩

/-- **A round of `f_read`.** -/
theorem readRound_view (hg : g.VolumeSound) (hs : FileView g ρ others V T last free l s)
    (hp : Placed g l s.fptr s) {btr : ℕ} (hbtr : 0 < btr) (hle : s.fptr + btr ≤ s.objsize) :
    Triple (fun t ↦ t = s) (readRound g btr) (ReadEnds g ρ others V T last free l s btr) := by
  have hsize := hs.size_le
  refine triple_get_bind ?_
  rintro s rfl
  refine .ite (fun hsector ↦ ?_) fun hsector ↦ ?_
  · rw [g.csect_eq hg]
    refine .bind (enterRead_view hg hs hp (by omega) hsector) fun res ↦ .ite (fun hres ↦ ?_)
      fun hres ↦ .pure ?_
    · rintro t ⟨ht, htc, hr⟩
      obtain ⟨-, hclust⟩ := hr.resolve_right fun h ↦ FResult.noConfusion (hres.symm.trans h.1)
      exact readAligned_view hg ht (by rw [Cached, htc]) hclust hsector hbtr t rfl
    · rintro t ⟨ht, htc, hr⟩
      obtain ⟨rfl, hρ⟩ := hr.resolve_left fun h ↦ hres h.1
      exact .inr ⟨rfl, hρ, ht.toFileShows, by rw [Cached, htc]⟩
  · have hpos : 0 < s.fptr := Nat.pos_of_ne_zero fun h0 ↦ hsector (by rw [h0])
    have hne : s.fptr % g.bcs ≠ 0 := by
      rw [g.mod_bcs]
      omega
    have hclust : l[s.fptr / g.bcs]? = some s.clust := by
      rw [← pred_div_of_mod_ne (g.bcs_pos hg) hne]
      exact hp.clust hpos
    exact (readBuffered_view hg hs (.refl s) hclust (hp.sect hsector) hbtr).weaken (fun _ h ↦ h)
      fun _ _ h ↦ .inl h

/-! ### The function -/

/-- An error that stays in the object. -/
theorem FileShows.aborted (h : FileShows g ρ others V T last free s) (res : FResult) :
    FileShows g ρ others V T last free { s with err := res } :=
  ⟨h.data, h.rest, h.sect, h.dirty⟩

/-- What has changed in the object when a call has read `n` bytes. -/
def Advanced (s t : FatFile) (n : ℕ) : Prop :=
  Cached { s with fptr := s.fptr + n } t

/-- **The loop of `f_read`** returns the bytes from the file pointer on. -/
theorem readLoop_view (hg : g.VolumeSound) (fuel : ℕ) {btr : ℕ} (hfuel : btr ≤ fuel)
    (hs : FileView g ρ others V T last free l s) (hp : Placed g l s.fptr s)
    (hle : s.fptr + btr ≤ s.objsize) (out : List UInt8) :
    Triple (fun t ↦ t = s) (readLoop g fuel btr out) fun r t ↦
      r = some (.ok, out ++ g.fileBytes V l s.fptr btr) ∧
        FileView g ρ others V T last free l t ∧ Placed g l t.fptr t ∧ Advanced s t btr ∨
      ∃ n ≤ btr, r = some (.diskErr, out ++ g.fileBytes V l s.fptr n) ∧ ¬ ρ ∧
        FileShows g ρ others V T last free t ∧ Advanced { s with err := .diskErr } t n := by
  induction fuel generalizing btr s out with
  | zero =>
    obtain rfl : btr = 0 := Nat.le_zero.1 hfuel
    refine .pure ?_
    rintro s rfl
    refine .inl ⟨?_, hs, hp, .refl s⟩
    simp [FatGeometry.fileBytes]
  | succ fuel ih =>
    refine .ite (fun h0 ↦ .pure ?_) fun h0 ↦ ?_
    · rintro s rfl
      subst h0
      refine .inl ⟨?_, hs, hp, .refl s⟩
      simp [FatGeometry.fileBytes]
    refine .bind (readRound_view hg hs hp (Nat.pos_of_ne_zero h0) hle) fun r ↦ ?_
    rintro t (⟨data, rfl, hround⟩ | ⟨rfl, hρ, ht, htc⟩)
    · have hcached := hround.cached
      have hptr : t.fptr = s.fptr := by rw [hcached]
      have hsize : t.objsize = s.objsize := by rw [hcached]
      have hpos := hround.pos
      have hlen := hround.le
      -- The object after the round, with the file pointer advanced.
      have hview : FileView g ρ others V T last free l { t with fptr := t.fptr + data.length } := by
        obtain ⟨⟨hdata, hrest, hsect, hdirty⟩, ⟨hchain, hsclust, hsz, hsz', herr⟩, hbuf⟩ :=
          hround.view
        exact ⟨⟨hdata, hrest, hsect, hdirty⟩, ⟨hchain, hsclust, hsz, hsz', herr⟩, hbuf⟩
      have hplaced : Placed g l (t.fptr + data.length) { t with fptr := t.fptr + data.length } := by
        rw [hptr]
        exact ⟨hround.placed.clust, hround.placed.sect⟩
      have hadv : ∀ u n, Advanced { t with fptr := t.fptr + data.length } u n →
          Advanced s u (data.length + n) := fun u n h ↦ by
        rw [Advanced, Cached] at h ⊢
        rw [h, hcached, ← Nat.add_assoc]
      have hadv' : ∀ u n, Advanced { t with fptr := t.fptr + data.length, err := .diskErr } u n →
          Advanced { s with err := .diskErr } u (data.length + n) := fun u n h ↦ by
        rw [Advanced, Cached] at h ⊢
        rw [h, hcached, ← Nat.add_assoc]
      have hfuel' : btr - data.length ≤ fuel := by omega
      have hrest := ih hfuel' hview hplaced
        (by show t.fptr + data.length + (btr - data.length) ≤ t.objsize; omega) (out ++ data) _ rfl
      have hbytes : ∀ n, out ++ data ++ g.fileBytes V l (t.fptr + data.length) n =
          out ++ g.fileBytes V l s.fptr (data.length + n) := fun n ↦ by
        rw [g.fileBytes_add, ← hround.bytes, hptr, List.append_assoc]
      simp only [hbytes] at hrest
      have hsplit : data.length + (btr - data.length) = btr := by omega
      rcases hrest with ⟨hr, hu, hplaced', hadvanced⟩ | ⟨n, hn, hr, hρ, hu, hadvanced⟩
      · have hadvanced := hadv _ _ hadvanced
        rw [hsplit] at hr hadvanced
        exact .inl ⟨hr, hu, hplaced', hadvanced⟩
      · exact .inr ⟨data.length + n, by omega, hr, hρ, hu, hadv' _ _ hadvanced⟩
    · refine .inr ⟨0, Nat.zero_le _, ?_, hρ, ht.aborted _, ?_⟩
      · simp [FatGeometry.fileBytes, run_bind, run_pure]
      · show Cached _ { t with err := .diskErr }
        rw [Cached] at htc ⊢
        rw [htc]
        rfl

/-- What `f_read` comes down to when the file may be read. -/
theorem fRead_eq {check : FResult} (hcheck : check = .ok) (herr : s.err = .ok)
    (hread : s.canRead = true) (hle : s.fptr ≤ s.objsize) (hlt : s.objsize < 0x100000000) (btr : ℕ) :
    fRead g check btr s =
      readLoop g (min (s.objsize - s.fptr) btr) (min (s.objsize - s.fptr) btr) [] s := by
  have hremain : sub32 s.objsize s.fptr = s.objsize - s.fptr := sub32_eq hle (by
    rw [noSector]
    omega)
  have hmin : (if s.objsize - s.fptr < btr then s.objsize - s.fptr else btr) =
      min (s.objsize - s.fptr) btr := by
    split <;> omega
  simp only [fRead, run_bind, run_get, hcheck, herr, hread, hremain, hmin, ne_eq,
    not_true_eq_false, if_false, Bool.not_true, Bool.false_eq_true]

/-- **`f_read`** returns the bytes of the file from the file pointer on. -/
theorem fRead_view (hg : g.VolumeSound) (hs : FileView g ρ others V T last free l s)
    (hp : Placed g l s.fptr s) (hle : s.fptr ≤ s.objsize) {check : FResult} (hcheck : check = .ok)
    (hread : s.canRead = true) (btr : ℕ) :
    Triple (fun t ↦ t = s) (fRead g check btr) fun r t ↦
      r = some (.ok, g.fileBytes V l s.fptr (min (s.objsize - s.fptr) btr)) ∧
        FileView g ρ others V T last free l t ∧ Placed g l t.fptr t ∧
        Advanced s t (min (s.objsize - s.fptr) btr) ∨
      ∃ n ≤ min (s.objsize - s.fptr) btr, r = some (.diskErr, g.fileBytes V l s.fptr n) ∧ ¬ ρ ∧
        FileShows g ρ others V T last free t ∧ Advanced { s with err := .diskErr } t n := by
  rintro s rfl
  rw [fRead_eq hcheck hs.err hread hle hs.size_lt]
  exact readLoop_view hg _ (Nat.le_refl _) hs hp (by omega) [] s rfl
