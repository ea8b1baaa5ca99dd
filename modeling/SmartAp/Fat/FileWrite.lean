import SmartAp.Fat.FileRead

/-!
# Writing a file

`f_write` replaces the bytes of the file from the file pointer on, and extends it. The clusters that
it needs are taken as it comes to them; when there is none left, the bytes before are written and
the call returns `FR_OK` with their number.

## A round

A round is that of `f_read` with the directions exchanged: enter the sector (`enterWrite_view`),
whole sectors straight from the caller (`writeAligned_view`), the rest into the buffer
(`fillSector_view`). A sector that is in the buffer while whole sectors are written gets its bytes
there as well, and is clean afterwards. A sector behind the end of the file is not loaded before it
is filled, so that the rest of the buffer is what it was before.

## What is written, and where

`Stored` says that `V'` is `V` with the bytes of the call at their place in the file, and `Written`
that the object has moved behind them and has grown to that size. **What is not a byte of the file
stays as it was**, in the other chains of the volume above all (`writeLoop_view`): the addresses
that change are those of `addrOf`, and a new cluster is one that was free.

`GivenUp` is the other end: an error of the disk, after which nothing is said of the bytes of the
file, and as much as before of all others.
-/

variable {g : FatGeometry} {ρ : Prop} {others : List (List ℕ)} {V V' D : Memory} {T T' : ℕ → ℕ}
  {last free last' free' : ℕ} {l l' : List ℕ} {s t : FatFile}

/-- The objects differ in what is cached, and in the first cluster. -/
def Grown (s t : FatFile) : Prop :=
  Cached { s with sclust := t.sclust } t

theorem Grown.refl (s : FatFile) : Grown s s := rfl

/-- What only fills the buffer and adds clusters may be done twice. -/
theorem Grown.trans {u : FatFile} (h : Grown s t) (h' : Grown t u) : Grown s u := by
  rw [Grown, Cached] at h h' ⊢
  rw [h', h]

/-- The file pointer has not moved. -/
theorem Grown.fptr (h : Grown s t) : t.fptr = s.fptr := by rw [h]

/-- The file has its size. -/
theorem Grown.objsize (h : Grown s t) : t.objsize = s.objsize := by rw [h]

/-- The position of the object is in the cluster of its field. -/
theorem Placed.precedes (hg : g.VolumeSound) (hp : Placed g l s.fptr s) (h0 : 0 < s.fptr)
    (hmod : s.fptr % g.bcs = 0) :
    Precedes l (s.fptr / g.bcs) s.clust := by
  have hclust := hp.clust h0
  exact .inr ⟨_, (pred_div_of_mod_eq (g.bcs_pos hg) hmod h0).symm, hclust⟩

/-! ### The clusters -/

/-- `create_chain` on an open file. -/
theorem createChain_view (hg : g.VolumeSound) (hs : FileView g ρ others V T last free l s)
    {i clst : ℕ} (hi : Precedes l i clst) :
    Triple (fun t ↦ t = s) (onFs (createChain g clst)) fun r t ↦ t = { s with fs := t.fs } ∧
      ∃ v T' last' free', r = some v ∧ Stretched g ρ others T free l i v T' free' ∧
        FileShows g ρ others V T' last' free' t := by
  rintro s rfl
  obtain ⟨D, hdata, hV⟩ := hs.data
  obtain ⟨v, T', last', free', hr, hcreated, hdata'⟩ := createChain_data hg clst s.fs hdata
  have hstretched := hcreated.stretched hg.toChainSound hs.chain hi
  refine ⟨rfl, v, T', last', free', hr, hstretched, ⟨D, hdata', hV⟩, ?_, hs.sect, hs.dirty⟩
  cases hstretched with
  | follows _ => exact hs.rest
  | grown _ _ h => exact h.linked.tail
  | full _ _ => exact hs.rest
  | lost _ _ h => exact h

/-- The clusters of a chain are none of the values that mean something else. -/
theorem FileChain.sound (hg : g.VolumeSound) (h : FileChain g ρ others T free l) {c : ℕ}
    (hc : c ∈ l) : c ≠ 0 ∧ c ≠ 1 ∧ c ≠ fatDiskError := by
  have hvalid := h.valid c hc
  have h2 := hvalid.1
  exact ⟨by omega, by omega, fun h ↦ not_valid_fatDiskError hg.toChainSound (h ▸ hvalid)⟩

/-- How a cluster for the file pointer is entered. -/
inductive WriteEnters (g : FatGeometry) (ρ : Prop) (others : List (List ℕ)) (V : Memory)
    (T : ℕ → ℕ) (l : List ℕ) (s : FatFile) : Except Halt PUnit → FatFile → Prop
  | entered {T' : ℕ → ℕ} {last' free' : ℕ} {l' : List ℕ} {t : FatFile} (hl : l <+: l')
    (ht : FileView g ρ others V T' last' free' l' t)
    (hc : t = { s with fs := t.fs, clust := t.clust, sclust := t.sclust })
    (hclust : l'[s.fptr / g.bcs]? = some t.clust) : WriteEnters g ρ others V T l s (.ok ⟨⟩) t
  | full {last' free' : ℕ} {t : FatFile} (ht : FileView g ρ others V T last' free' l t)
    (hc : t = { s with fs := t.fs }) (hend : s.fptr = l.length * g.bcs)
    (hfull : ρ → freeClusters g T = ∅) : WriteEnters g ρ others V T l s (.error .full) t
  | lost {T' : ℕ → ℕ} {last' free' : ℕ} {res : FResult} {t : FatFile} (hres : res ≠ .ok)
    (hρ : ¬ ρ) (ht : FileShows g ρ others V T' last' free' t) (hc : t = { s with fs := t.fs }) :
    WriteEnters g ρ others V T l s (.error (.abort res)) t

/-- A cluster that was found or added becomes the current one, and the first one of an empty
file. -/
theorem enterCluster_run {v : ℕ} (h0 : v ≠ 0) (h1 : v ≠ 1) (he : v ≠ fatDiskError) :
    enterCluster v t =
      (.ok ⟨⟩, { t with clust := v, sclust := if t.sclust = 0 then v else t.sclust }) := by
  simp [enterCluster, h0, h1, he, run_map, run_modify]

/-- "Follow or stretch cluster chain": the next cluster of the chain, or a new one. -/
theorem stretchChain_view (hg : g.VolumeSound) (hs : FileView g ρ others V T last free l s)
    (hp : Placed g l s.fptr s) (hzero : s.fptr % g.bcs = 0) :
    Triple (fun t ↦ t = s) (stretchChain g) fun r t ↦ t = { s with fs := t.fs } ∧
      ∃ v T' last' free', r = some v ∧
        Stretched g ρ others T free l (s.fptr / g.bcs) v T' free' ∧
          FileShows g ρ others V T' last' free' t := by
  refine triple_get_bind ?_
  rintro s rfl
  refine .ite (fun h0 ↦ .ite (fun hs0 ↦ createChain_view hg hs ?_) fun hs0 ↦ .pure ?_)
    fun h0 ↦ createChain_view hg hs (hp.precedes hg (Nat.pos_of_ne_zero h0) hzero)
  · rw [h0, Nat.zero_div]
    refine .inl ⟨rfl, ?_, rfl⟩
    cases l with
    | nil => rfl
    | cons c l => exact absurd (hs.sclust.symm.trans hs0) (hs.chain.sound hg List.mem_cons_self).1
  · rintro s rfl
    refine ⟨rfl, s.sclust, T, last, free, rfl, .follows ?_, hs.toFileShows⟩
    rw [h0, Nat.zero_div]
    cases l with
    | nil => exact absurd hs.sclust hs0
    | cons c l => exact congrArg some hs.sclust.symm

/-- The cluster that was followed to or created is entered. -/
theorem Stretched.enters (hg : g.VolumeSound) (hs : FileView g ρ others V T last free l s)
    (hzero : s.fptr % g.bcs = 0) (htc : t = { s with fs := t.fs }) {v : ℕ}
    (h : Stretched g ρ others T free l (s.fptr / g.bcs) v T' free')
    (ht : FileShows g ρ others V T' last' free' t) :
    WriteEnters g ρ others V T l s (enterCluster v t).1 (enterCluster v t).2 := by
  have hsclust : t.sclust = l.headD 0 := by rw [htc]; exact hs.sclust
  have hbuf : t.sect ≠ 0 → ∀ i < 512, t.buf i = V (t.sect * 512 + i) := by
    rw [htc]
    exact hs.buf
  cases h with
  | follows hv =>
    obtain ⟨h0, h1, he⟩ := hs.chain.sound hg (List.mem_of_getElem? hv)
    have hne : t.sclust ≠ 0 := by
      obtain ⟨c, l, rfl⟩ :=
        List.exists_cons_of_ne_nil (List.ne_nil_of_mem (List.mem_of_getElem? hv))
      rw [hsclust]
      exact (hs.chain.sound hg List.mem_cons_self).1
    rw [enterCluster_run h0 h1 he, if_neg hne]
    have hview : FileView g ρ others V T last' free l { t with clust := v } := by
      refine ⟨⟨ht.data, ht.rest, ht.sect, ht.dirty⟩, ?_, hbuf⟩
      rw [htc]
      exact ⟨hs.chain, hs.sclust, hs.size_le, hs.size_lt, hs.err⟩
    exact .entered (List.prefix_refl l) hview (by rw [htc]) hv
  | grown hi hv hchain =>
    obtain ⟨h0, h1, he⟩ := hchain.sound hg (c := v) (by simp)
    rw [enterCluster_run h0 h1 he]
    refine .entered (List.prefix_append l [v])
      ⟨⟨ht.data, ht.rest, ht.sect, ht.dirty⟩, ?_, hbuf⟩ ?_ ?_
    · have hlen : s.objsize ≤ (l ++ [v]).length * g.bcs := by
        have := hs.size_le
        rw [List.length_append, Nat.add_mul]
        omega
      have hhead : (if t.sclust = 0 then v else t.sclust) = (l ++ [v]).headD 0 := by
        rw [hsclust]
        cases l with
        | nil => rfl
        | cons c l => exact if_neg (hs.chain.sound hg List.mem_cons_self).1
      rw [htc] at hhead ⊢
      exact ⟨hchain, hhead, hlen, hs.size_lt, hs.err⟩
    · rw [htc]
    · rw [hi]
      exact List.getElem?_concat_length
  | full hi hfull =>
    have hptr : s.fptr = s.fptr / g.bcs * g.bcs :=
      (Nat.div_mul_cancel (Nat.dvd_of_mod_eq_zero hzero)).symm
    refine .full ⟨ht, ?_, hbuf⟩ htc (by rw [← hi]; exact hptr) hfull
    rw [htc]
    exact ⟨hs.chain, hs.sclust, hs.size_le, hs.size_lt, hs.err⟩
  | lost hv hρ _ =>
    rcases hv with rfl | rfl
    · exact .lost FResult.noConfusion hρ ht htc
    · exact .lost FResult.noConfusion hρ ht htc

/-- At a sector boundary `f_write` enters the sector of the pointer, with a new cluster where the
chain ends. -/
theorem enterWrite_view (hg : g.VolumeSound) (hs : FileView g ρ others V T last free l s)
    (hp : Placed g l s.fptr s) (hsector : s.fptr % 512 = 0) (hle : s.fptr ≤ l.length * g.bcs) :
    Triple (fun t ↦ t = s) (enterWrite g (s.fptr / 512 % g.csize))
      (WriteEnters g ρ others V T l s) := by
  have hmod := g.mod_bcs s.fptr
  refine .ite (fun hcsect ↦ ?_) fun hcsect ↦ .pure ?_
  · have hzero : s.fptr % g.bcs = 0 := by omega
    refine .bind (stretchChain_view hg hs hp hzero) fun r ↦ ?_
    rintro t ⟨htc, v, T', last', free', rfl, hstretched, ht⟩
    exact hstretched.enters hg hs hzero htc ht
  · rintro s rfl
    have hne : s.fptr % g.bcs ≠ 0 := by omega
    have h0 : 0 < s.fptr := Nat.pos_of_ne_zero fun h0 ↦ hne (by rw [h0, Nat.zero_mod])
    have hclust := hp.clust h0
    rw [pred_div_of_mod_ne (g.bcs_pos hg) hne] at hclust
    exact .entered (List.prefix_refl l) hs rfl hclust

/-! ### The transfers -/

/-- **Sectors written directly**; the buffer is refilled if it is one of them. -/
theorem writeSectors_view (hg : g.VolumeSound) (ht : FileView g ρ others V T last free l t)
    (hd : t.dirty = false) {k n : ℕ} (hk : ∀ j < n, g.SpareSector others (k + j)) (hn : 0 < n)
    (data : List UInt8) :
    Triple (fun u ↦ u = t) (writeSectors data k n) fun r u ↦
      u = { t with fs := u.fs, buf := u.buf, dirty := u.dirty } ∧
      (r = .ok (512 * n) ∧ FileView g ρ others (overlayBlocks 512 V k n fun i ↦ data.getD i 0) T
          last free l u ∨
        r = .error (.abort .diskErr) ∧ ¬ ρ ∧ ∃ junk,
          FileShows g ρ others (overlayBlocks 512 V k n junk) T last free u) := by
  have hlast := (hk (n - 1) (by omega)).lt hg
  have hsectors : ∀ j, k ≤ j → j < k + n → g.SpareSector others j := fun j h₁ h₂ ↦ by
    obtain ⟨i, rfl⟩ := Nat.exists_eq_add_of_le h₁
    exact hk i (by omega)
  have hclean := ht.clean hd
  generalize hw : (fun i ↦ data.getD i 0 : Memory) = w
  have hwrite : Triple (fun u ↦ u = t) (onDisk (diskWriteSectors k n w)) fun ok u ↦
      u = { t with fs := u.fs } ∧
        (ok = true ∧ DataShows g ρ others (overlayBlocks 512 V k n w) T last free u.fs ∨
        ok = false ∧ ¬ ρ ∧ ∃ junk,
          DataShows g ρ others (overlayBlocks 512 V k n junk) T last free u.fs) := by
    rintro t rfl
    exact ⟨rfl, diskWriteSectors_data hg hsectors w t.fs hclean⟩
  rw [writeSectors, hw]
  refine .bind hwrite fun ok ↦ .ite (fun hok ↦ triple_modify_bind (.pure ?_)) fun hok ↦ .pure ?_
  · rintro _ ⟨u, ⟨huc, hu⟩, rfl⟩
    obtain ⟨-, hdata⟩ := hu.resolve_right fun h ↦ absurd (hok.symm.trans h.1) (by decide)
    have hsect : u.sect = t.sect := by rw [huc]
    have hud : u.dirty = false := by rw [huc]; exact hd
    have hin : sub32 t.sect k < n ↔ k ≤ t.sect ∧ t.sect < k + n :=
      sub32_lt_iff (ht.sect_le hg) (by omega)
    have hdesc : Describes g ρ others T free l u := by
      rw [huc]
      exact ⟨ht.chain, ht.sclust, ht.size_le, ht.size_lt, ht.err⟩
    have hview : ∀ buf, (t.sect ≠ 0 → ∀ i < 512,
          buf i = overlayBlocks 512 V k n w (t.sect * 512 + i)) →
        FileView g ρ others (overlayBlocks 512 V k n w) T last free l
          { u with buf := buf, dirty := false } := fun buf hbuf ↦ by
      refine ⟨⟨⟨_, hdata, (FatFile.viewOf_clean (by rfl) _).symm⟩, ht.rest, ?_, fun h ↦
        Bool.noConfusion h⟩, ?_, ?_⟩
      · exact hsect ▸ ht.sect
      · exact ⟨hdesc.chain, hdesc.sclust, hdesc.size_le, hdesc.size_lt, hdesc.err⟩
      · intro h i hi
        have h := hbuf (by rw [← hsect]; exact h) i hi
        rw [← hsect] at h
        exact h
    by_cases hmem : sub32 t.sect k < n
    · obtain ⟨h₁, h₂⟩ := hin.1 hmem
      have hsub : sub32 t.sect k = t.sect - k := sub32_eq h₁ (ht.sect_le hg)
      rw [if_pos (by rw [hsect]; exact hmem)]
      refine ⟨by rw [huc], .inl ⟨rfl, hview _ fun _ i hi ↦ ?_⟩⟩
      rw [overlayBlocks_of_mem _ _ ⟨by omega, by omega⟩, ← hw, hsect, hsub]
      congr 1
      omega
    · rw [if_neg (by rw [hsect]; exact hmem)]
      refine ⟨by rw [huc], .inl ⟨rfl, ?_⟩⟩
      have h := hview u.buf fun h0 i hi ↦ ?_
      · rwa [← hud] at h
      · have hout : ¬ (k ≤ (t.sect * 512 + i) / 512 ∧ (t.sect * 512 + i) / 512 < k + n) := by
          rw [mul_add_div_of_lt _ hi, ← hin]
          exact hmem
        rw [overlayBlocks_of_notMem _ _ hout, huc]
        exact ht.buf h0 i hi
  · rintro u ⟨huc, hu⟩
    obtain ⟨-, hρ, junk, hdata⟩ := hu.resolve_left fun h ↦ hok h.1
    have hud : u.dirty = false := by rw [huc]; exact hd
    refine ⟨by rw [huc], .inr ⟨rfl, hρ, junk, ⟨_, hdata, (FatFile.viewOf_clean hud _).symm⟩, ht.rest,
      ?_, fun h ↦ absurd (hud.symm.trans h) (by decide)⟩⟩
    rw [huc]
    exact ht.sect

/-- **Bytes put into the buffer.** -/
theorem writeBuffered_view (ht : FileShows g ρ others V T last free t)
    (hdesc : Describes g ρ others T free l t) (h0 : t.sect ≠ 0) {data : List UInt8} {n : ℕ}
    (hn : n = if data.length < 512 - t.fptr % 512 then data.length else 512 - t.fptr % 512) :
    Triple (fun u ↦ u = t) (writeBuffered data) fun r u ↦ r = .ok n ∧
      u = { t with buf := fitData t.buf (t.fptr % 512) n data, dirty := true } ∧
      FileView g ρ others (overlay 512 V t.sect u.buf) T last free l u := by
  refine triple_get_bind ?_
  rintro t rfl
  subst hn
  refine triple_modify_bind (.pure ?_)
  rintro _ ⟨u, rfl, rfl⟩
  obtain ⟨D, hdata, rfl⟩ := ht.data
  refine ⟨rfl, rfl, ⟨⟨D, hdata, ?_⟩, ht.rest, ht.sect, fun _ ↦ h0⟩,
    ⟨hdesc.chain, hdesc.sclust, hdesc.size_le, hdesc.size_lt, hdesc.err⟩, fun _ i hi ↦ ?_⟩
  · rw [u.overlay_viewOf]
    exact Eq.symm (FatFile.viewOf_dirty rfl D)
  · rw [overlay_mul_add _ _ _ hi]

/-! ### What a write changes -/

/-- **The bytes of the file from `p` on are replaced**, and nothing else that counts: the file had
`size` bytes and the chain `l` in the memory `V`, and has the chain `l'` in `V'`. -/
structure Stored (g : FatGeometry) (others : List (List ℕ)) (V : Memory) (l : List ℕ) (size : ℕ)
    (V' : Memory) (l' : List ℕ) (p : ℕ) (data : List UInt8) : Prop where
  bytes : ∀ i < data.length, V' (g.addrOf l' (p + i)) = data.getD i 0
  kept : ∀ o < size, o < p ∨ p + data.length ≤ o → V' (g.addrOf l' o) = V (g.addrOf l o)
  outside : ∀ a, ¬ g.SpareSector others (a / 512) → V' a = V a

section Stored

variable {p size n : ℕ} {data : List UInt8}

theorem getD_take {i : ℕ} (hi : i < n) : (data.take n).getD i 0 = data.getD i 0 := by
  rw [List.getD_eq_getElem?_getD, List.getElem?_take_of_lt hi, ← List.getD_eq_getElem?_getD]

/-- Whole sectors. -/
theorem Stored.of_blocks (hg : g.VolumeSound) (hchain : FileChain g ρ others T free l)
    (hp : p % 512 = 0) (hidx : p / 512 / g.csize < l.length)
    (hfits : p / 512 % g.csize + n ≤ g.csize) (hn : 512 * n ≤ data.length)
    (hsize : size ≤ l.length * g.bcs) :
    Stored g others V l size
      (overlayBlocks 512 V (g.sectorOf l (p / 512)) n fun i ↦ data.getD i 0) l p
      (data.take (512 * n)) where
  bytes i hi := by
    rw [List.length_take_of_le hn] at hi
    have haddr : g.addrOf l (p + i) = g.sectorOf l (p / 512) * 512 + i := by
      rw [g.addrOf_add (by rw [g.mod_bcs, FatGeometry.bcs]; omega), FatGeometry.addrOf, hp,
        Nat.add_zero]
    rw [haddr, overlayBlocks_of_mem _ _ ⟨by omega, by omega⟩, getD_take hi]
    congr 1
    omega
  kept o ho hout := by
    rw [List.length_take_of_le hn] at hout
    refine overlayBlocks_of_notMem _ _ fun hin ↦ ?_
    rw [g.addrOf_div] at hin
    -- The sector of `o` is one of those written, and then `o` is one of the bytes.
    obtain ⟨j, hj⟩ := Nat.exists_eq_add_of_le hin.1
    have hjn : j < n := by omega
    have hidx' : (p / 512 + j) / g.csize = p / 512 / g.csize := by
      have h := last_div (b := g.csize) (p := p / 512) (n := j + 1) (Nat.succ_pos j) (by omega)
      simpa using h
    rw [← g.sectorOf_add (by omega)] at hj
    have hinj := g.sectorOf_inj hg hchain.valid hchain.nodup (g.div_csize_lt hg (by omega))
      (hidx' ▸ hidx) hj
    omega
  outside a ha := overlayBlocks_of_notMem _ _ fun hin ↦ by
    obtain ⟨j, hj⟩ := Nat.exists_eq_add_of_le hin.1
    exact ha (hj ▸ hchain.spare_add hg hidx hfits (by omega))

/-- Bytes in one sector, through the buffer. -/
theorem Stored.of_buffer (hg : g.VolumeSound) (hchain : FileChain g ρ others T free l) {buf : Memory}
    (hidx : p / 512 / g.csize < l.length) (hfits : p % 512 + n ≤ 512) (hn : n ≤ data.length)
    (hsize : size ≤ l.length * g.bcs)
    (hbuf : ∀ i < 512, p / 512 * 512 + i < size → buf i = V (g.sectorOf l (p / 512) * 512 + i)) :
    Stored g others V l size
      (overlay 512 V (g.sectorOf l (p / 512)) (fitData buf (p % 512) n data)) l p (data.take n) where
  bytes i hi := by
    rw [List.length_take_of_le hn] at hi
    have haddr : g.addrOf l (p + i) = g.sectorOf l (p / 512) * 512 + (p % 512 + i) := by
      have hmod := Nat.mod_lt (p / 512) (g.csize_pos hg)
      rw [g.addrOf_add (by rw [g.mod_bcs, FatGeometry.bcs]; omega), FatGeometry.addrOf,
        Nat.add_assoc]
    rw [haddr, overlay_mul_add _ _ _ (by omega), fitData, if_pos ⟨by omega, by omega⟩, getD_take hi]
    congr 1
    omega
  kept o ho hout := by
    rw [List.length_take_of_le hn] at hout
    by_cases hs : g.sectorOf l (o / 512) = g.sectorOf l (p / 512)
    · have hinj := g.sectorOf_inj hg hchain.valid hchain.nodup (g.div_csize_lt hg (by omega)) hidx hs
      have hmod := Nat.mod_lt o (by decide : 512 > 0)
      rw [FatGeometry.addrOf, hs, overlay_mul_add _ _ _ hmod, fitData, if_neg (by omega)]
      exact hbuf _ hmod (by omega)
    · rw [overlay_of_ne _ _ (by rw [g.addrOf_div]; exact hs)]
  outside a ha := overlay_of_ne _ _ fun he ↦ ha (he ▸ hchain.spare hg hidx)

/-- The chain was extended before. -/
theorem Stored.of_prefix (hg : g.VolumeSound) {l₁ : List ℕ} (hl : l <+: l₁)
    (hsize : size ≤ l.length * g.bcs) (h : Stored g others V l₁ size V' l' p data) :
    Stored g others V l size V' l' p data where
  bytes := h.bytes
  kept o ho hout := by
    obtain ⟨ext, rfl⟩ := hl
    rw [h.kept o ho hout, g.addrOf_append hg ext (by omega)]
  outside := h.outside

/-- **One write after the other.** -/
theorem Stored.append {V₁ : Memory} {l₁ : List ℕ} {size₁ k : ℕ} (hn : n ≤ data.length)
    (hk : n + k ≤ data.length) (hsize : size ≤ size₁) (hsize' : p + n ≤ size₁)
    (h : Stored g others V l size V₁ l₁ p (data.take n))
    (h' : Stored g others V₁ l₁ size₁ V' l' (p + n) ((data.drop n).take k)) :
    Stored g others V l size V' l' p (data.take (n + k)) where
  bytes i hi := by
    have hlen : ((data.drop n).take k).length = k := by
      rw [List.length_take_of_le]
      rw [List.length_drop]
      omega
    rw [List.length_take_of_le hk] at hi
    rw [getD_take hi]
    rcases Nat.lt_or_ge i n with hin | hin
    · rw [h'.kept _ (by omega) (.inl (by omega)),
        h.bytes i (by rw [List.length_take_of_le hn]; exact hin), getD_take hin]
    · obtain ⟨j, rfl⟩ := Nat.exists_eq_add_of_le hin
      rw [← Nat.add_assoc, h'.bytes j (by omega), getD_take (by omega),
        List.getD_eq_getElem?_getD, List.getElem?_drop, ← List.getD_eq_getElem?_getD]
  kept o ho hout := by
    rw [List.length_take_of_le hk] at hout
    have hlen : ((data.drop n).take k).length = k := by
      rw [List.length_take_of_le]
      rw [List.length_drop]
      omega
    rw [h'.kept o (by omega) (by omega), h.kept o ho (by rw [List.length_take_of_le hn]; omega)]
  outside a ha := (h'.outside a ha).trans (h.outside a ha)

/-- Nothing is written. -/
theorem Stored.refl (p : ℕ) : Stored g others V l size V l p [] where
  bytes i hi := absurd hi (Nat.not_lt_zero i)
  kept _ _ _ := rfl
  outside _ _ := rfl

end Stored

/-! ### A round -/

/-- How a round of `f_write` ends. -/
inductive WriteEnds (g : FatGeometry) (ρ : Prop) (others : List (List ℕ)) (V : Memory) (T : ℕ → ℕ)
    (l : List ℕ) (s : FatFile) (data : List UInt8) : Except Halt ℕ → FatFile → Prop
  | wrote {V' : Memory} {T' : ℕ → ℕ} {last' free' n : ℕ} {l' : List ℕ} {t : FatFile} (hl : l <+: l')
    (ht : FileView g ρ others V' T' last' free' l' t) (hc : Grown s t) (hn : 0 < n)
    (hle : n ≤ data.length) (hfit : s.fptr + n ≤ l'.length * g.bcs)
    (hp : Placed g l' (s.fptr + n) t)
    (hstored : Stored g others V l s.objsize V' l' s.fptr (data.take n)) :
    WriteEnds g ρ others V T l s data (.ok n) t
  | full {last' free' : ℕ} {t : FatFile} (ht : FileView g ρ others V T last' free' l t)
    (hc : t = { s with fs := t.fs }) (hend : s.fptr = l.length * g.bcs)
    (hfull : ρ → freeClusters g T = ∅) : WriteEnds g ρ others V T l s data (.error .full) t
  | lost {V' : Memory} {T' : ℕ → ℕ} {last' free' : ℕ} {res : FResult} {t : FatFile}
    (hres : res ≠ .ok) (hρ : ¬ ρ) (ht : FileShows g ρ others V' T' last' free' t) (hc : Grown s t)
    (hout : ∀ a, ¬ g.SpareSector others (a / 512) → V' a = V a) :
    WriteEnds g ρ others V T l s data (.error (.abort res)) t

/-- **The buffer for a sector that is written in part.** At the end of the file it is not read. -/
theorem fillSector_view (hg : g.VolumeSound) (ht : FileView g ρ others V T last free l t)
    (hd : t.dirty = false) {k : ℕ} (hk : g.SpareSector others k) :
    Triple (fun u ↦ u = t) (fillSector k) fun res u ↦
      FileShows g ρ others V T last free u ∧ u = { t with fs := u.fs, sect := u.sect, buf := u.buf } ∧
      (res = .ok ∧ u.sect = k ∧ (t.fptr < t.objsize → ∀ i < 512, u.buf i = V (k * 512 + i)) ∨
        res = .diskErr ∧ ¬ ρ) := by
  refine triple_get_bind ?_
  rintro t rfl
  have hsect : ∀ u : FatFile, FileShows g ρ others V T last free u → u.dirty = false →
      FileShows g ρ others V T last free { u with sect := k } := fun u hu hud ↦
    ⟨⟨V, hu.clean hud, (FatFile.viewOf_clean (by exact hud) V).symm⟩, hu.rest, .inr hk,
      fun h ↦ absurd (hud.symm.trans h) (by decide)⟩
  refine .ite (fun hfill ↦ ?_) fun hfill ↦ triple_modify_bind (.pure ?_)
  · refine .bind (diskReadBuf_shows hg ht.toFileShows hd hk) fun ok ↦ .ite (fun hok ↦ ?_)
      fun hok ↦ .pure ?_
    · refine triple_modify_bind (.pure ?_)
      rintro _ ⟨u, ⟨hu, huc, hres⟩, rfl⟩
      obtain ⟨-, hbuf⟩ := hres.resolve_right fun h ↦ absurd (hok.symm.trans h.1) (by decide)
      refine ⟨hsect u hu (by rw [huc]; exact hd), ?_, .inl ⟨rfl, rfl, fun _ ↦ hbuf⟩⟩
      rw [huc]
    · rintro u ⟨hu, huc, hres⟩
      obtain ⟨-, hρ⟩ := hres.resolve_left fun h ↦ hok h.1
      exact ⟨hu, by rw [huc], .inr ⟨rfl, hρ⟩⟩
  · rintro _ ⟨u, rfl, rfl⟩
    refine ⟨hsect u ht.toFileShows hd, rfl, .inl ⟨rfl, rfl, fun hlt i hi ↦ ?_⟩⟩
    have heq : u.sect = k := Decidable.byContradiction fun hne ↦ hfill ⟨hne, hlt⟩
    have h := ht.buf (heq ▸ (hk.tracked hg).2.2) i hi
    rwa [heq] at h

/-- The object belongs to the position `n` bytes further in the cluster. -/
theorem placed_within (hg : g.VolumeSound) {p n : ℕ} (hclust : l[p / g.bcs]? = some t.clust)
    (hn : 0 < n) (hfits : p % g.bcs + n ≤ g.bcs)
    (hsect : (p + n) % 512 ≠ 0 → t.sect = g.sectorOf l ((p + n) / 512)) :
    p + n ≤ l.length * g.bcs ∧ Placed g l (p + n) t := by
  obtain ⟨hidx, -⟩ := List.getElem?_eq_some_iff.1 hclust
  have hlast := last_div hn hfits
  have hlt := (Nat.div_lt_iff_lt_mul (g.bcs_pos hg)).1 (hlast.symm ▸ hidx)
  exact ⟨by omega, fun _ ↦ by rw [hlast, hclust], hsect⟩

/-- **Bytes for the sector of the pointer, through the buffer**, which has what the file has in this
sector. -/
theorem writeBuffered_ends (hg : g.VolumeSound) (ht : FileShows g ρ others V T last free t)
    (hdesc : Describes g ρ others T free l t) (hgrown : Grown s t)
    (hclust : l[s.fptr / g.bcs]? = some t.clust) (hsect : t.sect = g.sectorOf l (s.fptr / 512))
    (hbuf : ∀ i < 512, s.fptr / 512 * 512 + i < s.objsize → t.buf i = V (t.sect * 512 + i))
    {data : List UInt8} (hdata : 0 < data.length) :
    Triple (fun u ↦ u = t) (writeBuffered data) (WriteEnds g ρ others V T l s data) := by
  have hptr := hgrown.fptr
  have hsize : s.objsize ≤ l.length * g.bcs := hgrown.objsize ▸ hdesc.size_le
  have hclust' := hclust
  rw [← g.div_bcs] at hclust'
  obtain ⟨hidx, -⟩ := List.getElem?_eq_some_iff.1 hclust'
  have hspare := hdesc.chain.spare hg hidx
  generalize hn : (if data.length < 512 - s.fptr % 512 then data.length
    else 512 - s.fptr % 512) = n
  obtain ⟨hnpos, hnle, hfits⟩ : 0 < n ∧ n ≤ data.length ∧ s.fptr % 512 + n ≤ 512 := by
    split at hn <;> omega
  have hcsect := Nat.mod_lt (s.fptr / 512) (g.csize_pos hg)
  have hcluster : s.fptr % g.bcs + n ≤ g.bcs := by
    rw [g.mod_bcs, FatGeometry.bcs]
    omega
  rw [← hptr] at hn
  refine (writeBuffered_view ht hdesc (hsect ▸ (hspare.tracked hg).2.2) hn.symm).weaken
    (fun _ h ↦ h) ?_
  rintro _ u ⟨rfl, huc, hu⟩
  have hubuf : u.buf = fitData t.buf (s.fptr % 512) n data := by rw [huc, hptr]
  rw [hubuf, hsect] at hu
  -- short of the end of the sector, the pointer stays in it
  have hplace : (s.fptr + n) % 512 ≠ 0 → u.sect = g.sectorOf l ((s.fptr + n) / 512) := fun h ↦ by
    rw [huc]
    show t.sect = _
    rw [hsect]
    congr 1
    omega
  obtain ⟨hfit, hp⟩ := placed_within hg (by rw [huc]; exact hclust) hnpos hcluster hplace
  exact .wrote (List.prefix_refl l) hu (hgrown.trans (by rw [Grown, Cached, huc])) hnpos hnle hfit hp
    (.of_buffer hg hdesc.chain hidx hfits hnle hsize fun i hi hlt ↦ hsect ▸ hbuf i hi hlt)

/-- **Whole sectors from the sector of the pointer on**, as many as the cluster has. -/
theorem writeSectors_ends (hg : g.VolumeSound) (ht : FileView g ρ others V T last free l t)
    (hd : t.dirty = false) (hgrown : Grown s t) (hclust : l[s.fptr / g.bcs]? = some t.clust)
    (hsector : s.fptr % 512 = 0) {data : List UInt8} (hcc : 0 < data.length / 512) :
    Triple (fun u ↦ u = t) (writeSectors data (g.sectorOf l (s.fptr / 512))
      (clipCluster g (s.fptr / 512 % g.csize) (data.length / 512)))
      (WriteEnds g ρ others V T l s data) := by
  have hsize : s.objsize ≤ l.length * g.bcs := hgrown.objsize ▸ ht.size_le
  have hclust' := hclust
  rw [← g.div_bcs] at hclust'
  obtain ⟨hidx, -⟩ := List.getElem?_eq_some_iff.1 hclust'
  have hmod := g.mod_bcs s.fptr
  obtain ⟨hpos, hfits, hle⟩ := clipCluster_spec (Nat.mod_lt (s.fptr / 512) (g.csize_pos hg)) hcc
  generalize clipCluster g (s.fptr / 512 % g.csize) (data.length / 512) = n at hpos hfits hle ⊢
  refine (writeSectors_view hg ht hd (fun j hj ↦ ht.chain.spare_add hg hidx hfits hj) hpos
    data).weaken (fun _ h ↦ h) ?_
  rintro r u ⟨huc, hr⟩
  have hgrown' : Grown s u := hgrown.trans (by rw [Grown, Cached, huc])
  rcases hr with ⟨rfl, hu⟩ | ⟨rfl, hρ, junk, hu⟩
  · obtain ⟨hfit, hp⟩ := placed_within hg (t := u) (n := 512 * n) (by rw [huc]; exact hclust)
      (by omega) (by rw [hmod, FatGeometry.bcs]; omega) fun h ↦ by omega
    exact .wrote (List.prefix_refl l) hu hgrown' (by omega) (by omega) hfit hp
      (.of_blocks hg ht.chain hsector hidx hfits (by omega) hsize)
  · refine .lost FResult.noConfusion hρ hu hgrown' fun a ha ↦ overlayBlocks_of_notMem _ _ ?_
    intro hin
    obtain ⟨j, hj⟩ := Nat.exists_eq_add_of_le hin.1
    exact ha (hj ▸ ht.chain.spare_add hg hidx hfits (by omega))

/-- At a sector boundary whole sectors are written straight from the caller's memory, or one is
loaded. -/
theorem writeAligned_view (hg : g.VolumeSound) (ht : FileView g ρ others V T last free l t)
    (hclust : l[t.fptr / g.bcs]? = some t.clust) (hsector : t.fptr % 512 = 0) {data : List UInt8}
    (hdata : 0 < data.length) :
    Triple (fun u ↦ u = t) (writeAligned g data (t.fptr / 512 % g.csize))
      (WriteEnds g ρ others V T l t data) := by
  have hclust' := hclust
  rw [← g.div_bcs] at hclust'
  obtain ⟨hne, hadd, hspare⟩ := ht.sector hg hclust'
  refine .bind (writeBack_view hg ht) fun ok ↦ .ite (fun hok ↦ ?_) fun hok ↦ .pure ?_
  · rintro u ⟨hu, huc, hres⟩
    obtain ⟨-, hud⟩ := hres.resolve_right fun h ↦ absurd (hok.symm.trans h.1) (by decide)
    have hgrown : Grown t u := by rw [Grown, Cached, huc]
    have huclust : u.clust = t.clust := by rw [huc]
    refine triple_get_bind (P := fun w ↦ w = u) (R := WriteEnds g ρ others V T l t data) ?_ u rfl
    rintro u rfl
    rw [huclust]
    refine .ite (fun h0 ↦ absurd h0 hne) fun _ ↦ ?_
    rw [hadd]
    rw [← huclust] at hclust
    refine .ite (fun hcc ↦ writeSectors_ends hg hu hud hgrown hclust hsector hcc) fun _ ↦
      .bind (fillSector_view hg hu hud hspare) fun res ↦ .ite (fun hres ↦ ?_) fun hres ↦ .pure ?_
    · rintro w ⟨hw, hwc, hr⟩
      obtain ⟨-, hsect, hbuf⟩ := hr.resolve_right fun h ↦ FResult.noConfusion (hres.symm.trans h.1)
      have hdesc : Describes g ρ others T free l w := by
        rw [hwc]
        exact ⟨hu.chain, hu.sclust, hu.size_le, hu.size_lt, hu.err⟩
      refine writeBuffered_ends hg hw hdesc (hgrown.trans (by rw [Grown, Cached, hwc]))
        (by rw [hwc]; exact hclust) hsect (fun i hi hlt ↦ ?_) hdata w rfl
      -- the sector is not read only where the file ends at its start
      rw [hsect]
      exact hbuf (by rw [hgrown.fptr, hgrown.objsize]; omega) i hi
    · rintro w ⟨hw, hwc, hr⟩
      obtain ⟨rfl, hρ⟩ := hr.resolve_left fun h ↦ hres h.1
      exact .lost FResult.noConfusion hρ hw (hgrown.trans (by rw [Grown, Cached, hwc])) fun _ _ ↦ rfl
  · rintro u ⟨hu, huc, hres⟩
    obtain ⟨-, hρ⟩ := hres.resolve_left fun h ↦ hok h.1
    refine .lost FResult.noConfusion hρ hu.toFileShows ?_ fun _ _ ↦ rfl
    rw [Grown, Cached, huc]

/-- **A round of `f_write`.** -/
theorem writeRound_view (hg : g.VolumeSound) (hs : FileView g ρ others V T last free l s)
    (hp : Placed g l s.fptr s) (hle : s.fptr ≤ s.objsize) {data : List UInt8}
    (hdata : 0 < data.length) :
    Triple (fun t ↦ t = s) (writeRound g data) (WriteEnds g ρ others V T l s data) := by
  have hsize := hs.size_le
  refine triple_get_bind ?_
  rintro s rfl
  refine .ite (fun hsector ↦ ?_) fun hsector ↦ ?_
  · rw [g.csect_eq hg]
    refine .bind (enterWrite_view hg hs hp hsector (by omega)) fun r ↦ ?_
    rintro t henter
    cases henter with
    | full ht hc hend hfull => exact .full ht hc hend hfull
    | lost hres hρ ht hc =>
      have hgrown : Grown s t := by rw [Grown, Cached, hc]
      exact .lost hres hρ ht hgrown fun _ _ ↦ rfl
    | @entered _ _ _ l' t hl ht hc hclust =>
      have hgrown : Grown s t := by rw [Grown, Cached, hc]
      have hptr := hgrown.fptr
      have hround := writeAligned_view hg ht (hptr ▸ hclust) (hptr ▸ hsector) hdata t rfl
      rw [hptr] at hround
      show WriteEnds g ρ others V T l s data (writeAligned g data (s.fptr / 512 % g.csize) t).1
        (writeAligned g data (s.fptr / 512 % g.csize) t).2
      generalize writeAligned g data (s.fptr / 512 % g.csize) t = ru at hround
      obtain ⟨r, u⟩ := ru
      cases hround with
      | wrote hl' hu huc hn hnle hfit hpl hstored =>
        rw [hptr] at hfit hpl hstored
        rw [hgrown.objsize] at hstored
        exact .wrote (hl.trans hl') hu (hgrown.trans huc) hn hnle hfit hpl
          (hstored.of_prefix hg hl hsize)
      | full _ _ hend _ =>
        obtain ⟨hlt, -⟩ := List.getElem?_eq_some_iff.1 hclust
        rw [← hptr, hend, Nat.mul_div_cancel _ (g.bcs_pos hg)] at hlt
        exact absurd hlt (Nat.lt_irrefl _)
      | lost hres hρ hu huc hout => exact .lost hres hρ hu (hgrown.trans huc) hout
  · have hpos : 0 < s.fptr := Nat.pos_of_ne_zero fun h0 ↦ hsector (by rw [h0])
    have hne : s.fptr % g.bcs ≠ 0 := by
      rw [g.mod_bcs]
      omega
    have hclust := hp.clust hpos
    rw [pred_div_of_mod_ne (g.bcs_pos hg) hne] at hclust
    have hsect := hp.sect hsector
    have hclust' := hclust
    rw [← g.div_bcs] at hclust'
    obtain ⟨-, -, hspare⟩ := hs.sector hg hclust'
    exact writeBuffered_ends hg hs.toFileShows hs.toDescribes (.refl s) hclust hsect
      (fun i hi _ ↦ hs.buf (hsect ▸ (hspare.tracked hg).2.2) i hi) hdata

/-! ### The function -/

/-- What no call on an open file changes in the object. -/
structure SameSession (s t : FatFile) : Prop where
  canRead : t.canRead = s.canRead
  canWrite : t.canWrite = s.canWrite
  dirSect : t.dirSect = s.dirSect
  dirPtr : t.dirPtr = s.dirPtr

theorem SameSession.refl (s : FatFile) : SameSession s s := ⟨rfl, rfl, rfl, rfl⟩

/-- Two steps of one session are of one session. -/
theorem SameSession.trans {u : FatFile} (h : SameSession s t) (h' : SameSession t u) :
    SameSession s u :=
  ⟨h'.canRead.trans h.canRead, h'.canWrite.trans h.canWrite, h'.dirSect.trans h.dirSect,
    h'.dirPtr.trans h.dirPtr⟩

/-- A file that grew is still that of the session. -/
theorem Grown.same (h : Grown s t) : SameSession s t := by
  rw [Grown, Cached] at h
  exact ⟨by rw [h], by rw [h], by rw [h], by rw [h]⟩

/-- **A file that is given up** after an error of the disk: the other chains are still there, and
nothing has changed but sectors that belong to none of them. -/
structure GivenUp (g : FatGeometry) (ρ : Prop) (others : List (List ℕ)) (V : Memory)
    (res : FResult) (t : FatFile) : Prop where
  unreliable : ¬ ρ
  err : t.err = res
  ne_ok : res ≠ .ok
  shows : ∃ V' T' last' free', FileShows g ρ others V' T' last' free' t ∧
    ∀ a, ¬ g.SpareSector others (a / 512) → V' a = V a

/-- How `f_write` ends with `n` bytes written. -/
structure Written (g : FatGeometry) (ρ : Prop) (others : List (List ℕ)) (V : Memory) (l : List ℕ)
    (s : FatFile) (data : List UInt8) (n : ℕ) (t : FatFile) : Prop where
  view : ∃ V' T' last' free' l', FileView g ρ others V' T' last' free' l' t ∧ Placed g l' t.fptr t ∧
    Stored g others V l s.objsize V' l' s.fptr (data.take n) ∧
    (n < data.length → ρ → freeClusters g T' = ∅)
  fptr : t.fptr = s.fptr + n
  objsize : t.objsize = max s.objsize (s.fptr + n)
  same : SameSession s t

/-- The flag that the file was changed is not seen in the volume. -/
theorem FileView.setModified (h : FileView g ρ others V T last free l s) :
    FileView g ρ others V T last free l { s with modified := true } :=
  ⟨⟨h.data, h.rest, h.sect, h.dirty⟩, ⟨h.chain, h.sclust, h.size_le, h.size_lt, h.err⟩, h.buf⟩

/-- The flag that the file was changed does not move the pointer. -/
theorem Placed.setModified (h : Placed g l s.fptr s) :
    Placed g l s.fptr { s with modified := true } :=
  ⟨h.clust, h.sect⟩

/-- Nothing is written. -/
theorem Written.zero (hs : FileView g ρ others V T last free l s) (hp : Placed g l s.fptr s)
    (hle : s.fptr ≤ s.objsize) {data : List UInt8} (h0 : data.length = 0) :
    Written g ρ others V l s data 0 { s with modified := true } where
  view := ⟨V, T, last, free, l, hs.setModified, hp.setModified, .refl _, fun h ↦ by omega⟩
  fptr := rfl
  objsize := (Nat.max_eq_left hle).symm
  same := ⟨rfl, rfl, rfl, rfl⟩

/-- A round and then the rest. -/
theorem Written.after {u : FatFile} {data : List UInt8} {n k : ℕ} (hn : n ≤ data.length)
    (hk : n + k ≤ data.length) (hstored : Stored g others V l s.objsize V' l' s.fptr (data.take n))
    (hsame : SameSession s t) (hptr : t.fptr = s.fptr + n)
    (hsize : t.objsize = max s.objsize (s.fptr + n))
    (h : Written g ρ others V' l' t (data.drop n) k u) : Written g ρ others V l s data (n + k) u := by
  obtain ⟨⟨V₂, T₂, last₂, free₂, l₂, hu, hpu, hstored', hfull⟩, hup, huo, hus⟩ := h
  rw [hptr, hsize] at hstored'
  rw [hptr] at hup huo
  rw [hsize] at huo
  refine ⟨⟨V₂, T₂, last₂, free₂, l₂, hu, hpu, ?_, fun h ↦ hfull ?_⟩, by omega, by omega,
    hsame.trans hus⟩
  · exact hstored.append hn hk (Nat.le_max_left _ _) (Nat.le_max_right _ _) hstored'
  · rw [List.length_drop]
    omega

/-- A call that gave up wrote to sectors of the file only, what it wrote before included. -/
theorem GivenUp.after {res : FResult}
    (hout : ∀ a, ¬ g.SpareSector others (a / 512) → V' a = V a)
    (h : GivenUp g ρ others V' res t) : GivenUp g ρ others V res t := by
  obtain ⟨hρ, herr, hres, V₂, T₂, last₂, free₂, ht, hout'⟩ := h
  exact ⟨hρ, herr, hres, V₂, T₂, last₂, free₂, ht, fun a ha ↦ (hout' a ha).trans (hout a ha)⟩

/-- **The loop of `f_write`.** -/
theorem writeLoop_view (hg : g.VolumeSound) (fuel : ℕ) {data : List UInt8}
    (hfuel : data.length ≤ fuel) (hs : FileView g ρ others V T last free l s)
    (hp : Placed g l s.fptr s) (hle : s.fptr ≤ s.objsize)
    (hlt : s.fptr + data.length < 0x100000000) (bw : ℕ) :
    Triple (fun t ↦ t = s) (writeLoop g fuel data bw) fun r t ↦
      ∃ n ≤ data.length, r = some (.ok, bw + n) ∧ Written g ρ others V l s data n t ∨
        ∃ res, r = some (res, bw + n) ∧ GivenUp g ρ others V res t ∧ SameSession s t := by
  induction fuel generalizing data s V T last free l bw with
  | zero =>
    refine triple_modify_bind (.pure ?_)
    rintro _ ⟨t, rfl, rfl⟩
    have h0 : data.length = 0 := Nat.le_zero.1 hfuel
    exact ⟨0, Nat.zero_le _, .inl ⟨if_pos h0, .zero hs hp hle h0⟩⟩
  | succ fuel ih =>
    refine .ite (fun h0 ↦ triple_modify_bind (.pure ?_)) fun h0 ↦ ?_
    · rintro _ ⟨t, rfl, rfl⟩
      exact ⟨0, Nat.zero_le _, .inl ⟨rfl, .zero hs hp hle h0⟩⟩
    refine .bind (writeRound_view hg hs hp hle (Nat.pos_of_ne_zero h0)) fun r ↦ ?_
    rintro t hround
    cases hround with
    | @full last' free' t ht hc hend hfull =>
      have hgrown : t.fptr = s.fptr ∧ t.objsize = s.objsize ∧ SameSession s t := by
        rw [hc]
        exact ⟨rfl, rfl, rfl, rfl, rfl, rfl⟩
      have hwritten : Written g ρ others V l s data 0 { t with modified := true } := by
        refine ⟨⟨V, T, last', free', l, ht.setModified, ?_, .refl _, fun _ ↦ hfull⟩, ?_, ?_, ?_⟩
        · refine Placed.setModified ?_
          rw [hc]
          exact ⟨hp.clust, hp.sect⟩
        · exact hgrown.1
        · exact hgrown.2.1.trans (Nat.max_eq_left hle).symm
        · exact ⟨hgrown.2.2.canRead, hgrown.2.2.canWrite, hgrown.2.2.dirSect, hgrown.2.2.dirPtr⟩
      exact ⟨0, Nat.zero_le _, .inl ⟨rfl, hwritten⟩⟩
    | @lost _ _ _ _ res _ hres hρ ht hc hout =>
      have hsame : SameSession s { t with err := res } :=
        ⟨hc.same.canRead, hc.same.canWrite, hc.same.dirSect, hc.same.dirPtr⟩
      exact ⟨0, Nat.zero_le _, .inr ⟨res, rfl,
        ⟨hρ, rfl, hres, _, _, _, _, ht.aborted res, hout⟩, hsame⟩⟩
    | @wrote V₁ T₁ last₁ free₁ n l₁ t hl ht hc hn hnle hfit hpl hstored =>
      have hptr : t.fptr = s.fptr := by rw [hc]
      have hobj : t.objsize = s.objsize := by rw [hc]
      have hsame : SameSession s (t.advance n) :=
        ⟨hc.same.canRead, hc.same.canWrite, hc.same.dirSect, hc.same.dirPtr⟩
      have hsize : (t.advance n).objsize = max s.objsize (s.fptr + n) := by
        show (if t.objsize < t.fptr + n then t.fptr + n else t.objsize) = _
        rw [hptr, hobj]
        split <;> omega
      have hptr' : (t.advance n).fptr = s.fptr + n := by
        show t.fptr + n = _
        rw [hptr]
      have hlen : (data.drop n).length = data.length - n := List.length_drop
      have hview : FileView g ρ others V₁ T₁ last₁ free₁ l₁ (t.advance n) := by
        refine ⟨⟨ht.data, ht.rest, ht.sect, ht.dirty⟩, ⟨ht.chain, ht.sclust, ?_, ?_, ht.err⟩, ht.buf⟩
        · rw [hsize]
          have := ht.size_le
          omega
        · rw [hsize]
          have := hs.size_lt
          omega
      have hplaced : Placed g l₁ (t.advance n).fptr (t.advance n) := by
        rw [hptr']
        exact ⟨hpl.clust, hpl.sect⟩
      obtain ⟨k, hk, hrest⟩ := ih (hlen.trans_le (by omega)) hview hplaced (by omega) (by omega)
        (bw + n) (t.advance n) rfl
      rw [Nat.add_assoc] at hrest
      refine ⟨n + k, by omega, ?_⟩
      rcases hrest with ⟨hr, hwritten⟩ | ⟨res, hr, hgiven, hsame'⟩
      · exact .inl ⟨hr, hwritten.after hnle (by omega) hstored hsame hptr' hsize⟩
      · exact .inr ⟨res, hr, hgiven.after hstored.outside, hsame.trans hsame'⟩

/-- The data is clipped to what keeps the size below 4 GiB. -/
theorem clipData_spec {p : ℕ} (hp : p < 0x100000000) (data : WriteData) :
    clipData p data = data.bytes.take (0xFFFFFFFF - p) := by
  have hlen := data.length_lt
  rw [clipData, add32_eq]
  split
  · rfl
  · exact (List.take_of_length_le (by omega)).symm

/-- What `f_write` comes down to when the file may be written. -/
theorem fWrite_eq {check : FResult} (hcheck : check = .ok) (herr : s.err = .ok)
    (hwrite : s.canWrite = true) (hlt : s.fptr < 0x100000000) (data : WriteData) :
    fWrite g check data s =
      writeLoop g data.bytes.length (data.bytes.take (0xFFFFFFFF - s.fptr)) 0 s := by
  simp only [fWrite, run_bind, run_get, hcheck, herr, hwrite, clipData_spec hlt, ne_eq,
    not_true_eq_false, if_false, Bool.not_true, Bool.false_eq_true]

/-- **`f_write`** replaces the bytes of the file from the file pointer on. -/
theorem fWrite_view (hg : g.VolumeSound) (hs : FileView g ρ others V T last free l s)
    (hp : Placed g l s.fptr s) (hle : s.fptr ≤ s.objsize) {check : FResult} (hcheck : check = .ok)
    (hwrite : s.canWrite = true) (data : WriteData) :
    Triple (fun t ↦ t = s) (fWrite g check data) fun r t ↦
      ∃ n ≤ (data.bytes.take (0xFFFFFFFF - s.fptr)).length, r = some (.ok, n) ∧
          Written g ρ others V l s (data.bytes.take (0xFFFFFFFF - s.fptr)) n t ∨
        ∃ res, r = some (res, n) ∧ GivenUp g ρ others V res t ∧ SameSession s t := by
  rintro s rfl
  have hlt := hs.size_lt
  have hlen : (data.bytes.take (0xFFFFFFFF - s.fptr)).length ≤ 0xFFFFFFFF - s.fptr := by
    rw [List.length_take]
    omega
  rw [fWrite_eq hcheck hs.err hwrite (by omega)]
  have hloop := writeLoop_view hg data.bytes.length (List.length_take_le' (0xFFFFFFFF - s.fptr) _)
    hs hp hle (by omega) 0 s rfl
  simpa only [Nat.zero_add] using hloop
