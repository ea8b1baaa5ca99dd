import SmartAp.Fat.FileWrite

/-!
# Moving the file pointer, and cutting a file off

`f_lseek` follows the chain from the cluster of the file pointer, or from the first one, and takes
new clusters on the way if the file may be written. It does not change a byte of the file; the bytes
that it adds are whatever the volume holds there (`fLseek_view`). `f_truncate` gives the clusters
back that come after the file pointer (`fTruncate_view`).

## The way along the chain

The loop of `f_lseek` counts the distance `ofs` down by a cluster in each round. `SeekEnds` says
where it stops, and its cases are those of a round: there is a next cluster (`seekRound_next`), the
volume is full or the file is only read and the seek ends at the boundary (`seekRound_full`), or an
error was met and the file is given up (`seekRound_lost`). `seekLoop_view` is the induction on the
budget over them.

A seek to the same cluster, or further, starts at the cluster of the pointer; the start is computed
with a mask, which is a remainder because the bytes of a cluster are a power of two
(`FatGeometry.bcs_pow`, `andNot32_bcs`).

## Growing, and getting shorter

A seek behind the end makes the file longer: the size is the largest position that was reached
(`FatFile.extendSize_spec`), even when the seek ends before its target. Cutting a file keeps the
cluster of the pointer and frees what follows; at position 0 the whole chain is freed and the object
has none (`truncateChain_view`).
-/

variable {g : FatGeometry} {ρ : Prop} {others : List (List ℕ)} {V D : Memory} {T : ℕ → ℕ}
  {last free : ℕ} {l : List ℕ} {s t : FatFile}

/-! ### The beginning of a cluster -/

/-- A block is a power of two, and the lower bits of a position are the position in the block. -/
theorem andNot32_two_pow {a : ℕ} (ha : a < 0x100000000) (k : ℕ) :
    andNot32 a (2 ^ k - 1) = a / 2 ^ k * 2 ^ k := by
  have hlt : (2 ^ k - 1) % 2 ^ 32 < 2 ^ 32 := Nat.mod_lt _ (Nat.two_pow_pos 32)
  have hnot : (~~~ UInt32.ofNat (2 ^ k - 1)).toNat = 2 ^ 32 - ((2 ^ k - 1) % 2 ^ 32 + 1) := by
    rw [UInt32.toNat_not, UInt32.toNat_ofNat']
    show 2 ^ 32 - 1 - _ = _
    omega
  have hself : (UInt32.ofNat a).toNat = a := UInt32.toNat_ofNat_of_lt' ha
  rw [andNot32, UInt32.toNat_and, hnot, hself]
  refine Nat.eq_of_testBit_eq fun i ↦ ?_
  rw [Nat.testBit_and, Nat.testBit_two_pow_sub_succ hlt, Nat.testBit_mod_two_pow,
    Nat.testBit_two_pow_sub_one, Nat.testBit_mul_two_pow, Nat.testBit_div_two_pow]
  by_cases hi : i < 32
  · by_cases hk : k ≤ i
    · simp [hi, hk, Nat.not_lt.2 hk]
    · simp [hi, hk, Nat.lt_of_not_le hk]
  · have hhigh : a.testBit i = false := Nat.testBit_lt_two_pow
      (Nat.lt_of_lt_of_le ha (Nat.pow_le_pow_right Nat.zero_lt_two (Nat.le_of_not_lt hi)))
    by_cases hk : k ≤ i
    · rw [Nat.sub_add_cancel hk, hhigh, Bool.false_and, Bool.and_false]
    · simp [hhigh, hk]

/-- The bytes of a cluster are a power of two, so the mask of `f_lseek` is a remainder. -/
theorem FatGeometry.bcs_pow (hg : g.VolumeSound) : ∃ k, g.bcs = 2 ^ k := by
  obtain ⟨k, hk⟩ := hg.csize_pow
  exact ⟨k + 9, by rw [FatGeometry.bcs, hk, Nat.pow_add]⟩

/-- The mask of `f_lseek` goes back to the start of the cluster. -/
theorem andNot32_bcs (hg : g.VolumeSound) {a : ℕ} (ha : a < 0x100000000) :
    andNot32 a (g.bcs - 1) = a / g.bcs * g.bcs := by
  obtain ⟨k, hk⟩ := g.bcs_pow hg
  rw [hk]
  exact andNot32_two_pow ha k

/-! ### Following the chain -/

/-- The objects differ in what `f_lseek` moves, and in what is cached. -/
def Moved (s t : FatFile) : Prop :=
  t = { s with fs := t.fs, clust := t.clust, sclust := t.sclust, fptr := t.fptr }

/-- What moves the pointer only may be done twice. -/
theorem Moved.trans {u : FatFile} (h : Moved s t) (h' : Moved t u) : Moved s u := by
  rw [Moved] at h h' ⊢
  rw [h', h]

/-- **How the search for a position ends**: at the position, or where the volume is full, or with
an error of the disk. -/
inductive SeekEnds (g : FatGeometry) (ρ : Prop) (others : List (List ℕ)) (V : Memory) (l : List ℕ)
    (target : ℕ) (s : FatFile) : Except Halt ℕ → FatFile → Prop
  | found {T' : ℕ → ℕ} {last' free' nsect : ℕ} {l' : List ℕ} {t : FatFile} (hl : l <+: l')
    (ht : FileView g ρ others V T' last' free' l' t) (hc : Moved s t)
    (hclust : 0 < t.fptr → l'[(t.fptr - 1) / g.bcs]? = some t.clust)
    (hfit : t.fptr ≤ l'.length * g.bcs)
    (hsect : t.fptr % 512 ≠ 0 → nsect = g.sectorOf l' (t.fptr / 512))
    (hend : t.fptr = target ∨ s.canWrite = true ∧ t.fptr = l'.length * g.bcs ∧ t.fptr < target ∧
      (ρ → freeClusters g T' = ∅)) : SeekEnds g ρ others V l target s (.ok nsect) t
  | lost {T' : ℕ → ℕ} {last' free' : ℕ} {res : FResult} {t : FatFile} (hres : res ≠ .ok)
    (hρ : ¬ ρ) (ht : FileShows g ρ others V T' last' free' t) (hc : Moved s t) :
    SeekEnds g ρ others V l target s (.error (.abort res)) t

/-- A search that begins on a longer chain. -/
theorem SeekEnds.of_prefix {l₁ : List ℕ} {target : ℕ} {r : Except Halt ℕ} (hl : l <+: l₁)
    (hc : Moved s t) {u : FatFile} (h : SeekEnds g ρ others V l₁ target t r u) :
    SeekEnds g ρ others V l target s r u := by
  have hwrite : t.canWrite = s.canWrite := by rw [Moved] at hc; rw [hc]
  cases h with
  | found hl' ht hc' hclust hfit hsect hend =>
    exact .found (hl.trans hl') ht (hc.trans hc') hclust hfit hsect (hwrite ▸ hend)
  | lost hres hρ ht hc' => exact .lost hres hρ ht (hc.trans hc')

/-- The view does not depend on the file pointer, nor on the cluster. -/
theorem FileView.moved (h : FileView g ρ others V T last free l s) (c p : ℕ) :
    FileView g ρ others V T last free l { s with clust := c, fptr := p } :=
  ⟨⟨h.data, h.rest, h.sect, h.dirty⟩, ⟨h.chain, h.sclust, h.size_le, h.size_lt, h.err⟩, h.buf⟩

/-- The view of a file whose chain has been extended. -/
theorem FileView.extended (hs : FileView g ρ others V T last free l s) {T' : ℕ → ℕ}
    {last' free' : ℕ} {l' : List ℕ} (hl : l <+: l') (hc : Moved s t)
    (ht : FileShows g ρ others V T' last' free' t) (hchain : FileChain g ρ others T' free' l')
    (hsclust : t.sclust = l'.headD 0) : FileView g ρ others V T' last' free' l' t := by
  rw [Moved] at hc
  refine ⟨ht, ⟨hchain, hsclust, ?_, ?_, ?_⟩, ?_⟩
  · have hlen := Nat.mul_le_mul_right g.bcs hl.length_le
    have hsize := hs.size_le
    rw [hc]
    exact hsize.trans hlen
  · rw [hc]
    exact hs.size_lt
  · rw [hc]
    exact hs.err
  · rw [hc]
    exact hs.buf

/-- Where the position `ofs` bytes into a cluster is, if it is inside of a sector. -/
theorem FatGeometry.sector_of_cluster (hg : g.VolumeSound) {j ofs p c : ℕ}
    (hclust : l[j]? = some c) (hp : j * g.bcs + ofs = p) (hofs : ofs ≤ g.bcs)
    (hodd : ofs % 512 ≠ 0) : l[p / 512 / g.csize]? = some c ∧ p / 512 % g.csize = ofs / 512 := by
  have hbcs := g.bcs_pos hg
  -- The end of the cluster is the end of a sector.
  have hlt : ofs < g.bcs := by
    refine Nat.lt_of_le_of_ne hofs fun h ↦ hodd ?_
    rw [h, FatGeometry.bcs, Nat.mul_mod_left]
  have hcluster : p / g.bcs = j := by
    rw [← hp, Nat.add_comm, Nat.add_mul_div_right _ _ hbcs, Nat.div_eq_of_lt hlt, Nat.zero_add]
  have hrest : p % g.bcs = ofs := by
    rw [← hp, Nat.mul_add_mod', Nat.mod_eq_of_lt hlt]
  have hmod := g.mod_bcs p
  rw [hrest] at hmod
  refine ⟨?_, by omega⟩
  rw [g.div_bcs, hcluster]
  exact hclust

/-- The position is in the cluster, or at its end. -/
theorem FatGeometry.pred_div_bcs (hg : g.VolumeSound) {j ofs p : ℕ} (hp : j * g.bcs + ofs = p)
    (hpos : 0 < ofs) (hofs : ofs ≤ g.bcs) : (p - 1) / g.bcs = j := by
  rw [← hp, last_div hpos (by rw [Nat.mul_mod_left]; omega), Nat.mul_div_cancel _ (g.bcs_pos hg)]

/-- A cluster boundary is a sector boundary. -/
theorem FatGeometry.mul_bcs_mod (g : FatGeometry) (j : ℕ) : j * g.bcs % 512 = 0 := by
  rw [FatGeometry.bcs, ← Nat.mul_assoc, Nat.mul_mod_left]

/-- After the loop, `ofs` bytes into cluster `j` of the chain. -/
theorem seekSector_view (hg : g.VolumeSound) (hs : FileView g ρ others V T last free l s) {j ofs : ℕ}
    (hclust : l[j]? = some s.clust) (hptr : s.fptr = j * g.bcs) (hpos : 0 < ofs)
    (hofs : ofs ≤ g.bcs) :
    Triple (fun t ↦ t = s) (seekSector g s.clust ofs) (SeekEnds g ρ others V l (s.fptr + ofs) s) := by
  obtain ⟨hj, -⟩ := List.getElem?_eq_some_iff.1 hclust
  have hp : j * g.bcs + ofs = s.fptr + ofs := by rw [hptr]
  have hdiv := g.pred_div_bcs hg hp hpos hofs
  have hfit : s.fptr + ofs ≤ l.length * g.bcs := by
    have := Nat.mul_le_mul_right g.bcs (Nat.succ_le_of_lt hj)
    rw [Nat.succ_mul] at this
    omega
  have hfound : ∀ nsect, ((s.fptr + ofs) % 512 ≠ 0 → nsect = g.sectorOf l ((s.fptr + ofs) / 512)) →
      SeekEnds g ρ others V l (s.fptr + ofs) s (.ok nsect) { s with fptr := s.fptr + ofs } :=
    fun nsect h ↦ .found (List.prefix_refl l) (hs.moved s.clust _) rfl (fun _ ↦ hdiv ▸ hclust) hfit h
      (.inl rfl)
  refine triple_modify_then (.ite (fun hodd ↦ ?_) fun hodd ↦ .pure ?_)
  · obtain ⟨hclust', hcsect⟩ := g.sector_of_cluster hg hclust hp hofs hodd
    obtain ⟨hne, hadd, -⟩ := hs.sector hg hclust'
    rw [hcsect] at hadd
    refine .ite (fun h0 ↦ absurd h0 hne) fun _ ↦ .pure ?_
    rintro _ rfl
    exact hfound _ fun _ ↦ hadd
  · rintro _ rfl
    refine hfound 0 fun hne ↦ absurd ?_ hne
    have := g.mul_bcs_mod j
    omega

/-- The next cluster of the file, followed or created. -/
theorem seekCluster_view (hg : g.VolumeSound) (hs : FileView g ρ others V T last free l s) {j : ℕ}
    (hclust : l[j]? = some s.clust) (hmore : s.canWrite = true ∨ j + 1 < l.length) :
    Triple (fun t ↦ t = s) (seekCluster g s.clust) fun r t ↦ t = { s with fs := t.fs } ∧
      ∃ v T' last' free', r = some v ∧ Stretched g ρ others T free l (j + 1) v T' free' ∧
        FileShows g ρ others V T' last' free' t := by
  refine triple_get_bind ?_
  rintro s rfl
  refine .ite (fun hwrite ↦ createChain_view hg hs (.inr ⟨j, rfl, hclust⟩)) fun hread ↦ ?_
  have hlt := hmore.resolve_left hread
  refine .bind (getFat_view hg hs s.clust) fun r ↦ .pure ?_
  rintro t ⟨ht, htc, hr⟩
  refine ⟨htc, r, T, last, free, rfl, ?_, ht.toFileShows⟩
  rcases hr with ⟨rfl, -⟩ | ⟨rfl, hρ⟩
  · have hnext : l[j + 1]? = some l[j + 1] := List.getElem?_eq_getElem hlt
    rw [lookupFat, if_pos (hs.chain.valid _ (List.mem_of_getElem? hclust)),
      hs.chain.entry hclust hnext]
    exact .follows hnext
  · exact .lost (.inr rfl) hρ hs.rest

section Round

variable {rest : (clst ofs : ℕ) → FileM (Except Halt ℕ)} {v ofs : ℕ}

/-- A round in which the file has a next cluster. -/
theorem seekRound_next (hg : g.VolumeSound) {Q : Except Halt ℕ → FatFile → Prop}
    (ht : FileView g ρ others V T last free l t) (hv : v ∈ l)
    (hrest : Triple (fun u ↦ u = { t with clust := v }) (rest v (ofs - g.bcs)) Q) :
    Triple (fun u ↦ u = t) (seekRound g rest v ofs) Q := by
  obtain ⟨h2, hlt, hne⟩ := ht.sound hg hv
  refine triple_get_bind ?_
  rintro t rfl
  exact .ite (fun h ↦ absurd h.1 (by omega)) fun _ ↦ .ite (fun h ↦ absurd h hne) fun _ ↦
    .ite (fun h ↦ absurd h (by omega)) fun _ ↦ triple_modify_then hrest

/-- "Clip file size in case of disk full" -/
theorem seekRound_full (hwrite : t.canWrite = true) :
    Triple (fun u ↦ u = t) (seekRound g rest 0 ofs) fun r u ↦ r = .ok 0 ∧ u = t := by
  refine triple_get_bind ?_
  rintro t rfl
  refine .ite (fun _ ↦ triple_modify_then (.ite (fun h ↦ absurd rfl h) fun _ ↦ .pure ?_))
    fun h ↦ absurd ⟨rfl, hwrite⟩ h
  rintro _ rfl
  exact ⟨rfl, rfl⟩

/-- A round in which the chain is lost, by an error of the disk or a number that is no cluster. -/
theorem seekRound_lost (hv : v = 1 ∨ v = fatDiskError) :
    Triple (fun u ↦ u = t) (seekRound g rest v ofs) fun r u ↦
      (∃ res, r = .error (.abort res) ∧ res ≠ .ok) ∧ u = t := by
  have h0 : v ≠ 0 := by
    rcases hv with rfl | rfl <;> decide
  refine triple_get_bind ?_
  rintro t rfl
  refine .ite (fun h ↦ absurd h.1 h0) fun _ ↦ .ite (fun _ ↦ .pure ?_) fun hne ↦
    .ite (fun _ ↦ .pure ?_) fun h ↦ absurd (.inl (Nat.le_of_eq (hv.resolve_right hne))) h
  · rintro t rfl
    exact ⟨⟨_, rfl, FResult.noConfusion⟩, rfl⟩
  · rintro t rfl
    exact ⟨⟨_, rfl, FResult.noConfusion⟩, rfl⟩

end Round

/-- The search ends with the last cluster of the file, because the volume is full. -/
theorem SeekEnds.of_full (hbcs : 0 < g.bcs) {j target : ℕ} (hc : Moved s t)
    (ht : FileView g ρ others V T last free l t) (hclust : l[j]? = some t.clust)
    (hlast : j + 1 = l.length) (hptr : t.fptr = (j + 1) * g.bcs) (hwrite : s.canWrite = true)
    (hlt : t.fptr < target) (hfull : ρ → freeClusters g T = ∅) :
    SeekEnds g ρ others V l target s (.ok 0) t := by
  have hend : t.fptr = l.length * g.bcs := by rw [hptr, hlast]
  have hsector : t.fptr % 512 = 0 := by rw [hend, g.mul_bcs_mod]
  refine .found (List.prefix_refl l) ht hc (fun hpos ↦ ?_) (Nat.le_of_eq hend)
    (fun h ↦ absurd hsector h) (.inr ⟨hwrite, hend, hlt, hfull⟩)
  have hpred := pred_div_of_mod_eq hbcs (Nat.mul_mod_left (j + 1) g.bcs) (hptr ▸ hpos)
  rw [Nat.mul_div_cancel _ hbcs] at hpred
  rw [hptr, Nat.succ.inj hpred]
  exact hclust

/-- **The cluster following loop**, from the beginning of cluster `j`. -/
theorem seekLoop_view (hg : g.VolumeSound) (fuel : ℕ) {j ofs : ℕ} (hfuel : ofs / g.bcs < fuel)
    (hs : FileView g ρ others V T last free l s) (hclust : l[j]? = some s.clust)
    (hptr : s.fptr = j * g.bcs) (hpos : 0 < ofs)
    (hmore : s.canWrite = true ∨ s.fptr + ofs ≤ l.length * g.bcs) :
    Triple (fun t ↦ t = s) (seekLoop g fuel s.clust ofs)
      (SeekEnds g ρ others V l (s.fptr + ofs) s) := by
  have hbcs := g.bcs_pos hg
  induction fuel generalizing j ofs s T last free l with
  | zero => exact absurd hfuel (Nat.not_lt_zero _)
  | succ fuel ih =>
    refine .ite (fun hlt ↦ ?_) fun hle ↦
      seekSector_view hg hs hclust hptr hpos (Nat.le_of_not_lt hle)
    have hptr' : s.fptr + g.bcs = (j + 1) * g.bcs := by rw [hptr, Nat.succ_mul]
    have hsum : s.fptr + ofs = s.fptr + g.bcs + (ofs - g.bcs) := by omega
    have hmore' : s.canWrite = true ∨ j + 1 < l.length := hmore.imp_right fun h ↦ by
      refine Nat.lt_of_mul_lt_mul_right (a := g.bcs) ?_
      omega
    have hfuel' : (ofs - g.bcs) / g.bcs < fuel := by
      have := Nat.div_eq_sub_div hbcs (Nat.le_of_lt hlt)
      omega
    refine triple_modify_then (.bind (seekCluster_view hg (hs.moved s.clust (s.fptr + g.bcs)) hclust
      hmore') fun r ↦ ?_)
    rintro t ⟨htc, v, T', last', free', rfl, hstretched, ht⟩
    have hmoved : Moved s t := by rw [Moved, htc]
    have htptr : t.fptr = s.fptr + g.bcs := by rw [htc]
    have htwrite : t.canWrite = s.canWrite := by rw [htc]
    have hsclust : t.sclust = l.headD 0 := by rw [htc]; exact hs.sclust
    -- The next round, in the cluster `v`.
    have hround : ∀ l', l <+: l' → FileView g ρ others V T' last' free' l' t →
        l'[j + 1]? = some v → Triple (fun u ↦ u = t) (seekRound g (seekLoop g fuel) v ofs)
          (SeekEnds g ρ others V l (s.fptr + ofs) s) := by
      intro l' hl hview hv
      have hin : t.canWrite = true ∨ t.fptr + (ofs - g.bcs) ≤ l'.length * g.bcs :=
        hmore.imp (htwrite.trans ·) fun h ↦ by
          have := Nat.mul_le_mul_right g.bcs hl.length_le
          omega
      have hrest := ih hfuel' (hview.moved v t.fptr) hv (htptr.trans hptr') (by omega) hin
      rw [hsum, ← htptr]
      exact seekRound_next hg hview (List.mem_of_getElem? hv) (hrest.weaken (fun _ h ↦ h) fun _ _ h ↦
        h.of_prefix hl (by rw [Moved] at hmoved ⊢; rw [hmoved]))
    refine (?_ : Triple (fun u ↦ u = t) _ (SeekEnds g ρ others V l (s.fptr + ofs) s)) t rfl
    cases hstretched with
    | follows hv =>
      have hview := hs.extended (List.prefix_refl l) hmoved ht hs.chain hsclust
      exact hround l (List.prefix_refl l) hview hv
    | grown hi hv hchain =>
      have hhead : t.sclust = (l ++ [v]).headD 0 := by
        obtain ⟨c, l, rfl⟩ := List.exists_cons_of_ne_nil (List.ne_nil_of_length_eq_add_one hi.symm)
        exact hsclust
      have hview := hs.extended (List.prefix_append l [v]) hmoved ht hchain hhead
      exact hround _ (List.prefix_append l [v]) hview (hi ▸ List.getElem?_concat_length)
    | full hi hfull =>
      have hview := hs.extended (List.prefix_refl l) hmoved ht hs.chain hsclust
      have hwrite := hmore'.resolve_right (by omega)
      refine (seekRound_full (htwrite.trans hwrite)).weaken (fun _ h ↦ h) ?_
      rintro r t ⟨rfl, rfl⟩
      exact .of_full hbcs hmoved hview (by rw [htc]; exact hclust) hi (htptr.trans hptr') hwrite
        (by omega) hfull
    | lost hv hρ h =>
      refine (seekRound_lost hv).weaken (fun _ h ↦ h) ?_
      rintro r t ⟨⟨res, rfl, hres⟩, rfl⟩
      exact .lost hres hρ ht hmoved

/-! ### The position -/

/-- How the first cluster of the file is entered. -/
inductive FirstEntered (g : FatGeometry) (ρ : Prop) (others : List (List ℕ)) (V : Memory)
    (l : List ℕ) (s : FatFile) : Except Halt ℕ → FatFile → Prop
  | entered {T' : ℕ → ℕ} {last' free' : ℕ} {l' : List ℕ} {t : FatFile} (hl : l <+: l')
    (ht : FileView g ρ others V T' last' free' l' t) (hc : Moved s t) (hptr : t.fptr = s.fptr)
    (hclust : l'[0]? = some t.clust) : FirstEntered g ρ others V l s (.ok t.clust) t
  | full {T' : ℕ → ℕ} {last' free' : ℕ} {t : FatFile} (hnil : l = [])
    (ht : FileView g ρ others V T' last' free' [] t) (hc : Moved s t) (hptr : t.fptr = s.fptr)
    (hfull : ρ → freeClusters g T' = ∅) : FirstEntered g ρ others V l s (.ok 0) t
  | lost {T' : ℕ → ℕ} {last' free' : ℕ} {res : FResult} {t : FatFile} (hres : res ≠ .ok)
    (hρ : ¬ ρ) (ht : FileShows g ρ others V T' last' free' t) (hc : Moved s t) :
    FirstEntered g ρ others V l s (.error (.abort res)) t

/-- A file without a cluster gets its first one when the pointer is to be moved. -/
theorem firstCluster_view (hg : g.VolumeSound) (hs : FileView g ρ others V T last free l s) :
    Triple (fun t ↦ t = s) (firstCluster g) (FirstEntered g ρ others V l s) := by
  refine triple_get_bind ?_
  rintro s rfl
  refine .ite (fun h0 ↦ ?_) fun h0 ↦ triple_modify_then (.pure ?_)
  · -- An empty file: a chain is begun.
    have hnil : l = [] := by
      cases l with
      | nil => rfl
      | cons c l => exact absurd (hs.sclust.symm.trans h0) (hs.chain.sound hg List.mem_cons_self).1
    subst hnil
    refine .bind (createChain_view hg hs (.inl ⟨rfl, rfl, rfl⟩)) fun r ↦ ?_
    rintro t ⟨htc, v, T', last', free', rfl, hstretched, ht⟩
    have hmoved : Moved s t := by rw [Moved, htc]
    have hset : ∀ v, Moved s { t with sclust := v, clust := v } := fun v ↦ by rw [Moved, htc]
    have hptr : t.fptr = s.fptr := by rw [htc]
    refine (?_ : Triple (fun u ↦ u = t) _ (FirstEntered g ρ others V [] s)) t rfl
    have hshows : FileShows g ρ others V T' last' free' { t with sclust := v, clust := v } :=
      ⟨ht.data, ht.rest, ht.sect, ht.dirty⟩
    cases hstretched with
    | follows h => exact absurd h (by simp)
    | grown _ hv hchain =>
      obtain ⟨h0, h1, he⟩ := hchain.sound hg (c := v) (by simp)
      refine .ite (fun h ↦ absurd h h1) fun _ ↦ .ite (fun h ↦ absurd h he) fun _ ↦
        triple_modify_then (.pure ?_)
      rintro _ rfl
      exact .entered List.nil_prefix (hs.extended List.nil_prefix (hset v) hshows hchain rfl)
        (hset v) hptr rfl
    | full _ hfull =>
      refine .ite (fun h ↦ absurd h (by decide)) fun _ ↦ .ite (fun h ↦ absurd h (by decide)) fun _ ↦
        triple_modify_then (.pure ?_)
      rintro _ rfl
      exact .full rfl (hs.extended List.nil_prefix (hset 0) hshows hs.chain rfl) (hset 0) hptr hfull
    | lost hv hρ h =>
      have hlost : ∀ res, res ≠ .ok → FirstEntered g ρ others V [] s (.error (.abort res)) t :=
        fun res hres ↦ .lost hres hρ ht hmoved
      refine .ite (fun _ ↦ .pure ?_) fun hne ↦ .ite (fun _ ↦ .pure ?_) fun h ↦
        absurd (hv.resolve_left hne) h
      · rintro t rfl
        exact hlost _ FResult.noConfusion
      · rintro t rfl
        exact hlost _ FResult.noConfusion
  · rintro _ rfl
    obtain ⟨c, l, rfl⟩ := List.exists_cons_of_ne_nil (l := l) fun hnil ↦
      h0 (by rw [hs.sclust, hnil]; rfl)
    exact .entered (t := { s with clust := s.sclust }) (List.prefix_refl _) (hs.moved _ _) rfl rfl
      (congrArg some hs.sclust.symm)

/-- **The new file pointer.** -/
theorem seekPointer_view (hg : g.VolumeSound) (hs : FileView g ρ others V T last free l s)
    (hp : Placed g l s.fptr s) (hle : s.fptr ≤ s.objsize) {target : ℕ}
    (hmore : s.canWrite = true ∨ target ≤ l.length * g.bcs) :
    Triple (fun t ↦ t = s) (seekPointer g s.fptr target) (SeekEnds g ρ others V l target s) := by
  have hbcs := g.bcs_pos hg
  have hsize := hs.size_lt
  refine triple_modify_then (.ite (fun hpos ↦ .ite (fun hnear ↦ ?_) fun _ ↦ ?_) fun hzero ↦ .pure ?_)
  · -- From the cluster of the old file pointer.
    obtain ⟨hptr, hblock⟩ := hnear
    rw [andNot32_bcs hg (by omega)]
    have hstart : (s.fptr - 1) / g.bcs * g.bcs < target := by
      have h₁ := Nat.mul_le_mul_right g.bcs hblock
      have h₂ := Nat.div_mul_le_self (target - 1) g.bcs
      omega
    refine triple_modify_then (triple_get_bind ?_)
    rintro _ rfl
    obtain ⟨h0, -, -⟩ := hs.chain.sound hg (List.mem_of_getElem? (hp.clust hptr))
    refine .ite (fun _ ↦ ?_) fun h ↦ absurd h0 h
    have hsum := Nat.add_sub_cancel' (Nat.le_of_lt hstart)
    have hloop := seekLoop_view hg _ (Nat.lt_succ_self _)
      (hs.moved s.clust ((s.fptr - 1) / g.bcs * g.bcs)) (hp.clust hptr) rfl
      (Nat.sub_pos_of_lt hstart) (by show _ ∨ _ + _ ≤ _; rw [hsum]; exact hmore) _ rfl
    dsimp only at hloop
    rw [hsum] at hloop
    have hmoved : Moved s { s with clust := s.clust, fptr := (s.fptr - 1) / g.bcs * g.bcs } := rfl
    rintro _ rfl
    exact hloop.of_prefix (List.prefix_refl l) hmoved
  · -- From the first cluster.
    refine .bind (firstCluster_view hg (hs.moved s.clust 0)) fun r ↦ ?_
    rintro t hfirst
    have hmoved : ∀ u, Moved { s with clust := s.clust, fptr := 0 } u → Moved s u := fun u hu ↦ by
      rw [Moved] at hu ⊢
      rw [hu]
    have hwrite : ∀ u, Moved s u → u.canWrite = s.canWrite := fun u hu ↦ by
      rw [Moved] at hu
      rw [hu]
    cases hfirst with
    | @entered T' last' free' l' t hl ht hc hptr hclust =>
      obtain ⟨h0, -, -⟩ := ht.chain.sound hg (List.mem_of_getElem? hclust)
      have hzero : t.fptr = 0 := hptr
      have hloop := seekLoop_view hg _ (Nat.lt_succ_self (target / g.bcs)) ht hclust
        (by rw [hzero, Nat.zero_mul]) hpos (by
          have := Nat.mul_le_mul_right g.bcs hl.length_le
          rw [hwrite t (hmoved t hc)]
          exact hmore.imp_right fun h ↦ by omega) t rfl
      rw [hzero, Nat.zero_add] at hloop
      have hrun : seekChain g t.clust target = seekLoop g (target / g.bcs + 1) t.clust target :=
        if_pos h0
      show SeekEnds g ρ others V l target s (seekChain g t.clust target t).1
        (seekChain g t.clust target t).2
      rw [hrun]
      exact hloop.of_prefix hl (hmoved t hc)
    | full hnil ht hc hptr hfull =>
      subst hnil
      have hzero : t.fptr = 0 := hptr
      have hgrows := hmore.resolve_right fun h ↦ by
        rw [List.length_nil, Nat.zero_mul] at h
        omega
      have hend : t.fptr = ([] : List ℕ).length * g.bcs := by
        rw [hzero, List.length_nil, Nat.zero_mul]
      have hfound : SeekEnds g ρ others V [] target s (.ok 0) t :=
        .found (List.prefix_refl []) ht (hmoved t hc) (fun h ↦ by omega) (Nat.le_of_eq hend)
          (fun h ↦ by omega) (.inr ⟨hgrows, hend, by omega, hfull⟩)
      exact hfound
    | lost hres hρ ht hc => exact .lost hres hρ ht (hmoved t hc)
  · rintro _ rfl
    obtain rfl : target = 0 := Nat.eq_zero_of_not_pos hzero
    exact .found (List.prefix_refl l) (hs.moved s.clust 0) rfl (fun h ↦ absurd h (by simp))
      (Nat.zero_le _) (fun h ↦ absurd rfl h) (.inl rfl)

/-! ### The function -/

/-- **What `f_lseek` does to a file.** -/
structure Sought (g : FatGeometry) (ρ : Prop) (others : List (List ℕ)) (V : Memory) (l : List ℕ)
    (target : ℕ) (s t : FatFile) : Prop where
  view : ∃ T' last' free' l', l <+: l' ∧ FileView g ρ others V T' last' free' l' t ∧
    Placed g l' t.fptr t ∧ (t.fptr ≠ target → s.canWrite = true ∧ t.fptr = l'.length * g.bcs ∧
      t.fptr < target ∧ (ρ → freeClusters g T' = ∅))
  objsize : t.objsize = max s.objsize t.fptr
  same : SameSession s t

/-- The position that is sought: a file that may not be written is not extended. -/
def seekTarget (s : FatFile) (ofs : ℕ) : ℕ := if s.objsize < ofs ∧ !s.canWrite then s.objsize else ofs

/-- The size covers the file pointer. -/
theorem FileView.extendSize (hs : FileView g ρ others V T last free l s)
    (hfit : s.fptr ≤ l.length * g.bcs) (hlt : s.fptr < 0x100000000) :
    FileView g ρ others V T last free l s.extendSize := by
  rw [FatFile.extendSize]
  split
  · exact ⟨⟨hs.data, hs.rest, hs.sect, hs.dirty⟩, ⟨hs.chain, hs.sclust, hfit, hlt, hs.err⟩, hs.buf⟩
  · exact hs

/-- The sector at the file pointer is in the buffer, if it is inside of one. -/
theorem seekLoad_view (hg : g.VolumeSound) (hs : FileView g ρ others V T last free l s)
    (hclust : 0 < s.fptr → l[(s.fptr - 1) / g.bcs]? = some s.clust)
    (hfit : s.fptr ≤ l.length * g.bcs) {nsect : ℕ}
    (hsect : s.fptr % 512 ≠ 0 → nsect = g.sectorOf l (s.fptr / 512)) :
    Triple (fun t ↦ t = s) (seekLoad nsect) fun res t ↦ Cached s t ∧
      (res = .ok ∧ FileView g ρ others V T last free l t ∧ Placed g l t.fptr t ∨
        res = .diskErr ∧ ¬ ρ ∧ FileShows g ρ others V T last free t) := by
  refine triple_get_bind ?_
  rintro s rfl
  refine .ite (fun hodd ↦ ?_) fun hodd ↦ .pure ?_
  · have hne : s.fptr ≠ l.length * g.bcs := fun h ↦ hodd (by
      rw [h, g.mul_bcs_mod])
    have hspare : g.SpareSector others nsect := by
      rw [hsect hodd]
      exact hs.chain.spare hg (g.div_csize_lt hg (Nat.lt_of_le_of_ne hfit hne))
    refine (loadSector_view hg hs hspare).weaken (fun _ h ↦ h) ?_
    rintro res t ⟨htc, hct, hres⟩
    have hptr : t.fptr = s.fptr := by
      rw [Cached] at htc
      rw [htc]
    refine ⟨htc, hres.imp_left ?_⟩
    rintro ⟨hok, ht, hts⟩
    refine ⟨hok, ht, ?_⟩
    rw [hptr]
    exact ⟨fun h ↦ by rw [hct]; exact hclust h, fun h ↦ by rw [hts]; exact hsect h⟩
  · rintro s rfl
    exact ⟨.refl s, .inl ⟨rfl, hs, hclust, fun h ↦ absurd h hodd⟩⟩

/-- To change the buffer is no new session. -/
theorem Cached.same (h : Cached s t) : SameSession s t := by
  rw [Cached] at h
  exact ⟨by rw [h], by rw [h], by rw [h], by rw [h]⟩

/-- To move the pointer is no new session. -/
theorem Moved.same (h : Moved s t) : SameSession s t := by
  rw [Moved] at h
  exact ⟨by rw [h], by rw [h], by rw [h], by rw [h]⟩

/-- The size after a seek is that of the file or the position that was reached. -/
theorem FatFile.extendSize_spec (s : FatFile) : s.extendSize.fptr = s.fptr ∧
    s.extendSize.clust = s.clust ∧ s.extendSize.objsize = max s.objsize s.fptr ∧
    SameSession s s.extendSize := by
  rw [FatFile.extendSize]
  split
  · rename_i h
    exact ⟨rfl, rfl, (Nat.max_eq_right (Nat.le_of_lt h)).symm, rfl, rfl, rfl, rfl⟩
  · rename_i h
    exact ⟨rfl, rfl, (Nat.max_eq_left (Nat.le_of_not_lt h)).symm, .refl s⟩

/-- An object that is given up with an error. -/
theorem FileShows.givenUp {T' : ℕ → ℕ} {last' free' : ℕ} {res : FResult} (hρ : ¬ ρ)
    (hres : res ≠ .ok) (ht : FileShows g ρ others V T' last' free' t) :
    GivenUp g ρ others V res { t with err := res } :=
  ⟨hρ, rfl, hres, V, T', last', free', ht.aborted res, fun _ _ ↦ rfl⟩

/-- **How a call ends**: as it should, or with an error of the disk. -/
def CallEnds (g : FatGeometry) (ρ : Prop) (others : List (List ℕ)) (V : Memory) (s : FatFile)
    (Q : FatFile → Prop) (r : Option FResult) (t : FatFile) : Prop :=
  r = some .ok ∧ Q t ∨
    ∃ res, r = some res ∧ GivenUp g ρ others V res t ∧ SameSession s t

/-- **`f_lseek`** moves the file pointer to the position, and extends the file up to it if it may be
written, as far as there is room; the bytes of the file stay what they are. -/
theorem fLseek_view (hg : g.VolumeSound) (hs : FileView g ρ others V T last free l s)
    (hp : Placed g l s.fptr s) (hle : s.fptr ≤ s.objsize) {check : FResult} (hcheck : check = .ok)
    (ofs : UInt32) :
    Triple (fun t ↦ t = s) (fLseek g check ofs)
      (CallEnds g ρ others V s (Sought g ρ others V l (seekTarget s ofs.toNat) s)) := by
  have hmore : s.canWrite = true ∨ seekTarget s ofs.toNat ≤ l.length * g.bcs := by
    have := hs.size_le
    rw [seekTarget]
    cases s.canWrite
    · right
      split
      · assumption
      · rename_i h
        simp only [Bool.not_false, and_true] at h
        omega
    · exact .inl rfl
  have hlt : seekTarget s ofs.toNat < 0x100000000 := by
    have h₁ := hs.size_lt
    have h₂ := ofs.toNat_lt
    rw [seekTarget]
    split <;> omega
  refine triple_get_bind ?_
  rintro s rfl
  refine .ite (fun h ↦ absurd hcheck h) fun _ ↦ .ite (fun h ↦ absurd hs.err h) fun _ ↦ ?_
  refine .bind (seekPointer_view hg hs hp hle hmore) fun r ↦ ?_
  rintro t hends
  cases hends with
  | @found T' last' free' nsect l' t hl ht hc hclust hfit hsect hend =>
    obtain ⟨hxp, hxc, hxo, hxs⟩ := t.extendSize_spec
    have hsize : t.objsize = s.objsize := by rw [Moved] at hc; rw [hc]
    have hptr : t.fptr < 0x100000000 := by
      rcases hend with h | ⟨-, -, h, -⟩
      · exact h.trans_lt hlt
      · exact h.trans hlt
    refine (?_ : Triple (fun u ↦ u = t) _ (CallEnds g ρ others V s _)) t rfl
    refine triple_modify_then (.bind (seekLoad_view hg (ht.extendSize hfit hptr) (by rwa [hxp, hxc])
      (by rwa [hxp]) (by rwa [hxp])) fun res ↦ .ite (fun hres ↦ .pure ?_) fun hres ↦
        triple_modify_bind (.pure ?_))
    · rintro u ⟨huc, hu⟩
      obtain ⟨-, hview, hplaced⟩ := hu.resolve_right fun h ↦ FResult.noConfusion (hres.symm.trans h.1)
      have huptr : u.fptr = t.fptr := by rw [Cached] at huc; rw [huc, hxp]
      have huobj : u.objsize = max s.objsize t.fptr := by rw [Cached] at huc; rw [huc, ← hsize, ← hxo]
      refine .inl ⟨rfl, ⟨T', last', free', l', hl, hview, hplaced, fun hne ↦ ?_⟩, ?_, ?_⟩
      · rw [huptr] at hne ⊢
        exact hend.resolve_left hne
      · rw [huptr]
        exact huobj
      · exact hc.same.trans (hxs.trans huc.same)
    · rintro _ ⟨u, ⟨huc, hu⟩, rfl⟩
      obtain ⟨rfl, hρ, hshows⟩ := hu.resolve_left fun h ↦ hres h.1
      have hsame := hc.same.trans (hxs.trans huc.same)
      exact .inr ⟨_, rfl, hshows.givenUp hρ hres,
        ⟨hsame.canRead, hsame.canWrite, hsame.dirSect, hsame.dirPtr⟩⟩
  | @lost T' last' free' res t hres hρ ht hc =>
    have hsame := hc.same
    exact .inr ⟨_, rfl, ht.givenUp hρ hres,
      ⟨hsame.canRead, hsame.canWrite, hsame.dirSect, hsame.dirPtr⟩⟩

/-! ### Cutting the file off -/

/-- `remove_chain` on the rest of the chain of an open file. -/
theorem removeChain_view (hg : g.VolumeSound) {k l₂ : List ℕ} {c : ℕ}
    (hs : FileView g ρ others V T last free (k ++ c :: l₂) s) :
    Triple (fun t ↦ t = s) (onFs (removeChain g c (k.getLastD 0))) fun r t ↦
      t = { s with fs := t.fs } ∧ ∃ res T' free', r = some res ∧
        FileShows g ρ others V T' last free' t ∧
        (res = .ok ∧ FileChain g ρ others T' free' k ∨ res ≠ .ok ∧ ¬ ρ) := by
  rintro s rfl
  obtain ⟨D, hdata, hV⟩ := hs.data
  obtain ⟨res, T', free', hr, hremoved, hdata'⟩ := removeChain_data hg c (k.getLastD 0) s.fs hdata
  refine ⟨rfl, res, T', free', hr, ?_⟩
  rcases hremoved.shortened hg.toChainSound hs.chain with ⟨rfl, hchain⟩ | ⟨rfl, hρ, hothers⟩
  · exact ⟨⟨⟨D, hdata', hV⟩, hchain.linked.tail, hs.sect, hs.dirty⟩, .inl ⟨rfl, hchain⟩⟩
  · exact ⟨⟨⟨D, hdata', hV⟩, hothers, hs.sect, hs.dirty⟩, .inr ⟨FResult.noConfusion, hρ⟩⟩

/-- How the clusters after the file pointer are given back. -/
inductive CutEnds (g : FatGeometry) (ρ : Prop) (others : List (List ℕ)) (V : Memory) (l : List ℕ)
    (s : FatFile) : Option FResult → FatFile → Prop
  | cut {T' : ℕ → ℕ} {free' last' : ℕ} {l' : List ℕ} {t : FatFile} (hl : l' <+: l)
    (ht : FileShows g ρ others V T' last' free' t) (hchain : FileChain g ρ others T' free' l')
    (hc : t = { s with fs := t.fs, sclust := t.sclust }) (hsclust : t.sclust = l'.headD 0)
    (hfit : s.fptr ≤ l'.length * g.bcs) : CutEnds g ρ others V l s (some .ok) t
  | lost {T' : ℕ → ℕ} {free' last' : ℕ} {res : FResult} {t : FatFile} (hres : res ≠ .ok)
    (hρ : ¬ ρ) (ht : FileShows g ρ others V T' last' free' t)
    (hc : t = { s with fs := t.fs, sclust := t.sclust }) :
    CutEnds g ρ others V l s (some res) t

/-- The entry of a cluster of the chain names the next one, or it is the last. -/
theorem FileChain.next (h : FileChain g ρ others T free l) {j c : ℕ} (hc : l[j]? = some c) :
    l[j + 1]? = some (T c) ∨ l.length = j + 1 ∧ g.nFatent ≤ T c := by
  obtain ⟨hlt, hget⟩ := List.getElem?_eq_some_iff.1 hc
  rcases Nat.lt_or_ge (j + 1) l.length with hmore | hend
  · have hnext := List.getElem?_eq_getElem hmore
    exact .inl (by rw [h.entry hc hnext, hnext])
  · have hlen : l.length = j + 1 := by omega
    obtain ⟨l₁, x, rfl, -⟩ := exists_snoc (List.ne_nil_of_length_eq_add_one hlen)
    have hx : x = c := by
      rw [List.length_append, List.length_singleton] at hlen
      have hlast : (l₁ ++ [x])[l₁.length]? = some x := List.getElem?_concat_length
      rw [Nat.succ.inj hlen, hc] at hlast
      exact (Option.some.inj hlast).symm
    exact .inr ⟨hlen, hx ▸ h.linked.last_entry.2⟩

/-- With the pointer inside of the file, the chain ends behind the cluster of the pointer. -/
theorem cutChain_view (hg : g.VolumeSound) (hs : FileView g ρ others V T last free l s)
    (hp : Placed g l s.fptr s) (hpos : 0 < s.fptr) :
    Triple (fun t ↦ t = s) (cutChain g s) (CutEnds g ρ others V l s) := by
  have hbcs := g.bcs_pos hg
  have hclust := hp.clust hpos
  generalize hj : (s.fptr - 1) / g.bcs = j at hclust
  obtain ⟨hjlt, hget⟩ := List.getElem?_eq_some_iff.1 hclust
  have hvalid := hs.chain.valid _ (List.mem_of_getElem? hclust)
  have hblock : s.fptr ≤ (j + 1) * g.bcs := by
    have := Nat.lt_mul_div_succ (s.fptr - 1) hbcs
    rw [hj, Nat.mul_comm] at this
    omega
  refine .bind (getFat_view hg hs s.clust) fun ncl ↦ ?_
  rintro t ⟨ht, htc, hr⟩
  have hmoved : t = { s with fs := t.fs, sclust := t.sclust } := by rw [htc]
  refine (?_ : Triple (fun u ↦ u = t) _ (CutEnds g ρ others V l s)) t rfl
  refine .ite (fun herr ↦ .pure ?_) fun herr ↦ ?_
  · rintro t rfl
    obtain ⟨-, hρ⟩ := hr.resolve_left fun h ↦ h.2 herr
    exact .lost FResult.noConfusion hρ ht.toFileShows hmoved
  have hncl : ncl = T s.clust := by
    rw [(hr.resolve_right fun h ↦ herr h.1).1, lookupFat, if_pos hvalid]
  have hnext := hs.chain.next hclust
  rw [← hncl] at hnext
  have hone : ncl ≠ 1 := by
    rcases hnext with h | ⟨-, h⟩
    · exact (hs.chain.sound hg (List.mem_of_getElem? h)).2.1
    · have := hg.two_lt
      omega
  refine .ite (fun h ↦ absurd h hone) fun _ ↦ .ite (fun hmid ↦ ?_) fun hend ↦ .pure ?_
  · -- There is a next cluster.
    obtain ⟨hlt, hnext⟩ := List.getElem?_eq_some_iff.1
      (hnext.resolve_right fun h ↦ Nat.not_lt_of_le h.2 hmid)
    have hsplit : l = l.take (j + 1) ++ ncl :: l.drop (j + 1 + 1) := by
      rw [← hnext, List.getElem_cons_drop, List.take_append_drop]
    have hlast : (l.take (j + 1)).getLastD 0 = s.clust := by
      rw [List.take_add_one, hclust]
      simp
    have hlen : (l.take (j + 1)).length = j + 1 := List.length_take_of_le (by omega)
    rw [hsplit] at ht
    rw [← hlast]
    refine (removeChain_view hg ht).weaken (fun _ h ↦ h) ?_
    rintro r u ⟨huc, res, T', free', rfl, hu, hres⟩
    have hmoved' : u = { s with fs := u.fs, sclust := u.sclust } := by rw [huc, htc]
    rcases hres with ⟨rfl, hchain⟩ | ⟨hne, hρ⟩
    · refine .cut (List.take_prefix _ l) hu hchain hmoved' ?_ (hlen.symm ▸ hblock)
      have hsclust : u.sclust = l.headD 0 := by rw [huc, htc]; exact hs.sclust
      rw [hsclust]
      cases l with
      | nil => rfl
      | cons c l => rfl
    · exact .lost hne hρ hu hmoved'
  · rintro t rfl
    exact .cut (List.prefix_refl l) ht.toFileShows hs.chain hmoved (by rw [htc]; exact hs.sclust)
      (hblock.trans (Nat.mul_le_mul_right _ hjlt))

/-- `f_truncate` frees the clusters behind the pointer, or all of them when it is at 0. -/
theorem truncateChain_view (hg : g.VolumeSound) (hs : FileView g ρ others V T last free l s)
    (hp : Placed g l s.fptr s) (hlt : s.fptr < s.objsize) :
    Triple (fun t ↦ t = s) (truncateChain g) (CutEnds g ρ others V l s) := by
  refine triple_get_bind ?_
  rintro s rfl
  refine .ite (fun h0 ↦ ?_) fun h0 ↦ cutChain_view hg hs hp (Nat.pos_of_ne_zero h0)
  obtain ⟨c, l, rfl⟩ := List.exists_cons_of_ne_nil (l := l) fun hnil ↦ by
    have := hs.size_le
    rw [hnil, List.length_nil, Nat.zero_mul] at this
    omega
  have hsclust : s.sclust = c := hs.sclust
  rw [hsclust]
  refine .bind (removeChain_view (k := []) hg hs) fun r ↦ triple_modify_bind (.pure ?_)
  rintro _ ⟨t, ⟨htc, res, T', free', rfl, ht, hres⟩, rfl⟩
  have hshows : FileShows g ρ others V T' last free' { t with sclust := 0 } :=
    ⟨ht.data, ht.rest, ht.sect, ht.dirty⟩
  rcases hres with ⟨rfl, hchain⟩ | ⟨hne, hρ⟩
  · refine .cut List.nil_prefix hshows hchain ?_ rfl (by omega)
    rw [htc]
  · refine .lost hne hρ hshows ?_
    rw [htc]

/-- **What `f_truncate` does to a file.** -/
structure Truncated (g : FatGeometry) (ρ : Prop) (others : List (List ℕ)) (V : Memory)
    (l : List ℕ) (s t : FatFile) : Prop where
  view : ∃ T' last' free' l', l' <+: l ∧ FileView g ρ others V T' last' free' l' t ∧
    Placed g l' t.fptr t
  fptr : t.fptr = s.fptr
  objsize : t.objsize = s.fptr
  same : SameSession s t

/-- A position in what is left of the chain. -/
theorem Placed.of_prefix (hg : g.VolumeSound) {l' : List ℕ} {p : ℕ} (hp : Placed g l p s)
    (hl : l' <+: l) (hfit : p ≤ l'.length * g.bcs) : Placed g l' p s := by
  obtain ⟨ext, rfl⟩ := hl
  have hbcs := g.bcs_pos hg
  constructor
  · intro hpos
    have hidx : (p - 1) / g.bcs < l'.length := (Nat.div_lt_iff_lt_mul hbcs).2 (by omega)
    rw [← hp.clust hpos, List.getElem?_append_left hidx]
  · intro hodd
    have hne : p ≠ l'.length * g.bcs := fun h ↦ hodd (by
      rw [h, g.mul_bcs_mod])
    rw [hp.sect hodd, g.sectorOf_append ext (g.div_csize_lt hg (Nat.lt_of_le_of_ne hfit hne))]

/-- The buffer is written back. -/
theorem truncateBack_view (hg : g.VolumeSound) (hs : FileView g ρ others V T last free l s) :
    Triple (fun t ↦ t = s) (truncateBack .ok) fun res t ↦ FileView g ρ others V T last free l t ∧
      t = { s with fs := t.fs, dirty := t.dirty } ∧ (res = .ok ∨ res ≠ .ok ∧ ¬ ρ) := by
  refine .ite (fun _ ↦ ?_) fun h ↦ absurd rfl h
  refine .bind (writeBack_view hg hs) fun ok ↦ .ite (fun hok ↦ .pure ?_) fun hok ↦ .pure ?_
  · rintro t ⟨ht, htc, -⟩
    exact ⟨ht, htc, .inl rfl⟩
  · rintro t ⟨ht, htc, hres⟩
    obtain ⟨-, hρ⟩ := hres.resolve_left fun h ↦ hok h.1
    exact ⟨ht, htc, .inr ⟨FResult.noConfusion, hρ⟩⟩

/-- **`f_truncate`** cuts the file off at the file pointer. -/
theorem fTruncate_view (hg : g.VolumeSound) (hs : FileView g ρ others V T last free l s)
    (hp : Placed g l s.fptr s) (hle : s.fptr ≤ s.objsize) {check : FResult} (hcheck : check = .ok)
    (hwrite : s.canWrite = true) :
    Triple (fun t ↦ t = s) (fTruncate g check)
      (CallEnds g ρ others V s (Truncated g ρ others V l s)) := by
  refine triple_get_bind ?_
  rintro s rfl
  refine .ite (fun h ↦ absurd hcheck h) fun _ ↦ .ite (fun h ↦ absurd hs.err h) fun _ ↦
    .ite (fun h ↦ absurd hwrite (by simpa using h)) fun _ ↦ .ite (fun hlt ↦ ?_) fun hge ↦ .pure ?_
  · refine .bind (truncateChain_view hg hs hp hlt) fun r ↦ ?_
    rintro t hends
    cases hends with
    | @cut T' free' last' l' t hl ht hchain hc hsclust hfit =>
      have hptr : t.fptr = s.fptr := by rw [hc]
      have hsame : SameSession s t := by rw [hc]; exact ⟨rfl, rfl, rfl, rfl⟩
      -- The object with the new size.
      have hview : FileView g ρ others V T' last' free' l'
          { t with objsize := t.fptr, modified := true } := by
        refine ⟨⟨ht.data, ht.rest, ht.sect, ht.dirty⟩, ⟨hchain, hsclust, ?_, ?_, ?_⟩, ?_⟩
        · show t.fptr ≤ _
          rw [hptr]
          exact hfit
        · have := hs.size_lt
          show t.fptr < _
          omega
        · rw [hc]
          exact hs.err
        · rw [hc]
          exact hs.buf
      have hplaced := hp.of_prefix hg hl hfit
      refine (?_ : Triple (fun u ↦ u = t) _ (CallEnds g ρ others V s _)) t rfl
      refine triple_modify_then (.bind (truncateBack_view hg hview) fun res ↦
        .ite (fun hres ↦ .pure ?_) fun hres ↦ triple_modify_bind (.pure ?_))
      · rintro u ⟨hu, huc, -⟩
        have huptr : u.fptr = s.fptr := by rw [huc]; exact hptr
        refine .inl ⟨rfl, ⟨T', last', free', l', hl, hu, ?_⟩, huptr, ?_, ?_⟩
        · rw [huptr, huc, hc]
          exact ⟨hplaced.clust, hplaced.sect⟩
        · rw [huc]
          exact hptr
        · rw [huc]
          exact ⟨hsame.canRead, hsame.canWrite, hsame.dirSect, hsame.dirPtr⟩
      · rintro _ ⟨u, ⟨hu, huc, hend⟩, rfl⟩
        obtain ⟨hne, hρ⟩ := hend.resolve_left hres
        refine .inr ⟨res, rfl, hu.toFileShows.givenUp hρ hne, ?_⟩
        rw [huc]
        exact ⟨hsame.canRead, hsame.canWrite, hsame.dirSect, hsame.dirPtr⟩
    | @lost T' free' last' res t hres hρ ht hc =>
      have hback : truncateBack res = pure res := if_neg hres
      refine (?_ : Triple (fun u ↦ u = t) _ (CallEnds g ρ others V s _)) t rfl
      refine triple_modify_then ?_
      show Triple _ (truncateBack res >>= _) _
      rw [hback]
      refine .bind (Q := fun r u ↦ r = res ∧ u = { t with objsize := t.fptr, modified := true })
        (.pure fun u h ↦ ⟨rfl, h⟩) fun r ↦ .of_fact fun hr ↦
          .ite (fun h ↦ absurd (hr.symm.trans h) hres) fun _ ↦ ?_
      refine triple_modify_then (.pure ?_)
      rintro _ rfl
      have hshows : FileShows g ρ others V T' last' free'
          { t with objsize := t.fptr, modified := true } := ⟨ht.data, ht.rest, ht.sect, ht.dirty⟩
      subst hr
      refine .inr ⟨_, rfl, hshows.givenUp hρ hres, ?_⟩
      rw [hc]
      exact ⟨rfl, rfl, rfl, rfl⟩
  · rintro s rfl
    have hend : s.fptr = s.objsize := by omega
    exact .inl ⟨rfl, ⟨T, last, free, l, List.prefix_refl l, hs, hp⟩, rfl, hend.symm, .refl s⟩
