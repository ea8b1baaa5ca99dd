import SmartAp.Fat.Directory

/-!
# The way through a directory

`dir_sdi` goes to an entry of the list (`dirSdi_view`), and `dir_next` from one entry to the next
(`dirNext_view`). A loop over the table is a recursion on the list (`scanDir_view`): which calls of
the disk the window, the FAT and the chain need for it is not seen above, but for the calls that
fail.

## One step

`dir_next` has three ways. In the middle of a sector only the pointer moves. At the end of a sector
it goes to the next one, which is another sector of the fixed area (`nextSector_fixed`) or of the
same cluster, or the first of the next cluster (`nextSector_dir`, `nextCluster_entry`); the chain is
followed with `get_fat`. At the end of the table it ends with `FR_NO_FILE`, and the object stands
nowhere.

## The loop

`dir_find` and `dir_read` are loops of one shape: move the window, look at the entry, decide, go on.
So `scanDir` is that loop with the decision as a parameter (`Visit`), and `scanList` the same
decision folded over a list of entries. `scanDir_view` is the induction: the code with its budget
does what the recursion on the list does, or ends with an error of the disk. Everything that is said
of names is then said of lists, and the two functions share it.
-/

/-- What a loop over the table does with an entry: what it has found, or nothing yet. -/
abbrev Visit : Type :=
  (fn : Memory) → (dptr : ℕ) → (dir : Memory) → LfnSeq → LfnSeq × Option FResult

/-- A loop over the table from where the object stands. -/
def scanDir (g : FatGeometry) (visit : Visit) : (fuel : ℕ) → DirM (Option FResult)
  | 0 => return none
  | fuel + 1 => do
    let s ← get
    let res ← onDirFs (FatFs.windowPart.zoom (moveWindow g s.sect))
    if res ≠ .ok then return some res
    else
      let s ← get
      let r := visit s.fn s.dptr s.entry s.seq
      modify fun s ↦ { s with seq := r.1 }
      match r.2 with
      | some res => return some res
      | none =>
        match ← dirNext g none with
        | some .ok => scanDir g visit fuel
        | r => return r

variable {g : FatGeometry} {ρ : Prop} {others : List (List ℕ)} {D : Memory} {T : ℕ → ℕ}
  {last free : ℕ} {p : DirPlace} {s t : FatDir} {n k : ℕ}

/-! ### From entry to entry -/

/-- How `dir_next` ends when it does not stretch the table. -/
def NextEntry (g : FatGeometry) (ρ : Prop) (others : List (List ℕ)) (D : Memory) (T : ℕ → ℕ)
    (last free : ℕ) (p : DirPlace) (n : ℕ) (s : FatDir) (r : Option FResult) (t : FatDir) : Prop :=
  DirView g ρ others D T last free p t ∧ SameDir s t ∧ ∃ res, r = some res ∧
    (res = .ok ∧ DirAt g p (n + 1) t ∨
      res = .noFile ∧ n + 1 = p.capacity g ∧ t.sect = 0 ∨ res = .diskErr ∧ ¬ ρ)

/-- `get_fat` for the directory. -/
theorem getFat_dir (hg : g.DirSound) (hs : DirView g ρ others D T last free p s) (c : ℕ) :
    Triple (fun t ↦ t = s) (onDirFs (getFatFs g c)) fun r t ↦
      DirView g ρ others D T last free p t ∧ t = { s with fs := t.fs } ∧
        (r = lookupFat g T c ∧ r ≠ fatDiskError ∨ r = fatDiskError ∧ ¬ ρ) := by
  rintro s rfl
  obtain ⟨hres, hdata⟩ := getFatFs_data hg.toVolumeSound c s.fs hs.data
  exact ⟨hs.of_data hdata, rfl, hres⟩

section Chain

variable {l : List ℕ} {i c : ℕ}

/-- What the FAT says of a cluster of the chain. -/
theorem DirChains.lookup (h : DirChains g ρ T free (l :: others)) (hc : l[i]? = some c) :
    (∃ d, l[i + 1]? = some d ∧ lookupFat g T c = d ∧ g.Valid d) ∨
      i + 1 = l.length ∧ g.nFatent ≤ lookupFat g T c := by
  have hlink := h.linked
  obtain ⟨hi, -⟩ := List.getElem?_eq_some_iff.1 hc
  have hvalid := hlink.nodes l List.mem_cons_self
  rw [lookupFat, if_pos (hvalid c (List.mem_of_getElem? hc))]
  by_cases hmore : i + 1 < l.length
  · have hnext := List.getElem?_eq_getElem hmore
    have hchain : FileChain g ρ others T free l := ⟨hlink, h.counted, h.sane⟩
    have hentry := hchain.entry hc hnext
    exact .inl ⟨_, hnext, hentry, hvalid _ (List.getElem_mem hmore)⟩
  · have hlast : i + 1 = l.length := by omega
    obtain ⟨l', hl'⟩ : ∃ l', l = l' ++ [c] := by
      refine ⟨l.take i, ?_⟩
      have hsplit := List.take_add_one (l := l) (i := i)
      rw [hlast, List.take_length, hc] at hsplit
      exact hsplit
    rw [hl'] at hlink
    exact .inr ⟨hlast, hlink.last_entry.2⟩

/-- The next cluster of the chain, or its end. -/
theorem nextCluster_dir (hg : g.DirSound) {stretch : Option (ℕ → Bool)} {ofs : ℕ}
    {Q : Option FResult → FatDir → Prop}
    (hs : DirView g ρ others D T last free (.chain l) s) (hc : l[i]? = some s.clust)
    (hfail : ∀ t, ¬ ρ → DirView g ρ others D T last free (.chain l) t → t = { s with fs := t.fs } →
      Q (some .diskErr) t)
    (hnext : ∀ d, l[i + 1]? = some d → ∀ t, DirView g ρ others D T last free (.chain l) t →
      t = { s with fs := t.fs } → Triple (fun u ↦ u = t) (enterDirCluster g d ofs) Q)
    (hend : i + 1 = l.length → ∀ t, DirView g ρ others D T last free (.chain l) t →
      t = { s with fs := t.fs } → Triple (fun u ↦ u = t) (endOfTable g stretch ofs) Q) :
    Triple (fun t ↦ t = s) (nextCluster g stretch ofs) Q := by
  refine triple_get_bind ?_
  rintro s rfl
  refine .bind (getFat_dir hg hs s.clust) fun r ↦ ?_
  rintro t ⟨ht, htc, hr⟩
  refine (?_ : Triple (fun u ↦ u = t) _ Q) t rfl
  have htwo := hg.two_lt
  rcases hr with ⟨rfl, hne⟩ | ⟨rfl, hρ⟩
  · rcases hs.chains.lookup hc with ⟨d, hd, hlookup, hvalid⟩ | ⟨hlast, hle⟩
    · rw [hlookup] at hne ⊢
      refine .ite (fun h ↦ absurd hvalid.1 (by omega)) fun _ ↦ .ite (fun h ↦ absurd h hne) fun _ ↦
        .ite (fun h ↦ absurd hvalid.2 (by omega)) fun _ ↦ ?_
      exact hnext d hd t ht htc
    · refine .ite (fun h ↦ absurd hle (by omega)) fun _ ↦ .ite (fun h ↦ absurd h hne) fun _ ↦
        .ite (fun _ ↦ ?_) fun h ↦ absurd hle h
      exact hend hlast t ht htc
  · refine .ite (fun h ↦ absurd h (by decide)) fun _ ↦ .ite (fun _ ↦ .pure ?_) fun h ↦ absurd rfl h
    rintro t rfl
    exact hfail t hρ ht htc

end Chain

/-- The object moved to the next entry. -/
theorem enterEntry_dir (hs : DirView g ρ others D T last free p t) (hsame : SameDir s t)
    (hlt : n + 1 < p.capacity g) (hclust : t.clust = p.clusterNo g ((n + 1) / 16))
    (hsect : t.sect = p.sectorNo g ((n + 1) / 16)) :
    Triple (fun u ↦ u = t) (enterEntry ((n + 1) * 32))
      (NextEntry g ρ others D T last free p n s) := by
  refine triple_modify_then (.pure ?_)
  rintro _ rfl
  have hdir : (n + 1) * 32 % 512 = (n + 1) % 16 * 32 := by omega
  refine ⟨hs.moved rfl rfl, ?_, _, rfl, .inl ⟨rfl, hlt, rfl, hclust, hsect, hdir⟩⟩
  exact hsame.trans rfl

/-- The end of the table is reported behind the last entry. -/
theorem endOfDir_dir (hs : DirView g ρ others D T last free p t) (hsame : SameDir s t)
    (hend : n + 1 = p.capacity g) :
    Triple (fun u ↦ u = t) endOfDir (NextEntry g ρ others D T last free p n s) := by
  refine triple_modify_then (.pure ?_)
  rintro _ rfl
  exact ⟨hs.moved rfl rfl, hsame.trans rfl, _, rfl, .inr (.inl ⟨rfl, hend, rfl⟩)⟩

/-- The table is made of whole sectors. -/
theorem DirView.size_mod (hg : g.DirSound) (hs : DirView g ρ others D T last free p s) :
    p.tableSize g % 16 = 0 := by
  cases p with
  | fixed => exact (hg.root_size hs.starts.1).1
  | chain l => exact Nat.mul_mod_left _ _

/-- Inside of a sector. -/
theorem DirPlace.succ_lt_capacity (hsize : p.tableSize g % 16 = 0) (hn : n < p.capacity g)
    (hmod : (n + 1) % 16 ≠ 0) : n + 1 < p.capacity g := by
  have hmax : maxDir / 32 = 65536 := rfl
  rw [DirPlace.capacity, hmax] at hn ⊢
  omega

/-! ### From one sector of the table to the next -/

section Sector

variable {l : List ℕ}

/-- The fixed area is contiguous. -/
theorem nextSector_fixed (hs : DirView g ρ others D T last free .fixed s)
    (hat : DirAt g .fixed n s) (hnext : (n + 1) / 16 = n / 16 + 1) (hin : n + 1 < maxDir / 32) :
    Triple (fun t ↦ t = { s with sect := s.sect + 1 })
      (if g.nRootdir ≤ (n + 1) * 32 / 32 then endOfDir else enterEntry ((n + 1) * 32))
      (NextEntry g ρ others D T last free .fixed n s) := by
  have hcap := DirPlace.capacity_le (g := g) (p := .fixed)
  have hlt := hat.lt
  have hview := hs.moved (t := { s with sect := s.sect + 1 }) rfl rfl
  refine .ite (fun h ↦ endOfDir_dir hview rfl ?_) fun h ↦ enterEntry_dir hview rfl ?_ hat.clust ?_
  · rw [DirPlace.tableSize] at hcap
    omega
  · refine Nat.lt_min.2 ⟨?_, hin⟩
    rw [DirPlace.tableSize]
    omega
  · show s.sect + 1 = g.dirbase + (n + 1) / 16
    rw [hat.sect, hnext]
    rfl

/-- An entry of a cluster of the chain. -/
theorem DirPlace.lt_chain_capacity (hg : g.DirSound) (hin : n < maxDir / 32)
    (h : n / 16 / g.csize < l.length) : n < (DirPlace.chain l).capacity g := by
  have hlt := (Nat.div_lt_iff_lt_mul (g.csize_pos hg.toVolumeSound)).1 h
  refine Nat.lt_min.2 ⟨?_, hin⟩
  rw [DirPlace.tableSize]
  omega

/-- The cluster in which the object stands. -/
theorem DirAt.chain_clust (hg : g.DirSound) (hat : DirAt g (.chain l) n s) :
    l[n / 16 / g.csize]? = some s.clust := by
  have hidx := DirPlace.chain_index hg (DirPlace.sector_of_entry hat.lt)
  rw [hat.clust, DirPlace.clusterNo, List.getD_eq_getElem?_getD, List.getElem?_eq_getElem hidx,
    Option.getD_some]

/-- The next sector of a cluster. -/
theorem nextSector_dir (hg : g.DirSound) (hs : DirView g ρ others D T last free (.chain l) s)
    (hat : DirAt g (.chain l) n s) (hnext : (n + 1) / 16 = n / 16 + 1) (hin : n + 1 < maxDir / 32)
    (hmod : (n / 16 + 1) % g.csize ≠ 0) :
    Triple (fun t ↦ t = { s with sect := s.sect + 1 }) (enterEntry ((n + 1) * 32))
      (NextEntry g ρ others D T last free (.chain l) n s) := by
  have hidx := DirPlace.chain_index hg (DirPlace.sector_of_entry hat.lt)
  have hdiv : (n + 1) / 16 / g.csize = n / 16 / g.csize := by
    rw [hnext, Nat.succ_div_of_mod_ne_zero hmod]
  have hless : n / 16 % g.csize + 1 < g.csize := by
    have hlast := Nat.mod_lt (n / 16) (g.csize_pos hg.toVolumeSound)
    refine Nat.lt_of_le_of_ne hlast fun hfull ↦ hmod ?_
    rw [← Nat.mod_add_mod, hfull, Nat.mod_self]
  have hview := hs.moved (t := { s with sect := s.sect + 1 }) rfl rfl
  refine enterEntry_dir hview rfl (DirPlace.lt_chain_capacity hg hin (hdiv ▸ hidx)) ?_ ?_
  · show s.clust = l.getD ((n + 1) / 16 / g.csize) 0
    rw [hdiv, hat.clust]
    rfl
  · show s.sect + 1 = g.sectorOf l ((n + 1) / 16)
    rw [hnext, hat.sect]
    exact (g.sectorOf_add hless).symm

/-- Behind the last sector of a cluster there is the next cluster, or the end of the table. -/
theorem nextCluster_entry (hg : g.DirSound) (hs : DirView g ρ others D T last free (.chain l) s)
    (hat : DirAt g (.chain l) n s) (hnext : (n + 1) / 16 = n / 16 + 1) (hin : n + 1 < maxDir / 32)
    (hmod : (n / 16 + 1) % g.csize = 0) :
    Triple (fun t ↦ t = { s with sect := s.sect + 1 }) (nextCluster g none ((n + 1) * 32))
      (NextEntry g ρ others D T last free (.chain l) n s) := by
  have hdiv : (n + 1) / 16 / g.csize = n / 16 / g.csize + 1 := by
    rw [hnext, Nat.succ_div_of_mod_eq_zero hmod]
  have hview := hs.moved (t := { s with sect := s.sect + 1 }) rfl rfl
  have hclust := hat.chain_clust hg
  refine nextCluster_dir hg hview hclust (fun t hρ ht htc ↦ ?_) (fun d hd t ht htc ↦ ?_)
    fun hend t ht htc ↦ ?_
  · exact ⟨ht, by rw [htc]; rfl, _, rfl, .inr (.inr ⟨rfl, hρ⟩)⟩
  · have hentered : l.getD ((n + 1) / 16 / g.csize) 0 = d := by
      rw [hdiv, List.getD_eq_getElem?_getD, hd, Option.getD_some]
    have hmore : (n + 1) / 16 / g.csize < l.length := hdiv ▸ (List.getElem?_eq_some_iff.1 hd).1
    refine triple_modify_then (enterEntry_dir (ht.moved rfl rfl) (by rw [htc]; rfl)
      (DirPlace.lt_chain_capacity hg hin hmore) hentered.symm ?_)
    show clst2sect g d = g.sectorOf l ((n + 1) / 16)
    rw [FatGeometry.sectorOf, hentered, hnext, hmod, Nat.add_zero]
  · refine endOfDir_dir ht (by rw [htc]; rfl) ?_
    have hcap := DirPlace.capacity_le (g := g) (p := .chain l)
    have hlt := hat.lt
    have hall : l.length * g.csize = n / 16 + 1 := by
      rw [← hend, ← Nat.succ_div_of_mod_eq_zero hmod]
      exact Nat.div_mul_cancel (Nat.dvd_of_mod_eq_zero hmod)
    rw [DirPlace.tableSize, hall] at hcap
    omega

end Sector

/-- **`dir_next` goes from one entry of the list to the next**, and reports the end after the last
one. -/
theorem dirNext_view (hg : g.DirSound) (hs : DirView g ρ others D T last free p s)
    (hat : DirAt g p n s) :
    Triple (fun t ↦ t = s) (dirNext g none) (NextEntry g ρ others D T last free p n s) := by
  have hmax := p.capacity_le_max (g := g)
  have hlt := hat.lt
  have hofs : s.dptr + 32 = (n + 1) * 32 := by rw [hat.dptr]; omega
  have hsector := hs.sector hg (DirPlace.sector_of_entry hlt)
  refine triple_get_bind ?_
  rintro s rfl
  refine .ite (fun h ↦ ?_) fun hin ↦ .ite (fun h ↦ ?_) fun _ ↦ .ite (fun hmod ↦ ?_) fun hmod ↦ ?_
  · rw [maxDir] at h
    exact endOfDir_dir hs (.refl s) (by omega)
  · exact absurd (hat.sect ▸ h) hsector.2.2.2
  · -- Behind the last entry of a sector.
    have hnext : (n + 1) / 16 = n / 16 + 1 := by omega
    have hinside : n + 1 < maxDir / 32 := by
      rw [maxDir] at hin ⊢
      omega
    refine triple_modify_then ?_
    rw [hofs]
    cases p with
    | fixed => exact .ite (fun _ ↦ nextSector_fixed hs hat hnext hinside) fun h ↦ absurd hat.clust h
    | chain l =>
      have hvalid := hs.chains.linked.nodes l List.mem_cons_self _
        (List.mem_of_getElem? (hat.chain_clust hg))
      have hdiv : (n + 1) * 32 / 512 = n / 16 + 1 := by omega
      refine .ite (fun h ↦ ?_) fun _ ↦ ?_
      · have h : s.clust = 0 := h
        exact absurd hvalid.1 (by omega)
      rw [hdiv, g.csect_eq hg.toVolumeSound]
      exact .ite (nextCluster_entry hg hs hat hnext hinside)
        (nextSector_dir hg hs hat hnext hinside)
  · have hsame : (n + 1) / 16 = n / 16 := by omega
    rw [hofs]
    exact enterEntry_dir hs (.refl s) (DirPlace.succ_lt_capacity (hs.size_mod hg) hlt (by omega))
      (by rw [hsame]; exact hat.clust) (by rw [hsame]; exact hat.sect)

/-! ### To an entry -/

/-- A directory has an entry at least. -/
theorem DirView.capacity_pos (hg : g.DirSound) (hs : DirView g ρ others D T last free p s) :
    0 < p.capacity g := by
  refine Nat.lt_min.2 ⟨?_, by decide⟩
  cases p with
  | fixed => exact (hg.root_size hs.starts.1).2
  | chain l =>
    have hlen : 0 < l.length := List.length_pos_iff.2 fun hnil ↦ by
      have hstart : l.head? = some (g.startOf s.sclust) := hs.starts
      rw [hnil, List.head?_nil] at hstart
      cases hstart
    exact Nat.mul_pos (Nat.mul_pos hlen (g.csize_pos hg.toVolumeSound)) (by decide)

/-- How `dir_sdi` ends. -/
def EntrySet (g : FatGeometry) (ρ : Prop) (others : List (List ℕ)) (D : Memory) (T : ℕ → ℕ)
    (last free : ℕ) (p : DirPlace) (n : ℕ) (s : FatDir) (res : FResult) (t : FatDir) : Prop :=
  DirView g ρ others D T last free p t ∧ SameDir s t ∧
    (res = .ok ∧ DirAt g p n t ∨ res = .diskErr ∧ ¬ ρ)

/-- How the way along a chain to its cluster `i` ends. -/
def ClusterReached (g : FatGeometry) (ρ : Prop) (others : List (List ℕ)) (D : Memory) (T : ℕ → ℕ)
    (last free : ℕ) (l : List ℕ) (i : ℕ) (s : FatDir) (r : Except FResult ℕ) (t : FatDir) : Prop :=
  DirView g ρ others D T last free (.chain l) t ∧ t = { s with fs := t.fs } ∧
    ((∃ c, r = .ok c ∧ l[i]? = some c) ∨ r = .error .diskErr ∧ ¬ ρ)

/-- The way along the chain leads to its cluster, unless the disk fails. -/
theorem followClusters_dir (hg : g.DirSound) {l : List ℕ} {i c : ℕ} (m : ℕ)
    (hs : DirView g ρ others D T last free (.chain l) s) (hc : l[i]? = some c)
    (hm : i + m < l.length) :
    Triple (fun t ↦ t = s) (followClusters g m c)
      (ClusterReached g ρ others D T last free l (i + m) s) := by
  induction m generalizing s i c with
  | zero =>
    refine .pure ?_
    rintro s rfl
    exact ⟨hs, rfl, .inl ⟨c, rfl, hc⟩⟩
  | succ m ih =>
    refine .bind (getFat_dir hg hs c) fun r ↦ ?_
    rintro t ⟨ht, htc, hr⟩
    refine (?_ : Triple (fun u ↦ u = t) _ (ClusterReached g ρ others D T last free l _ s)) t rfl
    rcases hr with ⟨rfl, hne⟩ | ⟨rfl, hρ⟩
    · rcases hs.chains.lookup hc with ⟨d, hd, hlookup, hvalid⟩ | ⟨hlast, -⟩
      · rw [hlookup] at hne ⊢
        have hin : ¬ (d < 2 ∨ g.nFatent ≤ d) := by
          have h₁ := hvalid.1
          have h₂ := hvalid.2
          omega
        refine .ite (fun h ↦ absurd h hne) fun _ ↦ .ite (fun h ↦ absurd h hin) fun _ ↦ ?_
        refine (ih ht hd (by omega)).weaken (fun _ h ↦ h) ?_
        rintro r u ⟨hu, huc, hres⟩
        refine ⟨hu, huc.trans (by rw [htc]), hres.imp_left ?_⟩
        rintro ⟨e, rfl, he⟩
        exact ⟨e, rfl, by rw [← he, Nat.add_assoc, Nat.add_comm 1]⟩
      · omega
    · refine .ite (fun _ ↦ .pure ?_) fun h ↦ absurd rfl h
      rintro t rfl
      exact ⟨ht, htc, .inr ⟨rfl, hρ⟩⟩

/-- The object is at the entry that the sector and the offset say. -/
theorem setEntry_dir {clst sect ofs : ℕ} (hs : DirView g ρ others D T last free p t)
    (hsame : SameDir s t) (hn : n < p.capacity g) (hdptr : t.dptr = n * 32)
    (hclust : clst = p.clusterNo g (n / 16)) (hsect : sect + ofs / 512 = p.sectorNo g (n / 16))
    (hne : sect ≠ 0) (hofs : ofs % 512 = n % 16 * 32) :
    Triple (fun u ↦ u = t) (setEntry clst sect ofs) (EntrySet g ρ others D T last free p n s) := by
  refine triple_modify_then (.ite (fun h ↦ absurd h hne) fun _ ↦ triple_modify_then (.pure ?_))
  rintro _ rfl
  exact ⟨hs.moved rfl rfl, hsame.trans rfl, .inl ⟨rfl, hn, hdptr, hclust, hsect, hofs⟩⟩

/-- **`dir_sdi` goes to an entry of the list.** -/
theorem dirSdi_view (hg : g.DirSound) (hs : DirView g ρ others D T last free p s)
    (hn : n < p.capacity g) :
    Triple (fun t ↦ t = s) (dirSdi g (n * 32)) (EntrySet g ρ others D T last free p n s) := by
  have hcap := p.capacity_le (g := g)
  have hmax := p.capacity_le_max (g := g)
  have hin : ¬ (maxDir ≤ n * 32 ∨ n * 32 % 32 ≠ 0) := by
    rw [maxDir]
    omega
  refine .ite (fun h ↦ absurd h hin) fun _ ↦ triple_modify_then (triple_get_bind ?_)
  rintro t rfl
  have hview := hs.moved (t := { s with dptr := n * 32 }) rfl rfl
  have hstarts := hs.starts
  cases p with
  | fixed =>
    have hzero : g.startOf s.sclust = 0 := by
      rw [FatGeometry.startOf, if_neg fun h ↦ hstarts.1 h.2]
      exact hstarts.2
    refine .ite (fun _ ↦ .ite (fun h ↦ ?_) fun _ ↦ ?_) fun h ↦ absurd hzero h
    · rw [DirPlace.tableSize] at hcap
      omega
    · have hsector := (hs.sector hg (k := 0) (by omega)).2.2.2
      refine setEntry_dir hview rfl hn rfl rfl ?_ hsector (by omega)
      show g.dirbase + n * 32 / 512 = g.dirbase + n / 16
      omega
  | chain l =>
    have hv := hg.toVolumeSound
    have hidx := DirPlace.chain_index hg (DirPlace.sector_of_entry hn)
    obtain ⟨c, hc, hstart⟩ : ∃ c, l[0]? = some c ∧ g.startOf s.sclust = c :=
      ⟨_, (List.head?_eq_getElem? (l := l)).symm.trans hstarts, rfl⟩
    have hvalid : ∀ d ∈ l, g.Valid d := hs.chains.linked.nodes l List.mem_cons_self
    have hcvalid := hvalid c (List.mem_of_getElem? hc)
    have hdiv : n * 32 / g.bcs = n / 16 / g.csize := by
      rw [← g.div_bcs]
      congr 1
      omega
    have hmod := g.mod_bcs (n * 32)
    have hsector : n * 32 / 512 = n / 16 := by omega
    rw [hsector] at hmod
    refine .ite (fun h ↦ ?_) fun _ ↦ ?_
    · have h : g.startOf s.sclust = 0 := h
      exact absurd hcvalid.1 (by omega)
    · show Triple _ (followClusters g (n * 32 / g.bcs) (g.startOf s.sclust) >>= _) _
      rw [hdiv, hstart]
      refine .bind (followClusters_dir hg _ hview hc (by omega)) fun r ↦ ?_
      rintro u ⟨hu, huc, hr⟩
      refine (?_ : Triple (fun v ↦ v = u) _ _) u rfl
      have hsame : SameDir s u := by
        rw [huc]
        rfl
      rcases hr with ⟨d, rfl, hd⟩ | ⟨rfl, hρ⟩
      · rw [Nat.zero_add] at hd
        have hget : l.getD (n / 16 / g.csize) 0 = d := by
          rw [List.getD_eq_getElem?_getD, hd, Option.getD_some]
        have hspare : g.SpareSector [] (clst2sect g d) :=
          ⟨d, hvalid d (List.mem_of_getElem? hd), fun _ hk ↦ absurd hk List.not_mem_nil,
            Nat.le_refl _, Nat.lt_add_of_pos_right (g.csize_pos hv)⟩
        refine setEntry_dir hu hsame hn (by rw [huc]) hget.symm ?_ ?_ (by omega)
        · show clst2sect g d + n * 32 % g.bcs / 512 = g.sectorOf l (n / 16)
          rw [FatGeometry.sectorOf, hget]
          omega
        · exact (hspare.tracked hv).2.2
      · refine .pure ?_
        rintro u rfl
        exact ⟨hu, hsame, .inr ⟨rfl, hρ⟩⟩

/-! ### Along the list -/

section Scan

/-- The place does not depend on the search. -/
theorem DirAt.reseq (h : DirAt g p n s) {seq : LfnSeq} : DirAt g p n { s with seq := seq } :=
  ⟨h.lt, h.dptr, h.clust, h.sect, h.dir⟩

/-- The place does not depend on the filesystem object. -/
theorem DirAt.of_fs (h : DirAt g p n s) (ht : t = { s with fs := t.fs }) : DirAt g p n t := by
  rw [ht]
  exact ⟨h.lt, h.dptr, h.clust, h.sect, h.dir⟩

variable {visit : Visit}

/-- The loop over the entries `es`, of which the first is entry `n`: the entry where it ends, and
with what. -/
def scanList (visit : Visit) (fn : Memory) :
    (es : List Memory) → (n : ℕ) → LfnSeq → LfnSeq × Option (ℕ × FResult)
  | [], _, seq => (seq, none)
  | e :: es, n, seq =>
    match visit fn (n * 32) e seq with
    | (seq, some res) => (seq, some (n, res))
    | (seq, none) => scanList visit fn es (n + 1) seq

/-- The loop over the list ends at an entry. -/
theorem scanList_some {fn e : Memory} (es : List Memory) {n : ℕ} {seq seq' : LfnSeq} {res : FResult}
    (h : visit fn (n * 32) e seq = (seq', some res)) :
    scanList visit fn (e :: es) n seq = (seq', some (n, res)) := by
  rw [scanList, h]

/-- The loop over the list goes on. -/
theorem scanList_none {fn e : Memory} (es : List Memory) {n : ℕ} {seq seq' : LfnSeq}
    (h : visit fn (n * 32) e seq = (seq', none)) :
    scanList visit fn (e :: es) n seq = scanList visit fn es (n + 1) seq' := by
  rw [scanList, h]

/-- The object stands at entry `i`, with the entry in the window. -/
structure EntryFound (g : FatGeometry) (D : Memory) (p : DirPlace) (i : ℕ) (t : FatDir) : Prop where
  dirAt : DirAt g p i t
  loaded : t.fs.window.winsect = t.sect
  entry : (p.entries g D)[i]? = some t.entry

/-- The loop ended as the one over the list. -/
def ScanEnd (g : FatGeometry) (D : Memory) (p : DirPlace) (out : LfnSeq × Option (ℕ × FResult))
    (res : FResult) (t : FatDir) : Prop :=
  t.seq = out.1 ∧ (out.2 = none ∧ res = .noFile ∧ t.sect = 0 ∨
    ∃ i, out.2 = some (i, res) ∧ EntryFound g D p i t)

/-- How the loop ends, from entry `n`. -/
def Scanned (g : FatGeometry) (ρ : Prop) (others : List (List ℕ)) (D : Memory) (T : ℕ → ℕ)
    (last free : ℕ) (p : DirPlace) (visit : Visit) (n : ℕ) (s : FatDir) (r : Option FResult)
    (t : FatDir) : Prop :=
  DirView g ρ others D T last free p t ∧ t.fn = s.fn ∧ ∃ res, r = some res ∧
    (ScanEnd g D p (scanList visit s.fn ((p.entries g D).drop n) n s.seq) res t ∨
      res = .diskErr ∧ ¬ ρ)

/-- **The loop over the table is the loop over its list.** -/
theorem scanDir_view (hg : g.DirSound) (visit : Visit) (fuel : ℕ)
    (hs : DirView g ρ others D T last free p s) (hat : DirAt g p n s)
    (hfuel : p.capacity g ≤ n + fuel) :
    Triple (fun t ↦ t = s) (scanDir g visit fuel)
      (Scanned g ρ others D T last free p visit n s) := by
  induction fuel generalizing s n with
  | zero => exact absurd hat.lt (by omega)
  | succ fuel ih =>
    have hlen := p.length_entries (g := g) D
    have hget := p.getElem?_entries D hat.lt
    have hdrop : (p.entries g D).drop n =
        dirEntry D (p.addr g n) :: (p.entries g D).drop (n + 1) := by
      have hlt : n < (p.entries g D).length := hlen.symm ▸ hat.lt
      rw [List.getElem?_eq_getElem hlt] at hget
      rw [List.drop_eq_getElem_cons hlt, Option.some.inj hget]
    refine triple_get_bind ?_
    rintro s rfl
    refine .bind (moveEntry_view hg hs hat) fun res ↦ ?_
    rintro t ⟨ht, htc, hres⟩
    refine (?_ : Triple (fun u ↦ u = t) _ (Scanned g ρ others D T last free p visit n s)) t rfl
    rcases hres with ⟨rfl, hwin, hentry⟩ | ⟨rfl, hρ⟩
    · refine .ite (fun h ↦ absurd rfl h) fun _ ↦ triple_get_bind ?_
      rintro t rfl
      have hat' := hat.of_fs htc
      have hfn : t.fn = s.fn := by rw [htc]
      have hseq : t.seq = s.seq := by rw [htc]
      have hsect : t.sect = s.sect := by rw [htc]
      refine triple_modify_then ?_
      rcases hvisit : visit t.fn t.dptr t.entry t.seq with ⟨seq', _ | res⟩ <;>
        rw [hfn, hat'.dptr, hentry, hseq] at hvisit
      · -- On to the next entry.
        refine .bind (dirNext_view hg (ht.moved rfl rfl) hat'.reseq) fun r ↦ ?_
        rintro u ⟨hu, hsame, res, rfl, hres⟩
        have hufn : u.fn = s.fn := by rw [hsame, ← hfn]
        have huseq : u.seq = seq' := by rw [hsame]
        have hout := scanList_none ((p.entries g D).drop (n + 1)) hvisit
        rw [← hdrop] at hout
        refine (?_ : Triple (fun v ↦ v = u) _ (Scanned g ρ others D T last free p visit n s)) u rfl
        rcases hres with ⟨rfl, hat⟩ | ⟨rfl, hend, hzero⟩ | ⟨rfl, hρ⟩
        · refine (ih hu hat (by omega)).weaken (fun _ h ↦ h) ?_
          rintro r v ⟨hv, hvfn, res, rfl, hres⟩
          rw [hufn, huseq, ← hout] at hres
          exact ⟨hv, hvfn.trans hufn, res, rfl, hres⟩
        · refine .pure ?_
          rintro u rfl
          have hnil : (p.entries g D).drop (n + 1) = [] := List.drop_eq_nil_of_le (by omega)
          rw [hnil] at hout
          refine ⟨hu, hufn, _, rfl, .inl ?_⟩
          rw [hout]
          exact ⟨huseq, .inl ⟨rfl, rfl, hzero⟩⟩
        · refine .pure ?_
          rintro u rfl
          exact ⟨hu, hufn, _, rfl, .inr ⟨rfl, hρ⟩⟩
      · refine .pure ?_
        rintro _ rfl
        refine ⟨ht.moved rfl rfl, hfn, res, rfl, .inl ?_⟩
        rw [hdrop, scanList_some _ hvisit]
        refine ⟨rfl, .inr ⟨n, rfl, hat'.reseq, ?_, ?_⟩⟩
        · exact hwin.trans hsect.symm
        · exact hget.trans (congrArg some hentry.symm)
    · refine .ite (fun _ ↦ .pure ?_) fun h ↦ absurd (by decide) h
      rintro t rfl
      exact ⟨ht, by rw [htc], _, rfl, .inr ⟨rfl, hρ⟩⟩

end Scan
