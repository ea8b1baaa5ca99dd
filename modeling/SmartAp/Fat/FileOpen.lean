import SmartAp.Fat.FileRun
import SmartAp.Fat.Mount

/-!
# Opening a file

`openObject` is the end of `f_open`, where the window is on the sector of the directory entry: the
object gets the first cluster and the size that the entry has, and with `FA_OPEN_APPEND` the file
pointer is moved to the end.

## What is opened

`EntryOf` says that the entry describes a file of the volume: its first cluster is the head of a
chain that is linked and long enough for the size. FatFs does not check this, so it is a hypothesis
of `openObject_stands`, by which the object stands for the bytes on the volume. The loop that looks
for the end of the file in the append mode follows the chain, and reads the last sector into the
buffer when the size does not end at a boundary (`seekEnd_view`).

## What was written is read again

**A file that was synchronized is opened again with the bytes it had**, by any filesystem object
that shows the disk (`fSync_reopens`): `f_sync` has left all of it on the disk, entry, FAT and data.
It is assumed that the file was changed since the last `f_sync` (`FA_MODIFIED`). A call that finds
the flag clear writes nothing and returns `FR_OK`, and after a `f_sync` that failed the flag is
clear while the disk is not up to date.
-/

/-- The bits of `mode` that the object keeps, and `FA_SEEKEND`. -/
structure OpenMode where
  canRead : Bool
  canWrite : Bool
  modified : Bool
  seekEnd : Bool

section

variable (g : FatGeometry)

/-- "Follow the cluster chain"; the result, the cluster and what is left of the offset. -/
def seekEndLoop : (fuel clst ofs : ℕ) → FileM (Option (FResult × ℕ × ℕ))
  | 0, _, _ => return none
  | fuel + 1, clst, ofs =>
    if g.bcs < ofs then do
      let clst ← onFs (getFatFs g clst)
      if clst = fatDiskError then return some (.diskErr, clst, ofs - g.bcs)
      else if clst ≤ 1 then return some (.intErr, clst, ofs - g.bcs)
      else seekEndLoop fuel clst (ofs - g.bcs)
    else return some (.ok, clst, ofs)

/-- "Fill sector buffer if not on the sector boundary" -/
def fillEnd (clst ofs : ℕ) : FileM FResult :=
  if ofs % 512 ≠ 0 then do
    let sec := clst2sect g clst
    if sec = 0 then return .intErr
    else
      modify fun s ↦ { s with sect := add32 sec (ofs / 512) }
      if ← diskReadBuf (add32 sec (ofs / 512)) then return .ok else return .diskErr
  else return .ok

/-- "Seek to end of file if FA_OPEN_APPEND is specified" -/
def seekEnd : FileM (Option FResult) := do
  modify fun s ↦ { s with fptr := s.objsize }
  let s ← get
  match ← seekEndLoop g (s.objsize / g.bcs + 1) s.sclust s.objsize with
  | none => return none
  | some (res, clst, ofs) =>
    modify fun s ↦ { s with clust := clst }
    if res = .ok then
      let res ← fillEnd g clst ofs
      return some res
    else return some res

/-- The object for the entry at `dir` in the window. -/
def FatFile.ofEntry (s : FatFile) (dir : ℕ) (mode : OpenMode) : FatFile :=
  { s with
    dirSect := s.fs.window.winsect
    dirPtr := dir
    sclust := ldClust g s.fs.window.win dir
    objsize := ld32 s.fs.window.win (dir + 28)
    canRead := mode.canRead
    canWrite := mode.canWrite
    modified := mode.modified
    dirty := false
    err := .ok
    sect := 0
    fptr := 0
    buf := fun _ ↦ 0 }

/-- **The end of `f_open`.** -/
def openObject (dir : ℕ) (mode : OpenMode) : FileM (Option FResult) := do
  modify fun s ↦ s.ofEntry g dir mode
  let s ← get
  if mode.seekEnd ∧ 0 < s.objsize then seekEnd g else return some .ok

end

variable {g : FatGeometry} {ρ : Prop} {others : List (List ℕ)} {V V₀ : Memory} {T : ℕ → ℕ}
  {last free : ℕ} {l : List ℕ} {s t : FatFile}

/-! ### The end of the file -/

/-- How the search for the end `p` of the file ends. -/
def EndFound (g : FatGeometry) (ρ : Prop) (others : List (List ℕ)) (V : Memory) (T : ℕ → ℕ)
    (last free : ℕ) (l : List ℕ) (s : FatFile) (p : ℕ) (r : Option (FResult × ℕ × ℕ))
    (t : FatFile) : Prop :=
  FileView g ρ others V T last free l t ∧ t = { s with fs := t.fs } ∧ ∃ res clst ofs,
    r = some (res, clst, ofs) ∧
    (res = .ok ∧ 0 < ofs ∧ ofs ≤ g.bcs ∧ (∃ i, i * g.bcs + ofs = p ∧ l[i]? = some clst) ∨
      res ≠ .ok ∧ ¬ ρ)

/-- The loop ends in the last cluster that the size needs. -/
theorem seekEndLoop_view (hg : g.VolumeSound) (fuel : ℕ) {j ofs clst : ℕ}
    (hfuel : ofs / g.bcs < fuel) (hs : FileView g ρ others V T last free l s)
    (hclust : l[j]? = some clst) (hpos : 0 < ofs) (hfit : j * g.bcs + ofs ≤ l.length * g.bcs) :
    Triple (fun t ↦ t = s) (seekEndLoop g fuel clst ofs)
      (EndFound g ρ others V T last free l s (j * g.bcs + ofs)) := by
  have hbcs := g.bcs_pos hg
  induction fuel generalizing j ofs clst s with
  | zero => exact absurd hfuel (Nat.not_lt_zero _)
  | succ fuel ih =>
    refine .ite (fun hlt ↦ ?_) fun hle ↦ .pure ?_
    · refine .bind (getFat_view hg hs clst) fun c ↦ ?_
      rintro t ⟨ht, htc, hr⟩
      have hmore : j + 1 < l.length := by
        refine Nat.lt_of_mul_lt_mul_right (a := g.bcs) ?_
        rw [Nat.succ_mul]
        omega
      have hnext := List.getElem?_eq_getElem hmore
      have hvalid := hs.chain.valid _ (List.mem_of_getElem? hclust)
      rw [lookupFat, if_pos hvalid, hs.chain.entry hclust hnext] at hr
      refine (?_ : Triple (fun u ↦ u = t) _ (EndFound g ρ others V T last free l s _)) t rfl
      refine .ite (fun herr ↦ .pure ?_) fun herr ↦ ?_
      · rintro t rfl
        obtain ⟨-, hρ⟩ := hr.resolve_left fun h ↦ h.2 herr
        exact ⟨ht, htc, _, _, _, rfl, .inr ⟨FResult.noConfusion, hρ⟩⟩
      obtain ⟨rfl, -⟩ := hr.resolve_right fun h ↦ herr h.1
      obtain ⟨h2, -, -⟩ := ht.sound hg (List.getElem_mem hmore)
      refine .ite (fun h ↦ absurd h (by omega)) fun _ ↦ ?_
      have hfuel' : (ofs - g.bcs) / g.bcs < fuel := by
        have := Nat.div_eq_sub_div hbcs (Nat.le_of_lt hlt)
        omega
      have hsum : (j + 1) * g.bcs + (ofs - g.bcs) = j * g.bcs + ofs := by
        rw [Nat.succ_mul]
        omega
      refine (ih hfuel' ht hnext (by omega) (by omega)).weaken (fun _ h ↦ h) ?_
      rintro r u ⟨hu, huc, hres⟩
      rw [hsum] at hres
      exact ⟨hu, by rw [huc, htc], hres⟩
    · rintro s rfl
      exact ⟨hs, rfl, _, _, _, rfl, .inl ⟨rfl, hpos, Nat.le_of_not_lt hle, j, rfl, hclust⟩⟩

/-- How `f_open` ends with the file pointer at `p`. -/
def OpenedAt (g : FatGeometry) (ρ : Prop) (others : List (List ℕ)) (V : Memory) (T : ℕ → ℕ)
    (last free : ℕ) (l : List ℕ) (s : FatFile) (p : ℕ) (r : Option FResult) (t : FatFile) : Prop :=
  SameSession s t ∧ ∃ res, r = some res ∧
    (res = .ok ∧ FileView g ρ others V T last free l t ∧ Placed g l t.fptr t ∧ t.fptr = p ∧
      t.objsize = s.objsize ∨ res ≠ .ok ∧ ¬ ρ)

/-- The sector at the end of the file is read. -/
theorem fillEnd_view (hg : g.VolumeSound) (hs : FileView g ρ others V T last free l s)
    (hclean : s.dirty = false) {i ofs : ℕ} (hclust : l[i]? = some s.clust)
    (hptr : i * g.bcs + ofs = s.fptr) (hpos : 0 < ofs) (hofs : ofs ≤ g.bcs) :
    Triple (fun t ↦ t = s) (fillEnd g s.clust ofs) fun res t ↦
      OpenedAt g ρ others V T last free l s s.fptr (some res) t := by
  have hdiv := g.pred_div_bcs hg hptr hpos hofs
  refine .ite (fun hodd ↦ ?_) fun hodd ↦ .pure ?_
  · obtain ⟨hclust', hcsect⟩ := g.sector_of_cluster hg hclust hptr hofs hodd
    obtain ⟨hne, hadd, hspare⟩ := hs.sector hg hclust'
    rw [hcsect] at hadd
    refine .ite (fun h0 ↦ absurd h0 hne) fun _ ↦ ?_
    rw [hadd]
    have hshows : FileShows g ρ others V T last free { s with sect := g.sectorOf l (s.fptr / 512) } :=
      ⟨⟨V, hs.clean hclean, (FatFile.viewOf_clean (by exact hclean) V).symm⟩, hs.rest, .inr hspare,
        fun h ↦ absurd (hclean.symm.trans h) (by decide)⟩
    refine triple_modify_then (.bind (diskReadBuf_shows hg hshows hclean hspare) fun ok ↦
      .ite (fun hok ↦ .pure ?_) fun hok ↦ .pure ?_)
    · rintro t ⟨ht, htc, hres⟩
      obtain ⟨-, hbuf⟩ := hres.resolve_right fun h ↦ absurd (hok.symm.trans h.1) (by decide)
      have hcached : Cached s t := by rw [Cached, htc]
      have htsect : t.sect = g.sectorOf l (s.fptr / 512) := by rw [htc]
      refine ⟨hcached.same, .ok, rfl, .inl ⟨rfl, hs.of_cached hcached ht fun _ i hi ↦ ?_, ?_, ?_, ?_⟩⟩
      · rw [hbuf i hi, htsect]
      · rw [htc]
        exact ⟨fun _ ↦ hdiv ▸ hclust, fun _ ↦ rfl⟩
      · rw [htc]
      · rw [htc]
    · rintro t ⟨ht, htc, hres⟩
      obtain ⟨-, hρ⟩ := hres.resolve_left fun h ↦ hok h.1
      have hcached : Cached s t := by rw [Cached, htc]
      exact ⟨hcached.same, _, rfl, .inr ⟨FResult.noConfusion, hρ⟩⟩
  · rintro s rfl
    refine ⟨.refl s, .ok, rfl, .inl ⟨rfl, hs, ⟨fun _ ↦ hdiv ▸ hclust, fun h ↦ ?_⟩, rfl, rfl⟩⟩
    have := g.mul_bcs_mod i
    omega

/-- **The object stands at the end of the file.** -/
theorem seekEnd_view (hg : g.VolumeSound) (hs : FileView g ρ others V T last free l s)
    (hclean : s.dirty = false) (hpos : 0 < s.objsize) :
    Triple (fun t ↦ t = s) (seekEnd g) (OpenedAt g ρ others V T last free l s s.objsize) := by
  have hsize := hs.size_le
  obtain ⟨c, l, rfl⟩ := List.exists_cons_of_ne_nil (l := l) fun hnil ↦ by
    rw [hnil, List.length_nil, Nat.zero_mul] at hsize
    omega
  have hfirst : (c :: l)[0]? = some s.sclust := by rw [hs.sclust]; rfl
  refine triple_modify_then (triple_get_bind ?_)
  rintro _ rfl
  refine .bind (seekEndLoop_view hg _ (Nat.lt_succ_self _) (hs.moved s.clust s.objsize) hfirst hpos
    (by rw [Nat.zero_mul, Nat.zero_add]; exact hsize)) fun r ↦ ?_
  rintro t ⟨ht, htc, res, clst, ofs, rfl, hres⟩
  have hsame : SameSession s t := by rw [htc]; exact ⟨rfl, rfl, rfl, rfl⟩
  refine (?_ : Triple (fun u ↦ u = t) _ (OpenedAt g ρ others V T last free (c :: l) s _)) t rfl
  refine triple_modify_then (.ite (fun hok ↦ ?_) fun hok ↦ .pure ?_)
  · obtain ⟨-, hofs, hle, i, hi, hclust⟩ := hres.resolve_right fun h ↦ h.1 hok
    have hptr : t.fptr = s.objsize := by rw [htc]
    have hend := fillEnd_view hg (ht.moved clst t.fptr) (by rw [htc]; exact hclean) hclust
      (by rw [hi, hptr, Nat.zero_mul, Nat.zero_add]) hofs hle
    refine .bind hend fun res ↦ .pure ?_
    rintro u ⟨hsame', res', hres', hu⟩
    obtain rfl := Option.some.inj hres'
    have hobj : t.objsize = s.objsize := by rw [htc]
    refine ⟨hsame.trans ⟨hsame'.canRead, hsame'.canWrite, hsame'.dirSect, hsame'.dirPtr⟩, _, rfl,
      hu.imp_left ?_⟩
    rintro ⟨hok, hv, hp, hup, huo⟩
    exact ⟨hok, hv, hp, hup.trans hptr, huo.trans hobj⟩
  · rintro _ rfl
    exact ⟨⟨hsame.canRead, hsame.canWrite, hsame.dirSect, hsame.dirPtr⟩, _, rfl,
      .inr (hres.resolve_left fun h ↦ hok h.1)⟩

/-! ### The object of an entry -/

/-- The window is a part of what the volume holds. -/
theorem DataShows.overlay_win {fs : FatFs} (h : DataShows g ρ others V T last free fs)
    (hk : g.Tracked fs.window.winsect) (hout : ¬ g.InFat fs.window.winsect) :
    overlay 512 V fs.window.winsect fs.window.win = V := by
  funext a
  by_cases ha : a / 512 = fs.window.winsect
  · have hsplit : a = fs.window.winsect * 512 + a % 512 := by omega
    rw [overlay_of_eq _ _ ha, h.win_eq hk hout (Nat.mod_lt _ (by decide)), ← hsplit]
  · exact overlay_of_ne _ _ ha

/-- The entry at address `a` of the volume is that of a file with the chain `l` and this size. -/
structure EntryOf (g : FatGeometry) (V : Memory) (a : ℕ) (l : List ℕ) (n : ℕ) : Prop where
  clust : ldClust g V a = l.headD 0
  size : ld32 V (a + 28) = n
  size_le : n ≤ l.length * g.bcs

/-- **A file that is opened stands for the bytes on the volume.** -/
theorem openObject_stands (hg : g.VolumeSound) (hdata : DataShows g ρ others V T last free s.fs)
    (hrest : LinkedLists T g.Valid (g.nFatent ≤ ·) others) (hchain : FileChain g ρ others T free l)
    (hk : g.Tracked s.fs.window.winsect) (hout : ¬ g.InFat s.fs.window.winsect) {dir size : ℕ}
    (hdir : dir + 32 ≤ 512) (hentry : EntryOf g V (s.fs.window.winsect * 512 + dir) l size)
    (mode : OpenMode) {f : ByteFile UInt8} (hbytes : g.fileBytes V l 0 size = f.bytes)
    (hpos : f.pos = if mode.seekEnd then size else 0) :
    Triple (fun t ↦ t = s) (openObject g dir mode) fun r t ↦ ∃ res, r = some res ∧
      (res = .ok ∧ Stands g ρ others V (.ok ⟨f, (freeClusters g T).card⟩) t ∧
        t.canRead = mode.canRead ∧ t.canWrite = mode.canWrite ∨ res ≠ .ok ∧ ¬ ρ) := by
  have hwin := hdata.overlay_win hk hout
  have hclust : ldClust g s.fs.window.win dir = l.headD 0 := by
    rw [← hentry.clust, ← ldClust_overlay V s.fs.window.win s.fs.window.winsect hdir, hwin]
  have hsize : ld32 s.fs.window.win (dir + 28) = size := by
    rw [← hentry.size, Nat.add_assoc,
      ← ld32_overlay V s.fs.window.win s.fs.window.winsect (i := dir + 28) (by omega), hwin]
  have hlt : size < 0x100000000 := hentry.size ▸ ld32_lt _ _
  have hview : FileView g ρ others V T last free l (s.ofEntry g dir mode) := by
    refine ⟨⟨⟨V, hdata, (FatFile.viewOf_clean (by rfl) V).symm⟩, hrest, .inl rfl, fun h ↦
      Bool.noConfusion h⟩, ⟨hchain, hclust, ?_, ?_, rfl⟩, fun h ↦ absurd rfl h⟩
    · show ld32 _ _ ≤ _
      rw [hsize]
      exact hentry.size_le
    · show ld32 _ _ < _
      rw [hsize]
      exact hlt
  have hobj : (s.ofEntry g dir mode).objsize = size := hsize
  refine triple_modify_then (triple_get_bind ?_)
  rintro _ rfl
  refine .ite (fun hend ↦ ?_) fun hend ↦ .pure ?_
  · refine (seekEnd_view hg hview rfl hend.2).weaken (fun _ h ↦ h) ?_
    rintro r t ⟨hsame, res, rfl, hres⟩
    refine ⟨res, rfl, hres.imp_left ?_⟩
    rintro ⟨hok, ht, hp, htp, hto⟩
    rw [hobj] at htp hto
    refine ⟨hok, ⟨V, T, last, free, l, ht, hp, ?_, ?_, rfl, fun _ _ _ ↦ rfl⟩, hsame.canRead,
      hsame.canWrite⟩
    · rw [htp, hpos, if_pos hend.1]
    · rw [hto]
      exact hbytes
  · rintro _ rfl
    refine ⟨.ok, rfl, .inl ⟨rfl, ⟨V, T, last, free, l, hview, ⟨fun h ↦ absurd h (Nat.lt_irrefl 0),
      fun h ↦ absurd rfl h⟩, ?_, ?_, rfl, fun _ _ _ ↦ rfl⟩, rfl, rfl⟩⟩
    · show 0 = _
      rw [hpos]
      split
      · rename_i hmode
        exact (Nat.eq_zero_of_not_pos fun h ↦ hend ⟨hmode, hobj.symm ▸ h⟩).symm
      · rfl
    · rw [hobj]
      exact hbytes

/-! ### After a synchronization -/

/-- A filesystem object that shows the disk. -/
structure ShowsDisk (g : FatGeometry) (ρ : Prop) (disk : Memory) (last free : ℕ) (fs : FatFs) :
    Prop where
  alloc : AllocShows g ρ disk (fatEntry g disk) last free fs
  counted : ρ → Counted g (fatEntry g disk) free
  sane : ρ → ∀ c, g.Valid c → fatEntry g disk c ≠ 1

/-- So does an object on which the volume was just mounted, whatever FSInfo says. -/
theorem CleanOn.showsDisk {disk : Memory} {fs : FatFs} (h : CleanOn disk fs.window) :
    ShowsDisk g False disk fs.lastClst fs.freeClst fs where
  alloc := ⟨⟨disk, h.shows (fun h ↦ h.elim) (fun h ↦ h.elim), FatOf.self disk⟩, rfl, rfl⟩
  counted h := h.elim
  sane h := h.elim

/-- Which clusters are free is said by the entries of the clusters alone. -/
theorem freeClusters_congr {T' : ℕ → ℕ} (h : ∀ c, g.Valid c → T' c = T c) :
    freeClusters g T' = freeClusters g T := by
  ext c
  rw [mem_freeClusters, mem_freeClusters]
  constructor
  · rintro ⟨hc, h0⟩
    exact ⟨hc, (h c hc).symm.trans h0⟩
  · rintro ⟨hc, h0⟩
    exact ⟨hc, (h c hc).trans h0⟩

/-- The fields of an entry are its bytes. -/
theorem ldClust_congr {m m' : Memory} {a : ℕ} (h : ∀ i < 32, m' (a + i) = m (a + i)) :
    ldClust g m' a = ldClust g m a := by
  have h16 : ∀ o, o + 2 ≤ 32 → ld16 m' (a + o) = ld16 m (a + o) := fun o ho ↦ by
    rw [ld16_eq, ld16_eq]
    refine loadWord_congr fun i hi ↦ ?_
    rw [Nat.add_assoc]
    exact h _ (by omega)
  rw [ldClust, ldClust, h16 26 (by decide), h16 20 (by decide)]

/-- A word of a directory entry depends on the bytes of the entry alone. -/
theorem ld32_congr {m m' : Memory} {a o : ℕ} (ho : o + 4 ≤ 32)
    (h : ∀ i < 32, m' (a + i) = m (a + i)) : ld32 m' (a + o) = ld32 m (a + o) := by
  rw [ld32_eq, ld32_eq]
  refine loadWord_congr fun i hi ↦ ?_
  rw [Nat.add_assoc]
  exact h _ (by omega)

/-- The first cluster of a file fits into its entry. -/
theorem FileChain.head_lt (hg : g.VolumeSound) (h : FileChain g ρ others T free l) :
    l.headD 0 < 0x100000000 ∧ (g.fsType ≠ .fat32 → l.headD 0 < 0x10000) := by
  have hrange := hg.lt_range
  have hlt : l.headD 0 < g.entryRange := by
    cases l with
    | nil => exact Nat.lt_of_le_of_lt (Nat.zero_le _) hrange
    | cons c l => exact (h.valid c List.mem_cons_self).2.trans hrange
  rw [FatGeometry.entryRange] at hlt
  cases ht : g.fsType with
  | fat32 =>
    simp only [ht] at hlt
    exact ⟨by omega, fun h ↦ absurd rfl h⟩
  | fat12 =>
    simp only [ht] at hlt
    exact ⟨by omega, fun _ ↦ by omega⟩
  | fat16 =>
    simp only [ht] at hlt
    exact ⟨by omega, fun _ ↦ by omega⟩

/-- **What `f_sync` returned `FR_OK` for is found again.** Any filesystem object that shows the disk
then opens the file with the bytes that it has. -/
theorem fSync_reopens (hg : g.VolumeSound) {st : FileState}
    (hs : Stands g ρ others V₀ (.ok st) s) (hp : EntryPlaced g others s) (hmod : s.modified = true)
    (time : ℕ) :
    Triple (fun t ↦ t = s) (fSync g .ok time) fun res t ↦ res = .ok →
      ∀ (ρ' : Prop) (last free : ℕ) (u : FatFile),
        ShowsDisk g ρ' t.fs.window.disk.bytes last free u.fs →
        u.fs.window.winsect = s.dirSect → ∀ (mode : OpenMode) (f : ByteFile UInt8),
        f.bytes = st.file.bytes → (f.pos = if mode.seekEnd then st.file.bytes.length else 0) →
        Triple (fun v ↦ v = u) (openObject g s.dirPtr mode) fun r v ↦ ∃ res, r = some res ∧
          (res = .ok ∧ Stands g ρ' others t.fs.window.disk.bytes (.ok ⟨f, st.room⟩) v ∧
            v.canRead = mode.canRead ∧ v.canWrite = mode.canWrite ∨ res ≠ .ok ∧ ¬ ρ') := by
  obtain ⟨V, T, last₀, free₀, l, hview, hplaced, hptr, hbytes, hroom, hout⟩ := hs
  refine (fSync_shows hg hview.toFileShows hp rfl hmod time).weaken (fun _ h ↦ h) ?_
  rintro res t ⟨⟨V', ht, hkept, hend⟩, hsame⟩ hok ρ' last free u hu hwin mode f hf hpos
  obtain ⟨-, -, -, hdurable⟩ := hend.resolve_right fun h ↦ h.1 hok
  have hsclust : t.sclust = s.sclust := by rw [hsame]
  have hobj : t.objsize = s.objsize := by rw [hsame]
  have haddr : t.entryAddr = s.entryAddr := by rw [hsame]; rfl
  obtain ⟨hdisk, hclust, hsize⟩ := hdurable
  rw [hsclust, haddr] at hclust
  rw [hobj, haddr] at hsize
  generalize t.fs.window.disk.bytes = disk at hu hdisk
  -- The chain of the file is on the disk.
  have hlinked : LinkedLists (fatEntry g disk) g.Valid (g.nFatent ≤ ·) (l :: others) :=
    hview.chain.linked.congr fun k hk c hc ↦
      hdisk.table c (hview.chain.linked.nodes k hk c hc)
  have hchain : FileChain g ρ' others (fatEntry g disk) free l := ⟨hlinked, hu.counted, hu.sane⟩
  have hdata : DataShows g ρ' others disk (fatEntry g disk) last free u.fs :=
    ⟨⟨disk, hu.alloc, fun _ _ ↦ rfl⟩, by rw [hwin]; exact hp.notSpare⟩
  -- Its bytes are on the disk.
  have hspare : ∀ a, g.SpareSector others (a / 512) → disk a = V a := fun a ha ↦ by
    obtain ⟨htracked, hnot, -⟩ := ha.tracked hg
    rw [hdisk.data a htracked hnot, hp.kept hkept ha]
  have hcontent : g.fileBytes disk l 0 s.objsize = f.bytes := by
    rw [hview.chain.fileBytes_congr hg hspare hview.size_le, hbytes, hf]
  -- Its entry is on the disk.
  have hfits := hp.fits
  have hbyte : ∀ i < 32, disk (s.entryAddr + i) = V' (s.entryAddr + i) := fun i hi ↦ by
    have hsect : (s.entryAddr + i) / 512 = s.dirSect := by
      rw [FatFile.entryAddr]
      omega
    exact hdisk.data _ (hsect ▸ hp.tracked) (hsect ▸ hp.notFat)
  have hentry : EntryOf g disk (u.fs.window.winsect * 512 + s.dirPtr) l s.objsize := by
    rw [hwin]
    obtain ⟨h32, h16⟩ := hview.chain.head_lt hg
    rw [hview.sclust] at hclust
    exact ⟨(ldClust_congr hbyte).trans (hclust h32 h16),
      (ld32_congr (by decide) hbyte).trans (hsize hview.size_lt), hview.size_le⟩
  have hopen := openObject_stands hg hdata hlinked.tail hchain (hwin ▸ hp.tracked)
    (hwin ▸ hp.notFat) hfits hentry mode hcontent (by
      rw [hpos, ← hbytes, g.length_fileBytes])
  rw [freeClusters_congr hdisk.table, hroom] at hopen
  exact hopen

/-! ### A file of four bytes -/

/-- Four bytes are written to a new file. -/
def FatFile.written : FatFile :=
  (FileCall.run smallVolume .ok (.write ⟨[1, 2, 3, 4], by decide⟩) .onEmptyDisk).2

/-- The file object after four bytes were appended stands for the file of these bytes. -/
theorem FatFile.written_stands : ∃ room, Stands smallVolume True [] (fun _ ↦ 0)
      (.ok ⟨⟨[1, 2, 3, 4], 4, by decide⟩, room⟩) .written ∧ SameSession .onEmptyDisk .written := by
  have hcount : (FileCall.run smallVolume .ok (.write ⟨[1, 2, 3, 4], by decide⟩)
      .onEmptyDisk).1.map (·.count) = some 4 := by decide +kernel
  obtain ⟨ret, st', hr, hstep, hs, hsame⟩ := fWrite_does smallVolume_volumeSound
    FatFile.onEmptyDisk_stands ⟨[1, 2, 3, 4], by decide⟩ .onEmptyDisk rfl
  rw [hr] at hcount
  cases hstep with
  | invalid h => exact absurd rfl h
  | writeDenied h => exact Bool.noConfusion h
  | writeFailed _ hρ => exact absurd trivial hρ
  | moveFailed _ hρ => exact absurd trivial hρ
  | @write _ _ n room =>
    obtain rfl : n = 4 := Option.some.inj hcount
    exact ⟨room, hs, hsame⟩

/-- The disk after `f_sync`. -/
def syncedDisk : Memory := (fSync smallVolume .ok 0 .written).2.fs.window.disk.bytes

/-- An object for this disk, with the sector of the directory in the window. -/
def FatFile.onSyncedDisk : FatFile :=
  { FatFile.onEmptyDisk with
    fs := ⟨⟨false, 3, blockAt 512 syncedDisk 3, ⟨syncedDisk, fun _ ↦ none⟩⟩, 0, 0xFFFFFFFF, 0x80⟩ }

/-- The file is opened at its end, with `FA_OPEN_APPEND`. -/
theorem fSync_reopens_small :
    (fSync smallVolume .ok 0 .written).1 = .ok ∧
      (openObject smallVolume 0 ⟨true, true, false, true⟩ .onSyncedDisk).1 = some .ok ∧
      ∃ room, Stands smallVolume False [] syncedDisk (.ok ⟨⟨[1, 2, 3, 4], 4, by decide⟩, room⟩)
        (openObject smallVolume 0 ⟨true, true, false, true⟩ .onSyncedDisk).2 := by
  have hsync : (fSync smallVolume .ok 0 .written).1 = .ok := by decide +kernel
  have hopen : (openObject smallVolume 0 ⟨true, true, false, true⟩ .onSyncedDisk).1 = some .ok := by
    decide +kernel
  obtain ⟨room, hs, hsame⟩ := FatFile.written_stands
  have hclean : CleanOn syncedDisk FatFile.onSyncedDisk.fs.window :=
    ⟨rfl, rfl, by decide, fun _ ↦ rfl⟩
  obtain ⟨res, hr, hres⟩ := fSync_reopens smallVolume_volumeSound hs
    (FatFile.onEmptyDisk_placed.same hsame) rfl 0 .written rfl hsync False 0 0xFFFFFFFF
    .onSyncedDisk hclean.showsDisk rfl ⟨true, true, false, true⟩ ⟨[1, 2, 3, 4], 4, by decide⟩ rfl rfl
    .onSyncedDisk rfl
  obtain rfl := Option.some.inj (hr.symm.trans hopen)
  obtain ⟨-, hstands, -⟩ := hres.resolve_right fun h ↦ h.1 rfl
  exact ⟨hsync, hopen, room, hstands⟩
