import SmartAp.Fat.DirObjects

/-!
# Finding an object in a directory

`dir_find` of `ff.c` goes through the table for an object with the name that was asked for: the long
name in `lfnbuf`, or the short one in `fn`. It follows the entries of a long name as they come, in
the variables `ord` and `sum`, and takes the name for found when the short entry with that sum is
reached.

## What is found

It finds the first object that has the name, and `FR_NO_FILE` is returned exactly if there is none
(`dirFind_finds`). An object has the name if its long name is equal to the one asked for but for the
case, or if its short name is the one in `fn` and the name was such that it may be a short one
(`NS_LOSS` is not set). With `NS_NOLFN` long names are not looked at, and `blk_ofs` stays
`0xFFFFFFFF`: so `dir_register` looks whether a numbered short name is in use.

## How

The decision at one entry is `findEntry`, a case of `Visit`. For a part of a long name, `Compared`
is the invariant: `ord` is the number of parts to come as long as each part matched so far, and 0xFF
once one did not. `Compared.step` is the step for one entry, and `scanList_compared` the run over
the parts of a name. The sum guards against entries of another short name; in a listing it is always
right.
-/

/-- "Reset LFN sequence" -/
def LfnSeq.reset (seq : LfnSeq) : LfnSeq := { seq with ord := 0xFF, blkOfs := 0xFFFFFFFF }

/-- "Check validity of the LFN entry and compare it with given name" -/
def LfnSeq.compare (seq : LfnSeq) (dir : Memory) : LfnSeq :=
  { seq with
    ord := if lfnOrd dir = seq.ord ∧ seq.sum = dir 13 ∧ cmpLfn seq.lfnbuf dir = true then
        seq.ord - 1
      else 0xFF }

/-- `memcmp(dp->dir, dp->fn, 11)` is 0. -/
def sameSfn (dir fn : Memory) : Bool := (List.range 11).all fun i ↦ dir i = fn i

/-- "An entry without valid data" -/
def InvalidEntry (dir : Memory) : Prop :=
  dir 0 = 0xE5 ∨ dir 11 &&& 0x3F &&& 0x08 ≠ 0 ∧ dir 11 &&& 0x3F ≠ 0x0F

instance (dir : Memory) : Decidable (InvalidEntry dir) := inferInstanceAs (Decidable (_ ∨ _))

/-- What `dir_find` does with an entry. -/
def findEntry : Visit := fun fn dptr dir seq ↦
  if dir 0 = 0 then (seq, some .noFile)
  else
    let seq := { seq with attr := dir 11 &&& 0x3F }
    if InvalidEntry dir then (seq.reset, none)
    else if dir 11 &&& 0x3F = 0x0F then
      if fn 11 &&& 0x40 = 0 then ((seq.start dptr dir).compare dir, none) else (seq, none)
    else if seq.ord = 0 ∧ seq.sum = sumSfn dir then (seq, some .ok)
    else if fn 11 &&& 0x01 = 0 ∧ sameSfn dir fn = true then (seq, some .ok)
    else (seq.reset, none)

/-- **`dir_find`**. `dir_next` ends the table at `MAX_DIR`, so that the loop has an end. -/
def dirFind (g : FatGeometry) : DirM (Option FResult) := do
  let res ← dirSdi g 0
  if res ≠ .ok then return some res
  else
    modify fun s ↦ { s with seq := { s.seq.reset with sum := 0xFF } }
    scanDir g findEntry (maxDir / 32)

namespace DirObject

/-- The object has the long name `n`, but for the case. -/
def hasName (o : DirObject) (n : LongName) : Bool :=
  match o.name with
  | none => false
  | some m => decide (m.Same n)

/-- The object has the name that is asked for: the long one unless `NS_NOLFN` is set, or the short
one unless `NS_LOSS` is set. -/
def isNamed (o : DirObject) (fn : Memory) (n : LongName) : Bool :=
  fn 11 &&& 0x40 = 0 && o.hasName n || fn 11 &&& 0x01 = 0 && sameSfn o.sfn fn

/-- `blk_ofs` for an object that begins at entry `start`. -/
def foundAt (o : DirObject) (fn : Memory) (start : ℕ) : ℕ :=
  if o.name.isSome = true ∧ fn 11 &&& 0x40 = 0 then start * 32 else 0xFFFFFFFF

end DirObject

variable {n k blk : ℕ} {es parts : List Memory} {objs : List Located} {e : Memory}
  {seq : LfnSeq} {name : LongName} {sum : UInt8}

/-! ### The entries of a long name -/

/-- The entry of a part is compared, unless the caller wants no long name. -/
theorem findEntry_part (fn : Memory) (dptr : ℕ) (seq : LfnSeq) (h : PartOf name k sum e)
    (hk : k < name.parts) :
    findEntry fn dptr e seq =
      if fn 11 &&& 0x40 = 0 then ((LfnSeq.start { seq with attr := 0x0F } dptr e).compare e, none)
      else ({ seq with attr := 0x0F }, none) := by
  have hord := h.ord_used hk
  have hattr := h.attr_masked
  have hvalid : ¬ InvalidEntry e := by
    rintro (hdel | ⟨-, hlfn⟩)
    · exact hord.2.1 hdel
    · exact hlfn hattr
  rw [findEntry, if_neg hord.1, if_neg hvalid, if_pos hattr, hattr]

/-- Where `dir_find` is when it has seen the parts of a name from part `k` on, which begin at
`blk`. -/
structure Compared (name : LongName) (sum : UInt8) (blk k : ℕ) (seq : LfnSeq) : Prop where
  ord : name.MatchesFrom seq.lfnbuf k ∧ seq.ord = UInt8.ofNat k ∨
    ¬ name.MatchesFrom seq.lfnbuf k ∧ seq.ord = 0xFF
  sum : seq.sum = sum
  blkOfs : seq.blkOfs = blk

/-- One part more is compared: the sequence goes on just while the name agrees. -/
theorem Compared.step (seq : LfnSeq) {dptr : ℕ} (h : PartOf name k sum e) (hk : k < name.parts)
    (hseq : k + 1 < name.parts → Compared name sum blk (k + 1) seq)
    (hblk : k + 1 = name.parts → dptr = blk) :
    Compared name sum blk k ((seq.start dptr e).compare e) ∧
      ((seq.start dptr e).compare e).lfnbuf = seq.lfnbuf := by
  have hcmp : (cmpLfn seq.lfnbuf e = true ∧
      (k + 1 < name.parts → name.MatchesFrom seq.lfnbuf (k + 1))) ↔
      name.MatchesFrom seq.lfnbuf k := cmpLfn_iff h hk
  obtain ⟨-, -, -, -, hff, hpred⟩ := h.ord_used hk
  rw [h.start_eq hk, LfnSeq.compare, h.ord_eq hk, h.sum]
  by_cases hmore : k + 1 < name.parts
  · have hseq := hseq hmore
    rw [if_pos hmore]
    refine ⟨⟨?_, hseq.sum, hseq.blkOfs⟩, rfl⟩
    rcases hseq.ord with ⟨hfrom, hord⟩ | ⟨hfrom, hord⟩
    · by_cases hm : cmpLfn seq.lfnbuf e = true
      · refine .inl ⟨hcmp.1 ⟨hm, fun _ ↦ hfrom⟩, (if_pos ⟨hord.symm, hseq.sum, hm⟩).trans ?_⟩
        rw [hord, hpred]
      · exact .inr ⟨fun h ↦ hm (hcmp.2 h).1, if_neg fun h ↦ hm h.2.2⟩
    · refine .inr ⟨fun h ↦ hfrom ((hcmp.2 h).2 hmore), if_neg fun h ↦ hff ?_⟩
      rw [h.1, hord]
  · -- The first entry of the name.
    rw [if_neg hmore]
    refine ⟨⟨?_, rfl, hblk (by omega)⟩, rfl⟩
    have hiff : name.MatchesFrom seq.lfnbuf k ↔ cmpLfn seq.lfnbuf e = true :=
      ⟨fun hm ↦ (hcmp.2 hm).1, fun hm ↦ hcmp.1 ⟨hm, fun hlt ↦ absurd hlt hmore⟩⟩
    by_cases hm : cmpLfn seq.lfnbuf e = true
    · exact .inl ⟨hiff.2 hm, (if_pos ⟨rfl, rfl, hm⟩).trans hpred⟩
    · exact .inr ⟨fun h ↦ hm (hiff.1 h), if_neg fun h ↦ hm h.2.2⟩

/-- Over all parts of a name. -/
theorem scanList_compared {fn : Memory} (es : List Memory) (n : ℕ) (seq : LfnSeq)
    (hlfn : fn 11 &&& 0x40 = 0) (h : name.HeldIn sum name.parts parts) :
    ∃ seq', scanList findEntry fn (parts ++ es) n seq =
        scanList findEntry fn es (n + parts.length) seq' ∧
      Compared name sum (n * 32) 0 seq' ∧ seq'.lfnbuf = seq.lfnbuf := by
  let I (k : ℕ) (t : LfnSeq) : Prop :=
    (k < name.parts → Compared name sum (n * 32) k t) ∧ t.lfnbuf = seq.lfnbuf
  have hstep : ∀ k e dptr t, PartOf name k sum e → k < name.parts → I (k + 1) t →
      (k + 1 = name.parts → dptr = n * 32) →
        ∃ t', findEntry fn dptr e t = (t', none) ∧ I k t' := by
    intro k e dptr t hpart hk ht hblk
    have hentry := findEntry_part fn dptr t hpart hk
    rw [if_pos hlfn] at hentry
    obtain ⟨hstep, hbuf⟩ := Compared.step { t with attr := 0x0F } hpart hk
      (fun hlt ↦ ⟨(ht.1 hlt).ord, (ht.1 hlt).sum, (ht.1 hlt).blkOfs⟩) hblk
    exact ⟨_, hentry, fun _ ↦ hstep, hbuf.trans ht.2⟩
  obtain ⟨seq', hrun, hcompared, hbuf⟩ := scanList_name I hstep es h (Nat.le_refl _)
    ⟨fun hlt ↦ absurd hlt (Nat.lt_irrefl _), rfl⟩ fun _ ↦ rfl
  exact ⟨seq', hrun, hcompared name.parts_pos, hbuf⟩

/-- With `NS_NOLFN` the entries are passed over. -/
theorem scanList_noLfn {fn : Memory} (es : List Memory) (n : ℕ) (seq : LfnSeq)
    (hno : ¬ fn 11 &&& 0x40 = 0) (h : name.HeldIn sum name.parts parts) :
    ∃ seq', scanList findEntry fn (parts ++ es) n seq =
        scanList findEntry fn es (n + parts.length) seq' ∧
      seq'.ord = seq.ord ∧ seq'.blkOfs = seq.blkOfs ∧ seq'.lfnbuf = seq.lfnbuf := by
  refine scanList_name
    (fun _ t ↦ t.ord = seq.ord ∧ t.blkOfs = seq.blkOfs ∧ t.lfnbuf = seq.lfnbuf)
    (fun k e dptr t hpart hk ht _ ↦ ?_) es h (Nat.le_refl _) ⟨rfl, rfl, rfl⟩ fun _ ↦ rfl
  have hentry := findEntry_part fn dptr t hpart hk
  rw [if_neg hno] at hentry
  exact ⟨_, hentry, ht⟩

/-! ### The objects -/

/-- `dir_find` is inside of no long name, and looks for `name`. -/
structure LfnSeq.Seeks (seq : LfnSeq) (name : LongName) : Prop where
  ord : seq.ord = 0xFF
  blkOfs : seq.blkOfs = 0xFFFFFFFF
  held : name.Held seq.lfnbuf

/-- The short entry ends the search if the long name before it was complete, or if it is named
itself. -/
theorem findEntry_sfn (fn : Memory) (dptr : ℕ) (seq : LfnSeq) (o : DirObject) :
    findEntry fn dptr o.sfn seq =
      if seq.ord = 0 ∧ seq.sum = sumSfn o.sfn ∨ fn 11 &&& 0x01 = 0 ∧ sameSfn o.sfn fn = true then
        ({ seq with attr := o.sfn 11 &&& 0x3F }, some .ok)
      else (LfnSeq.reset { seq with attr := o.sfn 11 &&& 0x3F }, none) := by
  have hvalid : ¬ InvalidEntry o.sfn := by
    rintro (hdel | ⟨hne, -⟩)
    · exact o.used.2 hdel
    · exact hne o.attr.1
  rw [findEntry, if_neg o.used.1, if_neg hvalid, if_neg o.attr.2]
  by_cases hlong : seq.ord = 0 ∧ seq.sum = sumSfn o.sfn
  · rw [if_pos hlong, if_pos (.inl hlong)]
  · rw [if_neg hlong]
    by_cases hshort : fn 11 &&& 0x01 = 0 ∧ sameSfn o.sfn fn = true
    · rw [if_pos hshort, if_pos (.inr hshort)]
    · rw [if_neg hshort, if_neg (not_or_intro hlong hshort)]

/-- What `dir_find` has found of the long name at the short entry. -/
theorem scanList_parts (fn : Memory) (es : List Memory) (n : ℕ) (o : DirObject)
    (h : o.HeldIn parts) (hseq : seq.Seeks name) :
    ∃ seq', scanList findEntry fn (parts ++ es) n seq =
        scanList findEntry fn es (n + parts.length) seq' ∧
      (seq'.ord = 0 ∧ seq'.sum = sumSfn o.sfn ↔ fn 11 &&& 0x40 = 0 ∧ o.hasName name = true) ∧
      seq'.blkOfs = o.foundAt fn n ∧ seq'.lfnbuf = seq.lfnbuf := by
  have hff : ∀ {seq' : LfnSeq}, seq'.ord = seq.ord → ¬ (seq'.ord = 0 ∧ seq'.sum = sumSfn o.sfn) :=
    fun hord hzero ↦ by
      rw [hord, hseq.ord] at hzero
      exact absurd hzero.1 (by decide)
  rw [DirObject.HeldIn] at h
  rw [DirObject.hasName, DirObject.foundAt]
  cases hname : o.name with
  | none =>
    rw [hname] at h
    obtain rfl : parts = [] := h
    refine ⟨seq, rfl, iff_of_false (hff rfl) fun hf ↦ Bool.noConfusion hf.2, ?_, rfl⟩
    rw [if_neg fun hf ↦ Bool.noConfusion hf.1]
    exact hseq.blkOfs
  | some m =>
    rw [hname] at h
    by_cases hlfn : fn 11 &&& 0x40 = 0
    · obtain ⟨seq', hrun, hcompared, hbuf⟩ := scanList_compared es n seq hlfn h
      have hmatches : m.MatchesFrom seq'.lfnbuf 0 ↔ m.Same name :=
        LongName.matchesFrom_zero (hbuf ▸ hseq.held)
      refine ⟨seq', hrun, ?_, hcompared.blkOfs.trans (if_pos ⟨rfl, hlfn⟩).symm, hbuf⟩
      show _ ↔ _ ∧ decide (m.Same name) = true
      rw [decide_eq_true_eq, ← hmatches]
      rcases hcompared.ord with ⟨hall, hord⟩ | ⟨hall, hord⟩
      · exact iff_of_true ⟨hord, hcompared.sum⟩ ⟨hlfn, hall⟩
      · refine iff_of_false (fun hzero ↦ ?_) fun hf ↦ hall hf.2
        rw [hord] at hzero
        exact absurd hzero.1 (by decide)
    · obtain ⟨seq', hrun, hord, hblk, hbuf⟩ := scanList_noLfn es n seq hlfn h
      refine ⟨seq', hrun, iff_of_false (hff hord) fun hf ↦ hlfn hf.1, ?_, hbuf⟩
      rw [if_neg fun hf ↦ hlfn hf.2, hblk]
      exact hseq.blkOfs

/-- The loop comes to an object that is asked for, and passes over another. -/
theorem scanList_findObject (fn : Memory) (es : List Memory) (n : ℕ) (o : DirObject)
    (h : o.HeldIn parts) (hseq : seq.Seeks name) :
    ∃ seq', if o.isNamed fn name = true then
        scanList findEntry fn (parts ++ o.sfn :: es) n seq = (seq', some (n + parts.length, .ok)) ∧
          seq'.blkOfs = o.foundAt fn n
      else
        scanList findEntry fn (parts ++ o.sfn :: es) n seq =
          scanList findEntry fn es (n + parts.length + 1) seq' ∧ seq'.Seeks name := by
  obtain ⟨seq₁, hrun, hlong, hblk, hbuf⟩ := scanList_parts fn (o.sfn :: es) n o h hseq
  have hsfn := findEntry_sfn fn ((n + parts.length) * 32) seq₁ o
  have hnamed : (seq₁.ord = 0 ∧ seq₁.sum = sumSfn o.sfn ∨
      fn 11 &&& 0x01 = 0 ∧ sameSfn o.sfn fn = true) ↔ o.isNamed fn name = true := by
    rw [hlong, DirObject.isNamed, Bool.or_eq_true, Bool.and_eq_true, Bool.and_eq_true,
      decide_eq_true_eq, decide_eq_true_eq]
  simp only [hnamed] at hsfn
  rw [hrun]
  by_cases hn : o.isNamed fn name = true
  · rw [if_pos hn] at hsfn
    refine ⟨{ seq₁ with attr := o.sfn 11 &&& 0x3F }, ?_⟩
    rw [if_pos hn]
    exact ⟨scanList_some _ hsfn, hblk⟩
  · rw [if_neg hn] at hsfn
    refine ⟨LfnSeq.reset { seq₁ with attr := o.sfn 11 &&& 0x3F }, ?_⟩
    rw [if_neg hn]
    exact ⟨scanList_none _ hsfn, rfl, rfl, hbuf ▸ hseq.held⟩

/-! ### `dir_find` -/

section Find

variable {g : FatGeometry} {ρ : Prop} {others : List (List ℕ)} {D : Memory} {T : ℕ → ℕ}
  {last free : ℕ} {p : DirPlace} {s : FatDir}

/-- How `dir_find` ends when the directory has the objects `objs`. -/
def FindEnd (g : FatGeometry) (ρ : Prop) (others : List (List ℕ)) (D : Memory) (T : ℕ → ℕ)
    (last free : ℕ) (p : DirPlace) (objs : List Located) (name : LongName) (s : FatDir)
    (r : Option FResult) (t : FatDir) : Prop :=
  DirView g ρ others D T last free p t ∧ ∃ res, r = some res ∧
    (ObjectFound g D p (fun o seq ↦ seq.blkOfs = o.object.foundAt s.fn o.start) res t
        (objs.find? fun o ↦ o.object.isNamed s.fn name) ∨
      res = .diskErr ∧ ¬ ρ)

/-- **`dir_find` finds the first object of the directory that has the name**, and FR_NO_FILE exactly
if none has it, unless the disk fails. -/
theorem dirFind_finds (hg : g.DirSound) (hs : DirView g ρ others D T last free p s)
    (hlisting : Listing InvalidEntry 0 (p.entries g D) objs) (hheld : name.Held s.seq.lfnbuf) :
    Triple (fun t ↦ t = s) (dirFind g) (FindEnd g ρ others D T last free p objs name s) := by
  refine .bind (dirSdi_view (n := 0) hg hs (hs.capacity_pos hg)) fun res ↦ ?_
  rintro t ⟨ht, hsame, hres⟩
  have hfn : t.fn = s.fn := by rw [hsame]
  have hseq : t.seq = s.seq := by rw [hsame]
  refine (?_ : Triple (fun u ↦ u = t) _ (FindEnd g ρ others D T last free p objs name s)) t rfl
  rcases hres with ⟨rfl, hat⟩ | ⟨rfl, hρ⟩
  · refine .ite (fun h ↦ absurd rfl h) fun _ ↦ triple_modify_then ?_
    have hcap : p.capacity g ≤ 0 + maxDir / 32 := (Nat.zero_add _).symm ▸ Nat.min_le_right _ _
    have hview := ht.moved (t := { t with seq := { t.seq.reset with sum := 0xFF } }) rfl rfl
    refine (scanDir_view hg findEntry _ hview hat.reseq hcap).weaken (fun _ h ↦ h) ?_
    rintro r u ⟨hu, -, res, rfl, hend | hρ⟩
    · refine ⟨hu, res, rfl, .inl ?_⟩
      rw [List.drop_zero, hfn] at hend
      refine objectFound_of_scanEnd (n := 0) hlisting
        (scanList_listing (I := fun t ↦ t.Seeks name) (fun o ↦ o.isNamed s.fn name) _
          (fun _ e t hzero ↦ ?_) (fun _ e t hne hinvalid ht ↦ ?_) (fun n o _ es _ h ht ↦ ?_)
          hlisting ?_)
        (fun _ ho ↦ List.mem_of_find?_eq_some ho) hend
      · exact ⟨t, by rw [findEntry, if_pos hzero]⟩
      · refine ⟨LfnSeq.reset { t with attr := e 11 &&& 0x3F }, ?_, rfl, rfl, ht.held⟩
        rw [findEntry, if_neg hne, if_pos hinvalid]
      · exact scanList_findObject s.fn es n o h ht
      · exact ⟨rfl, rfl, hseq ▸ hheld⟩
    · exact ⟨hu, res, rfl, .inr hρ⟩
  · refine .ite (fun _ ↦ .pure ?_) fun h ↦ absurd (by decide) h
    rintro t rfl
    exact ⟨ht, _, rfl, .inr ⟨rfl, hρ⟩⟩

end Find

/-- "A MONTHLY REPORT.TXT" -/
def LongName.reportUpper : LongName where
  chars := [0x41, 0x20, 0x4D, 0x4F, 0x4E, 0x54, 0x48, 0x4C, 0x59, 0x20,
    0x52, 0x45, 0x50, 0x4F, 0x52, 0x54, 0x2E, 0x54, 0x58, 0x54]
  ne_nil := List.cons_ne_nil _ _
  length_le := by decide
  char := by decide

/-- The root with three files, and this name in `lfnbuf`. -/
def FatDir.seekReport : FatDir :=
  { FatDir.inRoot threeEntries with seq := ⟨0, 0, 0, 0, bufferOf LongName.reportUpper.chars⟩ }

/-- The second of the files is found under its name in capitals, which is in two entries. -/
theorem dirFind_finds_small :
    (dirFind smallVolume .seekReport).1 = some .ok ∧
      (dirFind smallVolume .seekReport).2.entry = DirObject.report.sfn ∧
      (dirFind smallVolume .seekReport).2.seq.blkOfs = 64 := by
  have hlists := threeEntries_listing InvalidEntry fun _ h ↦ .inl h
  have hview := (FatDir.inRoot_view threeEntries).moved (t := .seekReport) rfl rfl
  have hnamed : ∀ o ∈ [DirObject.readme, .report],
      o.isNamed FatDir.seekReport.fn .reportUpper = decide (o.name ≠ none) := by decide +kernel
  have hfind : threeObjects.find? (fun o ↦ o.object.isNamed FatDir.seekReport.fn .reportUpper) =
      some ⟨2, 4, .report⟩ := by
    rw [threeObjects, List.find?_cons, hnamed _ (by simp), List.find?_cons, hnamed _ (by simp)]
    rfl
  obtain ⟨-, res, hrun, hres⟩ :=
    dirFind_finds smallVolume_dirSound hview hlists LongName.reportUpper.held_bufferOf _ rfl
  rw [hfind] at hres
  rcases hres with ⟨rfl, -, hentry, hblk⟩ | ⟨-, hfail⟩
  · exact ⟨hrun, hentry, hblk⟩
  · exact absurd trivial hfail
