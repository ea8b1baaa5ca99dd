import SmartAp.Fat.DirObjects
import SmartAp.Fat.FileInfo

/-!
# Reading a directory

`dir_read` of `ff.c` goes on through the table to the next object, with the long name in `lfnbuf`,
and `f_readdir` calls it for an open directory, fills the caller's `FILINFO` with `get_fileinfo`,
and moves behind the object.

## Calls

`ReaddirCall` is a call with all that decides what it does: what `validate` returns, whether the
caller wants an entry or rewinds (`fno` is `NULL`), and the memory for the name. `runReaddir` is any
sequence of them. From call to call `f_readdir` gives the objects of the directory in their order,
each with its long name as far as the code page has it (`DirObject.describes`), and then nothing
more (`runReaddir_lists`). A call that is refused or finds no memory for the name changes nothing.

## How

`readEntry` is the decision at one entry. Over the parts of a long name, `Captured` is the
invariant: the parts that were seen are in `lfnbuf`, at their places. With the short entry the name
is complete and is ended by the 0 of its last part (`scanList_captured`), and `lfnName_held` says
what the loop of `get_fileinfo` makes of such a buffer.

After the last object the loop leaves the directory object at the end, `dir.sect` 0, so that every
further call returns at once with an empty name (`readEntry_done`, `getFileinfo_end`). A disk error
leaves it where the error was met; of the calls after it nothing is said.
-/

/-- "Check LFN validity and capture it" -/
def LfnSeq.capture (seq : LfnSeq) (dir : Memory) : LfnSeq :=
  if lfnOrd dir = seq.ord ∧ seq.sum = dir 13 then
    { seq with
      ord := if (pickLfn seq.lfnbuf dir).2 = true then seq.ord - 1 else 0xFF
      lfnbuf := (pickLfn seq.lfnbuf dir).1 }
  else { seq with ord := 0xFF }

/-- "An entry without valid data": `vol` asks for the label of the volume. -/
def OtherEntry (vol : Bool) (dir : Memory) : Prop :=
  dir 0 = 0xE5 ∨ dir 0 = 0x2E ∨ decide (dir 11 &&& 0x3F &&& ~~~0x20 = 0x08) ≠ vol

instance (vol : Bool) (dir : Memory) : Decidable (OtherEntry vol dir) :=
  inferInstanceAs (Decidable (_ ∨ _ ∨ _))

/-- What `dir_read` does with an entry. -/
def readEntry (vol : Bool) : Visit := fun _ dptr dir seq ↦
  if dir 0 = 0 then (seq, some .noFile)
  else
    let seq := { seq with attr := dir 11 &&& 0x3F }
    if OtherEntry vol dir then ({ seq with ord := 0xFF }, none)
    else if dir 11 &&& 0x3F = 0x0F then ((seq.start dptr dir).capture dir, none)
    else if seq.ord ≠ 0 ∨ seq.sum ≠ sumSfn dir then
      ({ seq with blkOfs := 0xFFFFFFFF }, some .ok)
    else (seq, some .ok)

/-- **`dir_read`**. The loop is entered where `dp->sect` is not 0, and FR_OK of `dir_next` leaves it
at the sector of an entry. -/
def dirRead (g : FatGeometry) (vol : Bool) : DirM (Option FResult) := do
  modify fun s ↦ { s with seq := { s.seq with ord := 0xFF, sum := 0xFF } }
  let s ← get
  if s.sect = 0 then return some .noFile
  else
    let res ← scanDir g (readEntry vol) (maxDir / 32)
    if res = some .ok then return res
    else
      modify fun s ↦ { s with sect := 0 }
      return res

/-- "Ignore end of directory" -/
def ignoreEnd (res : FResult) : FResult := if res = .noFile then .ok else res

/-- "Read an item" into `FILINFO`; with `none` there is no name in it. -/
def readItem (g : FatGeometry) : DirM (Option (FResult × Option FileInfo)) := do
  match ← dirRead g false with
  | none => return none
  | some res =>
    if ignoreEnd res ≠ .ok then return some (res, none)
    else
      match ← getFileinfo with
      | none => return none
      | some info =>
        match ← dirNext g none with
        | none => return none
        | some res =>
          -- "Clear the file information if any error occured"
          if ignoreEnd res ≠ .ok then return some (res, none) else return some (.ok, info)

/-- A call of `f_readdir`: what `validate` answers, whether there is a place for the information, and
the buffer that `INIT_NAMEBUFF` gets from `ff_memalloc`, if it gets one. -/
structure ReaddirCall where
  valid : FResult
  fno : Bool
  memalloc : Option LfnBuf

/-- **`f_readdir`**. Without a place for the information it rewinds the directory. -/
def fReaddir (g : FatGeometry) (call : ReaddirCall) :
    DirM (Option (FResult × Option FileInfo)) :=
  if call.valid ≠ .ok then return some (call.valid, none)
  else if call.fno = false then do
    let res ← dirSdi g 0
    return some (res, none)
  else
    match call.memalloc with
    | none => return some (.notEnoughCore, none)
    | some lfnbuf => do
      modify fun s ↦ { s with seq.lfnbuf := lfnbuf }
      readItem g

/-- Calls of `f_readdir` one after the other. -/
def runReaddir (g : FatGeometry) :
    (calls : List ReaddirCall) → DirM (List (Option (FResult × Option FileInfo)))
  | [] => return []
  | call :: calls => do
    let r ← fReaddir g call
    let rs ← runReaddir g calls
    return r :: rs

/-- An entry that was deleted, or the label of the volume. -/
def BlankEntry (dir : Memory) : Prop := dir 0 = 0xE5 ∨ dir 11 &&& 0x3F &&& ~~~0x20 = 0x08

namespace DirObject

/-- `.` and `..` are not shown. -/
def shown (o : DirObject) : Bool := decide (o.sfn 0 ≠ 0x2E)

/-- The name was read: `blk_ofs` says whether there is a long one, which is in `lfnbuf`. -/
def ReadTo (o : DirObject) (start : ℕ) (seq : LfnSeq) : Prop :=
  match o.name with
  | none => seq.blkOfs = 0xFFFFFFFF
  | some n => seq.blkOfs = start * 32 ∧ n.Held seq.lfnbuf

/-- Its long name in the code page; empty if there is none, or none that can be shown. -/
def longName (o : DirObject) : List UInt8 :=
  match o.name with
  | none => []
  | some n => n.oem

/-- The information is that of the object, and a long name of which the code page has all characters
is given as a whole. -/
def Describes (o : DirObject) (info : FileInfo) : Prop :=
  info = fileInfo o.longName o.sfn ∧
    ∀ n, o.name = some n → n.InCodePage → info.fname.map (fun b ↦ oem2uni b.toNat) = n.chars

/-- What `get_fileinfo` makes of the object describes it. -/
theorem describes (o : DirObject) : o.Describes (fileInfo o.longName o.sfn) := by
  refine ⟨rfl, fun n hname hn ↦ ?_⟩
  have hlong : o.longName = n.oem := by rw [longName, hname]
  show List.map _ (if o.longName ≠ [] then o.longName else _) = _
  rw [hlong, if_pos (LongName.oem_ne_nil hn), LongName.oem_decode hn]

end DirObject

variable {n k blk dptr : ℕ} {es parts : List Memory} {objs : List Located} {fn e : Memory}
  {seq : LfnSeq} {name : LongName} {sum : UInt8}

/-! ### The entries of a long name -/

/-- The entry of a part is taken up. -/
theorem readEntry_part (fn : Memory) (dptr : ℕ) (seq : LfnSeq) (h : PartOf name k sum e)
    (hk : k < name.parts) :
    readEntry false fn dptr e seq =
      ((LfnSeq.start { seq with attr := 0x0F } dptr e).capture e, none) := by
  have hord := h.ord_used hk
  have hattr := h.attr_masked
  have hvalid : ¬ OtherEntry false e := by
    rw [OtherEntry, hattr]
    rintro (hdel | hdot | hvol)
    · exact hord.2.1 hdel
    · exact hord.2.2.1 hdot
    · exact hvol (by decide)
  rw [readEntry, if_neg hord.1, if_neg hvalid, if_pos hattr, hattr]

/-- Where `dir_read` is when it has seen the parts of a name from part `k` on, which begin at
`blk`. -/
structure Captured (name : LongName) (sum : UInt8) (blk k : ℕ) (seq : LfnSeq) : Prop where
  ord : seq.ord = UInt8.ofNat k
  held : name.HeldFrom seq.lfnbuf k
  sum : seq.sum = sum
  blkOfs : seq.blkOfs = blk

/-- One part more is in the buffer. -/
theorem Captured.step (seq : LfnSeq) (h : PartOf name k sum e) (hk : k < name.parts)
    (hseq : k + 1 < name.parts → Captured name sum blk (k + 1) seq)
    (hblk : k + 1 = name.parts → dptr = blk) :
    Captured name sum blk k ((seq.start dptr e).capture e) := by
  obtain ⟨-, -, -, -, -, hpred⟩ := h.ord_used hk
  have hstart : (seq.start dptr e).ord = UInt8.ofNat (k + 1) ∧ (seq.start dptr e).sum = sum ∧
      (seq.start dptr e).blkOfs = blk ∧ (seq.start dptr e).lfnbuf = seq.lfnbuf := by
    rw [h.start_eq hk]
    by_cases hmore : k + 1 < name.parts
    · rw [if_pos hmore]
      exact ⟨(hseq hmore).ord, (hseq hmore).sum, (hseq hmore).blkOfs, rfl⟩
    · rw [if_neg hmore]
      exact ⟨rfl, rfl, hblk (by omega), rfl⟩
  obtain ⟨hord, hsum, hblkOfs, hbuf⟩ := hstart
  obtain ⟨lfnbuf', hpick, hheld⟩ := pickLfn_spec h hk fun hlt ↦ (hseq hlt).held
  rw [LfnSeq.capture, if_pos ⟨(h.ord_eq hk).trans hord.symm, hsum.trans h.sum.symm⟩, hbuf, hpick]
  refine ⟨?_, hheld, hsum, hblkOfs⟩
  rw [if_pos rfl, hord]
  exact hpred

/-- Over all parts of a name. -/
theorem scanList_captured (fn : Memory) (es : List Memory) (n : ℕ) (seq : LfnSeq)
    (h : name.HeldIn sum name.parts parts) :
    ∃ seq', scanList (readEntry false) fn (parts ++ es) n seq =
        scanList (readEntry false) fn es (n + parts.length) seq' ∧
      Captured name sum (n * 32) 0 seq' := by
  have hstep : ∀ k e dptr t, PartOf name k sum e → k < name.parts →
      (k + 1 < name.parts → Captured name sum (n * 32) (k + 1) t) →
      (k + 1 = name.parts → dptr = n * 32) → ∃ t', readEntry false fn dptr e t = (t', none) ∧
        (k < name.parts → Captured name sum (n * 32) k t') := by
    intro k e dptr t hpart hk ht hblk
    refine ⟨_, readEntry_part fn dptr t hpart hk, fun _ ↦ ?_⟩
    exact Captured.step { t with attr := 0x0F } hpart hk
      (fun hlt ↦ ⟨(ht hlt).ord, (ht hlt).held, (ht hlt).sum, (ht hlt).blkOfs⟩) hblk
  obtain ⟨seq', hrun, hcaptured⟩ :=
    scanList_name (fun k t ↦ k < name.parts → Captured name sum (n * 32) k t) hstep es h
      (Nat.le_refl _) (fun hlt ↦ absurd hlt (Nat.lt_irrefl _)) fun _ ↦ rfl
  exact ⟨seq', hrun, hcaptured name.parts_pos⟩

/-! ### The objects -/

/-- The short entry of an object that is shown ends the reading, with or without the long name. -/
theorem readEntry_sfn (fn : Memory) (dptr : ℕ) (seq : LfnSeq) (o : DirObject) :
    readEntry false fn dptr o.sfn seq =
      let seq' := { seq with attr := o.sfn 11 &&& 0x3F }
      if o.shown = true then
        (if seq.ord = 0 ∧ seq.sum = sumSfn o.sfn then seq' else { seq' with blkOfs := 0xFFFFFFFF },
          some .ok)
      else ({ seq' with ord := 0xFF }, none) := by
  have hvol : ¬ o.sfn 11 &&& 0x3F &&& ~~~0x20 = 0x08 := fun h ↦ by
    have hand : o.sfn 11 &&& 0x3F &&& ~~~0x20 &&& 0x08 = 0 := by
      rw [UInt8.and_assoc]
      exact o.attr.1
    rw [h] at hand
    exact absurd hand (by decide)
  rw [readEntry, if_neg o.used.1]
  by_cases hdot : o.sfn 0 = 0x2E
  · rw [if_pos (.inr (.inl hdot)), DirObject.shown, if_neg (by simp [hdot])]
  · have hvalid : ¬ OtherEntry false o.sfn := by
      rintro (hdel | hdot' | hv)
      · exact o.used.2 hdel
      · exact hdot hdot'
      · exact hv (decide_eq_false hvol)
    rw [if_neg hvalid, if_neg o.attr.2, DirObject.shown, if_pos (decide_eq_true hdot)]
    by_cases hlong : seq.ord = 0 ∧ seq.sum = sumSfn o.sfn
    · rw [if_pos hlong, if_neg]
      rintro (hord | hsum)
      · exact hord hlong.1
      · exact hsum hlong.2
    · rw [if_neg hlong, if_pos (not_and_or.1 hlong)]

/-- The end of the directory ends the reading. -/
theorem readEntry_done (dptr : ℕ) (e : Memory) (seq : LfnSeq) (hzero : e 0 = 0) :
    ∃ seq', readEntry false fn dptr e seq = (seq', some .noFile) :=
  ⟨seq, by rw [readEntry, if_pos hzero]⟩

/-- An entry without an object breaks the sequence off. -/
theorem readEntry_blank (dptr : ℕ) (e : Memory) (seq : LfnSeq) (hne : e 0 ≠ 0) (h : BlankEntry e)
    (_ : seq.ord = 0xFF) :
    ∃ seq', readEntry false fn dptr e seq = (seq', none) ∧ seq'.ord = 0xFF := by
  have hother : OtherEntry false e := h.imp_right fun hvol ↦
    .inr fun hfalse ↦ of_decide_eq_false hfalse hvol
  refine ⟨{ seq with attr := e 11 &&& 0x3F, ord := 0xFF }, ?_, rfl⟩
  rw [readEntry, if_neg hne, if_pos hother]

/-- The loop comes to an object, and passes over `.` and `..`. -/
theorem scanList_readObject (es : List Memory) (n : ℕ) (o : DirObject) (h : o.HeldIn parts)
    (hseq : seq.ord = 0xFF) :
    ∃ seq', if o.shown = true then
        scanList (readEntry false) fn (parts ++ o.sfn :: es) n seq =
            (seq', some (n + parts.length, .ok)) ∧ o.ReadTo n seq'
      else
        scanList (readEntry false) fn (parts ++ o.sfn :: es) n seq =
          scanList (readEntry false) fn es (n + parts.length + 1) seq' ∧ seq'.ord = 0xFF := by
  -- What is known of the name at the short entry.
  obtain ⟨seq₁, hrun, hread⟩ : ∃ seq₁, scanList (readEntry false) fn (parts ++ o.sfn :: es) n seq =
        scanList (readEntry false) fn (o.sfn :: es) (n + parts.length) seq₁ ∧
      o.ReadTo n (if seq₁.ord = 0 ∧ seq₁.sum = sumSfn o.sfn then seq₁
        else { seq₁ with blkOfs := 0xFFFFFFFF }) := by
    rw [DirObject.HeldIn] at h
    cases hname : o.name with
    | none =>
      rw [hname] at h
      obtain rfl : parts = [] := h
      have hne : ¬ (seq.ord = 0 ∧ seq.sum = sumSfn o.sfn) := fun hzero ↦ by
        rw [hseq] at hzero
        exact absurd hzero.1 (by decide)
      refine ⟨seq, rfl, ?_⟩
      rw [if_neg hne, DirObject.ReadTo, hname]
    | some m =>
      rw [hname] at h
      obtain ⟨seq₁, hrun, hcaptured⟩ := scanList_captured fn (o.sfn :: es) n seq h
      refine ⟨seq₁, hrun, ?_⟩
      rw [if_pos ⟨hcaptured.ord, hcaptured.sum⟩, DirObject.ReadTo, hname]
      exact ⟨hcaptured.blkOfs, fun i hi ↦ hcaptured.held i (Nat.zero_le _) hi⟩
  have hsfn := readEntry_sfn fn ((n + parts.length) * 32) seq₁ o
  rw [hrun]
  by_cases hn : o.shown = true
  · simp only [if_pos hn] at hsfn ⊢
    refine ⟨_, scanList_some _ hsfn, ?_⟩
    by_cases hlong : seq₁.ord = 0 ∧ seq₁.sum = sumSfn o.sfn
    · rw [if_pos hlong] at hread ⊢
      exact hread
    · rw [if_neg hlong] at hread ⊢
      exact hread
  · simp only [if_neg hn] at hsfn ⊢
    exact ⟨_, scanList_none _ hsfn, rfl⟩

/-! ### The rest of a directory -/

/-- No entries hold no object. -/
theorem Listing.eq_nil (h : Listing BlankEntry n [] objs) : objs = [] := by
  generalize hes : ([] : List Memory) = es at h
  cases h with
  | nil => rfl
  | done => rfl
  | unused => cases hes
  | object o h hes' =>
    rw [List.nil_eq_append_iff] at hes
    cases hes.2

/-- Behind the first object that is shown are the others. -/
theorem Listing.rest (h : Listing BlankEntry n es objs) {o : Located}
    (ho : (objs.find? fun o ↦ o.object.shown) = some o) :
    ∃ objs', Listing BlankEntry (o.sfnAt + 1) (es.drop (o.sfnAt + 1 - n)) objs' ∧
      objs.filter (fun o ↦ o.object.shown) = o :: objs'.filter fun o ↦ o.object.shown := by
  induction h with
  | nil => cases ho
  | done => cases ho
  | @unused n e es objs hne hun hes ih =>
    obtain ⟨objs', hlisting, hfilter⟩ := ih ho
    have hle := (hes.sfn_at (List.mem_of_find?_eq_some ho)).1
    refine ⟨objs', ?_, hfilter⟩
    rw [show o.sfnAt + 1 - n = o.sfnAt + 1 - (n + 1) + 1 by omega, List.drop_succ_cons]
    exact hlisting
  | @object n parts es objs o' hparts hes ih =>
    by_cases hn : o'.shown = true
    · rw [List.find?_cons, hn] at ho
      cases ho
      refine ⟨objs, ?_, by rw [List.filter_cons, if_pos hn]⟩
      rw [show n + parts.length + 1 - n = parts.length + 1 by omega, List.drop_append,
        List.drop_eq_nil_of_le (Nat.le_succ _), List.nil_append,
        show parts.length + 1 - parts.length = 1 by omega, List.drop_succ_cons, List.drop_zero]
      exact hes
    · rw [List.find?_cons, Bool.eq_false_iff.2 hn] at ho
      obtain ⟨objs', hlisting, hfilter⟩ := ih ho
      have hle := (hes.sfn_at (List.mem_of_find?_eq_some ho)).1
      refine ⟨objs', ?_, ?_⟩
      rotate_left
      · rw [List.filter_cons, if_neg hn]
        exact hfilter
      rw [show o.sfnAt + 1 - n = parts.length + (o.sfnAt + 1 - (n + parts.length + 1) + 1) by omega,
        List.drop_append, List.drop_eq_nil_of_le (by omega), List.nil_append,
        Nat.add_sub_cancel_left, List.drop_succ_cons]
      exact hlisting

/-! ### `dir_read` -/

section Read

variable {g : FatGeometry} {ρ : Prop} {others : List (List ℕ)} {D : Memory} {T : ℕ → ℕ}
  {last free : ℕ} {p : DirPlace} {s t : FatDir}

/-- The object is before these objects of the directory, or at the end. -/
def ReadAt (g : FatGeometry) (ρ : Prop) (others : List (List ℕ)) (D : Memory) (T : ℕ → ℕ)
    (last free : ℕ) (p : DirPlace) (objs : List Located) (s : FatDir) : Prop :=
  DirView g ρ others D T last free p s ∧
    ((∃ n, DirAt g p n s ∧ Listing BlankEntry n ((p.entries g D).drop n) objs) ∨
      s.sect = 0 ∧ objs = [])

/-- How `dir_read` ends before these objects. -/
def ReadEnd (g : FatGeometry) (ρ : Prop) (others : List (List ℕ)) (D : Memory) (T : ℕ → ℕ)
    (last free : ℕ) (p : DirPlace) (objs : List Located) (r : Option FResult) (t : FatDir) : Prop :=
  DirView g ρ others D T last free p t ∧ ∃ res, r = some res ∧
    (ObjectFound g D p (fun o seq ↦ o.object.ReadTo o.start seq) res t
        (objs.find? fun o ↦ o.object.shown) ∧ (res ≠ .ok → t.sect = 0) ∨
      res = .diskErr ∧ ¬ ρ)

/-- **`dir_read` comes to the next object**, with its name. -/
theorem dirRead_reads (hg : g.DirSound) (hs : ReadAt g ρ others D T last free p objs s) :
    Triple (fun t ↦ t = s) (dirRead g false) (ReadEnd g ρ others D T last free p objs) := by
  obtain ⟨hview, hplace⟩ := hs
  refine triple_modify_then (triple_get_bind ?_)
  rintro t rfl
  refine .ite (fun hzero ↦ .pure ?_) fun hne ↦ ?_
  · rintro t rfl
    rcases hplace with ⟨n, hat, -⟩ | ⟨hend, rfl⟩
    · have hsector := hview.sector hg (DirPlace.sector_of_entry hat.lt)
      exact absurd (hat.sect.symm.trans hzero) hsector.2.2.2
    · exact ⟨hview.moved rfl rfl, _, rfl, .inl ⟨rfl, fun _ ↦ hzero⟩⟩
  · rcases hplace with ⟨n, hat, hlisting⟩ | ⟨hend, -⟩
    · have hcap : p.capacity g ≤ n + maxDir / 32 :=
        (Nat.min_le_right _ _).trans (Nat.le_add_left _ _)
      have hmoved := hview.moved
        (t := { s with seq := { s.seq with ord := 0xFF, sum := 0xFF } }) rfl rfl
      refine .bind (scanDir_view hg (readEntry false) _ hmoved hat.reseq hcap) fun r ↦ ?_
      rintro u ⟨hu, -, res, rfl, hend⟩
      refine (?_ : Triple (fun v ↦ v = u) _ (ReadEnd g ρ others D T last free p objs)) u rfl
      rcases hend with hend | ⟨rfl, hρ⟩
      · have hfound := objectFound_of_scanEnd hlisting
          (scanList_listing (I := fun t ↦ t.ord = 0xFF) DirObject.shown
            (fun o seq ↦ o.object.ReadTo o.start seq) readEntry_done readEntry_blank
            (fun n o _ es _ h ht ↦ scanList_readObject es n o h ht) hlisting rfl)
          (fun _ ho ↦ List.mem_of_find?_eq_some ho) hend
        refine .ite (fun hok ↦ .pure ?_) fun hok ↦ triple_modify_then (.pure ?_)
        · rintro u rfl
          exact ⟨hu, res, rfl, .inl ⟨hfound, fun h ↦ absurd (Option.some.inj hok) h⟩⟩
        · rintro _ rfl
          refine ⟨hu.moved rfl rfl, res, rfl, .inl ⟨?_, fun _ ↦ rfl⟩⟩
          cases hfind : objs.find? fun o ↦ o.object.shown with
          | none =>
            rw [hfind] at hfound
            exact hfound
          | some o =>
            rw [hfind] at hfound
            exact absurd (congrArg some hfound.1) hok
      · refine .ite (fun hok ↦ FResult.noConfusion (Option.some.inj hok)) fun _ ↦
          triple_modify_then (.pure ?_)
        rintro _ rfl
        exact ⟨hu.moved rfl rfl, _, rfl, .inr ⟨rfl, hρ⟩⟩
    · exact absurd hend hne

/-! ### `f_readdir` -/

/-- **`get_fileinfo` describes the object that was read.** -/
theorem getFileinfo_describes {o : DirObject} {start : ℕ} (hne : s.sect ≠ 0)
    (hentry : s.entry = o.sfn) (hread : o.ReadTo start s.seq) :
    Triple (fun t ↦ t = s) getFileinfo fun r t ↦ t = s ∧
      r = some (some (fileInfo o.longName o.sfn)) := by
  rw [DirObject.ReadTo] at hread
  refine triple_get_bind ?_
  rintro s rfl
  refine .ite (fun hzero ↦ absurd hzero hne) fun _ ↦ ?_
  rw [hentry, DirObject.longName]
  cases hname : o.name with
  | none =>
    rw [hname] at hread
    refine .ite (fun hblk ↦ absurd hread hblk) fun _ ↦ .pure ?_
    rintro s rfl
    exact ⟨rfl, rfl⟩
  | some name =>
    rw [hname] at hread
    -- No long name begins where `blk_ofs` says that there is none.
    refine .ite (fun _ ↦ ?_) fun hblk ↦ ?_
    · rw [lfnName_held hread.2]
      refine .pure ?_
      rintro s rfl
      exact ⟨rfl, rfl⟩
    · rw [hread.1] at hblk
      omega

/-- At the end of the directory there is no name. -/
theorem getFileinfo_end (hzero : s.sect = 0) :
    Triple (fun t ↦ t = s) getFileinfo fun r t ↦ t = s ∧ r = some none := by
  refine triple_get_bind ?_
  rintro s rfl
  refine .ite (fun _ ↦ .pure ?_) fun hne ↦ absurd hzero hne
  rintro s rfl
  exact ⟨rfl, rfl⟩

/-- At the end of the directory `dir_next` stays there. -/
theorem dirNext_ended (hs : DirView g ρ others D T last free p s) (hzero : s.sect = 0) :
    Triple (fun t ↦ t = s) (dirNext g none) fun r t ↦
      DirView g ρ others D T last free p t ∧ t.sect = 0 ∧ r = some .noFile := by
  refine triple_get_bind ?_
  rintro s rfl
  refine .ite (fun _ ↦ triple_modify_then (.pure ?_)) fun _ ↦
    .ite (fun _ ↦ .pure ?_) fun hne ↦ absurd hzero hne
  · rintro _ rfl
    exact ⟨hs.moved rfl rfl, rfl, rfl⟩
  · rintro s rfl
    exact ⟨hs, hzero, rfl⟩

/-- The objects that are shown from here on. -/
def ReadsFrom (g : FatGeometry) (ρ : Prop) (others : List (List ℕ)) (D : Memory) (T : ℕ → ℕ)
    (last free : ℕ) (p : DirPlace) (l : List Located) (s : FatDir) : Prop :=
  ∃ objs, ReadAt g ρ others D T last free p objs s ∧ objs.filter (fun o ↦ o.object.shown) = l

/-- How the reading of an item ends when the objects `l` are left. -/
def ReaddirEnd (g : FatGeometry) (ρ : Prop) (others : List (List ℕ)) (D : Memory) (T : ℕ → ℕ)
    (last free : ℕ) (p : DirPlace) (l : List Located) (r : Option (FResult × Option FileInfo))
    (t : FatDir) : Prop :=
  r = some (.diskErr, none) ∧ ¬ ρ ∨
    match l with
    | [] => r = some (.ok, none) ∧ ReadsFrom g ρ others D T last free p [] t
    | o :: l => ∃ info, r = some (.ok, some info) ∧ o.object.Describes info ∧
        ReadsFrom g ρ others D T last free p l t

/-- **One call gives the next object**, or nothing at the end. -/
theorem readItem_reads (hg : g.DirSound) {l : List Located}
    (hs : ReadsFrom g ρ others D T last free p l s) :
    Triple (fun t ↦ t = s) (readItem g) (ReaddirEnd g ρ others D T last free p l) := by
  obtain ⟨objs, hat, rfl⟩ := hs
  refine .bind (dirRead_reads hg hat) fun r ↦ ?_
  rintro t ⟨ht, res, rfl, hres⟩
  refine (?_ : Triple (fun u ↦ u = t) _ (ReaddirEnd g ρ others D T last free p _)) t rfl
  rcases hres with ⟨hfound, hend⟩ | ⟨rfl, hρ⟩
  · cases hfind : objs.find? fun o ↦ o.object.shown with
    | none =>
      rw [hfind] at hfound
      obtain rfl : res = .noFile := hfound
      have hzero := hend (by decide)
      have hnil : objs.filter (fun o ↦ o.object.shown) = [] :=
        List.filter_eq_nil_iff.2 (List.find?_eq_none.1 hfind)
      rw [hnil]
      refine .ite (fun h ↦ absurd rfl h) fun _ ↦ .bind (getFileinfo_end hzero) fun info ↦ ?_
      rintro t ⟨rfl, rfl⟩
      refine (?_ : Triple (fun u ↦ u = t) _ (ReaddirEnd g ρ others D T last free p [])) t rfl
      refine .bind (dirNext_ended ht hzero) fun r ↦ ?_
      rintro u ⟨hu, huzero, rfl⟩
      exact .inr ⟨rfl, [], ⟨hu, .inr ⟨huzero, rfl⟩⟩, rfl⟩
    | some o =>
      rw [hfind] at hfound
      obtain ⟨rfl, hentry, hsfn, hread⟩ := hfound
      have hne : t.sect ≠ 0 := by
        rw [hentry.dirAt.sect]
        exact (ht.sector hg (DirPlace.sector_of_entry hentry.dirAt.lt)).2.2.2
      obtain ⟨objs', hlisting', hfilter⟩ : ∃ objs',
          Listing BlankEntry (o.sfnAt + 1) ((p.entries g D).drop (o.sfnAt + 1)) objs' ∧
            objs.filter (fun o ↦ o.object.shown) = o :: objs'.filter fun o ↦ o.object.shown := by
        rcases hat.2 with ⟨n, -, hlisting⟩ | ⟨-, rfl⟩
        · obtain ⟨objs', hlisting', hfilter⟩ := hlisting.rest hfind
          have hle := (hlisting.sfn_at (List.mem_of_find?_eq_some hfind)).1
          rw [List.drop_drop, show n + (o.sfnAt + 1 - n) = o.sfnAt + 1 by omega] at hlisting'
          exact ⟨objs', hlisting', hfilter⟩
        · cases hfind
      rw [hfilter]
      refine .ite (fun h ↦ absurd rfl h) fun _ ↦
        .bind (getFileinfo_describes hne hsfn hread) fun info ↦ ?_
      rintro t ⟨rfl, rfl⟩
      refine (?_ : Triple (fun u ↦ u = t) _ (ReaddirEnd g ρ others D T last free p _)) t rfl
      refine .bind (dirNext_view hg ht hentry.dirAt) fun r ↦ ?_
      rintro u ⟨hu, -, res, rfl, hnext⟩
      have hdesc := o.object.describes
      rcases hnext with ⟨rfl, huat⟩ | ⟨rfl, hlast, huzero⟩ | ⟨rfl, hρ⟩
      · exact .inr ⟨_, rfl, hdesc, objs', ⟨hu, .inl ⟨_, huat, hlisting'⟩⟩, rfl⟩
      · have hnil : (p.entries g D).drop (o.sfnAt + 1) = [] :=
          List.drop_eq_nil_of_le (by rw [p.length_entries]; omega)
        rw [hnil] at hlisting'
        exact .inr ⟨_, rfl, hdesc, [], ⟨hu, .inr ⟨huzero, rfl⟩⟩, by rw [hlisting'.eq_nil]⟩
      · exact .inl ⟨rfl, hρ⟩
  · refine .ite (fun _ ↦ .pure ?_) fun h ↦ absurd (by decide) h
    rintro t rfl
    exact .inl ⟨rfl, hρ⟩

/-- The buffer does not matter. -/
theorem ReadsFrom.buffer {l : List Located} (hs : ReadsFrom g ρ others D T last free p l s)
    (lfnbuf : LfnBuf) :
    ReadsFrom g ρ others D T last free p l { s with seq.lfnbuf := lfnbuf } := by
  obtain ⟨objs, ⟨hview, hplace⟩, hl⟩ := hs
  refine ⟨objs, ⟨hview.moved rfl rfl, hplace.imp_left ?_⟩, hl⟩
  rintro ⟨n, hat, hlisting⟩
  exact ⟨n, hat.reseq, hlisting⟩

/-- What calls of `f_readdir` give for the objects `all` when `l` are left: one after the other, and
then nothing more, until a disk error is reported. A call that is refused, or finds no memory, leaves
the directory where it is. -/
def ReadsOut (ρ : Prop) (all : List Located) : (calls : List ReaddirCall) →
    (l : List Located) → List (Option (FResult × Option FileInfo)) → Prop
  | [], _, rs => rs = []
  | call :: calls, l, rs => ∃ r rs', rs = r :: rs' ∧
      if call.valid ≠ .ok then r = some (call.valid, none) ∧ ReadsOut ρ all calls l rs'
      else if call.fno = true ∧ call.memalloc = none then
        r = some (.notEnoughCore, none) ∧ ReadsOut ρ all calls l rs'
      else r = some (.diskErr, none) ∧ ¬ ρ ∨
        if call.fno = false then r = some (.ok, none) ∧ ReadsOut ρ all calls all rs'
        else match l with
          | [] => r = some (.ok, none) ∧ ReadsOut ρ all calls [] rs'
          | o :: l => ∃ info, r = some (.ok, some info) ∧ o.object.Describes info ∧
              ReadsOut ρ all calls l rs'

/-- The object still belongs to its directory. -/
theorem ReadsFrom.view {l : List Located} (hs : ReadsFrom g ρ others D T last free p l s) :
    DirView g ρ others D T last free p s := by
  obtain ⟨objs, hat, -⟩ := hs
  exact hat.1

/-- Any calls, from any place in the directory. -/
theorem runReaddir_reads (hg : g.DirSound) (calls : List ReaddirCall)
    (hlisting : Listing BlankEntry 0 (p.entries g D) objs) {l : List Located}
    (hs : ReadsFrom g ρ others D T last free p l s) :
    ReadsOut ρ (objs.filter fun o ↦ o.object.shown) calls l (runReaddir g calls s).1 := by
  induction calls generalizing l s with
  | nil => rfl
  | cons call calls ih =>
    obtain ⟨valid, fno, memalloc⟩ := call
    refine ⟨(fReaddir g ⟨valid, fno, memalloc⟩ s).1,
      (runReaddir g calls (fReaddir g ⟨valid, fno, memalloc⟩ s).2).1, rfl, ?_⟩
    by_cases hvalid : valid ≠ .ok
    · rw [if_pos hvalid, fReaddir, if_pos hvalid]
      exact ⟨rfl, ih hs⟩
    · obtain rfl := not_not.1 hvalid
      rw [if_neg hvalid]
      cases fno with
      | false =>
        rw [if_neg fun h ↦ Bool.noConfusion h.1]
        obtain ⟨hview, -, hres⟩ := dirSdi_view (n := 0) hg hs.view (hs.view.capacity_pos hg) s rfl
        rcases hres with ⟨hok, hat⟩ | ⟨herr, hρ⟩
        · refine .inr ⟨congrArg (fun res ↦ some (res, none)) hok, ih ⟨objs, ⟨hview, .inl ?_⟩, rfl⟩⟩
          exact ⟨0, hat, hlisting⟩
        · exact .inl ⟨congrArg (fun res ↦ some (res, none)) herr, hρ⟩
      | true =>
        cases memalloc with
        | none =>
          rw [if_pos ⟨rfl, rfl⟩]
          exact ⟨rfl, ih hs⟩
        | some lfnbuf =>
          rw [if_neg fun h ↦ Option.some_ne_none lfnbuf h.2]
          refine (readItem_reads hg (hs.buffer lfnbuf) _ rfl).imp_right fun hend ↦ ?_
          cases l with
          | nil => exact ⟨hend.1, ih hend.2⟩
          | cons o l =>
            obtain ⟨info, hr, hdesc, hrest⟩ := hend
            exact ⟨info, hr, hdesc, ih hrest⟩

/-- **An open directory is read from object to object**, in any run of `f_readdir`. -/
theorem runReaddir_lists (hg : g.DirSound) (calls : List ReaddirCall)
    (hs : DirView g ρ others D T last free p s) (hat : DirAt g p 0 s)
    (hlisting : Listing BlankEntry 0 (p.entries g D) objs) :
    ReadsOut ρ (objs.filter fun o ↦ o.object.shown) calls (objs.filter fun o ↦ o.object.shown)
      (runReaddir g calls s).1 :=
  runReaddir_reads hg calls hlisting ⟨objs, ⟨hs, .inl ⟨0, hat, hlisting⟩⟩, rfl⟩

end Read

/-- Five calls that read, one of which finds no memory, then a rewind and a call more. -/
def readThree : List ReaddirCall :=
  [⟨.ok, true, some fun _ ↦ 0⟩, ⟨.ok, true, none⟩, ⟨.ok, true, some fun _ ↦ 0x41⟩,
    ⟨.ok, true, some fun _ ↦ 0⟩, ⟨.ok, true, some fun _ ↦ 0⟩, ⟨.ok, false, none⟩,
    ⟨.ok, true, some fun _ ↦ 0⟩]

/-- The names are "readme.txt" in the case that its entry says, "a monthly report.txt", and the
short name "______~1" for the Cyrillic one. -/
theorem runReaddir_lists_small :
    ReadsOut True threeObjects readThree threeObjects
        (runReaddir smallVolume readThree (.inRoot threeEntries)).1 ∧
      (runReaddir smallVolume readThree (.inRoot threeEntries)).1.map
          (fun r ↦ r.bind fun r ↦ r.2.map FileInfo.fname) =
        [some [0x72, 0x65, 0x61, 0x64, 0x6D, 0x65, 0x2E, 0x74, 0x78, 0x74], none,
          some [0x61, 0x20, 0x6D, 0x6F, 0x6E, 0x74, 0x68, 0x6C, 0x79, 0x20,
            0x72, 0x65, 0x70, 0x6F, 0x72, 0x74, 0x2E, 0x74, 0x78, 0x74],
          some [0x5F, 0x5F, 0x5F, 0x5F, 0x5F, 0x5F, 0x7E, 0x31], none, none,
          some [0x72, 0x65, 0x61, 0x64, 0x6D, 0x65, 0x2E, 0x74, 0x78, 0x74]] := by
  have hlisting := threeEntries_listing BlankEntry fun _ h ↦ .inl h
  exact ⟨runReaddir_lists smallVolume_dirSound readThree (FatDir.inRoot_view threeEntries)
    (FatDir.inRoot_at threeEntries) hlisting, by decide +kernel⟩
