import SmartAp.Fat.DirScan
import SmartAp.Fat.FileRun

/-!
# The objects of a directory

An object of a directory has a short entry, and before it the entries of its long name, if it has
one. `Listing` says which objects the entries of a table hold, and where each begins and ends.

## What a table may hold

Between the objects there are deleted entries, volume labels and whatever else the functions pass
over; `Unused` says which, and it is a parameter, since `dir_find`, `dir_read` and `dir_remove` do
not agree on it. The table ends at an entry that begins with 0, or at the end of its capacity. An
entry of a long name that belongs to no object (an orphan) is not part of a listing; a table with
orphans is not one that the results speak of.

## The loop over a name

`dir_find` and `dir_read` go through the table entry by entry. Over the entries of a long name they
keep an invariant that is told for each part (`scanList_name`): how many parts are still to come,
the sum, and what was gathered of the name. When the short entry is reached with no part left and
the sum right, the object is the one that was named. So the loop comes to the first object that is
wanted (`scanList_listing`), by induction over the listing.

## An example

`threeObjects` is a directory in the root of a small volume: a file with a short name, a deleted
entry, a file whose long name has two parts, and one with a name outside of the code page. The
results on finding, reading and removing are instantiated there.
-/

/-- "Is it start of an entry set?" -/
def LfnSeq.start (seq : LfnSeq) (dptr : ℕ) (dir : Memory) : LfnSeq :=
  if dir 0 &&& 0x40 ≠ 0 then
    { seq with ord := dir 0 &&& ~~~0x40, blkOfs := dptr, sum := dir 13 }
  else seq

/-- `et`, without the flag of the first entry of a set. -/
def lfnOrd (dir : Memory) : UInt8 := if dir 0 &&& 0x40 ≠ 0 then dir 0 &&& ~~~0x40 else dir 0

/-- An object of a directory: its short entry, and its long name if it has one. -/
structure DirObject where
  name : Option LongName
  sfn : Memory
  used : sfn 0 ≠ 0 ∧ sfn 0 ≠ 0xE5
  not_vol : sfn 11 &&& 0x08 = 0

/-- The entries hold the parts of the name before part `k`, the last of these first. -/
def LongName.HeldIn (n : LongName) (sum : UInt8) : (k : ℕ) → List Memory → Prop
  | 0, es => es = []
  | k + 1, es => ∃ e rest, es = e :: rest ∧ PartOf n k sum e ∧ n.HeldIn sum k rest

/-- The entries hold the long name of the object, with the sum of the short one. -/
def DirObject.HeldIn (o : DirObject) (es : List Memory) : Prop :=
  match o.name with
  | none => es = []
  | some n => n.HeldIn (sumSfn o.sfn) n.parts es

/-- An object in the table: the entry where it begins, and its short entry. -/
structure Located where
  start : ℕ
  sfnAt : ℕ
  object : DirObject

/-- **The entries `es`, of which the first is entry `n`, hold these objects**, beside entries that
hold none. -/
inductive Listing (Unused : Memory → Prop) : (n : ℕ) → (es : List Memory) → List Located → Prop
  | nil {n : ℕ} : Listing Unused n [] []
  /-- The end of the directory. -/
  | done {n : ℕ} {e : Memory} {es : List Memory} (h : e 0 = 0) : Listing Unused n (e :: es) []
  | unused {n : ℕ} {e : Memory} {es : List Memory} {objs : List Located} (hne : e 0 ≠ 0)
      (h : Unused e) (hes : Listing Unused (n + 1) es objs) : Listing Unused n (e :: es) objs
  | object {n : ℕ} {parts es : List Memory} {objs : List Located} (o : DirObject)
      (h : o.HeldIn parts) (hes : Listing Unused (n + parts.length + 1) es objs) :
      Listing Unused n (parts ++ o.sfn :: es) (⟨n, n + parts.length, o⟩ :: objs)

variable {Unused : Memory → Prop} {visit : Visit} {n k dptr blk : ℕ} {es parts : List Memory}
  {objs : List Located} {fn e : Memory} {seq : LfnSeq} {name : LongName} {sum : UInt8}

/-- The short entry of an object is where the list says. -/
theorem Listing.sfn_at (h : Listing Unused n es objs) {o : Located} (ho : o ∈ objs) :
    n ≤ o.sfnAt ∧ es[o.sfnAt - n]? = some o.object.sfn := by
  induction h with
  | nil => exact absurd ho List.not_mem_nil
  | done => exact absurd ho List.not_mem_nil
  | @unused n e es objs hne hunused hes ih =>
    obtain ⟨hle, hget⟩ := ih ho
    refine ⟨by omega, ?_⟩
    rw [show o.sfnAt - n = o.sfnAt - (n + 1) + 1 by omega, List.getElem?_cons_succ]
    exact hget
  | @object n parts es objs o' hparts hes ih =>
    rcases List.mem_cons.1 ho with rfl | ho
    · refine ⟨Nat.le_add_right _ _, ?_⟩
      show (parts ++ o'.sfn :: es)[n + parts.length - n]? = some o'.sfn
      rw [Nat.add_sub_cancel_left, List.getElem?_append_right (Nat.le_refl _), Nat.sub_self,
        List.getElem?_cons_zero]
    · obtain ⟨hle, hget⟩ := ih ho
      refine ⟨by omega, ?_⟩
      rw [List.getElem?_append_right (by omega),
        show o.sfnAt - n - parts.length = o.sfnAt - (n + parts.length + 1) + 1 by omega,
        List.getElem?_cons_succ]
      exact hget

/-- A short entry does not look like one of a long name. -/
theorem DirObject.attr (o : DirObject) :
    o.sfn 11 &&& 0x3F &&& 0x08 = 0 ∧ o.sfn 11 &&& 0x3F ≠ 0x0F := by
  have hvol : o.sfn 11 &&& 0x3F &&& 0x08 = 0 := by
    rw [UInt8.and_assoc]
    exact o.not_vol
  refine ⟨hvol, fun h ↦ ?_⟩
  rw [h] at hvol
  exact absurd hvol (by decide)

/-! ### The entries of a long name -/

/-- A part has the attribute of a long name. -/
theorem PartOf.attr_masked (h : PartOf name k sum e) : e 11 &&& 0x3F = 0x0F := by
  rw [h.attr]
  decide

/-- No part looks like an entry of another kind. -/
theorem ordByte_used {k : ℕ} (hk : k < 20) (last : Bool) :
    let b := UInt8.ofNat (k + 1) ||| if last then 0x40 else 0
    b ≠ 0 ∧ b ≠ 0xE5 ∧ b ≠ 0x2E ∧ (last = false → b = UInt8.ofNat (k + 1)) ∧
      UInt8.ofNat (k + 1) ≠ 0xFF ∧ UInt8.ofNat (k + 1) - 1 = UInt8.ofNat k := by
  revert last
  revert k
  decide

/-- The first byte of a part: it is none of the marks, and it counts the parts down. -/
theorem PartOf.ord_used (h : PartOf name k sum e) (hk : k < name.parts) :
    e 0 ≠ 0 ∧ e 0 ≠ 0xE5 ∧ e 0 ≠ 0x2E ∧
      (¬ name.chars.length ≤ 13 * (k + 1) → e 0 = UInt8.ofNat (k + 1)) ∧
      UInt8.ofNat (k + 1) ≠ 0xFF ∧ UInt8.ofNat (k + 1) - 1 = UInt8.ofNat k := by
  have hord := ordByte_used (Nat.lt_of_lt_of_le hk name.parts_le)
    (decide (name.chars.length ≤ 13 * (k + 1)))
  simp only [decide_eq_true_eq, ← h.ord, decide_eq_false_iff_not] at hord
  exact hord

/-- Only the 32 bytes of the entry count. -/
theorem PartOf.copied (h : PartOf name k sum e) : PartOf name k sum (dirEntry e 0) where
  ord := h.ord
  attr := h.attr
  sum := h.sum
  zero := h.zero
  chars d o ho := by
    have hlt : ∀ o ∈ lfnOfs, o + 1 < 32 := by decide
    have hlt := hlt o (List.mem_of_getElem? ho)
    rw [← h.chars d o ho, ld16, ld16, dirEntry, dirEntry, if_pos hlt, if_pos (by omega),
      Nat.zero_add, Nat.zero_add]

/-- The last part is the one in which the name ends. -/
theorem LongName.last_iff_parts : name.chars.length ≤ 13 * (k + 1) ↔ ¬ k + 1 < name.parts := by
  rw [LongName.lt_parts_iff, Nat.not_lt]

/-- The first entry of a name begins the sequence. -/
theorem PartOf.start_eq (h : PartOf name k sum e) (hk : k < name.parts) (dptr : ℕ) (seq : LfnSeq) :
    seq.start dptr e = if k + 1 < name.parts then seq
      else { seq with ord := UInt8.ofNat (k + 1), blkOfs := dptr, sum := sum } := by
  by_cases hlast : name.chars.length ≤ 13 * (k + 1)
  · rw [LfnSeq.start, if_pos ((h.last_iff hk).2 hlast), (h.start hk).1, h.sum,
      if_neg (LongName.last_iff_parts.1 hlast)]
  · rw [LfnSeq.start, if_neg fun hne ↦ hlast ((h.last_iff hk).1 hne),
      if_pos (not_not.1 (mt LongName.last_iff_parts.2 hlast))]

/-- The number of a part, without the mark of the first entry. -/
theorem PartOf.ord_eq (h : PartOf name k sum e) (hk : k < name.parts) :
    lfnOrd e = UInt8.ofNat (k + 1) := by
  by_cases hlast : name.chars.length ≤ 13 * (k + 1)
  · rw [lfnOrd, if_pos ((h.last_iff hk).2 hlast), (h.start hk).1]
  · rw [lfnOrd, if_neg fun hne ↦ hlast ((h.last_iff hk).1 hne)]
    exact (h.ord_used hk).2.2.2.1 hlast

/-- **Over the parts of a name**, the invariant `I k` holds before part `k - 1` is seen. -/
theorem scanList_name (I : ℕ → LfnSeq → Prop)
    (hstep : ∀ k e dptr seq, PartOf name k sum e → k < name.parts → I (k + 1) seq →
      (k + 1 = name.parts → dptr = blk) → ∃ seq', visit fn dptr e seq = (seq', none) ∧ I k seq')
    (es : List Memory) (h : name.HeldIn sum k parts) (hk : k ≤ name.parts) (hseq : I k seq)
    (hblk : k = name.parts → n * 32 = blk) :
    ∃ seq', scanList visit fn (parts ++ es) n seq =
      scanList visit fn es (n + parts.length) seq' ∧ I 0 seq' := by
  induction k generalizing parts n seq with
  | zero =>
    obtain rfl : parts = [] := h
    exact ⟨seq, rfl, hseq⟩
  | succ k ih =>
    obtain ⟨e, rest, rfl, hpart, hrest⟩ := h
    obtain ⟨seq₁, hvisit, hseq₁⟩ := hstep k e (n * 32) seq hpart hk hseq hblk
    obtain ⟨seq', hrun, hseq'⟩ := ih (n := n + 1) hrest (Nat.le_of_succ_le hk) hseq₁
      fun heq ↦ by omega
    refine ⟨seq', ?_, hseq'⟩
    rw [List.cons_append, scanList_none _ hvisit, hrun, List.length_cons, Nat.add_assoc,
      Nat.add_comm 1]

/-! ### The objects -/

/-- How the loop ends when `found` is the first object that is wanted, and what `seq` is there. -/
def FirstWanted (Q : Located → LfnSeq → Prop) (out : LfnSeq × Option (ℕ × FResult)) :
    Option Located → Prop
  | none => out.2 = none ∨ ∃ i, out.2 = some (i, .noFile)
  | some o => out.2 = some (o.sfnAt, .ok) ∧ Q o out.1

/-- **The loop comes to the first object that is wanted**, if it ends at the end of the directory,
passes over entries without an object, and treats each object as a whole. -/
theorem scanList_listing {I : LfnSeq → Prop} (wanted : DirObject → Bool)
    (Q : Located → LfnSeq → Prop)
    (hdone : ∀ dptr e seq, e 0 = 0 → ∃ seq', visit fn dptr e seq = (seq', some .noFile))
    (hunused : ∀ dptr e seq, e 0 ≠ 0 → Unused e → I seq →
      ∃ seq', visit fn dptr e seq = (seq', none) ∧ I seq')
    (hobject : ∀ n o parts es seq, o.HeldIn parts → I seq → ∃ seq',
      if wanted o = true then
        scanList visit fn (parts ++ o.sfn :: es) n seq = (seq', some (n + parts.length, .ok)) ∧
          Q ⟨n, n + parts.length, o⟩ seq'
      else
        scanList visit fn (parts ++ o.sfn :: es) n seq =
          scanList visit fn es (n + parts.length + 1) seq' ∧ I seq')
    (h : Listing Unused n es objs) (hseq : I seq) :
    FirstWanted Q (scanList visit fn es n seq) (objs.find? fun o ↦ wanted o.object) := by
  induction h generalizing seq with
  | nil => exact .inl rfl
  | @done n e es hzero =>
    obtain ⟨seq', hvisit⟩ := hdone (n * 32) e seq hzero
    exact .inr ⟨n, by rw [scanList_some _ hvisit]⟩
  | @unused n e es objs hne hun hes ih =>
    obtain ⟨seq', hvisit, hseq'⟩ := hunused (n * 32) e seq hne hun hseq
    rw [scanList_none _ hvisit]
    exact ih hseq'
  | @object n parts es objs o hparts hes ih =>
    obtain ⟨seq', hrun⟩ := hobject n o parts es seq hparts hseq
    by_cases hn : wanted o = true
    · rw [if_pos hn] at hrun
      rw [List.find?_cons, hn, hrun.1]
      exact ⟨rfl, hrun.2⟩
    · rw [if_neg hn] at hrun
      rw [List.find?_cons, Bool.eq_false_iff.2 hn, hrun.1]
      exact ih hrun.2

section Found

variable {g : FatGeometry} {D : Memory} {p : DirPlace} {s : FatDir}

/-- How the loop over the table ends when `found` is the first object that is wanted. -/
def ObjectFound (g : FatGeometry) (D : Memory) (p : DirPlace) (Q : Located → LfnSeq → Prop)
    (res : FResult) (t : FatDir) : Option Located → Prop
  | none => res = .noFile
  | some o => res = .ok ∧ EntryFound g D p o.sfnAt t ∧ t.entry = o.object.sfn ∧ Q o t.seq

/-- What the loop over the list finds is found in the table. -/
theorem objectFound_of_scanEnd {Q : Located → LfnSeq → Prop} {out : LfnSeq × Option (ℕ × FResult)}
    {found : Option Located} {res : FResult}
    (hlists : Listing Unused n ((p.entries g D).drop n) objs) (hfirst : FirstWanted Q out found)
    (hmem : ∀ o, found = some o → o ∈ objs) (hend : ScanEnd g D p out res s) :
    ObjectFound g D p Q res s found := by
  obtain ⟨hseq, hend⟩ := hend
  cases found with
  | none =>
    rcases hend with ⟨-, hres, -⟩ | ⟨i, hout, -⟩
    · exact hres
    · rcases hfirst with hnone | ⟨i', hsome⟩
      · rw [hnone] at hout
        cases hout
      · rw [hsome] at hout
        cases hout
        rfl
  | some o =>
    obtain ⟨hfound, hQ⟩ := hfirst
    rcases hend with ⟨hnone, -⟩ | ⟨i, hout, hentry⟩
    · rw [hfound] at hnone
      cases hnone
    · rw [hfound] at hout
      cases hout
      obtain ⟨hle, hsfn⟩ := hlists.sfn_at (hmem o rfl)
      rw [List.getElem?_drop, Nat.add_sub_cancel' hle] at hsfn
      exact ⟨rfl, hentry, Option.some.inj (hentry.entry.symm.trans hsfn), hseq ▸ hQ⟩

end Found

/-! ### A directory with three objects -/

/-- The root of the volume of 128 sectors is one sector. -/
theorem smallVolume_dirSound : smallVolume.DirSound where
  toVolumeSound := smallVolume_volumeSound
  root_le _ := by decide
  root_size _ := by decide

/-- A disk on which the root directory has the entries `es`, and no cluster is used. -/
def rootDisk (es : List Memory) : Memory := fun a ↦
  if a / 512 = 3 then es.getD (a % 512 / 32) (fun _ ↦ 0) (a % 32) else 0

/-- The root of this disk. -/
def FatDir.inRoot (es : List Memory) : FatDir where
  fs := ⟨.empty ⟨rootDisk es, fun _ ↦ none⟩, 0, 0xFFFFFFFF, 0x80⟩
  sclust := 0
  dptr := 0
  clust := 0
  sect := 3
  dir := 0
  fn := fun i ↦ if i = 11 then 0x03 else 0x20
  seq := ⟨0, 0, 0, 0, fun _ ↦ 0⟩

section

variable (es : List Memory)

/-- The object stands at the first entry. -/
theorem FatDir.inRoot_at : DirAt smallVolume .fixed 0 (.inRoot es) :=
  ⟨by decide, rfl, rfl, rfl, rfl⟩

/-- It belongs to the root of the disk. -/
theorem FatDir.inRoot_view :
    DirView smallVolume True [] (rootDisk es) (fatEntry smallVolume (rootDisk es)) 0 0xFFFFFFFF
      .fixed (.inRoot es) where
  data := by
    refine ⟨⟨rootDisk es, ⟨⟨_, .empty smallVolume _ (fun _ _ ↦ rfl) fun _ _ a ha ↦ ?_, .self _⟩, rfl,
      rfl⟩, fun _ _ ↦ rfl⟩, fun h ↦ absurd (h.lt smallVolume_volumeSound) (Nat.lt_irrefl _)⟩
    have h₁ : 1 ≤ a / 512 := ha.1
    have h₂ : a / 512 < 2 := ha.2
    show rootDisk es (a + 1 * 512) = rootDisk es a
    rw [rootDisk, rootDisk, if_neg (by omega), if_neg (by omega)]
  chains := by
    refine ⟨.nil, fun _ hle ↦ absurd hle (by decide), fun _ c hc ↦ ?_⟩
    have hlt : c < 126 := hc.2
    have hat : smallVolume.entryAt c = 512 + (c + c / 2) := entryAt_fat12 rfl c
    have hzero : ∀ i ≤ 1, rootDisk es (smallVolume.entryAt c + i) = 0 := fun i hi ↦ by
      rw [rootDisk, if_neg (by omega)]
    have hentry : fatEntry smallVolume (rootDisk es) c = 0 := by
      rw [fatEntry_fat12 rfl, hzero 1 (Nat.le_refl 1), show rootDisk es (smallVolume.entryAt c) = 0
        from hzero 0 (Nat.zero_le 1)]
      simp
    rw [hentry]
    decide
  starts := ⟨by decide, rfl⟩

/-- Behind the entries there is the end of the directory. -/
theorem rootDisk_entries (hlen : es.length ≤ 16) (hes : ∀ e ∈ es, dirEntry e 0 = e) :
    DirPlace.fixed.entries smallVolume (rootDisk es) =
      es ++ List.replicate (16 - es.length) fun _ ↦ 0 := by
  have hcap : DirPlace.fixed.capacity smallVolume = 16 := by decide
  refine List.ext_getElem? fun k ↦ ?_
  by_cases hk : k < 16
  · have haddr : DirPlace.fixed.addr smallVolume k = 3 * 512 + k * 32 := by
      show (3 + k / 16) * 512 + k % 16 * 32 = _
      omega
    have hentry : dirEntry (rootDisk es) (DirPlace.fixed.addr smallVolume k) =
        dirEntry (es.getD k fun _ ↦ 0) 0 := by
      refine dirEntry_congr fun i hi ↦ ?_
      rw [haddr, rootDisk, if_pos (by omega),
        show (3 * 512 + k * 32 + i) % 512 / 32 = k by omega,
        show (3 * 512 + k * 32 + i) % 32 = i by omega, Nat.zero_add]
    rw [DirPlace.getElem?_entries _ (hcap ▸ hk), hentry, List.getD_eq_getElem?_getD]
    by_cases hin : k < es.length
    · rw [List.getElem?_append_left hin, List.getElem?_eq_getElem hin, Option.getD_some,
        hes _ (List.getElem_mem hin)]
    · rw [List.getElem?_append_right (Nat.le_of_not_lt hin), List.getElem?_replicate,
        if_pos (by omega), List.getElem?_eq_none (Nat.le_of_not_lt hin), Option.getD_none]
      exact congrArg some (funext fun i ↦ ite_self 0)
  · rw [List.getElem?_eq_none (by rw [DirPlace.length_entries, hcap]; omega),
      List.getElem?_eq_none (by rw [List.length_append, List.length_replicate]; omega)]

end

/-- The entry with these bytes. -/
def entryOf (bytes : List UInt8) : Memory := dirEntry (fun i ↦ bytes.getD i 0) 0

/-- The buffer with these characters. -/
def bufferOf (chars : List ℕ) : LfnBuf := fun i ↦ chars.getD i 0

/-- The buffer of a name holds it. -/
theorem LongName.held_bufferOf (n : LongName) : n.Held (bufferOf n.chars) := fun _ hi ↦
  (if_pos hi).symm

/-- The entry of part `k` of a name, as `put_lfn` makes it. -/
def partEntry (n : LongName) (k : ℕ) (sum : UInt8) : Memory :=
  dirEntry (putLfn (bufferOf n.chars) (fun _ ↦ 0) (UInt8.ofNat (k + 1)) sum) 0

/-- The entry has the part. -/
theorem partEntry_partOf {n : LongName} {k : ℕ} (hk : k < n.parts) (sum : UInt8) :
    PartOf n k sum (partEntry n k sum) :=
  (putLfn_partOf n.held_bufferOf hk _).copied

/-- "README.TXT", in lower case. -/
def DirObject.readme : DirObject where
  name := none
  sfn := entryOf ([0x52, 0x45, 0x41, 0x44, 0x4D, 0x45, 0x20, 0x20, 0x54, 0x58, 0x54] ++ [0x20, 0x18])
  used := by decide
  not_vol := by decide

/-- "a monthly report.txt" -/
def LongName.report : LongName where
  chars := [0x61, 0x20, 0x6D, 0x6F, 0x6E, 0x74, 0x68, 0x6C, 0x79, 0x20,
    0x72, 0x65, 0x70, 0x6F, 0x72, 0x74, 0x2E, 0x74, 0x78, 0x74]
  ne_nil := List.cons_ne_nil _ _
  length_le := by decide
  char := by decide

/-- The file with this name. -/
def DirObject.report : DirObject where
  name := some .report
  sfn := entryOf ([0x41, 0x4D, 0x4F, 0x4E, 0x54, 0x48, 0x7E, 0x31, 0x54, 0x58, 0x54] ++ [0x20])
  used := by decide
  not_vol := by decide

/-- A name in Cyrillic letters. -/
def LongName.letter : LongName where
  chars := [0x043F, 0x0438, 0x0441, 0x044C, 0x043C, 0x043E]
  ne_nil := List.cons_ne_nil _ _
  length_le := by decide
  char := by decide

/-- The file with this name. -/
def DirObject.letter : DirObject where
  name := some .letter
  sfn := entryOf ([0x5F, 0x5F, 0x5F, 0x5F, 0x5F, 0x5F, 0x7E, 0x31, 0x20, 0x20, 0x20] ++ [0x20])
  used := by decide
  not_vol := by decide

/-- The entries of the three files, and two that were deleted. -/
def threeEntries : List Memory :=
  [entryOf [0xE5], DirObject.readme.sfn,
    partEntry .report 1 (sumSfn DirObject.report.sfn),
    partEntry .report 0 (sumSfn DirObject.report.sfn),
    DirObject.report.sfn, entryOf [0xE5],
    partEntry .letter 0 (sumSfn DirObject.letter.sfn), DirObject.letter.sfn]

/-- The objects, and where they are. -/
def threeObjects : List Located := [⟨1, 1, .readme⟩, ⟨2, 4, .report⟩, ⟨6, 7, .letter⟩]

/-- The root of this disk holds the three objects. -/
theorem threeEntries_listing (Unused : Memory → Prop)
    (hunused : ∀ e : Memory, e 0 = 0xE5 → Unused e) :
    Listing Unused 0 (DirPlace.fixed.entries smallVolume (rootDisk threeEntries)) threeObjects := by
  have hentries : ∀ e ∈ threeEntries, dirEntry e 0 = e := by
    simp [threeEntries, entryOf, partEntry, DirObject.readme, DirObject.report, DirObject.letter]
  have hdeleted : entryOf [0xE5] 0 ≠ 0 ∧ Unused (entryOf [0xE5]) :=
    ⟨by decide, hunused _ rfl⟩
  have hreadme : DirObject.readme.HeldIn [] := rfl
  have hreport : DirObject.report.HeldIn [partEntry .report 1 (sumSfn DirObject.report.sfn),
      partEntry .report 0 (sumSfn DirObject.report.sfn)] :=
    ⟨_, _, rfl, partEntry_partOf (by decide) _, _, _, rfl, partEntry_partOf (by decide) _, rfl⟩
  have hletter : DirObject.letter.HeldIn [partEntry .letter 0 (sumSfn DirObject.letter.sfn)] :=
    ⟨_, _, rfl, partEntry_partOf (by decide) _, rfl⟩
  rw [rootDisk_entries _ (by decide) hentries]
  exact .unused hdeleted.1 hdeleted.2 (.object _ hreadme (.object _ hreport
    (.unused hdeleted.1 hdeleted.2 (.object _ hletter (.done rfl)))))
