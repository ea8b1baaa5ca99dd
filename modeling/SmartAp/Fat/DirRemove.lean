import SmartAp.Fat.DirFind

/-!
# Removing an object from a directory

`dir_remove` of `ff.c` marks the entries of an object as deleted, from the first one of its long
name to the short one. It is called where `dir_find` has found the object (`atObject_of_found`). The
other objects of the directory stay, and no other byte changes (`dirRemove_removes`).

## The block of an object

`blk_ofs` is the offset of the first entry of the long name, or `0xFFFFFFFF` for an object without
one; `AtObject` says that the directory object stands at the short entry with this offset. The
removal goes back to the first entry and then forward with `dir_next`, which in general crosses
sectors and clusters, and it ends where it began. It cannot come to the end of the table before, so
that the `FR_INT_ERR` of the source is never returned.

## The loop

`DeletedTo` is the invariant: the entries before the present one have 0xE5 for their first byte, all
others are what they were, and the listing of the others stands (`Listing.remove`). `DeletedTo.step`
is one round and `deleteLoop_view` the run. With an error of the disk some of the entries are marked
and some are not, and no other byte has changed.
-/

/-- `dp->dir[DIR_Name] = DDEM` -/
def deletedEntry (e : Memory) : Memory := Function.update e 0 0xE5

/-- The loop of `dir_remove`, to the entry at `last`. -/
def deleteLoop (g : FatGeometry) (last : ℕ) : (fuel : ℕ) → DirM (Option FResult)
  | 0 => return none
  | fuel + 1 => do
    let s ← get
    let res ← onDirFs (FatFs.windowPart.zoom (moveWindow g s.sect))
    if res ≠ .ok then return some res
    else
      modify fun s ↦ s.edited (deletedEntry s.entry)
      let s ← get
      if last ≤ s.dptr then return some .ok
      else
        match ← dirNext g none with
        | some .ok => deleteLoop g last fuel
        | r => return r

/-- "Goto top of the entry block if LFN is exist" -/
def toBlock (g : FatGeometry) : DirM FResult := do
  let s ← get
  if s.seq.blkOfs = 0xFFFFFFFF then return .ok else dirSdi g s.seq.blkOfs

/-- **`dir_remove`** -/
def dirRemove (g : FatGeometry) : DirM (Option FResult) := do
  let s ← get
  let res ← toBlock g
  if res ≠ .ok then return some res
  else
    match ← deleteLoop g s.dptr (maxDir / 32) with
    | some .noFile => return some .intErr
    | r => return r

variable {Unused : Memory → Prop} {n a b c : ℕ} {es parts : List Memory} {objs : List Located}

/-! ### The list of the entries -/

/-- The entries from `a` to before `b` are deleted, where the first of `es` is entry `n`. -/
def deleted (a b n : ℕ) (es : List Memory) : List Memory :=
  es.mapIdx fun k e ↦ if a ≤ n + k ∧ n + k < b then deletedEntry e else e

/-- The first entry of a table with deleted entries. -/
theorem deleted_cons (e : Memory) (es : List Memory) :
    deleted a b n (e :: es) =
      (if a ≤ n ∧ n < b then deletedEntry e else e) :: deleted a b (n + 1) es := by
  rw [deleted, deleted, List.mapIdx_cons, Nat.add_zero]
  simp only [Nat.add_assoc, Nat.add_comm 1]

/-- A table with deleted entries, in two parts. -/
theorem deleted_append (es es' : List Memory) :
    deleted a b n (es ++ es') = deleted a b n es ++ deleted a b (n + es.length) es' := by
  rw [deleted, deleted, deleted, List.mapIdx_append]
  simp only [Nat.add_assoc, Nat.add_comm es.length]

/-- Entries outside of the range stay. -/
theorem deleted_outside (h : b ≤ n ∨ n + es.length ≤ a) : deleted a b n es = es := by
  induction es generalizing n with
  | nil => rfl
  | cons e es ih =>
    rw [List.length_cons] at h
    rw [deleted_cons, if_neg (by omega), ih (by omega)]

/-- No entry is in an empty range. -/
theorem deleted_none (h : b ≤ a) : deleted a b n es = es := by
  induction es generalizing n with
  | nil => rfl
  | cons e es ih => rw [deleted_cons, if_neg (by omega), ih]

/-- One more entry is deleted. -/
theorem deleted_succ (hab : a ≤ b) {e : Memory} (he : es[b]? = some e) :
    (deleted a b 0 es).set b (deletedEntry e) = deleted a (b + 1) 0 es := by
  refine List.ext_getElem? fun k ↦ ?_
  rw [List.getElem?_set, deleted, deleted, List.getElem?_mapIdx, List.getElem?_mapIdx,
    List.length_mapIdx]
  by_cases hk : b = k
  · subst hk
    obtain ⟨hlt, -⟩ := List.getElem?_eq_some_iff.1 he
    rw [if_pos rfl, if_pos hlt, he, Option.map_some, if_pos (by omega)]
  · rw [if_neg hk]
    refine congrArg (fun f ↦ (es[k]?).map f) (funext fun e ↦ ?_)
    refine if_congr ?_ rfl rfl
    omega

/-- What is deleted is no object. -/
theorem Listing.of_deleted (hunused : ∀ e : Memory, e 0 = 0xE5 → Unused e)
    (h : Listing Unused (n + parts.length) es objs) (ha : a ≤ n) (hb : n + parts.length ≤ b) :
    Listing Unused n (deleted a b n parts ++ es) objs := by
  induction parts generalizing n with
  | nil => exact h
  | cons e parts ih =>
    rw [List.length_cons] at h hb
    have he : deletedEntry e 0 = 0xE5 := Function.update_self _ _ _
    rw [deleted_cons, if_pos (by omega), List.cons_append]
    refine .unused ?_ (hunused _ he) (ih ?_ (by omega) (by omega))
    · rw [he]
      decide
    · rw [Nat.add_assoc, Nat.add_comm 1]
      exact h

/-- **Without the entries of an object there are the others.** -/
theorem Listing.remove (hunused : ∀ e : Memory, e 0 = 0xE5 → Unused e) {pre post : List Located}
    {o : Located} (h : Listing Unused n es (pre ++ o :: post)) :
    n ≤ o.start ∧ Listing Unused n (deleted o.start (o.sfnAt + 1) n es) (pre ++ post) := by
  generalize hobjs : pre ++ o :: post = objs at h
  induction h generalizing pre with
  | nil => simp at hobjs
  | done => simp at hobjs
  | @unused n e es objs hne hun hes ih =>
    obtain ⟨hle, hrest⟩ := ih hobjs
    refine ⟨by omega, ?_⟩
    rw [deleted_cons, if_neg (by omega)]
    exact .unused hne hun hrest
  | @object n parts es objs o' hparts hes ih =>
    cases pre with
    | nil =>
      rw [List.nil_append, List.cons.injEq] at hobjs
      obtain ⟨rfl, rfl⟩ := hobjs
      refine ⟨Nat.le_refl _, ?_⟩
      show Listing Unused n (deleted n (n + parts.length + 1) n (parts ++ o'.sfn :: es)) post
      rw [show parts ++ o'.sfn :: es = (parts ++ [o'.sfn]) ++ es by simp, deleted_append]
      have hlen : n + (parts ++ [o'.sfn]).length = n + parts.length + 1 := by
        rw [List.length_append, List.length_singleton, Nat.add_assoc]
      rw [hlen, deleted_outside (.inl (Nat.le_refl _))]
      exact .of_deleted hunused (hlen ▸ hes) (Nat.le_refl _) (Nat.le_of_eq hlen)
    | cons o'' pre =>
      rw [List.cons_append, List.cons.injEq] at hobjs
      obtain ⟨rfl, hobjs⟩ := hobjs
      obtain ⟨hle, hrest⟩ := ih hobjs
      refine ⟨by omega, ?_⟩
      rw [deleted_append, deleted_outside (.inr (by omega)), deleted_cons, if_neg (by omega)]
      exact .object o' hparts hrest

/-- Where an object begins. -/
theorem Listing.start_le (h : Listing Unused n es objs) {o : Located} (ho : o ∈ objs) :
    o.start ≤ o.sfnAt ∧ (o.object.name = none → o.start = o.sfnAt) := by
  induction h with
  | nil => exact absurd ho List.not_mem_nil
  | done => exact absurd ho List.not_mem_nil
  | unused _ _ _ ih => exact ih ho
  | @object n parts es objs o' hparts hes ih =>
    rcases List.mem_cons.1 ho with rfl | ho
    · refine ⟨Nat.le_add_right _ _, fun hname ↦ ?_⟩
      have hname : o'.name = none := hname
      rw [DirObject.HeldIn, hname] at hparts
      obtain rfl : parts = [] := hparts
      rfl
    · exact ih ho

/-! ### `dir_remove` -/

section Remove

variable {g : FatGeometry} {ρ : Prop} {others : List (List ℕ)} {D D' : Memory} {T : ℕ → ℕ}
  {last free : ℕ} {p : DirPlace} {s t : FatDir}

/-- The entries from `a` to before `c` are deleted, and nothing else is changed. -/
structure DeletedTo (g : FatGeometry) (D D' : Memory) (p : DirPlace) (a c : ℕ) : Prop where
  entries : p.entries g D' = deleted a c 0 (p.entries g D)
  kept : ∀ x, (∀ k, a ≤ k → k < c → x < p.addr g k ∨ p.addr g k + 32 ≤ x) → D' x = D x

/-- At the beginning nothing is deleted. -/
theorem DeletedTo.refl : DeletedTo g D D p a a :=
  ⟨(deleted_none (Nat.le_refl _)).symm, fun _ _ ↦ rfl⟩

/-- A deleted entry is an entry again. -/
theorem dirEntry_deleted (m : Memory) (o : ℕ) :
    dirEntry (deletedEntry (dirEntry m o)) 0 = deletedEntry (dirEntry m o) := by
  funext i
  by_cases hi : i = 0
  · subst hi
    rfl
  · rw [dirEntry, Nat.zero_add, deletedEntry, Function.update_of_ne hi, dirEntry]
    split
    · rfl
    · rfl

/-- The entry in the window is deleted. -/
theorem DeletedTo.step (hg : g.DirSound) (hs : DirView g ρ others D' T last free p s)
    (hat : DirAt g p c s) (hac : a ≤ c) (hdel : DeletedTo g D D' p a c)
    (hwin : s.fs.window.winsect = s.sect) (hentry : s.entry = dirEntry D' (p.addr g c)) :
    ∃ D'', DirView g ρ others D'' T last free p (s.edited (deletedEntry s.entry)) ∧
      DeletedTo g D D'' p a (c + 1) := by
  obtain ⟨D'', hview, hset, hkept⟩ := hs.edited hg hat hwin (deletedEntry s.entry)
  have hget := p.getElem?_entries D hat.lt
  have hsame : dirEntry D' (p.addr g c) = dirEntry D (p.addr g c) := by
    have hget' := p.getElem?_entries D' hat.lt
    rw [hdel.entries, deleted, List.getElem?_mapIdx, hget, Option.map_some,
      if_neg (by omega)] at hget'
    exact (Option.some.inj hget').symm
  refine ⟨D'', hview, ⟨?_, fun x hx ↦ ?_⟩⟩
  · rw [hset, hentry, dirEntry_deleted, hsame, hdel.entries, deleted_succ hac hget]
  · rw [hkept x (hx c hac (Nat.lt_succ_self c))]
    exact hdel.kept x fun k hk hlt ↦ hx k hk (Nat.lt_succ_of_lt hlt)

/-- How the loop of `dir_remove` over the entries from `a` to `b` ends. -/
def LoopEnd (g : FatGeometry) (ρ : Prop) (others : List (List ℕ)) (D : Memory) (T : ℕ → ℕ)
    (last free : ℕ) (p : DirPlace) (a b : ℕ) (r : Option FResult) (t : FatDir) : Prop :=
  ∃ D' c, DirView g ρ others D' T last free p t ∧ DeletedTo g D D' p a c ∧ c ≤ b + 1 ∧
    ∃ res, r = some res ∧ (res = .ok ∧ c = b + 1 ∨ res = .diskErr ∧ ¬ ρ)

/-- The loop deletes the entries from `c` to `b`, or stops at an error of the disk. -/
theorem deleteLoop_view (hg : g.DirSound) (fuel : ℕ) (hs : DirView g ρ others D' T last free p s)
    (hat : DirAt g p c s) (hac : a ≤ c) (hcb : c ≤ b) (hb : b < p.capacity g)
    (hdel : DeletedTo g D D' p a c) (hfuel : b < c + fuel) :
    Triple (fun t ↦ t = s) (deleteLoop g (b * 32) fuel)
      (LoopEnd g ρ others D T last free p a b) := by
  induction fuel generalizing s D' c with
  | zero => exact absurd hfuel (by omega)
  | succ fuel ih =>
    refine triple_get_bind ?_
    rintro s rfl
    refine .bind (moveEntry_view hg hs hat) fun res ↦ ?_
    rintro t ⟨ht, htc, hres⟩
    refine (?_ : Triple (fun u ↦ u = t) _ (LoopEnd g ρ others D T last free p a b)) t rfl
    have hat' := hat.of_fs htc
    rcases hres with ⟨rfl, hwin, hentry⟩ | ⟨rfl, hρ⟩
    · have hsect : t.sect = s.sect := by rw [htc]
      obtain ⟨D'', hview, hdel'⟩ := hdel.step hg ht hat' hac (hwin.trans hsect.symm) hentry
      have hat'' : DirAt g p c (t.edited (deletedEntry t.entry)) :=
        ⟨hat'.lt, hat'.dptr, hat'.clust, hat'.sect, hat'.dir⟩
      refine .ite (fun h ↦ absurd rfl h) fun _ ↦ triple_modify_then (triple_get_bind ?_)
      rintro u rfl
      have hdptr := hat''.dptr
      refine .ite (fun hlast ↦ .pure ?_) fun hmore ↦ .bind (dirNext_view hg hview hat'') fun r ↦ ?_
      · rintro u rfl
        exact ⟨D'', c + 1, hview, hdel', by omega, _, rfl, .inl ⟨rfl, by omega⟩⟩
      · rintro u ⟨hu, -, res, rfl, hnext⟩
        refine (?_ : Triple (fun v ↦ v = u) _ (LoopEnd g ρ others D T last free p a b)) u rfl
        rcases hnext with ⟨rfl, huat⟩ | ⟨rfl, hend, -⟩ | ⟨rfl, hρ⟩
        · exact ih hu huat (by omega) (by omega) hdel' (by omega)
        · omega
        · refine .pure ?_
          rintro u rfl
          exact ⟨D'', c + 1, hu, hdel', by omega, _, rfl, .inr ⟨rfl, hρ⟩⟩
    · refine .ite (fun _ ↦ .pure ?_) fun h ↦ absurd (by decide) h
      rintro t rfl
      exact ⟨D', c, ht, hdel, by omega, _, rfl, .inr ⟨rfl, hρ⟩⟩

/-- The object stands at its short entry, with `blk_ofs` for its long name. -/
structure AtObject (g : FatGeometry) (p : DirPlace) (o : Located) (s : FatDir) : Prop where
  dirAt : DirAt g p o.sfnAt s
  blkOfs : s.seq.blkOfs = if o.object.name.isSome = true then o.start * 32 else 0xFFFFFFFF

/-- **What `dir_find` has found can be removed**, unless it passed over the long names. -/
theorem atObject_of_found {fn : Memory} {res : FResult} {o : Located}
    (h : ObjectFound g D p (fun o seq ↦ seq.blkOfs = o.object.foundAt fn o.start) res s (some o))
    (hlfn : fn 11 &&& 0x40 = 0) : AtObject g p o s := by
  obtain ⟨-, hentry, -, hblk⟩ := h
  refine ⟨hentry.dirAt, hblk.trans ?_⟩
  rw [DirObject.foundAt]
  exact if_congr (and_iff_left hlfn) rfl rfl

/-- The removal begins at the first entry of the long name, or at the short entry if there is
none. -/
theorem toBlock_view (hg : g.DirSound) (hs : DirView g ρ others D T last free p s) {o : Located}
    (hat : AtObject g p o s) (hle : o.start ≤ o.sfnAt)
    (hname : o.object.name = none → o.start = o.sfnAt) :
    Triple (fun t ↦ t = s) (toBlock g) (EntrySet g ρ others D T last free p o.start s) := by
  have hblk := hat.blkOfs
  refine triple_get_bind ?_
  rintro s rfl
  cases hobj : o.object.name with
  | none =>
    rw [hobj, if_neg (by decide)] at hblk
    refine .ite (fun _ ↦ .pure ?_) fun h ↦ absurd hblk h
    rintro s rfl
    exact ⟨hs, .refl s, .inl ⟨rfl, hname hobj ▸ hat.dirAt⟩⟩
  | some name =>
    rw [hobj, Option.isSome_some, if_pos rfl] at hblk
    refine .ite (fun h ↦ ?_) fun _ ↦ ?_
    · rw [hblk] at h
      omega
    · rw [hblk]
      exact dirSdi_view hg hs (Nat.lt_of_le_of_lt hle hat.dirAt.lt)

/-- How `dir_remove` ends: `objs` are the other objects. -/
def Removed (g : FatGeometry) (ρ : Prop) (others : List (List ℕ)) (D : Memory) (T : ℕ → ℕ)
    (last free : ℕ) (p : DirPlace) (Unused : Memory → Prop) (o : Located) (objs : List Located)
    (r : Option FResult) (t : FatDir) : Prop :=
  ∃ D', DirView g ρ others D' T last free p t ∧
    (∀ x, (∀ k, o.start ≤ k → k ≤ o.sfnAt → x < p.addr g k ∨ p.addr g k + 32 ≤ x) → D' x = D x) ∧
    ∃ res, r = some res ∧
      (res = .ok ∧ Listing Unused 0 (p.entries g D') objs ∨ res = .diskErr ∧ ¬ ρ)

/-- **`dir_remove` removes the object where it stands**, and nothing else. -/
theorem dirRemove_removes (hg : g.DirSound) (hunused : ∀ e : Memory, e 0 = 0xE5 → Unused e)
    (hs : DirView g ρ others D T last free p s) (pre post : List Located) {o : Located}
    (hlisting : Listing Unused 0 (p.entries g D) (pre ++ o :: post)) (hat : AtObject g p o s) :
    Triple (fun t ↦ t = s) (dirRemove g)
      (Removed g ρ others D T last free p Unused o (pre ++ post)) := by
  obtain ⟨hle, hname⟩ := hlisting.start_le (List.mem_append_right pre List.mem_cons_self)
  have hrest := (hlisting.remove hunused).2
  refine triple_get_bind ?_
  rintro s rfl
  refine .bind (toBlock_view hg hs hat hle hname) fun res ↦ ?_
  rintro t ⟨ht, -, hres⟩
  refine (?_ : Triple (fun u ↦ u = t) _
    (Removed g ρ others D T last free p Unused o (pre ++ post))) t rfl
  rcases hres with ⟨rfl, htat⟩ | ⟨rfl, hρ⟩
  · refine .ite (fun h ↦ absurd rfl h) fun _ ↦ ?_
    have hmax := p.capacity_le_max (g := g)
    have hb := hat.dirAt.lt
    have hfuel : o.sfnAt < o.start + maxDir / 32 := by
      have hrounds : maxDir / 32 = 65536 := rfl
      omega
    rw [hat.dirAt.dptr]
    refine .bind (deleteLoop_view hg _ ht htat (Nat.le_refl _) hle hb .refl hfuel) fun r ↦ ?_
    rintro u ⟨D', c, hu, hdel, hc, res, rfl, hend⟩
    refine (?_ : Triple (fun v ↦ v = u) _
      (Removed g ρ others D T last free p Unused o (pre ++ post))) u rfl
    have hkept : ∀ x, (∀ k, o.start ≤ k → k ≤ o.sfnAt →
        x < p.addr g k ∨ p.addr g k + 32 ≤ x) → D' x = D x := fun x hx ↦
      hdel.kept x fun k hk hlt ↦ hx k hk (by omega)
    rcases hend with ⟨rfl, rfl⟩ | ⟨rfl, hρ⟩
    · refine .pure ?_
      rintro u rfl
      refine ⟨D', hu, hkept, _, rfl, .inl ⟨rfl, ?_⟩⟩
      rw [hdel.entries]
      exact hrest
    · refine .pure ?_
      rintro u rfl
      exact ⟨D', hu, hkept, _, rfl, .inr ⟨rfl, hρ⟩⟩
  · refine .ite (fun _ ↦ .pure ?_) fun h ↦ absurd (by decide) h
    rintro t rfl
    exact ⟨D, ht, fun _ _ ↦ rfl, _, rfl, .inr ⟨rfl, hρ⟩⟩

end Remove

/-- The root with three files, where the second was found. -/
def FatDir.foundReport : FatDir :=
  { FatDir.inRoot threeEntries with dptr := 128, dir := 128, seq := ⟨0, 0, 64, 0x20, fun _ ↦ 0⟩ }

/-- The second file is removed with the two entries of its name; the others stay. -/
theorem dirRemove_removes_small :
    (dirRemove smallVolume .foundReport).1 = some .ok ∧
      ∃ D, DirView smallVolume True [] D (fatEntry smallVolume (rootDisk threeEntries)) 0 0xFFFFFFFF
          .fixed (dirRemove smallVolume .foundReport).2 ∧
        Listing (fun e ↦ e 0 = 0xE5) 0 (DirPlace.fixed.entries smallVolume D)
          [⟨1, 1, .readme⟩, ⟨6, 7, .letter⟩] := by
  have hlisting := threeEntries_listing (fun e ↦ e 0 = 0xE5) fun _ h ↦ h
  have hat : AtObject smallVolume .fixed ⟨2, 4, .report⟩ .foundReport :=
    ⟨⟨by decide, rfl, rfl, rfl, rfl⟩, rfl⟩
  have hview := (FatDir.inRoot_view threeEntries).moved (t := .foundReport) rfl rfl
  obtain ⟨D, hD, -, res, hrun, ⟨rfl, hrest⟩ | ⟨-, hfail⟩⟩ :=
    dirRemove_removes smallVolume_dirSound (fun _ h ↦ h) hview [⟨1, 1, .readme⟩] [⟨6, 7, .letter⟩]
      hlisting hat _ rfl
  · exact ⟨hrun, D, hD, hrest⟩
  · exact absurd trivial hfail
