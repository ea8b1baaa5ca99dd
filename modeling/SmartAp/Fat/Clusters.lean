import SmartAp.Fat.Table
import SmartAp.Links.Path
import Mathlib.Data.Finset.Card
import Mathlib.Order.Interval.Finset.Nat

/-!
# Cluster chains

`remove_chain` and `create_chain` of `ff.c`: a chain of clusters is given back to the free ones, cut
off, begun or extended.

## Budgets

A loop over a chain of an arbitrary table need not end by itself, so the loops have a budget of one
round for each cluster; `none` is a budget that was not enough. `remove_chain` frees what it meets
and stops at a free cluster, and the search for a free cluster comes round, so that it always is
enough, on a damaged table as well (`removeChain_spec`, `createChain_spec`): the number of the used
clusters is the measure of the first loop (`usedClusters_update_zero`), and the way round that is
left the one of the second.

## What a call has done

A call that may fail half-way has several outcomes. They are the constructors of an inductive
predicate, one for each way to leave the code, which says what was returned together with the table
and the count that are left: `RemoveDone` for the loop, `RemovedChain` for `remove_chain`, and
`Created` in the next module for `create_chain`. Nothing is assumed of the table there; what the
outcomes mean for the chains of a sound volume is a matter of cases over them.

## Counts

`free_clst` is a number that FatFs keeps beside the table, or a number that is no count
(`0xFFFFFFFF`) when it is unknown. `Counted` says that it is right or unknown. It is kept by both
functions if no call of the disk fails (`RemovedChain.counted`, `Created.counted`); `AllocShows`
carries the table and the two numbers, and does not say that they agree, since FatFs reads the count
from the FSInfo sector and does not check it.
-/

/-- The filesystem object, with the fields that the allocation changes. -/
structure FatFs where
  window : FatWindow
  lastClst : ℕ
  freeClst : ℕ
  fsiFlag : UInt8

abbrev FatM := StateM FatFs

def FatFs.windowPart : StatePart FatFs FatWindow where
  get := FatFs.window
  set s w := { s with window := w }
  get_set _ _ := rfl
  set_set _ _ _ := rfl
  set_get _ := rfl

section

variable (g : FatGeometry)

def getFatFs (clst : ℕ) : FatM ℕ := FatFs.windowPart.zoom (getFat g clst)

def putFatFs (clst val : ℕ) : FatM FResult := FatFs.windowPart.zoom (putFat g clst val)

/-- `if (fs->free_clst < fs->n_fatent - 2) { fs->free_clst++; fs->fsi_flag |= 1; }` -/
def countFreed (s : FatFs) : FatFs :=
  if s.freeClst < g.nFatent - 2 then
    { s with freeClst := s.freeClst + 1, fsiFlag := s.fsiFlag ||| 1 }
  else s

/-- The loop of `remove_chain`. -/
def removeLoop : (fuel clst : ℕ) → FatM (Option FResult)
  | 0, _ => return none
  | fuel + 1, clst => do
    let nxt ← getFatFs g clst
    if nxt = 0 then return some .ok
    else if nxt = 1 then return some .intErr
    else if nxt = fatDiskError then return some .diskErr
    else
      let res ← putFatFs g clst 0
      if res ≠ .ok then return some res
      else
        modify (countFreed g)
        if nxt < g.nFatent then removeLoop fuel nxt else return some .ok

/-- **`remove_chain`** -/
def removeChain (clst pclst : ℕ) : FatM (Option FResult) :=
  if clst < 2 ∨ g.nFatent ≤ clst then return some .intErr
  else if pclst ≠ 0 then do
    let res ← putFatFs g pclst 0xFFFFFFFF
    if res ≠ .ok then return some res else removeLoop g g.nFatent clst
  else removeLoop g g.nFatent clst

/-- The search of `create_chain`: the cluster found, or what `create_chain` returns. -/
def findFree : (fuel scl ncl : ℕ) → FatM (Option (Except ℕ ℕ))
  | 0, _, _ => return none
  | fuel + 1, scl, ncl =>
    let ncl := ncl + 1
    if g.nFatent ≤ ncl ∧ scl < 2 then return some (.error 0)
    else do
      let ncl := if g.nFatent ≤ ncl then 2 else ncl
      let cs ← getFatFs g ncl
      if cs = 0 then return some (.ok ncl)
      else if cs = 1 ∨ cs = fatDiskError then return some (.error cs)
      else if ncl = scl then return some (.error 0)
      else findFree fuel scl ncl

/-- A suggested cluster, if it is valid. -/
def suggested (lastClst scl : ℕ) : ℕ :=
  if 2 ≤ lastClst ∧ lastClst < g.nFatent then lastClst else scl

/-- The cluster for `create_chain`: the next one of the chain if it is free, or else any. -/
def chooseCluster (clst scl : ℕ) : FatM (Option (Except ℕ ℕ)) :=
  if scl = clst then do
    let ncl := if g.nFatent ≤ scl + 1 then 2 else scl + 1
    let cs ← getFatFs g ncl
    if cs = 1 ∨ cs = fatDiskError then return some (.error cs)
    else if cs ≠ 0 then
      let s ← get
      findFree g g.nFatent (suggested g s.lastClst scl) (suggested g s.lastClst scl)
    else return some (.ok ncl)
  else findFree g g.nFatent scl scl

/-- `fs->last_clst = ncl`, and the count of the free clusters. -/
def countTaken (ncl : ℕ) (s : FatFs) : FatFs :=
  if 0 < s.freeClst ∧ s.freeClst ≤ g.nFatent - 2 then
    { s with lastClst := ncl, freeClst := s.freeClst - 1, fsiFlag := s.fsiFlag ||| 1 }
  else { s with lastClst := ncl }

/-- "Link it from the previous one if needed" -/
def linkPrevious (clst ncl : ℕ) (res : FResult) : FatM FResult :=
  if res = .ok ∧ clst ≠ 0 then putFatFs g clst ncl else return res

/-- The end of `create_chain`: mark the cluster, link it, and count it. -/
def linkCluster (clst ncl : ℕ) : FatM ℕ := do
  let res ← putFatFs g ncl 0xFFFFFFFF
  let res ← linkPrevious g clst ncl res
  if res = .ok then
    modify (countTaken g ncl)
    return ncl
  else return if res = .diskErr then fatDiskError else 1

/-- `create_chain` from the test of `free_clst` on. -/
def allocateCluster (clst scl : ℕ) : FatM (Option ℕ) := do
  let s ← get
  if s.freeClst = 0 then return some 0
  else
    match ← chooseCluster g clst scl with
    | none => return none
    | some (.error r) => return some r
    | some (.ok ncl) => return some (← linkCluster g clst ncl)

/-- **`create_chain`** -/
def createChain (clst : ℕ) : FatM (Option ℕ) :=
  if clst = 0 then do
    let s ← get
    allocateCluster g clst (if s.lastClst = 0 ∨ g.nFatent ≤ s.lastClst then 1 else s.lastClst)
  else do
    let cs ← getFatFs g clst
    if cs < 2 then return some 1
    else if cs = fatDiskError then return some cs
    else if cs < g.nFatent then return some cs
    else allocateCluster g clst clst

end

/-! ### The table and the counters -/

/-- The table is `T`, and the counters are these. -/
structure AllocShows (g : FatGeometry) (ρ : Prop) (m₀ : Memory) (T : ℕ → ℕ) (last free : ℕ)
    (s : FatFs) : Prop where
  table : TableShows g ρ m₀ T s.window
  lastClst : s.lastClst = last
  freeClst : s.freeClst = free

/-- The entries of a chain can say where it goes on, and that it ends. -/
structure FatGeometry.ChainSound (g : FatGeometry) : Prop extends g.FatSound where
  two_lt : 2 < g.nFatent
  lt_range : g.nFatent < g.entryRange

/-- The value of the last entry of a chain, as it is stored. -/
def FatGeometry.endOfChain (g : FatGeometry) : ℕ := 0xFFFFFFFF % g.entryRange

section Spec

variable {g : FatGeometry} {ρ : Prop} {m₀ : Memory} {T T' : ℕ → ℕ} {last free : ℕ}

/-- The mark of the end of a chain is behind the numbers of the clusters. -/
theorem FatGeometry.ChainSound.le_endOfChain (hg : g.ChainSound) : g.nFatent ≤ g.endOfChain := by
  have hlt := hg.lt_range
  rw [FatGeometry.endOfChain]
  rw [FatGeometry.entryRange] at hlt ⊢
  cases ht : g.fsType <;> simp only [ht] at hlt ⊢ <;> omega

/-- A number of a cluster is stored as it is. -/
theorem FatGeometry.ChainSound.mod_range (hg : g.ChainSound) {c : ℕ} (hc : g.Valid c) :
    c % g.entryRange = c :=
  Nat.mod_eq_of_lt (Nat.lt_trans hc.2 hg.lt_range)

/-- The counters are not in the window. -/
theorem FatFs.ignores_counts (last free : ℕ) :
    FatFs.windowPart.Ignores fun s ↦ s.lastClst = last ∧ s.freeClst = free :=
  fun _ _ h ↦ h

/-- `get_fat` looks an entry of the table up and changes nothing. -/
theorem getFatFs_spec (hg : g.FatSound) (T : ℕ → ℕ) (last free c : ℕ) :
    Triple (AllocShows g ρ m₀ T last free) (getFatFs g c) fun r s ↦
      (r = lookupFat g T c ∧ r ≠ fatDiskError ∨ r = fatDiskError ∧ ¬ ρ) ∧
        AllocShows g ρ m₀ T last free s := by
  rintro s ⟨htable, hl, hf⟩
  obtain ⟨⟨htable', hres⟩, hcounts⟩ := (getFat_table hg m₀ T c).zoom (p := FatFs.windowPart)
    (FatFs.ignores_counts last free) s ⟨htable, hl, hf⟩
  exact ⟨hres.imp_left fun h ↦ ⟨h, h ▸ htable.lookup_ne c⟩, htable', hcounts.1, hcounts.2⟩

/-- `put_fat` is an update of the table, and keeps the count and the suggestion. -/
theorem putFatFs_spec (hg : g.FatSound) (T : ℕ → ℕ) (last free c val : ℕ) :
    Triple (AllocShows g ρ m₀ T last free) (putFatFs g c val) fun res s ↦
      ∃ T', PutTable g ρ T c val res T' ∧ AllocShows g ρ m₀ T' last free s := by
  rintro s ⟨htable, hl, hf⟩
  obtain ⟨⟨T', hput, htable'⟩, hcounts⟩ := (putFat_table hg m₀ T c val).zoom
    (p := FatFs.windowPart) (FatFs.ignores_counts last free) s ⟨htable, hl, hf⟩
  exact ⟨T', hput, htable', hcounts.1, hcounts.2⟩

/-- The volume of 128 sectors can hold chains. -/
theorem smallVolume_chainSound : smallVolume.ChainSound where
  toFatSound := smallVolume_fatSound
  two_lt := by decide
  lt_range := by decide

/-! ### Counts -/

/-- The clusters whose entry has the value 0. -/
def freeClusters (g : FatGeometry) (T : ℕ → ℕ) : Finset ℕ :=
  (Finset.range g.nFatent).filter fun c ↦ 2 ≤ c ∧ T c = 0

/-- The others. -/
def usedClusters (g : FatGeometry) (T : ℕ → ℕ) : Finset ℕ :=
  (Finset.range g.nFatent).filter fun c ↦ 2 ≤ c ∧ T c ≠ 0

/-- A cluster is free if its entry is 0. -/
theorem mem_freeClusters {c : ℕ} : c ∈ freeClusters g T ↔ g.Valid c ∧ T c = 0 := by
  rw [freeClusters, Finset.mem_filter, Finset.mem_range, FatGeometry.Valid]
  tauto

/-- All others are used. -/
theorem mem_usedClusters {c : ℕ} : c ∈ usedClusters g T ↔ g.Valid c ∧ T c ≠ 0 := by
  rw [usedClusters, Finset.mem_filter, Finset.mem_range, FatGeometry.Valid]
  tauto

/-- Each cluster is free or used. -/
theorem card_free_add_used : (freeClusters g T).card + (usedClusters g T).card = g.nFatent - 2 := by
  have hunion : freeClusters g T ∪ usedClusters g T = Finset.Ico 2 g.nFatent := by
    ext c
    rw [Finset.mem_union, mem_freeClusters, mem_usedClusters, Finset.mem_Ico, FatGeometry.Valid]
    tauto
  have hdisj : Disjoint (freeClusters g T) (usedClusters g T) :=
    Finset.disjoint_left.2 fun c hf hu ↦ (mem_usedClusters.1 hu).2 (mem_freeClusters.1 hf).2
  rw [← Finset.card_union_of_disjoint hdisj, hunion, Nat.card_Ico]

/-- A used cluster is freed. -/
theorem freeClusters_update_zero {c : ℕ} (hc : g.Valid c) (hT : T c ≠ 0) :
    (freeClusters g (Function.update T c 0)).card = (freeClusters g T).card + 1 := by
  have hinsert : freeClusters g (Function.update T c 0) = insert c (freeClusters g T) := by
    ext d
    rw [mem_freeClusters, Finset.mem_insert, mem_freeClusters]
    by_cases hd : d = c
    · simp [hd, hc]
    · simp [hd]
  rw [hinsert, Finset.card_insert_of_notMem fun hmem ↦ hT (mem_freeClusters.1 hmem).2]

/-- A free cluster is taken. -/
theorem freeClusters_update_ne_zero {c v : ℕ} (hc : g.Valid c) (hT : T c = 0) (hv : v ≠ 0) :
    (freeClusters g (Function.update T c v)).card + 1 = (freeClusters g T).card := by
  have herase : freeClusters g (Function.update T c v) = (freeClusters g T).erase c := by
    ext d
    rw [mem_freeClusters, Finset.mem_erase, mem_freeClusters]
    by_cases hd : d = c
    · simp [hd, hv]
    · simp [hd]
  rw [herase]
  exact Finset.card_erase_add_one (mem_freeClusters.2 ⟨hc, hT⟩)

/-- A used cluster that stays used. -/
theorem freeClusters_update_used {c v : ℕ} (hT : T c ≠ 0) (hv : v ≠ 0) :
    freeClusters g (Function.update T c v) = freeClusters g T := by
  ext d
  rw [mem_freeClusters, mem_freeClusters]
  by_cases hd : d = c
  · simp [hd, hv, hT]
  · simp [hd]

/-- To free a used cluster makes fewer of them: the measure of the loop of `remove_chain`. -/
theorem usedClusters_update_zero {c : ℕ} (hc : g.Valid c) (hT : T c ≠ 0) :
    (usedClusters g (Function.update T c 0)).card < (usedClusters g T).card := by
  have hfree := freeClusters_update_zero hc hT
  have hsum := card_free_add_used (g := g) (T := T)
  have hsum' := card_free_add_used (g := g) (T := Function.update T c 0)
  omega

/-- `free_clst` is the number of the free clusters, or no number of clusters at all. -/
def Counted (g : FatGeometry) (T : ℕ → ℕ) (free : ℕ) : Prop :=
  free ≤ g.nFatent - 2 → free = (freeClusters g T).card

/-- `free_clst` after a cluster was freed. -/
def freedCount (g : FatGeometry) (free : ℕ) : ℕ := if free < g.nFatent - 2 then free + 1 else free

/-- `free_clst` after a cluster was taken. -/
def takenCount (g : FatGeometry) (free : ℕ) : ℕ :=
  if 0 < free ∧ free ≤ g.nFatent - 2 then free - 1 else free

/-- The count is right again after a cluster was freed. -/
theorem Counted.freed (h : Counted g T free) {c : ℕ} (hc : g.Valid c) (hT : T c ≠ 0) :
    Counted g (Function.update T c 0) (freedCount g free) := by
  have hfree := freeClusters_update_zero hc hT
  have hsum := card_free_add_used (g := g) (T := T)
  have hused : 0 < (usedClusters g T).card := Finset.card_pos.2 ⟨c, mem_usedClusters.2 ⟨hc, hT⟩⟩
  intro hle
  rw [freedCount] at hle ⊢
  split at hle
  · rename_i hlt
    rw [if_pos hlt, hfree, h (Nat.le_of_lt hlt)]
  · have := h hle
    omega

/-- The count is right again after a cluster was taken. -/
theorem Counted.taken (h : Counted g T free) {c v : ℕ} (hc : g.Valid c) (hT : T c = 0)
    (hv : v ≠ 0) : Counted g (Function.update T c v) (takenCount g free) := by
  have hfree := freeClusters_update_ne_zero hc hT hv
  intro hle
  rw [takenCount] at hle ⊢
  split at hle
  · rename_i hlt
    rw [if_pos hlt]
    have := h hlt.2
    omega
  · have := h hle
    omega

/-! ### Removing a chain -/

/-- What the loop of `remove_chain` has done when it returns, cluster by cluster. -/
inductive RemoveDone (g : FatGeometry) (ρ : Prop) :
    (ℕ → ℕ) → (free clst : ℕ) → FResult → (ℕ → ℕ) → (free : ℕ) → Prop
  | empty {T : ℕ → ℕ} {free clst : ℕ} (h : lookupFat g T clst = 0) :
    RemoveDone g ρ T free clst .ok T free
  | damaged {T : ℕ → ℕ} {free clst : ℕ} (h : lookupFat g T clst = 1) :
    RemoveDone g ρ T free clst .intErr T free
  | failed {T : ℕ → ℕ} {free clst : ℕ} (hρ : ¬ ρ) (x : ℕ) :
    RemoveDone g ρ T free clst .diskErr (Function.update T clst x) free
  | last {T : ℕ → ℕ} {free clst : ℕ} (hc : g.Valid clst) (h0 : T clst ≠ 0)
    (h : g.nFatent ≤ T clst) :
    RemoveDone g ρ T free clst .ok (Function.update T clst 0) (freedCount g free)
  | next {T T' : ℕ → ℕ} {free free' clst : ℕ} {res : FResult} (hc : g.Valid clst)
    (h : g.Valid (T clst))
    (hrest : RemoveDone g ρ (Function.update T clst 0) (freedCount g free) (T clst) res T' free') :
    RemoveDone g ρ T free clst res T' free'

/-- What is counted when a cluster was freed. -/
theorem AllocShows.freed {s : FatFs} (h : AllocShows g ρ m₀ T last free s) :
    AllocShows g ρ m₀ T last (freedCount g free) (countFreed g s) := by
  obtain ⟨htable, hl, rfl⟩ := h
  rw [countFreed, freedCount]
  split
  · exact ⟨htable, hl, rfl⟩
  · exact ⟨htable, hl, rfl⟩

/-- What is counted, and suggested, when a cluster was taken. -/
theorem AllocShows.taken {s : FatFs} (h : AllocShows g ρ m₀ T last free s) (ncl : ℕ) :
    AllocShows g ρ m₀ T ncl (takenCount g free) (countTaken g ncl s) := by
  obtain ⟨htable, -, rfl⟩ := h
  rw [countTaken, takenCount]
  split
  · exact ⟨htable, rfl, rfl⟩
  · exact ⟨htable, rfl, rfl⟩

/-- No entry says what `get_fat` returns after an error. -/
theorem valid_of_lookup {c : ℕ} (h1 : lookupFat g T c ≠ 1) : g.Valid c ∧ lookupFat g T c = T c := by
  rw [lookupFat] at h1 ⊢
  by_cases hc : g.Valid c
  · rw [if_pos hc]
    exact ⟨hc, rfl⟩
  · rw [if_neg hc] at h1
    exact absurd rfl h1

/-- **The loop of `remove_chain`** ends within a round for each used cluster, and one more. -/
theorem removeLoop_spec (hg : g.ChainSound) (last fuel : ℕ) {T : ℕ → ℕ} {free clst : ℕ}
    (hfuel : (usedClusters g T).card < fuel) :
    Triple (AllocShows g ρ m₀ T last free) (removeLoop g fuel clst) fun r s ↦
      ∃ res T' free', r = some res ∧ RemoveDone g ρ T free clst res T' free' ∧
        AllocShows g ρ m₀ T' last free' s := by
  induction fuel generalizing T free clst with
  | zero => omega
  | succ fuel ih =>
    refine .bind (getFatFs_spec hg.toFatSound T last free clst) fun nxt ↦ .of_fact fun hnxt ↦
      .ite (fun h0 ↦ .pure fun s hs ↦ ?_) fun h0 ↦ .ite (fun h1 ↦ .pure fun s hs ↦ ?_) fun h1 ↦
        .ite (fun he ↦ .pure fun s hs ↦ ?_) fun he ↦ ?_
    · have h := (hnxt.resolve_right fun h ↦ absurd (h0.symm.trans h.1) (by decide)).1
      exact ⟨_, T, free, rfl, .empty (h ▸ h0), hs⟩
    · have h := (hnxt.resolve_right fun h ↦ absurd (h1.symm.trans h.1) (by decide)).1
      exact ⟨_, T, free, rfl, .damaged (h ▸ h1), hs⟩
    · have hρ := (hnxt.resolve_left fun h ↦ h.2 he).2
      have hdone : RemoveDone g ρ T free clst .diskErr (Function.update T clst (T clst)) free :=
        .failed hρ _
      rw [Function.update_eq_self] at hdone
      exact ⟨_, T, free, rfl, hdone, hs⟩
    obtain ⟨rfl, -⟩ := hnxt.resolve_right fun h ↦ he h.1
    obtain ⟨hc, hT⟩ := valid_of_lookup h1
    rw [hT] at h0 h1 ⊢
    have hused := usedClusters_update_zero hc h0
    refine .bind (putFatFs_spec hg.toFatSound T last free clst 0) fun res ↦ ?_
    rintro s ⟨T₁, hput, hs⟩
    cases hput with
    | invalid hc' => exact absurd hc hc'
    | failed _ hρ x => exact ⟨_, _, free, rfl, .failed hρ x, hs⟩
    | stored _ =>
      rw [Nat.zero_mod] at hs
      -- The rest of the round: count the cluster and go on, or end.
      suffices hrest : Triple (AllocShows g ρ m₀ (Function.update T clst 0) last
            (freedCount g free))
          (if T clst < g.nFatent then removeLoop g fuel (T clst) else pure (some .ok))
          fun r s ↦ ∃ res T' free', r = some res ∧ RemoveDone g ρ T free clst res T' free' ∧
            AllocShows g ρ m₀ T' last free' s from hrest (countFreed g s) hs.freed
      refine .ite (fun hlt ↦ ?_) fun hlt ↦ .pure fun s hs ↦
        ⟨.ok, _, _, rfl, .last hc h0 (Nat.le_of_not_lt hlt), hs⟩
      refine .weaken (ih (by omega)) (fun _ h ↦ h) ?_
      rintro r s ⟨res, T', free', hr, hdone, hs'⟩
      exact ⟨res, T', free', hr, .next hc ⟨by omega, hlt⟩ hdone, hs'⟩

/-- What `remove_chain` has done when it returns. -/
inductive RemovedChain (g : FatGeometry) (ρ : Prop) (T : ℕ → ℕ) (free clst pclst : ℕ) :
    FResult → (ℕ → ℕ) → (free : ℕ) → Prop
  | invalid (h : ¬ g.Valid clst) : RemovedChain g ρ T free clst pclst .intErr T free
  | whole {res : FResult} {T' : ℕ → ℕ} {free' : ℕ} (hc : g.Valid clst) (hp : pclst = 0)
    (h : RemoveDone g ρ T free clst res T' free') :
    RemovedChain g ρ T free clst pclst res T' free'
  | badPrevious (hc : g.Valid clst) (h0 : pclst ≠ 0) (hp : ¬ g.Valid pclst) :
    RemovedChain g ρ T free clst pclst .intErr T free
  | unmarked (hc : g.Valid clst) (hp : g.Valid pclst) (hρ : ¬ ρ) (x : ℕ) :
    RemovedChain g ρ T free clst pclst .diskErr (Function.update T pclst x) free
  | rest {res : FResult} {T' : ℕ → ℕ} {free' : ℕ} (hc : g.Valid clst) (hp : g.Valid pclst)
    (h : RemoveDone g ρ (Function.update T pclst g.endOfChain) free clst res T' free') :
    RemovedChain g ρ T free clst pclst res T' free'

/-- **`remove_chain` ends**, whatever the table is. -/
theorem removeChain_spec (hg : g.ChainSound) (T : ℕ → ℕ) (last free clst pclst : ℕ) :
    Triple (AllocShows g ρ m₀ T last free) (removeChain g clst pclst) fun r s ↦
      ∃ res T' free', r = some res ∧ RemovedChain g ρ T free clst pclst res T' free' ∧
        AllocShows g ρ m₀ T' last free' s := by
  have hfuel : ∀ T : ℕ → ℕ, (usedClusters g T).card < g.nFatent := fun T ↦ by
    have hsum := card_free_add_used (g := g) (T := T)
    have := hg.two_lt
    omega
  refine .ite (fun hc ↦ .pure fun s hs ↦ ⟨_, T, free, rfl, .invalid ?_, hs⟩) fun hc ↦ ?_
  · rintro ⟨h₁, h₂⟩
    omega
  have hvalid : g.Valid clst := ⟨by omega, by omega⟩
  refine .ite (fun hp ↦ ?_) fun hp ↦ ?_
  · refine .bind (putFatFs_spec hg.toFatSound T last free pclst 0xFFFFFFFF) fun res ↦ ?_
    rintro s ⟨T₁, hput, hs⟩
    cases hput with
    | invalid hp' => exact ⟨_, T, free, rfl, .badPrevious hvalid hp hp', hs⟩
    | failed hp' hρ x => exact ⟨_, _, free, rfl, .unmarked hvalid hp' hρ x, hs⟩
    | stored hp' =>
      obtain ⟨res, T', free', hr, hdone, hs'⟩ :=
        removeLoop_spec hg last g.nFatent (hfuel _) s hs
      exact ⟨res, T', free', hr, .rest hvalid hp' hdone, hs'⟩
  · refine .weaken (removeLoop_spec hg last g.nFatent (hfuel T)) (fun _ h ↦ h) ?_
    rintro r s ⟨res, T', free', hr, hdone, hs'⟩
    exact ⟨res, T', free', hr, .whole hvalid (Decidable.not_not.1 hp) hdone, hs'⟩

/-! ### Consequences -/

/-- **The count stays right**, if no call of the disk fails. -/
theorem RemoveDone.counted {clst free' : ℕ} {res : FResult} (hρ : ρ)
    (h : RemoveDone g ρ T free clst res T' free') (hcount : Counted g T free) :
    Counted g T' free' := by
  induction h with
  | empty _ => exact hcount
  | damaged _ => exact hcount
  | failed hρ' _ => exact absurd hρ hρ'
  | last hc h0 _ => exact hcount.freed hc h0
  | next hc h _ ih => exact ih (hcount.freed hc (by have := h.1; omega))

/-- The value after the last entry of a chain is no cluster. -/
theorem not_le_of_valid (c : ℕ) (hc : g.Valid c) : ¬ g.nFatent ≤ c := Nat.not_le_of_lt hc.2

/-- Where a chain that ends begins. -/
theorem Links.begin {a e : ℕ} {l : List ℕ} (h : Links T a l e) (hvalid : ∀ c ∈ l, g.Valid c)
    (he : g.nFatent ≤ e) : l = [] ∧ g.nFatent ≤ a ∨ l ≠ [] ∧ g.Valid a := by
  cases l with
  | nil => exact .inl ⟨rfl, (show a = e from h) ▸ he⟩
  | cons c l => exact .inr ⟨List.cons_ne_nil c l, h.1 ▸ hvalid c List.mem_cons_self⟩

/-- **A chain that ends is freed**, and nothing else changes. If the disk fails, the entries of the
chain are undefined. -/
theorem RemoveDone.of_links {clst e free' : ℕ} {res : FResult} {l : List ℕ}
    (h : RemoveDone g ρ T free clst res T' free') (hl : Links T clst l e)
    (hvalid : ∀ c ∈ l, g.Valid c) (hne : l ≠ []) (he : g.nFatent ≤ e) :
    (∀ c, c ∉ l → T' c = T c) ∧ (res = .ok ∧ (∀ c ∈ l, T' c = 0) ∨ res = .diskErr ∧ ¬ ρ) := by
  have hnodup := hl.nodup not_le_of_valid hvalid he
  obtain ⟨c, l, rfl⟩ := List.exists_cons_of_ne_nil hne
  obtain ⟨rfl, hl⟩ := hl
  have hc := hvalid clst List.mem_cons_self
  have htail : ∀ d ∈ l, g.Valid d := fun d hd ↦ hvalid d (List.mem_cons_of_mem clst hd)
  have hbegin := hl.begin htail he
  clear hne
  induction h generalizing l with
  | @empty T free clst h =>
    rw [lookupFat, if_pos hc] at h
    rcases hbegin with ⟨-, hle⟩ | ⟨-, hle⟩
    · have := hc.1
      have := hc.2
      omega
    · exact absurd hle.1 (by omega)
  | @damaged T free clst h =>
    rw [lookupFat, if_pos hc] at h
    rcases hbegin with ⟨-, hle⟩ | ⟨-, hle⟩
    · have := hc.1
      have := hc.2
      omega
    · exact absurd hle.1 (by omega)
  | @failed T free clst hρ x =>
    refine ⟨fun d hd ↦ Function.update_of_ne ?_ _ _, .inr ⟨rfl, hρ⟩⟩
    exact fun hdc ↦ hd (hdc ▸ List.mem_cons_self)
  | @last T free clst _ h0 h =>
    obtain ⟨rfl, -⟩ := hbegin.resolve_right fun hv ↦ absurd hv.2.2 (Nat.not_lt_of_le h)
    refine ⟨fun d hd ↦ Function.update_of_ne (by simpa using hd) _ _, .inl ⟨rfl, fun d hd ↦ ?_⟩⟩
    rw [List.mem_singleton.1 hd, Function.update_self]
  | @next T T' free free' clst res _ h hrest ih =>
    have hnot : clst ∉ l := (List.nodup_cons.1 hnodup).1
    obtain ⟨hne, -⟩ := hbegin.resolve_left fun hv ↦ absurd h.2 (Nat.not_lt_of_le hv.2)
    obtain ⟨d, l, rfl⟩ := List.exists_cons_of_ne_nil hne
    have hl' : Links (Function.update T clst 0) (T clst) (d :: l) e := hl.congr fun x hx ↦ by
      have hxc : x ≠ clst := fun hxc ↦ hnot (hxc ▸ hx)
      rw [Function.update_of_ne hxc]
    obtain ⟨rfl, hl'⟩ := hl'
    have hvalid' : ∀ x ∈ l, g.Valid x := fun x hx ↦ htail x (List.mem_cons_of_mem _ hx)
    obtain ⟨hkept, hres⟩ := ih l htail (List.nodup_cons.1 hnodup).2 hl' h hvalid'
      (hl'.begin hvalid' he)
    refine ⟨fun x hx ↦ ?_, hres.imp_left fun hok ↦ ⟨hok.1, fun x hx ↦ ?_⟩⟩
    · have hxc : x ≠ clst := fun hxc ↦ hx (hxc ▸ List.mem_cons_self)
      rw [hkept x fun hmem ↦ hx (List.mem_cons_of_mem clst hmem), Function.update_of_ne hxc]
    · rcases List.mem_cons.1 hx with rfl | hx
      · rw [hkept x hnot, Function.update_self]
      · exact hok.2 x hx

end Spec
