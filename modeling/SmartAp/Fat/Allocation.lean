import SmartAp.Fat.Clusters

/-!
# Allocation

What `create_chain` does to the table and the counters (`createChain_spec`), and then what any
sequence of calls does to the chains of a volume.

## Runs of a caller

`ChainCall` is a caller that begins, extends, cuts and removes chains and keeps the list of the
chains it has. **The chains stay apart**, whatever calls of the disk fail (`runChainCalls_keeps`):
each is linked, has an end, and shares no cluster with another. This is the invariant `ChainsHold`,
and a step of it is one lemma for each call (`beginChain_keeps`, `extendChain_keeps`,
`cutChain_keeps`, `removeChain_keeps`), each with the general facts on linked lists of `Links.Path`.
A chain of which an entry could not be written is given up: the caller forgets it, and its clusters
stay used for ever, but no other chain is harmed.

## A disk that never fails

**A cluster is found whenever there is one** (`createChain_of_reliable`), under three conditions
that the code does not check: the count is right or unknown, no entry has the value 1, by which
`get_fat` reports an error, and the cluster that is given is the last one of its chain. Without them
it is false of the code. A count of 0 that is stale makes `create_chain` return 0 at once, with
clusters free; and a cluster that has a follower is answered with the follower.

## Any table

`remove_chain` on a table that is no set of chains, with loops perhaps, ends as well and does no
harm (`removeChain_any`): an entry is left, freed, or made the end before the cut, with one
exception. When a call of the disk fails in `put_fat`, the entry that was being written may be
anything; it is the entry of one cluster that was to change.
-/

section Spec

variable {g : FatGeometry} {ρ : Prop} {m₀ : Memory} {T T' : ℕ → ℕ} {last free : ℕ}

/-- How the search for a free cluster ends. -/
inductive Found (g : FatGeometry) (ρ : Prop) (T : ℕ → ℕ) : Except ℕ ℕ → Prop
  | free {c : ℕ} (hc : g.Valid c) (h : T c = 0) : Found g ρ T (.ok c)
  | full (h : ∀ c, g.Valid c → T c ≠ 0) : Found g ρ T (.error 0)
  | damaged {c : ℕ} (hc : g.Valid c) (h : T c = 1) : Found g ρ T (.error 1)
  | unread (hρ : ¬ ρ) : Found g ρ T (.error fatDiskError)

/-- The clusters that were looked at when the search from `scl` has come to `ncl`. -/
def Checked (scl ncl c : ℕ) : Prop :=
  scl ≤ ncl ∧ scl < c ∧ c ≤ ncl ∨ ncl < scl ∧ (scl < c ∨ c ≤ ncl)

/-- **The search** comes round, and finds a free cluster if there is one. -/
theorem findFree_spec (hg : g.ChainSound) (T : ℕ → ℕ) (last free fuel : ℕ) {scl ncl : ℕ}
    (hscl : 1 ≤ scl) (hlt : scl < g.nFatent) (hncl : 1 ≤ ncl) (hncl' : ncl < g.nFatent)
    (hfuel : (scl ≤ ncl → g.nFatent - 1 - ncl + scl ≤ fuel) ∧ (ncl < scl → scl - ncl ≤ fuel))
    (hchecked : ∀ c, g.Valid c → Checked scl ncl c → T c ≠ 0) :
    Triple (AllocShows g ρ m₀ T last free) (findFree g fuel scl ncl) fun r s ↦
      ∃ f, r = some f ∧ Found g ρ T f ∧ AllocShows g ρ m₀ T last free s := by
  induction fuel generalizing ncl with
  | zero => omega
  | succ fuel ih =>
    refine .ite (fun hwrap ↦ .pure fun s hs ↦ ⟨_, rfl, .full fun c hc ↦ ?_, hs⟩) fun hwrap ↦ ?_
    · exact hchecked c hc (.inl ⟨by omega, Nat.lt_of_lt_of_le hwrap.2 hc.1,
        Nat.le_of_lt_succ (Nat.lt_of_lt_of_le hc.2 hwrap.1)⟩)
    -- The next cluster to look at, and what is checked with it.
    generalize hn : (if g.nFatent ≤ ncl + 1 then 2 else ncl + 1) = n
    have hn2 : g.Valid n := by
      have := hg.two_lt
      constructor <;> split at hn <;> omega
    have hstep : ∀ c, g.Valid c → Checked scl n c → c ≠ n → Checked scl ncl c := by
      intro c hc h hne
      have h₂ := hc.1
      have h₃ := hc.2
      rw [Checked] at h ⊢
      split at hn <;> omega
    refine .bind (getFatFs_spec hg.toFatSound T last free n) fun cs ↦ .of_fact fun hcs ↦
      .ite (fun h0 ↦ .pure fun s hs ↦ ?_) fun h0 ↦ .ite (fun h1 ↦ .pure fun s hs ↦ ?_) fun h1 ↦
        .ite (fun heq ↦ .pure fun s hs ↦ ?_) fun hne ↦ ?_
    · have h := (hcs.resolve_right fun h ↦ absurd (h0.symm.trans h.1) (by decide)).1
      rw [lookupFat, if_pos hn2, h0] at h
      exact ⟨_, rfl, .free hn2 h.symm, hs⟩
    · rcases hcs with ⟨h, hd⟩ | ⟨h, hρ⟩
      · have hone := h1.resolve_right hd
        rw [lookupFat, if_pos hn2, hone] at h
        rw [hone]
        exact ⟨_, rfl, .damaged hn2 h.symm, hs⟩
      · rw [h]
        exact ⟨_, rfl, .unread hρ, hs⟩
    all_goals
      have hd : cs ≠ fatDiskError := fun h ↦ h1 (.inr h)
      have hT : T n ≠ 0 := by
        have h := (hcs.resolve_right fun h ↦ hd h.1).1
        rw [lookupFat, if_pos hn2] at h
        exact h ▸ h0
      have hchecked' : ∀ c, g.Valid c → Checked scl n c → T c ≠ 0 := fun c hc h ↦ by
        by_cases hcn : c = n
        · exact hcn ▸ hT
        · exact hchecked c hc (hstep c hc h hcn)
    · refine ⟨_, rfl, .full fun c hc ↦ ?_, hs⟩
      by_cases hcn : c = n
      · exact hcn ▸ hT
      · refine hchecked c hc ?_
        have h₂ := hc.1
        have h₃ := hc.2
        rw [Checked]
        split at hn <;> omega
    · refine ih (Nat.le_of_succ_le hn2.1) hn2.2 ⟨fun h ↦ ?_, fun h ↦ ?_⟩ hchecked'
      · have := hn2.2
        split at hn <;> omega
      · split at hn <;> omega

/-- A cluster that is suggested is a place to start from. -/
theorem suggested_bounds {scl : ℕ} (hscl : 1 ≤ scl) (hlt : scl < g.nFatent) (last : ℕ) :
    1 ≤ suggested g last scl ∧ suggested g last scl < g.nFatent := by
  rw [suggested]
  split <;> omega

/-- The search once round from `scl` ends, and with a cluster if one is free. -/
theorem findFree_start (hg : g.ChainSound) (T : ℕ → ℕ) (last free : ℕ) {scl : ℕ} (hscl : 1 ≤ scl)
    (hlt : scl < g.nFatent) :
    Triple (AllocShows g ρ m₀ T last free) (findFree g g.nFatent scl scl) fun r s ↦
      ∃ f, r = some f ∧ Found g ρ T f ∧ AllocShows g ρ m₀ T last free s :=
  findFree_spec hg T last free g.nFatent hscl hlt hscl hlt ⟨fun _ ↦ by omega, fun _ ↦ by omega⟩
    fun c _ h ↦ absurd h (by rw [Checked]; omega)

/-- The choice of a cluster: the one behind the given one if it is free, or the first of a
search. -/
theorem chooseCluster_spec (hg : g.ChainSound) (T : ℕ → ℕ) (last free clst : ℕ) {scl : ℕ}
    (hscl : 1 ≤ scl) (hlt : scl < g.nFatent) :
    Triple (AllocShows g ρ m₀ T last free) (chooseCluster g clst scl) fun r s ↦
      ∃ f, r = some f ∧ Found g ρ T f ∧ AllocShows g ρ m₀ T last free s := by
  refine .ite (fun _ ↦ ?_) fun _ ↦ findFree_start hg T last free hscl hlt
  generalize hn : (if g.nFatent ≤ scl + 1 then 2 else scl + 1) = n
  have hvalid : g.Valid n := by
    have := hg.two_lt
    constructor <;> split at hn <;> omega
  refine .bind (getFatFs_spec hg.toFatSound T last free n) fun cs ↦ .of_fact fun hcs ↦
    .ite (fun h1 ↦ .pure fun s hs ↦ ?_) fun h1 ↦ .ite (fun h0 ↦ ?_) fun h0 ↦
      .pure fun s hs ↦ ?_
  · rcases hcs with ⟨h, hd⟩ | ⟨h, hρ⟩
    · have hone := h1.resolve_right hd
      rw [lookupFat, if_pos hvalid, hone] at h
      rw [hone]
      exact ⟨_, rfl, .damaged hvalid h.symm, hs⟩
    · rw [h]
      exact ⟨_, rfl, .unread hρ, hs⟩
  · refine triple_get_bind fun s hs ↦ ?_
    obtain ⟨hstart, hstart'⟩ := suggested_bounds hscl hlt s.lastClst
    exact .weaken (findFree_start hg T last free hstart hstart') (fun t ht ↦ ht ▸ hs) fun _ _ h ↦ h
  · have h := (hcs.resolve_right fun h ↦ h1 (.inr h.1)).1
    rw [lookupFat, if_pos hvalid, Decidable.not_not.1 h0] at h
    exact ⟨_, rfl, .free hvalid h.symm, hs⟩

/-- The table with a new cluster, the last of the chain of `clst` if there is one. -/
def linkTable (g : FatGeometry) (T : ℕ → ℕ) (clst ncl : ℕ) : ℕ → ℕ :=
  if clst = 0 then Function.update T ncl g.endOfChain
  else Function.update (Function.update T ncl g.endOfChain) clst ncl

/-- What `create_chain` has done when it returns. -/
inductive Created (g : FatGeometry) (ρ : Prop) (T : ℕ → ℕ) (last free clst : ℕ) :
    ℕ → (ℕ → ℕ) → (last free : ℕ) → Prop
  /-- The chain goes on already. -/
  | follows (hc : g.Valid clst) (h : g.Valid (T clst)) :
    Created g ρ T last free clst (T clst) T last free
  | created {ncl : ℕ} (hfree : free ≠ 0) (hc : g.Valid ncl) (h : T ncl = 0)
    (hend : clst = 0 ∨ g.Valid clst ∧ g.nFatent ≤ T clst) :
    Created g ρ T last free clst ncl (linkTable g T clst ncl) ncl (takenCount g free)
  | full (hend : clst = 0 ∨ g.Valid clst ∧ g.nFatent ≤ T clst)
    (h : free = 0 ∨ ∀ c, g.Valid c → T c ≠ 0) : Created g ρ T last free clst 0 T last free
  /-- The chain to extend has no cluster `clst`, or an entry of the table says 1. -/
  | damaged (h : clst ≠ 0 ∧ lookupFat g T clst < 2 ∨ ∃ c, g.Valid c ∧ T c = 1) :
    Created g ρ T last free clst 1 T last free
  | unread (hρ : ¬ ρ) : Created g ρ T last free clst fatDiskError T last free
  | unmarked {ncl : ℕ} (hρ : ¬ ρ) (hc : g.Valid ncl) (h : T ncl = 0) (x : ℕ) :
    Created g ρ T last free clst fatDiskError (Function.update T ncl x) last free
  | unlinked {ncl : ℕ} (hρ : ¬ ρ) (hc : g.Valid ncl) (h : T ncl = 0) (h0 : clst ≠ 0)
    (hclst : g.Valid clst) (x : ℕ) :
    Created g ρ T last free clst fatDiskError
      (Function.update (Function.update T ncl g.endOfChain) clst x) last free

/-- A free cluster is marked, linked and counted; what goes wrong on the way is said by
`Created`. -/
theorem linkCluster_spec (hg : g.ChainSound) (last : ℕ) {ncl clst : ℕ} (hfree : free ≠ 0)
    (hc : g.Valid ncl) (h0 : T ncl = 0) (hend : clst = 0 ∨ g.Valid clst ∧ g.nFatent ≤ T clst) :
    Triple (AllocShows g ρ m₀ T last free) (linkCluster g clst ncl) fun r s ↦
      ∃ T' last' free', Created g ρ T last free clst r T' last' free' ∧
        AllocShows g ρ m₀ T' last' free' s := by
  refine .bind (putFatFs_spec hg.toFatSound T last free ncl 0xFFFFFFFF) fun res ↦ ?_
  rintro s ⟨T₁, hput, hs⟩
  cases hput with
  | invalid hc' => exact absurd hc hc'
  | failed _ hρ x => exact ⟨_, _, _, .unmarked hρ hc h0 x, hs⟩
  | stored _ =>
    -- The cluster is marked; link it, and count it.
    have hlink : Triple (AllocShows g ρ m₀ (Function.update T ncl g.endOfChain) last free)
        (linkPrevious g clst ncl .ok) fun res s ↦
          res = .ok ∧ AllocShows g ρ m₀ (linkTable g T clst ncl) last free s ∨
          res = .diskErr ∧ ¬ ρ ∧ clst ≠ 0 ∧ ∃ x, AllocShows g ρ m₀
            (Function.update (Function.update T ncl g.endOfChain) clst x) last free s := by
      refine .ite (fun hlink ↦ ?_) fun hlink ↦ .pure fun s hs ↦ ?_
      · intro s hs
        obtain ⟨T₂, hput, hs₂⟩ := putFatFs_spec hg.toFatSound _ last free clst ncl s hs
        have hvalid : g.Valid clst := (hend.resolve_left hlink.2).1
        generalize (putFatFs g clst ncl s).1 = res at hput
        cases hput with
        | invalid hc' => exact absurd hvalid hc'
        | failed _ hρ x => exact .inr ⟨rfl, hρ, hlink.2, x, hs₂⟩
        | stored _ =>
          rw [hg.mod_range hc] at hs₂
          rw [linkTable, if_neg hlink.2]
          exact .inl ⟨rfl, hs₂⟩
      · rw [linkTable, if_pos (Decidable.not_not.1 fun h ↦ hlink ⟨rfl, h⟩)]
        exact .inl ⟨rfl, hs⟩
    refine Triple.bind (R := fun r s ↦ ∃ T' last' free',
      Created g ρ T last free clst r T' last' free' ∧ AllocShows g ρ m₀ T' last' free' s)
      hlink (fun res ↦ ?_) s hs
    rintro s (⟨rfl, hs⟩ | ⟨rfl, hρ, hne, x, hs⟩)
    · exact ⟨_, _, _, .created hfree hc h0 hend, hs.taken ncl⟩
    · exact ⟨_, _, _, .unlinked hρ hc h0 hne (hend.resolve_left hne).1 x, hs⟩

/-- A cluster is chosen and linked behind the end of a chain. -/
theorem allocateCluster_spec (hg : g.ChainSound) (T : ℕ → ℕ) (last free : ℕ) {clst scl : ℕ}
    (hscl : 1 ≤ scl) (hlt : scl < g.nFatent) (hend : clst = 0 ∨ g.Valid clst ∧ g.nFatent ≤ T clst) :
    Triple (AllocShows g ρ m₀ T last free) (allocateCluster g clst scl) fun r s ↦
      ∃ v T' last' free', r = some v ∧ Created g ρ T last free clst v T' last' free' ∧
        AllocShows g ρ m₀ T' last' free' s := by
  refine triple_get_bind fun s hs ↦ .ite (fun h0 ↦ .pure ?_) fun h0 ↦ ?_
  · rintro _ rfl
    exact ⟨0, T, last, free, rfl, .full hend (.inl (hs.freeClst.symm.trans h0)), hs⟩
  refine .weaken (.bind (chooseCluster_spec hg T last free clst hscl hlt) fun r ↦ ?_)
    (fun t ht ↦ ht ▸ hs) fun _ _ h ↦ h
  rintro t ⟨f, rfl, hfound, ht⟩
  cases hfound with
  | free hc h =>
    obtain ⟨T', last', free', hcreated, ht'⟩ :=
      linkCluster_spec hg last (hs.freeClst ▸ h0) hc h hend t ht
    exact ⟨_, T', last', free', rfl, hcreated, ht'⟩
  | full h => exact ⟨0, T, last, free, rfl, .full hend (.inr h), ht⟩
  | damaged hc h => exact ⟨1, T, last, free, rfl, .damaged (.inr ⟨_, hc, h⟩), ht⟩
  | unread hρ => exact ⟨_, T, last, free, rfl, .unread hρ, ht⟩

/-- **`create_chain` ends**, and does one of these. -/
theorem createChain_spec (hg : g.ChainSound) (T : ℕ → ℕ) (last free clst : ℕ) :
    Triple (AllocShows g ρ m₀ T last free) (createChain g clst) fun r s ↦
      ∃ v T' last' free', r = some v ∧ Created g ρ T last free clst v T' last' free' ∧
        AllocShows g ρ m₀ T' last' free' s := by
  have htwo := hg.two_lt
  refine .ite (fun h0 ↦ triple_get_bind fun s hs ↦ ?_) fun h0 ↦ ?_
  · refine .weaken (allocateCluster_spec hg T last free ?_ ?_ (.inl h0)) (fun t ht ↦ ht ▸ hs)
      fun _ _ h ↦ h
    · split <;> omega
    · split <;> omega
  refine .bind (getFatFs_spec hg.toFatSound T last free clst) fun cs ↦ .of_fact fun hcs ↦
    .ite (fun h1 ↦ .pure fun s hs ↦ ?_) fun h1 ↦ .ite (fun hd ↦ .pure fun s hs ↦ ?_) fun hd ↦
      .ite (fun hlt ↦ .pure fun s hs ↦ ?_) fun hlt ↦ ?_
  · have h := hcs.resolve_right fun h ↦ by
      rw [h.1] at h1
      exact absurd h1 (by decide)
    exact ⟨1, T, last, free, rfl, .damaged (.inl ⟨h0, h.1 ▸ h1⟩), hs⟩
  · have hρ := (hcs.resolve_left fun h ↦ h.2 hd).2
    rw [hd]
    exact ⟨_, T, last, free, rfl, .unread hρ, hs⟩
  all_goals
    obtain ⟨rfl, -⟩ := hcs.resolve_right fun h ↦ hd h.1
    obtain ⟨hc, hT⟩ := valid_of_lookup fun h ↦ h1 (h ▸ Nat.lt_succ_self 1)
    rw [hT] at h1 hlt
  · rw [hT]
    exact ⟨_, T, last, free, rfl, .follows hc ⟨by omega, hlt⟩, hs⟩
  · refine allocateCluster_spec hg T last free (by have := hc.1; omega) hc.2 (.inr ⟨hc, ?_⟩)
    exact Nat.le_of_not_lt hlt

/-! ### Counts -/

/-- The mark of the end of a chain is not that of a free cluster. -/
theorem FatGeometry.ChainSound.endOfChain_ne_zero (hg : g.ChainSound) : g.endOfChain ≠ 0 := by
  have := hg.two_lt
  have := hg.le_endOfChain
  omega

/-- **The count stays right**, if no call of the disk fails. -/
theorem Created.counted (hg : g.ChainSound) {clst v last' free' : ℕ} (hρ : ρ)
    (h : Created g ρ T last free clst v T' last' free') (hcount : Counted g T free) :
    Counted g T' free' := by
  cases h with
  | follows _ _ => exact hcount
  | full _ _ => exact hcount
  | damaged _ => exact hcount
  | unread hρ' => exact absurd hρ hρ'
  | unmarked hρ' _ _ _ => exact absurd hρ hρ'
  | unlinked hρ' _ _ _ _ _ => exact absurd hρ hρ'
  | created _ hc h hend =>
    have htaken := hcount.taken hc h hg.endOfChain_ne_zero
    rw [linkTable]
    split
    · exact htaken
    · rename_i hclst
      have hlast := (hend.resolve_left hclst).2
      have hne : clst ≠ v := by
        rintro rfl
        have := hg.two_lt
        omega
      have hused : Function.update T v g.endOfChain clst ≠ 0 := by
        rw [Function.update_of_ne hne]
        have := hg.two_lt
        omega
      have hv : v ≠ 0 := by
        have := hc.1
        omega
      intro hle
      rw [freeClusters_update_used hused hv]
      exact htaken hle

/-- On a disk that never fails the free clusters are still counted after a removal. -/
theorem RemovedChain.counted (hg : g.ChainSound) {clst pclst free' : ℕ} {res : FResult} (hρ : ρ)
    (h : RemovedChain g ρ T free clst pclst res T' free') (hp : pclst = 0 ∨ T pclst ≠ 0)
    (hcount : Counted g T free) : Counted g T' free' := by
  cases h with
  | invalid _ => exact hcount
  | whole _ _ h => exact h.counted hρ hcount
  | badPrevious _ _ _ => exact hcount
  | unmarked _ _ hρ' _ => exact absurd hρ hρ'
  | rest _ hpvalid h =>
    refine h.counted hρ fun hle ↦ ?_
    have hused : T pclst ≠ 0 := hp.resolve_left fun h0 ↦ absurd hpvalid.1 (by omega)
    rw [freeClusters_update_used hused hg.endOfChain_ne_zero]
    exact hcount hle

/-! ### Runs -/

/-- A volume with these chains. -/
structure ChainsHold (g : FatGeometry) (ρ : Prop) (m₀ : Memory) (ls : List (List ℕ)) (s : FatFs) :
    Prop where
  table : ∃ T last free, AllocShows g ρ m₀ T last free s ∧
    LinkedLists T g.Valid (g.nFatent ≤ ·) ls ∧ (ρ → Counted g T free)
  ne_nil : [] ∉ ls

/-- What a caller does with a chain; `cut k` keeps `k + 1` clusters. -/
inductive ChainEdit
  | extend
  | cut (k : ℕ)
  | remove

/-- What a caller does; its chains are numbered in the list it keeps. -/
inductive ChainCall
  | begin
  | edit (i : ℕ) (e : ChainEdit)

/-- The chains when `create_chain` returned `v` for the chain `l`. -/
def afterExtend (g : FatGeometry) (l : List ℕ) (rest : List (List ℕ)) (v : Option ℕ) :
    List (List ℕ) :=
  match v with
  | some v =>
    if g.Valid v then (l ++ [v]) :: rest else if v = fatDiskError then rest else l :: rest
  | none => rest

/-- A call for the chain `l`, beside the others: the chains after it. A chain of which an entry
could not be written is given up. -/
def ChainEdit.run (g : FatGeometry) (l : List ℕ) (rest : List (List ℕ)) :
    ChainEdit → FatM (List (List ℕ))
  | .extend => do
    let v ← createChain g (l.getLastD 0)
    return afterExtend g l rest v
  | .cut k =>
    if l.drop (k + 1) = [] then return l :: rest
    else do
      let res ← removeChain g ((l.drop (k + 1)).headD 0) ((l.take (k + 1)).getLastD 0)
      return if res = some .ok then l.take (k + 1) :: rest else rest
  | .remove => do
    let _ ← removeChain g (l.headD 0) 0
    return rest

/-- A call, with the chains `ls`: the chains after it. -/
def ChainCall.run (g : FatGeometry) (ls : List (List ℕ)) : ChainCall → FatM (List (List ℕ))
  | .begin => do
    let v ← createChain g 0
    return match v with
      | some v => if g.Valid v then [v] :: ls else ls
      | none => ls
  | .edit i e =>
    match ls[i]? with
    | some l => e.run g l (ls.eraseIdx i)
    | none => return ls

def runChainCalls (g : FatGeometry) : List ChainCall → List (List ℕ) → FatM (List (List ℕ))
  | [], ls => return ls
  | call :: calls, ls => do
    let ls ← call.run g ls
    runChainCalls g calls ls

/-- A chain with its last cluster. -/
theorem exists_snoc {l : List ℕ} (h : l ≠ []) : ∃ l' x, l = l' ++ [x] ∧ l.getLastD 0 = x := by
  refine ⟨l.dropLast, l.getLast h, (List.dropLast_append_getLast h).symm, ?_⟩
  rw [List.getLastD_eq_getLast?, List.getLast?_eq_getLast_of_ne_nil h, Option.getD_some]

/-- The value of the last entry of a chain. -/
theorem LinkedLists.last_entry {l : List ℕ} {x : ℕ} {ls : List (List ℕ)}
    (h : LinkedLists T g.Valid (g.nFatent ≤ ·) ((l ++ [x]) :: ls)) :
    g.Valid x ∧ g.nFatent ≤ T x := by
  obtain ⟨a, b, hlink, hb⟩ := h.linked _ List.mem_cons_self
  refine ⟨h.nodes _ List.mem_cons_self x (by simp), ?_⟩
  rw [(Links.snoc_iff.1 hlink).2]
  exact hb

/-- A free cluster is in no chain. -/
theorem LinkedLists.notMem_of_free (hg : g.ChainSound) {c : ℕ} {ls : List (List ℕ)}
    (h : LinkedLists T g.Valid (g.nFatent ≤ ·) ls) (hc : T c = 0) : ∀ l ∈ ls, c ∉ l := by
  intro l hl hmem
  obtain ⟨a, b, hlink, hb⟩ := h.linked l hl
  obtain ⟨l₁, l₂, rfl⟩ := List.append_of_mem hmem
  obtain ⟨d, -, -, hrest⟩ := Links.append_iff.1 hlink
  have htwo := hg.two_lt
  rw [hc] at hrest
  rcases hrest.begin (fun x hx ↦ h.nodes _ hl x (by simp [hx])) hb with ⟨-, h0⟩ | ⟨-, h0⟩
  · omega
  · exact absurd h0.1 (by decide)

/-- What becomes of it does not matter to the chains. -/
theorem LinkedLists.update_free (hg : g.ChainSound) {c : ℕ} {ls : List (List ℕ)}
    (h : LinkedLists T g.Valid (g.nFatent ≤ ·) ls) (hc : T c = 0) (x : ℕ) :
    LinkedLists (Function.update T c x) g.Valid (g.nFatent ≤ ·) ls :=
  h.congr fun l hl d hd ↦ by
    have hdc : d ≠ c := fun hdc ↦ h.notMem_of_free hg hc l hl (hdc ▸ hd)
    rw [Function.update_of_ne hdc]

/-- The number that stands for a disk error is no cluster. -/
theorem not_valid_fatDiskError (hg : g.ChainSound) : ¬ g.Valid fatDiskError := by
  intro h
  have h₁ := h.2
  have h₂ := hg.lt_range
  have h₃ := g.entryRange_le
  rw [fatDiskError] at h₁
  omega

/-- How a chain `l` beside others is extended, or begun if it is empty. -/
inductive Extended (g : FatGeometry) (ρ : Prop) (T : ℕ → ℕ) (free : ℕ) (l : List ℕ)
    (rest : List (List ℕ)) : ℕ → (ℕ → ℕ) → Prop
  | linked {v : ℕ} {T' : ℕ → ℕ} (hv : g.Valid v)
    (h : LinkedLists T' g.Valid (g.nFatent ≤ ·) ((l ++ [v]) :: rest)) :
    Extended g ρ T free l rest v T'
  | full (h : free = 0 ∨ ∀ c, g.Valid c → T c ≠ 0) : Extended g ρ T free l rest 0 T
  | damaged (h : ∃ c, g.Valid c ∧ T c = 1) : Extended g ρ T free l rest 1 T
  /-- The chain is lost; the others are not. -/
  | failed {T' : ℕ → ℕ} (hρ : ¬ ρ) (h : LinkedLists T' g.Valid (g.nFatent ≤ ·) rest) :
    Extended g ρ T free l rest fatDiskError T'

/-- **What `create_chain` does to a chain** when it is given its last cluster, or 0. -/
theorem Created.extended (hg : g.ChainSound) {l : List ℕ} {rest : List (List ℕ)} {v last' free' : ℕ}
    (hls : LinkedLists T g.Valid (g.nFatent ≤ ·) (l :: rest))
    (h : Created g ρ T last free (l.getLastD 0) v T' last' free') :
    Extended g ρ T free l rest v T' := by
  rcases List.eq_nil_or_concat' l with rfl | ⟨l, x, rfl⟩
  · cases h with
    | follows hc _ => exact absurd hc.1 (by decide)
    | full _ h => exact .full h
    | damaged h => exact .damaged (h.resolve_left fun h ↦ h.1 rfl)
    | unread hρ => exact .failed hρ hls.tail
    | unmarked hρ hc h x => exact .failed hρ (hls.tail.update_free hg h x)
    | unlinked _ _ _ h0 _ _ => exact absurd rfl h0
    | created _ hc h _ =>
      exact .linked hc (hls.tail.cons_singleton hc hg.le_endOfChain (hls.tail.notMem_of_free hg h))
  obtain ⟨hvalid, hend⟩ := LinkedLists.last_entry hls
  have hx : (l ++ [x]).getLastD 0 = x := by
    rw [List.getLastD_eq_getLast?, List.getLast?_concat, Option.getD_some]
  have hmem : x ∈ l ++ [x] := by simp
  rw [hx] at h
  cases h with
  | follows _ h => exact absurd h.2 (Nat.not_lt_of_le hend)
  | full _ h => exact .full h
  | damaged h =>
    refine .damaged (h.resolve_left fun h ↦ ?_)
    have hlookup := h.2
    rw [lookupFat, if_pos hvalid] at hlookup
    have := hg.two_lt
    omega
  | unread hρ => exact .failed hρ hls.tail
  | unmarked hρ hc h y => exact .failed hρ (hls.tail.update_free hg h y)
  | @unlinked ncl hρ hc h _ _ y =>
    refine .failed hρ (hls.tail.congr fun k hk c hck ↦ ?_)
    have hcx : c ≠ x := fun hcx ↦ hls.notMem_of_mem_head hmem k hk (hcx ▸ hck)
    have hcn : c ≠ ncl := fun hcn ↦
      hls.notMem_of_free hg h k (List.mem_cons_of_mem _ hk) (hcn ▸ hck)
    rw [Function.update_of_ne hcx, Function.update_of_ne hcn]
  | created _ hc h _ =>
    have h0 : x ≠ 0 := fun h0 ↦ absurd hvalid.1 (by rw [h0]; decide)
    rw [linkTable, if_neg h0]
    exact .linked hc (hls.extend hc hg.le_endOfChain (hls.notMem_of_free hg h))

/-- **What `remove_chain` does to a chain** of which it is given the rest, or the whole. -/
theorem RemovedChain.cut (hg : g.ChainSound) {l l₂ : List ℕ} {rest : List (List ℕ)} {c free' : ℕ}
    {res : FResult} (hls : LinkedLists T g.Valid (g.nFatent ≤ ·) ((l ++ c :: l₂) :: rest))
    (h : RemovedChain g ρ T free c (l.getLastD 0) res T' free') :
    res = .ok ∧ LinkedLists T' g.Valid (g.nFatent ≤ ·) (l :: rest) ∨
      res = .diskErr ∧ ¬ ρ ∧ LinkedLists T' g.Valid (g.nFatent ≤ ·) rest := by
  -- The chain before and behind the cut.
  obtain ⟨a, b, hlink, hb⟩ := hls.linked _ List.mem_cons_self
  obtain ⟨d, hfirst, hsecond⟩ := Links.append_iff.1 hlink
  have hvalid := hls.nodes _ List.mem_cons_self
  have hcv : g.Valid c := hvalid c (by simp)
  have hothers : (∀ y, y ∉ l ++ c :: l₂ → T' y = T y) →
      LinkedLists T' g.Valid (g.nFatent ≤ ·) rest := fun hkept ↦
    hls.tail.congr fun k hk y hy ↦ hkept y fun h ↦ hls.notMem_of_mem_head h k hk hy
  rcases List.eq_nil_or_concat' l with rfl | ⟨l, x, rfl⟩
  · cases h with
    | invalid h => exact absurd hcv h
    | badPrevious _ h0 _ => exact absurd rfl h0
    | unmarked _ h _ _ => exact absurd h.1 (by decide)
    | rest _ h _ => exact absurd h.1 (by decide)
    | whole _ _ hdone =>
      obtain rfl : a = c := hlink.1
      obtain ⟨hkept, hres⟩ := hdone.of_links hlink hvalid (List.cons_ne_nil a l₂) hb
      have hrest := hothers hkept
      exact hres.imp (fun h ↦ ⟨h.1, hrest.cons_nil hb⟩) fun h ↦ ⟨h.1, h.2, hrest⟩
  have hx : (l ++ [x]).getLastD 0 = x := by
    rw [List.getLastD_eq_getLast?, List.getLast?_concat, Option.getD_some]
  rw [hx] at h
  have hxv : g.Valid x := hvalid x (by simp)
  have hnodup := (List.nodup_append.1 hls.nodup).1
  have hx₂ : x ∉ c :: l₂ := fun hmem ↦
    (List.nodup_append.1 hnodup).2.2 x (by simp) x hmem rfl
  cases h with
  | invalid h => exact absurd hcv h
  | whole _ h0 _ => exact absurd hxv.1 (by rw [h0]; decide)
  | badPrevious _ _ h => exact absurd hxv h
  | unmarked _ _ hρ y =>
    refine .inr ⟨rfl, hρ, hothers fun z hz ↦ Function.update_of_ne (fun hzx ↦ hz ?_) _ _⟩
    simp [hzx]
  | rest _ _ hdone =>
    have hlink₂ : Links (Function.update T x g.endOfChain) c (c :: l₂) b :=
      (hsecond.1 ▸ hsecond : Links T c (c :: l₂) b).congr fun y hy ↦ by
        have hyx : y ≠ x := fun h ↦ hx₂ (h ▸ hy)
        rw [Function.update_of_ne hyx]
    obtain ⟨hkept, hres⟩ := hdone.of_links hlink₂
      (fun y hy ↦ hvalid y (List.mem_append_right _ hy)) (List.cons_ne_nil c l₂) hb
    have hkept' : ∀ y, y ≠ x → y ∉ c :: l₂ → T' y = T y := fun y hyx hy ↦ by
      rw [hkept y hy, Function.update_of_ne hyx]
    rcases hres with ⟨rfl, -⟩ | ⟨rfl, hρ⟩
    · have hxend : T' x = g.endOfChain := by rw [hkept x hx₂, Function.update_self]
      exact .inl ⟨rfl, hls.cut hxend hg.le_endOfChain hkept'⟩
    · refine .inr ⟨rfl, hρ, hothers fun y hy ↦ hkept' y (fun hyx ↦ hy ?_) fun h ↦
        hy (List.mem_append_right _ h)⟩
      simp [hyx]

/-- A change of the table outside of the chains. -/
theorem ChainsHold.of_table {ls : List (List ℕ)} {s : FatFs}
    (hshows : AllocShows g ρ m₀ T last free s) (hls : LinkedLists T g.Valid (g.nFatent ≤ ·) ls)
    (hcount : ρ → Counted g T free) (hnil : [] ∉ ls) : ChainsHold g ρ m₀ ls s :=
  ⟨⟨T, last, free, hshows, hls, hcount⟩, hnil⟩

/-- **A chain is begun.** -/
theorem beginChain_keeps (hg : g.ChainSound) (ls : List (List ℕ)) :
    Triple (ChainsHold g ρ m₀ ls) (ChainCall.begin.run g ls) (ChainsHold g ρ m₀) := by
  rintro s ⟨⟨T, last, free, hs, hls, hcount⟩, hnil⟩
  refine Triple.bind (R := ChainsHold g ρ m₀) (createChain_spec hg T last free 0)
    (fun r ↦ .pure ?_) s hs
  rintro t ⟨v, T', last', free', rfl, hcreated, ht⟩
  have hcount' := fun hρ ↦ hcreated.counted hg hρ (hcount hρ)
  have hinvalid : ¬ g.Valid v → LinkedLists T' g.Valid (g.nFatent ≤ ·) ls →
      ChainsHold g ρ m₀ (if g.Valid v then [v] :: ls else ls) t := fun hv hls ↦ by
    rw [if_neg hv]
    exact .of_table ht hls hcount' hnil
  cases Created.extended hg (hls.cons_nil hg.le_endOfChain) hcreated with
  | linked hv h =>
    show ChainsHold g ρ m₀ (if g.Valid v then [v] :: ls else ls) t
    rw [if_pos hv]
    exact .of_table ht h hcount' (by simpa using hnil)
  | full _ => exact hinvalid (fun h ↦ absurd h.1 (by decide)) hls
  | damaged _ => exact hinvalid (fun h ↦ absurd h.1 (by decide)) hls
  | failed _ h => exact hinvalid (not_valid_fatDiskError hg) h

/-- **A chain is extended.** -/
theorem extendChain_keeps (hg : g.ChainSound) (l : List ℕ) (rest : List (List ℕ)) :
    Triple (ChainsHold g ρ m₀ (l :: rest)) (ChainEdit.extend.run g l rest)
      (ChainsHold g ρ m₀) := by
  rintro s ⟨⟨T, last, free, hs, hls, hcount⟩, hnil⟩
  have hrest : [] ∉ rest := fun h ↦ hnil (List.mem_cons_of_mem _ h)
  refine Triple.bind (R := ChainsHold g ρ m₀) (createChain_spec hg T last free _)
    (fun r ↦ .pure ?_) s hs
  rintro t ⟨v, T', last', free', rfl, hcreated, ht⟩
  have hcount' := fun hρ ↦ hcreated.counted hg hρ (hcount hρ)
  show ChainsHold g ρ m₀ (afterExtend g l rest (some v)) t
  cases Created.extended hg hls hcreated with
  | linked hv h =>
    rw [afterExtend, if_pos hv]
    exact .of_table ht h hcount' (by simpa using hrest)
  | full _ =>
    rw [afterExtend, if_neg (fun h ↦ absurd h.1 (by decide)), if_neg (by decide)]
    exact .of_table ht hls hcount' hnil
  | damaged _ =>
    rw [afterExtend, if_neg (fun h ↦ absurd h.1 (by decide)), if_neg (by decide)]
    exact .of_table ht hls hcount' hnil
  | failed _ h =>
    rw [afterExtend, if_neg (not_valid_fatDiskError hg), if_pos rfl]
    exact .of_table ht h hcount' hrest

/-- **A chain is cut.** -/
theorem cutChain_keeps (hg : g.ChainSound) (l : List ℕ) (rest : List (List ℕ)) (k : ℕ) :
    Triple (ChainsHold g ρ m₀ (l :: rest)) ((ChainEdit.cut k).run g l rest)
      (ChainsHold g ρ m₀) := by
  refine .ite (fun _ ↦ .pure fun s hs ↦ hs) fun hdrop ↦ ?_
  rintro s ⟨⟨T, last, free, hs, hls, hcount⟩, hnil⟩
  have hrest : [] ∉ rest := fun h ↦ hnil (List.mem_cons_of_mem _ h)
  obtain ⟨c, l₂, hc⟩ := List.exists_cons_of_ne_nil hdrop
  have htake : l.take (k + 1) ≠ [] := by
    rintro h
    rcases List.take_eq_nil_iff.1 h with h | h
    · omega
    · exact hdrop (by rw [h, List.drop_nil])
  obtain ⟨l₁, x, hl₁, hx⟩ := exists_snoc htake
  have hsplit : l = l.take (k + 1) ++ c :: l₂ := by rw [← hc, List.take_append_drop]
  have hused : T ((l.take (k + 1)).getLastD 0) ≠ 0 := by
    rw [hx]
    intro h0
    have hmem : x ∈ l.take (k + 1) := by simp [hl₁]
    exact hls.notMem_of_free hg h0 l List.mem_cons_self (List.mem_of_mem_take hmem)
  rw [hc, List.headD_cons]
  rw [hsplit] at hls
  refine Triple.bind (R := ChainsHold g ρ m₀) (removeChain_spec hg T last free c _)
    (fun r ↦ .pure ?_) s hs
  rintro t ⟨res, T', free', rfl, hremoved, ht⟩
  have hcount' := fun hρ ↦ hremoved.counted hg hρ (.inr hused) (hcount hρ)
  rcases hremoved.cut hg hls with ⟨rfl, h⟩ | ⟨rfl, -, h⟩
  · exact .of_table ht h hcount' fun hmem ↦ (List.mem_cons.1 hmem).elim (fun h ↦ htake h.symm) hrest
  · exact .of_table ht h hcount' hrest

/-- **A chain is removed.** -/
theorem removeChain_keeps (hg : g.ChainSound) (l : List ℕ) (rest : List (List ℕ)) :
    Triple (ChainsHold g ρ m₀ (l :: rest)) (ChainEdit.remove.run g l rest)
      (ChainsHold g ρ m₀) := by
  rintro s ⟨⟨T, last, free, hs, hls, hcount⟩, hnil⟩
  have hrest : [] ∉ rest := fun h ↦ hnil (List.mem_cons_of_mem _ h)
  obtain ⟨c, l, rfl⟩ := List.exists_cons_of_ne_nil fun h ↦ hnil (h ▸ List.mem_cons_self)
  refine Triple.bind (R := ChainsHold g ρ m₀) (removeChain_spec hg T last free c 0)
    (fun r ↦ .pure ?_) s hs
  rintro t ⟨res, T', free', rfl, hremoved, ht⟩
  have hcount' := fun hρ ↦ hremoved.counted hg hρ (.inl rfl) (hcount hρ)
  rcases RemovedChain.cut (l := []) hg hls hremoved with ⟨-, h⟩ | ⟨-, -, h⟩
  · exact .of_table ht h.tail hcount' hrest
  · exact .of_table ht h hcount' hrest

/-- One call keeps the chains apart. -/
theorem ChainCall.run_keeps (hg : g.ChainSound) (call : ChainCall) (ls : List (List ℕ)) :
    Triple (ChainsHold g ρ m₀ ls) (call.run g ls) (ChainsHold g ρ m₀) := by
  cases call with
  | begin => exact beginChain_keeps hg ls
  | edit i e =>
    rw [ChainCall.run]
    cases hi : ls[i]? with
    | none => exact .pure fun s hs ↦ hs
    | some l =>
      -- The chain is brought to the front.
      obtain ⟨hlt, rfl⟩ := List.getElem?_eq_some_iff.1 hi
      have hperm : ls.Perm (ls[i] :: ls.eraseIdx i) := (List.getElem_cons_eraseIdx_perm hlt).symm
      have hfront : ∀ s, ChainsHold g ρ m₀ ls s → ChainsHold g ρ m₀ (ls[i] :: ls.eraseIdx i) s := by
        rintro s ⟨⟨T, last, free, hs, hls, hcount⟩, hnil⟩
        exact .of_table hs (hls.perm hperm) hcount fun h ↦ hnil (hperm.mem_iff.2 h)
      refine .weaken ?_ hfront fun _ _ h ↦ h
      cases e with
      | extend => exact extendChain_keeps hg _ _
      | cut k => exact cutChain_keeps hg _ _ k
      | remove => exact removeChain_keeps hg _ _

/-- **The chains of a volume stay apart.** Whatever is begun, extended, cut and removed, and whatever
calls of the disk fail, the chains share no cluster, every one of them ends, and nothing outside of
the FAT has changed; if the disk never fails, `free_clst` stays the number of the free clusters. -/
theorem runChainCalls_keeps (hg : g.ChainSound) (calls : List ChainCall) (ls : List (List ℕ)) :
    Triple (ChainsHold g ρ m₀ ls) (runChainCalls g calls ls) (ChainsHold g ρ m₀) := by
  induction calls generalizing ls with
  | nil => exact .pure fun s hs ↦ hs
  | cons call calls ih => exact .bind (call.run_keeps hg ls) fun ls' ↦ ih ls'

/-- An object on an empty disk that never fails. -/
def FatFs.onEmptyDisk : FatFs := ⟨.empty ⟨fun _ ↦ 0, fun _ ↦ none⟩, 0, 0xFFFFFFFF, 0x80⟩

/-- Its table is the one that the disk holds. -/
theorem FatFs.onEmptyDisk_shows :
    AllocShows smallVolume True (fun _ ↦ 0) (fatEntry smallVolume fun _ ↦ 0) 0 0xFFFFFFFF
      .onEmptyDisk where
  table := ⟨_, .empty smallVolume ⟨fun _ ↦ 0, fun _ ↦ none⟩ (fun _ _ ↦ rfl) (fun _ _ _ _ ↦ rfl),
    FatOf.self _⟩
  lastClst := rfl
  freeClst := rfl

/-- A volume without chains, of which the free clusters are not known. -/
theorem runChainCalls_keeps_small :
    ChainsHold smallVolume True (fun _ ↦ 0)
      (runChainCalls smallVolume [.begin, .edit 0 .extend, .edit 0 (.cut 0), .begin] []
        .onEmptyDisk).1
      (runChainCalls smallVolume [.begin, .edit 0 .extend, .edit 0 (.cut 0), .begin] []
        .onEmptyDisk).2 :=
  runChainCalls_keeps smallVolume_chainSound _ [] .onEmptyDisk
    (.of_table FatFs.onEmptyDisk_shows .nil (fun _ hle ↦ absurd hle (by decide)) (by simp))

/-! ### When the disk never fails -/

/-- **A cluster is found whenever there is one.** `create_chain` takes a free cluster and links it,
or returns 0 if there is none. -/
theorem createChain_of_reliable (hg : g.ChainSound) (hρ : ρ) (last : ℕ) {clst : ℕ}
    (hcount : Counted g T free) (hone : ∀ c, g.Valid c → T c ≠ 1)
    (hend : clst = 0 ∨ g.Valid clst ∧ g.nFatent ≤ T clst) :
    Triple (AllocShows g ρ m₀ T last free) (createChain g clst) fun r s ↦
      if freeClusters g T = ∅ then r = some 0 ∧ AllocShows g ρ m₀ T last free s
      else ∃ ncl ∈ freeClusters g T, r = some ncl ∧
        AllocShows g ρ m₀ (linkTable g T clst ncl) ncl (takenCount g free) s := by
  intro s hs
  obtain ⟨v, T', last', free', hr, hcreated, hs'⟩ := createChain_spec hg T last free clst s hs
  rw [hr]
  cases hcreated with
  | follows hc h =>
    rcases hend with rfl | ⟨-, hend⟩
    · exact absurd hc.1 (by decide)
    · exact absurd h.2 (Nat.not_lt_of_le hend)
  | full _ h =>
    rw [if_pos]
    · exact ⟨rfl, hs'⟩
    · rcases h with h | h
      · exact Finset.card_eq_zero.1 ((hcount (by omega)).symm.trans h)
      · exact Finset.eq_empty_of_forall_notMem fun c hc ↦
          h c (mem_freeClusters.1 hc).1 (mem_freeClusters.1 hc).2
  | damaged h =>
    rcases h with ⟨h0, hlookup⟩ | ⟨c, hc, h⟩
    · obtain ⟨hc, hle⟩ := hend.resolve_left h0
      rw [lookupFat, if_pos hc] at hlookup
      have := hg.two_lt
      omega
    · exact absurd h (hone c hc)
  | unread hρ' => exact absurd hρ hρ'
  | unmarked hρ' _ _ _ => exact absurd hρ hρ'
  | unlinked hρ' _ _ _ _ _ => exact absurd hρ hρ'
  | created _ hc h _ =>
    have hmem := mem_freeClusters.2 ⟨hc, h⟩
    rw [if_neg (Finset.ne_empty_of_mem hmem)]
    exact ⟨v, hmem, rfl, hs'⟩

/-! ### Removing from any table -/

/-- What `remove_chain` may do to an entry: leave it, free it, or end the chain before the cut. -/
def Spared (g : FatGeometry) (T T' : ℕ → ℕ) (pclst c : ℕ) : Prop :=
  T' c = T c ∨ T' c = 0 ∨ c = pclst ∧ T' c = g.endOfChain

/-- What the loop of `remove_chain` changes becomes free, except for one entry if the disk fails. -/
theorem RemoveDone.kept_or_free {clst free' : ℕ} {res : FResult}
    (h : RemoveDone g ρ T free clst res T' free') :
    ∃ e, ∀ c, (res = .diskErr → c ≠ e) → T' c = T c ∨ T' c = 0 := by
  induction h with
  | empty _ => exact ⟨0, fun _ _ ↦ .inl rfl⟩
  | damaged _ => exact ⟨0, fun _ _ ↦ .inl rfl⟩
  | @failed T _ clst _ _ => exact ⟨clst, fun c hc ↦ .inl (Function.update_of_ne (hc rfl) _ _)⟩
  | @last T free clst _ _ _ =>
    refine ⟨0, fun c _ ↦ ?_⟩
    by_cases hc : c = clst
    · exact .inr (by rw [hc, Function.update_self])
    · exact .inl (Function.update_of_ne hc _ _)
  | @next T T' free free' clst res _ _ _ ih =>
    obtain ⟨e, he⟩ := ih
    refine ⟨e, fun c hce ↦ ?_⟩
    rcases he c hce with h | h
    · by_cases hc : c = clst
      · exact .inr (by rw [h, hc, Function.update_self])
      · exact .inl (h.trans (Function.update_of_ne hc _ _))
    · exact .inr h

/-- A removal reports a disk error only if the disk fails. -/
theorem RemoveDone.not_reliable {clst free' : ℕ} {res : FResult}
    (h : RemoveDone g ρ T free clst res T' free') (hres : res = .diskErr) : ¬ ρ := by
  induction h with
  | empty _ => cases hres
  | damaged _ => cases hres
  | failed hρ _ => exact hρ
  | last _ _ _ => cases hres
  | next _ _ _ ih => exact ih hres

/-- The cluster the loop starts from is free when it has succeeded. -/
theorem RemoveDone.head_free {clst free' : ℕ} {res : FResult} (hclst : g.Valid clst)
    (h : RemoveDone g ρ T free clst res T' free') (hres : res = .ok) : T' clst = 0 := by
  cases h with
  | empty h => rwa [lookupFat, if_pos hclst] at h
  | damaged _ => cases hres
  | failed _ _ => cases hres
  | last _ _ _ => exact Function.update_self _ _ _
  | next _ _ hrest =>
    obtain ⟨e, he⟩ := hrest.kept_or_free
    rcases he clst (fun hdisk ↦ FResult.noConfusion (hres.symm.trans hdisk)) with h | h
    · rw [h, Function.update_self]
    · exact h

/-- **`remove_chain` ends on any table**, one with a loop as well, and does no harm: an entry that it
changes is free then, or is the end of the chain before the cut. After `FR_OK` the cluster it was
called with is free. If an access of the disk fails, one entry may be anything, the one that was to
be written. -/
theorem removeChain_any (hg : g.ChainSound) (T : ℕ → ℕ) (last free clst pclst : ℕ) :
    Triple (AllocShows g ρ m₀ T last free) (removeChain g clst pclst) fun r s ↦
      ∃ res T' free', r = some res ∧ AllocShows g ρ m₀ T' last free' s ∧
        (res = .ok → T' clst = 0) ∧ (res = .diskErr → ¬ ρ) ∧
          ∃ e, ∀ c, (res = .diskErr → c ≠ e) → Spared g T T' pclst c := by
  refine (removeChain_spec hg T last free clst pclst).weaken (fun _ h ↦ h) ?_
  rintro r s ⟨res, T', free', hr, hremoved, hs⟩
  refine ⟨res, T', free', hr, hs, ?_⟩
  cases hremoved with
  | invalid _ =>
    exact ⟨fun h ↦ FResult.noConfusion h, fun h ↦ FResult.noConfusion h, 0, fun _ _ ↦ .inl rfl⟩
  | badPrevious _ _ _ =>
    exact ⟨fun h ↦ FResult.noConfusion h, fun h ↦ FResult.noConfusion h, 0, fun _ _ ↦ .inl rfl⟩
  | unmarked _ _ hρ _ =>
    exact ⟨fun h ↦ FResult.noConfusion h, fun _ ↦ hρ, pclst, fun c hc ↦
      .inl (Function.update_of_ne (hc rfl) _ _)⟩
  | whole hclst _ h =>
    obtain ⟨e, he⟩ := h.kept_or_free
    exact ⟨h.head_free hclst, h.not_reliable, e, fun c hc ↦ (he c hc).imp_right .inl⟩
  | rest hclst _ h =>
    obtain ⟨e, he⟩ := h.kept_or_free
    refine ⟨h.head_free hclst, h.not_reliable, e, fun c hce ↦ ?_⟩
    rcases he c hce with hc | hc
    · by_cases hp : c = pclst
      · exact .inr (.inr ⟨hp, by rw [hc, hp, Function.update_self]⟩)
      · exact .inl (by rw [hc, Function.update_of_ne hp])
    · exact .inr (.inl hc)

/-! ### A volume with two files -/

/-- The FAT of an empty disk. -/
theorem fatEntry_zero : fatEntry smallVolume (fun _ ↦ 0) = fun _ ↦ 0 := by
  funext c
  rw [fatEntry_fat12 rfl]
  simp

/-- A file in cluster 2, and one in the last two clusters, 124 and 125. -/
def twoFiles : ℕ → ℕ :=
  Function.update (Function.update (Function.update (fun _ ↦ 0) 2 0xFFF) 124 125) 125 0xFFF

/-- The volume, with the number of its free clusters. -/
def FatFs.withTwoFiles : FatFs :=
  (do
    let _ ← putFatFs smallVolume 2 0xFFF
    let _ ← putFatFs smallVolume 124 125
    let _ ← putFatFs smallVolume 125 0xFFF : FatM Unit) { FatFs.onEmptyDisk with freeClst := 121 }
    |>.2

/-- An entry of a disk that never fails is what is put. -/
theorem putFatFs_shows (c val : ℕ) (hc : smallVolume.Valid c) {s : FatFs}
    (hs : AllocShows smallVolume True m₀ T last free s) :
    AllocShows smallVolume True m₀ (Function.update T c (val % 0x1000)) last free
      (putFatFs smallVolume c val s).2 := by
  obtain ⟨T', hput, hs'⟩ :=
    putFatFs_spec smallVolume_chainSound.toFatSound T last free c val s hs
  generalize (putFatFs smallVolume c val s).1 = res at hput
  cases hput with
  | stored _ => exact hs'
  | invalid hc' => exact absurd hc hc'
  | failed _ hρ _ => exact absurd trivial hρ

/-- The object shows the table with the two files. -/
theorem FatFs.withTwoFiles_shows :
    AllocShows smallVolume True (fun _ ↦ 0) twoFiles 0 121 .withTwoFiles := by
  have hempty : AllocShows smallVolume True (fun _ ↦ 0) (fun _ ↦ 0) 0 121
      { FatFs.onEmptyDisk with freeClst := 121 } :=
    ⟨fatEntry_zero ▸ FatFs.onEmptyDisk_shows.table, rfl, rfl⟩
  have h₁ := putFatFs_shows 2 0xFFF (by decide) hempty
  have h₂ := putFatFs_shows 124 125 (by decide) h₁
  exact putFatFs_shows 125 0xFFF (by decide) h₂

/-- Of the 124 clusters three are used. -/
theorem twoFiles_counted : Counted smallVolume twoFiles 121 := fun _ ↦ by decide +kernel

/-- No entry has the value by which `get_fat` reports an error. -/
theorem twoFiles_ne_one {c : ℕ} (hc : smallVolume.Valid c) : twoFiles c ≠ 1 := by
  have hall : ∀ c < 126, twoFiles c ≠ 1 := by decide +kernel
  exact hall c hc.2

/-- The second file is extended: the search comes round, past cluster 2, and finds cluster 3. -/
theorem createChain_of_reliable_small :
    (createChain smallVolume 125 .withTwoFiles).1 = some 3 ∧
      AllocShows smallVolume True (fun _ ↦ 0)
        (Function.update (Function.update twoFiles 3 0xFFF) 125 3) 3 120
        (createChain smallVolume 125 .withTwoFiles).2 := by
  have hthree : (createChain smallVolume 125 .withTwoFiles).1 = some 3 := by decide +kernel
  have hend : smallVolume.Valid 125 ∧ smallVolume.nFatent ≤ twoFiles 125 := by decide
  have hfree : freeClusters smallVolume twoFiles ≠ ∅ :=
    Finset.ne_empty_of_mem (mem_freeClusters.2 (show smallVolume.Valid 3 ∧ _ by decide))
  have hlink := createChain_of_reliable smallVolume_chainSound trivial 0 twoFiles_counted
    (fun _ ↦ twoFiles_ne_one) (.inr hend) .withTwoFiles FatFs.withTwoFiles_shows
  dsimp only at hlink
  rw [if_neg hfree] at hlink
  obtain ⟨ncl, -, hr, hshows⟩ := hlink
  obtain rfl : ncl = 3 := Option.some.inj (hr.symm.trans hthree)
  exact ⟨hthree, hshows⟩

/-- The second file is cut behind its first cluster, which ends it then. -/
theorem removeChain_any_small :
    ∃ T' free', (removeChain smallVolume 125 124 .withTwoFiles).1 = some .ok ∧
      AllocShows smallVolume True (fun _ ↦ 0) T' 0 free'
        (removeChain smallVolume 125 124 .withTwoFiles).2 ∧
        twoFiles 125 ≠ 0 ∧ T' 125 = 0 ∧ ∀ c, Spared smallVolume twoFiles T' 124 c := by
  have hok : (removeChain smallVolume 125 124 .withTwoFiles).1 = some .ok := by decide +kernel
  obtain ⟨res, T', free', hr, hs, hhead, -, e, hspared⟩ :=
    removeChain_any smallVolume_chainSound twoFiles 0 121 125 124 .withTwoFiles
      FatFs.withTwoFiles_shows
  obtain rfl : res = .ok := Option.some.inj (hr.symm.trans hok)
  exact ⟨T', free', hok, hs, by decide, hhead rfl, fun c ↦ hspared c FResult.noConfusion⟩

end Spec
