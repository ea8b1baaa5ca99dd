import Mathlib.Logic.Function.Basic
import Mathlib.Data.List.Nodup
import Mathlib.Data.List.Perm.Basic

/-!
# Linked lists in a table

A table gives each node its successor. `Links next a l b` says that the nodes met from `a` on are
`l`, and that what follows the last of them is `b`. The way from `a` is determined by the table, so
that there is one list from `a` to an end (`Links.eq_of_end`), and it does not meet a node twice
(`Links.nodup`).

`LinkedLists` is a family of lists in one table that share no node. A node of one list can be
changed without a look at the others: a list is begun (`LinkedLists.cons_singleton`), extended at
its last node (`LinkedLists.extend`), cut (`LinkedLists.cut`) and dropped (`LinkedLists.tail`).
-/

variable {α : Type} {next next' : α → α}

/-- From `a` on the nodes are `l`, and then comes `b`. -/
def Links (next : α → α) : α → List α → α → Prop
  | a, [], b => a = b
  | a, c :: l, b => a = c ∧ Links next (next c) l b

namespace Links

variable {a b : α} {l l' : List α}

theorem append_iff {l₁ l₂ : List α} :
    Links next a (l₁ ++ l₂) b ↔ ∃ c, Links next a l₁ c ∧ Links next c l₂ b := by
  induction l₁ generalizing a with
  | nil => simp [Links]
  | cons d l₁ ih => simp only [List.cons_append, Links, ih, and_assoc, exists_and_left]

/-- The last node is followed by the end. -/
theorem snoc_iff {c : α} : Links next a (l ++ [c]) b ↔ Links next a l c ∧ next c = b := by
  rw [append_iff]
  constructor
  · rintro ⟨d, hl, rfl, hb⟩
    exact ⟨hl, hb⟩
  · rintro ⟨hl, hb⟩
    exact ⟨c, hl, rfl, hb⟩

/-- A list depends on the successors of its nodes. -/
theorem congr (h : Links next a l b) (hl : ∀ c ∈ l, next' c = next c) : Links next' a l b := by
  induction l generalizing a with
  | nil => exact h
  | cons c l ih =>
    refine ⟨h.1, ?_⟩
    rw [hl c List.mem_cons_self]
    exact ih h.2 fun d hd ↦ hl d (List.mem_cons_of_mem c hd)

section Ends

variable {Node End : α → Prop} (hdisj : ∀ c, Node c → ¬ End c)

include hdisj

/-- **There is one list from a node to an end.** -/
theorem eq_of_end {b' : α} (h : Links next a l b) (h' : Links next a l' b')
    (hl : ∀ c ∈ l, Node c) (hl' : ∀ c ∈ l', Node c) (hb : End b) (hb' : End b') :
    l = l' ∧ b = b' := by
  induction l generalizing a l' with
  | nil =>
    cases l' with
    | nil => exact ⟨rfl, Eq.trans (Eq.symm h) h'⟩
    | cons c l' =>
      have hc : a = c := h'.1
      exact absurd hb (hdisj b (h ▸ hc ▸ hl' c List.mem_cons_self))
  | cons c l ih =>
    have hc : a = c := h.1
    cases l' with
    | nil => exact absurd hb' (hdisj b' (h' ▸ hc ▸ hl c List.mem_cons_self))
    | cons c' l' =>
      have hc' : c = c' := hc.symm.trans h'.1
      subst hc'
      have hrest := ih h.2 h'.2 (fun d hd ↦ hl d (List.mem_cons_of_mem c hd))
        fun d hd ↦ hl' d (List.mem_cons_of_mem c hd)
      exact ⟨congrArg (c :: ·) hrest.1, hrest.2⟩

/-- **A list with an end meets no node twice.** -/
theorem nodup (h : Links next a l b) (hl : ∀ c ∈ l, Node c) (hb : End b) : l.Nodup := by
  induction l generalizing a with
  | nil => exact List.nodup_nil
  | cons c l ih =>
    have hrest := ih h.2 fun d hd ↦ hl d (List.mem_cons_of_mem c hd)
    refine List.nodup_cons.2 ⟨fun hc ↦ ?_, hrest⟩
    -- The list from `c` would be its own proper tail.
    obtain ⟨l₁, l₂, rfl⟩ := List.append_of_mem hc
    obtain ⟨d, -, hd⟩ := append_iff.1 h.2
    have htail : Links next a (c :: l₂) b := ⟨h.1, hd.2⟩
    have heq := (eq_of_end hdisj h htail hl (fun x hx ↦ hl x (by
      simp only [List.mem_cons, List.mem_append] at hx ⊢
      tauto)) hb hb).1
    have hlen := congrArg List.length heq
    simp only [List.length_cons, List.length_append] at hlen
    omega

end Ends

end Links

/-- Lists in one table that share no node. -/
structure LinkedLists (next : α → α) (Node End : α → Prop) (ls : List (List α)) : Prop where
  linked : ∀ l ∈ ls, ∃ a b, Links next a l b ∧ End b
  nodes : ∀ l ∈ ls, ∀ c ∈ l, Node c
  nodup : ls.flatten.Nodup

namespace LinkedLists

variable {Node End : α → Prop} {l : List α} {ls ls' : List (List α)}

theorem nil : LinkedLists next Node End [] := ⟨by simp, by simp, by simp⟩

/-- Their order does not matter. -/
theorem perm (h : LinkedLists next Node End ls) (hp : ls.Perm ls') :
    LinkedLists next Node End ls' where
  linked l hl := h.linked l (hp.mem_iff.2 hl)
  nodes l hl := h.nodes l (hp.mem_iff.2 hl)
  nodup := hp.flatten.nodup_iff.1 h.nodup

/-- What is in no list can change. -/
theorem congr (h : LinkedLists next Node End ls) (hls : ∀ l ∈ ls, ∀ c ∈ l, next' c = next c) :
    LinkedLists next' Node End ls where
  linked l hl := by
    obtain ⟨a, b, hab, hb⟩ := h.linked l hl
    exact ⟨a, b, hab.congr (hls l hl), hb⟩
  nodes := h.nodes
  nodup := h.nodup

/-- A list is dropped. -/
theorem tail (h : LinkedLists next Node End (l :: ls)) : LinkedLists next Node End ls where
  linked l' hl' := h.linked l' (List.mem_cons_of_mem l hl')
  nodes l' hl' := h.nodes l' (List.mem_cons_of_mem l hl')
  nodup := (List.nodup_append.1 h.nodup).2.1

/-- An empty list beside them. -/
theorem cons_nil (h : LinkedLists next Node End ls) {e : α} (he : End e) :
    LinkedLists next Node End ([] :: ls) where
  linked l' hl' := by
    rcases List.mem_cons.1 hl' with rfl | hl'
    · exact ⟨e, e, rfl, he⟩
    · exact h.linked l' hl'
  nodes l' hl' := by
    rcases List.mem_cons.1 hl' with rfl | hl'
    · exact fun c hc ↦ absurd hc List.not_mem_nil
    · exact h.nodes l' hl'
  nodup := h.nodup

/-- The nodes of the first list are in no other. -/
theorem notMem_of_mem_head (h : LinkedLists next Node End (l :: ls)) {c : α} (hc : c ∈ l) :
    ∀ l' ∈ ls, c ∉ l' := by
  intro l' hl' hc'
  exact (List.nodup_append.1 h.nodup).2.2 c hc c (List.mem_flatten_of_mem hl' hc') rfl

/-- The first list replaced by another one. -/
theorem replace {l' : List α} (h : LinkedLists next Node End (l :: ls)) {a b : α}
    (hlink : Links next' a l' b) (hb : End b) (hnodes : ∀ c ∈ l', Node c) (hnodup : l'.Nodup)
    (hnew : ∀ c ∈ l', c ∉ l → ∀ k ∈ ls, c ∉ k) (hls : ∀ k ∈ ls, ∀ c ∈ k, next' c = next c) :
    LinkedLists next' Node End (l' :: ls) where
  linked k hk := by
    rcases List.mem_cons.1 hk with rfl | hk
    · exact ⟨a, b, hlink, hb⟩
    · exact (h.tail.congr hls).linked k hk
  nodes k hk := by
    rcases List.mem_cons.1 hk with rfl | hk
    · exact hnodes
    · exact h.tail.nodes k hk
  nodup := by
    refine List.nodup_append.2 ⟨hnodup, h.tail.nodup, ?_⟩
    rintro c hc d hd rfl
    obtain ⟨k, hk, hck⟩ := List.mem_flatten.1 hd
    by_cases hcl : c ∈ l
    · exact h.notMem_of_mem_head hcl k hk hck
    · exact hnew c hc hcl k hk hck

variable [DecidableEq α]

/-- **A list is begun** at a node of no list. -/
theorem cons_singleton (h : LinkedLists next Node End ls) {c e : α} (hc : Node c) (he : End e)
    (hnew : ∀ k ∈ ls, c ∉ k) : LinkedLists (Function.update next c e) Node End ([c] :: ls) where
  linked k hk := by
    rcases List.mem_cons.1 hk with rfl | hk
    · exact ⟨c, e, ⟨rfl, by rw [Links, Function.update_self]⟩, he⟩
    · refine (h.congr fun l hl d hd ↦ Function.update_of_ne ?_ _ _).linked k hk
      exact fun hdc ↦ hnew l hl (hdc ▸ hd)
  nodes k hk := by
    rcases List.mem_cons.1 hk with rfl | hk
    · exact fun d hd ↦ List.mem_singleton.1 hd ▸ hc
    · exact h.nodes k hk
  nodup := by
    refine List.nodup_cons.2 ⟨fun hmem ↦ ?_, h.nodup⟩
    obtain ⟨k, hk, hck⟩ := List.mem_flatten.1 hmem
    exact hnew k hk hck

/-- **A list is extended** behind its last node `x` by a node of no list. -/
theorem extend {x c e : α} (h : LinkedLists next Node End ((l ++ [x]) :: ls)) (hc : Node c)
    (he : End e) (hnew : ∀ k ∈ (l ++ [x]) :: ls, c ∉ k) :
    LinkedLists (Function.update (Function.update next c e) x c) Node End
      ((l ++ [x] ++ [c]) :: ls) := by
  obtain ⟨a, b, hlink, -⟩ := h.linked _ List.mem_cons_self
  have hnodup : (l ++ [x]).Nodup := (List.nodup_append.1 h.nodup).1
  have hcl : c ∉ l ++ [x] := hnew _ List.mem_cons_self
  have hcx : c ≠ x := fun hcx ↦ hcl (by simp [hcx])
  have hxl : x ∉ l := fun hx ↦
    (List.nodup_append.1 hnodup).2.2 x hx x (List.mem_singleton_self x) rfl
  refine h.replace (a := a) (b := e) ?_ he (fun d hd ↦ ?_) ?_ (fun d hd hdl k hk ↦ ?_) ?_
  · refine Links.snoc_iff.2 ⟨Links.snoc_iff.2 ⟨?_, by rw [Function.update_self]⟩, ?_⟩
    · refine (Links.snoc_iff.1 hlink).1.congr fun d hd ↦ ?_
      have hdx : d ≠ x := fun hdx ↦ hxl (hdx ▸ hd)
      have hdc : d ≠ c := fun hdc ↦ hcl (hdc ▸ List.mem_append_left _ hd)
      rw [Function.update_of_ne hdx, Function.update_of_ne hdc]
    · rw [Function.update_of_ne hcx, Function.update_self]
  · rcases List.mem_append.1 hd with hd | hd
    · exact h.nodes _ List.mem_cons_self d hd
    · exact List.mem_singleton.1 hd ▸ hc
  · exact List.nodup_append.2 ⟨hnodup, List.nodup_singleton c, by
      rintro d hd d' hd' rfl
      exact hcl (List.mem_singleton.1 hd' ▸ hd)⟩
  · rcases List.mem_append.1 hd with hd | hd
    · exact absurd hd hdl
    · exact List.mem_singleton.1 hd ▸ hnew k (List.mem_cons_of_mem _ hk)
  · intro k hk d hd
    have hdx : d ≠ x := fun hdx ↦ h.notMem_of_mem_head (by simp) k hk (hdx ▸ hd)
    have hdc : d ≠ c := fun hdc ↦ hnew k (List.mem_cons_of_mem _ hk) (hdc ▸ hd)
    rw [Function.update_of_ne hdx, Function.update_of_ne hdc]

omit [DecidableEq α]

/-- **A list is cut** behind its node `x`; what was behind can change. -/
theorem cut {l₂ : List α} {x e : α} (h : LinkedLists next Node End ((l ++ [x] ++ l₂) :: ls))
    (hx : next' x = e) (he : End e)
    (hkept : ∀ c, c ≠ x → c ∉ l₂ → next' c = next c) :
    LinkedLists next' Node End ((l ++ [x]) :: ls) := by
  obtain ⟨a, b, hlink, -⟩ := h.linked _ List.mem_cons_self
  obtain ⟨d, hfirst, -⟩ := Links.append_iff.1 hlink
  have hnodup : (l ++ [x] ++ l₂).Nodup := (List.nodup_append.1 h.nodup).1
  have hsplit := List.nodup_append.1 hnodup
  have hxl : x ∉ l := fun hx ↦
    (List.nodup_append.1 hsplit.1).2.2 x hx x (List.mem_singleton_self x) rfl
  refine h.replace (a := a) (b := e) ?_ he (fun c hc ↦ ?_) hsplit.1 (fun c hc hcl ↦ ?_) ?_
  · refine Links.snoc_iff.2 ⟨(Links.snoc_iff.1 hfirst).1.congr fun c hc ↦ ?_, hx⟩
    refine hkept c (fun hcx ↦ hxl (hcx ▸ hc)) fun hc₂ ↦ ?_
    exact hsplit.2.2 c (List.mem_append_left _ hc) c hc₂ rfl
  · exact h.nodes _ List.mem_cons_self c (List.mem_append_left _ hc)
  · exact absurd (List.mem_append_left _ hc) hcl
  · intro k hk c hc
    have hnot : c ∉ l ++ [x] ++ l₂ := fun hmem ↦ h.notMem_of_mem_head hmem k hk hc
    refine hkept c (fun hcx ↦ hnot ?_) fun hc₂ ↦ hnot (List.mem_append_right _ hc₂)
    simp [hcx]

end LinkedLists
