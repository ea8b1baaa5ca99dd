import Mathlib.Order.Bounds.Basic
import Mathlib.Algebra.BigOperators.Group.List.Basic
import Mathlib.Algebra.Order.Ring.Int
import Mathlib.Data.List.Perm.Basic

/-!
# Tables of counters, and the first minimum

A table of words that a loop adds to holds the sums, as integers, of what was added, as long as
these fit a word (`toNat_tally`). Nothing is assumed of the order or of the sign of the amounts.

A loop that keeps the smallest value so far, and replaces it by a smaller one only, ends at the
first position that minimises (`isLeast_scanMin`).
-/

section Tally

variable {ι : Type*} [DecidableEq ι]

/-- Add an amount to an entry, in 32 bits. -/
def bump (table : ι → UInt32) (u : ι × ℤ) : ι → UInt32 :=
  Function.update table u.1 (table u.1 + UInt32.ofInt u.2)

/-- The table after a list of additions. -/
def tally (updates : List (ι × ℤ)) : ι → UInt32 := updates.foldl bump fun _ ↦ 0

/-- What is added to an entry. -/
def total (updates : List (ι × ℤ)) (i : ι) : ℤ :=
  (updates.map fun u ↦ if u.1 = i then u.2 else 0).sum

@[simp] theorem total_nil (i : ι) : total [] i = 0 := rfl

@[simp] theorem total_cons (u : ι × ℤ) (updates : List (ι × ℤ)) (i : ι) :
    total (u :: updates) i = (if u.1 = i then u.2 else 0) + total updates i := by
  rw [total, List.map_cons, List.sum_cons, total]

@[simp] theorem total_append (us vs : List (ι × ℤ)) (i : ι) :
    total (us ++ vs) i = total us i + total vs i := by
  rw [total, List.map_append, List.sum_append, total, total]

theorem total_nonneg {updates : List (ι × ℤ)} (h : ∀ u ∈ updates, 0 ≤ u.2) (i : ι) :
    0 ≤ total updates i := by
  induction updates with
  | nil => exact le_rfl
  | cons u updates ih =>
    have hhead := h u List.mem_cons_self
    have htail := ih fun v hv ↦ h v (List.mem_cons_of_mem u hv)
    rw [total_cons]
    split <;> omega

/-- With no amount below zero the sums only grow. -/
theorem total_le_of_prefix {us updates : List (ι × ℤ)} (h : ∀ u ∈ updates, 0 ≤ u.2)
    (hpre : us <+: updates) (i : ι) : 0 ≤ total us i ∧ total us i ≤ total updates i := by
  obtain ⟨vs, rfl⟩ := hpre
  have hus := total_nonneg (fun u hu ↦ h u (List.mem_append_left vs hu)) i
  have hvs := total_nonneg (fun u hu ↦ h u (List.mem_append_right us hu)) i
  rw [total_append]
  omega

theorem foldl_bump (updates : List (ι × ℤ)) (table : ι → UInt32) (i : ι) :
    updates.foldl bump table i = table i + UInt32.ofInt (total updates i) := by
  induction updates generalizing table with
  | nil => exact (UInt32.add_zero _).symm
  | cons u updates ih =>
    rw [List.foldl_cons, ih, total_cons, UInt32.ofInt_add, ← UInt32.add_assoc, bump,
      Function.update_apply]
    by_cases hi : u.1 = i
    · rw [if_pos hi.symm, if_pos hi, hi]
    · have hzero : UInt32.ofInt 0 = 0 := rfl
      rw [if_neg (Ne.symm hi), if_neg hi, hzero, UInt32.add_zero]

/-- **An entry holds the sum** when the sum fits. -/
theorem toNat_tally {updates : List (ι × ℤ)} {i : ι} (hnonneg : 0 ≤ total updates i)
    (hfits : total updates i < 2 ^ 32) : ((tally updates i).toNat : ℤ) = total updates i := by
  have hlt : (total updates i).toNat < UInt32.size := by
    rw [← Int.toNat_of_nonneg hnonneg] at hfits
    exact_mod_cast hfits
  rw [tally, foldl_bump, UInt32.zero_add, UInt32.ofInt, Int.emod_eq_of_lt hnonneg hfits,
    UInt32.toNat_ofNat_of_lt' hlt, Int.toNat_of_nonneg hnonneg]

end Tally

section ScanMin

variable {ι α : Type*} [LinearOrder α]

/-- Keep the position with the smaller value. -/
def keepSmaller (f : ι → α) (best : α × ι) (i : ι) : α × ι :=
  if f i < best.1 then (f i, i) else best

/-- The loop, from a bound and a position to return if nothing is below it. -/
def scanMin (f : ι → α) (start : α × ι) (is : List ι) : α × ι := is.foldl (keepSmaller f) start

/-- The loop ends where it began, or at a position whose value is less than all before it and at
most all behind it. -/
theorem scanMin_cases (f : ι → α) (start : α × ι) (is : List ι) :
    (scanMin f start is = start ∧ ∀ i ∈ is, start.1 ≤ f i) ∨
      ∃ before b after, is = before ++ b :: after ∧ scanMin f start is = (f b, b) ∧
        f b < start.1 ∧ (∀ i ∈ before, f b < f i) ∧ ∀ i ∈ after, f b ≤ f i := by
  induction is generalizing start with
  | nil => exact .inl ⟨rfl, fun i hi ↦ absurd hi List.not_mem_nil⟩
  | cons i is ih =>
    have hstep : scanMin f start (i :: is) = scanMin f (keepSmaller f start i) is := rfl
    by_cases hsmaller : f i < start.1
    · have hkeep : keepSmaller f start i = (f i, i) := if_pos hsmaller
      rw [hstep, hkeep]
      rcases ih (f i, i) with ⟨hsame, hall⟩ | ⟨before, b, after, rfl, hres, hlt, hbefore, hafter⟩
      · exact .inr ⟨[], i, is, rfl, hsame, hsmaller, fun j hj ↦ absurd hj List.not_mem_nil, hall⟩
      · refine .inr ⟨i :: before, b, after, rfl, hres, hlt.trans hsmaller, ?_, hafter⟩
        intro j hj
        rcases List.mem_cons.1 hj with rfl | hj
        · exact hlt
        · exact hbefore j hj
    · have hkeep : keepSmaller f start i = start := if_neg hsmaller
      rw [hstep, hkeep]
      rcases ih start with ⟨hsame, hall⟩ | ⟨before, b, after, rfl, hres, hlt, hbefore, hafter⟩
      · refine .inl ⟨hsame, fun j hj ↦ ?_⟩
        rcases List.mem_cons.1 hj with rfl | hj
        · exact not_lt.1 hsmaller
        · exact hall j hj
      · refine .inr ⟨i :: before, b, after, rfl, hres, hlt, ?_, hafter⟩
        intro j hj
        rcases List.mem_cons.1 hj with rfl | hj
        · exact hlt.trans_le (not_lt.1 hsmaller)
        · exact hbefore j hj

/-- **The loop finds the least minimiser** of an increasing list of positions. -/
theorem isLeast_scanMin [LinearOrder ι] (f : ι → α) (start : α × ι) {is : List ι}
    (hsorted : is.Pairwise (· < ·)) (hbelow : ∃ i ∈ is, f i < start.1) :
    IsLeast {i | i ∈ is ∧ ∀ j ∈ is, f i ≤ f j} (scanMin f start is).2 := by
  rcases scanMin_cases f start is with ⟨-, hall⟩ | ⟨before, b, after, rfl, hres, -, hbefore, hafter⟩
  · obtain ⟨i, hi, hlt⟩ := hbelow
    exact absurd (hall i hi) (not_le.2 hlt)
  · rw [hres]
    have hb : b ∈ before ++ b :: after := List.mem_append_right _ List.mem_cons_self
    refine ⟨⟨hb, fun j hj ↦ ?_⟩, fun i hi ↦ ?_⟩
    · rcases List.mem_append.1 hj with hj | hj
      · exact (hbefore j hj).le
      · rcases List.mem_cons.1 hj with rfl | hj
        · exact le_rfl
        · exact hafter j hj
    · rcases List.mem_append.1 hi.1 with hi' | hi'
      · exact absurd (hi.2 b hb) (not_le.2 (hbefore i hi'))
      · rcases List.mem_cons.1 hi' with rfl | hi'
        · exact le_rfl
        · exact ((List.pairwise_cons.1 (List.pairwise_append.1 hsorted).2.1).1 i hi').le

end ScanMin
