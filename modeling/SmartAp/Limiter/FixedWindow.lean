import Mathlib.Algebra.Order.Group.Defs
import Mathlib.Data.List.Range
import Mathlib.Data.List.Perm.Subperm

/-!
# Fixed windows with a lazy restart

A limiter that counts requests and starts anew when one arrives more than a period after the start
of the current window. Nothing happens between requests: an expired window goes on until the next
request.

`ticks` gives every request the number of its window and its rank there. The two bounds rest on
different facts:

* `countP_admitted_le`: ranks go up inside a window, so a window admits at most as many requests as
  the limit says. Time plays no part.
* `countP_admitted_interval_le`: a request two windows after a time is more than a period after it,
  so an interval of one period meets two windows. This one needs the times to be in order.
-/

/-- A limit for each window, the period after which a window may end, and the time of a request. -/
structure FixedWindow (β T : Type*) where
  limit : ℕ
  period : T
  time : β → T

namespace FixedWindow

/-- The current window: how many requests it has seen and when it began. -/
structure Window (T : Type*) where
  count : ℕ
  start : T

/-- A request with the number of its window and how many requests of the window came before it. -/
structure Tick (β : Type*) where
  request : β
  window : ℕ
  rank : ℕ

variable {β T : Type*} [AddCommGroup T] [LinearOrder T]

/-- The request begins a new window. -/
def Begins (F : FixedWindow β T) (s : Window T) (b : β) : Prop := F.time b - s.start > F.period

instance (F : FixedWindow β T) (s : Window T) (b : β) : Decidable (F.Begins s b) :=
  inferInstanceAs (Decidable (F.time b - s.start > F.period))

/-- The requests of a run that begins in window `n`. -/
def ticks (F : FixedWindow β T) : Window T → ℕ → List β → List (Tick β)
  | _, _, [] => []
  | s, n, b :: bs =>
    if F.Begins s b then ⟨b, n + 1, 0⟩ :: F.ticks ⟨1, F.time b⟩ (n + 1) bs
    else ⟨b, n, s.count⟩ :: F.ticks ⟨s.count + 1, s.start⟩ n bs

/-- The request is among the first of its window. -/
def Admits (F : FixedWindow β T) (x : Tick β) : Prop := x.rank < F.limit

instance (F : FixedWindow β T) (x : Tick β) : Decidable (F.Admits x) :=
  inferInstanceAs (Decidable (x.rank < F.limit))

variable {F : FixedWindow β T} {s : Window T} {n : ℕ} {b : β} {bs : List β}

theorem ticks_of_begins (h : F.Begins s b) :
    F.ticks s n (b :: bs) = ⟨b, n + 1, 0⟩ :: F.ticks ⟨1, F.time b⟩ (n + 1) bs := by
  rw [ticks, if_pos h]

theorem ticks_of_not_begins (h : ¬ F.Begins s b) :
    F.ticks s n (b :: bs) = ⟨b, n, s.count⟩ :: F.ticks ⟨s.count + 1, s.start⟩ n bs := by
  rw [ticks, if_neg h]

/-! ### Windows and ranks -/

theorem le_window_of_mem {y : Tick β} (h : y ∈ F.ticks s n bs) : n ≤ y.window := by
  induction bs generalizing s n with
  | nil => cases h
  | cons b bs ih =>
    rw [ticks] at h
    split at h
    · rcases List.mem_cons.1 h with rfl | hlater
      · exact Nat.le_succ n
      · exact (Nat.le_succ n).trans (ih hlater)
    · rcases List.mem_cons.1 h with rfl | hlater
      · exact le_rfl
      · exact ih hlater

theorem request_mem {y : Tick β} (h : y ∈ F.ticks s n bs) : y.request ∈ bs := by
  induction bs generalizing s n with
  | nil => cases h
  | cons b bs ih =>
    rw [ticks] at h
    split at h
    · rcases List.mem_cons.1 h with rfl | hlater
      · exact List.mem_cons_self
      · exact List.mem_cons_of_mem b (ih hlater)
    · rcases List.mem_cons.1 h with rfl | hlater
      · exact List.mem_cons_self
      · exact List.mem_cons_of_mem b (ih hlater)

/-- **The rank of a request** is the number of requests of its window before it. -/
theorem rank_eq {before after : List (Tick β)} {x : Tick β}
    (h : F.ticks s n bs = before ++ x :: after) :
    x.rank = (if x.window = n then s.count else 0) + before.countP (·.window = x.window) := by
  induction bs generalizing s n before with
  | nil => simp [ticks] at h
  | cons b bs ih =>
    rw [ticks] at h
    split at h <;> cases before with
    | nil =>
      obtain ⟨rfl, -⟩ := List.cons.inj h
      simp
    | cons y before =>
      rw [List.cons_append] at h
      obtain ⟨rfl, hrest⟩ := List.cons.inj h
      have hmem : x ∈ before ++ x :: after := List.mem_append_right _ List.mem_cons_self
      have hlater := le_window_of_mem (hrest.symm ▸ hmem)
      rw [ih hrest, List.countP_cons]
      grind

theorem count_le_rank {y : Tick β} (h : y ∈ F.ticks s n bs) (hn : y.window = n) :
    s.count ≤ y.rank := by
  obtain ⟨before, after, hsplit⟩ := List.append_of_mem h
  rw [rank_eq hsplit, if_pos hn]
  exact Nat.le_add_right _ _

/-- Inside a window the ranks go up. -/
theorem pairwise_rank (F : FixedWindow β T) (s : Window T) (n : ℕ) (bs : List β) :
    (F.ticks s n bs).Pairwise fun x y ↦ x.window = y.window → x.rank < y.rank := by
  induction bs generalizing s n with
  | nil => exact .nil
  | cons b bs ih =>
    rw [ticks]
    split
    · exact .cons (fun y hy hsame ↦ count_le_rank hy hsame.symm) (ih _ _)
    · exact .cons (fun y hy hsame ↦ count_le_rank hy hsame.symm) (ih _ _)

/-- **A window admits no more than the limit.** -/
theorem countP_admitted_le (F : FixedWindow β T) (s : Window T) (n m : ℕ) (bs : List β) :
    (F.ticks s n bs).countP (fun x ↦ x.window = m ∧ F.Admits x) ≤ F.limit := by
  rw [List.countP_eq_length_filter, ← List.length_map Tick.rank]
  have hincreasing : (((F.ticks s n bs).filter fun x ↦ x.window = m ∧ F.Admits x).map
      Tick.rank).Pairwise (· < ·) := by
    refine List.pairwise_map.2 (List.pairwise_filter.2 ?_)
    refine (F.pairwise_rank s n bs).imp fun {x y} hxy hx hy ↦ hxy ?_
    exact (of_decide_eq_true hx).1.trans (of_decide_eq_true hy).1.symm
  have hbelow : ((F.ticks s n bs).filter fun x ↦ x.window = m ∧ F.Admits x).map Tick.rank ⊆
      List.range F.limit := by
    intro r hr
    obtain ⟨x, hx, rfl⟩ := List.mem_map.1 hr
    exact List.mem_range.2 (of_decide_eq_true (List.mem_filter.1 hx).2).2
  have hnodup : (((F.ticks s n bs).filter fun x ↦ x.window = m ∧ F.Admits x).map
      Tick.rank).Nodup := hincreasing.imp Nat.ne_of_lt
  have hle := (hnodup.subperm hbelow).length_le
  rwa [List.length_range] at hle

/-! ### Intervals -/

section

variable [IsOrderedAddMonoid T]

/-- A later window begins more than a period after this one, and the window after that more than a
period after every time the run begins at. -/
theorem lt_time_of_later {t : T} (hsorted : bs.Pairwise fun x y ↦ F.time x ≤ F.time y)
    (hle : ∀ b ∈ bs, t ≤ F.time b) {y : Tick β} (h : y ∈ F.ticks s n bs) :
    (n < y.window → s.start + F.period < F.time y.request) ∧
      (n + 1 < y.window → t + F.period < F.time y.request) := by
  induction bs generalizing s n t with
  | nil => cases h
  | cons b bs ih =>
    obtain ⟨hb, hsorted⟩ := List.pairwise_cons.1 hsorted
    have hfirst : t ≤ F.time b := hle b List.mem_cons_self
    by_cases hbegins : F.Begins s b
    · -- the times that remain are not before the start of the new window
      have hlate : s.start + F.period < F.time b := by
        rw [add_comm]
        exact lt_sub_iff_add_lt.1 hbegins
      rw [ticks_of_begins hbegins] at h
      rcases List.mem_cons.1 h with rfl | hmem
      · exact ⟨fun _ ↦ hlate, fun hagain ↦ absurd hagain (lt_irrefl _)⟩
      · exact ⟨fun _ ↦ hlate.trans_le (hb _ (request_mem hmem)),
          fun hagain ↦ (add_le_add_left hfirst _).trans_lt ((ih hsorted hb hmem).1 hagain)⟩
    · rw [ticks_of_not_begins hbegins] at h
      rcases List.mem_cons.1 h with rfl | hmem
      · exact ⟨fun hagain ↦ absurd hagain (lt_irrefl _),
          fun hagain ↦ absurd hagain (Nat.not_succ_lt_self)⟩
      · have hrest := ih hsorted (fun b hb ↦ hle b (List.mem_cons_of_mem _ hb)) hmem
        exact hrest

theorem countP_le_add {α : Type*} {p q r : α → Prop} [DecidablePred p] [DecidablePred q]
    [DecidablePred r] {l : List α} (h : ∀ x ∈ l, r x → p x ∨ q x) :
    l.countP (r ·) ≤ l.countP (p ·) + l.countP (q ·) := by
  induction l with
  | nil => exact Nat.zero_le _
  | cons x l ih =>
    have htail := ih fun y hy ↦ h y (List.mem_cons_of_mem x hy)
    have hhead := h x List.mem_cons_self
    simp only [List.countP_cons, decide_eq_true_eq]
    grind

/-- **An interval of one period admits no more than twice the limit.** -/
theorem countP_admitted_interval_le (hsorted : bs.Pairwise fun x y ↦ F.time x ≤ F.time y)
    {t u : T} (hperiod : u ≤ t + F.period) :
    (F.ticks s n bs).countP
        (fun x ↦ (t ≤ F.time x.request ∧ F.time x.request ≤ u) ∧ F.Admits x) ≤ 2 * F.limit := by
  induction bs generalizing s n with
  | nil => exact Nat.zero_le _
  | cons b bs ih =>
    by_cases hearly : t ≤ F.time b
    · -- from here on the interval meets the windows `n` and `n + 1` only
      have hle : ∀ x ∈ b :: bs, t ≤ F.time x := by
        intro x hx
        rcases List.mem_cons.1 hx with rfl | hx
        · exact hearly
        · exact hearly.trans ((List.pairwise_cons.1 hsorted).1 x hx)
      have htwo : ∀ x ∈ F.ticks s n (b :: bs), F.time x.request ≤ u →
          x.window = n ∨ x.window = n + 1 := by
        intro x hx hxu
        have hlow := le_window_of_mem hx
        by_contra hother
        have hfar := (lt_time_of_later hsorted hle hx).2 (by omega)
        exact absurd (hfar.trans_le (hxu.trans hperiod)) (lt_irrefl _)
      calc (F.ticks s n (b :: bs)).countP
            (fun x ↦ (t ≤ F.time x.request ∧ F.time x.request ≤ u) ∧ F.Admits x)
          ≤ (F.ticks s n (b :: bs)).countP (fun x ↦ x.window = n ∧ F.Admits x) +
              (F.ticks s n (b :: bs)).countP (fun x ↦ x.window = n + 1 ∧ F.Admits x) :=
            countP_le_add fun x hx hin ↦
              (htwo x hx hin.1.2).imp (fun h ↦ ⟨h, hin.2⟩) fun h ↦ ⟨h, hin.2⟩
        _ ≤ 2 * F.limit := by
            rw [Nat.two_mul]
            exact Nat.add_le_add (F.countP_admitted_le s n n _) (F.countP_admitted_le s n (n + 1) _)
    · have hsorted := (List.pairwise_cons.1 hsorted).2
      rw [ticks]
      split
      · rw [List.countP_cons_of_neg (by simp [hearly])]
        exact ih hsorted
      · rw [List.countP_cons_of_neg (by simp [hearly])]
        exact ih hsorted

end

end FixedWindow
