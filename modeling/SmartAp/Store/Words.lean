import Mathlib.Logic.Function.Basic
import Mathlib.Algebra.Group.Nat.Defs
import Mathlib.Data.Nat.Notation

/-!
# Words in a memory of bytes

A memory gives a byte for each address. `loadWord m a n` is the number that `n` bytes from address
`a` make, the least significant first, and `storeWord m a n v` writes a number there. What is stored
is loaded again, as far as it fits (`loadWord_storeWord`); nothing else changes
(`storeWord_apply_of_notMem`), so that words that do not overlap are independent
(`loadWord_storeWord_of_disjoint`).
-/

/-- A memory of bytes. -/
abbrev Memory := ℕ → UInt8

/-- The number of `n` bytes from address `a`, the least significant first. -/
def loadWord (m : Memory) (a : ℕ) : ℕ → ℕ
  | 0 => 0
  | n + 1 => (m a).toNat + 256 * loadWord m (a + 1) n

/-- Write a number to `n` bytes from address `a`. -/
def storeWord (m : Memory) (a : ℕ) : (n v : ℕ) → Memory
  | 0, _ => m
  | n + 1, v => Function.update (storeWord m (a + 1) n (v / 256)) a (UInt8.ofNat v)

theorem loadWord_lt (m : Memory) (a n : ℕ) : loadWord m a n < 256 ^ n := by
  induction n generalizing a with
  | zero => exact Nat.zero_lt_one
  | succ n ih =>
    have hbyte := (m a).toNat_lt
    have hrest := ih (a + 1)
    rw [loadWord, Nat.pow_succ]
    omega

/-- A word is its bytes. -/
theorem loadWord_congr {m m' : Memory} {a n : ℕ} (h : ∀ i < n, m' (a + i) = m (a + i)) :
    loadWord m' a n = loadWord m a n := by
  induction n generalizing a with
  | zero => rfl
  | succ n ih =>
    have hrest : loadWord m' (a + 1) n = loadWord m (a + 1) n := ih fun i hi ↦ by
      have := h (i + 1) (Nat.succ_lt_succ hi)
      rwa [Nat.add_right_comm a 1 i, Nat.add_assoc]
    have hfirst : m' a = m a := h 0 (Nat.succ_pos n)
    rw [loadWord, loadWord, hrest, hfirst]

theorem storeWord_apply_of_notMem (m : Memory) {a x : ℕ} {n : ℕ} (v : ℕ)
    (hx : x < a ∨ a + n ≤ x) : storeWord m a n v x = m x := by
  induction n generalizing a v with
  | zero => rfl
  | succ n ih =>
    rw [storeWord, Function.update_of_ne (by omega)]
    exact ih _ (by omega)

/-- **What is stored is loaded again**, as far as it fits. -/
theorem loadWord_storeWord (m : Memory) (a n v : ℕ) :
    loadWord (storeWord m a n v) a n = v % 256 ^ n := by
  induction n generalizing a v with
  | zero => exact (Nat.mod_one v).symm
  | succ n ih =>
    have hrest : loadWord (storeWord m a (n + 1) v) (a + 1) n =
        loadWord (storeWord m (a + 1) n (v / 256)) (a + 1) n := loadWord_congr fun i _ ↦ by
      rw [storeWord, Function.update_of_ne (by omega)]
    have hfirst : (storeWord m a (n + 1) v a).toNat = v % 256 := by
      rw [storeWord, Function.update_self]
      exact UInt8.toNat_ofNat'
    rw [loadWord, hrest, ih, hfirst, Nat.pow_succ, Nat.mul_comm (256 ^ n), Nat.mod_mul]

/-- **Words that do not overlap are independent.** -/
theorem loadWord_storeWord_of_disjoint (m : Memory) {a b n k : ℕ} (v : ℕ)
    (h : b + k ≤ a ∨ a + n ≤ b) : loadWord (storeWord m a n v) b k = loadWord m b k :=
  loadWord_congr fun i hi ↦ storeWord_apply_of_notMem m v (by omega)

theorem loadWord_shift (m : Memory) (d a n : ℕ) :
    loadWord (fun x ↦ m (d + x)) a n = loadWord m (d + a) n := by
  induction n generalizing a with
  | zero => rfl
  | succ n ih => rw [loadWord, loadWord, ih, Nat.add_assoc]
