import Mathlib.Algebra.Order.Ring.Nat
import Mathlib.Tactic.Ring
import Mathlib.Data.Nat.Init

/-!
# Bit fields of a register

A register is sent as bytes, the most significant first, and its fields are named by their bits. A
field that lies inside some adjacent bytes is a field of these bytes alone (`bitField_slice`), so
that a decoder that picks bytes can be compared with a table that gives bits.
-/

/-- The number with these bytes as its digits, the most significant first. -/
def bigEndian (bytes : List UInt8) : ℕ := bytes.foldl (fun n b ↦ n * 256 + b.toNat) 0

/-- Bits `hi` to `lo` of a register. -/
def bitField (bytes : List UInt8) (hi lo : ℕ) : ℕ := bigEndian bytes / 2 ^ lo % 2 ^ (hi + 1 - lo)

theorem foldl_bigEndian (bytes : List UInt8) (n : ℕ) :
    bytes.foldl (fun n b ↦ n * 256 + b.toNat) n = n * 256 ^ bytes.length + bigEndian bytes := by
  induction bytes generalizing n with
  | nil => simp [bigEndian]
  | cons b bytes ih =>
    have hfirst : bigEndian (b :: bytes) = b.toNat * 256 ^ bytes.length + bigEndian bytes := by
      show bytes.foldl (fun n b ↦ n * 256 + b.toNat) (0 * 256 + b.toNat) = _
      rw [ih, Nat.zero_mul, Nat.zero_add]
    rw [List.foldl_cons, ih, hfirst, List.length_cons, Nat.pow_succ]
    ring

theorem bigEndian_append (before after : List UInt8) :
    bigEndian (before ++ after) = bigEndian before * 256 ^ after.length + bigEndian after := by
  rw [bigEndian, List.foldl_append, foldl_bigEndian]
  rfl

theorem bigEndian_lt (bytes : List UInt8) : bigEndian bytes < 256 ^ bytes.length := by
  induction bytes with
  | nil => exact Nat.zero_lt_one
  | cons b bytes ih =>
    have hb := b.toNat_lt
    have hsplit := bigEndian_append [b] bytes
    have hone : bigEndian [b] = b.toNat := Nat.zero_add _
    rw [List.singleton_append, hone] at hsplit
    calc bigEndian (b :: bytes) < b.toNat * 256 ^ bytes.length + 256 ^ bytes.length := by
          rw [hsplit]
          exact Nat.add_lt_add_left ih _
      _ = (b.toNat + 1) * 256 ^ bytes.length := (Nat.succ_mul _ _).symm
      _ ≤ 256 * 256 ^ bytes.length := Nat.mul_le_mul_right _ hb
      _ = 256 ^ (b :: bytes).length := by rw [List.length_cons, Nat.pow_succ, Nat.mul_comm]

theorem bitField_lt (bytes : List UInt8) (hi lo : ℕ) : bitField bytes hi lo < 2 ^ (hi + 1 - lo) :=
  Nat.mod_lt _ (Nat.two_pow_pos _)

/-- **A field inside a slice is a field of the slice.** -/
theorem bitField_slice (before mid after : List UInt8) {hi lo : ℕ} (hle : lo ≤ hi)
    (hlo : 8 * after.length ≤ lo) (hhi : hi < 8 * (after.length + mid.length)) :
    bitField (before ++ mid ++ after) hi lo =
      bitField mid (hi - 8 * after.length) (lo - 8 * after.length) := by
  obtain ⟨k, rfl⟩ := Nat.exists_eq_add_of_le hlo
  obtain ⟨w, rfl⟩ := Nat.exists_eq_add_of_le hle
  obtain ⟨r, hr⟩ : ∃ r, 8 * mid.length = k + (w + 1) + r :=
    ⟨8 * mid.length - (k + (w + 1)), by omega⟩
  have hpow : ∀ n, 256 ^ n = 2 ^ (8 * n) := fun n ↦ by rw [Nat.pow_mul]
  have hafter := bigEndian_lt after
  have hwidth : 8 * after.length + k + w + 1 - (8 * after.length + k) = w + 1 := by omega
  have hwidth' : 8 * after.length + k + w - 8 * after.length + 1 -
      (8 * after.length + k - 8 * after.length) = w + 1 := by omega
  have hk : 8 * after.length + k - 8 * after.length = k := by omega
  rw [bitField, bitField, hwidth, hwidth', hk, bigEndian_append, bigEndian_append, Nat.pow_add,
    ← Nat.div_div_eq_div_mul, ← hpow]
  rw [Nat.mul_comm _ (256 ^ after.length), Nat.mul_add_div (Nat.pow_pos (by decide)),
    Nat.div_eq_of_lt hafter, Nat.add_zero]
  -- the bytes before the slice are above the field
  have hhigh : bigEndian before * 256 ^ mid.length =
      2 ^ k * (2 ^ (w + 1) * (2 ^ r * bigEndian before)) := by
    rw [hpow, hr, Nat.pow_add, Nat.pow_add]
    ring
  rw [hhigh, Nat.mul_add_div (Nat.two_pow_pos k), Nat.mul_add_mod]

/-- Bits `a` to `b` of the `n` bytes from byte `i` on. -/
theorem bitField_bytes {bytes : List UInt8} (i n : ℕ) {a b : ℕ} (h : i + n ≤ bytes.length)
    (hab : b ≤ a) (ha : a < 8 * n) :
    bitField bytes (8 * (bytes.length - (i + n)) + a) (8 * (bytes.length - (i + n)) + b) =
      bitField ((bytes.drop i).take n) a b := by
  have hsplit : bytes = bytes.take i ++ (bytes.drop i).take n ++ bytes.drop (i + n) := by
    rw [List.append_assoc, ← List.drop_drop, List.take_append_drop, List.take_append_drop]
  have hafter : (bytes.drop (i + n)).length = bytes.length - (i + n) := List.length_drop
  have hmid : ((bytes.drop i).take n).length = n := by
    rw [List.length_take, List.length_drop]
    omega
  have hslice := bitField_slice (bytes.take i) ((bytes.drop i).take n) (bytes.drop (i + n))
    (Nat.add_le_add_left hab (8 * (bytes.length - (i + n)))) (by omega) (by omega)
  rw [← hsplit, hafter, Nat.add_sub_cancel_left, Nat.add_sub_cancel_left] at hslice
  exact hslice
