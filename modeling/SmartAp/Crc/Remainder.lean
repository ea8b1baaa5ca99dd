import Mathlib.Algebra.Polynomial.Div
import Mathlib.Algebra.Polynomial.Monic
import Mathlib.Algebra.CharP.Two
import Mathlib.Data.ZMod.Basic
import Mathlib.Tactic.Ring
import Mathlib.Tactic.LinearCombination
import Mathlib.Algebra.Field.ZMod

/-!
# Cyclic redundancy checks

A word of `w` bits stands for a polynomial over the field of two elements (`BitVec.poly`): exclusive
or is addition, and a shift to the left is multiplication by `X`, up to the bit that is shifted out.
A generator `X ^ w + poly g` is given by its lower bits `g`.

The shift register takes a message byte by byte, the highest bit first (`Crc.crc`); what it holds at
the end is the remainder of the message times `X ^ w` by the generator (`Crc.poly_crc`). Nothing
here depends on a particular generator.
-/

open Polynomial

/-- The polynomial whose coefficients are the bits. -/
noncomputable def BitVec.poly {w : ℕ} (v : BitVec w) : (ZMod 2)[X] :=
  ∑ i ∈ Finset.range w, if v.getLsbD i then X ^ i else 0

namespace BitVec

variable {w : ℕ}

theorem poly_zero : (0#w).poly = 0 := by
  simp [poly]

/-- Exclusive or is addition. -/
theorem poly_xor (a b : BitVec w) : (a ^^^ b).poly = a.poly + b.poly := by
  rw [poly, poly, poly, ← Finset.sum_add_distrib]
  refine Finset.sum_congr rfl fun i _ ↦ ?_
  rw [getLsbD_xor]
  cases a.getLsbD i <;> cases b.getLsbD i <;> simp [CharTwo.add_self_eq_zero]

/-- A shift is multiplication by `X`, and the highest bit is lost. -/
theorem poly_shiftLeft_one (v : BitVec w) :
    X * v.poly = (v <<< 1).poly + if v.msb then X ^ w else 0 := by
  cases w with
  | zero => simp [poly, BitVec.eq_nil v]
  | succ w =>
    have hmsb : v.msb = v.getLsbD w := by simp [msb_eq_getLsbD_last]
    rw [poly, poly, Finset.sum_range_succ, Finset.sum_range_succ', hmsb, left_distrib,
      Finset.mul_sum]
    have hlow : ∀ i ∈ Finset.range w, (X * if v.getLsbD i then X ^ i else 0 : (ZMod 2)[X]) =
        if (v <<< 1).getLsbD (i + 1) then X ^ (i + 1) else 0 := by
      intro i hi
      have hlt : i < w := Finset.mem_range.1 hi
      rw [getLsbD_shiftLeft]
      simp [hlt, pow_succ']
    rw [Finset.sum_congr rfl hlow]
    simp [pow_succ', getLsbD_shiftLeft]

theorem degree_poly_lt (v : BitVec w) : v.poly.degree < w := by
  refine (degree_sum_le _ _).trans_lt ((Finset.sup_lt_iff (WithBot.bot_lt_coe w)).2 fun i hi ↦ ?_)
  split
  · rw [degree_X_pow]
    exact WithBot.coe_lt_coe.2 (Finset.mem_range.1 hi)
  · rw [degree_zero]
    exact WithBot.bot_lt_coe w

end BitVec

namespace Crc

variable {w : ℕ} (g : BitVec w)

/-- The generator with the lower bits `g`. -/
noncomputable def generator : (ZMod 2)[X] := X ^ w + g.poly

/-- One step of the shift register. -/
def step (r : BitVec w) : BitVec w := if r.msb then (r <<< 1) ^^^ g else r <<< 1

/-- A byte goes in at the top, followed by eight steps. -/
def update (r : BitVec w) (d : BitVec 8) : BitVec w :=
  (step g)^[8] (r ^^^ (d.setWidth w <<< (w - 8)))

/-- The register at the end of a message. -/
def crc (data : List (BitVec 8)) : BitVec w := data.foldl (update g) 0

/-- The polynomial of a message, the highest bit of the first byte first. -/
noncomputable def message (data : List (BitVec 8)) : (ZMod 2)[X] :=
  data.foldl (fun p d ↦ X ^ 8 * p + d.poly) 0

theorem monic_generator : (generator g).Monic := monic_X_pow_add g.degree_poly_lt

variable {g}

/-- A step multiplies by `X`, modulo the generator. -/
theorem dvd_step (r : BitVec w) : generator g ∣ X * r.poly - (step g r).poly := by
  rw [BitVec.poly_shiftLeft_one, step]
  split
  · -- what is shifted out is `X ^ w`, and `g` is added for it
    refine ⟨1, ?_⟩
    rw [BitVec.poly_xor, generator, CharTwo.sub_eq_add]
    linear_combination CharTwo.add_self_eq_zero (r <<< 1).poly
  · rw [add_zero, sub_self]
    exact dvd_zero _

theorem dvd_iterate (n : ℕ) (r : BitVec w) :
    generator g ∣ X ^ n * r.poly - ((step g)^[n] r).poly := by
  induction n generalizing r with
  | zero => simp
  | succ n ih =>
    have hsplit : X ^ (n + 1) * r.poly - ((step g)^[n + 1] r).poly =
        X ^ n * (X * r.poly - (step g r).poly) +
          (X ^ n * (step g r).poly - ((step g)^[n] (step g r)).poly) := by
      rw [Function.iterate_succ_apply]
      ring
    rw [hsplit]
    exact (dvd_mul_of_dvd_right (dvd_step r) _).add (ih _)

/-- The byte stands at the top of the register. -/
theorem poly_top (hw : 8 ≤ w) (d : BitVec 8) :
    (d.setWidth w <<< (w - 8)).poly = X ^ (w - 8) * d.poly := by
  obtain ⟨v, rfl⟩ := Nat.exists_eq_add_of_le' hw
  rw [Nat.add_sub_cancel, BitVec.poly, Finset.sum_range_add, BitVec.poly, Finset.mul_sum]
  have hlow : ∑ i ∈ Finset.range v, (if (d.setWidth (v + 8) <<< v).getLsbD i then X ^ i else 0 :
      (ZMod 2)[X]) = 0 := by
    refine Finset.sum_eq_zero fun i hi ↦ ?_
    have hlt : i < v := Finset.mem_range.1 hi
    simp [BitVec.getLsbD_shiftLeft, hlt]
  rw [hlow, zero_add]
  refine Finset.sum_congr rfl fun i hi ↦ ?_
  have hlt : i < 8 := Finset.mem_range.1 hi
  rw [BitVec.getLsbD_shiftLeft, BitVec.getLsbD_setWidth]
  have hw' : i < v + 8 := Nat.lt_add_left v hlt
  simp [pow_add, hlt, hw']

theorem dvd_update (hw : 8 ≤ w) (r : BitVec w) (d : BitVec 8) :
    generator g ∣ X ^ 8 * r.poly + X ^ w * d.poly - (update g r d).poly := by
  have hsplit : X ^ 8 * r.poly + X ^ w * d.poly =
      X ^ 8 * (r ^^^ (d.setWidth w <<< (w - 8))).poly := by
    rw [BitVec.poly_xor, poly_top hw, mul_add, ← mul_assoc, ← pow_add, Nat.add_sub_cancel' hw]
  rw [hsplit]
  exact dvd_iterate 8 _

/-- Both folds go through the message together. -/
theorem dvd_foldl (hw : 8 ≤ w) (data : List (BitVec 8)) {r : BitVec w} {p : (ZMod 2)[X]}
    (h : generator g ∣ X ^ w * p - r.poly) :
    generator g ∣ X ^ w * data.foldl (fun p d ↦ X ^ 8 * p + d.poly) p -
      (data.foldl (update g) r).poly := by
  induction data generalizing r p with
  | nil => exact h
  | cons d data ih =>
    refine ih ?_
    have hsplit : X ^ w * (X ^ 8 * p + d.poly) - (update g r d).poly =
        X ^ 8 * (X ^ w * p - r.poly) +
          (X ^ 8 * r.poly + X ^ w * d.poly - (update g r d).poly) := by ring
    rw [hsplit]
    exact (dvd_mul_of_dvd_right h _).add (dvd_update hw r d)

/-- **The register holds the remainder.** -/
theorem poly_crc (hw : 8 ≤ w) (data : List (BitVec 8)) :
    (crc g data).poly = X ^ w * message data %ₘ generator g := by
  have hdvd : generator g ∣ X ^ w * message data - (crc g data).poly :=
    dvd_foldl hw data (by simp [BitVec.poly_zero])
  have hdegree : (crc g data).poly.degree < (generator g).degree := by
    refine (crc g data).degree_poly_lt.trans_eq (Eq.symm ?_)
    rw [generator, degree_add_eq_left_of_degree_lt, degree_X_pow]
    rw [degree_X_pow]
    exact g.degree_poly_lt
  obtain ⟨q, hq⟩ := hdvd
  refine (div_modByMonic_unique q _ (monic_generator g) ⟨?_, hdegree⟩).2.symm
  rw [← hq, add_sub_cancel]

end Crc
