import SmartAp.Crc.Errors

/-!
# A short register at the top of a word

A register of `w` bits may be kept in the upper bits of a word of `w + s` bits, with its generator
moved up as far (`g ++ 0#s`). The word is then a register of its own width, and its generator is the
short one times `X ^ s` (`Crc.generator_append`). Division by a product takes the common factor
along, so that what the word holds at the end is the remainder by the short generator, `s` places up
(`Crc.aligned_crc`). This covers registers that are shorter than the bytes of the message.
-/

open Polynomial

namespace BitVec

variable {w s : ℕ}

/-- Zeros below a word are a factor. -/
theorem poly_append_zero (v : BitVec w) : (v ++ 0#s).poly = X ^ s * v.poly := by
  ext i
  rw [coeff_poly, coeff_X_pow_mul', coeff_poly, getLsbD_append]
  rcases Nat.lt_or_ge i s with hlow | hhigh
  · simp [hlow, Nat.not_le.2 hlow]
  · simp [hhigh, Nat.not_lt.2 hhigh]

/-- A word with that factor ends in zeros. -/
theorem exists_append_zero {v : BitVec (w + s)} (h : X ^ s ∣ v.poly) :
    ∃ u : BitVec w, v = u ++ 0#s := by
  refine ⟨v.extractLsb' s w, eq_of_getLsbD_eq fun i hi ↦ ?_⟩
  rw [getLsbD_append]
  split
  · rename_i hlow
    have hcoeff := X_pow_dvd_iff.1 h i hlow
    rw [coeff_poly] at hcoeff
    cases hbit : v.getLsbD i <;> simp_all
  · rename_i hhigh
    have hup : i - s < w := by omega
    rw [getLsbD_extractLsb', decide_eq_true hup, Bool.true_and,
      Nat.add_sub_cancel' (Nat.not_lt.1 hhigh)]

end BitVec

namespace Crc

/-- A common factor of both is one of the remainder. -/
theorem mul_modByMonic_mul {p q r : (ZMod 2)[X]} (hq : q.Monic) (hr : r.Monic) :
    r * p %ₘ (r * q) = r * (p %ₘ q) := by
  refine (div_modByMonic_unique (p /ₘ q) (r * (p %ₘ q)) (hr.mul hq) ⟨?_, ?_⟩).2
  · rw [mul_assoc, ← mul_add, modByMonic_add_div]
  · rw [degree_mul, degree_mul]
    exact WithBot.add_lt_add_left (degree_ne_bot.2 hr.ne_zero) (degree_modByMonic_lt p hq)

variable {w s : ℕ} {g : BitVec w}

theorem generator_append : generator (g ++ 0#s) = X ^ s * generator g := by
  rw [generator, generator, BitVec.poly_append_zero, mul_add, ← pow_add, Nat.add_comm s w]

/-- **The upper bits hold the remainder**, and the lower ones are zero. -/
theorem aligned_crc (hw : 8 ≤ w + s) (data : List (BitVec 8)) :
    ∃ r : BitVec w, crc (g ++ 0#s) data = r ++ 0#s ∧
      r.poly = X ^ w * message data %ₘ generator g := by
  have hcrc : (crc (g ++ 0#s) data).poly = X ^ s * (X ^ w * message data %ₘ generator g) := by
    rw [poly_crc hw, generator_append, Nat.add_comm w s, pow_add, mul_assoc,
      mul_modByMonic_mul (monic_generator g) (monic_X_pow s)]
  obtain ⟨r, hr⟩ := BitVec.exists_append_zero (hcrc ▸ dvd_mul_right _ _)
  refine ⟨r, hr, mul_left_cancel₀ (pow_ne_zero s X_ne_zero) ?_⟩
  rw [← BitVec.poly_append_zero, ← hr, hcrc]

end Crc
