import SmartAp.Crc.Remainder
import Mathlib.Algebra.Polynomial.FieldDivision
import Mathlib.Algebra.Field.ZMod
import Mathlib.RingTheory.PrincipalIdealDomain

/-!
# The errors a cyclic redundancy check finds

A frame is a message with its checksum, and it is accepted when its polynomial is a multiple of the
generator (`Crc.crc_eq_iff`). The polynomial of the bits in which two frames of one length differ is
the sum of theirs, so that an error is missed exactly if its own polynomial is a multiple.

* A burst no longer than the register is `X ^ c` times a polynomial of smaller degree, and the
  generator has no factor `X` (`Crc.not_dvd_burst`).
* Two bits are `X ^ c` times `X ^ k + 1`, and this is no multiple as long as the register, started
  at 1, is not back at 1 after `k` steps (`Crc.not_dvd_twoBits`).
-/

open Polynomial

/-! ### Bits in the order they are sent -/

/-- The polynomial of bits, the highest first. -/
noncomputable def bitPoly (bits : List Bool) : (ZMod 2)[X] :=
  bits.foldl (fun p b ↦ X * p + if b then 1 else 0) 0

/-- The bits of bytes, the highest bit of the first byte first. -/
def wireBits (data : List (BitVec 8)) : List Bool :=
  data.flatMap fun d ↦ (List.range 8).map d.getMsbD

/-- The bits in which two frames differ. -/
def changedBits (data data' : List (BitVec 8)) : List Bool :=
  List.zipWith xor (wireBits data) (wireBits data')

/-- Not more than `w` adjacent bits are set, and one is. -/
def IsBurst (w : ℕ) (bits : List Bool) : Prop :=
  true ∈ bits ∧ ∃ s, ∀ i (hi : i < bits.length), bits[i] = true → s ≤ i ∧ i < s + w

/-- Exactly two bits are set. -/
def IsTwoBits (bits : List Bool) : Prop := bits.count true = 2

theorem foldl_bitPoly (bits : List Bool) (p : (ZMod 2)[X]) :
    bits.foldl (fun p b ↦ X * p + if b then 1 else 0) p = X ^ bits.length * p + bitPoly bits := by
  induction bits generalizing p with
  | nil => simp [bitPoly]
  | cons b bits ih =>
    have hcons : bitPoly (b :: bits) =
        bits.foldl (fun p b ↦ X * p + if b then 1 else 0) (X * 0 + if b then 1 else 0) := rfl
    rw [List.foldl_cons, ih, hcons, ih, List.length_cons]
    ring

theorem bitPoly_append (xs ys : List Bool) :
    bitPoly (xs ++ ys) = X ^ ys.length * bitPoly xs + bitPoly ys := by
  rw [bitPoly, List.foldl_append, foldl_bitPoly]
  rfl

theorem bitPoly_cons (b : Bool) (bits : List Bool) :
    bitPoly (b :: bits) = (if b then X ^ bits.length else 0) + bitPoly bits := by
  rw [bitPoly, List.foldl_cons, foldl_bitPoly]
  cases b <;> simp

theorem bitPoly_replicate_false (n : ℕ) : bitPoly (List.replicate n false) = 0 := by
  induction n with
  | zero => rfl
  | succ n ih => rw [List.replicate_succ, bitPoly_cons, ih, if_neg Bool.false_ne_true, add_zero]

/-- Exclusive or is addition. -/
theorem bitPoly_zipWith_xor {xs ys : List Bool} (h : xs.length = ys.length) :
    bitPoly (List.zipWith xor xs ys) = bitPoly xs + bitPoly ys := by
  induction xs generalizing ys with
  | nil =>
    obtain rfl := List.eq_nil_of_length_eq_zero h.symm
    simp [bitPoly]
  | cons x xs ih =>
    obtain ⟨y, ys, rfl⟩ := List.exists_cons_of_length_eq_add_one h.symm
    have hlength : xs.length = ys.length := Nat.succ.inj h
    have hzip : (List.zipWith xor xs ys).length = ys.length := by
      rw [List.length_zipWith, hlength, Nat.min_self]
    rw [List.zipWith_cons_cons, bitPoly_cons, bitPoly_cons, bitPoly_cons, ih hlength, hzip, hlength]
    have hbit : ∀ p : (ZMod 2)[X], (if xor x y then p else 0) =
        (if x then p else 0) + if y then p else 0 := by
      intro p
      cases x <;> cases y <;> simp [CharTwo.add_self_eq_zero]
    rw [hbit]
    ring

theorem degree_bitPoly_lt (bits : List Bool) : (bitPoly bits).degree < bits.length := by
  induction bits with
  | nil => simp [bitPoly]
  | cons b bits ih =>
    have hlt : ((bits.length : ℕ) : WithBot ℕ) < ((bits.length + 1 : ℕ) : WithBot ℕ) :=
      WithBot.coe_lt_coe.2 (Nat.lt_succ_self _)
    rw [bitPoly_cons, List.length_cons]
    refine (degree_add_le _ _).trans_lt (max_lt ?_ (ih.trans hlt))
    split
    · rwa [degree_X_pow]
    · rw [degree_zero]
      exact WithBot.bot_lt_coe _

theorem bitPoly_ne_zero {bits : List Bool} (h : true ∈ bits) : bitPoly bits ≠ 0 := by
  induction bits with
  | nil => cases h
  | cons b bits ih =>
    rw [bitPoly_cons]
    cases b with
    | false =>
      rw [if_neg Bool.false_ne_true, zero_add]
      exact ih ((List.mem_cons.1 h).resolve_left nofun)
    | true =>
      -- the first bit gives the degree
      rw [if_pos rfl]
      intro hzero
      have hdegree := degree_bitPoly_lt bits
      rw [← CharTwo.sub_eq_add, sub_eq_zero] at hzero
      rw [← hzero, degree_X_pow] at hdegree
      exact lt_irrefl _ hdegree

theorem bitPoly_byte (d : BitVec 8) : bitPoly ((List.range 8).map d.getMsbD) = d.poly := by
  have hbits : (List.range 8).map d.getMsbD = [d.getLsbD 7, d.getLsbD 6, d.getLsbD 5, d.getLsbD 4,
      d.getLsbD 3, d.getLsbD 2, d.getLsbD 1, d.getLsbD 0] := rfl
  rw [hbits, BitVec.poly]
  simp only [bitPoly_cons, Finset.sum_range_succ, Finset.sum_range_zero, List.length_cons,
    List.length_nil, Nat.reduceAdd]
  rw [show bitPoly [] = 0 from rfl]
  ring

theorem length_wireBits (data : List (BitVec 8)) : (wireBits data).length = 8 * data.length := by
  induction data with
  | nil => rfl
  | cons d data ih =>
    show ((List.range 8).map d.getMsbD ++ wireBits data).length = _
    rw [List.length_append, ih, List.length_map, List.length_range, List.length_cons]
    omega

namespace Crc

/-- A message is the polynomial of its bits. -/
theorem message_eq (data : List (BitVec 8)) : message data = bitPoly (wireBits data) := by
  have hfold : ∀ p : (ZMod 2)[X], data.foldl (fun p d ↦ X ^ 8 * p + d.poly) p =
      (wireBits data).foldl (fun p b ↦ X * p + if b then 1 else 0) p := by
    induction data with
    | nil => exact fun _ ↦ rfl
    | cons d data ih =>
      intro p
      show _ = ((List.range 8).map d.getMsbD ++ wireBits data).foldl _ p
      rw [List.foldl_append, foldl_bitPoly ((List.range 8).map d.getMsbD), bitPoly_byte,
        List.foldl_cons, ih]
      rfl
  exact hfold 0

end Crc

/-! ### Shapes of errors -/

/-- A burst stands between zeros. -/
theorem IsBurst.shape {w : ℕ} {bits : List Bool} (h : IsBurst w bits) :
    ∃ a mid c, bits = List.replicate a false ++ mid ++ List.replicate c false ∧ mid.length ≤ w ∧
      true ∈ mid := by
  obtain ⟨htrue, s, hset⟩ := h
  have hzero : ∀ i (hi : i < bits.length), ¬ (s ≤ i ∧ i < s + w) → bits[i] = false :=
    fun i hi hout ↦ Bool.eq_false_of_not_eq_true fun hbit ↦ hout (hset i hi hbit)
  have hfirst : bits.take s = List.replicate (bits.take s).length false := by
    refine List.eq_replicate_iff.2 ⟨rfl, fun b hb ↦ ?_⟩
    obtain ⟨i, hi, rfl⟩ := List.getElem_of_mem hb
    rw [List.length_take] at hi
    rw [List.getElem_take]
    exact hzero i (by omega) (by omega)
  have hlast : bits.drop (s + w) = List.replicate (bits.drop (s + w)).length false := by
    refine List.eq_replicate_iff.2 ⟨rfl, fun b hb ↦ ?_⟩
    obtain ⟨i, hi, rfl⟩ := List.getElem_of_mem hb
    rw [List.length_drop] at hi
    rw [List.getElem_drop]
    exact hzero (s + w + i) (by omega) (by omega)
  have hsplit : bits = bits.take s ++ (bits.drop s).take w ++ bits.drop (s + w) := by
    rw [List.append_assoc, ← List.drop_drop, List.take_append_drop, List.take_append_drop]
  refine ⟨(bits.take s).length, (bits.drop s).take w, (bits.drop (s + w)).length, ?_,
    List.length_take_le _ _, ?_⟩
  · rw [← hfirst, ← hlast]
    exact hsplit
  · rw [hsplit, hfirst, hlast] at htrue
    simpa using htrue

/-- A list whose bits are all zero but one. -/
theorem shape_of_count_one {bits : List Bool} (h : bits.count true = 1) :
    ∃ a c, bits = List.replicate a false ++ true :: List.replicate c false := by
  induction bits with
  | nil => cases h
  | cons b bits ih =>
    cases b with
    | false =>
      rw [List.count_cons_of_ne (by decide)] at h
      obtain ⟨a, c, rfl⟩ := ih h
      exact ⟨a + 1, c, rfl⟩
    | true =>
      rw [List.count_cons_self] at h
      have hnone : true ∉ bits := List.count_eq_zero.1 (Nat.succ.inj h)
      refine ⟨0, bits.length, ?_⟩
      rw [List.eq_replicate_iff.2 ⟨rfl, fun b hb ↦ Bool.eq_false_of_not_eq_true fun hbit ↦
        hnone (hbit ▸ hb)⟩, List.length_replicate]
      rfl

/-- Two set bits stand between zeros. -/
theorem IsTwoBits.shape {bits : List Bool} (h : IsTwoBits bits) :
    ∃ a b c, bits = List.replicate a false ++
      true :: (List.replicate b false ++ true :: List.replicate c false) := by
  rw [IsTwoBits] at h
  induction bits with
  | nil => cases h
  | cons b bits ih =>
    cases b with
    | false =>
      rw [List.count_cons_of_ne (by decide)] at h
      obtain ⟨a, b, c, rfl⟩ := ih h
      exact ⟨a + 1, b, c, rfl⟩
    | true =>
      rw [List.count_cons_self] at h
      obtain ⟨b, c, rfl⟩ := shape_of_count_one (Nat.succ.inj h)
      exact ⟨0, b, c, rfl⟩

/-! ### Frames -/

theorem BitVec.coeff_poly {w : ℕ} (v : BitVec w) (i : ℕ) :
    v.poly.coeff i = if v.getLsbD i then 1 else 0 := by
  have hterm : ∀ j, ((if v.getLsbD j then X ^ j else 0 : (ZMod 2)[X])).coeff i =
      if i = j then (if v.getLsbD j then 1 else 0) else 0 := by
    intro j
    cases v.getLsbD j <;> simp [coeff_X_pow]
  rw [BitVec.poly, finsetSum_coeff]
  simp only [hterm, Finset.sum_ite_eq, Finset.mem_range]
  split
  · rfl
  · rename_i hi
    rw [BitVec.getLsbD_of_ge v i (Nat.not_lt.1 hi), if_neg Bool.false_ne_true]

theorem BitVec.poly_inj {w : ℕ} {a b : BitVec w} (h : a.poly = b.poly) : a = b := by
  refine BitVec.eq_of_getLsbD_eq fun i _ ↦ ?_
  have hcoeff := congrArg (coeff · i) h
  simp only [coeff_poly] at hcoeff
  cases ha : a.getLsbD i <;> cases hb : b.getLsbD i <;> simp_all

namespace Crc

variable {w : ℕ} {g : BitVec w}

theorem degree_generator : (generator g).degree = w := by
  rw [generator, degree_add_eq_left_of_degree_lt, degree_X_pow]
  rw [degree_X_pow]
  exact g.degree_poly_lt

/-- Words are equal if they are modulo the generator. -/
theorem eq_of_dvd {a b : BitVec w} (h : generator g ∣ a.poly - b.poly) : a = b := by
  have hdegree : (a.poly - b.poly).degree < (generator g).degree := by
    rw [degree_generator]
    exact (degree_sub_le _ _).trans_lt (max_lt a.degree_poly_lt b.degree_poly_lt)
  exact BitVec.poly_inj (sub_eq_zero.1 (eq_zero_of_dvd_of_degree_lt h hdegree))

/-- **A checksum is right** if the message followed by it is a multiple of the generator. -/
theorem crc_eq_iff (hw : 8 ≤ w) (data : List (BitVec 8)) (word : BitVec w) :
    crc g data = word ↔ generator g ∣ X ^ w * message data + word.poly := by
  have hdvd : generator g ∣ X ^ w * message data - (crc g data).poly :=
    dvd_foldl hw data (by simp [BitVec.poly_zero])
  constructor
  · rintro rfl
    rwa [CharTwo.sub_eq_add] at hdvd
  · intro h
    refine eq_of_dvd (g := g) ?_
    have hsplit : (crc g data).poly - word.poly =
        (X ^ w * message data + word.poly) - (X ^ w * message data - (crc g data).poly) -
          (word.poly + word.poly) := by ring
    rw [hsplit, CharTwo.add_self_eq_zero, sub_zero]
    exact dvd_sub h hdvd

/-- The frame is a multiple of the generator. -/
def Valid (g : BitVec w) (frame : List (BitVec 8)) : Prop := generator g ∣ message frame

/-- The generator has no factor `X`. -/
theorem isCoprime_X_pow (hodd : (generator g).coeff 0 ≠ 0) (c : ℕ) :
    IsCoprime (generator g) (X ^ c) := by
  have hX : ¬ X ∣ generator g := mt X_dvd_iff.1 hodd
  have hprime : Irreducible (X : (ZMod 2)[X]) := irreducible_X
  have hcoprime : IsCoprime X (generator g) := hprime.coprime_iff_not_dvd.2 hX
  exact hcoprime.symm.pow_right

/-- A short burst is no multiple. -/
theorem not_dvd_burst (hodd : (generator g).coeff 0 ≠ 0) {bits : List Bool}
    (h : IsBurst w bits) : ¬ generator g ∣ bitPoly bits := by
  obtain ⟨a, mid, c, rfl, hlength, htrue⟩ := h.shape
  rw [bitPoly_append, bitPoly_append, bitPoly_replicate_false, bitPoly_replicate_false, mul_zero,
    zero_add, add_zero, List.length_replicate]
  intro hdvd
  have hmid : generator g ∣ bitPoly mid := (isCoprime_X_pow hodd c).dvd_of_dvd_mul_left hdvd
  refine bitPoly_ne_zero htrue (eq_zero_of_dvd_of_degree_lt hmid ?_)
  rw [degree_generator]
  exact (degree_bitPoly_lt mid).trans_le (WithBot.coe_le_coe.2 hlength)

theorem poly_one (hw : 0 < w) : (1#w).poly = 1 := by
  ext i
  rw [BitVec.coeff_poly, coeff_one, BitVec.getLsbD_one]
  simp [hw, eq_comm]

/-- The register, started at 1, holds the powers of `X`. -/
theorem dvd_pow_add_one (hw : 0 < w) {k : ℕ} (h : generator g ∣ X ^ k + 1) :
    (step g)^[k] 1#w = 1#w := by
  have hstep : generator g ∣ X ^ k * (1#w).poly - ((step g)^[k] 1#w).poly := dvd_iterate k _
  rw [poly_one hw, mul_one] at hstep
  refine eq_of_dvd (g := g) ?_
  have hsplit : ((step g)^[k] 1#w).poly - (1#w).poly =
      (X ^ k + 1) - (X ^ k - ((step g)^[k] 1#w).poly) - (1 + 1) := by
    rw [poly_one hw]
    ring
  rw [hsplit, CharTwo.add_self_eq_zero, sub_zero]
  exact dvd_sub h hstep

/-- Two bits are no multiple before the register comes back. -/
theorem not_dvd_twoBits (hw : 0 < w) (hodd : (generator g).coeff 0 ≠ 0) {bits : List Bool} {n : ℕ}
    (hlength : bits.length ≤ n) (hperiod : ∀ k, 0 < k → k < n → (step g)^[k] 1#w ≠ 1#w)
    (h : IsTwoBits bits) : ¬ generator g ∣ bitPoly bits := by
  obtain ⟨a, b, c, rfl⟩ := h.shape
  have hpoly : bitPoly (List.replicate a false ++
      true :: (List.replicate b false ++ true :: List.replicate c false)) =
        X ^ c * (X ^ (b + 1) + 1) := by
    rw [bitPoly_append, bitPoly_replicate_false, bitPoly_cons, bitPoly_append,
      bitPoly_replicate_false, bitPoly_cons, bitPoly_replicate_false]
    simp only [List.length_append, List.length_cons, List.length_replicate, if_true]
    ring
  rw [hpoly]
  intro hdvd
  have hback := dvd_pow_add_one hw ((isCoprime_X_pow hodd c).dvd_of_dvd_mul_left hdvd)
  refine hperiod (b + 1) (Nat.succ_pos b) ?_ hback
  simp only [List.length_append, List.length_cons, List.length_replicate] at hlength
  omega

/-- The register is not at `one` now nor in the next steps. -/
def awayFrom (g one : BitVec w) : ℕ → BitVec w → Bool
  | 0, _ => true
  | n + 1, r => r != one && awayFrom g one n (step g r)

theorem ne_of_awayFrom {one r : BitVec w} {n k : ℕ} (h : awayFrom g one n r = true) (hk : k < n) :
    (step g)^[k] r ≠ one := by
  induction n generalizing r k with
  | zero => cases hk
  | succ n ih =>
    rw [awayFrom, Bool.and_eq_true, bne_iff_ne] at h
    cases k with
    | zero => exact h.1
    | succ k =>
      rw [Function.iterate_succ_apply]
      exact ih h.2 (Nat.lt_of_succ_lt_succ hk)

/-- **The errors that are found**: a frame of the same length that differs from a valid one in a
short burst or in two bits is not valid. -/
theorem not_valid_of_changed (hw : 0 < w) (hodd : (generator g).coeff 0 ≠ 0)
    {frame frame' : List (BitVec 8)} (hvalid : Valid g frame)
    (hlength : frame'.length = frame.length)
    (hperiod : awayFrom g 1#w (8 * frame.length - 1) (step g 1#w) = true)
    (h : IsBurst w (changedBits frame frame') ∨ IsTwoBits (changedBits frame frame')) :
    ¬ Valid g frame' := by
  have hwire : (wireBits frame).length = (wireBits frame').length := by
    rw [length_wireBits, length_wireBits, hlength]
  intro hvalid'
  have hdvd : generator g ∣ bitPoly (changedBits frame frame') := by
    rw [changedBits, bitPoly_zipWith_xor hwire, ← message_eq, ← message_eq]
    exact dvd_add hvalid hvalid'
  rcases h with hburst | htwo
  · exact not_dvd_burst hodd hburst hdvd
  · have hback : ∀ k, 0 < k → k < 8 * frame.length → (step g)^[k] 1#w ≠ 1#w := by
      intro k hpos hk
      obtain ⟨k, rfl⟩ := Nat.exists_eq_succ_of_ne_zero hpos.ne'
      rw [Function.iterate_succ_apply]
      exact ne_of_awayFrom hperiod (by omega)
    refine not_dvd_twoBits hw hodd ?_ hback htwo hdvd
    rw [changedBits, List.length_zipWith, ← hwire, Nat.min_self, length_wireBits]

end Crc
