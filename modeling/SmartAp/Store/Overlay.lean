import SmartAp.Store.Words

/-!
# A memory in blocks

A memory is read and written in blocks of `b` bytes. `blockAt` takes one out and `overlay` lays one
over the memory, so that a memory of which one block is held in a buffer is `overlay` of the two.
The lemmas say how the operations compose: laying a block back where it was taken changes nothing,
the last of two blocks at one place is seen, and a byte changed in the buffer is a byte changed in
the memory (`overlay_update`).
-/

variable {b : ℕ}

/-- Block `k` of the memory, by offset. -/
def blockAt (b : ℕ) (m : Memory) (k : ℕ) : Memory := fun i ↦ m (k * b + i)

/-- The memory with `w` for its block `k`. -/
def overlay (b : ℕ) (m : Memory) (k : ℕ) (w : Memory) : Memory :=
  fun a ↦ if a / b = k then w (a % b) else m a

/-- The block of an address. -/
theorem mul_add_div_of_lt (k : ℕ) {i : ℕ} (hi : i < b) : (k * b + i) / b = k := by
  rw [Nat.mul_comm, Nat.mul_add_div (Nat.zero_lt_of_lt hi), Nat.div_eq_of_lt hi, Nat.add_zero]

theorem overlay_of_eq (m w : Memory) {k a : ℕ} (h : a / b = k) : overlay b m k w a = w (a % b) :=
  if_pos h

theorem overlay_of_ne (m w : Memory) {k a : ℕ} (h : a / b ≠ k) : overlay b m k w a = m a := if_neg h

/-- The byte at offset `i` of the block. -/
theorem overlay_mul_add (m w : Memory) (k : ℕ) {i : ℕ} (hi : i < b) :
    overlay b m k w (k * b + i) = w i := by
  rw [overlay_of_eq _ _ (mul_add_div_of_lt k hi), Nat.mul_add_mod_self_right, Nat.mod_eq_of_lt hi]

theorem overlay_blockAt (m : Memory) (k : ℕ) : overlay b m k (blockAt b m k) = m := by
  funext a
  by_cases h : a / b = k
  · rw [overlay_of_eq _ _ h, blockAt, ← h, Nat.div_add_mod']
  · exact overlay_of_ne _ _ h

@[simp] theorem overlay_overlay (m w w' : Memory) (k : ℕ) :
    overlay b (overlay b m k w) k w' = overlay b m k w' := by
  funext a
  by_cases h : a / b = k
  · rw [overlay_of_eq _ _ h, overlay_of_eq _ _ h]
  · rw [overlay_of_ne _ _ h, overlay_of_ne _ _ h, overlay_of_ne _ _ h]

/-- **A byte changed in the block is a byte changed in the memory.** -/
theorem overlay_update (m w : Memory) (k : ℕ) {i : ℕ} (hi : i < b) (v : UInt8) :
    overlay b m k (Function.update w i v) = Function.update (overlay b m k w) (k * b + i) v := by
  funext a
  by_cases hk : a / b = k
  · by_cases ha : a = k * b + i
    · rw [ha, overlay_mul_add _ _ _ hi, Function.update_self, Function.update_self]
    · have hoff : a % b ≠ i := fun h ↦ ha (by rw [← hk, ← h, Nat.div_add_mod'])
      rw [Function.update_of_ne ha, overlay_of_eq _ _ hk, overlay_of_eq _ _ hk,
        Function.update_of_ne hoff]
  · have ha : a ≠ k * b + i := by
      rintro rfl
      exact hk (mul_add_div_of_lt k hi)
    rw [Function.update_of_ne ha, overlay_of_ne _ _ hk, overlay_of_ne _ _ hk]

/-- **A word stored in the block is a word stored in the memory.** -/
theorem overlay_storeWord (m w : Memory) (k : ℕ) {i n : ℕ} (hi : i + n ≤ b) (v : ℕ) :
    overlay b m k (storeWord w i n v) = storeWord (overlay b m k w) (k * b + i) n v := by
  induction n generalizing i v with
  | zero => rfl
  | succ n ih =>
    rw [storeWord, overlay_update _ _ _ (by omega), ih (by omega), storeWord, Nat.add_assoc]

/-- A word read in the block is a word of the memory. -/
theorem loadWord_overlay (m w : Memory) (k : ℕ) {i n : ℕ} (hi : i + n ≤ b) :
    loadWord (overlay b m k w) (k * b + i) n = loadWord w i n := by
  rw [← loadWord_shift]
  exact loadWord_congr fun j hj ↦ by
    rw [overlay_mul_add _ _ _ (by omega)]

/-! ### Several blocks -/

/-- The memory with `w` for the `n` blocks from block `k` on. -/
def overlayBlocks (b : ℕ) (m : Memory) (k n : ℕ) (w : Memory) : Memory :=
  fun a ↦ if k ≤ a / b ∧ a / b < k + n then w (a - k * b) else m a

theorem overlayBlocks_of_mem (m w : Memory) {k n a : ℕ} (h : k ≤ a / b ∧ a / b < k + n) :
    overlayBlocks b m k n w a = w (a - k * b) := if_pos h

theorem overlayBlocks_of_notMem (m w : Memory) {k n a : ℕ} (h : ¬ (k ≤ a / b ∧ a / b < k + n)) :
    overlayBlocks b m k n w a = m a := if_neg h

/-- Outside of the blocks, the memory below is seen. -/
theorem overlayBlocks_apply_congr {m m' : Memory} {a : ℕ} (k n : ℕ) (w : Memory)
    (h : m a = m' a) : overlayBlocks b m k n w a = overlayBlocks b m' k n w a := by
  by_cases hin : k ≤ a / b ∧ a / b < k + n
  · rw [overlayBlocks_of_mem _ _ hin, overlayBlocks_of_mem _ _ hin]
  · rw [overlayBlocks_of_notMem _ _ hin, overlayBlocks_of_notMem _ _ hin, h]

/-- One block. -/
theorem overlayBlocks_one (m : Memory) (k : ℕ) (w : Memory) :
    overlayBlocks b m k 1 w = overlay b m k w := by
  funext a
  by_cases hk : a / b = k
  · have hoff : a - k * b = a % b := by
      rw [← hk, Nat.mul_comm, Nat.mod_eq_sub_mul_div]
    rw [overlayBlocks_of_mem _ _ ⟨Nat.le_of_eq hk.symm, by omega⟩, overlay_of_eq _ _ hk, hoff]
  · rw [overlayBlocks_of_notMem _ _ (by omega), overlay_of_ne _ _ hk]
