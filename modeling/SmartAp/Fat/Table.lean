import SmartAp.Fat.Window
import Mathlib.Tactic.SplitIfs

/-!
# The file allocation table

`get_fat` and `put_fat` of `ff.c`, which read and change the entry of one cluster through the
window. An entry has 12, 16 or 32 bits. One of 12 bits shares a byte with its neighbour, and it can
lie across two sectors, so that the window moves between its two bytes.

## From bytes to a table

Three levels, each connected to the one below:

* `getFat` and `putFat` are the code, on the window and the disk behind it;
* `fatEntry g m c` is what the entry of cluster `c` says in the memory `m` that the window shows,
  and `storeEntry` the memory with another value there (`fatEntry_storeEntry`,
  `fatEntry_storeEntry_of_ne`, `storeEntry_apply_of_notMem`: the entry, the others, and the bytes
  outside of it);
* `FatOf g m₀ m T` says that `m` is the memory `m₀` with the table `T` for its FAT, and `TableShows`
  that the window shows such a memory. On this level the two functions are a lookup and an update
  (`getFat_spec`, `putFat_spec`), and bytes do not occur any more.

## Errors of the disk

Any call of the disk may fail. A `get_fat` that fails returns `0xFFFFFFFF`, which no entry can be. A
`put_fat` that fails leaves its own entry undefined at worst (`PutTable.failed`): of an entry of 12
bits across two sectors one byte may be stored and the other not. Every other entry stays, so what
is known of the table is lost for one cluster only, and `runFatCalls_refines` says this of any calls
one after the other.

The four reserved bits of an entry of 32 bits are kept by `put_fat`, and `fatReserved` is the part
of `FatOf` that says so. What must be true of the layout is in `FatGeometry.FatSound`: the entries
lie in the FAT, and the FAT before the end of the disk's numbers. Mounting establishes it.
-/

/-! ### Words of the sectors -/

def ld16 (p : Memory) (o : ℕ) : ℕ := (p (o + 1)).toNat <<< 8 ||| (p o).toNat

def ld32 (p : Memory) (o : ℕ) : ℕ :=
  (((p (o + 3)).toNat <<< 8 ||| (p (o + 2)).toNat) <<< 8 ||| (p (o + 1)).toNat) <<< 8 |||
    (p o).toNat

def st16 (p : Memory) (o val : ℕ) : Memory :=
  Function.update (Function.update p o (UInt8.ofNat val)) (o + 1) (UInt8.ofNat (val >>> 8))

def st32 (p : Memory) (o val : ℕ) : Memory :=
  Function.update (Function.update (Function.update (Function.update p o (UInt8.ofNat val)) (o + 1)
    (UInt8.ofNat (val >>> 8))) (o + 2) (UInt8.ofNat (val >>> 16))) (o + 3)
      (UInt8.ofNat (val >>> 24))

theorem shiftLeft_or_toNat (n : ℕ) (b : UInt8) : n <<< 8 ||| b.toNat = b.toNat + 256 * n := by
  rw [← Nat.shiftLeft_add_eq_or_of_lt b.toNat_lt, Nat.shiftLeft_eq]
  omega

theorem ld16_eq (p : Memory) (o : ℕ) : ld16 p o = loadWord p o 2 := by
  rw [ld16, shiftLeft_or_toNat]
  rfl

theorem ld32_eq (p : Memory) (o : ℕ) : ld32 p o = loadWord p o 4 := by
  rw [ld32, shiftLeft_or_toNat, shiftLeft_or_toNat, shiftLeft_or_toNat]
  rfl

theorem st16_eq (p : Memory) (o val : ℕ) : st16 p o val = storeWord p o 2 val := by
  rw [st16, Function.update_comm (Nat.succ_ne_self o).symm, Nat.shiftRight_eq_div_pow]
  rfl

theorem st32_eq (p : Memory) (o val : ℕ) : st32 p o val = storeWord p o 4 val := by
  have h16 : val >>> 16 = val / 256 / 256 := by
    rw [Nat.shiftRight_eq_div_pow, Nat.div_div_eq_div_mul]
  have h24 : val >>> 24 = val / 256 / 256 / 256 := by
    rw [Nat.shiftRight_eq_div_pow, Nat.div_div_eq_div_mul, Nat.div_div_eq_div_mul]
  rw [st32, h16, h24, Nat.shiftRight_eq_div_pow]
  funext x
  simp only [storeWord, Function.update_apply, Nat.add_assoc, Nat.reduceAdd, Nat.reducePow]
  split_ifs <;> first | rfl | omega

/-! ### The functions -/

/-- `get_fat` returns this after an error of the disk. -/
def fatDiskError : ℕ := 0xFFFFFFFF

section

variable (g : FatGeometry)

/-- The cluster numbers that have an entry for a cluster. -/
def FatGeometry.Valid (c : ℕ) : Prop := 2 ≤ c ∧ c < g.nFatent

instance (c : ℕ) : Decidable (g.Valid c) := inferInstanceAs (Decidable (_ ∧ _))

/-- `get_fat`. -/
def getFat (clst : ℕ) : WinM ℕ :=
  if clst < 2 ∨ g.nFatent ≤ clst then return 1
  else match g.fsType with
  | .fat12 => do
    let bc := clst + clst / 2
    let res ← moveWindow g (g.fatbase + bc / 512)
    if res ≠ .ok then return fatDiskError
    else
      let s ← get
      let wc := (s.win (bc % 512)).toNat
      let bc := bc + 1
      let res ← moveWindow g (g.fatbase + bc / 512)
      if res ≠ .ok then return fatDiskError
      else
        let s ← get
        let wc := wc ||| (s.win (bc % 512)).toNat <<< 8
        return if clst % 2 = 1 then wc >>> 4 else wc &&& 0xFFF
  | .fat16 => do
    let res ← moveWindow g (g.fatbase + clst / (512 / 2))
    if res ≠ .ok then return fatDiskError
    else
      let s ← get
      return ld16 s.win (clst * 2 % 512)
  | .fat32 => do
    let res ← moveWindow g (g.fatbase + clst / (512 / 4))
    if res ≠ .ok then return fatDiskError
    else
      let s ← get
      return ld32 s.win (clst * 4 % 512) &&& 0x0FFFFFFF

/-- The first byte of an entry of 12 bits, when `p` stands there. -/
def firstByte12 (clst val : ℕ) (p : UInt8) : UInt8 :=
  if clst % 2 = 1 then (p &&& (0x0F : UInt8)) ||| (UInt8.ofNat val <<< (4 : UInt8)) else UInt8.ofNat val

/-- The second byte. -/
def secondByte12 (clst val : ℕ) (p : UInt8) : UInt8 :=
  if clst % 2 = 1 then UInt8.ofNat (val >>> 4)
  else (p &&& (0xF0 : UInt8)) ||| (UInt8.ofNat (val >>> 8) &&& (0x0F : UInt8))

/-- `*p = ..., fs->wflag = 1`, for the byte at offset `o` of the window. -/
def editByte (o : ℕ) (f : UInt8 → UInt8) (s : FatWindow) : FatWindow :=
  { s with win := Function.update s.win o (f (s.win o)), wflag := true }

/-- `put_fat`. -/
def putFat (clst val : ℕ) : WinM FResult :=
  if 2 ≤ clst ∧ clst < g.nFatent then
    match g.fsType with
    | .fat12 => do
      let bc := clst + clst / 2
      let res ← moveWindow g (g.fatbase + bc / 512)
      if res ≠ .ok then return res
      else
        modify (editByte (bc % 512) (firstByte12 clst val))
        let bc := bc + 1
        let res ← moveWindow g (g.fatbase + bc / 512)
        if res ≠ .ok then return res
        else
          modify (editByte (bc % 512) (secondByte12 clst val))
          return res
    | .fat16 => do
      let res ← moveWindow g (g.fatbase + clst / (512 / 2))
      if res ≠ .ok then return res
      else
        modify fun s ↦ { s with win := st16 s.win (clst * 2 % 512) val, wflag := true }
        return res
    | .fat32 => do
      let res ← moveWindow g (g.fatbase + clst / (512 / 4))
      if res ≠ .ok then return res
      else
        modify fun s ↦ { s with
          win := st32 s.win (clst * 4 % 512)
            ((val &&& 0x0FFFFFFF) ||| (ld32 s.win (clst * 4 % 512) &&& 0xF0000000))
          wflag := true }
        return res
  else return .intErr

/-! ### The table in the memory -/

/-- The address of the entry of a cluster. -/
def FatGeometry.entryAt (c : ℕ) : ℕ :=
  g.fatbase * 512 + match g.fsType with
    | .fat12 => c + c / 2
    | .fat16 => c * 2
    | .fat32 => c * 4

/-- How many bytes it touches. -/
def FatGeometry.entryBytes : ℕ :=
  match g.fsType with
  | .fat12 => 2
  | .fat16 => 2
  | .fat32 => 4

/-- The values that an entry can have. -/
def FatGeometry.entryRange : ℕ :=
  match g.fsType with
  | .fat12 => 0x1000
  | .fat16 => 0x10000
  | .fat32 => 0x10000000

/-- **What the entry of a cluster says.** -/
def fatEntry (m : Memory) (c : ℕ) : ℕ :=
  match g.fsType with
  | .fat12 =>
    if c % 2 = 1 then loadWord m (g.entryAt c) 2 / 16 else loadWord m (g.entryAt c) 2 % 0x1000
  | .fat16 => loadWord m (g.entryAt c) 2
  | .fat32 => loadWord m (g.entryAt c) 4 % 0x10000000

/-- The bits of an entry that are reserved: the upper four of 32. -/
def fatReserved (m : Memory) (c : ℕ) : ℕ :=
  match g.fsType with
  | .fat12 => 0
  | .fat16 => 0
  | .fat32 => loadWord m (g.entryAt c) 4 / 0x10000000

/-- The memory with the first byte of an entry of 12 bits at address `a` changed. -/
def storeFirst12 (m : Memory) (a c val : ℕ) : Memory :=
  Function.update m a (firstByte12 c val (m a))

/-- The second byte changed. -/
def storeSecond12 (m : Memory) (a c val : ℕ) : Memory :=
  Function.update m (a + 1) (secondByte12 c val (m (a + 1)))

/-- The memory with another value for the entry of a cluster. -/
def storeEntry (m : Memory) (c val : ℕ) : Memory :=
  match g.fsType with
  | .fat12 => storeSecond12 (storeFirst12 m (g.entryAt c) c val) (g.entryAt c) c val
  | .fat16 => storeWord m (g.entryAt c) 2 val
  | .fat32 => storeWord m (g.entryAt c) 4 (val % 0x10000000 + 0x10000000 * fatReserved g m c)

/-- The bytes that `n` entries need. -/
def FatType.bytes (n : ℕ) : FatType → ℕ
  | .fat12 => n * 3 / 2 + n % 2
  | .fat16 => n * 2
  | .fat32 => n * 4

/-- The entries lie in the FAT. -/
structure FatGeometry.FatSound : Prop extends g.FatsPlaced where
  covers : g.fsType.bytes g.nFatent ≤ g.fsize * 512

end

/-! ### Masks -/

theorem and_low28 (n : ℕ) : n &&& 0x0FFFFFFF = n % 0x10000000 :=
  Nat.and_two_pow_sub_one_eq_mod n 28

theorem and_low12 (n : ℕ) : n &&& 0xFFF = n % 0x1000 := Nat.and_two_pow_sub_one_eq_mod n 12

theorem and_low4 (n : ℕ) : n &&& 0x0F = n % 16 := Nat.and_two_pow_sub_one_eq_mod n 4

/-- Four bits of a word, the lowest `k` bits cleared. -/
theorem and_high4 {n : ℕ} (k : ℕ) (hn : n < 2 ^ (k + 4)) :
    n &&& 15 <<< k = n / 2 ^ k * 2 ^ k := by
  refine Nat.eq_of_testBit_eq fun i ↦ ?_
  have h15 : ∀ j, Nat.testBit 15 j = decide (j < 4) := Nat.testBit_two_pow_sub_one (n := 4)
  rw [Nat.testBit_and, Nat.testBit_shiftLeft, h15, ← Nat.shiftLeft_eq, Nat.testBit_shiftLeft,
    ← Nat.shiftRight_eq_div_pow, Nat.testBit_shiftRight]
  by_cases hk : k ≤ i
  · by_cases hi : i - k < 4
    · simp [hk, hi]
    · have hlarge : n.testBit i = false :=
        Nat.testBit_lt_two_pow (Nat.lt_of_lt_of_le hn (Nat.pow_le_pow_right (by omega) (by omega)))
      simp [hk, hlarge]
  · simp [hk]

/-- A half byte laid over the other half. -/
theorem or_shiftLeft4 {a b : ℕ} (ha : a < 16) : a ||| b <<< 4 = a + 16 * b := by
  rw [Nat.or_comm, ← Nat.shiftLeft_add_eq_or_of_lt (by omega : a < 2 ^ 4), Nat.shiftLeft_eq]
  omega

/-- The lower 28 bits of one word and the upper four of another. -/
theorem merge28 (val : ℕ) {w : ℕ} (hw : w < 0x100000000) :
    (val &&& 0x0FFFFFFF) ||| (w &&& 0xF0000000) =
      val % 0x10000000 + 0x10000000 * (w / 0x10000000) := by
  have hhigh : w &&& 0xF0000000 = (w / 0x10000000) <<< 28 := by
    rw [Nat.shiftLeft_eq]
    exact and_high4 28 hw
  have hlow : val % 0x10000000 < 2 ^ 28 := Nat.mod_lt val (by decide)
  rw [and_low28, hhigh, Nat.or_comm, ← Nat.shiftLeft_add_eq_or_of_lt hlow, Nat.shiftLeft_eq]
  omega

/-- The first byte of a FAT12 entry: four bits or eight, by the parity of the cluster. -/
theorem firstByte12_toNat (c val : ℕ) (p : UInt8) : (firstByte12 c val p).toNat =
    if c % 2 = 1 then p.toNat % 16 + 16 * (val % 16) else val % 256 := by
  rw [firstByte12]
  split
  · have hshift : (UInt8.ofNat val <<< (4 : UInt8)).toNat = (val % 16) <<< 4 := by
      rw [UInt8.toNat_shiftLeft, UInt8.toNat_ofNat', Nat.shiftLeft_eq, Nat.shiftLeft_eq]
      show val % 2 ^ 8 * 2 ^ 4 % 2 ^ 8 = val % 16 * 2 ^ 4
      omega
    have hlow : (p &&& (0x0F : UInt8)).toNat = p.toNat % 16 :=
      UInt8.toNat_and p 0x0F |>.trans (and_low4 _)
    rw [UInt8.toNat_or, hshift, hlow, or_shiftLeft4 (Nat.mod_lt _ (by decide))]
  · exact UInt8.toNat_ofNat'

/-- The second byte of a FAT12 entry: eight bits or four. -/
theorem secondByte12_toNat (c val : ℕ) (p : UInt8) : (secondByte12 c val p).toNat =
    if c % 2 = 1 then val / 16 % 256 else val / 256 % 16 + 16 * (p.toNat / 16) := by
  rw [secondByte12]
  split
  · rw [UInt8.toNat_ofNat', Nat.shiftRight_eq_div_pow]
  · have hhigh : (p &&& (0xF0 : UInt8)).toNat = (p.toNat / 16) <<< 4 := by
      rw [UInt8.toNat_and, Nat.shiftLeft_eq]
      exact and_high4 4 p.toNat_lt
    have hlow : (UInt8.ofNat (val >>> 8) &&& (0x0F : UInt8)).toNat = val / 256 % 16 := by
      rw [UInt8.toNat_and, UInt8.toNat_ofNat', Nat.shiftRight_eq_div_pow]
      refine (and_low4 _).trans ?_
      omega
    rw [UInt8.toNat_or, hhigh, hlow, Nat.or_comm, or_shiftLeft4 (Nat.mod_lt _ (by decide))]

/-! ### An entry stored -/

section Entries

variable {g : FatGeometry} {m : Memory} {c c' val : ℕ}

theorem loadWord_two (m : Memory) (a : ℕ) :
    loadWord m a 2 = (m a).toNat + 256 * (m (a + 1)).toNat := rfl

theorem entryAt_fat12 (h : g.fsType = .fat12) (c : ℕ) :
    g.entryAt c = g.fatbase * 512 + (c + c / 2) := by
  rw [FatGeometry.entryAt, h]

/-- A FAT12 entry is 12 bits of two bytes, the upper or the lower ones. -/
theorem fatEntry_fat12 (h : g.fsType = .fat12) (m : Memory) (c : ℕ) : fatEntry g m c =
    if c % 2 = 1 then (m (g.entryAt c)).toNat / 16 + 16 * (m (g.entryAt c + 1)).toNat
    else (m (g.entryAt c)).toNat + 256 * ((m (g.entryAt c + 1)).toNat % 16) := by
  have h₁ := (m (g.entryAt c)).toNat_lt
  simp only [fatEntry, h, loadWord_two]
  split <;> omega

/-- The first byte changed: the other entries stay. -/
theorem fatEntry_storeFirst12_of_ne (h : g.fsType = .fat12) (hc : c' ≠ c) :
    fatEntry g (storeFirst12 m (g.entryAt c) c val) c' = fatEntry g m c' := by
  have hp := (m (g.entryAt c)).toNat_lt
  rw [fatEntry_fat12 h, fatEntry_fat12 h, storeFirst12]
  have hat := entryAt_fat12 h c
  have hat' := entryAt_fat12 h c'
  have hne : g.entryAt c' ≠ g.entryAt c := by omega
  rw [Function.update_of_ne hne]
  by_cases hnext : g.entryAt c' + 1 = g.entryAt c
  · -- The entry before: it ends in the lower half of the byte.
    have hodd : c % 2 = 1 := by omega
    have heven : ¬ c' % 2 = 1 := by omega
    rw [hnext, Function.update_self, firstByte12_toNat, if_pos hodd, if_neg heven, if_neg heven]
    omega
  · rw [Function.update_of_ne hnext]

/-- The second byte changed: the other entries stay. -/
theorem fatEntry_storeSecond12_of_ne (h : g.fsType = .fat12) (hc : c' ≠ c) :
    fatEntry g (storeSecond12 m (g.entryAt c) c val) c' = fatEntry g m c' := by
  have hp := (m (g.entryAt c + 1)).toNat_lt
  rw [fatEntry_fat12 h, fatEntry_fat12 h, storeSecond12]
  have hat := entryAt_fat12 h c
  have hat' := entryAt_fat12 h c'
  have hne : g.entryAt c' + 1 ≠ g.entryAt c + 1 := by omega
  rw [Function.update_of_ne hne]
  by_cases hnext : g.entryAt c' = g.entryAt c + 1
  · -- The entry after: it begins in the upper half of the byte.
    have heven : ¬ c % 2 = 1 := by omega
    have hodd : c' % 2 = 1 := by omega
    rw [hnext, Function.update_self, secondByte12_toNat, if_neg heven, if_pos hodd, if_pos hodd]
    omega
  · rw [Function.update_of_ne hnext]

/-- **The entry has the value**, as far as it fits. -/
theorem fatEntry_storeEntry : fatEntry g (storeEntry g m c val) c = val % g.entryRange := by
  cases h : g.fsType with
  | fat12 =>
    have hp := (m (g.entryAt c)).toNat_lt
    rw [fatEntry_fat12 h]
    simp only [storeEntry, h, storeSecond12, storeFirst12, Function.update_self,
      Function.update_of_ne (Nat.succ_ne_self _).symm, Function.update_of_ne (Nat.succ_ne_self _),
      firstByte12_toNat, secondByte12_toNat, FatGeometry.entryRange]
    split <;> omega
  | fat16 =>
    simp only [fatEntry, storeEntry, h, loadWord_storeWord, FatGeometry.entryRange]
    rfl
  | fat32 =>
    simp only [fatEntry, storeEntry, h, loadWord_storeWord, FatGeometry.entryRange]
    omega

/-- An entry is less than the range of its kind of FAT. -/
theorem fatEntry_lt (g : FatGeometry) (m : Memory) (c : ℕ) : fatEntry g m c < g.entryRange := by
  rw [FatGeometry.entryRange]
  cases h : g.fsType with
  | fat12 =>
    have h₁ := (m (g.entryAt c)).toNat_lt
    have h₂ := (m (g.entryAt c + 1)).toNat_lt
    rw [fatEntry_fat12 h]
    split <;> simp only <;> omega
  | fat16 =>
    simp only [fatEntry, h]
    exact loadWord_lt m (g.entryAt c) 2
  | fat32 =>
    simp only [fatEntry, h]
    exact Nat.mod_lt _ (by decide)

theorem FatGeometry.entryRange_le (g : FatGeometry) : g.entryRange ≤ 0x10000000 := by
  rw [FatGeometry.entryRange]
  cases g.fsType <;> decide

/-- The reserved bits stay. -/
theorem fatReserved_storeEntry : fatReserved g (storeEntry g m c val) c' = fatReserved g m c' := by
  cases h : g.fsType with
  | fat12 => simp only [fatReserved, h]
  | fat16 => simp only [fatReserved, h]
  | fat32 =>
    have hat : ∀ c, g.entryAt c = g.fatbase * 512 + c * 4 := fun c ↦ by rw [FatGeometry.entryAt, h]
    simp only [fatReserved, storeEntry, h]
    by_cases hc : c' = c
    · have hlt := loadWord_lt m (g.entryAt c) 4
      rw [hc, loadWord_storeWord]
      omega
    · rw [loadWord_storeWord_of_disjoint]
      have := hat c
      have := hat c'
      omega

/-- **The other entries stay**, also the one in the same byte. -/
theorem fatEntry_storeEntry_of_ne (hc : c' ≠ c) :
    fatEntry g (storeEntry g m c val) c' = fatEntry g m c' := by
  cases h : g.fsType with
  | fat12 =>
    simp only [storeEntry, h]
    rw [fatEntry_storeSecond12_of_ne h hc, fatEntry_storeFirst12_of_ne h hc]
  | fat16 =>
    have hat : ∀ c, g.entryAt c = g.fatbase * 512 + c * 2 := fun c ↦ by rw [FatGeometry.entryAt, h]
    simp only [fatEntry, storeEntry, h]
    rw [loadWord_storeWord_of_disjoint]
    have := hat c
    have := hat c'
    omega
  | fat32 =>
    have hat : ∀ c, g.entryAt c = g.fatbase * 512 + c * 4 := fun c ↦ by rw [FatGeometry.entryAt, h]
    simp only [fatEntry, storeEntry, h]
    rw [loadWord_storeWord_of_disjoint]
    have := hat c
    have := hat c'
    omega

/-- A byte outside of the entry stays. -/
theorem storeEntry_apply_of_notMem {a : ℕ} (ha : a < g.entryAt c ∨ g.entryAt c + g.entryBytes ≤ a) :
    storeEntry g m c val a = m a := by
  cases h : g.fsType with
  | fat12 =>
    simp only [FatGeometry.entryBytes, h] at ha
    simp only [storeEntry, h, storeSecond12, storeFirst12]
    rw [Function.update_of_ne (by omega), Function.update_of_ne (by omega)]
  | fat16 =>
    simp only [FatGeometry.entryBytes, h] at ha
    simp only [storeEntry, h]
    exact storeWord_apply_of_notMem m _ ha
  | fat32 =>
    simp only [FatGeometry.entryBytes, h] at ha
    simp only [storeEntry, h]
    exact storeWord_apply_of_notMem m _ ha

/-- The entry of a cluster lies in the FAT. -/
theorem FatGeometry.FatSound.entry_inFat (hg : g.FatSound) (hc : c < g.nFatent) :
    g.fatbase * 512 ≤ g.entryAt c ∧ g.entryAt c + g.entryBytes ≤ (g.fatbase + g.fsize) * 512 := by
  have hcovers := hg.covers
  rw [FatGeometry.entryAt, FatGeometry.entryBytes]
  cases h : g.fsType <;> simp only [h, FatType.bytes] at hcovers ⊢ <;> omega

end Entries

/-! ### The functions on the memory -/

section Spec

variable {g : FatGeometry} {ρ : Prop} {m : Memory}

/-- The byte at an address of the FAT, when the window is there. -/
theorem Tracks.fat_byte (hg : g.FatsPlaced) {s : FatWindow} (h : Tracks g m s) {o : ℕ}
    (ho : o / 512 < g.fsize) (hs : s.winsect = g.fatbase + o / 512) :
    s.win (o % 512) = m (g.fatbase * 512 + o) := by
  have hdiv : (g.fatbase * 512 + o) / 512 = g.fatbase + o / 512 := by omega
  have hin : g.InFat ((g.fatbase * 512 + o) / 512) := by
    rw [hdiv]
    exact ⟨Nat.le_add_right _ _, Nat.add_lt_add_left ho _⟩
  have hmod : (g.fatbase * 512 + o) % 512 = o % 512 := by omega
  rw [← hmod, h.win_eq (hin.tracked hg) (hdiv.trans hs.symm)]

/-- A word there. -/
theorem Tracks.fat_word (hg : g.FatsPlaced) {s : FatWindow} (h : Tracks g m s) {o n : ℕ}
    (ho : o / 512 < g.fsize) (hs : s.winsect = g.fatbase + o / 512) (hn : o % 512 + n ≤ 512) :
    loadWord s.win (o % 512) n = loadWord m (g.fatbase * 512 + o) n := by
  have hshift : g.fatbase * 512 + o = g.fatbase * 512 + o / 512 * 512 + o % 512 := by omega
  rw [hshift, ← loadWord_shift]
  refine loadWord_congr fun i hi ↦ ?_
  have hbyte := h.fat_byte hg (o := o + i) (by omega) (by omega)
  have hmod : (o + i) % 512 = o % 512 + i := by omega
  have haddr : g.fatbase * 512 + (o + i) =
      g.fatbase * 512 + o / 512 * 512 + (o % 512 + i) := by omega
  rw [hmod, haddr] at hbyte
  exact hbyte

/-- Move the window, and go on if that worked. -/
theorem moveWindow_then {α : Type} (hg : g.FatsPlaced) (err : FResult → α) {k : ℕ}
    (hk : k ≤ noSector) {rest : FResult → WinM α} {Q : α → FatWindow → Prop}
    (herr : ∀ s, Shows g ρ m s → ¬ ρ → Q (err .diskErr) s)
    (hok : Triple (fun s ↦ Shows g ρ m s ∧ s.winsect = k) (rest .ok) Q) :
    Triple (Shows g ρ m)
      (moveWindow g k >>= fun res ↦ if res ≠ .ok then pure (err res) else rest res) Q := by
  refine .bind (moveWindow_spec hg m hk) fun res ↦ ?_
  rintro s ⟨h, ⟨rfl, hs⟩ | ⟨rfl, hρ⟩⟩
  · exact hok s ⟨h, hs⟩
  · exact herr s h hρ

/-- **`get_fat` reads the entry**; for a cluster without one it returns 1. -/
theorem getFat_spec (hg : g.FatSound) (m : Memory) (c : ℕ) :
    Triple (Shows g ρ m) (getFat g c) fun r s ↦ Shows g ρ m s ∧
      (r = (if g.Valid c then fatEntry g m c else 1) ∨ r = fatDiskError ∧ ¬ ρ) := by
  have hp := hg.toFatsPlaced
  refine .ite (fun hc ↦ .pure fun s h ↦ ⟨h, .inl ?_⟩) fun hc ↦ ?_
  · rw [if_neg]
    rintro ⟨h₁, h₂⟩
    omega
  have hvalid : g.Valid c := ⟨by omega, by omega⟩
  have hentry := hg.entry_inFat hvalid.2
  have hle := hp.first_le
  have herr : ∀ s, Shows g ρ m s → ¬ ρ → Shows g ρ m s ∧
      (fatDiskError = fatEntry g m c ∨ fatDiskError = fatDiskError ∧ ¬ ρ) :=
    fun s h hρ ↦ ⟨h, .inr ⟨rfl, hρ⟩⟩
  rw [if_pos hvalid]
  cases ht : g.fsType with
  | fat12 =>
    have hat := entryAt_fat12 ht c
    simp only [FatGeometry.entryBytes, ht] at hentry
    refine moveWindow_then hp (fun _ ↦ fatDiskError) (by omega) herr ?_
    refine triple_get_bind fun s hs ↦ ?_
    have hfirst := hs.1.fat_byte hp (by omega) hs.2
    refine .weaken (moveWindow_then hp (fun _ ↦ fatDiskError) (by omega) herr ?_)
      (fun t ht ↦ ht ▸ hs.1) fun _ _ h ↦ h
    refine triple_get_bind fun t ht' ↦ .pure ?_
    have hsecond := ht'.1.fat_byte hp (by omega) ht'.2
    rintro _ rfl
    refine ⟨ht'.1, .inl ?_⟩
    rw [hfirst, hsecond, ← Nat.add_assoc _ _ 1, ← hat, Nat.or_comm, shiftLeft_or_toNat, and_low12,
      Nat.shiftRight_eq_div_pow, fatEntry, ht, loadWord_two]
  | fat16 =>
    have hat : g.entryAt c = g.fatbase * 512 + c * 2 := by rw [FatGeometry.entryAt, ht]
    simp only [FatGeometry.entryBytes, ht] at hentry
    refine moveWindow_then hp (fun _ ↦ fatDiskError) (by omega) herr ?_
    refine triple_get_bind fun s hs ↦ .pure ?_
    rintro _ rfl
    refine ⟨hs.1, .inl ?_⟩
    rw [ld16_eq, hs.1.fat_word hp (by omega) (by omega) (by omega), fatEntry, ht, hat]
  | fat32 =>
    have hat : g.entryAt c = g.fatbase * 512 + c * 4 := by rw [FatGeometry.entryAt, ht]
    simp only [FatGeometry.entryBytes, ht] at hentry
    refine moveWindow_then hp (fun _ ↦ fatDiskError) (by omega) herr ?_
    refine triple_get_bind fun s hs ↦ .pure ?_
    rintro _ rfl
    refine ⟨hs.1, .inl ?_⟩
    rw [ld32_eq, and_low28, hs.1.fat_word hp (by omega) (by omega) (by omega), fatEntry, ht, hat]

/-- A change of the window, where the first FAT is. -/
theorem Shows.edited_fat (hg : g.FatsPlaced) {s : FatWindow} (h : Shows g ρ m s) {o : ℕ}
    (ho : o / 512 < g.fsize) (hs : s.winsect = g.fatbase + o / 512) (w : Memory) :
    Shows g ρ (overlay 512 m s.winsect w) { s with win := w, wflag := true } where
  toTracks := h.edited (hs ▸ FatGeometry.InFat.tracked hg
    ⟨Nat.le_add_right _ _, Nat.add_lt_add_left ho _⟩) w
  reliable := h.reliable
  mirrored := h.mirrored

/-- The memory is what its sector in the window says. -/
theorem Shows.overlay_win (hg : g.FatsPlaced) {s : FatWindow} (h : Shows g ρ m s) {o : ℕ}
    (ho : o / 512 < g.fsize) (hs : s.winsect = g.fatbase + o / 512) :
    overlay 512 m s.winsect s.win = m := by
  funext a
  by_cases ha : a / 512 = s.winsect
  · rw [overlay_of_eq _ _ ha]
    refine h.win_eq (ha ▸ hs ▸ FatGeometry.InFat.tracked hg ?_) ha
    exact ⟨Nat.le_add_right _ _, Nat.add_lt_add_left ho _⟩
  · exact overlay_of_ne _ _ ha

/-- A byte of the FAT changed. -/
theorem Shows.editByte (hg : g.FatsPlaced) {s : FatWindow} (h : Shows g ρ m s) {o : ℕ}
    (ho : o / 512 < g.fsize) (hs : s.winsect = g.fatbase + o / 512) (f : UInt8 → UInt8) :
    Shows g ρ (Function.update m (g.fatbase * 512 + o) (f (m (g.fatbase * 512 + o))))
      (editByte (o % 512) f s) := by
  have hedit := h.edited_fat hg ho hs (Function.update s.win (o % 512) (f (s.win (o % 512))))
  rw [overlay_update _ _ _ (Nat.mod_lt _ (by decide)), h.overlay_win hg ho hs,
    h.fat_byte hg ho hs] at hedit
  have haddr : s.winsect * 512 + o % 512 = g.fatbase * 512 + o := by
    rw [hs]
    omega
  rw [haddr, ← h.fat_byte hg ho hs] at hedit
  rw [← h.fat_byte hg ho hs]
  exact hedit

/-- A word of the FAT changed. -/
theorem Shows.editWord (hg : g.FatsPlaced) {s : FatWindow} (h : Shows g ρ m s) {o n : ℕ}
    (ho : o / 512 < g.fsize) (hs : s.winsect = g.fatbase + o / 512) (hn : o % 512 + n ≤ 512)
    (val : ℕ) :
    Shows g ρ (storeWord m (g.fatbase * 512 + o) n val)
      { s with win := storeWord s.win (o % 512) n val, wflag := true } := by
  have hedit := h.edited_fat hg ho hs (storeWord s.win (o % 512) n val)
  have haddr : s.winsect * 512 + o % 512 = g.fatbase * 512 + o := by
    rw [hs]
    omega
  rwa [overlay_storeWord _ _ _ hn, h.overlay_win hg ho hs, haddr] at hedit

/-- What `put_fat` has done when it returns. -/
inductive PutDone (g : FatGeometry) (ρ : Prop) (m : Memory) (c val : ℕ) :
    FResult → Memory → Prop
  | stored (hc : g.Valid c) : PutDone g ρ m c val .ok (storeEntry g m c val)
  | invalid (hc : ¬ g.Valid c) : PutDone g ρ m c val .intErr m
  | unread (hc : g.Valid c) (hρ : ¬ ρ) : PutDone g ρ m c val .diskErr m
  /-- The second byte of an entry in two sectors could not be reached. -/
  | half (hc : g.Valid c) (hρ : ¬ ρ) (ht : g.fsType = .fat12) :
    PutDone g ρ m c val .diskErr (storeFirst12 m (g.entryAt c) c val)

/-- **`put_fat` stores the entry**, or fails. -/
theorem putFat_spec (hg : g.FatSound) (m : Memory) (c val : ℕ) :
    Triple (Shows g ρ m) (putFat g c val) fun res s ↦
      ∃ m', PutDone g ρ m c val res m' ∧ Shows g ρ m' s := by
  have hp := hg.toFatsPlaced
  refine .ite (fun hc ↦ ?_) fun hc ↦ .pure fun s h ↦ ⟨m, .invalid hc, h⟩
  have hvalid : g.Valid c := hc
  have hentry := hg.entry_inFat hvalid.2
  have hle := hp.first_le
  have herr : ∀ s, Shows g ρ m s → ¬ ρ →
      ∃ m', PutDone g ρ m c val .diskErr m' ∧ Shows g ρ m' s :=
    fun s h hρ ↦ ⟨m, .unread hvalid hρ, h⟩
  cases ht : g.fsType with
  | fat12 =>
    have hat := entryAt_fat12 ht c
    simp only [FatGeometry.entryBytes, ht] at hentry
    refine moveWindow_then hp id (by omega) herr (triple_modify_bind ?_)
    have hfirst : ∀ s t, Shows g ρ m s ∧ s.winsect = g.fatbase + (c + c / 2) / 512 →
        t = editByte ((c + c / 2) % 512) (firstByte12 c val) s →
        Shows g ρ (storeFirst12 m (g.entryAt c) c val) t := by
      rintro s _ hs rfl
      rw [hat]
      exact hs.1.editByte hp (by omega) hs.2 _
    refine .weaken (moveWindow_then hp id (by omega) ?_ (triple_modify_bind (.pure ?_)))
      (fun t ⟨s, hs, ht⟩ ↦ hfirst s t hs ht) fun _ _ h ↦ h
    · exact fun s h hρ ↦ ⟨_, .half hvalid hρ ht, h⟩
    · rintro _ ⟨s, hs, rfl⟩
      refine ⟨_, .stored hvalid, ?_⟩
      have hsecond := hs.1.editByte hp (by omega) hs.2 (secondByte12 c val)
      simpa only [storeEntry, ht, storeSecond12, hat, Nat.add_assoc] using hsecond
  | fat16 =>
    have hat : g.entryAt c = g.fatbase * 512 + c * 2 := by rw [FatGeometry.entryAt, ht]
    simp only [FatGeometry.entryBytes, ht] at hentry
    refine moveWindow_then hp id (by omega) herr (triple_modify_bind (.pure ?_))
    rintro _ ⟨s, hs, rfl⟩
    refine ⟨_, .stored hvalid, ?_⟩
    have hword := hs.1.editWord hp (o := c * 2) (by omega) (by omega) (by omega : _ + 2 ≤ _) val
    rw [st16_eq]
    simpa only [storeEntry, ht, hat] using hword
  | fat32 =>
    have hat : g.entryAt c = g.fatbase * 512 + c * 4 := by rw [FatGeometry.entryAt, ht]
    simp only [FatGeometry.entryBytes, ht] at hentry
    refine moveWindow_then hp id (by omega) herr (triple_modify_bind (.pure ?_))
    rintro _ ⟨s, hs, rfl⟩
    refine ⟨_, .stored hvalid, ?_⟩
    rw [st32_eq, ld32_eq, hs.1.fat_word hp (o := c * 4) (by omega) (by omega) (by omega), ← hat,
      merge28 val (loadWord_lt m (g.entryAt c) 4)]
    have hword := hs.1.editWord hp (o := c * 4) (by omega) (by omega) (by omega : _ + 4 ≤ _)
      (val % 0x10000000 + 0x10000000 * fatReserved g m c)
    simpa only [storeEntry, fatReserved, ht, hat] using hword

/-! ### The functions on the table -/

/-- The memory `m₀` with the table `T` for its FAT. -/
structure FatOf (g : FatGeometry) (m₀ m : Memory) (T : ℕ → ℕ) : Prop where
  entry : ∀ c, g.Valid c → fatEntry g m c = T c
  /-- The first two entries, and what comes after the last. -/
  others : ∀ c, ¬ g.Valid c → fatEntry g m c = fatEntry g m₀ c
  reserved : ∀ c, fatReserved g m c = fatReserved g m₀ c
  outside : ∀ a, ¬ g.InFat (a / 512) → m a = m₀ a

/-- The volume is the memory `m₀` with the table `T` for its FAT. -/
def TableShows (g : FatGeometry) (ρ : Prop) (m₀ : Memory) (T : ℕ → ℕ) (s : FatWindow) : Prop :=
  ∃ m, Shows g ρ m s ∧ FatOf g m₀ m T

variable {m₀ : Memory} {T T' : ℕ → ℕ} {c : ℕ}

/-- The table that a memory has. -/
theorem FatOf.self (m : Memory) : FatOf g m m (fatEntry g m) :=
  ⟨fun _ _ ↦ rfl, fun _ _ ↦ rfl, fun _ ↦ rfl, fun _ _ ↦ rfl⟩

/-- A change inside one entry. -/
theorem FatOf.update (hg : g.FatSound) (h : FatOf g m₀ m T) (hc : g.Valid c) {m' : Memory}
    (hothers : ∀ c', c' ≠ c → fatEntry g m' c' = fatEntry g m c')
    (hreserved : ∀ c', fatReserved g m' c' = fatReserved g m c')
    (hbytes : ∀ a, a < g.entryAt c ∨ g.entryAt c + g.entryBytes ≤ a → m' a = m a) :
    FatOf g m₀ m' (Function.update T c (fatEntry g m' c)) where
  entry c' hc' := by
    by_cases he : c' = c
    · rw [he, Function.update_self]
    · rw [Function.update_of_ne he, hothers c' he, h.entry c' hc']
  others c' hc' := by rw [hothers c' fun he ↦ hc' (he ▸ hc), h.others c' hc']
  reserved c' := (hreserved c').trans (h.reserved c')
  outside a ha := by
    have hin := hg.entry_inFat hc.2
    rw [← h.outside a ha]
    refine hbytes a ?_
    by_contra hmem
    exact ha ⟨by omega, by omega⟩

/-- A stored entry is an update of the table. -/
theorem FatOf.store (hg : g.FatSound) (h : FatOf g m₀ m T) (hc : g.Valid c) (val : ℕ) :
    FatOf g m₀ (storeEntry g m c val) (Function.update T c (val % g.entryRange)) := by
  rw [← fatEntry_storeEntry (m := m) (c := c)]
  exact h.update hg hc (fun _ ↦ fatEntry_storeEntry_of_ne) (fun _ ↦ fatReserved_storeEntry)
    fun _ ↦ storeEntry_apply_of_notMem

/-- A FAT12 entry of which one byte was stored is a value of its own, the others stay. -/
theorem FatOf.storeFirst (hg : g.FatSound) (h : FatOf g m₀ m T) (hc : g.Valid c)
    (ht : g.fsType = .fat12) (val : ℕ) :
    FatOf g m₀ (storeFirst12 m (g.entryAt c) c val)
      (Function.update T c (fatEntry g (storeFirst12 m (g.entryAt c) c val) c)) := by
  refine h.update hg hc (fun _ ↦ fatEntry_storeFirst12_of_ne ht) (fun _ ↦ ?_) fun a ha ↦ ?_
  · simp only [fatReserved, ht]
  · simp only [FatGeometry.entryBytes, ht] at ha
    exact Function.update_of_ne (by omega) _ _

/-- `get_fat` as a lookup in the table. -/
def lookupFat (g : FatGeometry) (T : ℕ → ℕ) (c : ℕ) : ℕ := if g.Valid c then T c else 1

/-- The values of the table are entries. -/
theorem TableShows.lt_range {s : FatWindow} (h : TableShows g ρ m₀ T s) (hc : g.Valid c) :
    T c < g.entryRange := by
  obtain ⟨m, -, hm⟩ := h
  rw [← hm.entry c hc]
  exact fatEntry_lt g m c

/-- A lookup does not look like an error of the disk. -/
theorem TableShows.lookup_ne {s : FatWindow} (h : TableShows g ρ m₀ T s) (c : ℕ) :
    lookupFat g T c ≠ fatDiskError := by
  rw [lookupFat]
  split
  · rename_i hc
    have hlt := Nat.lt_of_lt_of_le (h.lt_range hc) g.entryRange_le
    rw [fatDiskError]
    omega
  · exact (by decide : 1 ≠ 0xFFFFFFFF)

/-- **`get_fat` is a lookup.** -/
theorem getFat_table (hg : g.FatSound) (m₀ : Memory) (T : ℕ → ℕ) (c : ℕ) :
    Triple (TableShows g ρ m₀ T) (getFat g c) fun r s ↦ TableShows g ρ m₀ T s ∧
      (r = lookupFat g T c ∨ r = fatDiskError ∧ ¬ ρ) := by
  rintro s ⟨m, hs, hm⟩
  obtain ⟨hshows, hres⟩ := getFat_spec hg m c s hs
  refine ⟨⟨m, hshows, hm⟩, hres.imp_left fun h ↦ ?_⟩
  rw [h, lookupFat]
  by_cases hc : g.Valid c
  · rw [if_pos hc, if_pos hc, hm.entry c hc]
  · rw [if_neg hc, if_neg hc]

/-- What `put_fat` has done to the table when it returns. -/
inductive PutTable (g : FatGeometry) (ρ : Prop) (T : ℕ → ℕ) (c val : ℕ) :
    FResult → (ℕ → ℕ) → Prop
  | stored (hc : g.Valid c) :
    PutTable g ρ T c val .ok (Function.update T c (val % g.entryRange))
  | invalid (hc : ¬ g.Valid c) : PutTable g ρ T c val .intErr T
  | failed (hc : g.Valid c) (hρ : ¬ ρ) (x : ℕ) :
    PutTable g ρ T c val .diskErr (Function.update T c x)

/-- **`put_fat` is an update**, or fails, and then its own entry is undefined. -/
theorem putFat_table (hg : g.FatSound) (m₀ : Memory) (T : ℕ → ℕ) (c val : ℕ) :
    Triple (TableShows g ρ m₀ T) (putFat g c val) fun res s ↦
      ∃ T', PutTable g ρ T c val res T' ∧ TableShows g ρ m₀ T' s := by
  rintro s ⟨m, hs, hm⟩
  obtain ⟨m', hput, hshows⟩ := putFat_spec hg m c val s hs
  generalize (putFat g c val s).1 = res at hput
  cases hput with
  | stored hc => exact ⟨_, .stored hc, _, hshows, hm.store hg hc val⟩
  | invalid hc => exact ⟨_, .invalid hc, _, hshows, hm⟩
  | unread hc hρ =>
    refine ⟨_, .failed hc hρ (T c), _, hshows, ?_⟩
    rwa [Function.update_eq_self]
  | half hc hρ ht => exact ⟨_, .failed hc hρ _, _, hshows, hm.storeFirst hg hc ht val⟩

/-! ### Runs -/

/-- A call of one of the two functions. -/
inductive FatCall
  | get (c : ℕ)
  | put (c val : ℕ)

/-- What it returns. -/
inductive FatReturn
  | entry (val : ℕ)
  | result (res : FResult)

def FatCall.run (g : FatGeometry) : FatCall → WinM FatReturn
  | .get c => do return .entry (← getFat g c)
  | .put c val => do return .result (← putFat g c val)

/-- Calls one after the other. -/
def runFatCalls (g : FatGeometry) : List FatCall → WinM (List FatReturn)
  | [] => return []
  | call :: calls => do
    let ret ← call.run g
    let rets ← runFatCalls g calls
    return ret :: rets

/-- A table, as it answers calls: what may be returned, and the table after it. -/
inductive TableStep (g : FatGeometry) (ρ : Prop) (T : ℕ → ℕ) :
    FatCall → FatReturn → (ℕ → ℕ) → Prop
  | get (c : ℕ) : TableStep g ρ T (.get c) (.entry (lookupFat g T c)) T
  | getFailed (c : ℕ) (hρ : ¬ ρ) : TableStep g ρ T (.get c) (.entry fatDiskError) T
  | put (c val : ℕ) {res : FResult} {T' : ℕ → ℕ} (h : PutTable g ρ T c val res T') :
    TableStep g ρ T (.put c val) (.result res) T'

/-- A run of a table. -/
inductive TableRun (g : FatGeometry) (ρ : Prop) :
    (ℕ → ℕ) → List FatCall → List FatReturn → (ℕ → ℕ) → Prop
  | nil (T : ℕ → ℕ) : TableRun g ρ T [] [] T
  | cons {T T₁ T' : ℕ → ℕ} {call : FatCall} {ret : FatReturn} {calls : List FatCall}
    {rets : List FatReturn} (h : TableStep g ρ T call ret T₁)
    (hrun : TableRun g ρ T₁ calls rets T') : TableRun g ρ T (call :: calls) (ret :: rets) T'

/-- A volume of 128 sectors, with two FATs of one sector. -/
def smallVolume : FatGeometry where
  fsType := .fat12
  nFats := 2
  csize := 1
  nRootdir := 16
  nFatent := 126
  fsize := 1
  volbase := 0
  fatbase := 1
  dirbase := 3
  database := 4

/-- The FAT of the volume of 128 sectors lies before its data. -/
theorem smallVolume_fatSound : smallVolume.FatSound where
  first_le := by decide
  second_le _ := by decide
  fsinfo_lt h := absurd h (by decide)
  covers := by decide

/-- One call is a step of the table. -/
theorem FatCall.run_step (hg : g.FatSound) (m₀ : Memory) (T : ℕ → ℕ) (call : FatCall) :
    Triple (TableShows g ρ m₀ T) (call.run g) fun ret s ↦
      ∃ T', TableStep g ρ T call ret T' ∧ TableShows g ρ m₀ T' s := by
  cases call with
  | get c =>
    refine .bind (getFat_table hg m₀ T c) fun r ↦ .pure ?_
    rintro s ⟨hs, rfl | ⟨rfl, hρ⟩⟩
    · exact ⟨T, .get c, hs⟩
    · exact ⟨T, .getFailed c hρ, hs⟩
  | put c val =>
    refine .bind (putFat_table hg m₀ T c val) fun res ↦ .pure ?_
    rintro s ⟨T', hput, hs⟩
    exact ⟨T', .put c val hput, hs⟩

/-- **The FAT behind the window is a table.** Any calls of `get_fat` and `put_fat`, with any errors
of the disk, return what a table of values returns; the rest of the volume stays as it was. -/
theorem runFatCalls_refines (hg : g.FatSound) (m₀ : Memory) (T : ℕ → ℕ) (calls : List FatCall) :
    Triple (TableShows g ρ m₀ T) (runFatCalls g calls) fun rets s ↦
      ∃ T', TableRun g ρ T calls rets T' ∧ TableShows g ρ m₀ T' s := by
  induction calls generalizing T with
  | nil => exact .pure fun s hs ↦ ⟨T, .nil T, hs⟩
  | cons call calls ih =>
    refine .bind (call.run_step hg m₀ T) fun ret ↦ ?_
    rintro s ⟨T₁, hstep, hs⟩
    obtain ⟨T', hrun, ht⟩ := ih T₁ s hs
    exact ⟨T', .cons hstep hrun, ht⟩

/-- An entry across two bytes is written and read back on an empty disk that never fails. -/
theorem runFatCalls_refines_small :
    ∃ T', TableRun smallVolume True (fatEntry smallVolume fun _ ↦ 0) [.put 5 0xABC, .get 5]
        (runFatCalls smallVolume [.put 5 0xABC, .get 5] (.empty ⟨fun _ ↦ 0, fun _ ↦ none⟩)).1 T' ∧
      TableShows smallVolume True (fun _ ↦ 0) T'
        (runFatCalls smallVolume [.put 5 0xABC, .get 5] (.empty ⟨fun _ ↦ 0, fun _ ↦ none⟩)).2 :=
  runFatCalls_refines smallVolume_fatSound (fun _ ↦ 0) (fatEntry smallVolume fun _ ↦ 0) _ _
    ⟨_, .empty smallVolume ⟨fun _ ↦ 0, fun _ ↦ none⟩ (fun _ _ ↦ rfl) (fun _ _ _ _ ↦ rfl),
      FatOf.self _⟩

end Spec
