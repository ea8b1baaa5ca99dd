import SmartAp.SdCard.Bus
import SmartAp.SdCard.Ioctl
import SmartAp.Bits.Fields
import Mathlib.Data.List.GetD
import Mathlib.Tactic.NormNum

/-!
# The geometry of the card

The fields of the CSD by their bits, what the specification computes from them, and what
`ff_sd_spi_ioctl` answers.

## Three definitions of one number

* The specification: the fields are slices of a number of 128 bits (`cSize`, `readBlLen`, ...), and
  `specSectorCount`, `specBlockSizeSd1` and `specBlockSizeMmc` are arithmetic on them, unbounded.
* The code: bytes, shifts and sums of 32 bits, in `SmartAp.SdCard.Driver` and
  `SmartAp.SdCard.Ioctl`.
* In between, what the code computes in terms of the fields (`decodeSectorCount_v1`,
  `decodeSectorCount_v2`, `decodeBlockSizeSd1_eq`, `decodeBlockSizeMmc_eq`).

The step from bytes to fields is done once for all fields (`csd_fields`), and the step from shifts
to products once for all shifts (`shiftDword_eq`). What is left are comparisons of numbers.

## Where they differ

The decoder departs from the specification in four places: the largest size of version 2 does not
fit 32 bits, the version is read off an MMC and off versions that do not exist, the exponent of the
erase block is taken from two bits of four, and two bits of the erase group are taken from the wrong
byte. An answer is right if it is exact, or an error that leaves `*buff` as it was (`ExactOrError`).
`geometry_exact_iff` is the exact condition for each of the three requests, over every host and
every CSD that arrives.
-/

/-! ### Fields -/

/-- `CSD_STRUCTURE` -/
def csdStructure (csd : List UInt8) : ℕ := bitField csd 127 126
/-- `READ_BL_LEN` -/
def readBlLen (csd : List UInt8) : ℕ := bitField csd 83 80
/-- `C_SIZE`, of twelve bits -/
def cSize (csd : List UInt8) : ℕ := bitField csd 73 62
/-- `C_SIZE_MULT` -/
def cSizeMult (csd : List UInt8) : ℕ := bitField csd 49 47
/-- `C_SIZE` of version 2, of 22 bits -/
def cSizeV2 (csd : List UInt8) : ℕ := bitField csd 69 48
/-- `SECTOR_SIZE` -/
def sectorSize (csd : List UInt8) : ℕ := bitField csd 45 39
/-- `WRITE_BL_LEN` -/
def writeBlLen (csd : List UInt8) : ℕ := bitField csd 25 22
/-- `ERASE_GRP_SIZE` -/
def eraseGrpSize (csd : List UInt8) : ℕ := bitField csd 46 42
/-- `ERASE_GRP_MULT` -/
def eraseGrpMult (csd : List UInt8) : ℕ := bitField csd 41 37

/-! ### The specification -/

/-- The number of sectors; other values of `CSD_STRUCTURE` have no meaning on an SD card. -/
def specSectorCount (sdc : Prop) [Decidable sdc] (csd : List UInt8) : Option ℕ :=
  if sdc ∧ csdStructure csd = 1 then some ((cSizeV2 csd + 1) * 1024)
  else if sdc ∧ csdStructure csd ≠ 0 then none
  else some ((cSize csd + 1) * 2 ^ (cSizeMult csd + 2) * 2 ^ readBlLen csd / 512)

/-- The erase block of an SD card of version 1, in sectors. -/
def specBlockSizeSd1 (csd : List UInt8) : Option ℕ :=
  if 9 ≤ writeBlLen csd then some ((sectorSize csd + 1) * 2 ^ (writeBlLen csd - 9)) else none

/-- The erase group of an MMC. -/
def specBlockSizeMmc (csd : List UInt8) : Option ℕ :=
  some ((eraseGrpSize csd + 1) * (eraseGrpMult csd + 1))

/-- The CSD arrives in a request. -/
structure CsdReceived {κ : Type} (port : SdPort κ) (pdrv : ℕ) (buff : Option (UInt32 × UInt32))
    (d : SdDriver κ) (csd : List UInt8) : Prop where
  drive : pdrv = 0
  initialised : d.stat.noInit = false
  taken : (port.takeMutex d.card).1 = true
  place : buff ≠ none
  arrived : (readCsd port { d with card := (port.takeMutex d.card).2 }).1 = some csd

/-- An error, and `*buff` stays as it was; or `RES_OK`, and `*buff` is the value that the
specification gives for the CSD. -/
def ExactOrError (received : List UInt8 → Prop) (spec : List UInt8 → Option ℕ)
    (out : DResult × Option IoctlValue) : Prop :=
  (out.1 ≠ .ok ∧ out.2 = none) ∨
    ∃ csd v, received csd ∧ out = (.ok, some (.dword v)) ∧ spec csd = some v.toNat

/-! ### Bytes -/

section Bytes

theorem toNat_low (b : UInt8) : (b &&& 3).toNat = b.toNat % 4 ∧ (b &&& 15).toNat = b.toNat % 16 ∧
    (b &&& 63).toNat = b.toNat % 64 :=
  ⟨Nat.and_two_pow_sub_one_eq_mod b.toNat 2, Nat.and_two_pow_sub_one_eq_mod b.toNat 4,
    Nat.and_two_pow_sub_one_eq_mod b.toNat 6⟩

theorem toNat_high (b : UInt8) : (b >>> 6).toNat = b.toNat / 64 := by
  rw [UInt8.toNat_shiftRight, Nat.shiftRight_eq_div_pow]
  rfl

theorem toNat_masked (b : UInt8) : ((b &&& 128) >>> 7).toNat = b.toNat / 128 ∧
    ((b &&& 124) >>> 2).toNat = b.toNat / 4 % 32 ∧ ((b &&& 224) >>> 5).toNat = b.toNat / 32 := by
  have hall : ∀ k < 256, (k &&& 128) >>> 7 = k / 128 ∧ (k &&& 124) >>> 2 = k / 4 % 32 ∧
      (k &&& 224) >>> 5 = k / 32 := by decide +kernel
  exact hall b.toNat b.toNat_lt

variable {csd : List UInt8} {i a b : ℕ}

theorem drop_eq_csdAt (h : i < csd.length) : csd.drop i = csdAt csd i :: csd.drop (i + 1) := by
  rw [List.drop_eq_getElem_cons h, csdAt, List.getD_eq_getElem csd 0 h]

/-- A field of one byte. -/
theorem field_one (h : csd.length = 16) (hi : i + 1 ≤ 16) (hab : b ≤ a) (ha : a < 8) :
    bitField csd (8 * (16 - (i + 1)) + a) (8 * (16 - (i + 1)) + b) =
      (csdAt csd i).toNat / 2 ^ b % 2 ^ (a + 1 - b) := by
  have hfield := bitField_bytes i 1 (h.symm ▸ hi) hab (by omega)
  rw [h, drop_eq_csdAt (by omega)] at hfield
  rw [hfield]
  simp [bitField, bigEndian]

/-- A field of two. -/
theorem field_two (h : csd.length = 16) (hi : i + 2 ≤ 16) (hab : b ≤ a) (ha : a < 16) :
    bitField csd (8 * (16 - (i + 2)) + a) (8 * (16 - (i + 2)) + b) =
      ((csdAt csd i).toNat * 256 + (csdAt csd (i + 1)).toNat) / 2 ^ b % 2 ^ (a + 1 - b) := by
  have hfield := bitField_bytes i 2 (h.symm ▸ hi) hab (by omega)
  rw [h, drop_eq_csdAt (by omega), drop_eq_csdAt (i := i + 1) (by omega)] at hfield
  rw [hfield]
  simp [bitField, bigEndian]

/-- A field of three. -/
theorem field_three (h : csd.length = 16) (hi : i + 3 ≤ 16) (hab : b ≤ a) (ha : a < 24) :
    bitField csd (8 * (16 - (i + 3)) + a) (8 * (16 - (i + 3)) + b) =
      (((csdAt csd i).toNat * 256 + (csdAt csd (i + 1)).toNat) * 256 +
        (csdAt csd (i + 2)).toNat) / 2 ^ b % 2 ^ (a + 1 - b) := by
  have hfield := bitField_bytes i 3 (h.symm ▸ hi) hab (by omega)
  rw [h, drop_eq_csdAt (by omega), drop_eq_csdAt (i := i + 1) (by omega),
    drop_eq_csdAt (i := i + 2) (by omega)] at hfield
  rw [hfield]
  simp [bitField, bigEndian]

/-- The fields, byte by byte. -/
theorem csd_fields (h : csd.length = 16) :
    csdStructure csd = (csdAt csd 0).toNat / 64 ∧ readBlLen csd = (csdAt csd 5).toNat % 16 ∧
      cSize csd = (csdAt csd 6).toNat % 4 * 1024 + (csdAt csd 7).toNat * 4 +
        (csdAt csd 8).toNat / 64 ∧
      cSizeMult csd = (csdAt csd 9).toNat % 4 * 2 + (csdAt csd 10).toNat / 128 ∧
      cSizeV2 csd = (csdAt csd 7).toNat % 64 * 65536 + (csdAt csd 8).toNat * 256 +
        (csdAt csd 9).toNat := by
  have hbyte : ∀ k, (csdAt csd k).toNat < 256 := fun k ↦ (csdAt csd k).toNat_lt
  have h0 := hbyte 0
  have h7 := hbyte 7
  have h8 := hbyte 8
  have h9 := hbyte 9
  have h10 := hbyte 10
  refine ⟨?_, ?_, ?_, ?_, ?_⟩
  · have hfield := field_one (i := 0) (a := 7) (b := 6) h (by decide) (by decide) (by decide)
    exact hfield.trans (by omega)
  · have hfield := field_one (i := 5) (a := 3) (b := 0) h (by decide) (by decide) (by decide)
    exact hfield.trans (by omega)
  · have hfield := field_three (i := 6) (a := 17) (b := 6) h (by decide) (by decide) (by decide)
    simp only [Nat.reduceAdd] at hfield
    exact hfield.trans (by omega)
  · have hfield := field_two (i := 9) (a := 9) (b := 7) h (by decide) (by decide) (by decide)
    simp only [Nat.reduceAdd] at hfield
    exact hfield.trans (by omega)
  · have hfield := field_three (i := 7) (a := 21) (b := 0) h (by decide) (by decide) (by decide)
    simp only [Nat.reduceAdd] at hfield
    exact hfield.trans (by omega)

theorem csd_erase_fields (h : csd.length = 16) :
    sectorSize csd = (csdAt csd 10).toNat % 64 * 2 + (csdAt csd 11).toNat / 128 ∧
      writeBlLen csd = (csdAt csd 12).toNat % 4 * 4 + (csdAt csd 13).toNat / 64 ∧
      eraseGrpSize csd = (csdAt csd 10).toNat / 4 % 32 ∧
      eraseGrpMult csd = (csdAt csd 10).toNat % 4 * 8 + (csdAt csd 11).toNat / 32 := by
  have hbyte : ∀ k, (csdAt csd k).toNat < 256 := fun k ↦ (csdAt csd k).toNat_lt
  have h10 := hbyte 10
  have h11 := hbyte 11
  have h13 := hbyte 13
  refine ⟨?_, ?_, ?_, ?_⟩
  · have hfield := field_two (i := 10) (a := 13) (b := 7) h (by decide) (by decide) (by decide)
    simp only [Nat.reduceAdd] at hfield
    exact hfield.trans (by omega)
  · have hfield := field_two (i := 12) (a := 9) (b := 6) h (by decide) (by decide) (by decide)
    simp only [Nat.reduceAdd] at hfield
    exact hfield.trans (by omega)
  · have hfield := field_one (i := 10) (a := 6) (b := 2) h (by decide) (by decide) (by decide)
    exact hfield.trans (by omega)
  · have hfield := field_two (i := 10) (a := 9) (b := 5) h (by decide) (by decide) (by decide)
    simp only [Nat.reduceAdd] at hfield
    exact hfield.trans (by omega)

end Bytes

/-! ### The decoder -/

section Decoder

variable {csd : List UInt8}

theorem toNat_dwordShift {x : UInt32} {k : UInt32} (hk : k.toNat < 32)
    (hfits : x.toNat * 2 ^ k.toNat < 2 ^ 32) : (x <<< k).toNat = x.toNat * 2 ^ k.toNat := by
  rw [UInt32.toNat_shiftLeft, Nat.mod_eq_of_lt hk, Nat.shiftLeft_eq, Nat.mod_eq_of_lt hfits]

/-- A shift that stays in range and in 32 bits is a product. -/
theorem shiftDword_eq {x : UInt32} {k : ℕ} (hk : k < 32) (hfits : x.toNat * 2 ^ k < 2 ^ 32) :
    ∃ v, shiftDword x k = .dword v ∧ v.toNat = x.toNat * 2 ^ k := by
  have hcount : (UInt32.ofNat k).toNat = k := UInt32.toNat_ofNat_of_lt' (by
    show k < 4294967296
    omega)
  refine ⟨x <<< UInt32.ofNat k, ?_, ?_⟩
  · rw [shiftDword, if_pos (by omega), Int.toNat_natCast]
  · rw [toNat_dwordShift (by omega) (by rwa [hcount]), hcount]

/-- The exponent of the block length, as the decoder adds it up. -/
def blockLenExp (csd : List UInt8) : ℕ := readBlLen csd + cSizeMult csd + 2

theorem csdStructure_eq_one_iff (h : csd.length = 16) :
    csdAt csd 0 >>> 6 = 1 ↔ csdStructure csd = 1 := by
  rw [(csd_fields h).1, ← toNat_high, ← UInt8.toNat_inj]
  rfl

/-- Version 2 of the CSD. -/
theorem decodeSectorCount_v2 (h : csd.length = 16) (hversion : csdStructure csd = 1) :
    ∃ v, decodeSectorCount csd = some (.dword v) ∧ v.toNat = (cSizeV2 csd + 1) * 1024 % 2 ^ 32 := by
  refine ⟨_, if_pos ((csdStructure_eq_one_iff h).2 hversion), ?_⟩
  have h7 := (csdAt csd 7).toNat_lt
  have h8 := (csdAt csd 8).toNat_lt
  have h9 := (csdAt csd 9).toNat_lt
  have hone : (1 : UInt32).toNat = 1 := rfl
  have hshift8 : ((csdAt csd 8).toUInt32 <<< (8 : UInt32)).toNat = (csdAt csd 8).toNat * 256 :=
    toNat_dwordShift (by decide) (by
      rw [UInt8.toNat_toUInt32]
      show _ * 2 ^ 8 < _
      omega)
  have hshift16 : ((csdAt csd 7 &&& (63 : UInt8)).toUInt32 <<< (16 : UInt32)).toNat =
      (csdAt csd 7).toNat % 64 * 65536 := by
    rw [← (toNat_low _).2.2]
    refine toNat_dwordShift (by decide) ?_
    rw [UInt8.toNat_toUInt32, (toNat_low _).2.2]
    show _ * 2 ^ 16 < _
    omega
  rw [UInt32.toNat_shiftLeft, Nat.shiftLeft_eq, (csd_fields h).2.2.2.2, UInt32.toNat_add,
    UInt32.toNat_add, UInt32.toNat_add, hshift8, hshift16, hone, UInt8.toNat_toUInt32]
  show _ * 2 ^ 10 % _ = _
  omega

/-- The byte `n` is the exponent. -/
theorem toNat_blockLen (h : csd.length = 16) :
    ((csdAt csd 5 &&& (15 : UInt8)) + (csdAt csd 10 &&& (128 : UInt8)) >>> (7 : UInt8) +
      (csdAt csd 9 &&& (3 : UInt8)) <<< (1 : UInt8) + 2).toNat = blockLenExp csd := by
  have h10 := (csdAt csd 10).toNat_lt
  have htwo : (2 : UInt8).toNat = 2 := rfl
  have hshift : ((csdAt csd 9 &&& (3 : UInt8)) <<< (1 : UInt8)).toNat =
      (csdAt csd 9).toNat % 4 * 2 := by
    rw [UInt8.toNat_shiftLeft, Nat.shiftLeft_eq, (toNat_low _).1]
    show _ * 2 ^ 1 % _ = _
    omega
  rw [UInt8.toNat_add, UInt8.toNat_add, UInt8.toNat_add, (toNat_low _).2.1, (toNat_masked _).1,
    hshift, htwo, blockLenExp, (csd_fields h).2.1, (csd_fields h).2.2.2.1]
  omega

theorem toNat_csize (h : csd.length = 16) :
    ((csdAt csd 8 >>> (6 : UInt8)).toUInt32 + (csdAt csd 7).toUInt32 <<< (2 : UInt32) +
      (csdAt csd 6 &&& (3 : UInt8)).toUInt32 <<< (10 : UInt32) + 1).toNat = cSize csd + 1 := by
  have h7 := (csdAt csd 7).toNat_lt
  have h8 := (csdAt csd 8).toNat_lt
  have hone : (1 : UInt32).toNat = 1 := rfl
  have hshift7 : ((csdAt csd 7).toUInt32 <<< (2 : UInt32)).toNat = (csdAt csd 7).toNat * 4 :=
    toNat_dwordShift (by decide) (by
      rw [UInt8.toNat_toUInt32]
      show _ * 2 ^ 2 < _
      omega)
  have hshift6 : ((csdAt csd 6 &&& (3 : UInt8)).toUInt32 <<< (10 : UInt32)).toNat =
      (csdAt csd 6).toNat % 4 * 1024 := by
    rw [← (toNat_low _).1]
    refine toNat_dwordShift (by decide) ?_
    rw [UInt8.toNat_toUInt32, (toNat_low _).1]
    show _ * 2 ^ 10 < _
    omega
  rw [UInt32.toNat_add, UInt32.toNat_add, UInt32.toNat_add, hshift6, hshift7, hone,
    UInt8.toNat_toUInt32, toNat_high, (csd_fields h).2.2.1]
  omega

theorem csize_le (h : csd.length = 16) : cSize csd + 1 ≤ 4096 ∧ blockLenExp csd ≤ 24 := by
  have hfields := csd_fields h
  have h7 := (csdAt csd 7).toNat_lt
  have h8 := (csdAt csd 8).toNat_lt
  have h10 := (csdAt csd 10).toNat_lt
  rw [blockLenExp, hfields.2.1, hfields.2.2.1, hfields.2.2.2.1]
  omega

/-- The other versions: the block length decides, and nothing wraps. -/
theorem decodeSectorCount_v1 (h : csd.length = 16) (hversion : csdStructure csd ≠ 1) :
    (blockLenExp csd < 9 → decodeSectorCount csd = none) ∧
      (9 ≤ blockLenExp csd → ∃ v, decodeSectorCount csd = some (.dword v) ∧
        v.toNat = (cSize csd + 1) * 2 ^ (blockLenExp csd - 9)) := by
  have hbranch := mt (csdStructure_eq_one_iff h).1 hversion
  have hlt : ∀ n : UInt8, n.toNat = blockLenExp csd → (n < 9 ↔ blockLenExp csd < 9) :=
    fun n hn ↦ by rw [UInt8.lt_iff_toNat_lt, hn]; rfl
  have hn := toNat_blockLen h
  constructor
  · intro hsmall
    rw [decodeSectorCount, if_neg hbranch]
    exact if_pos ((hlt _ hn).2 hsmall)
  · intro hlarge
    obtain ⟨hsize, hexp⟩ := csize_le h
    have hfits : (cSize csd + 1) * 2 ^ (blockLenExp csd - 9) < 2 ^ 32 :=
      calc (cSize csd + 1) * 2 ^ (blockLenExp csd - 9) ≤ 4096 * 2 ^ 15 :=
            Nat.mul_le_mul hsize (Nat.pow_le_pow_right (by decide) (by omega))
        _ < 2 ^ 32 := by decide
    have hshift := shiftDword_eq (x := (csdAt csd 8 >>> (6 : UInt8)).toUInt32 +
      (csdAt csd 7).toUInt32 <<< (2 : UInt32) +
        (csdAt csd 6 &&& (3 : UInt8)).toUInt32 <<< (10 : UInt32) + 1) (k := blockLenExp csd - 9)
      (by omega) (by rwa [toNat_csize h])
    rw [toNat_csize h] at hshift
    obtain ⟨v, hv, hvalue⟩ := hshift
    refine ⟨v, ?_, hvalue⟩
    rw [decodeSectorCount, if_neg hbranch]
    refine (if_neg (mt (hlt _ hn).1 (Nat.not_lt.2 hlarge))).trans ?_
    rw [hn, ← hv, Nat.cast_sub hlarge]
    rfl

/-- The erase block of version 1 has two bits of the exponent. -/
theorem decodeBlockSizeSd1_eq (h : csd.length = 16) :
    (writeBlLen csd % 4 = 0 → decodeBlockSizeSd1 csd = .undefined) ∧
      (writeBlLen csd % 4 ≠ 0 → ∃ v, decodeBlockSizeSd1 csd = .dword v ∧
        v.toNat = (sectorSize csd + 1) * 2 ^ (writeBlLen csd % 4 - 1)) := by
  have h11 := (csdAt csd 11).toNat_lt
  have h13 := (csdAt csd 13).toNat_lt
  have hfields := csd_erase_fields h
  have hexp : (csdAt csd 13 >>> (6 : UInt8)).toNat = writeBlLen csd % 4 := by
    rw [toNat_high, hfields.2.1]
    omega
  have hone : (1 : UInt32).toNat = 1 := rfl
  have hshift : ((csdAt csd 10 &&& (63 : UInt8)).toUInt32 <<< (1 : UInt32)).toNat =
      (csdAt csd 10).toNat % 64 * 2 := by
    rw [← (toNat_low _).2.2]
    refine toNat_dwordShift (by decide) ?_
    rw [UInt8.toNat_toUInt32, (toNat_low _).2.2]
    show _ * 2 ^ 1 < _
    omega
  have hsectors : ((csdAt csd 10 &&& (63 : UInt8)).toUInt32 <<< (1 : UInt32) +
      ((csdAt csd 11 &&& (128 : UInt8)) >>> (7 : UInt8)).toUInt32 + 1).toNat =
        sectorSize csd + 1 := by
    rw [UInt32.toNat_add, UInt32.toNat_add, hshift, hone, UInt8.toNat_toUInt32, (toNat_masked _).1,
      hfields.1]
    omega
  simp only [decodeBlockSizeSd1, hexp]
  constructor
  · intro hzero
    rw [hzero]
    exact if_neg (by decide)
  · intro hpos
    have hsmall : sectorSize csd + 1 ≤ 128 := by
      rw [hfields.1]
      omega
    have hfits : (sectorSize csd + 1) * 2 ^ (writeBlLen csd % 4 - 1) < 2 ^ 32 :=
      calc (sectorSize csd + 1) * 2 ^ (writeBlLen csd % 4 - 1) ≤ 128 * 2 ^ 2 :=
            Nat.mul_le_mul hsmall (Nat.pow_le_pow_right (by decide) (by omega))
        _ < 2 ^ 32 := by decide
    rw [← hsectors] at hfits ⊢
    have hcount : ((writeBlLen csd % 4 : ℕ) : ℤ) - 1 = ((writeBlLen csd % 4 - 1 : ℕ) : ℤ) := by
      omega
    rw [hcount]
    exact shiftDword_eq (by omega) hfits

/-- The erase group has two of its bits from the next byte. -/
theorem decodeBlockSizeMmc_eq (h : csd.length = 16) :
    ∃ v, decodeBlockSizeMmc csd = .dword v ∧ v.toNat = (eraseGrpSize csd + 1) *
      (bitField csd 33 32 * 8 + eraseGrpMult csd % 8 + 1) := by
  have h11 := (csdAt csd 11).toNat_lt
  have hfields := csd_erase_fields h
  have hbits : bitField csd 33 32 = (csdAt csd 11).toNat % 4 := by
    have hfield := field_one (i := 11) (a := 1) (b := 0) h (by decide) (by decide) (by decide)
    exact hfield.trans (by omega)
  have hone : (1 : UInt32).toNat = 1 := rfl
  have hshift : ((csdAt csd 11 &&& (3 : UInt8)).toUInt32 <<< (3 : UInt32)).toNat =
      (csdAt csd 11).toNat % 4 * 8 := by
    rw [← (toNat_low _).1]
    refine toNat_dwordShift (by decide) ?_
    rw [UInt8.toNat_toUInt32, (toNat_low _).1]
    show _ * 2 ^ 3 < _
    omega
  have hsize : (((csdAt csd 10 &&& (124 : UInt8)) >>> (2 : UInt8)).toUInt32 + 1).toNat =
      eraseGrpSize csd + 1 := by
    rw [UInt32.toNat_add, hone, UInt8.toNat_toUInt32, (toNat_masked _).2.1, hfields.2.2.1]
    omega
  have hmult : ((csdAt csd 11 &&& (3 : UInt8)).toUInt32 <<< (3 : UInt32) +
      ((csdAt csd 11 &&& (224 : UInt8)) >>> (5 : UInt8)).toUInt32 + 1).toNat =
        bitField csd 33 32 * 8 + eraseGrpMult csd % 8 + 1 := by
    have hlow : eraseGrpMult csd % 8 = (csdAt csd 11).toNat / 32 := by
      rw [hfields.2.2.2]
      omega
    rw [UInt32.toNat_add, UInt32.toNat_add, hshift, hone, UInt8.toNat_toUInt32,
      (toNat_masked _).2.2, hbits, hlow]
    omega
  refine ⟨_, rfl, ?_⟩
  have hsmall : eraseGrpSize csd + 1 ≤ 32 := by
    rw [hfields.2.2.1]
    omega
  have hsmall' : bitField csd 33 32 * 8 + eraseGrpMult csd % 8 + 1 ≤ 32 := by
    omega
  have hfits := Nat.mul_le_mul hsmall hsmall'
  rw [UInt32.toNat_mul, hsize, hmult]
  exact Nat.mod_eq_of_lt (by omega)

end Decoder

/-! ### The answers -/

section Answers

variable {csd : List UInt8}

/-- The size of a card can be read off its CSD by the code: on an SD card the version is known and
the size fits, and an MMC does not name the version of the larger SD cards, or both formulas agree
on it. -/
structure SizeReadable (sdc : Prop) (csd : List UInt8) : Prop where
  fits : sdc → csdStructure csd = 1 → cSizeV2 csd ≠ 2 ^ 22 - 1
  reserved : sdc → 2 ≤ csdStructure csd → blockLenExp csd < 9
  mmc : ¬ sdc → csdStructure csd = 1 →
    (cSizeV2 csd + 1) * 1024 = (cSize csd + 1) * 2 ^ (cSizeMult csd + 2) * 2 ^ readBlLen csd / 512

/-- `RES_OK` with a value, or the error for an invalid block length. -/
def sizeAnswer (csd : List UInt8) : DResult × Option IoctlValue :=
  match decodeSectorCount csd with
  | none => (.error, none)
  | some v => (.ok, some v)

/-- The size of the specification, with the exponents added up. -/
theorem size_eq (hlarge : 9 ≤ blockLenExp csd) :
    (cSize csd + 1) * 2 ^ (cSizeMult csd + 2) * 2 ^ readBlLen csd / 512 =
      (cSize csd + 1) * 2 ^ (blockLenExp csd - 9) := by
  have hexp : cSizeMult csd + 2 + readBlLen csd = blockLenExp csd - 9 + 9 := by
    rw [blockLenExp] at hlarge ⊢
    omega
  rw [Nat.mul_assoc, ← Nat.pow_add, hexp, Nat.pow_add, ← Nat.mul_assoc]
  exact Nat.mul_div_cancel _ (by decide)

/-- A number of sectors on 32 bits. -/
theorem size_lt (h : csd.length = 16) :
    (cSize csd + 1) * 2 ^ (cSizeMult csd + 2) * 2 ^ readBlLen csd / 512 < 2 ^ 32 := by
  obtain ⟨hsize, hexp⟩ := csize_le h
  have hle : (cSize csd + 1) * 2 ^ (cSizeMult csd + 2) * 2 ^ readBlLen csd ≤ 4096 * 2 ^ 24 := by
    rw [Nat.mul_assoc, ← Nat.pow_add]
    refine Nat.mul_le_mul hsize (Nat.pow_le_pow_right (by decide) ?_)
    rw [blockLenExp] at hexp
    omega
  omega

/-- A CSD whose 22-bit size is the largest is not the CSD of an empty MMC. -/
theorem size_pos (h : csd.length = 16) (hmax : cSizeV2 csd + 1 = 2 ^ 22) :
    0 < (cSize csd + 1) * 2 ^ (cSizeMult csd + 2) * 2 ^ readBlLen csd / 512 := by
  obtain ⟨-, -, hsize, hmult, hsizeV2⟩ := csd_fields h
  have h7 := (csdAt csd 7).toNat_lt
  have h8 := (csdAt csd 8).toNat_lt
  have h9 := (csdAt csd 9).toNat_lt
  have hsize' : 256 ≤ cSize csd + 1 := by omega
  have hmult' : 6 ≤ cSizeMult csd := by omega
  have hle : 256 * 2 ^ 8 * 1 ≤ (cSize csd + 1) * 2 ^ (cSizeMult csd + 2) * 2 ^ readBlLen csd :=
    Nat.mul_le_mul (Nat.mul_le_mul hsize' (Nat.pow_le_pow_right (by decide) (by omega)))
      (Nat.two_pow_pos _)
  omega

/-- The size of version 2 is right for an MMC if it is right before it is cut to 32 bits. -/
theorem size_v2_iff (h : csd.length = 16) :
    (cSize csd + 1) * 2 ^ (cSizeMult csd + 2) * 2 ^ readBlLen csd / 512 =
        (cSizeV2 csd + 1) * 1024 % 2 ^ 32 ↔
      (cSizeV2 csd + 1) * 1024 =
        (cSize csd + 1) * 2 ^ (cSizeMult csd + 2) * 2 ^ readBlLen csd / 512 := by
  have hlt : cSizeV2 csd < 2 ^ 22 := bitField_lt csd 69 48
  have hsize := size_lt h
  by_cases hmax : cSizeV2 csd + 1 = 2 ^ 22
  · have hpos := size_pos h hmax
    rw [hmax]
    omega
  · omega

theorem answer_exact_iff {out : DResult × Option IoctlValue} {v : UInt32} {spec : Option ℕ}
    (h : out = (.ok, some (.dword v))) :
    (out.1 ≠ .ok ∧ out.2 = none ∨ ∃ w, out = (.ok, some (.dword w)) ∧ spec = some w.toNat) ↔
      spec = some v.toNat := by
  rw [h]
  simp

/-- **The size is exact or an error** if and only if it is readable. -/
theorem sizeAnswer_exact_iff (sdc : Prop) [Decidable sdc] (h : csd.length = 16) :
    ((sizeAnswer csd).1 ≠ .ok ∧ (sizeAnswer csd).2 = none ∨
        ∃ v, sizeAnswer csd = (.ok, some (.dword v)) ∧ specSectorCount sdc csd = some v.toNat) ↔
      SizeReadable sdc csd := by
  by_cases hone : csdStructure csd = 1
  · obtain ⟨v, hdecode, hvalue⟩ := decodeSectorCount_v2 h hone
    have hanswer : sizeAnswer csd = (.ok, some (.dword v)) := by rw [sizeAnswer, hdecode]
    have hlt : cSizeV2 csd < 2 ^ 22 := bitField_lt csd 69 48
    rw [answer_exact_iff hanswer, hvalue]
    by_cases hsdc : sdc
    · rw [specSectorCount, if_pos ⟨hsdc, hone⟩, Option.some.injEq]
      refine ⟨fun heq ↦ ⟨fun _ _ ↦ by omega, fun _ htwo ↦ by omega, fun hmmc ↦ absurd hsdc hmmc⟩,
        fun hread ↦ ?_⟩
      have hfits := hread.fits hsdc hone
      omega
    · rw [specSectorCount, if_neg fun h ↦ hsdc h.1, if_neg fun h ↦ hsdc h.1, Option.some.injEq,
        size_v2_iff h]
      exact ⟨fun heq ↦ ⟨fun habs ↦ absurd habs hsdc, fun habs ↦ absurd habs hsdc, fun _ _ ↦ heq⟩,
        fun hread ↦ hread.mmc hsdc hone⟩
  · obtain ⟨hinvalid, hvalid⟩ := decodeSectorCount_v1 h hone
    rcases Nat.lt_or_ge (blockLenExp csd) 9 with hsmall | hlarge
    · have hanswer : sizeAnswer csd = (.error, none) := by rw [sizeAnswer, hinvalid hsmall]
      rw [hanswer]
      exact ⟨fun _ ↦ ⟨fun _ habs ↦ absurd habs hone, fun _ _ ↦ hsmall,
        fun _ habs ↦ absurd habs hone⟩, fun _ ↦ .inl ⟨nofun, rfl⟩⟩
    · obtain ⟨v, hdecode, hvalue⟩ := hvalid hlarge
      have hanswer : sizeAnswer csd = (.ok, some (.dword v)) := by rw [sizeAnswer, hdecode]
      rw [answer_exact_iff hanswer, hvalue, specSectorCount, if_neg fun h ↦ hone h.2]
      by_cases hreserved : sdc ∧ csdStructure csd ≠ 0
      · rw [if_pos hreserved]
        refine ⟨nofun, fun hread ↦ ?_⟩
        have hsmall := hread.reserved hreserved.1 (by omega)
        omega
      · rw [if_neg hreserved, size_eq hlarge]
        refine ⟨fun _ ↦ ⟨fun _ habs ↦ absurd habs hone, fun hsdc htwo ↦ ?_,
          fun _ habs ↦ absurd habs hone⟩, fun _ ↦ rfl⟩
        exact absurd ⟨hsdc, by omega⟩ hreserved

/-- **The erase block of version 1** is exact if and only if its exponent is one the specification
allows. -/
theorem blockSizeSd1_exact_iff (h : csd.length = 16) :
    (∃ v, decodeBlockSizeSd1 csd = .dword v ∧ specBlockSizeSd1 csd = some v.toNat) ↔
      9 ≤ writeBlLen csd ∧ writeBlLen csd ≤ 11 := by
  obtain ⟨hundefined, hdefined⟩ := decodeBlockSizeSd1_eq h
  by_cases hzero : writeBlLen csd % 4 = 0
  · rw [hundefined hzero]
    refine ⟨fun ⟨v, habs, _⟩ ↦ ?_, fun hrange ↦ ?_⟩
    · cases habs
    · omega
  · obtain ⟨v, hdecode, hvalue⟩ := hdefined hzero
    have hiff : (∃ w, decodeBlockSizeSd1 csd = .dword w ∧ specBlockSizeSd1 csd = some w.toNat) ↔
        specBlockSizeSd1 csd = some v.toNat := by
      rw [hdecode]
      simp
    have hlt : writeBlLen csd < 16 := bitField_lt csd 25 22
    rw [hiff, hvalue, specBlockSizeSd1]
    split
    · rename_i hle
      rw [Option.some.injEq, Nat.mul_right_inj (Nat.succ_ne_zero _),
        Nat.pow_right_inj (le_refl 2)]
      omega
    · exact ⟨nofun, fun hrange ↦ by omega⟩

/-- **The erase group** is exact if and only if two bits of the next byte happen to be those of
its multiplier. -/
theorem blockSizeMmc_exact_iff (h : csd.length = 16) :
    (∃ v, decodeBlockSizeMmc csd = .dword v ∧ specBlockSizeMmc csd = some v.toNat) ↔
      bitField csd 33 32 = bitField csd 41 40 := by
  obtain ⟨v, hdecode, hvalue⟩ := decodeBlockSizeMmc_eq h
  have hiff : (∃ w, decodeBlockSizeMmc csd = .dword w ∧ specBlockSizeMmc csd = some w.toNat) ↔
      specBlockSizeMmc csd = some v.toNat := by
    rw [hdecode]
    simp
  have hhigh : bitField csd 41 40 = eraseGrpMult csd / 8 := by
    have hfield := field_one (i := 10) (a := 1) (b := 0) h (by decide) (by decide) (by decide)
    have h11 := (csdAt csd 11).toNat_lt
    rw [(csd_erase_fields h).2.2.2]
    exact hfield.trans (by omega)
  rw [hiff, hvalue, specBlockSizeMmc, Option.some.injEq, Nat.mul_right_inj (Nat.succ_ne_zero _),
    hhigh]
  omega

end Answers

/-! ### The requests -/

section Requests

variable {κ : Type} {port : SdPort κ} {pdrv : ℕ} {buff : Option (UInt32 × UInt32)} {d : SdDriver κ}

theorem ioctlSectorCount_eq (port : SdPort κ) (d : SdDriver κ) : (ioctlSectorCount port d).1 =
    match (readCsd port d).1 with
    | none => (.error, none)
    | some csd => sizeAnswer csd := by
  show ((match (readCsd port d).1 with
    | none => pure (.error, none)
    | some csd => match decodeSectorCount csd with
      | none => pure (.error, none)
      | some v => pure (.ok, some v) : SdM κ (DResult × Option IoctlValue)) (readCsd port d).2).1 = _
  cases (readCsd port d).1 with
  | none => rfl
  | some csd =>
    dsimp only
    rw [sizeAnswer]
    cases decodeSectorCount csd <;> rfl

theorem ioctlBlockSize_eq (port : SdPort κ) {cardType : UInt8} (hsd2 : cardType &&& ctSd2 = 0)
    (d : SdDriver κ) :
    (ioctlBlockSize port cardType d).1 =
      match (readCsd port d).1 with
      | none => (.error, none)
      | some csd => (.ok, some (if cardType &&& ctSd1 ≠ 0 then decodeBlockSizeSd1 csd
        else decodeBlockSizeMmc csd)) := by
  rw [ioctlBlockSize, if_neg (not_not.2 hsd2)]
  show ((match (readCsd port d).1 with
    | none => pure (.error, none)
    | some csd => if cardType &&& ctSd1 ≠ 0 then pure (.ok, some (decodeBlockSizeSd1 csd))
      else pure (.ok, some (decodeBlockSizeMmc csd)) :
      SdM κ (DResult × Option IoctlValue)) (readCsd port d).2).1 = _
  cases (readCsd port d).1 with
  | none => rfl
  | some csd =>
    dsimp only
    split <;> rfl

theorem readCsd_eq (d : SdDriver κ) : (readCsd port d).1 =
    if (port.sendCmd cmd9 0 d.card).1 = 0 ∧
        (port.rcvrDatablock 16 (port.sendCmd cmd9 0 d.card).2).1.1 = true then
      some (port.rcvrDatablock 16 (port.sendCmd cmd9 0 d.card).2).1.2
    else none := by
  show ((if (port.sendCmd cmd9 0 d.card).1 = 0 then _ else _ : SdM κ (Option (List UInt8))) _).1 = _
  by_cases hanswered : (port.sendCmd cmd9 0 d.card).1 = 0
  · rw [if_pos hanswered]
    show (if (port.rcvrDatablock 16 (port.sendCmd cmd9 0 d.card).2).1.1 then _ else _) = _
    by_cases hreceived : (port.rcvrDatablock 16 (port.sendCmd cmd9 0 d.card).2).1.1 = true
    · rw [if_pos hreceived, if_pos ⟨hanswered, hreceived⟩]
    · rw [if_neg hreceived, if_neg fun h ↦ hreceived h.2]
  · rw [if_neg hanswered, if_neg fun h ↦ hanswered h.1]
    rfl

/-- A request that is answered from the CSD: it decides, or there is an error. -/
theorem ioctl_csd_cases (cmd : UInt8) (answer : List UInt8 → DResult × Option IoctlValue)
    (hnull : ∀ s, (ioctlSwitch port d.cardType cmd none s).1 = (.parErr, none))
    (hcsd : ∀ words s, (ioctlSwitch port d.cardType cmd (some words) s).1 =
      match (readCsd port s).1 with
      | none => (.error, none)
      | some csd => answer csd) (pdrv : ℕ) (buff : Option (UInt32 × UInt32)) :
    ((∀ csd, ¬ CsdReceived port pdrv buff d csd) ∧ (ffSdSpiIoctl port pdrv cmd buff d).1.1 ≠ .ok ∧
        (ffSdSpiIoctl port pdrv cmd buff d).1.2 = none) ∨
      ∃ csd, CsdReceived port pdrv buff d csd ∧
        (ffSdSpiIoctl port pdrv cmd buff d).1 = answer csd := by
  by_cases htaken : pdrv = 0 ∧ d.stat.noInit = false ∧ (port.takeMutex d.card).1 = true
  · obtain ⟨rfl, hinit, htake⟩ := htaken
    have hout : (ffSdSpiIoctl port 0 cmd buff d).1 = (ioctlSwitch port d.cardType cmd buff
        { d with card := (port.takeMutex d.card).2 }).1 := by
      rw [ffSdSpiIoctl_of_taken hinit htake]
    rw [hout]
    cases buff with
    | none =>
      rw [hnull]
      exact .inl ⟨fun csd h ↦ h.place rfl, nofun, rfl⟩
    | some words =>
      rw [hcsd]
      cases hread : (readCsd port { d with card := (port.takeMutex d.card).2 }).1 with
      | none =>
        refine .inl ⟨fun csd h ↦ ?_, nofun, rfl⟩
        exact Option.some_ne_none csd (h.arrived.symm.trans hread)
      | some csd => exact .inr ⟨csd, ⟨rfl, hinit, htake, nofun, hread⟩, rfl⟩
  · exact .inl ⟨fun csd h ↦ htaken ⟨h.drive, h.initialised, h.taken⟩,
      ffSdSpiIoctl_of_not_taken htaken⟩

theorem CsdReceived.unique {csd csd' : List UInt8} (h : CsdReceived port pdrv buff d csd)
    (h' : CsdReceived port pdrv buff d csd') : csd = csd' :=
  Option.some.inj (h.arrived.symm.trans h'.arrived)

/-- What is exact of the CSD is exact of the request. -/
theorem exactOrError_iff {out : DResult × Option IoctlValue}
    {answer : List UInt8 → DResult × Option IoctlValue} {spec : List UInt8 → Option ℕ}
    (hcases : ((∀ csd, ¬ CsdReceived port pdrv buff d csd) ∧ out.1 ≠ .ok ∧ out.2 = none) ∨
      ∃ csd, CsdReceived port pdrv buff d csd ∧ out = answer csd) {good : List UInt8 → Prop}
    (hgood : ∀ csd, CsdReceived port pdrv buff d csd →
      (((answer csd).1 ≠ .ok ∧ (answer csd).2 = none ∨
        ∃ v, answer csd = (.ok, some (.dword v)) ∧ spec csd = some v.toNat) ↔ good csd)) :
    ExactOrError (CsdReceived port pdrv buff d) spec out ↔
      ∀ csd, CsdReceived port pdrv buff d csd → good csd := by
  rcases hcases with ⟨hnone, hfailed⟩ | ⟨csd, hreceived, rfl⟩
  · exact ⟨fun _ csd hcsd ↦ absurd hcsd (hnone csd), fun _ ↦ .inl hfailed⟩
  · constructor
    · intro hexact csd' hreceived'
      obtain rfl := hreceived.unique hreceived'
      refine (hgood csd hreceived).1 (hexact.imp_right ?_)
      rintro ⟨csd', v, hreceived', hout, hspec⟩
      obtain rfl := hreceived.unique hreceived'
      exact ⟨v, hout, hspec⟩
    · intro hall
      refine ((hgood csd hreceived).2 (hall csd hreceived)).imp_right ?_
      rintro ⟨v, hout, hspec⟩
      exact ⟨csd, v, hreceived, hout, hspec⟩

end Requests

/-! ### The law -/

section Law

variable {κ : Type} {h : SpiHost κ} {opt : SdOptions} {pdrv : ℕ} {buff : Option (UInt32 × UInt32)}
  {d : SdDriver (Bus κ)} {csd : List UInt8}

/-- A CSD that arrives has 16 bytes. -/
theorem CsdReceived.length (hread : CsdReceived (h.port opt) pdrv buff d csd) :
    csd.length = 16 := by
  have harrived : (readCsd (h.port opt) { d with card := ((h.port opt).takeMutex d.card).2 }).1 =
      some csd := hread.arrived
  rw [readCsd_eq] at harrived
  split at harrived
  · rename_i hreceived
    rw [← Option.some.inj harrived]
    exact h.length_rcvrDatablock hreceived.2
  · cases harrived

/-- A request that writes one value. -/
theorem value_exact_iff {value : IoctlValue} {spec : Option ℕ} :
    ((DResult.ok ≠ .ok ∧ some value = none) ∨ ∃ v, ((DResult.ok, some value) =
        (.ok, some (.dword v))) ∧ spec = some v.toNat) ↔
      ∃ v, value = .dword v ∧ spec = some v.toNat := by
  simp

/-- **The geometry is decoded exactly**, or there is an error, if and only if the size can be read
off the CSD; for the erase block of version 1, if and only if `WRITE_BL_LEN` is 9, 10 or 11; for the
erase group of an MMC, if and only if the low bits of byte 11 are those of byte 10. -/
theorem geometry_exact_iff (h : SpiHost κ) (opt : SdOptions) (pdrv : ℕ)
    (buff : Option (UInt32 × UInt32)) (d : SdDriver (Bus κ)) :
    (ExactOrError (CsdReceived (h.port opt) pdrv buff d) (specSectorCount (d.cardType &&& ctSdc ≠ 0))
        (ffSdSpiIoctl (h.port opt) pdrv getSectorCount buff d).1 ↔
      ∀ csd, CsdReceived (h.port opt) pdrv buff d csd →
        SizeReadable (d.cardType &&& ctSdc ≠ 0) csd) ∧
    (d.cardType &&& ctSd2 = 0 → d.cardType &&& ctSd1 ≠ 0 →
      (ExactOrError (CsdReceived (h.port opt) pdrv buff d) specBlockSizeSd1
          (ffSdSpiIoctl (h.port opt) pdrv getBlockSize buff d).1 ↔
        ∀ csd, CsdReceived (h.port opt) pdrv buff d csd →
          9 ≤ writeBlLen csd ∧ writeBlLen csd ≤ 11)) ∧
    (d.cardType &&& ctSd2 = 0 → d.cardType &&& ctSd1 = 0 →
      (ExactOrError (CsdReceived (h.port opt) pdrv buff d) specBlockSizeMmc
          (ffSdSpiIoctl (h.port opt) pdrv getBlockSize buff d).1 ↔
        ∀ csd, CsdReceived (h.port opt) pdrv buff d csd →
          bitField csd 33 32 = bitField csd 41 40)) := by
  refine ⟨?_, fun hsd2 hsd1 ↦ ?_, fun hsd2 hsd1 ↦ ?_⟩
  · have hcases := ioctl_csd_cases (d := d) getSectorCount sizeAnswer (fun s ↦ rfl)
      (fun words s ↦ ioctlSectorCount_eq (h.port opt) s) pdrv buff
    exact exactOrError_iff hcases fun csd hread ↦ sizeAnswer_exact_iff _ hread.length
  · have hcases := ioctl_csd_cases (d := d) getBlockSize
      (fun csd ↦ (.ok, some (decodeBlockSizeSd1 csd))) (fun s ↦ rfl) (fun words s ↦ by
        have hswitch := ioctlBlockSize_eq (h.port opt) hsd2 s
        simp only [if_pos hsd1] at hswitch
        exact hswitch) pdrv buff
    exact exactOrError_iff hcases fun csd hread ↦
      value_exact_iff.trans (blockSizeSd1_exact_iff hread.length)
  · have hcases := ioctl_csd_cases (d := d) getBlockSize
      (fun csd ↦ (.ok, some (decodeBlockSizeMmc csd))) (fun s ↦ rfl) (fun words s ↦ by
        have hswitch := ioctlBlockSize_eq (h.port opt) hsd2 s
        simp only [if_neg (not_not.2 hsd1)] at hswitch
        exact hswitch) pdrv buff
    exact exactOrError_iff hcases fun csd hread ↦
      value_exact_iff.trans (blockSizeMmc_exact_iff hread.length)

end Law

/-- The CSD of an MMC with erase groups of 32 times 32 sectors. -/
def mmcCsd : List UInt8 := [0x90, 0, 0, 0, 0, 0, 0, 0, 0, 0, 0x7F, 0xE0, 0, 0, 0, 0]

/-- An initialised MMC that answers `CMD9` with this CSD. -/
def mmcDriver : SdDriver (Bus (List UInt8)) :=
  ⟨⟨false, false⟩, ctMmc, ⟨List.replicate 9 0xFF ++ [0x00, 0xFE] ++ mmcCsd ++ [0, 0, 0xFF], []⟩⟩

/-- The erase group of such a card is said to be a quarter of what it is. -/
theorem mmc_erase_group_wrong :
    (ffSdSpiIoctl (scriptHost.port ⟨1, false⟩) 0 getBlockSize (some (0, 0)) mmcDriver).1 =
        (.ok, some (.dword 256)) ∧
      specBlockSizeMmc mmcCsd = some 1024 ∧
      ¬ ExactOrError (CsdReceived (scriptHost.port ⟨1, false⟩) 0 (some (0, 0)) mmcDriver)
        specBlockSizeMmc
        (ffSdSpiIoctl (scriptHost.port ⟨1, false⟩) 0 getBlockSize (some (0, 0)) mmcDriver).1 := by
  have hout : (ffSdSpiIoctl (scriptHost.port ⟨1, false⟩) 0 getBlockSize (some (0, 0))
      mmcDriver).1 = (.ok, some (.dword 256)) := by decide +kernel
  have hspec : specBlockSizeMmc mmcCsd = some 1024 := by decide +kernel
  have hread : (readCsd (scriptHost.port ⟨1, false⟩) { mmcDriver with
      card := ((scriptHost.port ⟨1, false⟩).takeMutex mmcDriver.card).2 }).1 = some mmcCsd := by
    decide +kernel
  refine ⟨hout, hspec, ?_⟩
  rw [hout]
  rintro (⟨hok, -⟩ | ⟨csd, v, hreceived, hvalue, hcsd⟩)
  · exact hok rfl
  · obtain rfl : csd = mmcCsd := Option.some.inj (hreceived.arrived.symm.trans hread)
    obtain rfl : v = 256 := by
      cases hvalue
      rfl
    exact absurd (hspec.symm.trans hcsd) (by decide)
