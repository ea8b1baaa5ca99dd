import SmartAp.Fat.FileSync

/-!
# Long names in a directory

A long name is kept in entries of its own before the short one, thirteen characters in each, the
last part first. `put_lfn`, `pick_lfn` and `cmp_lfn` of `ff.c`, which write, read and compare one
such entry, with `ff_wtoupper` of `ffunicode.c`, under which names are compared, and `sum_sfn`.

## Names and their parts

`LongName` carries what `create_name` has checked as fields: at least one character and at most 255,
none of them 0 or 0xFFFF. `charAt` is the character that an entry has at a position: that of the
name, then one 0, then fillers. `PartOf n k sum e` says that the entry `e` has part `k` of the name
`n`, for a short entry with this sum. It is what `put_lfn` makes (`putLfn_partOf`).

## Reading and comparing

The loops over the thirteen characters carry the last character that was read, in `uc` of the
source, and the invariants `Filling` and `Picking` say what it is at each place. Reading the parts
in the order in which they stand gives the name (`pickLfn_spec`), and all of them match another name
just when the two are equal but for the case (`cmpLfn_iff`, `same_iff`). One entry at a time is all
that the code sees; that the parts together are the name is an induction over the entries, in
`DirObjects`.

## The table of upper cases

`wtoupper` is the code over its two compressed tables. That it never converts a character to 0,
which would cut names short, is a property of the tables: `upTableOk` is a check of a table, decided
for both, and `wtoupper_eq_zero_iff` is what follows for every character.
-/

/-- `lfnbuf`: characters of UTF-16, terminated by 0. -/
abbrev LfnBuf := ℕ → ℕ

/-- `LfnOfs`: where the characters stand in an entry. -/
def lfnOfs : List ℕ := [1, 3, 5, 7, 9, 14, 16, 18, 20, 22, 24, 28, 30]

/-- `FF_MAX_LFN` -/
def maxLfn : ℕ := 255

/-! ### Upper case -/

/-- "Compressed up conversion table for U+0000 - U+0FFF" -/
def cvt1 : List ℕ :=
  [0x0061, 0x031A, 0x00E0, 0x0317, 0x00F8, 0x0307, 0x00FF, 0x0001, 0x0178, 0x0100, 0x0130, 0x0132,
   0x0106, 0x0139, 0x0110, 0x014A, 0x012E, 0x0179, 0x0106, 0x0180, 0x004D, 0x0243, 0x0181, 0x0182,
   0x0182, 0x0184, 0x0184, 0x0186, 0x0187, 0x0187, 0x0189, 0x018A, 0x018B, 0x018B, 0x018D, 0x018E,
   0x018F, 0x0190, 0x0191, 0x0191, 0x0193, 0x0194, 0x01F6, 0x0196, 0x0197, 0x0198, 0x0198, 0x023D,
   0x019B, 0x019C, 0x019D, 0x0220, 0x019F, 0x01A0, 0x01A0, 0x01A2, 0x01A2, 0x01A4, 0x01A4, 0x01A6,
   0x01A7, 0x01A7, 0x01A9, 0x01AA, 0x01AB, 0x01AC, 0x01AC, 0x01AE, 0x01AF, 0x01AF, 0x01B1, 0x01B2,
   0x01B3, 0x01B3, 0x01B5, 0x01B5, 0x01B7, 0x01B8, 0x01B8, 0x01BA, 0x01BB, 0x01BC, 0x01BC, 0x01BE,
   0x01F7, 0x01C0, 0x01C1, 0x01C2, 0x01C3, 0x01C4, 0x01C5, 0x01C4, 0x01C7, 0x01C8, 0x01C7, 0x01CA,
   0x01CB, 0x01CA, 0x01CD, 0x0110, 0x01DD, 0x0001, 0x018E, 0x01DE, 0x0112, 0x01F3, 0x0003, 0x01F1,
   0x01F4, 0x01F4, 0x01F8, 0x0128, 0x0222, 0x0112, 0x023A, 0x0009, 0x2C65, 0x023B, 0x023B, 0x023D,
   0x2C66, 0x023F, 0x0240, 0x0241, 0x0241, 0x0246, 0x010A, 0x0253, 0x0040, 0x0181, 0x0186, 0x0255,
   0x0189, 0x018A, 0x0258, 0x018F, 0x025A, 0x0190, 0x025C, 0x025D, 0x025E, 0x025F, 0x0193, 0x0261,
   0x0262, 0x0194, 0x0264, 0x0265, 0x0266, 0x0267, 0x0197, 0x0196, 0x026A, 0x2C62, 0x026C, 0x026D,
   0x026E, 0x019C, 0x0270, 0x0271, 0x019D, 0x0273, 0x0274, 0x019F, 0x0276, 0x0277, 0x0278, 0x0279,
   0x027A, 0x027B, 0x027C, 0x2C64, 0x027E, 0x027F, 0x01A6, 0x0281, 0x0282, 0x01A9, 0x0284, 0x0285,
   0x0286, 0x0287, 0x01AE, 0x0244, 0x01B1, 0x01B2, 0x0245, 0x028D, 0x028E, 0x028F, 0x0290, 0x0291,
   0x01B7, 0x037B, 0x0003, 0x03FD, 0x03FE, 0x03FF, 0x03AC, 0x0004, 0x0386, 0x0388, 0x0389, 0x038A,
   0x03B1, 0x0311, 0x03C2, 0x0002, 0x03A3, 0x03A3, 0x03C4, 0x0308, 0x03CC, 0x0003, 0x038C, 0x038E,
   0x038F, 0x03D8, 0x0118, 0x03F2, 0x000A, 0x03F9, 0x03F3, 0x03F4, 0x03F5, 0x03F6, 0x03F7, 0x03F7,
   0x03F9, 0x03FA, 0x03FA, 0x0430, 0x0320, 0x0450, 0x0710, 0x0460, 0x0122, 0x048A, 0x0136, 0x04C1,
   0x010E, 0x04CF, 0x0001, 0x04C0, 0x04D0, 0x0144, 0x0561, 0x0426, 0x0000]

/-- "Compressed up conversion table for U+1000 - U+FFFF" -/
def cvt2 : List ℕ :=
  [0x1D7D, 0x0001, 0x2C63, 0x1E00, 0x0196, 0x1EA0, 0x015A, 0x1F00, 0x0608, 0x1F10, 0x0606, 0x1F20,
   0x0608, 0x1F30, 0x0608, 0x1F40, 0x0606, 0x1F51, 0x0007, 0x1F59, 0x1F52, 0x1F5B, 0x1F54, 0x1F5D,
   0x1F56, 0x1F5F, 0x1F60, 0x0608, 0x1F70, 0x000E, 0x1FBA, 0x1FBB, 0x1FC8, 0x1FC9, 0x1FCA, 0x1FCB,
   0x1FDA, 0x1FDB, 0x1FF8, 0x1FF9, 0x1FEA, 0x1FEB, 0x1FFA, 0x1FFB, 0x1F80, 0x0608, 0x1F90, 0x0608,
   0x1FA0, 0x0608, 0x1FB0, 0x0004, 0x1FB8, 0x1FB9, 0x1FB2, 0x1FBC, 0x1FCC, 0x0001, 0x1FC3, 0x1FD0,
   0x0602, 0x1FE0, 0x0602, 0x1FE5, 0x0001, 0x1FEC, 0x1FF3, 0x0001, 0x1FFC, 0x214E, 0x0001, 0x2132,
   0x2170, 0x0210, 0x2184, 0x0001, 0x2183, 0x24D0, 0x051A, 0x2C30, 0x042F, 0x2C60, 0x0102, 0x2C67,
   0x0106, 0x2C75, 0x0102, 0x2C80, 0x0164, 0x2D00, 0x0826, 0xFF41, 0x031A, 0x0000]

/-- The commands of a block with base `bc`; `p` is what follows its head. -/
def upConvert (cmd bc uc : ℕ) (p : List ℕ) : ℕ :=
  match cmd with
  | 0 => p.getD (uc - bc) 0
  | 1 => uc - (uc - bc) % 2
  | 2 => uc - 16
  | 3 => uc - 32
  | 4 => uc - 48
  | 5 => uc - 26
  | 6 => uc + 8
  | 7 => uc - 80
  | 8 => uc - 0x1C60
  | _ => uc

/-- The loop of `ff_wtoupper`, over the blocks of a table. -/
def upConvertIn : (blocks : ℕ) → (p : List ℕ) → (uc : ℕ) → ℕ
  | blocks + 1, bc :: nc :: p, uc =>
    if bc = 0 ∨ uc < bc then uc
    else if uc < bc + nc % 256 then upConvert (nc / 256) bc uc p
    else if nc / 256 = 0 then upConvertIn blocks (p.drop (nc % 256)) uc
    else upConvertIn blocks p uc
  | _, _, uc => uc

/-- `ff_wtoupper`. -/
def wtoupper (uni : ℕ) : ℕ :=
  if uni < 0x10000 then
    if uni < 0x1000 then upConvertIn cvt1.length cvt1 uni else upConvertIn cvt2.length cvt2 uni
  else uni

/-! ### The functions -/

/-- The loop of `cmp_lfn`, over the characters of the entry at `ofs`. -/
def cmpChars (lfnbuf : LfnBuf) (dir : Memory) : List ℕ → (ni pchr : ℕ) → Option (ℕ × ℕ)
  | [], ni, pchr => some (ni, pchr)
  | o :: ofs, ni, pchr =>
    let chr := ld16 dir o
    if pchr ≠ 0 then
      if maxLfn + 1 ≤ ni ∨ wtoupper chr ≠ wtoupper (lfnbuf ni) then none
      else cmpChars lfnbuf dir ofs (ni + 1) chr
    else if chr ≠ 0xFFFF then none
    else cmpChars lfnbuf dir ofs ni pchr

/-- `cmp_lfn`. -/
def cmpLfn (lfnbuf : LfnBuf) (dir : Memory) : Bool :=
  if ld16 dir 26 ≠ 0 then false
  else
    match cmpChars lfnbuf dir lfnOfs (mul32 (sub32 (dir 0 &&& 0x3F).toNat 1) 13) 1 with
    | none => false
    | some (ni, pchr) => !(dir 0 &&& 0x40 ≠ 0 && pchr ≠ 0 && lfnbuf ni ≠ 0)

/-- The loop of `pick_lfn`. -/
def pickChars (dir : Memory) : List ℕ → (ni pchr : ℕ) → LfnBuf → LfnBuf × Option (ℕ × ℕ)
  | [], ni, pchr, lfnbuf => (lfnbuf, some (ni, pchr))
  | o :: ofs, ni, pchr, lfnbuf =>
    let chr := ld16 dir o
    if pchr ≠ 0 then
      if maxLfn + 1 ≤ ni then (lfnbuf, none)
      else pickChars dir ofs (ni + 1) chr (Function.update lfnbuf ni chr)
    else if chr ≠ 0xFFFF then (lfnbuf, none)
    else pickChars dir ofs ni pchr lfnbuf

/-- `pick_lfn`, with the buffer that it leaves. -/
def pickLfn (lfnbuf : LfnBuf) (dir : Memory) : LfnBuf × Bool :=
  if ld16 dir 26 ≠ 0 then (lfnbuf, false)
  else
    match pickChars dir lfnOfs (mul32 (sub32 (dir 0 &&& ~~~0x40).toNat 1) 13) 1 lfnbuf with
    | (lfnbuf, none) => (lfnbuf, false)
    | (lfnbuf, some (ni, pchr)) =>
      if dir 0 &&& 0x40 ≠ 0 ∧ pchr ≠ 0 then
        if maxLfn + 1 ≤ ni then (lfnbuf, false) else (Function.update lfnbuf ni 0, true)
      else (lfnbuf, true)

/-- "Fill the directory entry": the loop of `put_lfn`. -/
def putChars (lfn : LfnBuf) : List ℕ → (ni chr : ℕ) → Memory → Memory × ℕ × ℕ
  | [], ni, chr, dir => (dir, ni, chr)
  | o :: ofs, ni, chr, dir =>
    let next := if chr ≠ 0xFFFF then ni + 1 else ni
    let chr := if chr ≠ 0xFFFF then lfn ni else chr
    putChars lfn ofs next (if chr = 0 then 0xFFFF else chr) (st16 dir o chr)

/-- `put_lfn`. -/
def putLfn (lfn : LfnBuf) (dir : Memory) (ord sum : UInt8) : Memory :=
  let dir := Function.update dir 13 sum
  let dir := Function.update dir 11 0x0F
  let dir := Function.update dir 12 0
  let dir := st16 dir 26 0
  let (dir, ni, chr) := putChars lfn lfnOfs (mul32 (sub32 ord.toNat 1) 13) 0 dir
  Function.update dir 0 (if chr = 0xFFFF ∨ lfn ni = 0 then ord ||| 0x40 else ord)

/-- `sum_sfn`. -/
def sumSfn (dir : Memory) : UInt8 :=
  (List.range 11).foldl (fun sum i ↦ (sum >>> 1) + (sum <<< 7) + dir i) 0

/-! ### Upper case of a character -/

/-- No block of a table has the result 0. -/
def upTableOk : (blocks : ℕ) → List ℕ → Bool
  | blocks + 1, bc :: nc :: p =>
    bc = 0 ||
      (((nc / 256 ≠ 0 && 0x50 < bc && (nc / 256 ≠ 8 || 0x1C60 < bc)) ||
        (nc / 256 = 0 && nc % 256 ≤ p.length && (p.take (nc % 256)).all (· ≠ 0))) &&
        upTableOk blocks (if nc / 256 = 0 then p.drop (nc % 256) else p))
  | _, _ => true

/-- A block of the table converts none of its characters to 0. -/
theorem upConvert_ne_zero {cmd bc nc uc : ℕ} {p : List ℕ} (huc : bc ≤ uc ∧ uc < bc + nc)
    (h : cmd ≠ 0 ∧ 0x50 < bc ∧ (cmd ≠ 8 ∨ 0x1C60 < bc) ∨
      cmd = 0 ∧ nc ≤ p.length ∧ ∀ c ∈ p.take nc, c ≠ 0) : upConvert cmd bc uc p ≠ 0 := by
  rcases h with ⟨hcmd, hbc, hshift⟩ | ⟨rfl, hlen, hall⟩
  · unfold upConvert
    split <;> omega
  · have hlt : uc - bc < (p.take nc).length := by
      rw [List.length_take]
      omega
    have hmem := List.getElem_mem hlt
    rw [List.getElem_take] at hmem
    show p.getD (uc - bc) 0 ≠ 0
    rw [List.getD_eq_getElem?_getD, List.getElem?_eq_getElem (by omega : uc - bc < p.length)]
    exact hall _ hmem

/-- A table that passes the check converts no character to 0. -/
theorem upConvertIn_ne_zero {blocks uc : ℕ} {p : List ℕ} (hp : upTableOk blocks p = true)
    (huc : uc ≠ 0) : upConvertIn blocks p uc ≠ 0 := by
  induction blocks generalizing p with
  | zero => simpa only [upConvertIn] using huc
  | succ blocks ih =>
    match p with
    | [] => simpa only [upConvertIn] using huc
    | [_] => simpa only [upConvertIn] using huc
    | bc :: nc :: p =>
      rw [upConvertIn]
      split
      · exact huc
      rename_i hbase
      simp only [upTableOk, Bool.or_eq_true, Bool.and_eq_true, decide_eq_true_eq,
        List.all_eq_true, ne_eq, decide_not, Bool.not_eq_true', decide_eq_false_iff_not] at hp
      obtain ⟨hblock, hrest⟩ := hp.resolve_left fun h ↦ hbase (.inl h)
      split
      · rename_i hin
        refine upConvert_ne_zero ⟨by omega, hin⟩ ?_
        rcases hblock with ⟨⟨hcmd, hbc⟩, hshift⟩ | ⟨⟨hcmd, hlen⟩, hall⟩
        · exact .inl ⟨hcmd, hbc, hshift⟩
        · exact .inr ⟨hcmd, hlen, hall⟩
      · split
        · rename_i hcmd
          rw [if_pos hcmd] at hrest
          exact ih hrest
        · rename_i hcmd
          rw [if_neg hcmd] at hrest
          exact ih hrest

/-- **Only the terminator is folded to the terminator.** -/
theorem wtoupper_eq_zero_iff {c : ℕ} : wtoupper c = 0 ↔ c = 0 := by
  constructor
  · intro h
    by_contra hc
    rw [wtoupper] at h
    split at h
    · split at h
      · exact upConvertIn_ne_zero (by decide +kernel) hc h
      · exact upConvertIn_ne_zero (by decide +kernel) hc h
    · exact hc h
  · rintro rfl
    decide +kernel

/-! ### Names -/

/-- A long name: up to 255 characters of which none is a terminator or a filler. -/
structure LongName where
  chars : List ℕ
  ne_nil : chars ≠ []
  length_le : chars.length ≤ maxLfn
  char : ∀ c ∈ chars, 0 < c ∧ c < 0xFFFF

namespace LongName

variable (n : LongName)

/-- The characters of the name, the terminator and the filler. -/
def charAt (i : ℕ) : ℕ := if i ≤ n.chars.length then n.chars.getD i 0 else 0xFFFF

/-- The number of entries of the name. -/
def parts : ℕ := (n.chars.length + 12) / 13

/-- `lfnbuf` holds the name. -/
def Held (lfnbuf : LfnBuf) : Prop := ∀ i ≤ n.chars.length, lfnbuf i = n.charAt i

/-- Two names that differ in the case at most. -/
def Same (n' : LongName) : Prop := n.chars.map wtoupper = n'.chars.map wtoupper

instance (n' : LongName) : Decidable (n.Same n') :=
  inferInstanceAs (Decidable (_ = _))

variable {n} {i k : ℕ}

/-- The characters of a name are neither 0 nor the filler. -/
theorem charAt_of_lt (hi : i < n.chars.length) : 0 < n.charAt i ∧ n.charAt i < 0xFFFF := by
  rw [charAt, if_pos (Nat.le_of_lt hi), List.getD_eq_getElem?_getD, List.getElem?_eq_getElem hi]
  exact n.char _ (List.getElem_mem hi)

/-- The name ends with 0. -/
theorem charAt_length : n.charAt n.chars.length = 0 := by
  rw [charAt, if_pos (Nat.le_refl _), List.getD_eq_getElem?_getD,
    List.getElem?_eq_none (Nat.le_refl _), Option.getD_none]

/-- Behind the 0 there are fillers. -/
theorem charAt_of_gt (hi : n.chars.length < i) : n.charAt i = 0xFFFF :=
  if_neg (Nat.not_le_of_lt hi)

/-- The only 0 is the one at the end of the name. -/
theorem charAt_eq_zero_iff : n.charAt i = 0 ↔ i = n.chars.length := by
  constructor
  · intro h
    rcases Nat.lt_trichotomy i n.chars.length with hi | hi | hi
    · exact absurd h (Nat.ne_of_gt (charAt_of_lt hi).1)
    · exact hi
    · exact absurd (h.symm.trans (charAt_of_gt hi)) (by decide)
  · rintro rfl
    exact charAt_length

theorem charAt_lt : n.charAt i < 0x10000 := by
  rcases Nat.lt_trichotomy i n.chars.length with hi | rfl | hi
  · exact Nat.lt_succ_of_lt (charAt_of_lt hi).2
  · rw [charAt_length]; decide
  · rw [charAt_of_gt hi]; decide

theorem length_pos : 0 < n.chars.length := List.length_pos_iff.2 n.ne_nil

theorem parts_pos : 0 < n.parts := by
  have := n.length_pos
  rw [parts]
  omega

/-- A name has 20 entries at most, since it has 255 characters. -/
theorem parts_le : n.parts ≤ 20 := by
  have := n.length_le
  rw [maxLfn] at this
  rw [parts]
  omega

/-- Part `k` has a character. -/
theorem lt_parts_iff : k < n.parts ↔ 13 * k < n.chars.length := by
  rw [parts]
  omega

/-- Two names are the same just when all characters agree, the terminator of the first among
them. -/
theorem same_iff {n' : LongName} {lfnbuf : LfnBuf} (h : n'.Held lfnbuf) :
    n.Same n' ↔ ∀ i ≤ n.chars.length, wtoupper (n.charAt i) = wtoupper (lfnbuf i) := by
  have hget : ∀ (m : LongName) (i : ℕ) (hi : i < m.chars.length), m.charAt i = m.chars[i] := by
    intro m i hi
    rw [charAt, if_pos (Nat.le_of_lt hi), List.getD_eq_getElem?_getD, List.getElem?_eq_getElem hi,
      Option.getD_some]
  constructor
  · intro hsame i hi
    have hlen : n.chars.length = n'.chars.length := by
      simpa only [List.length_map] using congrArg List.length hsame
    rw [h i (hlen ▸ hi)]
    rcases Nat.lt_or_eq_of_le hi with hlt | rfl
    · have hmap : (n.chars.map wtoupper)[i]? = (n'.chars.map wtoupper)[i]? := by rw [hsame]
      rw [List.getElem?_map, List.getElem?_map, List.getElem?_eq_getElem hlt,
        List.getElem?_eq_getElem (hlen ▸ hlt)] at hmap
      rw [hget n i hlt, hget n' i (hlen ▸ hlt)]
      exact Option.some.inj hmap
    · rw [charAt_length, hlen, charAt_length]
  · intro hall
    -- The terminator of the first name is at the terminator of the second.
    have hle : n.chars.length ≤ n'.chars.length := by
      by_contra hlt
      have hlt : n'.chars.length < n.chars.length := Nat.lt_of_not_le hlt
      have hterm := hall _ (Nat.le_of_lt hlt)
      rw [h _ (Nat.le_refl _), charAt_length, wtoupper_eq_zero_iff.2 rfl,
        wtoupper_eq_zero_iff] at hterm
      exact absurd hterm (Nat.ne_of_gt (charAt_of_lt hlt).1)
    have hlen : n.chars.length = n'.chars.length := by
      have hterm := hall _ (Nat.le_refl _)
      rw [charAt_length, wtoupper_eq_zero_iff.2 rfl, h _ hle, eq_comm, wtoupper_eq_zero_iff,
        charAt_eq_zero_iff] at hterm
      exact hterm
    refine List.ext_getElem (by simp only [List.length_map, hlen]) fun i hi hi' ↦ ?_
    rw [List.length_map] at hi hi'
    have hchar := hall i (Nat.le_of_lt hi)
    rw [h i (Nat.le_of_lt hi'), hget n i hi, hget n' i hi'] at hchar
    rw [List.getElem_map, List.getElem_map]
    exact hchar

end LongName

/-! ### The entry of a part -/

/-- **The entry has part `k` of the name.** -/
structure PartOf (n : LongName) (k : ℕ) (sum : UInt8) (e : Memory) : Prop where
  ord : e 0 = UInt8.ofNat (k + 1) ||| if n.chars.length ≤ 13 * (k + 1) then 0x40 else 0
  attr : e 11 = 0x0F
  sum : e 13 = sum
  zero : ld16 e 26 = 0
  chars : ∀ d o, lfnOfs[d]? = some o → ld16 e o = n.charAt (13 * k + d)

/-- The fields of the first byte of an entry. -/
theorem ordByte {k : ℕ} (hk : k < 20) (last : Bool) :
    let b := UInt8.ofNat (k + 1) ||| if last then 0x40 else 0
    (b &&& 0x40 ≠ 0 ↔ last = true) ∧ (b &&& ~~~0x40) = UInt8.ofNat (k + 1) ∧
      mul32 (sub32 (b &&& 0x3F).toNat 1) 13 = 13 * k ∧
      mul32 (sub32 (b &&& ~~~0x40).toNat 1) 13 = 13 * k := by
  revert last
  revert k
  decide

theorem lfnOfs_apart : lfnOfs.Pairwise fun a b ↦ a + 2 ≤ b := by decide

section Parts

variable {n : LongName} {k : ℕ} {sum : UInt8} {e : Memory} {lfnbuf : LfnBuf}

/-- The flag of the last entry stands in the entry that holds the end of the name. -/
theorem PartOf.last_iff (h : PartOf n k sum e) (hk : k < n.parts) :
    e 0 &&& 0x40 ≠ 0 ↔ n.chars.length ≤ 13 * (k + 1) := by
  have hord := (ordByte (Nat.lt_of_lt_of_le hk n.parts_le)
    (decide (n.chars.length ≤ 13 * (k + 1)))).1
  simp only [decide_eq_true_eq] at hord
  rw [h.ord]
  exact hord

/-- The number in an entry says which characters it holds. -/
theorem PartOf.start (h : PartOf n k sum e) (hk : k < n.parts) :
    (e 0 &&& ~~~0x40) = UInt8.ofNat (k + 1) ∧
      mul32 (sub32 (e 0 &&& 0x3F).toNat 1) 13 = 13 * k ∧
      mul32 (sub32 (e 0 &&& ~~~0x40).toNat 1) 13 = 13 * k := by
  have hord := (ordByte (Nat.lt_of_lt_of_le hk n.parts_le)
    (decide (n.chars.length ≤ 13 * (k + 1)))).2
  simp only [decide_eq_true_eq] at hord
  rw [h.ord]
  exact hord

/-! ### Writing a part -/

/-- The loop of `put_lfn` before character `i`. -/
structure Filling (n : LongName) (i ni chr : ℕ) : Prop where
  inside : i ≤ n.chars.length → chr ≠ 0xFFFF ∧ ni = i
  beyond : n.chars.length < i → chr = 0xFFFF

/-- One character. -/
theorem Filling.step {i ni chr : ℕ} (h : Filling n i ni chr) (hn : n.Held lfnbuf) :
    (if chr ≠ 0xFFFF then lfnbuf ni else chr) = n.charAt i ∧
      Filling n (i + 1) (if chr ≠ 0xFFFF then ni + 1 else ni)
        (if n.charAt i = 0 then 0xFFFF else n.charAt i) := by
  rcases Nat.lt_or_ge n.chars.length i with hi | hi
  · have hchr := h.beyond hi
    rw [if_neg (not_not_intro hchr), hchr, LongName.charAt_of_gt hi]
    exact ⟨rfl, fun hle ↦ absurd hle (by omega), fun _ ↦ rfl⟩
  · obtain ⟨hchr, rfl⟩ := h.inside hi
    rw [if_pos hchr, if_pos hchr]
    refine ⟨hn ni hi, fun hle ↦ ⟨?_, rfl⟩, fun hgt ↦ ?_⟩
    · have hchar := LongName.charAt_of_lt hle
      rw [if_neg (Nat.ne_of_gt hchar.1)]
      exact Nat.ne_of_lt hchar.2
    · obtain rfl : ni = n.chars.length := by omega
      rw [if_pos LongName.charAt_length]

/-- The characters from `i` on, one at each offset; nothing else changes. -/
theorem putChars_spec (hn : n.Held lfnbuf) {ofs : List ℕ} (hofs : ofs.Pairwise fun a b ↦ a + 2 ≤ b)
    {i ni chr : ℕ} (h : Filling n i ni chr) (dir : Memory) :
    ∃ dir' ni' chr', putChars lfnbuf ofs ni chr dir = (dir', ni', chr') ∧
      Filling n (i + ofs.length) ni' chr' ∧
      (∀ d o, ofs[d]? = some o → ld16 dir' o = n.charAt (i + d)) ∧
      ∀ x, (∀ o ∈ ofs, x < o ∨ o + 2 ≤ x) → dir' x = dir x := by
  induction ofs generalizing i ni chr dir with
  | nil => exact ⟨dir, ni, chr, rfl, h, by simp, fun _ _ ↦ rfl⟩
  | cons o ofs ih =>
    obtain ⟨hchr, hnext⟩ := h.step hn
    obtain ⟨hfirst, hrest⟩ := List.pairwise_cons.1 hofs
    obtain ⟨dir', ni', chr', hrun, hfill, hchars, hout⟩ := ih hrest hnext (st16 dir o (n.charAt i))
    refine ⟨dir', ni', chr', ?_, ?_, ?_, fun x hx ↦ ?_⟩
    · rw [putChars, hchr, hrun]
    · rw [List.length_cons, Nat.add_comm ofs.length, ← Nat.add_assoc]
      exact hfill
    · rintro (- | d) o' ho
      · obtain rfl : o = o' := by simpa using ho
        -- The later characters do not overlap.
        have hkept : ld16 dir' o = ld16 (st16 dir o (n.charAt i)) o := by
          rw [ld16_eq, ld16_eq]
          refine loadWord_congr fun j hj ↦ hout _ fun o' ho' ↦ .inl ?_
          have := hfirst o' ho'
          omega
        rw [hkept, ld16_st16, Nat.mod_eq_of_lt LongName.charAt_lt, Nat.add_zero]
      · rw [List.getElem?_cons_succ] at ho
        rw [hchars d o' ho, Nat.add_assoc, Nat.add_comm 1]
    · rw [hout x fun o' ho' ↦ hx o' (List.mem_cons_of_mem _ ho'), st16_eq]
      have := hx o List.mem_cons_self
      exact storeWord_apply_of_notMem _ _ (by omega)

/-- **What `put_lfn` makes is a part of the name.** -/
theorem putLfn_partOf (hn : n.Held lfnbuf) (hk : k < n.parts) (dir : Memory) :
    PartOf n k sum (putLfn lfnbuf dir (UInt8.ofNat (k + 1)) sum) := by
  have hk20 := Nat.lt_of_lt_of_le hk n.parts_le
  have hstart : mul32 (sub32 (UInt8.ofNat (k + 1)).toNat 1) 13 = 13 * k := by
    clear hk
    revert k
    decide
  have hzero : Filling n (13 * k) (13 * k) 0 :=
    ⟨fun _ ↦ ⟨by decide, rfl⟩, fun h ↦ absurd (LongName.lt_parts_iff.1 hk) (by omega)⟩
  generalize hhead : st16 (Function.update (Function.update (Function.update dir 13 sum) 11 0x0F)
    12 0) 26 0 = head
  obtain ⟨dir', ni, chr, hrun, hfill, hchars, hout⟩ := putChars_spec hn lfnOfs_apart hzero head
  -- The fields beside the characters.
  have hside : ∀ x ∈ [11, 13, 26, 27], dir' x = head x := fun x hx ↦ hout x (by
    revert x
    decide)
  have hfield : ∀ {x}, x ≠ 0 → Function.update dir' 0
      (if chr = 0xFFFF ∨ lfnbuf ni = 0 then UInt8.ofNat (k + 1) ||| 0x40 else UInt8.ofNat (k + 1))
        x = dir' x := fun hx ↦ Function.update_of_ne hx _ _
  -- The name ends in this entry, or right after it.
  have hlast : (chr = 0xFFFF ∨ lfnbuf ni = 0) ↔ n.chars.length ≤ 13 * (k + 1) := by
    have hlen : 13 * k + lfnOfs.length = 13 * (k + 1) := by rw [Nat.mul_succ]; rfl
    rw [hlen] at hfill
    rcases Nat.lt_or_ge n.chars.length (13 * (k + 1)) with hlt | hge
    · exact iff_of_true (.inl (hfill.beyond hlt)) (Nat.le_of_lt hlt)
    · obtain ⟨hchr, rfl⟩ := hfill.inside hge
      rw [or_iff_right hchr, hn _ hge, LongName.charAt_eq_zero_iff]
      omega
  have hput : putLfn lfnbuf dir (UInt8.ofNat (k + 1)) sum = Function.update dir' 0
      (if chr = 0xFFFF ∨ lfnbuf ni = 0 then UInt8.ofNat (k + 1) ||| 0x40
        else UInt8.ofNat (k + 1)) := by
    simp only [putLfn, hstart, hhead, hrun]
  rw [hput]
  refine ⟨?_, ?_, ?_, ?_, fun d o ho ↦ ?_⟩
  · rw [Function.update_self]
    by_cases h : n.chars.length ≤ 13 * (k + 1)
    · rw [if_pos (hlast.2 h), if_pos h]
    · rw [if_neg (mt hlast.1 h), if_neg h, UInt8.or_zero]
  · rw [hfield (by decide), hside 11 (by decide), ← hhead, st16_eq,
      storeWord_apply_of_notMem _ _ (by decide)]
    rfl
  · rw [hfield (by decide), hside 13 (by decide), ← hhead, st16_eq,
      storeWord_apply_of_notMem _ _ (by decide)]
    rfl
  · have hword : ld16 dir' 26 = ld16 head 26 := by
      rw [ld16, ld16, hside 26 (by decide), hside 27 (by decide)]
    rw [ld16, hfield (by decide), hfield (by decide), ← ld16, hword, ← hhead, ld16_st16]
  · have hpos : o ≠ 0 := by
      rintro rfl
      exact absurd (List.mem_of_getElem? ho) (by decide)
    rw [ld16, hfield (Nat.succ_ne_zero o), hfield hpos, ← ld16]
    exact hchars d o ho

/-! ### Reading a part -/

/-- The loops of `pick_lfn` and `cmp_lfn` before character `i`. -/
structure Picking (n : LongName) (i ni pchr : ℕ) : Prop where
  inside : i ≤ n.chars.length → pchr ≠ 0 ∧ ni = i
  beyond : n.chars.length < i → pchr = 0

/-- One character of an entry is the next of the name. -/
theorem Picking.step {i ni pchr : ℕ} (h : Picking n i ni pchr) (hpchr : pchr ≠ 0) :
    i ≤ n.chars.length ∧ ni = i ∧ Picking n (i + 1) (ni + 1) (n.charAt i) := by
  rcases Nat.lt_or_ge n.chars.length i with hi | hi
  · exact absurd (h.beyond hi) hpchr
  · obtain ⟨-, rfl⟩ := h.inside hi
    refine ⟨hi, rfl, fun hle ↦ ⟨Nat.ne_of_gt (LongName.charAt_of_lt hle).1, rfl⟩, fun hgt ↦ ?_⟩
    exact LongName.charAt_eq_zero_iff.2 (by omega)

/-- After the terminator there are only fillers. -/
theorem Picking.filler {i ni : ℕ} (h : Picking n i ni 0) :
    n.chars.length < i ∧ n.charAt i = 0xFFFF ∧ Picking n (i + 1) ni 0 := by
  have hi : n.chars.length < i := by
    by_contra hi
    exact (h.inside (Nat.le_of_not_lt hi)).1 rfl
  exact ⟨hi, LongName.charAt_of_gt hi, fun hle ↦ absurd hle (by omega), fun _ ↦ rfl⟩

/-- The buffer with the characters from `i` to `j` of the name. -/
def LongName.pickedInto (n : LongName) (lfnbuf : LfnBuf) (i j : ℕ) : LfnBuf := fun x ↦
  if i ≤ x ∧ x < j ∧ x ≤ n.chars.length then n.charAt x else lfnbuf x

/-- The characters of an entry are picked into the buffer where the name has them. -/
theorem pickChars_spec (lfnbuf : LfnBuf) {ofs : List ℕ} {i ni pchr : ℕ} (h : Picking n i ni pchr)
    (hchars : ∀ d o, ofs[d]? = some o → ld16 e o = n.charAt (i + d)) :
    ∃ ni' pchr', pickChars e ofs ni pchr lfnbuf =
        (n.pickedInto lfnbuf i (i + ofs.length), some (ni', pchr')) ∧
      Picking n (i + ofs.length) ni' pchr' := by
  induction ofs generalizing i ni pchr lfnbuf with
  | nil =>
    refine ⟨ni, pchr, ?_, h⟩
    have hsame : n.pickedInto lfnbuf i (i + 0) = lfnbuf := by
      funext x
      exact if_neg (by omega)
    rw [pickChars, List.length_nil, hsame]
  | cons o ofs ih =>
    have hchr : ld16 e o = n.charAt i := hchars 0 o rfl
    have hrest : ∀ d o, ofs[d]? = some o → ld16 e o = n.charAt (i + 1 + d) := fun d o ho ↦ by
      rw [hchars (d + 1) o (by rwa [List.getElem?_cons_succ]), Nat.add_assoc, Nat.add_comm 1]
    have hlen : i + (o :: ofs).length = i + 1 + ofs.length := by
      rw [List.length_cons, Nat.add_comm ofs.length, Nat.add_assoc]
    rw [hlen]
    by_cases hpchr : pchr = 0
    · subst hpchr
      obtain ⟨hi, hfill, hnext⟩ := h.filler
      obtain ⟨ni', pchr', hrun, hend⟩ := ih lfnbuf hnext hrest
      refine ⟨ni', pchr', ?_, hend⟩
      have hsame : n.pickedInto lfnbuf (i + 1) (i + 1 + ofs.length) =
          n.pickedInto lfnbuf i (i + 1 + ofs.length) := by
        funext x
        rw [LongName.pickedInto, LongName.pickedInto, if_neg (by omega), if_neg (by omega)]
      rw [pickChars, hchr, hfill, ← hsame]
      exact hrun
    · obtain ⟨hi, rfl, hnext⟩ := h.step hpchr
      have hmax := n.length_le
      obtain ⟨ni', pchr', hrun, hend⟩ :=
        ih (Function.update lfnbuf ni (n.charAt ni)) hnext hrest
      refine ⟨ni', pchr', ?_, hend⟩
      have hsame : n.pickedInto (Function.update lfnbuf ni (n.charAt ni)) (ni + 1)
          (ni + 1 + ofs.length) = n.pickedInto lfnbuf ni (ni + 1 + ofs.length) := by
        funext x
        by_cases hx : x = ni
        · subst hx
          rw [LongName.pickedInto, if_neg (by omega), Function.update_self, LongName.pickedInto,
            if_pos ⟨Nat.le_refl _, by omega, hi⟩]
        · by_cases hin : ni + 1 ≤ x ∧ x < ni + 1 + ofs.length ∧ x ≤ n.chars.length
          · rw [LongName.pickedInto, if_pos hin, LongName.pickedInto, if_pos (by omega)]
          · rw [LongName.pickedInto, if_neg hin, Function.update_of_ne hx, LongName.pickedInto,
              if_neg (by omega)]
      rw [pickChars, hchr, if_pos hpchr, if_neg (by omega), hrun, hsame]

/-- The buffer holds the name from part `k` on. -/
def LongName.HeldFrom (n : LongName) (lfnbuf : LfnBuf) (k : ℕ) : Prop :=
  ∀ i, 13 * k ≤ i → i ≤ n.chars.length → lfnbuf i = n.charAt i

/-- **A part is read to its place**, and with the last part the terminator. -/
theorem pickLfn_spec (h : PartOf n k sum e) (hk : k < n.parts)
    (hlater : k + 1 < n.parts → n.HeldFrom lfnbuf (k + 1)) :
    ∃ lfnbuf', pickLfn lfnbuf e = (lfnbuf', true) ∧ n.HeldFrom lfnbuf' k := by
  have hlt := LongName.lt_parts_iff.1 hk
  have hmax := n.length_le
  have hbegin : Picking n (13 * k) (13 * k) 1 := ⟨fun _ ↦ ⟨by decide, rfl⟩, fun h ↦ by omega⟩
  obtain ⟨ni, pchr, hrun, hend⟩ := pickChars_spec lfnbuf hbegin h.chars
  have hlen : 13 * k + lfnOfs.length = 13 * (k + 1) := by rw [Nat.mul_succ]; rfl
  rw [hlen] at hrun hend
  have hpick : pickLfn lfnbuf e =
      if e 0 &&& 0x40 ≠ 0 ∧ pchr ≠ 0 then
        if maxLfn + 1 ≤ ni then (n.pickedInto lfnbuf (13 * k) (13 * (k + 1)), false)
        else (Function.update (n.pickedInto lfnbuf (13 * k) (13 * (k + 1))) ni 0, true)
      else (n.pickedInto lfnbuf (13 * k) (13 * (k + 1)), true) := by
    rw [pickLfn, if_neg (not_not_intro h.zero), (h.start hk).2.2, hrun]
  have hflag := h.last_iff hk
  rw [hpick]
  simp only [hflag]
  by_cases hlast : n.chars.length ≤ 13 * (k + 1) ∧ pchr ≠ 0
  · -- The name fills the entry, and the terminator follows it.
    have hge : 13 * (k + 1) ≤ n.chars.length := by
      by_contra hge
      exact hlast.2 (hend.beyond (Nat.lt_of_not_le hge))
    obtain ⟨-, rfl⟩ := hend.inside hge
    rw [if_pos hlast, if_neg (by omega)]
    refine ⟨_, rfl, fun i hi hle ↦ ?_⟩
    by_cases hi' : i = 13 * (k + 1)
    · rw [hi', Function.update_self, eq_comm, LongName.charAt_eq_zero_iff]
      omega
    · rw [Function.update_of_ne hi', LongName.pickedInto, if_pos ⟨hi, by omega, hle⟩]
  · rw [if_neg hlast]
    refine ⟨_, rfl, fun i hi hle ↦ ?_⟩
    by_cases hin : i < 13 * (k + 1)
    · rw [LongName.pickedInto, if_pos ⟨hi, hin, hle⟩]
    · rw [LongName.pickedInto, if_neg (by omega)]
      refine hlater (LongName.lt_parts_iff.2 ?_) i (by omega) hle
      by_contra hshort
      exact hlast ⟨by omega, (hend.inside (by omega)).1⟩

/-! ### Comparing a part -/

/-- The characters of an entry are compared with those of the buffer at the same places. -/
theorem cmpChars_spec (lfnbuf : LfnBuf) {ofs : List ℕ} {i ni pchr : ℕ} (h : Picking n i ni pchr)
    (hchars : ∀ d o, ofs[d]? = some o → ld16 e o = n.charAt (i + d)) :
    ∃ ni' pchr', Picking n (i + ofs.length) ni' pchr' ∧ cmpChars lfnbuf e ofs ni pchr =
      if ∀ x < i + ofs.length, i ≤ x → x ≤ n.chars.length →
        wtoupper (n.charAt x) = wtoupper (lfnbuf x) then some (ni', pchr') else none := by
  induction ofs generalizing i ni pchr with
  | nil =>
    refine ⟨ni, pchr, h, ?_⟩
    rw [cmpChars, if_pos]
    intro x hx hi
    rw [List.length_nil] at hx
    omega
  | cons o ofs ih =>
    have hchr : ld16 e o = n.charAt i := hchars 0 o rfl
    have hrest : ∀ d o, ofs[d]? = some o → ld16 e o = n.charAt (i + 1 + d) := fun d o ho ↦ by
      rw [hchars (d + 1) o (by rwa [List.getElem?_cons_succ]), Nat.add_assoc, Nat.add_comm 1]
    have hlen : i + (o :: ofs).length = i + 1 + ofs.length := by
      rw [List.length_cons, Nat.add_comm ofs.length, Nat.add_assoc]
    rw [hlen]
    by_cases hpchr : pchr = 0
    · subst hpchr
      obtain ⟨hi, hfill, hnext⟩ := h.filler
      obtain ⟨ni', pchr', hend, hrun⟩ := ih hnext hrest
      refine ⟨ni', pchr', hend, ?_⟩
      rw [cmpChars, hchr, hfill, if_neg (by decide), if_neg (by decide), hrun]
      refine if_congr ?_ rfl rfl
      exact ⟨fun hall x hx hix hle ↦ by omega, fun hall x hx hix hle ↦ by omega⟩
    · obtain ⟨hi, rfl, hnext⟩ := h.step hpchr
      have hmax := n.length_le
      obtain ⟨ni', pchr', hend, hrun⟩ := ih hnext hrest
      refine ⟨ni', pchr', hend, ?_⟩
      rw [cmpChars, hchr, if_pos hpchr]
      by_cases hfirst : wtoupper (n.charAt ni) = wtoupper (lfnbuf ni)
      · rw [if_neg (by omega), hrun]
        refine if_congr ?_ rfl rfl
        constructor
        · intro hall x hx hix hle
          rcases Nat.eq_or_lt_of_le hix with rfl | hlt
          · exact hfirst
          · exact hall x hx hlt hle
        · exact fun hall x hx hix hle ↦ hall x hx (Nat.le_of_succ_le hix) hle
      · rw [if_pos (.inr hfirst), if_neg]
        exact fun hall ↦ hfirst (hall ni (by omega) (Nat.le_refl _) hi)

/-- From part `k` on, the characters of the name are those of the buffer. -/
def LongName.MatchesFrom (n : LongName) (lfnbuf : LfnBuf) (k : ℕ) : Prop :=
  ∀ i, 13 * k ≤ i → i ≤ n.chars.length → wtoupper (n.charAt i) = wtoupper (lfnbuf i)

/-- **A part matches, and the later ones**, just when its characters do. -/
theorem cmpLfn_iff (h : PartOf n k sum e) (hk : k < n.parts) :
    (cmpLfn lfnbuf e = true ∧ (k + 1 < n.parts → n.MatchesFrom lfnbuf (k + 1))) ↔
      n.MatchesFrom lfnbuf k := by
  have hlt := LongName.lt_parts_iff.1 hk
  have hmax := n.length_le
  have hbegin : Picking n (13 * k) (13 * k) 1 := ⟨fun _ ↦ ⟨by decide, rfl⟩, fun h ↦ by omega⟩
  obtain ⟨ni, pchr, hend, hrun⟩ := cmpChars_spec lfnbuf hbegin h.chars
  have hlen : 13 * k + lfnOfs.length = 13 * (k + 1) := by rw [Nat.mul_succ]; rfl
  rw [hlen] at hend hrun
  have hterm : wtoupper (n.charAt n.chars.length) = wtoupper (lfnbuf n.chars.length) ↔
      lfnbuf n.chars.length = 0 := by
    rw [LongName.charAt_length, wtoupper_eq_zero_iff.2 rfl, eq_comm, wtoupper_eq_zero_iff]
  by_cases hall : ∀ x < 13 * (k + 1), 13 * k ≤ x → x ≤ n.chars.length →
      wtoupper (n.charAt x) = wtoupper (lfnbuf x)
  · have hcmp : cmpLfn lfnbuf e = true ↔
        ¬ (n.chars.length ≤ 13 * (k + 1) ∧ pchr ≠ 0 ∧ lfnbuf ni ≠ 0) := by
      rw [cmpLfn, if_neg (not_not_intro h.zero), (h.start hk).2.1, hrun, if_pos hall,
        ← h.last_iff hk]
      simp only [Bool.not_eq_true', ← Bool.not_eq_true, Bool.and_eq_true, decide_eq_true_eq,
        and_assoc]
    rw [hcmp]
    constructor
    · rintro ⟨hlast, hlater⟩ i hi hle
      by_cases hin : i < 13 * (k + 1)
      · exact hall i hin hi hle
      · by_cases hmore : k + 1 < n.parts
        · exact hlater hmore i (Nat.le_of_not_lt hin) hle
        · -- The terminator follows the last entry.
          have hge : n.chars.length ≤ 13 * (k + 1) :=
            Nat.le_of_not_lt fun hgt ↦ hmore (LongName.lt_parts_iff.2 hgt)
          obtain ⟨hpchr, rfl⟩ := hend.inside (by omega)
          obtain rfl : i = n.chars.length := by omega
          rw [hterm]
          by_contra hne
          exact hlast ⟨hge, hpchr, by rwa [show 13 * (k + 1) = n.chars.length by omega]⟩
    · refine fun hfrom ↦ ⟨?_, fun _ i hi hle ↦ hfrom i (by omega) hle⟩
      rintro ⟨hle, hpchr, hne⟩
      have hge : 13 * (k + 1) ≤ n.chars.length := by
        by_contra hge
        exact hpchr (hend.beyond (Nat.lt_of_not_le hge))
      obtain ⟨-, rfl⟩ := hend.inside hge
      have hlength : 13 * (k + 1) = n.chars.length := by omega
      rw [hlength] at hne
      exact hne (hterm.1 (hfrom _ (by omega) (Nat.le_refl _)))
  · have hcmp : cmpLfn lfnbuf e = false := by
      rw [cmpLfn, if_neg (not_not_intro h.zero), (h.start hk).2.1, hrun, if_neg hall]
    rw [hcmp]
    refine iff_of_false (fun hfalse ↦ absurd hfalse.1 (by decide)) fun hfrom ↦ hall ?_
    exact fun x _ hix hle ↦ hfrom x hix hle

/-- All parts match just when the names are the same. -/
theorem LongName.matchesFrom_zero {n' : LongName} (h : n'.Held lfnbuf) :
    n.MatchesFrom lfnbuf 0 ↔ n.Same n' := by
  rw [LongName.same_iff h]
  exact ⟨fun hall i hi ↦ hall i (Nat.zero_le _) hi, fun hall i _ hi ↦ hall i hi⟩

end Parts
