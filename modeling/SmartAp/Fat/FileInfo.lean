import SmartAp.Fat.Directory

/-!
# The information on an object

What `get_fileinfo` of `ff.c` makes of an entry of a directory: the members of `FILINFO`.

The long name is converted from UTF-16 to the code page character by character, with `put_utf` and
`ff_uni2oem`, for the API encoding and the code page that the firmware is built with (ANSI/OEM and
437). A name with a character that the code page lacks is not shown at all: the short name takes its
place, in lower case where the entry says so. The loop reads `lfnbuf` up to its terminator, and to
read behind the buffer is the result `none`, which a name that is held in the buffer excludes
(`lfnName_held`).

What is shown of a long name decodes to the name itself under `ff_oem2uni`, by which `f_open` reads a
path (`LongName.oem_decode`). So a name that is shown in full leads back to its object.
-/

/-- `uc437`: "CP437(U.S.) to Unicode conversion table" -/
def uc437 : List ℕ :=
  [0x00C7, 0x00FC, 0x00E9, 0x00E2, 0x00E4, 0x00E0, 0x00E5, 0x00E7, 0x00EA, 0x00EB, 0x00E8, 0x00EF,
   0x00EE, 0x00EC, 0x00C4, 0x00C5, 0x00C9, 0x00E6, 0x00C6, 0x00F4, 0x00F6, 0x00F2, 0x00FB, 0x00F9,
   0x00FF, 0x00D6, 0x00DC, 0x00A2, 0x00A3, 0x00A5, 0x20A7, 0x0192, 0x00E1, 0x00ED, 0x00F3, 0x00FA,
   0x00F1, 0x00D1, 0x00AA, 0x00BA, 0x00BF, 0x2310, 0x00AC, 0x00BD, 0x00BC, 0x00A1, 0x00AB, 0x00BB,
   0x2591, 0x2592, 0x2593, 0x2502, 0x2524, 0x2561, 0x2562, 0x2556, 0x2555, 0x2563, 0x2551, 0x2557,
   0x255D, 0x255C, 0x255B, 0x2510, 0x2514, 0x2534, 0x252C, 0x251C, 0x2500, 0x253C, 0x255E, 0x255F,
   0x255A, 0x2554, 0x2569, 0x2566, 0x2560, 0x2550, 0x256C, 0x2567, 0x2568, 0x2564, 0x2565, 0x2559,
   0x2558, 0x2552, 0x2553, 0x256B, 0x256A, 0x2518, 0x250C, 0x2588, 0x2584, 0x258C, 0x2590, 0x2580,
   0x03B1, 0x00DF, 0x0393, 0x03C0, 0x03A3, 0x03C3, 0x00B5, 0x03C4, 0x03A6, 0x0398, 0x03A9, 0x03B4,
   0x221E, 0x03C6, 0x03B5, 0x2229, 0x2261, 0x00B1, 0x2265, 0x2264, 0x2320, 0x2321, 0x00F7, 0x2248,
   0x00B0, 0x2219, 0x00B7, 0x221A, 0x207F, 0x00B2, 0x25A0, 0x00A0]

/-- `ff_uni2oem`; 0 on error. -/
def uni2oem (uni : ℕ) : ℕ :=
  if uni < 0x80 then uni
  else if uni < 0x10000 then (uc437.idxOf uni + 0x80) &&& 0xFF
  else 0

/-- `ff_oem2uni`; 0 on error. -/
def oem2uni (oem : ℕ) : ℕ :=
  if oem < 0x80 then oem
  else if oem < 0x100 then uc437.getD (oem - 0x80) 0
  else 0

/-- `IsSurrogate` -/
def IsSurrogate (c : ℕ) : Prop := 0xD800 ≤ c ∧ c ≤ 0xDFFF

instance (c : ℕ) : Decidable (IsSurrogate c) := inferInstanceAs (Decidable (_ ∧ _))

/-- `put_utf`: the units that it stores; none if the buffer is full or the code is wrong. -/
def putUtf (chr szb : ℕ) : List UInt8 :=
  let wc := uni2oem chr
  if 0x100 ≤ wc then
    if szb < 2 then [] else [UInt8.ofNat (wc >>> 8), UInt8.ofNat wc]
  else if wc = 0 ∨ szb < 1 then []
  else [UInt8.ofNat wc]

/-! ### The members of `FILINFO` -/

/-- `FILINFO`; the names are without their terminators. -/
structure FileInfo where
  fname : List UInt8
  altname : List UInt8
  fattrib : UInt8
  fsize : ℕ
  ftime : ℕ
  fdate : ℕ
  deriving DecidableEq

/-- `FF_LFN_BUF` -/
def lfnBufSize : ℕ := 255

/-- `FF_SFN_BUF` -/
def sfnBufSize : ℕ := 12

/-- The characters in `lfnbuf`, as far as the buffer goes. -/
def lfnCells (lfnbuf : LfnBuf) : List ℕ := (List.range (maxLfn + 1)).map lfnbuf

/-- "Get LFN if available": the loop over `lfnbuf`, with a high surrogate in `hs` and what was stored
in `fname`. The LFN is invalid if it is empty. -/
def lfnName : (hs : ℕ) → (cells : List ℕ) → (fname : List UInt8) → Option (List UInt8)
  | _, [], _ => none
  | hs, wc :: cells, fname =>
    if wc = 0 then some (if hs ≠ 0 then [] else fname)
    else if hs = 0 ∧ IsSurrogate wc then lfnName wc cells fname
    else
      let units := putUtf (hs <<< 16 ||| wc) (lfnBufSize - fname.length)
      if units = [] then some [] else lfnName 0 cells (fname ++ units)

/-- One round of "Get SFN from SFN entry". -/
def putSfnChar (dir : Memory) (altname : List UInt8) (si : ℕ) : List UInt8 :=
  let wc := dir si
  if wc = 0x20 then altname
  else
    let wc := if wc = 0x05 then 0xE5 else wc
    let dot := if si = 8 ∧ altname.length < sfnBufSize then [0x2E] else []
    altname ++ dot ++ [wc]

/-- What is stored in `altname`. -/
def sfnName (dir : Memory) : List UInt8 := (List.range 11).foldl (putSfnChar dir) []

/-- A string ends before its terminator. -/
def cString (s : List UInt8) : List UInt8 := s.takeWhile (· ≠ 0)

/-- "Copy altname[] to fname[] with case information" -/
def copyCase (ntres : UInt8) : (lcflg : UInt8) → (altname : List UInt8) → List UInt8
  | _, [] => []
  | lcflg, wc :: altname =>
    let lcflg := if wc = 0x2E then 0x10 else lcflg
    (if 0x41 ≤ wc ∧ wc ≤ 0x5A ∧ ntres &&& lcflg ≠ 0 then wc + 0x20 else wc) ::
      copyCase ntres lcflg altname

/-- The rest of `get_fileinfo`, when `lfn` is in `fname`. -/
def fileInfo (lfn : List UInt8) (dir : Memory) : FileInfo where
  fname :=
    if lfn ≠ [] then lfn
    else if sfnName dir = [] then [0x3F]
    else copyCase (dir 12) 0x08 (cString (sfnName dir))
  altname := if lfn = [] ∧ dir 12 = 0 then [] else cString (sfnName dir)
  fattrib := dir 11 &&& 0x3F
  fsize := ld32 dir 28
  ftime := ld16 dir 22
  fdate := ld16 dir 24

/-- **`get_fileinfo`**, which gives no name at the end of the directory. -/
def getFileinfo : DirM (Option (Option FileInfo)) := do
  let s ← get
  if s.sect = 0 then return some none
  else if s.seq.blkOfs ≠ 0xFFFFFFFF then
    match lfnName 0 (lfnCells s.seq.lfnbuf) [] with
    | none => return none
    | some lfn => return some (some (fileInfo lfn s.entry))
  else return some (some (fileInfo [] s.entry))

/-! ### The code page -/

/-- A character of the code page is one byte. -/
theorem uni2oem_lt (uni : ℕ) : uni2oem uni < 0x100 := by
  rw [uni2oem]
  split
  · omega
  · split
    · exact Nat.and_lt_two_pow _ (by decide : 0xFF < 2 ^ 8)
    · decide

theorem length_uc437 : uc437.length = 0x80 := by
  decide +kernel

theorem uc437_lt : ∀ u ∈ uc437, u < 0xD800 := by
  decide +kernel

/-- A character that is not in the table has no code. -/
theorem uni2oem_of_notMem {uni : ℕ} (h : 0x80 ≤ uni) (hmem : uni ∉ uc437) : uni2oem uni = 0 := by
  rw [uni2oem, if_neg (by omega), List.idxOf_eq_length_iff.2 hmem, length_uc437]
  split
  · rfl
  · rfl

/-- No half of a surrogate pair is in the code page. -/
theorem uni2oem_of_surrogate {uni : ℕ} (h : IsSurrogate uni) : uni2oem uni = 0 := by
  refine uni2oem_of_notMem (by have := h.1; omega) fun hmem ↦ ?_
  exact absurd (uc437_lt uni hmem) (Nat.not_lt_of_le h.1)

/-- A pair of surrogates has no code. -/
theorem uni2oem_of_pair {hs wc : ℕ} (h : hs ≠ 0) : uni2oem (hs <<< 16 ||| wc) = 0 := by
  have hle : 0x10000 ≤ hs <<< 16 ||| wc := by
    refine Nat.le_trans ?_ Nat.left_le_or
    rw [Nat.shiftLeft_eq]
    omega
  rw [uni2oem, if_neg (by omega), if_neg (by omega)]

/-- **A code stands for its character.** -/
theorem oem2uni_uni2oem {uni : ℕ} (h : uni2oem uni ≠ 0) : oem2uni (uni2oem uni) = uni := by
  by_cases hascii : uni < 0x80
  · rw [uni2oem, if_pos hascii, oem2uni, if_pos hascii]
  · have hmem : uni ∈ uc437 := by
      by_contra hmem
      exact h (uni2oem_of_notMem (by omega) hmem)
    have hbmp := uc437_lt uni hmem
    have hidx := List.idxOf_lt_length_iff.2 hmem
    have hlt := hidx.trans_eq length_uc437
    have hcode : uni2oem uni = uc437.idxOf uni + 0x80 := by
      rw [uni2oem, if_neg hascii, if_pos (by omega), Nat.and_two_pow_sub_one_eq_mod _ 8,
        Nat.mod_eq_of_lt (by omega)]
    rw [hcode, oem2uni, if_neg (by omega), if_pos (by omega), Nat.add_sub_cancel,
      List.getD_eq_getElem?_getD, List.getElem?_eq_getElem hidx, Option.getD_some,
      List.getElem_idxOf]

/-! ### Long names -/

/-- All characters of the name are in the code page. -/
def LongName.InCodePage (n : LongName) : Prop := ∀ c ∈ n.chars, uni2oem c ≠ 0

instance (n : LongName) : Decidable n.InCodePage := inferInstanceAs (Decidable (∀ c ∈ n.chars, _))

/-- The name in the code page; it is empty if a character has no code. -/
def LongName.oem (n : LongName) : List UInt8 :=
  if n.InCodePage then n.chars.map fun c ↦ UInt8.ofNat (uni2oem c) else []

/-- **What is shown of a name is the whole name.** -/
theorem LongName.oem_decode {n : LongName} (h : n.InCodePage) :
    n.oem.map (fun b ↦ oem2uni b.toNat) = n.chars := by
  rw [oem, if_pos h, List.map_map]
  conv_rhs => rw [← List.map_id n.chars]
  refine List.map_congr_left fun c hc ↦ ?_
  have hlt := uni2oem_lt c
  rw [Function.comp_apply, UInt8.toNat_ofNat', Nat.mod_eq_of_lt (by omega),
    oem2uni_uni2oem (h c hc), id]

/-- A converted name has a character, as the name has. -/
theorem LongName.oem_ne_nil {n : LongName} (h : n.InCodePage) : n.oem ≠ [] := by
  rw [oem, if_pos h]
  exact fun hnil ↦ n.ne_nil (List.map_eq_nil_iff.1 hnil)

/-- `put_utf` writes one byte, or nothing for a character outside of the code page. -/
theorem putUtf_eq {chr szb : ℕ} (h : 0 < szb) :
    putUtf chr szb = if uni2oem chr = 0 then [] else [UInt8.ofNat (uni2oem chr)] := by
  have hlt := uni2oem_lt chr
  simp only [putUtf]
  rw [if_neg (by omega)]
  refine if_congr ⟨fun hor ↦ ?_, .inl⟩ rfl rfl
  omega

/-- A surrogate is never part of a name that is shown. -/
theorem lfnName_of_surrogate {hs : ℕ} (h : hs ≠ 0) (wc : ℕ) (cells : List ℕ) (fname : List UInt8) :
    lfnName hs (wc :: cells) fname = some [] := by
  have hunits : putUtf (hs <<< 16 ||| wc) (lfnBufSize - fname.length) = [] := by
    simp only [putUtf]
    rw [uni2oem_of_pair h, if_neg (by decide), if_pos (.inl rfl)]
  simp [lfnName, h, hunits]

/-- The loop over the characters of a name. -/
theorem lfnName_chars (chars : List ℕ) (hchars : ∀ c ∈ chars, c ≠ 0) (rest : List ℕ)
    (fname : List UInt8) (hroom : fname.length + chars.length ≤ lfnBufSize) :
    lfnName 0 (chars ++ 0 :: rest) fname =
      some (if ∀ c ∈ chars, uni2oem c ≠ 0 then
        fname ++ chars.map fun c ↦ UInt8.ofNat (uni2oem c) else []) := by
  induction chars generalizing fname with
  | nil =>
    rw [List.nil_append, lfnName, if_pos rfl, if_neg (not_not_intro rfl),
      if_pos fun c hc ↦ absurd hc List.not_mem_nil, List.map_nil, List.append_nil]
  | cons c chars ih =>
    rw [List.length_cons] at hroom
    have hunits := @putUtf_eq c (lfnBufSize - fname.length) (by omega)
    rw [List.cons_append, lfnName, if_neg (hchars c List.mem_cons_self)]
    by_cases hcode : uni2oem c = 0
    · rw [if_neg (fun hall ↦ hall c List.mem_cons_self hcode :
        ¬ ∀ c' ∈ c :: chars, uni2oem c' ≠ 0)]
      by_cases hsurrogate : IsSurrogate c
      · rw [if_pos ⟨rfl, hsurrogate⟩]
        obtain ⟨wc, cells, hcells⟩ := List.exists_cons_of_ne_nil
          (List.append_ne_nil_of_right_ne_nil chars (List.cons_ne_nil 0 rest))
        rw [hcells]
        exact lfnName_of_surrogate (hchars c List.mem_cons_self) _ _ _
      · rw [if_neg fun hand ↦ hsurrogate hand.2, Nat.zero_shiftLeft, Nat.zero_or]
        simp only [hunits, if_pos hcode, if_true]
    · have hsurrogate : ¬ IsSurrogate c := fun h ↦ hcode (uni2oem_of_surrogate h)
      rw [if_neg fun hand ↦ hsurrogate hand.2, Nat.zero_shiftLeft, Nat.zero_or]
      simp only [hunits, if_neg hcode, if_neg (List.cons_ne_nil _ _)]
      rw [ih (fun c' hc' ↦ hchars c' (List.mem_cons_of_mem c hc')) _
        (by rw [List.length_append, List.length_singleton]; omega)]
      refine congrArg some (if_congr ?_ ?_ rfl)
      · rw [List.forall_mem_cons]
        exact (and_iff_right hcode).symm
      · rw [List.map_cons, List.append_assoc, List.singleton_append]

/-- A name that is held in the buffer is a string there. -/
theorem LongName.Held.cells {n : LongName} {lfnbuf : LfnBuf} (h : n.Held lfnbuf) :
    ∃ rest, lfnCells lfnbuf = n.chars ++ 0 :: rest := by
  have hle := n.length_le
  have hsplit : maxLfn + 1 = n.chars.length + 1 + (maxLfn - n.chars.length) := by omega
  have hchars : (List.range n.chars.length).map lfnbuf = n.chars := by
    refine List.ext_getElem (by rw [List.length_map, List.length_range]) fun i hi hi' ↦ ?_
    rw [List.getElem_map, List.getElem_range, h i (Nat.le_of_lt hi'), charAt,
      if_pos (Nat.le_of_lt hi'), List.getD_eq_getElem?_getD, List.getElem?_eq_getElem hi',
      Option.getD_some]
  refine ⟨(List.range (maxLfn - n.chars.length)).map
    fun i ↦ lfnbuf (n.chars.length + 1 + i), ?_⟩
  rw [lfnCells, hsplit, List.range_add, List.map_append, List.range_succ, List.map_append, hchars,
    List.map_singleton, h _ (Nat.le_refl _), charAt_length, List.map_map, List.append_assoc,
    List.singleton_append]
  rfl

/-- **The name in the buffer is converted as a whole.** -/
theorem lfnName_held {n : LongName} {lfnbuf : LfnBuf} (h : n.Held lfnbuf) :
    lfnName 0 (lfnCells lfnbuf) [] = some n.oem := by
  obtain ⟨rest, hcells⟩ := h.cells
  rw [hcells, lfnName_chars n.chars (fun c hc ↦ Nat.ne_of_gt (n.char c hc).1) rest []
    (by rw [List.length_nil, Nat.zero_add]; exact n.length_le)]
  rfl
