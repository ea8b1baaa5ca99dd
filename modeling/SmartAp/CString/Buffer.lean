import Mathlib.Data.Nat.Notation
import Mathlib.Data.List.TakeWhile
import Mathlib.Data.List.Infix

/-!
# Strings in fixed-size buffers

A `char buf[n]` is a list of `n` characters (`CharBuf`), and the string in it is what stands before
the first terminator (`CharBuf.str`). The string functions of the C library are given on these: the
ones that write take a buffer, the ones that only compare take the strings.

Every function has one lemma that says what it means for the strings, so that a user of a buffer
never looks at its bytes: `strlcpy_str` (a copy truncated to `n - 1` characters), `cutAt_str`
(everything from a character on is cut off), `strncmpEq_iff` (a prefix test), `strstr_iff` (an infix
test). A buffer that was written by `strlcpy` or cut is terminated, and a terminated buffer holds a
string shorter than itself (`str_length_lt`).
-/

/-- The terminator. -/
def nul : Char := '\x00'

/-- A `char[n]`. -/
structure CharBuf (n : ℕ) where
  chars : List Char
  length_chars : chars.length = n

namespace CharBuf

variable {n : ℕ}

/-- The string in the buffer. -/
def str (b : CharBuf n) : List Char := b.chars.takeWhile (· ≠ nul)

/-- The buffer holds a terminator. -/
def Terminated (b : CharBuf n) : Prop := nul ∈ b.chars

theorem nul_not_mem_str (b : CharBuf n) : nul ∉ b.str := fun h ↦ by
  simpa using List.mem_takeWhile_imp h

/-- **A terminated buffer holds a string shorter than itself.** -/
theorem str_length_lt {b : CharBuf n} (h : b.Terminated) : b.str.length < n := by
  have hpre : b.str <+: b.chars := List.takeWhile_prefix _
  have hle : b.str.length ≤ n := hpre.length_le.trans b.length_chars.le
  refine lt_of_le_of_ne hle fun heq ↦ ?_
  have hall : b.str = b.chars := hpre.eq_of_length (heq.trans b.length_chars.symm)
  have hmem : nul ∈ b.chars := h
  exact b.nul_not_mem_str (hall.symm ▸ hmem)

/-! ### Writing -/

/-- `strlcpy(b, src, n)`, and what `snprintf(b, n, ...)` does with the formatted text: at most
`n - 1` characters are copied, and a terminator is put behind them. -/
def strlcpy (b : CharBuf n) (src : List Char) : CharBuf n where
  chars := (src.take (n - 1) ++ nul :: b.chars.drop (min (n - 1) src.length + 1)).take n
  length_chars := by
    simp only [List.length_take, List.length_append, List.length_cons, List.length_drop,
      b.length_chars]
    omega

theorem strlcpy_chars (b : CharBuf n) (src : List Char) (hn : 0 < n) :
    (b.strlcpy src).chars =
      src.take (n - 1) ++ nul :: b.chars.drop (min (n - 1) src.length + 1) := by
  refine List.take_of_length_le ?_
  simp only [List.length_append, List.length_take, List.length_cons, List.length_drop,
    b.length_chars]
  omega

theorem strlcpy_terminated (b : CharBuf n) (src : List Char) (hn : 0 < n) :
    (b.strlcpy src).Terminated := by
  rw [Terminated, strlcpy_chars b src hn]
  simp

/-- **The copied string**, truncated to the size of the buffer. -/
theorem strlcpy_str (b : CharBuf n) {src : List Char} (hsrc : nul ∉ src) (hn : 0 < n) :
    (b.strlcpy src).str = src.take (n - 1) := by
  have hall : ∀ c ∈ src.take (n - 1), decide (c ≠ nul) = true := fun c hc ↦
    decide_eq_true fun h ↦ hsrc (h ▸ List.mem_of_mem_take hc)
  rw [str, strlcpy_chars b src hn, List.takeWhile_append_of_pos hall]
  simp

/-- `b[i] = '\0'`. -/
def setNul (b : CharBuf n) (i : ℕ) : CharBuf n where
  chars := b.chars.set i nul
  length_chars := by rw [List.length_set, b.length_chars]

/-- `strchr(b, c)` as an index, when it is not `NULL`. -/
def strchr (b : CharBuf n) (c : Char) : Option ℕ := b.str.idxOf? c

/-- `char *p = strchr(b, c); if (p) *p = '\0';` -/
def cutAt (b : CharBuf n) (c : Char) : CharBuf n :=
  match b.strchr c with
  | some i => b.setNul i
  | none => b

/-- The first occurrence of a character splits a list. -/
theorem takeWhile_ne_eq_take {l : List Char} {c : Char} (h : c ∈ l) :
    l.takeWhile (· ≠ c) = l.take (l.idxOf c) := by
  induction l with
  | nil => cases h
  | cons d l ih =>
    by_cases hd : d = c
    · simp [hd]
    · have hmem : c ∈ l := (List.mem_cons.1 h).resolve_left (Ne.symm hd)
      rw [List.takeWhile_cons_of_pos (by simpa using hd), List.idxOf_cons_ne _ hd, ih hmem,
        List.take_succ_cons]

/-- Writing a terminator inside the string shortens it to what stands before. -/
theorem setNul_str (b : CharBuf n) {i : ℕ} (hi : i < b.str.length) :
    (b.setNul i).str = b.str.take i := by
  have hpre : b.str <+: b.chars := List.takeWhile_prefix _
  have hlt : i < b.chars.length := lt_of_lt_of_le hi hpre.length_le
  have htake : b.str.take i = b.chars.take i := by
    obtain ⟨t, ht⟩ := hpre
    rw [← ht, List.take_append_of_le_length hi.le]
  have hall : ∀ c ∈ b.chars.take i, decide (c ≠ nul) = true := fun c hc ↦
    decide_eq_true fun h ↦ b.nul_not_mem_str (h ▸ List.mem_of_mem_take (htake ▸ hc))
  show (b.chars.set i nul).takeWhile (· ≠ nul) = b.str.take i
  rw [htake, List.set_eq_take_append_cons_drop, if_pos hlt, List.takeWhile_append_of_pos hall]
  simp

/-- **Cutting a string at a character.** -/
theorem cutAt_str (b : CharBuf n) (c : Char) : (b.cutAt c).str = b.str.takeWhile (· ≠ c) := by
  rw [cutAt, strchr]
  by_cases hc : c ∈ b.str
  · have hlt := List.idxOf_lt_length_iff.2 hc
    obtain ⟨i, hi⟩ := Option.isSome_iff_exists.1 (List.isSome_idxOf?.2 hc)
    have hidx : b.str.idxOf c = i := by rw [List.idxOf_eq_getD_idxOf?, hi, Option.getD_some]
    rw [hi, ← hidx]
    show (b.setNul (b.str.idxOf c)).str = _
    rw [setNul_str b hlt, takeWhile_ne_eq_take hc]
  · rw [List.idxOf?_eq_none_iff.2 hc]
    show b.str = _
    rw [List.takeWhile_eq_self_iff.2]
    exact fun d hd ↦ decide_eq_true fun h ↦ hc (h ▸ hd)

theorem setNul_terminated {b : CharBuf n} (h : b.Terminated) (i : ℕ) :
    (b.setNul i).Terminated := by
  obtain ⟨j, hj, hjn⟩ := List.getElem_of_mem h
  rw [Terminated, setNul, List.mem_iff_getElem]
  refine ⟨j, by rwa [List.length_set], ?_⟩
  rw [List.getElem_set]
  split
  · rfl
  · exact hjn

theorem cutAt_terminated {b : CharBuf n} (h : b.Terminated) (c : Char) :
    (b.cutAt c).Terminated := by
  rw [cutAt]
  split
  · exact setNul_terminated h _
  · exact h

end CharBuf

/-! ### Comparing -/

/-- `s[i]`, which is the terminator at the end of the string. -/
def charAt (s : List Char) (i : ℕ) : Char := s.getD i nul

/-- `strncmp(s, t, k) == 0`. -/
def strncmpEq : ℕ → List Char → List Char → Bool
  | 0, _, _ => true
  | _ + 1, [], [] => true
  | k + 1, c :: s, d :: t => c = d && strncmpEq k s t
  | _ + 1, _, _ => false

/-- Over the length of the second string, `strncmp` tests for a prefix. -/
theorem strncmpEq_iff {s t : List Char} : strncmpEq t.length s t = true ↔ t <+: s := by
  induction t generalizing s with
  | nil => simp [strncmpEq]
  | cons d t ih =>
    cases s with
    | nil => simp [strncmpEq]
    | cons c s =>
      rw [List.length_cons, strncmpEq, Bool.and_eq_true, ih, List.cons_prefix_cons, decide_eq_true_eq,
        eq_comm]

/-- `strstr(s, t) != NULL`. -/
def strstr : List Char → List Char → Bool
  | [], t => t.isPrefixOf []
  | c :: s, t => t.isPrefixOf (c :: s) || strstr s t

/-- `strstr` tests for an infix. -/
theorem strstr_iff {s t : List Char} : strstr s t = true ↔ t <:+: s := by
  induction s with
  | nil =>
    rw [strstr, List.isPrefixOf_iff_prefix]
    exact ⟨List.IsPrefix.isInfix, fun h ↦ by rw [List.eq_nil_of_infix_nil h]⟩
  | cons c s ih =>
    rw [strstr, Bool.or_eq_true, List.isPrefixOf_iff_prefix, ih, List.infix_cons_iff]
