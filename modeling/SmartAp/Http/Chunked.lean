import Mathlib.Data.Nat.Notation
import Mathlib.Data.List.Basic
import Mathlib.Algebra.Group.Nat.Defs

/-!
# The chunked transfer coding

Encoder and incremental decoder of the HTTP/1.1 chunked coding, without chunk extensions and
trailers. The decoder reads one byte at a time and can be asked at any moment what it has decoded so
far and whether it has read the size line of a zero-length chunk, so that a transfer cut off at any
byte has a meaning.

The main result is `sound_of_prefix`: on every prefix of an encoded body the decoder is never in its
error state, what it has decoded is a prefix of what was encoded, and a zero-length chunk has been
read only if the body was closed, and then everything has been decoded.

The induction is over the bytes of the body. `AllAlong step P s w` says that `P` holds in every
state an automaton goes through; it splits along appends (`allAlong_append`), so the body is taken
apart piece by piece: size line, data, line end.
-/

/-! ### Automata -/

section AllAlong

variable {State Symbol : Type*} (step : State → Symbol → State) (P : State → Prop)

/-- The property holds before the first symbol and after each one. -/
def AllAlong : State → List Symbol → Prop
  | s, [] => P s
  | s, a :: w => P s ∧ AllAlong (step s a) w

variable {step P}

theorem AllAlong.here {s : State} {w : List Symbol} (h : AllAlong step P s w) : P s := by
  cases w with
  | nil => exact h
  | cons a w => exact h.1

theorem allAlong_append {s : State} {v w : List Symbol} (hv : AllAlong step P s v)
    (hw : AllAlong step P (v.foldl step s) w) : AllAlong step P s (v ++ w) := by
  induction v generalizing s with
  | nil => exact hw
  | cons a v ih => exact ⟨hv.1, ih hv.2 hw⟩

/-- **Every prefix** of the input leads to a state with the property. -/
theorem AllAlong.of_prefix {s : State} {v w : List Symbol} (h : AllAlong step P s w)
    (hv : v <+: w) : P (v.foldl step s) := by
  induction v generalizing s w with
  | nil => exact h.here
  | cons a v ih =>
    obtain ⟨u, rfl⟩ := hv
    exact ih h.2 (List.prefix_append v u)

end AllAlong

/-! ### The coding -/

/-- A hexadecimal digit in lower case. -/
def hexDigit (k : ℕ) : UInt8 := (if k < 10 then 48 + k else 87 + k).toUInt8

/-- A number in hexadecimal, as `%lx` prints it. -/
def hexDigits (n : ℕ) : List UInt8 :=
  if n < 16 then [hexDigit n] else hexDigits (n / 16) ++ [hexDigit (n % 16)]
  termination_by n

/-- CR LF. -/
def crlf : List UInt8 := [13, 10]

/-- The line that announces a chunk. -/
def sizeLine (n : ℕ) : List UInt8 := hexDigits n ++ crlf

/-- One chunk. -/
def encodeChunk (chunk : List UInt8) : List UInt8 := sizeLine chunk.length ++ chunk ++ crlf

/-- A body: its chunks, and the zero-length chunk when it is closed. -/
def encodeBody (chunks : List (List UInt8)) (closed : Bool) : List UInt8 :=
  (chunks.map encodeChunk).flatten ++ if closed then encodeChunk [] else []

/-- The value of a hexadecimal digit. -/
def hexValue (b : UInt8) : Option ℕ :=
  if 48 ≤ b.toNat ∧ b.toNat ≤ 57 then some (b.toNat - 48)
  else if 97 ≤ b.toNat ∧ b.toNat ≤ 102 then some (b.toNat - 87)
  else if 65 ≤ b.toNat ∧ b.toNat ≤ 70 then some (b.toNat - 55)
  else none

/-- Where the decoder stands. -/
inductive ChunkPhase
  /-- A size line begins. -/
  | start
  | size (n : ℕ)
  | sizeLf (n : ℕ)
  /-- One more byte of data than the number says is left. -/
  | data (left : ℕ)
  | dataCr
  | dataLf
  | endCr
  | endLf
  | finished
  | bad
  deriving DecidableEq

/-- The decoder: where it stands, what it has decoded, and whether it has read the size line of a
zero-length chunk. -/
structure ChunkDecoder where
  phase : ChunkPhase := .start
  data : List UInt8 := []
  zeroChunk : Bool := false
  deriving DecidableEq

/-- Read one byte. -/
def ChunkDecoder.step (s : ChunkDecoder) (b : UInt8) : ChunkDecoder :=
  match s.phase with
  | .start => { s with phase := ((hexValue b).map .size).getD .bad }
  | .size n =>
    { s with phase := if b = 13 then .sizeLf n else ((hexValue b).map fun v ↦
        .size (n * 16 + v)).getD .bad }
  | .sizeLf 0 => if b = 10 then { s with phase := .endCr, zeroChunk := true }
      else { s with phase := .bad }
  | .sizeLf (n + 1) => { s with phase := if b = 10 then .data n else .bad }
  | .data 0 => { s with phase := .dataCr, data := s.data ++ [b] }
  | .data (left + 1) => { s with phase := .data left, data := s.data ++ [b] }
  | .dataCr => { s with phase := if b = 13 then .dataLf else .bad }
  | .dataLf => { s with phase := if b = 10 then .start else .bad }
  | .endCr => { s with phase := if b = 13 then .endLf else .bad }
  | .endLf => { s with phase := if b = 10 then .finished else .bad }
  | .finished | .bad => { s with phase := .bad }

/-- Decode a byte string from the beginning of a body. -/
def decodeChunked (bytes : List UInt8) : ChunkDecoder := bytes.foldl ChunkDecoder.step {}

/-- The decoder has met no error, has decoded a prefix of `whole`, and has met a zero-length chunk
only if the body was closed, and then with everything decoded. -/
structure ChunkDecoder.Sound (whole : List UInt8) (closed : Bool) (s : ChunkDecoder) : Prop where
  not_bad : s.phase ≠ .bad
  data_prefix : s.data <+: whole
  zeroChunk : s.zeroChunk = true → closed = true ∧ s.data = whole

/-! ### Size lines -/

theorem hexValue_hexDigit {k : ℕ} (h : k < 16) : hexValue (hexDigit k) = some k := by
  have hall : ∀ k < 16, hexValue (hexDigit k) = some k := by decide
  exact hall k h

theorem hexDigit_ne_cr {k : ℕ} (h : k < 16) : hexDigit k ≠ 13 := by
  have hall : ∀ k < 16, hexDigit k ≠ 13 := by decide
  exact hall k h

/-- The number of digits. -/
theorem length_hexDigits_le {n k : ℕ} (h : n < 16 ^ (k + 1)) : (hexDigits n).length ≤ k + 1 := by
  induction k generalizing n with
  | zero =>
    rw [hexDigits, if_pos (by omega)]
    exact Nat.le_refl 1
  | succ k ih =>
    rw [hexDigits]
    split
    · simp
    · have hdiv : n / 16 < 16 ^ (k + 1) := by
        rw [Nat.pow_succ] at h
        omega
      have hlen := ih hdiv
      rw [List.length_append, List.length_singleton]
      omega

variable {whole data : List UInt8} {closed : Bool}

/-- A decoder between two chunks, or inside a chunk that is not the last, is sound as long as its
data is. -/
theorem ChunkDecoder.Sound.of_phase {phase : ChunkPhase} (hbad : phase ≠ .bad)
    (hdata : data <+: whole) : ChunkDecoder.Sound whole closed ⟨phase, data, false⟩ :=
  ⟨hbad, hdata, nofun⟩

variable (closed)

/-- The digits of a number are read as that number. -/
theorem hexDigits_run (n : ℕ) (hdata : data <+: whole) :
    (hexDigits n).foldl ChunkDecoder.step ⟨.start, data, false⟩ = ⟨.size n, data, false⟩ ∧
      AllAlong ChunkDecoder.step (ChunkDecoder.Sound whole closed) ⟨.start, data, false⟩
        (hexDigits n) := by
  induction n using hexDigits.induct with
  | case1 n hlt =>
    have hstep : ChunkDecoder.step ⟨.start, data, false⟩ (hexDigit n) = ⟨.size n, data, false⟩ := by
      simp [ChunkDecoder.step, hexValue_hexDigit hlt]
    rw [hexDigits, if_pos hlt]
    refine ⟨hstep, .of_phase (by simp) hdata, ?_⟩
    rw [hstep]
    exact .of_phase (by simp) hdata
  | case2 n hge ih =>
    have hlt : n % 16 < 16 := Nat.mod_lt n (by omega)
    have hstep : ChunkDecoder.step ⟨.size (n / 16), data, false⟩ (hexDigit (n % 16)) =
        ⟨.size n, data, false⟩ := by
      have hn : n / 16 * 16 + n % 16 = n := by omega
      simp [ChunkDecoder.step, hexValue_hexDigit hlt, hexDigit_ne_cr hlt, hn]
    rw [hexDigits, if_neg hge]
    refine ⟨?_, allAlong_append ih.2 ?_⟩
    · rw [List.foldl_append, ih.1]
      exact hstep
    · rw [ih.1]
      refine ⟨.of_phase (by simp) hdata, ?_⟩
      rw [hstep]
      exact .of_phase (by simp) hdata

/-- The size line of a chunk that is not empty. -/
theorem sizeLine_run (n : ℕ) (hdata : data <+: whole) :
    (sizeLine (n + 1)).foldl ChunkDecoder.step ⟨.start, data, false⟩ = ⟨.data n, data, false⟩ ∧
      AllAlong ChunkDecoder.step (ChunkDecoder.Sound whole closed) ⟨.start, data, false⟩
        (sizeLine (n + 1)) := by
  obtain ⟨hrun, halong⟩ := hexDigits_run closed (n + 1) hdata
  refine ⟨?_, allAlong_append halong ?_⟩
  · rw [sizeLine, List.foldl_append, hrun]
    rfl
  · rw [hrun]
    exact ⟨.of_phase (by simp) hdata, .of_phase (by simp) hdata,
      .of_phase (by simp) hdata⟩

/-! ### Chunks -/

/-- The data of a chunk. -/
theorem data_run {chunk : List UInt8} (hne : chunk ≠ []) (hdata : data ++ chunk <+: whole) :
    chunk.foldl ChunkDecoder.step ⟨.data (chunk.length - 1), data, false⟩ =
        ⟨.dataCr, data ++ chunk, false⟩ ∧
      AllAlong ChunkDecoder.step (ChunkDecoder.Sound whole closed)
        ⟨.data (chunk.length - 1), data, false⟩ chunk := by
  induction chunk generalizing data with
  | nil => exact absurd rfl hne
  | cons b chunk ih =>
    have hhere : data <+: whole := (List.prefix_append data (b :: chunk)).trans hdata
    have hsplit : data ++ b :: chunk = (data ++ [b]) ++ chunk := by simp
    rw [hsplit] at hdata ⊢
    cases chunk with
    | nil =>
      rw [List.append_nil] at hdata
      rw [List.append_nil]
      exact ⟨rfl, .of_phase (by simp) hhere, .of_phase (by simp) hdata⟩
    | cons c chunk =>
      obtain ⟨hrun, halong⟩ := ih (by simp) hdata
      exact ⟨hrun, .of_phase (by simp) hhere, halong⟩

/-- A whole chunk. -/
theorem encodeChunk_run {chunk : List UInt8} (hne : chunk ≠ []) (hdata : data ++ chunk <+: whole) :
    (encodeChunk chunk).foldl ChunkDecoder.step ⟨.start, data, false⟩ =
        ⟨.start, data ++ chunk, false⟩ ∧
      AllAlong ChunkDecoder.step (ChunkDecoder.Sound whole closed) ⟨.start, data, false⟩
        (encodeChunk chunk) := by
  have hhere : data <+: whole := (List.prefix_append data chunk).trans hdata
  have hpos : chunk.length - 1 + 1 = chunk.length := by
    have hlen := List.length_pos_iff.2 hne
    omega
  obtain ⟨hline, hlineAlong⟩ := sizeLine_run closed (chunk.length - 1) hhere
  obtain ⟨hrun, halong⟩ := data_run closed hne hdata
  rw [hpos] at hline hlineAlong
  have hboth : (sizeLine chunk.length ++ chunk).foldl ChunkDecoder.step ⟨.start, data, false⟩ =
      ⟨.dataCr, data ++ chunk, false⟩ := by
    rw [List.foldl_append, hline, hrun]
  refine ⟨?_, allAlong_append (allAlong_append hlineAlong ?_) ?_⟩
  · rw [encodeChunk, List.foldl_append, hboth]
    rfl
  · rw [hline]
    exact halong
  · rw [hboth]
    exact ⟨.of_phase (by simp) hdata, .of_phase (by simp) hdata,
      .of_phase (by simp) hdata⟩

/-- The zero-length chunk, read when everything has been decoded. -/
theorem encodeChunk_nil_run : AllAlong ChunkDecoder.step (ChunkDecoder.Sound whole true)
    ⟨.start, whole, false⟩ (encodeChunk []) := by
  have hself : whole <+: whole := List.prefix_refl whole
  have hdigit : hexDigits 0 = [hexDigit 0] := by rw [hexDigits, if_pos (by omega)]
  have hzero : encodeChunk [] = [48, 13, 10, 13, 10] := by
    rw [encodeChunk, List.length_nil, sizeLine, hdigit]
    rfl
  rw [hzero]
  exact ⟨.of_phase (by simp) hself, .of_phase (by simp [hexValue]) hself,
    .of_phase (by simp) hself,
    ⟨by simp [ChunkDecoder.step, hexValue], hself, fun _ ↦ ⟨rfl, rfl⟩⟩,
    ⟨by simp [ChunkDecoder.step, hexValue], hself, fun _ ↦ ⟨rfl, rfl⟩⟩,
    ⟨by simp [ChunkDecoder.step, hexValue], hself, fun _ ↦ ⟨rfl, rfl⟩⟩⟩

/-! ### Bodies -/

variable {closed}

theorem encodeBody_along {chunks : List (List UInt8)} (hne : ∀ chunk ∈ chunks, chunk ≠ [])
    (hwhole : data ++ chunks.flatten <+: whole)
    (hclosed : closed = true → data ++ chunks.flatten = whole) :
    AllAlong ChunkDecoder.step (ChunkDecoder.Sound whole closed) ⟨.start, data, false⟩
      (encodeBody chunks closed) := by
  induction chunks generalizing data with
  | nil =>
    rw [List.flatten_nil, List.append_nil] at hwhole hclosed
    cases closed with
    | false => exact .of_phase (by simp) hwhole
    | true =>
      obtain rfl := hclosed rfl
      exact encodeChunk_nil_run
  | cons chunk chunks ih =>
    rw [List.flatten_cons, ← List.append_assoc] at hwhole hclosed
    have hchunk : data ++ chunk <+: whole := (List.prefix_append _ _).trans hwhole
    obtain ⟨hrun, halong⟩ := encodeChunk_run closed (hne chunk List.mem_cons_self) hchunk
    have hbody :
        encodeBody (chunk :: chunks) closed = encodeChunk chunk ++ encodeBody chunks closed := by
      rw [encodeBody, encodeBody, List.map_cons, List.flatten_cons, List.append_assoc]
    rw [hbody]
    refine allAlong_append halong ?_
    rw [hrun]
    exact ih (fun c hc ↦ hne c (List.mem_cons_of_mem _ hc)) hwhole hclosed

/-- **Every prefix of an encoded body decodes soundly.** -/
theorem sound_of_prefix {chunks : List (List UInt8)} {bytes : List UInt8}
    (hne : ∀ chunk ∈ chunks, chunk ≠ []) (hwhole : chunks.flatten <+: whole)
    (hclosed : closed = true → chunks.flatten = whole)
    (hbytes : bytes <+: encodeBody chunks closed) : (decodeChunked bytes).Sound whole closed := by
  have halong : AllAlong ChunkDecoder.step (ChunkDecoder.Sound whole closed) ⟨.start, [], false⟩
      (encodeBody chunks closed) := encodeBody_along hne hwhole hclosed
  exact halong.of_prefix hbytes
