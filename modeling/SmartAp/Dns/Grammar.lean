import Mathlib.Data.Nat.Notation
import Mathlib.Data.List.Basic

/-!
# DNS messages, section by section

The wire format of RFC 1035 as far as a parser needs it that never follows a compression pointer.
`QName` is the grammar of a name on the wire, `parseName` its parser, and the two agree
(`parseName_eq_some_iff`).
`parseMessage` reads a whole message by the four counts of its header.

Nothing here knows of a server: the byte string may be a query, a reply or neither.
-/

/-- A length byte may start a label. -/
def IsLabelLength (n : UInt8) : Prop := 1 ≤ n.toNat ∧ n.toNat ≤ 63

/-- Both top bits are set: the byte starts a compression pointer. -/
def IsPointer (n : UInt8) : Prop := n &&& 0xC0 = 0xC0

instance (n : UInt8) : Decidable (IsLabelLength n) :=
  inferInstanceAs (Decidable (1 ≤ n.toNat ∧ n.toNat ≤ 63))

instance (n : UInt8) : Decidable (IsPointer n) := inferInstanceAs (Decidable (n &&& 0xC0 = 0xC0))

/-- **A name on the wire**: labels, closed by a zero byte or by a pointer. -/
inductive QName : List UInt8 → Prop
  | root : QName [0]
  | pointer {hi lo : UInt8} : IsPointer hi → QName [hi, lo]
  | label {n : UInt8} {label rest : List UInt8} :
      IsLabelLength n → label.length = n.toNat → QName rest → QName (n :: (label ++ rest))

theorem IsPointer.not_isLabelLength {n : UInt8} (h : IsPointer n) : ¬ n.toNat ≤ 63 := by
  have hnat : n.toNat &&& 192 = 192 := by
    have hbyte := congrArg UInt8.toNat h
    rwa [UInt8.toNat_and] at hbyte
  have hle : n.toNat &&& 192 ≤ n.toNat := Nat.and_le_left
  omega

/-! ### The parser of a name -/

/-- The pointer that starts with `hi`. -/
def splitPointer (hi : UInt8) : List UInt8 → Option (List UInt8 × List UInt8)
  | [] => none
  | lo :: rest => some ([hi, lo], rest)

/-- Split a byte string into a name and the rest. -/
def parseName : List UInt8 → Option (List UInt8 × List UInt8)
  | [] => none
  | n :: bytes =>
    if n = 0 then some ([0], bytes)
    else if IsPointer n then splitPointer n bytes
    else if 63 < n.toNat ∨ bytes.length < n.toNat then none
    else
      (parseName (bytes.drop n.toNat)).map fun (name, rest) ↦
        (n :: (bytes.take n.toNat ++ name), rest)
  termination_by bytes => bytes.length
  decreasing_by exact Nat.lt_succ_of_le (List.length_drop ▸ Nat.sub_le _ _)

theorem isLabelLength_of {n : UInt8} (hzero : n ≠ 0) (hle : ¬ 63 < n.toNat) : IsLabelLength n := by
  refine ⟨Nat.pos_of_ne_zero fun h ↦ hzero ?_, Nat.le_of_not_lt hle⟩
  exact UInt8.toNat_inj.1 h

/-- What the parser splits off is a name. -/
theorem parseName_sound {bytes name rest : List UInt8} (h : parseName bytes = some (name, rest)) :
    bytes = name ++ rest ∧ QName name := by
  induction bytes using parseName.induct generalizing name rest with
  | case1 => rw [parseName] at h; cases h
  | case2 bytes =>
    rw [parseName, if_pos rfl] at h
    cases h
    exact ⟨rfl, .root⟩
  | case3 n bytes hzero hpointer =>
    rw [parseName, if_neg hzero, if_pos hpointer] at h
    cases bytes with
    | nil => cases h
    | cons lo tail =>
      cases h
      exact ⟨rfl, .pointer hpointer⟩
  | case4 n bytes hzero hpointer hbad =>
    rw [parseName, if_neg hzero, if_neg hpointer, if_pos hbad] at h
    cases h
  | case5 n bytes hzero hpointer hgood ih =>
    rw [parseName, if_neg hzero, if_neg hpointer, if_neg hgood] at h
    obtain ⟨⟨name', rest'⟩, hparse, heq⟩ := Option.map_eq_some_iff.1 h
    cases heq
    obtain ⟨hsplit, hname⟩ := ih hparse
    obtain ⟨hle, hlen⟩ := not_or.1 hgood
    refine ⟨?_, .label (isLabelLength_of hzero hle) ?_ hname⟩
    · rw [List.cons_append, List.append_assoc, ← hsplit, List.take_append_drop]
    · rw [List.length_take]
      omega

/-- The parser finds every name. -/
theorem parseName_append {name : List UInt8} (h : QName name) (rest : List UInt8) :
    parseName (name ++ rest) = some (name, rest) := by
  induction h with
  | root =>
    show parseName (0 :: rest) = _
    rw [parseName, if_pos rfl]
  | @pointer hi lo hpointer =>
    have hzero : hi ≠ 0 := fun h ↦ absurd (h ▸ hpointer) (by decide)
    rw [List.cons_append, parseName, if_neg hzero, if_pos hpointer]
    rfl
  | @label n label tail hn hlen _ ih =>
    have hzero : n ≠ 0 := fun h ↦ absurd (h ▸ hn.1) (by decide)
    have hpointer : ¬ IsPointer n := fun h ↦ h.not_isLabelLength hn.2
    have hgood : ¬ (63 < n.toNat ∨ (label ++ (tail ++ rest)).length < n.toNat) := by
      simp only [List.length_append]
      have hle := hn.2
      omega
    rw [List.cons_append, List.append_assoc, parseName, if_neg hzero, if_neg hpointer,
      if_neg hgood, ← hlen, List.drop_left, List.take_left, ih]
    rfl

/-- **The parser decides the grammar.** -/
theorem parseName_eq_some_iff {bytes name rest : List UInt8} :
    parseName bytes = some (name, rest) ↔ bytes = name ++ rest ∧ QName name := by
  refine ⟨parseName_sound, ?_⟩
  rintro ⟨rfl, hname⟩
  exact parseName_append hname rest

/-! ### Questions, records and messages -/

/-- Two bytes, most significant first. -/
def u16 (hi lo : UInt8) : ℕ := hi.toNat * 256 + lo.toNat

@[simp] theorem u16_zero_zero : u16 0 0 = 0 := by decide

@[simp] theorem u16_zero_one : u16 0 1 = 1 := by decide

/-- An entry of the question section; the name as it stands on the wire. -/
structure DnsQuestion where
  name : List UInt8
  qtype : ℕ
  qclass : ℕ
  deriving DecidableEq

/-- A resource record. Its `RDLENGTH` is the length of `rdata`. -/
structure DnsRecord where
  owner : List UInt8
  rtype : ℕ
  rclass : ℕ
  ttl : ℕ
  rdata : List UInt8
  deriving DecidableEq

/-- The sections of a message. -/
structure DnsMessage where
  questions : List DnsQuestion
  answers : List DnsRecord
  authorities : List DnsRecord
  additionals : List DnsRecord
  deriving DecidableEq

/-- Parse one question. -/
def parseQuestion (bytes : List UInt8) : Option (DnsQuestion × List UInt8) :=
  (parseName bytes).bind fun (name, rest) ↦
    match rest with
    | t0 :: t1 :: c0 :: c1 :: rest => some (⟨name, u16 t0 t1, u16 c0 c1⟩, rest)
    | _ => none

/-- Parse one record. -/
def parseRecord (bytes : List UInt8) : Option (DnsRecord × List UInt8) :=
  (parseName bytes).bind fun (owner, rest) ↦
    match rest with
    | t0 :: t1 :: c0 :: c1 :: l0 :: l1 :: l2 :: l3 :: r0 :: r1 :: rest =>
      if rest.length < u16 r0 r1 then none
      else
        some (⟨owner, u16 t0 t1, u16 c0 c1, u16 l0 l1 * 65536 + u16 l2 l3,
          rest.take (u16 r0 r1)⟩, rest.drop (u16 r0 r1))
    | _ => none

/-- Parse a section of the given number of entries. -/
def parseMany {Entry : Type} (parse : List UInt8 → Option (Entry × List UInt8)) :
    ℕ → List UInt8 → Option (List Entry × List UInt8)
  | 0, bytes => some ([], bytes)
  | k + 1, bytes =>
    (parse bytes).bind fun (entry, rest) ↦
      (parseMany parse k rest).map fun (entries, rest) ↦ (entry :: entries, rest)

/-- **Parse a message** by the counts of its header, and return what is left over. -/
def parseMessage : List UInt8 → Option (DnsMessage × List UInt8)
  | _ :: _ :: _ :: _ :: q0 :: q1 :: a0 :: a1 :: n0 :: n1 :: r0 :: r1 :: body =>
    (parseMany parseQuestion (u16 q0 q1) body).bind fun (questions, rest) ↦
      (parseMany parseRecord (u16 a0 a1) rest).bind fun (answers, rest) ↦
        (parseMany parseRecord (u16 n0 n1) rest).bind fun (authorities, rest) ↦
          (parseMany parseRecord (u16 r0 r1) rest).map fun (additionals, rest) ↦
            (⟨questions, answers, authorities, additionals⟩, rest)
  | _ => none

theorem parseMany_zero {Entry : Type} (parse : List UInt8 → Option (Entry × List UInt8))
    (bytes : List UInt8) : parseMany parse 0 bytes = some ([], bytes) := rfl

/-- A section whose count is zero. -/
theorem parseMany_none {Entry : Type} (parse : List UInt8 → Option (Entry × List UInt8))
    (bytes : List UInt8) : parseMany parse (u16 0 0) bytes = some ([], bytes) := by
  rw [u16_zero_zero, parseMany_zero]

/-- A section whose count is one. -/
theorem parseMany_single {Entry : Type} {parse : List UInt8 → Option (Entry × List UInt8)}
    {bytes rest : List UInt8} {entry : Entry} (h : parse bytes = some (entry, rest)) :
    parseMany parse (u16 0 1) bytes = some ([entry], rest) := by
  rw [u16_zero_one, parseMany, h, Option.bind_some]
  rfl

/-- A name followed by type and class is a question. -/
theorem parseQuestion_append {name : List UInt8} (h : QName name) (t0 t1 c0 c1 : UInt8)
    (rest : List UInt8) :
    parseQuestion (name ++ t0 :: t1 :: c0 :: c1 :: rest) =
      some (⟨name, u16 t0 t1, u16 c0 c1⟩, rest) := by
  rw [parseQuestion, parseName_append h, Option.bind_some]

/-- A name followed by the fixed fields and as many bytes as `RDLENGTH` says is a record. -/
theorem parseRecord_append {owner : List UInt8} (h : QName owner)
    (t0 t1 c0 c1 l0 l1 l2 l3 r0 r1 : UInt8) {rdata : List UInt8} (hlen : rdata.length = u16 r0 r1)
    (rest : List UInt8) :
    parseRecord
        (owner ++ t0 :: t1 :: c0 :: c1 :: l0 :: l1 :: l2 :: l3 :: r0 :: r1 :: (rdata ++ rest)) =
      some (⟨owner, u16 t0 t1, u16 c0 c1, u16 l0 l1 * 65536 + u16 l2 l3, rdata⟩, rest) := by
  have hfits : ¬ (rdata ++ rest).length < u16 r0 r1 := by
    rw [List.length_append]
    omega
  rw [parseRecord, parseName_append h, Option.bind_some]
  show (if (rdata ++ rest).length < u16 r0 r1 then none else _) = _
  rw [if_neg hfits, ← hlen, List.take_left, List.drop_left]

/-- A message without authority and additional records. -/
theorem parseMessage_of_sections {questions : List DnsQuestion} {answers : List DnsRecord}
    {i0 i1 f0 f1 q0 q1 a0 a1 : UInt8} {body rest rest' : List UInt8}
    (hquestions : parseMany parseQuestion (u16 q0 q1) body = some (questions, rest))
    (hanswers : parseMany parseRecord (u16 a0 a1) rest = some (answers, rest')) :
    parseMessage (i0 :: i1 :: f0 :: f1 :: q0 :: q1 :: a0 :: a1 :: 0 :: 0 :: 0 :: 0 :: body) =
      some (⟨questions, answers, [], []⟩, rest') := by
  simp only [parseMessage, hquestions, hanswers, u16_zero_zero, parseMany_zero, Option.bind_some,
    Option.map_some]
