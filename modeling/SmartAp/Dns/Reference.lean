import SmartAp.Dns.Packet

/-!
# The DNS responder equals its grammar

`DnsReference` says what a captive DNS server answers, in terms of the datagram alone: a list of
cases over the header fields, the grammar of a name, and the two ways an address answer can be
impossible. It knows nothing of the receive buffer, of positions or of the walk.

`handlePacket_eq_reference` is the comparison: for every datagram, whatever stale bytes follow it in
the buffer, the payloads `dns_server_task` sends are exactly the answer of the reference, and hence
at most one.

## The two sides

The code patches its reply into the receive buffer over the query, at positions that it has computed
by walking the name. The reference gives a reply as a list: a header made of fields of the query
(`replyHeader`), the question as it came, and an address record. `patchHeader_eq` and
`take_patchHeader` say what the writes leave in the buffer, and `questionPos_eq_some_iff` that the
walk ends at a position just when the datagram has a question there (`WireQuestion.At`).

Both directions are needed for the datagrams that get no answer, or an error: a walk that fails
means that there is no question, in any split of the bytes. So the grammar is a relation that the
parser decides, and not a function of the code.
-/

/-! ### The reference -/

/-- The QR bit: the datagram is itself a reply. -/
def IsReply (d : List UInt8) : Prop := 128 ≤ (rxAt d 2).toNat

instance (d : List UInt8) : Decidable (IsReply d) :=
  inferInstanceAs (Decidable (128 ≤ (rxAt d 2).toNat))

/-- The OPCODE. -/
def opcode (d : List UInt8) : ℕ := (rxAt d 2).toNat / 8 % 16

/-- The QDCOUNT. -/
def qdcount (d : List UInt8) : ℕ := u16 (rxAt d 4) (rxAt d 5)

/-- A question on the wire. -/
structure WireQuestion where
  name : List UInt8
  type_hi : UInt8
  type_lo : UInt8
  class_hi : UInt8
  class_lo : UInt8

/-- Its bytes. -/
def WireQuestion.bytes (q : WireQuestion) : List UInt8 :=
  q.name ++ [q.type_hi, q.type_lo, q.class_hi, q.class_lo]

/-- Its type. -/
def WireQuestion.qtype (q : WireQuestion) : ℕ := u16 q.type_hi q.type_lo

/-- Its class. -/
def WireQuestion.qclass (q : WireQuestion) : ℕ := u16 q.class_hi q.class_lo

/-- The datagram has this question at offset 12: a name and four more bytes, all inside it. -/
def WireQuestion.At (q : WireQuestion) (d : List UInt8) : Prop :=
  QName q.name ∧ q.bytes <+: d.drop 12

/-- The datagram is long enough for a header, is not a reply, is a standard query and announces one
question. -/
structure StandardQuery (d : List UInt8) : Prop where
  header : 12 ≤ d.length
  query : ¬ IsReply d
  standard : opcode d = 0
  one : qdcount d = 1

/-- The header of a reply: the identifier and the RD bit of the query, QR and AA set, and the given
RCODE and counts. -/
def replyHeader (d : List UInt8) (rcode qdcount ancount : UInt8) : List UInt8 :=
  [rxAt d 0, rxAt d 1, (rxAt d 2 &&& 0x01) ||| 0x84, rcode, 0, qdcount, 0, ancount, 0, 0, 0, 0]

/-- The address record: owner at offset 12, type A, class IN, one minute, four bytes of data. -/
def addressRecord (ip : UInt32) : List UInt8 :=
  [0xc0, 0x0c, 0x00, 0x01, 0x00, 0x01, 0x00, 0x00, 0x00, 0x3c, 0x00, 0x04] ++ ipBytes ip

/-- **The reference**: the answer to a datagram, `none` for silence. -/
inductive DnsReference (bufSize : ℕ) (ip : UInt32) (d : List UInt8) : Option (List UInt8) → Prop
  /-- Shorter than a header. -/
  | short : d.length < 12 → DnsReference bufSize ip d none
  /-- Itself a reply. -/
  | reply : 12 ≤ d.length → IsReply d → DnsReference bufSize ip d none
  /-- NOTIMP. -/
  | notImp : 12 ≤ d.length → ¬ IsReply d → opcode d ≠ 0 →
      DnsReference bufSize ip d (some (replyHeader d 4 0 0))
  /-- Not exactly one question. -/
  | count : 12 ≤ d.length → ¬ IsReply d → opcode d = 0 → qdcount d ≠ 1 →
      DnsReference bufSize ip d none
  /-- FORMERR. -/
  | formErr : StandardQuery d → (¬ ∃ q : WireQuestion, q.At d) →
      DnsReference bufSize ip d (some (replyHeader d 1 0 0))
  /-- REFUSED, with the question. -/
  | refused {q : WireQuestion} : StandardQuery d → q.At d → q.qclass ≠ 1 →
      DnsReference bufSize ip d (some (replyHeader d 5 1 0 ++ q.bytes))
  /-- An address is asked for and there is none, or no room for it. -/
  | silent {q : WireQuestion} : StandardQuery d → q.At d → q.qclass = 1 → q.qtype = 1 →
      (ip = 0 ∨ bufSize < 12 + q.bytes.length + 16) → DnsReference bufSize ip d none
  /-- The address. -/
  | address {q : WireQuestion} : StandardQuery d → q.At d → q.qclass = 1 → q.qtype = 1 →
      ip ≠ 0 → 12 + q.bytes.length + 16 ≤ bufSize →
      DnsReference bufSize ip d (some (replyHeader d 0 1 1 ++ q.bytes ++ addressRecord ip))
  /-- Nothing of this type: an empty answer. -/
  | noData {q : WireQuestion} : StandardQuery d → q.At d → q.qclass = 1 → q.qtype ≠ 1 →
      DnsReference bufSize ip d (some (replyHeader d 0 1 0 ++ q.bytes))

/-- The reference answers every datagram. -/
theorem DnsReference.total (bufSize : ℕ) (ip : UInt32) (d : List UInt8) :
    ∃ r, DnsReference bufSize ip d r := by
  by_cases hshort : d.length < 12
  · exact ⟨_, .short hshort⟩
  have hheader : 12 ≤ d.length := Nat.le_of_not_lt hshort
  by_cases hreply : IsReply d
  · exact ⟨_, .reply hheader hreply⟩
  by_cases hopcode : opcode d = 0
  swap
  · exact ⟨_, .notImp hheader hreply hopcode⟩
  by_cases hcount : qdcount d = 1
  swap
  · exact ⟨_, .count hheader hreply hopcode hcount⟩
  have hquery : StandardQuery d := ⟨hheader, hreply, hopcode, hcount⟩
  by_cases hquestion : ∃ q : WireQuestion, q.At d
  swap
  · exact ⟨_, .formErr hquery hquestion⟩
  obtain ⟨q, hq⟩ := hquestion
  by_cases hclass : q.qclass = 1
  swap
  · exact ⟨_, .refused hquery hq hclass⟩
  by_cases htype : q.qtype = 1
  swap
  · exact ⟨_, .noData hquery hq hclass htype⟩
  by_cases hsilent : ip = 0 ∨ bufSize < 12 + q.bytes.length + 16
  · exact ⟨_, .silent hquery hq hclass htype hsilent⟩
  · obtain ⟨hip, hroom⟩ := not_or.1 hsilent
    exact ⟨_, .address hquery hq hclass htype hip (Nat.le_of_not_lt hroom)⟩

/-! ### Header bits -/

theorem qr_bit_iff (b : UInt8) : b &&& 0x80 ≠ 0 ↔ 128 ≤ b.toNat := by
  have hall : ∀ k < 256, k &&& 128 ≠ 0 ↔ 128 ≤ k := by decide +kernel
  rw [← hall b.toNat b.toNat_lt, Ne, ← UInt8.toNat_inj, UInt8.toNat_and]
  rfl

theorem opcode_bits (b : UInt8) : (b >>> 3) &&& 0x0F ≠ 0 ↔ b.toNat / 8 % 16 ≠ 0 := by
  have hmask : (b.toNat >>> 3) &&& 15 = b.toNat / 8 % 16 := by
    rw [Nat.shiftRight_eq_div_pow]
    exact Nat.and_two_pow_sub_one_eq_mod (b.toNat / 2 ^ 3) 4
  rw [← hmask, Ne, ← UInt8.toNat_inj, UInt8.toNat_and, UInt8.toNat_shiftRight]
  rfl

/-! ### The buffer -/

variable {d stale : List UInt8}

theorem rxAt_append {i : ℕ} (hi : i < d.length) : rxAt (d ++ stale) i = rxAt d i := by
  rw [rxAt, rxAt, List.getD_append d stale 0 i hi]

theorem rxAt_drop (rx : List UInt8) (k i : ℕ) : rxAt (rx.drop k) i = rxAt rx (k + i) := by
  rw [rxAt, rxAt, List.getD_eq_getElem?_getD, List.getD_eq_getElem?_getD, List.getElem?_drop]

theorem rxAt_append_right (a b : List UInt8) (i : ℕ) : rxAt (a ++ b) (a.length + i) = rxAt b i := by
  rw [rxAt, rxAt, List.getD_append_right a b 0 _ (Nat.le_add_right _ _), Nat.add_sub_cancel_left]

/-- What the writes of the header leave in the buffer. -/
theorem patchHeader_eq {rx : List UInt8} (h : 12 ≤ rx.length) (rcode qd an : UInt8) :
    patchHeader rx rcode qd an = replyHeader rx rcode qd an ++ rx.drop 12 := by
  match rx, h with
  | _ :: _ :: _ :: _ :: _ :: _ :: _ :: _ :: _ :: _ :: _ :: _ :: rest, _ => rfl

theorem replyHeader_append (h : 12 ≤ d.length) (rcode qd an : UInt8) :
    replyHeader (d ++ stale) rcode qd an = replyHeader d rcode qd an := by
  rw [replyHeader, rxAt_append (by omega), rxAt_append (by omega), rxAt_append (by omega)]
  rfl

variable (stale) in
/-- A payload that is a patched header and some of the bytes behind it. -/
theorem take_patchHeader {bytes : List UInt8} (h : 12 ≤ d.length) (hb : bytes <+: d.drop 12)
    (rcode qd an : UInt8) :
    (patchHeader (d ++ stale) rcode qd an).take (12 + bytes.length) =
      replyHeader d rcode qd an ++ bytes := by
  have hrx : 12 ≤ (d ++ stale).length := by
    rw [List.length_append]
    omega
  obtain ⟨tail, htail⟩ := hb
  have hlen : (replyHeader d rcode qd an ++ bytes).length = 12 + bytes.length := by
    rw [List.length_append]
    rfl
  rw [patchHeader_eq hrx, replyHeader_append h, List.drop_append_of_le_length h, ← htail,
    List.append_assoc bytes, ← List.append_assoc (replyHeader d rcode qd an), ← hlen,
    List.take_left]

theorem take_memcpy {rx : List UInt8} {pos : ℕ} (bytes : List UInt8) (h : pos ≤ rx.length) :
    (memcpy rx pos bytes).take (pos + bytes.length) = rx.take pos ++ bytes := by
  have hlen : (rx.take pos ++ bytes).length = pos + bytes.length := by
    rw [List.length_append, List.length_take, Nat.min_eq_left h]
  rw [memcpy, ← hlen, List.take_left]

theorem length_memcpy {rx bytes : List UInt8} {pos : ℕ} (h : pos + bytes.length ≤ rx.length) :
    (memcpy rx pos bytes).length = rx.length := by
  rw [memcpy, List.length_append, List.length_append, List.length_take, List.length_drop]
  omega

theorem length_patchHeader (rx : List UInt8) (rcode qd an : UInt8) :
    (patchHeader rx rcode qd an).length = rx.length := by
  simp [patchHeader]

/-- The address record is put behind what the buffer holds up to a position. -/
theorem take_addressRecord {rx : List UInt8} {pos : ℕ} (ip : UInt32) (h : pos + 16 ≤ rx.length) :
    (memcpy (memcpy rx pos dnsAnswerPrefix) (pos + 12) (ipBytes ip)).take (pos + 12 + 4) =
      rx.take pos ++ addressRecord ip := by
  have hroom : pos + dnsAnswerPrefix.length ≤ rx.length := by
    show pos + 12 ≤ rx.length
    omega
  have hinner : pos + 12 ≤ (memcpy rx pos dnsAnswerPrefix).length := by
    rw [length_memcpy hroom]
    omega
  have houter := take_memcpy (ipBytes ip) hinner
  have hle : pos ≤ rx.length := by omega
  have htake := take_memcpy dnsAnswerPrefix hle
  calc (memcpy (memcpy rx pos dnsAnswerPrefix) (pos + 12) (ipBytes ip)).take (pos + 12 + 4)
      = (memcpy rx pos dnsAnswerPrefix).take (pos + 12) ++ ipBytes ip := houter
    _ = rx.take pos ++ dnsAnswerPrefix ++ ipBytes ip := congrArg (· ++ ipBytes ip) htake
    _ = rx.take pos ++ addressRecord ip := List.append_assoc _ _ _

/-! ### The question -/

variable (stale) in
/-- **The walk finds the question of the datagram**, whatever follows it in the buffer. -/
theorem questionPos_eq_some_iff {i : ℕ} :
    questionPos (d ++ stale) d.length = some i ↔
      ∃ q : WireQuestion, q.At d ∧ i = 12 + q.name.length := by
  have hle : d.length ≤ (d ++ stale).length := by
    rw [List.length_append]
    omega
  rw [questionPos, finishWalk_walkQname hle, List.take_left, Option.bind_eq_some_iff]
  constructor
  · rintro ⟨⟨name, tail⟩, hparse, hpos⟩
    obtain ⟨hsplit, hname⟩ := parseName_sound hparse
    dsimp only at hpos
    split at hpos
    · match tail with
      | t0 :: t1 :: c0 :: c1 :: rest =>
        refine ⟨⟨name, t0, t1, c0, c1⟩, ⟨hname, rest, ?_⟩, (Option.some.inj hpos).symm⟩
        rw [hsplit, WireQuestion.bytes, List.append_assoc]
        rfl
      | [] | [_] | [_, _] | [_, _, _] =>
        rename_i hfour
        simp at hfour
    · cases hpos
  · rintro ⟨q, ⟨hname, tail, htail⟩, rfl⟩
    refine ⟨(q.name, [q.type_hi, q.type_lo, q.class_hi, q.class_lo] ++ tail), ?_, ?_⟩
    · rw [← htail, WireQuestion.bytes, List.append_assoc]
      exact parseName_append hname _
    · simp

variable (stale) in
/-- The four bytes at the position of the question type. -/
theorem rxAt_question {q : WireQuestion} (h : 12 ≤ d.length) (hq : q.At d) :
    rxAt (d ++ stale) (12 + q.name.length) = q.type_hi ∧
      rxAt (d ++ stale) (12 + q.name.length + 1) = q.type_lo ∧
      rxAt (d ++ stale) (12 + q.name.length + 2) = q.class_hi ∧
      rxAt (d ++ stale) (12 + q.name.length + 3) = q.class_lo := by
  obtain ⟨-, tail, htail⟩ := hq
  have hread : ∀ k, rxAt (d ++ stale) (12 + q.name.length + k) =
      rxAt ([q.type_hi, q.type_lo, q.class_hi, q.class_lo] ++ (tail ++ stale)) k := fun k ↦ by
    rw [Nat.add_assoc, ← rxAt_drop, List.drop_append_of_le_length h, ← htail, WireQuestion.bytes,
      List.append_assoc, List.append_assoc, rxAt_append_right]
  exact ⟨hread 0, hread 1, hread 2, hread 3⟩

theorem WireQuestion.length_bytes (q : WireQuestion) : q.bytes.length = q.name.length + 4 := by
  simp [WireQuestion.bytes]

/-! ### The comparison -/

section Comparison

variable {cfg : DnsConfig} {ip : UInt32} {limiter : DnsLimiter} {now : ℤ}

/-- A datagram that passes the limiter and is not a reply gets what `answerPacket` sends. -/
theorem handlePacket_of_query (hheader : 12 ≤ d.length) (hquery : ¬ IsReply d)
    (hpasses : (limiter.count cfg.rateLimit now).2 = true) :
    (handlePacket cfg ip limiter now (d ++ stale) d.length).2 =
      answerPacket cfg ip (d ++ stale) d.length := by
  have hqr : ¬ rxAt (d ++ stale) 2 &&& 0x80 ≠ 0 := by
    rw [rxAt_append (by omega), qr_bit_iff]
    exact hquery
  rw [handlePacket, if_neg (by omega), if_neg hqr]
  show (if (limiter.count cfg.rateLimit now).2 = true then _ else _) = _
  rw [if_pos hpasses]

/-- A standard query gets FORMERR or the reply to its question. -/
theorem answerPacket_of_standardQuery (h : StandardQuery d) :
    answerPacket cfg ip (d ++ stale) d.length =
      match questionPos (d ++ stale) d.length with
      | none => [replyHeader d 1 0 0]
      | some i => answerQuestion cfg ip (d ++ stale) d.length i := by
  have hheader := h.header
  have hopcode : ¬ (rxAt (d ++ stale) 2 >>> 3) &&& 0x0F ≠ 0 := by
    rw [rxAt_append (by omega), opcode_bits]
    exact not_not.2 h.standard
  have hcount : ¬ u16 (rxAt (d ++ stale) 4) (rxAt (d ++ stale) 5) ≠ 1 := by
    rw [rxAt_append (by omega), rxAt_append (by omega)]
    exact not_not.2 h.one
  have hformErr : (patchHeader (d ++ stale) 1 0 0).take 12 = replyHeader d 1 0 0 := by
    have htake := take_patchHeader stale hheader (List.nil_prefix) 1 0 0
    rwa [List.append_nil] at htake
  rcases hpos : questionPos (d ++ stale) d.length with - | i
  · simp only [answerPacket, if_neg hopcode, if_neg hcount, hpos, hformErr]
  · simp only [answerPacket, if_neg hopcode, if_neg hcount, hpos]

/-- The reply to the question of a standard query, with the numbers read out. -/
theorem answerPacket_of_question {q : WireQuestion}
    (hsize : (d ++ stale).length = cfg.rxBufferSize) (h : StandardQuery d) (hq : q.At d) :
    answerPacket cfg ip (d ++ stale) d.length =
      if q.qclass ≠ 1 then [replyHeader d 5 1 0 ++ q.bytes]
      else if q.qtype = 1 then
        if ip = 0 then []
        else if 12 + q.bytes.length + 16 > cfg.rxBufferSize then []
        else [replyHeader d 0 1 1 ++ q.bytes ++ addressRecord ip]
      else [replyHeader d 0 1 0 ++ q.bytes] := by
  have hpos := (questionPos_eq_some_iff stale).2 ⟨q, hq, rfl⟩
  obtain ⟨h0, h1, h2, h3⟩ := rxAt_question stale h.header hq
  have hend : 12 + q.name.length + 4 = 12 + q.bytes.length := by
    rw [WireQuestion.length_bytes]
    omega
  have hinside : ¬ (12 + q.bytes.length > cfg.rxBufferSize ∨ 12 + q.bytes.length > d.length) := by
    have hlen := hq.2.length_le
    rw [List.length_drop] at hlen
    rw [List.length_append] at hsize
    have hheader := h.header
    omega
  have htake := take_patchHeader stale h.header hq.2
  rw [answerPacket_of_standardQuery h, hpos]
  simp only [answerQuestion, h0, h1, h2, h3, hend, htake]
  by_cases hclass : q.qclass = 1
  · have hclass' : ¬ u16 q.class_hi q.class_lo ≠ 1 := not_not.2 hclass
    rw [if_neg hclass', if_neg (not_not.2 hclass)]
    by_cases htype : q.qtype = 1
    · have htype' : u16 q.type_hi q.type_lo = 1 := htype
      rw [if_pos htype', if_pos htype]
      split
      · rfl
      · split
        · rfl
        · rename_i _ hroom
          have hfits : 12 + q.bytes.length + 16 ≤ (patchHeader (d ++ stale) 0 1 1).length := by
            rw [length_patchHeader, hsize]
            omega
          rw [take_addressRecord ip hfits, htake]
    · have htype' : ¬ u16 q.type_hi q.type_lo = 1 := htype
      rw [if_neg htype', if_neg htype, if_neg hinside]
  · have hclass' : u16 q.class_hi q.class_lo ≠ 1 := hclass
    rw [if_pos hclass', if_pos hclass]

/-- What the responder sends is the answer of the reference. -/
theorem handlePacket_of_reference (hsize : (d ++ stale).length = cfg.rxBufferSize)
    (hpasses : (limiter.count cfg.rateLimit now).2 = true) {r : Option (List UInt8)}
    (h : DnsReference cfg.rxBufferSize ip d r) :
    (handlePacket cfg ip limiter now (d ++ stale) d.length).2 = r.toList := by
  have hquestion : ∀ {q : WireQuestion}, StandardQuery d → q.At d →
      (handlePacket cfg ip limiter now (d ++ stale) d.length).2 = _ := fun hstd hq ↦
    (handlePacket_of_query hstd.header hstd.query hpasses).trans
      (answerPacket_of_question hsize hstd hq)
  cases h with
  | short hshort => rw [handlePacket, if_pos hshort]; rfl
  | reply hheader hreply =>
    have hqr : rxAt (d ++ stale) 2 &&& 0x80 ≠ 0 := by
      rw [rxAt_append (by omega), qr_bit_iff]
      exact hreply
    rw [handlePacket, if_neg (by omega), if_pos hqr]
    rfl
  | notImp hheader hquery hopcode =>
    have hbits : (rxAt (d ++ stale) 2 >>> 3) &&& 0x0F ≠ 0 := by
      rw [rxAt_append (by omega), opcode_bits]
      exact hopcode
    have htake := take_patchHeader stale hheader (List.nil_prefix) 4 0 0
    rw [List.append_nil] at htake
    rw [handlePacket_of_query hheader hquery hpasses, answerPacket, if_pos hbits]
    exact congrArg (fun p ↦ [p]) htake
  | count hheader hquery hopcode hcount =>
    have hbits : ¬ (rxAt (d ++ stale) 2 >>> 3) &&& 0x0F ≠ 0 := by
      rw [rxAt_append (by omega), opcode_bits]
      exact not_not.2 hopcode
    have hqd : u16 (rxAt (d ++ stale) 4) (rxAt (d ++ stale) 5) ≠ 1 := by
      rw [rxAt_append (by omega), rxAt_append (by omega)]
      exact hcount
    rw [handlePacket_of_query hheader hquery hpasses, answerPacket, if_neg hbits, if_pos hqd]
    rfl
  | formErr hstd hnone =>
    have hpos : questionPos (d ++ stale) d.length = none := by
      rw [Option.eq_none_iff_forall_not_mem]
      intro i hi
      obtain ⟨q, hq, -⟩ := (questionPos_eq_some_iff stale).1 hi
      exact hnone ⟨q, hq⟩
    rw [handlePacket_of_query hstd.header hstd.query hpasses, answerPacket_of_standardQuery hstd,
      hpos]
    rfl
  | refused hstd hq hclass => rw [hquestion hstd hq, if_pos hclass]; rfl
  | silent hstd hq hclass htype hsilent =>
    rw [hquestion hstd hq, if_neg (not_not.2 hclass), if_pos htype]
    rcases hsilent with hip | hroom
    · rw [if_pos hip]
      rfl
    · rw [if_pos hroom, ite_self]
      rfl
  | address hstd hq hclass htype hip hroom =>
    rw [hquestion hstd hq, if_neg (not_not.2 hclass), if_pos htype, if_neg hip,
      if_neg (Nat.not_lt.2 hroom)]
    rfl
  | noData hstd hq hclass htype =>
    rw [hquestion hstd hq, if_neg (not_not.2 hclass), if_neg htype]
    rfl

/-- **The responder equals its grammar**: for every datagram that fits the buffer and passes the
limiter, an answer is the reference's answer exactly when it is all that is sent. -/
theorem handlePacket_eq_reference (hsize : (d ++ stale).length = cfg.rxBufferSize)
    (hpasses : (limiter.count cfg.rateLimit now).2 = true) (r : Option (List UInt8)) :
    DnsReference cfg.rxBufferSize ip d r ↔
      (handlePacket cfg ip limiter now (d ++ stale) d.length).2 = r.toList := by
  refine ⟨handlePacket_of_reference hsize hpasses, fun hsent ↦ ?_⟩
  obtain ⟨r', hr'⟩ := DnsReference.total cfg.rxBufferSize ip d
  have hsame : r.toList = r'.toList :=
    hsent.symm.trans (handlePacket_of_reference hsize hpasses hr')
  have heq : r = r' := by
    have hhead := congrArg List.head? hsame
    rwa [Option.head?_toList, Option.head?_toList] at hhead
  rwa [heq]

/-! ### A query for an address -/

/-- The smallest buffer. -/
def smallConfig : DnsConfig := ⟨512, by decide, 20⟩

/-- A query for the address of `a`, with the RD bit set. -/
def addressQuery : List UInt8 :=
  [0x12, 0x34, 0x01, 0x00, 0, 1, 0, 0, 0, 0, 0, 0, 1, 0x61, 0, 0, 1, 0, 1]

/-- It is answered with the address, 192.168.4.1. -/
theorem handlePacket_eq_reference_address :
    (handlePacket smallConfig 0x0104A8C0 ⟨0, 0⟩ 5 (addressQuery ++ List.replicate 493 0xAA) 19).2 =
      [[0x12, 0x34, 0x85, 0x00, 0, 1, 0, 1, 0, 0, 0, 0, 1, 0x61, 0, 0, 1, 0, 1,
        0xC0, 0x0C, 0, 1, 0, 1, 0, 0, 0, 0x3C, 0, 4, 192, 168, 4, 1]] := by
  have hname : QName (1 :: ([0x61] ++ [0])) := .label (by decide) rfl .root
  have hstd : StandardQuery addressQuery := ⟨by decide, by decide, by decide, by decide⟩
  have hat : WireQuestion.At ⟨[1, 0x61, 0], 0, 1, 0, 1⟩ addressQuery := ⟨hname, [], rfl⟩
  exact (handlePacket_eq_reference (by decide +kernel) (by decide) _).1
    (.address hstd hat rfl rfl (by decide) (by decide))

end Comparison
