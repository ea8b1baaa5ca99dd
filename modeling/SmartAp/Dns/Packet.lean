import SmartAp.Dns.Grammar
import Mathlib.Data.Int.Notation
import Mathlib.Data.List.GetD

/-!
# What the DNS task does with a datagram

The body of the loop in `dns_server_task`, from the length `recvfrom` returned to the next
`continue`. The receive buffer is a list of `CONFIG_SMART_AP_DNS_RX_BUFFER_SIZE` bytes that starts
with the datagram and goes on with whatever earlier packets left there; every reply is patched into
this buffer in place and sent from its start. The result is the list of payloads passed to `sendto`.

## Sections

* the rate limiter;
* the walk over the name (`walkQname`), with all its exits, and the position of the question type
  after it (`questionPos`);
* the six replies.

`questionPos_eq_some_iff` is the link to the grammar: the walk ends at a position exactly when a
name and four more bytes start at offset 12.
-/

/-- The configuration of the DNS task. -/
structure DnsConfig where
  /-- `CONFIG_SMART_AP_DNS_RX_BUFFER_SIZE`. -/
  rxBufferSize : ℕ
  rxBufferSize_range : 512 ≤ rxBufferSize ∧ rxBufferSize ≤ 4096
  /-- `CONFIG_SMART_AP_DNS_RATE_LIMIT`. -/
  rateLimit : ℕ

/-! ### The rate limiter -/

/-- The local variables of the limiter; times are in microseconds. -/
structure DnsLimiter where
  pktCount : ℕ
  windowStart : ℤ

/-- Count a packet; the second component tells whether it passes. -/
def DnsLimiter.count (rateLimit : ℕ) (now : ℤ) (limiter : DnsLimiter) : DnsLimiter × Bool :=
  let limiter := if now - limiter.windowStart > 1000000 then ⟨0, now⟩ else limiter
  (⟨limiter.pktCount + 1, limiter.windowStart⟩, !decide (limiter.pktCount + 1 > rateLimit))

/-! ### The walk over the name -/

/-- `rx_buffer[i]`. -/
def rxAt (rx : List UInt8) (i : ℕ) : UInt8 := rx.getD i 0

/-- How the `while` loop ends: with the error reply, or at a position, by `break` after a
compression pointer or because its condition fails. -/
inductive QnameWalk
  | formErr
  | stop (i : ℕ) (compressionPointer : Bool)
  deriving DecidableEq

/-- The `while` loop from position `i`. -/
def walkQname (rx : List UInt8) (len i : ℕ) : QnameWalk :=
  if _h : i < len ∧ rxAt rx i ≠ 0 then
    if IsPointer (rxAt rx i) then
      if i + 1 ≥ len then .formErr else .stop (i + 2) true
    else if (rxAt rx i).toNat > 63 then .formErr
    else walkQname rx len (i + (rxAt rx i).toNat + 1)
  else .stop i false
  termination_by len - i

/-- What follows the loop: the zero byte is skipped, and four bytes must be left. -/
def finishWalk (rx : List UInt8) (len : ℕ) : QnameWalk → Option ℕ
  | .formErr => none
  | .stop i compressionPointer =>
    let i := if !compressionPointer && i < len && rxAt rx i = 0 then i + 1 else i
    if i + 4 > len then none else some i

/-- `pos_question_type`, when the question is well formed. -/
def questionPos (rx : List UInt8) (len : ℕ) : Option ℕ := finishWalk rx len (walkQname rx len 12)

/-! ### The replies -/

/-- The header bytes every reply writes: QR and AA set, RD kept, everything else as given. -/
def patchHeader (rx : List UInt8) (rcode qdcount ancount : UInt8) : List UInt8 :=
  let rx := rx.set 2 ((rxAt rx 2 &&& 0x01) ||| 0x84)
  let rx := rx.set 3 rcode
  let rx := (rx.set 4 0).set 5 qdcount
  let rx := (rx.set 6 0).set 7 ancount
  let rx := (rx.set 8 0).set 9 0
  (rx.set 10 0).set 11 0

/-- `memcpy(&rx_buffer[pos], bytes, sizeof(bytes))`. -/
def memcpy (rx : List UInt8) (pos : ℕ) (bytes : List UInt8) : List UInt8 :=
  rx.take pos ++ bytes ++ rx.drop (pos + bytes.length)

/-- `dns_answer_prefix`: a pointer to offset 12, type A, class IN, a minute to live, four bytes. -/
def dnsAnswerPrefix : List UInt8 :=
  [0xc0, 0x0c, 0x00, 0x01, 0x00, 0x01, 0x00, 0x00, 0x00, 0x3c, 0x00, 0x04]

/-- The memory of a `uint32_t`; an address is kept in network order there. -/
def ipBytes (ip : UInt32) : List UInt8 :=
  [ip.toUInt8, (ip >>> 8).toUInt8, (ip >>> 16).toUInt8, (ip >>> 24).toUInt8]

/-- The replies to a question whose type stands at position `i`. -/
def answerQuestion (cfg : DnsConfig) (ip : UInt32) (rx : List UInt8) (len i : ℕ) :
    List (List UInt8) :=
  let qtype := u16 (rxAt rx i) (rxAt rx (i + 1))
  let qclass := u16 (rxAt rx (i + 2)) (rxAt rx (i + 3))
  if qclass ≠ 1 then [(patchHeader rx 5 1 0).take (i + 4)]
  else if qtype = 1 then
    if ip = 0 then []
    else if i + 4 + 16 > cfg.rxBufferSize then []
    else
      let rx := patchHeader rx 0 1 1
      let rx := memcpy rx (i + 4) dnsAnswerPrefix
      let rx := memcpy rx (i + 4 + 12) (ipBytes ip)
      [rx.take (i + 4 + 12 + 4)]
  else if i + 4 > cfg.rxBufferSize ∨ i + 4 > len then []
  else [(patchHeader rx 0 1 0).take (i + 4)]

/-- A query that has passed the limiter. -/
def answerPacket (cfg : DnsConfig) (ip : UInt32) (rx : List UInt8) (len : ℕ) : List (List UInt8) :=
  if (rxAt rx 2 >>> 3) &&& 0x0F ≠ 0 then [(patchHeader rx 4 0 0).take 12]
  else if u16 (rxAt rx 4) (rxAt rx 5) ≠ 1 then []
  else
    match questionPos rx len with
    | none => [(patchHeader rx 1 0 0).take 12]
    | some i => answerQuestion cfg ip rx len i

/-- **The packet handling**: the limiter afterwards and the payloads sent. -/
def handlePacket (cfg : DnsConfig) (ip : UInt32) (limiter : DnsLimiter) (now : ℤ)
    (rx : List UInt8) (len : ℕ) : DnsLimiter × List (List UInt8) :=
  if len < 12 then (limiter, [])
  else if rxAt rx 2 &&& 0x80 ≠ 0 then (limiter, [])
  else
    let (limiter, passes) := limiter.count cfg.rateLimit now
    (limiter, if passes then answerPacket cfg ip rx len else [])

/-! ### The walk and the grammar -/

variable {rx : List UInt8} {len : ℕ}

/-- The datagram from a position inside it on. -/
theorem drop_take_eq_cons (hlen : len ≤ rx.length) {i : ℕ} (hi : i < len) :
    (rx.take len).drop i = rxAt rx i :: (rx.take len).drop (i + 1) := by
  have hlt : i < (rx.take len).length := by
    rw [List.length_take]
    omega
  rw [List.drop_eq_getElem_cons hlt, List.getElem_take, rxAt,
    List.getD_eq_getElem rx 0 (by omega)]

/-- **The walk parses a name.** Started at position `i`, it ends at a position exactly when a name
and four more bytes start at `i`, and that position is the end of the name. -/
theorem finishWalk_walkQname (hlen : len ≤ rx.length) (i : ℕ) :
    finishWalk rx len (walkQname rx len i) =
      (parseName ((rx.take len).drop i)).bind fun (name, tail) ↦
        if 4 ≤ tail.length then some (i + name.length) else none := by
  have htail : ∀ j, ((rx.take len).drop j).length = len - j := fun j ↦ by
    rw [List.length_drop, List.length_take]
    omega
  induction i using walkQname.induct rx len with
  | case1 i h hpointer hend =>
    -- a pointer cut off by the end of the datagram
    have hnil : (rx.take len).drop (i + 1) = [] := List.eq_nil_of_length_eq_zero (by
      rw [htail]
      omega)
    rw [walkQname, dif_pos h, if_pos hpointer, if_pos hend, drop_take_eq_cons hlen h.1, parseName,
      if_neg h.2, if_pos hpointer, hnil]
    rfl
  | case2 i h hpointer hend =>
    have hi : i + 1 < len := by omega
    rw [walkQname, dif_pos h, if_pos hpointer, if_neg hend, drop_take_eq_cons hlen h.1, parseName,
      if_neg h.2, if_pos hpointer, drop_take_eq_cons hlen hi]
    show (if i + 2 + 4 > len then none else some (i + 2)) =
      if 4 ≤ ((rx.take len).drop (i + 2)).length then some (i + 2) else none
    rw [htail]
    split <;> split <;> first | rfl | omega
  | case3 i h hpointer hbig =>
    rw [walkQname, dif_pos h, if_neg hpointer, if_pos hbig, drop_take_eq_cons hlen h.1, parseName,
      if_neg h.2, if_neg hpointer, if_pos (.inl hbig)]
    rfl
  | case4 i h hpointer hsmall ih =>
    rw [walkQname, dif_pos h, if_neg hpointer, if_neg hsmall, ih, drop_take_eq_cons hlen h.1,
      parseName, if_neg h.2, if_neg hpointer]
    by_cases hcut : len - (i + 1) < (rxAt rx i).toNat
    · -- the label runs past the end of the datagram
      have hnil : (rx.take len).drop (i + (rxAt rx i).toNat + 1) = [] :=
        List.eq_nil_of_length_eq_zero (by rw [htail]; omega)
      rw [hnil, if_pos (.inr (by rw [htail]; exact hcut)), parseName]
      rfl
    · rw [if_neg (by rw [htail]; omega), List.drop_drop]
      have hidx : i + 1 + (rxAt rx i).toNat = i + (rxAt rx i).toNat + 1 := by omega
      rw [hidx]
      cases parseName ((rx.take len).drop (i + (rxAt rx i).toNat + 1)) with
      | none => rfl
      | some split =>
        obtain ⟨name, tail⟩ := split
        have hlabel : (((rx.take len).drop (i + 1)).take (rxAt rx i).toNat).length =
            (rxAt rx i).toNat := by
          rw [List.length_take, htail]
          omega
        simp only [Option.bind_some, Option.map_some, List.length_cons, List.length_append, hlabel]
        congr 2
        omega
  | case5 i h =>
    rw [walkQname, dif_neg h]
    by_cases hi : i < len
    · have hzero : rxAt rx i = 0 := by
        by_contra hne
        exact h ⟨hi, hne⟩
      rw [drop_take_eq_cons hlen hi, parseName, if_pos hzero]
      simp only [finishWalk, hi, hzero, Option.bind_some, htail]
      simp only [Bool.not_false, decide_true, Bool.and_self, if_true, List.length_singleton]
      split <;> split <;> first | rfl | omega
    · have hnil : (rx.take len).drop i = [] := List.eq_nil_of_length_eq_zero (by rw [htail]; omega)
      rw [hnil, parseName]
      simp only [finishWalk, hi, decide_false, Bool.and_false, Bool.false_and, Option.bind_none]
      simp only [Bool.false_eq_true, if_false]
      rw [if_pos (by omega)]
