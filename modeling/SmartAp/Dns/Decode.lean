import SmartAp.Dns.Reference

/-!
# DNS replies decode

Every reply is patched in place over the query, so its counts, the end of its question and the
record appended behind it must fit together. `reply_decodes` reads each reply with the parser of
`SmartAp.Dns.Grammar`, which goes by the counts and follows no pointer: nothing is missing and
nothing is left over, the question is the one of the query, and the only record there can be is the
address.

What a query has behind its question, an additional record for example, is in the buffer but neither
counted nor sent (`reply_decodes_edns`); a datagram with several questions gets an error that has
none.

The proof goes over the cases of the reference, one lemma for each of the three shapes a reply has:
a header alone, a header with the question, and these with the address (`parseMessage_error`,
`parseMessage_question`, `parseMessage_address`).
-/

/-- The question as the parser returns it. -/
def WireQuestion.decoded (q : WireQuestion) : DnsQuestion := ⟨q.name, q.qtype, q.qclass⟩

/-- The address record as the parser returns it: owner pointer to offset 12, type A, class IN, a
minute to live, the four bytes of the address. -/
def addressAnswer (ip : UInt32) : DnsRecord := ⟨[0xC0, 0x0C], 1, 1, 60, ipBytes ip⟩

variable {d : List UInt8} {ip : UInt32}

/-! ### The three shapes -/

theorem parseMessage_error (d : List UInt8) (rcode : UInt8) :
    parseMessage (replyHeader d rcode 0 0) = some (⟨[], [], [], []⟩, []) :=
  parseMessage_of_sections (parseMany_none _ []) (parseMany_none _ [])

theorem parseQuestion_bytes {q : WireQuestion} (h : QName q.name) (rest : List UInt8) :
    parseQuestion (q.bytes ++ rest) = some (q.decoded, rest) := by
  rw [WireQuestion.bytes, List.append_assoc]
  exact parseQuestion_append h q.type_hi q.type_lo q.class_hi q.class_lo rest

theorem parseMessage_question {q : WireQuestion} (h : QName q.name) (d : List UInt8)
    (rcode : UInt8) :
    parseMessage (replyHeader d rcode 1 0 ++ q.bytes) = some (⟨[q.decoded], [], [], []⟩, []) := by
  have hparse := parseQuestion_bytes h []
  rw [List.append_nil] at hparse
  exact parseMessage_of_sections (parseMany_single hparse) (parseMany_none _ _)

theorem parseRecord_address (ip : UInt32) :
    parseRecord (addressRecord ip) = some (addressAnswer ip, []) := by
  have hpointer : QName ([0xC0, 0x0C] : List UInt8) := .pointer (by decide)
  have hlen : (ipBytes ip).length = u16 0 4 := by
    rw [show u16 0 4 = 4 by decide]
    rfl
  have hminute : u16 0 0 * 65536 + u16 0 60 = 60 := by decide
  have hparse := parseRecord_append hpointer 0 1 0 1 0 0 0 60 0 4 hlen []
  rw [List.append_nil, hminute, u16_zero_one] at hparse
  exact hparse

theorem parseMessage_address {q : WireQuestion} (h : QName q.name) (d : List UInt8) (ip : UInt32) :
    parseMessage (replyHeader d 0 1 1 ++ q.bytes ++ addressRecord ip) =
      some (⟨[q.decoded], [addressAnswer ip], [], []⟩, []) := by
  rw [List.append_assoc]
  exact parseMessage_of_sections (parseMany_single (parseQuestion_bytes h _))
    (parseMany_single (parseRecord_address ip))

/-! ### Every reply -/

/-- What is said of a reply: it is consumed exactly by its own counts; its question, when it has
one, is the question of the query, byte for byte; and its answer section is the address record when
ANCOUNT is 1 and empty otherwise. -/
structure Decodes (ip : UInt32) (d reply : List UInt8) (msg : DnsMessage) : Prop where
  exact : parseMessage reply = some (msg, [])
  question : msg.questions ≠ [] →
    ∃ q : WireQuestion, q.At d ∧ q.At reply ∧ msg.questions = [q.decoded]
  answers : msg.answers =
    if u16 (rxAt reply 6) (rxAt reply 7) = 1 then [addressAnswer ip] else []

/-- The question of a query stands in the reply that repeats it. -/
theorem WireQuestion.At.reply {q : WireQuestion} (hq : q.At d) (rcode qd an : UInt8)
    (tail : List UInt8) : q.At (replyHeader d rcode qd an ++ q.bytes ++ tail) :=
  ⟨hq.1, tail, rfl⟩

/-- The ANCOUNT of a reply. -/
theorem ancount_replyHeader (d : List UInt8) (rcode qd an : UInt8) (tail : List UInt8) :
    u16 (rxAt (replyHeader d rcode qd an ++ tail) 6) (rxAt (replyHeader d rcode qd an ++ tail) 7) =
      u16 0 an := rfl

/-- A reply without an answer. -/
theorem answers_none (d : List UInt8) (rcode qd : UInt8) (tail : List UInt8)
    (answers : List DnsRecord) :
    ([] : List DnsRecord) = if u16 (rxAt (replyHeader d rcode qd 0 ++ tail) 6)
      (rxAt (replyHeader d rcode qd 0 ++ tail) 7) = 1 then answers else [] := by
  rw [ancount_replyHeader, u16_zero_zero, if_neg (by decide)]

theorem decodes_of_reference {bufSize : ℕ} {reply : List UInt8}
    (h : DnsReference bufSize ip d (some reply)) : ∃ msg, Decodes ip d reply msg := by
  cases h with
  | notImp _ _ _ =>
    exact ⟨_, parseMessage_error d 4, fun h ↦ absurd rfl h, answers_none d 4 0 [] _⟩
  | formErr _ _ =>
    exact ⟨_, parseMessage_error d 1, fun h ↦ absurd rfl h, answers_none d 1 0 [] _⟩
  | @refused q _ hq _ =>
    have hreply := hq.reply 5 1 0 []
    rw [List.append_nil] at hreply
    exact ⟨_, parseMessage_question hq.1 d 5, fun _ ↦ ⟨_, hq, hreply, rfl⟩,
      answers_none d 5 1 q.bytes _⟩
  | @address q _ hq _ _ _ _ =>
    refine ⟨_, parseMessage_address hq.1 d ip, fun _ ↦ ⟨_, hq, hq.reply 0 1 1 _, rfl⟩, ?_⟩
    rw [List.append_assoc, ancount_replyHeader, u16_zero_one, if_pos rfl]
  | @noData q _ hq _ _ =>
    have hreply := hq.reply 0 1 0 []
    rw [List.append_nil] at hreply
    exact ⟨_, parseMessage_question hq.1 d 0, fun _ ↦ ⟨_, hq, hreply, rfl⟩,
      answers_none d 0 1 q.bytes _⟩

/-- A reply is sent only for a datagram that passes the limiter. -/
theorem passes_of_mem {cfg : DnsConfig} {limiter : DnsLimiter} {now : ℤ} {rx reply : List UInt8}
    {len : ℕ} (h : reply ∈ (handlePacket cfg ip limiter now rx len).2) :
    (limiter.count cfg.rateLimit now).2 = true := by
  rw [handlePacket] at h
  split at h
  · cases h
  · split at h
    · cases h
    · by_contra hblocked
      have hempty : reply ∈ (if (limiter.count cfg.rateLimit now).2 = true then
          answerPacket cfg ip rx len else []) := h
      rw [if_neg hblocked] at hempty
      cases hempty

/-- **Replies decode.** Every payload sent for a datagram, whatever follows the datagram in the
buffer and whatever the datagram has behind its question, is a message that its own counts consume
exactly. -/
theorem reply_decodes {cfg : DnsConfig} {limiter : DnsLimiter} {now : ℤ} {stale reply : List UInt8}
    (hsize : (d ++ stale).length = cfg.rxBufferSize)
    (hsent : reply ∈ (handlePacket cfg ip limiter now (d ++ stale) d.length).2) :
    ∃ msg, Decodes ip d reply msg := by
  obtain ⟨r, hr⟩ := DnsReference.total cfg.rxBufferSize ip d
  rw [handlePacket_of_reference hsize (passes_of_mem hsent) hr, Option.mem_toList] at hsent
  obtain rfl : r = some reply := hsent
  exact decodes_of_reference hr

/-- A query for the address of the root name, with an additional record behind the question. -/
def ednsQuery : List UInt8 :=
  [0x12, 0x34, 0x01, 0x00, 0, 1, 0, 0, 0, 0, 0, 1, 0, 0, 1, 0, 1, 0, 0, 41, 4, 0, 0, 0, 0, 0, 0, 0]

/-- Its reply does not contain that record, and is consumed exactly. -/
theorem reply_decodes_edns : ∃ msg, Decodes 0x0104A8C0 ednsQuery
    [0x12, 0x34, 0x85, 0x00, 0, 1, 0, 1, 0, 0, 0, 0, 0, 0, 1, 0, 1,
      0xC0, 0x0C, 0, 1, 0, 1, 0, 0, 0, 0x3C, 0, 4, 192, 168, 4, 1] msg := by
  have hstd : StandardQuery ednsQuery := ⟨by decide, by decide, by decide, by decide⟩
  have hat : WireQuestion.At ⟨[0], 0, 1, 0, 1⟩ ednsQuery := ⟨.root, _, rfl⟩
  have hsize : (ednsQuery ++ List.replicate 484 0xAA).length = smallConfig.rxBufferSize := by
    decide +kernel
  have hpasses : ((⟨0, 0⟩ : DnsLimiter).count smallConfig.rateLimit 5).2 = true := by decide
  have hanswer : DnsReference smallConfig.rxBufferSize 0x0104A8C0 ednsQuery _ :=
    .address hstd hat rfl rfl (by decide) (by decide)
  have hsent := handlePacket_of_reference hsize hpasses hanswer
  refine reply_decodes hsize ((congrArg (_ ∈ ·) hsent).mpr ?_)
  exact List.mem_singleton.2 (by decide +kernel)
