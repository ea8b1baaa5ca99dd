import SmartAp.Dns.Reference

/-!
# The header of a reply

A resolver finds the query a reply belongs to by the first bytes of both. The identifier and the
OPCODE are copied into a reply, so is the RD bit, and of the four counts only the first two may be
other than 0 here (`AnswersHeader`). Every reply of `dns_server_task` writes its third byte as the
RD bit of the query with QR and AA. This keeps an OPCODE of 0 and loses any other one, which only
NOTIMP answers (`reply_header_iff`).
-/

/-- The header answers the header of the query. -/
structure AnswersHeader (d reply : List UInt8) : Prop where
  header : 12 ≤ reply.length
  id : rxAt reply 0 = rxAt d 0 ∧ rxAt reply 1 = rxAt d 1
  response : IsReply reply
  opcode : opcode reply = opcode d
  recursionDesired : rxAt reply 2 &&& 0x01 = rxAt d 2 &&& 0x01
  truncated : rxAt reply 2 &&& 0x02 = 0
  /-- RA and the three bits Z. -/
  reserved : rxAt reply 3 &&& 0xF0 = 0
  nscount : u16 (rxAt reply 8) (rxAt reply 9) = 0
  arcount : u16 (rxAt reply 10) (rxAt reply 11) = 0

section

variable {cfg : DnsConfig} {ip : UInt32} {limiter : DnsLimiter} {now : ℤ} {bufSize : ℕ}
  {d stale reply : List UInt8}

theorem recursionDesired_cases (b : UInt8) : b &&& 0x01 = 0 ∨ b &&& 0x01 = 1 := by
  have hmask : (b &&& 0x01).toNat = b.toNat % 2 := by
    rw [UInt8.toNat_and]
    exact Nat.and_two_pow_sub_one_eq_mod b.toNat 1
  rcases Nat.mod_two_eq_zero_or_one b.toNat with hbit | hbit
  · exact .inl (UInt8.toNat_inj.1 (hmask.trans hbit))
  · exact .inr (UInt8.toNat_inj.1 (hmask.trans hbit))

/-- A header of this form answers the query exactly when the OPCODE of the query is 0. -/
theorem answersHeader_iff {rcode qd an : UInt8} (hrcode : rcode &&& 0xF0 = 0) (rest : List UInt8) :
    AnswersHeader d (replyHeader d rcode qd an ++ rest) ↔ opcode d = 0 := by
  have hopcode : opcode (replyHeader d rcode qd an ++ rest) = 0 := by
    show ((rxAt d 2 &&& 0x01) ||| 0x84).toNat / 8 % 16 = 0
    rcases recursionDesired_cases (rxAt d 2) with hbit | hbit <;> rw [hbit] <;> decide
  refine ⟨fun h ↦ h.opcode.symm.trans hopcode, fun h ↦ ?_⟩
  have hflags : ∀ b : UInt8, rxAt (replyHeader d rcode qd an ++ rest) 2 &&& b =
      ((rxAt d 2 &&& 0x01) ||| 0x84) &&& b := fun _ ↦ rfl
  refine ⟨?_, ⟨rfl, rfl⟩, ?_, hopcode.trans h.symm, ?_, ?_, hrcode, u16_zero_zero, u16_zero_zero⟩
  · rw [List.length_append]
    exact Nat.le_add_right 12 _
  · show 128 ≤ ((rxAt d 2 &&& 0x01) ||| 0x84).toNat
    rcases recursionDesired_cases (rxAt d 2) with hbit | hbit <;> rw [hbit] <;> decide
  · rw [hflags]
    rcases recursionDesired_cases (rxAt d 2) with hbit | hbit <;> rw [hbit] <;> rfl
  · rw [hflags]
    rcases recursionDesired_cases (rxAt d 2) with hbit | hbit <;> rw [hbit] <;> rfl

/-- Every answer of the reference starts with such a header. -/
theorem DnsReference.header {r : Option (List UInt8)} (h : DnsReference bufSize ip d r)
    (hr : r = some reply) :
    ∃ rcode qd an rest, rcode &&& 0xF0 = 0 ∧ reply = replyHeader d rcode qd an ++ rest := by
  cases h with
  | notImp | formErr =>
    exact ⟨_, _, _, [], by decide, (Option.some.inj hr).symm.trans (List.append_nil _).symm⟩
  | refused | noData =>
    exact ⟨_, _, _, _, by decide, (Option.some.inj hr).symm⟩
  | address =>
    exact ⟨_, _, _, _, by decide, (Option.some.inj hr).symm.trans (List.append_assoc _ _ _)⟩
  | _ => cases hr

/-- A datagram that is replied to has passed the limiter. -/
theorem passes_of_reply (h : reply ∈ (handlePacket cfg ip limiter now (d ++ stale) d.length).2) :
    (limiter.count cfg.rateLimit now).2 = true := by
  rw [handlePacket] at h
  split at h
  · cases h
  · split at h
    · cases h
    · change reply ∈ (if (limiter.count cfg.rateLimit now).2 = true then _ else []) at h
      by_contra hdropped
      rw [if_neg hdropped] at h
      cases h

/-- **Every reply answers the header of its query**, if and only if the OPCODE of the query is 0. -/
theorem reply_header_iff (hsize : (d ++ stale).length = cfg.rxBufferSize)
    (hreply : reply ∈ (handlePacket cfg ip limiter now (d ++ stale) d.length).2) :
    AnswersHeader d reply ↔ opcode d = 0 := by
  obtain ⟨r, hr⟩ := DnsReference.total cfg.rxBufferSize ip d
  rw [handlePacket_of_reference hsize (passes_of_reply hreply) hr, Option.mem_toList] at hreply
  obtain ⟨rcode, qd, an, rest, hrcode, rfl⟩ := hr.header hreply
  exact answersHeader_iff hrcode rest

end

/-- A status request: OPCODE 2, the RD bit set. -/
def statusQuery : List UInt8 := [0x12, 0x34, 0x11, 0x00, 0, 0, 0, 0, 0, 0, 0, 0]

/-- The reply to the query for an address answers its header. -/
theorem reply_header_iff_address : AnswersHeader addressQuery
    [0x12, 0x34, 0x85, 0x00, 0, 1, 0, 1, 0, 0, 0, 0, 1, 0x61, 0, 0, 1, 0, 1,
      0xC0, 0x0C, 0, 1, 0, 1, 0, 0, 0, 0x3C, 0, 4, 192, 168, 4, 1] := by
  have hsize : (addressQuery ++ List.replicate 493 0xAA).length = smallConfig.rxBufferSize := by
    decide +kernel
  have hreply : [0x12, 0x34, 0x85, 0x00, 0, 1, 0, 1, 0, 0, 0, 0, 1, 0x61, 0, 0, 1, 0, 1,
      0xC0, 0x0C, 0, 1, 0, 1, 0, 0, 0, 0x3C, 0, 4, 192, 168, 4, 1] ∈
      (handlePacket smallConfig 0x0104A8C0 ⟨0, 0⟩ 5 (addressQuery ++ List.replicate 493 0xAA)
        addressQuery.length).2 := by
    decide +kernel
  exact (reply_header_iff hsize hreply).2 (by decide)

/-- NOTIMP answers a status request with OPCODE 0. -/
theorem notImp_drops_opcode :
    (handlePacket smallConfig 0x0104A8C0 ⟨0, 0⟩ 5 (statusQuery ++ List.replicate 500 0xAA) 12).2 =
        [[0x12, 0x34, 0x85, 0x04, 0, 0, 0, 0, 0, 0, 0, 0]] ∧
      ¬ AnswersHeader statusQuery [0x12, 0x34, 0x85, 0x04, 0, 0, 0, 0, 0, 0, 0, 0] :=
  ⟨by decide +kernel, fun h ↦ absurd h.opcode (by decide)⟩
