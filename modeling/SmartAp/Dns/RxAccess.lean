import SmartAp.Dns.Reference
import SmartAp.Program.Access

/-!
# The accesses to the receive buffer

The packet code of `dns_server_task` again, with every read and write of `rx_buffer` in its place,
from the first test of the length to `skip_packet`. `packetProgram_stays` shows two things at once:
the program sends what `handlePacket` sends, and it keeps to the datagram and to what it has written
itself.

## Why a second account

`handlePacket` computes a reply from lists, and a list has no byte that must not be read. Here the
code is a program of `SmartAp.Program.Access`, whose reads and writes are steps with positions, so
that an access outside of the datagram would be a step that `Stays` does not allow. The positions
that are known are those of the datagram at first, and each write adds its own.

## Stale bytes

Behind the datagram the buffer holds what an earlier packet has left. Since no step depends on a
byte that is not known, the accesses and the sends are the same whatever stands there: this is
`accesses_congr` of the library, and the second half of `packet_code_stays_inside`. The loop that
walks the name reads a byte anew in each test, as the source does, and its induction is on the steps
that are left of the datagram (`walkProgram_stays`).
-/

open BufferProgram

/-! ### The program -/

/-- `rx_buffer[2]` and `rx_buffer[3]` of a reply. -/
def writeStatus (rcode : UInt8) : BufferProgram UInt8 Unit := do
  let flags ← get 2
  put 2 ((flags &&& 0x01) ||| 0x84)
  put 3 rcode

/-- `rx_buffer[4]` and `rx_buffer[5]`. -/
def writeQdcount (qdcount : UInt8) : BufferProgram UInt8 Unit := do
  put 4 0
  put 5 qdcount

/-- `rx_buffer[6]` to `rx_buffer[11]`. -/
def writeCounts (ancount : UInt8) : BufferProgram UInt8 Unit := do
  put 6 0
  put 7 ancount
  put 8 0
  put 9 0
  put 10 0
  put 11 0

/-- A reply without an answer, at once. -/
def errorReply (rcode qdcount : UInt8) (length : ℕ) : BufferProgram UInt8 Unit := do
  writeStatus rcode
  writeQdcount qdcount
  writeCounts 0
  sendTo length

/-- The `while` loop; each test and the step read `rx_buffer[i]` anew. -/
def walkProgram (len i : ℕ) : BufferProgram UInt8 QnameWalk :=
  if _h : i < len then
    read i fun b ↦
      if b = 0 then done (.stop i false)
      else read i fun b ↦
        if IsPointer b then done (if i + 1 ≥ len then .formErr else .stop (i + 2) true)
        else read i fun b ↦
          if b.toNat > 63 then done .formErr
          else read i fun b ↦ walkProgram len (i + b.toNat + 1)
  else done (.stop i false)
  termination_by len - i

/-- The zero byte is skipped and four bytes must be left. -/
def finishProgram (len : ℕ) : QnameWalk → BufferProgram UInt8 (Option ℕ)
  | .formErr => return none
  | .stop i compressionPointer =>
    if !compressionPointer && i < len then do
      let b ← get i
      let i := if b = 0 then i + 1 else i
      return if i + 4 > len then none else some i
    else return if i + 4 > len then none else some i

/-- The replies to a question whose type stands at position `i`. -/
def questionProgram (cfg : DnsConfig) (ip : UInt32) (len i : ℕ) : BufferProgram UInt8 Unit := do
  let type_hi ← get i
  let type_lo ← get (i + 1)
  let class_hi ← get (i + 2)
  let class_lo ← get (i + 3)
  if u16 class_hi class_lo ≠ 1 then errorReply 5 1 (i + 4)
  else do
    writeStatus 0
    writeQdcount 1
    if u16 type_hi type_lo = 1 then
      if ip = 0 then return ()
      else do
        writeCounts 1
        if i + 4 + 16 > cfg.rxBufferSize then return ()
        else do
          copy (i + 4) dnsAnswerPrefix
          copy (i + 4 + 12) (ipBytes ip)
          sendTo (i + 4 + 12 + 4)
    else do
      writeCounts 0
      if i + 4 > cfg.rxBufferSize ∨ i + 4 > len then return ()
      else sendTo (i + 4)

/-- **The packet code**; `passes` is what the limiter says. -/
def packetProgram (cfg : DnsConfig) (ip : UInt32) (passes : Bool) (len : ℕ) :
    BufferProgram UInt8 Unit :=
  if len < 12 then return ()
  else do
    let flags ← get 2
    if flags &&& 0x80 ≠ 0 then return ()
    else if passes then do
      let flags ← get 2
      if (flags >>> 3) &&& 0x0F ≠ 0 then errorReply 4 0 12
      else do
        let hi ← get 4
        let lo ← get 5
        if u16 hi lo ≠ 1 then return ()
        else do
          let walk ← walkProgram len 12
          let pos ← finishProgram len walk
          match pos with
          | none => errorReply 1 0 12
          | some i => questionProgram cfg ip len i
    else return ()

/-! ### What the parts do -/

section

variable {size len : ℕ} {s : BufferState UInt8} {Q : Unit → BufferState UInt8 → Prop}

theorem writeStatus_stays {rcode : UInt8} (hknown : 2 ∈ s.known) (hsize : 12 ≤ size)
    (h : Q () ⟨(s.buffer.set 2 ((rxAt s.buffer 2 &&& 0x01) ||| 0x84)).set 3 rcode,
      insert 3 (insert 2 s.known), s.sent⟩) : (writeStatus rcode).Stays size s Q :=
  ⟨hknown, by omega, by omega, h⟩

theorem writeQdcount_stays {qdcount : UInt8} (hsize : 12 ≤ size)
    (h : Q () ⟨(s.buffer.set 4 0).set 5 qdcount, insert 5 (insert 4 s.known), s.sent⟩) :
    (writeQdcount qdcount).Stays size s Q :=
  ⟨by omega, by omega, h⟩

theorem writeCounts_stays {ancount : UInt8} (hsize : 12 ≤ size)
    (h : Q () ⟨(((((s.buffer.set 6 0).set 7 ancount).set 8 0).set 9 0).set 10 0).set 11 0,
      insert 11 (insert 10 (insert 9 (insert 8 (insert 7 (insert 6 s.known))))), s.sent⟩) :
    (writeCounts ancount).Stays size s Q :=
  ⟨by omega, by omega, by omega, by omega, by omega, by omega, h⟩

/-- An error reply sends the header and what follows it in the datagram. -/
theorem errorReply_stays {rcode qdcount : UInt8} {n : ℕ} (hknown : ∀ i < len, i ∈ s.known)
    (hheader : 12 ≤ len) (hlen : len ≤ size) (hn : n ≤ len) :
    (errorReply rcode qdcount n).Stays size s fun _ s' ↦
      s'.sent = s.sent ++ [(patchHeader s.buffer rcode qdcount 0).take n] := by
  refine stays_bind.2 (writeStatus_stays (hknown 2 (by omega)) (by omega) ?_)
  refine stays_bind.2 (writeQdcount_stays (by omega) ?_)
  refine stays_bind.2 (writeCounts_stays (by omega) ?_)
  refine ⟨⟨by omega, fun i hi ↦ ?_⟩, rfl⟩
  simp only [Set.mem_insert_iff]
  simp only [hknown i (by omega), or_true]

theorem stays_read {α : Type} {i : ℕ} {k : UInt8 → BufferProgram UInt8 α}
    {R : α → BufferState UInt8 → Prop} : (read i k).Stays size s R ↔
      i ∈ s.known ∧ (k (rxAt s.buffer i)).Stays size s R :=
  Iff.rfl

/-- The walk is `walkQname`. -/
theorem walkProgram_stays (hknown : ∀ i < len, i ∈ s.known) (i : ℕ) :
    (walkProgram len i).Stays size s fun walk s' ↦
      walk = walkQname s.buffer len i ∧ s' = s := by
  induction i using walkQname.induct s.buffer len with
  | case1 i h hpointer hend =>
    have hi := hknown i h.1
    rw [walkProgram, dif_pos h.1, stays_read, if_neg h.2, stays_read, if_pos hpointer, if_pos hend,
      walkQname, dif_pos h, if_pos hpointer, if_pos hend]
    exact ⟨hi, hi, rfl, rfl⟩
  | case2 i h hpointer hend =>
    have hi := hknown i h.1
    rw [walkProgram, dif_pos h.1, stays_read, if_neg h.2, stays_read, if_pos hpointer, if_neg hend,
      walkQname, dif_pos h, if_pos hpointer, if_neg hend]
    exact ⟨hi, hi, rfl, rfl⟩
  | case3 i h hpointer hbig =>
    have hi := hknown i h.1
    rw [walkProgram, dif_pos h.1, stays_read, if_neg h.2, stays_read, if_neg hpointer, stays_read,
      if_pos hbig, walkQname, dif_pos h, if_neg hpointer, if_pos hbig]
    exact ⟨hi, hi, hi, rfl, rfl⟩
  | case4 i h hpointer hsmall ih =>
    have hi := hknown i h.1
    rw [walkProgram, dif_pos h.1, stays_read, if_neg h.2, stays_read, if_neg hpointer, stays_read,
      if_neg hsmall, stays_read, walkQname, dif_pos h, if_neg hpointer, if_neg hsmall]
    exact ⟨hi, hi, hi, hi, ih⟩
  | case5 i h =>
    rw [walkProgram, walkQname, dif_neg h]
    by_cases hi : i < len
    · have hzero : rxAt s.buffer i = 0 := by
        by_contra hne
        exact h ⟨hi, hne⟩
      rw [dif_pos hi, stays_read, if_pos hzero]
      exact ⟨hknown i hi, rfl, rfl⟩
    · rw [dif_neg hi]
      exact ⟨rfl, rfl⟩

/-- The step over the zero byte is `finishWalk`. -/
theorem finishProgram_stays (hknown : ∀ i < len, i ∈ s.known) (walk : QnameWalk) :
    (finishProgram len walk).Stays size s fun pos s' ↦
      pos = finishWalk s.buffer len walk ∧ s' = s := by
  cases walk with
  | formErr => exact ⟨rfl, rfl⟩
  | stop i compressionPointer =>
    rw [finishProgram]
    by_cases hinside : (!compressionPointer && decide (i < len)) = true
    · have hi : i < len := by
        rw [Bool.and_eq_true] at hinside
        exact of_decide_eq_true hinside.2
      rw [if_pos hinside]
      refine ⟨hknown i hi, ?_, rfl⟩
      simp only [finishWalk, hinside, Bool.true_and, decide_eq_true_eq]
      rfl
    · rw [if_neg hinside]
      refine ⟨?_, rfl⟩
      rw [Bool.not_eq_true] at hinside
      simp only [finishWalk, hinside, Bool.false_and, Bool.false_eq_true, if_false]

/-- Bytes that fit are copied as by `memcpy`, and are known afterwards. -/
theorem copy_stays {i : ℕ} {bytes : List UInt8} (hroom : i + bytes.length ≤ s.buffer.length)
    (hsize : s.buffer.length ≤ size) :
    (copy i bytes).Stays size s fun _ s' ↦ s'.buffer = memcpy s.buffer i bytes ∧
      s'.sent = s.sent ∧
      ∀ j, (j ∈ s.known ∨ (i ≤ j ∧ j < i + bytes.length)) → j ∈ s'.known := by
  obtain ⟨buffer, known, sent⟩ := s
  dsimp only at hroom hsize ⊢
  have hsplit : buffer.take i ++ (buffer.drop i).take bytes.length ++
      buffer.drop (i + bytes.length) = buffer := by
    rw [List.append_assoc, ← List.drop_drop, List.take_append_drop, List.take_append_drop]
  have htake : (buffer.take i).length = i := List.length_take_of_le (by omega)
  have hold : ((buffer.drop i).take bytes.length).length = bytes.length :=
    List.length_take_of_le (by rw [List.length_drop]; exact Nat.le_sub_of_add_le' hroom)
  have hcopy : (copy (buffer.take i).length bytes).Stays size ⟨_, known, sent⟩ _ :=
    stays_copy _ _ (buffer.drop (i + bytes.length)) bytes hold (by rw [htake]; omega)
  rwa [htake, hsplit] at hcopy

/-! ### The packet code -/

/-- The address answer, when the header is written. -/
theorem addressProgram_stays {ip : UInt32} {i : ℕ} (hknown : ∀ j < i + 4, j ∈ s.known)
    (hlength : s.buffer.length = size) (hroom : i + 4 + 16 ≤ size) :
    (do
      copy (i + 4) dnsAnswerPrefix
      copy (i + 4 + 12) (ipBytes ip)
      sendTo (i + 4 + 12 + 4) : BufferProgram UInt8 Unit).Stays size s fun _ s' ↦
        s'.sent = s.sent ++ [(memcpy (memcpy s.buffer (i + 4) dnsAnswerPrefix) (i + 4 + 12)
          (ipBytes ip)).take (i + 4 + 12 + 4)] := by
  have hpre : i + 4 + dnsAnswerPrefix.length ≤ s.buffer.length := by
    show i + 4 + 12 ≤ s.buffer.length
    omega
  refine stays_bind.2 ((copy_stays hpre hlength.le).mono fun _ s₁ h₁ ↦ ?_)
  have hlength₁ : s₁.buffer.length = size := by
    rw [h₁.1, length_memcpy hpre, hlength]
  have hip : i + 4 + 12 + (ipBytes ip).length ≤ s₁.buffer.length := by
    show i + 4 + 12 + 4 ≤ s₁.buffer.length
    omega
  refine stays_bind.2 ((copy_stays hip hlength₁.le).mono fun _ s₂ h₂ ↦ ?_)
  refine ⟨⟨by omega, fun j hj ↦ ?_⟩, ?_⟩
  · -- what was received, the prefix, the address
    by_cases hreceived : j < i + 4
    · exact h₂.2.2 j (.inl (h₁.2.2 j (.inl (hknown j hreceived))))
    · by_cases hinprefix : j < i + 4 + 12
      · exact h₂.2.2 j (.inl (h₁.2.2 j (.inr ⟨Nat.le_of_not_lt hreceived, hinprefix⟩)))
      · exact h₂.2.2 j (.inr ⟨Nat.le_of_not_lt hinprefix, hj⟩)
  · show s₂.sent ++ [s₂.buffer.take (i + 4 + 12 + 4)] = _
    rw [h₂.2.1, h₁.2.1, h₂.1, h₁.1]

/-- The replies to a question. -/
theorem questionProgram_stays {cfg : DnsConfig} {ip : UInt32} {i : ℕ}
    (hknown : ∀ j < len, j ∈ s.known) (hlength : s.buffer.length = cfg.rxBufferSize)
    (hlen : len ≤ cfg.rxBufferSize) (hheader : 12 ≤ i) (hi : i + 4 ≤ len) :
    (questionProgram cfg ip len i).Stays cfg.rxBufferSize s fun _ s' ↦
      s'.sent = s.sent ++ answerQuestion cfg ip s.buffer len i := by
  have hsize : 12 ≤ cfg.rxBufferSize := by omega
  refine stays_bind.2 ⟨hknown i (by omega), stays_bind.2 ⟨hknown (i + 1) (by omega),
    stays_bind.2 ⟨hknown (i + 2) (by omega), stays_bind.2 ⟨hknown (i + 3) (by omega), ?_⟩⟩⟩⟩
  show BufferProgram.Stays cfg.rxBufferSize
    (if u16 (rxAt s.buffer (i + 2)) (rxAt s.buffer (i + 3)) ≠ 1 then _ else _) s _
  simp only [answerQuestion]
  split
  · exact errorReply_stays hknown (by omega) hlen hi
  · refine stays_bind.2 (writeStatus_stays (hknown 2 (by omega)) hsize ?_)
    refine stays_bind.2 (writeQdcount_stays hsize ?_)
    show BufferProgram.Stays cfg.rxBufferSize
      (if u16 (rxAt s.buffer i) (rxAt s.buffer (i + 1)) = 1 then _ else _) _ _
    split
    · split
      · exact (List.append_nil s.sent).symm
      · refine stays_bind.2 (writeCounts_stays hsize ?_)
        split
        · exact (List.append_nil s.sent).symm
        · refine addressProgram_stays (fun j hj ↦ ?_) ?_ (by omega)
          · simp only [Set.mem_insert_iff, hknown j (by omega), or_true]
          · simpa only [List.length_set] using hlength
    · refine stays_bind.2 (writeCounts_stays hsize ?_)
      split
      · exact (List.append_nil s.sent).symm
      · refine ⟨⟨by omega, fun j hj ↦ ?_⟩, rfl⟩
        simp only [Set.mem_insert_iff, hknown j (by omega), or_true]

theorem le_of_finishWalk {rx : List UInt8} {i : ℕ} {walk : QnameWalk}
    (h : finishWalk rx len walk = some i) : i + 4 ≤ len := by
  cases walk with
  | formErr => cases h
  | stop j compressionPointer =>
    simp only [finishWalk, Option.ite_none_left_eq_some, Option.some.injEq] at h
    omega

/-- The question type stands behind the header and inside the datagram. -/
theorem questionPos_range {rx : List UInt8} {i : ℕ} (hlen : len ≤ rx.length)
    (h : questionPos rx len = some i) : 12 ≤ i ∧ i + 4 ≤ len := by
  refine ⟨?_, le_of_finishWalk h⟩
  rw [questionPos, finishWalk_walkQname hlen, Option.bind_eq_some_iff] at h
  obtain ⟨⟨name, tail⟩, -, hpos⟩ := h
  rw [Option.ite_none_right_eq_some, Option.some.injEq] at hpos
  omega

/-- **The packet code sends what the model of it sends**, and stays inside the datagram. -/
theorem packetProgram_stays {cfg : DnsConfig} (ip : UInt32) (limiter : DnsLimiter) (now : ℤ)
    (hknown : ∀ j < len, j ∈ s.known) (hlength : s.buffer.length = cfg.rxBufferSize)
    (hlen : len ≤ cfg.rxBufferSize) :
    (packetProgram cfg ip (limiter.count cfg.rateLimit now).2 len).Stays cfg.rxBufferSize s
      fun _ s' ↦ s'.sent = s.sent ++ (handlePacket cfg ip limiter now s.buffer len).2 := by
  have hnothing : s.sent = s.sent ++ [] := (List.append_nil s.sent).symm
  rw [packetProgram, handlePacket]
  split
  · exact hnothing
  · rename_i hheader
    refine stays_bind.2 ⟨hknown 2 (by omega), ?_⟩
    show BufferProgram.Stays cfg.rxBufferSize (if rxAt s.buffer 2 &&& 0x80 ≠ 0 then _ else _) s _
    split
    · exact hnothing
    · show BufferProgram.Stays cfg.rxBufferSize _ s fun _ s' ↦ s'.sent = s.sent ++
        (if (limiter.count cfg.rateLimit now).2 = true then
          answerPacket cfg ip s.buffer len else [])
      split
      · refine stays_bind.2 ⟨hknown 2 (by omega), ?_⟩
        rw [answerPacket]
        show BufferProgram.Stays cfg.rxBufferSize
          (if (rxAt s.buffer 2 >>> 3) &&& 0x0F ≠ 0 then _ else _) s _
        split
        · exact errorReply_stays hknown (by omega) hlen (by omega)
        · refine stays_bind.2 ⟨hknown 4 (by omega), stays_bind.2 ⟨hknown 5 (by omega), ?_⟩⟩
          show BufferProgram.Stays cfg.rxBufferSize
            (if u16 (rxAt s.buffer 4) (rxAt s.buffer 5) ≠ 1 then _ else _) s _
          split
          · exact hnothing
          · refine stays_bind.2 ((walkProgram_stays hknown 12).mono ?_)
            rintro walk _ ⟨hwalk, hstate⟩
            rw [hwalk, hstate]
            refine stays_bind.2 ((finishProgram_stays hknown _).mono ?_)
            rintro pos _ ⟨hpos, hstate⟩
            have hpos : pos = questionPos s.buffer len := hpos
            rw [hpos, hstate]
            cases hquestion : questionPos s.buffer len with
            | none => exact errorReply_stays hknown (by omega) hlen (by omega)
            | some i =>
              obtain ⟨hbehind, hinside⟩ := questionPos_range (by omega) hquestion
              exact questionProgram_stays hknown hlength hlen hbehind hinside
      · exact hnothing

/-- The accesses of the packet code to a datagram with stale bytes behind it. -/
def rxAccesses (cfg : DnsConfig) (ip : UInt32) (limiter : DnsLimiter) (now : ℤ)
    (d stale : List UInt8) : List (Access UInt8) :=
  ((packetProgram cfg ip (limiter.count cfg.rateLimit now).2 d.length).run (d ++ stale)).accesses

/-- **The packet code stays inside the packet and leaks nothing.** Its accesses are confined to the
datagram and to what it has written, its sends are those of `handlePacket`, and with other stale
bytes it makes the same accesses and sends the same replies. -/
theorem packet_code_stays_inside {cfg : DnsConfig} {ip : UInt32} {limiter : DnsLimiter} {now : ℤ}
    {d stale stale' : List UInt8} (hsize : (d ++ stale).length = cfg.rxBufferSize)
    (hsize' : (d ++ stale').length = cfg.rxBufferSize) :
    Confined cfg.rxBufferSize {i | i < d.length} (rxAccesses cfg ip limiter now d stale) ∧
      payloads (rxAccesses cfg ip limiter now d stale) =
        (handlePacket cfg ip limiter now (d ++ stale) d.length).2 ∧
      rxAccesses cfg ip limiter now d stale' = rxAccesses cfg ip limiter now d stale ∧
      (handlePacket cfg ip limiter now (d ++ stale') d.length).2 =
        (handlePacket cfg ip limiter now (d ++ stale) d.length).2 := by
  have hlen : d.length ≤ cfg.rxBufferSize := by
    rw [List.length_append] at hsize
    omega
  have hrun : ∀ {tail : List UInt8}, (d ++ tail).length = cfg.rxBufferSize →
      Confined cfg.rxBufferSize {i | i < d.length} (rxAccesses cfg ip limiter now d tail) ∧
        payloads (rxAccesses cfg ip limiter now d tail) =
          (handlePacket cfg ip limiter now (d ++ tail) d.length).2 := by
    intro tail htail
    have hstays := packetProgram_stays (s := ⟨d ++ tail, {i | i < d.length}, []⟩) ip limiter now
      (fun j hj ↦ hj) htail hlen
    obtain ⟨hconfined, _, hsent⟩ := hstays.confined
    exact ⟨hconfined, hsent⟩
  obtain ⟨hconfined, hsent⟩ := hrun hsize
  have hsame : rxAccesses cfg ip limiter now d stale' = rxAccesses cfg ip limiter now d stale := by
    refine accesses_congr hconfined (hsize.trans hsize'.symm) fun i hi ↦ ?_
    exact (rxAt_append hi).trans (rxAt_append hi).symm
  refine ⟨hconfined, hsent, hsame, ?_⟩
  rw [← (hrun hsize').2, hsame, hsent]

end

/-- The query for an address, after a packet full of `0xAA` and after one full of zeros. -/
theorem packet_code_stays_inside_address :
    (handlePacket smallConfig 0x0104A8C0 ⟨0, 0⟩ 5 (addressQuery ++ List.replicate 493 0) 19).2 =
      (handlePacket smallConfig 0x0104A8C0 ⟨0, 0⟩ 5 (addressQuery ++ List.replicate 493 0xAA)
        19).2 := by
  have hsize : (addressQuery ++ List.replicate 493 0xAA).length = smallConfig.rxBufferSize := by
    decide +kernel
  have hsize' : (addressQuery ++ List.replicate 493 0).length = smallConfig.rxBufferSize := by
    decide +kernel
  exact (packet_code_stays_inside hsize hsize').2.2.2
