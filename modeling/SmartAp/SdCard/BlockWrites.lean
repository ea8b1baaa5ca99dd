import SmartAp.SdCard.Monitor
import Mathlib.Data.List.TakeWhile

/-!
# Writing several blocks

`ff_sd_spi_write` sends one block after `CMD24`, or several after `CMD25`, which a stop token ends.
`RES_OK` means that the blocks of the buffer were sent once each and in order, each with its
checksum and each accepted, and that after the stop token the card became ready; if a block is
missing, the result is another one (`WriteLaw`).

## Where the law fails

The stop token goes the way of a block, through `xmit_datablock`, which waits first until the card
is ready. A card that is still busy then gets no stop token, although the comment in the source has
it sent always. This is the only case (`writeLaw_iff`): the card took `CMD25`, and does not become
ready within `SD_WAIT_READY_MS` after the last block that was begun. The condition, `StopBusy`, is
about the bus at the time when the token is due, and about the host's next wait.

## The proof

What the card has seen is read off the bus by a monitor (`SmartAp.SdCard.Monitor`). A log of a call
is a prelude, in which nothing is sent and nothing has to be stopped (`Prelude`), then blocks
(`BlocksSent`), then what the stop token adds (`stopEntries`). Each of the three is closed under
what the code does there, so that the law of a call is put together from the lemmas for its parts:
`cmd25Answer_monitor`, `writeBlocks_monitor` and `xmitDatablock_stop_log`. The count of the stop
tokens is exact, one for each accepted `CMD25`, since neither a block nor a prelude has one.
-/

/-- The blocks of a buffer. -/
def blocksOf : ℕ → List UInt8 → List (List UInt8)
  | 0, _ => []
  | count + 1, buff => buff.take 512 :: blocksOf count (buff.drop 512)

/-- The card accepts a block with `xxx00101`. -/
def BlockAccepted (response : UInt8) : Prop := response &&& 0x1F = 0x05

instance : DecidablePred BlockAccepted := fun _ ↦ inferInstanceAs (Decidable (_ = _))

/-- The blocks that went over the bus, each with its response. -/
def sentBlocks (log : List BusEntry) : List (List UInt8 × UInt8) := log.filterMap fun
  | .block _ bytes response => some (bytes, response)
  | _ => none

/-- The packet is one of `CMD25`. -/
def IsCmd25 (packet : List UInt8) : Prop := packet.head? = some (0x40 ||| cmd25)

/-- After each accepted `CMD25` there is one stop token before the card is deselected. -/
def Terminated : List BusEntry → Prop
  | [] => True
  | .answered packet r1 :: log =>
    (r1 = 0 → IsCmd25 packet → (log.takeWhile (· ≠ .deselected)).count .stop = 1) ∧ Terminated log
  | _ :: log => Terminated log

/-- The call is refused before anything is sent. -/
def Refused (stat : DStatus) (result : DResult) : Prop :=
  stat.noInit = true ∧ result = .notRdy ∨ stat.isProtected = true ∧ result = .wrPrt

/-- What is expected of a write: of its result, and of what the card has seen. -/
structure WriteLaw (count : ℕ) (buff : List UInt8) (stat : DStatus) (result : DResult)
    (log : List BusEntry) : Prop where
  complete : result = .ok →
    (sentBlocks log).map Prod.fst = (blocksOf count buff).map withCrc ∧
      ∀ sent ∈ sentBlocks log, BlockAccepted sent.2
  stopped : result = .ok → 1 < count → ∃ before, log = before ++ [.stop, .ready, .deselected]
  fewer : (sentBlocks log).countP (fun sent ↦ BlockAccepted sent.2) < count →
    result = .error ∨ Refused stat result
  terminated : Terminated log

@[simp] theorem length_blocksOf (count : ℕ) (buff : List UInt8) :
    (blocksOf count buff).length = count := by
  induction count generalizing buff with
  | zero => rfl
  | succ count ih => rw [blocksOf, List.length_cons, ih]

section Logs

variable {count : ℕ} {buff : List UInt8} {stat : DStatus} {result : DResult}
  {log pre sent : List BusEntry}

/-- The blocks of two parts of a log. -/
theorem sentBlocks_append (log log' : List BusEntry) :
    sentBlocks (log ++ log') = sentBlocks log ++ sentBlocks log' :=
  List.filterMap_append

/-- What comes before the transfer: the card is deselected, or answers some other command. -/
def Prelude (pre : List BusEntry) : Prop :=
  ∀ e ∈ pre, e = .deselected ∨ ∃ packet r1, e = .answered packet r1 ∧ (r1 = 0 → ¬ IsCmd25 packet)

/-- Two preludes are a prelude. -/
theorem Prelude.append (h : Prelude pre) (h' : Prelude log) : Prelude (pre ++ log) :=
  fun e he ↦ (List.mem_append.1 he).elim (h e) (h' e)

/-- To deselect the card is a prelude. -/
theorem Prelude.of_deselected (h : ∀ e ∈ pre, e = BusEntry.deselected) : Prelude pre :=
  fun e he ↦ .inl (h e he)

/-- A command is part of a prelude unless it is a CMD25 that the card took. -/
theorem Prelude.answered {packet : List UInt8} {r1 : UInt8} (h : r1 = 0 → ¬ IsCmd25 packet) :
    Prelude [.answered packet r1] := by
  intro e he
  exact .inr ⟨packet, r1, List.mem_singleton.1 he, h⟩

/-- A command that is not an accepted `CMD25`, answered or not. -/
theorem Prelude.of_answered {packet : List UInt8} {res : UInt8} {m : Monitor} (h : Prelude pre)
    (hother : res = 0 → ¬ IsCmd25 packet) (hanswered : Answered packet (log ++ pre) res m) :
    ∃ pre', Prelude pre' ∧ m.log = log ++ pre' := by
  rw [Answered] at hanswered
  split at hanswered
  · refine ⟨pre ++ [.answered packet res], h.append (.answered hother), ?_⟩
    rw [hanswered, List.append_assoc]
  · exact ⟨pre, h, by rw [hanswered]⟩

/-- No block is sent in a prelude. -/
theorem Prelude.sentBlocks (h : Prelude pre) : sentBlocks pre = [] := by
  refine List.filterMap_eq_nil_iff.2 fun e he ↦ ?_
  rcases h e he with rfl | ⟨packet, r1, rfl, -⟩ <;> rfl

/-- A prelude leaves nothing to be stopped. -/
theorem Prelude.terminated_append (h : Prelude pre) : Terminated (pre ++ log) ↔ Terminated log := by
  induction pre with
  | nil => exact Iff.rfl
  | cons e pre ih =>
    have hpre := ih fun e he ↦ h e (List.mem_cons_of_mem _ he)
    rcases h e List.mem_cons_self with rfl | ⟨packet, r1, rfl, hother⟩
    · exact hpre
    · exact ⟨fun hlog ↦ hpre.1 hlog.2,
        fun hlog ↦ ⟨fun hr1 hcmd ↦ absurd hcmd (hother hr1), hpre.2 hlog⟩⟩

theorem Prelude.terminated (h : Prelude pre) : Terminated pre := by
  have hnil : Terminated (pre ++ []) := h.terminated_append.2 trivial
  rwa [List.append_nil] at hnil

/-- Nothing was sent. -/
theorem WriteLaw.of_prelude (h : Prelude log) (hresult : result = .error ∨ Refused stat result) :
    WriteLaw count buff stat result log := by
  have hok : result ≠ .ok := by
    rintro rfl
    rcases hresult with h | h | h
    · cases h
    · cases h.2
    · cases h.2
  exact ⟨fun h ↦ absurd h hok, fun h ↦ absurd h hok, fun _ ↦ hresult, h.terminated⟩

/-- The blocks `bytes` were sent, in this order, each with the token; if `ok`, all of `blocks` were,
and all were accepted. -/
structure BlocksSent (token : UInt8) (blocks : List (List UInt8)) (ok : Bool)
    (sent : List BusEntry) : Prop where
  block : ∀ e ∈ sent, ∃ bytes response, e = .block token bytes response
  prefix_blocks : (sentBlocks sent).map Prod.fst <+: blocks.map withCrc
  complete : ok = true → (sentBlocks sent).map Prod.fst = blocks.map withCrc ∧
    ∀ s ∈ sentBlocks sent, BlockAccepted s.2

variable {token : UInt8} {ok stopped ready : Bool}

theorem resultOf_ok {b : Bool} : (if b then DResult.ok else DResult.error) = .ok ↔ b = true := by
  cases b <;> simp

/-- No block was sent, and none was accepted. -/
theorem BlocksSent.of_nil {blocks : List (List UInt8)} (hok : ok = false) :
    BlocksSent token blocks ok [] :=
  ⟨nofun, List.nil_prefix, fun htrue ↦ absurd (hok.symm.trans htrue) Bool.false_ne_true⟩

/-- One block was sent, and the result is the answer of the card to it. -/
theorem BlocksSent.of_single {bytes : List UInt8} {response : UInt8}
    (hok : ok = true ↔ BlockAccepted response) :
    BlocksSent token [bytes] ok [.block token (withCrc bytes) response] := by
  refine ⟨fun e he ↦ ⟨_, _, List.mem_singleton.1 he⟩, List.prefix_refl _, fun htrue ↦ ⟨rfl, ?_⟩⟩
  rintro s (_ | ⟨_, hs⟩)
  · exact hok.1 htrue
  · cases hs

/-- All the blocks were accepted, so none is missing. -/
theorem BlocksSent.countP {blocks : List (List UInt8)} (h : BlocksSent token blocks true sent) :
    (sentBlocks sent).countP (fun s ↦ BlockAccepted s.2) = blocks.length := by
  obtain ⟨hblocks, haccepted⟩ := h.complete rfl
  have hlen := congrArg List.length hblocks
  rw [List.length_map, List.length_map] at hlen
  rw [← hlen, List.countP_eq_length]
  exact fun s hs ↦ decide_eq_true (haccepted s hs)

/-- Among the blocks there is neither a stop token nor the end of the transfer. -/
theorem BlocksSent.count_stop {blocks : List (List UInt8)} (h : BlocksSent token blocks ok sent)
    (rest : List BusEntry) : ((sent ++ rest).takeWhile (· ≠ .deselected)).count .stop =
      (rest.takeWhile (· ≠ .deselected)).count .stop := by
  have hnone : sent.count .stop = 0 := by
    refine List.count_eq_zero.2 fun hstop ↦ ?_
    obtain ⟨bytes, response, hblock⟩ := h.block _ hstop
    cases hblock
  rw [List.takeWhile_append_of_pos, List.count_append, hnone, Nat.zero_add]
  intro e he
  obtain ⟨bytes, response, rfl⟩ := h.block e he
  rfl

/-- Blocks are between the command and the STOP token, they are neither. -/
theorem BlocksSent.terminated {blocks : List (List UInt8)} (h : BlocksSent token blocks ok sent)
    (rest : List BusEntry) (hrest : Terminated rest) : Terminated (sent ++ rest) := by
  have hblock := h.block
  clear h
  induction sent with
  | nil => exact hrest
  | cons e sent ih =>
    obtain ⟨bytes, response, rfl⟩ := hblock e List.mem_cons_self
    exact ih fun e he ↦ hblock e (List.mem_cons_of_mem _ he)

/-- A transfer of which the card has seen these blocks; the result is no better than they are. -/
theorem WriteLaw.complete_fewer (h : BlocksSent token (blocksOf count buff) ok sent)
    (hsent : sentBlocks log = sentBlocks sent) (hok : result = .ok → ok = true)
    (herror : ok = false → result = .error) :
    (result = .ok → (sentBlocks log).map Prod.fst = (blocksOf count buff).map withCrc ∧
      ∀ s ∈ sentBlocks log, BlockAccepted s.2) ∧
    ((sentBlocks log).countP (fun s ↦ BlockAccepted s.2) < count →
      result = .error ∨ Refused stat result) := by
  rw [hsent]
  refine ⟨fun hresult ↦ h.complete (hok hresult), fun hfewer ↦ .inl (herror ?_)⟩
  refine Bool.eq_false_of_not_eq_true fun htrue ↦ ?_
  subst htrue
  rw [h.countP, length_blocksOf] at hfewer
  exact absurd hfewer (lt_irrefl count)

/-- One block, after any other commands. -/
theorem WriteLaw.of_one (hpre : Prelude pre) (h : BlocksSent token (blocksOf 1 buff) ok sent)
    (hlog : log = pre ++ (sent ++ [.deselected])) :
    WriteLaw 1 buff stat (if ok then .ok else .error) log := by
  have hsent : sentBlocks log = sentBlocks sent := by
    rw [hlog, sentBlocks_append, hpre.sentBlocks, List.nil_append, sentBlocks_append]
    exact List.append_nil _
  obtain ⟨hcomplete, hfewer⟩ := WriteLaw.complete_fewer h hsent resultOf_ok.1
    (fun hok ↦ if_neg (Bool.eq_false_iff.1 hok))
  refine ⟨hcomplete, fun _ hlt ↦ absurd hlt (lt_irrefl 1), hfewer, ?_⟩
  rw [hlog, hpre.terminated_append]
  exact h.terminated _ trivial

/-- What follows the blocks after an accepted `CMD25`: it depends on whether the card was ready for
the stop token, and on whether it became ready after it. -/
def stopEntries (ready stopped : Bool) : List BusEntry :=
  if ready then (if stopped then [.stop, .ready] else [.stop]) else []

/-- Several blocks after an accepted `CMD25`. -/
theorem writeLaw_of_several {arg : UInt32} (hpre : Prelude pre)
    (h : BlocksSent token (blocksOf count buff) ok sent)
    (hlog : log = pre ++ .answered (packet cmd25 arg) 0 ::
      (sent ++ (stopEntries ready stopped ++ [.deselected]))) :
    WriteLaw count buff stat (if ok && stopped then .ok else .error) log ↔ ready = true := by
  have hcount : ((sent ++ (stopEntries ready stopped ++ [BusEntry.deselected])).takeWhile
      (· ≠ BusEntry.deselected)).count BusEntry.stop = if ready then 1 else 0 := by
    rw [h.count_stop]
    cases ready <;> cases stopped <;> rfl
  refine ⟨fun hlaw ↦ ?_, fun htrue ↦ ?_⟩
  · have hterminated := hlaw.terminated
    rw [hlog, hpre.terminated_append] at hterminated
    have hone := hterminated.1 rfl rfl
    rw [hcount] at hone
    cases ready
    · cases hone
    · rfl
  · subst htrue
    have hsent : sentBlocks log = sentBlocks sent := by
      rw [hlog, sentBlocks_append, hpre.sentBlocks, List.nil_append]
      show sentBlocks (sent ++ _) = _
      rw [sentBlocks_append]
      cases stopped <;> exact List.append_nil _
    obtain ⟨hcomplete, hfewer⟩ := WriteLaw.complete_fewer h hsent
      (fun hok ↦ (Bool.and_eq_true_iff.1 (resultOf_ok.1 hok)).1)
      (fun hok ↦ if_neg (by rw [hok]; exact Bool.false_ne_true))
    refine ⟨hcomplete, fun hok _ ↦ ?_, hfewer, ?_⟩
    · have hstopped : stopped = true := (Bool.and_eq_true_iff.1 (resultOf_ok.1 hok)).2
      refine ⟨pre ++ .answered (packet cmd25 arg) 0 :: sent, ?_⟩
      rw [hlog, hstopped, List.append_assoc]
      rfl
    · rw [hlog, hpre.terminated_append]
      refine ⟨fun _ _ ↦ hcount, h.terminated _ ?_⟩
      cases stopped <;> trivial

end Logs

/-! ### The transfer -/

section Transfer

variable {κ α : Type} (h : SpiHost κ) (opt : SdOptions) {log : List BusEntry}

/-- What is said of the bus, as something of the driver. -/
theorem Triple.onPort {P : Bus κ → Prop} {Q : α → Bus κ → Prop} {m : BusM κ α} (hm : Triple P m Q) :
    Triple (fun d : SdDriver (Bus κ) ↦ P d.card) (onPort m) fun a d ↦ Q a d.card :=
  fun d hd ↦ hm d.card hd

/-- A command of which an accepted `CMD25` is no part. -/
theorem sendPlainCmd_prelude {cmd : UInt8} (hcmd : (0x40 ||| cmd) &&& 0xC0 = 0x40)
    (hidle : cmd ≠ cmd0) (hstuff : cmd ≠ cmd12) (hother : 0x40 ||| cmd ≠ 0x40 ||| cmd25)
    (arg : UInt32) :
    Triple (fun b ↦ b.monitor.log = log) (h.sendPlainCmd cmd arg)
      fun _ b ↦ ∃ pre, Prelude pre ∧ b.monitor.log = log ++ pre := by
  refine (h.sendPlainCmd_monitor cmd hcmd hidle hstuff arg).weaken (fun _ ↦ id) ?_
  rintro res b ⟨pre, hpre, hanswered⟩
  have hpacket : ¬ IsCmd25 (packet cmd arg) := fun hcmd25 ↦ hother (Option.some.inj hcmd25)
  exact (Prelude.of_deselected hpre).of_answered (fun _ ↦ hpacket) hanswered

/-- `ACMD23`, whatever is answered. -/
theorem sendCmd_acmd23 (arg : UInt32) :
    Triple (fun b ↦ b.monitor.log = log) (h.sendCmd acmd23 arg)
      fun _ b ↦ ∃ pre, Prelude pre ∧ b.monitor.log = log ++ pre := by
  have happ : Triple (fun b ↦ b.monitor.log = log) (h.sendPlainCmd cmd55 0)
      fun _ b ↦ ∃ pre, Prelude pre ∧ b.monitor.log = log ++ pre :=
    sendPlainCmd_prelude h (by decide) (by decide) (by decide) (by decide) 0
  refine .ite (fun _ ↦ .bind happ fun res ↦ .ite (fun _ ↦ .pure fun _ ↦ id) fun _ ↦ ?_)
    fun hacmd ↦ absurd (by decide) hacmd
  rintro b ⟨pre, hpre, hlog⟩
  obtain ⟨pre', hpre', hlog'⟩ := sendPlainCmd_prelude h
    (show (0x40 ||| (acmd23 &&& 0x7F)) &&& 0xC0 = 0x40 by decide) (by decide) (by decide)
    (by decide) arg b hlog
  exact ⟨pre ++ pre', hpre.append hpre', by rw [hlog', List.append_assoc]⟩

/-- `send_cmd` up to `CMD25`: the way to the card with `ACMD23` before it. -/
def cmd25Answer (port : SdPort (Bus κ)) (sector : UInt32) (count : ℕ) : SdM (Bus κ) UInt8 := do
  let d ← get
  if d.cardType &&& ctSdc ≠ 0 then
    let _ ← onPort (port.sendCmd acmd23 (UInt32.ofNat count))
  onPort (port.sendCmd cmd25 sector)

/-- A transfer that is not of one block is that of CMD25, a count of 0 included. -/
theorem writeTransfer_of_ne_one (port : SdPort (Bus κ)) (buff : List UInt8) (sector : UInt32)
    {count : ℕ} (hcount : count ≠ 1) : writeTransfer port buff sector count = (do
      let res ← cmd25Answer port sector count
      if res = 0 then
        let written ← writeBlocks port count buff
        let stopped ← onPort (port.xmitDatablock [] 0xFD)
        return written && stopped
      else return false) := by
  funext d
  rw [writeTransfer, if_neg hcount]
  simp only [cmd25Answer, bind, StateT.bind, get, getThe, MonadStateOf.get, StateT.get, pure]
  by_cases hsdc : d.cardType &&& ctSdc ≠ 0
  · rw [if_pos hsdc, if_pos hsdc]
    rfl
  · rw [if_neg hsdc, if_neg hsdc]
    rfl

/-- `CMD25`, with `ACMD23` before it. -/
theorem cmd25Answer_monitor (sector : UInt32) (count : ℕ) :
    Triple (fun d ↦ d.card.monitor.log = log) (cmd25Answer (h.port opt) sector count) fun res d ↦
      ∃ pre, Prelude pre ∧ Answered (packet cmd25 sector) (log ++ pre) res d.card.monitor := by
  have hcmd : Triple (fun d : SdDriver (Bus κ) ↦ ∃ pre, Prelude pre ∧
      d.card.monitor.log = log ++ pre) (onPort ((h.port opt).sendCmd cmd25 sector)) fun res d ↦
      ∃ pre, Prelude pre ∧ Answered (packet cmd25 sector) (log ++ pre) res d.card.monitor := by
    rintro d ⟨pre, hpre, hlog⟩
    obtain ⟨pre', hpre', hanswered⟩ := h.sendPlainCmd_monitor cmd25 (by decide) (by decide)
      (by decide) sector d.card hlog
    rw [List.append_assoc] at hanswered
    exact ⟨pre ++ pre', hpre.append (.of_deselected hpre'), hanswered⟩
  refine .bind (Q := fun _ d ↦ d.card.monitor.log = log) (.get fun _ ↦ id) fun d ↦ ?_
  refine .ite (fun _ ↦ .bind (Triple.onPort (sendCmd_acmd23 h _)) fun _ ↦ hcmd) fun _ ↦ ?_
  exact hcmd.weaken (fun d hd ↦ ⟨[], nofun, hd.trans (List.append_nil log).symm⟩) fun _ _ ↦ id

/-- The loop over the blocks. -/
theorem writeBlocks_monitor (count : ℕ) (buff : List UInt8) (hbuff : buff.length = 512 * count) :
    Triple (fun d ↦ d.card.monitor = ⟨.data cmd25, log⟩) (writeBlocks (h.port opt) count buff)
      fun ok d ↦ ∃ sent, BlocksSent 0xFC (blocksOf count buff) ok sent ∧
        d.card.monitor = ⟨.data cmd25, log ++ sent⟩ := by
  induction count generalizing buff log with
  | zero =>
    refine .pure fun d hd ↦ ⟨[], ⟨nofun, List.prefix_refl _, fun _ ↦ ⟨rfl, nofun⟩⟩, ?_⟩
    rw [hd, List.append_nil]
  | succ count ih =>
    have hhead : (buff.take 512).length = 512 := by rw [List.length_take, hbuff]; omega
    have htail : (buff.drop 512).length = 512 * count := by rw [List.length_drop, hbuff]; omega
    refine .bind (Triple.onPort (h.xmitDatablock_monitor (by decide) (by decide) hhead)) fun ok ↦
      .ite (fun hok ↦ ?_) fun hok ↦ .pure fun d hd ↦ ?_
    · intro d hd
      obtain ⟨hfail, -⟩ | ⟨resp, hresp, hmonitor⟩ := hd
      · rw [hfail] at hok
        cases hok
      obtain ⟨sent, hsent, hmonitor'⟩ := ih (buff.drop 512) htail d hmonitor
      refine ⟨.block 0xFC (withCrc (buff.take 512)) resp :: sent, ⟨?_, ?_, fun hok' ↦ ?_⟩, ?_⟩
      · rintro e (_ | ⟨_, he⟩)
        · exact ⟨_, _, rfl⟩
        · exact hsent.block e he
      · exact (List.prefix_cons_inj _).2 hsent.prefix_blocks
      · obtain ⟨hblocks, haccepted⟩ := hsent.complete hok'
        refine ⟨congrArg (withCrc (buff.take 512) :: ·) hblocks, ?_⟩
        rintro s (_ | ⟨_, hs⟩)
        · exact hresp.1 hok
        · exact haccepted s hs
      · rw [hmonitor', List.append_assoc]
        rfl
    · obtain ⟨-, hmonitor⟩ | ⟨resp, -, hmonitor⟩ := hd
      · refine ⟨[], ⟨nofun, List.nil_prefix, fun hok' ↦ absurd hok' Bool.false_ne_true⟩, ?_⟩
        rw [hmonitor, List.append_nil]
      · refine ⟨[.block 0xFC (withCrc (buff.take 512)) resp],
          ⟨?_, List.prefix_append _ _, fun hok' ↦ absurd hok' Bool.false_ne_true⟩, hmonitor⟩
        exact fun e he ↦ ⟨_, _, List.mem_singleton.1 he⟩

/-- The transfer of one block. -/
theorem writeTransfer_one {buff : List UInt8} (hbuff : buff.length = 512) (sector : UInt32) :
    Triple (fun d ↦ d.card.monitor.log = []) (writeTransfer (h.port opt) buff sector 1) fun ok d ↦
      ∃ pre sent, Prelude pre ∧ BlocksSent 0xFE (blocksOf 1 buff) ok sent ∧
        d.card.monitor.log = pre ++ sent := by
  rw [writeTransfer, if_pos rfl, blocksOf, blocksOf, List.take_of_length_le hbuff.le]
  refine .bind (Triple.onPort (P := fun b ↦ b.monitor.log = [])
    (h.sendPlainCmd_monitor cmd24 (by decide) (by decide) (by decide) sector)) fun res ↦
      .ite (fun hres ↦ ?_) fun hres ↦ ?_
  · subst hres
    rintro d ⟨pre, hpre, hanswered⟩
    rw [Answered, if_pos (by decide),
      show CardPhase.afterAnswer (packet cmd24 sector) 0 = .data cmd24 from if_pos ⟨rfl, rfl⟩]
      at hanswered
    have hcmd24 : ¬ IsCmd25 (packet cmd24 sector) :=
      show ¬ some (0x40 ||| cmd24) = some (0x40 ||| cmd25) by decide
    have hprelude : Prelude (pre ++ [.answered (packet cmd24 sector) 0]) :=
      (Prelude.of_deselected hpre).append (.answered fun _ ↦ hcmd24)
    obtain ⟨hok, hmonitor⟩ | ⟨resp, hresp, hmonitor⟩ :=
      h.xmitDatablock_monitor (show (0xFE : UInt8) ≠ 0xFF by decide) (by decide) hbuff d.card
        hanswered
    · refine ⟨_, [], hprelude, .of_nil hok, ?_⟩
      rw [List.append_nil]
      exact congrArg Monitor.log hmonitor
    · exact ⟨_, _, hprelude, .of_single hresp, congrArg Monitor.log hmonitor⟩
  · refine .pure ?_
    rintro d ⟨pre, hpre, hanswered⟩
    obtain ⟨pre', hpre', hlog⟩ := (Prelude.of_deselected hpre).of_answered
      (fun hres' ↦ absurd hres' hres) hanswered
    refine ⟨pre', [], hpre', .of_nil rfl, ?_⟩
    rw [hlog, List.append_nil, List.nil_append]

/-- What the stop token adds, if the card is ready for it. -/
theorem xmitDatablock_stop_log {cmd : UInt8} (b : Bus κ) (hb : b.monitor = ⟨.data cmd, log⟩) :
    (h.xmitDatablock [] 0xFD b).2.monitor.log =
      log ++ stopEntries (h.waitReady b).1 (h.xmitDatablock [] 0xFD b).1 := by
  have hstop := h.xmitDatablock_stop b b ⟨rfl, hb⟩
  split at hstop
  · rename_i hready
    rw [hready]
    split at hstop
    · rename_i hok
      rw [hok]
      exact congrArg Monitor.log hstop
    · rename_i hok
      rw [Bool.eq_false_iff.2 hok]
      exact congrArg Monitor.log hstop
  · rename_i hready
    rw [Bool.eq_false_iff.2 hready]
    exact (congrArg Monitor.log hstop.2).trans (List.append_nil log).symm

/-- The transfer of several blocks: `CMD25` is refused and nothing is sent, or it is accepted, and
the blocks and the stop token are sent as far as the card lets them. -/
theorem writeTransfer_several {count : ℕ} (hcount : count ≠ 1) {buff : List UInt8}
    (hbuff : buff.length = 512 * count) (sector : UInt32) {d : SdDriver (Bus κ)}
    (hd : d.card.monitor.log = []) {answer : UInt8 × SdDriver (Bus κ)}
    (hanswer : cmd25Answer (h.port opt) sector count d = answer) {out : Bool × SdDriver (Bus κ)}
    (hout : writeTransfer (h.port opt) buff sector count d = out) :
    answer.1 ≠ 0 ∧ out.1 = false ∧ Prelude out.2.card.monitor.log ∨
      answer.1 = 0 ∧ ∃ pre sent written stopped, Prelude pre ∧
        BlocksSent 0xFC (blocksOf count buff) written sent ∧ out.1 = (written && stopped) ∧
        out.2.card.monitor.log = pre ++ .answered (packet cmd25 sector) 0 ::
          (sent ++ stopEntries
            (h.waitReady (writeBlocks (h.port opt) count buff answer.2).2.card).1 stopped) := by
  obtain ⟨pre, hpre, hanswered⟩ := cmd25Answer_monitor h opt sector count d hd
  rw [hanswer] at hanswered
  have hrest : (do
      if answer.1 = 0 then
        let written ← writeBlocks (h.port opt) count buff
        let stopped ← onPort ((h.port opt).xmitDatablock [] 0xFD)
        return written && stopped
      else return false : SdM (Bus κ) Bool) answer.2 = out := by
    rw [← hout, writeTransfer_of_ne_one _ _ _ hcount, ← hanswer]
    rfl
  by_cases hres : answer.1 = 0
  · rw [if_pos hres] at hrest
    refine .inr ⟨hres, pre, ?_⟩
    have hphase : answer.2.card.monitor =
        ⟨.data cmd25, pre ++ [.answered (packet cmd25 sector) 0]⟩ := by
      rw [Answered, hres, if_pos (by decide)] at hanswered
      exact hanswered
    obtain ⟨sent, hsent, hblocks⟩ := writeBlocks_monitor h opt count buff hbuff answer.2 hphase
    rcases hwrite : writeBlocks (h.port opt) count buff answer.2 with ⟨written, d₂⟩
    rw [hwrite] at hsent hblocks
    have hlog := xmitDatablock_stop_log h d₂.card hblocks
    rcases hxmit : h.xmitDatablock [] 0xFD d₂.card with ⟨stopped, b⟩
    rw [hxmit] at hlog
    have hrun : out = (written && stopped, { d₂ with card := b }) := by
      rw [← hrest]
      show (let w := writeBlocks (h.port opt) count buff answer.2
        let x := h.xmitDatablock [] 0xFD w.2.card
        (w.1 && x.1, { w.2 with card := x.2 })) = _
      rw [hwrite]
      dsimp only
      rw [hxmit]
    refine ⟨sent, written, stopped, hpre, hsent, congrArg Prod.fst hrun, ?_⟩
    rw [hrun, hlog, List.append_assoc, List.append_assoc]
    rfl
  · rw [if_neg hres] at hrest
    subst hrest
    obtain ⟨pre', hpre', hlog⟩ := hpre.of_answered (fun hzero ↦ absurd hzero hres) hanswered
    exact .inl ⟨hres, rfl, hlog ▸ hpre'⟩

variable {h opt}

/-- Without the mutex nothing is sent. -/
theorem ffSdSpiWrite_not_taken {d : SdDriver (Bus κ)} (hinit : d.stat.noInit = false)
    (hprotected : d.stat.isProtected = false) (hmutex : (h.takeMutex d.card.host).1 = false)
    {count : ℕ} (hcount : count ≠ 0) (buff : List UInt8) (sector : UInt32) :
    ffSdSpiWrite (h.port opt) 0 buff sector count d =
      (.error, { d with card := (SpiHost.call h.takeMutex d.card).2 }) := by
  have htake : onPort (h.port opt).takeMutex d =
      (false, { d with card := (SpiHost.call h.takeMutex d.card).2 }) := Prod.ext hmutex rfl
  rw [ffSdSpiWrite, if_neg (by simp [hcount])]
  simp only [bind, StateT.bind, get, getThe, MonadStateOf.get, StateT.get, pure, hinit, hprotected,
    Bool.false_eq_true, if_false]
  rw [htake]
  rfl

/-- Once the mutex is taken, the transfer decides. -/
theorem ffSdSpiWrite_taken {d : SdDriver (Bus κ)} (hinit : d.stat.noInit = false)
    (hprotected : d.stat.isProtected = false) (hmutex : (h.takeMutex d.card.host).1 = true)
    {count : ℕ} (hcount : count ≠ 0) (buff : List UInt8) (sector : UInt32) {ok : Bool}
    {d' : SdDriver (Bus κ)}
    (htransfer : writeTransfer (h.port opt) buff
      (if d.cardType &&& ctBlock = 0 then sector * 512 else sector) count
      { d with card := (SpiHost.call h.takeMutex d.card).2 } = (ok, d')) :
    (ffSdSpiWrite (h.port opt) 0 buff sector count d).1 = (if ok then .ok else .error) ∧
      (ffSdSpiWrite (h.port opt) 0 buff sector count d).2.card.monitor.log =
        d'.card.monitor.log ++ [.deselected] := by
  have hrun : ffSdSpiWrite (h.port opt) 0 buff sector count d = (if ok then .ok else .error,
      { d' with card := (h.port opt).giveMutex ((h.port opt).deselect d'.card) }) := by
    rw [ffSdSpiWrite, if_neg (by simp [hcount])]
    simp only [bind, StateT.bind, get, getThe, MonadStateOf.get, StateT.get, pure, hinit, hprotected,
      Bool.false_eq_true, if_false]
    have htake : onPort (h.port opt).takeMutex d =
        (true, { d with card := (SpiHost.call h.takeMutex d.card).2 }) := Prod.ext hmutex rfl
    rw [htake]
    simp only [if_true, StateT.bind]
    rw [htransfer]
    rfl
  rw [hrun]
  exact ⟨rfl, congrArg Monitor.log (h.deselect_monitor d'.card rfl)⟩

/-- The stop token is due with the bus `b`: the disk is ready, the mutex was taken, `CMD25` was
accepted, and the loop over the blocks has ended. -/
def StopDue (h : SpiHost κ) (opt : SdOptions) (buff : List UInt8) (sector : UInt32) (count : ℕ)
    (d : SdDriver (Bus κ)) (b : Bus κ) : Prop :=
  count ≠ 1 ∧ d.stat = ⟨false, false⟩ ∧ (h.takeMutex d.card.host).1 = true ∧
    let answer := cmd25Answer (h.port opt)
      (if d.cardType &&& ctBlock = 0 then sector * 512 else sector) count
      { d with card := (SpiHost.call h.takeMutex d.card).2 }
    answer.1 = 0 ∧ b = (writeBlocks (h.port opt) count buff answer.2).2.card

/-- A write that gets no stop token onto the bus: the card is still busy when it is due. -/
def StopBusy (h : SpiHost κ) (opt : SdOptions) (buff : List UInt8) (sector : UInt32) (count : ℕ)
    (d : SdDriver (Bus κ)) : Prop :=
  ∃ b, StopDue h opt buff sector count d b ∧ (h.waitReady b).1 = false

end Transfer

/-! ### The law -/

section Law

variable {κ : Type} {h : SpiHost κ} {opt : SdOptions} {stat : DStatus} {cardType : UInt8} {host : κ}
  {buff : List UInt8} {sector : UInt32} {count : ℕ}

/-- The driver before a call, with an empty record of the bus. -/
def startWrite (stat : DStatus) (cardType : UInt8) (host : κ) : SdDriver (Bus κ) :=
  ⟨stat, cardType, ⟨host, []⟩⟩

/-- The driver once the mutex is taken. -/
def takenWrite (h : SpiHost κ) (cardType : UInt8) (host : κ) : SdDriver (Bus κ) :=
  ⟨⟨false, false⟩, cardType, ⟨(h.takeMutex host).2, []⟩⟩

/-- `Stat` is tested before anything is sent. -/
theorem ffSdSpiWrite_refused (hcount : count ≠ 0) (hrefused : stat ≠ ⟨false, false⟩) :
    ∃ result, Refused stat result ∧
      ffSdSpiWrite (h.port opt) 0 buff sector count (startWrite stat cardType host) =
        (result, startWrite stat cardType host) := by
  rw [ffSdSpiWrite, if_neg (by simp [hcount])]
  rcases stat with ⟨_ | _, _ | _⟩
  · exact absurd rfl hrefused
  · exact ⟨.wrPrt, .inr ⟨rfl, rfl⟩, rfl⟩
  · exact ⟨.notRdy, .inl ⟨rfl, rfl⟩, rfl⟩
  · exact ⟨.notRdy, .inl ⟨rfl, rfl⟩, rfl⟩

/-- One block. -/
theorem writeLaw_one (hmutex : (h.takeMutex host).1 = true) (hbuff : buff.length = 512) :
    WriteLaw 1 buff ⟨false, false⟩
      (ffSdSpiWrite (h.port opt) 0 buff sector 1 (startWrite ⟨false, false⟩ cardType host)).1
      (ffSdSpiWrite (h.port opt) 0 buff sector 1
        (startWrite ⟨false, false⟩ cardType host)).2.card.monitor.log := by
  obtain ⟨pre, sent, hpre, hsent, hlog⟩ := writeTransfer_one h opt hbuff
    (if cardType &&& ctBlock = 0 then sector * 512 else sector) (takenWrite h cardType host) rfl
  rcases htransfer : writeTransfer (h.port opt) buff
    (if cardType &&& ctBlock = 0 then sector * 512 else sector) 1 (takenWrite h cardType host) with
    ⟨ok, d'⟩
  rw [htransfer] at hsent hlog
  obtain ⟨hresult, hfinal⟩ := ffSdSpiWrite_taken
    (d := startWrite ⟨false, false⟩ cardType host) rfl rfl hmutex one_ne_zero buff sector htransfer
  rw [hresult, hfinal]
  refine .of_one hpre hsent ?_
  rw [← List.append_assoc, ← hlog]

/-- Several blocks. -/
theorem writeLaw_several (hmutex : (h.takeMutex host).1 = true) (hcount : 1 < count)
    (hbuff : buff.length = 512 * count) :
    WriteLaw count buff ⟨false, false⟩
        (ffSdSpiWrite (h.port opt) 0 buff sector count (startWrite ⟨false, false⟩ cardType host)).1
        (ffSdSpiWrite (h.port opt) 0 buff sector count
          (startWrite ⟨false, false⟩ cardType host)).2.card.monitor.log ↔
      ¬ StopBusy h opt buff sector count (startWrite ⟨false, false⟩ cardType host) := by
  set answer := cmd25Answer (h.port opt) (if cardType &&& ctBlock = 0 then sector * 512 else sector)
    count (takenWrite h cardType host) with hanswer
  rcases htransfer : writeTransfer (h.port opt) buff
    (if cardType &&& ctBlock = 0 then sector * 512 else sector) count
    (takenWrite h cardType host) with ⟨ok, d'⟩
  have hdue : ∀ b, StopDue h opt buff sector count (startWrite ⟨false, false⟩ cardType host) b ↔
      answer.1 = 0 ∧ b = (writeBlocks (h.port opt) count buff answer.2).2.card :=
    fun b ↦ ⟨fun hb ↦ hb.2.2.2, fun hb ↦ ⟨hcount.ne', rfl, hmutex, hb⟩⟩
  obtain ⟨hresult, hfinal⟩ := ffSdSpiWrite_taken (d := startWrite ⟨false, false⟩ cardType host) rfl
    rfl hmutex (Nat.ne_of_gt (Nat.zero_lt_of_lt hcount)) buff sector htransfer
  rw [hresult, hfinal]
  obtain ⟨hres, hok, hpre⟩ | ⟨hres, pre, sent, written, stopped, hpre, hsent, hok, hlog⟩ :=
    writeTransfer_several h opt hcount.ne' hbuff _ rfl hanswer.symm htransfer
  · refine ⟨fun _ hbusy ↦ ?_, fun _ ↦ .of_prelude ?_ (.inl ?_)⟩
    · obtain ⟨b, hdue', -⟩ := hbusy
      exact hres ((hdue b).1 hdue').1
    · exact hpre.append (.of_deselected (by simp))
    · rw [show ok = false from hok]
      rfl
  · rw [show ok = (written && stopped) from hok]
    have hwhole := congrArg (· ++ [BusEntry.deselected]) hlog
    simp only [List.append_assoc, List.cons_append] at hwhole
    refine (writeLaw_of_several hpre hsent hwhole).trans ⟨fun hready hbusy ↦ ?_, fun hbusy ↦ ?_⟩
    · obtain ⟨b, hdue', hwait⟩ := hbusy
      obtain ⟨-, rfl⟩ := (hdue b).1 hdue'
      exact Bool.false_ne_true (hwait.symm.trans hready)
    · exact Bool.eq_true_of_not_eq_false fun hwait ↦ hbusy ⟨_, (hdue _).2 ⟨hres, rfl⟩, hwait⟩

end Law

/-! ### Two cards -/

/-- The card is busy at every second byte. A wait is two polls long, so that every wait succeeds,
and every command is answered with 0. -/
def flipHost : SpiHost Bool where
  takeMutex k := (true, k)
  giveMutex k := k
  delay k := k
  calloc k := (true, k)
  setSpeed _ k := k
  setLevel _ k := k
  trans _ k := (if k then 0xFF else 0x00, !k)
  polls _ := 1

/-- This card is ready at the second look at the latest. -/
theorem flipHost_waitReady (b : Bus Bool) : (flipHost.waitReady b).1 = true := by
  rcases b with ⟨_ | _, trace⟩ <;> rfl
