import SmartAp.SdCard.ReadMonitor
import SmartAp.SdCard.BlockWrites
import SmartAp.SdCard.Addresses

/-!
# Reading several blocks

`ff_sd_spi_read` reads one block after `CMD17`, or several after `CMD18`, which `CMD12` ends.
`RES_OK` means that the command was accepted and that all blocks arrived, and then the buffer holds
their data in order; every other result is an error (`ReadLaw`, `readLaw`). The law holds on every
host.

## Two accounts of one call

What the card has sent is read off the bus by a monitor that does not know the driver
(`SmartAp.SdCard.ReadMonitor`): it yields the blocks that arrived, with their checksums
(`receivedBlocks`), and whether each accepted `CMD18` was stopped (`Stopped`).

What the function writes is a list of stores, each with its address (`ffSdSpiReadAt`), and
`ffSdSpiReadAt_storesFrom` says that these are the bytes of `ffSdSpiRead`, from `buff` on and
without gaps. So the pointer that the loop moves is a part of the model and not of its reading.

## The proof

`BlocksArrived` is the invariant of the loop over the blocks: what is in the buffer, what the log of
the monitor has gained, and how many blocks are missing. It is extended by a block at a time
(`BlocksArrived.append`), and the loop ends at the first block that does not come or has a wrong
checksum. A transfer either was never begun (`ReadLaw.of_rejected`) or is such a loop between the
command and `CMD12` (`ReadLaw.of_arrived`); `readTransfer_reader` brings the two together.
-/

/-- The command of a read. -/
def readCommand (count : ℕ) : UInt8 := if count = 1 then cmd17 else cmd18

/-- The blocks that arrived, with their checksums. -/
def receivedBlocks (log : List ReadEntry) : List (List UInt8) := log.filterMap fun
  | .block bytes => some bytes
  | _ => none

/-- The packet is one of `CMD18`. -/
def IsCmd18 (packet : List UInt8) : Prop := packet.head? = some (0x40 ||| cmd18)

/-- A packet of `CMD12` was sent. -/
def IsStop : ReadEntry → Bool
  | .sent packet => packet.head? = some (0x40 ||| cmd12)
  | _ => false

/-- After each accepted `CMD18` there is one `CMD12`. -/
def Stopped : List ReadEntry → Prop
  | [] => True
  | .answered packet r1 :: log => (r1 = 0 → IsCmd18 packet → log.countP IsStop = 1) ∧ Stopped log
  | _ :: log => Stopped log

/-- What is expected of a read: of its result and of what it writes to the buffer, by what the card
has sent. -/
structure ReadLaw (crcOn : Bool) (count : ℕ) (address : UInt32) (stat : DStatus) (result : DResult)
    (stores : List (ℕ × UInt8)) (log : List ReadEntry) : Prop where
  ok_iff : result = .ok ↔ .answered (packet (readCommand count) address) 0 ∈ log ∧
    (receivedBlocks log).length = count ∧
      ∀ bytes ∈ receivedBlocks log, crcOn = true → ChecksumRight bytes
  exact : result = .ok →
    stores.map Prod.snd = (receivedBlocks log).flatMap (·.take 512) ∧
      stores.map Prod.fst = List.range (512 * count)
  inside : ∀ store ∈ stores, store.1 < 512 * count
  error : result ≠ .ok → result = .error ∨ stat.noInit = true ∧ result = .notRdy
  stopped : Stopped log

/-! ### The stores -/

section Stores

variable {κ : Type}

/-- `rcvr_datablock(buff, ..)` stores its bytes from `buff` on. -/
def storesAt (buff : ℕ) (bytes : List UInt8) : List (ℕ × UInt8) :=
  bytes.mapIdx fun i byte ↦ (buff + i, byte)

/-- The loop of `readBlocks` with the pointer that it moves. -/
def readBlocksAt (port : SdPort κ) : (count buff : ℕ) → SdM κ (Bool × List (ℕ × UInt8))
  | 0, _ => return (true, [])
  | count + 1, buff => do
    let (ok, block) ← onPort (port.rcvrDatablock 512)
    if ok then
      let (rest, stores) ← readBlocksAt port count (buff + 512)
      return (rest, storesAt buff block ++ stores)
    else return (false, storesAt buff block)

/-- The transfer of `readTransfer`. -/
def readTransferAt (port : SdPort κ) (sector : UInt32) (count buff : ℕ) :
    SdM κ (Bool × List (ℕ × UInt8)) := do
  if count = 1 then
    let res ← onPort (port.sendCmd cmd17 sector)
    if res = 0 then
      let (ok, block) ← onPort (port.rcvrDatablock 512)
      return (ok, storesAt buff block)
    else return (false, [])
  else
    let res ← onPort (port.sendCmd cmd18 sector)
    if res = 0 then
      let blocks ← readBlocksAt port count buff
      let _ ← onPort (port.sendCmd cmd12 0)
      let _ ← onPort port.waitReady
      return blocks
    else return (false, [])

/-- **`ff_sd_spi_read`**, with the stores to memory. -/
def ffSdSpiReadAt (port : SdPort κ) (pdrv : ℕ) (sector : UInt32) (count buff : ℕ) :
    SdM κ (DResult × List (ℕ × UInt8)) := do
  if pdrv ≠ 0 ∨ count = 0 then return (.parErr, [])
  let d ← get
  if d.stat.noInit then return (.notRdy, [])
  if ← onPort port.takeMutex then
    let sector := if d.cardType &&& ctBlock = 0 then sector * 512 else sector
    let (ok, stores) ← readTransferAt port sector count buff
    toPort port.deselect
    toPort port.giveMutex
    return (if ok then .ok else .error, stores)
  else return (.error, [])

/-- The stores of two runs of bytes, one behind the other. -/
theorem storesAt_append (buff : ℕ) (xs ys : List UInt8) :
    storesAt buff (xs ++ ys) = storesAt buff xs ++ storesAt (buff + xs.length) ys := by
  simp only [storesAt, List.mapIdx_append, Nat.add_assoc, Nat.add_comm xs.length]

theorem map_snd_storesAt (buff : ℕ) (bytes : List UInt8) :
    (storesAt buff bytes).map Prod.snd = bytes := by
  refine List.ext_getElem (by simp [storesAt]) fun i hi hi' ↦ ?_
  simp [storesAt]

/-- The stores fill the buffer from its start, without a gap. -/
theorem map_fst_storesAt (bytes : List UInt8) :
    (storesAt 0 bytes).map Prod.fst = List.range bytes.length := by
  refine List.ext_getElem (by simp [storesAt]) fun i hi hi' ↦ ?_
  simp [storesAt]

theorem fst_lt_of_mem_storesAt {buff : ℕ} {bytes : List UInt8} {store : ℕ × UInt8}
    (h : store ∈ storesAt buff bytes) : store.1 < buff + bytes.length := by
  obtain ⟨i, hi, rfl⟩ := List.mem_mapIdx.1 h
  exact Nat.add_lt_add_left hi buff

/-- The second program stores from `buff` on what the first one returns. -/
def StoresFrom {α : Type} (buff : ℕ) (m : SdM κ (α × List UInt8))
    (m' : SdM κ (α × List (ℕ × UInt8))) : Prop :=
  ∀ d, m' d = (((m d).1.1, storesAt buff (m d).1.2), (m d).2)

section Rules

variable {α β : Type} {buff : ℕ}

theorem StoresFrom.pure (a : α) (bytes : List UInt8) :
    StoresFrom buff (κ := κ) (pure (a, bytes)) (pure (a, storesAt buff bytes)) := fun _ ↦ rfl

/-- A step that stores nothing, before steps that do. -/
theorem StoresFrom.bind_same {x : SdM κ β} {f : β → SdM κ (α × List UInt8)}
    {f' : β → SdM κ (α × List (ℕ × UInt8))} (hf : ∀ b, StoresFrom buff (f b) (f' b)) :
    StoresFrom buff (x >>= f) (x >>= f') := fun d ↦ hf (x d).1 (x d).2

/-- Two steps that store, the second from where the first ended. -/
theorem StoresFrom.bind {m : SdM κ (β × List UInt8)} {m' : SdM κ (β × List (ℕ × UInt8))}
    {f : β × List UInt8 → SdM κ (α × List UInt8)}
    {f' : β × List (ℕ × UInt8) → SdM κ (α × List (ℕ × UInt8))} (hm : StoresFrom buff m m')
    (hf : ∀ b bytes, StoresFrom buff (f (b, bytes)) (f' (b, storesAt buff bytes))) :
    StoresFrom buff (m >>= f) (m' >>= f') := fun d ↦ by
  show f' (m' d).1 (m' d).2 = _
  rw [hm d]
  exact hf (m d).1.1 (m d).1.2 (m d).2

/-- A branch is no store. -/
theorem StoresFrom.ite {c : Prop} [Decidable c] {m n : SdM κ (α × List UInt8)}
    {m' n' : SdM κ (α × List (ℕ × UInt8))} (hm : StoresFrom buff m m') (hn : StoresFrom buff n n') :
    StoresFrom buff (if c then m else n) (if c then m' else n') := by
  split
  · exact hm
  · exact hn

end Rules

variable {port : SdPort κ} (hlength : ∀ k, (port.rcvrDatablock 512 k).1.1 = true →
  (port.rcvrDatablock 512 k).1.2.length = 512)

include hlength

/-- **The pointer moves with the blocks**: what the loop returns as a list is stored without
gaps. -/
theorem readBlocksAt_storesFrom (count buff : ℕ) :
    StoresFrom buff (readBlocks port count) (readBlocksAt port count buff) := by
  induction count generalizing buff with
  | zero => exact .pure _ _
  | succ count ih =>
    intro d
    set out := onPort (port.rcvrDatablock 512) d with hout
    have hleft : readBlocksAt port (count + 1) buff d = (if out.1.1 then (do
        let (rest, stores) ← readBlocksAt port count (buff + 512)
        return (rest, storesAt buff out.1.2 ++ stores))
        else return (false, storesAt buff out.1.2) : SdM κ (Bool × List (ℕ × UInt8))) out.2 := rfl
    have hright : readBlocks port (count + 1) d = (if out.1.1 then (do
        let (rest, blocks) ← readBlocks port count
        return (rest, out.1.2 ++ blocks))
        else return (false, out.1.2) : SdM κ (Bool × List UInt8)) out.2 := rfl
    rw [hleft, hright]
    by_cases hok : out.1.1 = true
    · have hsize : out.1.2.length = 512 := hlength d.card hok
      rw [if_pos hok, if_pos hok]
      show ((_, storesAt buff out.1.2 ++ (readBlocksAt port count (buff + 512) out.2).1.2), _) = _
      rw [ih (buff + 512) out.2]
      show ((_, _), _) = ((_, storesAt buff (out.1.2 ++ (readBlocks port count out.2).1.2)), _)
      rw [storesAt_append, hsize]
      rfl
    · rw [if_neg hok, if_neg hok]
      rfl

/-- A transfer with its stores noted is the transfer. -/
theorem readTransferAt_storesFrom (sector : UInt32) (count buff : ℕ) :
    StoresFrom buff (readTransfer port sector count) (readTransferAt port sector count buff) := by
  refine .ite (.bind_same fun _ ↦ .ite ?_ (.pure _ _)) (.bind_same fun _ ↦ .ite ?_ (.pure _ _))
  · exact fun _ ↦ rfl
  · exact .bind (readBlocksAt_storesFrom hlength count buff) fun _ _ ↦ .bind_same fun _ ↦
      .bind_same fun _ ↦ .pure _ _

/-- **What `ff_sd_spi_read` writes** is stored from `buff` on, without gaps. -/
theorem ffSdSpiReadAt_storesFrom (pdrv : ℕ) (sector : UInt32) (count buff : ℕ) :
    StoresFrom buff (ffSdSpiRead port pdrv sector count)
      (ffSdSpiReadAt port pdrv sector count buff) := by
  refine .ite (.pure _ _) <| .bind_same fun d ↦ .ite (.pure _ _) <| .bind_same fun _ ↦
    .ite ?_ (.pure _ _)
  exact .bind (readTransferAt_storesFrom hlength _ count buff) fun _ _ ↦ .bind_same fun _ ↦
    .bind_same fun _ ↦ .pure _ _

end Stores

/-! ### What arrives -/

section Logs

variable {crcOn ok : Bool} {count : ℕ} {buff : List UInt8} {entries log pre : List ReadEntry}

/-- The blocks of two parts of a log. -/
@[simp] theorem receivedBlocks_append (log log' : List ReadEntry) :
    receivedBlocks (log ++ log') = receivedBlocks log ++ receivedBlocks log' :=
  List.filterMap_append

/-- These entries are the blocks that arrived while `count` were awaited, and the token that came
instead of one. -/
structure BlocksArrived (crcOn : Bool) (count : ℕ) (ok : Bool) (buff : List UInt8)
    (entries : List ReadEntry) : Prop where
  data : ∀ e ∈ entries, (∃ bytes, e = .block bytes) ∨ ∃ token, e = .token token
  size : ∀ bytes ∈ receivedBlocks entries, bytes.length = 514
  length_le : (receivedBlocks entries).length ≤ count
  ok_iff : ok = true ↔ (receivedBlocks entries).length = count ∧
    ∀ bytes ∈ receivedBlocks entries, crcOn = true → ChecksumRight bytes
  buff_eq : buff = (receivedBlocks entries).flatMap (·.take 512)

/-- No block is awaited. -/
theorem BlocksArrived.nil : BlocksArrived crcOn 0 true [] [] :=
  ⟨nofun, nofun, le_rfl, by simp [receivedBlocks], rfl⟩

/-- A block does not come. -/
theorem BlocksArrived.missing (h : entries = [] ∨ ∃ token, entries = [.token token]) :
    BlocksArrived crcOn 1 false [] entries := by
  have hnone : receivedBlocks entries = [] := by
    rcases h with rfl | ⟨token, rfl⟩ <;> rfl
  refine ⟨fun e he ↦ ?_, by simp [hnone], by simp [hnone], by simp [hnone], by simp [hnone]⟩
  rcases h with rfl | ⟨token, rfl⟩
  · cases he
  · exact .inr ⟨token, List.mem_singleton.1 he⟩

/-- A block comes, and its checksum decides. -/
theorem BlocksArrived.block {bytes : List UInt8} (hsize : bytes.length = 514)
    (hok : ok = true ↔ (crcOn = true → ChecksumRight bytes)) :
    BlocksArrived crcOn 1 ok (bytes.take 512) [.block bytes] := by
  have hone : receivedBlocks [.block bytes] = [bytes] := rfl
  refine ⟨fun e he ↦ .inl ⟨bytes, List.mem_singleton.1 he⟩, ?_, ?_, ?_, ?_⟩
  · simpa [hone] using hsize
  · simp [hone]
  · simpa [hone] using hok
  · rw [hone, List.flatMap_cons, List.flatMap_nil, List.append_nil]

/-- More blocks were awaited than the one that did not arrive. -/
theorem BlocksArrived.stopped (h : BlocksArrived crcOn 1 false buff entries) :
    BlocksArrived crcOn (count + 1) false buff entries := by
  refine ⟨h.data, h.size, h.length_le.trans (Nat.le_add_left 1 count), ?_, h.buff_eq⟩
  refine iff_of_false Bool.false_ne_true fun hall ↦ ?_
  have hone : (receivedBlocks entries).length = 1 := by
    have hle := h.length_le
    omega
  exact absurd (h.ok_iff.2 ⟨hone, hall.2⟩) Bool.false_ne_true

/-- A block, and the ones after it. -/
theorem BlocksArrived.append {block : List UInt8} (h : BlocksArrived crcOn 1 true block pre)
    (h' : BlocksArrived crcOn count ok buff entries) :
    BlocksArrived crcOn (count + 1) ok (block ++ buff) (pre ++ entries) := by
  obtain ⟨hone, hright⟩ := h.ok_iff.1 rfl
  refine ⟨fun e he ↦ ?_, fun bytes hbytes ↦ ?_, ?_, ?_, ?_⟩
  · exact (List.mem_append.1 he).elim (h.data e) (h'.data e)
  · rw [receivedBlocks_append] at hbytes
    exact (List.mem_append.1 hbytes).elim (h.size bytes) (h'.size bytes)
  · rw [receivedBlocks_append, List.length_append, hone, Nat.add_comm]
    exact Nat.succ_le_succ h'.length_le
  · rw [receivedBlocks_append, List.length_append, hone, Nat.add_comm 1, Nat.succ_inj,
      List.forall_mem_append, h'.ok_iff]
    exact and_congr_right fun _ ↦ (and_iff_right hright).symm
  · rw [receivedBlocks_append, List.flatMap_append, ← h.buff_eq, ← h'.buff_eq]

/-- Every block has 512 bytes of data. -/
theorem BlocksArrived.length_buff (h : BlocksArrived crcOn count ok buff entries) :
    buff.length = 512 * (receivedBlocks entries).length := by
  have hlength : ∀ blocks : List (List UInt8), (∀ bytes ∈ blocks, bytes.length = 514) →
      (blocks.flatMap (·.take 512)).length = 512 * blocks.length := by
    intro blocks hsize
    induction blocks with
    | nil => rfl
    | cons bytes blocks ih =>
      have htail := ih fun b hb ↦ hsize b (List.mem_cons_of_mem _ hb)
      rw [List.flatMap_cons, List.length_append, htail, List.length_take,
        hsize bytes List.mem_cons_self, List.length_cons]
      omega
  rw [h.buff_eq]
  exact hlength _ h.size

/-! ### The law -/

/-- An entry of a command that was not accepted. -/
def Rejected (e : ReadEntry) : Prop :=
  e = .deselected ∨ (∃ packet, e = .sent packet) ∨ ∃ packet r1, e = .answered packet r1 ∧ r1 ≠ 0

/-- What follows the blocks. -/
structure Stopping (count : ℕ) (tail : List ReadEntry) : Prop where
  other : ∀ e ∈ tail, e = .deselected ∨ e = .sent (packet cmd12 0) ∨
    ∃ r1, e = .answered (packet cmd12 0) r1
  once : count ≠ 1 → tail.countP IsStop = 1

/-- A log without a data block delivers none. -/
theorem receivedBlocks_eq_nil (h : ∀ e ∈ log, ∀ bytes, e ≠ .block bytes) :
    receivedBlocks log = [] := by
  refine List.filterMap_eq_nil_iff.2 fun e he ↦ ?_
  cases e with
  | block bytes => exact absurd rfl (h _ he bytes)
  | deselected => rfl
  | sent packet => rfl
  | answered packet r1 => rfl
  | token value => rfl

/-- What was sent before CMD18 does not have to be stopped. -/
theorem stopped_append (h : ∀ packet, .answered packet 0 ∈ pre → ¬ IsCmd18 packet) :
    Stopped (pre ++ log) ↔ Stopped log := by
  induction pre with
  | nil => exact Iff.rfl
  | cons e pre ih =>
    have hpre := ih fun packet hmem ↦ h packet (List.mem_cons_of_mem _ hmem)
    cases e with
    | answered packet r1 =>
      have hother : r1 = 0 → ¬ IsCmd18 packet := fun hr1 ↦
        h packet (by rw [hr1]; exact List.mem_cons_self)
      exact ⟨fun hlog ↦ hpre.1 hlog.2,
        fun hlog ↦ ⟨fun hr1 hcmd ↦ absurd hcmd (hother hr1), hpre.2 hlog⟩⟩
    | deselected => exact hpre
    | sent packet => exact hpre
    | token value => exact hpre
    | block bytes => exact hpre

/-- A command that was rejected was not answered with 0. -/
theorem Rejected.ne_answered {e : ReadEntry} (h : Rejected e) {packet : List UInt8} :
    e ≠ .answered packet 0 := by
  rintro rfl
  rcases h with h | ⟨p, h⟩ | ⟨p, r1, h, hr1⟩
  · cases h
  · cases h
  · cases h
    exact hr1 rfl

/-- Nothing has to be stopped when the card took no command. -/
theorem stopped_of_rejected (h : ∀ e ∈ log, Rejected e) : Stopped log := by
  have hnil : Stopped (log ++ []) ↔ Stopped [] :=
    stopped_append fun packet hmem ↦ absurd rfl (h _ hmem).ne_answered
  rw [List.append_nil] at hnil
  exact hnil.2 trivial

variable {address : UInt32} {stat : DStatus} {result : DResult}

/-- The read command was not accepted. -/
theorem ReadLaw.of_rejected (h : ∀ e ∈ log, Rejected e)
    (hresult : result = .error ∨ stat.noInit = true ∧ result = .notRdy) :
    ReadLaw crcOn count address stat result [] log := by
  have hok : result ≠ .ok := by
    rintro rfl
    rcases hresult with hresult | ⟨-, hresult⟩ <;> cases hresult
  refine ⟨iff_of_false hok fun hanswered ↦ ?_, fun habs ↦ absurd habs hok, nofun, fun _ ↦ hresult,
    stopped_of_rejected h⟩
  exact (h _ hanswered.1).ne_answered rfl

section Parts

variable {tail : List ReadEntry} (hpre : ∀ e ∈ pre, Rejected e)
  (h : BlocksArrived crcOn count ok buff entries) (htail : Stopping count tail)

include hpre htail in
/-- Only the blocks that arrived are blocks. -/
theorem receivedBlocks_transfer {answer : List UInt8} :
    receivedBlocks (pre ++ .answered answer 0 :: (entries ++ tail)) = receivedBlocks entries := by
  have hnone : receivedBlocks pre = [] := receivedBlocks_eq_nil fun e he bytes heq ↦ by
    rcases hpre e he with h | ⟨p, h⟩ | ⟨p, r1, h, -⟩ <;> cases heq.symm.trans h
  have hnone' : receivedBlocks tail = [] := receivedBlocks_eq_nil fun e he bytes heq ↦ by
    rcases htail.other e he with h | h | ⟨r1, h⟩ <;> cases heq.symm.trans h
  rw [receivedBlocks_append, hnone, List.nil_append]
  show receivedBlocks (entries ++ tail) = _
  rw [receivedBlocks_append, hnone', List.append_nil]

include h htail in
/-- There is no accepted command among the blocks and after them. -/
theorem stopped_blocks : Stopped (entries ++ tail) := by
  rw [← List.append_nil (entries ++ tail), stopped_append]
  · trivial
  intro packet hmem
  rcases List.mem_append.1 hmem with hdata | hstop
  · rcases h.data _ hdata with ⟨bytes, heq⟩ | ⟨token, heq⟩ <;> cases heq
  · rcases htail.other _ hstop with heq | heq | ⟨r1, heq⟩
    · cases heq
    · cases heq
    · cases heq
      show ¬ some (0x40 ||| cmd12) = some (0x40 ||| cmd18)
      decide

include hpre h htail in

/-- A transfer is stopped if it was of one block or CMD12 follows its blocks. -/
theorem stopped_transfer :
    Stopped (pre ++ .answered (packet (readCommand count) address) 0 :: (entries ++ tail)) := by
  rw [stopped_append fun packet hmem ↦ absurd rfl (hpre _ hmem).ne_answered]
  refine ⟨fun _ hcmd ↦ ?_, stopped_blocks h htail⟩
  have hmany : count ≠ 1 := by
    rintro rfl
    have hhead : some (0x40 ||| cmd17) = some (0x40 ||| cmd18) := hcmd
    exact absurd hhead (by decide)
  have hnone : entries.countP IsStop = 0 := by
    refine List.countP_eq_zero.2 fun e he ↦ ?_
    rcases h.data e he with ⟨bytes, rfl⟩ | ⟨token, rfl⟩ <;> exact Bool.false_ne_true
  rw [List.countP_append, hnone, htail.once hmany]

include hpre h htail in
/-- The read command was accepted, and the transfer decides. -/
theorem ReadLaw.of_arrived
    (hlog : log = pre ++ .answered (packet (readCommand count) address) 0 :: (entries ++ tail)) :
    ReadLaw crcOn count address stat (if ok then .ok else .error) (storesAt 0 buff) log := by
  have hblocks : receivedBlocks log = receivedBlocks entries := by
    rw [hlog, receivedBlocks_transfer hpre htail]
  have hmem : .answered (packet (readCommand count) address) 0 ∈ log := by
    rw [hlog]
    exact List.mem_append_right _ List.mem_cons_self
  refine ⟨?_, fun hresult ↦ ?_, fun store hstore ↦ ?_, fun hresult ↦ .inl ?_, ?_⟩
  · rw [resultOf_ok, h.ok_iff, hblocks, and_iff_right hmem]
  · have hall := (h.ok_iff.1 (resultOf_ok.1 hresult)).1
    rw [map_snd_storesAt, map_fst_storesAt, hblocks, h.length_buff, hall]
    exact ⟨h.buff_eq, rfl⟩
  · have hlt := fst_lt_of_mem_storesAt hstore
    have hle := h.length_le
    have hlength := h.length_buff
    omega
  · exact if_neg (mt resultOf_ok.2 hresult)
  · rw [hlog]
    exact stopped_transfer hpre h htail

end Parts

end Logs

/-! ### The transfer -/

section Transfer

variable {κ : Type} (h : SpiHost κ) (opt : SdOptions) {log : List ReadEntry}

/-- A read that awaits a block, on the port. -/
theorem rcvrDatablock_reader {cmd : UInt8} :
    Triple (fun d : SdDriver (Bus κ) ↦ d.card.reader = ⟨.token cmd, log⟩)
      (onPort ((h.port opt).rcvrDatablock 512)) fun res d ↦
      (res = (false, []) ∧ (d.card.reader = ⟨.token cmd, log⟩ ∨
        ∃ token, d.card.reader = ⟨.command, log ++ [.token token]⟩)) ∨
      ∃ bytes, bytes.length = 514 ∧ res.2 = bytes.take 512 ∧
        (res.1 = true ↔ (opt.crcOn = true → ChecksumRight bytes)) ∧
        d.card.reader = ⟨.afterBlock cmd, log ++ [.block bytes]⟩ :=
  fun d hd ↦ h.rcvrWithin_reader opt.crcOn (h.polls d.card.host) d.card hd

/-- One block. -/
theorem oneBlock_reader {cmd : UInt8} :
    Triple (fun d : SdDriver (Bus κ) ↦ d.card.reader = ⟨.token cmd, log⟩)
      (onPort ((h.port opt).rcvrDatablock 512)) fun res d ↦ ∃ entries,
        BlocksArrived opt.crcOn 1 res.1 res.2 entries ∧ d.card.reader.log = log ++ entries ∧
          d.card.reader.Between ∧ (res.1 = true → d.card.reader.phase = .afterBlock cmd) := by
  refine (rcvrDatablock_reader h opt).weaken (fun _ ↦ id) ?_
  rintro ⟨ok, block⟩ d (⟨hnone, hd⟩ | ⟨bytes, hsize, hblock, hok, hd⟩)
  · cases hnone
    rcases hd with hd | ⟨token, hd⟩
    · refine ⟨[], .missing (.inl rfl), ?_, ?_, nofun⟩ <;> rw [hd]
      · rw [List.append_nil]
      · exact .inr ⟨cmd, rfl⟩
    · refine ⟨[.token token], .missing (.inr ⟨token, rfl⟩), ?_, ?_, nofun⟩ <;> rw [hd]
      exact .inl rfl
  · obtain rfl : block = bytes.take 512 := hblock
    refine ⟨[.block bytes], .block hsize hok, ?_, ?_, fun _ ↦ ?_⟩ <;> rw [hd]
    show ReadPhase.afterBlock cmd = .command ∨ ∃ cmd', ReadPhase.afterBlock cmd = .token cmd'
    rw [ReadPhase.afterBlock]
    split
    · exact .inl rfl
    · exact .inr ⟨cmd, rfl⟩

/-- The loop over the blocks. -/
theorem readBlocks_reader (count : ℕ) :
    Triple (fun d ↦ d.card.reader = ⟨.token cmd18, log⟩) (readBlocks (h.port opt) count)
      fun res d ↦ ∃ entries, BlocksArrived opt.crcOn count res.1 res.2 entries ∧
        d.card.reader.Between ∧ d.card.reader.log = log ++ entries := by
  induction count generalizing log with
  | zero =>
    refine .pure fun d hd ↦ ⟨[], .nil, ?_, ?_⟩ <;> rw [hd]
    · exact .inr ⟨cmd18, rfl⟩
    · rw [List.append_nil]
  | succ count ih =>
    refine .bind (oneBlock_reader h opt) ?_
    rintro ⟨ok, block⟩
    refine .ite (fun hok ↦ ?_) fun hok ↦ ?_
    · rintro d ⟨entries, harrived, hlog, -, hphase⟩
      obtain rfl : ok = true := hok
      have hnext : d.card.reader = ⟨.token cmd18, log ++ entries⟩ := by
        rw [← hlog]
        exact congrArg (ReadMonitor.mk · d.card.reader.log) (hphase rfl)
      obtain ⟨rest, harrived', hbetween, hlog'⟩ := ih d hnext
      exact ⟨entries ++ rest, harrived.append harrived', hbetween,
        hlog'.trans (List.append_assoc log entries rest)⟩
    · rintro d ⟨entries, harrived, hlog, hbetween, -⟩
      obtain rfl : ok = false := Bool.eq_false_iff.2 hok
      exact ⟨entries, harrived.stopped, hbetween, hlog⟩

theorem afterAnswer_cmd12 (r1 : UInt8) :
    ReadPhase.afterAnswer (packet cmd12 0) r1 = .command := by
  have hhead : (packet cmd12 0).head? = some (0x40 ||| cmd12) := rfl
  rw [ReadPhase.afterAnswer, hhead, if_neg fun habs ↦ absurd habs.2 (by decide),
    if_neg fun habs ↦ absurd habs.2 (by decide)]

/-- `CMD12` and the wait after it. -/
theorem cmd12_reader : Triple (fun d : SdDriver (Bus κ) ↦ d.card.reader.Between ∧
      d.card.reader.log = log) (do
      let _ ← onPort ((h.port opt).sendCmd cmd12 0)
      let _ ← onPort (h.port opt).waitReady : SdM (Bus κ) PUnit) fun _ d ↦
    ∃ answers, (∀ e ∈ answers, ∃ r1, e = .answered (packet cmd12 0) r1) ∧
      d.card.reader = ⟨.command, log ++ .sent (packet cmd12 0) :: answers⟩ := by
  rintro d ⟨hbetween, rfl⟩
  have hcmd : Triple (fun b ↦ b.reader = d.card.reader) (h.sendCmd cmd12 0) fun res b ↦
      ReadAnswered (packet cmd12 0) (d.card.reader.log ++ [.sent (packet cmd12 0)]) res b.reader :=
    h.sendFrame_reader (by decide) (fun _ ↦ rfl) 0 hbetween
  have hwait : ∀ log', Triple (fun b : Bus κ ↦ b.reader = ⟨.command, log'⟩) h.waitReady
      fun _ b ↦ b.reader = ⟨.command, log'⟩ := fun _ ↦ h.waitReady_command
  have hanswered : ReadAnswered (packet cmd12 0) _ (h.sendCmd cmd12 0 d.card).1
      (h.sendCmd cmd12 0 d.card).2.reader := hcmd d.card rfl
  rw [ReadAnswered] at hanswered
  split at hanswered
  · rename_i hres
    refine ⟨[.answered (packet cmd12 0) (h.sendCmd cmd12 0 d.card).1], fun e he ↦
      ⟨_, List.mem_singleton.1 he⟩, ?_⟩
    rw [afterAnswer_cmd12, List.append_assoc] at hanswered
    exact hwait _ (h.sendCmd cmd12 0 d.card).2 hanswered
  · exact ⟨[], by simp, hwait _ (h.sendCmd cmd12 0 d.card).2 hanswered⟩

/-- What a transfer leaves: the read command was not accepted, or blocks were awaited. -/
def Transferred (crcOn : Bool) (count : ℕ) (address : UInt32) (ok : Bool) (buff : List UInt8)
    (log : List ReadEntry) : Prop :=
  (ok = false ∧ buff = [] ∧ ∀ e ∈ log, Rejected e) ∨
    ∃ pre entries tail, (∀ e ∈ pre, Rejected e) ∧ BlocksArrived crcOn count ok buff entries ∧
      Stopping count tail ∧
        log = pre ++ .answered (packet (readCommand count) address) 0 :: (entries ++ tail)

/-- A read command: it is accepted, or not. -/
theorem readCommand_reader {cmd : UInt8} (hcmd : cmd = cmd17 ∨ cmd = cmd18) (address : UInt32) :
    Triple (fun d ↦ d.card.reader.log = []) (onPort ((h.port opt).sendCmd cmd address)) fun res d ↦
      (res = 0 ∧ ∃ pre, (∀ e ∈ pre, Rejected e) ∧
        d.card.reader = ⟨.token cmd, pre ++ [.answered (packet cmd address) 0]⟩) ∨
      res ≠ 0 ∧ ∀ e ∈ d.card.reader.log, Rejected e := by
  have hplain : Triple (fun b ↦ b.reader.log = []) (h.sendCmd cmd address) fun res b ↦
      ∃ pre, SpiHost.Approach pre (packet cmd address) res [] b.reader := by
    rcases hcmd with rfl | rfl
    · exact h.sendPlainCmd_reader cmd17 (by decide) (by decide) (by decide) (by decide) address
    · exact h.sendPlainCmd_reader cmd18 (by decide) (by decide) (by decide) (by decide) address
  intro d hd
  obtain ⟨pre, hpre, happroach⟩ := hplain d.card hd
  have hrejected : ∀ e ∈ pre ++ [.sent (packet cmd address)], Rejected e := by
    intro e he
    rcases List.mem_append.1 he with he | he
    · exact .inl (hpre e he)
    · exact .inr (.inl ⟨_, List.mem_singleton.1 he⟩)
  rw [List.nil_append] at happroach
  show ((h.sendCmd cmd address d.card).1 = 0 ∧ _) ∨ (h.sendCmd cmd address d.card).1 ≠ 0 ∧ _
  rcases happroach with hanswered | ⟨hres, hreader⟩
  · rw [ReadAnswered] at hanswered
    split at hanswered
    · by_cases hres : (h.sendCmd cmd address d.card).1 = 0
      · refine .inl ⟨hres, _, hrejected, hanswered.trans ?_⟩
        rw [hres]
        rcases hcmd with rfl | rfl <;> rfl
      · refine .inr ⟨hres, fun e he ↦ ?_⟩
        have he' : e ∈ (h.sendCmd cmd address d.card).2.reader.log := he
        rw [hanswered] at he'
        rcases List.mem_append.1 he' with he' | he'
        · exact hrejected e he'
        · exact .inr (.inr ⟨_, _, List.mem_singleton.1 he', hres⟩)
    · rename_i hbusy
      refine .inr ⟨fun hres ↦ hbusy (by rw [hres]; rfl), fun e he ↦ ?_⟩
      have he' : e ∈ (h.sendCmd cmd address d.card).2.reader.log := he
      rw [hanswered] at he'
      exact hrejected e he'
  · refine .inr ⟨by rw [hres]; decide, fun e he ↦ ?_⟩
    have he' : e ∈ (h.sendCmd cmd address d.card).2.reader.log := he
    rw [hreader] at he'
    exact .inl (hpre e he')

/-- **The transfer.** -/
theorem readTransfer_reader (count : ℕ) (address : UInt32) :
    Triple (fun d ↦ d.card.reader.log = []) (readTransfer (h.port opt) address count)
      fun res d ↦ Transferred opt.crcOn count address res.1 res.2 d.card.reader.log := by
  refine .ite (fun hone ↦ ?_) fun hmany ↦ ?_
  · subst hone
    refine .bind (readCommand_reader h opt (.inl rfl) address) fun res ↦ .ite (fun hres ↦ ?_)
      fun hres ↦ ?_
    · rintro d (⟨-, pre, hpre, hd⟩ | ⟨hres', -⟩)
      · obtain ⟨entries, harrived, hlog, -⟩ := oneBlock_reader h opt d hd
        refine .inr ⟨pre, entries, [], hpre, harrived, ⟨nofun, fun habs ↦ absurd rfl habs⟩, ?_⟩
        rw [hlog, List.append_assoc, List.append_nil]
        rfl
      · exact absurd hres hres'
    · rintro d (⟨hres', -⟩ | ⟨-, hrejected⟩)
      · exact absurd hres' hres
      · exact .inl ⟨rfl, rfl, hrejected⟩
  · have hcommand : readCommand count = cmd18 := if_neg hmany
    refine .bind (readCommand_reader h opt (.inr rfl) address) fun res ↦ .ite (fun hres ↦ ?_)
      fun hres ↦ ?_
    · rintro d (⟨-, pre, hpre, hd⟩ | ⟨hres', -⟩)
      · obtain ⟨entries, harrived, hbetween, hlog⟩ := readBlocks_reader h opt count d hd
        obtain ⟨answers, hanswers, hstop⟩ := cmd12_reader h opt _ ⟨hbetween, hlog⟩
        refine .inr ⟨pre, entries, .sent (packet cmd12 0) :: answers, hpre, harrived, ⟨?_, ?_⟩, ?_⟩
        · rintro e (_ | ⟨_, he⟩)
          · exact .inr (.inl rfl)
          · exact .inr (.inr (hanswers e he))
        · intro _
          have hnone : answers.countP IsStop = 0 := by
            refine List.countP_eq_zero.2 fun e he ↦ ?_
            obtain ⟨r1, rfl⟩ := hanswers e he
            exact Bool.false_ne_true
          rw [List.countP_cons_of_pos rfl, hnone]
        · rw [hcommand]
          refine (congrArg ReadMonitor.log hstop).trans ?_
          simp only [List.append_assoc, List.cons_append, List.nil_append]
      · exact absurd hres hres'
    · rintro d (⟨hres', -⟩ | ⟨-, hrejected⟩)
      · exact absurd hres' hres
      · exact .inl ⟨rfl, rfl, hrejected⟩

end Transfer

/-! ### The law of a read -/

section Law

variable {κ : Type} {h : SpiHost κ} {opt : SdOptions} {stat : DStatus} {cardType : UInt8} {host : κ}
  {sector address : UInt32} {count : ℕ}

/-- What is left of a transfer once the card is deselected. -/
theorem Transferred.deselected {crcOn ok : Bool} {buff : List UInt8} {log : List ReadEntry}
    (ht : Transferred crcOn count address ok buff log) :
    Transferred crcOn count address ok buff (log ++ [.deselected]) := by
  rcases ht with ⟨hok, hbuff, hrejected⟩ | ⟨pre, entries, tail, hpre, harrived, htail, rfl⟩
  · refine .inl ⟨hok, hbuff, fun e he ↦ ?_⟩
    rcases List.mem_append.1 he with he | he
    · exact hrejected e he
    · exact .inl (List.mem_singleton.1 he)
  · refine .inr ⟨pre, entries, tail ++ [.deselected], hpre, harrived, ⟨fun e he ↦ ?_, ?_⟩, ?_⟩
    · rcases List.mem_append.1 he with he | he
      · exact htail.other e he
      · exact .inl (List.mem_singleton.1 he)
    · intro hmany
      rw [List.countP_append, htail.once hmany]
      rfl
    · simp only [List.append_assoc, List.cons_append]

/-- What was transferred, stored and said of it is as the law asks. -/
theorem Transferred.readLaw {crcOn ok : Bool} {buff : List UInt8} {log : List ReadEntry}
    (ht : Transferred crcOn count address ok buff log) :
    ReadLaw crcOn count address stat (if ok then .ok else .error) (storesAt 0 buff) log := by
  rcases ht with ⟨rfl, rfl, hrejected⟩ | ⟨pre, entries, tail, hpre, harrived, htail, hlog⟩
  · exact .of_rejected hrejected (.inl rfl)
  · exact .of_arrived hpre harrived htail hlog

/-- **Block reads are exact or an error**, whatever the card sends. -/
theorem readLaw (hcount : 1 ≤ count) : ReadLaw opt.crcOn count (sectorAddress cardType sector) stat
    (ffSdSpiReadAt (h.port opt) 0 sector count 0 (startWrite stat cardType host)).1.1
    (ffSdSpiReadAt (h.port opt) 0 sector count 0 (startWrite stat cardType host)).1.2
    (ffSdSpiReadAt (h.port opt) 0 sector count 0
      (startWrite stat cardType host)).2.card.reader.log := by
  rw [ffSdSpiReadAt_storesFrom fun k ↦ h.length_rcvrDatablock]
  have hargs : ¬ (0 ≠ 0 ∨ count = 0) := by omega
  have hlaw : Triple (fun d ↦ d = startWrite stat cardType host)
      (ffSdSpiRead (h.port opt) 0 sector count) fun res d ↦ ReadLaw opt.crcOn count
        (sectorAddress cardType sector) stat res.1 (storesAt 0 res.2) d.card.reader.log := by
    refine .ite (fun habs ↦ absurd habs hargs) fun _ ↦ ?_
    refine .bind (Q := fun d' d ↦ d' = startWrite stat cardType host ∧
      d = startWrite stat cardType host) (.get fun d hd ↦ ⟨hd, hd⟩) fun d' ↦ .of_fact fun hd' ↦ ?_
    subst hd'
    refine .ite (fun hinit ↦ .pure ?_) fun _ ↦ ?_
    · rintro d rfl
      exact .of_rejected nofun (.inr ⟨hinit, rfl⟩)
    · refine .bind (Q := fun _ d ↦ d.card.reader.log = []) ?_ fun taken ↦
        .ite (fun _ ↦ ?_) fun _ ↦ ?_
      · rintro d rfl
        rfl
      · refine .bind (readTransfer_reader h opt count (sectorAddress cardType sector)) ?_
        rintro ⟨ok, buff⟩ d ht
        have hlog : ((h.port opt).deselect d.card).reader.log =
            d.card.reader.log ++ [.deselected] :=
          congrArg ReadMonitor.log (h.deselect_reader d.card rfl)
        have hfinal := ht.deselected
        rw [← hlog] at hfinal
        exact hfinal.readLaw
      · refine .pure fun d hd ↦ .of_rejected ?_ (.inl rfl)
        rw [hd]
        exact nofun
  exact hlaw _ rfl

end Law
