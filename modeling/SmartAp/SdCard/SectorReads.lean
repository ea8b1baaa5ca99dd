import SmartAp.SdCard.BlockReads
import SmartAp.SdCard.Frames
import SmartAp.SdCard.Stable

/-!
# Reading the sectors of a card

A card that follows the specification answers `CMD17` with one sector and `CMD18` with the sectors
from one on, each in a frame with its checksum, until it is sent `CMD12` (`ReadCard`). How long it
takes is left open, as long as it is no longer than the specification allows.

## On such a card

A read of several sectors and single reads of the same sectors give the same bytes (`readCard_read`,
`readCard_singles`), if the addresses do not wrap (`NoWrap`). The two use different commands, and on
a card that is addressed by bytes the second sector is reached in different ways: by the card, which
goes on, and by the driver, which multiplies.

`ReadCard` is a property of a host and not one card: the sets of states in which the card is idle or
streams, and what is sent from each. `SectorCard.host` is one such card, a program that reads
packets and sends bytes, in any phase (`SectorCard.readCard`), so that the property can be met.

## The result

`block_reads_exact` is the law of a read on every host, of `SmartAp.SdCard.BlockReads`, together
with what it comes to on a card that keeps to the specification.
-/

/-! ### A card that keeps to the specification -/

/-- The sectors from one on. -/
def sectorsFrom (content : ℕ → List UInt8) (sector count : ℕ) : List (List UInt8) :=
  (List.range count).map fun i ↦ content (sector + i)

namespace SpiHost

variable {κ : Type} (h : SpiHost κ)

/-- The card sends frames, one after the other, and then something holds of it. -/
def SendsBlocks (After : κ → Prop) : List (List UInt8) → κ → Prop
  | [], k => After k
  | block :: blocks, k => h.SendsFrame (withCrc block) (SendsBlocks After blocks) k

/-- The card accepts a read command within ten bytes, and sends frames. -/
def AnswersRead (blocks : List (List UInt8)) (After : κ → Prop) (k : κ) : Prop :=
  ∃ n ≤ 9, h.Sends (List.replicate n 0xFF ++ [0x00]) (h.SendsBlocks After blocks) k

/-- The card is selected anew, and a packet is sent to it. -/
def packetSent (cmd : UInt8) (arg : UInt32) (b : Bus κ) : Bus κ :=
  (h.sendBytes (packet cmd arg) (h.selectCard (h.deselect b).2).2).2

/-- **A card with these contents**, addressed as `sectorOf` says. It takes a command when it is
idle, and while it streams sectors it waits for `CMD12`. -/
structure ReadCard (content : ℕ → List UInt8) (capacity : ℕ) (sectorOf : UInt32 → ℕ)
    (idle streaming : κ → Prop) : Prop where
  size : ∀ sector, (content sector).length = 512
  take : ∀ k, idle k → (h.takeMutex k).1 = true ∧ idle (h.takeMutex k).2
  give : ∀ k, idle k → idle (h.giveMutex k)
  deselected : ∀ b : Bus κ, idle b.host → idle (h.deselect b).2.host
  selected : ∀ b : Bus κ, idle b.host → (h.selectCard (h.deselect b).2).1 = true
  single : ∀ arg (b : Bus κ), idle b.host → sectorOf arg < capacity →
    h.AnswersRead [content (sectorOf arg)] idle (h.packetSent cmd17 arg b).host
  several : ∀ arg count (b : Bus κ), idle b.host → sectorOf arg + count ≤ capacity →
    h.AnswersRead (sectorsFrom content (sectorOf arg) count) streaming
      (h.packetSent cmd18 arg b).host
  stopped : ∀ b : Bus κ, streaming b.host →
    idle (h.waitReady (h.sendPlainCmd cmd12 0 b).2).2.host

end SpiHost

/-- The sector of an address. -/
def addressedSector (cardType : UInt8) (arg : UInt32) : ℕ :=
  if cardType &&& ctBlock = 0 then arg.toNat / 512 else arg.toNat

/-- Single reads of consecutive sectors, in turn. -/
def singleReads {κ : Type} (port : SdPort κ) (sector : UInt32) :
    ℕ → SdM κ (List (DResult × List UInt8))
  | 0 => return []
  | count + 1 => do
    let result ← ffSdSpiRead port 0 sector 1
    let results ← singleReads port (sector + 1) count
    return result :: results

/-! ### What such a card gives -/

section Reads

variable {κ : Type} {h : SpiHost κ} {opt : SdOptions}

theorem sendBytes_append (xs ys : List UInt8) (b : Bus κ) :
    h.sendBytes (xs ++ ys) b = h.sendBytes ys (h.sendBytes xs b).2 := by
  induction xs generalizing b with
  | nil => rfl
  | cons x xs ih => exact ih (h.spiRwByte x b).2

/-- The answer is awaited long enough. -/
theorem awaitAnswer_sends {After : κ → Prop} {n polls : ℕ} (hn : n ≤ polls) :
    Triple (fun b ↦ h.Sends (List.replicate n 0xFF ++ [0x00]) After b.host) (h.awaitAnswer polls)
      fun res b ↦ res = 0 ∧ After b.host := by
  induction n generalizing polls with
  | zero =>
    cases polls with
    | zero => exact h.spiRwByte_sends 0x00 []
    | succ polls =>
      refine .bind (h.spiRwByte_sends 0x00 []) fun res ↦ .of_fact fun hres ↦ ?_
      rw [hres, if_neg (by decide)]
      exact .pure fun b hb ↦ ⟨rfl, hb⟩
  | succ n ih =>
    obtain ⟨polls, rfl⟩ := Nat.exists_eq_add_of_lt (Nat.lt_of_lt_of_le n.succ_pos hn)
    rw [Nat.zero_add] at hn ⊢
    refine .bind (h.spiRwByte_sends 0xFF _) fun res ↦ .of_fact fun hres ↦ ?_
    rw [if_pos (by rw [hres]; decide)]
    exact ih (Nat.le_of_succ_le_succ hn)

theorem sendFrame_eq {cmd : UInt8} (hcmd : cmd ≠ cmd12) (arg : UInt32) (b : Bus κ) :
    h.sendFrame cmd arg b = h.awaitAnswer 9 (h.sendBytes (packet cmd arg) b).2 := by
  rw [packet, sendBytes_append]
  generalize hcrc : crc7 (SpiHost.frame cmd arg) = crc
  simp only [SpiHost.sendFrame, hcrc, if_neg hcmd]
  rfl

/-- A read command that the card accepts. -/
theorem sendPlainCmd_answersRead {cmd : UInt8} (hcmd : cmd = cmd17 ∨ cmd = cmd18) {arg : UInt32}
    {blocks : List (List UInt8)} {After : κ → Prop} {b : Bus κ}
    (hselected : (h.selectCard (h.deselect b).2).1 = true)
    (hanswers : h.AnswersRead blocks After (h.packetSent cmd arg b).host) :
    (h.sendPlainCmd cmd arg b).1 = 0 ∧
      h.SendsBlocks After blocks (h.sendPlainCmd cmd arg b).2.host := by
  obtain ⟨n, hn, hsends⟩ := hanswers
  have hother : cmd ≠ cmd0 ∧ cmd ≠ cmd12 := by rcases hcmd with rfl | rfl <;> decide
  have hrun : h.sendPlainCmd cmd arg b = h.awaitAnswer 9 (h.packetSent cmd arg b) := by
    rw [SpiHost.sendPlainCmd, if_pos hother]
    show (if (h.selectCard (h.deselect b).2).1 then h.sendFrame cmd arg else pure 0xFF :
      BusM κ UInt8) (h.selectCard (h.deselect b).2).2 = _
    rw [if_pos hselected, sendFrame_eq hother.2, SpiHost.packetSent]
  rw [hrun]
  exact awaitAnswer_sends hn _ hsends

/-- A frame of the card is received as it was sent. -/
theorem rcvrDatablock_withCrc {After : κ → Prop} {block : List UInt8} (hsize : block.length = 512) :
    Triple (fun d : SdDriver (Bus κ) ↦ h.SendsFrame (withCrc block) After d.card.host)
      (onPort ((h.port opt).rcvrDatablock 512)) fun res d ↦
        res = (true, block) ∧ After d.card.host := by
  intro d hd
  have hreceived := h.rcvrDatablock_sends opt.crcOn block _ _ d.card hd
  rw [hsize, (checksum_iff block _ _).2 (valid_withCrc block)] at hreceived
  exact ⟨hreceived.1.trans (by simp), hreceived.2⟩

/-- The blocks that the card sends are the blocks that are read. -/
theorem readBlocks_sends {After : κ → Prop} {blocks : List (List UInt8)}
    (hsize : ∀ block ∈ blocks, block.length = 512) :
    Triple (fun d ↦ h.SendsBlocks After blocks d.card.host)
      (readBlocks (h.port opt) blocks.length)
      fun res d ↦ res = (true, blocks.flatten) ∧ After d.card.host := by
  induction blocks with
  | nil => exact .pure fun _ hd ↦ ⟨rfl, hd⟩
  | cons block blocks ih =>
    have hrest := ih fun b hb ↦ hsize b (List.mem_cons_of_mem _ hb)
    refine .bind (rcvrDatablock_withCrc (hsize block List.mem_cons_self)) fun res ↦
      .of_fact fun hres ↦ ?_
    subst hres
    refine .ite (fun _ ↦ .bind hrest fun res ↦ .pure fun d hd ↦ ⟨?_, hd.2⟩) fun habs ↦
      absurd rfl habs
    rw [hd.1, List.flatten_cons]

/-- The read command of a transfer. -/
theorem sendCmd_answersRead {cmd : UInt8} (hcmd : cmd = cmd17 ∨ cmd = cmd18) {arg : UInt32}
    {blocks : List (List UInt8)} {idle After : κ → Prop}
    (hselected : ∀ b : Bus κ, idle b.host → (h.selectCard (h.deselect b).2).1 = true)
    (hanswers : ∀ b : Bus κ, idle b.host →
      h.AnswersRead blocks After (h.packetSent cmd arg b).host) :
    Triple (fun d ↦ idle d.card.host) (onPort ((h.port opt).sendCmd cmd arg))
      fun res d ↦ res = 0 ∧ h.SendsBlocks After blocks d.card.host := by
  intro d hidle
  have hplain : (h.port opt).sendCmd cmd arg = h.sendPlainCmd cmd arg := by
    rcases hcmd with rfl | rfl <;> rfl
  rw [hplain]
  exact sendPlainCmd_answersRead hcmd (hselected d.card hidle) (hanswers d.card hidle)

variable {content : ℕ → List UInt8} {capacity count : ℕ} {sectorOf : UInt32 → ℕ}
  {idle streaming : κ → Prop}

theorem size_of_mem_sectorsFrom (hsize : ∀ sector, (content sector).length = 512) {sector : ℕ} :
    ∀ block ∈ sectorsFrom content sector count, block.length = 512 := by
  intro block hblock
  obtain ⟨i, -, rfl⟩ := List.mem_map.1 hblock
  exact hsize (sector + i)

/-- **A transfer from a card** gives the sectors, and then the card is idle again. -/
theorem readTransfer_readCard (card : h.ReadCard content capacity sectorOf idle streaming)
    {arg : UInt32} (hinside : sectorOf arg + count ≤ capacity) :
    Triple (fun d ↦ idle d.card.host) (readTransfer (h.port opt) arg count)
      fun res d ↦ res = (true, (sectorsFrom content (sectorOf arg) count).flatten) ∧
        idle d.card.host := by
  refine .ite (fun hone ↦ ?_) fun hmany ↦ ?_
  · subst hone
    refine .bind (sendCmd_answersRead (.inl rfl) card.selected
      fun b hidle ↦ card.single arg b hidle hinside) fun res ↦ .of_fact fun hres ↦
        .ite (fun _ ↦ ?_) fun habs ↦ absurd hres habs
    refine (rcvrDatablock_withCrc (card.size _)).weaken (fun _ ↦ id) fun res d hd ↦ ⟨?_, hd.2⟩
    rw [hd.1]
    simp [sectorsFrom]
  · refine .bind (sendCmd_answersRead (.inr rfl) card.selected
      fun b hidle ↦ card.several arg count b hidle hinside) fun res ↦ .of_fact fun hres ↦
        .ite (fun _ ↦ ?_) fun habs ↦ absurd hres habs
    have hlength : (sectorsFrom content (sectorOf arg) count).length = count := by
      rw [sectorsFrom, List.length_map, List.length_range]
    have hblocks : Triple
        (fun d ↦ h.SendsBlocks streaming (sectorsFrom content (sectorOf arg) count) d.card.host)
        (readBlocks (h.port opt) (sectorsFrom content (sectorOf arg) count).length)
        fun res d ↦ res = (true, (sectorsFrom content (sectorOf arg) count).flatten) ∧
          streaming d.card.host :=
      readBlocks_sends (size_of_mem_sectorsFrom card.size)
    rw [hlength] at hblocks
    exact .bind hblocks fun blocks d hd ↦ ⟨hd.1, card.stopped d.card hd.2⟩

/-! ### Several sectors, or one at a time -/

/-- The addresses of these sectors do not wrap. -/
def NoWrap (ty : UInt8) (sector : UInt32) (count : ℕ) : Prop :=
  sector.toNat + count ≤ 2 ^ 32 ∧ (ty &&& ctBlock = 0 → 512 * (sector.toNat + count) ≤ 2 ^ 32)

/-- The driver of an initialised card of this type. -/
def Ready (ty : UInt8) (stat : DStatus) (cardType : UInt8) : Prop :=
  stat.noInit = false ∧ cardType = ty

variable {ty : UInt8} {sector : UInt32}

/-- The first of the sectors can be addressed. -/
theorem NoWrap.first (hwrap : NoWrap ty sector (count + 1)) : NoWrap ty sector 1 := by
  obtain ⟨hlast, haddress⟩ := hwrap
  refine ⟨?_, fun hbyte ↦ ?_⟩
  · omega
  · have hend := haddress hbyte
    omega

/-- There is a sector after the first one. -/
theorem NoWrap.toNat_next (hcount : 0 < count) (hwrap : NoWrap ty sector (count + 1)) :
    (sector + 1).toNat = sector.toNat + 1 := by
  have hlt : sector.toNat + 1 < 2 ^ 32 := by
    have hlast := hwrap.1
    omega
  rw [UInt32.toNat_add]
  exact Nat.mod_eq_of_lt hlt

/-- So can those behind it. -/
theorem NoWrap.rest (hcount : 0 < count) (hwrap : NoWrap ty sector (count + 1)) :
    NoWrap ty (sector + 1) count := by
  rw [NoWrap, hwrap.toNat_next hcount, Nat.add_assoc, Nat.add_comm 1 count]
  exact hwrap

/-- The card finds the sector that the driver addressed. -/
theorem addressedSector_sectorAddress (hcount : 1 ≤ count) (hwrap : NoWrap ty sector count) :
    addressedSector ty (sectorAddress ty sector) = sector.toNat := by
  rw [addressedSector, sectorAddress]
  by_cases hbyte : ty &&& ctBlock = 0
  · have hsmall : sector.toNat * 512 < 2 ^ 32 := by
      have hfits := hwrap.2 hbyte
      omega
    rw [if_pos hbyte, if_pos hbyte, UInt32.toNat_mul]
    show sector.toNat * 512 % 2 ^ 32 / 512 = _
    rw [Nat.mod_eq_of_lt hsmall, Nat.mul_div_cancel _ (by decide)]
  · rw [if_neg hbyte, if_neg hbyte]

/-- **A read of a card** gives its sectors, and then the card is idle again. -/
theorem readCard_read (card : h.ReadCard content capacity (addressedSector ty) idle streaming)
    (hcount : 1 ≤ count) (hwrap : NoWrap ty sector count)
    (hinside : sector.toNat + count ≤ capacity) :
    Triple (fun d ↦ idle d.card.host ∧ Ready ty d.stat d.cardType)
      (ffSdSpiRead (h.port opt) 0 sector count)
      fun res d ↦ res = (.ok, (sectorsFrom content sector.toNat count).flatten) ∧
        idle d.card.host ∧ Ready ty d.stat d.cardType := by
  have haddress := addressedSector_sectorAddress hcount hwrap
  have htransfer : Triple (fun d : SdDriver (Bus κ) ↦
        idle d.card.host ∧ Ready ty d.stat d.cardType)
      (readTransfer (h.port opt) (sectorAddress ty sector) count) fun res d ↦
        res = (true, (sectorsFrom content sector.toNat count).flatten) ∧
          idle d.card.host ∧ Ready ty d.stat d.cardType := fun d hd ↦ by
    have hinside' : addressedSector ty (sectorAddress ty sector) + count ≤ capacity :=
      haddress.symm ▸ hinside
    obtain ⟨hsectors, hidle⟩ : (readTransfer (h.port opt) (sectorAddress ty sector) count d).1 =
        (true, (sectorsFrom content (addressedSector ty (sectorAddress ty sector)) count).flatten) ∧
          idle (readTransfer (h.port opt) (sectorAddress ty sector) count d).2.card.host :=
      readTransfer_readCard card hinside' d hd.1
    rw [haddress] at hsectors
    have hready := stableAll_registers (h.port opt) (Ready ty)
    exact ⟨hsectors, hidle, stable_readTransfer hready trivial trivial trivial d hd.2⟩
  refine .ite (fun habs ↦ ?_) fun _ ↦ ?_
  · omega
  refine .bind (Q := fun d' d ↦ Ready ty d'.stat d'.cardType ∧
    idle d.card.host ∧ Ready ty d.stat d.cardType) (.get fun d hd ↦ ⟨hd.2, hd⟩) fun d' ↦
      .of_fact fun hready ↦ ?_
  rw [hready.1, hready.2]
  refine .bind (Q := fun taken d ↦ taken = true ∧
    idle d.card.host ∧ Ready ty d.stat d.cardType) (fun d hd ↦ ?_) fun taken ↦
      .of_fact fun htaken ↦ ?_
  · obtain ⟨htaken, hidle⟩ := card.take d.card.host hd.1
    exact ⟨htaken, hidle, hd.2⟩
  subst htaken
  refine .bind htransfer fun res ↦ .of_fact fun hres d hd ↦ ⟨by subst hres; rfl, ?_, hd.2⟩
  exact card.give _ (card.deselected d.card hd.1)

theorem sectorsFrom_succ (sector : ℕ) : sectorsFrom content sector (count + 1) =
    content sector :: sectorsFrom content (sector + 1) count := by
  rw [sectorsFrom, List.range_succ_eq_map, List.map_cons, List.map_map, sectorsFrom]
  refine congrArg _ (List.map_congr_left fun i _ ↦ ?_)
  rw [Function.comp_apply, Nat.succ_eq_add_one, Nat.add_right_comm, Nat.add_assoc]

/-- **Single reads of a card** give its sectors, one by one. -/
theorem readCard_singles (card : h.ReadCard content capacity (addressedSector ty) idle streaming)
    (hwrap : NoWrap ty sector count) (hinside : sector.toNat + count ≤ capacity) :
    Triple (fun d ↦ idle d.card.host ∧ Ready ty d.stat d.cardType)
      (singleReads (h.port opt) sector count)
      fun res _ ↦ res = (sectorsFrom content sector.toNat count).map fun block ↦ (.ok, block) := by
  induction count generalizing sector with
  | zero => exact .pure fun _ _ ↦ rfl
  | succ count ih =>
    have hfirst : Triple (fun d ↦ idle d.card.host ∧ Ready ty d.stat d.cardType)
        (ffSdSpiRead (h.port opt) 0 sector 1)
        fun res d ↦ res = (.ok, (sectorsFrom content sector.toNat 1).flatten) ∧
          idle d.card.host ∧ Ready ty d.stat d.cardType :=
      readCard_read card (le_refl 1) hwrap.first (by omega)
    refine .bind hfirst fun res ↦ .of_fact fun hres ↦ ?_
    have hrest : Triple (fun d ↦ idle d.card.host ∧ Ready ty d.stat d.cardType)
        (singleReads (h.port opt) (sector + 1) count) fun res _ ↦
          res = (sectorsFrom content (sector.toNat + 1) count).map fun block ↦ (.ok, block) := by
      rcases Nat.eq_zero_or_pos count with rfl | hcount
      · exact .pure fun _ _ ↦ rfl
      · rw [← hwrap.toNat_next hcount]
        refine ih (hwrap.rest hcount) ?_
        rw [hwrap.toNat_next hcount]
        omega
    refine .bind hrest fun results ↦ .pure fun d hd ↦ ?_
    rw [hd, hres, sectorsFrom_succ, sectorsFrom_succ]
    simp [sectorsFrom]

end Reads

/-! ### One such card -/

/-- What a card does. -/
inductive SectorCard
  /-- The bytes of a packet so far. -/
  | listening (received : List UInt8)
  /-- The bytes that come next, and the sector after them. -/
  | sending (bytes : List UInt8) (next : Option ℕ)

/-- The argument of a packet. -/
def packetArg (packet : List UInt8) : UInt32 :=
  UInt32.ofNat (((packet.drop 1).take 4).foldl (fun n byte ↦ n * 256 + byte.toNat) 0)

namespace SectorCard

variable (content : ℕ → List UInt8) (sectorOf : UInt32 → ℕ)

/-- What the card does after a packet. -/
def answer (packet : List UInt8) : SectorCard :=
  let sector := sectorOf (packetArg packet)
  if packet.head? = some (0x40 ||| cmd17) then
    .sending (0x00 :: 0xFE :: withCrc (content sector)) none
  else if packet.head? = some (0x40 ||| cmd18) then .sending [0x00] (some sector)
  else .sending [0x00] none

/-- A byte is exchanged. -/
def trans (mosi : UInt8) : SectorCard → UInt8 × SectorCard
  | .listening received =>
    if received = [] ∧ mosi = 0xFF then (0xFF, .listening [])
    else if received.length = 5 then (0xFF, answer content sectorOf (received ++ [mosi]))
    else (0xFF, .listening (received ++ [mosi]))
  | .sending bytes next =>
    if mosi ≠ 0xFF then (0xFF, .listening [mosi])
    else match bytes, next with
      | miso :: rest, _ => (miso, .sending rest next)
      | [], some sector => (0xFF, .sending (0xFE :: withCrc (content sector)) (some (sector + 1)))
      | [], none => (0xFF, .listening [])

/-- The card as a host. -/
def host : SpiHost SectorCard where
  takeMutex k := (true, k)
  giveMutex k := k
  delay k := k
  calloc k := (true, k)
  setSpeed _ k := k
  setLevel _ _ := .listening []
  trans := trans content sectorOf
  polls _ := 1

variable {content sectorOf}

theorem packetArg_packet (cmd : UInt8) (arg : UInt32) : packetArg (packet cmd arg) = arg := by
  have hbytes : ((packet cmd arg).drop 1).take 4 = [(arg >>> 24).toUInt8, (arg >>> 16).toUInt8,
      (arg >>> 8).toUInt8, arg.toUInt8] := rfl
  have hlt := arg.toNat_lt
  rw [packetArg, hbytes, ← UInt32.toNat_inj]
  simp [Nat.shiftRight_eq_div_pow]
  omega

/-- Bytes that go on with a packet. -/
theorem sendBytes_listening (data received : List UInt8) (hreceived : received ≠ [])
    (hlen : received.length + data.length ≤ 5) :
    Triple (fun b ↦ b.host = .listening received) ((host content sectorOf).sendBytes data)
      fun _ b ↦ b.host = .listening (received ++ data) := by
  induction data generalizing received with
  | nil => exact .pure fun b hb ↦ by rw [hb, List.append_nil]
  | cons d data ih =>
    rw [List.length_cons] at hlen
    have hbyte : Triple (fun b ↦ b.host = .listening received) ((host content sectorOf).spiRwByte d)
        fun _ b ↦ b.host = .listening (received ++ [d]) := by
      intro b hb
      show (trans content sectorOf d b.host).2 = _
      rw [hb, trans, if_neg fun habs ↦ hreceived habs.1, if_neg (by omega)]
    refine .bind hbyte fun _ ↦
      (ih (received ++ [d]) (by simp) ?_).weaken (fun _ ↦ id) fun _ b hb ↦ ?_
    · rw [List.length_append, List.length_singleton]
      omega
    · rw [hb, List.append_assoc, List.singleton_append]

/-- A packet is received as a whole. -/
theorem packetSent_host {cmd : UInt8} (hcmd : 0x40 ||| cmd ≠ 0xFF) (arg : UInt32)
    (b : Bus SectorCard) : ((host content sectorOf).packetSent cmd arg b).host =
      answer content sectorOf (packet cmd arg) := by
  have hframe : Triple (fun b ↦ b.host = .listening [])
      ((host content sectorOf).sendBytes (SpiHost.frame cmd arg))
      fun _ b ↦ b.host = .listening (SpiHost.frame cmd arg) := by
    refine .bind (Q := fun _ b ↦ b.host = .listening [0x40 ||| cmd]) (fun b hb ↦ ?_) fun _ ↦
      sendBytes_listening _ [0x40 ||| cmd] (List.cons_ne_nil _ _) (le_refl 5)
    show (trans content sectorOf (0x40 ||| cmd) b.host).2 = _
    rw [hb, trans, if_neg fun habs ↦ hcmd habs.2]
    rfl
  have hcrc : Triple (fun b ↦ b.host = .listening (SpiHost.frame cmd arg))
      ((host content sectorOf).sendBytes [crc7 (SpiHost.frame cmd arg)])
      fun _ b ↦ b.host = answer content sectorOf (packet cmd arg) := by
    intro b hb
    show (trans content sectorOf (crc7 (SpiHost.frame cmd arg)) b.host).2 = _
    rw [hb, trans, if_neg fun habs ↦ List.cons_ne_nil _ _ habs.1, packet]
    rfl
  rw [SpiHost.packetSent, packet, sendBytes_append]
  exact hcrc _ (hframe _ rfl)

theorem sends_bytes (bytes : List UInt8) (next : Option ℕ) {After : SectorCard → Prop}
    (hafter : After (.sending [] next)) :
    (host content sectorOf).Sends bytes After (.sending bytes next) := by
  induction bytes with
  | nil => exact hafter
  | cons miso bytes ih => exact ⟨rfl, ih⟩

/-- The card sends one sector after the other until it is stopped. -/
theorem sends_sectors (count sector : ℕ) :
    (host content sectorOf).SendsBlocks (fun _ ↦ True) (sectorsFrom content sector count)
      (.sending [] (some sector)) := by
  induction count generalizing sector with
  | zero => trivial
  | succ count ih =>
    rw [sectorsFrom_succ]
    have hframe : (host content sectorOf).Sends (0xFE :: withCrc (content sector))
        ((host content sectorOf).SendsBlocks (fun _ ↦ True)
          (sectorsFrom content (sector + 1) count))
        (.sending (0xFE :: withCrc (content sector)) (some (sector + 1))) :=
      sends_bytes _ _ (ih (sector + 1))
    exact ⟨1, le_refl 1, rfl, hframe⟩

/-- **It keeps to the specification**, whatever it is doing: a new select ends what came before. -/
theorem readCard (hsize : ∀ sector, (content sector).length = 512) (capacity : ℕ) :
    (host content sectorOf).ReadCard content capacity sectorOf (fun _ ↦ True) fun _ ↦ True where
  size := hsize
  take _ _ := ⟨rfl, trivial⟩
  give _ _ := trivial
  deselected _ _ := trivial
  selected _ _ := rfl
  stopped _ _ := trivial
  single arg b _ _ := by
    have hanswer : answer content sectorOf (packet cmd17 arg) =
        .sending (0x00 :: 0xFE :: withCrc (content (sectorOf arg))) none := by
      rw [answer, packetArg_packet]
      rfl
    rw [packetSent_host (by decide), hanswer]
    exact ⟨0, Nat.zero_le _, rfl, 0, Nat.zero_le _, sends_bytes _ _ trivial⟩
  several arg count b _ _ := by
    have hanswer : answer content sectorOf (packet cmd18 arg) =
        .sending [0x00] (some (sectorOf arg)) := by
      rw [answer, packetArg_packet]
      rfl
    rw [packetSent_host (by decide), hanswer]
    exact ⟨0, Nat.zero_le _, rfl, sends_sectors count (sectorOf arg)⟩

end SectorCard

/-! ### The law -/

/-- **Block reads are exact or an error.** Whatever the card sends, the result and the stores of a
read obey the law; and on a card that keeps to the specification a read of several sectors stores
what single reads of them give. -/
theorem block_reads_exact {κ : Type} (h : SpiHost κ) (opt : SdOptions) (sector : UInt32) {count : ℕ}
    (hcount : 1 ≤ count) :
    (∀ stat cardType host,
      let out := ffSdSpiReadAt (h.port opt) 0 sector count 0 (startWrite stat cardType host)
      ReadLaw opt.crcOn count (sectorAddress cardType sector) stat out.1.1 out.1.2
        out.2.card.reader.log) ∧
    ∀ content capacity ty idle streaming,
      h.ReadCard content capacity (addressedSector ty) idle streaming →
      NoWrap ty sector count → sector.toNat + count ≤ capacity →
      ∀ d : SdDriver (Bus κ), idle d.card.host → Ready ty d.stat d.cardType →
        let singles := (singleReads (h.port opt) sector count d).1
        singles.length = count ∧ (∀ single ∈ singles, single.1 = .ok) ∧
          (ffSdSpiReadAt (h.port opt) 0 sector count 0 d).1 =
            (.ok, storesAt 0 (singles.flatMap Prod.snd)) := by
  refine ⟨fun stat cardType host ↦ readLaw hcount, ?_⟩
  intro content capacity ty idle streaming card hwrap hinside d hidle hready singles
  have hsingles : singles = (sectorsFrom content sector.toNat count).map fun block ↦ (.ok, block) :=
    readCard_singles card hwrap hinside d ⟨hidle, hready⟩
  have hread : (ffSdSpiRead (h.port opt) 0 sector count d).1 =
      (.ok, (sectorsFrom content sector.toNat count).flatten) :=
    (readCard_read card hcount hwrap hinside d ⟨hidle, hready⟩).1
  have hstores : StoresFrom 0 (ffSdSpiRead (h.port opt) 0 sector count)
      (ffSdSpiReadAt (h.port opt) 0 sector count 0) :=
    ffSdSpiReadAt_storesFrom (fun _ ↦ h.length_rcvrDatablock) 0 sector count 0
  rw [hsingles]
  refine ⟨?_, fun single hmem ↦ ?_, ?_⟩
  · rw [List.length_map, sectorsFrom, List.length_map, List.length_range]
  · obtain ⟨block, -, rfl⟩ := List.mem_map.1 hmem
    rfl
  · rw [hstores d, hread, List.flatMap_map, List.flatMap_id']

/-- Two sectors of zeros. -/
theorem block_reads_exact_zeros :
    (ffSdSpiReadAt ((SectorCard.host (fun _ ↦ List.replicate 512 0) (addressedSector ctSd1)).port
        ⟨1, true⟩) 0 7 2 0 ⟨⟨false, false⟩, ctSd1, ⟨.listening [], []⟩⟩).1.1 = .ok := by
  have hread := ((block_reads_exact (SectorCard.host (fun _ ↦ List.replicate 512 0)
    (addressedSector ctSd1)) ⟨1, true⟩ 7 (show 1 ≤ 2 by decide)).2 _ 9 ctSd1 _ _
    (SectorCard.readCard (fun _ ↦ List.length_replicate) 9) ⟨by decide, fun _ ↦ by decide⟩
    (by decide) ⟨⟨false, false⟩, ctSd1, ⟨.listening [], []⟩⟩ trivial ⟨rfl, rfl⟩).2.2
  rw [hread]
