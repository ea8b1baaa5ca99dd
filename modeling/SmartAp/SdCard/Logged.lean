import SmartAp.SdCard.Bus
import SmartAp.SdCard.Stable

/-!
# A host that keeps a log

`SpiHost.logged` is a host that notes when the mutex is taken and given, when the chip select line
is set and which bytes are exchanged. Whether the mutex is held and whether the card is selected are
functions of the log (`mutexHeld`, `csLevel`), and so are the counts of takes, gives and bytes. The
host below may be any.

The protocol functions use the bus and nothing else: what single bytes and the chip select line
keep, all of them keep (`SpiHost.OnBus`, `stableAll_port`). `BusSince` is the assertion this is used
for: since some point of the log there was nothing but the bus, so the mutex is where it was. With
`deselect_log` it is also known how the log ends once the card is deselected.
-/

/-- What the host is asked for. -/
inductive HostEvent
  /-- `xSemaphoreTake`, and whether it succeeded. -/
  | take (taken : Bool)
  | give
  | cs (level : Bool)
  | byte (mosi miso : UInt8)
  deriving DecidableEq

/-- The state of a host with a log. -/
structure Logged (κ : Type) where
  inner : κ
  log : List HostEvent

/-- The host with a log. -/
def SpiHost.logged {κ : Type} (h : SpiHost κ) : SpiHost (Logged κ) where
  takeMutex k := ((h.takeMutex k.inner).1,
    ⟨(h.takeMutex k.inner).2, k.log ++ [.take (h.takeMutex k.inner).1]⟩)
  giveMutex k := ⟨h.giveMutex k.inner, k.log ++ [.give]⟩
  delay k := { k with inner := h.delay k.inner }
  calloc k := ((h.calloc k.inner).1, { k with inner := (h.calloc k.inner).2 })
  setSpeed high k := { k with inner := h.setSpeed high k.inner }
  setLevel level k := ⟨h.setLevel level k.inner, k.log ++ [.cs level]⟩
  trans data k := ((h.trans data k.inner).1,
    ⟨(h.trans data k.inner).2, k.log ++ [.byte data (h.trans data k.inner).1]⟩)
  polls k := h.polls k.inner

/-! ### Reading a log -/

/-- The event is one of the bus. -/
def HostEvent.IsBus : HostEvent → Prop
  | .cs _ | .byte _ _ => True
  | .take _ | .give => False

/-- The chip select line after an event. -/
def HostEvent.level (level : Bool) : HostEvent → Bool
  | .cs level' => level'
  | _ => level

/-- The mutex after an event. -/
def HostEvent.held (held : Bool) : HostEvent → Bool
  | .take taken => held || taken
  | .give => false
  | _ => held

/-- The chip select line; it is high at first. -/
def csLevel (log : List HostEvent) : Bool := log.foldl HostEvent.level true

/-- The mutex is held; it is free at first. -/
def mutexHeld (log : List HostEvent) : Bool := log.foldl HostEvent.held false

/-- How often the mutex was taken. -/
def takes (log : List HostEvent) : ℕ := log.count (.take true)

/-- How often it was given. -/
def gives (log : List HostEvent) : ℕ := log.count .give

/-- The bytes that were exchanged, in both directions. -/
def exchanged (log : List HostEvent) : List (UInt8 × UInt8) := log.filterMap fun
  | .byte mosi miso => some (mosi, miso)
  | _ => none

/-! ### The protocol functions -/

namespace SpiHost

variable {κ : Type} {h : SpiHost κ} {P : Bus κ → Prop}

/-- What is done on the bus keeps `P`. -/
structure OnBus (h : SpiHost κ) (P : Bus κ → Prop) : Prop where
  byte : ∀ data, Keeps P (h.spiRwByte data)
  cs : ∀ level, Keeps P (h.setCs level)

variable (bus : h.OnBus P)

include bus

theorem onBus_sendBytes (data : List UInt8) : Keeps P (h.sendBytes data) := by
  induction data with
  | nil => exact .pure _
  | cons d data ih => exact .bind (bus.byte d) fun _ ↦ ih

theorem onBus_readBytes (n : ℕ) : Keeps P (h.readBytes n) := by
  induction n with
  | zero => exact .pure _
  | succ n ih => exact .bind (bus.byte 0xFF) fun _ ↦ .bind ih fun _ ↦ .pure _

theorem onBus_waitReady : Keeps P h.waitReady := by
  have hpoll : Keeps P (do let d ← h.spiRwByte 0xFF; return d = 0xFF : BusM κ Bool) :=
    .bind (bus.byte 0xFF) fun _ ↦ .pure _
  intro b hb
  have hloop : Keeps P (repeatUntil (do let d ← h.spiRwByte 0xFF; return d = 0xFF : BusM κ Bool)
      (return ⟨⟩) (h.polls b.host)) := .repeatUntil hpoll (.pure _) _
  exact hloop b hb

theorem onBus_deselect : Keeps P h.deselect :=
  .bind (bus.cs true) fun _ ↦ .bind (bus.byte 0xFF) fun _ ↦ .pure _

theorem onBus_selectCard : Keeps P h.selectCard :=
  .bind (bus.cs false) fun _ ↦ .bind (bus.byte 0xFF) fun _ ↦ .bind (onBus_waitReady bus) fun _ ↦
    .ite (.pure _) (.bind (onBus_deselect bus) fun _ ↦ .pure _)

theorem onBus_awaitToken (n : ℕ) : Keeps P (h.awaitToken n) := by
  induction n with
  | zero => exact bus.byte 0xFF
  | succ n ih => exact .bind (bus.byte 0xFF) fun _ ↦ .ite ih (.pure _)

theorem onBus_rcvrDatablock (crcOn : Bool) (btr : ℕ) : Keeps P (h.rcvrDatablock crcOn btr) := by
  have hwithin : ∀ polls, Keeps P (h.rcvrWithin crcOn btr polls) := fun polls ↦
    .bind (onBus_awaitToken bus polls) fun _ ↦ .ite (.pure _) <|
      .bind (onBus_readBytes bus btr) fun _ ↦ .bind (bus.byte 0xFF) fun _ ↦
        .bind (bus.byte 0xFF) fun _ ↦ .pure _
  exact fun b hb ↦ hwithin (h.polls b.host) b hb

theorem onBus_xmitDatablock (buff : List UInt8) (token : UInt8) :
    Keeps P (h.xmitDatablock buff token) := by
  refine .bind (onBus_waitReady bus) fun _ ↦ .ite ?_ (.pure _)
  refine .bind (bus.byte token) fun _ ↦ .ite (.ite (.pure _) ?_) (onBus_waitReady bus)
  exact .bind (onBus_sendBytes bus _) fun _ ↦ .bind (bus.byte _) fun _ ↦ .bind (bus.byte _) fun _ ↦
    .bind (bus.byte 0xFF) fun _ ↦ .pure _

theorem onBus_awaitAnswer (n : ℕ) : Keeps P (h.awaitAnswer n) := by
  induction n with
  | zero => exact bus.byte 0xFF
  | succ n ih => exact .bind (bus.byte 0xFF) fun _ ↦ .ite ih (.pure _)

theorem onBus_sendFrame (cmd : UInt8) (arg : UInt32) : Keeps P (h.sendFrame cmd arg) := by
  have hanswer := onBus_awaitAnswer bus 9
  exact .bind (onBus_sendBytes bus _) fun _ ↦ .bind (bus.byte _) fun _ ↦
    .ite (.bind (bus.byte 0xFF) fun _ ↦ hanswer) hanswer

theorem onBus_sendPlainCmd (cmd : UInt8) (arg : UInt32) : Keeps P (h.sendPlainCmd cmd arg) := by
  have hframe := onBus_sendFrame bus cmd arg
  exact .ite (.bind (onBus_deselect bus) fun _ ↦ .bind (onBus_selectCard bus) fun _ ↦
    .ite hframe (.pure _)) hframe

theorem onBus_sendCmd (cmd : UInt8) (arg : UInt32) : Keeps P (h.sendCmd cmd arg) :=
  .ite (.bind (onBus_sendPlainCmd bus cmd55 0) fun _ ↦
    .ite (.pure _) (onBus_sendPlainCmd bus _ arg)) (onBus_sendPlainCmd bus cmd arg)

/-- **The port keeps what the bus keeps**, as long as the rest of the host does. -/
theorem stableAll_port {opt : SdOptions} (hdelay : ∀ b, P b → P { b with host := h.delay b.host })
    (hspeed : ∀ high b, P b → P { b with host := h.setSpeed high b.host })
    (hcalloc : ∀ b, P b → P { b with host := (h.calloc b.host).2 }) :
    (h.port opt).StableAll (fun _ ↦ True) fun d ↦ P d.card where
  delay d hd := hdelay d.card hd
  setSpeed high d hd := hspeed high d.card hd
  csHigh d hd := bus.cs true d.card hd
  csLow d hd := bus.cs false d.card hd
  readByte d hd := bus.byte 0xFF d.card hd
  deselect d hd := onBus_deselect bus d.card hd
  sendCmd cmd arg _ d hd := onBus_sendCmd bus cmd arg d.card hd
  rcvrDatablock btr d hd := onBus_rcvrDatablock bus opt.crcOn btr d.card hd
  calloc d hd := hcalloc d.card hd
  waitReady d hd := onBus_waitReady bus d.card hd
  selectCard d hd := onBus_selectCard bus d.card hd
  xmitDatablock buff token _ d hd := onBus_xmitDatablock bus buff token d.card hd

end SpiHost

/-! ### The log of a program -/

section Log

variable {κ : Type} {h : SpiHost κ} {opt : SdOptions}

/-- The log of a driver on a host with a log. -/
def SdDriver.log (d : SdDriver (Bus (Logged κ))) : List HostEvent := d.card.host.log

theorem SdDriver.log_congr {d d' : SdDriver (Bus (Logged κ))} (hcard : d'.card = d.card) :
    d'.log = d.log := congrArg (fun b : Bus (Logged κ) ↦ b.host.log) hcard

/-- Since the log was `log` there was nothing but the bus. -/
def BusSince (log : List HostEvent) (log' : List HostEvent) : Prop :=
  ∃ bus, (∀ e ∈ bus, e.IsBus) ∧ log' = log ++ bus

theorem BusSince.refl (log : List HostEvent) : BusSince log log :=
  ⟨[], nofun, (List.append_nil log).symm⟩

theorem BusSince.snoc {log log' : List HostEvent} (hsince : BusSince log log') {e : HostEvent}
    (he : e.IsBus) : BusSince log (log' ++ [e]) := by
  obtain ⟨bus, hbus, rfl⟩ := hsince
  refine ⟨bus ++ [e], fun e' he' ↦ ?_, List.append_assoc log bus [e]⟩
  rcases List.mem_append.1 he' with he' | he'
  · exact hbus e' he'
  · rw [List.mem_singleton.1 he']
    exact he

/-- The functions of the port use the bus. -/
theorem stableAll_busSince (log : List HostEvent) :
    (h.logged.port opt).StableAll (fun _ ↦ True) fun d ↦ BusSince log d.log := by
  have hbus : h.logged.OnBus fun b ↦ BusSince log b.host.log :=
    ⟨fun _ _ hb ↦ hb.snoc trivial, fun _ _ hb ↦ hb.snoc trivial⟩
  exact SpiHost.stableAll_port hbus (fun _ ↦ id) (fun _ _ ↦ id) fun _ ↦ id

/-- The card is not selected. -/
def Deselected (d : SdDriver (Bus (Logged κ))) : Prop := csLevel d.log = true

/-- `deselect` sets the line and exchanges a byte. -/
theorem deselect_log (d : SdDriver (Bus (Logged κ))) : ∃ miso,
    (toPort (h.logged.port opt).deselect d).2.log = d.log ++ [.cs true, .byte 0xFF miso] :=
  ⟨_, List.append_assoc d.log [.cs true] [_]⟩

theorem deselect_deselected {P : SdDriver (Bus (Logged κ)) → Prop} :
    Triple P (toPort (h.logged.port opt).deselect) fun _ ↦ Deselected := by
  intro d _
  obtain ⟨miso, hlog⟩ : ∃ miso, (toPort (h.logged.port opt).deselect d).2.log =
      d.log ++ [.cs true, .byte 0xFF miso] := deselect_log d
  rw [Deselected, hlog, csLevel, List.foldl_append]
  rfl

end Log
