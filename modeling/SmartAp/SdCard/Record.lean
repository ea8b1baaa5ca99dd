import SmartAp.SdCard.Driver

/-!
# A port that keeps a record

`SdPort.recorded` is a port that notes the commands and the blocks it is given. What a function of
the driver sends to the card is read off the record; `OnlySends` says that all of it is of a kind,
and is kept by every function of the port that sends nothing else. The record is beside the port
below, which does not see it, so that the driver on the recording port is the driver on that port.
-/

/-- What is sent to the card. -/
inductive SdSent
  | command (cmd : UInt8) (arg : UInt32)
  | block (buff : List UInt8) (token : UInt8)
  deriving DecidableEq

/-- The state of a port with a record. -/
structure Recorded (κ : Type) where
  inner : κ
  sent : List SdSent

variable {κ α : Type}

/-- A function of the port that is not recorded. -/
def Recorded.lift (f : κ → α × κ) (r : Recorded κ) : α × Recorded κ :=
  ((f r.inner).1, { r with inner := (f r.inner).2 })

/-- One that is. -/
def Recorded.note (x : SdSent) (f : κ → α × κ) (r : Recorded κ) : α × Recorded κ :=
  ((f r.inner).1, ⟨(f r.inner).2, r.sent ++ [x]⟩)

/-- The port with a record. -/
def SdPort.recorded (port : SdPort κ) : SdPort (Recorded κ) where
  takeMutex := Recorded.lift port.takeMutex
  giveMutex r := { r with inner := port.giveMutex r.inner }
  delay r := { r with inner := port.delay r.inner }
  calloc := Recorded.lift port.calloc
  setSpeed high r := { r with inner := port.setSpeed high r.inner }
  csHigh r := { r with inner := port.csHigh r.inner }
  csLow r := { r with inner := port.csLow r.inner }
  exchange b := Recorded.lift (port.exchange b)
  waitReady := Recorded.lift port.waitReady
  selectCard := Recorded.lift port.selectCard
  deselect r := { r with inner := port.deselect r.inner }
  sendCmd cmd arg := Recorded.note (.command cmd arg) (port.sendCmd cmd arg)
  rcvrDatablock btr := Recorded.lift (port.rcvrDatablock btr)
  xmitDatablock buff token := Recorded.note (.block buff token) (port.xmitDatablock buff token)
  polls r := port.polls r.inner

/-- Everything in the record is of this kind. -/
def OnlySends (allowed : SdSent → Prop) (d : SdDriver (Recorded κ)) : Prop :=
  ∀ x ∈ d.card.sent, allowed x

variable {allowed : SdSent → Prop}

theorem onlySends_nothing {d : SdDriver (Recorded κ)} (hnone : d.card.sent = []) :
    OnlySends allowed d := fun x hx ↦ by
  rw [hnone] at hx
  cases hx

/-- A step that sends nothing. -/
theorem onlySends_lift {f : κ → α × κ} :
    Keeps (OnlySends allowed) (onPort (Recorded.lift f) : SdM (Recorded κ) α) := fun _ hd ↦ hd

/-- A step that sends what is allowed. -/
theorem onlySends_note {x : SdSent} {f : κ → α × κ} (h : allowed x) :
    Keeps (OnlySends allowed) (onPort (Recorded.note x f) : SdM (Recorded κ) α) := by
  intro d hd y hy
  rcases List.mem_append.1 hy with hy | hy
  · exact hd y hy
  · rw [List.mem_singleton.1 hy]
    exact h

theorem onlySends_toPort {f : Recorded κ → Recorded κ} (h : ∀ r, (f r).sent = r.sent) :
    Keeps (OnlySends allowed) (toPort f) := fun d hd ↦ by
  show ∀ x ∈ (f d.card).sent, allowed x
  rw [h]
  exact hd
