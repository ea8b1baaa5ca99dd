import SmartAp.Program.Triple

/-!
# Programs that may run out of fuel

A program with loops that need not end is given fuel for them, and gives up when the fuel is used
up: it is a `FuelM σ α`, which ends with a state in any case and with a result if it has returned.
That it returns is one question, and what it returns is the other one (`Yields`); the rules below
are those of `SmartAp.Program.Triple`, for results that are there.
-/

/-- A program that gives up without fuel. -/
abbrev FuelM (σ : Type) := OptionT (StateM σ)

variable {σ α β : Type}

/-- A program without loops that need fuel. -/
def FuelM.lift (m : StateM σ α) : FuelM σ α := fun s ↦ (some (m s).1, (m s).2)

theorem FuelM.bind_of_some {m : FuelM σ α} {f : α → FuelM σ β} {s : σ} {a : α}
    (h : (m s).1 = some a) : (m >>= f) s = f a (m s).2 := by
  have hm : m s = (some a, (m s).2) := Prod.ext h rfl
  show OptionT.bind m f s = _
  simp only [OptionT.bind, OptionT.mk, bind, StateT.bind]
  rw [hm]

theorem FuelM.bind_of_none {m : FuelM σ α} {f : α → FuelM σ β} {s : σ} (h : (m s).1 = none) :
    (m >>= f) s = (none, (m s).2) := by
  have hm : m s = (none, (m s).2) := Prod.ext h rfl
  show OptionT.bind m f s = _
  simp only [OptionT.bind, OptionT.mk, bind, StateT.bind]
  rw [hm]
  rfl

/-- What was run first has returned. -/
theorem FuelM.exists_of_bind {m : FuelM σ α} {f : α → FuelM σ β} {s : σ} {b : β}
    (h : ((m >>= f) s).1 = some b) :
    ∃ a, (m s).1 = some a ∧ (m >>= f) s = f a (m s).2 := by
  cases hm : (m s).1 with
  | none =>
    rw [FuelM.bind_of_none hm] at h
    cases h
  | some a => exact ⟨a, rfl, FuelM.bind_of_some hm⟩

/-- **If it returns**, the result and the state are as `Q` says. -/
def Yields (P : σ → Prop) (m : FuelM σ α) (Q : α → σ → Prop) : Prop :=
  ∀ s, P s → ∀ a, (m s).1 = some a → Q a (m s).2

section Rules

variable {P : σ → Prop} {Q : α → σ → Prop} {R : β → σ → Prop}

theorem Yields.pure {a : α} (h : ∀ s, P s → Q a s) : Yields P (pure a : FuelM σ α) Q := by
  intro s hs b hb
  rw [← Option.some_inj.1 hb]
  exact h s hs

theorem Yields.failure : Yields P (failure : FuelM σ α) Q := fun _ _ _ hb ↦ nomatch hb

theorem Yields.bind {m : FuelM σ α} {f : α → FuelM σ β} (hm : Yields P m Q)
    (hf : ∀ a, Yields (Q a) (f a) R) : Yields P (m >>= f) R := by
  intro s hs b hb
  obtain ⟨a, ha, hrest⟩ := FuelM.exists_of_bind hb
  rw [hrest] at hb ⊢
  exact hf a (m s).2 (hm s hs a ha) b hb

theorem Yields.ite {c : Prop} [Decidable c] {m n : FuelM σ α} (hm : c → Yields P m Q)
    (hn : ¬ c → Yields P n Q) : Yields P (if c then m else n) Q := by
  split
  · rename_i hc
    exact hm hc
  · rename_i hc
    exact hn hc

/-- A fact about no state is a hypothesis. -/
theorem Yields.of_fact {c : Prop} {m : FuelM σ α} (h : c → Yields P m Q) :
    Yields (fun s ↦ c ∧ P s) m Q :=
  fun s hs ↦ h hs.1 s hs.2

/-- A stronger assumption, a weaker conclusion. -/
theorem Yields.weaken {P' : σ → Prop} {Q' : α → σ → Prop} {m : FuelM σ α} (h : Yields P m Q)
    (hP : ∀ s, P' s → P s) (hQ : ∀ a s, Q a s → Q' a s) : Yields P' m Q' :=
  fun s hs a ha ↦ hQ a _ (h s (hP s hs) a ha)

end Rules
