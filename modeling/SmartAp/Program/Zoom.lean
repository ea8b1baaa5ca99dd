import SmartAp.Program.Triple

/-!
# A program on a part of the state

A `StatePart` can be read and replaced. `zoom` runs a program of the part on the whole state. What
holds of the part after the program holds after `zoom`, and a statement that ignores the part stays
(`Triple.zoom`), so that the facts about a component are stated once, without the rest of the state.
-/

variable {σ τ α : Type}

/-- A part of a state. -/
structure StatePart (σ τ : Type) where
  get : σ → τ
  set : σ → τ → σ
  get_set : ∀ s t, get (set s t) = t
  set_set : ∀ s t t', set (set s t) t' = set s t'
  set_get : ∀ s, set s (get s) = s

attribute [simp] StatePart.get_set StatePart.set_set StatePart.set_get

/-- Run a program of the part. -/
def StatePart.zoom (p : StatePart σ τ) (m : StateM τ α) : StateM σ α :=
  fun s ↦ ((m (p.get s)).1, p.set s (m (p.get s)).2)

/-- A statement that does not depend on the part. -/
def StatePart.Ignores (p : StatePart σ τ) (R : σ → Prop) : Prop := ∀ s t, R s → R (p.set s t)

/-- **The triple of the part, and a frame.** -/
theorem Triple.zoom {p : StatePart σ τ} {P : τ → Prop} {Q : α → τ → Prop} {m : StateM τ α}
    {R : σ → Prop} (h : Triple P m Q) (hR : p.Ignores R) :
    Triple (fun s ↦ P (p.get s) ∧ R s) (p.zoom m) fun a s ↦ Q a (p.get s) ∧ R s := by
  intro s hs
  refine ⟨?_, hR s _ hs.2⟩
  simpa only [StatePart.zoom, StatePart.get_set] using h _ hs.1

/-- An invariant of the part is one of the whole. -/
theorem Keeps.zoom {p : StatePart σ τ} {P : τ → Prop} {m : StateM τ α} (h : Keeps P m) :
    Keeps (fun s ↦ P (p.get s)) (p.zoom m) := by
  intro s hs
  simpa only [StatePart.zoom, StatePart.get_set] using h _ hs
