import Mathlib.Data.Nat.Notation

/-!
# Triples for state-passing programs

A program is a `StateM σ α`: it takes a state and returns a result and a state. `Triple P m Q` says
that started in a state with `P` it ends with a result and a state that satisfy `Q`; `Keeps P m` is
the special case of an invariant. Nothing here depends on what the states are.

## The rules

There is one rule for each way a program is put together: `pure`, `bind`, `ite`, reading and
changing the state, and a loop with a bounded number of rounds (`repeatUntil`, `times`). A rule for
`bind` asks for the assertion in between; for an invariant it is the invariant itself, so that a
proof of `Keeps` follows the text of the program.

A function known only by the calls it makes (`Callbacks`) keeps whatever the functions it calls
keep.
-/

variable {σ α β : Type}

/-- **The triple.** -/
def Triple (P : σ → Prop) (m : StateM σ α) (Q : α → σ → Prop) : Prop := ∀ s, P s → Q (m s).1 (m s).2

/-- The program keeps an invariant. -/
def Keeps (P : σ → Prop) (m : StateM σ α) : Prop := Triple P m fun _ ↦ P

/-! ### Triples -/

section Triples

variable {P : σ → Prop} {Q : α → σ → Prop} {R : β → σ → Prop}

theorem Triple.pure {a : α} (h : ∀ s, P s → Q a s) : Triple P (pure a : StateM σ α) Q := h

theorem Triple.bind {m : StateM σ α} {f : α → StateM σ β} (hm : Triple P m Q)
    (hf : ∀ a, Triple (Q a) (f a) R) : Triple P (m >>= f) R :=
  fun s hs ↦ hf (m s).1 (m s).2 (hm s hs)

/-- What comes first may do anything. -/
theorem Triple.bind_of_any {m : StateM σ α} {f : α → StateM σ β}
    (hf : ∀ a, Triple (fun _ ↦ True) (f a) R) : Triple P (m >>= f) R :=
  fun s _ ↦ hf (m s).1 (m s).2 trivial

theorem Triple.ite {c : Prop} [Decidable c] {m n : StateM σ α} (hm : c → Triple P m Q)
    (hn : ¬ c → Triple P n Q) : Triple P (if c then m else n) Q := by
  split
  · rename_i hc
    exact hm hc
  · rename_i hc
    exact hn hc

/-- Reading the state makes the result known. -/
theorem Triple.get {R : σ → σ → Prop} (h : ∀ s, P s → R s s) : Triple P (get : StateM σ σ) R := h

/-- A fact about no state is a hypothesis. -/
theorem Triple.of_fact {c : Prop} {m : StateM σ α} (h : c → Triple P m Q) :
    Triple (fun s ↦ c ∧ P s) m Q :=
  fun s hs ↦ h hs.1 s hs.2

theorem Triple.modify {R : PUnit → σ → Prop} {f : σ → σ} (h : ∀ s, P s → R ⟨⟩ (f s)) :
    Triple P (modify f : StateM σ PUnit) R := h

/-- What follows is run on the state that was read. -/
theorem triple_get_bind {f : σ → StateM σ β} (h : ∀ s, P s → Triple (fun t ↦ t = s) (f s) R) :
    Triple P (get >>= f) R :=
  fun s hs ↦ h s hs s rfl

/-- What follows is run on the state as changed. -/
theorem triple_modify_bind {f : σ → σ} {k : PUnit → StateM σ β}
    (h : Triple (fun t ↦ ∃ s, P s ∧ t = f s) (k ⟨⟩) R) : Triple P (modify f >>= k) R :=
  fun s hs ↦ h (f s) ⟨s, hs, rfl⟩

/-- The same from one state. -/
theorem triple_modify_then {f : σ → σ} {k : PUnit → StateM σ β} {s : σ}
    (h : Triple (fun t ↦ t = f s) (k ⟨⟩) R) : Triple (fun t ↦ t = s) (modify f >>= k) R :=
  fun t ht ↦ h (f t) (congrArg f ht)

end Triples

/-! ### One run -/

section Runs

variable (s : σ)

theorem run_pure (a : α) : (pure a : StateM σ α) s = (a, s) := rfl

theorem run_bind (m : StateM σ α) (f : α → StateM σ β) : (m >>= f) s = f (m s).1 (m s).2 := rfl

theorem run_map (f : α → β) (m : StateM σ α) : (f <$> m) s = (f (m s).1, (m s).2) := rfl

theorem run_get : (get : StateM σ σ) s = (s, s) := rfl

theorem run_modify (f : σ → σ) : (modify f : StateM σ PUnit) s = (⟨⟩, f s) := rfl

end Runs

/-! ### Invariants -/

section Invariants

variable {P : σ → Prop}

theorem Keeps.pure (a : α) : Keeps P (pure a : StateM σ α) := fun _ hs ↦ hs

theorem Keeps.bind {m : StateM σ α} {f : α → StateM σ β} (hm : Keeps P m)
    (hf : ∀ a, Keeps P (f a)) : Keeps P (m >>= f) :=
  Triple.bind hm hf

theorem Keeps.ite {c : Prop} [Decidable c] {m n : StateM σ α} (hm : Keeps P m) (hn : Keeps P n) :
    Keeps P (if c then m else n) :=
  Triple.ite (fun _ ↦ hm) fun _ ↦ hn

theorem Keeps.get : Keeps P (get : StateM σ σ) := fun _ hs ↦ hs

theorem Keeps.modify {f : σ → σ} (h : ∀ s, P s → P (f s)) : Keeps P (modify f : StateM σ PUnit) := h

end Invariants

/-! ### Loops -/

/-- Run `m` until it returns true, at most `n + 1` times; the result tells whether it did. `between`
is run before each further round. -/
def repeatUntil (m : StateM σ Bool) (between : StateM σ PUnit) : ℕ → StateM σ Bool
  | 0 => m
  | n + 1 => do
    if ← m then return true
    between
    repeatUntil m between n

/-- Run `m` a number of times. -/
def times : ℕ → StateM σ PUnit → StateM σ PUnit
  | 0, _ => pure ⟨⟩
  | n + 1, m => do
    m
    times n m

theorem Keeps.times {P : σ → Prop} {m : StateM σ PUnit} (hm : Keeps P m) (n : ℕ) :
    Keeps P (times n m) := by
  induction n with
  | zero => exact .pure _
  | succ n ih => exact .bind hm fun _ ↦ ih

theorem Keeps.repeatUntil {P : σ → Prop} {m : StateM σ Bool} {between : StateM σ PUnit}
    (hm : Keeps P m) (hbetween : Keeps P between) (n : ℕ) :
    Keeps P (repeatUntil m between n) := by
  induction n with
  | zero => exact hm
  | succ n ih => exact .bind hm fun _ ↦ .ite (.pure _) (.bind hbetween fun _ ↦ ih)

/-- Before each round `P` holds, and `Q` after the round that ends the loop. -/
theorem Triple.repeatUntil {P Q : σ → Prop} {m : StateM σ Bool} {between : StateM σ PUnit}
    (hm : Triple P m fun ok s ↦ if ok then Q s else P s) (hbetween : Keeps P between) (n : ℕ) :
    Triple P (repeatUntil m between n) fun ok s ↦ if ok then Q s else P s := by
  induction n with
  | zero => exact hm
  | succ n ih =>
    refine .bind hm fun ok ↦ .ite (fun hok ↦ ?_) fun hok ↦ ?_
    · exact .pure fun s hs ↦ by simpa [hok] using hs
    · refine .bind (fun s hs ↦ hbetween s ?_) fun _ ↦ ih
      simpa [hok] using hs

/-- The first round ends the loop. -/
theorem triple_repeatUntil_first {P Q : σ → Prop} {m : StateM σ Bool} {between : StateM σ PUnit}
    (hm : Triple P m fun ok s ↦ ok = true ∧ Q s) (n : ℕ) :
    Triple P (repeatUntil m between n) fun ok s ↦ ok = true ∧ Q s := by
  cases n with
  | zero => exact hm
  | succ n =>
    refine .bind hm fun ok ↦ .ite (fun _ ↦ .pure fun s hs ↦ ⟨rfl, hs.2⟩) fun hok s hs ↦ ?_
    exact absurd hs.1 hok

/-- A stronger assumption, a weaker conclusion. -/
theorem Triple.weaken {P P' : σ → Prop} {Q Q' : α → σ → Prop} {m : StateM σ α}
    (h : Triple P m Q) (hP : ∀ s, P' s → P s) (hQ : ∀ a s, Q a s → Q' a s) : Triple P' m Q' :=
  fun s hs ↦ hQ _ _ (h s (hP s hs))

/-! ### Callbacks -/

/-- A function that is known only by the functions it calls back: it returns, or makes a call and
goes on with the answer. -/
inductive Callbacks (Call Answer Result : Type)
  | ret (result : Result)
  | call (name : Call) (next : Answer → Callbacks Call Answer Result)

variable {Call Answer Result : Type}

/-- Run it with the functions it calls. -/
def Callbacks.run (answer : Call → StateM σ Answer) :
    Callbacks Call Answer Result → StateM σ Result
  | .ret result => pure result
  | .call name next => do
    let a ← answer name
    (next a).run answer

/-- **What every callback keeps, the function keeps.** -/
theorem Keeps.callbacks {P : σ → Prop} {answer : Call → StateM σ Answer}
    (h : ∀ name, Keeps P (answer name)) (t : Callbacks Call Answer Result) :
    Keeps P (t.run answer) := by
  induction t with
  | ret result => exact Keeps.pure result
  | call name next ih => exact Keeps.bind (h name) ih
