import Mathlib.Data.Set.Insert
import Mathlib.Data.List.GetD
import Mathlib.Data.List.TakeDrop

/-!
# Programs on a buffer, access by access

A `BufferProgram` reads and writes a buffer one position at a time and sends the start of it. `run`
lists every access. The list is `Confined` when the program reads and sends only positions that are
known, those it began with or has written since, and writes only inside the buffer.

* `Stays` computes what a program must meet for this, from its end backwards, and `Stays.confined`
  is its meaning.
* `accesses_congr`: a confined program makes the same accesses, and sends the same bytes, on any two
  buffers that agree on what is known. This is where "leaks nothing" comes from.
-/

/-- A program over a buffer of values in `β`. -/
inductive BufferProgram (β α : Type)
  | done (a : α)
  | read (i : ℕ) (k : β → BufferProgram β α)
  | write (i : ℕ) (v : β) (k : BufferProgram β α)
  | send (n : ℕ) (k : BufferProgram β α)

/-- An access to the buffer; a send has the bytes that go out. -/
inductive Access (β : Type)
  | read (i : ℕ)
  | write (i : ℕ)
  | send (n : ℕ) (payload : List β)

/-- What a program returns and leaves, and its accesses. -/
structure Outcome (β α : Type) where
  value : α
  buffer : List β
  accesses : List (Access β)

namespace BufferProgram

variable {β α γ : Type}

/-- One program after the other. -/
def bind : BufferProgram β α → (α → BufferProgram β γ) → BufferProgram β γ
  | done a, f => f a
  | read i k, f => read i fun v ↦ (k v).bind f
  | write i v k, f => write i v (k.bind f)
  | send n k, f => send n (k.bind f)

instance : Monad (BufferProgram β) where
  pure := done
  bind := bind

/-- One read. -/
def get (i : ℕ) : BufferProgram β β := read i done

/-- One write. -/
def put (i : ℕ) (v : β) : BufferProgram β Unit := write i v (done ())

/-- One send. -/
def sendTo (n : ℕ) : BufferProgram β Unit := send n (done ())

/-- Write the values one after the other. -/
def copy : ℕ → List β → BufferProgram β Unit
  | _, [] => done ()
  | i, v :: vs => write i v (copy (i + 1) vs)

variable [Inhabited β]

/-- Run a program on a buffer. -/
def run : BufferProgram β α → List β → Outcome β α
  | done a, buffer => ⟨a, buffer, []⟩
  | read i k, buffer =>
    let o := (k (buffer.getD i default)).run buffer
    ⟨o.value, o.buffer, .read i :: o.accesses⟩
  | write i v k, buffer =>
    let o := k.run (buffer.set i v)
    ⟨o.value, o.buffer, .write i :: o.accesses⟩
  | send n k, buffer =>
    let o := k.run buffer
    ⟨o.value, o.buffer, .send n (buffer.take n) :: o.accesses⟩

end BufferProgram

/-! ### Confinement -/

section

variable {β : Type}

/-- The access keeps to the known positions and to the size of the buffer. -/
def Access.Allowed (size : ℕ) (known : Set ℕ) : Access β → Prop
  | .read i => i ∈ known
  | .write i => i < size
  | .send n _ => n ≤ size ∧ ∀ i < n, i ∈ known

/-- A written position is known. -/
def Access.learn (known : Set ℕ) : Access β → Set ℕ
  | .write i => insert i known
  | _ => known

/-- Every access is allowed at its time. -/
def Confined (size : ℕ) : Set ℕ → List (Access β) → Prop
  | _, [] => True
  | known, a :: accesses => a.Allowed size known ∧ Confined size (a.learn known) accesses

/-- What is sent. -/
def payloads (accesses : List (Access β)) : List (List β) :=
  accesses.filterMap fun
    | .send _ payload => some payload
    | _ => none

end

/-! ### What a program must meet -/

/-- The buffer, the known positions, and what has been sent. -/
structure BufferState (β : Type) where
  buffer : List β
  known : Set ℕ
  sent : List (List β)

namespace BufferProgram

variable {β α γ : Type} [Inhabited β] {size : ℕ}

/-- Run from this state, the program keeps to the known positions and ends as `Q` says. -/
def Stays (size : ℕ) : BufferProgram β α → BufferState β → (α → BufferState β → Prop) → Prop
  | done a, s, Q => Q a s
  | read i k, s, Q => i ∈ s.known ∧ (k (s.buffer.getD i default)).Stays size s Q
  | write i v k, s, Q =>
    i < size ∧ k.Stays size ⟨s.buffer.set i v, insert i s.known, s.sent⟩ Q
  | send n k, s, Q =>
    (n ≤ size ∧ ∀ i < n, i ∈ s.known) ∧
      k.Stays size ⟨s.buffer, s.known, s.sent ++ [s.buffer.take n]⟩ Q

theorem stays_bind {p : BufferProgram β α} {f : α → BufferProgram β γ} {s : BufferState β}
    {Q : γ → BufferState β → Prop} :
    (p >>= f).Stays size s Q ↔ p.Stays size s fun a s ↦ (f a).Stays size s Q := by
  show (p.bind f).Stays size s Q ↔ _
  induction p generalizing s with
  | done a => exact Iff.rfl
  | read i k ih => exact and_congr_right' (ih _)
  | write i v k ih => exact and_congr_right' ih
  | send n k ih => exact and_congr_right' ih

theorem Stays.mono {p : BufferProgram β α} {s : BufferState β} {Q R : α → BufferState β → Prop}
    (h : p.Stays size s Q) (himp : ∀ a s, Q a s → R a s) : p.Stays size s R := by
  induction p generalizing s with
  | done a => exact himp a s h
  | read i k ih => exact ⟨h.1, ih _ h.2⟩
  | write i v k ih => exact ⟨h.1, ih h.2⟩
  | send n k ih => exact ⟨h.1, ih h.2⟩

/-- Values are copied over as many old ones, and their positions are known afterwards. -/
theorem stays_copy (pre old post vs : List β) {known : Set ℕ} {sent : List (List β)}
    (hlength : old.length = vs.length) (hsize : pre.length + vs.length ≤ size) :
    (copy pre.length vs).Stays size ⟨pre ++ old ++ post, known, sent⟩ fun _ s' ↦
      s'.buffer = pre ++ vs ++ post ∧ s'.sent = sent ∧
        ∀ j, (j ∈ known ∨ (pre.length ≤ j ∧ j < pre.length + vs.length)) → j ∈ s'.known := by
  induction vs generalizing pre old known with
  | nil =>
    obtain rfl := List.eq_nil_of_length_eq_zero hlength
    exact ⟨rfl, rfl, fun j hj ↦ hj.elim id fun hrange ↦ absurd hrange.2 (Nat.not_lt.2 hrange.1)⟩
  | cons v vs ih =>
    obtain ⟨u, us, rfl⟩ := List.exists_cons_of_length_eq_add_one hlength
    rw [List.length_cons] at hsize
    have hset : (pre ++ u :: us ++ post).set pre.length v = pre ++ [v] ++ us ++ post := by simp
    have hrest := @ih (pre ++ [v]) us (insert pre.length known) (Nat.succ.inj hlength) (by
      rw [List.length_append, List.length_singleton]
      omega)
    refine ⟨by omega, ?_⟩
    show (copy (pre.length + 1) vs).Stays size ⟨_, _, _⟩ _
    rw [hset]
    rw [List.length_append, List.length_singleton] at hrest
    refine hrest.mono fun _ s' h ↦ ⟨?_, h.2.1, fun j hj ↦ h.2.2 j ?_⟩
    · rw [h.1, List.append_assoc pre, List.singleton_append]
    · rcases hj with hj | ⟨hle, hlt⟩
      · exact .inl (Set.mem_insert_of_mem _ hj)
      · rcases Nat.eq_or_lt_of_le hle with rfl | hbehind
        · exact .inl (Set.mem_insert _ known)
        · rw [List.length_cons] at hlt
          exact .inr ⟨hbehind, by omega⟩

/-- What `Stays` means for a run. -/
theorem Stays.confined {p : BufferProgram β α} {s : BufferState β}
    {Q : α → BufferState β → Prop} (h : p.Stays size s Q) :
    Confined size s.known (p.run s.buffer).accesses ∧
      ∃ known, Q (p.run s.buffer).value
        ⟨(p.run s.buffer).buffer, known, s.sent ++ payloads (p.run s.buffer).accesses⟩ := by
  induction p generalizing s with
  | done a =>
    refine ⟨trivial, s.known, ?_⟩
    show Q a ⟨s.buffer, s.known, s.sent ++ []⟩
    rw [List.append_nil]
    exact h
  | read i k ih =>
    obtain ⟨hconfined, known, hQ⟩ := ih _ h.2
    exact ⟨⟨h.1, hconfined⟩, known, hQ⟩
  | write i v k ih =>
    obtain ⟨hconfined, known, hQ⟩ := ih h.2
    exact ⟨⟨h.1, hconfined⟩, known, hQ⟩
  | send n k ih =>
    obtain ⟨hconfined, known, hQ⟩ := ih h.2
    refine ⟨⟨h.1, hconfined⟩, known, ?_⟩
    show Q (k.run s.buffer).value ⟨(k.run s.buffer).buffer, known,
      s.sent ++ (s.buffer.take n :: payloads (k.run s.buffer).accesses)⟩
    rw [← List.singleton_append, ← List.append_assoc]
    exact hQ

theorem take_congr {b b' : List β} {n : ℕ} (hlength : b.length = b'.length)
    (hagree : ∀ i < n, b.getD i default = b'.getD i default) : b.take n = b'.take n := by
  refine List.ext_getElem (by rw [List.length_take, List.length_take, hlength]) fun i hi hi' ↦ ?_
  rw [List.length_take] at hi hi'
  have hget := hagree i (by omega)
  rw [List.getD_eq_getElem b default (by omega),
    List.getD_eq_getElem b' default (by omega)] at hget
  rwa [List.getElem_take, List.getElem_take]

/-- **A confined program cannot tell two buffers apart** that agree on the known positions. -/
theorem accesses_congr {p : BufferProgram β α} {known : Set ℕ} {b b' : List β}
    (h : Confined size known (p.run b).accesses) (hlength : b.length = b'.length)
    (hagree : ∀ i ∈ known, b.getD i default = b'.getD i default) :
    (p.run b').accesses = (p.run b).accesses := by
  induction p generalizing known b b' with
  | done a => rfl
  | read i k ih =>
    have hread : b.getD i default = b'.getD i default := hagree i h.1
    have haccesses := ih _ h.2 hlength hagree
    show .read i :: ((k (b'.getD i default)).run b').accesses = _
    rw [← hread, haccesses]
    rfl
  | write i v k ih =>
    have hset : ∀ j ∈ insert i known, (b.set i v).getD j default = (b'.set i v).getD j default := by
      intro j hj
      by_cases hij : i = j
      · subst hij
        rcases Nat.lt_or_ge i b.length with hi | hi
        · rw [List.getD_eq_getElem _ _ (by simpa using hi),
            List.getD_eq_getElem _ _ (by simpa using hlength ▸ hi), List.getElem_set_self,
            List.getElem_set_self]
        · rw [List.getD_eq_default _ _ (by simpa using hi),
            List.getD_eq_default _ _ (by simpa using hlength ▸ hi)]
      · have hknown : j ∈ known := (Set.mem_insert_iff.1 hj).resolve_left (Ne.symm hij)
        have hkeep := hagree j hknown
        rw [List.getD_eq_getElem?_getD, List.getD_eq_getElem?_getD] at hkeep ⊢
        rwa [List.getElem?_set_ne hij, List.getElem?_set_ne hij]
    have haccesses := ih h.2 (by rw [List.length_set, List.length_set, hlength]) hset
    show .write i :: (k.run (b'.set i v)).accesses = _
    rw [haccesses]
    rfl
  | send n k ih =>
    have haccesses := ih h.2 hlength hagree
    have hpayload := take_congr hlength fun i hi ↦ hagree i (h.1.2 i hi)
    show .send n (b'.take n) :: (k.run b').accesses = _
    rw [haccesses, ← hpayload]
    rfl

end BufferProgram
