import Mathlib.Data.List.Basic
import Mathlib.Data.Nat.Notation

/-!
# A file as a list with a position

What a file is for: a list, and a position in it that is not past the end. It is read from the
position on (`rest`, `skip`), replaced from there on (`write`), cut off there (`truncate`), and the
position is moved (`MovedTo`); a position past the end extends the file by something.
-/

/-- A list with a position in it. -/
structure ByteFile (α : Type) where
  bytes : List α
  pos : ℕ
  pos_le : pos ≤ bytes.length

namespace ByteFile

variable {α : Type}

/-- Files are equal if their bytes and positions are. -/
@[ext] theorem ext {f f' : ByteFile α} (hbytes : f.bytes = f'.bytes) (hpos : f.pos = f'.pos) :
    f = f' := by
  cases f
  cases f'
  cases hbytes
  cases hpos
  rfl

/-- What comes after the position. -/
def rest (f : ByteFile α) : List α := f.bytes.drop f.pos

/-- The position after `n` of them, or at the end. -/
def skip (f : ByteFile α) (n : ℕ) : ByteFile α :=
  ⟨f.bytes, f.pos + min (f.bytes.length - f.pos) n, by have := f.pos_le; omega⟩

/-- What comes after the position is replaced, as far as the data goes. -/
def write (f : ByteFile α) (data : List α) : ByteFile α :=
  ⟨f.bytes.take f.pos ++ data ++ f.bytes.drop (f.pos + data.length), f.pos + data.length, by
    have := f.pos_le
    simp only [List.length_append, List.length_take]
    omega⟩

/-- The file ends at the position. -/
def truncate (f : ByteFile α) : ByteFile α :=
  ⟨f.bytes.take f.pos, f.pos, by have := f.pos_le; rw [List.length_take]; omega⟩

/-- The position is moved to `p`, and the file is extended if it ends before. -/
structure MovedTo (f : ByteFile α) (p : ℕ) (f' : ByteFile α) : Prop where
  pos : f'.pos = p
  isPrefix : f.bytes <+: f'.bytes
  length : f'.bytes.length = max f.bytes.length p

theorem write_bytes (f : ByteFile α) (data : List α) : (f.write data).bytes =
    f.bytes.take f.pos ++ (data ++ f.bytes.drop (f.pos + data.length)) :=
  List.append_assoc _ _ _

/-- **The bytes after a write.** -/
theorem getElem?_write (f : ByteFile α) (data : List α) (o : ℕ) :
    (f.write data).bytes[o]? =
      if f.pos ≤ o ∧ o < f.pos + data.length then data[o - f.pos]? else f.bytes[o]? := by
  have hlen : (f.bytes.take f.pos).length = f.pos := List.length_take_of_le f.pos_le
  rw [write_bytes]
  split
  · rename_i h
    rw [List.getElem?_append_right (by omega), hlen, List.getElem?_append_left (by omega)]
  · rename_i h
    rcases Nat.lt_or_ge o f.pos with hlt | hge
    · rw [List.getElem?_append_left (by omega), List.getElem?_take_of_lt hlt]
    · rw [List.getElem?_append_right (by omega), hlen, List.getElem?_append_right (by omega),
        List.getElem?_drop]
      congr 1
      omega

end ByteFile
