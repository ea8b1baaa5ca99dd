import SmartAp.Files.ByteFile
import SmartAp.Fat.FileSeek
import SmartAp.Fat.FileSync

/-!
# A session with a file

What the calls on an open file do to the file as a list of bytes with a position, `FileState`.

## One call

`FileStep` says it for one call: what `validate` refuses has no effect, what succeeds has the effect
it should, and an error of the disk is reported. After an error in `f_read`, `f_write`, `f_lseek` or
`f_truncate` the file is given up, and every later call but `f_sync` reports the error again. **An
error of `f_sync` itself is not kept**: the file stays what it was, and the next call goes on.

## Short writes and seeks

A write that returns `FR_OK` may have written less than it was given, and a seek may have ended
before its target. That this happens only on a full volume is said under `ρ`, which stands for three
assumptions: no call of the disk fails, the count of the free clusters that FatFs keeps is right or
unknown, and no entry has the value 1 (`FileChain`). A stale count of 0, read from the FSInfo sector
of a card, ends a write with clusters free. Two other ends are not those of the volume, and they are
outcomes of `FileStep` of their own: a file has at most 4 GiB − 1 bytes, where a write is clipped,
and a file that is not open for writing ends a seek at its end.

## A run

`Stands` connects the two levels: the file object, its buffer and the disk stand for these bytes at
this position, or for a file given up. One lemma for each call (`fRead_does` to `fSync_does`) says
that the code makes a step, and `runFileCalls_refines` is the same for any calls one after the
other, by induction over them. Whatever happens, nothing is changed on the volume but sectors of no
other chain, and the directory entry (`Untouched`).
-/

/-- The calls on an open file. -/
inductive FileCall
  | read (btr : ℕ)
  | write (data : WriteData)
  | lseek (ofs : UInt32)
  | truncate
  | sync (time : ℕ)

/-- What a call returns: its result, what was read, and the number of bytes written. -/
structure FileReturn where
  res : FResult
  bytes : List UInt8
  count : ℕ

/-- A result alone. -/
def FileReturn.of (res : FResult) : FileReturn := ⟨res, [], 0⟩

/-- A call, given what `validate` returns. -/
def FileCall.run (g : FatGeometry) (check : FResult) : FileCall → FileM (Option FileReturn)
  | .read btr => do
    let r ← fRead g check btr
    return r.map fun r ↦ ⟨r.1, r.2, 0⟩
  | .write data => do
    let r ← fWrite g check data
    return r.map fun r ↦ ⟨r.1, [], r.2⟩
  | .lseek ofs => do
    let r ← fLseek g check ofs
    return r.map .of
  | .truncate => do
    let r ← fTruncate g check
    return r.map .of
  | .sync time => do
    let r ← fSync g check time
    return some (.of r)

/-- Calls one after the other. -/
def runFileCalls (g : FatGeometry) : List (FResult × FileCall) → FileM (List (Option FileReturn))
  | [] => return []
  | (check, call) :: calls => do
    let r ← call.run g check
    let rs ← runFileCalls g calls
    return r :: rs

/-! ### What the calls are for -/

/-- The file, and the number of free clusters on its volume. -/
structure FileState where
  file : ByteFile UInt8
  room : ℕ

/-- The calls that the sticky error refuses. -/
def FileCall.checksErr : FileCall → Bool
  | .sync _ => false
  | _ => true

/-- **What one call does.** A file is given up with an error. `ρ` says that the disk never fails. -/
inductive FileStep (ρ : Prop) (canRead canWrite : Bool) :
    Except FResult FileState → FResult → FileCall → FileReturn → Except FResult FileState → Prop
  | invalid {st : Except FResult FileState} {check : FResult} {call : FileCall} (h : check ≠ .ok) :
    FileStep ρ canRead canWrite st check call (.of check) st
  | stuck {err : FResult} {call : FileCall} (h : call.checksErr = true) :
    FileStep ρ canRead canWrite (.error err) .ok call (.of err) (.error err)
  | stuckSync {err res : FResult} {time : ℕ} :
    FileStep ρ canRead canWrite (.error err) .ok (.sync time) (.of res) (.error err)
  | readDenied {st : FileState} {btr : ℕ} (h : canRead = false) :
    FileStep ρ canRead canWrite (.ok st) .ok (.read btr) (.of .denied) (.ok st)
  | read {st : FileState} {btr : ℕ} (h : canRead = true) :
    FileStep ρ canRead canWrite (.ok st) .ok (.read btr) ⟨.ok, st.file.rest.take btr, 0⟩
      (.ok ⟨st.file.skip btr, st.room⟩)
  | readFailed {st : FileState} {btr n : ℕ} (h : canRead = true) (hρ : ¬ ρ) (hn : n ≤ btr) :
    FileStep ρ canRead canWrite (.ok st) .ok (.read btr) ⟨.diskErr, st.file.rest.take n, 0⟩
      (.error .diskErr)
  | writeDenied {st : FileState} {data : WriteData} (h : canWrite = false) :
    FileStep ρ canRead canWrite (.ok st) .ok (.write data) (.of .denied) (.ok st)
  | write {st : FileState} {data : WriteData} {n room : ℕ} (h : canWrite = true)
    (hn : n ≤ (clipData st.file.pos data).length)
    (hfull : n < (clipData st.file.pos data).length → ρ → room = 0) :
    FileStep ρ canRead canWrite (.ok st) .ok (.write data) ⟨.ok, [], n⟩
      (.ok ⟨st.file.write ((clipData st.file.pos data).take n), room⟩)
  | writeFailed {st : FileState} {data : WriteData} {n : ℕ} {res : FResult} (h : canWrite = true)
    (hρ : ¬ ρ) (hres : res ≠ .ok) (hn : n ≤ data.bytes.length) :
    FileStep ρ canRead canWrite (.ok st) .ok (.write data) ⟨res, [], n⟩ (.error res)
  | lseek {st : FileState} {ofs : UInt32} {p room : ℕ} {f : ByteFile UInt8}
    (hmoved : st.file.MovedTo p f)
    (hp : p = ofs.toNat ∨ canWrite = false ∧ p = st.file.bytes.length ∧ p < ofs.toNat ∨
      canWrite = true ∧ p < ofs.toNat ∧ (ρ → room = 0)) :
    FileStep ρ canRead canWrite (.ok st) .ok (.lseek ofs) (.of .ok) (.ok ⟨f, room⟩)
  | truncateDenied {st : FileState} (h : canWrite = false) :
    FileStep ρ canRead canWrite (.ok st) .ok .truncate (.of .denied) (.ok st)
  | truncate {st : FileState} {room : ℕ} (h : canWrite = true) :
    FileStep ρ canRead canWrite (.ok st) .ok .truncate (.of .ok) (.ok ⟨st.file.truncate, room⟩)
  | moveFailed {st : FileState} {call : FileCall} {res : FResult}
    (h : call = .truncate ∧ canWrite = true ∨ ∃ ofs, call = .lseek ofs) (hρ : ¬ ρ)
    (hres : res ≠ .ok) : FileStep ρ canRead canWrite (.ok st) .ok call (.of res) (.error res)
  /-- The file is still there when `f_sync` fails. -/
  | sync {st : FileState} {res : FResult} {time : ℕ} (hρ : res ≠ .ok → ¬ ρ) :
    FileStep ρ canRead canWrite (.ok st) .ok (.sync time) (.of res) (.ok st)

/-- The same for any calls. -/
inductive FileRun (ρ : Prop) (canRead canWrite : Bool) :
    Except FResult FileState → List (FResult × FileCall) → List FileReturn →
      Except FResult FileState → Prop
  | nil {st : Except FResult FileState} : FileRun ρ canRead canWrite st [] [] st
  | cons {st st' st'' : Except FResult FileState} {check : FResult} {call : FileCall}
    {ret : FileReturn} {calls : List (FResult × FileCall)} {rets : List FileReturn}
    (h : FileStep ρ canRead canWrite st check call ret st')
    (hrun : FileRun ρ canRead canWrite st' calls rets st'') :
    FileRun ρ canRead canWrite st ((check, call) :: calls) (ret :: rets) st''

/-! ### The object stands for the file -/

section Stands

variable {g : FatGeometry} {ρ : Prop} {others : List (List ℕ)} {V V₀ : Memory} {T : ℕ → ℕ}
  {last free : ℕ} {l : List ℕ} {s t : FatFile}

/-- Nothing has changed beside the file and its entry. -/
def Untouched (g : FatGeometry) (others : List (List ℕ)) (s : FatFile) (V₀ V : Memory) : Prop :=
  ∀ a, ¬ g.SpareSector others (a / 512) → a < s.entryAddr ∨ s.entryAddr + 32 ≤ a → V a = V₀ a

/-- **The object stands for the file**, or for one that was given up. -/
def Stands (g : FatGeometry) (ρ : Prop) (others : List (List ℕ)) (V₀ : Memory) :
    Except FResult FileState → FatFile → Prop
  | .ok st, s => ∃ V T last free l, FileView g ρ others V T last free l s ∧ Placed g l s.fptr s ∧
    s.fptr = st.file.pos ∧ g.fileBytes V l 0 s.objsize = st.file.bytes ∧
    (freeClusters g T).card = st.room ∧ Untouched g others s V₀ V
  | .error err, s => s.err = err ∧ err ≠ .ok ∧ ¬ ρ ∧
    ∃ V T last free, FileShows g ρ others V T last free s ∧ Untouched g others s V₀ V

/-- The address of the directory entry stays that of `f_open`. -/
theorem SameSession.entryAddr (h : SameSession s t) : t.entryAddr = s.entryAddr := by
  rw [FatFile.entryAddr, FatFile.entryAddr, h.dirSect, h.dirPtr]

/-- What was untouched stays so while only sectors of the file are written. -/
theorem Untouched.after {V' : Memory} (h : Untouched g others s V₀ V) (hsame : SameSession s t)
    (hV : ∀ a, ¬ g.SpareSector others (a / 512) → V' a = V a) : Untouched g others t V₀ V' :=
  fun a ha hout ↦ (hV a ha).trans (h a ha (hsame.entryAddr ▸ hout))

/-- A file that is given up. -/
theorem GivenUp.stands {res : FResult} (h : GivenUp g ρ others V res t)
    (hout : Untouched g others s V₀ V) (hsame : SameSession s t) :
    Stands g ρ others V₀ (.error res) t := by
  obtain ⟨hρ, herr, hres, V', T', last', free', ht, hV⟩ := h
  exact ⟨herr, hres, hρ, V', T', last', free', ht, hout.after hsame hV⟩

/-- A byte of the file, where it stands in the volume. -/
theorem getElem?_fileBytes (V : Memory) (l : List ℕ) (p : ℕ) {n o : ℕ} :
    (g.fileBytes V l p n)[o]? = if o < n then some (V (g.addrOf l (p + o))) else none := by
  rw [FatGeometry.fileBytes, List.getElem?_map]
  split
  · rename_i h
    rw [List.getElem?_range h, Option.map_some]
  · rename_i h
    rw [List.getElem?_eq_none (by rw [List.length_range]; omega), Option.map_none]

/-- What is read is the rest of the file. -/
theorem fileBytes_rest {f : ByteFile UInt8} {size n : ℕ} (h : g.fileBytes V l 0 size = f.bytes)
    (hn : f.pos + n ≤ size) : g.fileBytes V l f.pos n = f.rest.take n := by
  refine List.ext_getElem? fun o ↦ ?_
  rw [getElem?_fileBytes, List.getElem?_take, ByteFile.rest, List.getElem?_drop, ← h,
    getElem?_fileBytes, Nat.zero_add]
  split
  · rw [if_pos (by omega)]
  · rfl

/-- What is stored is a write to the file. -/
theorem Stored.fileBytes {V' : Memory} {l' : List ℕ} {f : ByteFile UInt8} {size : ℕ}
    {data : List UInt8} (h : Stored g others V l size V' l' f.pos data)
    (hf : g.fileBytes V l 0 size = f.bytes) :
    g.fileBytes V' l' 0 (max size (f.pos + data.length)) = (f.write data).bytes := by
  have hpos := f.pos_le
  rw [← hf, g.length_fileBytes] at hpos
  refine List.ext_getElem? fun o ↦ ?_
  rw [getElem?_fileBytes, f.getElem?_write, Nat.zero_add, ← hf, getElem?_fileBytes, Nat.zero_add]
  by_cases hin : f.pos ≤ o ∧ o < f.pos + data.length
  · have hidx : o - f.pos < data.length := by omega
    have hbyte := h.bytes (o - f.pos) hidx
    rw [Nat.add_sub_cancel' hin.1] at hbyte
    rw [if_pos (by omega), if_pos hin, hbyte, List.getD_eq_getElem?_getD,
      List.getElem?_eq_getElem hidx, Option.getD_some]
  · rw [if_neg hin]
    by_cases ho : o < size
    · rw [if_pos (by omega), if_pos ho, h.kept o ho (by omega)]
    · rw [if_neg (by omega), if_neg ho]

/-- A file with more clusters has the same bytes. -/
theorem fileBytes_prefix (hg : g.VolumeSound) {l' : List ℕ} (hl : l <+: l') {n : ℕ}
    (hn : n ≤ l.length * g.bcs) : g.fileBytes V l' 0 n = g.fileBytes V l 0 n := by
  obtain ⟨ext, rfl⟩ := hl
  refine List.map_congr_left fun o ho ↦ ?_
  rw [g.addrOf_append hg ext (by have := List.mem_range.1 ho; omega)]

/-- The bytes of the file are in its sectors. -/
theorem FileChain.fileBytes_congr (hg : g.VolumeSound) (h : FileChain g ρ others T free l)
    {V' : Memory} (hV : ∀ a, g.SpareSector others (a / 512) → V' a = V a) {n : ℕ}
    (hn : n ≤ l.length * g.bcs) : g.fileBytes V' l 0 n = g.fileBytes V l 0 n :=
  List.map_congr_left fun o ho ↦ by
    have ho := List.mem_range.1 ho
    refine hV _ ?_
    rw [g.addrOf_div]
    exact h.spare hg (g.div_csize_lt hg (by omega))

/-- The entry is in no sector of the file. -/
theorem EntryPlaced.kept (hp : EntryPlaced g others s) {V' : Memory}
    (hV : ∀ a, a < s.entryAddr ∨ s.entryAddr + 32 ≤ a → V' a = V a) {a : ℕ}
    (ha : g.SpareSector others (a / 512)) : V' a = V a := by
  have hfits := hp.fits
  have hne : a / 512 ≠ s.dirSect := fun h ↦ hp.notSpare (h ▸ ha)
  refine hV a ?_
  rw [FatFile.entryAddr]
  omega

/-! ### One call -/

/-- How a call goes on from `s`: one step of the file, and the object stands for what it gives. -/
def Does (g : FatGeometry) (ρ : Prop) (others : List (List ℕ)) (V₀ : Memory)
    (st : Except FResult FileState) (s : FatFile) (check : FResult) (call : FileCall)
    (r : Option FileReturn) (t : FatFile) : Prop :=
  ∃ ret st', r = some ret ∧ FileStep ρ s.canRead s.canWrite st check call ret st' ∧
    Stands g ρ others V₀ st' t ∧ SameSession s t

/-- What `validate` refuses. -/
theorem FileCall.run_invalid {check : FResult} (h : check ≠ .ok) (call : FileCall) (s : FatFile) :
    call.run g check s = (some (.of check), s) := by
  cases call <;>
    simp [FileCall.run, fRead, fWrite, fLseek, fTruncate, fSync, run_bind, run_pure, h,
      FileReturn.of]

/-- The sticky error. -/
theorem FileCall.run_stuck (h : s.err ≠ .ok) {call : FileCall} (hcall : call.checksErr = true) :
    call.run g .ok s = (some (.of s.err), s) := by
  cases call with
  | sync time => exact Bool.noConfusion hcall
  | _ =>
    simp [FileCall.run, fRead, fWrite, fLseek, fTruncate, run_bind, run_get, run_pure, h,
      FileReturn.of]

/-- A call that the mode of the file does not allow. -/
theorem FileCall.run_denied (herr : s.err = .ok) {call : FileCall}
    (h : s.canRead = false ∧ (∃ btr, call = .read btr) ∨
      s.canWrite = false ∧ ((∃ data, call = .write data) ∨ call = .truncate)) :
    call.run g .ok s = (some (.of .denied), s) := by
  rcases h with ⟨hread, btr, rfl⟩ | ⟨hwrite, ⟨data, rfl⟩ | rfl⟩
  · simp [FileCall.run, fRead, run_bind, run_get, run_pure, herr, hread, FileReturn.of]
  · simp [FileCall.run, fWrite, run_bind, run_get, run_pure, herr, hwrite, FileReturn.of]
  · simp [FileCall.run, fTruncate, run_bind, run_get, run_pure, herr, hwrite, FileReturn.of]

section Calls

variable {st : FileState}

/-- `f_read` of a standing file object is a read of the file. -/
theorem fRead_does (hg : g.VolumeSound) (hs : Stands g ρ others V₀ (.ok st) s) (btr : ℕ) :
    Triple (fun t ↦ t = s) (FileCall.run g .ok (.read btr))
      (Does g ρ others V₀ (.ok st) s .ok (.read btr)) := by
  have hs' := hs
  obtain ⟨V, T, last, free, l, hview, hplaced, hptr, hbytes, hroom, hout⟩ := hs'
  have hpos := st.file.pos_le
  have hlen : st.file.bytes.length = s.objsize := by rw [← hbytes, g.length_fileBytes]
  cases hread : s.canRead with
  | false =>
    rintro s rfl
    rw [FileCall.run_denied hview.err (.inl ⟨hread, btr, rfl⟩)]
    exact ⟨_, _, rfl, .readDenied hread, hs, .refl s⟩
  | true =>
    refine .bind (fRead_view hg hview hplaced (by omega) rfl hread btr) fun r ↦ .pure ?_
    rintro t (⟨rfl, hv, hp, hadv⟩ | ⟨n, hn, rfl, hρ, ht, hadv⟩)
    · have hsame : SameSession s t := by
        rw [Advanced, Cached] at hadv
        rw [hadv]
        exact ⟨rfl, rfl, rfl, rfl⟩
      have htptr : t.fptr = st.file.pos + min (st.file.bytes.length - st.file.pos) btr := by
        rw [Advanced, Cached] at hadv
        rw [hadv, hlen, ← hptr]
      have htobj : t.objsize = s.objsize := by
        rw [Advanced, Cached] at hadv
        rw [hadv]
      refine ⟨_, .ok ⟨st.file.skip btr, st.room⟩, rfl, ?_, ?_, hsame⟩
      · rw [hptr, fileBytes_rest hbytes (by omega)]
        have hrest : st.file.rest.length = s.objsize - st.file.pos := by
          rw [ByteFile.rest, List.length_drop, hlen]
        have htake : st.file.rest.take (min (s.objsize - st.file.pos) btr) =
            st.file.rest.take btr := by
          rw [← hrest, Nat.min_comm, ← List.take_eq_take_min]
        rw [htake]
        exact .read hread
      · refine ⟨V, T, last, free, l, hv, hp, htptr, ?_, hroom, hout.after hsame fun _ _ ↦ rfl⟩
        rw [htobj]
        exact hbytes
    · have hsame : SameSession s t := by
        rw [Advanced, Cached] at hadv
        rw [hadv]
        exact ⟨rfl, rfl, rfl, rfl⟩
      have hterr : t.err = .diskErr := by
        rw [Advanced, Cached] at hadv
        rw [hadv]
      refine ⟨_, .error .diskErr, rfl, ?_, ?_, hsame⟩
      · rw [hptr, fileBytes_rest hbytes (by omega)]
        exact .readFailed hread hρ (by omega)
      · exact ⟨hterr, FResult.noConfusion, hρ, V, T, last, free, ht, hout.after hsame fun _ _ ↦ rfl⟩

/-- `f_write` of a standing file object is a write to the file, short when nothing more can be
had. -/
theorem fWrite_does (hg : g.VolumeSound) (hs : Stands g ρ others V₀ (.ok st) s)
    (data : WriteData) :
    Triple (fun t ↦ t = s) (FileCall.run g .ok (.write data))
      (Does g ρ others V₀ (.ok st) s .ok (.write data)) := by
  have hs' := hs
  obtain ⟨V, T, last, free, l, hview, hplaced, hptr, hbytes, hroom, hout⟩ := hs'
  have hpos := st.file.pos_le
  have hlen : st.file.bytes.length = s.objsize := by rw [← hbytes, g.length_fileBytes]
  have hsize := hview.size_lt
  cases hwrite : s.canWrite with
  | false =>
    rintro s rfl
    rw [FileCall.run_denied hview.err (.inr ⟨hwrite, .inl ⟨data, rfl⟩⟩)]
    exact ⟨_, _, rfl, .writeDenied hwrite, hs, .refl s⟩
  | true =>
    have hclip : data.bytes.take (0xFFFFFFFF - s.fptr) = clipData st.file.pos data := by
      rw [clipData_spec (by omega), hptr]
    have hcall := fWrite_view hg hview hplaced (by omega) rfl hwrite data
    rw [hclip] at hcall
    refine .bind hcall fun r ↦ .pure ?_
    rintro t ⟨n, hn, ⟨rfl, hwritten⟩ | ⟨res, rfl, hgiven, hsame⟩⟩
    · obtain ⟨⟨V', T', last', free', l', hv, hp, hstored, hfull⟩, htp, hto, hsame⟩ := hwritten
      have htake : ((clipData st.file.pos data).take n).length = n := List.length_take_of_le hn
      refine ⟨_, .ok ⟨st.file.write ((clipData st.file.pos data).take n), (freeClusters g T').card⟩,
        rfl, .write hwrite hn fun h hρ ↦ ?_, ?_, hsame⟩
      · rw [hfull h hρ, Finset.card_empty]
      · refine ⟨V', T', last', free', l', hv, hp, ?_, ?_, rfl, hout.after hsame hstored.outside⟩
        · rw [htp, hptr]
          exact congrArg (st.file.pos + ·) htake.symm
        · rw [hptr] at hstored
          rw [hto, hptr]
          have hfile := hstored.fileBytes hbytes
          rwa [htake] at hfile
    · refine ⟨_, .error res, rfl, .writeFailed hwrite hgiven.unreliable hgiven.ne_ok ?_,
        hgiven.stands hout hsame, hsame⟩
      · have := clipData_spec (p := st.file.pos) (by omega) data
        have hle := List.length_take_le' (0xFFFFFFFF - st.file.pos) data.bytes
        rw [← this] at hle
        omega

/-- `f_lseek` of a standing file object moves the pointer, and makes the file longer behind its
end. -/
theorem fLseek_does (hg : g.VolumeSound) (hs : Stands g ρ others V₀ (.ok st) s) (ofs : UInt32) :
    Triple (fun t ↦ t = s) (FileCall.run g .ok (.lseek ofs))
      (Does g ρ others V₀ (.ok st) s .ok (.lseek ofs)) := by
  obtain ⟨V, T, last, free, l, hview, hplaced, hptr, hbytes, hroom, hout⟩ := hs
  have hpos := st.file.pos_le
  have hlen : st.file.bytes.length = s.objsize := by rw [← hbytes, g.length_fileBytes]
  refine .bind (fLseek_view hg hview hplaced (by omega) rfl ofs) fun r ↦ .pure ?_
  rintro t (⟨rfl, hsought⟩ | ⟨res, rfl, hgiven, hsame⟩)
  · obtain ⟨⟨T', last', free', l', hl, hv, hp, hend⟩, hto, hsame⟩ := hsought
    have hkept := fileBytes_prefix (V := V) hg hl hview.size_le
    have hsplit : g.fileBytes V l' 0 t.objsize =
        st.file.bytes ++ g.fileBytes V l' (0 + s.objsize) (t.objsize - s.objsize) := by
      rw [← hbytes, ← hkept, ← g.fileBytes_add]
      congr 1
      omega
    have hprefix : st.file.bytes <+: g.fileBytes V l' 0 t.objsize := by
      rw [hsplit]
      exact List.prefix_append _ _
    have hlen' : (g.fileBytes V l' 0 t.objsize).length = max st.file.bytes.length t.fptr := by
      rw [g.length_fileBytes, hlen, hto]
    refine ⟨_, .ok ⟨⟨g.fileBytes V l' 0 t.objsize, t.fptr, by omega⟩, (freeClusters g T').card⟩,
      rfl, .lseek ⟨rfl, hprefix, hlen'⟩ ?_,
      ⟨V, T', last', free', l', hv, hp, rfl, rfl, rfl, hout.after hsame fun _ _ ↦ rfl⟩, hsame⟩
    by_cases hreach : t.fptr = seekTarget s ofs.toNat
    · rw [seekTarget] at hreach
      split at hreach
      · rename_i h
        obtain ⟨hlt, hread⟩ := h
        refine .inr (.inl ⟨by simpa using hread, hreach.trans hlen.symm, ?_⟩)
        exact hreach.trans_lt hlt
      · exact .inl hreach
    · obtain ⟨hwrite, -, hlt, hfull⟩ := hend hreach
      rw [seekTarget, if_neg (by simp [hwrite])] at hlt
      exact .inr (.inr ⟨hwrite, hlt, fun hρ ↦ by rw [hfull hρ, Finset.card_empty]⟩)
  · exact ⟨_, .error res, rfl, .moveFailed (.inr ⟨ofs, rfl⟩) hgiven.unreliable hgiven.ne_ok,
      hgiven.stands hout hsame, hsame⟩

/-- `f_truncate` of a standing file object cuts the file at the pointer. -/
theorem fTruncate_does (hg : g.VolumeSound) (hs : Stands g ρ others V₀ (.ok st) s) :
    Triple (fun t ↦ t = s) (FileCall.run g .ok .truncate)
      (Does g ρ others V₀ (.ok st) s .ok .truncate) := by
  have hs' := hs
  obtain ⟨V, T, last, free, l, hview, hplaced, hptr, hbytes, hroom, hout⟩ := hs'
  have hpos := st.file.pos_le
  have hlen : st.file.bytes.length = s.objsize := by rw [← hbytes, g.length_fileBytes]
  cases hwrite : s.canWrite with
  | false =>
    rintro s rfl
    rw [FileCall.run_denied hview.err (.inr ⟨hwrite, .inr rfl⟩)]
    exact ⟨_, _, rfl, .truncateDenied hwrite, hs, .refl s⟩
  | true =>
    refine .bind (fTruncate_view hg hview hplaced (by omega) rfl hwrite) fun r ↦ .pure ?_
    rintro t (⟨rfl, hcut⟩ | ⟨res, rfl, hgiven, hsame⟩)
    · obtain ⟨⟨T', last', free', l', hl, hv, hp⟩, htp, hto, hsame⟩ := hcut
      refine ⟨_, .ok ⟨st.file.truncate, (freeClusters g T').card⟩, rfl, .truncate hwrite,
        ⟨V, T', last', free', l', hv, hp, htp.trans hptr, ?_, rfl, hout.after hsame fun _ _ ↦ rfl⟩,
        hsame⟩
      -- The bytes before the file pointer.
      have hfit := hv.size_le
      rw [← fileBytes_prefix hg hl hfit, hto, hptr]
      refine List.ext_getElem? fun o ↦ ?_
      rw [getElem?_fileBytes, ByteFile.truncate, List.getElem?_take, ← hbytes, getElem?_fileBytes]
      split
      · rw [if_pos (by omega)]
      · rfl
    · exact ⟨_, .error res, rfl, .moveFailed (.inl ⟨rfl, hwrite⟩) hgiven.unreliable hgiven.ne_ok,
        hgiven.stands hout hsame, hsame⟩

/-- `f_sync` does not look at the error. -/
theorem fSync_does (hg : g.VolumeSound) {st : Except FResult FileState}
    (hs : Stands g ρ others V₀ st s) (hp : EntryPlaced g others s) (time : ℕ) :
    Triple (fun t ↦ t = s) (FileCall.run g .ok (.sync time))
      (Does g ρ others V₀ st s .ok (.sync time)) := by
  cases hmod : s.modified with
  | false =>
    rintro s rfl
    have hrun : FileCall.run g .ok (.sync time) s = (some (.of .ok), s) := by
      simp [FileCall.run, fSync, run_bind, run_get, run_pure, hmod]
    rw [hrun]
    cases st with
    | ok st => exact ⟨_, _, rfl, .sync fun h ↦ absurd rfl h, hs, .refl s⟩
    | error err => exact ⟨_, _, rfl, .stuckSync, hs, .refl s⟩
  | true =>
    have hsync : ∀ {V T last free}, FileShows g ρ others V T last free s →
        Triple (fun t ↦ t = s) (FileCall.run g .ok (.sync time)) fun r t ↦ ∃ res,
          r = some (.of res) ∧ SyncEnds g ρ others V T last free s res t := fun hshows ↦
      .bind (fSync_shows hg hshows hp rfl hmod time) fun res ↦ .pure fun t ht ↦ ⟨res, rfl, ht⟩
    cases st with
    | ok st =>
      obtain ⟨V, T, last, free, l, hview, hplaced, hptr, hbytes, hroom, hout⟩ := hs
      refine (hsync hview.toFileShows).weaken (fun _ h ↦ h) ?_
      rintro r t ⟨res, rfl, ⟨V', ht, hkept, hend⟩, hsame⟩
      have hsame' : SameSession s t := by rw [hsame]; exact ⟨rfl, rfl, rfl, rfl⟩
      have hV : ∀ a, g.SpareSector others (a / 512) → V' a = V a := fun a ha ↦ hp.kept hkept ha
      refine ⟨_, .ok st, rfl, .sync fun hres ↦ ?_,
        ⟨V', T, last, free, l, ⟨ht, ?_, fun h0 i hi ↦ ?_⟩, ?_, ?_, ?_, hroom, ?_⟩, hsame'⟩
      · exact (hend.resolve_left fun h ↦ hres h.1).2
      · rw [hsame]
        exact ⟨hview.chain, hview.sclust, hview.size_le, hview.size_lt, hview.err⟩
      · rw [hV _ (by rw [mul_add_div_of_lt _ hi]; exact ht.spare h0)]
        rw [hsame] at h0 ⊢
        exact hview.buf h0 i hi
      · rw [hsame]
        exact ⟨hplaced.clust, hplaced.sect⟩
      · rw [hsame]
        exact hptr
      · have hobj : t.objsize = s.objsize := by rw [hsame]
        rw [hobj, hview.chain.fileBytes_congr hg hV hview.size_le, hbytes]
      · intro a ha hentry
        rw [hsame'.entryAddr] at hentry
        exact (hkept a hentry).trans (hout a ha hentry)
    | error err =>
      obtain ⟨herr, hne, hρ, V, T, last, free, hshows, hout⟩ := hs
      refine (hsync hshows).weaken (fun _ h ↦ h) ?_
      rintro r t ⟨res, rfl, ⟨V', ht, hkept, -⟩, hsame⟩
      have hsame' : SameSession s t := by rw [hsame]; exact ⟨rfl, rfl, rfl, rfl⟩
      refine ⟨_, .error err, rfl, .stuckSync, ⟨?_, hne, hρ, V', T, last, free, ht, ?_⟩, hsame'⟩
      · rw [hsame]
        exact herr
      · intro a ha hentry
        rw [hsame'.entryAddr] at hentry
        exact (hkept a hentry).trans (hout a ha hentry)

/-- What the sticky error refuses. -/
theorem FileCall.run_error {err : FResult} (hs : Stands g ρ others V₀ (.error err) s)
    {call : FileCall} (hcall : call.checksErr = true) :
    Triple (fun t ↦ t = s) (call.run g .ok) (Does g ρ others V₀ (.error err) s .ok call) := by
  rintro s rfl
  have hs' := hs
  obtain ⟨rfl, hne, -⟩ := hs'
  rw [FileCall.run_stuck hne hcall]
  exact ⟨_, _, rfl, .stuck hcall, hs, .refl s⟩

end Calls

/-- **One call.** -/
theorem FileCall.run_does (hg : g.VolumeSound) {st : Except FResult FileState}
    (hs : Stands g ρ others V₀ st s) (hp : EntryPlaced g others s) (check : FResult)
    (call : FileCall) :
    Triple (fun t ↦ t = s) (call.run g check) (Does g ρ others V₀ st s check call) := by
  by_cases hcheck : check = .ok
  · subst hcheck
    cases call with
    | sync time => exact fSync_does hg hs hp time
    | read btr =>
      cases st with
      | ok st => exact fRead_does hg hs btr
      | error err => exact FileCall.run_error hs rfl
    | write data =>
      cases st with
      | ok st => exact fWrite_does hg hs data
      | error err => exact FileCall.run_error hs rfl
    | lseek ofs =>
      cases st with
      | ok st => exact fLseek_does hg hs ofs
      | error err => exact FileCall.run_error hs rfl
    | truncate =>
      cases st with
      | ok st => exact fTruncate_does hg hs
      | error err => exact FileCall.run_error hs rfl
  · rintro s rfl
    rw [FileCall.run_invalid hcheck]
    exact ⟨_, _, rfl, .invalid hcheck, hs, .refl s⟩

/-- The entry stays where it was during the session. -/
theorem EntryPlaced.same (h : EntryPlaced g others s) (hsame : SameSession s t) :
    EntryPlaced g others t := by
  constructor
  · exact hsame.dirSect ▸ h.tracked
  · exact hsame.dirSect ▸ h.notFat
  · exact hsame.dirSect ▸ h.notSpare
  · exact hsame.dirPtr ▸ h.fits

/-- **A session with a file.** Whatever calls are made, whatever `validate` says and however the
disk fails, the calls return what they would on a list of bytes, until an error of the disk is
reported, and from then on they report it; every call returns; and nothing is changed but sectors
that belong to no other chain, and the directory entry of the file. -/
theorem runFileCalls_refines (hg : g.VolumeSound) (calls : List (FResult × FileCall))
    {st : Except FResult FileState} (hs : Stands g ρ others V₀ st s)
    (hp : EntryPlaced g others s) :
    Triple (fun t ↦ t = s) (runFileCalls g calls) fun rs t ↦ ∃ rets st', rs = rets.map some ∧
      FileRun ρ s.canRead s.canWrite st calls rets st' ∧ Stands g ρ others V₀ st' t ∧
      SameSession s t := by
  induction calls generalizing st s with
  | nil =>
    refine .pure ?_
    rintro s rfl
    exact ⟨[], st, rfl, .nil, hs, .refl s⟩
  | cons call calls ih =>
    obtain ⟨check, call⟩ := call
    refine .bind (FileCall.run_does hg hs hp check call) fun r ↦ ?_
    rintro t ⟨ret, st', rfl, hstep, ht, hsame⟩
    obtain ⟨rets, st'', hrs, hrun, hu, hsame'⟩ := ih ht (hp.same hsame) t rfl
    rw [hsame.canRead, hsame.canWrite] at hrun
    refine ⟨ret :: rets, st'', ?_, .cons hstep hrun, hu, hsame.trans hsame'⟩
    exact congrArg (some ret :: ·) hrs

end Stands

/-! ### A new file -/

/-- The volume of 128 sectors is sound. -/
theorem smallVolume_volumeSound : smallVolume.VolumeSound where
  toChainSound := smallVolume_chainSound
  oneOrTwo := .inr rfl
  csize_pow := ⟨0, rfl⟩
  fats_le := Nat.le_succ 3
  data_le := by rw [noSector]; exact Nat.le_of_ble_eq_true rfl

/-- A file just created on an empty disk, with the first entry of the root directory. -/
def FatFile.onEmptyDisk : FatFile where
  fs := .onEmptyDisk
  sclust := 0
  objsize := 0
  canRead := true
  canWrite := true
  modified := true
  dirty := false
  err := .ok
  fptr := 0
  clust := 0
  sect := 0
  dirSect := 3
  dirPtr := 0
  buf := fun _ ↦ 0

/-- What it stands for. -/
def FileState.empty : FileState :=
  ⟨⟨[], 0, Nat.le_refl 0⟩, (freeClusters smallVolume (fatEntry smallVolume fun _ ↦ 0)).card⟩

/-- A file object just opened on the empty volume stands for the empty file. -/
theorem FatFile.onEmptyDisk_stands :
    Stands smallVolume True [] (fun _ ↦ 0) (.ok .empty) FatFile.onEmptyDisk := by
  have hvolume := smallVolume_volumeSound
  have hwindow : ¬ smallVolume.SpareSector [] noSector := fun h ↦
    absurd (h.lt hvolume) (Nat.lt_irrefl _)
  have hdata : DataShows smallVolume True [] (fun _ ↦ 0) (fatEntry smallVolume fun _ ↦ 0) 0
      0xFFFFFFFF .onEmptyDisk :=
    ⟨⟨_, FatFs.onEmptyDisk_shows, fun _ _ ↦ rfl⟩, hwindow⟩
  have hchain : FileChain smallVolume True [] (fatEntry smallVolume fun _ ↦ 0) 0xFFFFFFFF [] := by
    refine ⟨⟨fun l hl ↦ ?_, fun l hl c hc ↦ ?_, ?_⟩, fun _ hle ↦ absurd hle (by decide),
      fun _ c _ ↦ ?_⟩
    · rw [List.mem_singleton.1 hl]
      exact ⟨126, 126, rfl, Nat.le_refl 126⟩
    · rw [List.mem_singleton.1 hl] at hc
      exact absurd hc List.not_mem_nil
    · exact List.nodup_nil
    · simp [fatEntry_zero]
  refine ⟨_, _, 0, 0xFFFFFFFF, [], ⟨⟨⟨_, hdata, (FatFile.viewOf_clean rfl _).symm⟩, .nil, .inl rfl,
    fun h ↦ Bool.noConfusion h⟩, ⟨hchain, rfl, Nat.le_refl 0, by decide, rfl⟩, fun h ↦ absurd rfl h⟩,
    ⟨fun h ↦ absurd h (by decide), fun h ↦ absurd rfl h⟩, rfl, rfl, rfl, fun _ _ _ ↦ rfl⟩

/-- Its entry is in a sector that is neither of the FATs nor of the file. -/
theorem FatFile.onEmptyDisk_placed : EntryPlaced smallVolume [] FatFile.onEmptyDisk where
  tracked := ⟨by decide, fun h ↦ absurd h.2.2 (by decide), fun h ↦ FatType.noConfusion h.1⟩
  notFat h := absurd h.2 (by decide)
  notSpare := by
    rintro ⟨c, hc, -, hle, -⟩
    have h := (clst2sect_bounds smallVolume_volumeSound hc).1
    exact absurd (h.trans hle) (by decide)
  fits := by decide

/-- A file is written, read back from the middle and cut off. -/
theorem runFileCalls_refines_small :
    ∃ rets st', (runFileCalls smallVolume
        [(.ok, .write ⟨[1, 2, 3, 4], by decide⟩), (.ok, .lseek 2), (.ok, .read 10), (.ok, .truncate),
          (.ok, .sync 0)] .onEmptyDisk).1 = rets.map some ∧
      FileRun True true true (.ok .empty)
        [(.ok, .write ⟨[1, 2, 3, 4], by decide⟩), (.ok, .lseek 2), (.ok, .read 10), (.ok, .truncate),
          (.ok, .sync 0)] rets st' ∧
      Stands smallVolume True [] (fun _ ↦ 0) st' (runFileCalls smallVolume
        [(.ok, .write ⟨[1, 2, 3, 4], by decide⟩), (.ok, .lseek 2), (.ok, .read 10), (.ok, .truncate),
          (.ok, .sync 0)] .onEmptyDisk).2 ∧
      SameSession .onEmptyDisk (runFileCalls smallVolume
        [(.ok, .write ⟨[1, 2, 3, 4], by decide⟩), (.ok, .lseek 2), (.ok, .read 10), (.ok, .truncate),
          (.ok, .sync 0)] .onEmptyDisk).2 :=
  runFileCalls_refines smallVolume_volumeSound _ FatFile.onEmptyDisk_stands
    FatFile.onEmptyDisk_placed .onEmptyDisk rfl
