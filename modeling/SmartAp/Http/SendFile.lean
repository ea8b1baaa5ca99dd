import SmartAp.Http.Chunked

/-!
# The file transfer

`main_handler` from the open file on, with `httpd_resp_send_chunk` and `httpd_send_all` below it:
three nested loops, each of which can be cut short at any call.

## The environment

`TransferEnv` answers every call that can go several ways. A call of `send_fn` fails or takes a
positive part of what it is offered (`Fin len`, one less than the count). A call of `fread` delivers
some of what is left, with or without an error, or fails; it delivers nothing only at the end of the
file or with an error. The bits of the event group may tell the transfer to stop at any round.

## What goes out

Every function adds to `Connection.sent` a prefix of what it was given, and all of it when it
succeeds (`httpdSendAll_spec`, `sendPieces_spec`, `httpdRespSendChunk_spec`). The loop therefore
leaves a prefix of the head and of an encoded body, and closes the body only at the end of the file
(`sendFile_spec`). `transfer_decodes` reads this with the decoder of `SmartAp.Http.Chunked`.
-/

/-- The bytes of a text. -/
def asciiBytes (s : String) : List UInt8 := s.toList.map fun c ↦ c.toNat.toUInt8

/-- What a call of `fread` does. -/
inductive ReadResult
  /-- At most `n + 1` bytes are delivered, fewer at the end of the file; `err` sets the error
  indicator. -/
  | read (n : ℕ) (err : Bool)
  /-- Nothing is delivered and the error indicator is set. -/
  | failed

/-- The environment of a transfer. Calls are numbered. -/
structure TransferEnv where
  /-- `send_fn`, offered `len` bytes. -/
  send : ℕ → (len : ℕ) → Option (Fin len)
  /-- The allocation of the header buffer succeeds. -/
  malloc : Bool
  read : ℕ → ReadResult
  /-- `EVT_SHUTDOWN_BIT` is set or `EVT_SERVERS_RUNNING_BIT` is clear in the given round. -/
  stopping : ℕ → Bool

/-- The head of a chunked response, as the setters left it. -/
structure ResponseHead where
  status : List UInt8
  contentType : List UInt8
  headers : List (List UInt8 × List UInt8)
  maxReqHdrLen : ℕ

/-- `httpd_chunked_hdr_str`, formatted. -/
def ResponseHead.firstLines (head : ResponseHead) : List UInt8 :=
  asciiBytes "HTTP/1.1 " ++ head.status ++ asciiBytes "\r\nContent-Type: " ++ head.contentType ++
    asciiBytes "\r\nTransfer-Encoding: chunked\r\n"

/-- The head, piece by piece as it is sent. -/
def ResponseHead.pieces (head : ResponseHead) : List (List UInt8) :=
  head.firstLines ::
    (head.headers.flatMap fun (field, value) ↦ [field, asciiBytes ": ", value, crlf]) ++ [crlf]

/-- The whole head. -/
def ResponseHead.bytes (head : ResponseHead) : List UInt8 := head.pieces.flatten

/-- The side of the connection the transfer writes. -/
structure Connection where
  sent : List UInt8 := []
  /-- Calls of `send_fn` so far. -/
  sendCalls : ℕ := 0
  /-- `first_chunk_sent`. -/
  firstChunkSent : Bool := false

/-! ### Sending -/

/-- `httpd_send_all`: send until nothing is left or a call fails. -/
def httpdSendAll (send : ℕ → (len : ℕ) → Option (Fin len)) (c : Connection) (buf : List UInt8) :
    Connection × Bool :=
  if _h : buf = [] then (c, true)
  else
    match send c.sendCalls buf.length with
    | none => ({ c with sendCalls := c.sendCalls + 1 }, false)
    | some ret =>
      httpdSendAll send
        { c with sent := c.sent ++ buf.take (ret + 1), sendCalls := c.sendCalls + 1 }
        (buf.drop (ret + 1))
  termination_by buf.length
  decreasing_by
    have := List.length_pos_iff.2 _h
    rw [List.length_drop]
    omega

/-- Successive calls of `httpd_send_all`, up to the first that fails. -/
def sendPieces (send : ℕ → (len : ℕ) → Option (Fin len)) (c : Connection) :
    List (List UInt8) → Connection × Bool
  | [] => (c, true)
  | piece :: pieces =>
    match httpdSendAll send c piece with
    | (c, false) => (c, false)
    | (c, true) => sendPieces send c pieces

/-- The head of the response, unless it has been sent. -/
def sendHead (env : TransferEnv) (head : ResponseHead) (c : Connection) : Connection × Bool :=
  if c.firstChunkSent then (c, true)
  else if head.firstLines.length + 1 > head.maxReqHdrLen then (c, false)
  else if !env.malloc then (c, false)
  else
    match sendPieces env.send c head.pieces with
    | (c, false) => (c, false)
    | (c, true) => ({ c with firstChunkSent := true }, true)

/-- `len_str`: ten characters, the last one the terminator. -/
def lenStr (n : ℕ) : List UInt8 := (sizeLine n).take 9

/-- `httpd_resp_send_chunk`; the chunk is `none` for `NULL` and length 0. -/
def httpdRespSendChunk (env : TransferEnv) (head : ResponseHead) (c : Connection)
    (chunk : Option (List UInt8)) : Connection × Bool :=
  match sendHead env head c with
  | (c, false) => (c, false)
  | (c, true) =>
    match chunk with
    | some data => sendPieces env.send c [lenStr data.length, data, crlf]
    | none => sendPieces env.send c [lenStr 0, crlf]

/-! ### Reading and the loop -/

/-- The open file: what is left to read, the error indicator, the calls of `fread` so far. -/
structure OpenFile where
  rest : List UInt8
  ferror : Bool := false
  reads : ℕ := 0

/-- `fread(chunk, 1, size, fd)`: the bytes delivered, and the file afterwards. -/
def fread (env : TransferEnv) (size : ℕ) (fd : OpenFile) : List UInt8 × OpenFile :=
  match env.read fd.reads with
  | .read n err =>
    (fd.rest.take (min (n + 1) size),
      { rest := fd.rest.drop (min (n + 1) size), ferror := fd.ferror || err, reads := fd.reads + 1 })
  | .failed => ([], { fd with ferror := true, reads := fd.reads + 1 })

theorem fread_append (env : TransferEnv) (size : ℕ) (fd : OpenFile) :
    (fread env size fd).1 ++ (fread env size fd).2.rest = fd.rest := by
  rw [fread]
  split
  · exact List.take_append_drop _ _
  · rfl

/-- What the transfer leaves behind. -/
structure Transfer where
  conn : Connection
  fd : OpenFile
  /-- `ret == ESP_OK`. -/
  ok : Bool

/-- The loop of `main_handler`. -/
def sendFileLoop (env : TransferEnv) (head : ResponseHead) (size : ℕ) (fd : OpenFile)
    (c : Connection) : Transfer :=
  if _h : (fread env size fd).1 = [] then ⟨c, (fread env size fd).2, true⟩
  else if env.stopping fd.reads then ⟨c, (fread env size fd).2, false⟩
  else
    match httpdRespSendChunk env head c (some (fread env size fd).1) with
    | (c, false) => ⟨c, (fread env size fd).2, false⟩
    | (c, true) => sendFileLoop env head size (fread env size fd).2 c
  termination_by fd.rest.length
  decreasing_by
    have hlen := congrArg List.length (fread_append env size fd)
    have hpos := List.length_pos_iff.2 _h
    rw [List.length_append] at hlen
    omega

/-- **The transfer of an open file**: the loop, the test of the error indicator, and the terminating
chunk when everything went well. `size` is `CONFIG_SMART_AP_HTTPD_SCRATCH_BUFSIZE`. -/
def sendFile (env : TransferEnv) (head : ResponseHead) (size : ℕ) (file : List UInt8) : Transfer :=
  let t := sendFileLoop env head size { rest := file } {}
  if t.ok && !t.fd.ferror then { t with conn := (httpdRespSendChunk env head t.conn none).1 } else t

/-- The bytes sent after the head. -/
def Connection.body (c : Connection) (head : ResponseHead) : List UInt8 :=
  c.sent.drop head.bytes.length

/-! ### What each function adds to the wire -/

section Spec

variable {env : TransferEnv} {head : ResponseHead}

/-- What a send has added to the wire: a prefix of the bytes it was given, and all of them when it
succeeds. -/
structure Sends (c c' : Connection) (bytes : List UInt8) (ok : Bool) : Prop where
  added : ∃ p, p <+: bytes ∧ c'.sent = c.sent ++ p ∧ (ok = true → p = bytes)
  first : c'.firstChunkSent = c.firstChunkSent

theorem httpdSendAll_spec (send : ℕ → (len : ℕ) → Option (Fin len)) (c : Connection)
    (buf : List UInt8) :
    Sends c (httpdSendAll send c buf).1 buf (httpdSendAll send c buf).2 := by
  induction c, buf using httpdSendAll.induct send with
  | case1 c =>
    rw [httpdSendAll, dif_pos rfl]
    exact ⟨⟨[], List.nil_prefix, (List.append_nil _).symm, fun _ ↦ rfl⟩, rfl⟩
  | case2 c buf hne hfail =>
    have hrun : httpdSendAll send c buf = ({ c with sendCalls := c.sendCalls + 1 }, false) := by
      rw [httpdSendAll, dif_neg hne, hfail]
    rw [hrun]
    exact ⟨⟨[], List.nil_prefix, (List.append_nil _).symm, nofun⟩, rfl⟩
  | case3 c buf hne ret hret ih =>
    have hrun : httpdSendAll send c buf = httpdSendAll send
        { c with sent := c.sent ++ buf.take (ret + 1), sendCalls := c.sendCalls + 1 }
        (buf.drop (ret + 1)) := by
      rw [httpdSendAll, dif_neg hne, hret]
    rw [hrun]
    obtain ⟨⟨p, hp, hsent, hall⟩, hfirst⟩ := ih
    refine ⟨⟨buf.take (ret + 1) ++ p, ?_, ?_, fun hok ↦ ?_⟩, hfirst⟩
    · obtain ⟨q, hq⟩ := hp
      exact ⟨q, by rw [List.append_assoc, hq, List.take_append_drop]⟩
    · rw [hsent, List.append_assoc]
    · rw [hall hok, List.take_append_drop]

theorem sendPieces_spec (send : ℕ → (len : ℕ) → Option (Fin len)) (c : Connection)
    (pieces : List (List UInt8)) :
    Sends c (sendPieces send c pieces).1 pieces.flatten (sendPieces send c pieces).2 := by
  induction pieces generalizing c with
  | nil => exact ⟨⟨[], List.prefix_refl _, (List.append_nil _).symm, fun _ ↦ rfl⟩, rfl⟩
  | cons piece pieces ih =>
    obtain ⟨⟨p, hp, hsent, hall⟩, hfirst⟩ := httpdSendAll_spec send c piece
    rw [sendPieces, List.flatten_cons]
    rcases hrun : httpdSendAll send c piece with ⟨c', ok⟩
    rw [hrun] at hsent hall hfirst
    cases ok with
    | false => exact ⟨⟨p, hp.trans (List.prefix_append _ _), hsent, nofun⟩, hfirst⟩
    | true =>
      obtain ⟨⟨q, hq, hsent', hall'⟩, hfirst'⟩ := ih c'
      refine ⟨⟨piece ++ q, (List.prefix_append_right_inj piece).2 hq, ?_, fun hok ↦ ?_⟩,
        hfirst'.trans hfirst⟩
      · rw [hsent', hsent, hall rfl, List.append_assoc]
      · rw [hall' hok]

/-- Either nothing has been sent, or exactly the head and the given bytes of the body. -/
def Connection.AtBody (c : Connection) (head : ResponseHead) (body : List UInt8) : Prop :=
  (c.firstChunkSent = true ∧ c.sent = head.bytes ++ body) ∨
    (c.firstChunkSent = false ∧ c.sent = [] ∧ body = [])

theorem Connection.AtBody.sent_isPrefix {c : Connection} {body : List UInt8}
    (h : c.AtBody head body) :
    c.sent <+: head.bytes ++ body := by
  rcases h with ⟨-, hsent⟩ | ⟨-, hsent, -⟩
  · exact hsent ▸ List.prefix_refl _
  · exact hsent ▸ List.nil_prefix

variable (env) in
theorem sendHead_spec {c : Connection} {body : List UInt8} (h : c.AtBody head body) :
    (sendHead env head c).1.sent <+: head.bytes ++ body ∧
      ((sendHead env head c).2 = true →
        (sendHead env head c).1.firstChunkSent = true ∧
          (sendHead env head c).1.sent = head.bytes ++ body) := by
  rw [sendHead]
  rcases h with ⟨hfirst, hsent⟩ | ⟨hfirst, hsent, rfl⟩
  · rw [if_pos hfirst]
    exact ⟨hsent ▸ List.prefix_refl _, fun _ ↦ ⟨hfirst, hsent⟩⟩
  · have hnil : c.sent <+: head.bytes ++ [] := hsent ▸ List.nil_prefix
    rw [if_neg (by simp [hfirst])]
    split
    · exact ⟨hnil, nofun⟩
    split
    · exact ⟨hnil, nofun⟩
    obtain ⟨⟨p, hp, hsent', hall⟩, -⟩ := sendPieces_spec env.send c head.pieces
    rw [hsent, List.nil_append] at hsent'
    rw [List.append_nil]
    rcases hrun : sendPieces env.send c head.pieces with ⟨c', ok⟩
    rw [hrun] at hsent' hall
    cases ok with
    | false => exact ⟨hsent' ▸ hp, nofun⟩
    | true =>
      have hbytes : c'.sent = head.bytes := hsent'.trans (hall rfl)
      exact ⟨hbytes ▸ List.prefix_refl _, fun _ ↦ ⟨rfl, hbytes⟩⟩

/-- The size of a chunk from the scratch buffer fits `len_str`. -/
theorem lenStr_eq {n : ℕ} (hn : n < 16 ^ 4) : lenStr n = sizeLine n := by
  refine List.take_of_length_le ?_
  have hdigits := length_hexDigits_le hn
  have hcrlf : crlf.length = 2 := rfl
  rw [sizeLine, List.length_append]
  omega

variable (env)

/-- The three calls behind the head send the encoded chunk; a `NULL` chunk is the empty one. -/
theorem sendChunk_spec (c : Connection) {chunk : Option (List UInt8)}
    (hlen : (chunk.getD []).length < 16 ^ 4) :
    let sent := match chunk with
      | some data => sendPieces env.send c [lenStr data.length, data, crlf]
      | none => sendPieces env.send c [lenStr 0, crlf]
    Sends c sent.1 (encodeChunk (chunk.getD [])) sent.2 := by
  cases chunk with
  | none =>
    have hspec := sendPieces_spec env.send c [lenStr 0, crlf]
    have hbytes : [lenStr 0, crlf].flatten = encodeChunk [] := by
      rw [lenStr_eq (by omega)]
      simp [encodeChunk]
    rwa [hbytes] at hspec
  | some data =>
    have hspec := sendPieces_spec env.send c [lenStr data.length, data, crlf]
    have hdata : data.length < 16 ^ 4 := hlen
    have hbytes : [lenStr data.length, data, crlf].flatten = encodeChunk data := by
      rw [lenStr_eq hdata]
      simp [encodeChunk]
    rwa [hbytes] at hspec

/-- **`httpd_resp_send_chunk`** adds a prefix of the encoded chunk, and all of it when it
succeeds. -/
theorem httpdRespSendChunk_spec {c : Connection} {body : List UInt8} (chunk : Option (List UInt8))
    (h : c.AtBody head body) (hlen : (chunk.getD []).length < 16 ^ 4) :
    (httpdRespSendChunk env head c chunk).1.sent <+:
        head.bytes ++ (body ++ encodeChunk (chunk.getD [])) ∧
      ((httpdRespSendChunk env head c chunk).2 = true →
        (httpdRespSendChunk env head c chunk).1.AtBody head
          (body ++ encodeChunk (chunk.getD []))) := by
  obtain ⟨hpre, hhead⟩ := sendHead_spec env h
  rw [httpdRespSendChunk, ← List.append_assoc]
  rcases hrun : sendHead env head c with ⟨c', ok⟩
  rw [hrun] at hpre hhead
  cases ok with
  | false => exact ⟨hpre.trans (List.prefix_append _ _), nofun⟩
  | true =>
    obtain ⟨hfirst, hsent⟩ := hhead rfl
    obtain ⟨⟨p, hp, hsent', hall⟩, hfirst'⟩ := sendChunk_spec env c' hlen
    dsimp only at hfirst hsent hsent' hall hfirst' ⊢
    constructor
    · rw [hsent', hsent]
      exact (List.prefix_append_right_inj _).2 hp
    · intro hok
      refine .inl ⟨hfirst'.trans hfirst, ?_⟩
      rw [hsent', hsent, hall hok, List.append_assoc]

/-- The encoded chunks of a list. -/
def encodeChunks (chunks : List (List UInt8)) : List UInt8 := (chunks.map encodeChunk).flatten

theorem encodeChunks_append (chunks : List (List UInt8)) (chunk : List UInt8) :
    encodeChunks (chunks ++ [chunk]) = encodeChunks chunks ++ encodeChunk chunk := by
  simp [encodeChunks]

variable {env} in
/-- `fread` delivers nothing only at the end of the file or with the error indicator set. -/
theorem fread_eq_nil {size : ℕ} (hsize : 0 < size) {fd : OpenFile}
    (h : (fread env size fd).1 = []) :
    (fread env size fd).2.rest = [] ∨ (fread env size fd).2.ferror = true := by
  rw [fread] at h ⊢
  split at h
  · have hnil : fd.rest = [] := by
      have hlen := congrArg List.length h
      rw [List.length_take, List.length_nil] at hlen
      exact List.eq_nil_of_length_eq_zero (by omega)
    exact .inl (by simp [hnil])
  · exact .inr rfl

variable {env} in
theorem length_fread_le (size : ℕ) (fd : OpenFile) : (fread env size fd).1.length ≤ size := by
  rw [fread]
  split
  · rw [List.length_take]
    omega
  · exact Nat.zero_le size

/-- How the loop ends: the chunks sent so far make up a prefix of the file, what is on the wire is a
prefix of their encoding, and if no call failed it is all of it and everything was read, unless an
error was met. -/
structure LoopEnds (head : ResponseHead) (file : List UInt8) (t : Transfer)
    (chunks : List (List UInt8)) : Prop where
  nonempty : ∀ chunk ∈ chunks, chunk ≠ []
  file_prefix : chunks.flatten <+: file
  sent_prefix : t.conn.sent <+: head.bytes ++ encodeChunks chunks
  complete : t.ok = true → t.conn.AtBody head (encodeChunks chunks) ∧
    (t.fd.ferror = false → chunks.flatten = file)

/-- **The loop**, started with some chunks sent and the rest of the file to read. -/
theorem sendFileLoop_spec {size : ℕ} (hsize : 0 < size ∧ size < 16 ^ 4) {file : List UInt8}
    (fd : OpenFile) (c : Connection) {chunks : List (List UInt8)}
    (hne : ∀ chunk ∈ chunks, chunk ≠ []) (hfile : chunks.flatten ++ fd.rest = file)
    (hc : c.AtBody head (encodeChunks chunks)) :
    ∃ chunks', LoopEnds head file (sendFileLoop env head size fd c) chunks' := by
  have hpre : chunks.flatten <+: file := ⟨fd.rest, hfile⟩
  induction fd, c using sendFileLoop.induct env head size generalizing chunks with
  | case1 fd c hnil =>
    rw [sendFileLoop, dif_pos hnil]
    refine ⟨chunks, hne, hpre, hc.sent_isPrefix, fun _ ↦ ⟨hc, fun herr ↦ ?_⟩⟩
    have happend := fread_append env size fd
    rcases fread_eq_nil hsize.1 hnil with hrest | hset
    · rw [hnil, hrest] at happend
      rw [← hfile, ← happend, List.append_nil, List.append_nil]
    · rw [hset] at herr
      cases herr
  | case2 fd c hchunk hstop =>
    rw [sendFileLoop, dif_neg hchunk, if_pos hstop]
    exact ⟨chunks, hne, hpre, hc.sent_isPrefix, nofun⟩
  | case3 fd c hchunk hstop c' hsend =>
    have hlen : (fread env size fd).1.length < 16 ^ 4 :=
      Nat.lt_of_le_of_lt (length_fread_le size fd) hsize.2
    obtain ⟨hwire, -⟩ := httpdRespSendChunk_spec env (some _) hc hlen
    rw [hsend, Option.getD_some, ← encodeChunks_append] at hwire
    rw [sendFileLoop, dif_neg hchunk, if_neg hstop, hsend]
    refine ⟨chunks ++ [(fread env size fd).1], ?_, ⟨(fread env size fd).2.rest, ?_⟩, hwire, nofun⟩
    · exact List.forall_mem_append.2 ⟨hne, List.forall_mem_singleton.2 hchunk⟩
    · rw [List.flatten_append, List.flatten_singleton, List.append_assoc, fread_append, hfile]
  | case4 fd c hchunk hstop c' hsend ih =>
    have hlen : (fread env size fd).1.length < 16 ^ 4 :=
      Nat.lt_of_le_of_lt (length_fread_le size fd) hsize.2
    obtain ⟨-, hat⟩ := httpdRespSendChunk_spec env (some _) hc hlen
    rw [hsend, Option.getD_some, ← encodeChunks_append] at hat
    have hfile' :
        (chunks ++ [(fread env size fd).1]).flatten ++ (fread env size fd).2.rest = file := by
      rw [List.flatten_append, List.flatten_singleton, List.append_assoc, fread_append, hfile]
    rw [sendFileLoop, dif_neg hchunk, if_neg hstop, hsend]
    exact ih (List.forall_mem_append.2 ⟨hne, List.forall_mem_singleton.2 hchunk⟩) hfile' (hat rfl)
      ⟨_, hfile'⟩

/-- **What a transfer leaves on the wire**: a prefix of the head and an encoded body whose chunks
make up a prefix of the file; the body is closed only when they make up the file and no read
failed. -/
theorem sendFile_spec (head : ResponseHead) {size : ℕ}
    (hsize : 0 < size ∧ size < 16 ^ 4) (file : List UInt8) :
    ∃ chunks closed, (∀ chunk ∈ chunks, chunk ≠ []) ∧ chunks.flatten <+: file ∧
      (closed = true → chunks.flatten = file ∧ (sendFile env head size file).fd.ferror = false) ∧
      (sendFile env head size file).conn.sent <+: head.bytes ++ encodeBody chunks closed := by
  have hnone : ∀ chunk ∈ ([] : List (List UInt8)), chunk ≠ [] := by simp
  obtain ⟨chunks, hloop⟩ := sendFileLoop_spec env hsize { rest := file } {} hnone rfl
    (.inr ⟨rfl, rfl, rfl⟩)
  rw [sendFile]
  split
  · rename_i hgood
    rw [Bool.and_eq_true, Bool.not_eq_true'] at hgood
    obtain ⟨hat, hwhole⟩ := hloop.complete hgood.1
    obtain ⟨hwire, -⟩ := httpdRespSendChunk_spec env none hat (by simp)
    exact ⟨chunks, true, hloop.nonempty, hloop.file_prefix, fun _ ↦ ⟨hwhole hgood.2, hgood.2⟩,
      hwire⟩
  · refine ⟨chunks, false, hloop.nonempty, hloop.file_prefix, nofun, ?_⟩
    rw [encodeBody, if_neg (by simp), List.append_nil]
    exact hloop.sent_prefix

/-- **A truncated download is never presented as complete.** For every file, every way `fread`
splits it or fails, every moment the servers stop and every pattern of partial or failing sends: on
every prefix of the bytes sent after the head, the chunked decoder has met no error and has decoded
a prefix of the file, and it has read a zero-length chunk only if that prefix is the whole file and
no read failed. -/
theorem transfer_decodes (head : ResponseHead) {size : ℕ}
    (hsize : 256 ≤ size ∧ size ≤ 4096) (file : List UInt8) {bytes : List UInt8}
    (hbytes : bytes <+: (sendFile env head size file).conn.body head) :
    (decodeChunked bytes).phase ≠ .bad ∧ (decodeChunked bytes).data <+: file ∧
      ((decodeChunked bytes).zeroChunk = true →
        (decodeChunked bytes).data = file ∧ (sendFile env head size file).fd.ferror = false) := by
  have hscratch : 0 < size ∧ size < 16 ^ 4 := by omega
  obtain ⟨chunks, closed, hne, hfile, hclosed, hsent⟩ := sendFile_spec env head hscratch file
  have hbody : (sendFile env head size file).conn.body head <+: encodeBody chunks closed := by
    rcases Nat.le_total (sendFile env head size file).conn.sent.length head.bytes.length
      with hshort | hlong
    · rw [Connection.body, List.drop_of_length_le hshort]
      exact List.nil_prefix
    · obtain ⟨rest, hrest⟩ := hsent
      have hdrop := congrArg (List.drop head.bytes.length) hrest
      rw [List.drop_append_of_le_length hlong, List.drop_left] at hdrop
      exact ⟨rest, hdrop⟩
  have hsound := sound_of_prefix hne hfile (fun h ↦ (hclosed h).1) (hbytes.trans hbody)
  refine ⟨hsound.not_bad, hsound.data_prefix, fun hzero ↦ ?_⟩
  obtain ⟨hclose, hdata⟩ := hsound.zeroChunk hzero
  exact ⟨hdata, (hclosed hclose).2⟩

end Spec

/-- Reads deliver two bytes, sends take one. -/
def slowEnv : TransferEnv where
  send _ len := if h : 0 < len then some ⟨0, h⟩ else none
  malloc := true
  read _ := .read 1 false
  stopping _ := false

def htmlHead : ResponseHead := ⟨asciiBytes "200 OK", asciiBytes "text/html", [], 256⟩

theorem transfer_decodes_slow :
    (decodeChunked ((sendFile slowEnv htmlHead 256 [97, 98, 99]).conn.body htmlHead)).data <+:
      [97, 98, 99] :=
  (transfer_decodes slowEnv htmlHead (by decide) [97, 98, 99] (List.prefix_refl _)).2.1
