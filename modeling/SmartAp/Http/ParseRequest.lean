import SmartAp.Http.Handlers
import SmartAp.Program.Triple

/-!
# Parsing a request

`httpd_parse_req` reads a block, gives it to `http_parser` and starts again, until a request is
complete. The parser calls back: the callbacks keep the place in the request (`ParseStatus`), copy
the URI, and pause the parser twice, before the headers and before the body, so that what was read
too far goes into the pending data of the session and is read again.

## The parser

`http_parser` is not part of this program. It is known by what it calls back (`HttpParser.execute`,
a `Callbacks`): any calls with any positions, in any order, with any number of bytes parsed at the
end. Positions are those of a parser that makes its calls in order; the callbacks then stay within
the scratch buffer.

## The environment

`RequestEnv` numbers the calls of `recv` and of `realloc`. A `recv` delivers some bytes, none when
the client has closed the connection, or fails, which includes that the time is over.

## Results

* `parseLoop_fails`: no way out of the loop returns `ESP_OK` when no handler does.
* `parseLoop_isSome`: there is a way out after at most `parseRounds` blocks, whatever the client
  sends and whatever the parser does. Each block moves the offset towards the limit of the scratch
  buffer, except that it is set back once, before the headers.
-/

/-! ### The request in the making -/

/-- `HTTPD_SOCK_ERR_*`. -/
inductive SockErr
  | fail
  | invalid
  | timeout
  deriving DecidableEq, Repr

/-- `parser_data_t.status`. -/
inductive ParseStatus
  | idle
  | url
  | hdrField
  | hdrValue
  | body
  | complete
  | failed
  deriving DecidableEq, Repr

/-- `parser_data_t`; `lastAt` is an offset into the scratch buffer. -/
structure ParserData where
  status : ParseStatus := .idle
  error : HttpdErrCode := .internalServerError500
  lastAt : ℕ := 0
  lastLength : ℕ := 0
  paused : Bool := false
  preParsed : ℕ := 0
  rawDatalen : ℕ := 0

/-- `struct httpd_req_aux`. `scratch` is the part of the buffer that holds data. -/
structure HttpdReqAux where
  scratch : List UInt8 := []
  scratchSizeLimit : ℕ
  maxReqHdrLen : ℕ
  maxUriLen : ℕ
  remainingLen : ℕ := 0
  reqHdrsCount : ℕ := 0
  urlParseRes : HttpParserUrl := {}

/-- What the parsing functions share. -/
structure ParseState (Parser : Type) where
  req : HttpdReq := {}
  aux : HttpdReqAux
  /-- The valid part of `pending_data` of the session. -/
  pending : List UInt8
  data : ParserData := {}
  parser : Parser
  /-- Calls of `recv` so far. -/
  recvs : ℕ := 0
  /-- Calls of `realloc` so far. -/
  allocs : ℕ := 0

/-- What the callbacks read of `http_parser`. -/
structure HttpParserFields where
  method : ℕ
  httpMajor : ℕ
  httpMinor : ℕ
  contentLength : ℕ
  upgrade : Bool

/-- The callbacks in `http_parser_settings`; positions count from the start of the data. -/
inductive ParserCall
  | onUrl (pos length : ℕ)
  | onHeaderField (pos length : ℕ)
  | onHeaderValue (pos length : ℕ)
  | onHeadersComplete
  | onBody (pos length : ℕ)
  | onMessageComplete

/-- What a callback tells the parser. -/
structure ParserAnswer where
  ret : EspErr
  paused : Bool

/-- `http_parser`. -/
structure HttpParser (Parser : Type) where
  init : Parser
  /-- `http_parser_execute`: the number of bytes parsed. -/
  execute : Parser → List UInt8 →
    Callbacks (HttpParserFields × ParserCall) ParserAnswer (ℕ × Parser)
  /-- `http_parser_pause(parser, 0)`. -/
  unpause : Parser → Parser
  /-- `http_parser_parse_url`; the second argument is `is_connect`. -/
  parseUrl : List UInt8 → Bool → Option HttpParserUrl

/-- The configuration the server is compiled with. -/
structure HttpdKconfig where
  /-- `CONFIG_HTTPD_MAX_REQ_HDR_LEN`. -/
  maxReqHdrLen : ℕ
  /-- `CONFIG_HTTPD_MAX_URI_LEN`. -/
  maxUriLen : ℕ
  /-- `CONFIG_HTTPD_PURGE_BUF_LEN`. -/
  purgeBufLen : ℕ

/-- The environment of one request. -/
structure RequestEnv (World : Type) where
  /-- `recv`, by the number of the call and the length asked for. -/
  recv : ℕ → ℕ → Except SockErr (List UInt8)
  realloc : ℕ → Bool
  /-- What the handlers see. -/
  world : World

/-- `PARSER_BLOCK_SIZE`, also the size of `pending_data`. -/
def parserBlockSize : ℕ := 128

section Callbacks

variable {Parser : Type} (K : HttpdKconfig) (P : HttpParser Parser)

/-! ### The callbacks -/

/-- A failure of a callback. -/
def ParseState.fail (error : HttpdErrCode) (s : ParseState Parser) : EspErr × ParseState Parser :=
  (.fail, { s with data.error := error, data.status := .failed })

/-- `verify_url`. -/
def verifyUrl (fields : HttpParserFields) : StateM (ParseState Parser) EspErr := fun s ↦
  let s : ParseState Parser := { s with req.method := fields.method }
  if s.req.method < 0 then (.fail, { s with data.error := .methodNotImplemented501 })
  else if K.maxUriLen + 1 < s.data.lastLength + 1 then
    (.fail, { s with data.error := .uriTooLong414 })
  else
    let s := { s with req.uri := (s.aux.scratch.drop s.data.lastAt).take s.data.lastLength }
    if ¬ (fields.httpMajor = 1 ∧ (fields.httpMinor = 0 ∨ fields.httpMinor = 1)) then
      (.fail, { s with data.error := .versionNotSupported505 })
    else
      match P.parseUrl s.req.uri (s.req.method = httpConnect) with
      | none => (.fail, { s with data.error := .badRequest400 })
      | some res => (.ok, { s with aux.urlParseRes := res })

/-- `cb_url`. -/
def cbUrl (pos length : ℕ) : StateM (ParseState Parser) EspErr := fun s ↦
  let grow (s : ParseState Parser) : EspErr × ParseState Parser :=
    let s := { s with data.lastLength := s.data.lastLength + length }
    if s.data.lastLength > s.aux.maxUriLen then s.fail .uriTooLong414 else (.ok, s)
  match s.data.status with
  | .idle => grow { s with data.lastAt := pos, data.lastLength := 0, data.status := .url }
  | .url => grow s
  | _ => s.fail .internalServerError500

/-- `httpd_unrecv`: the number of bytes that were put back. -/
def httpdUnrecv (buf : List UInt8) : StateM (ParseState Parser) ℕ := fun s ↦
  (min parserBlockSize buf.length, { s with pending := buf.take parserBlockSize })

/-- `pause_parsing`. -/
def pauseParsing (pos : ℕ) : StateM (ParseState Parser) EspErr := fun s ↦
  let unparsed : ℤ := s.data.rawDatalen - pos
  let paused (s : ParseState Parser) : EspErr × ParseState Parser :=
    (.ok, { s with data.preParsed := unparsed.toNat, data.paused := true })
  if unparsed < 0 then (.invalidState, s)
  else if unparsed ≠ 0 then
    let (unrecv, s) := httpdUnrecv ((s.aux.scratch.drop pos).take unparsed.toNat) s
    if unparsed ≠ unrecv then (.fail, s) else paused s
  else paused s

/-- `memset` between two positions. -/
def zeroFill (scratch : List UInt8) (start stop : ℕ) : List UInt8 :=
  scratch.mapIdx fun i b ↦ if start ≤ i ∧ i < stop then 0 else b

/-- `cb_header_field`. -/
def cbHeaderField (fields : HttpParserFields) (pos length : ℕ) :
    StateM (ParseState Parser) EspErr := fun s ↦
  let grow (s : ParseState Parser) : EspErr × ParseState Parser :=
    (.ok, { s with data.lastLength := s.data.lastLength + length })
  match s.data.status with
  | .url =>
    match verifyUrl K P fields s with
    | (.ok, s) =>
      let s := { s with
        data.lastAt := 0, data.lastLength := 0, data.status := .hdrField
        aux.scratchSizeLimit := s.aux.maxReqHdrLen }
      match pauseParsing pos s with
      | (.ok, s) => grow s
      | (_, s) => s.fail .internalServerError500
    | (_, s) => (.fail, { s with data.status := .failed })
  | .hdrValue =>
    grow { s with
      aux.scratch := zeroFill s.aux.scratch (s.data.lastAt + s.data.lastLength) pos
      data.lastAt := pos, data.lastLength := 0, data.status := .hdrField
      aux.scratchSizeLimit := s.aux.maxReqHdrLen
      aux.reqHdrsCount := s.aux.reqHdrsCount + 1 }
  | .hdrField => grow s
  | _ => s.fail .internalServerError500

/-- `while (*(--at_adj) != ':');` -/
def backToColon (scratch : List UInt8) : ℕ → ℕ
  | 0 => 0
  | pos + 1 => if scratch.getD pos 0 = 58 then pos else backToColon scratch pos

/-- `while (*(++at_adj) == ' ');` -/
def skipSpaces (scratch : List UInt8) (pos : ℕ) : ℕ :=
  pos + 1 + ((scratch.drop (pos + 1)).takeWhile (· = 32)).length

/-- `cb_header_value`. -/
def cbHeaderValue (pos length : ℕ) : StateM (ParseState Parser) EspErr := fun s ↦
  let grow (s : ParseState Parser) : EspErr × ParseState Parser :=
    (.ok, { s with data.lastLength := s.data.lastLength + length })
  match s.data.status with
  | .hdrField =>
    -- an empty value is reported behind its CRLF
    let start := if length = 0 then skipSpaces s.aux.scratch (backToColon s.aux.scratch pos) else pos
    grow { s with data.lastAt := start, data.lastLength := 0, data.status := .hdrValue }
  | .hdrValue => grow s
  | _ => s.fail .internalServerError500

/-- The loop of `cb_headers_complete` over the line terminators: where it stops, and the terminators
that are missing. -/
def skipTerminators (scratch : List UInt8) (pos : ℕ) : (remainingLength terminators : ℕ) → ℕ × ℕ
  | 0, terminators => (pos, terminators)
  | _ + 1, 0 => (pos, 0)
  | n + 1, terminators + 1 =>
    skipTerminators scratch (pos + 1) n
      (if scratch.getD pos 0 = 10 then terminators else terminators + 1)

/-- The end of `cb_headers_complete`. `(int)content_length` is `-1` when there is no body. -/
def headersDone (fields : HttpParserFields) : StateM (ParseState Parser) EspErr := fun s ↦
  let contentLen := fields.contentLength % 2 ^ 32
  let s := { s with req.contentLen := if contentLen = 2 ^ 32 - 1 then 0 else contentLen }
  if fields.upgrade then s.fail .badRequest400
  else (.ok, { s with data.status := .body, aux.remainingLen := s.req.contentLen })

/-- `cb_headers_complete`. -/
def cbHeadersComplete (fields : HttpParserFields) : StateM (ParseState Parser) EspErr := fun s ↦
  match s.data.status with
  | .url =>
    match verifyUrl K P fields s with
    | (.ok, s) => headersDone fields s
    | (_, s) => (.fail, { s with data.status := .failed })
  | .hdrValue =>
    let pos := s.data.lastAt + s.data.lastLength
    let remainingLength : ℤ := s.data.rawDatalen - pos
    if remainingLength < 2 then s.fail .internalServerError500
    else
      let (stop, terminators) := skipTerminators s.aux.scratch pos remainingLength.toNat 2
      let s := { s with aux.scratch := zeroFill s.aux.scratch pos stop }
      if terminators ≠ 0 then s.fail .badRequest400
      else
        headersDone fields
          { s with data.lastAt := stop, aux.reqHdrsCount := s.aux.reqHdrsCount + 1 }
  | _ => s.fail .internalServerError500

/-- The end of the last callback: the parser is paused at a position and the request is complete. -/
def completeAt (pos : ℕ) : StateM (ParseState Parser) EspErr := fun s ↦
  match pauseParsing pos s with
  | (.ok, s) => (.ok, { s with data.lastAt := 0, data.lastLength := 0, data.status := .complete })
  | (_, s) => s.fail .internalServerError500

/-- `cb_on_body`. -/
def cbOnBody (pos _length : ℕ) : StateM (ParseState Parser) EspErr := fun s ↦
  match s.data.status with
  | .body => completeAt pos s
  | _ => s.fail .internalServerError500

/-- `cb_no_body`. -/
def cbNoBody (fields : HttpParserFields) : StateM (ParseState Parser) EspErr := fun s ↦
  match s.data.status with
  | .url =>
    match verifyUrl K P fields s with
    | (.ok, s) => completeAt s.data.lastAt s
    | (_, s) => (.fail, { s with data.status := .failed })
  | .body => completeAt s.data.lastAt s
  | _ => s.fail .internalServerError500

/-- The callback for a call of the parser, with the data at `offset` in the scratch buffer. -/
def parserCallback (offset : ℕ) (fields : HttpParserFields) :
    ParserCall → StateM (ParseState Parser) EspErr
  | .onUrl pos length => cbUrl (offset + pos) length
  | .onHeaderField pos length => cbHeaderField K P fields (offset + pos) length
  | .onHeaderValue pos length => cbHeaderValue (offset + pos) length
  | .onHeadersComplete => cbHeadersComplete K P fields
  | .onBody pos length => cbOnBody (offset + pos) length
  | .onMessageComplete => cbNoBody K P fields

/-- What the parser sees of a callback. -/
def answerParser (offset : ℕ) (call : HttpParserFields × ParserCall) :
    StateM (ParseState Parser) ParserAnswer := fun s ↦
  let (ret, s) := parserCallback K P offset call.1 call.2 s
  (⟨ret, s.data.paused⟩, s)

end Callbacks

/-! ### Reading -/

section Reading

variable {Parser World : Type} (env : RequestEnv World)

/-- `httpd_recv_opt_t`, as far as requests are read with it. -/
inductive HttpdRecvOpt
  | none
  | haltAfterPending
  deriving DecidableEq

/-- `recv_fn`; nothing is delivered when the client has closed the connection. -/
def recvFn (bufLen : ℕ) : StateM (ParseState Parser) (Except SockErr (List UInt8)) := fun s ↦
  ((env.recv s.recvs bufLen).map (·.take bufLen), { s with recvs := s.recvs + 1 })

/-- `httpd_recv_pending`. -/
def httpdRecvPending (bufLen : ℕ) : StateM (ParseState Parser) (List UInt8) := fun s ↦
  (s.pending.take bufLen, { s with pending := s.pending.drop bufLen })

/-- `httpd_recv_with_opt`. -/
def httpdRecvWithOpt (bufLen : ℕ) (opt : HttpdRecvOpt) :
    StateM (ParseState Parser) (Except SockErr (List UInt8)) := fun s ↦
  if s.pending.length > 0 then
    let (got, s) := httpdRecvPending bufLen s
    if bufLen - got.length = 0 ∨ opt = .haltAfterPending then (.ok got, s)
    else
      match recvFn env (bufLen - got.length) s with
      | (.ok [], s) => (.ok [], s)
      | (.ok bytes, s) => (.ok (got ++ bytes), s)
      | (.error .timeout, s) => (.ok got, s)
      | (.error err, s) => (.error err, s)
  else recvFn env bufLen s

variable (t : HttpdTables World)

/-- `read_block`: the number of bytes read. -/
def readBlock (offset length : ℕ) : StateM (ParseState Parser) (Except SockErr ℕ) := fun s ↦
  -- the offset never passes the limit (`AtLoop.offset_le`)
  let bufLen := min length (s.aux.scratchSizeLimit - offset)
  if bufLen = 0 then (.ok 0, s)
  else if !env.realloc s.allocs then
    (.ok 0, { s with aux.scratch := [], data.lastAt := 0, allocs := s.allocs + 1 })
  else
    match httpdRecvWithOpt env bufLen .haltAfterPending { s with allocs := s.allocs + 1 } with
    | (.error .timeout, s) =>
      if httpdReqHandleErr t s.req .reqTimeout408 = .ok then (.error .timeout, s)
      else (.error .fail, s)
    | (.error _, s) => (.error .fail, s)
    | (.ok [], s) => (.error .fail, s)
    | (.ok bytes, s) =>
      (.ok bytes.length, { s with aux.scratch := s.aux.scratch.take offset ++ bytes })

end Reading

/-! ### The loop -/

section Loop

variable {Parser World : Type} (K : HttpdKconfig) (P : HttpParser Parser)

/-- `continue_parsing`: the number of bytes to skip. -/
def continueParsing (length : ℕ) : StateM (ParseState Parser) ℕ := fun s ↦
  (min length s.data.preParsed,
    { s with
      data.preParsed := s.data.preParsed - min length s.data.preParsed
      data.paused := false
      parser := P.unpause s.parser })

/-- The error of a request that does not fit the scratch buffer. -/
def tooLong : ParseStatus → HttpdErrCode
  | .url => .uriTooLong414
  | .hdrField | .hdrValue => .reqHdrFieldsTooLarge431
  | _ => .internalServerError500

/-- `parse_block` from `http_parser_execute` on. -/
def executeBlock (offset length : ℕ) : StateM (ParseState Parser) (Option ℕ) := fun s ↦
  let ((nparsed, parser), s) :=
    (P.execute s.parser ((s.aux.scratch.drop offset).take length)).run (answerParser K P offset) s
  let s := { s with parser }
  if s.data.status = .failed then (none, s)
  else if s.data.paused then
    (some 0, { s with data.preParsed := s.data.preParsed - (length - nparsed) })
  else if nparsed ≠ length then (none, (s.fail .badRequest400).2)
  else (some (offset + nparsed), s)

/-- `parse_block`: the offset of the next block. -/
def parseBlock (offset length : ℕ) : StateM (ParseState Parser) (Option ℕ) := fun s ↦
  if length = 0 then (none, (s.fail (tooLong s.data.status)).2)
  else if s.data.paused then
    let (skipped, s) := continueParsing P length s
    if length - skipped = 0 then (some skipped, s)
    else executeBlock K P (offset + skipped) (length - skipped) s
  else executeBlock K P offset length s

variable (env : RequestEnv World) (t : HttpdTables World)

/-- The loop of `httpd_parse_req`, for a number of rounds. -/
def parseLoop : ℕ → ℕ → ParseState Parser → Option (EspErr × ParseState Parser)
  | 0, _, _ => none
  | fuel + 1, offset, s =>
    let next (offset : ℕ) (s : ParseState Parser) : Option (EspErr × ParseState Parser) :=
      if s.data.status ≠ .complete then parseLoop fuel offset s
      else some (httpdUri t env.world s.req s.aux.urlParseRes, s)
    match readBlock env t offset parserBlockSize s with
    | (.error .timeout, s) => next offset s
    | (.error _, s) => some (.fail, s)
    | (.ok blkLen, s) =>
      match parseBlock K P offset blkLen { s with data.rawDatalen := blkLen + offset } with
      | (none, s) => some (httpdReqHandleErr t s.req s.data.error, s)
      | (some offset, s) => next offset s

/-- The rounds that are enough for every request. -/
def parseRounds (aux : HttpdReqAux) : ℕ := 2 * max aux.maxUriLen aux.maxReqHdrLen + 2

/-- `httpd_parse_req`. -/
def httpdParseReq (s : ParseState Parser) : Option (EspErr × ParseState Parser) :=
  parseLoop K P env t (parseRounds s.aux) 0 { s with data := {}, parser := P.init }

variable {K P env t}

/-- **No way out of the loop returns `ESP_OK`**, when no handler does. -/
theorem parseLoop_fails (ht : t.AllFail) {fuel offset : ℕ} {s s' : ParseState Parser} {ret : EspErr}
    (h : parseLoop K P env t fuel offset s = some (ret, s')) : ret ≠ .ok := by
  induction fuel generalizing offset s with
  | zero => cases h
  | succ fuel ih =>
    have hnext : ∀ {offset s},
        (if s.data.status ≠ .complete then parseLoop K P env t fuel offset s
          else some (httpdUri t env.world s.req s.aux.urlParseRes, s)) = some (ret, s') →
        ret ≠ .ok := by
      intro offset s h
      split at h
      · exact ih h
      · obtain ⟨rfl, -⟩ := Prod.mk.inj (Option.some.inj h)
        exact httpdUri_fails ht _ _ _
    rw [parseLoop] at h
    dsimp only at h
    split at h
    · exact hnext h
    · obtain ⟨rfl, -⟩ := Prod.mk.inj (Option.some.inj h)
      exact nofun
    · split at h
      · obtain ⟨rfl, -⟩ := Prod.mk.inj (Option.some.inj h)
        exact httpdReqHandleErr_fails ht _ _
      · exact hnext h

end Loop

/-! ### What a callback does to the place in the request -/

/-- The place in a request and the limit of the scratch buffer. -/
structure ParseFrame where
  status : ParseStatus
  paused : Bool
  limit : ℕ
  maxReqHdrLen : ℕ

def ParseState.frame {Parser : Type} (s : ParseState Parser) : ParseFrame :=
  ⟨s.data.status, s.data.paused, s.aux.scratchSizeLimit, s.aux.maxReqHdrLen⟩

/-- What a callback does to the frame. -/
inductive FrameStep (f : ParseFrame) : ParseFrame → Prop
  | same : FrameStep f f
  | fails (paused : Bool) (limit : ℕ) (hlimit : limit = f.limit ∨ limit = f.maxReqHdrLen) :
      FrameStep f { f with status := .failed, paused, limit }
  | url (h : f.status = .idle) : FrameStep f { f with status := .url }
  | headers (h : f.status = .url) :
      FrameStep f { f with status := .hdrField, paused := true, limit := f.maxReqHdrLen }
  | field (h : f.status = .hdrValue) :
      FrameStep f { f with status := .hdrField, limit := f.maxReqHdrLen }
  | value (h : f.status = .hdrField) : FrameStep f { f with status := .hdrValue }
  | body (h : f.status = .url ∨ f.status = .hdrValue) : FrameStep f { f with status := .body }
  | complete : FrameStep f { f with status := .complete, paused := true }

section Frame

variable {Parser : Type} {K : HttpdKconfig} {P : HttpParser Parser} {s : ParseState Parser}

theorem verifyUrl_frame (fields : HttpParserFields) :
    (verifyUrl K P fields s).2.frame = s.frame := by
  rw [verifyUrl]
  dsimp only
  split
  · rfl
  split
  · rfl
  split
  · rfl
  split
  · rfl
  · rfl

/-- Pausing sets the flag if it succeeds and does nothing to the frame if it fails. -/
theorem pauseParsing_frame (pos : ℕ) :
    ((pauseParsing pos s).1 = .ok ∧ (pauseParsing pos s).2.frame = { s.frame with paused := true }) ∨
      ((pauseParsing pos s).1 ≠ .ok ∧ (pauseParsing pos s).2.frame = s.frame) := by
  rw [pauseParsing]
  dsimp only
  split
  · exact .inr ⟨nofun, rfl⟩
  split
  · rw [httpdUnrecv]
    dsimp only
    split
    · exact .inr ⟨nofun, rfl⟩
    · exact .inl ⟨rfl, rfl⟩
  · exact .inl ⟨rfl, rfl⟩

theorem frame_fail (error : HttpdErrCode) :
    (s.fail error).2.frame = { s.frame with status := .failed } := rfl

/-- Failing is a step. -/
theorem frameStep_fail (error : HttpdErrCode) : FrameStep s.frame (s.fail error).2.frame :=
  .fails _ _ (.inl rfl)

theorem cbUrl_step (pos length : ℕ) : FrameStep s.frame (cbUrl pos length s).2.frame := by
  rw [cbUrl]
  dsimp only
  split
  · rename_i hidle
    split
    · exact .fails _ _ (.inl rfl)
    · exact .url hidle
  · split
    · exact .fails _ _ (.inl rfl)
    · exact .same
  · exact frameStep_fail _

/-- The end of the last callback. -/
theorem completeAt_step (pos : ℕ) : FrameStep s.frame (completeAt pos s).2.frame := by
  rw [completeAt]
  rcases hrun : pauseParsing pos s with ⟨ret, s₁⟩
  obtain ⟨hok, hframe⟩ | ⟨hfail, hframe⟩ := hrun ▸ pauseParsing_frame (s := s) pos
  · obtain rfl : ret = .ok := hok
    have hdone : ParseState.frame { s₁ with
        data.lastAt := 0, data.lastLength := 0, data.status := .complete } =
        { s₁.frame with status := .complete } := rfl
    dsimp only
    rw [hdone, hframe]
    exact .complete
  · cases ret with
    | ok => exact absurd rfl hfail
    | _ =>
      dsimp only
      rw [frame_fail, hframe]
      exact .fails _ _ (.inl rfl)

/-- A callback that verifies the URI first, and then does a step or fails. -/
theorem verified_step (fields : HttpParserFields) (next : StateM (ParseState Parser) EspErr)
    (hnext : ∀ s₁ : ParseState Parser, s₁.frame = s.frame → FrameStep s₁.frame (next s₁).2.frame) :
    FrameStep s.frame (match verifyUrl K P fields s with
      | (.ok, s) => next s
      | (_, s) => (.fail, { s with data.status := .failed })).2.frame := by
  have hframe := verifyUrl_frame (K := K) (P := P) (s := s) fields
  rcases hrun : verifyUrl K P fields s with ⟨ret, s₁⟩
  rw [hrun] at hframe
  cases ret with
  | ok => exact hframe ▸ hnext s₁ hframe
  | _ =>
    have hfailed : ParseState.frame { s₁ with data.status := .failed } =
        { s₁.frame with status := .failed } := rfl
    dsimp only
    rw [hfailed, hframe]
    exact .fails _ _ (.inl rfl)

theorem cbHeaderField_step (fields : HttpParserFields) (pos length : ℕ) :
    FrameStep s.frame (cbHeaderField K P fields pos length s).2.frame := by
  rw [cbHeaderField]
  dsimp only
  split
  · rename_i hurl
    refine verified_step fields _ fun s₁ hs₁ ↦ ?_
    have hstatus : s₁.frame.status = .url := (congrArg ParseFrame.status hs₁).trans hurl
    rcases hrun : pauseParsing pos { s₁ with
        data.lastAt := 0, data.lastLength := 0, data.status := .hdrField
        aux.scratchSizeLimit := s₁.aux.maxReqHdrLen } with ⟨ret, s₂⟩
    obtain ⟨hok, hframe⟩ | ⟨hfail, hframe⟩ := hrun ▸ pauseParsing_frame (s := { s₁ with
        data.lastAt := 0, data.lastLength := 0, data.status := .hdrField
        aux.scratchSizeLimit := s₁.aux.maxReqHdrLen }) pos
    · obtain rfl : ret = .ok := hok
      have hgrow : ParseState.frame { s₂ with data.lastLength := s₂.data.lastLength + length } =
          s₂.frame := rfl
      dsimp only
      rw [hgrow, hframe]
      exact .headers hstatus
    · cases ret with
      | ok => exact absurd rfl hfail
      | _ =>
        dsimp only
        rw [frame_fail, hframe]
        exact .fails _ _ (.inr rfl)
  · rename_i hvalue
    exact .field hvalue
  · exact .same
  · exact frameStep_fail _

theorem cbHeaderValue_step (pos length : ℕ) :
    FrameStep s.frame (cbHeaderValue pos length s).2.frame := by
  rw [cbHeaderValue]
  dsimp only
  split
  · rename_i hfield
    exact .value hfield
  · exact .same
  · exact frameStep_fail _

theorem headersDone_step {f : ParseFrame} (fields : HttpParserFields) (hs : s.frame = f)
    (h : f.status = .url ∨ f.status = .hdrValue) :
    FrameStep f (headersDone fields s).2.frame := by
  subst hs
  rw [headersDone]
  dsimp only
  split
  · exact .fails _ _ (.inl rfl)
  · exact .body h

theorem cbHeadersComplete_step (fields : HttpParserFields) :
    FrameStep s.frame (cbHeadersComplete K P fields s).2.frame := by
  rw [cbHeadersComplete]
  split
  · rename_i hurl
    refine verified_step fields _ fun s₁ hs₁ ↦ headersDone_step fields rfl (.inl ?_)
    exact (congrArg ParseFrame.status hs₁).trans hurl
  · rename_i hvalue
    dsimp only
    split
    · exact frameStep_fail _
    split
    · exact .fails _ _ (.inl rfl)
    · exact headersDone_step fields rfl (.inr hvalue)
  · exact frameStep_fail _

theorem cbOnBody_step (pos length : ℕ) : FrameStep s.frame (cbOnBody pos length s).2.frame := by
  rw [cbOnBody]
  split
  · exact completeAt_step pos
  · exact frameStep_fail _

theorem cbNoBody_step (fields : HttpParserFields) :
    FrameStep s.frame (cbNoBody K P fields s).2.frame := by
  rw [cbNoBody]
  split
  · exact verified_step fields (fun s₁ ↦ completeAt s₁.data.lastAt s₁)
      fun s₁ _ ↦ completeAt_step _
  · exact completeAt_step _
  · exact frameStep_fail _

variable (K P) in
/-- **What a callback does.** -/
theorem parserCallback_step (offset : ℕ) (fields : HttpParserFields) (call : ParserCall)
    (s : ParseState Parser) :
    FrameStep s.frame (parserCallback K P offset fields call s).2.frame := by
  cases call with
  | onUrl pos length => exact cbUrl_step _ length
  | onHeaderField pos length => exact cbHeaderField_step fields _ length
  | onHeaderValue pos length => exact cbHeaderValue_step _ length
  | onHeadersComplete => exact cbHeadersComplete_step fields
  | onBody pos length => exact cbOnBody_step _ length
  | onMessageComplete => exact cbNoBody_step fields

end Frame

/-! ### The loop ends -/

/-- The headers are still to come. -/
def ParseStatus.rank : ParseStatus → ℕ
  | .idle | .url => 1
  | _ => 0

def ParseStatus.ended : ParseStatus → Bool
  | .complete | .failed => true
  | _ => false

def ParseStatus.inHeaders : ParseStatus → Bool
  | .hdrField | .hdrValue => true
  | _ => false

/-- Where a block has led the request so far; `rank` and `limit` are from before the block. The
parser is paused only when it has come to the headers or to the end, and the limit changes only
then. -/
structure Running (bound rank limit : ℕ) (f : ParseFrame) : Prop where
  rank_le : f.status.rank ≤ rank
  paused : f.paused = true → f.status.rank < rank ∨ f.status.ended = true
  headers : f.status.inHeaders = true → f.limit = f.maxReqHdrLen
  limit : f.limit = limit ∨ f.paused = true ∨ f.status.ended = true
  limit_le : f.limit ≤ bound
  maxReqHdrLen_le : f.maxReqHdrLen ≤ bound

/-- A step keeps this. -/
theorem Running.step {bound rank limit : ℕ} {f f' : ParseFrame} (h : Running bound rank limit f)
    (hstep : FrameStep f f') : Running bound rank limit f' := by
  obtain ⟨status, paused, lim, maxReqHdrLen⟩ := f
  obtain ⟨hrank, hpaused, hheaders, hlimit, hle, hhdr⟩ := h
  dsimp only at hrank hpaused hheaders hlimit hle hhdr
  cases hstep with
  | same => exact ⟨hrank, hpaused, hheaders, hlimit, hle, hhdr⟩
  | fails paused' lim' hlim' =>
    refine ⟨Nat.zero_le _, fun _ ↦ .inr rfl, nofun, .inr (.inr rfl), ?_, hhdr⟩
    rcases hlim' with rfl | rfl
    · exact hle
    · exact hhdr
  | url hidle =>
    obtain rfl : status = .idle := hidle
    exact ⟨hrank, hpaused, nofun, hlimit, hle, hhdr⟩
  | headers hurl =>
    obtain rfl : status = .url := hurl
    exact ⟨Nat.zero_le _, fun _ ↦ .inl hrank, fun _ ↦ rfl, .inr (.inl rfl), hhdr, hhdr⟩
  | field hvalue =>
    obtain rfl : status = .hdrValue := hvalue
    obtain rfl : lim = maxReqHdrLen := hheaders rfl
    exact ⟨hrank, hpaused, hheaders, hlimit, hle, hhdr⟩
  | value hfield =>
    obtain rfl : status = .hdrField := hfield
    exact ⟨hrank, hpaused, hheaders, hlimit, hle, hhdr⟩
  | body hbefore =>
    obtain rfl | rfl : status = .url ∨ status = .hdrValue := hbefore
    · exact ⟨Nat.zero_le _, fun _ ↦ .inl hrank, nofun, hlimit, hle, hhdr⟩
    · exact ⟨hrank, hpaused, nofun, hlimit, hle, hhdr⟩
  | complete => exact ⟨Nat.zero_le _, fun _ ↦ .inr rfl, nofun, .inr (.inl rfl), hle, hhdr⟩

/-- The state in which a round begins. -/
structure AtLoop (bound offset : ℕ) (f : ParseFrame) : Prop where
  offset_le : offset ≤ f.limit
  limit_le : f.limit ≤ bound
  maxReqHdrLen_le : f.maxReqHdrLen ≤ bound
  headers : f.status.inHeaders = true → f.limit = f.maxReqHdrLen
  paused : f.paused = true → offset = 0

/-- What is left to do, in rounds. -/
def roundsLeft (bound offset : ℕ) (f : ParseFrame) : ℕ :=
  f.status.rank * (bound + 1) + (bound - offset)

section Ends

variable {Parser World : Type} {K : HttpdKconfig} {P : HttpParser Parser} {env : RequestEnv World}
  {t : HttpdTables World} {bound offset : ℕ} {s : ParseState Parser}

variable (env) in
/-- Reading changes nothing of the frame. -/
theorem httpdRecvWithOpt_frame (bufLen : ℕ) (opt : HttpdRecvOpt) :
    (httpdRecvWithOpt env bufLen opt s).2.frame = s.frame := by
  rw [httpdRecvWithOpt]
  split
  · rw [httpdRecvPending]
    dsimp only
    split
    · rfl
    · rw [recvFn]
      split <;> rename_i hrun <;> exact (congrArg (ParseState.frame ∘ Prod.snd) hrun).symm
  · rfl

theorem length_recvFn {bufLen : ℕ} {bytes : List UInt8} {s' : ParseState Parser}
    (h : recvFn env bufLen s = (.ok bytes, s')) : bytes.length ≤ bufLen := by
  have hres := congrArg Prod.fst h
  rw [recvFn] at hres
  cases hrecv : env.recv s.recvs bufLen with
  | error err =>
    rw [hrecv] at hres
    cases hres
  | ok got =>
    rw [hrecv] at hres
    obtain rfl := Except.ok.inj hres
    exact List.length_take_le _ _

/-- No more is delivered than was asked for. -/
theorem length_httpdRecvWithOpt {bufLen : ℕ} {opt : HttpdRecvOpt} {bytes : List UInt8}
    {s' : ParseState Parser} (h : httpdRecvWithOpt env bufLen opt s = (.ok bytes, s')) :
    bytes.length ≤ bufLen := by
  rw [httpdRecvWithOpt] at h
  split at h
  · rw [httpdRecvPending] at h
    have hgot : (s.pending.take bufLen).length ≤ bufLen := List.length_take_le _ _
    dsimp only at h
    split at h
    · cases h
      exact hgot
    · split at h
      · cases h
        exact Nat.zero_le _
      · rename_i more _ _ hrun
        cases h
        have hmore := length_recvFn hrun
        rw [List.length_append]
        omega
      · cases h
        exact hgot
      · cases h
  · exact length_recvFn h

variable (env) in
/-- With a handler that fails, reading does not ask for another try; what is read moves the offset
on, not past the limit. -/
theorem readBlock_spec (ht : t.AllFail) (offset length : ℕ) :
    (readBlock env t offset length s).2.frame = s.frame ∧
      (readBlock env t offset length s).1 ≠ .error .timeout ∧
      ∀ n, (readBlock env t offset length s).1 = .ok n → n ≤ s.frame.limit - offset := by
  rw [readBlock]
  dsimp only
  split
  · exact ⟨rfl, nofun, fun n hn ↦ Except.ok.inj hn ▸ Nat.zero_le _⟩
  split
  · exact ⟨rfl, nofun, fun n hn ↦ Except.ok.inj hn ▸ Nat.zero_le _⟩
  have hframe := httpdRecvWithOpt_frame env (s := { s with allocs := s.allocs + 1 })
    (min length (s.aux.scratchSizeLimit - offset)) .haltAfterPending
  split
  · rename_i s₁ hrun
    rw [if_neg (httpdReqHandleErr_fails ht _ _)]
    exact ⟨(congrArg (ParseState.frame ∘ Prod.snd) hrun).symm.trans hframe, nofun, nofun⟩
  · rename_i s₁ _ hrun
    exact ⟨(congrArg (ParseState.frame ∘ Prod.snd) hrun).symm.trans hframe, nofun, nofun⟩
  · rename_i s₁ hrun
    exact ⟨(congrArg (ParseState.frame ∘ Prod.snd) hrun).symm.trans hframe, nofun, nofun⟩
  · rename_i s₁ bytes _ hrun
    refine ⟨(congrArg (ParseState.frame ∘ Prod.snd) hrun).symm.trans hframe, nofun, fun n hn ↦ ?_⟩
    obtain rfl := Except.ok.inj hn
    exact (length_httpdRecvWithOpt hrun).trans (Nat.min_le_right _ _)

variable (K P) in
/-- What the parser calls back keeps `Running`. -/
theorem keeps_running (offset rank limit : ℕ) (call : HttpParserFields × ParserCall) :
    Keeps (fun s : ParseState Parser ↦ Running bound rank limit s.frame)
      (answerParser K P offset call) :=
  fun s hs ↦ hs.step (parserCallback_step K P offset call.1 call.2 s)

/-- Where the next block goes, unless the request is complete. -/
def NextBlock (bound offset : ℕ) (f : ParseFrame) (offset' : ℕ) (f' : ParseFrame) : Prop :=
  f'.status ≠ .complete →
    AtLoop bound offset' f' ∧ roundsLeft bound offset' f' < roundsLeft bound offset f

/-- The parser was paused before the headers: the offset is set back, and this does not happen
again. -/
theorem nextBlock_of_paused {f f' : ParseFrame} (h : Running bound f.status.rank f.limit f')
    (hpaused : f'.paused = true) (hfailed : f'.status ≠ .failed) :
    NextBlock bound offset f 0 f' := by
  intro hcomplete
  have hended : ¬ f'.status.ended = true := by
    intro hended
    cases hstatus : f'.status <;> rw [hstatus] at hended hcomplete hfailed <;> contradiction
  refine ⟨⟨Nat.zero_le _, h.limit_le, h.maxReqHdrLen_le, h.headers, fun _ ↦ rfl⟩, ?_⟩
  have hrank := (h.paused hpaused).resolve_right hended
  have hmul : (f'.status.rank + 1) * (bound + 1) ≤ f.status.rank * (bound + 1) :=
    Nat.mul_le_mul_right _ hrank
  rw [Nat.add_mul] at hmul
  rw [roundsLeft, roundsLeft]
  omega

/-- The whole block was parsed: the offset moves on, not past the limit. -/
theorem nextBlock_of_parsed {f f' : ParseFrame} {length : ℕ}
    (h : Running bound f.status.rank f.limit f') (hrunning : f'.paused = false)
    (hfailed : f'.status ≠ .failed) (hlength : 0 < length) (hfits : offset + length ≤ f.limit) :
    NextBlock bound offset f (offset + length) f' := by
  intro hcomplete
  have hended : ¬ f'.status.ended = true := by
    intro hended
    cases hstatus : f'.status <;> rw [hstatus] at hended hcomplete hfailed <;> contradiction
  have hlimit : f'.limit = f.limit := by
    rcases h.limit with hlimit | hpaused | hended'
    · exact hlimit
    · exact absurd (hrunning.symm.trans hpaused) Bool.false_ne_true
    · exact absurd hended' hended
  have hbound := h.limit_le
  refine ⟨⟨hlimit ▸ hfits, hbound, h.maxReqHdrLen_le, h.headers, fun hpaused ↦ ?_⟩, ?_⟩
  · exact absurd (hrunning.symm.trans hpaused) Bool.false_ne_true
  · have hmul : f'.status.rank * (bound + 1) ≤ f.status.rank * (bound + 1) :=
      Nat.mul_le_mul_right _ h.rank_le
    rw [roundsLeft, roundsLeft]
    omega

/-- **Executing a block** that fits, with the parser running. -/
theorem executeBlock_spec {length offset' : ℕ} (h : AtLoop bound offset s.frame)
    (hrunning : s.frame.paused = false) (hlength : 0 < length)
    (hfits : offset + length ≤ s.frame.limit)
    (hres : (executeBlock K P offset length s).1 = some offset') :
    NextBlock bound offset s.frame offset' (executeBlock K P offset length s).2.frame := by
  have hstart : Running bound s.frame.status.rank s.frame.limit s.frame :=
    ⟨le_rfl, fun hpaused ↦ absurd (hrunning.symm.trans hpaused) Bool.false_ne_true, h.headers,
      .inl rfl, h.limit_le, h.maxReqHdrLen_le⟩
  have hrun := Keeps.callbacks (keeps_running K P offset _ _)
    (P.execute s.parser ((s.aux.scratch.drop offset).take length)) s hstart
  rw [executeBlock] at hres ⊢
  rcases hexec : (P.execute s.parser ((s.aux.scratch.drop offset).take length)).run
    (answerParser K P offset) s with ⟨⟨nparsed, parser⟩, s₁⟩
  rw [hexec] at hres hrun
  dsimp only at hres hrun ⊢
  split at hres
  · cases hres
  rename_i hfailed
  rw [if_neg hfailed]
  split at hres
  · rename_i hpaused
    obtain rfl := Option.some.inj hres
    rw [if_pos hpaused]
    exact nextBlock_of_paused hrun hpaused hfailed
  · rename_i hpaused
    rw [if_neg hpaused]
    split at hres
    · cases hres
    rename_i hparsed
    obtain rfl := Option.some.inj hres
    obtain rfl := not_not.1 hparsed
    rw [if_neg hparsed]
    exact nextBlock_of_parsed hrun (Bool.eq_false_iff.2 hpaused) hfailed hlength hfits

/-- **Parsing a block** that fits. -/
theorem parseBlock_spec {length offset' : ℕ} (h : AtLoop bound offset s.frame)
    (hfits : length ≤ s.frame.limit - offset)
    (hres : (parseBlock K P offset length s).1 = some offset') :
    NextBlock bound offset s.frame offset' (parseBlock K P offset length s).2.frame := by
  have hle := h.offset_le
  rw [parseBlock] at hres ⊢
  split at hres
  · cases hres
  rename_i hlength
  rw [if_neg hlength]
  split at hres
  · rename_i hpaused
    obtain rfl : offset = 0 := h.paused hpaused
    rw [if_pos hpaused]
    have hskip : (continueParsing P length s).1 ≤ length := Nat.min_le_left _ _
    have hframe : (continueParsing P length s).2.frame = { s.frame with paused := false } := rfl
    rcases hrun : continueParsing P length s with ⟨skipped, s₁⟩
    rw [hrun] at hres hskip hframe
    dsimp only at hres hskip hframe ⊢
    have hloop : AtLoop bound skipped s₁.frame := by
      rw [hframe]
      exact ⟨by dsimp only; omega, h.limit_le, h.maxReqHdrLen_le, h.headers, nofun⟩
    have hleft : roundsLeft bound skipped s₁.frame = roundsLeft bound skipped s.frame := by
      rw [hframe]
      rfl
    have hbound := h.limit_le
    split at hres
    · -- the block holds nothing new
      rename_i hall
      obtain rfl := Option.some.inj hres
      rw [if_pos hall]
      refine fun _ ↦ ⟨hloop, ?_⟩
      rw [hleft, roundsLeft, roundsLeft]
      omega
    · rename_i hnew
      rw [if_neg hnew]
      rw [Nat.zero_add] at hres ⊢
      have hlimit : s₁.frame.limit = s.frame.limit := by rw [hframe]
      intro hcomplete
      obtain ⟨hnext, hless⟩ := executeBlock_spec hloop (by rw [hframe]) (by omega)
        (by rw [hlimit]; omega) hres hcomplete
      refine ⟨hnext, hless.trans_le ?_⟩
      rw [hleft, roundsLeft, roundsLeft]
      omega
  · rename_i hrunning
    rw [if_neg hrunning]
    exact executeBlock_spec h (Bool.eq_false_iff.2 hrunning) (by omega) (by omega) hres

variable (K P env) in
/-- **The loop ends** within the rounds that are left. -/
theorem parseLoop_isSome (ht : t.AllFail) {fuel : ℕ} (h : AtLoop bound offset s.frame)
    (hfuel : roundsLeft bound offset s.frame < fuel) :
    (parseLoop K P env t fuel offset s).isSome = true := by
  induction fuel generalizing offset s with
  | zero => cases hfuel
  | succ fuel ih =>
    obtain ⟨hframe, htimeout, hread⟩ := readBlock_spec env (s := s) ht offset parserBlockSize
    rw [parseLoop]
    dsimp only
    rcases hrun : readBlock env t offset parserBlockSize s with ⟨res, s₁⟩
    rw [hrun] at hframe htimeout hread
    dsimp only at hframe htimeout hread
    cases res with
    | error err =>
      cases err with
      | timeout => exact absurd rfl htimeout
      | _ => rfl
    | ok blkLen =>
      dsimp only
      have hblock : ParseState.frame { s₁ with data.rawDatalen := blkLen + offset } = s.frame :=
        hframe
      rcases hparse :
        parseBlock K P offset blkLen { s₁ with data.rawDatalen := blkLen + offset } with ⟨res, s₂⟩
      cases res with
      | none => rfl
      | some offset' =>
        have hnext := parseBlock_spec (s := { s₁ with data.rawDatalen := blkLen + offset })
          (hblock ▸ h) (hblock ▸ hread blkLen rfl) (congrArg Prod.fst hparse)
        rw [hparse, hblock] at hnext
        dsimp only
        split
        · rename_i hcomplete
          obtain ⟨hloop, hless⟩ := hnext hcomplete
          exact ih hloop (hless.trans_le (Nat.le_of_lt_succ hfuel))
        · rfl

variable (K P env) in
/-- **A request is parsed in a bounded number of rounds**, and it closes the connection, when no
handler returns `ESP_OK`. -/
theorem httpdParseReq_fails (ht : t.AllFail) (s : ParseState Parser)
    (hlimit : s.aux.scratchSizeLimit = s.aux.maxUriLen) :
    ∃ ret s', httpdParseReq K P env t s = some (ret, s') ∧ ret ≠ .ok := by
  have hloop : AtLoop (max s.aux.maxUriLen s.aux.maxReqHdrLen) 0
      (ParseState.frame { s with data := {}, parser := P.init }) :=
    ⟨Nat.zero_le _, hlimit ▸ Nat.le_max_left _ _, Nat.le_max_right _ _, nofun, nofun⟩
  have hrounds : roundsLeft (max s.aux.maxUriLen s.aux.maxReqHdrLen) 0
      (ParseState.frame { s with data := {}, parser := P.init }) < parseRounds s.aux := by
    rw [roundsLeft, parseRounds]
    change 1 * _ + _ < _
    omega
  obtain ⟨⟨ret, s'⟩, hres⟩ := Option.isSome_iff_exists.1 (parseLoop_isSome K P env ht hloop hrounds)
  exact ⟨ret, s', hres, parseLoop_fails ht hres⟩

end Ends
