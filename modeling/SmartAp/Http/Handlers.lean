import SmartAp.Http.Path
import SmartAp.SdCard.Layers
import Mathlib.Algebra.Group.Int.Defs
import Mathlib.Algebra.Group.Nat.Defs

/-!
# The handlers of the web server and how they are found

`httpd_uri` looks for a handler by the path and the method of a request; `httpd_req_handle_err`
looks for one by an error code. What a handler returns decides about the connection: the session
stays open only for `ESP_OK`.

`start_webserver` registers `main_handler` for every path and method and handlers for eight of the
thirteen error codes. `installed_fails` says that no handler it registers returns `ESP_OK`
(`HttpdTables.AllFail`), and `httpdReqHandleErr_fails`, `httpdUri_fails` that then neither function
does, whether or not it finds a handler.

A handler is a function of the request and of the world it runs in. What it sends is no part of
this: `main_handler` answers as in `SmartAp.Http.Path` and sends files as in
`SmartAp.Http.SendFile`, and what the sending functions return never decides about what a handler
returns.
-/

/-! ### Requests and errors -/

/-- `httpd_err_code_t`. -/
inductive HttpdErrCode
  | internalServerError500
  | methodNotImplemented501
  | versionNotSupported505
  | badRequest400
  | unauthorized401
  | forbidden403
  | notFound404
  | methodNotAllowed405
  | reqTimeout408
  | lengthRequired411
  | contentTooLarge413
  | uriTooLong414
  | reqHdrFieldsTooLarge431
  deriving DecidableEq, Repr

/-- `httpd_req_t`, as far as it is filled in while a request is parsed. `uri` is the string without
its terminator. -/
structure HttpdReq where
  method : ℤ := 0
  uri : List UInt8 := []
  contentLen : ℕ := 0

/-- `struct http_parser_url`: the offset and the length of the path, when there is one. -/
structure HttpParserUrl where
  path : Option (ℕ × ℕ) := none

/-- `HTTP_ANY`. -/
def httpAny : ℤ := 2 ^ 31 - 1

/-- `HTTP_GET`. -/
def httpGet : ℤ := 1

/-- `HTTP_HEAD`. -/
def httpHead : ℤ := 2

/-- `HTTP_POST`. -/
def httpPost : ℤ := 3

/-- `HTTP_CONNECT`. -/
def httpConnect : ℤ := 5

/-- The URI as a C string. -/
def HttpdReq.uriStr (r : HttpdReq) : List Char :=
  (r.uri.takeWhile (· ≠ 0)).map fun b ↦ Char.ofNat b.toNat

theorem HttpdReq.nul_not_mem_uriStr (r : HttpdReq) : nul ∉ r.uriStr := by
  intro h
  obtain ⟨b, hb, hchar⟩ := List.mem_map.1 h
  have hne : b ≠ 0 := by simpa using List.mem_takeWhile_imp hb
  have hvalid : b.toNat.isValidChar := .inl (lt_trans b.toNat_lt (by decide))
  have hnat := congrArg Char.toNat hchar
  rw [Char.ofNat, dif_pos hvalid] at hnat
  exact hne (UInt8.toNat_inj.1 hnat)

/-- The request as `main_handler` reads it. -/
def HttpdReq.request (r : HttpdReq) : HttpRequest where
  method :=
    if r.method = httpGet then .get
    else if r.method = httpHead then .head
    else if r.method = httpPost then .post
    else .other r.method.toNat
  uri := r.uriStr
  no_nul := r.nul_not_mem_uriStr

/-! ### Finding a handler -/

/-- `httpd_uri_t`. -/
structure HttpdUri (World : Type) where
  uri : List Char
  method : ℤ
  handler : World → HttpdReq → EspErr

/-- The handlers of a server: `uri_match_fn`, `hd_calls` and `err_handler_fns`. -/
structure HttpdTables (World : Type) where
  uriMatchFn : Option (List Char → List Char → ℕ → Bool)
  calls : List (HttpdUri World) := []
  errHandlers : HttpdErrCode → Option (HttpdReq → HttpdErrCode → EspErr) := fun _ ↦ none

/-- `httpd_uri_match_simple`. -/
def httpdUriMatchSimple (uri₁ uri₂ : List Char) (len₂ : ℕ) : Bool :=
  uri₁.length = len₂ && strncmpEq len₂ uri₁ uri₂

/-- `httpd_uri_match_wildcard`. -/
def httpdUriMatchWildcard (template uri : List Char) (len : ℕ) : Bool :=
  let tplLen := template.length
  let last := if tplLen > 0 then charAt template (tplLen - 1) else nul
  let prevlast := if tplLen > 1 then charAt template (tplLen - 2) else nul
  let asterisk := last = '*' || (prevlast = '*' && last = '?')
  let quest := last = '?' || (prevlast = '?' && last = '*')
  let special := asterisk.toNat + quest.toNat * 2
  if tplLen < special then false
  else
    let exactMatchChars := tplLen - special
    if len < exactMatchChars then false
    else if !quest then
      if !asterisk && len ≠ exactMatchChars then false
      else strncmpEq exactMatchChars template uri
    else if len > exactMatchChars && charAt template exactMatchChars ≠ charAt uri exactMatchChars then
      false
    else if !strncmpEq exactMatchChars template uri then false
    else asterisk || len ≤ exactMatchChars + 1

section Tables

variable {World : Type}

/-- The loop of `httpd_find_uri_handler`; `err` is what the handlers before have left. -/
def findUriHandler (uriMatch : List Char → List Char → ℕ → Bool) (uri : List Char) (uriLen : ℕ)
    (method : ℤ) : List (HttpdUri World) → HttpdErrCode → Option (HttpdUri World) × HttpdErrCode
  | [], err => (none, err)
  | call :: calls, err =>
    if uriMatch call.uri uri uriLen then
      if call.method = method ∨ call.method = httpAny then (some call, .internalServerError500)
      else findUriHandler uriMatch uri uriLen method calls .methodNotAllowed405
    else findUriHandler uriMatch uri uriLen method calls err

variable (t : HttpdTables World)

/-- `httpd_find_uri_handler`: the handler, or why there is none. -/
def httpdFindUriHandler (uri : List Char) (uriLen : ℕ) (method : ℤ) :
    Option (HttpdUri World) × HttpdErrCode :=
  findUriHandler (t.uriMatchFn.getD httpdUriMatchSimple) uri uriLen method t.calls .notFound404

/-- `httpd_req_handle_err`. Without a handler the standard response is sent. -/
def httpdReqHandleErr (req : HttpdReq) (error : HttpdErrCode) : EspErr :=
  match t.errHandlers error with
  | some errHandler =>
    let ret := errHandler req error
    if error = .internalServerError500 then .fail else ret
  | none => .fail

/-- `httpd_uri`. -/
def httpdUri (world : World) (req : HttpdReq) (res : HttpParserUrl) : EspErr :=
  let (uri, err) :=
    match res.path with
    | some (off, len) => httpdFindUriHandler t (req.uriStr.drop off) len req.method
    | none => (none, .internalServerError500)
  match uri with
  | none =>
    match err with
    | .notFound404 => httpdReqHandleErr t req .notFound404
    | .methodNotAllowed405 => httpdReqHandleErr t req .methodNotAllowed405
    | _ => .fail
  | some uri => if uri.handler world req ≠ .ok then .fail else .ok

/-- No handler returns `ESP_OK`. -/
structure HttpdTables.AllFail : Prop where
  calls : ∀ call ∈ t.calls, ∀ world req, call.handler world req ≠ .ok
  errHandlers : ∀ error errHandler, t.errHandlers error = some errHandler →
    ∀ req code, errHandler req code ≠ .ok

variable {t}

theorem mem_of_findUriHandler {uriMatch : List Char → List Char → ℕ → Bool} {uri : List Char}
    {uriLen : ℕ} {method : ℤ} {calls : List (HttpdUri World)} {err err' : HttpdErrCode}
    {call : HttpdUri World}
    (h : findUriHandler uriMatch uri uriLen method calls err = (some call, err')) :
    call ∈ calls := by
  induction calls generalizing err with
  | nil => cases h
  | cons c calls ih =>
    rw [findUriHandler] at h
    split at h
    · split at h
      · cases h
        exact List.mem_cons_self
      · exact List.mem_cons_of_mem _ (ih h)
    · exact List.mem_cons_of_mem _ (ih h)

/-- **An error closes the connection**, with or without a handler for it. -/
theorem httpdReqHandleErr_fails (ht : t.AllFail) (req : HttpdReq) (error : HttpdErrCode) :
    httpdReqHandleErr t req error ≠ .ok := by
  rw [httpdReqHandleErr]
  split
  · rename_i errHandler hfound
    dsimp only
    split
    · exact nofun
    · exact ht.errHandlers error errHandler hfound req error
  · exact nofun

/-- **A request closes the connection**, whichever handler it gets. -/
theorem httpdUri_fails (ht : t.AllFail) (world : World) (req : HttpdReq) (res : HttpParserUrl) :
    httpdUri t world req res ≠ .ok := by
  rw [httpdUri]
  split
  rename_i uri err hfound
  split
  · split
    · exact httpdReqHandleErr_fails ht req _
    · exact httpdReqHandleErr_fails ht req _
    · exact nofun
  · rename_i call
    have hmem : call ∈ t.calls := by
      split at hfound
      · exact mem_of_findUriHandler hfound
      · cases hfound
    rw [if_pos (ht.calls call hmem world req)]
    exact nofun

end Tables

/-! ### What `start_webserver` installs -/

/-- The world of `main_handler`: the storage, and its two stack buffers as they stand. -/
structure MainWorld (cfg : HttpConfig) where
  st : StorageState cfg.mode
  fopen : List Char → Option (List UInt8)
  filepath : CharBuf cfg.maxPathLen
  altPath : CharBuf cfg.maxPathLen

/-- `send_302_close`. -/
def send302Close : EspErr := .fail

section Webserver

variable (cfg : HttpConfig)

/-- What `main_handler` returns, after each of its answers. -/
def mainHandlerRet (world : MainWorld cfg) (req : HttpdReq) : EspErr :=
  match (mainHandler cfg world.st world.fopen world.altPath world.filepath req.request).response with
  -- what `beep_handler` returns is dropped
  | .beep => .fail
  | .headOk => .fail
  | .redirect302 => send302Close
  | .captiveRedirect => .fail
  -- whether or not the transfer was complete
  | .file _ _ => .fail

/-- `parse_err_handler`. -/
def parseErrHandler (_req : HttpdReq) (_err : HttpdErrCode) : EspErr := .fail

/-- `custom_404_handler`. -/
def custom404Handler (_req : HttpdReq) (_err : HttpdErrCode) : EspErr := send302Close

/-- `custom_405_handler`. -/
def custom405Handler (_req : HttpdReq) (_err : HttpdErrCode) : EspErr := send302Close

/-- `"/*"`, the template of `any_wildcard`. -/
def anyWildcardUri : List Char := ['/', '*']

/-- `httpd_register_err_handler`. -/
def HttpdTables.registerErrHandler {World : Type} (t : HttpdTables World) (error : HttpdErrCode)
    (errHandler : HttpdReq → HttpdErrCode → EspErr) : HttpdTables World :=
  { t with errHandlers := Function.update t.errHandlers error (some errHandler) }

/-- The handlers `start_webserver` installs. -/
def webserverTables : HttpdTables (MainWorld cfg) :=
  let t : HttpdTables (MainWorld cfg) :=
    { uriMatchFn := some httpdUriMatchWildcard
      calls := [{ uri := anyWildcardUri, method := httpAny, handler := mainHandlerRet cfg }] }
  let t := t.registerErrHandler .badRequest400 parseErrHandler
  let t := t.registerErrHandler .reqTimeout408 parseErrHandler
  let t := t.registerErrHandler .lengthRequired411 parseErrHandler
  let t := t.registerErrHandler .contentTooLarge413 parseErrHandler
  let t := t.registerErrHandler .uriTooLong414 parseErrHandler
  let t := t.registerErrHandler .reqHdrFieldsTooLarge431 parseErrHandler
  let t := t.registerErrHandler .notFound404 custom404Handler
  t.registerErrHandler .methodNotAllowed405 custom405Handler

variable {cfg}

theorem mainHandlerRet_fails (world : MainWorld cfg) (req : HttpdReq) :
    mainHandlerRet cfg world req ≠ .ok := by
  rw [mainHandlerRet]
  split <;> exact nofun

/-- Registering a handler that never returns `ESP_OK` keeps `AllFail`. -/
theorem HttpdTables.AllFail.registerErrHandler {World : Type} {t : HttpdTables World}
    (ht : t.AllFail) (error : HttpdErrCode) {errHandler : HttpdReq → HttpdErrCode → EspErr}
    (h : ∀ req code, errHandler req code ≠ .ok) :
    (t.registerErrHandler error errHandler).AllFail := by
  refine ⟨ht.calls, fun error' errHandler' hfound ↦ ?_⟩
  change Function.update t.errHandlers error (some errHandler) error' = _ at hfound
  by_cases herror : error' = error
  · subst herror
    rw [Function.update_self] at hfound
    obtain rfl := Option.some.inj hfound
    exact h
  · rw [Function.update_of_ne herror] at hfound
    exact ht.errHandlers error' errHandler' hfound

/-- **No handler of the web server returns `ESP_OK`.** -/
theorem installed_fails : (webserverTables cfg).AllFail := by
  have hmain : HttpdTables.AllFail
      ({ uriMatchFn := some httpdUriMatchWildcard
         calls := [{ uri := anyWildcardUri, method := httpAny, handler := mainHandlerRet cfg }] } :
        HttpdTables (MainWorld cfg)) := by
    refine ⟨fun call hcall world req ↦ ?_, fun _ _ hfound ↦ by cases hfound⟩
    rw [List.mem_singleton.1 hcall]
    exact mainHandlerRet_fails world req
  have hparse : ∀ req code, parseErrHandler req code ≠ .ok := fun _ _ ↦ nofun
  have h404 : ∀ req code, custom404Handler req code ≠ .ok := fun _ _ ↦ nofun
  have h405 : ∀ req code, custom405Handler req code ≠ .ok := fun _ _ ↦ nofun
  exact (((((((hmain.registerErrHandler _ hparse).registerErrHandler _ hparse).registerErrHandler _
    hparse).registerErrHandler _ hparse).registerErrHandler _ hparse).registerErrHandler _
    hparse).registerErrHandler _ h404).registerErrHandler _ h405

end Webserver
