import SmartAp.Http.ParseRequest
import SmartAp.Transition.Guarded
import Mathlib.Data.Fintype.Card

/-!
# The sessions of the HTTP server

The server thread keeps a table of `max_open_sockets` sessions. Each round of `httpd_server` waits
in `select`, looks at the control socket, walks through the table and processes the sessions that
have data, and accepts at most one connection; it listens only when the table has room. A session is
deleted when `httpd_sess_process` does not return `ESP_OK`.

## The system

`HttpdState` is the table with the place in the round; a step is one call (`ServerAction`), with
what the environment answers: what `select` reports and which descriptors it finds invalid, what
`recv` delivers while a request is parsed, which descriptor `accept` returns. A descriptor that
`accept` returns is not open. `HttpdData.trace` is history.

`lru_purge_enable` is false, so that the table is never purged, and nothing is queued for the server
thread but the shutdown message: requests are not handled asynchronously and sessions are not closed
from other tasks.

## The life of a descriptor

`DescriptorPhase.next` is the life of one descriptor: accepted, made a session, processed, closed. A
call that does not fit the phase has no successor; among these are a second `close`, a `process`
that returns `ESP_OK` or is not the first, and an `httpd_sess_new` that fails. `Sound` says that
every descriptor has lived like this and is a session now if and only if a slot holds it, and
`one_request_per_connection` reads off what this means for the table and for each connection.
-/

/-! ### The table -/

/-- `struct sock_db`, as far as requests without a session context use it. -/
structure SockDb where
  fd : ℤ
  lruCounter : ℕ := 0
  /-- The valid part of `pending_data`. -/
  pendingData : List UInt8 := []
  forAsyncReq : Bool := false

/-- What is done with a descriptor. -/
inductive HttpdEvent
  | accept (fd : ℤ)
  /-- `httpd_sess_new`. -/
  | sessNew (fd : ℤ) (ret : EspErr)
  /-- `httpd_sess_process`. -/
  | process (fd : ℤ) (ret : EspErr)
  | close (fd : ℤ)
  /-- `close_fn`, when it is set. -/
  | closeFn (fd : ℤ)
  deriving DecidableEq

/-- `struct httpd_data`; the table has `max_open_sockets` slots. -/
structure HttpdData (n : ℕ) where
  /-- `hd_sd`. -/
  sd : Fin n → SockDb
  /-- `hd_sd_active_count`. -/
  activeCount : ℤ := 0
  lruCounter : ℕ := 0
  /-- `hd_req_aux.sd`: the session of the request in progress. -/
  reqSd : Option (Fin n) := none
  /-- What was done so far, latest first. -/
  trace : List HttpdEvent := []

/-- `httpd_config_t`, without `max_open_sockets`. -/
structure HttpdConfig where
  maxReqHdrLen : ℕ
  maxUriLen : ℕ
  openFn : Option (ℤ → EspErr) := none
  /-- `close_fn` is set. -/
  closeFn : Bool := false

/-- A server: how it is compiled, configured and which handlers it has. -/
structure Httpd (World Parser : Type) where
  kconfig : HttpdKconfig
  config : HttpdConfig
  tables : HttpdTables World
  parser : HttpParser Parser

section Table

variable {n : ℕ} (hd : HttpdData n)

def HttpdData.log (e : HttpdEvent) : HttpdData n := { hd with trace := e :: hd.trace }

/-- `httpd_sess_get_free`. -/
def httpdSessGetFree : Option (Fin n) :=
  if hd.activeCount = n then none else (List.finRange n).find? fun i ↦ (hd.sd i).fd < 0

/-- `httpd_is_sess_available`. -/
def httpdIsSessAvailable : Bool := (httpdSessGetFree hd).isSome

/-- `httpd_sess_get`. -/
def httpdSessGet (sockfd : ℤ) : Option (Fin n) :=
  match hd.reqSd with
  | some i => if (hd.sd i).fd = sockfd then some i else
      (List.finRange n).find? fun i ↦ (hd.sd i).fd = sockfd
  | none => (List.finRange n).find? fun i ↦ (hd.sd i).fd = sockfd

variable (config : HttpdConfig)

/-- `httpd_sess_delete`. -/
def httpdSessDelete (i : Fin n) : HttpdData n :=
  if (hd.sd i).fd < 0 then hd
  else
    let hd :=
      if config.closeFn then hd.log (.closeFn (hd.sd i).fd) else hd.log (.close (hd.sd i).fd)
    let hd := { hd with
      sd := Function.update hd.sd i { hd.sd i with fd := -1 }, activeCount := hd.activeCount - 1 }
    if hd.activeCount = 0 then { hd with lruCounter := 0 } else hd

/-- `httpd_sess_new`. -/
def httpdSessNew (newfd : ℤ) : EspErr × HttpdData n :=
  if (httpdSessGet hd newfd).isSome then (.fail, hd)
  else
    match httpdSessGetFree hd with
    | none => (.fail, hd)
    | some i =>
      let hd := { hd with
        sd := Function.update hd.sd i { fd := newfd, lruCounter := hd.lruCounter }
        activeCount := hd.activeCount + 1 }
      match config.openFn with
      | none => (.ok, hd)
      | some openFn =>
        if openFn newfd ≠ .ok then (openFn newfd, httpdSessDelete hd config i) else (.ok, hd)

/-- `httpd_sess_delete_invalid`; `valid` is `fd_is_valid`. -/
def httpdSessDeleteInvalid (valid : ℤ → Bool) : HttpdData n :=
  (List.finRange n).foldl
    (fun hd i ↦ if valid (hd.sd i).fd then hd else httpdSessDelete hd config i) hd

/-- `httpd_sess_close_all`. -/
def httpdSessCloseAll : HttpdData n :=
  (List.finRange n).foldl
    (fun hd i ↦ if (hd.sd i).fd ≠ -1 then httpdSessDelete hd config i else hd) hd

end Table

/-! ### A request -/

section Request

variable {World Parser : Type} (srv : Httpd World Parser) (env : RequestEnv World) {n : ℕ}

/-- `init_req_aux`. -/
def initReqAux (K : HttpdKconfig) (config : HttpdConfig) : HttpdReqAux :=
  let maxUriLen := if config.maxUriLen > 0 then config.maxUriLen else K.maxUriLen
  { maxReqHdrLen := if config.maxReqHdrLen > 0 then config.maxReqHdrLen else K.maxReqHdrLen
    maxUriLen
    scratchSizeLimit := maxUriLen }

/-- The pending data of the session after a part of its request. -/
def HttpdData.setPending (hd : HttpdData n) (i : Fin n) (s : ParseState Parser) : HttpdData n :=
  { hd with sd := Function.update hd.sd i { hd.sd i with pendingData := s.pending } }

/-- `httpd_req_cleanup`. -/
def httpdReqCleanup (hd : HttpdData n) : HttpdData n := { hd with reqSd := none }

/-- `httpd_req_new`. -/
def httpdReqNew (hd : HttpdData n) (i : Fin n) :
    Option (EspErr × ParseState Parser × HttpdData n) :=
  let hd := { hd with reqSd := some i }
  let s : ParseState Parser :=
    { aux := initReqAux srv.kconfig srv.config, pending := (hd.sd i).pendingData
      parser := srv.parser.init }
  match httpdParseReq srv.kconfig srv.parser env srv.tables s with
  | none => none
  | some (ret, s) =>
    let hd := hd.setPending i s
    some (ret, s, if ret ≠ .ok then httpdReqCleanup hd else hd)

/-- `httpd_req_recv`. -/
def httpdReqRecv (bufLen : ℕ) : StateM (ParseState Parser) (Except SockErr (List UInt8)) := fun s ↦
  let bufLen := min bufLen s.aux.remainingLen
  if bufLen = 0 then (.ok [], s)
  else
    match httpdRecvWithOpt env bufLen .none s with
    | (.error err, s) => (.error err, s)
    | (.ok bytes, s) =>
      (.ok bytes, { s with aux.remainingLen := s.aux.remainingLen - bytes.length })

/-- The loop of `httpd_req_delete`; a round takes at least one byte, so there are no more rounds
than bytes. -/
def purgeLoop (purgeBufLen : ℕ) : ℕ → StateM (ParseState Parser) EspErr
  | 0 => fun s ↦ (.ok, s)
  | rounds + 1 => fun s ↦
    if s.aux.remainingLen = 0 then (.ok, s)
    else
      match httpdReqRecv env (min purgeBufLen s.aux.remainingLen) s with
      | (.ok (_ :: _), s) => purgeLoop purgeBufLen rounds s
      | (_, s) => (.fail, s)

/-- `httpd_req_delete`. -/
def httpdReqDelete (hd : HttpdData n) (i : Fin n) (s : ParseState Parser) : EspErr × HttpdData n :=
  let (ret, s) := purgeLoop env srv.kconfig.purgeBufLen s.aux.remainingLen s
  (ret, httpdReqCleanup (hd.setPending i s))

/-- `httpd_sess_process`. -/
def httpdSessProcess (hd : HttpdData n) (i : Fin n) : Option (EspErr × HttpdData n) :=
  match httpdReqNew srv env hd i with
  | none => none
  | some (ret, s, hd) =>
    if ret ≠ .ok then some (.fail, hd)
    else
      match httpdReqDelete srv env hd i s with
      | (.ok, hd) =>
        some (.ok, { hd with
          lruCounter := hd.lruCounter + 1
          sd := Function.update hd.sd i { hd.sd i with lruCounter := hd.lruCounter + 1 } })
      | (_, hd) => some (.fail, hd)

end Request

/-! ### The server thread -/

/-- An `fd_set` of the server. -/
structure FdSet where
  listen : Bool
  ctrl : Bool
  sessions : List ℤ

/-- Places of `httpd_thread`. -/
inductive ServerPc
  /-- The top of `httpd_server`. -/
  | select
  | ctrl (ready : FdSet)
  /-- `httpd_sess_enum` at a slot. -/
  | session (ready : FdSet) (i : ℕ)
  | accept (ready : FdSet)
  | closeAll
  | stopped

structure HttpdState (n : ℕ) where
  hd : HttpdData n
  pc : ServerPc := .select

/-- What the environment answers. -/
inductive ServerAction (World : Type)
  /-- `select` fails, or reports the descriptors that are ready; then `fd_is_valid`. -/
  | select (ready : Option FdSet) (valid : ℤ → Bool)
  /-- The control message is `HTTPD_CTRL_SHUTDOWN`. -/
  | ctrl (shutdown : Bool)
  | session (env : RequestEnv World)
  /-- `accept` fails or returns a descriptor; the calls of `setsockopt` succeed. -/
  | accept (newFd : Option ℕ) (sockopts : Bool)
  | closeAll

section Server

variable {World Parser : Type} (srv : Httpd World Parser) {n : ℕ}

/-- The read set that `httpd_server` builds. -/
def readSet (hd : HttpdData n) : FdSet where
  listen := httpdIsSessAvailable hd
  ctrl := true
  sessions := (List.finRange n).filterMap fun i ↦
    if (hd.sd i).fd ≠ -1 ∧ (hd.sd i).forAsyncReq = false then some (hd.sd i).fd else none

/-- What `select` leaves in a set. -/
def FdSet.leave (set ready : FdSet) : FdSet where
  listen := set.listen && ready.listen
  ctrl := set.ctrl && ready.ctrl
  sessions := set.sessions.filter (· ∈ ready.sessions)

/-- `httpd_process_session`. -/
def httpdProcessSession (ready : FdSet) (env : RequestEnv World) (hd : HttpdData n) (i : Fin n) :
    Option (HttpdData n) :=
  let fd := (hd.sd i).fd
  if fd < 0 then some hd
  else if (hd.sd i).forAsyncReq then some hd
  else if fd ∈ ready.sessions ∨ (hd.sd i).pendingData ≠ [] then
    match httpdSessProcess srv env hd i with
    | none => none
    | some (ret, hd) =>
      let hd := hd.log (.process fd ret)
      some (if ret ≠ .ok then httpdSessDelete hd srv.config i else hd)
  else some hd

/-- The descriptor was accepted and is not closed. -/
def descriptorOpen (fd : ℤ) : List HttpdEvent → Bool
  | [] => false
  | .accept fd' :: trace => fd' = fd || descriptorOpen fd trace
  | .close fd' :: trace => fd' ≠ fd && descriptorOpen fd trace
  | _ :: trace => descriptorOpen fd trace

/-- `httpd_accept_conn` when `accept` has returned a descriptor. -/
def httpdAcceptConn (hd : HttpdData n) (newFd : ℤ) (sockopts : Bool) : HttpdData n :=
  let hd := hd.log (.accept newFd)
  if !sockopts then hd.log (.close newFd)
  else
    let (ret, hd) := httpdSessNew hd srv.config newFd
    let hd := hd.log (.sessNew newFd ret)
    if ret ≠ .ok then hd.log (.close newFd) else hd

/-- One step of `httpd_thread`. A request that is still being parsed takes no step. -/
def HttpdState.step (s : HttpdState n) (a : ServerAction World) : Option (HttpdState n) :=
  match s.pc, a with
  | .select, .select none valid => some { hd := httpdSessDeleteInvalid s.hd srv.config valid }
  | .select, .select (some ready) _ => some { s with pc := .ctrl ((readSet s.hd).leave ready) }
  | .ctrl ready, .ctrl shutdown =>
    some { s with pc := if ready.ctrl && shutdown then .closeAll else .session ready 0 }
  | .session ready i, .session env =>
    if h : i < n then
      (httpdProcessSession srv ready env s.hd ⟨i, h⟩).map fun hd ↦
        { hd, pc := .session ready (i + 1) }
    else some { s with pc := .accept ready }
  | .accept ready, .accept newFd sockopts =>
    match ready.listen, newFd with
    | true, some newFd =>
      -- `accept` does not return an open descriptor
      if descriptorOpen newFd s.hd.trace then none
      else some { hd := httpdAcceptConn srv s.hd newFd sockopts }
    | _, _ => some { s with pc := .select }
  | .closeAll, .closeAll => some { hd := httpdSessCloseAll s.hd srv.config, pc := .stopped }
  | _, _ => none

/-- `httpd_thread` with `n` slots, after `httpd_sess_init`. -/
def httpdSystem (n : ℕ) : StepSystem (HttpdState n) (ServerAction World) where
  start := { hd := { sd := fun _ ↦ { fd := -1 } } }
  step := HttpdState.step srv

end Server

/-! ### The life of a descriptor -/

/-- What a descriptor is. -/
inductive DescriptorPhase
  | closed
  | accepted
  | session
  | processed
  deriving DecidableEq

def HttpdEvent.fd : HttpdEvent → ℤ
  | .accept fd | .sessNew fd _ | .process fd _ | .close fd | .closeFn fd => fd

/-- What may be done in a phase, and the phase that follows. -/
def DescriptorPhase.next : DescriptorPhase → HttpdEvent → Option DescriptorPhase
  | .closed, .accept _ => some .accepted
  | .accepted, .sessNew _ .ok => some .session
  | .session, .process _ ret => if ret = .ok then none else some .processed
  | .accepted, .close _ | .session, .close _ | .processed, .close _ => some .closed
  | _, _ => none

/-- The phase of a descriptor after a trace, when nothing was done that may not be done. -/
def descriptorPhase (fd : ℤ) : List HttpdEvent → Option DescriptorPhase
  | [] => some .closed
  | e :: trace =>
    (descriptorPhase fd trace).bind fun phase ↦ if e.fd = fd then phase.next e else some phase

/-- The slots that hold a session. -/
def HttpdData.active {n : ℕ} (hd : HttpdData n) : Finset (Fin n) :=
  Finset.univ.filter fun i ↦ 0 ≤ (hd.sd i).fd

/-- What a descriptor is, by the table. -/
def HttpdData.slotPhase {n : ℕ} (hd : HttpdData n) (fd : ℤ) : DescriptorPhase :=
  if ∃ i ∈ hd.active, (hd.sd i).fd = fd then .session else .closed

/-- The table between two calls: the count is the number of sessions, no two slots hold the same
descriptor. -/
structure HttpdData.Table {n : ℕ} (hd : HttpdData n) : Prop where
  count : hd.activeCount = hd.active.card
  injective : ∀ i ∈ hd.active, ∀ j ∈ hd.active, (hd.sd i).fd = (hd.sd j).fd → i = j
  idle : hd.reqSd = none

/-- The phases after the trace. -/
def HttpdData.Phases {n : ℕ} (hd : HttpdData n) (phase : ℤ → DescriptorPhase) : Prop :=
  ∀ fd, descriptorPhase fd hd.trace = some (phase fd)

/-- **The invariant**: the table is right, and every descriptor has lived as it may and is a session
if and only if a slot holds it. -/
structure HttpdData.Sound {n : ℕ} (hd : HttpdData n) : Prop where
  table : hd.Table
  phases : hd.Phases hd.slotPhase

section Sound

variable {World Parser : Type} {srv : Httpd World Parser} {n : ℕ} {hd : HttpdData n} {i : Fin n}
  {fd : ℤ} {phase : ℤ → DescriptorPhase}

theorem mem_active : i ∈ hd.active ↔ 0 ≤ (hd.sd i).fd := by
  rw [HttpdData.active, Finset.mem_filter_univ]

theorem active_of_fd {hd' : HttpdData n} (h : ∀ j, (hd'.sd j).fd = (hd.sd j).fd) :
    hd'.active = hd.active := by
  ext j
  rw [mem_active, mem_active, h]

/-- The phases depend on the descriptors in the table only. -/
theorem slotPhase_of_fd {hd' : HttpdData n} (h : ∀ j, (hd'.sd j).fd = (hd.sd j).fd) :
    hd'.slotPhase = hd.slotPhase := by
  funext fd
  simp only [HttpdData.slotPhase, active_of_fd h, h]

theorem slotPhase_of_mem (h : i ∈ hd.active) : hd.slotPhase (hd.sd i).fd = .session :=
  if_pos ⟨i, h, rfl⟩

/-- A call that fits the phase of its descriptor. -/
theorem HttpdData.Phases.log (h : hd.Phases phase) {e : HttpdEvent} {next : DescriptorPhase}
    (he : (phase e.fd).next e = some next) :
    (hd.log e).Phases (Function.update phase e.fd next) := by
  intro fd
  change (descriptorPhase fd hd.trace).bind _ = _
  rw [h fd, Option.bind_some]
  by_cases hfd : e.fd = fd
  · subst hfd
    rw [if_pos rfl, Function.update_self, he]
  · rw [if_neg hfd, Function.update_of_ne (Ne.symm hfd)]

/-! ### Deleting and making a session -/

/-- What `httpd_sess_delete` does to a session. -/
theorem httpdSessDelete_eq {config : HttpdConfig} (hclose : config.closeFn = false)
    (hi : i ∈ hd.active) :
    (∀ j, ((httpdSessDelete hd config i).sd j).fd = if j = i then -1 else (hd.sd j).fd) ∧
      (httpdSessDelete hd config i).activeCount = hd.activeCount - 1 ∧
      (httpdSessDelete hd config i).reqSd = hd.reqSd ∧
      (httpdSessDelete hd config i).trace = .close (hd.sd i).fd :: hd.trace := by
  rw [httpdSessDelete, if_neg (not_lt.2 (mem_active.1 hi)), hclose, if_neg Bool.false_ne_true]
  dsimp only
  have hfd : ∀ j, (Function.update hd.sd i { hd.sd i with fd := -1 } j).fd =
      if j = i then -1 else (hd.sd j).fd := by
    intro j
    by_cases hj : j = i
    · rw [hj, Function.update_self, if_pos rfl]
    · rw [Function.update_of_ne hj, if_neg hj]
  split
  · exact ⟨hfd, rfl, rfl, rfl⟩
  · exact ⟨hfd, rfl, rfl, rfl⟩

/-- Deleting frees the slot. -/
theorem active_httpdSessDelete {config : HttpdConfig} (hclose : config.closeFn = false)
    (hd : HttpdData n) (i : Fin n) : (httpdSessDelete hd config i).active = hd.active.erase i := by
  by_cases hi : i ∈ hd.active
  · obtain ⟨hfd, -⟩ := httpdSessDelete_eq hclose hi
    ext j
    rw [mem_active, hfd, Finset.mem_erase, mem_active]
    split
    · rename_i hj
      simp [hj]
    · rename_i hj
      simp [hj]
  · rw [httpdSessDelete, if_pos (not_le.1 fun hle ↦ hi (mem_active.2 hle)),
      Finset.erase_eq_of_notMem hi]

/-- **Deleting a session** that is a session by its phase or was just processed. -/
theorem sound_delete {config : HttpdConfig} (hclose : config.closeFn = false) (htable : hd.Table)
    (hi : i ∈ hd.active) {p : DescriptorPhase} (hp : p = .session ∨ p = .processed)
    (hphases : hd.Phases (Function.update hd.slotPhase (hd.sd i).fd p)) :
    (httpdSessDelete hd config i).Sound := by
  obtain ⟨hfd, hcount, hidle, htrace⟩ := httpdSessDelete_eq hclose hi
  have hactive := active_httpdSessDelete hclose hd i
  have hslot : (httpdSessDelete hd config i).slotPhase =
      Function.update hd.slotPhase (hd.sd i).fd .closed := by
    funext fd
    by_cases hsame : fd = (hd.sd i).fd
    · rw [hsame, Function.update_self, HttpdData.slotPhase, if_neg]
      rintro ⟨j, hj, hjfd⟩
      rw [hactive, Finset.mem_erase] at hj
      rw [hfd, if_neg hj.1] at hjfd
      exact hj.1 (htable.injective j hj.2 i hi hjfd)
    · rw [Function.update_of_ne hsame, HttpdData.slotPhase, HttpdData.slotPhase]
      refine if_congr ⟨?_, ?_⟩ rfl rfl
      · rintro ⟨j, hj, hjfd⟩
        rw [hactive, Finset.mem_erase] at hj
        rw [hfd, if_neg hj.1] at hjfd
        exact ⟨j, hj.2, hjfd⟩
      · rintro ⟨j, hj, rfl⟩
        have hne : j ≠ i := fun hji ↦ hsame (by rw [hji])
        exact ⟨j, by rw [hactive]; exact Finset.mem_erase.2 ⟨hne, hj⟩, by rw [hfd, if_neg hne]⟩
  refine ⟨⟨?_, ?_, hidle.trans htable.idle⟩, ?_⟩
  · have hpos := Finset.card_pos.2 ⟨i, hi⟩
    rw [hcount, hactive, Finset.card_erase_of_mem hi, htable.count]
    omega
  · intro j hj k hk hjk
    rw [hactive, Finset.mem_erase] at hj hk
    rw [hfd, hfd, if_neg hj.1, if_neg hk.1] at hjk
    exact htable.injective j hj.2 k hk.2 hjk
  · have hnext : (Function.update hd.slotPhase (hd.sd i).fd p (hd.sd i).fd).next
        (.close (hd.sd i).fd) = some .closed := by
      rw [Function.update_self]
      rcases hp with rfl | rfl <;> rfl
    have hlog : (hd.log (.close (hd.sd i).fd)).Phases
        (Function.update (Function.update hd.slotPhase (hd.sd i).fd p) (hd.sd i).fd .closed) :=
      hphases.log hnext
    rw [Function.update_idem] at hlog
    intro fd
    rw [htrace, hslot]
    exact hlog fd

/-- The table with a descriptor that is about to become a session, before and after. -/
theorem sound_new {hd' : HttpdData n} (htable : hd.Table) (hi : i ∉ hd.active) (hfd : 0 ≤ fd)
    (hfresh : hd.slotPhase fd = .closed)
    (hsd : ∀ j, (hd'.sd j).fd = if j = i then fd else (hd.sd j).fd)
    (hcount : hd'.activeCount = hd.activeCount + 1) (hidle : hd'.reqSd = none)
    (hphases : hd'.Phases (Function.update hd.slotPhase fd .session)) : hd'.Sound := by
  have hnone : ∀ j ∈ hd.active, (hd.sd j).fd ≠ fd := by
    rintro j hj rfl
    rw [slotPhase_of_mem hj] at hfresh
    cases hfresh
  have hactive : hd'.active = insert i hd.active := by
    ext j
    rw [mem_active, hsd, Finset.mem_insert, mem_active]
    split
    · rename_i hj
      simp [hj, hfd]
    · rename_i hj
      simp [hj]
  have hne : ∀ j ∈ hd.active, j ≠ i := fun j hj hji ↦ hi (hji ▸ hj)
  have hslot : hd'.slotPhase = Function.update hd.slotPhase fd .session := by
    funext fd'
    by_cases hsame : fd' = fd
    · rw [hsame, Function.update_self, HttpdData.slotPhase, if_pos]
      exact ⟨i, by rw [hactive]; exact Finset.mem_insert_self _ _, by rw [hsd, if_pos rfl]⟩
    · rw [Function.update_of_ne hsame, HttpdData.slotPhase, HttpdData.slotPhase]
      refine if_congr ⟨?_, ?_⟩ rfl rfl
      · rintro ⟨j, hj, hjfd⟩
        rw [hactive, Finset.mem_insert] at hj
        rw [hsd] at hjfd
        rcases hj with hj | hj
        · rw [if_pos hj] at hjfd
          exact absurd hjfd.symm hsame
        · rw [if_neg (hne j hj)] at hjfd
          exact ⟨j, hj, hjfd⟩
      · rintro ⟨j, hj, hjfd⟩
        refine ⟨j, ?_, ?_⟩
        · rw [hactive]
          exact Finset.mem_insert_of_mem hj
        · rw [hsd, if_neg (hne j hj)]
          exact hjfd
  refine ⟨⟨?_, ?_, hidle⟩, hslot ▸ hphases⟩
  · rw [hcount, hactive, Finset.card_insert_of_notMem hi, htable.count]
    omega
  · intro j hj k hk hjk
    rw [hactive, Finset.mem_insert] at hj hk
    rw [hsd, hsd] at hjk
    rcases hj with rfl | hj <;> rcases hk with rfl | hk
    · rfl
    · rw [if_pos rfl, if_neg (hne k hk)] at hjk
      exact absurd hjk.symm (hnone k hk)
    · rw [if_pos rfl, if_neg (hne j hj)] at hjk
      exact absurd hjk (hnone j hj)
    · rw [if_neg (hne j hj), if_neg (hne k hk)] at hjk
      exact htable.injective j hj k hk hjk

/-- A session that was not processed may be deleted too. -/
theorem HttpdData.Sound.delete {config : HttpdConfig} (hclose : config.closeFn = false)
    (h : hd.Sound) (i : Fin n) : (httpdSessDelete hd config i).Sound := by
  by_cases hi : i ∈ hd.active
  · refine sound_delete hclose h.table hi (.inl rfl) ?_
    rw [← slotPhase_of_mem hi, Function.update_eq_self]
    exact h.phases
  · rw [httpdSessDelete, if_pos (not_le.1 fun hle ↦ hi (mem_active.2 hle))]
    exact h

/-! ### Room in the table -/

/-- **There is a free slot** if and only if the count says so. -/
theorem httpdIsSessAvailable_iff (h : hd.Table) :
    httpdIsSessAvailable hd = true ↔ ∃ i, i ∉ hd.active := by
  rw [httpdIsSessAvailable, httpdSessGetFree]
  split
  · rename_i hfull
    rw [h.count] at hfull
    have huniv : hd.active = Finset.univ := by
      rw [← Finset.card_eq_iff_eq_univ, Fintype.card_fin]
      omega
    simp [huniv]
  · simp [List.find?_isSome, mem_active]

theorem not_mem_active_of_httpdSessGetFree (h : httpdSessGetFree hd = some i) : i ∉ hd.active := by
  rw [httpdSessGetFree] at h
  split at h
  · cases h
  · rw [mem_active, not_le]
    simpa using List.find?_some h

/-- A descriptor that is no session is not found. -/
theorem httpdSessGet_eq_none (h : hd.Table) (hfd : 0 ≤ fd) (hfresh : hd.slotPhase fd = .closed) :
    httpdSessGet hd fd = none := by
  rw [httpdSessGet, h.idle]
  refine List.find?_eq_none.2 fun j _ hj ↦ ?_
  obtain rfl : (hd.sd j).fd = fd := by simpa using hj
  rw [slotPhase_of_mem (mem_active.2 hfd)] at hfresh
  cases hfresh

/-! ### The calls of a round -/

/-- Between the sessions nothing but the contents of a slot has changed. -/
structure SameSessions (hd hd' : HttpdData n) : Prop where
  fd : ∀ j, (hd'.sd j).fd = (hd.sd j).fd
  count : hd'.activeCount = hd.activeCount
  trace : hd'.trace = hd.trace

theorem fd_update {sd : Fin n → SockDb} {slot : SockDb} (h : slot.fd = (sd i).fd) (j : Fin n) :
    (Function.update sd i slot j).fd = (sd j).fd := by
  by_cases hj : j = i
  · rw [hj, Function.update_self, h]
  · rw [Function.update_of_ne hj]

/-- **A request is processed in a bounded number of rounds and never with `ESP_OK`**, when no
handler returns it; the table is the same. -/
theorem httpdSessProcess_fails (ht : srv.tables.AllFail) (env : RequestEnv World)
    (hd : HttpdData n) (i : Fin n) :
    ∃ hd', httpdSessProcess srv env hd i = some (.fail, hd') ∧ SameSessions hd hd' ∧
      hd'.reqSd = none := by
  obtain ⟨ret, s, hparse, hret⟩ := httpdParseReq_fails srv.kconfig srv.parser env ht
    { aux := initReqAux srv.kconfig srv.config, pending := (hd.sd i).pendingData
      parser := srv.parser.init } rfl
  rw [httpdSessProcess, httpdReqNew]
  dsimp only
  rw [hparse]
  dsimp only
  rw [if_pos hret, if_pos hret]
  exact ⟨_, rfl, ⟨fd_update rfl, rfl, rfl⟩, rfl⟩

/-- **Processing a session and deleting it.** -/
theorem HttpdData.Sound.process {config : HttpdConfig} (hclose : config.closeFn = false)
    (h : hd.Sound) (hi : i ∈ hd.active) {hd₁ : HttpdData n} (hsame : SameSessions hd hd₁)
    (hidle : hd₁.reqSd = none) :
    (httpdSessDelete (hd₁.log (.process (hd.sd i).fd .fail)) config i).Sound := by
  have hphases : (hd₁.log (.process (hd.sd i).fd .fail)).Phases
      (Function.update hd.slotPhase (hd.sd i).fd .processed) :=
    HttpdData.Phases.log (fun fd ↦ hsame.trace ▸ h.phases fd)
      (congrArg (·.next (.process (hd.sd i).fd .fail)) (slotPhase_of_mem hi))
  have hfd : ∀ j, ((hd₁.log (.process (hd.sd i).fd .fail)).sd j).fd = (hd.sd j).fd := hsame.fd
  have hactive := active_of_fd hfd
  refine sound_delete hclose ⟨?_, fun j hj k hk hjk ↦ ?_, hidle⟩ (hactive ▸ hi) (.inr rfl) ?_
  · rw [hactive]
    exact hsame.count.trans h.table.count
  · rw [hactive] at hj hk
    rw [hfd, hfd] at hjk
    exact h.table.injective j hj k hk hjk
  · rw [slotPhase_of_fd hfd, hfd]
    exact hphases

/-- **A slot in a round**: the invariant is kept and no session is made. -/
theorem httpdProcessSession_spec (ht : srv.tables.AllFail) (hclose : srv.config.closeFn = false)
    (h : hd.Sound) (ready : FdSet) (env : RequestEnv World) (i : Fin n) :
    ∃ hd', httpdProcessSession srv ready env hd i = some hd' ∧ hd'.Sound ∧
      hd'.active ⊆ hd.active := by
  rw [httpdProcessSession]
  dsimp only
  split
  · exact ⟨hd, rfl, h, subset_rfl⟩
  rename_i hfd
  have hi : i ∈ hd.active := mem_active.2 (not_lt.1 hfd)
  split
  · exact ⟨hd, rfl, h, subset_rfl⟩
  split
  · obtain ⟨hd₁, hprocess, hsame, hidle⟩ := httpdSessProcess_fails ht env hd i
    rw [hprocess]
    refine ⟨_, rfl, h.process hclose hi hsame hidle, ?_⟩
    have hactive : (hd₁.log (.process (hd.sd i).fd .fail)).active = hd.active :=
      active_of_fd hsame.fd
    rw [if_pos nofun, active_httpdSessDelete hclose, hactive]
    exact Finset.erase_subset _ _
  · exact ⟨hd, rfl, h, subset_rfl⟩

theorem httpdSessDeleteInvalid_sound {config : HttpdConfig} (hclose : config.closeFn = false)
    (h : hd.Sound) (valid : ℤ → Bool) : (httpdSessDeleteInvalid hd config valid).Sound := by
  refine List.foldlRecOn _ _ h fun hd hsound i _ ↦ ?_
  split
  · exact hsound
  · exact hsound.delete hclose i

/-- **Closing all** leaves no session. -/
theorem httpdSessCloseAll_spec {config : HttpdConfig} (hclose : config.closeFn = false)
    (h : hd.Sound) :
    (httpdSessCloseAll hd config).Sound ∧ (httpdSessCloseAll hd config).active = ∅ := by
  constructor
  · refine List.foldlRecOn _ _ h fun hd hsound i _ ↦ ?_
    split
    · exact hsound.delete hclose i
    · exact hsound
  · have hslots : ∀ (slots : List (Fin n)) (hd : HttpdData n),
        (slots.foldl (fun hd i ↦ if (hd.sd i).fd ≠ -1 then httpdSessDelete hd config i else hd)
          hd).active ⊆ hd.active \ slots.toFinset := by
      intro slots
      induction slots with
      | nil => exact fun hd ↦ by simp
      | cons i slots ih =>
        intro hd
        have hone : (if (hd.sd i).fd ≠ -1 then httpdSessDelete hd config i else hd).active ⊆
            hd.active.erase i := by
          split
          · rw [active_httpdSessDelete hclose]
          · rename_i hfree
            have hi : i ∉ hd.active := by
              rw [mem_active, not_not.1 hfree]
              decide
            rw [Finset.erase_eq_of_notMem hi]
        refine (ih _).trans ?_
        rw [List.toFinset_cons, Finset.sdiff_insert, ← Finset.erase_sdiff_comm]
        exact Finset.sdiff_subset_sdiff hone subset_rfl
    have hall := hslots (List.finRange n) hd
    rw [List.toFinset_finRange, Finset.sdiff_eq_empty_iff_subset.2 (Finset.subset_univ _)] at hall
    exact Finset.subset_empty.1 hall

/-! ### Accepting a connection -/

/-- What was done last: something that fits the phase before, or something with another
descriptor. -/
theorem phase_cons {e : HttpdEvent} {trace : List HttpdEvent} {p : DescriptorPhase}
    (h : descriptorPhase fd (e :: trace) = some p) :
    ∃ q, descriptorPhase fd trace = some q ∧
      (e.fd = fd ∧ q.next e = some p ∨ e.fd ≠ fd ∧ q = p) := by
  obtain ⟨q, hq, hnext⟩ := Option.bind_eq_some_iff.1 h
  split at hnext
  · rename_i hfd
    exact ⟨q, hq, .inl ⟨hfd, hnext⟩⟩
  · rename_i hfd
    exact ⟨q, hq, .inr ⟨hfd, Option.some.inj hnext⟩⟩

/-- An open descriptor is one whose phase is not `closed`. -/
theorem descriptorOpen_eq {trace : List HttpdEvent} {p : DescriptorPhase}
    (h : descriptorPhase fd trace = some p) : descriptorOpen fd trace = decide (p ≠ .closed) := by
  induction trace generalizing p with
  | nil =>
    obtain rfl := Option.some.inj h
    rfl
  | cons e trace ih =>
    obtain ⟨before, hbefore, ⟨hfd, hnext⟩ | ⟨hfd, rfl⟩⟩ := phase_cons h
    · have hopen := ih hbefore
      cases e with
      | accept fd' =>
        obtain rfl : fd' = fd := hfd
        cases before <;> cases hnext
        simp [descriptorOpen]
      | close fd' =>
        obtain rfl : fd' = fd := hfd
        cases before <;> cases hnext <;> simp [descriptorOpen]
      | sessNew fd' ret =>
        change descriptorOpen fd trace = _
        cases before <;> cases ret <;> cases hnext
        exact hopen
      | process fd' ret =>
        change descriptorOpen fd trace = _
        cases before <;> cases ret <;> cases hnext <;> exact hopen
      | closeFn fd' => cases before <;> cases hnext
    · rw [← ih hbefore]
      cases e with
      | accept fd' => simp [descriptorOpen, show fd' ≠ fd from hfd]
      | close fd' => simp [descriptorOpen, show fd' ≠ fd from hfd]
      | _ => rfl

/-- **A new connection finds a free slot.** -/
theorem httpdSessNew_eq {config : HttpdConfig} (hopen : config.openFn = none) (h : hd.Table)
    (hroom : ∃ i, i ∉ hd.active) (hfd : 0 ≤ fd) (hfresh : hd.slotPhase fd = .closed) :
    ∃ i, i ∉ hd.active ∧ httpdSessNew hd config fd = (.ok, { hd with
      sd := Function.update hd.sd i { fd, lruCounter := hd.lruCounter }
      activeCount := hd.activeCount + 1 }) := by
  obtain ⟨i, hfree⟩ := Option.isSome_iff_exists.1 ((httpdIsSessAvailable_iff h).2 hroom)
  refine ⟨i, not_mem_active_of_httpdSessGetFree hfree, ?_⟩
  rw [httpdSessNew, httpdSessGet_eq_none h hfd hfresh, hfree, hopen]
  rfl

/-- **Accepting a connection** when there is room. -/
theorem httpdAcceptConn_sound (hopen : srv.config.openFn = none) (h : hd.Sound)
    (hroom : ∃ i, i ∉ hd.active) (hfd : 0 ≤ fd) (hfresh : descriptorOpen fd hd.trace = false)
    (sockopts : Bool) : (httpdAcceptConn srv hd fd sockopts).Sound := by
  have hclosed : hd.slotPhase fd = .closed := by
    have hphase := descriptorOpen_eq (h.phases fd)
    rw [hfresh] at hphase
    simpa using hphase
  have haccept : (hd.log (.accept fd)).Phases (Function.update hd.slotPhase fd .accepted) :=
    HttpdData.Phases.log h.phases (congrArg (·.next (.accept fd)) hclosed)
  have htable : (hd.log (.accept fd)).Table := ⟨h.table.count, h.table.injective, h.table.idle⟩
  have hself : (Function.update hd.slotPhase fd .accepted fd) = .accepted := Function.update_self ..
  rw [httpdAcceptConn]
  dsimp only
  split
  · -- a call of `setsockopt` fails
    have hclose : ((hd.log (.accept fd)).log (.close fd)).Phases
        (Function.update (Function.update hd.slotPhase fd .accepted) fd .closed) :=
      haccept.log (congrArg (·.next (.close fd)) hself)
    rw [Function.update_idem, ← hclosed, Function.update_eq_self] at hclose
    exact ⟨⟨h.table.count, h.table.injective, h.table.idle⟩, hclose⟩
  · obtain ⟨i, hi, hnew⟩ := httpdSessNew_eq hopen htable hroom hfd hclosed
    rw [hnew]
    dsimp only
    rw [if_neg (not_not.2 rfl)]
    have hphases : ((hd.log (.accept fd)).log (.sessNew fd .ok)).Phases
        (Function.update (Function.update hd.slotPhase fd .accepted) fd .session) :=
      haccept.log (congrArg (·.next (.sessNew fd .ok)) hself)
    rw [Function.update_idem] at hphases
    refine sound_new h.table hi hfd hclosed (fun j ↦ ?_) rfl h.table.idle hphases
    change (Function.update hd.sd i _ j).fd = _
    split
    · rename_i hj
      rw [hj, Function.update_self]
    · rename_i hj
      rw [Function.update_of_ne hj]

end Sound

/-! ### The run -/

/-- The read set in use. -/
def ServerPc.ready : ServerPc → Option FdSet
  | .ctrl ready | .session ready _ | .accept ready => some ready
  | _ => none

/-- The invariant of the thread: the server listens only while there is room. -/
structure HttpdState.Inv {n : ℕ} (s : HttpdState n) : Prop where
  sound : s.hd.Sound
  room : ∀ ready, s.pc.ready = some ready → ready.listen = true → ∃ i, i ∉ s.hd.active
  stopped : s.pc = .stopped → s.hd.active = ∅

section Run

variable {World Parser : Type} {srv : Httpd World Parser} {n : ℕ} {s s' : HttpdState n}

/-- **One step keeps the invariant.** -/
theorem HttpdState.Inv.step (ht : srv.tables.AllFail) (hclose : srv.config.closeFn = false)
    (hopen : srv.config.openFn = none) (h : s.Inv) {a : ServerAction World}
    (hstep : s.step srv a = some s') : s'.Inv := by
  obtain ⟨hsound, hroom, hstopped⟩ := h
  unfold HttpdState.step at hstep
  split at hstep
  · -- `select` fails
    obtain rfl := Option.some.inj hstep
    exact ⟨httpdSessDeleteInvalid_sound hclose hsound _, nofun, nofun⟩
  · -- `select` returns
    obtain rfl := Option.some.inj hstep
    refine ⟨hsound, fun ready hready hlisten ↦ ?_, nofun⟩
    obtain rfl := Option.some.inj hready
    rw [FdSet.leave, Bool.and_eq_true] at hlisten
    exact (httpdIsSessAvailable_iff hsound.table).1 hlisten.1
  · rename_i hpc
    obtain rfl := Option.some.inj hstep
    refine ⟨hsound, fun ready hready hlisten ↦ ?_, ?_⟩
    · dsimp only at hready
      split at hready
      · cases hready
      · obtain rfl := Option.some.inj hready
        exact hroom _ (hpc ▸ rfl) hlisten
    · dsimp only
      split <;> exact nofun
  · rename_i ready i env hpc
    split at hstep
    · rename_i hi
      obtain ⟨hd, hprocess, hsound', hactive⟩ :=
        httpdProcessSession_spec ht hclose hsound ready env ⟨i, hi⟩
      rw [hprocess] at hstep
      obtain rfl := Option.some.inj hstep
      refine ⟨hsound', fun ready' hready hlisten ↦ ?_, nofun⟩
      obtain rfl := Option.some.inj hready
      obtain ⟨j, hj⟩ := hroom ready (hpc ▸ rfl) hlisten
      exact ⟨j, fun hmem ↦ hj (hactive hmem)⟩
    · obtain rfl := Option.some.inj hstep
      refine ⟨hsound, fun ready' hready hlisten ↦ ?_, nofun⟩
      obtain rfl := Option.some.inj hready
      exact hroom ready (hpc ▸ rfl) hlisten
  · rename_i ready newFd sockopts hpc
    split at hstep
    · rename_i newFd hlisten
      split at hstep
      · cases hstep
      · rename_i hfresh
        obtain rfl := Option.some.inj hstep
        exact ⟨httpdAcceptConn_sound hopen hsound (hroom ready (hpc ▸ rfl) hlisten)
          (Int.natCast_nonneg _) (Bool.eq_false_iff.2 hfresh) sockopts, nofun, nofun⟩
    · obtain rfl := Option.some.inj hstep
      exact ⟨hsound, nofun, nofun⟩
  · obtain rfl := Option.some.inj hstep
    obtain ⟨hsound', hempty⟩ := httpdSessCloseAll_spec hclose hsound
    exact ⟨hsound', nofun, fun _ ↦ hempty⟩
  · cases hstep

/-- **The invariant holds in every reachable state.** -/
theorem reachable_inv (ht : srv.tables.AllFail) (hclose : srv.config.closeFn = false)
    (hopen : srv.config.openFn = none) (h : (httpdSystem srv n).Reachable s) : s.Inv := by
  have hactive : (httpdSystem srv n).start.hd.active = ∅ := by
    refine Finset.eq_empty_of_forall_notMem fun i hi ↦ ?_
    have hneg : (0 : ℤ) ≤ -1 := mem_active.1 hi
    omega
  have hsound : (httpdSystem srv n).start.hd.Sound := by
    refine ⟨⟨?_, fun i hi ↦ ?_, rfl⟩, fun fd ↦ ?_⟩
    · rw [hactive]
      rfl
    · rw [hactive] at hi
      cases hi
    · rw [HttpdData.slotPhase, hactive, if_neg]
      · rfl
      · rintro ⟨i, hi, -⟩
        cases hi
  have hstart : (httpdSystem srv n).start.Inv := by
    refine ⟨hsound, fun ready hready ↦ ?_, fun hstopped ↦ ?_⟩
    · cases hready
    · cases hstopped
  exact h.invariant (I := HttpdState.Inv) hstart fun s a s' _ hinv _ hstep ↦
    hinv.step ht hclose hopen hstep

end Run

/-! ### What a life says -/

section Life

variable {fd : ℤ} {trace later earlier : List HttpdEvent} {p : DescriptorPhase}

/-- A life has a past. -/
theorem exists_phase_of_append (h : descriptorPhase fd (later ++ earlier) = some p) :
    ∃ q, descriptorPhase fd earlier = some q := by
  induction later generalizing p with
  | nil => exact ⟨p, h⟩
  | cons e later ih =>
    obtain ⟨q, hq, -⟩ := phase_cons h
    exact ih hq

/-- The first and only request of a session, and it fails. -/
theorem phase_process {ret : EspErr}
    (h : descriptorPhase fd (.process fd ret :: earlier) = some p) :
    descriptorPhase fd earlier = some .session ∧ p = .processed ∧ ret ≠ .ok := by
  obtain ⟨q, hq, ⟨-, hnext⟩ | ⟨hfd, -⟩⟩ := phase_cons h
  · cases q with
    | session =>
      change (if ret = .ok then none else some DescriptorPhase.processed) = some p at hnext
      split at hnext
      · cases hnext
      · rename_i hret
        exact ⟨hq, (Option.some.inj hnext).symm, hret⟩
    | _ => cases hnext
  · exact absurd rfl hfd

/-- `httpd_sess_new` has succeeded. -/
theorem phase_sessNew {ret : EspErr}
    (h : descriptorPhase fd (.sessNew fd ret :: earlier) = some p) : ret = .ok := by
  obtain ⟨q, -, ⟨-, hnext⟩ | ⟨hfd, -⟩⟩ := phase_cons h
  · cases q <;> cases ret <;> first | rfl | cases hnext
  · exact absurd rfl hfd

/-- **What was processed stays so until it is closed.** -/
theorem close_mem_of_processed (hearlier : descriptorPhase fd earlier = some .processed)
    (h : descriptorPhase fd (later ++ earlier) = some p) (hp : p ≠ .processed) :
    .close fd ∈ later := by
  induction later generalizing p with
  | nil => exact absurd (Option.some.inj (h.symm.trans hearlier)) hp
  | cons e later ih =>
    obtain ⟨q, hq, ⟨hfd, hnext⟩ | ⟨-, rfl⟩⟩ := phase_cons h
    · cases q with
      | processed =>
        cases e with
        | close fd' =>
          obtain rfl : fd' = fd := hfd
          exact List.mem_cons_self
        | _ => cases hnext
      | _ => exact List.mem_cons_of_mem _ (ih hq nofun)
    · exact List.mem_cons_of_mem _ (ih hq hp)

/-- **Every descriptor that was accepted is closed once**, unless it is still open. -/
theorem count_close_of_phase (h : descriptorPhase fd trace = some p) :
    trace.count (.close fd) + (if p = .closed then 0 else 1) = trace.count (.accept fd) := by
  induction trace generalizing p with
  | nil =>
    obtain rfl := Option.some.inj h
    rfl
  | cons e trace ih =>
    obtain ⟨q, hq, ⟨hfd, hnext⟩ | ⟨hfd, rfl⟩⟩ := phase_cons h
    · have hcount := ih hq
      cases e with
      | accept fd' =>
        obtain rfl : fd' = fd := hfd
        cases q <;> cases hnext
        simpa using hcount
      | close fd' =>
        obtain rfl : fd' = fd := hfd
        cases q <;> cases hnext <;> simpa using hcount
      | sessNew fd' ret =>
        cases q <;> cases ret <;> cases hnext
        simpa using hcount
      | process fd' ret =>
        cases q <;> cases ret <;> cases hnext <;> simpa using hcount
      | closeFn fd' => cases q <;> cases hnext
    · have hclose : .close fd ≠ e := fun he ↦ hfd (he ▸ rfl)
      have haccept : .accept fd ≠ e := fun he ↦ hfd (he ▸ rfl)
      rw [List.count_cons_of_ne hclose.symm, List.count_cons_of_ne haccept.symm]
      exact ih hq

end Life

/-! ### The web server -/

/-- The configuration of `start_webserver`: `HTTPD_DEFAULT_CONFIG()` without `open_fn` and
`close_fn`. -/
def webserverConfig (K : HttpdKconfig) : HttpdConfig where
  maxReqHdrLen := K.maxReqHdrLen
  maxUriLen := K.maxUriLen

/-- The server that `start_webserver` starts. -/
def webserver {Parser : Type} (K : HttpdKconfig) (cfg : HttpConfig) (P : HttpParser Parser) :
    Httpd (MainWorld cfg) Parser where
  kconfig := K
  config := webserverConfig K
  tables := webserverTables cfg
  parser := P

/-- **One request per connection, and no slot is lost.** -/
structure OneRequestPerConnection {World Parser : Type} (srv : Httpd World Parser) {n : ℕ}
    (s : HttpdState n) : Prop where
  /-- Whatever a client does, `httpd_sess_process` returns, and not with `ESP_OK`. -/
  fails : ∀ env i, ∃ ret hd, httpdSessProcess srv env s.hd i = some (ret, hd) ∧ ret ≠ .ok
  failed : ∀ fd ret, .process fd ret ∈ s.hd.trace → ret ≠ .ok
  /-- A session that was processed was deleted, and before a descriptor is processed again. -/
  deleted : ∀ fd ret later earlier,
    s.hd.trace = later ++ .process fd ret :: earlier → .close fd ∈ later
  once : ∀ fd ret ret' later between earlier,
    s.hd.trace = later ++ .process fd ret' :: (between ++ .process fd ret :: earlier) →
      .close fd ∈ between
  count : s.hd.activeCount = (Finset.univ.filter fun i ↦ 0 ≤ (s.hd.sd i).fd).card
  count_le : s.hd.activeCount ≤ n
  /-- The descriptors have lived as they may, and those in the table are sessions. -/
  lives : ∀ fd, descriptorPhase fd s.hd.trace = some (s.hd.slotPhase fd)
  closed_once : ∀ fd,
    s.hd.trace.count (.close fd) + (if ∃ i ∈ s.hd.active, (s.hd.sd i).fd = fd then 1 else 0) =
      s.hd.trace.count (.accept fd)
  stopped : s.pc = .stopped → ∀ i, (s.hd.sd i).fd < 0
  free_slot : ∀ fd ret, .sessNew fd ret ∈ s.hd.trace → ret = .ok

theorem slotPhase_ne_processed {n : ℕ} (hd : HttpdData n) (fd : ℤ) :
    hd.slotPhase fd ≠ .processed := by
  rw [HttpdData.slotPhase]
  split <;> exact nofun

/-- **One request per connection.** For every parser, whatever `select`, `accept` and the clients
do, in every reachable state: no request is processed with `ESP_OK`, so that each session is
processed at most once and then deleted; the count is that of the slots in use; every descriptor is
closed exactly once when its session ends; and every connection has found a free slot. -/
theorem one_request_per_connection {Parser : Type} {K : HttpdKconfig} {cfg : HttpConfig}
    {P : HttpParser Parser} {n : ℕ} {s : HttpdState n}
    (h : (httpdSystem (webserver K cfg P) n).Reachable s) :
    OneRequestPerConnection (webserver K cfg P) s := by
  have ht : (webserver K cfg P).tables.AllFail := installed_fails
  obtain ⟨⟨htable, hphases⟩, -, hstopped⟩ := reachable_inv ht rfl rfl h
  refine
    { fails := fun env i ↦ ?_
      failed := fun fd ret hmem ↦ ?_
      deleted := fun fd ret later earlier htrace ↦ ?_
      once := fun fd ret ret' later between earlier htrace ↦ ?_
      count := htable.count
      count_le := ?_
      lives := hphases
      closed_once := fun fd ↦ ?_
      stopped := fun hpc i ↦ ?_
      free_slot := fun fd ret hmem ↦ ?_ }
  · obtain ⟨hd, hprocess, -⟩ := httpdSessProcess_fails ht env s.hd i
    exact ⟨.fail, hd, hprocess, nofun⟩
  · obtain ⟨later, earlier, htrace⟩ := List.append_of_mem hmem
    obtain ⟨q, hq⟩ := exists_phase_of_append (htrace ▸ hphases fd)
    exact (phase_process hq).2.2
  · have hphase := hphases fd
    rw [htrace] at hphase
    obtain ⟨q, hq⟩ := exists_phase_of_append hphase
    obtain ⟨-, rfl, -⟩ := phase_process hq
    exact close_mem_of_processed hq hphase (slotPhase_ne_processed s.hd fd)
  · have hphase := hphases fd
    rw [htrace] at hphase
    obtain ⟨q, hq⟩ := exists_phase_of_append hphase
    obtain ⟨hsession, -, -⟩ := phase_process hq
    obtain ⟨q', hq'⟩ := exists_phase_of_append hsession
    obtain ⟨-, rfl, -⟩ := phase_process hq'
    exact close_mem_of_processed hq' hsession nofun
  · have hcard := Finset.card_le_univ s.hd.active
    rw [Fintype.card_fin] at hcard
    rw [htable.count]
    omega
  · have hcount := count_close_of_phase (hphases fd)
    rw [← hcount, HttpdData.slotPhase]
    split <;> rfl
  · refine not_le.1 fun hle ↦ ?_
    have hi := mem_active.2 hle
    rw [hstopped hpc] at hi
    cases hi
  · obtain ⟨later, earlier, htrace⟩ := List.append_of_mem hmem
    obtain ⟨q, hq⟩ := exists_phase_of_append (htrace ▸ hphases fd)
    exact phase_sessNew hq

/-! ### Two connections -/

/-- What `http_parser` has found in `GET / HTTP/1.1`. -/
def bareGetFields : HttpParserFields where
  method := 1
  httpMajor := 1
  httpMinor := 1
  contentLength := 2 ^ 64 - 1
  upgrade := false

/-- What `http_parser` calls back for `GET / HTTP/1.1` without headers, in one block. -/
def bareGetParser : HttpParser Unit where
  init := ()
  execute _ data :=
    .call (bareGetFields, .onUrl 4 1) fun _ ↦
      .call (bareGetFields, .onHeadersComplete) fun _ ↦
        .call (bareGetFields, .onMessageComplete) fun _ ↦ .ret (data.length, ())
  unpause := id
  parseUrl uri _ := some { path := some (0, uri.length) }

/-- `"GET / HTTP/1.1\r\n\r\n"`. -/
def bareGet : List UInt8 :=
  [71, 69, 84, 32, 47, 32, 72, 84, 84, 80, 47, 49, 46, 49, 13, 10, 13, 10]

/-- A client that sends some bytes and closes the connection; no file can be opened. -/
def sends (bytes : List UInt8) : RequestEnv (MainWorld dualConfig) where
  recv call _ := .ok (if call = 0 then bytes else [])
  realloc _ := true
  world := { st := dualMounted, fopen := fun _ ↦ none, filepath := stackBuffer, altPath := stackBuffer }

/-- One round with a table of one slot. -/
def oneRound (ready : List ℤ) (env : RequestEnv (MainWorld dualConfig)) (newFd : Option ℕ) :
    List (ServerAction (MainWorld dualConfig)) :=
  [.select (some { listen := true, ctrl := false, sessions := ready }) fun _ ↦ true, .ctrl false,
    .session env, .session env, .accept newFd true]

/-- A connection that sends a request, and one that is closed by the client. -/
def twoConnections : List (ServerAction (MainWorld dualConfig)) :=
  oneRound [] (sends []) (some 3) ++ oneRound [3] (sends bareGet) none ++
    oneRound [] (sends []) (some 3) ++ oneRound [3] (sends []) none

def defaultKconfig : HttpdKconfig := ⟨1024, 1024, 32⟩

/-- Both connections get the same slot and the same descriptor. -/
theorem one_request_per_connection_twice :
    ∃ s : HttpdState 1,
      OneRequestPerConnection (webserver defaultKconfig dualConfig bareGetParser) s ∧
      s.hd.trace = [.close 3, .process 3 .fail, .sessNew 3 .ok, .accept 3,
        .close 3, .process 3 .fail, .sessNew 3 .ok, .accept 3] := by
  let system : StepSystem (HttpdState 1) (ServerAction (MainWorld dualConfig)) :=
    httpdSystem (webserver defaultKconfig dualConfig bareGetParser) 1
  have hrun : (system.exec (fun _ _ ↦ True) system.start twoConnections).any (fun s ↦
      decide (s.hd.trace = [.close 3, .process 3 .fail, .sessNew 3 .ok, .accept 3,
        .close 3, .process 3 .fail, .sessNew 3 .ok, .accept 3])) = true := by
    decide +kernel
  obtain ⟨s, hs, htrace⟩ := StepSystem.exists_reachableBy_of_exec hrun
  exact ⟨s, one_request_per_connection hs, of_decide_eq_true htrace⟩
