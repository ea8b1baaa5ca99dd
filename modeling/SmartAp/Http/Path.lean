import SmartAp.CString.Buffer

/-!
# Which files the web server opens

`main_handler` turns a request into at most two calls of `fopen`: the path it builds from the URI or
for the captive page, and, when both storages are mounted and the first call fails, the same path
under the other mount point. The buffers are modelled as buffers (`CharBuf`), with whatever they
hold before the copy, so that truncation and termination are part of what is proved.

The environment is a function `fopen`, the state of the two mounts and the previous content of the
two stack buffers. What the handler answers is kept as far as the results about it need
(`Response`); the file transfer that follows `Response.file` is `SmartAp.Http.SendFile`.

## The path that is opened and the path that is named

What a request names is its URI up to the first `?` (`namedPath`). What the handler looks at is what
`strlcpy` left of it in the buffer (`shortened`), and nothing compares the two. Containment has one
half on either side of this difference:

* every path that is *opened* may be opened (`mainHandler_contained`), for every request. The direct
  path and the fallback pass `is_path_safe` after the copy; the index page is not tested, and is
  safe because a base path is at most 15 characters long and clean itself;
* a request whose path may *not* be opened is turned away without a call of `fopen`, except when the
  path is too long for the buffer and what is left of it passes the test: a `".."` or a character
  too many behind the cut is never seen. `fopen_contained` has that exception as the exact condition
  (`ShortenedAllowed`), and `cut_path_opened` is a request of that kind.

## Sections

* the storage configuration and `storage_get_captive_path`, `storage_get_primary_path`,
  `storage_get_secondary_path`;
* `is_path_safe` and what it accepts (`isPathSafe_iff`);
* `main_handler` up to the open;
* containment of what is opened, then `fopen_contained`.
-/

/-- `".."`. -/
def dotdot : List Char := ['.', '.']

/-! ### The storage configuration -/

/-- A mount point as the virtual file system takes it: absolute and at most `ESP_VFS_PATH_MAX`
characters; and one that is itself a clean path. -/
structure BasePath where
  path : List Char
  absolute : path.head? = some '/'
  short : path.length ≤ 15
  clean : ¬ dotdot <:+: path
  no_query : '?' ∉ path
  no_nul : nul ∉ path

/-- Which storage backends are compiled in. -/
inductive StorageMode
  | spiffs
  | sd
  | spiffsSd
  deriving DecidableEq, Repr

/-- `STORAGE_USES_SPIFFS`. -/
def StorageMode.usesSpiffs : StorageMode → Bool
  | .spiffs | .spiffsSd => true
  | .sd => false

/-- `STORAGE_USES_SD`. -/
def StorageMode.usesSd : StorageMode → Bool
  | .sd | .spiffsSd => true
  | .spiffs => false

/-- The configuration `main_handler` is compiled with. -/
structure HttpConfig where
  mode : StorageMode
  spiffsBase : BasePath
  sdBase : BasePath
  /-- `CONFIG_SMART_AP_MAX_PATH_LEN`. -/
  maxPathLen : ℕ
  maxPathLen_range : 64 ≤ maxPathLen ∧ maxPathLen ≤ 512

/-- `SPIFFS_BASE_PATH`. -/
def HttpConfig.spiffsBasePath (cfg : HttpConfig) : List Char :=
  if cfg.mode.usesSpiffs then cfg.spiffsBase.path else []

/-- `SD_BASE_PATH`. -/
def HttpConfig.sdBasePath (cfg : HttpConfig) : List Char :=
  if cfg.mode.usesSd then cfg.sdBase.path else []

/-- The base paths of the backends that are compiled in. -/
def HttpConfig.bases (cfg : HttpConfig) : List BasePath :=
  (if cfg.mode.usesSpiffs then [cfg.spiffsBase] else []) ++
    if cfg.mode.usesSd then [cfg.sdBase] else []

/-- The static variables of the storage module. A backend is mounted only if it is compiled in and
after the mutex was created. -/
structure StorageState (mode : StorageMode) where
  /-- `s_storage_mutex != NULL`. -/
  mutex : Bool
  spiffsMounted : Bool
  sdMounted : Bool
  spiffs_of_mounted : spiffsMounted = true → mutex = true ∧ mode.usesSpiffs = true
  sd_of_mounted : sdMounted = true → mutex = true ∧ mode.usesSd = true

section Storage

variable (cfg : HttpConfig) (st : StorageState cfg.mode)

/-- `storage_get_captive_path`. -/
def storageGetCaptivePath : List Char :=
  if !st.mutex then []
  else if st.spiffsMounted then cfg.spiffsBasePath
  else if st.sdMounted then cfg.sdBasePath
  else []

/-- `storage_get_primary_path`. -/
def storageGetPrimaryPath : List Char :=
  if !st.mutex then []
  else if st.sdMounted then cfg.sdBasePath
  else if st.spiffsMounted then cfg.spiffsBasePath
  else []

/-- `storage_get_secondary_path`. -/
def storageGetSecondaryPath : Option (List Char) :=
  if cfg.mode.usesSpiffs && cfg.mode.usesSd then
    if !st.mutex then none
    else if st.sdMounted && st.spiffsMounted then some cfg.spiffsBasePath
    else none
  else none

variable {cfg st}

/-- With a backend mounted, the captive path is the base path of one that is compiled in. -/
theorem storageGetCaptivePath_mem (hmounted : st.spiffsMounted = true ∨ st.sdMounted = true) :
    ∃ base ∈ cfg.bases, storageGetCaptivePath cfg st = base.path := by
  by_cases hspiffs : st.spiffsMounted = true
  · obtain ⟨hmutex, huses⟩ := st.spiffs_of_mounted hspiffs
    refine ⟨cfg.spiffsBase, by simp [HttpConfig.bases, huses], ?_⟩
    simp [storageGetCaptivePath, HttpConfig.spiffsBasePath, hmutex, hspiffs, huses]
  · have hsd : st.sdMounted = true := hmounted.resolve_left hspiffs
    obtain ⟨hmutex, huses⟩ := st.sd_of_mounted hsd
    refine ⟨cfg.sdBase, by simp [HttpConfig.bases, huses], ?_⟩
    simp [storageGetCaptivePath, HttpConfig.sdBasePath, hmutex, hspiffs, hsd, huses]

/-- The secondary path is the base path of a backend that is compiled in. -/
theorem storageGetSecondaryPath_mem {secondary : List Char}
    (h : storageGetSecondaryPath cfg st = some secondary) :
    ∃ base ∈ cfg.bases, secondary = base.path := by
  rw [storageGetSecondaryPath] at h
  split at h
  · rename_i huses
    rw [Bool.and_eq_true] at huses
    split at h
    · cases h
    · split at h <;> cases h
      refine ⟨cfg.spiffsBase, by simp [HttpConfig.bases, huses.1], ?_⟩
      rw [HttpConfig.spiffsBasePath, if_pos huses.1]
  · cases h

end Storage

/-! ### The path test -/

/-- One block of `is_path_safe`: the path is the base path or goes on with a slash. -/
def underBase (base path : List Char) : Bool :=
  strncmpEq base.length path base &&
    (charAt path base.length = '/' || charAt path base.length = nul)

/-- `is_path_safe`. -/
def isPathSafe (cfg : HttpConfig) (path : List Char) : Bool :=
  if charAt path 0 ≠ '/' then false
  else if strstr path dotdot then false
  else
    (cfg.mode.usesSpiffs && underBase cfg.spiffsBasePath path) ||
      (cfg.mode.usesSd && underBase cfg.sdBasePath path)

/-- The path is at or under the base path. -/
def AtOrUnder (base path : List Char) : Prop := path = base ∨ ∃ rest, path = base ++ '/' :: rest

/-- What a path must satisfy to be opened. -/
structure PathAllowed (cfg : HttpConfig) (path : List Char) : Prop where
  fits : path.length < cfg.maxPathLen
  no_dotdot : ¬ dotdot <:+: path
  no_query : '?' ∉ path
  under : ∃ base ∈ cfg.bases, AtOrUnder base.path path

theorem underBase_iff {base path : List Char} (hpath : nul ∉ path) :
    underBase base path = true ↔ AtOrUnder base path := by
  rw [underBase, Bool.and_eq_true, strncmpEq_iff, Bool.or_eq_true, decide_eq_true_eq,
    decide_eq_true_eq]
  constructor
  · rintro ⟨⟨rest, rfl⟩, hnext⟩
    rcases rest with - | ⟨c, rest⟩
    · exact .inl (List.append_nil base)
    · -- the character after the base path is a character of the path, so not the terminator
      have hc : charAt (base ++ c :: rest) base.length = c := by simp [charAt]
      rw [hc] at hnext
      rcases hnext with rfl | rfl
      · exact .inr ⟨rest, rfl⟩
      · exact absurd (List.mem_append_right base List.mem_cons_self) hpath
  · rintro (rfl | ⟨rest, rfl⟩)
    · exact ⟨List.prefix_refl path, .inr (by simp [charAt])⟩
    · exact ⟨List.prefix_append base _, .inl (by simp [charAt])⟩

theorem exists_mem_bases {cfg : HttpConfig} {p : BasePath → Prop} :
    (∃ base ∈ cfg.bases, p base) ↔
      cfg.mode.usesSpiffs = true ∧ p cfg.spiffsBase ∨ cfg.mode.usesSd = true ∧ p cfg.sdBase := by
  cases hspiffs : cfg.mode.usesSpiffs <;> cases hsd : cfg.mode.usesSd <;>
    simp [HttpConfig.bases, hspiffs, hsd]

/-- **What `is_path_safe` accepts**: the paths without `".."` at or under a base path. -/
theorem isPathSafe_iff {cfg : HttpConfig} {path : List Char} (hpath : nul ∉ path) :
    isPathSafe cfg path = true ↔
      ¬ dotdot <:+: path ∧ ∃ base ∈ cfg.bases, AtOrUnder base.path path := by
  have hblocks : ((cfg.mode.usesSpiffs && underBase cfg.spiffsBasePath path) ||
      (cfg.mode.usesSd && underBase cfg.sdBasePath path)) = true ↔
      ∃ base ∈ cfg.bases, AtOrUnder base.path path := by
    rw [exists_mem_bases, Bool.or_eq_true, Bool.and_eq_true, Bool.and_eq_true,
      underBase_iff hpath, underBase_iff hpath]
    constructor
    · rintro (⟨huses, h⟩ | ⟨huses, h⟩)
      · exact .inl ⟨huses, by rwa [HttpConfig.spiffsBasePath, if_pos huses] at h⟩
      · exact .inr ⟨huses, by rwa [HttpConfig.sdBasePath, if_pos huses] at h⟩
    · rintro (⟨huses, h⟩ | ⟨huses, h⟩)
      · exact .inl ⟨huses, by rwa [HttpConfig.spiffsBasePath, if_pos huses]⟩
      · exact .inr ⟨huses, by rwa [HttpConfig.sdBasePath, if_pos huses]⟩
  -- a base path is absolute, so the first test is implied by the last
  have hslash : (∃ base ∈ cfg.bases, AtOrUnder base.path path) → charAt path 0 = '/' := by
    rintro ⟨base, -, hunder⟩
    have habs := base.absolute
    obtain ⟨c, tail, hbase⟩ : ∃ c tail, base.path = c :: tail := by
      cases hb : base.path with
      | nil => rw [hb] at habs; cases habs
      | cons c tail => exact ⟨c, tail, rfl⟩
    have hc : c = '/' := by
      rw [hbase] at habs
      exact Option.some.inj habs
    rcases hunder with rfl | ⟨rest, rfl⟩ <;> rw [hbase, hc] <;> rfl
  rw [isPathSafe, ← hblocks]
  split
  · rename_i hne
    refine ⟨nofun, fun h ↦ absurd (hslash (hblocks.1 h.2)) hne⟩
  · split
    · rename_i hdots
      exact ⟨nofun, fun h ↦ absurd (strstr_iff.1 hdots) h.1⟩
    · rename_i hdots
      rw [strstr_iff] at hdots
      exact ⟨fun h ↦ ⟨hdots, h⟩, And.right⟩

/-- A slash separates: `".."` does not reach across it. -/
theorem dotdot_infix_append_slash {a b : List Char} :
    dotdot <:+: a ++ '/' :: b ↔ dotdot <:+: a ∨ dotdot <:+: b := by
  induction a with
  | nil => simp [List.infix_cons_iff, dotdot]
  | cons c a ih =>
    have hpre : dotdot <+: c :: (a ++ '/' :: b) ↔ dotdot <+: c :: a := by
      cases a <;> simp [dotdot, List.cons_prefix_cons]
    rw [List.cons_append, List.infix_cons_iff, List.infix_cons_iff, hpre, ih, or_assoc]

/-! ### The handler -/

/-- The methods the handler tells apart. -/
inductive HttpMethod
  | get
  | head
  | post
  | other (code : ℕ)
  deriving DecidableEq, Repr

/-- The part of `httpd_req_t` the handler reads. -/
structure HttpRequest where
  method : HttpMethod
  uri : List Char
  no_nul : nul ∉ uri

/-- What the handler answers. -/
inductive Response (File : Type)
  /-- `beep_handler` answers. -/
  | beep
  /-- 200 without a body, for `HEAD`. -/
  | headOk
  /-- `send_302_close`. -/
  | redirect302
  /-- The redirect of the captive portal detection. -/
  | captiveRedirect
  /-- The file is sent. -/
  | file (filepath : List Char) (fd : File)

/-- The calls of `fopen`, in order, and the answer. -/
structure Handled (n : ℕ) (File : Type) where
  opened : List (CharBuf n)
  response : Response File

/-- `captive_detect_uris`. -/
def captiveDetectUris : List (List Char) :=
  ["/generate_204".toList, "/gen_204".toList, "/hotspot-detect.html".toList,
    "/library/test/success.html".toList, "/success.txt".toList, "/connecttest.txt".toList,
    "/ncsi.txt".toList, "/redirect".toList, "/canonical.html".toList, "/wpad.dat".toList]

/-- `captive_page_uris`. -/
def captivePageUris : List (List Char) :=
  ["/".toList, "/?".toList, "/portal".toList, "/portal?".toList]

/-- `"/index.html"`. -/
def indexPage : List Char := ['/', 'i', 'n', 'd', 'e', 'x', '.', 'h', 't', 'm', 'l']

/-- `"/beep"`. -/
def beepUri : List Char := ['/', 'b', 'e', 'e', 'p']

section Handler

variable {File : Type} (cfg : HttpConfig) (st : StorageState cfg.mode)
  (fopen : List Char → Option File) (altPath : CharBuf cfg.maxPathLen)

/-- The label `serve_file` up to the open file. `altPath` is the second buffer as it stands. -/
def serveFile (filepath : CharBuf cfg.maxPathLen) : Handled cfg.maxPathLen File :=
  match fopen filepath.str with
  | some fd => ⟨[filepath], .file filepath.str fd⟩
  | none =>
    match storageGetSecondaryPath cfg st with
    | none => ⟨[filepath], .redirect302⟩
    | some secondary =>
      let primary := storageGetPrimaryPath cfg st
      if strncmpEq primary.length filepath.str primary then
        let alt := altPath.strlcpy (secondary ++ filepath.str.drop primary.length)
        if isPathSafe cfg alt.str then
          match fopen alt.str with
          | some fd => ⟨[filepath, alt], .file (filepath.strlcpy alt.str).str fd⟩
          | none => ⟨[filepath, alt], .redirect302⟩
        else ⟨[filepath], .redirect302⟩
      else ⟨[filepath], .redirect302⟩

/-- `main_handler` up to the file transfer. `filepath` is the stack buffer as it stands. -/
def mainHandler (filepath : CharBuf cfg.maxPathLen) (req : HttpRequest) :
    Handled cfg.maxPathLen File :=
  if req.method = .post ∧ req.uri = beepUri then ⟨[], .beep⟩
  else if req.method = .head then ⟨[], .headOk⟩
  else if req.method ≠ .get then ⟨[], .redirect302⟩
  else if req.uri ∈ captiveDetectUris then ⟨[], .captiveRedirect⟩
  else if req.uri ∈ captivePageUris then
    serveFile cfg st fopen altPath (filepath.strlcpy (storageGetCaptivePath cfg st ++ indexPage))
  else
    let filepath := (filepath.strlcpy req.uri).cutAt '?'
    if isPathSafe cfg filepath.str then serveFile cfg st fopen altPath filepath
    else ⟨[], .redirect302⟩

/-- The path a URI names. -/
def namedPath (uri : List Char) : List Char := uri.takeWhile (· ≠ '?')

/-- What fits the buffer. -/
def shortened (path : List Char) : List Char := path.take (cfg.maxPathLen - 1)

end Handler

/-! ### Containment -/

section Contained

variable {File : Type} {cfg : HttpConfig} {st : StorageState cfg.mode}
  {fopen : List Char → Option File} {altPath : CharBuf cfg.maxPathLen}

theorem HttpConfig.maxPathLen_pos (cfg : HttpConfig) : 0 < cfg.maxPathLen :=
  lt_of_lt_of_le (by omega) cfg.maxPathLen_range.1

theorem shortened_of_fits {path : List Char} (h : path.length < cfg.maxPathLen) :
    shortened cfg path = path :=
  List.take_of_length_le (Nat.le_sub_one_of_lt h)

/-- The buffer holds what fits of the path: cutting at the `?` and cutting at the end of the buffer
come to the same in either order. -/
theorem cutAt_strlcpy_str (filepath : CharBuf cfg.maxPathLen) (req : HttpRequest) :
    ((filepath.strlcpy req.uri).cutAt '?').str = shortened cfg (namedPath req.uri) := by
  rw [CharBuf.cutAt_str, CharBuf.strlcpy_str filepath req.no_nul cfg.maxPathLen_pos, shortened,
    namedPath, List.take_takeWhile]

/-- A `GET` that is none of the captive portal's: the test decides on what is in the buffer. -/
theorem mainHandler_get {req : HttpRequest} (hget : req.method = .get)
    (hdetect : req.uri ∉ captiveDetectUris) (hpage : req.uri ∉ captivePageUris)
    (filepath : CharBuf cfg.maxPathLen) :
    mainHandler cfg st fopen altPath filepath req =
      if isPathSafe cfg (shortened cfg (namedPath req.uri)) then
        serveFile cfg st fopen altPath ((filepath.strlcpy req.uri).cutAt '?')
      else ⟨[], .redirect302⟩ := by
  rw [mainHandler, if_neg (by simp [hget]), if_neg (by simp [hget]), if_neg (by simp [hget]),
    if_neg hdetect, if_neg hpage, ← cutAt_strlcpy_str filepath req]

/-- `serve_file` calls `fopen` on the path in the buffer, whatever comes of it. -/
theorem mem_serveFile_opened (filepath : CharBuf cfg.maxPathLen) :
    filepath ∈ (serveFile cfg st fopen altPath filepath).opened := by
  rw [serveFile]
  split
  · exact List.mem_cons_self
  · split
    · exact List.mem_cons_self
    · dsimp only
      split
      · split
        · split <;> exact List.mem_cons_self
        · exact List.mem_cons_self
      · exact List.mem_cons_self

/-- The buffer holds a path that may be opened. -/
def Contained (cfg : HttpConfig) (b : CharBuf cfg.maxPathLen) : Prop :=
  b.Terminated ∧ PathAllowed cfg b.str

/-- A terminated buffer with a path that passes the test and has no query may be opened. -/
theorem Contained.of_isPathSafe {b : CharBuf cfg.maxPathLen} (hterm : b.Terminated)
    (hquery : '?' ∉ b.str) (hsafe : isPathSafe cfg b.str = true) : Contained cfg b := by
  obtain ⟨hdots, hunder⟩ := (isPathSafe_iff b.nul_not_mem_str).1 hsafe
  exact ⟨hterm, CharBuf.str_length_lt hterm, hdots, hquery, hunder⟩

/-- **The fallback.** If the first path may be opened, so may the second. -/
theorem serveFile_contained {filepath : CharBuf cfg.maxPathLen} (h : Contained cfg filepath) :
    ∀ b ∈ (serveFile cfg st fopen altPath filepath).opened, Contained cfg b := by
  have hone : ∀ b ∈ [filepath], Contained cfg b := fun b hb ↦ List.mem_singleton.1 hb ▸ h
  rw [serveFile]
  split
  · exact hone
  · split
    · exact hone
    · rename_i secondary hsecondary
      obtain ⟨base, -, rfl⟩ := storageGetSecondaryPath_mem hsecondary
      dsimp only
      split
      · split
        · rename_i hsafe
          have hmem : ∀ {c : Char}, c ∉ base.path → c ∉ filepath.str →
              c ∉ base.path ++ filepath.str.drop (storageGetPrimaryPath cfg st).length :=
            fun hbase hpath hc ↦ (List.mem_append.1 hc).elim hbase fun hdrop ↦
              hpath (List.mem_of_mem_drop hdrop)
          have hstr := CharBuf.strlcpy_str altPath
            (hmem base.no_nul filepath.nul_not_mem_str) cfg.maxPathLen_pos
          have halt : Contained cfg (altPath.strlcpy
              (base.path ++ filepath.str.drop (storageGetPrimaryPath cfg st).length)) := by
            refine
              Contained.of_isPathSafe (altPath.strlcpy_terminated _ cfg.maxPathLen_pos) ?_ hsafe
            rw [hstr]
            exact fun hc ↦ hmem base.no_query h.2.no_query (List.mem_of_mem_take hc)
          have htwo := List.forall_mem_cons.2 ⟨h, List.forall_mem_singleton.2 halt⟩
          split
          · exact htwo
          · exact htwo
        · exact hone
      · exact hone

/-- **The index page.** A base path followed by `"/index.html"` fits the buffer and may be opened,
although the handler does not test it. -/
theorem indexPage_contained {base : BasePath} (hbase : base ∈ cfg.bases)
    (filepath : CharBuf cfg.maxPathLen) :
    Contained cfg (filepath.strlcpy (base.path ++ indexPage)) := by
  have hnul : nul ∉ base.path ++ indexPage := fun hc ↦
    (List.mem_append.1 hc).elim base.no_nul (by decide)
  have hlen : (base.path ++ indexPage).length ≤ cfg.maxPathLen - 1 := by
    have hshort := base.short
    have hpage : indexPage.length = 11 := rfl
    have hrange := cfg.maxPathLen_range.1
    rw [List.length_append]
    omega
  have hterm := filepath.strlcpy_terminated (base.path ++ indexPage) cfg.maxPathLen_pos
  have hstr : (filepath.strlcpy (base.path ++ indexPage)).str = base.path ++ indexPage := by
    rw [CharBuf.strlcpy_str filepath hnul cfg.maxPathLen_pos, List.take_of_length_le hlen]
  have hfits := CharBuf.str_length_lt hterm
  rw [Contained, hstr]
  rw [hstr] at hfits
  refine ⟨hterm, hfits, ?_, ?_, base, hbase, .inr ⟨_, rfl⟩⟩
  · rw [indexPage, dotdot_infix_append_slash, not_or]
    exact ⟨base.clean, by rw [← strstr_iff]; decide⟩
  · exact fun hc ↦ (List.mem_append.1 hc).elim base.no_query (by decide)

/-- **What is opened is contained.** With a backend mounted, every buffer passed to `fopen` holds a
complete string that fits it, without `".."` and without a query, at or under the base path of a
backend that is compiled in. -/
theorem mainHandler_contained (hmounted : st.spiffsMounted = true ∨ st.sdMounted = true)
    (filepath : CharBuf cfg.maxPathLen) (req : HttpRequest) :
    ∀ b ∈ (mainHandler cfg st fopen altPath filepath req).opened, Contained cfg b := by
  rw [mainHandler]
  split
  · exact nofun
  split
  · exact nofun
  split
  · exact nofun
  split
  · exact nofun
  split
  · -- the index page is not tested; it is safe because the base path is
    obtain ⟨base, hbase, hpath⟩ := storageGetCaptivePath_mem hmounted
    rw [hpath]
    exact serveFile_contained (indexPage_contained hbase filepath)
  · dsimp only
    split
    · rename_i hsafe
      have hterm : ((filepath.strlcpy req.uri).cutAt '?').Terminated :=
        CharBuf.cutAt_terminated (filepath.strlcpy_terminated req.uri cfg.maxPathLen_pos) '?'
      have hquery : '?' ∉ ((filepath.strlcpy req.uri).cutAt '?').str := by
        rw [CharBuf.cutAt_str]
        exact fun hc ↦ by simpa using List.mem_takeWhile_imp hc
      exact serveFile_contained (Contained.of_isPathSafe hterm hquery hsafe)
    · exact nofun

/-- A path that a URI names, fits the buffer and passes the test may be opened. -/
theorem pathAllowed_of_isPathSafe {req : HttpRequest}
    (hfits : (namedPath req.uri).length < cfg.maxPathLen)
    (hsafe : isPathSafe cfg (namedPath req.uri) = true) : PathAllowed cfg (namedPath req.uri) := by
  have hnul : nul ∉ namedPath req.uri := fun hc ↦
    req.no_nul ((List.takeWhile_prefix _).subset hc)
  obtain ⟨hdots, hunder⟩ := (isPathSafe_iff hnul).1 hsafe
  exact ⟨hfits, hdots, fun hc ↦ by simpa using List.mem_takeWhile_imp hc, hunder⟩

/-- **Path containment**: what is opened may be opened, and a `GET` that names a path which may not
be opened gets the redirect and opens nothing. -/
structure PathsContained (cfg : HttpConfig) (req : HttpRequest)
    (handled : Handled cfg.maxPathLen File) : Prop where
  opened : ∀ b ∈ handled.opened, Contained cfg b
  refused : req.method = .get → req.uri ∉ captiveDetectUris → req.uri ∉ captivePageUris →
    ¬ PathAllowed cfg (namedPath req.uri) → handled = ⟨[], .redirect302⟩

/-- A `GET`, none of the captive portal's, names a path that does not fit the buffer, and what is
left of it passes the test. -/
structure ShortenedAllowed (cfg : HttpConfig) (req : HttpRequest) : Prop where
  get : req.method = .get
  not_detect : req.uri ∉ captiveDetectUris
  not_page : req.uri ∉ captivePageUris
  too_long : ¬ (namedPath req.uri).length < cfg.maxPathLen
  rest_safe : isPathSafe cfg (shortened cfg (namedPath req.uri)) = true

/-- A shortened path that passes the test is opened. -/
theorem ShortenedAllowed.mem_opened {req : HttpRequest} (h : ShortenedAllowed cfg req)
    (filepath : CharBuf cfg.maxPathLen) :
    (filepath.strlcpy req.uri).cutAt '?' ∈
      (mainHandler cfg st fopen altPath filepath req).opened := by
  rw [mainHandler_get h.get h.not_detect h.not_page, if_pos h.rest_safe]
  exact mem_serveFile_opened _

/-- The path that was named does not fit, so it should have been refused. -/
theorem ShortenedAllowed.not_pathsContained {req : HttpRequest} (h : ShortenedAllowed cfg req)
    (filepath : CharBuf cfg.maxPathLen) :
    ¬ PathsContained cfg req (mainHandler cfg st fopen altPath filepath req) := by
  intro hcontained
  have hrefused := hcontained.refused h.get h.not_detect h.not_page fun hallowed ↦
    h.too_long hallowed.fits
  have hopened : _ ∈ (mainHandler cfg st fopen altPath filepath req).opened :=
    h.mem_opened filepath
  rw [hrefused] at hopened
  cases hopened

/-- **When paths are contained**: with a backend mounted, for every request but those that name a
path which does not fit the buffer, and of which what is left passes the test. -/
theorem fopen_contained (hmounted : st.spiffsMounted = true ∨ st.sdMounted = true)
    (filepath : CharBuf cfg.maxPathLen) (req : HttpRequest) :
    PathsContained cfg req (mainHandler cfg st fopen altPath filepath req) ↔
      ¬ ShortenedAllowed cfg req := by
  constructor
  · exact fun hcontained hshort ↦ hshort.not_pathsContained filepath hcontained
  · refine fun hnot ↦ ⟨mainHandler_contained hmounted filepath req, ?_⟩
    intro hget hdetect hpage hbad
    -- the shortened path fails the test: it is too long and not allowed, or it is the whole path
    have hunsafe : ¬ isPathSafe cfg (shortened cfg (namedPath req.uri)) = true := fun hsafe ↦ by
      by_cases hfits : (namedPath req.uri).length < cfg.maxPathLen
      · rw [shortened_of_fits hfits] at hsafe
        exact hbad (pathAllowed_of_isPathSafe hfits hsafe)
      · exact hnot ⟨hget, hdetect, hpage, hfits, hsafe⟩
    rw [mainHandler_get hget hdetect hpage, if_neg hunsafe]

/-! ### A request in dual mode -/

/-- Both storages at their default mount points. -/
def dualConfig : HttpConfig where
  mode := .spiffsSd
  spiffsBase := ⟨['/', 's', 'p', 'i', 'f', 'f', 's'], rfl, by decide, by decide, by decide, by decide⟩
  sdBase := ⟨['/', 's', 'd', 'c', 'a', 'r', 'd'], rfl, by decide, by decide, by decide, by decide⟩
  maxPathLen := 128
  maxPathLen_range := by decide

/-- Both are mounted. -/
def dualMounted : StorageState dualConfig.mode := ⟨true, true, true, by decide, by decide⟩

/-- `GET /sdcard/a?q`. -/
def fileRequest : HttpRequest where
  method := .get
  uri := ['/', 's', 'd', 'c', 'a', 'r', 'd', '/', 'a', '?', 'q']
  no_nul := by decide

/-- A stack buffer. -/
def stackBuffer : CharBuf dualConfig.maxPathLen := ⟨List.replicate 128 'x', rfl⟩

/-- The file is looked for on both storages, and both paths may be opened. -/
theorem fopen_contained_dual :
    let handled := mainHandler dualConfig dualMounted (fun _ ↦ (none : Option Unit)) stackBuffer
      stackBuffer fileRequest
    handled.opened.map CharBuf.str =
        [['/', 's', 'd', 'c', 'a', 'r', 'd', '/', 'a'], ['/', 's', 'p', 'i', 'f', 'f', 's', '/', 'a']] ∧
      PathsContained dualConfig fileRequest handled :=
  ⟨by decide +kernel, (fopen_contained (.inl rfl) stackBuffer fileRequest).2 fun hshort ↦
    hshort.too_long (by decide)⟩

/-- A path of 127 characters, which just fits. -/
def longPath : List Char := ['/', 's', 'd', 'c', 'a', 'r', 'd', '/'] ++ List.replicate 119 'a'

/-- A `GET` for a path with `".."` behind the end of the buffer. -/
def dottedRequest : HttpRequest where
  method := .get
  uri := longPath ++ ['/', '.', '.', '/', 'x']
  no_nul := by decide +kernel

/-- The `".."` is cut off and the file that is left is opened. -/
theorem cut_path_opened :
    let handled := mainHandler dualConfig dualMounted (fun _ ↦ (none : Option Unit)) stackBuffer
      stackBuffer dottedRequest
    dotdot <:+: namedPath dottedRequest.uri ∧ longPath ∈ handled.opened.map CharBuf.str ∧
      ¬ PathsContained dualConfig dottedRequest handled := by
  have hname : namedPath dottedRequest.uri = longPath ++ ['/', '.', '.', '/', 'x'] := by
    decide +kernel
  have hshort : shortened dualConfig (namedPath dottedRequest.uri) = longPath := by decide +kernel
  have hallowed : ShortenedAllowed dualConfig dottedRequest :=
    ⟨rfl, by decide +kernel, by decide +kernel, by decide +kernel, by rw [hshort]; decide +kernel⟩
  refine ⟨?_, ?_, hallowed.not_pathsContained stackBuffer⟩
  · rw [hname]
    exact ⟨longPath ++ ['/'], ['/', 'x'], by rw [List.append_assoc, List.append_assoc]; rfl⟩
  · rw [← hshort, ← cutAt_strlcpy_str stackBuffer]
    exact List.mem_map_of_mem (hallowed.mem_opened stackBuffer)

end Contained
