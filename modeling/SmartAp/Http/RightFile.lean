import SmartAp.Http.Path

/-!
# Which file is served

A `GET` names a file by its path, the URI up to the first `?`; if that file cannot be opened and
both storages are mounted, the same file is looked for on the other one. Both names go through a
buffer of `CONFIG_SMART_AP_MAX_PATH_LEN` characters, and neither copy is checked for truncation: a
name that does not fit is shortened, and what is left may be the name of another file.

`serveFile_response` says what the handler answers in terms of strings alone. From it,
`rightFile_iff`: the file served is the one that was asked for, and a name that does not fit gets
the redirect, except when a shortened name passes `is_path_safe` and can be opened
(`ShortenedOpens`).
-/

section

variable {File : Type} (cfg : HttpConfig) (st : StorageState cfg.mode)
  (fopen : List Char → Option File)

/-- The path on the other storage. -/
def replacedPath (path : List Char) : Option (List Char) :=
  match storageGetSecondaryPath cfg st with
  | none => none
  | some secondary =>
    if storageGetPrimaryPath cfg st <+: path then
      some (secondary ++ path.drop (storageGetPrimaryPath cfg st).length)
    else none

/-- The path is allowed and names a file. -/
def Opens (path : List Char) : Prop := isPathSafe cfg path = true ∧ (fopen path).isSome = true

/-- The answer, from the path in the buffer on. -/
def served (path : List Char) : Response File :=
  match fopen path with
  | some fd => .file path fd
  | none =>
    match replacedPath cfg st path with
    | none => .redirect302
    | some alt =>
      if isPathSafe cfg (shortened cfg alt) then
        match fopen (shortened cfg alt) with
        | some fd => .file (shortened cfg alt) fd
        | none => .redirect302
      else .redirect302

/-- **The right file**: the one that was named or, when that cannot be opened, the one of the same
name on the other storage; and the redirect when the name in question does not fit. -/
structure RightFile (uri : List Char) (response : Response File) : Prop where
  named : ∀ path fd, response = .file path fd →
    path = namedPath uri ∧ fopen path = some fd ∨
      fopen (namedPath uri) = none ∧ st.sdMounted = true ∧ st.spiffsMounted = true ∧
        replacedPath cfg st (namedPath uri) = some path ∧ fopen path = some fd
  fits : ¬ (namedPath uri).length < cfg.maxPathLen → response = .redirect302
  replaced_fits : ∀ alt, fopen (namedPath uri) = none →
    replacedPath cfg st (namedPath uri) = some alt → ¬ alt.length < cfg.maxPathLen →
      response = .redirect302

/-- A name is shortened, and what is left of it can be opened: the path in the URI or its
counterpart on the other storage, or only the counterpart. -/
def ShortenedOpens (uri : List Char) : Prop :=
  ¬ (namedPath uri).length < cfg.maxPathLen ∧
      isPathSafe cfg (shortened cfg (namedPath uri)) = true ∧
      ((fopen (shortened cfg (namedPath uri))).isSome = true ∨
        ∃ alt, replacedPath cfg st (shortened cfg (namedPath uri)) = some alt ∧
          Opens cfg fopen (shortened cfg alt)) ∨
    (namedPath uri).length < cfg.maxPathLen ∧ isPathSafe cfg (namedPath uri) = true ∧
      fopen (namedPath uri) = none ∧
      ∃ alt, replacedPath cfg st (namedPath uri) = some alt ∧ ¬ alt.length < cfg.maxPathLen ∧
        Opens cfg fopen (shortened cfg alt)

end

section

variable {File : Type} {cfg : HttpConfig} {st : StorageState cfg.mode}
  {fopen : List Char → Option File} {altPath : CharBuf cfg.maxPathLen} {path alt : List Char}

theorem mounted_of_replacedPath (h : replacedPath cfg st path = some alt) :
    st.sdMounted = true ∧ st.spiffsMounted = true := by
  rw [replacedPath, storageGetSecondaryPath] at h
  split at h
  · cases h
  · rename_i secondary hsecondary
    split at hsecondary
    · split at hsecondary
      · cases hsecondary
      · split at hsecondary
        · rename_i hboth
          exact Bool.and_eq_true_iff.1 hboth
        · cases hsecondary
    · cases hsecondary

/-- **The answer in terms of strings.** -/
theorem serveFile_response (b : CharBuf cfg.maxPathLen) :
    (serveFile cfg st fopen altPath b).response = served cfg st fopen b.str := by
  rw [serveFile, served, replacedPath]
  cases hopen : fopen b.str with
  | some fd => rfl
  | none =>
    cases hsecondary : storageGetSecondaryPath cfg st with
    | none => rfl
    | some secondary =>
      obtain ⟨base, -, rfl⟩ := storageGetSecondaryPath_mem hsecondary
      have hnul : nul ∉ base.path ++ b.str.drop (storageGetPrimaryPath cfg st).length := fun hc ↦
        (List.mem_append.1 hc).elim base.no_nul fun hdrop ↦
          b.nul_not_mem_str (List.mem_of_mem_drop hdrop)
      have hstr := CharBuf.strlcpy_str altPath hnul cfg.maxPathLen_pos
      dsimp only
      by_cases hprimary : storageGetPrimaryPath cfg st <+: b.str
      · rw [if_pos (strncmpEq_iff.2 hprimary), if_pos hprimary]
        dsimp only
        rw [hstr, ← shortened]
        split
        · -- the name in the first buffer is now the other one
          have hback : (b.strlcpy (shortened cfg (base.path ++
              b.str.drop (storageGetPrimaryPath cfg st).length))).str =
              shortened cfg (base.path ++ b.str.drop (storageGetPrimaryPath cfg st).length) := by
            have hnul' : nul ∉ shortened cfg (base.path ++
                b.str.drop (storageGetPrimaryPath cfg st).length) :=
              fun hc ↦ hnul (List.mem_of_mem_take hc)
            rw [CharBuf.strlcpy_str b hnul' cfg.maxPathLen_pos, shortened, List.take_take,
              Nat.min_self]
          cases hopen' : fopen (shortened cfg (base.path ++
            b.str.drop (storageGetPrimaryPath cfg st).length)) with
          | some fd => exact congrArg (Response.file · fd) hback
          | none => rfl
        · rfl
      · rw [if_neg (strncmpEq_iff.not.2 hprimary), if_neg hprimary]

/-- A `GET` that is none of the captive portal's. -/
theorem mainHandler_response {req : HttpRequest} (hget : req.method = .get)
    (hdetect : req.uri ∉ captiveDetectUris) (hpage : req.uri ∉ captivePageUris)
    (filepath : CharBuf cfg.maxPathLen) :
    (mainHandler cfg st fopen altPath filepath req).response =
      if isPathSafe cfg (shortened cfg (namedPath req.uri)) then
        served cfg st fopen (shortened cfg (namedPath req.uri))
      else .redirect302 := by
  rw [mainHandler_get hget hdetect hpage, ← cutAt_strlcpy_str filepath req]
  split
  · exact serveFile_response _
  · rfl

/-- What is served from a path in the buffer. -/
theorem served_file {fd : File} {name : List Char} (h : served cfg st fopen path = .file name fd) :
    name = path ∧ fopen path = some fd ∨
      fopen path = none ∧ ∃ alt, replacedPath cfg st path = some alt ∧ name = shortened cfg alt ∧
        Opens cfg fopen name ∧ fopen name = some fd := by
  rw [served] at h
  split at h
  · rename_i fd' hopen
    cases h
    exact .inl ⟨rfl, hopen⟩
  · rename_i hopen
    split at h
    · cases h
    · rename_i alt halt
      split at h
      · rename_i hsafe
        split at h
        · rename_i fd' hopen'
          cases h
          exact .inr ⟨hopen, alt, halt, rfl, ⟨hsafe, by rw [hopen']; rfl⟩, hopen'⟩
        · cases h
      · cases h

/-- Otherwise the answer is the redirect. -/
theorem served_of_not_file (h : ∀ name fd, served cfg st fopen path ≠ .file name fd) :
    served cfg st fopen path = .redirect302 := by
  rw [served] at h ⊢
  split
  · rename_i fd hopen
    rw [hopen] at h
    exact absurd rfl (h path fd)
  · rename_i hopen
    rw [hopen] at h
    split
    · rfl
    · rename_i alt halt
      dsimp only at h
      rw [halt] at h
      dsimp only at h
      split
      · rename_i hsafe
        rw [if_pos hsafe] at h
        split
        · rename_i fd hopen'
          rw [hopen'] at h
          exact absurd rfl (h _ fd)
        · rfl
      · rfl

theorem served_of_fopen {fd : File} (h : fopen path = some fd) :
    served cfg st fopen path = .file path fd := by
  rw [served, h]

theorem served_of_replaced (h : fopen path = none) (halt : replacedPath cfg st path = some alt)
    (hopens : Opens cfg fopen (shortened cfg alt)) :
    ∃ fd, served cfg st fopen path = .file (shortened cfg alt) fd := by
  obtain ⟨fd, hfd⟩ := Option.isSome_iff_exists.1 hopens.2
  refine ⟨fd, ?_⟩
  rw [served, h]
  dsimp only
  rw [halt]
  dsimp only
  rw [if_pos hopens.1, hfd]

/-- **The right file is served**, if and only if no shortened name can be opened. -/
theorem rightFile_iff {req : HttpRequest} (hget : req.method = .get)
    (hdetect : req.uri ∉ captiveDetectUris) (hpage : req.uri ∉ captivePageUris)
    (filepath : CharBuf cfg.maxPathLen) :
    RightFile cfg st fopen req.uri (mainHandler cfg st fopen altPath filepath req).response ↔
      ¬ ShortenedOpens cfg st fopen req.uri := by
  rw [mainHandler_response hget hdetect hpage]
  constructor
  · rintro hright (⟨hlong, hsafe, hopens⟩ | ⟨hfits, hsafe, hnone, alt, halt, hlong, hopens⟩)
    · -- the path is shortened, and something is served
      have hredirect := hright.fits hlong
      rw [if_pos hsafe] at hredirect
      cases hopen : fopen (shortened cfg (namedPath req.uri)) with
      | some fd =>
        rw [served_of_fopen hopen] at hredirect
        cases hredirect
      | none =>
        obtain hsome | ⟨alt, halt, hopens⟩ := hopens
        · rw [hopen] at hsome
          cases hsome
        · obtain ⟨fd, hserved⟩ := served_of_replaced hopen halt hopens
          rw [hserved] at hredirect
          cases hredirect
    · have hredirect := hright.replaced_fits alt hnone halt hlong
      rw [shortened_of_fits hfits, if_pos hsafe] at hredirect
      obtain ⟨fd, hserved⟩ := served_of_replaced hnone halt hopens
      rw [hserved] at hredirect
      cases hredirect
  · intro hnot
    by_cases hsafe : isPathSafe cfg (shortened cfg (namedPath req.uri)) = true
    swap
    · rw [if_neg hsafe]
      exact ⟨nofun, fun _ ↦ rfl, fun _ _ _ _ ↦ rfl⟩
    rw [if_pos hsafe]
    by_cases hfits : (namedPath req.uri).length < cfg.maxPathLen
    swap
    · -- nothing that is left of the path can be opened
      have hredirect : served cfg st fopen (shortened cfg (namedPath req.uri)) = .redirect302 := by
        refine served_of_not_file fun name fd hserved ↦ hnot (.inl ⟨hfits, hsafe, ?_⟩)
        obtain ⟨-, hopen⟩ | ⟨-, alt, halt, rfl, hopens, -⟩ := served_file hserved
        · exact .inl (by rw [hopen]; rfl)
        · exact .inr ⟨alt, halt, hopens⟩
      rw [hredirect]
      exact ⟨nofun, fun _ ↦ rfl, fun _ _ _ _ ↦ rfl⟩
    rw [shortened_of_fits hfits] at hsafe ⊢
    refine ⟨fun name fd hserved ↦ ?_, fun hlong ↦ absurd hfits hlong, fun alt hnone halt hlong ↦ ?_⟩
    · obtain ⟨rfl, hopen⟩ | ⟨hnone, alt, halt, rfl, hopens, hopen⟩ := served_file hserved
      · exact .inl ⟨rfl, hopen⟩
      · obtain ⟨hsd, hspiffs⟩ := mounted_of_replacedPath halt
        have hfits' : alt.length < cfg.maxPathLen := by
          by_contra hlong
          exact hnot (.inr ⟨hfits, hsafe, hnone, alt, halt, hlong, hopens⟩)
        rw [shortened_of_fits hfits'] at hopen ⊢
        exact .inr ⟨hnone, hsd, hspiffs, halt, hopen⟩
    · refine served_of_not_file fun name fd hserved ↦ ?_
      obtain ⟨-, hopen⟩ | ⟨-, alt', halt', rfl, hopens, -⟩ := served_file hserved
      · rw [hnone] at hopen
        cases hopen
      · obtain rfl := Option.some.inj (halt.symm.trans halt')
        exact hnot (.inr ⟨hfits, hsafe, hnone, alt, halt, hlong, hopens⟩)

/-! ### Two requests -/

/-- A file system with one file. -/
def oneFile (name path : List Char) : Option Unit := if path = name then some () else none

/-- The file is on the other storage, and it is served. -/
theorem rightFile_iff_fallback : RightFile dualConfig dualMounted
    (oneFile ['/', 's', 'p', 'i', 'f', 'f', 's', '/', 'a']) fileRequest.uri
    (mainHandler dualConfig dualMounted (oneFile ['/', 's', 'p', 'i', 'f', 'f', 's', '/', 'a'])
      stackBuffer stackBuffer fileRequest).response := by
  refine (rightFile_iff rfl (by decide) (by decide) stackBuffer).2 ?_
  rintro (⟨hlong, -⟩ | ⟨-, -, -, alt, halt, hlong, -⟩)
  · exact hlong (by decide +kernel)
  · have hreplaced : replacedPath dualConfig dualMounted (namedPath fileRequest.uri) =
        some ['/', 's', 'p', 'i', 'f', 'f', 's', '/', 'a'] := by decide +kernel
    obtain rfl := Option.some.inj (halt.symm.trans hreplaced)
    exact hlong (by decide)

/-- A `GET` for a file with one character more in its name. -/
def longRequest : HttpRequest where
  method := .get
  uri := longPath ++ ['b']
  no_nul := by decide +kernel

/-- The file of which the name is a prefix is served for it. -/
theorem prefix_file_served :
    (mainHandler dualConfig dualMounted (oneFile longPath) stackBuffer stackBuffer
        longRequest).response = .file longPath () ∧
      namedPath longRequest.uri = longPath ++ ['b'] ∧
      ¬ RightFile dualConfig dualMounted (oneFile longPath) longRequest.uri
        (mainHandler dualConfig dualMounted (oneFile longPath) stackBuffer stackBuffer
          longRequest).response := by
  have hname : namedPath longRequest.uri = longPath ++ ['b'] := by decide +kernel
  have hshort : shortened dualConfig (namedPath longRequest.uri) = longPath := by decide +kernel
  have hsafe : isPathSafe dualConfig longPath = true := by decide +kernel
  have hserved : (mainHandler dualConfig dualMounted (oneFile longPath) stackBuffer stackBuffer
      longRequest).response = .file longPath () := by
    rw [mainHandler_response rfl (by decide +kernel) (by decide +kernel), hshort, if_pos hsafe]
    exact served_of_fopen (if_pos rfl)
  refine ⟨hserved, hname, fun hright ↦ ?_⟩
  have hredirect := hright.fits (by decide +kernel)
  rw [hserved] at hredirect
  cases hredirect

end
