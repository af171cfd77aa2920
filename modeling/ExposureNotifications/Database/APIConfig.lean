import ExposureNotifications.Database.Store

/-! # `DB.ReadAPIConfigs`

`src/unnamed/part_000`: a read-committed transaction that is never committed, one `conn.Query`
over the `APIConfig` table, and the `for rows.Next()` loop that builds one `model.APIConfig` per
row. `model.NewAPIConfig()` is not in the sources; the value it returns is the parameter
`newConfig`, the start of every row's config.

What the code does and the model keeps: the connection error reads "untable to obtain database
connection"; the errors of `BeginTx`, `Query` and `Scan` are returned unwrapped; `rows.Err()` is
never read, so a `rows.Next()` that fails ends the loop like the last row does and the call
returns the configs read so far with a nil error (`readAPIConfigs_reads_prefix`). The results are
not named, so the deferred `finishTx` cannot change the error returned.

`AllowedRegions` is a map the loop writes into; the model takes it to be made by
`NewAPIConfig`, as a write into a nil map would panic.
-/

namespace ExposureNotifications.Database

set_option autoImplicit false

/-- `model.APIConfig`, with the fields `ReadAPIConfigs` fills. `AllowedRegions` is a
`map[string]bool`; a missing key reads `false`. -/
structure APIConfig where
  appPackageName : String
  apkDigestSHA256 : String
  enforceApkDigest : Bool
  ctsProfileMatch : Bool
  basicIntegrity : Bool
  maxAgeSeconds : Int
  clockSkewSeconds : Int
  allowedRegions : String → Bool
  allowAllRegions : Bool
  bypassSafetynet : Bool

/-- The faults of `ReadAPIConfigs`: the connection, `BeginTx`, `conn.Query`, and for the row at
index `i`, whether `rows.Next()` fails before it and the error of its `Scan`. -/
structure RowsFaults where
  acquire : Option String := none
  begin : Option String := none
  query : Option String := none
  nextFails : Nat → Bool := fun _ => false
  scan : Nat → Option String := fun _ => none

/-- `for _, r := range regions { config.AllowedRegions[r] = true }`. -/
def addRegions (allowed : String → Bool) (regions : List String) : String → Bool :=
  regions.foldl (fun m r => Function.update m r true) allowed

/-- One row scanned into `model.NewAPIConfig()`: the digest taken when it is not `NULL`, the
regions added to the map. -/
def scanConfig (newConfig : APIConfig) (r : APIConfigRow) : APIConfig :=
  { newConfig with
    appPackageName := r.appPackageName
    apkDigestSHA256 := r.apkDigest.getD newConfig.apkDigestSHA256
    enforceApkDigest := r.enforceApkDigest
    ctsProfileMatch := r.ctsProfileMatch
    basicIntegrity := r.basicIntegrity
    maxAgeSeconds := r.maxAgeSeconds
    clockSkewSeconds := r.clockSkewSeconds
    allowedRegions := addRegions newConfig.allowedRegions r.allowedRegions
    allowAllRegions := r.allRegions
    bypassSafetynet := r.bypassSafetynet }

/-- The `for rows.Next()` loop from the row at index `i`, with `result` built so far. -/
def readRows (newConfig : APIConfig) (f : RowsFaults) :
    Nat → List APIConfigRow → List APIConfig → Except GoError (List APIConfig)
  | _, [], result => .ok result
  | i, r :: rows, result =>
    if f.nextFails i then .ok result
    else match f.scan i with
      | some e => .error (.other e)
      | none => readRows newConfig f (i + 1) rows (result ++ [scanConfig newConfig r])

/-- The body of the transaction. `commit` is never set, so every exit rolls back; the query runs
on the connection, outside the transaction. -/
def readAPIConfigsBody (newConfig : APIConfig) (f : RowsFaults) (tx : Store) :
    TxExit (Option (List APIConfig)) :=
  match f.query with
  | some e => .fail none (.other e) tx
  | none =>
    match readRows newConfig f 0 tx.apiConfig [] with
    | .ok result => ⟨false, some result, none, tx⟩
    | .error e => .fail none e tx

/-- `DB.ReadAPIConfigs(ctx)`. -/
def DB.readAPIConfigs (newConfig : APIConfig) (f : RowsFaults) (db : Store) :
    Outcome (Option (List APIConfig)) :=
  match f.acquire with
  | some e => ⟨none, some (errorf "untable to obtain database connection: " (.other e)), db⟩
  | none =>
    match f.begin with
    | some e => ⟨none, some (.other e), db⟩
    | none => finishTx none db (readAPIConfigsBody newConfig f db)

/-! ## The loop -/

theorem addRegions_apply (allowed : String → Bool) (regions : List String) (x : String) :
    addRegions allowed regions x = true ↔ x ∈ regions ∨ allowed x = true := by
  induction regions generalizing allowed with
  | nil => simp [addRegions]
  | cons r regions ih =>
    simp only [addRegions, List.foldl_cons] at ih ⊢
    rw [ih]
    by_cases hx : x = r
    · subst hx
      simp
    · simp [Function.update_noteq hx, hx]

/-- The regions a config allows are the row's, and those `NewAPIConfig` already allowed. -/
theorem scanConfig_allowedRegions (newConfig : APIConfig) (r : APIConfigRow) (x : String) :
    (scanConfig newConfig r).allowedRegions x = true ↔
      x ∈ r.allowedRegions ∨ newConfig.allowedRegions x = true :=
  addRegions_apply _ _ _

theorem readRows_faultless (newConfig : APIConfig) (i : Nat) (rows : List APIConfigRow)
    (result : List APIConfig) :
    readRows newConfig {} i rows result = .ok (result ++ rows.map (scanConfig newConfig)) := by
  induction rows generalizing i result with
  | nil => simp [readRows]
  | cons r rows ih => simp [readRows, ih]

/-- Whatever fails, the loop returns an error or the configs of the first rows. -/
theorem readRows_prefix (newConfig : APIConfig) (f : RowsFaults) {i : Nat}
    {rows : List APIConfigRow} {result l : List APIConfig}
    (h : readRows newConfig f i rows result = .ok l) :
    ∃ k, l = result ++ (rows.take k).map (scanConfig newConfig) := by
  induction rows generalizing i result with
  | nil =>
    simp only [readRows, Except.ok.injEq] at h
    exact ⟨0, by simp [h]⟩
  | cons r rows ih =>
    simp only [readRows] at h
    split_ifs at h
    · cases h
      exact ⟨0, by simp⟩
    · split at h
      · cases h
      · obtain ⟨k, rfl⟩ := ih h
        exact ⟨k + 1, by simp⟩

/-- A `rows.Next()` that fails before row `i`, all earlier rows read: the loop ends there with no
error. -/
theorem readRows_nextFails (newConfig : APIConfig) (f : RowsFaults) (rows : List APIConfigRow)
    (i j : Nat) (result : List APIConfig) (hi : i < rows.length)
    (hok : ∀ m < i, f.nextFails (j + m) = false ∧ f.scan (j + m) = none)
    (hfail : f.nextFails (j + i) = true) :
    readRows newConfig f j rows result = .ok (result ++ (rows.take i).map (scanConfig newConfig)) := by
  induction rows generalizing i j result with
  | nil => exact absurd hi (Nat.not_lt_zero _)
  | cons r rows ih =>
    cases i with
    | zero => simp [readRows, show f.nextFails j = true from hfail]
    | succ i =>
      obtain ⟨hn, hs⟩ := hok 0 i.succ_pos
      have hrest := ih i (j + 1) (result ++ [scanConfig newConfig r]) (by simpa using hi)
        (fun m hm => by rw [Nat.add_right_comm]; exact hok (m + 1) (by omega))
        (by rw [Nat.add_right_comm]; exact hfail)
      simp [readRows, show f.nextFails j = false from hn, show f.scan j = none from hs, hrest]

/-! ## The call -/

theorem readAPIConfigsBody_commit (newConfig : APIConfig) (f : RowsFaults) (tx : Store) :
    (readAPIConfigsBody newConfig f tx).commit = false := by
  unfold readAPIConfigsBody
  split
  · rfl
  · split <;> rfl

/-- The body's nil error comes with the configs of the first rows. -/
theorem readAPIConfigsBody_prefix (newConfig : APIConfig) (f : RowsFaults) (tx : Store)
    (he : (readAPIConfigsBody newConfig f tx).err = none) :
    ∃ k, (readAPIConfigsBody newConfig f tx).value =
      some ((tx.apiConfig.take k).map (scanConfig newConfig)) := by
  cases hq : f.query with
  | some e => simp [readAPIConfigsBody, hq, TxExit.fail] at he
  | none =>
    cases hrows : readRows newConfig f 0 tx.apiConfig [] with
    | error e => simp [readAPIConfigsBody, hq, hrows, TxExit.fail] at he
    | ok result =>
      obtain ⟨k, rfl⟩ := readRows_prefix newConfig f hrows
      exact ⟨k, by simp [readAPIConfigsBody, hq, hrows]⟩

/-- The call fails before its body, or returns what the body returns, and the store is the one it
started from. -/
theorem readAPIConfigs_cases (newConfig : APIConfig) (f : RowsFaults) (db : Store) :
    (∃ e, DB.readAPIConfigs newConfig f db = ⟨none, some e, db⟩) ∨
      DB.readAPIConfigs newConfig f db =
        ⟨(readAPIConfigsBody newConfig f db).value, (readAPIConfigsBody newConfig f db).err, db⟩ := by
  unfold DB.readAPIConfigs
  split
  · exact .inl ⟨_, rfl⟩
  · split
    · exact .inl ⟨_, rfl⟩
    · exact .inr (finishTx_rollback (readAPIConfigsBody_commit newConfig f db))

/-- `ReadAPIConfigs` never changes the store; with no fault it returns one config per row, in
the table's order; whatever fails, a nil error comes with the configs of the first rows of the
table; and a `rows.Next()` that fails before row `i` ends the loop, so the call returns the first
`i` configs with a nil error. -/
theorem readAPIConfigs_reads_prefix (newConfig : APIConfig) (f : RowsFaults) (db : Store) :
    (DB.readAPIConfigs newConfig f db).store = db ∧
    DB.readAPIConfigs newConfig {} db =
      ⟨some (db.apiConfig.map (scanConfig newConfig)), none, db⟩ ∧
    ((DB.readAPIConfigs newConfig f db).err = none →
      ∃ k, (DB.readAPIConfigs newConfig f db).value =
        some ((db.apiConfig.take k).map (scanConfig newConfig))) ∧
    (∀ i < db.apiConfig.length, f.acquire = none → f.begin = none → f.query = none →
      (∀ m < i, f.nextFails m = false ∧ f.scan m = none) → f.nextFails i = true →
      DB.readAPIConfigs newConfig f db =
        ⟨some ((db.apiConfig.take i).map (scanConfig newConfig)), none, db⟩) := by
  refine ⟨?_, by simp [DB.readAPIConfigs, readAPIConfigsBody, readRows_faultless, finishTx],
    fun he => ?_, fun i hi ha hb hq hok hfail => ?_⟩
  · rcases readAPIConfigs_cases newConfig f db with ⟨e, h⟩ | h <;> rw [h]
  · rcases readAPIConfigs_cases newConfig f db with ⟨e, h⟩ | h <;> rw [h] at he ⊢
    · cases he
    · exact readAPIConfigsBody_prefix newConfig f db he
  · have hrows := readRows_nextFails newConfig f db.apiConfig i 0 [] hi (by simpa using hok)
      (by simpa using hfail)
    simp [DB.readAPIConfigs, readAPIConfigsBody, ha, hb, hq, hrows, finishTx]

end ExposureNotifications.Database
