import Mathlib.Data.List.Nodup

/-! # The store: rows, tables, errors and the transaction frame

The tables that `internal/database` reads and writes (`Lock`, `FederationQuery`,
`FederationSync`, `APIConfig`) as lists of rows, the SQL statements as functions on a table, Go's
`error` values, and the frame every transaction of the package shares: `db.pool.Acquire`,
`conn.BeginTx`, the body, and `defer finishTx(ctx, tx, &commit, &err)`. Two properties of a body
carry over to the whole transaction, whichever store call fails: its commit discipline makes the
call all or nothing (`inTx_atomic`), and a body that reads only part of the store makes the call
read only that part (`inTx_alike`).

Transcription choices:

* `time.Time` and `time.Duration` are integers of nanoseconds. `Time.sub` clamps to the range of
  a 64-bit `Duration`, as `time.Time.Sub` does; `Time.add` does not saturate (a `time.Time` only
  saturates hundreds of billions of years away). `.UTC()` drops the monotonic reading, so every
  comparison is on wall time.
* Which store call fails, and with what driver error, is the environment's choice: `Faults` has
  one field per call site. A `Scan` that finds no row is not a fault: it is `pgx.ErrNoRows`, and
  the table decides it.
* A transaction runs alone (serializable isolation): its body sees the store as it was when it
  began, a commit replaces the store by the body's view, a rollback keeps the store.
* `finishTx` is not in the sources; it is modelled from the spec.
-/

namespace ExposureNotifications.Database

set_option autoImplicit false

/-! ## Time -/

/-- `time.Time`, in nanoseconds. -/
abbrev Time := Int

/-- `time.Duration`, in nanoseconds. -/
abbrev Duration := Int

/-- The largest and smallest `time.Duration`. -/
def maxDuration : Duration := 9223372036854775807
def minDuration : Duration := -9223372036854775808

/-- `t.Add(d)`. -/
def Time.add (t : Time) (d : Duration) : Time := t + d

/-- `t.Sub(u)`, clamped to the range of a `Duration`. -/
def Time.sub (t u : Time) : Duration := max minDuration (min maxDuration (t - u))

/-- `t.After(u)`. -/
def Time.after (t u : Time) : Bool := decide (u < t)

@[simp] theorem Time.add_eq (t : Time) (d : Duration) : Time.add t d = t + d := rfl

@[simp] theorem Time.after_eq (t u : Time) : Time.after t u = decide (u < t) := rfl

/-! ## Errors and faults -/

/-- A Go `error` as the package tests it: its two sentinels, `pgx.ErrNoRows`, and any other
error, known by its text. -/
inductive GoError
  | errAlreadyLocked
  | errNotFound
  | errNoRows
  | other (text : String)
  deriving DecidableEq, Repr

/-- `err.Error()`. -/
def GoError.text : GoError → String
  | errAlreadyLocked => "lock already in use"
  | errNotFound => "record not found"
  | errNoRows => "no rows in result set"
  | other t => t

/-- `fmt.Errorf(format + "%v", err)`. -/
def errorf (format : String) (err : GoError) : GoError := .other (format ++ err.text)

/-- The store calls of one operation that fail, each with the driver's error text. `exec₁` and
`exec₂` are the operation's first and second `Exec` in the source text; `{}` is a call in which
nothing fails. -/
structure Faults where
  acquire : Option String := none
  begin : Option String := none
  scan : Option String := none
  exec₁ : Option String := none
  exec₂ : Option String := none
  commit : Option String := none
  deriving DecidableEq, Repr

/-! ## Rows and tables -/

/-- A row of `Lock`: `(lock_id, expires)`. -/
structure LockRow where
  lockID : String
  expires : Time
  deriving DecidableEq, Repr

/-- `model.FederationQuery`, a row of `FederationQuery`. -/
structure FederationQuery where
  queryID : String
  serverAddr : String
  includeRegions : List String
  excludeRegions : List String
  lastTimestamp : Time
  deriving DecidableEq, Repr

/-- A row of `FederationSync`. `completed`, `insertions` and `max_timestamp` are `NULL` until
the sync is finalized. -/
structure FederationSync where
  syncID : String
  queryID : String
  started : Time
  completed : Option Time
  insertions : Option Int
  maxTimestamp : Option Time
  deriving DecidableEq, Repr

/-- A row of `APIConfig`; `apk_digest` may be `NULL`. -/
structure APIConfigRow where
  appPackageName : String
  apkDigest : Option String
  enforceApkDigest : Bool
  ctsProfileMatch : Bool
  basicIntegrity : Bool
  maxAgeSeconds : Int
  clockSkewSeconds : Int
  allowedRegions : List String
  allRegions : Bool
  bypassSafetynet : Bool
  deriving DecidableEq, Repr

/-- The contents of the database. -/
structure Store where
  lock : List LockRow
  federationQuery : List FederationQuery
  federationSync : List FederationSync
  apiConfig : List APIConfigRow
  deriving DecidableEq, Repr

/-- The empty database. -/
def Store.empty : Store := ⟨[], [], [], []⟩

section Table

variable {ρ : Type} (key : ρ → String)

/-- `SELECT ... WHERE key=$1` read through `QueryRow`: the first row with that key. -/
def selectWhere (k : String) (t : List ρ) : Option ρ := t.find? fun r => key r = k

/-- `DELETE FROM ... WHERE key=$1`. -/
def deleteWhere (k : String) (t : List ρ) : List ρ := t.filter fun r => key r ≠ k

/-- `UPDATE ... SET ... WHERE key=$1`: `set` rewrites every row with that key. -/
def updateWhere (k : String) (set : ρ → ρ) (t : List ρ) : List ρ :=
  t.map fun r => if key r = k then set r else r

/-- At most one row per key. -/
def UniqueBy (t : List ρ) : Prop := (t.map key).Nodup

variable {key}

theorem selectWhere_eq_none {k : String} {t : List ρ} :
    selectWhere key k t = none ↔ ∀ r ∈ t, key r ≠ k := by
  simp [selectWhere]

theorem selectWhere_spec {k : String} {t : List ρ} {r : ρ} (h : selectWhere key k t = some r) :
    r ∈ t ∧ key r = k :=
  ⟨List.mem_of_find?_eq_some h, by simpa using List.find?_some h⟩

@[simp] theorem selectWhere_append (k : String) (t u : List ρ) :
    selectWhere key k (t ++ u) = (selectWhere key k t).or (selectWhere key k u) :=
  List.find?_append

theorem deleteWhere_of_selectWhere_none {k : String} {t : List ρ}
    (h : selectWhere key k t = none) : deleteWhere key k t = t :=
  List.filter_eq_self.2 fun r hr => by simpa using selectWhere_eq_none.1 h r hr

theorem selectWhere_deleteWhere (k : String) (t : List ρ) :
    selectWhere key k (deleteWhere key k t) = none := by
  simp [selectWhere, deleteWhere]

theorem selectWhere_deleteWhere_ne {k k' : String} (hk : k' ≠ k) (t : List ρ) :
    selectWhere key k' (deleteWhere key k t) = selectWhere key k' t := by
  simp only [selectWhere, deleteWhere, List.find?_filter]
  congr 1
  funext r
  by_cases h : key r = k' <;> simp [h, hk]

theorem selectWhere_updateWhere_ne {k k' : String} (hk : k' ≠ k) {set : ρ → ρ}
    (hset : ∀ r, key (set r) = key r) (t : List ρ) :
    selectWhere key k' (updateWhere key k set t) = selectWhere key k' t := by
  induction t with
  | nil => rfl
  | cons r t ih =>
    simp only [selectWhere, updateWhere] at ih
    simp only [selectWhere, updateWhere, List.map_cons, List.find?_cons, ih]
    by_cases hr : key r = k
    · simp [hr, hset, Ne.symm hk]
    · simp [hr]

theorem selectWhere_updateWhere {k : String} {set : ρ → ρ} (hset : ∀ r, key (set r) = key r)
    (t : List ρ) : selectWhere key k (updateWhere key k set t) = (selectWhere key k t).map set := by
  induction t with
  | nil => rfl
  | cons r t ih =>
    simp only [selectWhere, updateWhere] at ih
    simp only [selectWhere, updateWhere, List.map_cons, List.find?_cons, ih]
    by_cases hr : key r = k
    · simp [hr, hset]
    · simp [hr]

theorem mem_deleteWhere {k : String} {t : List ρ} {r : ρ} :
    r ∈ deleteWhere key k t ↔ r ∈ t ∧ key r ≠ k := by
  simp [deleteWhere]

theorem mem_updateWhere_of_ne {k : String} {set : ρ → ρ} {t : List ρ} {r : ρ} (hr : r ∈ t)
    (hk : key r ≠ k) : r ∈ updateWhere key k set t :=
  List.mem_map.2 ⟨r, hr, if_neg hk⟩

theorem mem_updateWhere_of_eq {k : String} {set : ρ → ρ} {t : List ρ} {r : ρ} (hr : r ∈ t)
    (hk : key r = k) : set r ∈ updateWhere key k set t :=
  List.mem_map.2 ⟨r, hr, if_pos hk⟩

theorem mem_updateWhere {k : String} {set : ρ → ρ} {t : List ρ} {r' : ρ}
    (h : r' ∈ updateWhere key k set t) : ∃ r ∈ t, (key r = k ∧ r' = set r) ∨ (key r ≠ k ∧ r' = r) := by
  obtain ⟨r, hr, rfl⟩ := List.mem_map.1 h
  by_cases hk : key r = k
  · exact ⟨r, hr, .inl ⟨hk, if_pos hk⟩⟩
  · exact ⟨r, hr, .inr ⟨hk, if_neg hk⟩⟩

theorem unique_append {t : List ρ} {r : ρ} (hu : UniqueBy key t)
    (h : selectWhere key (key r) t = none) : UniqueBy key (t ++ [r]) := by
  simp only [UniqueBy, List.map_append, List.map_cons, List.map_nil]
  refine List.nodup_append.2 ⟨hu, List.nodup_singleton _, ?_⟩
  simp only [List.disjoint_singleton, List.mem_map, not_exists, not_and]
  exact fun r' hr' => selectWhere_eq_none.1 h r' hr'

theorem unique_deleteWhere {t : List ρ} (hu : UniqueBy key t) (k : String) :
    UniqueBy key (deleteWhere key k t) :=
  (hu.sublist (List.Sublist.map key (List.filter_sublist t)) :)

theorem unique_updateWhere {t : List ρ} (hu : UniqueBy key t) (k : String) {set : ρ → ρ}
    (hset : ∀ r, key (set r) = key r) : UniqueBy key (updateWhere key k set t) := by
  have : (updateWhere key k set t).map key = t.map key := by
    simp only [updateWhere, List.map_map]
    congr 1
    funext r
    by_cases h : key r = k <;> simp [h, hset]
  simpa [UniqueBy, this] using hu

/-- An `UPDATE` that keeps keys maps the rows of each key among themselves. -/
theorem filter_updateWhere {k : String} {set : ρ → ρ} (hset : ∀ r, key (set r) = key r)
    (x : String) (t : List ρ) :
    (updateWhere key k set t).filter (fun r => key r = x) =
      (t.filter fun r => key r = x).map fun r => if key r = k then set r else r := by
  induction t with
  | nil => rfl
  | cons r t ih =>
    simp only [updateWhere] at ih
    have hkey : key (if key r = k then set r else r) = key r := by split_ifs <;> simp [hset]
    simp only [updateWhere, List.map_cons, List.filter_cons, hkey, ih]
    by_cases hx : key r = x <;> simp [hx]

/-- In a table with at most one row per key, the row a `SELECT` finds is the row with that key. -/
theorem selectWhere_of_unique {t : List ρ} (hu : UniqueBy key t) {r : ρ} (hr : r ∈ t) :
    selectWhere key (key r) t = some r := by
  induction t with
  | nil => cases hr
  | cons r' t ih =>
    simp only [UniqueBy, List.map_cons, List.nodup_cons, List.mem_map] at hu
    rcases List.mem_cons.1 hr with rfl | hr
    · simp [selectWhere]
    · have hne : key r' ≠ key r := fun h => hu.1 ⟨r, hr, h.symm⟩
      simpa [selectWhere, hne] using ih hu.2 hr

end Table

/-! ## Reading one row -/

/-- What `row.Scan(...)` reports after `QueryRow`. -/
inductive Scanned (ρ : Type)
  | row (r : ρ)
  | errNoRows
  | failed (e : String)

/-- `row.Scan(...)`: the row `QueryRow` found, `pgx.ErrNoRows`, or the driver's error. -/
def scan {ρ : Type} (fault : Option String) (found : Option ρ) : Scanned ρ :=
  match fault, found with
  | some e, _ => .failed e
  | none, some r => .row r
  | none, none => .errNoRows

/-! ## The transaction frame -/

/-- What one call of an operation returns, and the store after it. -/
structure Outcome (α : Type) where
  value : α
  err : Option GoError
  store : Store

/-- What a transaction body leaves when it returns: the `commit` flag, the values it returns,
and the store as the transaction sees it. -/
structure TxExit (α : Type) where
  commit : Bool
  value : α
  err : Option GoError
  view : Store

section Frame

variable {α : Type}

/-- `commit = true; return value, nil`. -/
def TxExit.done (value : α) (view : Store) : TxExit α := ⟨true, value, none, view⟩

/-- `return zero, err`, with `commit` still false. -/
def TxExit.fail (zero : α) (err : GoError) (view : Store) : TxExit α := ⟨false, zero, some err, view⟩

/-- `_, err = tx.Exec(ctx, stmt, ...)`, then `if err != nil { return zero,
fmt.Errorf(format + "%v", err) }`, then the rest `k` of the body. -/
def exec (fault : Option String) (format : String) (zero : α) (stmt : Store → Store)
    (tx : Store) (k : Store → TxExit α) : TxExit α :=
  match fault with
  | some e => .fail zero (errorf format (.other e)) tx
  | none => k (stmt tx)

/-- `finishTx(ctx, tx, &commit, &err)`, deferred by every transaction.
Modelled from the spec: the function is not in the sources. It commits exactly when the
`commit` flag is set, reports a failed commit through `err`, and rolls back otherwise. -/
def finishTx (commitFault : Option String) (db : Store) (x : TxExit α) : Outcome α :=
  if x.commit then
    match commitFault with
    | none => ⟨x.value, x.err, x.view⟩
    | some e => ⟨x.value, some (.other e), db⟩
  else ⟨x.value, x.err, db⟩

/-- The frame of `Lock`, the `UnlockFn`, `AddFederationQuery` and the finalize closure:
`db.pool.Acquire(ctx)`, `conn.BeginTx(ctx, pgx.TxOptions{IsoLevel: pgx.Serializable})`, the body
on the store as it is, and `defer finishTx(ctx, tx, &commit, &err)`. -/
def inTx (f : Faults) (zero : α) (db : Store) (body : Store → TxExit α) : Outcome α :=
  match f.acquire with
  | some e => ⟨zero, some (errorf "unable to obtain database connection: " (.other e)), db⟩
  | none =>
    match f.begin with
    | some e => ⟨zero, some (errorf "starting transaction: " (.other e)), db⟩
    | none => finishTx f.commit db (body db)

@[simp] theorem inTx_faultless (zero : α) (db : Store) (body : Store → TxExit α) :
    inTx {} zero db body = finishTx none db (body db) := rfl

@[simp] theorem finishTx_done (db view : Store) (value : α) :
    finishTx none db (.done value view) = ⟨value, none, view⟩ := rfl

@[simp] theorem finishTx_fail (c : Option String) (db view : Store) (zero : α) (err : GoError) :
    finishTx c db (.fail zero err view) = ⟨zero, some err, db⟩ := rfl

theorem finishTx_rollback {c : Option String} {db : Store} {x : TxExit α} (h : x.commit = false) :
    finishTx c db x = ⟨x.value, x.err, db⟩ := by
  simp [finishTx, h]

@[simp] theorem exec_none (format : String) (zero : α) (stmt : Store → Store) (tx : Store)
    (k : Store → TxExit α) : exec none format zero stmt tx k = k (stmt tx) := rfl

/-! ## All or nothing -/

/-- The commit discipline of a body: it sets `commit` exactly when it returns a nil error, and it
then returns `v` and its view is `eff`. -/
def TxExit.Sound (x : TxExit α) (v : α) (eff : Store) : Prop :=
  (x.commit = true ↔ x.err = none) ∧ (x.commit = true → x.value = v ∧ x.view = eff)

/-- All or nothing: a call that returns an error leaves the store as it was, and a call that
returns a nil error returns `v` and has applied `eff`. -/
def Outcome.Atomic (o : Outcome α) (db : Store) (v : α) (eff : Store) : Prop :=
  (o.err ≠ none → o.store = db) ∧ (o.err = none → o.value = v ∧ o.store = eff)

theorem Outcome.Atomic.store_eq_or {o : Outcome α} {db eff : Store} {v : α}
    (h : o.Atomic db v eff) : o.store = db ∨ o.store = eff := by
  by_cases he : o.err = none
  · exact .inr (h.2 he).2
  · exact .inl (h.1 he)

theorem TxExit.done_sound (v : α) (eff : Store) : (TxExit.done v eff).Sound v eff := by
  simp [TxExit.Sound, TxExit.done]

theorem TxExit.fail_sound (zero : α) (err : GoError) (view : Store) (v : α) (eff : Store) :
    (TxExit.fail zero err view).Sound v eff := by
  simp [TxExit.Sound, TxExit.fail]

theorem exec_sound {fault : Option String} {format : String} {zero v : α}
    {stmt : Store → Store} {tx eff : Store} {k : Store → TxExit α}
    (hk : fault = none → (k (stmt tx)).Sound v eff) :
    (exec fault format zero stmt tx k).Sound v eff := by
  cases fault with
  | none => exact hk rfl
  | some e => exact TxExit.fail_sound _ _ _ _ _

/-- A body that keeps the commit discipline makes the whole transaction all or nothing,
whichever store call fails. -/
theorem inTx_atomic (f : Faults) (zero : α) {db eff : Store} {v : α} {body : Store → TxExit α}
    (h : (body db).Sound v eff) : (inTx f zero db body).Atomic db v eff := by
  obtain ⟨hce, hv⟩ := h
  unfold inTx finishTx
  cases f.acquire <;> cases f.begin <;> try exact ⟨fun _ => rfl, fun h => by cases h⟩
  cases hc : (body db).commit <;> cases f.commit <;> simp_all [Outcome.Atomic]

/-! ## What a call reads -/

section Reads

variable {β : Type} (p : Store → β)

/-- Two exits of a body that agree on everything but the part of the view that `p` forgets. -/
def TxExit.Alike (x y : TxExit α) : Prop :=
  x.commit = y.commit ∧ x.value = y.value ∧ x.err = y.err ∧ p x.view = p y.view

/-- Two outcomes with the same results and stores that agree on `p`. -/
def Outcome.Alike (o o' : Outcome α) : Prop :=
  o.value = o'.value ∧ o.err = o'.err ∧ p o.store = p o'.store

variable {p}

theorem TxExit.done_alike (v : α) {view view' : Store} (h : p view = p view') :
    (TxExit.done v view).Alike p (TxExit.done v view') := ⟨rfl, rfl, rfl, h⟩

theorem TxExit.fail_alike (zero : α) (err : GoError) {view view' : Store}
    (h : p view = p view') : (TxExit.fail zero err view).Alike p (TxExit.fail zero err view') :=
  ⟨rfl, rfl, rfl, h⟩

theorem exec_alike {fault : Option String} {format : String} {zero : α}
    {stmt : Store → Store} {tx tx' : Store} {k : Store → TxExit α} (htx : p tx = p tx')
    (hk : fault = none → (k (stmt tx)).Alike p (k (stmt tx'))) :
    (exec fault format zero stmt tx k).Alike p (exec fault format zero stmt tx' k) := by
  cases fault with
  | none => exact hk rfl
  | some e => exact TxExit.fail_alike _ _ htx

/-- A body whose exits from two stores that agree on `p` are alike gives alike outcomes,
whichever store call fails. -/
theorem inTx_alike (f : Faults) (zero : α) {db db' : Store} {body : Store → TxExit α}
    (hdb : p db = p db') (h : (body db).Alike p (body db')) :
    (inTx f zero db body).Alike p (inTx f zero db' body) := by
  obtain ⟨hc, hv, he, hview⟩ := h
  unfold inTx finishTx
  cases f.acquire <;> cases f.begin <;> try exact ⟨rfl, rfl, hdb⟩
  simp only [hc, hv, he]
  split <;> (try cases f.commit) <;> exact ⟨rfl, rfl, by assumption⟩

end Reads

end Frame

end ExposureNotifications.Database
