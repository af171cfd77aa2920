import ExposureNotifications.Database.Lock

/-! # Federation bookkeeping: queries and the sync history

`src/unnamed/part_000`, the federation half of `internal/database`. `DB.addFederationQuery`
replaces a query by id (delete when found, then insert) in one transaction;
`DB.startFederationSync` inserts a history row outside any transaction and returns the
finalize closure, modelled as the `FinalizeSyncFn` record of what it captures;
`FinalizeSyncFn.call` moves the query's cursor when something was inserted and completes the
history row, in one transaction.

The closure reads `q.QueryID` through the pointer it captured; the model captures the query
by value, that is, the caller does not change `*q` between the two calls.

* `addFederationQuery_atomic`, `startFederationSync_atomic`, `finalize_atomic`: all or nothing,
  whichever store call fails; `store_calls_all_or_nothing` gathers them with the lock's.
* `queryReplaced_filter_self`, `queryReplaced_filter_ne`: after a replace there is one row
  with the id, the query itself, and the other rows are as they were.
-/

namespace ExposureNotifications.Database

set_option autoImplicit false

/-! ## The statements -/

/-- `DELETE FROM FederationQuery WHERE query_id=$1`. -/
def deleteFederationQuery (queryID : String) (db : Store) : Store :=
  { db with federationQuery := deleteWhere FederationQuery.queryID queryID db.federationQuery }

/-- `INSERT INTO FederationQuery (query_id, server_addr, include_regions, exclude_regions,
last_timestamp) VALUES ($1, $2, $3, $4, $5)`. -/
def insertFederationQuery (q : FederationQuery) (db : Store) : Store :=
  { db with federationQuery := db.federationQuery ++ [q] }

/-- `UPDATE FederationQuery SET last_timestamp = $1 WHERE query_id = $2`. -/
def setLastTimestamp (queryID : String) (lastTimestamp : Time) (db : Store) : Store :=
  { db with
    federationQuery := updateWhere FederationQuery.queryID queryID
      (fun q => { q with lastTimestamp := lastTimestamp }) db.federationQuery }

/-- `INSERT INTO FederationSync (sync_id, query_id, started) VALUES ($1, $2, $3)`. -/
def insertFederationSync (syncID queryID : String) (started : Time) (db : Store) : Store :=
  { db with federationSync := db.federationSync ++ [⟨syncID, queryID, started, none, none, none⟩] }

/-- The row that `SET completed = $1, insertions = $2, max_timestamp = $3` leaves. -/
def FederationSync.complete (s : FederationSync) (completed : Time) (insertions : Int)
    (maxTimestamp : Time) : FederationSync :=
  { s with completed := some completed, insertions := some insertions,
           maxTimestamp := some maxTimestamp }

/-- `UPDATE FederationSync SET completed = $1, insertions = $2, max_timestamp = $3
WHERE sync_id = $4`. -/
def completeFederationSync (syncID : String) (completed : Time) (insertions : Int)
    (maxTimestamp : Time) (db : Store) : Store :=
  { db with
    federationSync := updateWhere FederationSync.syncID syncID
      (fun s => s.complete completed insertions maxTimestamp) db.federationSync }

/-! ## The operations -/

/-- `getFederationQuery(ctx, queryID, queryRow)`: `ErrNotFound` when no row has the id. -/
def getFederationQuery (scanFault : Option String) (db : Store) (queryID : String) :
    Except GoError FederationQuery :=
  match scan scanFault (selectWhere FederationQuery.queryID queryID db.federationQuery) with
  | .row q => .ok q
  | .errNoRows => .error .errNotFound
  | .failed e => .error (errorf "scanning results: " (.other e))

/-- `DB.GetFederationQuery(ctx, queryID)`, on a pooled connection outside any transaction. -/
def DB.getFederationQuery (f : Faults) (db : Store) (queryID : String) :
    Except GoError FederationQuery :=
  match f.acquire with
  | some e => .error (errorf "unable to obtain database connection: " (.other e))
  | none => Database.getFederationQuery f.scan db queryID

/-- `getFederationSync(ctx, syncID, queryRowContext)`. -/
def getFederationSync (scanFault : Option String) (db : Store) (syncID : String) :
    Except GoError FederationSync :=
  match scan scanFault (selectWhere FederationSync.syncID syncID db.federationSync) with
  | .row s => .ok s
  | .errNoRows => .error .errNotFound
  | .failed e => .error (errorf "scanning results: " (.other e))

/-- `DB.GetFederationSync(ctx, syncID)`. The row is returned as stored; whether
`model.FederationSync` can take the `NULL` completion columns of a sync not yet finalized depends
on its field types, which are not in the sources. -/
def DB.getFederationSync (f : Faults) (db : Store) (syncID : String) :
    Except GoError FederationSync :=
  match f.acquire with
  | some e => .error (errorf "unable to obtain database connection: " (.other e))
  | none => Database.getFederationSync f.scan db syncID

/-- `DB.AddFederationQuery(ctx, q)`: look the id up, delete when found, insert, commit. -/
def DB.addFederationQuery (f : Faults) (db : Store) (q : FederationQuery) : Outcome Unit :=
  inTx f () db fun tx =>
    let insert : Store → TxExit Unit := fun tx =>
      exec f.exec₂ "inserting federation query: " () (insertFederationQuery q) tx
        fun tx => .done () tx
    match Database.getFederationQuery f.scan tx q.queryID with
    | .ok _ =>
      exec f.exec₁ ("deleting existing federation query " ++ q.queryID ++ ": ") ()
        (deleteFederationQuery q.queryID) tx insert
    | .error e =>
      if e = .errNotFound then insert tx
      else .fail () (errorf ("getting existing federation query " ++ q.queryID ++ ": ") e) tx

/-- `FinalizeSyncFn`: the closure that `StartFederationSync` returns, known by what it
captures: the generated sync id, the query, the caller's `started` and the local
`startedTimer`. -/
structure FinalizeSyncFn where
  syncID : String
  q : FederationQuery
  started : Time
  startedTimer : Time
  deriving DecidableEq, Repr

/-- `DB.StartFederationSync(ctx, q, started)`. `syncID` is the `uuid.New().String()` it
generates and `now` its reading of `time.Now()`. The insert runs on the connection, outside a
transaction. -/
def DB.startFederationSync (f : Faults) (db : Store) (q : FederationQuery) (started : Time)
    (syncID : String) (now : Time) : Outcome (String × Option FinalizeSyncFn) :=
  match f.acquire with
  | some e => ⟨("", none), some (errorf "unable to obtain database connection: " (.other e)), db⟩
  | none =>
    match f.exec₁ with
    | some e => ⟨("", none), some (errorf "inserting federation sync: " (.other e)), db⟩
    | none => ⟨(syncID, some ⟨syncID, q, started, now⟩), none,
        insertFederationSync syncID q.queryID started db⟩

/-- A call of the finalize closure, `now` being its reading of `time.Now()`. -/
def FinalizeSyncFn.call (fn : FinalizeSyncFn) (f : Faults) (db : Store) (maxTimestamp : Time)
    (totalInserted : Int) (now : Time) : Outcome Unit :=
  inTx f () db fun tx =>
    let completed := Time.add fn.started (Time.sub now fn.startedTimer)
    let updateSync : Store → TxExit Unit := fun tx =>
      exec f.exec₂ "updating federation sync: " ()
        (completeFederationSync fn.syncID completed totalInserted maxTimestamp) tx
        fun tx => .done () tx
    if 0 < totalInserted then
      exec f.exec₁ "updating federation query: " ()
        (setLastTimestamp fn.q.queryID maxTimestamp) tx updateSync
    else updateSync tx

/-! ## What a call that returns nil has written -/

/-- `AddFederationQuery`: every row of the id deleted, the query inserted. -/
def queryReplaced (db : Store) (q : FederationQuery) : Store :=
  insertFederationQuery q (deleteFederationQuery q.queryID db)

/-- The finalize closure: the cursor moved when something was inserted, the history row
completed. -/
def syncFinalized (db : Store) (fn : FinalizeSyncFn) (maxTimestamp : Time) (totalInserted : Int)
    (completed : Time) : Store :=
  completeFederationSync fn.syncID completed totalInserted maxTimestamp
    (if 0 < totalInserted then setLastTimestamp fn.q.queryID maxTimestamp db else db)

@[simp] theorem queryReplaced_lock (db : Store) (q : FederationQuery) :
    (queryReplaced db q).lock = db.lock := rfl

@[simp] theorem queryReplaced_federationSync (db : Store) (q : FederationQuery) :
    (queryReplaced db q).federationSync = db.federationSync := rfl

@[simp] theorem insertFederationSync_lock (syncID queryID : String) (started : Time) (db : Store) :
    (insertFederationSync syncID queryID started db).lock = db.lock := rfl

@[simp] theorem insertFederationSync_federationQuery (syncID queryID : String) (started : Time)
    (db : Store) :
    (insertFederationSync syncID queryID started db).federationQuery = db.federationQuery := rfl

/-- The finalize closure's write, table by table. -/
theorem syncFinalized_eq (db : Store) (fn : FinalizeSyncFn) (maxTimestamp : Time)
    (totalInserted : Int) (completed : Time) :
    syncFinalized db fn maxTimestamp totalInserted completed =
      { db with
        federationQuery := if 0 < totalInserted then
            updateWhere FederationQuery.queryID fn.q.queryID
              (fun q => { q with lastTimestamp := maxTimestamp }) db.federationQuery
          else db.federationQuery,
        federationSync := updateWhere FederationSync.syncID fn.syncID
          (fun s => s.complete completed totalInserted maxTimestamp) db.federationSync } := by
  unfold syncFinalized; split <;> rfl

/-! ## All or nothing -/

theorem addFederationQuery_atomic (f : Faults) (db : Store) (q : FederationQuery) :
    (DB.addFederationQuery f db q).Atomic db () (queryReplaced db q) := by
  refine inTx_atomic f () ?_
  have hins : (exec f.exec₂ "inserting federation query: " () (insertFederationQuery q)
      (deleteFederationQuery q.queryID db) fun tx => .done () tx).Sound () (queryReplaced db q) :=
    exec_sound fun _ => TxExit.done_sound _ _
  rcases hs : f.scan with _ | e
  · rcases hf : selectWhere FederationQuery.queryID q.queryID db.federationQuery with _ | r
    · have hdel : deleteFederationQuery q.queryID db = db := by
        simp [deleteFederationQuery, deleteWhere_of_selectWhere_none hf]
      simp only [getFederationQuery, scan, hs, hf, if_true]
      rwa [hdel] at hins
    · simp only [getFederationQuery, scan, hs, hf]
      exact exec_sound fun _ => hins
  · simp only [getFederationQuery, scan, hs]
    exact TxExit.fail_sound _ _ _ _ _

theorem startFederationSync_atomic (f : Faults) (db : Store) (q : FederationQuery)
    (started : Time) (syncID : String) (now : Time) :
    (DB.startFederationSync f db q started syncID now).Atomic db
      (syncID, some ⟨syncID, q, started, now⟩) (insertFederationSync syncID q.queryID started db) := by
  unfold DB.startFederationSync
  rcases f.acquire with _ | a <;> rcases f.exec₁ with _ | e <;> simp [Outcome.Atomic]

theorem finalize_atomic (fn : FinalizeSyncFn) (f : Faults) (db : Store) (maxTimestamp : Time)
    (totalInserted : Int) (now : Time) :
    (fn.call f db maxTimestamp totalInserted now).Atomic db ()
      (syncFinalized db fn maxTimestamp totalInserted
        (Time.add fn.started (Time.sub now fn.startedTimer))) := by
  refine inTx_atomic f () ?_
  by_cases h : 0 < totalInserted
  · simp only [syncFinalized, h, if_true]
    exact exec_sound fun _ => exec_sound fun _ => TxExit.done_sound _ _
  · simp only [syncFinalized, h, if_false]
    exact exec_sound fun _ => TxExit.done_sound _ _

/-! ## Calls in which no store call fails -/

theorem startFederationSync_faultless (db : Store) (q : FederationQuery) (started : Time)
    (syncID : String) (now : Time) :
    DB.startFederationSync {} db q started syncID now =
      ⟨(syncID, some ⟨syncID, q, started, now⟩), none,
        insertFederationSync syncID q.queryID started db⟩ := rfl

theorem finalize_faultless (fn : FinalizeSyncFn) (db : Store) (maxTimestamp : Time)
    (totalInserted : Int) (now : Time) :
    fn.call {} db maxTimestamp totalInserted now =
      ⟨(), none, syncFinalized db fn maxTimestamp totalInserted
        (Time.add fn.started (Time.sub now fn.startedTimer))⟩ := by
  by_cases h : 0 < totalInserted <;> simp [FinalizeSyncFn.call, syncFinalized, h]

/-- Every operation that writes is all or nothing: whichever of its store calls fails (the
connection, `BeginTx`, `Scan`, an `Exec`, the commit), a call that returns an error, including
`ErrAlreadyLocked`, leaves the three tables as they were, and a call that returns nil has
applied every statement of its success path. -/
theorem store_calls_all_or_nothing (f : Faults) (db : Store) :
    (∀ lockID ttl now₁ now₂, (DB.lock f db lockID ttl now₁ now₂).Atomic db
      (some (buildUnlockFn lockID)) (lockWritten db lockID (Time.add now₁ ttl))) ∧
    (∀ fn : UnlockFn, (fn.call f db).Atomic db () (deleteLock fn.lockID db)) ∧
    (∀ q, (DB.addFederationQuery f db q).Atomic db () (queryReplaced db q)) ∧
    (∀ q started syncID now, (DB.startFederationSync f db q started syncID now).Atomic db
      (syncID, some ⟨syncID, q, started, now⟩)
      (insertFederationSync syncID q.queryID started db)) ∧
    (∀ (fn : FinalizeSyncFn) maxTimestamp totalInserted now,
      (fn.call f db maxTimestamp totalInserted now).Atomic db ()
        (syncFinalized db fn maxTimestamp totalInserted
          (Time.add fn.started (Time.sub now fn.startedTimer)))) :=
  ⟨lock_atomic f db, fun fn => unlock_atomic fn f db, addFederationQuery_atomic f db,
    startFederationSync_atomic f db, fun fn => finalize_atomic fn f db⟩

/-! ## What a call reads and writes -/

/-- The two federation tables. -/
def Store.federation (db : Store) : List FederationQuery × List FederationSync :=
  (db.federationQuery, db.federationSync)

theorem addFederationQuery_store_frame (f : Faults) (db : Store) (q : FederationQuery) :
    (DB.addFederationQuery f db q).store =
      { db with
        federationQuery := (DB.addFederationQuery f db q).store.federationQuery,
        federationSync := (DB.addFederationQuery f db q).store.federationSync } := by
  rcases (addFederationQuery_atomic f db q).store_eq_or with h | h <;> rw [h]
  rfl

theorem startFederationSync_store_frame (f : Faults) (db : Store) (q : FederationQuery)
    (started : Time) (syncID : String) (now : Time) :
    (DB.startFederationSync f db q started syncID now).store =
      { db with
        federationQuery := (DB.startFederationSync f db q started syncID now).store.federationQuery,
        federationSync := (DB.startFederationSync f db q started syncID now).store.federationSync } := by
  rcases (startFederationSync_atomic f db q started syncID now).store_eq_or with h | h <;> rw [h]
  rfl

theorem finalize_store_frame (fn : FinalizeSyncFn) (f : Faults) (db : Store) (maxTimestamp : Time)
    (totalInserted : Int) (now : Time) :
    (fn.call f db maxTimestamp totalInserted now).store =
      { db with
        federationQuery := (fn.call f db maxTimestamp totalInserted now).store.federationQuery,
        federationSync := (fn.call f db maxTimestamp totalInserted now).store.federationSync } := by
  rcases (finalize_atomic fn f db maxTimestamp totalInserted now).store_eq_or with h | h <;> rw [h]
  rw [syncFinalized_eq]

theorem federation_eq_iff {db db' : Store} :
    db.federation = db'.federation ↔
      db.federationQuery = db'.federationQuery ∧ db.federationSync = db'.federationSync :=
  Prod.mk.inj_iff

/-- `AddFederationQuery` reads only the federation tables: from two stores with the same
federation tables it returns the same results and leaves the same federation tables. -/
theorem addFederationQuery_frame (f : Faults) {db db' : Store}
    (h : db.federation = db'.federation) (q : FederationQuery) :
    (DB.addFederationQuery f db q).Alike Store.federation (DB.addFederationQuery f db' q) := by
  have hins : ∀ {a b : Store}, a.federation = b.federation →
      (exec f.exec₂ "inserting federation query: " () (insertFederationQuery q) a
        fun tx => .done () tx).Alike Store.federation
      (exec f.exec₂ "inserting federation query: " () (insertFederationQuery q) b
        fun tx => .done () tx) := fun hab =>
    exec_alike hab fun _ => TxExit.done_alike _ (by
      simp_all [federation_eq_iff, insertFederationQuery])
  refine inTx_alike f () h ?_
  dsimp only
  rw [show getFederationQuery f.scan db q.queryID = getFederationQuery f.scan db' q.queryID by
    simp [getFederationQuery, (federation_eq_iff.mp h).1]]
  split
  · exact exec_alike h fun _ => hins (by simp_all [federation_eq_iff, deleteFederationQuery])
  · split
    · exact hins h
    · exact TxExit.fail_alike _ _ h

theorem startFederationSync_frame (f : Faults) {db db' : Store}
    (h : db.federation = db'.federation) (q : FederationQuery) (started : Time) (syncID : String)
    (now : Time) :
    (DB.startFederationSync f db q started syncID now).Alike Store.federation
      (DB.startFederationSync f db' q started syncID now) := by
  unfold DB.startFederationSync
  cases f.acquire <;> cases f.exec₁ <;> try exact ⟨rfl, rfl, h⟩
  exact ⟨rfl, rfl, by simp_all [federation_eq_iff, insertFederationSync]⟩

theorem finalize_frame (fn : FinalizeSyncFn) (f : Faults) {db db' : Store}
    (h : db.federation = db'.federation) (maxTimestamp : Time) (totalInserted : Int)
    (now : Time) :
    (fn.call f db maxTimestamp totalInserted now).Alike Store.federation
      (fn.call f db' maxTimestamp totalInserted now) := by
  have hsync : ∀ {a b : Store}, a.federation = b.federation →
      (exec f.exec₂ "updating federation sync: " ()
        (completeFederationSync fn.syncID (Time.add fn.started (Time.sub now fn.startedTimer))
          totalInserted maxTimestamp) a fun tx => .done () tx).Alike Store.federation
      (exec f.exec₂ "updating federation sync: " ()
        (completeFederationSync fn.syncID (Time.add fn.started (Time.sub now fn.startedTimer))
          totalInserted maxTimestamp) b fun tx => .done () tx) := fun hab =>
    exec_alike hab fun _ => TxExit.done_alike _ (by
      simp_all [federation_eq_iff, completeFederationSync])
  refine inTx_alike f () h ?_
  dsimp only
  split
  · exact exec_alike h fun _ => hsync (by simp_all [federation_eq_iff, setLastTimestamp])
  · exact hsync h

/-! ## Replacing a query -/

theorem queryReplaced_filter_self (db : Store) (q : FederationQuery) :
    (queryReplaced db q).federationQuery.filter (fun r => r.queryID = q.queryID) = [q] := by
  simp [queryReplaced, insertFederationQuery, deleteFederationQuery, deleteWhere,
    List.filter_filter]

theorem queryReplaced_filter_ne (db : Store) (q : FederationQuery) :
    (queryReplaced db q).federationQuery.filter (fun r => r.queryID ≠ q.queryID) =
      db.federationQuery.filter (fun r => r.queryID ≠ q.queryID) := by
  simp [queryReplaced, insertFederationQuery, deleteFederationQuery, deleteWhere,
    List.filter_filter]

theorem getFederationQuery_queryReplaced (db : Store) (q : FederationQuery) :
    DB.getFederationQuery {} (queryReplaced db q) q.queryID = .ok q := by
  simp [DB.getFederationQuery, getFederationQuery, scan, queryReplaced, insertFederationQuery,
    deleteFederationQuery, selectWhere_deleteWhere]
  simp [selectWhere]

end ExposureNotifications.Database
