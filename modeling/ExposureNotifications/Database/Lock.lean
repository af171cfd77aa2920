import ExposureNotifications.Database.Store

/-! # `DB.Lock` and the `UnlockFn` it returns

`internal/database/lock.go`. `DB.lock` reads the row of the lock id in a serializable
transaction and then inserts a row (no row), moves the expiry of an expired row, or refuses with
`ErrAlreadyLocked`; the `UnlockFn` deletes every row of its lock id.

* `lock_atomic`, `unlock_atomic`: whichever store call fails, a call that returns an error leaves
  the store as it was, and a call that returns nil has made its write (`lockWritten`,
  `deleteLock`).
* `lock_of_free`, `lock_of_expired`, `lock_of_held`, `unlock_faultless`: what a call in which no
  store call fails returns, one lemma per branch.
-/

namespace ExposureNotifications.Database

set_option autoImplicit false

/-! ## The statements -/

/-- `UPDATE Lock SET expires=$1 WHERE lock_id=$2`. -/
def setExpires (lockID : String) (expiry : Time) (db : Store) : Store :=
  { db with lock := updateWhere LockRow.lockID lockID (fun l => { l with expires := expiry }) db.lock }

/-- `INSERT INTO Lock (lock_id, expires) VALUES ($1, $2)`. -/
def insertLock (lockID : String) (expiry : Time) (db : Store) : Store :=
  { db with lock := db.lock ++ [⟨lockID, expiry⟩] }

theorem selectWhere_insertLock {db : Store} {lockID : String} (expiry : Time)
    (h : selectWhere LockRow.lockID lockID db.lock = none) :
    selectWhere LockRow.lockID lockID (insertLock lockID expiry db).lock = some ⟨lockID, expiry⟩ := by
  simp only [insertLock, selectWhere_append, h, Option.none_or]
  simp [selectWhere]

/-- `DELETE FROM Lock WHERE lock_id=$1`. -/
def deleteLock (lockID : String) (db : Store) : Store :=
  { db with lock := deleteWhere LockRow.lockID lockID db.lock }

/-- What a `Lock` that returns nil has written: the new expiry over the row it found, or a new
row. -/
def lockWritten (db : Store) (lockID : String) (expiry : Time) : Store :=
  match selectWhere LockRow.lockID lockID db.lock with
  | some _ => setExpires lockID expiry db
  | none => insertLock lockID expiry db

@[simp] theorem lockWritten_federationQuery (db : Store) (lockID : String) (expiry : Time) :
    (lockWritten db lockID expiry).federationQuery = db.federationQuery := by
  unfold lockWritten; split <;> rfl

@[simp] theorem lockWritten_federationSync (db : Store) (lockID : String) (expiry : Time) :
    (lockWritten db lockID expiry).federationSync = db.federationSync := by
  unfold lockWritten; split <;> rfl

@[simp] theorem deleteLock_federationQuery (lockID : String) (db : Store) :
    (deleteLock lockID db).federationQuery = db.federationQuery := rfl

@[simp] theorem deleteLock_federationSync (lockID : String) (db : Store) :
    (deleteLock lockID db).federationSync = db.federationSync := rfl

/-! ## The operations -/

/-- `UnlockFn`: the closure that `buildUnlockFn(ctx, db, lockID)` returns, known by the lock id
it captures. -/
structure UnlockFn where
  lockID : String
  deriving DecidableEq, Repr

/-- `buildUnlockFn(ctx, db, lockID)`. -/
def buildUnlockFn (lockID : String) : UnlockFn := ⟨lockID⟩

/-- A call of an `UnlockFn`: `DELETE FROM Lock WHERE lock_id=$1` in its own transaction. It
deletes whatever row has the id, whoever wrote it. -/
def UnlockFn.call (fn : UnlockFn) (f : Faults) (db : Store) : Outcome Unit :=
  inTx f () db fun tx =>
    exec f.exec₁ "deleting lock: " () (deleteLock fn.lockID) tx fun tx => .done () tx

/-- `DB.Lock(ctx, lockID, ttl)`. `now₁` and `now₂` are its two readings of `time.Now()`: the
first gives the expiry, the second decides whether the row found has expired. The
`if err != nil` right after `QueryRow` tests the error of `BeginTx`, which is nil there, so it
is left out. -/
def DB.lock (f : Faults) (db : Store) (lockID : String) (ttl : Duration) (now₁ now₂ : Time) :
    Outcome (Option UnlockFn) :=
  inTx f none db fun tx =>
    let expiry := Time.add now₁ ttl
    match scan f.scan (selectWhere LockRow.lockID lockID tx.lock) with
    | .failed e => .fail none (errorf "scanning results: " (.other e)) tx
    | .row l =>
      if Time.after now₂ l.expires then
        exec f.exec₁ "updating expired lock: " none (setExpires lockID expiry) tx
          fun tx => .done (some (buildUnlockFn lockID)) tx
      else .fail none .errAlreadyLocked tx
    | .errNoRows =>
      exec f.exec₂ "inserting new lock: " none (insertLock lockID expiry) tx
        fun tx => .done (some (buildUnlockFn lockID)) tx

/-! ## All or nothing -/

theorem unlock_atomic (fn : UnlockFn) (f : Faults) (db : Store) :
    (fn.call f db).Atomic db () (deleteLock fn.lockID db) :=
  inTx_atomic f () (exec_sound fun _ => TxExit.done_sound _ _)

theorem lock_atomic (f : Faults) (db : Store) (lockID : String) (ttl : Duration)
    (now₁ now₂ : Time) :
    (DB.lock f db lockID ttl now₁ now₂).Atomic db (some (buildUnlockFn lockID))
      (lockWritten db lockID (Time.add now₁ ttl)) := by
  refine inTx_atomic f none ?_
  rcases hs : f.scan with _ | e
  · rcases hf : selectWhere LockRow.lockID lockID db.lock with _ | l
    · simp only [scan, lockWritten, hf]
      exact exec_sound fun _ => TxExit.done_sound _ _
    · simp only [scan, lockWritten, hf]
      split
      · exact exec_sound fun _ => TxExit.done_sound _ _
      · exact TxExit.fail_sound _ _ _ _ _
  · exact TxExit.fail_sound _ _ _ _ _

variable {db : Store} {lockID : String} {ttl : Duration} {now₁ now₂ : Time}

/-- A `Lock` that finds a row not yet expired returns an error, whichever store call fails. -/
theorem lock_err_of_held (f : Faults) {l : LockRow}
    (h : selectWhere LockRow.lockID lockID db.lock = some l) (hl : now₂ ≤ l.expires) :
    (DB.lock f db lockID ttl now₁ now₂).err ≠ none := by
  unfold DB.lock inTx
  rcases f with ⟨_ | a, _ | b, _ | s, e₁, e₂, c⟩ <;>
    simp [scan, h, not_lt.2 hl, finishTx, TxExit.fail, errorf]

/-! ## Calls in which no store call fails -/

theorem lock_of_free (h : selectWhere LockRow.lockID lockID db.lock = none) :
    DB.lock {} db lockID ttl now₁ now₂ =
      ⟨some (buildUnlockFn lockID), none, insertLock lockID (now₁ + ttl) db⟩ := by
  simp [DB.lock, scan, h]

theorem lock_of_expired {l : LockRow} (h : selectWhere LockRow.lockID lockID db.lock = some l)
    (hl : l.expires < now₂) :
    DB.lock {} db lockID ttl now₁ now₂ =
      ⟨some (buildUnlockFn lockID), none, setExpires lockID (now₁ + ttl) db⟩ := by
  simp [DB.lock, scan, h, hl]

theorem lock_of_held {l : LockRow} (h : selectWhere LockRow.lockID lockID db.lock = some l)
    (hl : now₂ ≤ l.expires) :
    DB.lock {} db lockID ttl now₁ now₂ = ⟨none, some .errAlreadyLocked, db⟩ := by
  simp [DB.lock, scan, h, not_lt.2 hl]

theorem unlock_faultless (fn : UnlockFn) :
    fn.call {} db = ⟨(), none, deleteLock fn.lockID db⟩ := rfl

/-! ## What a call reads and writes -/

/-- `Lock` writes only the `Lock` table. -/
theorem lock_store_frame (f : Faults) (db : Store) (lockID : String) (ttl : Duration)
    (now₁ now₂ : Time) :
    (DB.lock f db lockID ttl now₁ now₂).store =
      { db with lock := (DB.lock f db lockID ttl now₁ now₂).store.lock } := by
  rcases (lock_atomic f db lockID ttl now₁ now₂).store_eq_or with h | h <;> rw [h]
  unfold lockWritten
  split <;> rfl

theorem unlock_store_frame (fn : UnlockFn) (f : Faults) (db : Store) :
    (fn.call f db).store = { db with lock := (fn.call f db).store.lock } := by
  rcases (unlock_atomic fn f db).store_eq_or with h | h <;> rw [h]
  rfl

/-- `Lock` reads only the `Lock` table: from two stores with the same `Lock` table it returns
the same results and leaves the same `Lock` table. -/
theorem lock_frame (f : Faults) {db db' : Store} (h : db.lock = db'.lock) (lockID : String)
    (ttl : Duration) (now₁ now₂ : Time) :
    (DB.lock f db lockID ttl now₁ now₂).Alike Store.lock (DB.lock f db' lockID ttl now₁ now₂) := by
  refine inTx_alike f none h ?_
  simp only [h]
  split
  · exact TxExit.fail_alike _ _ h
  · split
    · exact exec_alike h fun _ => TxExit.done_alike _ (by simp [setExpires, h])
    · exact TxExit.fail_alike _ _ h
  · exact exec_alike h fun _ => TxExit.done_alike _ (by simp [insertLock, h])

theorem unlock_frame (fn : UnlockFn) (f : Faults) {db db' : Store} (h : db.lock = db'.lock) :
    (fn.call f db).Alike Store.lock (fn.call f db') :=
  inTx_alike f () h (exec_alike h fun _ => TxExit.done_alike _ (by simp [deleteLock, h]))

end ExposureNotifications.Database
