import ExposureNotifications.Runs.Separation

/-! # The registry the store implements

What the three tables are for, read by key: each lock id has an expiry, each query id a query,
each sync id a history row. A `Registry` is that view, and `Registry.serve` says what each
request does to it: an `acquire` succeeds only on a lock id free at its time, a `release` drops
the lock id, a `put` replaces the query of its id, an `open` adds the history row of a new sync
id, a `close` completes a row and, when it reports insertions, moves its query's cursor.

`ofStore` reads the store by key as the package does, through the first row a
`SELECT ... WHERE key=$1` finds (`byKey`). The SQL statements are map operations on that view
(`byKey_append_of_none`, `byKey_deleteWhere`, `byKey_updateWhere`), so each operation of the
package realizes its request (the `_realizes` lemmas): nothing or the request whatever fails, and
the request itself when nothing fails. `step_refines` resolves a call's closure into its request,
and `run_refines` chains the calls of a run. `registry_determines_tables`: along runs from the
empty store with fresh sync ids every table keeps one row per key, so the registry loses nothing
but the order of the rows.

Each request changes each map of the registry at one entry it names, from the value there
(`ChangesAt`), so requests on different entries commute (`Registry.serveStep_comm`); through the
refinement, `independent_calls_commute`: two calls on different entries in which nothing fails
leave the same registry in either order.
-/

namespace ExposureNotifications.Runs

set_option autoImplicit false

/-- The faults of a call's store calls. -/
def Call.faults : Call → Database.Faults
  | .lock _ _ _ _ f | .unlock _ f | .addFederationQuery _ f | .getFederationQuery _ f
  | .getFederationSync _ f | .startFederationSync _ _ _ _ f | .finalize _ _ _ _ f => f

end ExposureNotifications.Runs

namespace ExposureNotifications.Refinement

open ExposureNotifications.Database ExposureNotifications.Runs

set_option autoImplicit false

/-! ## The abstract level -/

/-- The store read by key. -/
@[ext] structure Registry where
  locks : String → Option Time
  queries : String → Option FederationQuery
  syncs : String → Option FederationSync

/-- What a call asks of the registry, with the closure it calls resolved. -/
inductive Request
  | acquire (lockID : String) (expiry now : Time)
  | release (lockID : String)
  | put (q : FederationQuery)
  | open (syncID queryID : String) (started : Time)
  | close (syncID queryID : String) (completed : Time) (insertions : Int) (maxTimestamp : Time)
  | read

/-- An entry of the registry: the expiry of a lock id, the query of a query id, the history row
of a sync id. -/
inductive Entry
  | lock (lockID : String)
  | query (queryID : String)
  | sync (syncID : String)
  deriving DecidableEq, Repr

/-- The entries a request reads or writes. -/
def Request.entries : Request → List Entry
  | .acquire lockID _ _ | .release lockID => [.lock lockID]
  | .put q => [.query q.queryID]
  | .open syncID _ _ => [.sync syncID]
  | .close syncID queryID _ _ _ => [.sync syncID, .query queryID]
  | .read => []

/-- The value at `k` mapped by `g`, the others kept. -/
def modify {β : Type} (m : String → Option β) (k : String) (g : β → β) : String → Option β :=
  fun k' => if k' = k then (m k').map g else m k'

namespace Registry

/-- A lock id is free at `now` when it has no expiry, or an expiry before `now`. -/
def lockFree (r : Registry) (lockID : String) (now : Time) : Bool :=
  match r.locks lockID with
  | none => true
  | some e => decide (e < now)

/-- What a request does to the registry; `none` when the registry refuses it. -/
def serve (r : Registry) : Request → Option Registry
  | .acquire lockID expiry now =>
    if r.lockFree lockID now then
      some { r with locks := Function.update r.locks lockID (some expiry) }
    else none
  | .release lockID => some { r with locks := Function.update r.locks lockID none }
  | .put q => some { r with queries := Function.update r.queries q.queryID (some q) }
  | .open syncID queryID started =>
    if r.syncs syncID = none then
      some { r with
        syncs := Function.update r.syncs syncID (some ⟨syncID, queryID, started, none, none, none⟩) }
    else none
  | .close syncID queryID completed insertions maxTimestamp =>
    some { r with
      queries := if 0 < insertions then
          modify r.queries queryID fun q => { q with lastTimestamp := maxTimestamp }
        else r.queries,
      syncs := modify r.syncs syncID fun s => s.complete completed insertions maxTimestamp }
  | .read => some r

/-- One request served, a refused one doing nothing. -/
def serveStep (r : Registry) (req : Request) : Registry := (r.serve req).getD r

/-- A call's effect on the registry: nothing, or what `serve` gives. -/
def Serves (r : Registry) (req : Request) (r' : Registry) : Prop :=
  r' = r ∨ r.serve req = some r'

/-- The registries a sequence of requests can lead to, each doing nothing or what `serve` gives. -/
def ServesAll : Registry → List Request → Registry → Prop
  | r, [], r' => r' = r
  | r, req :: reqs, r' => ∃ r₁, r.Serves req r₁ ∧ ServesAll r₁ reqs r'

/-- The requests served one after the other, a refused one doing nothing. -/
def serveAll (r : Registry) : List Request → Registry
  | [] => r
  | req :: reqs => (r.serveStep req).serveAll reqs

end Registry

/-! ## Requests on different entries commute -/

section Local

variable {β : Type}

/-- The change of a map at `k` alone, computed from its value there. -/
def atKey (k : String) (g : Option β → Option β) (m : String → Option β) : String → Option β :=
  Function.update m k (g (m k))

theorem atKey_comm {k k' : String} (hk : k ≠ k') (g g' : Option β → Option β)
    (m : String → Option β) : atKey k g (atKey k' g' m) = atKey k' g' (atKey k g m) := by
  simp only [atKey, Function.update_noteq hk, Function.update_noteq hk.symm]
  exact (Function.update_comm hk _ _ _).symm

theorem modify_eq_atKey (m : String → Option β) (k : String) (g : β → β) :
    modify m k g = atKey k (Option.map g) m := by
  funext k'
  by_cases hk : k' = k
  · subst hk
    simp [modify, atKey]
  · simp [modify, atKey, hk, Function.update_noteq hk]

/-- How each request changes the map `field` of the registry: not at all, or at one key alone,
from the value there, the key being an entry the request names through `e`. -/
def ChangesAt (field : Registry → String → Option β) (e : String → Entry) (req : Request) : Prop :=
  (∀ r : Registry, field (r.serveStep req) = field r) ∨
  ∃ k g, e k ∈ req.entries ∧ ∀ r : Registry, field (r.serveStep req) = atKey k g (field r)

/-- Two requests that change a map at different keys commute on it. -/
theorem ChangesAt.comm {field : Registry → String → Option β} {e : String → Entry}
    {req₁ req₂ : Request} (h₁ : ChangesAt field e req₁) (h₂ : ChangesAt field e req₂)
    (hd : req₁.entries.Disjoint req₂.entries) (r : Registry) :
    field ((r.serveStep req₁).serveStep req₂) = field ((r.serveStep req₂).serveStep req₁) := by
  rcases h₁ with h₁ | ⟨k₁, g₁, hk₁, h₁⟩ <;> rcases h₂ with h₂ | ⟨k₂, g₂, hk₂, h₂⟩ <;>
    simp only [h₁, h₂]
  exact atKey_comm (fun hk => hd hk₁ (by rw [← hk]; exact hk₂)) _ _ _

end Local

namespace Registry

/-- A lock id is free at `now` when its expiry, if any, is before `now`. -/
theorem lockFree_eq (r : Registry) (lockID : String) (now : Time) :
    r.lockFree lockID now = (r.locks lockID).all (· < now) := by
  unfold lockFree
  split <;> simp_all

theorem changesAt_locks (req : Request) : ChangesAt locks Entry.lock req := by
  cases req with
  | acquire lockID expiry now =>
    refine .inr ⟨lockID, fun o => if o.all (· < now) then some expiry else o, by simp [Request.entries],
      fun r => ?_⟩
    simp only [serveStep, serve, atKey, lockFree_eq]
    split <;> simp_all
  | release lockID => exact .inr ⟨lockID, fun _ => none, by simp [Request.entries], fun _ => rfl⟩
  | «open» =>
    refine .inl fun r => ?_
    simp only [serveStep, serve]
    split <;> rfl
  | put | close | read => exact .inl fun _ => rfl

theorem changesAt_queries (req : Request) : ChangesAt queries Entry.query req := by
  cases req with
  | put q => exact .inr ⟨q.queryID, fun _ => some q, by simp [Request.entries], fun _ => rfl⟩
  | «open» =>
    refine .inl fun r => ?_
    simp only [serveStep, serve]
    split <;> rfl
  | close syncID queryID completed insertions maxTimestamp =>
    by_cases h : 0 < insertions
    · refine .inr ⟨queryID, Option.map fun q => { q with lastTimestamp := maxTimestamp },
        by simp [Request.entries], fun r => ?_⟩
      simp only [serveStep, serve, h, if_true, modify_eq_atKey, Option.getD_some]
    · exact .inl fun r => by simp [serveStep, serve, h]
  | acquire lockID expiry now =>
    refine .inl fun r => ?_
    simp only [serveStep, serve]
    split <;> rfl
  | release | read => exact .inl fun _ => rfl

theorem changesAt_syncs (req : Request) : ChangesAt syncs Entry.sync req := by
  cases req with
  | «open» syncID queryID started =>
    refine .inr ⟨syncID, fun o => if o = none then some ⟨syncID, queryID, started, none, none, none⟩
      else o, by simp [Request.entries], fun r => ?_⟩
    simp only [serveStep, serve, atKey]
    split <;> simp_all
  | close syncID queryID completed insertions maxTimestamp =>
    exact .inr ⟨syncID, Option.map fun s => s.complete completed insertions maxTimestamp,
      by simp [Request.entries], fun r => modify_eq_atKey _ _ _⟩
  | acquire lockID expiry now =>
    refine .inl fun r => ?_
    simp only [serveStep, serve]
    split <;> rfl
  | release | put | read => exact .inl fun _ => rfl

/-- Requests that name no common entry commute. -/
theorem serveStep_comm {req₁ req₂ : Request} (hd : req₁.entries.Disjoint req₂.entries)
    (r : Registry) : (r.serveStep req₁).serveStep req₂ = (r.serveStep req₂).serveStep req₁ :=
  Registry.ext ((changesAt_locks req₁).comm (changesAt_locks req₂) hd r)
    ((changesAt_queries req₁).comm (changesAt_queries req₂) hd r)
    ((changesAt_syncs req₁).comm (changesAt_syncs req₂) hd r)

end Registry

/-! ## Tables read by key -/

section Table

variable {ρ : Type} {key : ρ → String}

/-- A table read by key, through the first row with each key. -/
def byKey (key : ρ → String) (t : List ρ) : String → Option ρ := fun k => selectWhere key k t

theorem byKey_append_of_none {t : List ρ} {r : ρ} (h : selectWhere key (key r) t = none) :
    byKey key (t ++ [r]) = Function.update (byKey key t) (key r) (some r) := by
  funext k
  by_cases hk : k = key r
  · subst hk
    simp only [byKey, selectWhere_append, h, Option.none_or, Function.update_same]
    simp [selectWhere]
  · simp [byKey, Function.update_noteq hk, selectWhere, Ne.symm hk]

theorem byKey_deleteWhere (k : String) (t : List ρ) :
    byKey key (deleteWhere key k t) = Function.update (byKey key t) k none := by
  funext k'
  by_cases hk : k' = k
  · subst hk
    simp [byKey, selectWhere_deleteWhere]
  · simp [byKey, Function.update_noteq hk, selectWhere_deleteWhere_ne hk]

theorem byKey_updateWhere (key : ρ → String) (k : String) (set : ρ → ρ)
    (hset : ∀ r, key (set r) = key r) (t : List ρ) :
    byKey key (updateWhere key k set t) = modify (byKey key t) k set := by
  funext k'
  by_cases hk : k' = k
  · subst hk
    simp [byKey, modify, selectWhere_updateWhere hset]
  · simp [byKey, modify, hk, selectWhere_updateWhere_ne hk hset]

/-- Two tables with one row per key that read the same by key hold the same rows. -/
theorem perm_of_byKey_eq {t t' : List ρ} (hu : UniqueBy key t) (hu' : UniqueBy key t')
    (h : byKey key t = byKey key t') : t.Perm t' := by
  have hmem : ∀ {u : List ρ}, UniqueBy key u → ∀ r, r ∈ u ↔ byKey key u (key r) = some r :=
    fun hu r => ⟨selectWhere_of_unique hu, fun h => (selectWhere_spec h).1⟩
  refine (List.perm_ext_iff_of_nodup (hu.of_map _) (hu'.of_map _)).2 fun r => ?_
  rw [hmem hu, hmem hu', h]

end Table

/-- A `Lock` row is its id and its expiry: the expiries read by key give the rows read by key. -/
theorem byKey_lock_of_expires {t t' : List LockRow}
    (h : Option.map LockRow.expires ∘ byKey LockRow.lockID t =
      Option.map LockRow.expires ∘ byKey LockRow.lockID t') :
    byKey LockRow.lockID t = byKey LockRow.lockID t' := by
  funext k
  have hk := congrFun h k
  rcases h₁ : byKey LockRow.lockID t k with _ | ⟨i, e⟩ <;>
    rcases h₂ : byKey LockRow.lockID t' k with _ | ⟨i', e'⟩ <;>
    simp only [Function.comp, h₁, h₂, Option.map_none', Option.map_some', Option.some.injEq,
      reduceCtorEq] at hk ⊢
  have hi : i = i' := (selectWhere_spec h₁).2.trans (selectWhere_spec h₂).2.symm
  rw [hi, hk]

/-- The store read by key. -/
def ofStore (db : Store) : Registry :=
  ⟨Option.map LockRow.expires ∘ byKey LockRow.lockID db.lock,
    byKey FederationQuery.queryID db.federationQuery, byKey FederationSync.syncID db.federationSync⟩

/-! ## The statements are map operations -/

theorem ofStore_lockWritten (db : Store) (lockID : String) (expiry : Time) :
    ofStore (lockWritten db lockID expiry) =
      { ofStore db with locks := Function.update (ofStore db).locks lockID (some expiry) } := by
  unfold lockWritten
  split
  · next l hl =>
    obtain ⟨-, hid⟩ := selectWhere_spec hl
    ext1
    · simp only [ofStore, setExpires, byKey_updateWhere LockRow.lockID lockID
        (fun l => { l with expires := expiry }) (fun _ => rfl)]
      funext k
      by_cases hk : k = lockID
      · subst hk
        simp [modify, byKey, hl]
      · simp [modify, hk, Function.update_noteq hk]
    · rfl
    · rfl
  · next hl =>
    ext1
    · simp only [ofStore, insertLock, byKey_append_of_none (show selectWhere LockRow.lockID
        (LockRow.lockID ⟨lockID, expiry⟩) db.lock = none from hl), Function.comp_update]
      rfl
    · rfl
    · rfl

theorem ofStore_deleteLock (lockID : String) (db : Store) :
    ofStore (deleteLock lockID db) =
      { ofStore db with locks := Function.update (ofStore db).locks lockID none } := by
  ext1
  · simp only [ofStore, deleteLock, byKey_deleteWhere, Function.comp_update]
    rfl
  · rfl
  · rfl

theorem ofStore_queryReplaced (db : Store) (q : FederationQuery) :
    ofStore (queryReplaced db q) =
      { ofStore db with queries := Function.update (ofStore db).queries q.queryID (some q) } := by
  ext1
  · rfl
  · simp only [ofStore, queryReplaced, insertFederationQuery, deleteFederationQuery,
      byKey_append_of_none (selectWhere_deleteWhere _ _), byKey_deleteWhere,
      Function.update_idem]
  · rfl

theorem ofStore_insertFederationSync {db : Store} {syncID queryID : String} (started : Time)
    (h : (ofStore db).syncs syncID = none) :
    ofStore (insertFederationSync syncID queryID started db) =
      { ofStore db with
        syncs := Function.update (ofStore db).syncs syncID
          (some ⟨syncID, queryID, started, none, none, none⟩) } := by
  ext1
  · rfl
  · rfl
  · exact byKey_append_of_none h

theorem ofStore_syncFinalized (db : Store) (fn : FinalizeSyncFn) (maxTimestamp : Time)
    (totalInserted : Int) (completed : Time) :
    ofStore (syncFinalized db fn maxTimestamp totalInserted completed) =
      { ofStore db with
        queries := if 0 < totalInserted then
            modify (ofStore db).queries fn.q.queryID fun q => { q with lastTimestamp := maxTimestamp }
          else (ofStore db).queries,
        syncs := modify (ofStore db).syncs fn.syncID
          fun s => s.complete completed totalInserted maxTimestamp } := by
  rw [syncFinalized_eq]
  ext1
  · rfl
  · simp only [ofStore]
    split
    · exact byKey_updateWhere FederationQuery.queryID fn.q.queryID
        (fun q => { q with lastTimestamp := maxTimestamp }) (fun _ => rfl) _
    · rfl
  · exact byKey_updateWhere FederationSync.syncID fn.syncID
      (fun s => s.complete completed totalInserted maxTimestamp) (fun _ => rfl) _

/-! ## Each operation is its request -/

/-- A call's effect on the registry, for the request `req` and the faults `f` of its store calls:
nothing or what `serve` gives, whatever fails; and when nothing fails, what `serve` gives, or
nothing when the registry refuses. -/
structure Realizes (f : Faults) (r : Registry) (req : Request) (r' : Registry) : Prop where
  serves : r.Serves req r'
  faultless : f = {} → r' = r.serveStep req

/-- An all-or-nothing call whose write is what `serve` gives. -/
theorem realizes_of_atomic {α : Type} {f : Faults} {o : Outcome α} {db eff : Store} {v : α}
    {req : Request} (h : o.Atomic db v eff) (hs : (ofStore db).serve req = some (ofStore eff))
    (hf : f = {} → o.store = eff) : Realizes f (ofStore db) req (ofStore o.store) :=
  ⟨h.store_eq_or.imp (congrArg ofStore) fun he => by rw [he]; exact hs,
    fun h0 => by rw [hf h0, Registry.serveStep, hs]; rfl⟩

/-- A call that leaves the registry as it was, on a request the registry refuses. -/
theorem realizes_of_refused {f : Faults} {r : Registry} {req : Request}
    (hs : r.serve req = none) : Realizes f r req r :=
  ⟨.inl rfl, fun _ => by rw [Registry.serveStep, hs]; rfl⟩

theorem realizes_read {f : Faults} {r : Registry} : Realizes f r .read r := ⟨.inl rfl, fun _ => rfl⟩

/-- A lock id is free in the registry when the row `Lock` finds, if any, has expired. -/
theorem lockFree_ofStore {db : Store} {lockID : String} {now : Time} :
    (ofStore db).lockFree lockID now = true ↔
      ∀ l, selectWhere LockRow.lockID lockID db.lock = some l → l.expires < now := by
  rcases h : selectWhere LockRow.lockID lockID db.lock with _ | l <;>
    simp [Registry.lockFree, ofStore, byKey, h]

theorem serve_acquire (db : Store) (lockID : String) (expiry now : Time) :
    (ofStore db).serve (.acquire lockID expiry now) =
      if (ofStore db).lockFree lockID now then some (ofStore (lockWritten db lockID expiry))
      else none := by
  rw [ofStore_lockWritten]
  rfl

theorem lock_realizes (f : Faults) (db : Store) (lockID : String) (ttl : Duration)
    (now₁ now₂ : Time) :
    Realizes f (ofStore db) (.acquire lockID (Time.add now₁ ttl) now₂)
      (ofStore (DB.lock f db lockID ttl now₁ now₂).store) := by
  by_cases hfree : ∀ l, selectWhere LockRow.lockID lockID db.lock = some l → l.expires < now₂
  · refine realizes_of_atomic (lock_atomic f db lockID ttl now₁ now₂)
      (by rw [serve_acquire, if_pos (lockFree_ofStore.2 hfree)]) ?_
    rintro rfl
    rcases hs : selectWhere LockRow.lockID lockID db.lock with _ | l
    · rw [lock_of_free hs]
      simp [lockWritten, hs]
    · rw [lock_of_expired hs (hfree l hs)]
      simp [lockWritten, hs]
  · -- a row not yet expired: the call fails and the registry refuses
    push_neg at hfree
    obtain ⟨l, hl, hle⟩ := hfree
    rw [(lock_atomic f db lockID ttl now₁ now₂).1 (lock_err_of_held f hl hle)]
    exact realizes_of_refused (by
      rw [serve_acquire, if_neg fun h => absurd (lockFree_ofStore.1 h l hl) (not_lt.2 hle)])

theorem unlock_realizes (fn : UnlockFn) (f : Faults) (db : Store) :
    Realizes f (ofStore db) (.release fn.lockID) (ofStore (fn.call f db).store) :=
  realizes_of_atomic (unlock_atomic fn f db) (by rw [ofStore_deleteLock]; rfl)
    fun h => by subst h; rfl

theorem addFederationQuery_faultless (db : Store) (q : FederationQuery) :
    (DB.addFederationQuery {} db q).err = none := by
  rcases h : selectWhere FederationQuery.queryID q.queryID db.federationQuery with _ | r <;>
    simp [DB.addFederationQuery, getFederationQuery, scan, h]

theorem addFederationQuery_realizes (f : Faults) (db : Store) (q : FederationQuery) :
    Realizes f (ofStore db) (.put q) (ofStore (DB.addFederationQuery f db q).store) :=
  realizes_of_atomic (addFederationQuery_atomic f db q) (by rw [ofStore_queryReplaced]; rfl)
    fun h => by
      subst h
      exact ((addFederationQuery_atomic {} db q).2 (addFederationQuery_faultless db q)).2

/-- A second row of a sync id is never read: the `SELECT` finds the first. -/
theorem ofStore_insertFederationSync_of_some {db : Store} {syncID queryID : String}
    (started : Time) {r : FederationSync} (h : (ofStore db).syncs syncID = some r) :
    ofStore (insertFederationSync syncID queryID started db) = ofStore db := by
  ext1
  · rfl
  · rfl
  · funext k
    by_cases hk : k = syncID
    · subst hk
      simp only [ofStore, byKey] at h
      simp [ofStore, byKey, insertFederationSync, h]
    · simp [ofStore, byKey, insertFederationSync, selectWhere, Ne.symm hk]

theorem startFederationSync_realizes (f : Faults) (db : Store) (q : FederationQuery)
    (started : Time) (syncID : String) (now : Time) :
    Realizes f (ofStore db) (.open syncID q.queryID started)
      (ofStore (DB.startFederationSync f db q started syncID now).store) := by
  have hatomic := startFederationSync_atomic f db q started syncID now
  rcases hs : (ofStore db).syncs syncID with _ | r
  · refine realizes_of_atomic hatomic ?_ fun h => by subst h; rfl
    rw [ofStore_insertFederationSync started hs]
    simp [Registry.serve, hs]
  · -- the id is taken: whatever the call writes, the registry is unchanged
    have hsame : ofStore (DB.startFederationSync f db q started syncID now).store = ofStore db := by
      rcases hatomic.store_eq_or with h | h <;> rw [h]
      exact ofStore_insertFederationSync_of_some started hs
    rw [hsame]
    exact realizes_of_refused (by simp [Registry.serve, hs])

theorem finalize_realizes (fn : FinalizeSyncFn) (f : Faults) (db : Store) (maxTimestamp : Time)
    (totalInserted : Int) (now : Time) :
    Realizes f (ofStore db)
      (.close fn.syncID fn.q.queryID (Time.add fn.started (Time.sub now fn.startedTimer))
        totalInserted maxTimestamp)
      (ofStore (fn.call f db maxTimestamp totalInserted now).store) :=
  realizes_of_atomic (finalize_atomic fn f db maxTimestamp totalInserted now)
    (by rw [ofStore_syncFinalized]; rfl)
    fun h => by subst h; rw [finalize_faultless]

/-! ## Calls and runs -/

/-- The request of a call made at `s`, with the closure it calls resolved; `none` when it names a
closure never handed out. -/
def request (s : System) : Call → Option Request
  | .lock lockID ttl now₁ now₂ _ => some (.acquire lockID (Time.add now₁ ttl) now₂)
  | .unlock i _ => s.unlockFns[i]?.map fun fn => .release fn.lockID
  | .addFederationQuery q _ => some (.put q)
  | .getFederationQuery .. | .getFederationSync .. => some .read
  | .startFederationSync q started syncID _ _ => some (.open syncID q.queryID started)
  | .finalize i maxTimestamp totalInserted now _ => s.finalizers[i]?.map fun fn =>
    .close fn.syncID fn.q.queryID (Time.add fn.started (Time.sub now fn.startedTimer))
      totalInserted maxTimestamp

/-- The requests of the calls `cs` made one after the other from `s`. -/
def requests (s : System) : List Call → Option (List Request)
  | [] => some []
  | c :: cs => (request s c).bind fun req =>
    (s.step c).bind fun s' => (requests s' cs).map (req :: ·)

theorem step_refines {s s' : System} {c : Call} (h : s.step c = some s') :
    ∃ req, request s c = some req ∧ Realizes c.faults (ofStore s.db) req (ofStore s'.db) := by
  cases c with
  | lock lockID ttl now₁ now₂ f =>
    cases h
    exact ⟨_, rfl, lock_realizes f s.db lockID ttl now₁ now₂⟩
  | unlock i f =>
    obtain ⟨fn, hfn, rfl⟩ := Option.map_eq_some'.mp h
    exact ⟨_, by simp [request, hfn], unlock_realizes fn f s.db⟩
  | addFederationQuery q f =>
    cases h
    exact ⟨_, rfl, addFederationQuery_realizes f s.db q⟩
  | getFederationQuery | getFederationSync =>
    cases h
    exact ⟨_, rfl, realizes_read⟩
  | startFederationSync q started syncID now f =>
    cases h
    exact ⟨_, rfl, startFederationSync_realizes f s.db q started syncID now⟩
  | finalize i maxTimestamp totalInserted now f =>
    obtain ⟨fn, hfn, rfl⟩ := Option.map_eq_some'.mp h
    exact ⟨_, by simp [request, hfn], finalize_realizes fn f s.db maxTimestamp totalInserted now⟩

/-- Every run of the package's calls is a run of the registry: read by key, the store goes from
its first to its last state through the calls' requests in order, each doing nothing or what
`serve` gives, whatever fails; and when no store call fails, the last state is what the registry
computes from the first by serving the requests one after the other. A finalize's request names
the query id its start captured: the closure reads `q.QueryID` through its pointer, and the model
takes the caller not to change `*q` between the start and the finalize. -/
theorem run_refines : ∀ {cs : List Call} {s s' : System}, s.run cs = some s' →
    ∃ reqs, requests s cs = some reqs ∧ (ofStore s.db).ServesAll reqs (ofStore s'.db) ∧
      ((∀ c ∈ cs, c.faults = {}) → ofStore s'.db = (ofStore s.db).serveAll reqs)
  | [], _, _, h => by
    cases h
    exact ⟨[], rfl, rfl, fun _ => rfl⟩
  | c :: _, _, _, h => by
    obtain ⟨s₁, h₁, hrest⟩ := Option.bind_eq_some.mp h
    obtain ⟨req, hreq, hr⟩ := step_refines h₁
    obtain ⟨reqs, hreqs, hall, hf⟩ := run_refines hrest
    refine ⟨req :: reqs, by simp [requests, hreq, h₁, hreqs], ⟨_, hr.serves, hall⟩, fun h0 => ?_⟩
    rw [hf fun c hc => h0 c (List.mem_cons_of_mem _ hc), hr.faultless (h0 c (List.mem_cons_self _ _))]
    rfl

/-- From `cursorDemo`: a `Lock` of `"a"`, a second one refused while the first holds, then the
finalize of sync `"s"`. -/
theorem run_refines_cursorDemo :
    cursorDemo.run [.lock "a" 10 0 0 {}, .lock "a" 10 1 1 {}, .finalize 0 30 1 30 {}] =
      some lockedDemo ∧
    ∃ reqs, requests cursorDemo [.lock "a" 10 0 0 {}, .lock "a" 10 1 1 {}, .finalize 0 30 1 30 {}] =
        some reqs ∧ (ofStore cursorDemo.db).ServesAll reqs (ofStore lockedDemo.db) ∧
      ((∀ c ∈ [Call.lock "a" 10 0 0 {}, .lock "a" 10 1 1 {}, .finalize 0 30 1 30 {}],
        c.faults = {}) → ofStore lockedDemo.db = (ofStore cursorDemo.db).serveAll reqs) :=
  ⟨rfl, run_refines rfl⟩

/-! ## No hidden rows -/

/-- One row per key in each table the registry reads. -/
structure TablesUnique (db : Store) : Prop where
  lock : UniqueBy LockRow.lockID db.lock
  queries : UniqueBy FederationQuery.queryID db.federationQuery
  syncs : UniqueBy FederationSync.syncID db.federationSync

theorem unique_lockWritten {db : Store} (hu : UniqueBy LockRow.lockID db.lock) (lockID : String)
    (expiry : Time) : UniqueBy LockRow.lockID (lockWritten db lockID expiry).lock := by
  unfold lockWritten
  split
  · exact unique_updateWhere hu _ fun _ => rfl
  · next h => exact unique_append hu h

section Unique

variable {s s' : System} {c : Call}

theorem lock_unique_step (hu : UniqueBy LockRow.lockID s.db.lock) (h : s.step c = some s') :
    UniqueBy LockRow.lockID s'.db.lock := by
  cases hc : c.onLock
  · rwa [show s'.db.lock = s.db.lock from congrArg Prod.fst (System.step_lockSide hc h).1]
  cases c with
  | lock lockID ttl now₁ now₂ f =>
    cases h
    rcases (lock_atomic f s.db lockID ttl now₁ now₂).store_eq_or with h | h <;> rw [h]
    · exact hu
    · exact unique_lockWritten hu _ _
  | unlock i f =>
    obtain ⟨fn, -, rfl⟩ := Option.map_eq_some'.mp h
    rcases (unlock_atomic fn f s.db).store_eq_or with h | h <;> rw [h]
    · exact hu
    · exact unique_deleteWhere hu _
  | _ => cases hc

/-- With a fresh id, a start adds a row of a new sync id; no other call adds a history row. -/
theorem syncs_unique_step (hu : UniqueBy FederationSync.syncID s.db.federationSync)
    (hc : c.FreshIn s) (h : s.step c = some s') :
    UniqueBy FederationSync.syncID s'.db.federationSync := by
  rcases System.step_cases h with ⟨-, hy, -⟩ | ⟨q, f, -, hdb | hdb, -⟩ |
    ⟨q, started, syncID, now, f, rfl, ⟨hdb, -⟩ | ⟨hdb, -⟩⟩ |
    ⟨i, mt, ti, now, f, fn, -, -, -, hdb | hdb⟩
  · rwa [hy]
  · rwa [hdb]
  · rwa [hdb, queryReplaced_federationSync]
  · rwa [hdb]
  · rw [hdb]
    exact unique_append hu (selectWhere_eq_none.2 hc)
  · rwa [hdb]
  · rw [hdb, syncFinalized_eq]
    exact unique_updateWhere hu _ fun _ => rfl

theorem TablesUnique.step (h : TablesUnique s.db) (hc : c.FreshIn s) (hs : s.step c = some s') :
    TablesUnique s'.db :=
  ⟨lock_unique_step h.lock hs, queries_unique_step h.queries hs, syncs_unique_step h.syncs hc hs⟩

end Unique

/-- Along runs from the empty store in which every start's sync id is fresh, every table keeps
one row per key. -/
theorem tables_unique {s : System}
    (hs : System.Reaches (fun s c => c.FreshIn s) ⟨Store.empty, [], []⟩ s) : TablesUnique s.db :=
  hs.preserves (fun s => TablesUnique s.db)
    ⟨by simp [UniqueBy, Store.empty], by simp [UniqueBy, Store.empty],
      by simp [UniqueBy, Store.empty]⟩
    fun _ _ _ h hc hst => h.step hc hst

/-- The registry loses nothing but the order of the rows: in two states reached from the empty
store by runs in which every start's sync id is fresh, every table holds at most one row per key,
and if the two read the same by key, they hold the same rows in every table. -/
theorem registry_determines_tables {s t : System}
    (hs : System.Reaches (fun s c => c.FreshIn s) ⟨Store.empty, [], []⟩ s)
    (ht : System.Reaches (fun s c => c.FreshIn s) ⟨Store.empty, [], []⟩ t)
    (h : ofStore s.db = ofStore t.db) :
    TablesUnique s.db ∧ TablesUnique t.db ∧
    s.db.lock.Perm t.db.lock ∧ s.db.federationQuery.Perm t.db.federationQuery ∧
      s.db.federationSync.Perm t.db.federationSync ∧ s.db.apiConfig = t.db.apiConfig := by
  have hapi : ∀ {u : System}, System.Reaches (fun s c => c.FreshIn s) ⟨Store.empty, [], []⟩ u →
      u.db.apiConfig = [] := fun hu =>
    hu.preserves (fun u => u.db.apiConfig = []) rfl fun _ _ _ h _ hst => (System.step_apiConfig hst).trans h
  have hu := tables_unique hs
  have hu' := tables_unique ht
  exact ⟨hu, hu', perm_of_byKey_eq hu.lock hu'.lock (byKey_lock_of_expires (congrArg Registry.locks h)),
    perm_of_byKey_eq hu.queries hu'.queries (congrArg Registry.queries h),
    perm_of_byKey_eq hu.syncs hu'.syncs (congrArg Registry.syncs h), (hapi hs).trans (hapi ht).symm⟩

/-- Locks of `first` and then `second` for 10 at time 0, from the empty store. -/
def twoLocks (first second : String) : System :=
  ⟨{ Store.empty with lock := [⟨first, 10⟩, ⟨second, 10⟩] },
    [buildUnlockFn first, buildUnlockFn second], []⟩

/-- The two orders of two `Lock`s read the same by key, keep one row per key, and hold the same
rows. -/
theorem registry_determines_tables_twoLocks :
    ofStore (twoLocks "a" "b").db = ofStore (twoLocks "b" "a").db ∧
    TablesUnique (twoLocks "a" "b").db ∧ TablesUnique (twoLocks "b" "a").db ∧
    (twoLocks "a" "b").db.lock.Perm (twoLocks "b" "a").db.lock ∧
    (twoLocks "a" "b").db.federationQuery.Perm (twoLocks "b" "a").db.federationQuery ∧
    (twoLocks "a" "b").db.federationSync.Perm (twoLocks "b" "a").db.federationSync ∧
    (twoLocks "a" "b").db.apiConfig = (twoLocks "b" "a").db.apiConfig := by
  have hr : ofStore (twoLocks "a" "b").db = ofStore (twoLocks "b" "a").db := by
    refine Registry.ext (funext fun k => ?_) rfl rfl
    by_cases ha : k = "a"
    · subst ha; rfl
    by_cases hb : k = "b"
    · subst hb; rfl
    simp [ofStore, byKey, selectWhere, twoLocks, Ne.symm ha, Ne.symm hb]
  exact ⟨hr, registry_determines_tables
    (.step (.lock "b" 10 0 0 {}) (.step (.lock "a" 10 0 0 {}) .refl trivial rfl) trivial rfl)
    (.step (.lock "a" 10 0 0 {}) (.step (.lock "b" 10 0 0 {}) .refl trivial rfl) trivial rfl) hr⟩

/-! ## Independent calls commute -/

section Commute

variable {s s' : System} {c c' : Call} {req : Request}

theorem getElem?_append_of_some {α : Type} {l u : List α} {i : Nat} {x : α} (h : l[i]? = some x) :
    (l ++ u)[i]? = some x := by
  rw [List.getElem?_append_left (List.getElem?_eq_some_iff.1 h).1, h]

/-- A call only appends to the closures handed out. -/
theorem step_extends (h : s.step c = some s') :
    (∃ u, s'.unlockFns = s.unlockFns ++ u) ∧ ∃ v, s'.finalizers = s.finalizers ++ v := by
  have keep : ∀ {α : Type} (l : List α), ∃ u, l = l ++ u := fun l => ⟨[], (List.append_nil l).symm⟩
  cases c with
  | lock | startFederationSync =>
    cases h
    refine ⟨?_, ?_⟩ <;> first | exact keep _ | (split <;> first | exact ⟨_, rfl⟩ | exact keep _)
  | unlock | finalize =>
    obtain ⟨fn, -, rfl⟩ := Option.map_eq_some'.mp h
    exact ⟨keep _, keep _⟩
  | addFederationQuery | getFederationQuery | getFederationSync =>
    cases h
    exact ⟨keep _, keep _⟩

/-- A call's request stays what it was after another call. -/
theorem request_step (hr : request s c = some req) (h : s.step c' = some s') :
    request s' c = some req := by
  obtain ⟨⟨u, hu⟩, v, hv⟩ := step_extends h
  cases c with
  | unlock i f =>
    obtain ⟨fn, hfn, rfl⟩ := Option.map_eq_some'.mp hr
    simp [request, hu, getElem?_append_of_some hfn]
  | finalize i maxTimestamp totalInserted now f =>
    obtain ⟨fn, hfn, rfl⟩ := Option.map_eq_some'.mp hr
    simp [request, hv, getElem?_append_of_some hfn]
  | _ => exact hr

theorem step_of_request (hr : request s c = some req) : ∃ s', s.step c = some s' := by
  cases c with
  | unlock i f =>
    obtain ⟨fn, hfn, -⟩ := Option.map_eq_some'.mp hr
    exact ⟨_, by rw [System.step, hfn]; rfl⟩
  | finalize i maxTimestamp totalInserted now f =>
    obtain ⟨fn, hfn, -⟩ := Option.map_eq_some'.mp hr
    exact ⟨_, by rw [System.step, hfn]; rfl⟩
  | _ => exact ⟨_, rfl⟩

theorem step_serveStep (hr : request s c = some req) (hf : c.faults = {})
    (h : s.step c = some s') : ofStore s'.db = (ofStore s.db).serveStep req := by
  obtain ⟨req', hreq', hr'⟩ := step_refines h
  obtain rfl := Option.some.inj (hr.symm.trans hreq')
  exact hr'.faultless hf

end Commute

/-- Two calls in which no store call fails and whose requests name no common entry (lock id,
query id, sync id) commute as every read by key sees them: from any state, both orders run, and
they leave the same registry. -/
theorem independent_calls_commute {s : System} {c₁ c₂ : Call} {req₁ req₂ : Request}
    (hr₁ : request s c₁ = some req₁) (hr₂ : request s c₂ = some req₂)
    (hd : req₁.entries.Disjoint req₂.entries) (hf₁ : c₁.faults = {}) (hf₂ : c₂.faults = {}) :
    ∃ t₁₂ t₂₁, s.run [c₁, c₂] = some t₁₂ ∧ s.run [c₂, c₁] = some t₂₁ ∧
      ofStore t₁₂.db = ofStore t₂₁.db := by
  obtain ⟨s₁, h₁⟩ := step_of_request hr₁
  obtain ⟨s₂, h₂⟩ := step_of_request hr₂
  have hr₁₂ := request_step hr₂ h₁
  have hr₂₁ := request_step hr₁ h₂
  obtain ⟨t₁₂, h₁₂⟩ := step_of_request hr₁₂
  obtain ⟨t₂₁, h₂₁⟩ := step_of_request hr₂₁
  refine ⟨t₁₂, t₂₁, by simp [System.run, h₁, h₁₂], by simp [System.run, h₂, h₂₁], ?_⟩
  calc ofStore t₁₂.db = ((ofStore s.db).serveStep req₁).serveStep req₂ := by
        rw [step_serveStep hr₁₂ hf₂ h₁₂, step_serveStep hr₁ hf₁ h₁]
    _ = ((ofStore s.db).serveStep req₂).serveStep req₁ := Registry.serveStep_comm hd _
    _ = ofStore t₂₁.db := by rw [step_serveStep hr₂₁ hf₁ h₂₁, step_serveStep hr₂ hf₂ h₂]

/-- In `cursorDemo`, a `Lock` of `"a"` and the finalize of sync `"s"` of query `"q"`. -/
theorem independent_calls_commute_cursorDemo :
    request cursorDemo (.lock "a" 10 0 0 {}) = some (.acquire "a" 10 0) ∧
    request cursorDemo (.finalize 0 30 1 30 {}) = some (.close "s" "q" 30 1 30) ∧
    (Request.acquire "a" 10 0).entries.Disjoint (Request.close "s" "q" 30 1 30).entries ∧
    ∃ t₁₂ t₂₁, cursorDemo.run [.lock "a" 10 0 0 {}, .finalize 0 30 1 30 {}] = some t₁₂ ∧
      cursorDemo.run [.finalize 0 30 1 30 {}, .lock "a" 10 0 0 {}] = some t₂₁ ∧
      ofStore t₁₂.db = ofStore t₂₁.db := by
  have hd : (Request.acquire "a" 10 0).entries.Disjoint (Request.close "s" "q" 30 1 30).entries := by
    simp [Request.entries]
  exact ⟨rfl, rfl, hd, independent_calls_commute rfl rfl hd rfl rfl⟩

end ExposureNotifications.Refinement
