import ExposureNotifications.Runs.FederationRuns

/-! # The lock calls and the federation calls do not interfere

`Lock` and the `UnlockFn`s read and write only the `Lock` table; the federation operations and
the finalize closures read and write only the two federation tables (the `_frame` and
`_store_frame` lemmas of `Database.Lock` and `Database.Federation`). Over a whole run of a
`System`, whatever fails, the lock side of the system therefore ends as in the run of its lock
calls alone, the federation side as in the run of its other calls alone, and no call changes the
`APIConfig` table (`calls_do_not_interfere`).

`System.run` runs a list of calls one after the other; `step_lockSide` and
`step_federationSide` say what one call leaves alone, `step_lockSide_congr` and
`step_federationSide_congr` that it reads nothing else, and the run lemmas chain them.
-/

namespace ExposureNotifications.Runs

open ExposureNotifications.Database

set_option autoImplicit false

/-- The calls on the `Lock` table: `Lock` and the `UnlockFn`s. -/
def Call.onLock : Call → Bool
  | .lock .. | .unlock .. => true
  | _ => false

namespace System

/-- The calls `cs` one after the other; `none` when one names a closure never handed out. -/
def run (s : System) : List Call → Option System
  | [] => some s
  | c :: cs => (s.step c).bind fun s' => s'.run cs

/-- What the lock calls read and change: the `Lock` table and the `UnlockFn`s handed out. -/
def lockSide (s : System) : List LockRow × List UnlockFn := (s.db.lock, s.unlockFns)

/-- What the other calls read and change: the federation tables and the finalize closures. -/
def federationSide (s : System) :
    (List FederationQuery × List FederationSync) × List FinalizeSyncFn :=
  (s.db.federation, s.finalizers)

variable {s s' t : System} {c : Call}

/-! ## One call -/

theorem lockSide_of_store {q : List FederationQuery} {y : List FederationSync}
    (h : s'.db = { s.db with federationQuery := q, federationSync := y })
    (hu : s'.unlockFns = s.unlockFns) :
    s'.lockSide = s.lockSide ∧ s'.db.apiConfig = s.db.apiConfig := by
  simp [lockSide, h, hu]

theorem federationSide_of_store {l : List LockRow} (h : s'.db = { s.db with lock := l })
    (hf : s'.finalizers = s.finalizers) :
    s'.federationSide = s.federationSide ∧ s'.db.apiConfig = s.db.apiConfig := by
  simp [federationSide, Store.federation, h, hf]

/-- A call off the `Lock` table keeps the lock side and the `APIConfig` table. -/
theorem step_lockSide (hc : c.onLock = false) (h : s.step c = some s') :
    s'.lockSide = s.lockSide ∧ s'.db.apiConfig = s.db.apiConfig := by
  cases c with
  | lock | unlock => cases hc
  | addFederationQuery q f =>
    cases h
    exact lockSide_of_store (addFederationQuery_store_frame f s.db q) rfl
  | getFederationQuery | getFederationSync =>
    cases h
    exact ⟨rfl, rfl⟩
  | startFederationSync q started syncID now f =>
    cases h
    exact lockSide_of_store (startFederationSync_store_frame f s.db q started syncID now) rfl
  | finalize i maxTimestamp totalInserted now f =>
    obtain ⟨fn, -, rfl⟩ := Option.map_eq_some'.mp h
    exact lockSide_of_store (finalize_store_frame fn f s.db maxTimestamp totalInserted now) rfl

/-- A call on the `Lock` table keeps the federation side and the `APIConfig` table. -/
theorem step_federationSide (hc : c.onLock = true) (h : s.step c = some s') :
    s'.federationSide = s.federationSide ∧ s'.db.apiConfig = s.db.apiConfig := by
  cases c with
  | lock lockID ttl now₁ now₂ f =>
    cases h
    exact federationSide_of_store (lock_store_frame f s.db lockID ttl now₁ now₂) rfl
  | unlock i f =>
    obtain ⟨fn, -, rfl⟩ := Option.map_eq_some'.mp h
    exact federationSide_of_store (unlock_store_frame fn f s.db) rfl
  | _ => cases hc

/-- A call on the `Lock` table reads only the lock side. -/
theorem step_lockSide_congr (hc : c.onLock = true) (hst : s.lockSide = t.lockSide)
    (h : s.step c = some s') : ∃ t', t.step c = some t' ∧ s'.lockSide = t'.lockSide := by
  obtain ⟨hdb, hfns⟩ := Prod.mk.inj_iff.mp hst
  cases c with
  | lock lockID ttl now₁ now₂ f =>
    cases h
    obtain ⟨hv, he, hl⟩ := lock_frame f hdb lockID ttl now₁ now₂
    exact ⟨_, rfl, by simp only [lockSide, hv, he, hl, hfns]⟩
  | unlock i f =>
    obtain ⟨fn, hfn, rfl⟩ := Option.map_eq_some'.mp h
    rw [hfns] at hfn
    exact ⟨{ t with db := (fn.call f t.db).store }, by simp [step, hfn],
      Prod.ext (unlock_frame fn f hdb).2.2 hfns⟩
  | _ => cases hc

/-- A call off the `Lock` table reads only the federation side. -/
theorem step_federationSide_congr (hc : c.onLock = false)
    (hst : s.federationSide = t.federationSide) (h : s.step c = some s') :
    ∃ t', t.step c = some t' ∧ s'.federationSide = t'.federationSide := by
  obtain ⟨hdb, hfins⟩ := Prod.mk.inj_iff.mp hst
  cases c with
  | lock | unlock => cases hc
  | addFederationQuery q f =>
    cases h
    exact ⟨_, rfl, Prod.ext (addFederationQuery_frame f hdb q).2.2 hfins⟩
  | getFederationQuery | getFederationSync =>
    cases h
    exact ⟨_, rfl, hst⟩
  | startFederationSync q started syncID now f =>
    cases h
    obtain ⟨hv, he, hf⟩ := startFederationSync_frame f hdb q started syncID now
    exact ⟨_, rfl, by simp only [federationSide, hv, he, hf, hfins]⟩
  | finalize i maxTimestamp totalInserted now f =>
    obtain ⟨fn, hfn, rfl⟩ := Option.map_eq_some'.mp h
    rw [hfins] at hfn
    exact ⟨{ t with db := (fn.call f t.db maxTimestamp totalInserted now).store },
      by simp [step, hfn],
      Prod.ext (finalize_frame fn f hdb maxTimestamp totalInserted now).2.2 hfins⟩

theorem step_apiConfig (h : s.step c = some s') : s'.db.apiConfig = s.db.apiConfig := by
  cases hc : c.onLock
  · exact (step_lockSide hc h).2
  · exact (step_federationSide hc h).2

/-! ## Whole runs -/

theorem run_apiConfig : ∀ {cs : List Call} {s s' : System}, s.run cs = some s' →
    s'.db.apiConfig = s.db.apiConfig
  | [], _, _, h => by cases h; rfl
  | _ :: _, _, _, h => by
    obtain ⟨s₁, h₁, hrest⟩ := Option.bind_eq_some.mp h
    exact (run_apiConfig hrest).trans (step_apiConfig h₁)

theorem run_lockSide : ∀ {cs : List Call} {s t s' : System}, s.lockSide = t.lockSide →
    s.run cs = some s' → ∃ t', t.run (cs.filter Call.onLock) = some t' ∧ s'.lockSide = t'.lockSide
  | [], _, t, _, hst, h => by cases h; exact ⟨t, rfl, hst⟩
  | c :: _, _, _, _, hst, h => by
    obtain ⟨s₁, h₁, hrest⟩ := Option.bind_eq_some.mp h
    cases hc : c.onLock
    · simpa [List.filter_cons, hc] using run_lockSide ((step_lockSide hc h₁).1.trans hst) hrest
    · obtain ⟨t₁, ht₁, hst₁⟩ := step_lockSide_congr hc hst h₁
      obtain ⟨t', ht', hs'⟩ := run_lockSide hst₁ hrest
      exact ⟨t', by simp [List.filter_cons, hc, run, ht₁, ht'], hs'⟩

theorem run_federationSide : ∀ {cs : List Call} {s t s' : System},
    s.federationSide = t.federationSide → s.run cs = some s' →
    ∃ t', t.run (cs.filter fun c => !c.onLock) = some t' ∧ s'.federationSide = t'.federationSide
  | [], _, t, _, hst, h => by cases h; exact ⟨t, rfl, hst⟩
  | c :: _, _, _, _, hst, h => by
    obtain ⟨s₁, h₁, hrest⟩ := Option.bind_eq_some.mp h
    cases hc : c.onLock
    · obtain ⟨t₁, ht₁, hst₁⟩ := step_federationSide_congr hc hst h₁
      obtain ⟨t', ht', hs'⟩ := run_federationSide hst₁ hrest
      exact ⟨t', by simp [List.filter_cons, hc, run, ht₁, ht'], hs'⟩
    · simpa [List.filter_cons, hc] using
        run_federationSide ((step_federationSide hc h₁).1.trans hst) hrest

end System

/-! ## Non-interference -/

open System in
/-- In every run of the package's calls, whatever fails: the `Lock` table and the `UnlockFn`s
handed out end as in the run of the lock calls alone, the federation tables and the finalize
closures end as in the run of the other calls alone, and the `APIConfig` table is never
changed. -/
theorem calls_do_not_interfere {s s' : System} {cs : List Call} (h : s.run cs = some s') :
    (∃ t, s.run (cs.filter Call.onLock) = some t ∧ t.lockSide = s'.lockSide) ∧
    (∃ t, s.run (cs.filter fun c => !c.onLock) = some t ∧
      t.federationSide = s'.federationSide) ∧
    s'.db.apiConfig = s.db.apiConfig := by
  obtain ⟨t, ht, hlock⟩ := run_lockSide rfl h
  obtain ⟨u, hu, hfed⟩ := run_federationSide rfl h
  exact ⟨⟨t, ht, hlock.symm⟩, ⟨u, hu, hfed.symm⟩, run_apiConfig h⟩

/-- `cursorDemo` after a `Lock` of `"a"` for 10 at time 0 and then its finalize up to 30. -/
def lockedDemo : System :=
  ⟨⟨[⟨"a", 10⟩], (cursorDemoAfter 30).db.federationQuery, (cursorDemoAfter 30).db.federationSync,
    []⟩, [buildUnlockFn "a"], cursorDemo.finalizers⟩

theorem calls_do_not_interfere_cursorDemo :
    cursorDemo.run [.lock "a" 10 0 0 {}, .finalize 0 30 1 30 {}] = some lockedDemo ∧
    (∃ t, cursorDemo.run ([.lock "a" 10 0 0 {}, .finalize 0 30 1 30 {}].filter Call.onLock) =
      some t ∧ t.lockSide = lockedDemo.lockSide) ∧
    (∃ t, cursorDemo.run ([.lock "a" 10 0 0 {}, .finalize 0 30 1 30 {}].filter
      fun c => !c.onLock) = some t ∧ t.federationSide = lockedDemo.federationSide) ∧
    lockedDemo.db.apiConfig = cursorDemo.db.apiConfig :=
  ⟨rfl, calls_do_not_interfere rfl⟩

end ExposureNotifications.Runs
