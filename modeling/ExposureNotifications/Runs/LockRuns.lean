import ExposureNotifications.Database.Lock

/-! # Runs of the lock: mutual exclusion and self-healing

Any number of callers interleave `Lock` and `UnlockFn` calls on any lock ids, each call one
serializable transaction, with any faults. A `LockWorld` is the store together with the clock and
the grants handed out so far: a grant is a `Lock` that returned nil, with the expiry it wrote and
whether a call of its `UnlockFn` has returned nil since.

The run's discipline is the guard of `LockWorld.step`: the clock readings of the calls never go
back, and an `UnlockFn` is called no later than its grant's expiry and never after it has
returned nil. `lock_grants_exclusive`: in every reachable world the table holds at most one row
per lock id, a faultless `Lock` at check time `now₂` hands out the lock exactly when no grant of
the id is live at `now₂`, and returns `ErrAlreadyLocked` otherwise, and a faultless call of a live
grant's `UnlockFn` returns nil and frees the id, so that the next `Lock` of it succeeds.

The invariant `Inv` says that every row is owned by an unreleased grant with its expiry, that a
grant live now has its row in the table, and that no two grants of one id are live now.
`late_unlock_breaks_exclusion`: without the bound on an unlock (`LockWorld.stepLate`), the late
release of a stolen lock deletes the thief's row and two grants of one id are live at once.
-/

namespace ExposureNotifications.Runs

open ExposureNotifications.Database

set_option autoImplicit false

/-! ## Grants and worlds -/

/-- A `Lock` that returned nil: its `UnlockFn`, the expiry it wrote, and whether a call of the
`UnlockFn` has returned nil. -/
structure Grant where
  unlockFn : UnlockFn
  expires : Time
  released : Bool
  deriving DecidableEq, Repr

namespace Grant

/-- The lock id of the grant. -/
def lockID (g : Grant) : String := g.unlockFn.lockID

/-- Live at `u`: not released, and `u` not past the expiry (`Lock` tests `now.After(expires)`). -/
def Live (g : Grant) (u : Time) : Prop := g.released = false ∧ u ≤ g.expires

instance (g : Grant) (u : Time) : Decidable (g.Live u) := inferInstanceAs (Decidable (_ ∧ _))

theorem Live.mono {g : Grant} {u v : Time} (h : g.Live v) (huv : u ≤ v) : g.Live u :=
  ⟨h.1, huv.trans h.2⟩

end Grant

/-- The store, the latest clock reading, and the grants handed out so far. -/
structure LockWorld where
  db : Store
  clock : Time
  grants : List Grant

/-- One call of a run: a `Lock` with its two clock readings, or a call, at time `now`, of the
`UnlockFn` of the `i`-th grant; each with the faults of its store calls. -/
inductive LockCall
  | lock (lockID : String) (ttl : Duration) (now₁ now₂ : Time) (f : Faults)
  | unlock (i : Nat) (now : Time) (f : Faults)

namespace LockWorld

/-- Some grant of `lockID` is live at `u`. -/
def Held (w : LockWorld) (lockID : String) (u : Time) : Prop :=
  ∃ g ∈ w.grants, g.lockID = lockID ∧ g.Live u

instance (w : LockWorld) (lockID : String) (u : Time) : Decidable (w.Held lockID u) :=
  inferInstanceAs (Decidable (∃ g ∈ w.grants, _))

/-- One call, when the run's discipline allows it. -/
def step (w : LockWorld) : LockCall → Option LockWorld
  | .lock lockID ttl now₁ now₂ f =>
    if w.clock ≤ now₁ ∧ now₁ ≤ now₂ then
      let o := DB.lock f w.db lockID ttl now₁ now₂
      some ⟨o.store, now₂, match o.err, o.value with
        | none, some fn => w.grants ++ [⟨fn, Time.add now₁ ttl, false⟩]
        | _, _ => w.grants⟩
    else none
  | .unlock i now f =>
    match w.grants[i]? with
    | some g =>
      if w.clock ≤ now ∧ now ≤ g.expires ∧ g.released = false then
        let o := g.unlockFn.call f w.db
        some ⟨o.store, now,
          if o.err = none then w.grants.set i { g with released := true } else w.grants⟩
      else none
    | none => none

/-- The worlds a run reaches from a store with an empty `Lock` table. -/
inductive Reachable : LockWorld → Prop
  | init (db : Store) (clock : Time) (h : db.lock = []) : Reachable ⟨db, clock, []⟩
  | step {w w' : LockWorld} (c : LockCall) : Reachable w → w.step c = some w' → Reachable w'

/-! ## The invariant -/

/-- Rows are owned by grants, live grants have their rows, and no two grants of one id are
live now. -/
structure Inv (w : LockWorld) : Prop where
  unique : UniqueBy LockRow.lockID w.db.lock
  owned : ∀ l ∈ w.db.lock, ∃ g ∈ w.grants,
    g.lockID = l.lockID ∧ g.released = false ∧ g.expires = l.expires
  current : ∀ g ∈ w.grants, g.Live w.clock → (⟨g.lockID, g.expires⟩ : LockRow) ∈ w.db.lock
  exclusive : ∀ (i j : Nat) (gi gj : Grant), w.grants[i]? = some gi → w.grants[j]? = some gj →
    gi.lockID = gj.lockID → gi.Live w.clock → gj.Live w.clock → i = j

theorem inv_init (db : Store) (clock : Time) (h : db.lock = []) : Inv ⟨db, clock, []⟩ :=
  ⟨by simp [UniqueBy, h], by simp [h], by simp, by simp⟩

variable {w : LockWorld}

/-- The clock moving forward keeps the invariant: fewer grants are live. -/
theorem Inv.mono_clock (h : Inv w) {c : Time} (hc : w.clock ≤ c) : Inv ⟨w.db, c, w.grants⟩ :=
  ⟨h.unique, h.owned, fun g hg hl => h.current g hg (hl.mono hc),
    fun i j gi gj hi hj he hli hlj => h.exclusive i j gi gj hi hj he (hli.mono hc) (hlj.mono hc)⟩

theorem Inv.select_of_live (h : Inv w) {g : Grant} (hg : g ∈ w.grants) (hl : g.Live w.clock) :
    selectWhere LockRow.lockID g.lockID w.db.lock = some ⟨g.lockID, g.expires⟩ :=
  selectWhere_of_unique h.unique (h.current g hg hl)

/-- No grant of the id is live at `u` when its row is missing or expired at `u`. -/
theorem Inv.not_held (h : Inv w) {lockID : String} {u : Time} (hc : w.clock ≤ u)
    (hfree : ∀ l, selectWhere LockRow.lockID lockID w.db.lock = some l → l.expires < u) :
    ¬ w.Held lockID u := by
  rintro ⟨g, hg, rfl, hl⟩
  have := hfree _ (h.select_of_live hg (hl.mono hc))
  exact absurd hl.2 (not_le.2 this)

/-- The owner of a row not yet expired at `u` is live at `u`. -/
theorem Inv.held (h : Inv w) {lockID : String} {u : Time} {l : LockRow}
    (hs : selectWhere LockRow.lockID lockID w.db.lock = some l) (hu : u ≤ l.expires) :
    w.Held lockID u := by
  obtain ⟨hl, rfl⟩ := selectWhere_spec hs
  obtain ⟨g, hg, hid, hrel, hexp⟩ := h.owned l hl
  exact ⟨g, hg, hid, hrel, hexp ▸ hu⟩

/-- What a faultless `Lock` returns in a world that keeps the invariant. -/
theorem Inv.lock_response (h : Inv w) (lockID : String) (ttl : Duration) {now₁ now₂ : Time}
    (hc : w.clock ≤ now₂) :
    DB.lock {} w.db lockID ttl now₁ now₂ =
      if w.Held lockID now₂ then ⟨none, some .errAlreadyLocked, w.db⟩
      else ⟨some (buildUnlockFn lockID), none, lockWritten w.db lockID (Time.add now₁ ttl)⟩ := by
  rcases hs : selectWhere LockRow.lockID lockID w.db.lock with _ | l
  · rw [if_neg (h.not_held hc fun l hl => by simp [hs] at hl), lock_of_free hs]
    simp [lockWritten, hs]
  · by_cases hl : l.expires < now₂
    · rw [if_neg (h.not_held hc fun l' hl' => by rw [hs] at hl'; cases hl'; exact hl),
        lock_of_expired hs hl]
      simp [lockWritten, hs]
    · rw [if_pos (h.held hs (not_lt.1 hl)), lock_of_held hs (not_lt.1 hl)]

/-! ## One call keeps the invariant -/

theorem getElem?_concat_eq_some {α : Type} {l : List α} {a b : α} {k : Nat}
    (h : (l ++ [a])[k]? = some b) : l[k]? = some b ∨ (k = l.length ∧ a = b) := by
  rw [List.getElem?_append] at h
  split at h
  · exact .inl h
  · rcases hk : k - l.length with _ | n
    · simp only [hk, List.getElem?_cons_zero, Option.some.injEq] at h
      exact .inr ⟨by omega, h⟩
    · simp [hk] at h

theorem getElem?_set_eq_some {α : Type} {l : List α} {i k : Nat} {a b : α}
    (h : (l.set i a)[k]? = some b) : (k = i ∧ a = b) ∨ (k ≠ i ∧ l[k]? = some b) := by
  by_cases hik : k = i
  · subst hik
    by_cases hl : k < l.length
    · rw [List.getElem?_set_self hl] at h
      exact .inl ⟨rfl, Option.some.inj h⟩
    · rw [List.getElem?_eq_none (by simp only [List.length_set]; omega)] at h
      cases h
  · rw [List.getElem?_set_ne (Ne.symm hik)] at h
    exact .inr ⟨hik, h⟩

/-- A new grant keeps `exclusive` when no older grant of its id is live. -/
theorem exclusive_concat {gs : List Grant} {c : Time} (gnew : Grant)
    (hex : ∀ (i j : Nat) (gi gj : Grant), gs[i]? = some gi → gs[j]? = some gj →
      gi.lockID = gj.lockID → gi.Live c → gj.Live c → i = j)
    (hnew : ∀ g ∈ gs, g.lockID = gnew.lockID → ¬ g.Live c) :
    ∀ (i j : Nat) (gi gj : Grant), (gs ++ [gnew])[i]? = some gi → (gs ++ [gnew])[j]? = some gj →
      gi.lockID = gj.lockID → gi.Live c → gj.Live c → i = j := by
  intro i j gi gj hi hj he hli hlj
  rcases getElem?_concat_eq_some hi with hi | ⟨rfl, rfl⟩ <;>
    rcases getElem?_concat_eq_some hj with hj | ⟨rfl, rfl⟩
  · exact hex i j gi gj hi hj he hli hlj
  · exact absurd hli (hnew gi (List.mem_iff_getElem?.2 ⟨i, hi⟩) he)
  · exact absurd hlj (hnew gj (List.mem_iff_getElem?.2 ⟨j, hj⟩) he.symm)
  · rfl

/-- A `Lock` that returned nil: its row written, its grant added, the clock at `now`. -/
theorem Inv.lock_ok (h : Inv w) {lockID : String} {expiry now : Time} (hc : w.clock ≤ now)
    (hfree : ∀ l, selectWhere LockRow.lockID lockID w.db.lock = some l → l.expires < now) :
    Inv ⟨lockWritten w.db lockID expiry, now, w.grants ++ [⟨buildUnlockFn lockID, expiry, false⟩]⟩ := by
  have hold : ∀ g ∈ w.grants, g.lockID = lockID → ¬ g.Live now :=
    fun g hg hid hl => h.not_held hc hfree ⟨g, hg, hid, hl⟩
  have hex := exclusive_concat ⟨buildUnlockFn lockID, expiry, false⟩
    (fun i j gi gj hi hj he hli hlj => h.exclusive i j gi gj hi hj he (hli.mono hc) (hlj.mono hc))
    hold
  rcases hs : selectWhere LockRow.lockID lockID w.db.lock with _ | l
  · simp only [lockWritten, hs, insertLock]
    refine ⟨unique_append h.unique hs, fun l hl => ?_, fun g hg hl => ?_, hex⟩
    · rcases List.mem_append.1 hl with hl | hl
      · obtain ⟨g, hg, hg'⟩ := h.owned l hl
        exact ⟨g, List.mem_append_left _ hg, hg'⟩
      · obtain rfl := List.mem_singleton.1 hl
        exact ⟨_, List.mem_append_right _ (List.mem_singleton_self _), rfl, rfl, rfl⟩
    · rcases List.mem_append.1 hg with hg | hg
      · exact List.mem_append_left _ (h.current g hg (hl.mono hc))
      · obtain rfl := List.mem_singleton.1 hg
        exact List.mem_append_right _ (List.mem_singleton_self _)
  · obtain ⟨hl, hid⟩ := selectWhere_spec hs
    simp only [lockWritten, hs, setExpires]
    refine ⟨unique_updateWhere h.unique _ fun _ => rfl, fun l' hl' => ?_, fun g hg hlive => ?_, hex⟩
    · obtain ⟨l₀, hl₀, ⟨hk, rfl⟩ | ⟨-, rfl⟩⟩ := mem_updateWhere hl'
      · exact ⟨_, List.mem_append_right _ (List.mem_singleton_self _), hk.symm, rfl, rfl⟩
      · obtain ⟨g, hg, hg'⟩ := h.owned _ hl₀
        exact ⟨g, List.mem_append_left _ hg, hg'⟩
    · rcases List.mem_append.1 hg with hg | hg
      · exact mem_updateWhere_of_ne (h.current g hg (hlive.mono hc))
          fun he => hold g hg he hlive
      · obtain rfl := List.mem_singleton.1 hg
        have : ({ l with expires := expiry } : LockRow) ∈ updateWhere LockRow.lockID lockID
            (fun l => { l with expires := expiry }) w.db.lock := mem_updateWhere_of_eq hl hid
        rw [hid] at this
        exact this

/-- An `UnlockFn` call that returned nil, made no later than its grant's expiry: the row of its
id deleted, its grant released, the clock at `now`. -/
theorem Inv.unlock_ok (h : Inv w) {i : Nat} {g : Grant} (hg : w.grants[i]? = some g)
    {now : Time} (hc : w.clock ≤ now) (hnow : now ≤ g.expires) (hrel : g.released = false) :
    Inv ⟨deleteLock g.unlockFn.lockID w.db, now, w.grants.set i { g with released := true }⟩ := by
  have hgl : g.Live w.clock := ⟨hrel, hc.trans hnow⟩
  have hrel' : ∀ u, ¬ ({ g with released := true } : Grant).Live u := fun u hl => by
    simp [Grant.Live] at hl
  -- a grant of the same id live at the clock is the one released
  have hsame : ∀ k g', w.grants[k]? = some g' → g'.lockID = g.lockID → g'.Live w.clock → k = i :=
    fun k g' hk he hl => h.exclusive k i g' g hk hg he hl hgl
  refine ⟨unique_deleteWhere h.unique _, fun l hl => ?_, fun g' hg' hl => ?_,
    fun a b ga gb ha hb he hla hlb => ?_⟩
  · obtain ⟨hl, hne⟩ := mem_deleteWhere.1 hl
    obtain ⟨g', hg', hid, hg''⟩ := h.owned l hl
    obtain ⟨k, hk⟩ := List.mem_iff_getElem?.1 hg'
    have hki : k ≠ i := by
      rintro rfl
      rw [hg] at hk
      cases hk
      exact hne hid.symm
    exact ⟨g', List.mem_iff_getElem?.2 ⟨k, by rwa [List.getElem?_set_ne (Ne.symm hki)]⟩, hid, hg''⟩
  · obtain ⟨k, hk⟩ := List.mem_iff_getElem?.1 hg'
    rcases getElem?_set_eq_some hk with ⟨-, rfl⟩ | ⟨hki, hk⟩
    · exact absurd hl (hrel' _)
    · refine mem_deleteWhere.2 ⟨h.current g' (List.mem_iff_getElem?.2 ⟨k, hk⟩) (hl.mono hc), ?_⟩
      exact fun he => hki (hsame k g' hk he (hl.mono hc))
  · rcases getElem?_set_eq_some ha with ⟨-, rfl⟩ | ⟨-, ha⟩
    · exact absurd hla (hrel' _)
    rcases getElem?_set_eq_some hb with ⟨-, rfl⟩ | ⟨-, hb⟩
    · exact absurd hlb (hrel' _)
    exact h.exclusive a b ga gb ha hb he (hla.mono hc) (hlb.mono hc)

/-- Every call a run makes keeps the invariant. -/
theorem Inv.step (h : Inv w) {c : LockCall} {w' : LockWorld} (hs : w.step c = some w') :
    Inv w' := by
  cases c with
  | lock lockID ttl now₁ now₂ f =>
    simp only [LockWorld.step] at hs
    split_ifs at hs with hg
    cases hs
    obtain ⟨hfail, hok⟩ := lock_atomic f w.db lockID ttl now₁ now₂
    rcases he : (DB.lock f w.db lockID ttl now₁ now₂).err with _ | e
    · obtain ⟨hv, hst⟩ := hok he
      simp only [he, hv, hst]
      exact h.lock_ok (hg.1.trans hg.2)
        fun l hl => lt_of_not_le fun hle => lock_err_of_held f hl hle he
    · simp only [he, hfail (by simp [he])]
      exact h.mono_clock (hg.1.trans hg.2)
  | unlock i now f =>
    simp only [LockWorld.step] at hs
    rcases hg : w.grants[i]? with _ | g
    · simp [hg] at hs
    · simp only [hg] at hs
      obtain ⟨hfail, hok⟩ := unlock_atomic g.unlockFn f w.db
      split_ifs at hs with hguard he <;> cases hs
      · rw [(hok he).2]
        exact h.unlock_ok hg hguard.1 hguard.2.1 hguard.2.2
      · rw [hfail he]
        exact h.mono_clock hguard.1

theorem Reachable.inv {w : LockWorld} (hw : w.Reachable) : Inv w := by
  induction hw with
  | init db clock h => exact inv_init db clock h
  | step c _ hs ih => exact ih.step hs

end LockWorld

/-! ## Mutual exclusion and self-healing -/

open LockWorld in
/-- In every world a run reaches, the `Lock` table holds at most one row per lock id, and a
`Lock` whose store calls succeed, with clock readings `now₁ ≤ now₂` not before the run's last,
returns an `UnlockFn` exactly when no grant of the id is live at `now₂`, and `ErrAlreadyLocked`
otherwise. A grant expired at `now₂` is stolen without any release. A call of a live grant's
`UnlockFn` in which no store call fails returns nil and deletes the id's row; after it no grant
of the id is live, and a `Lock` of the id succeeds. -/
theorem lock_grants_exclusive {w : LockWorld} (hw : w.Reachable) :
    UniqueBy LockRow.lockID w.db.lock ∧
    (∀ (lockID : String) (ttl : Duration) (now₁ now₂ : Time), w.clock ≤ now₁ → now₁ ≤ now₂ →
      DB.lock {} w.db lockID ttl now₁ now₂ =
        if w.Held lockID now₂ then ⟨none, some .errAlreadyLocked, w.db⟩
        else ⟨some (buildUnlockFn lockID), none, lockWritten w.db lockID (Time.add now₁ ttl)⟩) ∧
    ∀ (i : Nat) (g : Grant) (now : Time), w.grants[i]? = some g → g.released = false →
      w.clock ≤ now → now ≤ g.expires →
      g.unlockFn.call {} w.db = ⟨(), none, deleteLock g.lockID w.db⟩ ∧
      ∃ w', w.step (.unlock i now {}) = some w' ∧ w'.db = deleteLock g.lockID w.db ∧
        (∀ u, now ≤ u → ¬ w'.Held g.lockID u) ∧
        ∀ (ttl : Duration) (now₁ now₂ : Time), now ≤ now₁ → now₁ ≤ now₂ →
          DB.lock {} w'.db g.lockID ttl now₁ now₂ =
            ⟨some (buildUnlockFn g.lockID), none, lockWritten w'.db g.lockID (Time.add now₁ ttl)⟩ := by
  refine ⟨hw.inv.unique, fun lockID ttl _ _ h₁ h₂ => hw.inv.lock_response lockID ttl (h₁.trans h₂),
    fun i g now hg hrel hc hnow => ⟨unlock_faultless _,
      ⟨deleteLock g.lockID w.db, now, w.grants.set i { g with released := true }⟩, ?_, rfl, ?_⟩⟩
  · simp only [LockWorld.step, hg]
    rw [if_pos ⟨hc, hnow, hrel⟩]
    rfl
  -- the released world keeps the invariant, and its table has no row of the id
  have hinv := hw.inv.unlock_ok hg hc hnow hrel
  have hfree : ∀ u, now ≤ u → ¬ (⟨deleteLock g.lockID w.db, now,
      w.grants.set i { g with released := true }⟩ : LockWorld).Held g.lockID u :=
    fun u hu ⟨g', hg', hid, hl⟩ => (mem_deleteWhere.1 (hinv.current g' hg' (hl.mono hu))).2 hid
  refine ⟨hfree, fun ttl now₁ now₂ h₁ h₂ => ?_⟩
  exact (hinv.lock_response g.lockID ttl (h₁.trans h₂)).trans (if_neg (hfree now₂ (h₁.trans h₂)))

/-- The world after one `Lock` of `"a"` with a ttl of 10 at time 0. -/
def oneGrant : LockWorld := ⟨⟨[⟨"a", 10⟩], [], [], []⟩, 0, [⟨buildUnlockFn "a", 10, false⟩]⟩

theorem oneGrant_reachable : oneGrant.Reachable :=
  .step (.lock "a" 10 0 0 {}) (.init Store.empty 0 rfl) rfl

/-- Within the ttl of the one grant, a second `Lock` of `"a"` is refused; once the grant's
`UnlockFn` is called at 5, a `Lock` of `"a"` at 6 succeeds. -/
theorem lock_grants_exclusive_oneGrant :
    oneGrant.Reachable ∧
    DB.lock {} oneGrant.db "a" 5 3 3 = ⟨none, some .errAlreadyLocked, oneGrant.db⟩ ∧
    ∃ w', oneGrant.step (.unlock 0 5 {}) = some w' ∧
      DB.lock {} w'.db "a" 5 6 6 = ⟨some (buildUnlockFn "a"), none, lockWritten w'.db "a" 11⟩ := by
  have h := lock_grants_exclusive oneGrant_reachable
  refine ⟨oneGrant_reachable, ?_, ?_⟩
  · rw [h.2.1 "a" 5 3 3 (by decide) le_rfl,
      if_pos ⟨_, List.mem_singleton_self _, rfl, rfl, by decide⟩]
  · obtain ⟨-, w', hw', -, -, hlock⟩ := h.2.2 0 _ 5 rfl rfl (by decide) (by decide)
    exact ⟨w', hw', hlock 5 6 6 (by decide) le_rfl⟩

/-- No two grants of one lock id are live at the same time, at any time from the run's clock
on. -/
theorem lock_mutual_exclusion {w : LockWorld} (hw : w.Reachable) {i j : Nat} {gi gj : Grant}
    (hi : w.grants[i]? = some gi) (hj : w.grants[j]? = some gj) (he : gi.lockID = gj.lockID)
    {u : Time} (hu : w.clock ≤ u) (hli : gi.Live u) (hlj : gj.Live u) : i = j :=
  hw.inv.exclusive i j gi gj hi hj he (hli.mono hu) (hlj.mono hu)

/-- `oneGrant` after `B` steals `"a"` at 20 for 100: two grants of `"a"`, the first expired. -/
def stolenGrant : LockWorld :=
  ⟨⟨[⟨"a", 120⟩], [], [], []⟩, 20, [⟨buildUnlockFn "a", 10, false⟩, ⟨buildUnlockFn "a", 120, false⟩]⟩

theorem stolenGrant_reachable : stolenGrant.Reachable :=
  .step (.lock "a" 100 20 20 {}) oneGrant_reachable rfl

/-- In `stolenGrant`, the thief's grant is live at 50. -/
theorem lock_mutual_exclusion_stolenGrant :
    stolenGrant.grants[1]? = some ⟨buildUnlockFn "a", 120, false⟩ ∧
      (⟨buildUnlockFn "a", 120, false⟩ : Grant).Live 50 ∧ (1 : Nat) = 1 :=
  ⟨rfl, ⟨rfl, by decide⟩, lock_mutual_exclusion stolenGrant_reachable rfl rfl rfl
    (by decide : stolenGrant.clock ≤ 50) ⟨rfl, by decide⟩ ⟨rfl, by decide⟩⟩

/-! ## Releasing a stolen lock -/

namespace LockWorld

/-- `LockWorld.step` without the bound `now ≤ g.expires` on an unlock: a caller may call its
`UnlockFn` after its grant has expired. -/
def stepLate (w : LockWorld) : LockCall → Option LockWorld
  | .lock lockID ttl now₁ now₂ f => w.step (.lock lockID ttl now₁ now₂ f)
  | .unlock i now f =>
    match w.grants[i]? with
    | some g =>
      if w.clock ≤ now ∧ g.released = false then
        let o := g.unlockFn.call f w.db
        some ⟨o.store, now,
          if o.err = none then w.grants.set i { g with released := true } else w.grants⟩
      else none
    | none => none

/-- The worlds a run reaches from a store with an empty `Lock` table when unlocks may be late. -/
inductive ReachableLate : LockWorld → Prop
  | init (db : Store) (clock : Time) (h : db.lock = []) : ReachableLate ⟨db, clock, []⟩
  | step {w w' : LockWorld} (c : LockCall) : ReachableLate w → w.stepLate c = some w' →
      ReachableLate w'

end LockWorld

/-- `stolenGrant` after `A`'s late unlock at 25 and a `Lock` of `"a"` by `C` at 30 for 100. -/
def lateSteal : LockWorld :=
  ⟨⟨[⟨"a", 130⟩], [], [], []⟩, 30, [⟨buildUnlockFn "a", 10, true⟩,
    ⟨buildUnlockFn "a", 120, false⟩, ⟨buildUnlockFn "a", 130, false⟩]⟩

/-- Exclusion needs the bound on an unlock. An `UnlockFn` deletes whatever row has its id, so the
release of a stolen lock is not detected: when an unlock may come after its grant's expiry, `A`
locks `"a"` at 0 for 10, `B` steals it at 20 for 100, `A`'s unlock at 25 deletes `B`'s row with a
nil error, and `C` locks `"a"` at 30, while `B`'s grant is still live. -/
theorem late_unlock_breaks_exclusion :
    ¬ ∀ w : LockWorld, w.ReachableLate → ∀ (i j : Nat) (gi gj : Grant), w.grants[i]? = some gi →
      w.grants[j]? = some gj → gi.lockID = gj.lockID → gi.Live w.clock → gj.Live w.clock → i = j := by
  intro h
  have hreach : lateSteal.ReachableLate :=
    .step (.lock "a" 100 30 30 {}) (.step (.unlock 0 25 {}) (.step (.lock "a" 100 20 20 {})
      (.step (.lock "a" 10 0 0 {}) (.init Store.empty 0 rfl) rfl) rfl) rfl) rfl
  exact absurd (h lateSteal hreach 1 2 _ _ rfl rfl rfl ⟨rfl, by decide⟩ ⟨rfl, by decide⟩)
    (by decide)

end ExposureNotifications.Runs
