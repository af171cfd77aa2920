import ExposureNotifications.Database.Federation

/-! # The tool that sets federation queries

`src/unnamed/part_002`: the `main` of the command-line tool that writes one `FederationQuery` row.
It checks its two required flags against their patterns, connects, parses the optional
`--last-timestamp`, and calls `AddFederationQuery`.

* `QueryIDMatches` and `ServerAddrMatches` are the languages of the two regular expressions, read
  off their text; `matchQueryID` and `matchServerAddr` compute them (`matchQueryID_iff`,
  `matchServerAddr_iff`).
* `main` returns how the run ends and the store it leaves. `log.Fatalf` exits with status 1 and
  runs no deferred call, so a fatal run ends there.
* Flag parsing is done: a run starts from the values `flag.Parse` leaves, the region lists as
  `cflag.RegionListVar` parses them (it is not in the sources). `database.NewFromEnv` is known by
  its error. The verbs `%q` and `%#v` and `time.Parse(time.RFC3339, _)` are library code: they
  are the fields of `GoLib`.

`tool_writes_only_valid_queries` is the tool's contract with the store: every fatal run leaves the
store as it was, a run that succeeds wrote exactly its query, and a malformed flag stops the run
with a message that starts with the flag's name.
-/

namespace ExposureNotifications.Tools

open ExposureNotifications.Database

set_option autoImplicit false

/-! ## The patterns -/

/-- `[a-z0-9]`. -/
def isAlnum (c : Char) : Bool := c.isLower || c.isDigit

/-- `[a-z0-9-_]`. -/
def isIDChar (c : Char) : Bool := isAlnum c || c == '-' || c == '_'

/-- `[a-z0-9.-]`. -/
def isHostChar (c : Char) : Bool := isAlnum c || c == '.' || c == '-'

def validQueryIDStr : String := "\\A[a-z][a-z0-9-_]*[a-z0-9]\\z"

def validServerAddrStr : String := "\\A[a-z0-9.-]+(:\\d+)?\\z"

/-- The strings `validQueryIDRegexp` matches: a lowercase letter, any of `[a-z0-9-_]`, and a
last character in `[a-z0-9]`. -/
def QueryIDMatches (s : String) : Prop :=
  ∃ c mid l, s.toList = c :: mid ++ [l] ∧ c.isLower ∧ (∀ x ∈ mid, isIDChar x) ∧ isAlnum l

/-- The strings `validServerAddrRegexp` matches: one or more of `[a-z0-9.-]`, then nothing or
`:` and one or more digits. -/
def ServerAddrMatches (s : String) : Prop :=
  ∃ host port, s.toList = host ++ port ∧ host ≠ [] ∧ (∀ x ∈ host, isHostChar x) ∧
    (port = [] ∨ ∃ ds, port = ':' :: ds ∧ ds ≠ [] ∧ ∀ x ∈ ds, x.isDigit)

/-- `validQueryIDRegexp.MatchString(s)`. -/
def matchQueryID (s : String) : Bool :=
  match s.toList with
  | c :: rest => c.isLower && rest.all isIDChar && rest.getLast?.any isAlnum
  | [] => false

/-- `validServerAddrRegexp.MatchString(s)`: the host is the longest prefix of host characters,
so it stops at the first `:`. -/
def matchServerAddr (s : String) : Bool :=
  !(s.toList.takeWhile isHostChar).isEmpty &&
    match s.toList.dropWhile isHostChar with
    | [] => true
    | c :: ds => c == ':' && !ds.isEmpty && ds.all Char.isDigit

theorem isIDChar_of_isAlnum {c : Char} (h : isAlnum c = true) : isIDChar c = true := by
  simp [isIDChar, h]

theorem matchQueryID_iff (s : String) : matchQueryID s = true ↔ QueryIDMatches s := by
  unfold matchQueryID QueryIDMatches
  constructor
  · split
    · next c rest hs =>
      intro h
      simp only [Bool.and_eq_true, List.all_eq_true] at h
      obtain ⟨⟨hc, hrest⟩, hl⟩ := h
      cases hlast : rest.getLast? with
      | none => simp [hlast] at hl
      | some l =>
        obtain ⟨mid, rfl⟩ := List.getLast?_eq_some_iff.mp hlast
        exact ⟨c, mid, l, hs, hc, fun x hx => hrest x (by simp [hx]),
          by simpa [hlast] using hl⟩
    · simp
  · rintro ⟨c, mid, l, hs, hc, hmid, hl⟩
    rw [hs]
    simp only [List.cons_append, Bool.and_eq_true, List.all_eq_true, List.getLast?_append,
      List.getLast?_singleton]
    refine ⟨⟨hc, fun x hx => ?_⟩, by simpa using hl⟩
    rcases List.mem_append.mp hx with hx | hx
    · exact hmid x hx
    · rw [List.mem_singleton.mp hx]
      exact isIDChar_of_isAlnum hl

theorem matchServerAddr_iff (s : String) : matchServerAddr s = true ↔ ServerAddrMatches s := by
  unfold matchServerAddr ServerAddrMatches
  constructor
  · intro h
    simp only [Bool.and_eq_true, Bool.not_eq_true', List.isEmpty_eq_false] at h
    refine ⟨_, _, (List.takeWhile_append_dropWhile isHostChar s.toList).symm, h.1,
      fun x hx => List.mem_takeWhile_imp hx, ?_⟩
    have hport := h.2
    split at hport
    · next hdrop => exact .inl hdrop
    · next c ds hdrop =>
      simp only [Bool.and_eq_true, beq_iff_eq, Bool.not_eq_true', List.isEmpty_eq_false,
        List.all_eq_true] at hport
      exact .inr ⟨ds, by rw [hdrop, hport.1.1], hport.1.2, hport.2⟩
  · rintro ⟨host, port, hs, hne, hhost, hport⟩
    have hstop : port.takeWhile isHostChar = [] ∧ port.dropWhile isHostChar = port := by
      rcases hport with rfl | ⟨ds, rfl, -, -⟩ <;> simp [isHostChar, isAlnum]
    rw [hs, List.takeWhile_append_of_pos hhost, List.dropWhile_append_of_pos hhost, hstop.1,
      hstop.2]
    rcases hport with rfl | ⟨ds, rfl, hds, hdig⟩
    · simpa using hne
    · simpa [hne, hds] using hdig

/-- A query id the pattern accepts has a first and a last character: one letter is too short. -/
theorem QueryIDMatches.two_le_length {s : String} (h : QueryIDMatches s) : 2 ≤ s.length := by
  obtain ⟨c, mid, l, hs, -⟩ := h
  obtain ⟨cs⟩ := s
  change cs = _ at hs
  simp [hs]

example : matchQueryID "a" = false ∧ matchQueryID "peer-1" = true := by decide

theorem QueryIDMatches.ne_empty {s : String} (h : QueryIDMatches s) : s ≠ "" := by
  rintro rfl
  simpa using h.two_le_length

theorem ServerAddrMatches.ne_empty {s : String} (h : ServerAddrMatches s) : s ≠ "" := by
  obtain ⟨host, port, hs, hne, -⟩ := h
  rintro rfl
  exact hne (List.append_eq_nil.mp hs.symm).1

/-! ## The run -/

/-- The flags as `flag.Parse` leaves them. -/
structure Flags where
  queryID : String
  serverAddr : String
  lastTimestamp : String
  includeRegions : List String
  excludeRegions : List String

/-- The library code the tool calls: `fmt`'s `%q` of a string and `%#v` of a
`*model.FederationQuery`, and `time.Parse(time.RFC3339, _)` with its error's text. -/
structure GoLib where
  quote : String → String
  showQuery : FederationQuery → String
  parseRFC3339 : String → Except String Time

/-- `time.Time{}`: January 1 of year 1, UTC, in nanoseconds from the Unix epoch. -/
def zeroTime : Time := -62135596800000000000

/-- How a run ends: `log.Fatalf`, with exit status 1, or `log.Printf` and the return of `main`. -/
inductive Exit
  | fatal (msg : String)
  | success (msg : String)
  deriving DecidableEq, Repr

/-- The four checks of the flags, in order: the message of the first that fails. -/
def flagsError (go : GoLib) (flags : Flags) : Option String :=
  if flags.queryID = "" then some "query-id is required"
  else if !matchQueryID flags.queryID then
    some ("query-id " ++ go.quote flags.queryID ++ " must match " ++ validQueryIDStr)
  else if flags.serverAddr = "" then some "server-addr is required"
  else if !matchServerAddr flags.serverAddr then
    some ("server-addr " ++ go.quote flags.serverAddr ++ " must match " ++ validServerAddrStr)
  else none

/-- `lastTime`: `time.Time{}` when the flag is empty, its parse otherwise. -/
def lastTime (go : GoLib) (lastTimestamp : String) : Except String Time :=
  if lastTimestamp = "" then .ok zeroTime else go.parseRFC3339 lastTimestamp

/-- The `query` that `main` builds. -/
def Flags.query (flags : Flags) (lastTime : Time) : FederationQuery :=
  ⟨flags.queryID, flags.serverAddr, flags.includeRegions, flags.excludeRegions, lastTime⟩

/-- `main`, from the parsed flags, the error of `database.NewFromEnv`, and the faults of the
store calls of `AddFederationQuery`. -/
def main (go : GoLib) (connect : Option String) (f : Faults) (flags : Flags) (db : Store) :
    Exit × Store :=
  match flagsError go flags with
  | some msg => (.fatal msg, db)
  | none =>
    match connect with
    | some e => (.fatal ("unable to connect to database: " ++ e), db)
    | none =>
      match lastTime go flags.lastTimestamp with
      | .error e => (.fatal ("failed to parse --last-timestamp (use RFC3339): " ++ e), db)
      | .ok t =>
        let o := DB.addFederationQuery f db (flags.query t)
        match o.err with
        | some e => (.fatal ("adding new query " ++ flags.queryID ++ " " ++
            go.showQuery (flags.query t) ++ ": " ++ e.text), o.store)
        | none => (.success ("Successfully added query " ++ flags.queryID ++ " " ++
            go.showQuery (flags.query t)), o.store)

section Run

variable (go : GoLib) (connect : Option String) (f : Faults) (flags : Flags) (db : Store)

theorem flagsError_eq_none :
    flagsError go flags = none ↔ QueryIDMatches flags.queryID ∧ ServerAddrMatches flags.serverAddr := by
  rw [← matchQueryID_iff, ← matchServerAddr_iff]
  unfold flagsError
  split_ifs <;> simp_all [show matchQueryID "" = false from rfl,
    show matchServerAddr "" = false from rfl]

/-- A query id the pattern rejects fails the checks with a message about `query-id`. -/
theorem flagsError_queryID (h : ¬ QueryIDMatches flags.queryID) :
    ∃ rest, flagsError go flags = some ("query-id " ++ rest) := by
  rw [← matchQueryID_iff] at h
  unfold flagsError
  by_cases he : flags.queryID = ""
  · exact ⟨"is required", by simp only [he, if_true]; rfl⟩
  · exact ⟨go.quote flags.queryID ++ " must match " ++ validQueryIDStr,
      by simp [he, h, String.append_assoc]⟩

/-- Past the query id, a server address the pattern rejects fails the checks with a message
about `server-addr`. -/
theorem flagsError_serverAddr (hq : QueryIDMatches flags.queryID)
    (h : ¬ ServerAddrMatches flags.serverAddr) :
    ∃ rest, flagsError go flags = some ("server-addr " ++ rest) := by
  have hne := hq.ne_empty
  rw [← matchQueryID_iff] at hq
  rw [← matchServerAddr_iff] at h
  unfold flagsError
  by_cases he : flags.serverAddr = ""
  · exact ⟨"is required", by simp only [hne, hq, he, if_true, if_false]; rfl⟩
  · exact ⟨go.quote flags.serverAddr ++ " must match " ++ validServerAddrStr,
      by simp [hne, hq, he, h, String.append_assoc]⟩

theorem main_of_flagsError {msg : String} (h : flagsError go flags = some msg) :
    main go connect f flags db = (.fatal msg, db) := by
  simp [main, h]

theorem lastTime_eq_ok {t : Time} (h : lastTime go flags.lastTimestamp = .ok t) :
    (flags.lastTimestamp = "" → t = zeroTime) ∧
      (flags.lastTimestamp ≠ "" → go.parseRFC3339 flags.lastTimestamp = .ok t) := by
  unfold lastTime at h
  split_ifs at h with he
  · cases h
    exact ⟨fun _ => rfl, fun h => absurd he h⟩
  · exact ⟨fun h => absurd h he, fun _ => h⟩

/-- A fatal run leaves the store as it was; a run that succeeds passed the checks and replaced
the query's row. -/
theorem main_store :
    (∀ msg, (main go connect f flags db).1 = .fatal msg → (main go connect f flags db).2 = db) ∧
    (∀ msg, (main go connect f flags db).1 = .success msg → flagsError go flags = none ∧
      ∃ t, lastTime go flags.lastTimestamp = .ok t ∧
        (main go connect f flags db).2 = queryReplaced db (flags.query t)) := by
  unfold main
  rcases hfl : flagsError go flags with _ | m
  · rcases connect with _ | e
    · rcases ht : lastTime go flags.lastTimestamp with e | t
      · simp
      · have hat := addFederationQuery_atomic f db (flags.query t)
        rcases he : (DB.addFederationQuery f db (flags.query t)).err with _ | e
        · simp [he, (hat.2 he).2]
        · simp [he, hat.1 (by simp [he])]
    · simp
  · simp

/-- The tool's contract with the store. A fatal run leaves the store as it was: a malformed
flag, a failed connection or a failed parse of the timestamp stops the run before any store
call, and a failed `AddFederationQuery` rolls back. A run that succeeds had both flags match
their patterns and replaced the query's row by its query, whose cursor is `time.Time{}` when
`--last-timestamp` is empty and the flag's parse otherwise. A query id the pattern rejects stops
the run with a message about `query-id`; past it, a server address the pattern rejects stops the
run with a message about `server-addr`. -/
theorem tool_writes_only_valid_queries :
    (∀ msg, (main go connect f flags db).1 = .fatal msg → (main go connect f flags db).2 = db) ∧
    (∀ msg, (main go connect f flags db).1 = .success msg →
      QueryIDMatches flags.queryID ∧ ServerAddrMatches flags.serverAddr ∧
      ∃ t, (main go connect f flags db).2 = queryReplaced db (flags.query t) ∧
        (flags.lastTimestamp = "" → t = zeroTime) ∧
        (flags.lastTimestamp ≠ "" → go.parseRFC3339 flags.lastTimestamp = .ok t)) ∧
    (¬ QueryIDMatches flags.queryID →
      ∃ rest, main go connect f flags db = (.fatal ("query-id " ++ rest), db)) ∧
    (QueryIDMatches flags.queryID → ¬ ServerAddrMatches flags.serverAddr →
      ∃ rest, main go connect f flags db = (.fatal ("server-addr " ++ rest), db)) := by
  obtain ⟨hfatal, hsuccess⟩ := main_store go connect f flags db
  refine ⟨hfatal, fun msg h => ?_, fun h => ?_, fun hq h => ?_⟩
  · obtain ⟨hfl, t, ht, hdb⟩ := hsuccess msg h
    obtain ⟨hq, hs⟩ := (flagsError_eq_none go flags).mp hfl
    exact ⟨hq, hs, t, hdb, lastTime_eq_ok go flags ht⟩
  · obtain ⟨rest, hr⟩ := flagsError_queryID go flags h
    exact ⟨rest, main_of_flagsError go connect f flags db hr⟩
  · obtain ⟨rest, hr⟩ := flagsError_serverAddr go flags hq h
    exact ⟨rest, main_of_flagsError go connect f flags db hr⟩

end Run

end ExposureNotifications.Tools
