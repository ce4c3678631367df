import Gatehouse.Proofs.Http.Outage
import Gatehouse.Proofs.Registry.Backends
/-!
# Stored levels — none is cut to size

Other programs may store any 64-bit level.  A level that has 32 bits is given out as it is; a row with any other level
is trouble of the database, for whoever looks that identity up, for whoever lists all of them, and at the login of that
identity, and for nobody else (`levels_of_holds`).
-/
namespace Gatehouse

/-- A level of 32 bits. -/
def Sql.Row.InRange (row : Sql.Row) : Prop := 0 ≤ row.accessLevel ∧ row.accessLevel < 2 ^ 32

/-- A record tells an identity and its row, the level as it is stored. -/
structure KeyRecord.IsOf (r : KeyRecord) (identity : String) (row : Sql.Row) : Prop where
  identity : r.identity = identity
  publicKey : r.publicKey = row.publicKey
  accessLevel : (r.accessLevel : Int) = row.accessLevel

/-- The record of a row with a level of 32 bits. -/
def Sql.Row.record (identity : String) (row : Sql.Row) : KeyRecord := ⟨identity, row.publicKey, row.accessLevel.toNat⟩

theorem Sql.Row.InRange.isOf {row : Sql.Row} (h : row.InRange) (identity : String) :
    (row.record identity).IsOf identity row := ⟨rfl, rfl, Int.toNat_of_nonneg h.1⟩

theorem KeyRecord.IsOf.eq {r : KeyRecord} {identity : String} {row : Sql.Row} (h : r.IsOf identity row) :
    row.record identity = r := by
  obtain ⟨hidentity, hkey, hlevel⟩ := h
  rw [Sql.Row.record, ← hidentity, ← hkey, ← hlevel, Int.toNat_natCast]

namespace DatabaseRegistry

variable {r : DatabaseRegistry} {rows : SortedMap Sql.Row} {row : Sql.Row} {identity : String}

/-- What is said of a level that has not 32 bits. -/
def outOfRange (row : Sql.Row) : RegistryError :=
  .backend ("stored access level out of range: " ++ toString row.accessLevel)

/-! ## One row -/

theorem level_of_inRange (h : row.InRange) : level row.accessLevel = .ok row.accessLevel.toNat := by
  have hlevel := level_natCast (n := row.accessLevel.toNat) (by have := h.2; omega)
  rwa [Int.toNat_of_nonneg h.1] at hlevel

theorem level_of_not_inRange (h : ¬ row.InRange) : level row.accessLevel = .error (outOfRange row) := by
  have hout : ¬ (decide (0 ≤ row.accessLevel) && decide (row.accessLevel < 2 ^ 32)) = true := by
    rw [Bool.and_eq_true, decide_eq_true_eq, decide_eq_true_eq]
    exact h
  rw [level, if_neg hout]
  rfl

/-- **What a look-up tells**, by what the table holds of the identity. -/
theorem lookup_of_holds (hselect : r.settings.queries.select = Queries.defaults.select) (h : r.Holds rows)
    (identity : String) :
    (rows.get? identity = none → (r.get identity).1 = .ok none) ∧
      ∀ row, rows.get? identity = some row →
        (row.InRange → (r.get identity).1 = .ok (some (row.record identity))) ∧
          (¬ row.InRange → (r.get identity).1 = .error (outOfRange row)) := by
  rw [get_of_holds hselect h identity]
  refine ⟨fun hnone => by rw [hnone], fun row hrow => ?_⟩
  rw [hrow]
  refine ⟨fun hin => ?_, fun hout => ?_⟩
  · dsimp only
    rw [level_of_inRange hin]
    rfl
  · dsimp only
    rw [level_of_not_inRange hout]
    rfl

/-! ## All rows -/

/-- **Rows that are all in range are all told.** -/
theorem recordsOf_of_inRange (h : ∀ e ∈ rows.entries, e.2.InRange) :
    ∃ records, recordsOf (rows.entries.map Sql.Standard.columns) SortedMap.empty = .ok records ∧
      ∀ identity, records.get? identity = (rows.get? identity).map (Sql.Row.record identity) := by
  have hcolumns : rows.entries.map Sql.Standard.columns =
      (rows.entries.map fun e => (e.1, e.2.record e.1)).map fun e => Sql.Standard.columns (e.1, e.2.row) := by
    rw [List.map_map]
    refine List.map_congr_left fun e he => ?_
    have hlevel := Int.toNat_of_nonneg (h e he).1
    simp only [Function.comp, Sql.Standard.columns, KeyRecord.row, Sql.Row.record, hlevel]
  have hsorted : Assoc.Sorted ((SortedMap.empty : SortedMap KeyRecord).entries ++
      rows.entries.map fun e => (e.1, e.2.record e.1)) :=
    List.Pairwise.map _ (fun _ _ hlt => hlt) rows.sorted
  obtain ⟨records, hrecords, hentries⟩ := recordsOf_columns _ hsorted fun e he => by
    obtain ⟨x, hx, rfl⟩ := List.mem_map.1 he
    have hin := h x hx
    exact ⟨rfl, by have := hin.1; have := hin.2; simp only [Sql.Row.record]; omega⟩
  refine ⟨records, hcolumns ▸ hrecords, fun identity => ?_⟩
  rw [SortedMap.get?, hentries]
  exact Assoc.get?_map_entries (fun identity row => row.record identity) identity rows.entries

/-- **One row that is out of range fails the listing**, whatever comes before it. -/
theorem recordsOf_of_not_inRange : ∀ {l : List (String × Sql.Row)} (acc : SortedMap KeyRecord),
    (∃ e ∈ l, ¬ e.2.InRange) → ∃ e ∈ l, ¬ e.2.InRange ∧ recordsOf (l.map Sql.Standard.columns) acc = .error (outOfRange e.2)
  | [], _, h => by
    obtain ⟨e, he, -⟩ := h
    exact absurd he List.not_mem_nil
  | (identity, row) :: rest, acc, h => by
    by_cases hin : row.InRange
    · have hrest : ∃ e ∈ rest, ¬ e.2.InRange := by
        obtain ⟨e, he, hout⟩ := h
        rcases List.mem_cons.1 he with rfl | he
        · exact absurd hin hout
        · exact ⟨e, he, hout⟩
      obtain ⟨e, he, hout, herror⟩ := recordsOf_of_not_inRange (acc.insert identity (row.record identity)) hrest
      refine ⟨e, List.mem_cons_of_mem _ he, hout, ?_⟩
      have hrecord : recordOf identity [.text row.publicKey, .integer row.accessLevel] = .ok (row.record identity) := by
        simp only [recordOf, level_of_inRange hin]
        rfl
      rw [List.map_cons, recordsOf_cons rfl hrecord]
      exact herror
    · refine ⟨(identity, row), List.mem_cons_self, hin, ?_⟩
      have hrecord : recordOf identity [.text row.publicKey, .integer row.accessLevel] = .error (outOfRange row) := by
        simp only [recordOf, level_of_not_inRange hin]
        rfl
      simp only [List.map_cons, recordsOf, Sql.Standard.columns, entryOf, hrecord]

/-! ## At the login -/

open Http in
/-- **A login that meets a row out of range meets trouble of the server**, and no session starts. -/
theorem login_of_not_inRange (hget : (r.get identity).1 = .error (outOfRange row)) {s : Service} {q : Request} {m : Moment}
    {request : LoginRequest} {t : Token} (hmethod : q.method = "POST") (hpath : q.path = "/auth/login")
    (hbody : s.body LoginRequest.shape q = .ok request) (hparse : Token.parse request.token.toList = .ok t)
    (hissuer : Assertion.IssuedBy t identity) :
    (s.answer (Store.database r) q m).response =
        finish q (some .login) (Response.refusal 500 "internal_error" "internal server error") ∧
      s.login? (Store.database r) q m = none := by
  have ha := action_of_post hmethod hpath
  have herror : (Registry.get (Store.database r) identity).1 = .answered (.error (outOfRange row)) :=
    congrArg Reply.answered hget
  have hcheck : (Assertion.checkIn s.guard.policy (Store.database r) request.token.toList m.now).1 =
      .error (.registry (outOfRange row)) := Assertion.checkIn_eq_iff.2 (.failed hparse hissuer herror)
  refine ⟨answer_of_lookupFails ha hbody hparse hissuer (.inr ⟨_, herror⟩), ?_⟩
  cases hlogin : s.login? (Store.database r) q m with
  | none => rfl
  | some l =>
    obtain ⟨-, request', hbody', hassertion, hok, -⟩ := login?_eq_some_iff.1 hlogin
    rw [hbody, Except.ok.injEq] at hbody'
    rw [hassertion, ← hbody', hcheck] at hok
    cases hok

/-! ## Any table -/

theorem get_of_levels (hselect : r.settings.queries.select = Queries.defaults.select) (h : r.Holds rows)
    (identity : String) :
    (∀ record, (r.get identity).1 = .ok (some record) ↔
        ∃ row, rows.get? identity = some row ∧ row.InRange ∧ record.IsOf identity row) ∧
      ((r.get identity).1 = .ok none ↔ rows.get? identity = none) ∧
      ((∃ reason, (r.get identity).1 = .error (.backend reason)) ↔
        ∃ row, rows.get? identity = some row ∧ ¬ row.InRange) := by
  obtain ⟨hnone, hsome⟩ := lookup_of_holds hselect h identity
  cases hget : rows.get? identity with
  | none =>
    rw [hnone hget]
    simp
  | some row =>
    by_cases hin : row.InRange
    · rw [(hsome row hget).1 hin]
      refine ⟨fun record => ⟨?_, ?_⟩, by simp, by simp [hin]⟩
      · intro hrecord
        cases hrecord
        exact ⟨row, rfl, hin, hin.isOf identity⟩
      · rintro ⟨row', hrow', -, hof⟩
        cases hrow'
        rw [hof.eq]
    · rw [(hsome row hget).2 hin]
      simp [outOfRange, hin]

theorem all_of_levels (hindex : r.settings.queries.index = Queries.defaults.index) (h : r.Holds rows) :
    ((∃ records, r.all.1 = .ok records) ↔ ∀ identity row, rows.get? identity = some row → row.InRange) ∧
      ((∃ reason, r.all.1 = .error (.backend reason)) ↔
        ∃ identity row, rows.get? identity = some row ∧ ¬ row.InRange) ∧
      ∀ records, r.all.1 = .ok records → ∀ identity record,
        records.get? identity = some record ↔ ∃ row, rows.get? identity = some row ∧ record.IsOf identity row := by
  have hmem (e : String × Sql.Row) : e ∈ rows.entries ↔ rows.get? e.1 = some e.2 :=
    ⟨Assoc.get?_of_mem rows.sorted, Assoc.mem_of_get?⟩
  rw [all_of_holds hindex h]
  by_cases hout : ∃ e ∈ rows.entries, ¬ e.2.InRange
  · obtain ⟨e, he, hout, herror⟩ := recordsOf_of_not_inRange SortedMap.empty hout
    have hrow := (hmem e).1 he
    rw [herror]
    refine ⟨iff_of_false (by simp) fun hin => hout (hin e.1 e.2 hrow), iff_of_true ⟨_, rfl⟩ ⟨e.1, e.2, hrow, hout⟩, ?_⟩
    intro records hrecords
    cases hrecords
  · have hin : ∀ identity row, rows.get? identity = some row → row.InRange := fun identity row hrow =>
      Classical.byContradiction fun hnot => hout ⟨(identity, row), (hmem _).2 hrow, hnot⟩
    obtain ⟨records, hrecords, hget⟩ := recordsOf_of_inRange fun e he => hin e.1 e.2 ((hmem e).1 he)
    rw [hrecords]
    refine ⟨by simpa using hin, by simpa using hin, ?_⟩
    intro records' hrecords' identity record
    cases hrecords'
    rw [hget, Option.map_eq_some_iff]
    constructor
    · rintro ⟨row, hrow, rfl⟩
      exact ⟨row, hrow, (hin identity row hrow).isOf identity⟩
    · rintro ⟨row, hrow, hof⟩
      exact ⟨row, hrow, hof.eq⟩

open Http in
/-- **No stored level is cut to size.**  Whatever levels a table holds, a look-up with the default statement gives the
record of a row with exactly the level that is stored if it has 32 bits, nothing if there is no row, and trouble of the
database otherwise.  The listing gives exactly the rows if all are in range, and trouble otherwise.  Who logs in with a
row out of range meets trouble of the server, whatever the signature, and gets no session. -/
theorem levels_of_holds (hreads : r.ReadsByDefault) (h : r.Holds rows) :
    (∀ identity,
      (∀ record, (r.get identity).1 = .ok (some record) ↔
          ∃ row, rows.get? identity = some row ∧ row.InRange ∧ record.IsOf identity row) ∧
        ((r.get identity).1 = .ok none ↔ rows.get? identity = none) ∧
        ((∃ reason, (r.get identity).1 = .error (.backend reason)) ↔
          ∃ row, rows.get? identity = some row ∧ ¬ row.InRange)) ∧
      ((∃ records, r.all.1 = .ok records) ↔ ∀ identity row, rows.get? identity = some row → row.InRange) ∧
      ((∃ reason, r.all.1 = .error (.backend reason)) ↔
        ∃ identity row, rows.get? identity = some row ∧ ¬ row.InRange) ∧
      (∀ records, r.all.1 = .ok records → ∀ identity record,
        records.get? identity = some record ↔ ∃ row, rows.get? identity = some row ∧ record.IsOf identity row) ∧
      ∀ (s : Service) (q : Request) (m : Moment) (request : LoginRequest) (t : Token) (iss : String) (row : Sql.Row),
        q.method = "POST" → q.path = "/auth/login" → s.body LoginRequest.shape q = .ok request →
        Token.parse request.token.toList = .ok t → Assertion.IssuedBy t iss →
        rows.get? iss = some row → ¬ row.InRange →
        (s.answer (Store.database r) q m).response.status = 500 ∧
          (∀ h ∈ (s.answer (Store.database r) q m).response.headers, h.1 ≠ "set-cookie") ∧
          s.login? (Store.database r) q m = none := by
  obtain ⟨hall, htrouble, hlisted⟩ := all_of_levels hreads.2 h
  refine ⟨get_of_levels hreads.1 h, hall, htrouble, hlisted, ?_⟩
  intro s q m request t iss row hmethod hpath hbody hparse hissuer hrow hout
  have hget := ((lookup_of_holds hreads.1 h iss).2 row hrow).2 hout
  obtain ⟨hanswer, hlogin⟩ := login_of_not_inRange hget (m := m) hmethod hpath hbody hparse hissuer
  have hhandled : (Route.login.action? q.method).isSome = true := by
    rw [hmethod]
    decide
  rw [hanswer, finish]
  simp only [hhandled, if_true, Response.refusal, Response.json]
  exact ⟨trivial, by decide, hlogin⟩

/-- Levels at both ends of 32 bits, and one that would be an administrator's if it were cut to 32 bits. -/
def mixedRows : SortedMap Sql.Row :=
  ((SortedMap.empty.insert "ann" ⟨"a", 4294967295⟩).insert "bob" ⟨"b", -1⟩).insert "root" ⟨"c", 2 ^ 32 + 9⟩

def mixedDatabase : DatabaseRegistry :=
  ⟨.ec, DatabaseSettings.defaults, ⟨SortedMap.empty, Disk.empty, "/"⟩, some (.memory ⟨some mixedRows⟩)⟩

open Http in
theorem levels_of_mixed :
    mixedDatabase.ReadsByDefault ∧ mixedDatabase.Holds mixedRows ∧
      (mixedDatabase.get "ann").1 = .ok (some ⟨"ann", "a", 4294967295⟩) ∧
      (∃ reason, (mixedDatabase.get "bob").1 = .error (.backend reason)) ∧
      (∃ reason, mixedDatabase.all.1 = .error (.backend reason)) ∧
      (rootService.answer (Store.database mixedDatabase) rootLogin.1 rootLogin.2).response.status = 500 := by
  have hreads : mixedDatabase.ReadsByDefault := ⟨rfl, rfl⟩
  have hholds : mixedDatabase.Holds mixedRows := ⟨_, rfl, rfl⟩
  have hann : mixedRows.get? "ann" = some ⟨"a", 4294967295⟩ := by decide
  have hbob : mixedRows.get? "bob" = some ⟨"b", -1⟩ := by decide
  have hroot : mixedRows.get? "root" = some ⟨"c", 2 ^ 32 + 9⟩ := by decide
  have hnegative : ¬ Sql.Row.InRange ⟨"b", -1⟩ := fun hin => by
    have hlow : (0 : Int) ≤ -1 := hin.1
    omega
  have hlarge : ¬ Sql.Row.InRange ⟨"c", 2 ^ 32 + 9⟩ := fun hin => by
    have hhigh : (2 ^ 32 + 9 : Int) < 2 ^ 32 := hin.2
    omega
  have hmethod : rootLogin.1.method = "POST" := rfl
  have hpath : rootLogin.1.path = "/auth/login" := by decide
  have hparse : Token.parse (String.ofList rootAssertion).toList =
      .ok ⟨"ES256", [("exp", .int 9), ("iat", .int 0), ("iss", .text "root")]⟩ := by
    rw [String.toList_ofList]
    exact parse_rootAssertion
  obtain ⟨hget, -, htrouble, -, hlogin⟩ := levels_of_holds hreads hholds
  exact ⟨hreads, hholds,
    ((hget "ann").1 _).2 ⟨_, hann, ⟨by decide, by decide⟩, rfl, rfl, rfl⟩,
    (hget "bob").2.2.2 ⟨_, hbob, hnegative⟩, htrouble.2 ⟨"bob", _, hbob, hnegative⟩,
    (hlogin rootService rootLogin.1 rootLogin.2 _ _ "root" _ hmethod hpath body_root hparse ⟨rfl, by decide⟩ hroot
      hlarge).1⟩

end DatabaseRegistry
end Gatehouse
