import Mathlib
import QrBackend.RoundTrip
import QrBackend.ReturnByQr

/-! # Primary keys — the `PRIMARY KEY` columns of `migrations/`

    Every table of the schema has a primary key: `fixtures.id`, `spot.name`,
    `lending.id`, `container.id` and `passtoken.token`.  Postgres refuses an
    `INSERT` that repeats one, and no `UPDATE` of `src/database/` moves a row
    to another key: `update_fixtures`, `update_spot` and `update_lending` set
    every column but the key they select by, and `returned_lending` sets
    `returned_at` alone.  So every run of database calls keeps every key
    unique, whatever the calls ask (`primaryKeys_run`), and so does every
    server, pass tokens included (`primaryKeys_reachable`).

    The model reads a `SELECT` as the first matching row of a list, the order
    standing for whichever order Postgres returns rows in.  By a primary key
    that order does not matter: at every reachable server a look-up by key
    finds the row that holds the key (`getOneFixtures_id_reachable`,
    `getRole_reachable_eq_ok`) and answers the same under every reordering of
    the rows (`reads_by_key_perm`).  By QR id, which is no key, it can differ
    (`QrReturnByQr`). -/

namespace QrPrimaryKeys

open Chrono QrModel QrErrorHandling QrAuthentication QrDatabase Table Runs QrLending QrApp
open QrRefinement QrRoundTrip QrReturnByQr QrIndexSync

/-- Every table's primary key is held by at most one row. -/
structure PrimaryKeys (db : Db) : Prop where
  fixtures : KeyUnique (fun r : FixturesRow => some r.id) db.fixtures
  spot : KeyUnique (fun r : SpotRow => some r.name) db.spot
  lending : KeyUnique (fun r : Lending => some r.id) db.lending
  container : KeyUnique (fun r : ContainerRow => some r.id) db.container
  passtoken : KeyUnique (fun r : PasstokenRow => some r.token) db.passtoken

theorem primaryKeys_empty : PrimaryKeys Db.empty :=
  ⟨keyUnique_nil, keyUnique_nil, keyUnique_nil, keyUnique_nil, keyUnique_nil⟩

/-! ## Each write keeps its table's key -/

section Writes

variable {fail : Bool}

theorem keyUnique_updateFixtures {info : Fixtures} {t t' : List FixturesRow}
    (h : KeyUnique (fun r : FixturesRow => some r.id) t)
    (hw : QrDatabase.updateFixtures fail info t = .ok t') :
    KeyUnique (fun r : FixturesRow => some r.id) t' := by
  obtain ⟨-, rfl⟩ := updateFixtures_eq_ok.mp hw
  -- the encoded item carries the id the row was selected by
  exact keyUnique_update_key (fun _ _ => rfl) h

theorem keyUnique_updateSpot {info : Spot} {t t' : List SpotRow}
    (h : KeyUnique (fun r : SpotRow => some r.name) t)
    (hw : QrDatabase.updateSpot fail info t = .ok t') :
    KeyUnique (fun r : SpotRow => some r.name) t' := by
  obtain ⟨-, rfl⟩ := updateSpot_eq_ok.mp hw
  exact keyUnique_update_key (fun _ _ => rfl) h

theorem keyUnique_insertLending {fail1 fail2 : Bool} {info : Lending} {t t' : List Lending}
    (h : KeyUnique (fun r : Lending => some r.id) t)
    (hw : QrDatabase.insertLending fail1 fail2 fail info t = .ok t') :
    KeyUnique (fun r : Lending => some r.id) t' := by
  -- the look-ups only decide whether the `INSERT` runs; the key check is its own
  obtain ⟨-, -, hfresh, rfl⟩ := insertLending_eq_ok.mp hw
  exact keyUnique_append_fresh h hfresh

theorem keyUnique_updateLending {info : Lending} {t t' : List Lending}
    (h : KeyUnique (fun r : Lending => some r.id) t)
    (hw : QrDatabase.updateLending fail info t = .ok t') :
    KeyUnique (fun r : Lending => some r.id) t' := by
  obtain ⟨-, rfl⟩ := updateLending_eq_ok.mp hw
  exact keyUnique_update_key (fun _ _ => rfl) h

/-- `returned_lending` selects by item, not by key, but leaves every id alone. -/
theorem keyUnique_returnedLending {id : Uuid} {returnedAt : DateTime} {t t' : List Lending}
    (h : KeyUnique (fun r : Lending => some r.id) t)
    (hw : QrDatabase.returnedLending fail id returnedAt t = .ok t') :
    KeyUnique (fun r : Lending => some r.id) t' := by
  obtain ⟨-, rfl⟩ := returnedLending_eq_ok.mp hw
  exact keyUnique_update _ (fun _ _ _ hx => hx) h

end Writes

/-! ## Over runs of database calls -/

/-- **STEP**: every database call keeps every primary key unique: an insert
    checks its key, an update keeps the keys, a delete drops rows, and a
    failed statement changes nothing. -/
theorem primaryKeys_apply (ff : Faults) (op : DbOp) {db : Db} (h : PrimaryKeys db) :
    PrimaryKeys (op.apply ff db) := by
  -- a call commits the table it writes, or keeps the old one
  cases op with
  | insertFixtures info =>
      exact { h with
        fixtures := commit_cases h.fixtures fun _ hw => keyUnique_runInsert h.fixtures hw }
  | updateFixtures info =>
      exact { h with
        fixtures := commit_cases h.fixtures fun _ hw => keyUnique_updateFixtures h.fixtures hw }
  | deleteFixtures uuid =>
      refine { h with fixtures := commit_cases h.fixtures fun _ hw => ?_ }
      obtain ⟨-, rfl⟩ := deleteFixtures_eq_ok.mp hw
      exact keyUnique_delete _ h.fixtures
  | insertSpot info =>
      exact { h with
        spot := commit_cases h.spot fun _ hw => keyUnique_runInsert h.spot hw }
  | updateSpot info =>
      exact { h with
        spot := commit_cases h.spot fun _ hw => keyUnique_updateSpot h.spot hw }
  | deleteSpot name =>
      refine { h with spot := commit_cases h.spot fun _ hw => ?_ }
      obtain ⟨-, rfl⟩ := deleteSpot_eq_ok.mp hw
      exact keyUnique_delete _ h.spot
  | insertLending info =>
      exact { h with
        lending := commit_cases h.lending fun _ hw => keyUnique_insertLending h.lending hw }
  | updateLending info =>
      exact { h with
        lending := commit_cases h.lending fun _ hw => keyUnique_updateLending h.lending hw }
  | returnedLending id returnedAt =>
      exact { h with
        lending := commit_cases h.lending fun _ hw => keyUnique_returnedLending h.lending hw }
  | insertContainer info =>
      exact { h with
        container := commit_cases h.container fun _ hw => keyUnique_runInsert h.container hw }

/-- **EVERY KEY UNIQUE, OVER EVERY RUN**: from the empty database, every run
    of database calls, with any arguments and any failing statements, leaves
    every table's primary key held by at most one row. -/
theorem primaryKeys_run (calls : List (Faults × DbOp)) : PrimaryKeys (DbOp.run Db.empty calls) :=
  run_invariant PrimaryKeys (fun _ c h => primaryKeys_apply c.1 c.2 h) calls Db.empty
    primaryKeys_empty

/-! ## At every reachable server -/

/-- What a database call keeps, one input of the server keeps. -/
theorem PrimaryKeys.dbStep {db db' : Db} (hstep : DbStep db db') (h : PrimaryKeys db) :
    PrimaryKeys db' := by
  rcases hstep with rfl | ⟨ff, op, rfl⟩
  · exact h
  · exact primaryKeys_apply ff op h

section Server

variable (parseUuid : String → Option Uuid) (env : String → Option String)
  (nfc : String → String)

/-- **STEP**: a request changes the database as one database call does, and
    `gen_passtoken` inserts under the token's primary key. -/
theorem primaryKeys_serveState {ff : Faults} {now : DateTime} {st : State} (input : Input)
    (h : PrimaryKeys st.db) : PrimaryKeys (serveState parseUuid env nfc ff now st input).db := by
  cases input with
  | request req =>
      cases hs : serve parseUuid ff now st req with
      | none =>
          simp only [serveState, hs]
          exact h
      | some res =>
          simp only [serveState, hs]
          exact h.dbStep (serve_dbStep parseUuid hs)
  | genPasstoken username password token =>
      simp only [serveState, apiGenPasstoken]
      rcases genPasstoken_state env nfc token now ff username password st with
        hst | ⟨_, t, hins, hst⟩
      · rw [hst]
        exact h
      · rw [hst]
        exact { h with passtoken := keyUnique_runInsert h.passtoken hins }

/-- **EVERY KEY UNIQUE AT EVERY SERVER**: at every reachable server, every
    table's primary key, the pass token included, is held by at most one row. -/
theorem primaryKeys_reachable {st : State} (hreach : Reachable parseUuid env nfc st) :
    PrimaryKeys st.db :=
  Reachable.invariant parseUuid env nfc (fun st => PrimaryKeys st.db) primaryKeys_empty
    (fun _ _ input _ h => primaryKeys_serveState parseUuid env nfc input h) hreach

/-! ## Reads by key -/

/-- A spot in another area than `kasugaSpot`. -/
def area1Spot : Spot :=
  { kasugaSpot with name := "test2", area := .area1 }

/-- Two administrator tokens, two items under one QR id and two spots, each
    looked-up row stored second: `admin-token-2`, `itemY` and `area1Spot`
    come first. -/
def busyInputs : List (Faults × DateTime × Input) :=
  [(noFaults, DateTime.unixEpoch, .genPasstoken "administrator" "admin-key" "admin-token-2"),
   (noFaults, DateTime.unixEpoch, .genPasstoken "administrator" "admin-key" "admin-token"),
   (noFaults, DateTime.unixEpoch, .request (.insertFixtures "admin-token" itemY)),
   (noFaults, DateTime.unixEpoch, .request (.insertFixtures "admin-token" itemX)),
   (noFaults, DateTime.unixEpoch, .request (.insertSpot "admin-token" area1Spot)),
   (noFaults, DateTime.unixEpoch, .request (.insertSpot "admin-token" kasugaSpot))]

/-- The server after `busyInputs` from a fresh start. -/
def busyState : State :=
  run (fun st c => serveState (fun _ => none) adminEnv (fun s => s) c.1 c.2.1 st c.2.2)
    State.empty busyInputs

theorem reachable_busyState (parseUuid : String → Option Uuid) :
    Reachable parseUuid adminEnv (fun s => s) busyState :=
  reachable_run parseUuid adminEnv (fun s => s) .init busyInputs

/-- **A STORED ITEM READS BACK BY ITS ID**: at every reachable server,
    `get_one_fixtures` by the id of an item whose row the table holds answers
    that item, wherever its row stands. -/
theorem getOneFixtures_id_reachable {st : State} (hreach : Reachable parseUuid env nfc st)
    {f : Fixtures} (hf : FixturesRow.encode f ∈ st.db.fixtures) :
    getOneFixtures false (.fixturesId f.id) st.db.fixtures = some (.ok f) :=
  getOneFixtures_of_fetch
    ((fetchOptional_key_eq_some (primaryKeys_reachable parseUuid env nfc hreach).fixtures).mpr
      ⟨hf, rfl⟩)

/-- `itemX`'s row stands second in `busyState`, behind `itemY`'s, and reads
    back by its id. -/
theorem getOneFixtures_id_busyState :
    busyState.db.fixtures = [FixturesRow.encode itemY, FixturesRow.encode itemX] ∧
      getOneFixtures false (.fixturesId itemX.id) busyState.db.fixtures = some (.ok itemX) := by
  have hrows : busyState.db.fixtures = [FixturesRow.encode itemY, FixturesRow.encode itemX] := by
    decide
  have hf : FixturesRow.encode itemX ∈ busyState.db.fixtures := by
    rw [hrows]
    exact List.mem_cons_of_mem _ List.mem_cons_self
  exact ⟨hrows, getOneFixtures_id_reachable (fun _ => none) adminEnv (fun s => s)
    (reachable_busyState _) hf⟩

/-- **A STORED TOKEN IS JUDGED BY ITS OWN ROW**: at every reachable server,
    `get_role` on a token the table holds grants a role exactly when that
    token's own `check_valid` says yes, and the role is the token's. -/
theorem getRole_reachable_eq_ok {st : State} (hreach : Reachable parseUuid env nfc st)
    {p : Passtoken} (hp : PasstokenRow.encode p ∈ st.db.passtoken) {now : DateTime} {r : Role} :
    getRole false p.token now st.db.passtoken = some (.ok r) ↔
      p.checkValid now = some true ∧ p.role = r := by
  have hfetch : fetchOptional (fun s => s.token = p.token) st.db.passtoken =
      some (PasstokenRow.encode p) :=
    (fetchOptional_key_eq_some (primaryKeys_reachable parseUuid env nfc hreach).passtoken).mpr
      ⟨hp, rfl⟩
  rw [getRole_eq_ok]
  constructor
  · rintro ⟨-, row, p', hrow, hdec, hvalid, hrole⟩
    -- the row found is the token's own, and it decodes to the token
    rw [hfetch, Option.some.injEq] at hrow
    rw [← hrow, PasstokenRow.decode_encode, Option.some.injEq] at hdec
    rw [hdec]
    exact ⟨hvalid, hrole⟩
  · rintro ⟨hvalid, hrole⟩
    exact ⟨rfl, _, p, hfetch, PasstokenRow.decode_encode p, hvalid, hrole⟩

/-- The administrator token of `lentState`, issued at the epoch for 30 days. -/
def lentToken : Passtoken :=
  Passtoken.new "admin-token" DateTime.unixEpoch .administrator 30

theorem getRole_reachable_eq_ok_lentState :
    PasstokenRow.encode lentToken ∈ lentState.db.passtoken ∧
      (getRole false lentToken.token DateTime.unixEpoch lentState.db.passtoken =
          some (.ok .administrator) ↔
        lentToken.checkValid DateTime.unixEpoch = some true ∧
          lentToken.role = .administrator) := by
  have hp : PasstokenRow.encode lentToken ∈ lentState.db.passtoken := by decide
  exact ⟨hp, getRole_reachable_eq_ok (fun _ => none) adminEnv (fun s => s)
    (reachable_lentState _) hp⟩

/-- **READS BY KEY IGNORE THE ROW ORDER**: at every reachable server,
    `get_one_fixtures` by id, `get_one_spot` and `get_role` give the same
    answer for every order the server could return the rows in. -/
theorem reads_by_key_perm {st : State} (hreach : Reachable parseUuid env nfc st)
    {fixtures : List FixturesRow} {spot : List SpotRow} {passtoken : List PasstokenRow}
    (hf : st.db.fixtures.Perm fixtures) (hs : st.db.spot.Perm spot)
    (hp : st.db.passtoken.Perm passtoken) (fail : Bool) (id : Uuid) (name token : String)
    (now : DateTime) :
    getOneFixtures fail (.fixturesId id) fixtures =
        getOneFixtures fail (.fixturesId id) st.db.fixtures ∧
      QrDatabase.getOneSpot fail name spot = QrDatabase.getOneSpot fail name st.db.spot ∧
      getRole fail token now passtoken = getRole fail token now st.db.passtoken := by
  have hkeys := primaryKeys_reachable parseUuid env nfc hreach
  -- each read is one look-up by its table's key
  have hfix := fetchOptional_key_perm hf hkeys.fixtures id
  have hspot := fetchOptional_key_perm hs hkeys.spot name
  have htok := fetchOptional_key_perm hp hkeys.passtoken token
  refine ⟨?_, ?_, ?_⟩
  · simp only [getOneFixtures, runFetchOne_congr hfix]
  · simp only [QrDatabase.getOneSpot, runFetchOne_congr hspot]
  · simp only [getRole, htok]

end Server

/-- Read in reverse order, each of `busyState`'s two-row tables gives the same
    answers by key, although the rows come in another order. -/
theorem reads_by_key_perm_busyState :
    busyState.db.fixtures.reverse ≠ busyState.db.fixtures ∧
      busyState.db.spot.reverse ≠ busyState.db.spot ∧
      busyState.db.passtoken.reverse ≠ busyState.db.passtoken ∧
      getOneFixtures false (.fixturesId itemX.id) busyState.db.fixtures.reverse =
        getOneFixtures false (.fixturesId itemX.id) busyState.db.fixtures ∧
      QrDatabase.getOneSpot false "test1" busyState.db.spot.reverse =
        QrDatabase.getOneSpot false "test1" busyState.db.spot ∧
      getRole false "admin-token" DateTime.unixEpoch busyState.db.passtoken.reverse =
        getRole false "admin-token" DateTime.unixEpoch busyState.db.passtoken := by
  have hf : busyState.db.fixtures.reverse ≠ busyState.db.fixtures := by decide
  have hs : busyState.db.spot.reverse ≠ busyState.db.spot := by decide
  have hp : busyState.db.passtoken.reverse ≠ busyState.db.passtoken := by decide
  exact ⟨hf, hs, hp, reads_by_key_perm (fun _ => none) adminEnv (fun s => s)
    (reachable_busyState _) (List.reverse_perm _).symm (List.reverse_perm _).symm
    (List.reverse_perm _).symm false itemX.id "test1" "admin-token" DateTime.unixEpoch⟩

end QrPrimaryKeys
