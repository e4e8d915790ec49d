import Mathlib
import QrBackend.ReturnByQr
import QrBackend.PrimaryKeys

/-! # What a successful write lets the read routes see — `src/app/*.rs`

    A client that reads `ok: true` from a write route can read its write back
    at once through the matching read route, at every server, reachable or
    not, as the database stores it (its timestamps cut to whole microseconds,
    `QrBackend.Timestamptz`):

    * `insert_fixtures`, and `update_fixtures` of an item the table holds:
      `get_fixtures?id=` answers the stored item; the index holds the item as
      sent under its id, unless the index write's task failed, which the
      `ok: true` does not rule out (`QrBackend.SearchEngine`);
    * `delete_fixtures?id=`: `get_fixtures?id=` answers `DatabaseNotFound`,
      and the index holds nothing under the id unless the task failed;
    * `insert_spot`: `get_one_spot?name=` answers the spot, unless it lies in
      `kasuga` (`QrRoundTrip.getOneSpot_kasuga`); `delte_spot?name=`:
      `DatabaseNotFound`;
    * `insert_lending` of an active lending: `get_is_lending?fixtures_id=`
      answers `true` and `get_one_lending?lending_id=` the stored lending;
      `returned_lending?id=`: `get_is_lending?fixtures_id=` answers `false`;
    * `api_gen_passtoken`, which answers success exactly when every check of
      `gen_passtoken` passes and the drawn token is new
      (`apiGenPasstoken_ok_iff`): the response carries the token, and
      `get_role` on it answers the user name's role for as long as
      `check_valid` of the stored token holds.

    Each read is taken with its statement answering, and, where the key is a
    uuid, with `Uuid::parse_str` reading the uuid's text back.  The proofs read
    the write off one success lemma per handler shape and the read off the
    round trips of `QrRoundTrip`; no handler is unfolded twice. -/

namespace QrReadAfterWrite

open Chrono QrModel QrErrorHandling QrAuthentication QrDatabase QrSearchEngine Table QrApp
open QrLending QrRoundTrip QrIndexSync QrReturnByQr QrPrimaryKeys

/-- The query string `?name=n` of `get_one_spot` and `delte_spot`. -/
def nameQuery (n : String) : Query :=
  fun k => if k = "name" then some n else none

/-- The query string `?fixtures_id=s` of `get_one_lending` and `get_is_lending`. -/
def fixturesIdQuery (s : String) : Query :=
  fun k => if k = "fixtures_id" then some s else none

/-- The query string `?lending_id=s` of `get_one_lending` and `get_is_lending`. -/
def lendingIdQuery (s : String) : Query :=
  fun k => if k = "lending_id" then some s else none

@[simp] theorem nameQuery_name (n : String) : nameQuery n "name" = some n := rfl

/-! ## What a success answer says about the write -/

section Success

variable {st st' : State}

/-- A gated handler that answers success ran its body. -/
theorem withRole_ok {T : Type} {r : ReturnData T} {allowed : Except QrError Role → Bool}
    {ff : Faults} {now : DateTime} {bearer : String} {body : Option (ReturnData T × State)}
    (h : withRole allowed ff now bearer st body = some (r, st')) (hok : r.2.ok = true) :
    body = some (r, st') := by
  obtain ⟨_, -, ⟨-, hb⟩ | ⟨-, rfl, -⟩⟩ := withRole_eq_some h
  · exact hb
  · exact absurd hok Bool.false_ne_true

/-- A one-table write that answers success stored the statement's table. -/
theorem commitWrite_ok {ρ : Type} {w : Except QrError (List ρ)} {set : List ρ → Db → Db}
    {r : ReturnData Unit} (h : commitWrite w set st = some (r, st')) (hok : r.2.ok = true) :
    ∃ t, w = .ok t ∧ st' = { st with db := set t st.db } := by
  rcases commitWrite_eq_some h with ⟨_, -, rfl, -⟩ | ⟨t, hw, -, rfl⟩
  · exact absurd hok Bool.false_ne_true
  · exact ⟨t, hw, rfl⟩

/-- A fixtures write that answers success stored the table, had its index
    call answer, and keeps the index that call's task left. -/
theorem writeThenIndex_ok {dbWrite : Except QrError (List FixturesRow)}
    {idxWrite : Index Fixtures → Except QrError Unit × Index Fixtures} {r : ReturnData Unit}
    (h : writeThenIndex dbWrite idxWrite st = some (r, st')) (hok : r.2.ok = true) :
    ∃ t, dbWrite = .ok t ∧ (idxWrite st.index).1 = .ok () ∧
      st' = { db := { st.db with fixtures := t }, index := (idxWrite st.index).2 } := by
  rcases writeThenIndex_eq_some h with ⟨_, -, rfl, -⟩ | ⟨t, hw, rfl, rfl⟩
  · exact absurd hok Bool.false_ne_true
  · -- the index call's error is an error answer too
    obtain ⟨u, hu⟩ := (resultToHandler_ok_iff _).mp hok
    exact ⟨t, hw, hu, rfl⟩

end Success

/-! ## The read routes at one key -/

section Reads

variable (parseUuid : String → Option Uuid)

theorem getFixtures_idQuery {s : String} {u : Uuid} (hparse : parseUuid s = some u)
    (ff : Faults) (st : State) :
    getFixtures parseUuid ff (idQuery s) st =
      (getOneFixtures (ff 0) (.fixturesId u) st.db.fixtures).map resultToHandler := by
  simp only [getFixtures, idQuery_id, hparse]

theorem getOneSpot_nameQuery (ff : Faults) (n : String) (st : State) :
    QrApp.getOneSpot ff (nameQuery n) st =
      (QrDatabase.getOneSpot (ff 0) n st.db.spot).map resultToHandler := by
  simp only [QrApp.getOneSpot, nameQuery_name]

theorem lendingKey_fixturesIdQuery {s : String} {u : Uuid} (hparse : parseUuid s = some u) :
    lendingKey parseUuid (fixturesIdQuery s) = .ok (.fixturesId u) := by
  have hlending : fixturesIdQuery s "lending_id" = none := if_neg (by decide)
  have hfixtures : fixturesIdQuery s "fixtures_id" = some s := rfl
  simp only [lendingKey, hlending, hfixtures, hparse]

theorem lendingKey_lendingIdQuery {s : String} {u : Uuid} (hparse : parseUuid s = some u) :
    lendingKey parseUuid (lendingIdQuery s) = .ok (.lendingId u) := by
  have hlending : lendingIdQuery s "lending_id" = some s := rfl
  simp only [lendingKey, hlending, hparse]

/-- `get_is_lending` by `fixtures_id` answers `true` exactly where some active
    lending of the item is stored. -/
theorem getIsLending_fixturesId_of_active {s : String} {u : Uuid} (hparse : parseUuid s = some u)
    {ff : Faults} (hff : ff 0 = false) {st : State} {l : Lending} (hl : l ∈ st.db.lending)
    (hid : l.fixturesId = u) (hact : l.active = true) :
    getIsLending parseUuid ff (fixturesIdQuery s) st = resultToHandler (.ok true) := by
  obtain ⟨row, hrow⟩ := Option.isSome_iff_exists.mp
    (fetchOptional_isSome (p := fun r => decide (r.fixturesId = u) && r.active) hl
      (by simp [hid, hact]))
  have hread : QrDatabase.getOneLending (ff 0) (.fixturesId u) st.db.lending = .ok row :=
    runFetchOne_eq_ok.mpr ⟨hff, hrow⟩
  simp only [getIsLending, lendingKey_fixturesIdQuery parseUuid hparse, hread]

end Reads

/-! ## Items -/

section Fixtures

variable (parseUuid : String → Option Uuid) {ff : Faults} {now : DateTime} {bearer : String}
  {st st' : State} {r : ReturnData Unit}

/-- The index a one-document upsert leaves: the document under its key,
    unless the task failed. -/
def upserted (taskFails : Bool) (idx : Index Fixtures) (f : Fixtures) : Index Fixtures :=
  if taskFails then idx else Function.update idx f.id (some f)

/-- The shape `insert_fixtures` and `update_fixtures` share: a successful
    database-then-index write of `f`, whose database write reads `f` back by
    its id as stored, answers the stored `f` by id and leaves the index its
    task left. -/
theorem getFixtures_after_write {f : Fixtures} {dbWrite : Except QrError (List FixturesRow)}
    (hread : ∀ t, dbWrite = .ok t →
      getOneFixtures false (.fixturesId f.id) t = some (.ok f.stored))
    (h : writeThenIndex dbWrite (SearchFixtures.addOrReplace (ff 2) (ff 3) [f]) st =
      some (r, st'))
    (hok : r.2.ok = true) (hparse : parseUuid f.id.toString = some f.id) {ff' : Faults}
    (hff' : ff' 0 = false) :
    getFixtures parseUuid ff' (idQuery f.id.toString) st' =
        some (resultToHandler (.ok f.stored)) ∧
      st'.index = upserted (ff 3) st.index f := by
  obtain ⟨t, hw, -, rfl⟩ := writeThenIndex_ok h hok
  refine ⟨?_, rfl⟩
  rw [getFixtures_idQuery parseUuid hparse, hff', hread t hw]
  rfl

/-- **INSERT, THEN GET**: after `insert_fixtures` answers success,
    `get_fixtures?id=` answers the item as stored, and the index holds the
    item under its id unless the task of the index write failed. -/
theorem getFixtures_after_insertFixtures {f : Fixtures}
    (h : QrApp.insertFixtures ff now bearer f st = some (r, st')) (hok : r.2.ok = true)
    (hparse : parseUuid f.id.toString = some f.id) {ff' : Faults} (hff' : ff' 0 = false) :
    getFixtures parseUuid ff' (idQuery f.id.toString) st' =
        some (resultToHandler (.ok f.stored)) ∧
      st'.index = upserted (ff 3) st.index f := by
  refine getFixtures_after_write parseUuid (fun t hw => ?_) (withRole_ok h hok) hok hparse hff'
  -- the `INSERT` appended the item to a table without its id
  obtain ⟨-, hfresh, rfl⟩ := insertFixtures_eq_ok.mp hw
  exact (getOneFixtures_insertFixtures hfresh).2

theorem getFixtures_after_insertFixtures_itemX :
    ∃ r st', QrApp.insertFixtures noFaults DateTime.unixEpoch "admin-token" itemX adminState =
        some (r, st') ∧ r.2.ok = true ∧
      getFixtures parseItemX noFaults (idQuery itemX.id.toString) st' =
        some (resultToHandler (.ok itemX.stored)) ∧
      st'.index = upserted (noFaults 3) adminState.index itemX := by
  obtain ⟨r, st', h, hok⟩ : ∃ r st', QrApp.insertFixtures noFaults DateTime.unixEpoch
      "admin-token" itemX adminState = some (r, st') ∧ r.2.ok = true := ⟨_, _, rfl, rfl⟩
  exact ⟨r, st', h, hok, getFixtures_after_insertFixtures parseItemX h hok (if_pos rfl) rfl⟩

/-- **UPDATE, THEN GET**: after `update_fixtures` of an item whose id the
    table holds answers success, `get_fixtures?id=` answers the new item as
    stored, and the index holds it under its id unless the task of the index
    write failed. -/
theorem getFixtures_after_updateFixtures {f : Fixtures}
    (h : QrApp.updateFixtures ff now bearer f st = some (r, st')) (hok : r.2.ok = true)
    (hheld : ∃ row ∈ st.db.fixtures, row.id = f.id)
    (hparse : parseUuid f.id.toString = some f.id) {ff' : Faults} (hff' : ff' 0 = false) :
    getFixtures parseUuid ff' (idQuery f.id.toString) st' =
        some (resultToHandler (.ok f.stored)) ∧
      st'.index = upserted (ff 3) st.index f := by
  refine getFixtures_after_write parseUuid (fun t hw => ?_) (withRole_ok h hok) hok hparse hff'
  -- the `UPDATE` ran, so its statement answered
  obtain ⟨hff1, -⟩ := updateFixtures_eq_ok.mp hw
  rw [hff1] at hw
  exact getOneFixtures_updateFixtures hheld hw

/-- `itemX` under a new QR id. -/
def itemXRelabelled : Fixtures :=
  { itemX with qrId := "x999" }

theorem getFixtures_after_updateFixtures_lentState :
    ∃ r st', QrApp.updateFixtures noFaults DateTime.unixEpoch "admin-token" itemXRelabelled
        lentState = some (r, st') ∧ r.2.ok = true ∧
      getFixtures parseItemX noFaults (idQuery itemXRelabelled.id.toString) st' =
        some (resultToHandler (.ok itemXRelabelled.stored)) ∧
      st'.index = upserted (noFaults 3) lentState.index itemXRelabelled := by
  obtain ⟨r, st', h, hok⟩ : ∃ r st', QrApp.updateFixtures noFaults DateTime.unixEpoch
      "admin-token" itemXRelabelled lentState = some (r, st') ∧ r.2.ok = true :=
    ⟨_, _, rfl, rfl⟩
  have hheld : ∃ row ∈ lentState.db.fixtures, row.id = itemXRelabelled.id :=
    ⟨FixturesRow.encode itemX, by decide, rfl⟩
  exact ⟨r, st', h, hok,
    getFixtures_after_updateFixtures parseItemX h hok hheld (if_pos rfl) rfl⟩

/-- The index a one-key delete leaves: nothing under the key, unless the
    task failed. -/
def deleted (taskFails : Bool) (idx : Index Fixtures) (u : Uuid) : Index Fixtures :=
  if taskFails then idx else Function.update idx u none

/-- **DELETE, THEN GET**: after `delete_fixtures?id=` answers success,
    `get_fixtures?id=` answers `DatabaseNotFound`, and the index holds nothing
    under the id unless the task of the index write failed. -/
theorem getFixtures_after_deleteFixtures {s : String} {u : Uuid} (hparse : parseUuid s = some u)
    (h : QrApp.deleteFixtures parseUuid ff now bearer (idQuery s) st = some (r, st'))
    (hok : r.2.ok = true) {ff' : Faults} (hff' : ff' 0 = false) :
    getFixtures parseUuid ff' (idQuery s) st' =
        some (resultToHandler (.error (.databaseNotFound u.toString))) ∧
      st'.index = deleted (ff 3) st.index u := by
  simp only [QrApp.deleteFixtures, idQuery_id, hparse] at h
  obtain ⟨t, hw, -, rfl⟩ := writeThenIndex_ok (withRole_ok h hok) hok
  obtain ⟨-, rfl⟩ := deleteFixtures_eq_ok.mp hw
  refine ⟨?_, rfl⟩
  -- no row of the id is left for the `SELECT`
  have hread : runFetchOne false (QrError.databaseGet "fixtures") (.databaseNotFound u.toString)
      (fun r => r.id = u) (delete (fun r => r.id = u) st.db.fixtures) =
        .error (.databaseNotFound u.toString) :=
    runFetchOne_eq_notFound (fetchOptional_delete_self _ _)
  rw [getFixtures_idQuery parseUuid hparse, hff']
  simp only [getOneFixtures, hread, Option.map_some]

theorem getFixtures_after_deleteFixtures_lentState :
    ∃ r st', QrApp.deleteFixtures parseItemX noFaults DateTime.unixEpoch "admin-token"
        (idQuery itemX.id.toString) lentState = some (r, st') ∧ r.2.ok = true ∧
      getFixtures parseItemX noFaults (idQuery itemX.id.toString) st' =
        some (resultToHandler (.error (.databaseNotFound itemX.id.toString))) ∧
      st'.index = deleted (noFaults 3) lentState.index itemX.id := by
  obtain ⟨r, st', h, hok⟩ : ∃ r st', QrApp.deleteFixtures parseItemX noFaults DateTime.unixEpoch
      "admin-token" (idQuery itemX.id.toString) lentState = some (r, st') ∧ r.2.ok = true :=
    ⟨_, _, rfl, rfl⟩
  exact ⟨r, st', h, hok, getFixtures_after_deleteFixtures parseItemX (if_pos rfl) h hok rfl⟩

end Fixtures

/-! ## Spots -/

section Spots

variable {ff : Faults} {now : DateTime} {bearer : String} {st st' : State} {r : ReturnData Unit}

/-- **INSERT, THEN GET**: after `insert_spot` of a spot outside `kasuga`
    answers success, `get_one_spot?name=` answers the spot. -/
theorem getOneSpot_after_insertSpot {s : Spot}
    (h : QrApp.insertSpot ff now bearer s st = some (r, st')) (hok : r.2.ok = true)
    (harea : s.area ≠ .kasuga) {ff' : Faults} (hff' : ff' 0 = false) :
    QrApp.getOneSpot ff' (nameQuery s.name) st' = some (resultToHandler (.ok s)) := by
  obtain ⟨t, hw, rfl⟩ := commitWrite_ok (withRole_ok h hok) hok
  obtain ⟨-, hfresh, rfl⟩ := insertSpot_eq_ok.mp hw
  rw [getOneSpot_nameQuery, hff']
  show (QrDatabase.getOneSpot false s.name (st.db.spot ++ [SpotRow.encode s])).map _ = _
  rw [(getOneSpot_insertSpot hfresh harea).2]
  rfl

/-- The spot of `tests::test_insert_spot_sql`, in `taigei`. -/
def taigeiSpot : Spot :=
  { kasugaSpot with area := .taigei }

theorem getOneSpot_after_insertSpot_taigei :
    ∃ r st', QrApp.insertSpot noFaults DateTime.unixEpoch "admin-token" taigeiSpot adminState =
        some (r, st') ∧ r.2.ok = true ∧
      QrApp.getOneSpot noFaults (nameQuery taigeiSpot.name) st' =
        some (resultToHandler (.ok taigeiSpot)) := by
  obtain ⟨r, st', h, hok⟩ : ∃ r st', QrApp.insertSpot noFaults DateTime.unixEpoch "admin-token"
      taigeiSpot adminState = some (r, st') ∧ r.2.ok = true := ⟨_, _, rfl, rfl⟩
  exact ⟨r, st', h, hok, getOneSpot_after_insertSpot h hok (by decide) rfl⟩

/-- **DELETE, THEN GET**: after `delte_spot?name=` answers success,
    `get_one_spot?name=` answers `DatabaseNotFound`. -/
theorem getOneSpot_after_delteSpot {n : String}
    (h : delteSpot ff now bearer (nameQuery n) st = some (r, st')) (hok : r.2.ok = true)
    {ff' : Faults} (hff' : ff' 0 = false) :
    QrApp.getOneSpot ff' (nameQuery n) st' =
      some (resultToHandler (.error (.databaseNotFound n))) := by
  simp only [delteSpot, nameQuery_name] at h
  obtain ⟨t, hw, rfl⟩ := commitWrite_ok (withRole_ok h hok) hok
  obtain ⟨-, rfl⟩ := deleteSpot_eq_ok.mp hw
  -- no row of the name is left for the `SELECT`
  have hread : runFetchOne false (QrError.databaseGet "spot") (.databaseNotFound n)
      (fun r => r.name = n) (delete (fun r => r.name = n) st.db.spot) =
        .error (.databaseNotFound n) :=
    runFetchOne_eq_notFound (fetchOptional_delete_self _ _)
  rw [getOneSpot_nameQuery, hff']
  simp only [Db.setSpot, QrDatabase.getOneSpot, hread, Option.map_some]

/-- At `busyState`, whose spot table holds `area1Spot` and then `kasugaSpot`,
    deleting `kasugaSpot`'s name leaves `get_one_spot` nothing to find. -/
theorem getOneSpot_after_delteSpot_busyState :
    busyState.db.spot = [SpotRow.encode area1Spot, SpotRow.encode kasugaSpot] ∧
      ∃ r st', delteSpot noFaults DateTime.unixEpoch "admin-token" (nameQuery kasugaSpot.name)
          busyState = some (r, st') ∧ r.2.ok = true ∧
        QrApp.getOneSpot noFaults (nameQuery kasugaSpot.name) st' =
          some (resultToHandler (.error (.databaseNotFound kasugaSpot.name))) := by
  have hrows : busyState.db.spot = [SpotRow.encode area1Spot, SpotRow.encode kasugaSpot] := by
    decide
  obtain ⟨r, st', h, hok⟩ : ∃ r st', delteSpot noFaults DateTime.unixEpoch "admin-token"
      (nameQuery kasugaSpot.name) busyState = some (r, st') ∧ r.2.ok = true := ⟨_, _, rfl, rfl⟩
  exact ⟨hrows, r, st', h, hok, getOneSpot_after_delteSpot h hok rfl⟩

end Spots

/-! ## Lendings -/

section Lendings

variable (parseUuid : String → Option Uuid) {ff : Faults} {now : DateTime} {bearer : String}
  {st st' : State} {r : ReturnData Unit}

/-- **LEND, THEN ASK**: after `insert_lending` of an active lending answers
    success, `get_is_lending?fixtures_id=` answers `true` and
    `get_one_lending?lending_id=` answers the lending as stored. -/
theorem getIsLending_after_insertLending {l : Lending}
    (h : QrApp.insertLending ff now bearer l st = some (r, st')) (hok : r.2.ok = true)
    (hact : l.active = true) (hparse : parseUuid l.fixturesId.toString = some l.fixturesId)
    (hparse' : parseUuid l.id.toString = some l.id) {ff' : Faults} (hff' : ff' 0 = false) :
    getIsLending parseUuid ff' (fixturesIdQuery l.fixturesId.toString) st' =
        resultToHandler (.ok true) ∧
      QrApp.getOneLending parseUuid ff' (lendingIdQuery l.id.toString) st' =
        resultToHandler (.ok l.stored) := by
  obtain ⟨t, hw, rfl⟩ := commitWrite_ok (withRole_ok h hok) hok
  obtain ⟨-, -, hfresh, rfl⟩ := insertLending_eq_ok.mp hw
  have hact' : l.stored.active = true := by rw [Lending.stored_active]; exact hact
  have hmem : l.stored ∈ st.db.lending ++ [l.stored] :=
    List.mem_append_right _ (List.mem_singleton_self _)
  refine ⟨getIsLending_fixturesId_of_active parseUuid hparse hff' hmem rfl hact', ?_⟩
  -- the `INSERT` checked the id, so the new row is the only one under it
  have hfirst : fetchOptional (fun r => decide (r.id = l.id) && r.active)
      (st.db.lending ++ [l.stored]) = some l.stored :=
    fetchOptional_append_fresh (fun s hs => by simp [hfresh s hs]) (by simp [hact'])
  have hread : QrDatabase.getOneLending (ff' 0) (.lendingId l.id) (st.db.lending ++ [l.stored]) =
      .ok l.stored :=
    runFetchOne_eq_ok.mpr ⟨hff', hfirst⟩
  simp only [QrApp.getOneLending, lendingKey_lendingIdQuery parseUuid hparse', Db.setLending,
    hread]

/-- `Uuid::parse_str` where the ids of `lendingX` and of its item are asked for. -/
def parseLendingX (s : String) : Option Uuid :=
  if s = lendingX.id.toString then some lendingX.id else parseItemX s

theorem getIsLending_after_insertLending_lendingX :
    ∃ r st', QrApp.insertLending noFaults DateTime.unixEpoch "admin-token" lendingX adminState =
        some (r, st') ∧ r.2.ok = true ∧
      getIsLending parseLendingX noFaults (fixturesIdQuery lendingX.fixturesId.toString) st' =
          resultToHandler (.ok true) ∧
        QrApp.getOneLending parseLendingX noFaults (lendingIdQuery lendingX.id.toString) st' =
          resultToHandler (.ok lendingX.stored) := by
  obtain ⟨r, st', h, hok⟩ : ∃ r st', QrApp.insertLending noFaults DateTime.unixEpoch
      "admin-token" lendingX adminState = some (r, st') ∧ r.2.ok = true := ⟨_, _, rfl, rfl⟩
  have hparse : parseLendingX lendingX.fixturesId.toString = some lendingX.fixturesId := by
    decide
  exact ⟨r, st', h, hok,
    getIsLending_after_insertLending parseLendingX h hok rfl hparse (if_pos rfl) rfl⟩

/-- **RETURN, THEN ASK**: after `returned_lending?id=` answers success,
    `get_is_lending?fixtures_id=` with the same id answers `false`: the
    `UPDATE` closed every lending of the item. -/
theorem getIsLending_after_returnedLending {s : String} {u : Uuid}
    (hparse : parseUuid s = some u) {returnedAt : DateTime}
    (h : QrApp.returnedLending parseUuid ff now bearer (idQuery s) returnedAt st = some (r, st'))
    (hok : r.2.ok = true) {ff' : Faults} (hff' : ff' 0 = false) :
    getIsLending parseUuid ff' (fixturesIdQuery s) st' = resultToHandler (.ok false) := by
  rw [returnedLending_idQuery parseUuid hparse] at h
  obtain ⟨t, hw, rfl⟩ := commitWrite_ok (withRole_ok h hok) hok
  obtain ⟨-, rfl⟩ := returnedLending_eq_ok.mp hw
  -- a row of the item is closed by the `UPDATE`; any other row is not the item's
  have hnone : fetchOptional (fun r => decide (r.fixturesId = u) && r.active)
      (update (fun r => r.fixturesId = u)
        (fun r => { r with returnedAt := some returnedAt.timestamptz }) st.db.lending) = none := by
    rw [fetchOptional_eq_none]
    intro x hx
    obtain ⟨row, -, rfl⟩ := mem_update.mp hx
    by_cases hrow : row.fixturesId = u
    · simp [hrow, Lending.active]
    · simp [hrow]
  have hread : QrDatabase.getOneLending (ff' 0) (.fixturesId u)
      (update (fun r => r.fixturesId = u)
        (fun r => { r with returnedAt := some returnedAt.timestamptz }) st.db.lending) =
        .error (.databaseNotFound u.toString) := by
    rw [hff']
    exact runFetchOne_eq_notFound hnone
  simp only [getIsLending, lendingKey_fixturesIdQuery parseUuid hparse, Db.setLending, hread]

theorem getIsLending_after_returnedLending_lentState :
    ∃ r st', QrApp.returnedLending parseItemX noFaults DateTime.unixEpoch "admin-token"
        (idQuery itemX.id.toString) dayOne lentState = some (r, st') ∧ r.2.ok = true ∧
      getIsLending parseItemX noFaults (fixturesIdQuery itemX.id.toString) st' =
        resultToHandler (.ok false) := by
  obtain ⟨r, st', h, hok⟩ : ∃ r st', QrApp.returnedLending parseItemX noFaults
      DateTime.unixEpoch "admin-token" (idQuery itemX.id.toString) dayOne lentState =
        some (r, st') ∧ r.2.ok = true := ⟨_, _, rfl, rfl⟩
  exact ⟨r, st', h, hok, getIsLending_after_returnedLending parseItemX (if_pos rfl) h hok rfl⟩

end Lendings

/-! ## Pass tokens -/

section Passtokens

variable {env : String → Option String} {nfc : String → String} {token : String} {now : DateTime}
  {ff : Faults} {username password : String} {st st' : State}

/-- `gen_passtoken` answers a token only when the user name names a role,
    the role's variables are set, its validity parses, the NFC forms of the
    keys agree and the `INSERT` of a token the table did not hold answers; the
    token is then the one drawn, appended as `Passtoken::new` of the role. -/
theorem genPasstoken_eq_ok {s : String}
    (h : QrApp.genPasstoken env nfc token now ff username password st = (.ok s, st')) :
    ∃ role pass limitStr limit, username = role.fmt ∧ env role.envVars.1 = some pass ∧
      env role.envVars.2 = some limitStr ∧ parseUsize limitStr = some limit ∧
      nfc password = nfc pass ∧ ff 0 = false ∧ (∀ row ∈ st.db.passtoken, row.token ≠ token) ∧
      s = token ∧
      st' = { st with db := { st.db with passtoken := st.db.passtoken ++
        [PasstokenRow.encode (Passtoken.new token now role limit).stored] } } := by
  unfold QrApp.genPasstoken at h
  -- the three refusals answer an error
  split at h
  · nomatch h
  · rename_i role hu
    split at h
    · nomatch h
    · rename_i p hg
      split at h
      · nomatch h
      · rename_i t hi
        rw [genPasstoken_eq] at hg
        obtain ⟨pass, limitStr, limit, hpass, hlim, hparse, hkey, rfl⟩ := genPasstokenWith_eq_ok hg
        obtain ⟨hff, hfresh, rfl⟩ := runInsert_eq_ok.mp hi
        cases h
        exact ⟨role, pass, limitStr, limit, strToRoleOpt_eq_some.mp hu, hpass, hlim, hparse, hkey,
          hff, hfresh, rfl, rfl⟩

/-- **WHEN A TOKEN IS ISSUED**: `api_gen_passtoken` answers success exactly
    when the user name names a role, both of the role's variables are set, its
    validity parses as a `usize`, the NFC forms of the key sent and of the
    role's pass key agree, the `INSERT` answers, and the drawn token is not
    stored yet. -/
theorem apiGenPasstoken_ok_iff :
    (apiGenPasstoken env nfc token now ff username password st).1.2.ok = true ↔
      ∃ (role : Role) (pass limitStr : String) (limit : UInt64), username = role.fmt ∧
        env role.envVars.1 = some pass ∧ env role.envVars.2 = some limitStr ∧
        parseUsize limitStr = some limit ∧
        nfc password = nfc pass ∧ ff 0 = false ∧ ∀ row ∈ st.db.passtoken, row.token ≠ token := by
  constructor
  · intro hok
    obtain ⟨s, hs⟩ := (resultToHandler_ok_iff _).mp hok
    obtain ⟨role, pass, limitStr, limit, hu, hpass, hlim, hparse, hkey, hff, hfresh, -⟩ :=
      genPasstoken_eq_ok (Prod.ext hs rfl)
    exact ⟨role, pass, limitStr, limit, hu, hpass, hlim, hparse, hkey, hff, hfresh⟩
  · rintro ⟨role, pass, limitStr, limit, rfl, hpass, hlim, hparse, hkey, hff, hfresh⟩
    -- every check passes, so the token is issued and inserted
    have hgen : QrAuthentication.genPasstoken env nfc token now role password =
        .ok (Passtoken.new token now role limit) := by
      rw [genPasstoken_eq]
      simp only [genPasstokenWith, hpass, hlim, hparse, if_pos hkey]
    have hins : insertPasstoken (ff 0) (Passtoken.new token now role limit) st.db.passtoken =
        .ok (st.db.passtoken ++
          [PasstokenRow.encode (Passtoken.new token now role limit).stored]) :=
      runInsert_eq_ok.mpr ⟨hff, hfresh, rfl⟩
    simp only [apiGenPasstoken, QrApp.genPasstoken, strToRoleOpt_fmt, hgen, hins]
    rfl

/-- **ISSUE, THEN ASK**: after `api_gen_passtoken` answers success, the
    response carries the drawn token, and `get_role` on that token answers the
    user name's role while `check_valid` holds, `Authorized` once it fails,
    and panics where `check_valid` panics, of the token as stored. -/
theorem getRole_after_genPasstoken {r : ReturnData String}
    (h : apiGenPasstoken env nfc token now ff username password st = (r, st'))
    (hok : r.2.ok = true) (now' : DateTime) :
    r.2.data = some token ∧
      ∃ role limitStr limit, username = role.fmt ∧ env role.envVars.2 = some limitStr ∧
        parseUsize limitStr = some limit ∧
        getRole false token now' st'.db.passtoken =
          ((Passtoken.new token now role limit).stored.checkValid now').map
            (fun valid => if valid then .ok role else .error .authorized) := by
  obtain ⟨rfl, hst'⟩ := Prod.mk.inj h
  obtain ⟨s, hs⟩ := (resultToHandler_ok_iff _).mp hok
  obtain ⟨role, -, limitStr, limit, hu, -, hlim, hparse, -, -, hfresh, rfl, rfl⟩ :=
    genPasstoken_eq_ok (Prod.ext hs hst')
  refine ⟨by rw [hs]; rfl, role, limitStr, limit, hu, hlim, hparse, ?_⟩
  -- the `INSERT` checked the token, so the new row is the one `get_role` reads
  have hfirst : fetchOptional (fun r => r.token = s) (st.db.passtoken ++
      [PasstokenRow.encode (Passtoken.new s now role limit).stored]) =
        some (PasstokenRow.encode (Passtoken.new s now role limit).stored) :=
    fetchOptional_append_fresh (fun row hrow => decide_eq_false (hfresh row hrow))
      (decide_eq_true rfl)
  simp only [getRole, Bool.false_eq_true, if_false, hfirst, PasstokenRow.decode_encode]
  -- the row decodes to the issued token, so only its validity is left
  show ((Passtoken.new s now role limit).stored.checkValid now').bind
      (fun valid => some (if valid then Except.ok role else Except.error QrError.authorized)) = _
  cases (Passtoken.new s now role limit).stored.checkValid now' <;> rfl

theorem getRole_after_genPasstoken_admin :
    ∃ r st', apiGenPasstoken adminEnv (fun s => s) "admin-token" DateTime.unixEpoch noFaults
        "administrator" "admin-key" State.empty = (r, st') ∧ r.2.ok = true ∧
      r.2.data = some "admin-token" ∧
      ∃ role limitStr limit, "administrator" = role.fmt ∧
        adminEnv role.envVars.2 = some limitStr ∧ parseUsize limitStr = some limit ∧
        getRole false "admin-token" dayOne st'.db.passtoken =
          ((Passtoken.new "admin-token" DateTime.unixEpoch role limit).stored.checkValid dayOne).map
            (fun valid => if valid then .ok role else .error .authorized) := by
  obtain ⟨r, st', h, hok⟩ : ∃ r st', apiGenPasstoken adminEnv (fun s => s) "admin-token"
      DateTime.unixEpoch noFaults "administrator" "admin-key" State.empty = (r, st') ∧
        r.2.ok = true := ⟨_, _, rfl, rfl⟩
  exact ⟨r, st', h, hok, getRole_after_genPasstoken h hok dayOne⟩

end Passtokens

end QrReadAfterWrite
