import Mathlib
import QrBackend.RoundTrip
import QrBackend.IndexSync

/-! # Returning by QR id — `src/app/lending.rs` (`returned_lending`)

    `returned_lending` takes the item by `id`, or by `qr_id`; a QR id is
    resolved through the fixtures table by `get_one_fixtures`, whose
    `SELECT ... WHERE qr_id = $1` answers the first matching row.  Nothing
    makes a QR id name one item: the fixtures table has no unique index on it,
    and a lending keeps its own copy `fixtures_qr_id`, which `insert_lending`
    never compares with the item.

    * `returnedLending_qrId_eq_id` — at a reachable server, when the item
      table holds the lending's item under its QR id and no other item under
      it, the two queries answer alike and change the state alike;
    * `returnedLending_qrId_other` — when the first row under the QR id is
      another item's, the lending stays as it was, whatever the answer;
    * `returnedLending_qrId_leaves_lent` — a reachable server where the answer
      is success while the lending stays active.

    The read endpoints take the other road: `get_is_lending` by
    `fixtures_qr_id` reads the lending's own copy of the QR id, and so still
    reports such a lending lent (`getIsLending_after_qrId_other`).

    The look-up by QR id reads a stored row, and every stored row decodes: at
    a reachable server no write route panics past `get_role`
    (`serve_isSome`). -/

namespace QrReturnByQr

open Chrono QrModel QrErrorHandling QrAuthentication QrDatabase Table Runs
open QrApp QrRefinement QrRoundTrip QrLending QrIndexSync

/-- The query string `?id=s`. -/
def idQuery (s : String) : Query :=
  fun k => if k = "id" then some s else none

/-- The query string `?qr_id=q`. -/
def qrQuery (q : String) : Query :=
  fun k => if k = "qr_id" then some q else none

@[simp] theorem idQuery_id (s : String) : idQuery s "id" = some s := rfl

@[simp] theorem qrQuery_id (q : String) : qrQuery q "id" = none :=
  if_neg (by decide)

@[simp] theorem qrQuery_qrId (q : String) : qrQuery q "qr_id" = some q := rfl

/-- The query string `?fixtures_qr_id=q` of `get_lending` and `get_is_lending`. -/
def fixturesQrQuery (q : String) : Query :=
  fun k => if k = "fixtures_qr_id" then some q else none

section Branches

variable (parseUuid : String → Option Uuid) {ff : Faults} {now : DateTime} {bearer : String}
  {returnedAt : DateTime} {st : State}

/-- By `id`: the `UPDATE` of the parsed item id, behind the role gate. -/
theorem returnedLending_idQuery {s : String} {u : Uuid} (hparse : parseUuid s = some u) :
    returnedLending parseUuid ff now bearer (idQuery s) returnedAt st =
      withRole managerOrAdmin ff now bearer st
        (commitWrite (QrDatabase.returnedLending (ff 2) u returnedAt st.db.lending)
          Db.setLending st) := by
  simp only [QrApp.returnedLending, idQuery_id, hparse]

/-- By `qr_id`: the `UPDATE` of the item `get_one_fixtures` reads, behind the
    role gate. -/
theorem returnedLending_qrQuery {q : String} {f : Fixtures}
    (hread : getOneFixtures (ff 1) (.qrId q) st.db.fixtures = some (.ok f)) :
    returnedLending parseUuid ff now bearer (qrQuery q) returnedAt st =
      withRole managerOrAdmin ff now bearer st
        (commitWrite (QrDatabase.returnedLending (ff 2) f.id returnedAt st.db.lending)
          Db.setLending st) := by
  simp only [QrApp.returnedLending, qrQuery_id, qrQuery_qrId, hread]

theorem lendingKey_fixturesQrQuery (q : String) :
    lendingKey parseUuid (fixturesQrQuery q) = .ok (.qrId q) := by
  have hlending : fixturesQrQuery q "lending_id" = none := if_neg (by decide)
  have hfixtures : fixturesQrQuery q "fixtures_id" = none := if_neg (by decide)
  have hqr : fixturesQrQuery q "fixtures_qr_id" = some q := rfl
  simp only [lendingKey, hlending, hfixtures, hqr]

/-- **THE READ PATH SEES THE LENDING'S OWN QR ID**: `get_is_lending` by
    `fixtures_qr_id` reads the lending table's copy of the QR id, so it reports
    every active lending as lent, whatever the fixtures table holds. -/
theorem getIsLending_of_active {l : Lending} (hl : l ∈ st.db.lending) (hact : l.active = true)
    (hff : ff 0 = false) :
    getIsLending parseUuid ff (fixturesQrQuery l.fixturesQrId) st = resultToHandler (.ok true) := by
  obtain ⟨r, hr⟩ := Option.isSome_iff_exists.mp
    (fetchOptional_isSome (p := fun r => decide (r.fixturesQrId = l.fixturesQrId) && r.active) hl
      (by simp [hact]))
  have hread : QrDatabase.getOneLending (ff 0) (.qrId l.fixturesQrId) st.db.lending = .ok r :=
    runFetchOne_eq_ok.mpr ⟨hff, hr⟩
  simp only [getIsLending, lendingKey_fixturesQrQuery, hread]

end Branches

/-- `get_one_fixtures` by QR id reads the first row under the QR id. -/
theorem getOneFixtures_qrId_first {q : String} {t : List FixturesRow} {f : Fixtures}
    (hfirst : fetchOptional (fun r => r.qrId = q) t = some (FixturesRow.encode f)) :
    getOneFixtures false (.qrId q) t = some (.ok f) := by
  have hread : runFetchOne false (QrError.databaseGet "fixtures") (.databaseNotFound q)
      (fun r => r.qrId = q) t = .ok (FixturesRow.encode f) :=
    runFetchOne_eq_ok.mpr ⟨rfl, hfirst⟩
  simp only [getOneFixtures, hread, FixturesRow.decode_encode, Option.map_some]

/-! ## Two runs of the server

    An administrator token is issued; then one item is registered and lent,
    or two items under one QR id are registered and the second is lent. -/

/-- A deployment with an administrator pass key valid for 30 days. -/
def adminEnv : String → Option String
  | "ADMINISTRATOR_PASS_KEY" => some "admin-key"
  | "ADMINISTRATOR_LIMIT_DAYS" => some "30"
  | _ => none

/-- A lending of `itemX`, under its id and QR id. -/
def lendingX : Lending :=
  { lendingA with fixturesId := itemX.id, fixturesQrId := itemX.qrId }

/-- An administrator token is issued, `itemX` is registered and lent. -/
def lentInputs : List (Faults × DateTime × Input) :=
  [(noFaults, DateTime.unixEpoch, .genPasstoken "administrator" "admin-key" "admin-token"),
   (noFaults, DateTime.unixEpoch, .request (.insertFixtures "admin-token" itemX)),
   (noFaults, DateTime.unixEpoch, .request (.insertLending "admin-token" lendingX))]

/-- The server after `lentInputs` from a fresh start. -/
def lentState : State :=
  run (fun st c => serveState (fun _ => none) adminEnv (fun s => s) c.1 c.2.1 st c.2.2)
    State.empty lentInputs

theorem reachable_lentState (parseUuid : String → Option Uuid) :
    Reachable parseUuid adminEnv (fun s => s) lentState :=
  reachable_run parseUuid adminEnv (fun s => s) .init lentInputs

/-- `Uuid::parse_str` where only `itemX`'s id is asked for. -/
def parseItemX (s : String) : Option Uuid :=
  if s = itemX.id.toString then some itemX.id else none

/-- A second item under `itemX`'s QR id `x234`. -/
def itemY : Fixtures :=
  { itemX with id := ⟨21⟩ }

/-- A lending of `itemY`, under its id and QR id. -/
def lendingY : Lending :=
  { lendingA with fixturesId := itemY.id, fixturesQrId := itemY.qrId }

/-- An administrator token is issued, `itemX` and `itemY` are registered, and
    `itemY` is lent. -/
def sharedQrInputs : List (Faults × DateTime × Input) :=
  [(noFaults, DateTime.unixEpoch, .genPasstoken "administrator" "admin-key" "admin-token"),
   (noFaults, DateTime.unixEpoch, .request (.insertFixtures "admin-token" itemX)),
   (noFaults, DateTime.unixEpoch, .request (.insertFixtures "admin-token" itemY)),
   (noFaults, DateTime.unixEpoch, .request (.insertLending "admin-token" lendingY))]

/-- The server after `sharedQrInputs` from a fresh start; no input parses a
    uuid, so the state is that under every `Uuid::parse_str`. -/
def sharedQrState : State :=
  run (fun st c => serveState (fun _ => none) adminEnv (fun s => s) c.1 c.2.1 st c.2.2)
    State.empty sharedQrInputs

theorem reachable_sharedQrState (parseUuid : String → Option Uuid) :
    Reachable parseUuid adminEnv (fun s => s) sharedQrState :=
  reachable_run parseUuid adminEnv (fun s => s) .init sharedQrInputs

section Reachable

variable (parseUuid : String → Option Uuid) (env : String → Option String) (nfc : String → String)

/-- At a reachable server, the first row under a QR id, when there is one,
    reads back as an item of that row's id. -/
theorem getOneFixtures_qrId_reachable {st : State} (hreach : Reachable parseUuid env nfc st)
    {q : String} {row : FixturesRow}
    (hfirst : fetchOptional (fun r => r.qrId = q) st.db.fixtures = some row) :
    ∃ f, f.id = row.id ∧ getOneFixtures false (.qrId q) st.db.fixtures = some (.ok f) := by
  obtain ⟨hmem, -⟩ := fetchOptional_mem hfirst
  -- stored rows are encodings
  obtain ⟨f, rfl⟩ := (rowsEncoded_reachable parseUuid env nfc hreach).fixtures row hmem
  exact ⟨f, rfl, getOneFixtures_qrId_first hfirst⟩

/-- **BY QR ID IS BY ID WHEN THE QR ID IS THE ITEM'S ALONE**: at a reachable
    server, for a lending whose item the fixtures table holds under the
    lending's QR id, with no other item under that QR id, returning by
    `qr_id` answers and changes the state exactly as returning by `id` does,
    when the look-up statement answers and `Uuid::parse_str` reads the id's
    text back. -/
theorem returnedLending_qrId_eq_id {st : State} (hreach : Reachable parseUuid env nfc st)
    {l : Lending} (hitem : ∃ r ∈ st.db.fixtures, r.id = l.fixturesId ∧ r.qrId = l.fixturesQrId)
    (honly : ∀ r ∈ st.db.fixtures, r.qrId = l.fixturesQrId → r.id = l.fixturesId)
    {ff : Faults} (hff : ff 1 = false)
    (hparse : parseUuid l.fixturesId.toString = some l.fixturesId)
    (now : DateTime) (bearer : String) (returnedAt : DateTime) :
    returnedLending parseUuid ff now bearer (qrQuery l.fixturesQrId) returnedAt st =
      returnedLending parseUuid ff now bearer (idQuery l.fixturesId.toString) returnedAt st := by
  -- some row carries the QR id, so the look-up finds a first one
  obtain ⟨r, hr, -, hqr⟩ := hitem
  obtain ⟨row, hfirst⟩ := Option.isSome_iff_exists.mp
    (fetchOptional_isSome (p := fun r => r.qrId = l.fixturesQrId) hr (decide_eq_true hqr))
  -- that row is the lending's item, and reads back as an item of its id
  have hid : row.id = l.fixturesId :=
    honly row (fetchOptional_mem hfirst).1 (of_decide_eq_true (fetchOptional_mem hfirst).2)
  obtain ⟨f, hfid, hread⟩ := getOneFixtures_qrId_reachable parseUuid env nfc hreach hfirst
  rw [← hff] at hread
  rw [returnedLending_qrQuery parseUuid hread, returnedLending_idQuery parseUuid hparse,
    hfid, hid]

theorem returnedLending_qrId_eq_id_lentState :
    returnedLending parseItemX noFaults DateTime.unixEpoch "admin-token"
        (qrQuery lendingX.fixturesQrId) dayOne lentState =
      returnedLending parseItemX noFaults DateTime.unixEpoch "admin-token"
        (idQuery lendingX.fixturesId.toString) dayOne lentState :=
  returnedLending_qrId_eq_id parseItemX adminEnv (fun s => s) (reachable_lentState parseItemX)
    (l := lendingX) (by decide) (by decide) rfl (if_pos rfl) DateTime.unixEpoch "admin-token" dayOne

/-- **BY QR ID MAY MISS**: when the first row under a lending's QR id is
    another item's, returning by `qr_id` returns that item's lendings and
    leaves the lending in the table as it was, whatever the response. -/
theorem returnedLending_qrId_other {st : State} (hreach : Reachable parseUuid env nfc st)
    {l : Lending} (hl : l ∈ st.db.lending) {row : FixturesRow}
    (hfirst : fetchOptional (fun r => r.qrId = l.fixturesQrId) st.db.fixtures = some row)
    (hother : row.id ≠ l.fixturesId) {ff : Faults} (hff : ff 1 = false) {now : DateTime}
    {bearer : String} {returnedAt : DateTime} {r : ReturnData Unit} {st' : State}
    (h : returnedLending parseUuid ff now bearer (qrQuery l.fixturesQrId) returnedAt st =
      some (r, st')) :
    l ∈ st'.db.lending := by
  obtain ⟨f, hfid, hread⟩ := getOneFixtures_qrId_reachable parseUuid env nfc hreach hfirst
  rw [← hff] at hread
  rw [returnedLending_qrQuery parseUuid hread] at h
  refine withRole_preserves (fun s => l ∈ s.db.lending) hl (fun r st' hb => ?_) h
  rcases commitWrite_eq_some hb with ⟨_, -, -, rfl⟩ | ⟨t, hw, -, rfl⟩
  · exact hl
  · -- the `UPDATE` names the other item, and the frame keeps the lending
    have hne : l.fixturesId ≠ f.id := by
      rw [hfid]
      exact Ne.symm hother
    exact returnedLending_frame hw hl hne

/-- After a return by `qr_id` that read another item, the lending is still
    in the table, and `get_is_lending` by the lending's QR id still reports it
    lent. -/
theorem getIsLending_after_qrId_other {st : State} (hreach : Reachable parseUuid env nfc st)
    {l : Lending} (hl : l ∈ st.db.lending) (hact : l.active = true) {row : FixturesRow}
    (hfirst : fetchOptional (fun r => r.qrId = l.fixturesQrId) st.db.fixtures = some row)
    (hother : row.id ≠ l.fixturesId) {ff : Faults} (hff : ff 1 = false) {now : DateTime}
    {bearer : String} {returnedAt : DateTime} {r : ReturnData Unit} {st' : State}
    (h : returnedLending parseUuid ff now bearer (qrQuery l.fixturesQrId) returnedAt st =
      some (r, st'))
    {ff' : Faults} (hff' : ff' 0 = false) :
    l ∈ st'.db.lending ∧
      getIsLending parseUuid ff' (fixturesQrQuery l.fixturesQrId) st' =
        resultToHandler (.ok true) := by
  have hkept : l ∈ st'.db.lending :=
    returnedLending_qrId_other parseUuid env nfc hreach hl hfirst hother hff h
  exact ⟨hkept, getIsLending_of_active parseUuid hkept hact hff'⟩

end Reachable

/-- At `sharedQrState`, returning `lendingY` by its QR id reads `itemX`'s row,
    `lendingY` stays in the table, and `get_is_lending` by that QR id still
    answers that it is lent. -/
theorem getIsLending_after_qrId_other_sharedQr :
    ∃ r st', returnedLending parseItemX noFaults DateTime.unixEpoch "admin-token"
        (qrQuery lendingY.fixturesQrId) dayOne sharedQrState = some (r, st') ∧
      lendingY ∈ st'.db.lending ∧
      getIsLending parseItemX noFaults (fixturesQrQuery lendingY.fixturesQrId) st' =
        resultToHandler (.ok true) := by
  obtain ⟨r, st', h⟩ : ∃ r st', returnedLending parseItemX noFaults DateTime.unixEpoch
      "admin-token" (qrQuery lendingY.fixturesQrId) dayOne sharedQrState = some (r, st') :=
    ⟨_, _, rfl⟩
  have hfirst : fetchOptional (fun r => r.qrId = lendingY.fixturesQrId) sharedQrState.db.fixtures =
      some (FixturesRow.encode itemX) := by decide
  exact ⟨r, st', h, getIsLending_after_qrId_other parseItemX adminEnv (fun s => s)
    (reachable_sharedQrState parseItemX) (by decide) rfl hfirst (by decide) rfl h rfl⟩

section Panics

variable (parseUuid : String → Option Uuid) (env : String → Option String) (nfc : String → String)

/-- **ONLY `get_role` PANICS**: at every reachable server, a write request
    whose token `get_role` answers gets a response; the one other read on the
    way, `returned_lending`'s look-up by QR id, reads an encoded row. -/
theorem serve_isSome {st : State} (hreach : Reachable parseUuid env nfc st) {ff : Faults}
    {now : DateTime} {req : Request}
    (hrole : (getRole (ff 0) req.bearer now st.db.passtoken).isSome) :
    (serve parseUuid ff now st req).isSome := by
  have henc := rowsEncoded_reachable parseUuid env nfc hreach
  cases req with
  | insertFixtures _ _ | updateFixtures _ _ =>
      exact withRole_isSome hrole (writeThenIndex_isSome _ _ _)
  | deleteFixtures _ query =>
      refine withRole_isSome hrole ?_
      split
      · rfl
      · split
        · rfl
        · exact writeThenIndex_isSome _ _ _
  | insertLending _ _ | updateLending _ _ | insertSpot _ _ | updateSpot _ _
  | insertContainer _ _ =>
      exact withRole_isSome hrole (commitWrite_isSome _ _ _)
  | returnedLending _ query returnedAt =>
      refine withRole_isSome hrole ?_
      split
      · split
        · exact commitWrite_isSome _ _ _
        · rfl
      · split
        · -- the look-up by QR id does not panic
          rename_i hnone
          exact absurd hnone (Option.isSome_iff_ne_none.mp (getOneFixtures_isSome henc _ _))
        · rfl
        · exact commitWrite_isSome _ _ _
      · rfl
  | deleteSpot _ query =>
      refine withRole_isSome hrole ?_
      split
      · exact commitWrite_isSome _ _ _
      · rfl

end Panics

/-- At `lentState`, returning `itemX` by its QR id with the administrator's
    token gets a response: `get_role` grants the role, and the look-up by QR
    id reads `itemX`'s stored row. -/
theorem serve_isSome_lentState :
    getRole false "admin-token" DateTime.unixEpoch lentState.db.passtoken =
        some (.ok .administrator) ∧
      (serve parseItemX noFaults DateTime.unixEpoch lentState
        (.returnedLending "admin-token" (qrQuery "x234") dayOne)).isSome := by
  have hrole : getRole false "admin-token" DateTime.unixEpoch lentState.db.passtoken =
      some (.ok .administrator) := by decide
  exact ⟨hrole, serve_isSome parseItemX adminEnv (fun s => s) (reachable_lentState parseItemX)
    (by decide)⟩

/-- Returning `lendingY` by its QR id reads `itemX`, returns nothing, and
    answers success, while `lendingY` stays active. -/
theorem returnedLending_qrId_leaves_lent :
    Reachable parseItemX adminEnv (fun s => s) sharedQrState ∧
      lendingY ∈ sharedQrState.db.lending ∧ lendingY.active = true ∧
      (returnedLending parseItemX noFaults DateTime.unixEpoch "admin-token" (qrQuery "x234") dayOne
          sharedQrState).map (fun p => (p.1, decide (lendingY ∈ p.2.db.lending))) =
        some (resultToHandler (.ok ()), true) :=
  ⟨reachable_sharedQrState parseItemX, by decide, rfl, by decide⟩

end QrReturnByQr
