import Mathlib
import QrBackend.Database
import QrBackend.SearchEngine

/-! # The endpoints — `src/app.rs` and `src/app/*.rs`

    The server holds the database and the `fixtures` search index (`State`).
    Every endpoint that changes them takes a bearer token and opens the same
    way: `get_role` on the token (statement site `0`), then
    `Ok(Role::EquipmentManager) == role || Ok(Role::Administrator) == role`
    (`Ok(Role::Administrator) == role` for the two deletes), and otherwise the
    `Authorized` error.  That opening is one definition, `withRole`, applied
    by each handler to its own role test; a panic of `get_role` panics the
    handler (`none`).

    The three fixtures endpoints write the database (site `1`) and, only if
    that succeeds, the index, with no rollback: `writeThenIndex`.  The index
    write answers an error at site `2` and its task is not applied at site
    `3` (`QrBackend.SearchEngine`): the response is its answer, and the index
    is what its task left, whatever it answered.
    The other writes touch one table: `commitWrite`.  The read endpoints do not
    change the state and return only a response.

    The router's extractors stand in front: a JSON body arrives decoded, the
    query string is `HashMap::get` (`Query`), `Uuid::parse_str(..).ok()` is the
    argument `parseUuid` (the `uuid` crate), and `returned_lending` receives the
    router's `Utc::now()` as `returnedAt` while `get_role` reads the clock as
    `now`.  `serve` dispatches the ten write routes; `serveState` adds
    `gen_passtoken`, under the process environment `env` and the Unicode
    normalisation `nfc` (the `unicode-normalization` crate). -/

namespace QrApp

open Chrono QrModel QrErrorHandling QrAuthentication QrDatabase QrSearchEngine

/-- What the server keeps between requests. -/
structure State where
  db : Db
  index : Index Fixtures

/-- A freshly started server: migrated, empty database and empty index. -/
def State.empty : State :=
  { db := Db.empty, index := fun _ => none }

/-- A query string, read by `HashMap<String, String>::get`. -/
abbrev Query := String → Option String

/-! ## The shared shapes -/

/-- `Ok(Role::EquipmentManager) == role || Ok(Role::Administrator) == role`. -/
def managerOrAdmin (role : Except QrError Role) : Bool :=
  role == .ok .equipmentManager || role == .ok .administrator

/-- `Ok(Role::Administrator) == role`. -/
def adminOnly (role : Except QrError Role) : Bool :=
  role == .ok .administrator

/-- The opening of every state-changing handler: the `body` runs only when
    `get_role`'s answer passes `allowed`. -/
def withRole {T : Type} (allowed : Except QrError Role → Bool) (ff : Faults) (now : DateTime)
    (bearer : String) (st : State) (body : Option (ReturnData T × State)) :
    Option (ReturnData T × State) :=
  match getRole (ff 0) bearer now st.db.passtoken with
  | none => none
  | some role =>
      if allowed role then body else some (resultToHandler (.error .authorized), st)

/-- The database write of a fixtures handler, then — only when it succeeds —
    its index write, whose answer is the response and whose task leaves the
    index. -/
def writeThenIndex (dbWrite : Except QrError (List FixturesRow))
    (idxWrite : Index Fixtures → Except QrError Unit × Index Fixtures) (st : State) :
    Option (ReturnData Unit × State) :=
  match dbWrite with
  | .error e => some (resultToHandler (.error e), st)
  | .ok t =>
      let w := idxWrite st.index
      some (resultToHandler w.1, { db := { st.db with fixtures := t }, index := w.2 })

/-- A one-table write: on success the table is replaced by `set`. -/
def commitWrite {ρ : Type} (w : Except QrError (List ρ)) (set : List ρ → Db → Db)
    (st : State) : Option (ReturnData Unit × State) :=
  match w with
  | .error e => some (resultToHandler (.error e), st)
  | .ok t => some (resultToHandler (.ok ()), { st with db := set t st.db })

/-- Replace the lending table. -/
def Db.setLending (t : List Lending) (db : Db) : Db := { db with lending := t }

/-- Replace the spot table. -/
def Db.setSpot (t : List SpotRow) (db : Db) : Db := { db with spot := t }

/-- Replace the container table. -/
def Db.setContainer (t : List ContainerRow) (db : Db) : Db := { db with container := t }

/-! ## The shared shapes, by their outcomes -/

section Shapes

variable {T : Type} {r : ReturnData T} {st st' : State}

/-- **GATE**: a handler behind `withRole` answers `get_role`'s role: its body
    when the role passes, else the `Authorized` error with the state as it was. -/
theorem withRole_eq_some {allowed : Except QrError Role → Bool} {ff : Faults} {now : DateTime}
    {bearer : String} {body : Option (ReturnData T × State)}
    (h : withRole allowed ff now bearer st body = some (r, st')) :
    ∃ role, getRole (ff 0) bearer now st.db.passtoken = some role ∧
      ((allowed role = true ∧ body = some (r, st')) ∨
        (allowed role = false ∧ r = resultToHandler (.error .authorized) ∧ st' = st)) := by
  unfold withRole at h
  cases hrole : getRole (ff 0) bearer now st.db.passtoken with
  | none =>
      rw [hrole] at h
      nomatch h
  | some role =>
      simp only [hrole] at h
      refine ⟨role, rfl, ?_⟩
      cases hallowed : allowed role with
      | true =>
          rw [hallowed, if_pos rfl] at h
          exact Or.inl ⟨rfl, h⟩
      | false =>
          rw [hallowed, if_neg Bool.false_ne_true] at h
          obtain ⟨rfl, rfl⟩ := Prod.mk.inj (Option.some.inj h)
          exact Or.inr ⟨rfl, rfl, rfl⟩

/-- A one-table write answers the statement's error with the state as it
    was, or success with the written table stored. -/
theorem commitWrite_eq_some {ρ : Type} {w : Except QrError (List ρ)} {set : List ρ → Db → Db}
    {r : ReturnData Unit} (h : commitWrite w set st = some (r, st')) :
    (∃ e, w = .error e ∧ r = resultToHandler (.error e) ∧ st' = st) ∨
      ∃ t, w = .ok t ∧ r = resultToHandler (.ok ()) ∧ st' = { st with db := set t st.db } := by
  unfold commitWrite at h
  cases w with
  | error e =>
      obtain ⟨rfl, rfl⟩ := Prod.mk.inj (Option.some.inj h)
      exact Or.inl ⟨e, rfl, rfl, rfl⟩
  | ok t =>
      obtain ⟨rfl, rfl⟩ := Prod.mk.inj (Option.some.inj h)
      exact Or.inr ⟨t, rfl, rfl, rfl⟩

/-- **TWO PHASES**: a fixtures write answers the database's error with the
    state as it was; else it stores the written table and the index its index
    write left, and answers what the index write answered. -/
theorem writeThenIndex_eq_some {dbWrite : Except QrError (List FixturesRow)}
    {idxWrite : Index Fixtures → Except QrError Unit × Index Fixtures} {r : ReturnData Unit}
    (h : writeThenIndex dbWrite idxWrite st = some (r, st')) :
    (∃ e, dbWrite = .error e ∧ r = resultToHandler (.error e) ∧ st' = st) ∨
      ∃ t, dbWrite = .ok t ∧ r = resultToHandler (idxWrite st.index).1 ∧
        st' = { db := { st.db with fixtures := t }, index := (idxWrite st.index).2 } := by
  unfold writeThenIndex at h
  cases dbWrite with
  | error e =>
      obtain ⟨rfl, rfl⟩ := Prod.mk.inj (Option.some.inj h)
      exact Or.inl ⟨e, rfl, rfl, rfl⟩
  | ok t =>
      obtain ⟨rfl, rfl⟩ := Prod.mk.inj (Option.some.inj h)
      exact Or.inr ⟨t, rfl, rfl, rfl⟩

/-- Past an answering `get_role`, a handler panics only where its body does. -/
theorem withRole_isSome {allowed : Except QrError Role → Bool} {ff : Faults} {now : DateTime}
    {bearer : String} {body : Option (ReturnData T × State)}
    (hrole : (getRole (ff 0) bearer now st.db.passtoken).isSome) (hbody : body.isSome) :
    (withRole allowed ff now bearer st body).isSome := by
  obtain ⟨role, hr⟩ := Option.isSome_iff_exists.mp hrole
  unfold withRole
  simp only [hr]
  cases hallowed : allowed role with
  | true =>
      rw [if_pos rfl]
      exact hbody
  | false =>
      rw [if_neg Bool.false_ne_true]
      rfl

theorem writeThenIndex_isSome (dbWrite : Except QrError (List FixturesRow))
    (idxWrite : Index Fixtures → Except QrError Unit × Index Fixtures) (st : State) :
    (writeThenIndex dbWrite idxWrite st).isSome := by
  cases dbWrite <;> rfl

theorem commitWrite_isSome {ρ : Type} (w : Except QrError (List ρ)) (set : List ρ → Db → Db)
    (st : State) : (commitWrite w set st).isSome := by
  cases w <;> rfl

/-- What every outcome of a handler's body has, and the `Authorized` refusal
    with the state as it was has, every outcome behind the role gate has. -/
theorem withRole_outcome (Q : ReturnData T → State → Prop) {allowed : Except QrError Role → Bool}
    {ff : Faults} {now : DateTime} {bearer : String} {body : Option (ReturnData T × State)}
    (hdeny : Q (resultToHandler (.error .authorized)) st)
    (hbody : ∀ r st', body = some (r, st') → Q r st')
    (h : withRole allowed ff now bearer st body = some (r, st')) : Q r st' := by
  obtain ⟨_, -, ⟨-, hb⟩ | ⟨-, rfl, rfl⟩⟩ := withRole_eq_some h
  · exact hbody r st' hb
  · exact hdeny

/-- What a handler's body keeps is kept behind the role gate, which otherwise
    leaves the state as it was. -/
theorem withRole_preserves (P : State → Prop) {allowed : Except QrError Role → Bool}
    {ff : Faults} {now : DateTime} {bearer : String} {body : Option (ReturnData T × State)}
    (hst : P st) (hbody : ∀ r st', body = some (r, st') → P st')
    (h : withRole allowed ff now bearer st body = some (r, st')) : P st' :=
  withRole_outcome (fun _ s => P s) hst hbody h

end Shapes

section Handlers

variable (parseUuid : String → Option Uuid)

/-! ## `app/fixtures.rs` -/

/-- `insert_fixtures`. -/
def insertFixtures (ff : Faults) (now : DateTime) (bearer : String) (fixtures : Fixtures)
    (st : State) : Option (ReturnData Unit × State) :=
  withRole managerOrAdmin ff now bearer st <|
    writeThenIndex (QrDatabase.insertFixtures (ff 1) fixtures st.db.fixtures)
      (SearchFixtures.addOrReplace (ff 2) (ff 3) [fixtures]) st

/-- `update_fixtures`. -/
def updateFixtures (ff : Faults) (now : DateTime) (bearer : String) (fixtures : Fixtures)
    (st : State) : Option (ReturnData Unit × State) :=
  withRole managerOrAdmin ff now bearer st <|
    writeThenIndex (QrDatabase.updateFixtures (ff 1) fixtures st.db.fixtures)
      (SearchFixtures.addOrReplace (ff 2) (ff 3) [fixtures]) st

/-- `delete_fixtures`: administrators only; the id comes from the query. -/
def deleteFixtures (ff : Faults) (now : DateTime) (bearer : String) (query : Query)
    (st : State) : Option (ReturnData Unit × State) :=
  withRole adminOnly ff now bearer st <|
    match query "id" with
    | none => some (resultToHandler (.error (.urlQuery "id")), st)
    | some id =>
        match parseUuid id with
        | none => some (resultToHandler (.error (.brokenUuid id)), st)
        | some uuid =>
            writeThenIndex (QrDatabase.deleteFixtures (ff 1) uuid st.db.fixtures)
              (SearchFixtures.delete (ff 2) (ff 3) [uuid]) st

/-- `get_fixtures`: by `id`, else by `qr_id`. -/
def getFixtures (ff : Faults) (query : Query) (st : State) : Option (ReturnData Fixtures) :=
  match query "id", query "qr_id" with
  | some id, _ =>
      match parseUuid id with
      | some uuid => (getOneFixtures (ff 0) (.fixturesId uuid) st.db.fixtures).map resultToHandler
      | none => some (resultToHandler (.error (.brokenUuid id)))
  | none, some qrId => (getOneFixtures (ff 0) (.qrId qrId) st.db.fixtures).map resultToHandler
  | none, none => some (resultToHandler (.error (.urlQuery "qr_id, id")))

/-- `search_fixtures`: the keywords split at `,`. -/
def searchFixtures (engine : Engine Fixtures) (keywordsStr : String) :
    ReturnData (List (SearchResult Fixtures)) :=
  resultToHandler (SearchFixtures.search engine (keywordsStr.splitOn ","))

/-! ## `app/lending.rs` -/

/-- `insert_lending`. -/
def insertLending (ff : Faults) (now : DateTime) (bearer : String) (lending : Lending)
    (st : State) : Option (ReturnData Unit × State) :=
  withRole managerOrAdmin ff now bearer st <|
    commitWrite (QrDatabase.insertLending (ff 1) (ff 2) (ff 3) lending st.db.lending)
      Db.setLending st

/-- `update_lending`. -/
def updateLending (ff : Faults) (now : DateTime) (bearer : String) (lending : Lending)
    (st : State) : Option (ReturnData Unit × State) :=
  withRole managerOrAdmin ff now bearer st <|
    commitWrite (QrDatabase.updateLending (ff 1) lending st.db.lending) Db.setLending st

/-- `returned_lending`: by fixture `id`, or by `qr_id` resolved through the
    fixtures table (`get_one_fixtures`, site `1`); the `UPDATE` is site `2`. -/
def returnedLending (ff : Faults) (now : DateTime) (bearer : String) (query : Query)
    (returnedAt : DateTime) (st : State) : Option (ReturnData Unit × State) :=
  withRole managerOrAdmin ff now bearer st <|
    match query "id", query "qr_id" with
    | some id, _ =>
        match parseUuid id with
        | some uuid =>
            commitWrite (QrDatabase.returnedLending (ff 2) uuid returnedAt st.db.lending)
              Db.setLending st
        | none => some (resultToHandler (.error (.brokenUuid id)), st)
    | none, some qrId =>
        match getOneFixtures (ff 1) (.qrId qrId) st.db.fixtures with
        | none => none
        | some (.error e) => some (resultToHandler (.error e), st)
        | some (.ok fixtures) =>
            commitWrite (QrDatabase.returnedLending (ff 2) fixtures.id returnedAt st.db.lending)
              Db.setLending st
    | none, none => some (resultToHandler (.error (.urlQuery "qr_id, id")), st)

/-- `get_lending_list`. -/
def getLendingList (ff : Faults) (st : State) : ReturnData (List Lending) :=
  resultToHandler (QrDatabase.getLendingList (ff 0) st.db.lending)

/-- The lending a query names: `lending_id`, else `fixtures_id`, else
    `fixtures_qr_id`, parsed; the error when it names none or a bad uuid. -/
def lendingKey (query : Query) : Except QrError GetOneLending.IdType :=
  match query "lending_id", query "fixtures_id", query "fixtures_qr_id" with
  | some lendingId, _, _ =>
      match parseUuid lendingId with
      | some uuid => .ok (.lendingId uuid)
      | none => .error (.brokenUuid lendingId)
  | none, some fixturesId, _ =>
      match parseUuid fixturesId with
      | some uuid => .ok (.fixturesId uuid)
      | none => .error (.brokenUuid fixturesId)
  | none, none, some qrId => .ok (.qrId qrId)
  | none, none, none => .error (.urlQuery "lending_id, fixtures_id, fixtures_qr_id")

/-- `get_one_lending` (the endpoint). -/
def getOneLending (ff : Faults) (query : Query) (st : State) : ReturnData Lending :=
  match lendingKey parseUuid query with
  | .error e => resultToHandler (.error e)
  | .ok id => resultToHandler (QrDatabase.getOneLending (ff 0) id st.db.lending)

/-- `get_is_lending`: `DatabaseNotFound` reads as `false`. -/
def getIsLending (ff : Faults) (query : Query) (st : State) : ReturnData Bool :=
  match lendingKey parseUuid query with
  | .error e => resultToHandler (.error e)
  | .ok id =>
      match QrDatabase.getOneLending (ff 0) id st.db.lending with
      | .ok _ => resultToHandler (.ok true)
      | .error (.databaseNotFound _) => resultToHandler (.ok false)
      | .error e => resultToHandler (.error e)

/-! ## `app/spot.rs` and `app/container.rs` -/

/-- `insert_spot`. -/
def insertSpot (ff : Faults) (now : DateTime) (bearer : String) (spot : Spot) (st : State) :
    Option (ReturnData Unit × State) :=
  withRole managerOrAdmin ff now bearer st <|
    commitWrite (QrDatabase.insertSpot (ff 1) spot st.db.spot) Db.setSpot st

/-- `update_spot`. -/
def updateSpot (ff : Faults) (now : DateTime) (bearer : String) (spot : Spot) (st : State) :
    Option (ReturnData Unit × State) :=
  withRole managerOrAdmin ff now bearer st <|
    commitWrite (QrDatabase.updateSpot (ff 1) spot st.db.spot) Db.setSpot st

/-- `get_one_spot` (the endpoint). -/
def getOneSpot (ff : Faults) (query : Query) (st : State) : Option (ReturnData Spot) :=
  match query "name" with
  | some name => (QrDatabase.getOneSpot (ff 0) name st.db.spot).map resultToHandler
  | none => some (resultToHandler (.error (.urlQuery "name")))

/-- `get_spot_list` (the endpoint). -/
def getSpotList (ff : Faults) (st : State) : Option (ReturnData (List Spot)) :=
  (QrDatabase.getSpotList (ff 0) st.db.spot).map resultToHandler

/-- `delte_spot`: administrators only. -/
def delteSpot (ff : Faults) (now : DateTime) (bearer : String) (query : Query) (st : State) :
    Option (ReturnData Unit × State) :=
  withRole adminOnly ff now bearer st <|
    match query "name" with
    | some name => commitWrite (QrDatabase.deleteSpot (ff 1) name st.db.spot) Db.setSpot st
    | none => some (resultToHandler (.error (.urlQuery "name")), st)

/-- `insert_container`. -/
def insertContainer (ff : Faults) (now : DateTime) (bearer : String) (container : Container)
    (st : State) : Option (ReturnData Unit × State) :=
  withRole managerOrAdmin ff now bearer st <|
    commitWrite (QrDatabase.insertContainer (ff 1) container st.db.container)
      Db.setContainer st

/-! ## `app/authentication.rs` -/

/-- `gen_passtoken` (the endpoint's body): the Basic user name must be a role
    name; the token is issued and stored (site `0`). -/
def genPasstoken (env : String → Option String) (nfc : String → String) (token : String)
    (now : DateTime) (ff : Faults) (username password : String) (st : State) :
    Except QrError String × State :=
  match strToRoleOpt username with
  | none => (.error .authorized, st)
  | some role =>
      match QrAuthentication.genPasstoken env nfc token now role password with
      | .error e => (.error e, st)
      | .ok passtoken =>
          match insertPasstoken (ff 0) passtoken st.db.passtoken with
          | .error e => (.error e, st)
          | .ok t => (.ok passtoken.token, { st with db := { st.db with passtoken := t } })

/-- `gen_passtoken` stores at most a pass token: the state is as it was, or
    its passtoken table is the one `insert_passtoken` wrote. -/
theorem genPasstoken_state (env : String → Option String) (nfc : String → String)
    (token : String) (now : DateTime) (ff : Faults) (username password : String) (st : State) :
    (genPasstoken env nfc token now ff username password st).2 = st ∨
      ∃ passtoken t, insertPasstoken (ff 0) passtoken st.db.passtoken = .ok t ∧
        (genPasstoken env nfc token now ff username password st).2 =
          { st with db := { st.db with passtoken := t } } := by
  unfold genPasstoken
  split
  · exact Or.inl rfl
  · split
    · exact Or.inl rfl
    · split
      · exact Or.inl rfl
      · rename_i t hins
        exact Or.inr ⟨_, t, hins, rfl⟩

/-- `api_gen_passtoken`. -/
def apiGenPasstoken (env : String → Option String) (nfc : String → String) (token : String)
    (now : DateTime) (ff : Faults) (username password : String) (st : State) :
    ReturnData String × State :=
  let r := genPasstoken env nfc token now ff username password st
  (resultToHandler r.1, r.2)

/-! ## The router -/

/-- A request to one of the ten state-changing routes, as the extractors hand
    it over. -/
inductive Request where
  | insertFixtures (bearer : String) (body : Fixtures)
  | updateFixtures (bearer : String) (body : Fixtures)
  | deleteFixtures (bearer : String) (query : Query)
  | insertLending (bearer : String) (body : Lending)
  | updateLending (bearer : String) (body : Lending)
  | returnedLending (bearer : String) (query : Query) (returnedAt : DateTime)
  | insertSpot (bearer : String) (body : Spot)
  | updateSpot (bearer : String) (body : Spot)
  | deleteSpot (bearer : String) (query : Query)
  | insertContainer (bearer : String) (body : Container)

/-- The bearer token of a request. -/
def Request.bearer : Request → String
  | .insertFixtures b _ | .updateFixtures b _ | .deleteFixtures b _ | .insertLending b _
  | .updateLending b _ | .returnedLending b _ _ | .insertSpot b _ | .updateSpot b _
  | .deleteSpot b _ | .insertContainer b _ => b

/-- The routes only administrators may use. -/
def Request.adminOnly : Request → Bool
  | .deleteFixtures _ _ | .deleteSpot _ _ => true
  | _ => false

/-- Serve one request. -/
def serve (ff : Faults) (now : DateTime) (st : State) : Request → Option (ReturnData Unit × State)
  | .insertFixtures bearer body => insertFixtures ff now bearer body st
  | .updateFixtures bearer body => updateFixtures ff now bearer body st
  | .deleteFixtures bearer query => deleteFixtures parseUuid ff now bearer query st
  | .insertLending bearer body => insertLending ff now bearer body st
  | .updateLending bearer body => updateLending ff now bearer body st
  | .returnedLending bearer query returnedAt =>
      returnedLending parseUuid ff now bearer query returnedAt st
  | .insertSpot bearer body => insertSpot ff now bearer body st
  | .updateSpot bearer body => updateSpot ff now bearer body st
  | .deleteSpot bearer query => delteSpot ff now bearer query st
  | .insertContainer bearer body => insertContainer ff now bearer body st

/-- An input that changes the server's state: a request to one of the ten
    write routes, or a call of `api_gen_passtoken` with its Basic credentials
    and the token `gen_token` drew. -/
inductive Input where
  | request (req : Request)
  | genPasstoken (username password token : String)

variable (env : String → Option String) (nfc : String → String)

/-- The state after one input.  A panic aborts the request before any write,
    so it leaves the state as it was. -/
def serveState (ff : Faults) (now : DateTime) (st : State) : Input → State
  | .request req =>
      match serve parseUuid ff now st req with
      | none => st
      | some r => r.2
  | .genPasstoken username password token =>
      (apiGenPasstoken env nfc token now ff username password st).2

/-- The states a server reaches from a fresh start, input after input. -/
inductive Reachable : State → Prop where
  | init : Reachable State.empty
  | step {st : State} (ff : Faults) (now : DateTime) (input : Input) :
      Reachable st → Reachable (serveState parseUuid env nfc ff now st input)

/-- What holds of a fresh server and every input keeps holds at every
    reachable server. -/
theorem Reachable.invariant (P : State → Prop) (hinit : P State.empty)
    (hstep : ∀ ff now input st, P st → P (serveState parseUuid env nfc ff now st input))
    {st : State} (h : Reachable parseUuid env nfc st) : P st := by
  induction h with
  | init => exact hinit
  | step ff now input _ ih => exact hstep ff now input _ ih

end Handlers

end QrApp
