import Mathlib
import QrBackend.Validity

/-! # What a response tells the client — `result_to_handler` on the write routes

    A write route answers `200` with `ok: true`, or an error with `ok: false`
    and the error's `error_type`.

    A client that reads `ok: true` learns that its bearer token is a pass
    token the server issued, valid at the request's instant, of a role the
    route lets through (`serve_ok_token`).

    A client that reads `ok: false` learns that nothing changed, with one
    exception that the response names: a fixtures endpoint whose database
    write went through and whose index call then answered an error answers
    `SearchEngineAddOrReplace` or `SearchEngineDelete`, and keeps the written
    fixtures table, since nothing rolls it back; the index is as the call's
    task left it, which may have been applied all the same (a wait that timed
    out), at the one item it names (`serve_error_leaves`,
    `insertFixtures_index_fails_keeps_row`). -/

namespace QrResponses

open Chrono QrModel QrErrorHandling QrAuthentication QrDatabase QrSearchEngine QrApp QrAccess
open QrValidity QrIndexSync QrReturnByQr QrRoundTrip

/-- What an index call that answered an error may have left: its error
    names the upsert and the index is as it was or has one document
    upserted, or it names the delete and the index is as it was or has one
    key cleared. -/
def FailedIndexWrite (r : ReturnData Unit) (idx idx' : Index Fixtures) : Prop :=
  r.2.errorType = some "SearchEngineAddOrReplace" ∧
      (idx' = idx ∨ ∃ f : Fixtures, idx' = Function.update idx f.id (some f)) ∨
    r.2.errorType = some "SearchEngineDelete" ∧
      (idx' = idx ∨ ∃ id, idx' = Function.update idx id none)

/-- What an error answer may leave behind: the state as it was, or, after an
    index call that answered the search engine's error, the database with its
    fixtures table written and the index as that call's task left it. -/
def ErrorLeaves (st : State) (r : ReturnData Unit) (st' : State) : Prop :=
  st' = st ∨
    st'.db = { st.db with fixtures := st'.db.fixtures } ∧ FailedIndexWrite r st.index st'.index

/-! ## The shared shapes -/

section Shapes

variable {st st' : State} {r : ReturnData Unit}

/-- A one-table write that answers an error wrote nothing. -/
theorem commitWrite_error {ρ : Type} {w : Except QrError (List ρ)} {set : List ρ → Db → Db}
    (h : commitWrite w set st = some (r, st')) (herr : r.2.ok = false) : st' = st := by
  rcases commitWrite_eq_some h with ⟨_, -, -, rfl⟩ | ⟨_, -, rfl, -⟩
  · rfl
  · exact Bool.noConfusion herr

/-- An upsert of one document that answers an error leaves the index as it
    was or with the document upserted. -/
theorem addOrReplace_failed {fail taskFails : Bool} (f : Fixtures) (idx : Index Fixtures)
    (herr : (resultToHandler (SearchFixtures.addOrReplace fail taskFails [f] idx).1).2.ok = false) :
    FailedIndexWrite (resultToHandler (SearchFixtures.addOrReplace fail taskFails [f] idx).1) idx
      (SearchFixtures.addOrReplace fail taskFails [f] idx).2 := by
  cases fail
  · exact absurd herr (by simp)
  · left
    refine ⟨rfl, ?_⟩
    cases taskFails
    · exact Or.inr ⟨f, rfl⟩
    · exact Or.inl rfl

/-- A delete of one key that answers an error leaves the index as it was or
    with the key cleared. -/
theorem delete_failed {fail taskFails : Bool} (k : Uuid) (idx : Index Fixtures)
    (herr : (resultToHandler (SearchFixtures.delete fail taskFails [k] idx).1).2.ok = false) :
    FailedIndexWrite (resultToHandler (SearchFixtures.delete fail taskFails [k] idx).1) idx
      (SearchFixtures.delete fail taskFails [k] idx).2 := by
  cases fail
  · exact absurd herr (by simp)
  · right
    refine ⟨rfl, ?_⟩
    cases taskFails
    · exact Or.inr ⟨k, rfl⟩
    · exact Or.inl rfl

/-- A fixtures write that answers an error wrote nothing, or wrote the
    database and then had its index call answer an error, which it reports,
    with the index as that call left it. -/
theorem writeThenIndex_error {dbWrite : Except QrError (List FixturesRow)}
    {idxWrite : Index Fixtures → Except QrError Unit × Index Fixtures}
    (hidx : (resultToHandler (idxWrite st.index).1).2.ok = false →
      FailedIndexWrite (resultToHandler (idxWrite st.index).1) st.index (idxWrite st.index).2)
    (h : writeThenIndex dbWrite idxWrite st = some (r, st')) (herr : r.2.ok = false) :
    ErrorLeaves st r st' := by
  rcases writeThenIndex_eq_some h with ⟨_, -, -, rfl⟩ | ⟨t, -, rfl, rfl⟩
  · exact Or.inl rfl
  · -- the database write stays; the response names the index call
    exact Or.inr ⟨rfl, hidx herr⟩

end Shapes

/-! ## Every write route -/

section Server

variable (parseUuid : String → Option Uuid)

/-- **AN ERROR LEAVES NOTHING BUT AN UN-INDEXED WRITE**: a write request
    that answers an error leaves the state as it was, except after a failed
    index write, which the response reports and which leaves the written
    fixtures table. -/
theorem serve_error_leaves {ff : Faults} {now : DateTime} {st st' : State} {req : Request}
    {r : ReturnData Unit} (h : serve parseUuid ff now st req = some (r, st'))
    (herr : r.2.ok = false) : ErrorLeaves st r st' := by
  let Q : ReturnData Unit → State → Prop := fun r st' => r.2.ok = false → ErrorLeaves st r st'
  have hsame : ∀ r, Q r st := fun _ _ => Or.inl rfl
  -- a one-table write leaves the state as it was
  have hcommit : ∀ {ρ : Type} {w : Except QrError (List ρ)} {set : List ρ → Db → Db} {r st'},
      commitWrite w set st = some (r, st') → Q r st' :=
    fun hb herr => Or.inl (commitWrite_error hb herr)
  cases req with
  | insertFixtures _ body | updateFixtures _ body =>
      refine withRole_outcome Q (hsame _) (fun _ _ hb => ?_) h herr
      exact writeThenIndex_error (addOrReplace_failed body st.index) hb
  | insertLending _ _ | updateLending _ _ | insertSpot _ _ | updateSpot _ _
  | insertContainer _ _ =>
      exact withRole_outcome Q (hsame _) (fun _ _ hb => hcommit hb) h herr
  | deleteFixtures _ _ =>
      refine withRole_outcome Q (hsame _) (fun _ _ hb => ?_) h herr
      -- a missing or broken id answers with the state as it was
      split at hb
      · cases hb
        exact hsame _
      · split at hb
        · cases hb
          exact hsame _
        · rename_i uuid _
          exact writeThenIndex_error (delete_failed uuid st.index) hb
  | returnedLending _ _ _ =>
      refine withRole_outcome Q (hsame _) (fun _ _ hb => ?_) h herr
      -- by id, by QR id through `get_one_fixtures`, or neither
      split at hb
      · split at hb
        · exact hcommit hb
        · cases hb
          exact hsame _
      · split at hb
        · nomatch hb
        · cases hb
          exact hsame _
        · exact hcommit hb
      · cases hb
        exact hsame _
  | deleteSpot _ _ =>
      refine withRole_outcome Q (hsame _) (fun _ _ hb => ?_) h herr
      -- a missing name answers with the state as it was
      split at hb
      · exact hcommit hb
      · cases hb
        exact hsame _

/-- **SUCCESS MEANS A GRANTED ROLE**: a write request that answers success
    had `get_role` grant its token an administrator's role, or an equipment
    manager's on a route other than the two deletes. -/
theorem serve_ok_granted {ff : Faults} {now : DateTime} {st st' : State} {req : Request}
    {r : ReturnData Unit} (h : serve parseUuid ff now st req = some (r, st'))
    (hok : r.2.ok = true) :
    ∃ role, getRole (ff 0) req.bearer now st.db.passtoken = some (.ok role) ∧
      (role = .administrator ∨ (req.adminOnly = false ∧ role = .equipmentManager)) := by
  obtain ⟨body, hb⟩ := serve_eq_withRole parseUuid ff now st req
  rw [hb] at h
  obtain ⟨answer, hrole, ⟨hallowed, -⟩ | ⟨-, rfl, -⟩⟩ := withRole_eq_some h
  · -- the route's test passes only an `Ok` of an allowed role
    rcases allowedRoles_eq_true.mp hallowed with rfl | ⟨hadmin, rfl⟩
    · exact ⟨.administrator, hrole, Or.inl rfl⟩
    · exact ⟨.equipmentManager, hrole, Or.inr ⟨hadmin, rfl⟩⟩
  · exact absurd hok Bool.false_ne_true

variable (env : String → Option String) (nfc : String → String)

/-- **ONLY A VALID TOKEN OF AN ALLOWED ROLE WRITES**: at every reachable
    server, a write request that answers success carries the token of a pass
    token the server issued and stores, valid at the request's instant, of an
    administrator, or of an equipment manager on a route other than the two
    deletes. -/
theorem serve_ok_token {ff : Faults} {now : DateTime} {st st' : State} {req : Request}
    {r : ReturnData Unit} (hreach : Reachable parseUuid env nfc st)
    (h : serve parseUuid ff now st req = some (r, st')) (hok : r.2.ok = true) :
    ∃ p, PasstokenRow.encode p ∈ st.db.passtoken ∧ p.token = req.bearer ∧
      p.checkValid now = some true ∧
      (p.role = .administrator ∨ (req.adminOnly = false ∧ p.role = .equipmentManager)) := by
  obtain ⟨role, hrole, hallowed⟩ := serve_ok_granted parseUuid h hok
  obtain ⟨-, row, p, hrow, hdec, hvalid, rfl⟩ := getRole_eq_ok.mp hrole
  obtain ⟨hmem, htoken⟩ := Table.fetchOptional_mem hrow
  -- the row was issued, so it is the encoding of the token it decodes to
  obtain ⟨token, createdAt, role', limit, rfl⟩ := issued_reachable parseUuid env nfc hreach row hmem
  rw [PasstokenRow.decode_encode, Option.some.injEq] at hdec
  subst hdec
  exact ⟨_, hmem, of_decide_eq_true htoken, hvalid, hallowed⟩

end Server

/-- At `lentState`, the administrator's `insert_spot` answers success, and
    its token is the stored, valid administrator token. -/
theorem serve_ok_token_lentState :
    ∃ r st', serve (fun _ => none) noFaults DateTime.unixEpoch lentState
        (.insertSpot "admin-token" kasugaSpot) = some (r, st') ∧ r.2.ok = true ∧
      ∃ p, PasstokenRow.encode p ∈ lentState.db.passtoken ∧
        p.token = (Request.insertSpot "admin-token" kasugaSpot).bearer ∧
        p.checkValid DateTime.unixEpoch = some true ∧
        (p.role = .administrator ∨
          ((Request.insertSpot "admin-token" kasugaSpot).adminOnly = false ∧
            p.role = .equipmentManager)) := by
  obtain ⟨r, st', h, hok⟩ : ∃ r st', serve (fun _ => none) noFaults DateTime.unixEpoch lentState
      (.insertSpot "admin-token" kasugaSpot) = some (r, st') ∧ r.2.ok = true :=
    ⟨_, _, rfl, rfl⟩
  exact ⟨r, st', h, hok,
    serve_ok_token (fun _ => none) adminEnv (fun s => s) (reachable_lentState _) h hok⟩

/-! ## The write the error does not undo -/

/-- The index call of `insert_fixtures` answers an error (site `2`) while its
    task is applied (site `3` answers): a wait that timed out. -/
def indexFails : Faults := fun i => i == 2

/-- With its index call answering an error, `insert_fixtures` answers
    `SearchEngineAddOrReplace`, keeps the item's row, and the index holds the
    item all the same: an error answer that leaves a change. -/
theorem insertFixtures_index_fails_keeps_row :
    ∃ r st', serve (fun _ => none) indexFails DateTime.unixEpoch adminState
        (.insertFixtures "admin-token" itemX) = some (r, st') ∧
      r.2.ok = false ∧ r.2.errorType = some "SearchEngineAddOrReplace" ∧
      FixturesRow.encode itemX ∈ st'.db.fixtures ∧ st'.index itemX.id = some itemX :=
  ⟨_, _, rfl, rfl, rfl, by decide, by decide⟩

theorem serve_error_leaves_indexFails :
    ∃ r st', serve (fun _ => none) indexFails DateTime.unixEpoch adminState
        (.insertFixtures "admin-token" itemX) = some (r, st') ∧ r.2.ok = false ∧
      ErrorLeaves adminState r st' := by
  obtain ⟨r, st', h, herr, -⟩ := insertFixtures_index_fails_keeps_row
  exact ⟨r, st', h, herr, serve_error_leaves _ h herr⟩

end QrResponses
