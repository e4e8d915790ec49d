import Mathlib
import QrBackend.PrimaryKeys
import QrBackend.ReturnByQr
import QrBackend.Access

/-! # The tables as keyed stores — what `src/database/` is for

    Read through its primary key, each table is a store: under each key, the
    row a look-up by that key finds (`Table.readBack`).  This module states
    what each call of `src/database/` does to those stores (`Store.apply`), in
    the stores' own terms: an insert fills a free key, an update rewrites what
    its key holds, a delete frees its key, `returned_lending` closes every
    lending of the item, and `insert_lending` first asks the lending store
    whether an active lending holds the item.  A failed statement, a taken key
    or an item found lent changes nothing.

    Every call of the list model refines its store operation
    (`storeOf_apply`).  Most statements do so whatever rows the table holds;
    the look-ups of `insert_lending` are not by the key, and see every row
    through the store only because lending ids are unique (`PrimaryKeys`).  By
    the simulation rule, every run of calls refines the run of the store
    operations (`storeOf_run`).

    A served input makes its own call (`Input.dbCall`): a write request whose
    token passes its route's test makes the call of its route, on its body,
    its id or name, or the item its QR id finds, at the handler's sites; any
    other input makes none.  Each input changes the store as its own call's
    operation does (`storeOf_serveState`), and so every run of inputs from a
    reachable server changes it as the operations of the calls its inputs
    make, in order (`storeOf_serveRun`). -/

namespace QrKeyedStore

open Chrono QrModel QrErrorHandling QrAuthentication QrDatabase Table Runs QrLending QrApp
open QrSearchEngine QrRefinement QrPrimaryKeys QrReturnByQr QrAccess QrIndexSync

/-- The database as its primary keys show it. -/
@[ext]
structure Store where
  fixtures : Uuid → Option FixturesRow
  spot : String → Option SpotRow
  lending : Uuid → Option Lending
  container : Uuid → Option ContainerRow

/-- The store of the migrated, empty database. -/
def Store.empty : Store :=
  ⟨fun _ => none, fun _ => none, fun _ => none, fun _ => none⟩

/-- What the database holds under each primary key. -/
def storeOf (db : Db) : Store :=
  ⟨readBack FixturesRow.id db.fixtures, readBack SpotRow.name db.spot,
    readBack Lending.id db.lending, readBack ContainerRow.id db.container⟩

/-- Some active lending of the store holds the item, by item id. -/
def Store.lentById (s : Store) (id : Uuid) : Prop :=
  ∃ k l, s.lending k = some l ∧ activeFixturesId l = some id

/-- Some active lending of the store holds the item, by QR id. -/
def Store.lentByQr (s : Store) (qrId : String) : Prop :=
  ∃ k l, s.lending k = some l ∧ activeQrId l = some qrId

open Classical in
/-- What each call of `src/database/` does to the keyed store, at its fault
    pattern. -/
noncomputable def Store.apply (ff : Faults) (s : Store) : DbOp → Store
  | .insertFixtures info =>
      { s with fixtures := insertAt (ff 0) info.id (FixturesRow.encode info.stored) s.fixtures }
  | .updateFixtures info =>
      { s with
        fixtures := updateAt (ff 0) info.id (fun _ => FixturesRow.encode info.stored) s.fixtures }
  | .deleteFixtures uuid => { s with fixtures := deleteAt (ff 0) uuid s.fixtures }
  | .insertSpot info => { s with spot := insertAt (ff 0) info.name (SpotRow.encode info) s.spot }
  | .updateSpot info =>
      { s with spot := updateAt (ff 0) info.name (fun _ => SpotRow.encode info) s.spot }
  | .deleteSpot name => { s with spot := deleteAt (ff 0) name s.spot }
  | .insertLending info =>
      -- a failed look-up reads as "not lent"
      { s with lending :=
          if ¬ (ff 0 = false ∧ s.lentById info.fixturesId) ∧
              ¬ (ff 1 = false ∧ s.lentByQr info.fixturesQrId) then
            insertAt (ff 2) info.id info.stored s.lending
          else s.lending }
  | .updateLending info =>
      { s with lending := updateAt (ff 0) info.id (fun _ => info.stored) s.lending }
  | .returnedLending id returnedAt =>
      { s with lending := (updateWhere (ff 0) (fun l => l.fixturesId = id)
          (fun l => { l with returnedAt := some returnedAt.timestamptz }) s.lending) }
  | .insertContainer info =>
      { s with container := insertAt (ff 0) info.id (ContainerRow.encode info) s.container }

/-! ## A committed statement, read through its key -/

section Commit

variable {ρ κ : Type} [DecidableEq κ] {key : ρ → κ}

/-- A statement that fails or writes `new`, committed, keeps the old table or
    takes `new`. -/
theorem commit_of_eq_ok {w : Except QrError (List ρ)} {old new : List ρ} {fail : Bool}
    (h : ∀ t', w = .ok t' ↔ fail = false ∧ t' = new) :
    commit old w = if fail = false then new else old := by
  cases w with
  | ok t' =>
      obtain ⟨hf, rfl⟩ := (h t').mp rfl
      rw [if_pos hf]
      rfl
  | error e =>
      have hf : ¬ fail = false := fun hf => nomatch (h new).mpr ⟨hf, rfl⟩
      rw [if_neg hf]
      rfl

/-- Read through the key, such a statement keeps the old store or takes the
    store of `new`. -/
theorem readBack_commit {w : Except QrError (List ρ)} {old new : List ρ} {fail : Bool}
    {m : κ → Option ρ} (h : ∀ t', w = .ok t' ↔ fail = false ∧ t' = new)
    (hnew : readBack key new = m) :
    readBack key (commit old w) = if fail = false then m else readBack key old := by
  rw [commit_of_eq_ok h, apply_ite (readBack key), hnew]

/-- A committed `INSERT`, read through its key, is the store's insert. -/
theorem readBack_commit_runInsert {fail : Bool} {err : QrError} {r : ρ} {t : List ρ} :
    readBack key (commit t (runInsert fail err key r t)) =
      insertAt fail (key r) r (readBack key t) := by
  unfold insertAt
  by_cases hc : fail = false ∧ (readBack key t (key r)).isNone
  · -- the key is free: the row is appended
    have hfresh : ∀ s ∈ t, key s ≠ key r :=
      (readBack_eq_none key).mp (Option.isNone_iff_eq_none.mp hc.2)
    have hw : runInsert fail err key r t = .ok (t ++ [r]) :=
      runInsert_eq_ok.mpr ⟨hc.1, hfresh, rfl⟩
    rw [if_pos hc, hw]
    exact readBack_append_fresh key hfresh
  · rw [if_neg hc]
    cases hw : runInsert fail err key r t with
    | error _ => rfl
    | ok t' =>
        obtain ⟨hf, hfresh, -⟩ := runInsert_eq_ok.mp hw
        exact absurd ⟨hf, Option.isNone_iff_eq_none.mpr ((readBack_eq_none key).mpr hfresh)⟩ hc

end Commit

/-! ## `insert_lending` on the store -/

section InsertLending

variable {fail1 fail2 fail3 : Bool} {info : Lending} {t : List Lending}

/-- Past its two look-ups, `insert_lending` is its `INSERT`. -/
theorem insertLending_eq_runInsert (hans : isLending fail1 fail2 info t = (false, false)) :
    QrDatabase.insertLending fail1 fail2 fail3 info t =
      runInsert fail3 (.databaseUpdate "lending") Lending.id info.stored t := by
  show insertLendingRow fail3 (isLending fail1 fail2 info t).1 (isLending fail1 fail2 info t).2
    info t = _
  rw [hans]
  rfl

/-- The look-ups find the item free exactly when neither one that answers
    sees an active lending of it; a failed look-up reads as "not lent". -/
theorem isLending_eq_free_iff :
    isLending fail1 fail2 info t = (false, false) ↔
      ¬ (fail1 = false ∧ ∃ r ∈ t, activeFixturesId r = some info.fixturesId) ∧
        ¬ (fail2 = false ∧ ∃ r ∈ t, activeQrId r = some info.fixturesQrId) := by
  have h1 : (isLending fail1 fail2 info t).1 = true ↔
      fail1 = false ∧ ∃ r ∈ t, activeFixturesId r = some info.fixturesId := by
    cases fail1 with
    | true => exact ⟨fun h => Bool.noConfusion h, fun h => Bool.noConfusion h.1⟩
    | false => exact isLending_fst.trans (and_iff_right rfl).symm
  have h2 : (isLending fail1 fail2 info t).2 = true ↔
      fail2 = false ∧ ∃ r ∈ t, activeQrId r = some info.fixturesQrId := by
    cases fail2 with
    | true => exact ⟨fun h => Bool.noConfusion h, fun h => Bool.noConfusion h.1⟩
    | false => exact isLending_snd.trans (and_iff_right rfl).symm
  rw [Prod.ext_iff, ← h1, ← h2, Bool.not_eq_true, Bool.not_eq_true]

/-- A committed `insert_lending`, read through the lending id: the store's
    insert when the look-ups find the item free, else the old store. -/
theorem readBack_commit_insertLending :
    readBack Lending.id (commit t (QrDatabase.insertLending fail1 fail2 fail3 info t)) =
      if isLending fail1 fail2 info t = (false, false) then
        insertAt fail3 info.id info.stored (readBack Lending.id t)
      else readBack Lending.id t := by
  by_cases hans : isLending fail1 fail2 info t = (false, false)
  · rw [if_pos hans, insertLending_eq_runInsert hans]
    exact readBack_commit_runInsert
  · rw [if_neg hans]
    cases hw : QrDatabase.insertLending fail1 fail2 fail3 info t with
    | error _ => rfl
    | ok t' => exact absurd (insertLending_eq_ok.mp hw).1 hans

/-- Under unique lending ids, the look-ups see what the store shows. -/
theorem isLending_eq_free_iff_store {db : Db} (h : PrimaryKeys db) :
    isLending fail1 fail2 info db.lending = (false, false) ↔
      ¬ (fail1 = false ∧ (storeOf db).lentById info.fixturesId) ∧
        ¬ (fail2 = false ∧ (storeOf db).lentByQr info.fixturesQrId) := by
  rw [isLending_eq_free_iff, exists_mem_iff_readBack Lending.id h.lending,
    exists_mem_iff_readBack Lending.id h.lending]
  rfl

end InsertLending

/-! ## Every call, every run, every server -/

open Classical in
/-- **ONE CALL REFINES ITS STORE OPERATION**: on a database whose primary
    keys are unique, every call of `src/database/`, read through the keys, is
    its operation on the keyed store. -/
theorem storeOf_apply (ff : Faults) (op : DbOp) {db : Db} (h : PrimaryKeys db) :
    storeOf (op.apply ff db) = (storeOf db).apply ff op := by
  cases op with
  | insertFixtures info => exact Store.ext readBack_commit_runInsert rfl rfl rfl
  | updateFixtures info =>
      exact Store.ext (readBack_commit (fun _ => updateFixtures_eq_ok)
        (readBack_update_key _ fun _ _ => rfl)) rfl rfl rfl
  | deleteFixtures uuid =>
      exact Store.ext (readBack_commit (fun _ => deleteFixtures_eq_ok) (readBack_delete_key _))
        rfl rfl rfl
  | insertSpot info => exact Store.ext rfl readBack_commit_runInsert rfl rfl
  | updateSpot info =>
      exact Store.ext rfl (readBack_commit (fun _ => updateSpot_eq_ok)
        (readBack_update_key _ fun _ _ => rfl)) rfl rfl
  | deleteSpot name =>
      exact Store.ext rfl (readBack_commit (fun _ => deleteSpot_eq_ok) (readBack_delete_key _))
        rfl rfl
  | insertLending info =>
      refine Store.ext rfl rfl ?_ rfl
      -- the look-ups are by item, not by key: they need the unique ids
      exact readBack_commit_insertLending.trans (if_congr (isLending_eq_free_iff_store h) rfl rfl)
  | updateLending info =>
      exact Store.ext rfl rfl (readBack_commit (fun _ => updateLending_eq_ok)
        (readBack_update_key _ fun _ _ => rfl)) rfl
  | returnedLending id returnedAt =>
      exact Store.ext rfl rfl (readBack_commit (fun _ => returnedLending_eq_ok)
        (funext (readBack_update _ fun _ _ => rfl))) rfl
  | insertContainer info => exact Store.ext rfl rfl rfl readBack_commit_runInsert

/-- **EVERY RUN REFINES THE STORE'S RUN**: from the empty database, every run
    of database calls, read through the primary keys, is the run of the store
    operations on the same calls. -/
theorem storeOf_run (calls : List (Faults × DbOp)) :
    storeOf (DbOp.run Db.empty calls) = run (fun s c => s.apply c.1 c.2) Store.empty calls := by
  show storeOf (run (fun db c => c.2.apply c.1 db) Db.empty calls) = _
  exact run_simulation storeOf (fun s c => s.apply c.1 c.2) PrimaryKeys
    (fun _ c h => primaryKeys_apply c.1 c.2 h) (fun _ c h => storeOf_apply c.1 c.2 h) calls
    Db.empty primaryKeys_empty

/-! ## Each input's own call -/

section Calls

variable (parseUuid : String → Option Uuid)

/-- The one call a write request makes once its token passes its route's
    test, at the handler's own sites: none where the handler answers before
    any call (no id or name, a broken id, a QR id whose look-up fails or
    finds no row). -/
def requestCall (ff : Faults) (fixtures : List FixturesRow) : Request → Option (Faults × DbOp)
  | .insertFixtures _ body => some (shift 1 ff, .insertFixtures body)
  | .updateFixtures _ body => some (shift 1 ff, .updateFixtures body)
  | .deleteFixtures _ query =>
      match query "id" with
      | some id => (parseUuid id).map fun uuid => (shift 1 ff, .deleteFixtures uuid)
      | none => none
  | .insertLending _ body => some (shift 1 ff, .insertLending body)
  | .updateLending _ body => some (shift 1 ff, .updateLending body)
  | .returnedLending _ query returnedAt =>
      match query "id", query "qr_id" with
      | some id, _ =>
          (parseUuid id).map fun uuid => (shift 2 ff, .returnedLending uuid returnedAt)
      | none, some qrId =>
          -- the item the QR id names is the first row `get_one_fixtures` finds
          match getOneFixtures (ff 1) (.qrId qrId) fixtures with
          | some (.ok item) => some (shift 2 ff, .returnedLending item.id returnedAt)
          | _ => none
      | none, none => none
  | .insertSpot _ body => some (shift 1 ff, .insertSpot body)
  | .updateSpot _ body => some (shift 1 ff, .updateSpot body)
  | .deleteSpot _ query => (query "name").map fun name => (shift 1 ff, .deleteSpot name)
  | .insertContainer _ body => some (shift 1 ff, .insertContainer body)

/-- The call an input makes: a write request's own call when `get_role`
    answers a role its route lets through; none for any other input. -/
def inputCall (ff : Faults) (now : DateTime) (st : State) : Input → Option (Faults × DbOp)
  | .request req =>
      match getRole (ff 0) req.bearer now st.db.passtoken with
      | some role =>
          if allowedRoles req role then requestCall parseUuid ff st.db.fixtures req else none
      | none => none
  | .genPasstoken _ _ _ => none

/-- The database after a call, or as it was when there is none. -/
def applyCall (db : Db) : Option (Faults × DbOp) → Db
  | none => db
  | some c => c.2.apply c.1 db

open Classical in
/-- The store after a call's operation, or as it was when there is none. -/
noncomputable def Store.applyCall (s : Store) : Option (Faults × DbOp) → Store
  | none => s
  | some c => s.apply c.1 c.2

end Calls

/-! ## Each input is its own call -/

section Inputs

variable {st : State} {r : ReturnData Unit} {st' : State}

/-- The state a request leaves: its answer's, or the old one after a panic. -/
theorem serveState_request (parseUuid : String → Option Uuid) (env : String → Option String)
    (nfc : String → String) (ff : Faults) (now : DateTime) (req : Request) :
    serveState parseUuid env nfc ff now st (.request req) =
      (serve parseUuid ff now st req).elim st Prod.snd := by
  cases hs : serve parseUuid ff now st req with
  | none => simp only [serveState, hs, Option.elim]
  | some res => simp only [serveState, hs, Option.elim]

/-- Past a role that passes the test, the gate is its body. -/
theorem withRole_pass {T : Type} {allowed : Except QrError Role → Bool} {ff : Faults}
    {now : DateTime} {bearer : String} {role : Except QrError Role}
    {body : Option (ReturnData T × State)}
    (hrole : getRole (ff 0) bearer now st.db.passtoken = some role)
    (hallowed : allowed role = true) :
    withRole allowed ff now bearer st body = body := by
  unfold withRole
  rw [hrole]
  exact if_pos hallowed

/-- A fixtures write leaves the table its statement committed. -/
theorem writeThenIndex_elim_db (dbWrite : Except QrError (List FixturesRow))
    (idxWrite : Index Fixtures → Except QrError Unit × Index Fixtures) :
    ((writeThenIndex dbWrite idxWrite st).elim st Prod.snd).db =
      { st.db with fixtures := commit st.db.fixtures dbWrite } := by
  cases dbWrite <;> rfl

/-- A one-table write leaves the table its statement committed. -/
theorem commitWrite_elim_db {ρ : Type} {old : List ρ} (w : Except QrError (List ρ))
    {set : List ρ → Db → Db} (hold : set old st.db = st.db) :
    ((commitWrite w set st).elim st Prod.snd).db = set (commit old w) st.db := by
  cases w with
  | error e => exact hold.symm
  | ok t => rfl

variable (parseUuid : String → Option Uuid) (env : String → Option String)
  (nfc : String → String)

/-- **A REQUEST IS ITS OWN CALL**: past the role test, a request leaves the
    database its own call leaves. -/
theorem serveState_request_db {ff : Faults} {now : DateTime} {req : Request}
    {role : Except QrError Role}
    (hrole : getRole (ff 0) req.bearer now st.db.passtoken = some role)
    (hallowed : allowedRoles req role = true) :
    (serveState parseUuid env nfc ff now st (.request req)).db =
      applyCall st.db (requestCall parseUuid ff st.db.fixtures req) := by
  rw [serveState_request]
  cases req with
  | insertFixtures b body =>
      rw [show serve parseUuid ff now st (.insertFixtures b body) = _ from
        withRole_pass hrole hallowed]
      exact writeThenIndex_elim_db _ _
  | updateFixtures b body =>
      rw [show serve parseUuid ff now st (.updateFixtures b body) = _ from
        withRole_pass hrole hallowed]
      exact writeThenIndex_elim_db _ _
  | deleteFixtures b query =>
      rw [show serve parseUuid ff now st (.deleteFixtures b query) = _ from
        withRole_pass hrole hallowed]
      -- no id, or a broken one, answers before the call
      cases hid : query "id" with
      | none => simp only [requestCall, hid]; rfl
      | some id =>
          cases huuid : parseUuid id with
          | none => simp only [requestCall, hid, huuid]; rfl
          | some uuid =>
              simp only [requestCall, hid, huuid, Option.map_some]
              exact writeThenIndex_elim_db _ _
  | insertLending b body =>
      rw [show serve parseUuid ff now st (.insertLending b body) = _ from
        withRole_pass hrole hallowed]
      exact commitWrite_elim_db _ rfl
  | updateLending b body =>
      rw [show serve parseUuid ff now st (.updateLending b body) = _ from
        withRole_pass hrole hallowed]
      exact commitWrite_elim_db _ rfl
  | returnedLending b query returnedAt =>
      rw [show serve parseUuid ff now st (.returnedLending b query returnedAt) = _ from
        withRole_pass hrole hallowed]
      -- by id, by QR id through `get_one_fixtures`, or neither
      cases hid : query "id" with
      | some id =>
          cases huuid : parseUuid id with
          | none => simp only [requestCall, hid, huuid]; rfl
          | some uuid =>
              simp only [requestCall, hid, huuid, Option.map_some]
              exact commitWrite_elim_db _ rfl
      | none =>
          cases hqr : query "qr_id" with
          | none => simp only [requestCall, hid, hqr]; rfl
          | some qrId =>
              cases hget : getOneFixtures (ff 1) (.qrId qrId) st.db.fixtures with
              | none => simp only [requestCall, hid, hqr, hget]; rfl
              | some res =>
                  cases res with
                  | error e => simp only [requestCall, hid, hqr, hget]; rfl
                  | ok item =>
                      simp only [requestCall, hid, hqr, hget]
                      exact commitWrite_elim_db _ rfl
  | insertSpot b body =>
      rw [show serve parseUuid ff now st (.insertSpot b body) = _ from withRole_pass hrole hallowed]
      exact commitWrite_elim_db _ rfl
  | updateSpot b body =>
      rw [show serve parseUuid ff now st (.updateSpot b body) = _ from withRole_pass hrole hallowed]
      exact commitWrite_elim_db _ rfl
  | deleteSpot b query =>
      rw [show serve parseUuid ff now st (.deleteSpot b query) = _ from
        withRole_pass hrole hallowed]
      cases hname : query "name" with
      | none => simp only [requestCall, hname]; rfl
      | some name =>
          simp only [requestCall, hname, Option.map_some]
          exact commitWrite_elim_db _ rfl
  | insertContainer b body =>
      rw [show serve parseUuid ff now st (.insertContainer b body) = _ from
        withRole_pass hrole hallowed]
      exact commitWrite_elim_db _ rfl

end Inputs

section Server

variable (parseUuid : String → Option Uuid) (env : String → Option String)
  (nfc : String → String)

/-- **AN INPUT IS ITS OWN CALL**: every input leaves the database, pass tokens
    apart, as the call it makes leaves it. -/
theorem serveState_db (ff : Faults) (now : DateTime) (st : State) (input : Input) :
    withoutTokens (serveState parseUuid env nfc ff now st input).db =
      withoutTokens (applyCall st.db (inputCall parseUuid ff now st input)) := by
  cases input with
  | request req =>
      cases hrole : getRole (ff 0) req.bearer now st.db.passtoken with
      | none =>
          -- `get_role` panics: no answer, and no call
          simp only [serveState, serve_panic parseUuid hrole, inputCall, hrole, applyCall]
      | some role =>
          cases hallowed : allowedRoles req role with
          | false =>
              simp only [serveState, serve_denied parseUuid hrole hallowed, inputCall, hrole,
                hallowed, Bool.false_eq_true, if_false, applyCall]
          | true =>
              rw [serveState_request_db parseUuid env nfc hrole hallowed]
              simp only [inputCall, hrole, hallowed, if_true]
  | genPasstoken username password token =>
      -- only the passtoken table can change
      simp only [serveState, apiGenPasstoken, inputCall, applyCall]
      rcases genPasstoken_state env nfc token now ff username password st with h | ⟨_, t, -, h⟩
      · rw [h]
      · rw [h]
        rfl

/-- A call's operation on the store is the store of the database after the
    call, on unique primary keys. -/
theorem storeOf_applyCall {db : Db} (h : PrimaryKeys db) (call : Option (Faults × DbOp)) :
    storeOf (applyCall db call) = (storeOf db).applyCall call := by
  cases call with
  | none => rfl
  | some c => exact storeOf_apply c.1 c.2 h

/-- At a reachable server, an input changes the tables, read through their
    keys, as the operation of its own call. -/
theorem storeOf_serveState {st : State} (hreach : Reachable parseUuid env nfc st)
    (ff : Faults) (now : DateTime) (input : Input) :
    storeOf (serveState parseUuid env nfc ff now st input).db =
      (storeOf st.db).applyCall (inputCall parseUuid ff now st input) := by
  -- the stores do not read the pass tokens
  calc storeOf (serveState parseUuid env nfc ff now st input).db
      = storeOf (withoutTokens (serveState parseUuid env nfc ff now st input).db) := rfl
    _ = storeOf (withoutTokens (applyCall st.db (inputCall parseUuid ff now st input))) := by
        rw [serveState_db]
    _ = (storeOf st.db).applyCall (inputCall parseUuid ff now st input) :=
        storeOf_applyCall (primaryKeys_reachable parseUuid env nfc hreach) _

/-- The calls a run of inputs makes, each at the state it meets. -/
def serveCalls (st : State) : List (Faults × DateTime × Input) → List (Option (Faults × DbOp))
  | [] => []
  | c :: cs =>
      inputCall parseUuid c.1 c.2.1 st c.2.2 ::
        serveCalls (serveState parseUuid env nfc c.1 c.2.1 st c.2.2) cs

/-- **EVERY RUN OF INPUTS IS THE RUN OF ITS CALLS**: from a reachable server,
    every run of inputs changes the tables, read through their primary keys,
    as the store operations of the calls its inputs make, input by input.
    The call an input makes depends on the pass tokens and on which row a QR
    id finds first, which the store does not show; so the run is followed
    along the server's own states, one `storeOf_serveState` step an input. -/
theorem storeOf_serveRun {st : State} (hreach : Reachable parseUuid env nfc st)
    (inputs : List (Faults × DateTime × Input)) :
    storeOf (run (fun st c => serveState parseUuid env nfc c.1 c.2.1 st c.2.2) st inputs).db =
      run Store.applyCall (storeOf st.db) (serveCalls parseUuid env nfc st inputs) := by
  induction inputs generalizing st with
  | nil => rfl
  | cons c cs ih =>
      rw [run_cons, ih (.step c.1 c.2.1 c.2.2 hreach), serveCalls, run_cons,
        storeOf_serveState parseUuid env nfc hreach]

end Server

/-- After `lentState`, the administrator returns `itemX` by its QR id, then
    registers `itemY`. -/
def returnInputs : List (Faults × DateTime × Input) :=
  [(noFaults, DateTime.unixEpoch,
      .request (.returnedLending "admin-token" (qrQuery "x234") dayOne)),
   (noFaults, DateTime.unixEpoch, .request (.insertFixtures "admin-token" itemY))]

/-- The return is the call on the item its QR id finds, `itemX`; the
    registration is the insert of `itemY`. -/
theorem storeOf_serveRun_lentState :
    serveCalls (fun _ => none) adminEnv (fun s => s) lentState returnInputs =
        [some (shift 2 noFaults, .returnedLending itemX.id dayOne),
          some (shift 1 noFaults, .insertFixtures itemY)] ∧
      storeOf (run (fun st c => serveState (fun _ => none) adminEnv (fun s => s) c.1 c.2.1 st c.2.2)
          lentState returnInputs).db =
        run Store.applyCall (storeOf lentState.db)
          [some (shift 2 noFaults, .returnedLending itemX.id dayOne),
            some (shift 1 noFaults, .insertFixtures itemY)] := by
  have hcalls : serveCalls (fun _ => none) adminEnv (fun s => s) lentState returnInputs =
      [some (shift 2 noFaults, .returnedLending itemX.id dayOne),
        some (shift 1 noFaults, .insertFixtures itemY)] := rfl
  refine ⟨hcalls, ?_⟩
  rw [← hcalls]
  exact storeOf_serveRun (fun _ => none) adminEnv (fun s => s) (reachable_lentState _) returnInputs

end QrKeyedStore
