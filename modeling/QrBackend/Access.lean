import Mathlib
import QrBackend.IndexSync

/-! # Who may write — the role checks of `src/app/*.rs`

    Every write route opens with `get_role` on the bearer token and a test of
    its answer: `Ok(EquipmentManager)` or `Ok(Administrator)`, and
    `Ok(Administrator)` alone for the two deletes.  `allowedRoles` is the test
    of each route, and `serve_eq_withRole` says that every route opens with it.

    * `serve_denied` — when `get_role` answers and the answer fails the test,
      the response is the `Authorized` error and the state is as it was;
    * `serve_panic` — when `get_role` panics the handler panics: no response,
      and the state as it was;
    * `genPasstoken_adds` — `gen_passtoken` adds a token of role `r` only for
      `r`'s name as user name and a password whose NFC form is that of `r`'s
      pass key.

    `get_role` panics when `check_valid` leaves chrono's date range: under a
    long validity (`longLivedEnv`) a request with a general token gets a panic
    where the `Authorized` error is due
    (`insertFixtures_general_token_panics`). -/

namespace QrAccess

open Chrono QrModel QrErrorHandling QrAuthentication QrDatabase QrApp QrIndexSync

/-- The test a write route applies to `get_role`'s answer. -/
def allowedRoles (req : Request) : Except QrError Role → Bool :=
  if req.adminOnly then adminOnly else managerOrAdmin

/-- A route lets an administrator through, and an equipment manager unless it
    is one of the deletes. -/
theorem allowedRoles_eq_true {req : Request} {role : Except QrError Role} :
    allowedRoles req role = true ↔
      role = .ok .administrator ∨ (req.adminOnly = false ∧ role = .ok .equipmentManager) := by
  unfold allowedRoles
  cases req.adminOnly with
  | true => simp [adminOnly]
  | false => simp [managerOrAdmin, or_comm]

section Server

variable (parseUuid : String → Option Uuid)

/-- **GATE**: every write route opens with `get_role` and its own test. -/
theorem serve_eq_withRole (ff : Faults) (now : DateTime) (st : State) (req : Request) :
    ∃ body, serve parseUuid ff now st req =
      withRole (allowedRoles req) ff now req.bearer st body := by
  cases req <;> exact ⟨_, rfl⟩

/-- **DENIED**: when `get_role` answers with a role the route does not let
    through, the response is the `Authorized` error and nothing changes. -/
theorem serve_denied {ff : Faults} {now : DateTime} {st : State} {req : Request}
    {role : Except QrError Role}
    (hrole : getRole (ff 0) req.bearer now st.db.passtoken = some role)
    (hdeny : allowedRoles req role = false) :
    serve parseUuid ff now st req = some (resultToHandler (.error .authorized), st) := by
  obtain ⟨body, hb⟩ := serve_eq_withRole parseUuid ff now st req
  rw [hb]
  unfold withRole
  simp only [hrole, hdeny, Bool.false_eq_true, if_false]

/-- When `get_role` panics, the handler panics before any write. -/
theorem serve_panic {ff : Faults} {now : DateTime} {st : State} {req : Request}
    (hrole : getRole (ff 0) req.bearer now st.db.passtoken = none) :
    serve parseUuid ff now st req = none := by
  obtain ⟨body, hb⟩ := serve_eq_withRole parseUuid ff now st req
  rw [hb]
  unfold withRole
  simp only [hrole]

/-- **NO WRITE WITHOUT A ROLE**: when `get_role` does not grant a role the
    route lets through, the request panics or is refused with the `Authorized`
    error; either way the state is as it was. -/
theorem serveState_unauthorized (env : String → Option String) (nfc : String → String)
    {ff : Faults} {now : DateTime} {st : State} {req : Request}
    (hno : ∀ role, getRole (ff 0) req.bearer now st.db.passtoken = some role →
      allowedRoles req role = false) :
    (serve parseUuid ff now st req = none ∨
      serve parseUuid ff now st req = some (resultToHandler (.error .authorized), st)) ∧
    serveState parseUuid env nfc ff now st (.request req) = st := by
  -- the two outcomes of `get_role`'s look-up
  have hserve : serve parseUuid ff now st req = none ∨
      serve parseUuid ff now st req = some (resultToHandler (.error .authorized), st) := by
    cases hrole : getRole (ff 0) req.bearer now st.db.passtoken with
    | none => exact Or.inl (serve_panic parseUuid hrole)
    | some role => exact Or.inr (serve_denied parseUuid hrole (hno role hrole))
  refine ⟨hserve, ?_⟩
  rcases hserve with h | h
  · simp only [serveState, h]
  · simp only [serveState, h]

end Server

/-- A token the fresh server never issued writes nothing: `get_role` answers
    `DatabaseNotFound`, which no route lets through. -/
theorem serveState_unauthorized_unknownToken :
    (serve (fun _ => none) noFaults DateTime.unixEpoch State.empty
          (.insertFixtures "unknown-token" itemX) = none ∨
        serve (fun _ => none) noFaults DateTime.unixEpoch State.empty
          (.insertFixtures "unknown-token" itemX) =
          some (resultToHandler (.error .authorized), State.empty)) ∧
      serveState (fun _ => none) (fun _ => none) (fun s => s) noFaults DateTime.unixEpoch
        State.empty (.request (.insertFixtures "unknown-token" itemX)) = State.empty :=
  serveState_unauthorized (fun _ => none) (fun _ => none) (fun s => s) fun _ h => by
    cases h
    rfl

/-! ## Issuing tokens -/

/-- **ISSUING**: `gen_passtoken` leaves the state as it was, or adds one pass
    token, of a role `r` whose name is the user name, for a password whose NFC
    form is that of `r`'s pass key, valid for the days `r`'s limit variable
    reads as. -/
theorem genPasstoken_adds (env : String → Option String) (nfc : String → String)
    (token : String) (now : DateTime) (ff : Faults) (username password : String) (st : State) :
    (QrApp.genPasstoken env nfc token now ff username password st).2 = st ∨
      ∃ role pass limitStr limit, username = role.fmt ∧ env role.envVars.1 = some pass ∧
        env role.envVars.2 = some limitStr ∧ parseUsize limitStr = some limit ∧
        nfc password = nfc pass ∧
        (QrApp.genPasstoken env nfc token now ff username password st).2 =
          { st with db := { st.db with passtoken :=
              st.db.passtoken ++ [PasstokenRow.encode (Passtoken.new token now role limit).stored] } } := by
  unfold QrApp.genPasstoken
  -- an unknown user name, a refused key and a failed `INSERT` all change nothing
  split
  · exact Or.inl rfl
  · rename_i role hu
    split
    · exact Or.inl rfl
    · rename_i p hg
      split
      · exact Or.inl rfl
      · rename_i t hi
        right
        rw [genPasstoken_eq] at hg
        obtain ⟨pass, limitStr, limit, hpass, hlim, hparse, hk, rfl⟩ := genPasstokenWith_eq_ok hg
        obtain ⟨-, -, rfl⟩ := Table.runInsert_eq_ok.mp hi
        exact ⟨role, pass, limitStr, limit, strToRoleOpt_eq_some.mp hu, hpass, hlim, hparse, hk, rfl⟩

/-! ## A token that outlives chrono -/

/-- A deployment whose general tokens last 100000000 days. -/
def longLivedEnv : String → Option String
  | "GENERAL_PASS_KEY" => some "general-key"
  | "GENERAL_LIMIT_DAYS" => some "100000000"
  | _ => none

/-- A fresh server after a general token is issued at the epoch under
    `longLivedEnv`. -/
def generalState : State :=
  (apiGenPasstoken longLivedEnv (fun s => s) "general-token" DateTime.unixEpoch noFaults "general"
    "general-key" State.empty).2

/-- The general token of `generalState` gets no `Authorized` error:
    `check_valid` leaves chrono's range, `get_role` panics, and so does
    `insert_fixtures`. -/
theorem insertFixtures_general_token_panics :
    Reachable (fun _ => none) longLivedEnv (fun s => s) generalState ∧
      getRole false "general-token" DateTime.unixEpoch generalState.db.passtoken = none ∧
      insertFixtures noFaults DateTime.unixEpoch "general-token" itemX generalState = none :=
  ⟨.step noFaults DateTime.unixEpoch (.genPasstoken "general" "general-key" "general-token") .init,
    by decide, rfl⟩

end QrAccess
