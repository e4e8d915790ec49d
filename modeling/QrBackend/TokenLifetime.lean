import Mathlib
import QrBackend.Validity

/-! # A pass token's life — issued once, never revoked, expired for good

    The passtoken table only grows: no write route touches it
    (`QrRefinement.serve_dbStep`), and `gen_passtoken` appends at most one
    row, refused when the token is already stored.  So once a token is
    stored, every later server reads the same row for it
    (`passtoken_run_append`), and `get_role` answers it the same at a fixed
    instant: no input revokes, replaces or renews a token
    (`getRole_run_stable`).

    `check_valid` compares the instant with an expiry fixed at issue, so a
    token refused as expired is refused at every later instant; as the table
    only grows, an expired token stays refused at every later server and
    instant, whatever the inputs in between (`getRole_expired_stays`). -/

namespace QrTokenLifetime

open Chrono QrModel QrErrorHandling QrAuthentication QrDatabase Table Runs QrApp QrRefinement
open QrValidity QrLending QrReturnByQr QrRoundTrip

/-! ## The passtoken table over runs -/

section Server

variable (parseUuid : String → Option Uuid) (env : String → Option String) (nfc : String → String)

/-- **STEP**: one input keeps the passtoken table as a prefix: a write route
    leaves it as it was, and `gen_passtoken` appends to it. -/
theorem serveState_passtoken_append (ff : Faults) (now : DateTime) (st : State) (input : Input) :
    ∃ ext, (serveState parseUuid env nfc ff now st input).db.passtoken = st.db.passtoken ++ ext := by
  cases input with
  | request req =>
      cases hs : serve parseUuid ff now st req with
      | none =>
          simp only [serveState, hs]
          exact ⟨[], (List.append_nil _).symm⟩
      | some res =>
          -- no database call writes the passtoken table
          simp only [serveState, hs]
          exact ⟨[], by rw [(serve_dbStep parseUuid hs).passtoken, List.append_nil]⟩
  | genPasstoken username password token =>
      simp only [serveState, apiGenPasstoken]
      rcases genPasstoken_state env nfc token now ff username password st with h | ⟨p, t, hins, h⟩
      · exact ⟨[], by rw [h, List.append_nil]⟩
      · obtain ⟨-, -, rfl⟩ := runInsert_eq_ok.mp hins
        exact ⟨_, by rw [h]⟩

/-- **RUN**: along every run of inputs, the passtoken table only grows. -/
theorem passtoken_run_append (st : State) (inputs : List (Faults × DateTime × Input)) :
    ∃ ext, (run (fun st c => serveState parseUuid env nfc c.1 c.2.1 st c.2.2) st inputs).db.passtoken =
      st.db.passtoken ++ ext := by
  refine run_invariant (fun s => ∃ ext, s.db.passtoken = st.db.passtoken ++ ext)
    (fun s c hs => ?_) inputs st ⟨[], (List.append_nil _).symm⟩
  obtain ⟨ext, hext⟩ := hs
  obtain ⟨ext', hext'⟩ := serveState_passtoken_append parseUuid env nfc c.1 c.2.1 s c.2.2
  exact ⟨ext ++ ext', by rw [hext', hext, List.append_assoc]⟩

end Server

/-! ## `get_role` on a stored token -/

/-- `get_role` on a token the table holds reads the same row once rows are
    appended. -/
theorem getRole_append_of_stored {token : String} {t : List PasstokenRow} {row : PasstokenRow}
    (hrow : fetchOptional (fun r => r.token = token) t = some row) (fail : Bool) (now : DateTime)
    (ext : List PasstokenRow) :
    getRole fail token now (t ++ ext) = getRole fail token now t := by
  simp only [getRole, fetchOptional_append_of_eq_some hrow ext, hrow]

/-- A token no longer valid at an instant stays so at every later instant:
    the expiry does not depend on the instant. -/
theorem checkValid_false_of_le {p : Passtoken} {now now' : DateTime}
    (h : p.checkValid now = some false) (hle : now.nanos ≤ now'.nanos) :
    p.checkValid now' = some false := by
  rw [checkValid_eq] at h ⊢
  by_cases hr : InRange (expiryNanos p)
  · rw [if_pos hr] at h ⊢
    -- the instant is past the expiry, and so is every later one
    have hpast : ¬ now.nanos < expiryNanos p := of_decide_eq_false (Option.some.inj h)
    rw [decide_eq_false (by omega)]
  · rw [if_neg hr] at h
    nomatch h

/-- Thirty-one days after the epoch, past the administrator's 30 days. -/
def dayThirtyOne : DateTime :=
  ⟨31 * nanosPerDay, by decide, by decide⟩

section Server

variable (parseUuid : String → Option Uuid) (env : String → Option String) (nfc : String → String)

/-- Along every run, `get_role` on a token whose row the table holds reads
    that row. -/
theorem getRole_run_of_fetch {st : State} {token : String} {row : PasstokenRow}
    (hrow : fetchOptional (fun r => r.token = token) st.db.passtoken = some row)
    (inputs : List (Faults × DateTime × Input)) (fail : Bool) (now : DateTime) :
    getRole fail token now
        (run (fun st c => serveState parseUuid env nfc c.1 c.2.1 st c.2.2) st inputs).db.passtoken =
      getRole fail token now st.db.passtoken := by
  obtain ⟨ext, hext⟩ := passtoken_run_append parseUuid env nfc st inputs
  rw [hext, getRole_append_of_stored hrow]

/-- **NO INPUT REVOKES A TOKEN**: once a token is stored, `get_role` answers
    it the same, at any fixed instant, at the end of every run of inputs. -/
theorem getRole_run_stable {st : State} {token : String}
    (hstored : ∃ r ∈ st.db.passtoken, r.token = token)
    (inputs : List (Faults × DateTime × Input)) (fail : Bool) (now : DateTime) :
    getRole fail token now
        (run (fun st c => serveState parseUuid env nfc c.1 c.2.1 st c.2.2) st inputs).db.passtoken =
      getRole fail token now st.db.passtoken := by
  -- a stored token has a first row, which every later server reads
  obtain ⟨r, hr, htoken⟩ := hstored
  obtain ⟨row, hrow⟩ := Option.isSome_iff_exists.mp
    (fetchOptional_isSome (p := fun r => r.token = token) hr (decide_eq_true htoken))
  exact getRole_run_of_fetch parseUuid env nfc hrow inputs fail now

/-- The administrator asks for `admin-token` again on day 31, then writes
    a spot with it. -/
def renewInputs : List (Faults × DateTime × Input) :=
  [(noFaults, dayThirtyOne, .genPasstoken "administrator" "admin-key" "admin-token"),
   (noFaults, dayThirtyOne, .request (.insertSpot "admin-token" kasugaSpot))]

theorem getRole_run_stable_lentState :
    (∃ r ∈ lentState.db.passtoken, r.token = "admin-token") ∧
      getRole false "admin-token" dayOne
          (run (fun st c => serveState (fun _ => none) adminEnv (fun s => s) c.1 c.2.1 st c.2.2)
            lentState renewInputs).db.passtoken =
        getRole false "admin-token" dayOne lentState.db.passtoken := by
  have hstored : ∃ r ∈ lentState.db.passtoken, r.token = "admin-token" :=
    ⟨PasstokenRow.encode (Passtoken.new "admin-token" DateTime.unixEpoch .administrator 30),
      by decide, rfl⟩
  exact ⟨hstored,
    getRole_run_stable (fun _ => none) adminEnv (fun s => s) hstored renewInputs false dayOne⟩

/-- **EXPIRED FOR GOOD**: a token that `get_role` refuses as no longer valid
    is refused so at every later instant, at the end of every run of inputs;
    in particular issuing the same token again does not renew it. -/
theorem getRole_expired_stays {st : State} {token : String} {now : DateTime}
    (hexp : getRole false token now st.db.passtoken = some (.error .authorized))
    (inputs : List (Faults × DateTime × Input)) {now' : DateTime} (hle : now.nanos ≤ now'.nanos) :
    getRole false token now'
        (run (fun st c => serveState parseUuid env nfc c.1 c.2.1 st c.2.2) st inputs).db.passtoken =
      some (.error .authorized) := by
  obtain ⟨-, row, p, hrow, hdec, hval⟩ := getRole_eq_authorized.mp hexp
  rw [getRole_run_of_fetch parseUuid env nfc hrow]
  -- the same row, judged at a later instant
  exact getRole_eq_authorized.mpr ⟨rfl, row, p, hrow, hdec, checkValid_false_of_le hval hle⟩

theorem getRole_expired_stays_lentState :
    getRole false "admin-token" dayThirtyOne lentState.db.passtoken = some (.error .authorized) ∧
      getRole false "admin-token" dayThirtyOne
          (run (fun st c => serveState (fun _ => none) adminEnv (fun s => s) c.1 c.2.1 st c.2.2)
            lentState renewInputs).db.passtoken = some (.error .authorized) := by
  have hexp : getRole false "admin-token" dayThirtyOne lentState.db.passtoken =
      some (.error .authorized) := by decide
  exact ⟨hexp, getRole_expired_stays (fun _ => none) adminEnv (fun s => s) hexp renewInputs le_rfl⟩

end Server

end QrTokenLifetime
