import Mathlib
import QrBackend.Access
import QrBackend.Refinement
import QrBackend.ReturnByQr

/-! # How long a token lives — `Passtoken::new`, `check_valid`, `get_role`

    `gen_passtoken` accepts any `*_LIMIT_DAYS` that `str::parse::<usize>`
    reads, and `Passtoken::new` stores it as `limit as i32`: the low 32 bits,
    read signed (`limitDays_toInt`).  `check_valid` adds that many days to the
    creation time with chrono's panicking `+`, so it answers
    `now < created_at + limit_days days` while that instant is one chrono can
    represent, and panics otherwise (`checkValid_eq`).

    Every pass token a server stores was issued by `Passtoken::new` and kept
    with `created_at` at the microsecond (`issued_reachable`), so at every
    reachable server `get_role` on a stored token panics exactly when its
    expiry leaves chrono's range (`getRole_reachable_eq_none`), and grants a
    role only before that expiry (`getRole_ok_within_limit`).  Two day counts
    that parse show the limits: `2^32` is stored as `0` days, and `100000000`
    days from the epoch pass chrono's last instant
    (`checkValid_wraps_and_panics`). -/

namespace QrValidity

open Chrono QrModel QrErrorHandling QrAuthentication QrDatabase QrApp QrRefinement QrAccess
open QrReturnByQr

/-! ## `limit as i32` -/

/-- `limit as i32` is the balanced residue of `limit` modulo `2^32`. -/
theorem limitDays_toInt (limit : UInt64) :
    limit.toUInt32.toInt32.toInt = Int.bmod limit.toNat (2 ^ 32) := by
  have hbits : limit.toUInt32.toInt32.toBitVec.toNat = limit.toNat % 2 ^ 32 :=
    UInt64.toNat_toUInt32 limit
  rw [Int32.toInt, BitVec.toInt_eq_toNat_bmod, hbits, Int.natCast_emod]
  exact Int.emod_bmod _ (2 ^ 32)

/-- Below `2^31` days the stored validity is the one asked for. -/
theorem new_limitDays_of_lt {token : String} {now : DateTime} {role : Role} {limit : UInt64}
    (h : limit.toNat < 2 ^ 31) : (Passtoken.new token now role limit).limitDays.toInt = limit.toNat := by
  show limit.toUInt32.toInt32.toInt = _
  rw [limitDays_toInt]
  exact Int.bmod_eq_of_le (by omega) (by omega)

/-! ## `check_valid` -/

/-- The instant a token stops being valid, in nanoseconds from the epoch:
    `created_at + Duration::days(limit_days)`, computed without bounds. -/
def expiryNanos (p : Passtoken) : Int :=
  p.createdAt.nanos + p.limitDays.toInt * nanosPerDay

/-- An instant chrono can represent. -/
def InRange (n : Int) : Prop :=
  minUtcNanos ≤ n ∧ n ≤ maxUtcNanos

instance (n : Int) : Decidable (InRange n) :=
  inferInstanceAs (Decidable (_ ∧ _))

/-- **`check_valid` SPEC**: `Duration::days` never panics on an `i32`; the sum
    answers `now < expiry` when the expiry is an instant chrono has, and panics
    otherwise. -/
theorem checkValid_eq (p : Passtoken) (now : DateTime) :
    p.checkValid now =
      if InRange (expiryNanos p) then some (decide (now.nanos < expiryNanos p)) else none := by
  obtain ⟨dur, hdays, hnanos⟩ := Duration.days_of_int32 p.limitDays
  have hsum : p.createdAt.nanos + dur.nanos = expiryNanos p := by
    rw [hnanos]
    rfl
  unfold Passtoken.checkValid
  rw [hdays]
  show (p.createdAt.add dur).bind (fun d => some (decide (now < d))) = _
  by_cases hr : InRange (expiryNanos p)
  · -- the sum is the expiry instant
    rw [if_pos hr]
    have hadd : p.createdAt.add dur = some ⟨expiryNanos p, hr.1, hr.2⟩ :=
      DateTime.add_eq_some.mpr hsum.symm
    rw [hadd]
    rfl
  · -- the sum leaves chrono's range: the `+` panics
    rw [if_neg hr]
    have hadd : p.createdAt.add dur = none := by
      rw [DateTime.add_eq_none, hsum]
      unfold InRange at hr
      omega
    rw [hadd]
    rfl

/-- `check_valid` panics exactly when the expiry is out of chrono's range. -/
theorem checkValid_eq_none {p : Passtoken} {now : DateTime} :
    p.checkValid now = none ↔ ¬ InRange (expiryNanos p) := by
  rw [checkValid_eq]
  by_cases hr : InRange (expiryNanos p)
  · simp only [hr, if_true, reduceCtorEq, not_true_eq_false]
  · simp only [hr, if_false, not_false_eq_true]

/-- `check_valid` says yes exactly when the expiry is an instant chrono has
    and the request comes before it. -/
theorem checkValid_eq_some_true {p : Passtoken} {now : DateTime} :
    p.checkValid now = some true ↔ InRange (expiryNanos p) ∧ now.nanos < expiryNanos p := by
  rw [checkValid_eq]
  by_cases hr : InRange (expiryNanos p)
  · rw [if_pos hr, Option.some.injEq, decide_eq_true_iff]
    exact (and_iff_right hr).symm
  · rw [if_neg hr]
    constructor
    · intro h
      nomatch h
    · intro h
      exact absurd h.1 hr

/-! ## Over runs: every stored token was issued -/

/-- Every row of the passtoken table is a token `Passtoken::new` made, as the
    table keeps it. -/
def Issued (t : List PasstokenRow) : Prop :=
  ∀ r ∈ t, ∃ token createdAt role limit,
    r = PasstokenRow.encode (Passtoken.new token createdAt role limit).stored

/-- Every row of the passtoken table is a token `Passtoken::new` made for a
    role whose `*_LIMIT_DAYS` the deployment `env` sets to the token's day
    count. -/
def IssuedUnder (env : String → Option String) (t : List PasstokenRow) : Prop :=
  ∀ r ∈ t, ∃ token createdAt role limitStr limit, env role.envVars.2 = some limitStr ∧
    parseUsize limitStr = some limit ∧
    r = PasstokenRow.encode (Passtoken.new token createdAt role limit).stored

section Server

variable (parseUuid : String → Option Uuid) (env : String → Option String) (nfc : String → String)

/-- **STEP**: a request leaves the passtoken table alone, and `gen_passtoken`
    adds a token `Passtoken::new` made from its role's configured day count. -/
theorem issuedUnder_serveState {ff : Faults} {now : DateTime} {st : State} (input : Input)
    (h : IssuedUnder env st.db.passtoken) :
    IssuedUnder env (serveState parseUuid env nfc ff now st input).db.passtoken := by
  cases input with
  | request req =>
      cases hs : serve parseUuid ff now st req with
      | none =>
          simp only [serveState, hs]
          exact h
      | some res =>
          simp only [serveState, hs]
          rw [(serve_dbStep parseUuid hs).passtoken]
          exact h
  | genPasstoken username password token =>
      show IssuedUnder env
        (QrApp.genPasstoken env nfc token now ff username password st).2.db.passtoken
      rcases genPasstoken_adds env nfc token now ff username password st with
        hst | ⟨role, _, limitStr, limit, -, -, hlim, hparse, -, hst⟩
      · rw [hst]
        exact h
      · rw [hst]
        intro r hr
        rcases List.mem_append.mp hr with hold | hnew
        · exact h r hold
        · exact ⟨token, now, role, limitStr, limit, hlim, hparse, List.mem_singleton.mp hnew⟩

/-- At every reachable server, every stored pass token was made by
    `Passtoken::new` from its role's configured day count. -/
theorem issuedUnder_reachable {st : State} (hreach : Reachable parseUuid env nfc st) :
    IssuedUnder env st.db.passtoken :=
  Reachable.invariant parseUuid env nfc (fun st => IssuedUnder env st.db.passtoken)
    (fun _ h => absurd h List.not_mem_nil)
    (fun _ _ input _ h => issuedUnder_serveState parseUuid env nfc input h) hreach

/-- **TOKENS ARE ISSUED**: at every reachable server, every stored pass token
    was made by `Passtoken::new`. -/
theorem issued_reachable {st : State} (hreach : Reachable parseUuid env nfc st) :
    Issued st.db.passtoken := by
  intro r hr
  obtain ⟨token, createdAt, role, -, limit, -, -, hissued⟩ :=
    issuedUnder_reachable parseUuid env nfc hreach r hr
  exact ⟨token, createdAt, role, limit, hissued⟩

/-- **`get_role` PANICS ONLY ON AN EXPIRY CHRONO CANNOT HOLD**: at every
    reachable server, `get_role` panics exactly when the token's row holds a
    token whose expiry leaves chrono's range. -/
theorem getRole_reachable_eq_none {st : State} (hreach : Reachable parseUuid env nfc st)
    {fail : Bool} {token : String} {now : DateTime} :
    getRole fail token now st.db.passtoken = none ↔
      fail = false ∧ ∃ p, Table.fetchOptional (fun r => r.token = token) st.db.passtoken =
        some (PasstokenRow.encode p) ∧ ¬ InRange (expiryNanos p) := by
  rw [getRole_eq_none]
  constructor
  · rintro ⟨hfail, row, hrow, hbad⟩
    -- the row was issued, so it decodes
    obtain ⟨tok, c, role, limit, rfl⟩ :=
      issued_reachable parseUuid env nfc hreach row (Table.fetchOptional_mem hrow).1
    refine ⟨hfail, _, hrow, ?_⟩
    rcases hbad with hdec | ⟨p, hdec, hv⟩
    · rw [PasstokenRow.decode_encode] at hdec
      nomatch hdec
    · rw [PasstokenRow.decode_encode] at hdec
      cases hdec
      exact checkValid_eq_none.mp hv
  · rintro ⟨hfail, p, hrow, hout⟩
    exact ⟨hfail, _, hrow, Or.inr ⟨p, PasstokenRow.decode_encode p, checkValid_eq_none.mpr hout⟩⟩

/-- The general token issued under `longLivedEnv` panics in `get_role`: its
    expiry leaves chrono's range. -/
theorem getRole_reachable_eq_none_generalState :
    getRole false "general-token" DateTime.unixEpoch generalState.db.passtoken = none ↔
      false = false ∧ ∃ p, Table.fetchOptional (fun r => r.token = "general-token")
        generalState.db.passtoken = some (PasstokenRow.encode p) ∧ ¬ InRange (expiryNanos p) :=
  getRole_reachable_eq_none (fun _ => none) longLivedEnv (fun s => s)
    (.step noFaults DateTime.unixEpoch (.genPasstoken "general" "general-key" "general-token") .init)

/-- **A ROLE IS GRANTED ONLY WITHIN ITS CONFIGURED VALIDITY**: at every
    reachable server, `get_role` grants `role` to a token only when the server
    stores that token, issued for `role` at an instant `c` with the day count
    `limit` that the role's `*_LIMIT_DAYS` variable reads as, and the request
    comes before `c`, as the table keeps it, plus `limit as i32` days, an
    instant chrono can hold. -/
theorem getRole_ok_within_limit {st : State} (hreach : Reachable parseUuid env nfc st)
    {fail : Bool} {token : String} {now : DateTime} {role : Role}
    (h : getRole fail token now st.db.passtoken = some (.ok role)) :
    ∃ c limitStr limit, env role.envVars.2 = some limitStr ∧ parseUsize limitStr = some limit ∧
      PasstokenRow.encode (Passtoken.new token c role limit).stored ∈ st.db.passtoken ∧
      InRange (c.timestamptz.nanos + Int.bmod limit.toNat (2 ^ 32) * nanosPerDay) ∧
      now.nanos < c.timestamptz.nanos + Int.bmod limit.toNat (2 ^ 32) * nanosPerDay := by
  obtain ⟨-, row, p, hrow, hdec, hvalid, rfl⟩ := getRole_eq_ok.mp h
  obtain ⟨hmem, htoken⟩ := Table.fetchOptional_mem hrow
  -- the row was issued under the deployment's day count
  obtain ⟨tok, c, role', limitStr, limit, hlim, hparse, rfl⟩ :=
    issuedUnder_reachable parseUuid env nfc hreach row hmem
  rw [PasstokenRow.decode_encode, Option.some.injEq] at hdec
  subst hdec
  have htok : tok = token := of_decide_eq_true htoken
  subst htok
  -- the stored day count is `limit as i32`
  have hexp : expiryNanos (Passtoken.new tok c role' limit).stored =
      c.timestamptz.nanos + Int.bmod limit.toNat (2 ^ 32) * nanosPerDay := by
    show c.timestamptz.nanos + limit.toUInt32.toInt32.toInt * nanosPerDay = _
    rw [limitDays_toInt]
  rw [checkValid_eq_some_true, hexp] at hvalid
  exact ⟨c, limitStr, limit, hlim, hparse, hmem, hvalid⟩

/-- At `lentState`, the administrator token is granted at its issuing
    instant, inside the 30 days `adminEnv` sets. -/
theorem getRole_ok_within_limit_lentState :
    getRole false "admin-token" DateTime.unixEpoch lentState.db.passtoken =
        some (.ok .administrator) ∧
      ∃ c limitStr limit, adminEnv Role.administrator.envVars.2 = some limitStr ∧
        parseUsize limitStr = some limit ∧
        PasstokenRow.encode (Passtoken.new "admin-token" c .administrator limit).stored ∈
          lentState.db.passtoken ∧
        InRange (c.timestamptz.nanos + Int.bmod limit.toNat (2 ^ 32) * nanosPerDay) ∧
        DateTime.unixEpoch.nanos <
          c.timestamptz.nanos + Int.bmod limit.toNat (2 ^ 32) * nanosPerDay := by
  have hgrant : getRole false "admin-token" DateTime.unixEpoch lentState.db.passtoken =
      some (.ok .administrator) := by decide
  exact ⟨hgrant, getRole_ok_within_limit (fun _ => none) adminEnv (fun s => s)
    (reachable_lentState _) hgrant⟩

end Server

/-! ## Two day counts that parse -/

/-- `check_valid` of a general token issued at the epoch, checked at the epoch. -/
def checkAtEpoch (limit : UInt64) : Option Bool :=
  (Passtoken.new "general-token" DateTime.unixEpoch .general limit).checkValid DateTime.unixEpoch

/-- `4294967296` and `100000000` both parse as `usize`; the first is stored as
    `0` days, so the token is invalid from its first instant, and the second
    puts the expiry past chrono's last instant, so `check_valid` panics. -/
theorem checkValid_wraps_and_panics :
    parseUsize "4294967296" = some 4294967296 ∧
      (Passtoken.new "general-token" DateTime.unixEpoch .general 4294967296).limitDays.toInt = 0 ∧
      checkAtEpoch 4294967296 = some false ∧
      parseUsize "100000000" = some 100000000 ∧ checkAtEpoch 100000000 = none :=
  ⟨by decide, by decide, by decide, by decide, by decide⟩

end QrValidity
