import Mathlib
import QrBackend.Table
import QrBackend.Chrono
import QrBackend.Timestamptz
import QrBackend.ErrorHandling

/-! # Pass tokens and roles — `src/authentication.rs`

    A client trades the pass key of a role for a bearer token
    (`gen_passtoken`); the token is stored with its role, its creation time and
    a validity in days (`limit_days`), and every state-changing request asks
    `get_role` which role its token carries.

    What lies outside the repository enters as an argument: the environment
    (`env::var`), the NFC normaliser of `unicode-normalization` (`nfc`), the
    random token of `gen_token` (`token`) and the clock (`Utc::now()`, `now`).
    `Passtoken::new` stores `limit as i32` — the 64-bit `usize` truncated to 32
    bits and read back signed, `UInt64.toUInt32.toInt32` — and `check_valid`
    adds that many days to the creation time with chrono's panicking `+`
    (`QrBackend.Chrono`), so it returns `Option Bool`: `none` is the panic.

    The passtoken table stores the role as text (`Display`), and `get_role`
    reads it back through `From<String>`, which panics on an unknown text.
    `created_at` goes through a `timestamptz` column, which keeps whole
    microseconds (`QrBackend.Timestamptz`): the table holds a token as
    `Passtoken.stored`, and `get_role` checks that one. -/

namespace QrAuthentication

open Chrono QrErrorHandling

/-- `Role`. -/
inductive Role where
  | administrator
  | equipmentManager
  | general
  deriving DecidableEq, Repr

/-- `str_to_role_opt`. -/
def strToRoleOpt : String → Option Role
  | "administrator" => some .administrator
  | "equipment_manager" => some .equipmentManager
  | "general" => some .general
  | _ => none

/-- `Display for Role`. -/
def Role.fmt : Role → String
  | .administrator => "administrator"
  | .equipmentManager => "equipment_manager"
  | .general => "general"

/-- `From<String> for Role`: `str_to_role_opt`, and a panic (`none`) on `None`. -/
def Role.fromString (item : String) : Option Role :=
  strToRoleOpt item

/-- `Passtoken`. -/
structure Passtoken where
  token : String
  role : Role
  createdAt : DateTime
  limitDays : Int32
  deriving DecidableEq

/-- The columns of table `passtoken` (`migrations/20231026141120_passtoken.sql`);
    the role is `text`. -/
structure PasstokenRow where
  token : String
  role : String
  createdAt : DateTime
  limitDays : Int32
  deriving DecidableEq

/-- The row of a pass token: the role through `role.to_string()`. -/
def PasstokenRow.encode (p : Passtoken) : PasstokenRow :=
  { token := p.token, role := p.role.fmt, createdAt := p.createdAt, limitDays := p.limitDays }

/-- `query_as!(Passtoken, ..)`: the role column through `From<String>`. -/
def PasstokenRow.decode (r : PasstokenRow) : Option Passtoken :=
  (Role.fromString r.role).map fun role =>
    { token := r.token, role, createdAt := r.createdAt, limitDays := r.limitDays }

/-- A pass token as the passtoken table keeps it: `created_at` through the
    `timestamptz` column. -/
def Passtoken.stored (p : Passtoken) : Passtoken :=
  { p with createdAt := p.createdAt.timestamptz }

@[simp] theorem Passtoken.stored_token (p : Passtoken) : p.stored.token = p.token := rfl

@[simp] theorem Passtoken.stored_role (p : Passtoken) : p.stored.role = p.role := rfl

@[simp] theorem Passtoken.stored_limitDays (p : Passtoken) : p.stored.limitDays = p.limitDays :=
  rfl

/-- `Passtoken::new(role, limit)`: `limit_days: limit as i32`. -/
def Passtoken.new (token : String) (now : DateTime) (role : Role) (limit : UInt64) : Passtoken :=
  { token, role, createdAt := now, limitDays := limit.toUInt32.toInt32 }

/-- `check_valid`: `created_at + Duration::days(limit_days as i64) > now`. -/
def Passtoken.checkValid (self : Passtoken) (now : DateTime) : Option Bool := do
  let dur ← Duration.days self.limitDays.toInt
  let d ← self.createdAt.add dur
  pure (decide (now < d))

/-- The value of a run of decimal digits. -/
def digitsValue (ds : List Char) : Nat :=
  ds.foldl (fun acc c => acc * 10 + (c.toNat - '0'.toNat)) 0

/-- `str::parse::<usize>` on a 64-bit target: an optional `+`, then at least
    one decimal digit, and a value below `2^64`. -/
def parseUsize (s : String) : Option UInt64 :=
  let digits := match s.toList with
    | '+' :: rest => rest
    | cs => cs
  if digits ≠ [] ∧ digits.all Char.isDigit then
    if digitsValue digits < 2 ^ 64 then some (digitsValue digits).toUInt64 else none
  else none

/-- One arm of `gen_passtoken`: read the role's pass key and validity from the
    variables `passVar` and `limitVar`, and issue a token when the NFC forms of
    `key` and of the pass key agree. -/
def genPasstokenWith (env : String → Option String) (nfc : String → String)
    (token : String) (now : DateTime) (passVar limitVar : String) (role : Role)
    (key : String) : Except QrError Passtoken :=
  match env passVar with
  | none => .error (.environment passVar)
  | some pass =>
      match env limitVar with
      | none => .error (.environment limitVar)
      | some limitStr =>
          match parseUsize limitStr with
          | none => .error (.environment limitVar)
          | some limitDays =>
              if nfc key = nfc pass then .ok (Passtoken.new token now role limitDays)
              else .error .authorized

/-- `gen_passtoken`. -/
def genPasstoken (env : String → Option String) (nfc : String → String)
    (token : String) (now : DateTime) (role : Role) (key : String) :
    Except QrError Passtoken :=
  match role with
  | .administrator =>
      genPasstokenWith env nfc token now "ADMINISTRATOR_PASS_KEY" "ADMINISTRATOR_LIMIT_DAYS"
        role key
  | .equipmentManager =>
      genPasstokenWith env nfc token now "EQUIPMENT_MANAGER_PASS_KEY"
        "EQUIPMENT_MANAGER_LIMIT_DAYS" role key
  | .general =>
      genPasstokenWith env nfc token now "GENERAL_PASS_KEY" "GENERAL_LIMIT_DAYS" role key

/-- `insert_passtoken`: one `INSERT` (`fail` says whether the statement fails),
    refused on a duplicate `token`, the table's primary key; `created_at` is
    bound through sqlx's `timestamptz` codec. -/
def insertPasstoken (fail : Bool) (passtoken : Passtoken) (t : List PasstokenRow) :
    Except QrError (List PasstokenRow) :=
  Table.runInsert fail (.databaseAdd "passtoken") PasstokenRow.token
    (PasstokenRow.encode passtoken.stored) t

/-- `get_role`: one `SELECT` by token (`fail` says whether it fails), the role
    decoded, then `check_valid`; a panic in either is `none`. -/
def getRole (fail : Bool) (token : String) (now : DateTime) (t : List PasstokenRow) :
    Option (Except QrError Role) :=
  if fail then some (.error (.databaseGet "passtoken")) else
  match Table.fetchOptional (fun r => r.token = token) t with
  | none => some (.error (.databaseNotFound token))
  | some row => do
      let passtoken ← row.decode
      let valid ← passtoken.checkValid now
      pure (if valid then .ok passtoken.role else .error .authorized)

/-! ## Roles and their names -/

theorem strToRoleOpt_fmt (r : Role) : strToRoleOpt r.fmt = some r := by
  cases r <;> rfl

/-- `str_to_role_opt` accepts exactly the three role names. -/
theorem strToRoleOpt_eq_some {s : String} {r : Role} :
    strToRoleOpt s = some r ↔ s = r.fmt := by
  constructor
  · intro h
    unfold strToRoleOpt at h
    split at h <;> first | (cases h; rfl) | nomatch h
  · rintro rfl
    exact strToRoleOpt_fmt r

theorem PasstokenRow.decode_encode (p : Passtoken) : (PasstokenRow.encode p).decode = some p := by
  show (strToRoleOpt p.role.fmt).map _ = some p
  rw [strToRoleOpt_fmt]
  rfl

/-! ## Issuing a token -/

/-- An issued token carries the role asked for, the NFC forms of the key and
    of that role's pass key agree, and the validity is the parsed variable. -/
theorem genPasstokenWith_eq_ok {env : String → Option String} {nfc : String → String}
    {token : String} {now : DateTime} {passVar limitVar : String} {role : Role}
    {key : String} {p : Passtoken}
    (h : genPasstokenWith env nfc token now passVar limitVar role key = .ok p) :
    ∃ pass limitStr limit, env passVar = some pass ∧ env limitVar = some limitStr ∧
      parseUsize limitStr = some limit ∧ nfc key = nfc pass ∧
      p = Passtoken.new token now role limit := by
  unfold genPasstokenWith at h
  cases hp : env passVar with
  | none => simp only [hp] at h; nomatch h
  | some pass =>
      simp only [hp] at h
      cases hl : env limitVar with
      | none => simp only [hl] at h; nomatch h
      | some limitStr =>
          simp only [hl] at h
          cases hu : parseUsize limitStr with
          | none => simp only [hu] at h; nomatch h
          | some limit =>
              simp only [hu] at h
              by_cases hk : nfc key = nfc pass
              · rw [if_pos hk] at h
                cases h
                exact ⟨pass, limitStr, limit, rfl, rfl, hu, hk, rfl⟩
              · rw [if_neg hk] at h
                nomatch h

/-- The pass-key and validity variables `gen_passtoken` reads for a role. -/
def Role.envVars : Role → String × String
  | .administrator => ("ADMINISTRATOR_PASS_KEY", "ADMINISTRATOR_LIMIT_DAYS")
  | .equipmentManager => ("EQUIPMENT_MANAGER_PASS_KEY", "EQUIPMENT_MANAGER_LIMIT_DAYS")
  | .general => ("GENERAL_PASS_KEY", "GENERAL_LIMIT_DAYS")

/-- `gen_passtoken` is its arm at the role's own variables. -/
theorem genPasstoken_eq (env : String → Option String) (nfc : String → String)
    (token : String) (now : DateTime) (role : Role) (key : String) :
    genPasstoken env nfc token now role key =
      genPasstokenWith env nfc token now role.envVars.1 role.envVars.2 role key := by
  cases role <;> rfl

/-! ## Reading a role back -/

/-- **`get_role` SPEC**: it grants role `r` exactly when its statement
    succeeds, finds a row for the token, the row decodes, and the token is
    still valid with role `r`. -/
theorem getRole_eq_ok {fail : Bool} {token : String} {now : DateTime}
    {t : List PasstokenRow} {r : Role} :
    getRole fail token now t = some (.ok r) ↔
      fail = false ∧ ∃ row p, Table.fetchOptional (fun r => r.token = token) t = some row ∧
        row.decode = some p ∧ p.checkValid now = some true ∧ p.role = r := by
  unfold getRole
  cases fail with
  | true =>
      simp only [if_true, Bool.true_eq_false, false_and, iff_false]
      intro h
      nomatch h
  | false =>
      simp only [Bool.false_eq_true, if_false, true_and]
      cases hf : Table.fetchOptional (fun r => decide (r.token = token)) t with
      | none =>
          simp only [reduceCtorEq, false_and, exists_false, iff_false]
          intro h
          nomatch h
      | some row =>
          cases hd : row.decode with
          | none => simp [hd]
          | some p =>
              cases hv : p.checkValid now with
              | none => simp [hd, hv]
              | some b =>
                  cases b <;> simp [hd, hv]

/-- A panic of `get_role` is a row that does not decode or a validity check
    that overflows. -/
theorem getRole_eq_none {fail : Bool} {token : String} {now : DateTime}
    {t : List PasstokenRow} :
    getRole fail token now t = none ↔
      fail = false ∧ ∃ row, Table.fetchOptional (fun r => r.token = token) t = some row ∧
        (row.decode = none ∨ ∃ p, row.decode = some p ∧ p.checkValid now = none) := by
  unfold getRole
  cases fail with
  | true => simp
  | false =>
      simp only [Bool.false_eq_true, if_false, true_and]
      cases hf : Table.fetchOptional (fun r => decide (r.token = token)) t with
      | none => simp
      | some row =>
          cases hd : row.decode with
          | none => simp [hd]
          | some p =>
              cases hv : p.checkValid now with
              | none => simp [hd, hv]
              | some b => simp [hd, hv]

/-- `get_role` refuses a token as `Authorized` exactly when its statement
    succeeds, finds a row for the token, the row decodes, and the token is no
    longer valid. -/
theorem getRole_eq_authorized {fail : Bool} {token : String} {now : DateTime}
    {t : List PasstokenRow} :
    getRole fail token now t = some (.error .authorized) ↔
      fail = false ∧ ∃ row p, Table.fetchOptional (fun r => r.token = token) t = some row ∧
        row.decode = some p ∧ p.checkValid now = some false := by
  unfold getRole
  cases fail with
  | true => simp
  | false =>
      simp only [Bool.false_eq_true, if_false, true_and]
      cases hf : Table.fetchOptional (fun r => decide (r.token = token)) t with
      | none => simp
      | some row =>
          cases hd : row.decode with
          | none => simp [hd]
          | some p =>
              cases hv : p.checkValid now with
              | none => simp [hd, hv]
              | some b =>
                  cases b <;> simp [hd, hv]

end QrAuthentication
