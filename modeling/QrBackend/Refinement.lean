import Mathlib
import QrBackend.App

/-! # The endpoints are database calls — `src/app/*.rs` over `src/database/`

    Once past `get_role`, every write endpoint makes at most one call of
    `src/database/` that changes the database, and `gen_passtoken` writes the
    passtoken table alone.  So each input of the server changes the database,
    pass tokens apart, as one `DbOp` call does or not at all
    (`serveState_dbStep`), and every state the server reaches is, pass tokens
    apart, a state that a run of database calls reaches from the empty
    database (`reachable_db`): what holds after every run of database calls
    holds at every reachable server (`reachable_of_run`).

    A handler numbers its statements after `get_role`'s site `0`; the call it
    makes sees the handler's fault pattern shifted past its own earlier sites
    (`shift`). -/

namespace QrRefinement

open Chrono QrModel QrErrorHandling QrAuthentication QrDatabase QrSearchEngine QrApp Runs

/-- The fault pattern of a call whose first statement is the handler's site `k`. -/
def shift (k : Nat) (ff : Faults) : Faults :=
  fun i => ff (i + k)

/-- The database with its passtoken table emptied: what database calls see. -/
def withoutTokens (db : Db) : Db :=
  { db with passtoken := [] }

/-- One input's effect on the database: none, or one database call. -/
def DbStep (db db' : Db) : Prop :=
  db' = db ∨ ∃ ff op, db' = DbOp.apply ff db op

/-! ## Database calls leave the pass tokens alone -/

@[simp]
theorem DbOp.apply_withoutTokens (ff : Faults) (db : Db) (op : DbOp) :
    withoutTokens (op.apply ff db) = op.apply ff (withoutTokens db) := by
  cases op <;> rfl

@[simp]
theorem DbOp.apply_passtoken (ff : Faults) (db : Db) (op : DbOp) :
    (op.apply ff db).passtoken = db.passtoken := by
  cases op <;> rfl

/-- No database call writes the passtoken table. -/
theorem DbStep.passtoken {db db' : Db} (h : DbStep db db') : db'.passtoken = db.passtoken := by
  rcases h with rfl | ⟨ff, op, rfl⟩
  · rfl
  · exact DbOp.apply_passtoken ff db op

theorem DbStep.withoutTokens {db db' : Db} (h : DbStep db db') :
    DbStep (withoutTokens db) (withoutTokens db') := by
  rcases h with rfl | ⟨ff, op, rfl⟩
  · exact Or.inl rfl
  · exact Or.inr ⟨ff, op, DbOp.apply_withoutTokens ff db op⟩

/-- A run of calls, then one more. -/
theorem DbOp.run_concat (db : Db) (calls : List (Faults × DbOp)) (ff : Faults) (op : DbOp) :
    DbOp.run db (calls ++ [(ff, op)]) = op.apply ff (DbOp.run db calls) := by
  simp only [DbOp.run, run_append, run_cons, run_nil]

/-! ## Each handler makes at most one call -/

section Handlers

variable {st st' : State} {r : ReturnData Unit}

/-- A one-table write is no call or the call that wrote the table. -/
theorem commitWrite_dbStep {ρ : Type} {w : Except QrError (List ρ)} {set : List ρ → Db → Db}
    (hset : ∀ t, w = .ok t → ∃ ff op, set t st.db = DbOp.apply ff st.db op)
    (h : commitWrite w set st = some (r, st')) : DbStep st.db st'.db := by
  rcases commitWrite_eq_some h with ⟨_, -, -, rfl⟩ | ⟨t, hw, -, rfl⟩
  · exact Or.inl rfl
  · exact Or.inr (hset t hw)

/-- A fixtures write changes the database by its database call alone; the
    index write that follows is not a database call. -/
theorem writeThenIndex_dbStep {dbWrite : Except QrError (List FixturesRow)}
    {idxWrite : Index Fixtures → Except QrError Unit × Index Fixtures}
    (hset : ∀ t, dbWrite = .ok t → ∃ ff op, { st.db with fixtures := t } = DbOp.apply ff st.db op)
    (h : writeThenIndex dbWrite idxWrite st = some (r, st')) : DbStep st.db st'.db := by
  rcases writeThenIndex_eq_some h with ⟨_, -, -, rfl⟩ | ⟨t, hw, -, rfl⟩
  · exact Or.inl rfl
  · exact Or.inr (hset t hw)

variable (parseUuid : String → Option Uuid)

/-- **ONE CALL**: a served request changes the database as one database call
    does, at the handler's sites shifted past `get_role`, or not at all. -/
theorem serve_dbStep {ff : Faults} {now : DateTime} {req : Request}
    (h : serve parseUuid ff now st req = some (r, st')) : DbStep st.db st'.db := by
  let P : State → Prop := fun s => DbStep st.db s.db
  have hst : P st := Or.inl rfl
  cases req with
  | insertFixtures bearer body =>
      refine withRole_preserves P hst (fun r st' hb => writeThenIndex_dbStep ?_ hb) h
      intro t ht
      exact ⟨shift 1 ff, .insertFixtures body, by simp only [DbOp.apply, shift, ht, commit]⟩
  | updateFixtures bearer body =>
      refine withRole_preserves P hst (fun r st' hb => writeThenIndex_dbStep ?_ hb) h
      intro t ht
      exact ⟨shift 1 ff, .updateFixtures body, by simp only [DbOp.apply, shift, ht, commit]⟩
  | deleteFixtures bearer query =>
      refine withRole_preserves P hst (fun r st' hb => ?_) h
      -- a missing or broken id answers with the state as it was
      split at hb
      · cases hb
        exact hst
      · split at hb
        · cases hb
          exact hst
        · rename_i uuid _
          refine writeThenIndex_dbStep (fun t ht => ?_) hb
          exact ⟨shift 1 ff, .deleteFixtures uuid, by simp only [DbOp.apply, shift, ht, commit]⟩
  | insertLending bearer body =>
      refine withRole_preserves P hst (fun r st' hb => commitWrite_dbStep (fun t ht => ?_) hb) h
      exact ⟨shift 1 ff, .insertLending body, by simp only [DbOp.apply, shift, ht, commit]; rfl⟩
  | updateLending bearer body =>
      refine withRole_preserves P hst (fun r st' hb => commitWrite_dbStep (fun t ht => ?_) hb) h
      exact ⟨shift 1 ff, .updateLending body, by simp only [DbOp.apply, shift, ht, commit]; rfl⟩
  | returnedLending bearer query returnedAt =>
      refine withRole_preserves P hst (fun r st' hb => ?_) h
      -- by id, by QR id through `get_one_fixtures`, or neither
      split at hb
      · split at hb
        · rename_i uuid _
          refine commitWrite_dbStep (fun t ht => ?_) hb
          exact ⟨shift 2 ff, .returnedLending uuid returnedAt,
            by simp only [DbOp.apply, shift, ht, commit]; rfl⟩
        · cases hb
          exact hst
      · split at hb
        · nomatch hb
        · cases hb
          exact hst
        · rename_i fixtures _
          refine commitWrite_dbStep (fun t ht => ?_) hb
          exact ⟨shift 2 ff, .returnedLending fixtures.id returnedAt,
            by simp only [DbOp.apply, shift, ht, commit]; rfl⟩
      · cases hb
        exact hst
  | insertSpot bearer body =>
      refine withRole_preserves P hst (fun r st' hb => commitWrite_dbStep (fun t ht => ?_) hb) h
      exact ⟨shift 1 ff, .insertSpot body, by simp only [DbOp.apply, shift, ht, commit]; rfl⟩
  | updateSpot bearer body =>
      refine withRole_preserves P hst (fun r st' hb => commitWrite_dbStep (fun t ht => ?_) hb) h
      exact ⟨shift 1 ff, .updateSpot body, by simp only [DbOp.apply, shift, ht, commit]; rfl⟩
  | deleteSpot bearer query =>
      refine withRole_preserves P hst (fun r st' hb => ?_) h
      split at hb
      · rename_i name _
        refine commitWrite_dbStep (fun t ht => ?_) hb
        exact ⟨shift 1 ff, .deleteSpot name, by simp only [DbOp.apply, shift, ht, commit]; rfl⟩
      · cases hb
        exact hst
  | insertContainer bearer body =>
      refine withRole_preserves P hst (fun r st' hb => commitWrite_dbStep (fun t ht => ?_) hb) h
      exact ⟨shift 1 ff, .insertContainer body,
        by simp only [DbOp.apply, shift, ht, commit]; rfl⟩

variable (env : String → Option String) (nfc : String → String)

/-- **ONE CALL**: every input, `gen_passtoken` included, changes the database
    apart from its pass tokens as one database call does, or not at all. -/
theorem serveState_dbStep (ff : Faults) (now : DateTime) (st : State) (input : Input) :
    DbStep (withoutTokens st.db)
      (withoutTokens (serveState parseUuid env nfc ff now st input).db) := by
  cases input with
  | request req =>
      cases hs : serve parseUuid ff now st req with
      | none =>
          simp only [serveState, hs]
          exact Or.inl rfl
      | some res =>
          simp only [serveState, hs]
          exact (serve_dbStep parseUuid hs).withoutTokens
  | genPasstoken username password token =>
      -- only the passtoken table can change
      simp only [serveState, apiGenPasstoken]
      rcases genPasstoken_state env nfc token now ff username password st with h | ⟨_, t, -, h⟩
      · rw [h]
        exact Or.inl rfl
      · rw [h]
        exact Or.inl rfl

/-- A run of inputs from a reachable server ends at a reachable server. -/
theorem reachable_run {st : State} (h : Reachable parseUuid env nfc st)
    (inputs : List (Faults × DateTime × Input)) :
    Reachable parseUuid env nfc
      (run (fun st c => serveState parseUuid env nfc c.1 c.2.1 st c.2.2) st inputs) := by
  induction inputs generalizing st with
  | nil => exact h
  | cons c inputs ih => exact ih (.step c.1 c.2.1 c.2.2 h)

/-- **THE SERVER REFINES THE DATABASE CALLS**: every state the server
    reaches holds, pass tokens apart, the database some run of database calls
    reaches from the empty one. -/
theorem reachable_db {st : State} (h : Reachable parseUuid env nfc st) :
    ∃ calls, DbOp.run Db.empty calls = withoutTokens st.db := by
  induction h with
  | init => exact ⟨[], rfl⟩
  | step ff now input _ ih =>
      obtain ⟨calls, hcalls⟩ := ih
      rename_i st _
      rcases serveState_dbStep parseUuid env nfc ff now st input with heq | ⟨ff', op, heq⟩
      · exact ⟨calls, hcalls.trans heq.symm⟩
      · refine ⟨calls ++ [(ff', op)], ?_⟩
        rw [DbOp.run_concat, hcalls, heq]

/-- What holds after every run of database calls holds, pass tokens apart,
    at every reachable server. -/
theorem reachable_of_run (P : Db → Prop) (hP : ∀ calls, P (DbOp.run Db.empty calls))
    {st : State} (h : Reachable parseUuid env nfc st) : P (withoutTokens st.db) := by
  obtain ⟨calls, hcalls⟩ := reachable_db parseUuid env nfc h
  rw [← hcalls]
  exact hP calls

end Handlers

end QrRefinement
