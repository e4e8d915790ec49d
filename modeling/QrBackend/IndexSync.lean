import Mathlib
import QrBackend.App

/-! # The search index follows the fixtures table — `src/app/fixtures.rs`

    Every item lives twice: as a row of the `fixtures` table and as a document
    of the Meilisearch index `fixtures`.  The three fixtures endpoints write
    the database first and the index second, with no rollback in between
    (`writeThenIndex`), and `update_fixtures` succeeds on an id the table does
    not hold — the `UPDATE` matches no row — after which the handler still
    upserts the document.

    `Mirrors t idx` says the index holds, under each id, an item whose row the
    table holds, and nothing where the table holds none.  The two keep an
    item differently: the index as it was sent, the table with `created_at`
    at the microsecond (`Fixtures.stored`), so the index holds an item whose
    stored form is the table's row.  `Mirrors` is kept by every input of the
    server as long as

    * the task of a fixtures endpoint's index write is applied — whatever the
      write answers: a wait that times out while its task is applied keeps the
      index in step, a task Meilisearch fails while the call answers `Ok` does
      not; and
    * `update_fixtures` names an item the table holds;

    `mirrors_run` carries it over every run that meets both, and
    `updateFixtures_unknown_id` shows what an update of an unknown id does. -/

namespace QrIndexSync

open Chrono QrModel QrErrorHandling QrAuthentication QrDatabase QrSearchEngine Table Runs QrApp

/-- Under each id the index holds an item whose row, as the table keeps it,
    is the row the table holds, and nothing where the table has no row. -/
def Mirrors (t : List FixturesRow) (idx : Index Fixtures) : Prop :=
  ∀ id, (idx id).map (fun f => FixturesRow.encode f.stored) = fetchOptional (fun r => r.id = id) t

theorem mirrors_empty : Mirrors State.empty.db.fixtures State.empty.index := by
  intro id
  rfl

/-! ## The three writes, on both sides -/

section Writes

variable {t : List FixturesRow} {idx : Index Fixtures}

/-- An insert of a fresh item on both sides keeps the index in step. -/
theorem mirrors_insert {f : Fixtures} (h : Mirrors t idx) (hfresh : ∀ r ∈ t, r.id ≠ f.id) :
    Mirrors (t ++ [FixturesRow.encode f.stored]) (Function.update idx f.id (some f)) := by
  intro id
  by_cases hid : id = f.id
  · -- the new row is the first with its id
    subst hid
    rw [Function.update_self,
      fetchOptional_append_fresh (fun r hr => decide_eq_false (hfresh r hr)) (decide_eq_true rfl)]
    rfl
  · rw [Function.update_of_ne hid, h id, fetchOptional_append_singleton]
    have hne : decide ((FixturesRow.encode f.stored).id = id) = false :=
      decide_eq_false (Ne.symm hid)
    rw [hne]
    simp

/-- An update of an item the table holds, on both sides, keeps the index in
    step. -/
theorem mirrors_update {f : Fixtures} (h : Mirrors t idx) (hex : ∃ r ∈ t, r.id = f.id) :
    Mirrors (update (fun r => r.id = f.id) (fun _ => FixturesRow.encode f.stored) t)
      (Function.update idx f.id (some f)) := by
  intro id
  by_cases hid : id = f.id
  · -- the table's first row with the id is rewritten to the item
    subst hid
    have hsel : ∃ r ∈ t, decide (r.id = f.id) = true := by
      obtain ⟨r, hr, hrid⟩ := hex
      exact ⟨r, hr, decide_eq_true hrid⟩
    rw [fetchOptional_update_const (c := FixturesRow.encode f.stored) (decide_eq_true rfl) hsel,
      Function.update_self]
    rfl
  · rw [Function.update_of_ne hid, h id, fetchOptional_update_of_disjoint]
    intro r hp
    have hr : r.id = f.id := of_decide_eq_true hp
    constructor
    · simpa [hr] using Ne.symm hid
    · exact decide_eq_false (Ne.symm hid)

/-- A delete on both sides keeps the index in step. -/
theorem mirrors_delete (h : Mirrors t idx) (u : Uuid) :
    Mirrors (delete (fun r => r.id = u) t) (Function.update idx u none) := by
  intro id
  by_cases hid : id = u
  · subst hid
    rw [Function.update_self, fetchOptional_delete_self]
    rfl
  · rw [Function.update_of_ne hid, h id, fetchOptional_delete_of_disjoint]
    intro r hq
    have hr : r.id = id := of_decide_eq_true hq
    simpa [hr] using hid

end Writes

/-! ## Through the handlers -/

/-- A fixtures endpoint keeps the index in step when, after a database write
    that succeeds, its index write leaves an index in step, whatever it
    answers. -/
theorem mirrors_writeThenIndex {dbWrite : Except QrError (List FixturesRow)}
    {idxWrite : Index Fixtures → Except QrError Unit × Index Fixtures} {st st' : State}
    {r : ReturnData Unit} (hm : Mirrors st.db.fixtures st.index)
    (hidx : ∀ t, dbWrite = .ok t → Mirrors t (idxWrite st.index).2)
    (h : writeThenIndex dbWrite idxWrite st = some (r, st')) :
    Mirrors st'.db.fixtures st'.index := by
  rcases writeThenIndex_eq_some h with ⟨_, -, -, rfl⟩ | ⟨t, hw, -, rfl⟩
  · exact hm
  · exact hidx t hw

/-- A one-table write to another table leaves the fixtures table and the index
    as they were. -/
theorem mirrors_commitWrite {ρ : Type} {w : Except QrError (List ρ)} {set : List ρ → Db → Db}
    {st st' : State} {r : ReturnData Unit} (hm : Mirrors st.db.fixtures st.index)
    (h : commitWrite w set st = some (r, st')) (hset : ∀ t db, (set t db).fixtures = db.fixtures) :
    Mirrors st'.db.fixtures st'.index := by
  rcases commitWrite_eq_some h with ⟨_, -, -, rfl⟩ | ⟨t, -, -, rfl⟩
  · exact hm
  · show Mirrors (set t st.db).fixtures st.index
    rw [hset t st.db]
    exact hm

section Server

variable (parseUuid : String → Option Uuid) (env : String → Option String) (nfc : String → String)

/-- What keeping the index in step asks of an input: the task of a fixtures
    endpoint's index write is applied (site `3`), and `update_fixtures` names
    an item the table holds.  The code checks neither. -/
def Admissible (st : State) : Faults × DateTime × Input → Prop
  | (ff, _, .request (.insertFixtures _ _)) => ff 3 = false
  | (ff, _, .request (.updateFixtures _ body)) =>
      ff 3 = false ∧ ∃ r ∈ st.db.fixtures, r.id = body.id
  | (ff, _, .request (.deleteFixtures _ _)) => ff 3 = false
  | _ => True

/-- **STEP**: every admissible request keeps the index in step. -/
theorem mirrors_serve {ff : Faults} {now : DateTime} {st st' : State} {req : Request}
    {r : ReturnData Unit} (hm : Mirrors st.db.fixtures st.index)
    (hc : Admissible st (ff, now, .request req)) (h : serve parseUuid ff now st req = some (r, st')) :
    Mirrors st'.db.fixtures st'.index := by
  let P : State → Prop := fun s => Mirrors s.db.fixtures s.index
  cases req with
  | insertFixtures bearer body =>
      refine withRole_preserves P hm (fun r st' hb => mirrors_writeThenIndex hm ?_ hb) h
      intro t ht
      obtain ⟨-, hfresh, rfl⟩ := insertFixtures_eq_ok.mp ht
      have h3 : ff 3 = false := hc
      simp only [addOrReplace_singleton_snd, h3, Bool.false_eq_true, if_false]
      exact mirrors_insert hm hfresh
  | updateFixtures bearer body =>
      obtain ⟨hidx, hex⟩ := hc
      refine withRole_preserves P hm (fun r st' hb => mirrors_writeThenIndex hm ?_ hb) h
      intro t ht
      obtain ⟨-, rfl⟩ := updateFixtures_eq_ok.mp ht
      simp only [addOrReplace_singleton_snd, hidx, Bool.false_eq_true, if_false]
      exact mirrors_update hm hex
  | deleteFixtures bearer query =>
      refine withRole_preserves P hm (fun r st' hb => ?_) h
      -- a missing or broken id answers with the state as it was
      split at hb
      · cases hb
        exact hm
      · split at hb
        · cases hb
          exact hm
        · refine mirrors_writeThenIndex hm ?_ hb
          intro t ht
          obtain ⟨-, rfl⟩ := deleteFixtures_eq_ok.mp ht
          have h3 : ff 3 = false := hc
          simp only [delete_singleton_snd, h3, Bool.false_eq_true, if_false]
          exact mirrors_delete hm _
  | insertLending bearer body | updateLending bearer body =>
      refine withRole_preserves P hm (fun r st' hb => ?_) h
      exact mirrors_commitWrite hm hb (fun _ _ => rfl)
  | returnedLending bearer query returnedAt =>
      refine withRole_preserves P hm (fun r st' hb => ?_) h
      split at hb
      · split at hb
        · exact mirrors_commitWrite hm hb (fun _ _ => rfl)
        · cases hb
          exact hm
      · split at hb
        · nomatch hb
        · cases hb
          exact hm
        · exact mirrors_commitWrite hm hb (fun _ _ => rfl)
      · cases hb
        exact hm
  | insertSpot bearer body | updateSpot bearer body =>
      refine withRole_preserves P hm (fun r st' hb => ?_) h
      exact mirrors_commitWrite hm hb (fun _ _ => rfl)
  | deleteSpot bearer query =>
      refine withRole_preserves P hm (fun r st' hb => ?_) h
      split at hb
      · exact mirrors_commitWrite hm hb (fun _ _ => rfl)
      · cases hb
        exact hm
  | insertContainer bearer body =>
      refine withRole_preserves P hm (fun r st' hb => ?_) h
      exact mirrors_commitWrite hm hb (fun _ _ => rfl)

/-- **STEP**: every admissible input keeps the index in step. -/
theorem mirrors_serveState (st : State) (c : Faults × DateTime × Input)
    (hm : Mirrors st.db.fixtures st.index) (hc : Admissible st c) :
    Mirrors (serveState parseUuid env nfc c.1 c.2.1 st c.2.2).db.fixtures
      (serveState parseUuid env nfc c.1 c.2.1 st c.2.2).index := by
  obtain ⟨ff, now, input⟩ := c
  cases input with
  | request req =>
      cases hs : serve parseUuid ff now st req with
      | none =>
          simp only [serveState, hs]
          exact hm
      | some res =>
          simp only [serveState, hs]
          exact mirrors_serve parseUuid hm hc hs
  | genPasstoken username password token =>
      -- only the passtoken table can change
      simp only [serveState, apiGenPasstoken]
      rcases genPasstoken_state env nfc token now ff username password st with h | ⟨_, t, -, h⟩
      · rw [h]
        exact hm
      · rw [h]
        exact hm

/-- **THE INDEX FOLLOWS THE TABLE**: from every state whose index mirrors its
    fixtures table, every run of inputs each admissible where it is fed ends
    with the index mirroring the table. -/
theorem mirrors_run (st : State) (inputs : List (Faults × DateTime × Input))
    (hm : Mirrors st.db.fixtures st.index)
    (hg : Guarded (fun st c => serveState parseUuid env nfc c.1 c.2.1 st c.2.2) Admissible st
      inputs) :
    Mirrors (run (fun st c => serveState parseUuid env nfc c.1 c.2.1 st c.2.2) st inputs).db.fixtures
      (run (fun st c => serveState parseUuid env nfc c.1 c.2.1 st c.2.2) st inputs).index :=
  run_invariant_of_guarded (fun st => Mirrors st.db.fixtures st.index) Admissible
    (mirrors_serveState parseUuid env nfc) inputs st hm hg

end Server

/-! ## An administrator's server -/

/-- An administrator's pass token, issued at the epoch for 30 days. -/
def adminPasstoken : Passtoken :=
  Passtoken.new "admin-token" DateTime.unixEpoch .administrator 30

/-- A server whose only pass token is `adminPasstoken`, with empty tables and index. -/
def adminState : State :=
  { db := { Db.empty with passtoken := [PasstokenRow.encode adminPasstoken] },
    index := fun _ => none }

/-- An item of equipment. -/
def itemX : Fixtures :=
  { id := ⟨20⟩, createdAt := DateTime.unixEpoch, qrId := "x234", qrColor := .red, name := "test",
    description := none, modelNumber := none, storage := .room101, usage := none,
    usageSeason := none, note := "", parentId := "" }

theorem mirrors_run_insert :
    Mirrors (run (fun st c => serveState (fun _ => none) (fun _ => none) (fun s => s) c.1 c.2.1 st c.2.2)
        adminState [(noFaults, DateTime.unixEpoch, .request (.insertFixtures "admin-token" itemX))]).db.fixtures
      (run (fun st c => serveState (fun _ => none) (fun _ => none) (fun s => s) c.1 c.2.1 st c.2.2)
        adminState [(noFaults, DateTime.unixEpoch, .request (.insertFixtures "admin-token" itemX))]).index :=
  mirrors_run (fun _ => none) (fun _ => none) (fun s => s) adminState _ (fun _ => rfl) ⟨rfl, trivial⟩

/-- An administrator updates an item the table does not hold: the `UPDATE`
    matches no row, the handler upserts the document, and the index now holds
    an item the table does not. -/
theorem updateFixtures_unknown_id :
    Mirrors adminState.db.fixtures adminState.index ∧
      ¬ Mirrors
        (serveState (fun _ => none) (fun _ => none) (fun s => s) noFaults DateTime.unixEpoch
          adminState (.request (.updateFixtures "admin-token" itemX))).db.fixtures
        (serveState (fun _ => none) (fun _ => none) (fun s => s) noFaults DateTime.unixEpoch
          adminState (.request (.updateFixtures "admin-token" itemX))).index := by
  refine ⟨fun _ => rfl, ?_⟩
  intro h
  have hx := h itemX.id
  revert hx
  decide

end QrIndexSync
