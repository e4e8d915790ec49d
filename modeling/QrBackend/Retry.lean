import Mathlib
import QrBackend.ReadAfterWrite

/-! # Sending a fixtures request again — `src/app/fixtures.rs`

    A client that lost the response to a fixtures write may send the request
    again.  What the second request does to the server, whatever it answers:

    * `update_fixtures` and `delete_fixtures` after a success leave the
      database as it was: the `UPDATE` writes the row it already wrote, and
      the `DELETE` finds nothing left.  The index is as it was, or has the
      retry's task applied: the first task may have failed behind its
      `ok: true` (`QrBackend.SearchEngine`), and the retry then brings the
      index in line.  When the first task was applied, the server is as it
      was (`updateFixtures_retry`, `deleteFixtures_retry`);
    * `insert_fixtures` after a success is refused with the state as it was:
      the `INSERT` meets the row under the item's id (`insertFixtures_retry`).

    The two-phase write has no rollback, so a retry may fail half-way; the
    theorems cover that outcome too, since the table write stores what is
    already there. -/

namespace QrRetry

open Chrono QrModel QrErrorHandling QrAuthentication QrDatabase QrSearchEngine Table QrApp
open QrIndexSync QrReturnByQr QrReadAfterWrite

variable {ff ff' : Faults} {now now' : DateTime} {bearer bearer' : String}
  {st st' st'' : State} {r r' : ReturnData Unit}

/-- Two server states with the same database and index are the same. -/
theorem State.eq_of_db_index (hdb : st''.db = st'.db) (hidx : st''.index = st'.index) :
    st'' = st' := by
  cases st''
  cases st'
  cases hdb
  cases hidx
  rfl

/-- A fixtures write whose table write would store what the server already
    holds leaves the database as it was, and the index as it was or as its
    index call left it. -/
theorem writeThenIndex_retry {dbWrite : Except QrError (List FixturesRow)}
    {idxWrite : Index Fixtures → Except QrError Unit × Index Fixtures}
    (hdb : ∀ t, dbWrite = .ok t → t = st.db.fixtures)
    (h : writeThenIndex dbWrite idxWrite st = some (r, st')) :
    st'.db = st.db ∧ (st'.index = st.index ∨ st'.index = (idxWrite st.index).2) := by
  rcases writeThenIndex_eq_some h with ⟨_, -, -, rfl⟩ | ⟨t, hw, -, rfl⟩
  · exact ⟨rfl, Or.inl rfl⟩
  · -- the table write wrote what was there; the index is what the call left
    obtain rfl := hdb t hw
    exact ⟨rfl, Or.inr rfl⟩

/-- A retried one-key index call leaves the index as it was, or as its task
    leaves it when applied: a task that fails leaves it as it was too. -/
theorem index_retry {idx idx' new : Index Fixtures} {taskFails : Bool}
    (h : idx' = idx ∨ idx' = if taskFails = true then idx else new) :
    idx' = idx ∨ idx' = new := by
  cases taskFails with
  | true =>
      rw [if_pos rfl, or_self] at h
      exact Or.inl h
  | false =>
      rw [if_neg Bool.false_ne_true] at h
      exact h

/-- Once a one-key index task has been applied, applying it again changes
    nothing. -/
theorem index_retry_applied {idx idx' : Index Fixtures} {k : Uuid} {v : Option Fixtures}
    (idx₀ : Index Fixtures) (hfirst : idx = Function.update idx₀ k v)
    (h : idx' = idx ∨ idx' = Function.update idx k v) :
    idx' = idx := by
  rcases h with hkept | hagain
  · exact hkept
  · rw [hagain, hfirst, Function.update_idem]

/-- **A RETRIED UPDATE ONLY CATCHES THE INDEX UP**: after `update_fixtures`
    answers success, the same item sent again leaves the database as it was
    and the index as it was or with the item upserted, whatever the second
    request answers; when the first request's task was applied, it leaves
    the server as it was. -/
theorem updateFixtures_retry {f : Fixtures}
    (h : QrApp.updateFixtures ff now bearer f st = some (r, st')) (hok : r.2.ok = true)
    (h' : QrApp.updateFixtures ff' now' bearer' f st' = some (r', st'')) :
    st''.db = st'.db ∧
      (st''.index = st'.index ∨ st''.index = Function.update st'.index f.id (some f)) ∧
      (ff 3 = false → st'' = st') := by
  obtain ⟨t, hw, -, hst'⟩ := writeThenIndex_ok (withRole_ok h hok) hok
  obtain ⟨-, ht⟩ := updateFixtures_eq_ok.mp hw
  have htable : st'.db.fixtures =
      update (fun r => r.id = f.id) (fun _ => FixturesRow.encode f.stored) st.db.fixtures := by
    rw [hst', ht]
  -- the retry writes the item's row over itself
  have hsame : ∀ t', QrDatabase.updateFixtures (ff' 1) f st'.db.fixtures = .ok t' →
      t' = st'.db.fixtures := by
    intro t' hw'
    obtain ⟨-, rfl⟩ := updateFixtures_eq_ok.mp hw'
    rw [htable]
    exact update_const_idem (p := fun r : FixturesRow => r.id = f.id) (decide_eq_true rfl) _
  have hretry : st''.db = st'.db ∧
      (st''.index = st'.index ∨ st''.index = Function.update st'.index f.id (some f)) := by
    refine withRole_preserves
      (fun s => s.db = st'.db ∧
        (s.index = st'.index ∨ s.index = Function.update st'.index f.id (some f)))
      ⟨rfl, Or.inl rfl⟩ (fun _ _ hb => ?_) h'
    obtain ⟨hdb, hidx⟩ := writeThenIndex_retry hsame hb
    rw [addOrReplace_singleton_snd] at hidx
    exact ⟨hdb, index_retry hidx⟩
  refine ⟨hretry.1, hretry.2, fun happlied => State.eq_of_db_index hretry.1 ?_⟩
  -- the first task upserted the item, so upserting it again changes nothing
  refine index_retry_applied st.index ?_ hretry.2
  rw [hst', addOrReplace_singleton_snd, happlied]
  rfl

theorem updateFixtures_retry_lentState :
    ∃ r st' r' st'', QrApp.updateFixtures noFaults DateTime.unixEpoch "admin-token"
        itemXRelabelled lentState = some (r, st') ∧ r.2.ok = true ∧
      QrApp.updateFixtures noFaults DateTime.unixEpoch "admin-token" itemXRelabelled st' =
        some (r', st'') ∧
      st''.db = st'.db ∧
        (st''.index = st'.index ∨
          st''.index = Function.update st'.index itemXRelabelled.id (some itemXRelabelled)) ∧
        (noFaults 3 = false → st'' = st') := by
  obtain ⟨r, st', r', st'', h, hok, h'⟩ : ∃ r st' r' st'', QrApp.updateFixtures noFaults
      DateTime.unixEpoch "admin-token" itemXRelabelled lentState = some (r, st') ∧
      r.2.ok = true ∧ QrApp.updateFixtures noFaults DateTime.unixEpoch "admin-token"
        itemXRelabelled st' = some (r', st'') := ⟨_, _, _, _, rfl, rfl, rfl⟩
  exact ⟨r, st', r', st'', h, hok, h', updateFixtures_retry h hok h'⟩

/-- **A RETRIED DELETE ONLY CATCHES THE INDEX UP**: after `delete_fixtures`
    answers success, the same query sent again leaves the database as it was
    and the index as it was or with the id's entry cleared, whatever the
    second request answers; when the first request's task was applied, it
    leaves the server as it was. -/
theorem deleteFixtures_retry (parseUuid : String → Option Uuid) {query : Query}
    (h : QrApp.deleteFixtures parseUuid ff now bearer query st = some (r, st'))
    (hok : r.2.ok = true)
    (h' : QrApp.deleteFixtures parseUuid ff' now' bearer' query st' = some (r', st'')) :
    st''.db = st'.db ∧
      (st''.index = st'.index ∨ ∃ id uuid, query "id" = some id ∧ parseUuid id = some uuid ∧
        st''.index = Function.update st'.index uuid none) ∧
      (ff 3 = false → st'' = st') := by
  have hbody := withRole_ok h hok
  -- the first request succeeded, so its query named an id that parses
  cases hq : query "id" with
  | none =>
      simp only [hq] at hbody
      cases hbody
      exact absurd hok Bool.false_ne_true
  | some id =>
      cases hp : parseUuid id with
      | none =>
          simp only [hq, hp] at hbody
          cases hbody
          exact absurd hok Bool.false_ne_true
      | some uuid =>
          simp only [hq, hp] at hbody
          simp only [QrApp.deleteFixtures, hq, hp] at h'
          obtain ⟨t, hw, -, hst'⟩ := writeThenIndex_ok hbody hok
          obtain ⟨-, ht⟩ := deleteFixtures_eq_ok.mp hw
          have htable : st'.db.fixtures = delete (fun r => r.id = uuid) st.db.fixtures := by
            rw [hst', ht]
          -- the retry deletes what is gone already
          have hsame : ∀ t', QrDatabase.deleteFixtures (ff' 1) uuid st'.db.fixtures = .ok t' →
              t' = st'.db.fixtures := by
            intro t' hw'
            obtain ⟨-, rfl⟩ := deleteFixtures_eq_ok.mp hw'
            rw [htable, delete_delete]
          have hretry : st''.db = st'.db ∧
              (st''.index = st'.index ∨ st''.index = Function.update st'.index uuid none) := by
            refine withRole_preserves
              (fun s => s.db = st'.db ∧
                (s.index = st'.index ∨ s.index = Function.update st'.index uuid none))
              ⟨rfl, Or.inl rfl⟩ (fun _ _ hb => ?_) h'
            obtain ⟨hdb, hidx⟩ := writeThenIndex_retry hsame hb
            rw [delete_singleton_snd] at hidx
            exact ⟨hdb, index_retry hidx⟩
          refine ⟨hretry.1, ?_, fun happlied => State.eq_of_db_index hretry.1 ?_⟩
          · rcases hretry.2 with hkept | hdel
            · exact Or.inl hkept
            · exact Or.inr ⟨id, uuid, rfl, hp, hdel⟩
          · -- the first task cleared the id, so clearing it again changes nothing
            refine index_retry_applied st.index ?_ hretry.2
            rw [hst', delete_singleton_snd, happlied]
            rfl

theorem deleteFixtures_retry_lentState :
    ∃ r st' r' st'', QrApp.deleteFixtures parseItemX noFaults DateTime.unixEpoch "admin-token"
        (idQuery itemX.id.toString) lentState = some (r, st') ∧ r.2.ok = true ∧
      QrApp.deleteFixtures parseItemX noFaults DateTime.unixEpoch "admin-token"
        (idQuery itemX.id.toString) st' = some (r', st'') ∧
      st''.db = st'.db ∧
        (st''.index = st'.index ∨ ∃ id uuid, idQuery itemX.id.toString "id" = some id ∧
          parseItemX id = some uuid ∧ st''.index = Function.update st'.index uuid none) ∧
        (noFaults 3 = false → st'' = st') := by
  obtain ⟨r, st', r', st'', h, hok, h'⟩ : ∃ r st' r' st'', QrApp.deleteFixtures parseItemX
      noFaults DateTime.unixEpoch "admin-token" (idQuery itemX.id.toString) lentState =
        some (r, st') ∧ r.2.ok = true ∧
      QrApp.deleteFixtures parseItemX noFaults DateTime.unixEpoch "admin-token"
        (idQuery itemX.id.toString) st' = some (r', st'') := ⟨_, _, _, _, rfl, rfl, rfl⟩
  exact ⟨r, st', r', st'', h, hok, h', deleteFixtures_retry parseItemX h hok h'⟩

/-- **A RETRIED INSERT IS REFUSED**: after `insert_fixtures` answers success,
    the same item sent again answers an error and leaves the server as it
    was: the `INSERT` meets the row under the item's id. -/
theorem insertFixtures_retry {f : Fixtures}
    (h : QrApp.insertFixtures ff now bearer f st = some (r, st')) (hok : r.2.ok = true)
    (h' : QrApp.insertFixtures ff' now' bearer' f st' = some (r', st'')) :
    r'.2.ok = false ∧ st'' = st' := by
  obtain ⟨t, hw, -, hst'⟩ := writeThenIndex_ok (withRole_ok h hok) hok
  obtain ⟨-, -, ht⟩ := insertFixtures_eq_ok.mp hw
  have hheld : FixturesRow.encode f.stored ∈ st'.db.fixtures := by
    rw [hst', ht]
    exact List.mem_append_right _ (List.mem_singleton_self _)
  -- the retry's `INSERT` fails on the item's id, before the index is touched
  have hfail : ∀ t', QrDatabase.insertFixtures (ff' 1) f st'.db.fixtures ≠ .ok t' := by
    intro t' hw'
    exact (insertFixtures_eq_ok.mp hw').2.1 _ hheld rfl
  refine withRole_outcome (fun r s => r.2.ok = false ∧ s = st') ⟨rfl, rfl⟩
    (fun _ _ hb => ?_) h'
  rcases writeThenIndex_eq_some hb with ⟨_, -, rfl, rfl⟩ | ⟨t', hw', -⟩
  · exact ⟨rfl, rfl⟩
  · exact absurd hw' (hfail t')

theorem insertFixtures_retry_adminState :
    ∃ r st' r' st'', QrApp.insertFixtures noFaults DateTime.unixEpoch "admin-token" itemX
        adminState = some (r, st') ∧ r.2.ok = true ∧
      QrApp.insertFixtures noFaults DateTime.unixEpoch "admin-token" itemX st' =
        some (r', st'') ∧ r'.2.ok = false ∧ st'' = st' := by
  obtain ⟨r, st', r', st'', h, hok, h'⟩ : ∃ r st' r' st'', QrApp.insertFixtures noFaults
      DateTime.unixEpoch "admin-token" itemX adminState = some (r, st') ∧ r.2.ok = true ∧
      QrApp.insertFixtures noFaults DateTime.unixEpoch "admin-token" itemX st' =
        some (r', st'') := ⟨_, _, _, _, rfl, rfl, rfl⟩
  exact ⟨r, st', r', st'', h, hok, h', insertFixtures_retry h hok h'⟩

end QrRetry
