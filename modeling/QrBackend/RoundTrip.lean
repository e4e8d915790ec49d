import Mathlib
import QrBackend.LendingProofs
import QrBackend.Refinement

/-! # What is written reads back — `src/database/insert_*.rs`, `get_one_*.rs`

    A record goes into its table through `Display` on its enumerations and
    comes back through `From<String>`, which `query_as!` applies on read; a
    `timestamptz` column keeps whole microseconds, and the other columns are
    stored as they are.  So a record reads back as stored (`Fixtures.stored`,
    `Lending.stored`: its timestamps cut to whole microseconds, and so as
    written when they lie on whole microseconds) exactly when the two
    hand-written codecs of its enumerations invert each other on its values:

    * items (`QrColor`, `Stroge`): always — `FixturesRow.decode_encode`;
    * spots (`Area`): except at `kasuga`, which `From<String>` decodes to
      `taigei` — `SpotRow.decode_encode`, `getOneSpot_kasuga`;
    * lendings have no enumeration column.

    On top of the codecs, each insert is read back by its key, and each update
    replaces what the key reads. -/

namespace QrRoundTrip

open Chrono QrModel QrErrorHandling QrAuthentication QrDatabase Table Runs QrLending QrApp
open QrRefinement

/-! ## The row codecs -/

theorem FixturesRow.decode_encode (f : Fixtures) : (FixturesRow.encode f).decode = some f := by
  simp only [FixturesRow.decode, FixturesRow.encode, QrColor.fromString_fmt, Stroge.fromString_fmt]
  rfl

/-- A spot reads back as written unless it lies in `kasuga`. -/
theorem SpotRow.decode_encode {s : Spot} (h : s.area ≠ .kasuga) :
    (SpotRow.encode s).decode = some s := by
  show (Area.fromString s.area.fmt).map _ = some s
  rw [Area.fromString_fmt h]
  rfl

/-- A spot in `kasuga` reads back in `taigei`. -/
theorem SpotRow.decode_encode_kasuga {s : Spot} (h : s.area = .kasuga) :
    (SpotRow.encode s).decode = some { s with area := .taigei } := by
  show (Area.fromString s.area.fmt).map _ = some _
  rw [h, Area.fromString_fmt_kasuga]
  rfl

/-! ## Items -/

section Fixtures

variable {t t' : List FixturesRow} {f g : Fixtures}

/-- The first row of an id, when the table holds a row of it written as `f`. -/
theorem getOneFixtures_of_fetch (h : fetchOptional (fun r => r.id = f.id) t = some (FixturesRow.encode f)) :
    getOneFixtures false (.fixturesId f.id) t = some (.ok f) := by
  have hread : runFetchOne false (QrError.databaseGet "fixtures")
      (.databaseNotFound f.id.toString) (fun r => r.id = f.id) t = .ok (FixturesRow.encode f) :=
    runFetchOne_eq_ok.mpr ⟨rfl, h⟩
  simp only [getOneFixtures, hread, FixturesRow.decode_encode, Option.map_some]

/-- **INSERT, THEN READ**: an item with a fresh id reads back by its id as
    stored. -/
theorem getOneFixtures_insertFixtures (hfresh : ∀ r ∈ t, r.id ≠ f.id) :
    QrDatabase.insertFixtures false f t = .ok (t ++ [FixturesRow.encode f.stored]) ∧
      getOneFixtures false (.fixturesId f.id) (t ++ [FixturesRow.encode f.stored]) =
        some (.ok f.stored) := by
  refine ⟨insertFixtures_eq_ok.mpr ⟨rfl, hfresh, rfl⟩, getOneFixtures_of_fetch (f := f.stored) ?_⟩
  exact fetchOptional_append_fresh (fun r hr => decide_eq_false (hfresh r hr)) (decide_eq_true rfl)

/-- **UPDATE, THEN READ**: once the table holds the item's id, an update of it
    reads back as the new item, stored. -/
theorem getOneFixtures_updateFixtures (hex : ∃ r ∈ t, r.id = g.id)
    (hu : QrDatabase.updateFixtures false g t = .ok t') :
    getOneFixtures false (.fixturesId g.id) t' = some (.ok g.stored) := by
  obtain ⟨-, rfl⟩ := updateFixtures_eq_ok.mp hu
  have hsel : ∃ r ∈ t, decide (r.id = g.id) = true := by
    obtain ⟨r, hr, hrid⟩ := hex
    exact ⟨r, hr, decide_eq_true hrid⟩
  exact getOneFixtures_of_fetch (f := g.stored)
    (fetchOptional_update_const (c := FixturesRow.encode g.stored) (decide_eq_true rfl) hsel)

end Fixtures

/-! ## Spots -/

section Spots

variable {t t' : List SpotRow} {s s' : Spot}

/-- The first row of a name, read through `get_one_spot`. -/
theorem getOneSpot_of_fetch {row : SpotRow}
    (h : fetchOptional (fun r => r.name = s.name) t = some row) :
    QrDatabase.getOneSpot false s.name t = row.decode.map .ok := by
  have hread : runFetchOne false (QrError.databaseGet "spot") (.databaseNotFound s.name)
      (fun r => r.name = s.name) t = .ok row :=
    runFetchOne_eq_ok.mpr ⟨rfl, h⟩
  simp only [QrDatabase.getOneSpot, hread]

/-- **INSERT, THEN READ**: a spot inserted under a fresh name reads back as
    written, unless it lies in `kasuga`. -/
theorem getOneSpot_insertSpot (hfresh : ∀ r ∈ t, r.name ≠ s.name) (harea : s.area ≠ .kasuga) :
    QrDatabase.insertSpot false s t = .ok (t ++ [SpotRow.encode s]) ∧
      QrDatabase.getOneSpot false s.name (t ++ [SpotRow.encode s]) = some (.ok s) := by
  refine ⟨insertSpot_eq_ok.mpr ⟨rfl, hfresh, rfl⟩, ?_⟩
  rw [getOneSpot_of_fetch
      (fetchOptional_append_fresh (fun r hr => decide_eq_false (hfresh r hr)) (decide_eq_true rfl)),
    SpotRow.decode_encode harea]
  rfl

/-- **UPDATE, THEN READ**: once the table holds the spot's name, an update of
    it reads back as the new spot, unless it lies in `kasuga`. -/
theorem getOneSpot_updateSpot (hex : ∃ r ∈ t, r.name = s'.name) (harea : s'.area ≠ .kasuga)
    (hu : QrDatabase.updateSpot false s' t = .ok t') :
    QrDatabase.getOneSpot false s'.name t' = some (.ok s') := by
  obtain ⟨-, rfl⟩ := updateSpot_eq_ok.mp hu
  have hsel : ∃ r ∈ t, decide (r.name = s'.name) = true := by
    obtain ⟨r, hr, hrn⟩ := hex
    exact ⟨r, hr, decide_eq_true hrn⟩
  rw [getOneSpot_of_fetch
      (fetchOptional_update_const (c := SpotRow.encode s') (decide_eq_true rfl) hsel),
    SpotRow.decode_encode harea]
  rfl

end Spots

/-- The spot of `tests::test_insert_spot_sql`, moved to `kasuga`. -/
def kasugaSpot : Spot :=
  { name := "test1", area := .kasuga, building := some "3C棟", floor := none, room := none,
    note := none }

/-- A spot inserted in `kasuga` reads back in `taigei`. -/
theorem getOneSpot_kasuga :
    QrDatabase.insertSpot false kasugaSpot [] = .ok [SpotRow.encode kasugaSpot] ∧
      QrDatabase.getOneSpot false "test1" [SpotRow.encode kasugaSpot] =
        some (.ok { kasugaSpot with area := .taigei }) :=
  ⟨rfl, rfl⟩

/-! ## Lendings -/

/-- **INSERT, THEN READ**: an active lending with a fresh id, of an item no
    active lending holds, reads back by its id as stored. -/
theorem getOneLending_insertLending {t : List Lending} {l : Lending}
    (hid : ∀ r ∈ t, r.id ≠ l.id) (hactive : l.active = true)
    (hfree : ∀ r ∈ t, activeFixturesId r ≠ some l.fixturesId ∧ activeQrId r ≠ some l.fixturesQrId) :
    QrDatabase.insertLending false false false l t = .ok (t ++ [l.stored]) ∧
      getOneLending false (.lendingId l.id) (t ++ [l.stored]) = .ok l.stored := by
  refine ⟨insertLending_eq_ok.mpr ⟨isLending_eq_free hfree, rfl, hid, rfl⟩, ?_⟩
  show runFetchOne false _ _ (fun r => decide (r.id = l.id) && r.active) (t ++ [l.stored]) =
    .ok l.stored
  rw [runFetchOne_eq_ok]
  exact ⟨rfl, fetchOptional_append_fresh (fun r hr => by simp [hid r hr]) (by simp [hactive])⟩

/-! ## Over runs: every stored row is an encoding -/

/-- Every item row and every spot row is the encoding of a record, as the
    write functions store them. -/
structure RowsEncoded (db : Db) : Prop where
  fixtures : ∀ r ∈ db.fixtures, ∃ f, r = FixturesRow.encode f
  spot : ∀ r ∈ db.spot, ∃ s, r = SpotRow.encode s

theorem rowsEncoded_empty : RowsEncoded Db.empty :=
  ⟨fun _ h => absurd h List.not_mem_nil, fun _ h => absurd h List.not_mem_nil⟩

/-- **STEP**: every database call stores encodings only. -/
theorem rowsEncoded_apply (ff : Faults) (op : DbOp) {db : Db} (h : RowsEncoded db) :
    RowsEncoded (op.apply ff db) := by
  let P : List FixturesRow → Prop := fun t => ∀ r ∈ t, ∃ f, r = FixturesRow.encode f
  let Q : List SpotRow → Prop := fun t => ∀ r ∈ t, ∃ s, r = SpotRow.encode s
  -- a call commits the table it writes, or keeps the old one
  cases op with
  | insertFixtures info =>
      refine ⟨commit_cases (P := P) h.fixtures fun t ht => ?_, h.spot⟩
      obtain ⟨-, -, rfl⟩ := insertFixtures_eq_ok.mp ht
      exact List.forall_mem_append.mpr ⟨h.fixtures, List.forall_mem_singleton.mpr ⟨info.stored, rfl⟩⟩
  | updateFixtures info =>
      refine ⟨commit_cases (P := P) h.fixtures fun t ht => ?_, h.spot⟩
      obtain ⟨-, rfl⟩ := updateFixtures_eq_ok.mp ht
      exact forall_mem_update h.fixtures fun _ _ _ => ⟨info.stored, rfl⟩
  | deleteFixtures uuid =>
      refine ⟨commit_cases (P := P) h.fixtures fun t ht => ?_, h.spot⟩
      obtain ⟨-, rfl⟩ := deleteFixtures_eq_ok.mp ht
      exact forall_mem_delete h.fixtures
  | insertSpot info =>
      refine ⟨h.fixtures, commit_cases (P := Q) h.spot fun t ht => ?_⟩
      obtain ⟨-, -, rfl⟩ := insertSpot_eq_ok.mp ht
      exact List.forall_mem_append.mpr ⟨h.spot, List.forall_mem_singleton.mpr ⟨info, rfl⟩⟩
  | updateSpot info =>
      refine ⟨h.fixtures, commit_cases (P := Q) h.spot fun t ht => ?_⟩
      obtain ⟨-, rfl⟩ := updateSpot_eq_ok.mp ht
      exact forall_mem_update h.spot fun _ _ _ => ⟨info, rfl⟩
  | deleteSpot name =>
      refine ⟨h.fixtures, commit_cases (P := Q) h.spot fun t ht => ?_⟩
      obtain ⟨-, rfl⟩ := deleteSpot_eq_ok.mp ht
      exact forall_mem_delete h.spot
  | insertLending _ | updateLending _ | returnedLending _ _ | insertContainer _ =>
      exact ⟨h.fixtures, h.spot⟩

/-- **ROWS STAY ENCODED**: after every run of database calls from the empty
    database, every item row and every spot row is an encoding. -/
theorem rowsEncoded_run (calls : List (Faults × DbOp)) : RowsEncoded (DbOp.run Db.empty calls) :=
  run_invariant RowsEncoded (fun _ c h => rowsEncoded_apply c.1 c.2 h) calls Db.empty
    rowsEncoded_empty

/-- An encoded item row decodes to an item with its id and QR id. -/
theorem RowsEncoded.fixtures_decode {db : Db} (h : RowsEncoded db) {r : FixturesRow}
    (hr : r ∈ db.fixtures) : ∃ f, r.decode = some f ∧ f.id = r.id ∧ f.qrId = r.qrId := by
  obtain ⟨f, rfl⟩ := h.fixtures r hr
  exact ⟨f, FixturesRow.decode_encode f, rfl, rfl⟩

/-- An encoded spot row decodes, in `kasuga` to a spot in `taigei`. -/
theorem RowsEncoded.spot_decode {db : Db} (h : RowsEncoded db) {r : SpotRow}
    (hr : r ∈ db.spot) : r.decode.isSome := by
  obtain ⟨s, rfl⟩ := h.spot r hr
  by_cases harea : s.area = .kasuga
  · rw [SpotRow.decode_encode_kasuga harea]
    rfl
  · rw [SpotRow.decode_encode harea]
    rfl

/-! ## No read of a stored row panics -/

/-- A row a look-up answers is a row of the table. -/
theorem mem_of_runFetchOne {ε ρ : Type} {err notFound : ε} {p : ρ → Bool} {t : List ρ} {row : ρ} {fail : Bool}
    (hok : runFetchOne fail err notFound p t = .ok row) : row ∈ t :=
  (fetchOptional_mem (runFetchOne_eq_ok.mp hok).2).1


/-- `get_one_fixtures` panics only on a row of the table that does not decode. -/
theorem getOneFixtures_eq_none {fail : Bool} {id : GetOneFixtures.IdType} {t : List FixturesRow}
    (hnone : getOneFixtures fail id t = none) : ∃ row ∈ t, row.decode = none := by
  -- whichever the key, the look-up answered a row of the table
  cases id with
  | fixturesId u =>
      dsimp only [getOneFixtures] at hnone
      split at hnone
      · nomatch hnone
      · rename_i row hrow
        exact ⟨row, mem_of_runFetchOne hrow, Option.map_eq_none_iff.mp hnone⟩
  | qrId q =>
      dsimp only [getOneFixtures] at hnone
      split at hnone
      · nomatch hnone
      · rename_i row hrow
        exact ⟨row, mem_of_runFetchOne hrow, Option.map_eq_none_iff.mp hnone⟩

/-- `get_one_spot` panics only on a row of the table that does not decode. -/
theorem getOneSpot_eq_none {fail : Bool} {name : String} {t : List SpotRow}
    (hnone : QrDatabase.getOneSpot fail name t = none) : ∃ row ∈ t, row.decode = none := by
  unfold QrDatabase.getOneSpot at hnone
  split at hnone
  · nomatch hnone
  · rename_i row hrow
    exact ⟨row, mem_of_runFetchOne hrow, Option.map_eq_none_iff.mp hnone⟩

/-- A list read decodes every row; it answers when each row does. -/
theorem isSome_mapM {α β : Type} {f : α → Option β} :
    ∀ {l : List α}, (∀ a ∈ l, (f a).isSome) → (l.mapM f).isSome
  | [], _ => rfl
  | a :: l, h => by
      obtain ⟨b, hb⟩ := Option.isSome_iff_exists.mp (h a List.mem_cons_self)
      obtain ⟨bs, hbs⟩ := Option.isSome_iff_exists.mp
        (isSome_mapM fun x hx => h x (List.mem_cons_of_mem a hx))
      simp [List.mapM_cons, hb, hbs]

section Reads

variable {db : Db} (h : RowsEncoded db) (fail : Bool)
include h

theorem getOneFixtures_isSome (id : GetOneFixtures.IdType) :
    (getOneFixtures fail id db.fixtures).isSome := by
  cases hget : getOneFixtures fail id db.fixtures with
  | some _ => rfl
  | none =>
      obtain ⟨row, hrow, hdec⟩ := getOneFixtures_eq_none hget
      obtain ⟨f, hf, -⟩ := h.fixtures_decode hrow
      rw [hf] at hdec
      nomatch hdec

theorem getOneSpot_isSome (name : String) : (QrDatabase.getOneSpot fail name db.spot).isSome := by
  cases hget : QrDatabase.getOneSpot fail name db.spot with
  | some _ => rfl
  | none =>
      obtain ⟨row, hrow, hdec⟩ := getOneSpot_eq_none hget
      have hsome := h.spot_decode hrow
      rw [hdec] at hsome
      nomatch hsome

theorem getFixturesList_isSome : (getFixturesList fail db.fixtures).isSome := by
  unfold getFixturesList
  cases fail with
  | true => rfl
  | false =>
      have hall : ∀ r ∈ db.fixtures, r.decode.isSome := fun r hr => by
        obtain ⟨f, hf, -⟩ := h.fixtures_decode hr
        rw [hf]
        rfl
      rw [if_neg Bool.false_ne_true, Option.isSome_map]
      exact isSome_mapM hall

theorem getSpotList_isSome : (QrDatabase.getSpotList fail db.spot).isSome := by
  unfold QrDatabase.getSpotList
  cases fail with
  | true => rfl
  | false =>
      rw [if_neg Bool.false_ne_true, Option.isSome_map]
      exact isSome_mapM fun _ hr => h.spot_decode hr

end Reads

variable (parseUuid : String → Option Uuid) (env : String → Option String) (nfc : String → String)

/-- **EVERY REACHABLE SERVER STORES ENCODINGS**: what the server stores in its
    item and spot tables, it stored through the encoders. -/
theorem rowsEncoded_reachable {st : State} (h : Reachable parseUuid env nfc st) :
    RowsEncoded st.db := by
  have hrun := reachable_of_run parseUuid env nfc RowsEncoded rowsEncoded_run h
  -- the pass tokens are no part of the invariant
  exact ⟨hrun.fixtures, hrun.spot⟩

end QrRoundTrip
