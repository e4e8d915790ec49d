import Mathlib
import QrBackend.LendingProofs
import QrBackend.IndexSync

/-! # What an active lending points at — `src/lib.rs` (`Lending`)

    A lending names its item twice — `fixtures_id` and its own copy
    `fixtures_qr_id` — and the spot the item went to, `spot_name`.  The schema
    declares no foreign key, and no function of `src/database/` checks any of
    the three: `insert_lending` and `update_lending` take them as given,
    `delete_fixtures` and `delete_spot` delete what a lending points at, and
    `update_fixtures` rewrites an item's QR id under its lendings.

    `References db` says every active lending resolves: some item row has its
    id and its QR id, and some spot row its spot name.  It holds over every run
    of database calls in which the callers keep it (`references_run`), each
    call with its own condition (`Admissible`); `insertLending_dangling` shows
    a first call that breaks it. -/

namespace QrReferences

open Chrono QrModel QrErrorHandling QrDatabase Table Runs QrLending QrIndexSync

/-- A lending resolves in a database: an item row with its id and QR id, and a
    spot row with its spot name. -/
def Resolves (db : Db) (l : Lending) : Prop :=
  (∃ f ∈ db.fixtures, f.id = l.fixturesId ∧ f.qrId = l.fixturesQrId) ∧
    ∃ s ∈ db.spot, s.name = l.spotName

instance (db : Db) (l : Lending) : Decidable (Resolves db l) :=
  inferInstanceAs (Decidable (_ ∧ _))

/-- Every active lending resolves. -/
def References (db : Db) : Prop :=
  ∀ l ∈ db.lending, l.active = true → Resolves db l

instance (db : Db) : Decidable (References db) :=
  inferInstanceAs (Decidable (∀ l ∈ db.lending, _))

theorem references_empty : References Db.empty := by
  intro l hl
  nomatch hl

/-! ## Two kinds of write -/

/-- A write to the lending table keeps the invariant when every active
    lending it leaves was there before or resolves. -/
theorem References.setLending {db : Db} {t : List Lending} (h : References db)
    (ht : ∀ l ∈ t, l.active = true → l ∈ db.lending ∨ Resolves db l) :
    References { db with lending := t } := by
  intro l hl hact
  rcases ht l hl hact with hold | hres
  · exact h l hold hact
  · exact hres

/-- A write to the item and spot tables keeps the invariant when every active
    lending that resolved before still does. -/
theorem References.setTables {db db' : Db} (h : References db) (hl : db'.lending = db.lending)
    (hres : ∀ l ∈ db.lending, l.active = true → Resolves db l → Resolves db' l) :
    References db' := by
  intro l hmem hact
  rw [hl] at hmem
  exact hres l hmem hact (h l hmem hact)

/-- The item half of `Resolves` carries over to a database with the same spot table. -/
theorem Resolves.of_fixtures {db db' : Db} {l : Lending} (h : Resolves db l)
    (hspot : db'.spot = db.spot)
    (hf : (∃ f ∈ db.fixtures, f.id = l.fixturesId ∧ f.qrId = l.fixturesQrId) →
      ∃ f ∈ db'.fixtures, f.id = l.fixturesId ∧ f.qrId = l.fixturesQrId) :
    Resolves db' l :=
  ⟨hf h.1, hspot ▸ h.2⟩

/-- The spot half of `Resolves` carries over to a database with the same item table. -/
theorem Resolves.of_spot {db db' : Db} {l : Lending} (h : Resolves db l)
    (hfix : db'.fixtures = db.fixtures)
    (hs : (∃ s ∈ db.spot, s.name = l.spotName) → ∃ s ∈ db'.spot, s.name = l.spotName) :
    Resolves db' l :=
  ⟨hfix ▸ h.1, hs h.2⟩

/-! ## Each write -/

section Writes

variable {db : Db} {fail : Bool}

theorem References.insertFixtures {info : Fixtures} {t : List FixturesRow} (h : References db)
    (hw : QrDatabase.insertFixtures fail info db.fixtures = .ok t) :
    References { db with fixtures := t } := by
  obtain ⟨-, -, rfl⟩ := insertFixtures_eq_ok.mp hw
  refine h.setTables rfl (fun l _ _ hres => hres.of_fixtures rfl ?_)
  rintro ⟨f, hf, hid, hqr⟩
  exact ⟨f, List.mem_append_left _ hf, hid, hqr⟩

/-- An item update keeps the references when it leaves the QR id of every
    active lending's item as the lending has it. -/
theorem References.updateFixtures {info : Fixtures} {t : List FixturesRow} (h : References db)
    (hqr : ∀ l ∈ db.lending, l.active = true → l.fixturesId = info.id →
      l.fixturesQrId = info.qrId)
    (hw : QrDatabase.updateFixtures fail info db.fixtures = .ok t) :
    References { db with fixtures := t } := by
  obtain ⟨-, rfl⟩ := updateFixtures_eq_ok.mp hw
  refine h.setTables rfl (fun l hl hact hres => hres.of_fixtures rfl ?_)
  rintro ⟨f, hf, hid, hq⟩
  by_cases hsel : f.id = info.id
  · -- the lending's item is the one rewritten: it keeps its id and takes the new QR id
    refine ⟨FixturesRow.encode info.stored, mem_update.mpr ⟨f, hf, by simp [hsel]⟩, ?_, ?_⟩
    · exact hsel.symm.trans hid
    · exact (hqr l hl hact (hid.symm.trans hsel)).symm
  · exact ⟨f, mem_update_of_not hf (by simpa using hsel), hid, hq⟩

/-- An item delete keeps the references when no active lending holds the item. -/
theorem References.deleteFixtures {uuid : Uuid} {t : List FixturesRow} (h : References db)
    (hfree : ∀ l ∈ db.lending, l.active = true → l.fixturesId ≠ uuid)
    (hw : QrDatabase.deleteFixtures fail uuid db.fixtures = .ok t) :
    References { db with fixtures := t } := by
  obtain ⟨-, rfl⟩ := deleteFixtures_eq_ok.mp hw
  refine h.setTables rfl (fun l hl hact hres => hres.of_fixtures rfl ?_)
  rintro ⟨f, hf, hid, hq⟩
  have hne : f.id ≠ uuid := hid ▸ hfree l hl hact
  exact ⟨f, mem_delete.mpr ⟨hf, by simpa using hne⟩, hid, hq⟩

theorem References.insertSpot {info : Spot} {t : List SpotRow} (h : References db)
    (hw : QrDatabase.insertSpot fail info db.spot = .ok t) :
    References { db with spot := t } := by
  obtain ⟨-, -, rfl⟩ := insertSpot_eq_ok.mp hw
  refine h.setTables rfl (fun l _ _ hres => hres.of_spot rfl ?_)
  rintro ⟨s, hs, hname⟩
  exact ⟨s, List.mem_append_left _ hs, hname⟩

/-- A spot update keeps every spot name. -/
theorem References.updateSpot {info : Spot} {t : List SpotRow} (h : References db)
    (hw : QrDatabase.updateSpot fail info db.spot = .ok t) :
    References { db with spot := t } := by
  obtain ⟨-, rfl⟩ := updateSpot_eq_ok.mp hw
  refine h.setTables rfl (fun l _ _ hres => hres.of_spot rfl ?_)
  rintro ⟨s, hs, hname⟩
  by_cases hsel : s.name = info.name
  · exact ⟨SpotRow.encode info, mem_update.mpr ⟨s, hs, by simp [hsel]⟩, hsel.symm.trans hname⟩
  · exact ⟨s, mem_update_of_not hs (by simpa using hsel), hname⟩

/-- A spot delete keeps the references when no active lending went to the spot. -/
theorem References.deleteSpot {name : String} {t : List SpotRow} (h : References db)
    (hfree : ∀ l ∈ db.lending, l.active = true → l.spotName ≠ name)
    (hw : QrDatabase.deleteSpot fail name db.spot = .ok t) :
    References { db with spot := t } := by
  obtain ⟨-, rfl⟩ := deleteSpot_eq_ok.mp hw
  refine h.setTables rfl (fun l hl hact hres => hres.of_spot rfl ?_)
  rintro ⟨s, hs, hname⟩
  have hne : s.name ≠ name := hname ▸ hfree l hl hact
  exact ⟨s, mem_delete.mpr ⟨hs, by simpa using hne⟩, hname⟩

/-- A new lending keeps the references when, if active, it resolves. -/
theorem References.insertLending {fail1 fail2 : Bool} {info : Lending} {t : List Lending}
    (h : References db) (hres : info.active = true → Resolves db info)
    (hw : QrDatabase.insertLending fail1 fail2 fail info db.lending = .ok t) :
    References { db with lending := t } := by
  obtain ⟨-, -, -, rfl⟩ := insertLending_eq_ok.mp hw
  refine h.setLending (fun l hl hact => ?_)
  rcases List.mem_append.mp hl with hold | hnew
  · exact Or.inl hold
  · -- the table keeps the lending active exactly when it was
    rw [List.mem_singleton.mp hnew] at hact ⊢
    rw [Lending.stored_active] at hact
    exact Or.inr (hres hact)

/-- A rewritten lending keeps the references when, if active, it resolves. -/
theorem References.updateLending {info : Lending} {t : List Lending} (h : References db)
    (hres : info.active = true → Resolves db info)
    (hw : QrDatabase.updateLending fail info db.lending = .ok t) :
    References { db with lending := t } := by
  obtain ⟨-, rfl⟩ := updateLending_eq_ok.mp hw
  refine h.setLending (fun l hl hact => ?_)
  obtain ⟨r, hr, rfl⟩ := mem_update.mp hl
  by_cases hsel : r.id = info.id
  · simp only [hsel, decide_true, if_true, Lending.stored_active] at hact ⊢
    exact Or.inr (hres hact)
  · simp only [hsel, decide_false, Bool.false_eq_true, if_false]
    exact Or.inl hr

/-- Returning lendings keeps the references: a returned lending is not active. -/
theorem References.returnedLending {id : Uuid} {returnedAt : DateTime} {t : List Lending}
    (h : References db) (hw : QrDatabase.returnedLending fail id returnedAt db.lending = .ok t) :
    References { db with lending := t } := by
  obtain ⟨-, rfl⟩ := returnedLending_eq_ok.mp hw
  refine h.setLending (fun l hl hact => ?_)
  obtain ⟨r, hr, rfl⟩ := mem_update.mp hl
  by_cases hsel : r.fixturesId = id
  · simp [hsel, Lending.active] at hact
  · simp only [hsel, decide_false, Bool.false_eq_true, if_false]
    exact Or.inl hr

end Writes

/-! ## Over runs of database calls -/

/-- What keeping the references asks of a call: a lending it writes active
    resolves, and it neither deletes nor re-labels what an active lending
    points at.  The code checks none of it. -/
def Admissible (db : Db) : Faults × DbOp → Prop
  | (_, .insertLending info) | (_, .updateLending info) => info.active = true → Resolves db info
  | (_, .updateFixtures info) =>
      ∀ l ∈ db.lending, l.active = true → l.fixturesId = info.id → l.fixturesQrId = info.qrId
  | (_, .deleteFixtures uuid) => ∀ l ∈ db.lending, l.active = true → l.fixturesId ≠ uuid
  | (_, .deleteSpot name) => ∀ l ∈ db.lending, l.active = true → l.spotName ≠ name
  | _ => True

/-- **STEP**: an admissible call keeps the references; a failed statement
    changes nothing. -/
theorem references_apply (db : Db) (c : Faults × DbOp) (h : References db)
    (hc : Admissible db c) : References (c.2.apply c.1 db) := by
  obtain ⟨ff, op⟩ := c
  -- each call commits one table, and a failed statement keeps the old one
  cases op with
  | insertFixtures info =>
      exact commit_cases (P := fun t => References { db with fixtures := t }) h
        (fun _ hw => h.insertFixtures hw)
  | updateFixtures info =>
      exact commit_cases (P := fun t => References { db with fixtures := t }) h
        (fun _ hw => h.updateFixtures hc hw)
  | deleteFixtures uuid =>
      exact commit_cases (P := fun t => References { db with fixtures := t }) h
        (fun _ hw => h.deleteFixtures hc hw)
  | insertSpot info =>
      exact commit_cases (P := fun t => References { db with spot := t }) h
        (fun _ hw => h.insertSpot hw)
  | updateSpot info =>
      exact commit_cases (P := fun t => References { db with spot := t }) h
        (fun _ hw => h.updateSpot hw)
  | deleteSpot name =>
      exact commit_cases (P := fun t => References { db with spot := t }) h
        (fun _ hw => h.deleteSpot hc hw)
  | insertLending info =>
      exact commit_cases (P := fun t => References { db with lending := t }) h
        (fun _ hw => h.insertLending hc hw)
  | updateLending info =>
      exact commit_cases (P := fun t => References { db with lending := t }) h
        (fun _ hw => h.updateLending hc hw)
  | returnedLending id returnedAt =>
      exact commit_cases (P := fun t => References { db with lending := t }) h
        (fun _ hw => h.returnedLending hw)
  | insertContainer _ => exact h

/-- **EVERY ACTIVE LENDING RESOLVES**: from the empty database, every run of
    calls each admissible where it is made leaves every active lending pointing
    at an item row with its id and QR id and at a spot row with its name. -/
theorem references_run (calls : List (Faults × DbOp))
    (hg : Guarded (fun db c => c.2.apply c.1 db) Admissible Db.empty calls) :
    References (DbOp.run Db.empty calls) :=
  run_invariant_of_guarded References Admissible references_apply calls Db.empty
    references_empty hg

/-! ## A lending history with its item and spot -/

/-- The item `itemF`, with QR id `x234`. -/
def fixturesF : Fixtures :=
  { itemX with id := itemF }

/-- The spot `test`. -/
def spotTest : Spot :=
  { name := "test", area := .area3, building := some "3C棟", floor := none, room := none,
    note := none }

theorem references_item_spot_lending :
    References (DbOp.run Db.empty
      [(noFaults, .insertFixtures fixturesF), (noFaults, .insertSpot spotTest),
       (noFaults, .insertLending lendingA)]) :=
  references_run _ ⟨trivial, trivial, fun _ => by decide, trivial⟩

/-- Lending an item the database does not hold leaves a lending that points
    at nothing. -/
theorem insertLending_dangling :
    ¬ References (DbOp.run Db.empty [(noFaults, .insertLending lendingA)]) := by
  decide

end QrReferences
