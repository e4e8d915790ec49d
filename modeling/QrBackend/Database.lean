import Mathlib
import QrBackend.Table
import QrBackend.Runs
import QrBackend.Model
import QrBackend.Timestamptz
import QrBackend.ErrorHandling
import QrBackend.Authentication

/-! # The database and its functions — `src/database/*.rs`

    The Postgres schema (`migrations/`) has five tables.  A row holds the
    columns as the migration declares them: the enumerations of a record are
    `text`, bound through `Display` on the way in and decoded by `From<String>`
    on the way out (a panic, `none`, on an unknown text).  The lending table
    has no enumeration column, so its rows are `Lending` records.  A
    `timestamptz` column keeps whole microseconds (`QrBackend.Timestamptz`):
    a statement binds each `DateTime` through that codec, so the tables hold
    an item as `Fixtures.stored` and a lending as `Lending.stored`.  `uuid`,
    `text` and `int` values are stored as they are bound.

    Each function of `src/database/` is one or more statements of the algebra
    of `QrBackend.Table`, each with its own failure flag; a write returns the
    new table or the error its `map_err` names, and a failed statement changes
    nothing.  `insert_lending` is the one function with several statements:
    two look-ups, whose errors `.is_ok()` turns into "not lent", then the
    `INSERT`.

    `DbOp` lists the writes and `DbOp.apply` runs one against the whole
    database; runs of it are the database's reachable states. -/

namespace QrModel

open Chrono

/-- An item as the fixtures table keeps it: `created_at` through the
    `timestamptz` column. -/
def Fixtures.stored (f : Fixtures) : Fixtures :=
  { f with createdAt := f.createdAt.timestamptz }

/-- A lending as the lending table keeps it: `lending_at` and `returned_at`
    through their `timestamptz` columns. -/
def Lending.stored (l : Lending) : Lending :=
  { l with
    lendingAt := l.lendingAt.timestamptz, returnedAt := l.returnedAt.map DateTime.timestamptz }

@[simp] theorem Fixtures.stored_id (f : Fixtures) : f.stored.id = f.id := rfl

@[simp] theorem Fixtures.stored_qrId (f : Fixtures) : f.stored.qrId = f.qrId := rfl

@[simp] theorem Lending.stored_id (l : Lending) : l.stored.id = l.id := rfl

@[simp] theorem Lending.stored_fixturesId (l : Lending) : l.stored.fixturesId = l.fixturesId := rfl

@[simp] theorem Lending.stored_fixturesQrId (l : Lending) :
    l.stored.fixturesQrId = l.fixturesQrId := rfl

@[simp] theorem Lending.stored_spotName (l : Lending) : l.stored.spotName = l.spotName := rfl

/-- The column keeps a lending active exactly when it was. -/
@[simp] theorem Lending.stored_active (l : Lending) : l.stored.active = l.active := by
  simp only [Lending.stored, Lending.active, Option.isNone_map]

/-- The table keeps an item as it is when its `created_at` lies on a whole
    microsecond. -/
theorem Fixtures.stored_eq_self {f : Fixtures} (h : f.createdAt.nanos % 1000 = 0) :
    f.stored = f := by
  rw [Fixtures.stored, DateTime.timestamptz_eq_self_iff.mpr h]

/-- The table keeps an active lending as it is when its `lending_at` lies on
    a whole microsecond. -/
theorem Lending.stored_eq_self {l : Lending} (hact : l.active = true)
    (h : l.lendingAt.nanos % 1000 = 0) : l.stored = l := by
  have hnone : l.returnedAt = none := Option.isNone_iff_eq_none.mp hact
  rw [Lending.stored, DateTime.timestamptz_eq_self_iff.mpr h, hnone, Option.map_none]
  rw [← hnone]

end QrModel

namespace QrDatabase

open Chrono QrModel QrErrorHandling QrAuthentication

/-- A fault pattern: `ff i` says whether the statement at site `i` of a call
    fails for a reason outside the model (a lost connection, a timeout, ...). -/
abbrev Faults := Nat → Bool

/-- The fault pattern in which every statement answers. -/
def noFaults : Faults := fun _ => false

/-- The columns of table `fixtures` (`migrations/20230708195131_init.sql`). -/
structure FixturesRow where
  id : Uuid
  createdAt : DateTime
  qrId : String
  qrColor : String
  name : String
  description : Option String
  modelNumber : Option String
  storage : String
  usage : Option String
  usageSeason : Option String
  note : String
  parentId : String
  deriving DecidableEq

/-- The columns of table `spot` (`migrations/20230813182916_spot.sql`). -/
structure SpotRow where
  name : String
  area : String
  building : Option String
  floor : Option Int32
  room : Option String
  note : Option String
  deriving DecidableEq

/-- The columns of table `container` (`migrations/20230816041320_container.sql`). -/
structure ContainerRow where
  id : Uuid
  qrId : String
  qrColor : String
  storage : String
  description : String
  deriving DecidableEq

/-- The whole database. -/
structure Db where
  fixtures : List FixturesRow
  spot : List SpotRow
  lending : List Lending
  container : List ContainerRow
  passtoken : List PasstokenRow

/-- The database right after the migrations: every table empty. -/
def Db.empty : Db :=
  { fixtures := [], spot := [], lending := [], container := [], passtoken := [] }

/-! ## Codecs of the rows -/

/-- The row of an item: enumerations through `to_string()`. -/
def FixturesRow.encode (f : Fixtures) : FixturesRow :=
  { id := f.id, createdAt := f.createdAt, qrId := f.qrId, qrColor := f.qrColor.fmt,
    name := f.name, description := f.description, modelNumber := f.modelNumber,
    storage := f.storage.fmt, usage := f.usage, usageSeason := f.usageSeason,
    note := f.note, parentId := f.parentId }

/-- `query_as!(Fixtures, ..)`: the text columns through `From<String>`. -/
def FixturesRow.decode (r : FixturesRow) : Option Fixtures := do
  let qrColor ← QrColor.fromString r.qrColor
  let storage ← Stroge.fromString r.storage
  pure { id := r.id, createdAt := r.createdAt, qrId := r.qrId, qrColor, name := r.name,
         description := r.description, modelNumber := r.modelNumber, storage,
         usage := r.usage, usageSeason := r.usageSeason, note := r.note,
         parentId := r.parentId }

/-- The row `insert_spot` binds (`floor.map(|u8| u8 as i32)` is the identity on
    an `Option<i32>`). -/
def SpotRow.encode (s : Spot) : SpotRow :=
  { name := s.name, area := s.area.fmt, building := s.building, floor := s.floor,
    room := s.room, note := s.note }

/-- `query_as!(Spot, ..)`. -/
def SpotRow.decode (r : SpotRow) : Option Spot :=
  (Area.fromString r.area).map fun area =>
    { name := r.name, area, building := r.building, floor := r.floor, room := r.room,
      note := r.note }

/-- The row `insert_container` binds. -/
def ContainerRow.encode (c : Container) : ContainerRow :=
  { id := c.id, qrId := c.qrId, qrColor := c.qrColor.fmt, storage := c.storage.fmt,
    description := c.description }

/-! ## Fixtures -/

/-- `insert_fixtures`. -/
def insertFixtures (fail : Bool) (info : Fixtures) (t : List FixturesRow) :
    Except QrError (List FixturesRow) :=
  Table.runInsert fail (.databaseAdd "fixtures") FixturesRow.id (FixturesRow.encode info.stored) t

/-- `update_fixtures`: every column but `id` set from `newInfo`, where `id`
    matches. -/
def updateFixtures (fail : Bool) (newInfo : Fixtures) (t : List FixturesRow) :
    Except QrError (List FixturesRow) :=
  let new := FixturesRow.encode newInfo.stored
  Table.runUpdate fail (.databaseUpdate "fixtures") (fun r => r.id = newInfo.id)
    (fun r =>
      { r with
        createdAt := new.createdAt, qrId := new.qrId, qrColor := new.qrColor,
        name := new.name, description := new.description, modelNumber := new.modelNumber,
        storage := new.storage, usage := new.usage, usageSeason := new.usageSeason,
        note := new.note, parentId := new.parentId })
    t

/-- `delete_fixtures`. -/
def deleteFixtures (fail : Bool) (uuid : Uuid) (t : List FixturesRow) :
    Except QrError (List FixturesRow) :=
  Table.runDelete fail (.databaseDelete "fixtures") (fun r => r.id = uuid) t

/-- The key `get_one_fixtures` looks an item up by. -/
inductive GetOneFixtures.IdType where
  | fixturesId (id : Uuid)
  | qrId (id : String)
  deriving DecidableEq

/-- `get_one_fixtures`: one `SELECT`, the first match decoded, `DatabaseNotFound`
    with the key's text when none. -/
def getOneFixtures (fail : Bool) (id : GetOneFixtures.IdType) (t : List FixturesRow) :
    Option (Except QrError Fixtures) :=
  let read : Except QrError FixturesRow := match id with
    | .fixturesId id =>
        Table.runFetchOne fail (.databaseGet "fixtures") (.databaseNotFound id.toString)
          (fun r => r.id = id) t
    | .qrId id =>
        Table.runFetchOne fail (.databaseGet "fixtures") (.databaseNotFound id)
          (fun r => r.qrId = id) t
  match read with
  | .error e => some (.error e)
  | .ok row => row.decode.map .ok

/-- `get_fixtures_list`. -/
def getFixturesList (fail : Bool) (t : List FixturesRow) : Option (Except QrError (List Fixtures)) :=
  if fail then some (.error (.databaseGet "fixtures")) else
  (t.mapM FixturesRow.decode).map .ok

/-! ## Spots -/

/-- `insert_spot`. -/
def insertSpot (fail : Bool) (info : Spot) (t : List SpotRow) : Except QrError (List SpotRow) :=
  Table.runInsert fail (.databaseAdd "spot") SpotRow.name (SpotRow.encode info) t

/-- `update_spot`: `area`, `building`, `floor`, `room`, `note` set where `name`
    matches. -/
def updateSpot (fail : Bool) (newInfo : Spot) (t : List SpotRow) : Except QrError (List SpotRow) :=
  let new := SpotRow.encode newInfo
  Table.runUpdate fail (.databaseUpdate "spot") (fun r => r.name = newInfo.name)
    (fun r =>
      { r with
        area := new.area, building := new.building, floor := new.floor, room := new.room,
        note := new.note })
    t

/-- `delete_spot`. -/
def deleteSpot (fail : Bool) (name : String) (t : List SpotRow) : Except QrError (List SpotRow) :=
  Table.runDelete fail (.databaseDelete "spot") (fun r => r.name = name) t

/-- `get_one_spot`. -/
def getOneSpot (fail : Bool) (name : String) (t : List SpotRow) : Option (Except QrError Spot) :=
  match Table.runFetchOne fail (.databaseGet "spot") (.databaseNotFound name)
      (fun r => r.name = name) t with
  | .error e => some (.error e)
  | .ok row => row.decode.map .ok

/-- `get_spot_list`. -/
def getSpotList (fail : Bool) (t : List SpotRow) : Option (Except QrError (List Spot)) :=
  if fail then some (.error (.databaseGet "spot")) else
  (t.mapM SpotRow.decode).map .ok

/-! ## Lendings -/

/-- The key `get_one_lending` looks an active lending up by. -/
inductive GetOneLending.IdType where
  | lendingId (id : Uuid)
  | fixturesId (id : Uuid)
  | qrId (id : String)
  deriving DecidableEq

/-- `get_one_lending`: the first *active* lending with the key. -/
def getOneLending (fail : Bool) (id : GetOneLending.IdType) (t : List Lending) :
    Except QrError Lending :=
  match id with
  | .lendingId id =>
      Table.runFetchOne fail (.databaseGet "lending") (.databaseNotFound id.toString)
        (fun r => r.id = id && r.active) t
  | .fixturesId id =>
      Table.runFetchOne fail (.databaseGet "lending") (.databaseNotFound id.toString)
        (fun r => r.fixturesId = id && r.active) t
  | .qrId id =>
      Table.runFetchOne fail (.databaseGet "lending") (.databaseNotFound id)
        (fun r => r.fixturesQrId = id && r.active) t

/-- `get_lending_list`: the active lendings. -/
def getLendingList (fail : Bool) (t : List Lending) : Except QrError (List Lending) :=
  if fail then .error (.databaseGet "lending") else .ok (Table.fetchAll Lending.active t)

/-- The first two statements of `insert_lending`: "is the item lent?", by
    fixture id and by QR id; a failed look-up reads as "not lent". -/
def isLending (fail1 fail2 : Bool) (info : Lending) (t : List Lending) : Bool × Bool :=
  ((getOneLending fail1 (.fixturesId info.fixturesId) t).isOk,
   (getOneLending fail2 (.qrId info.fixturesQrId) t).isOk)

/-- The last statement of `insert_lending`, given the two answers. -/
def insertLendingRow (fail3 : Bool) (isLending1 isLending2 : Bool) (info : Lending)
    (t : List Lending) : Except QrError (List Lending) :=
  if !isLending1 && !isLending2 then
    Table.runInsert fail3 (.databaseUpdate "lending") Lending.id info.stored t
  else .error (.databaseUpdate "spot")

/-- `insert_lending`. -/
def insertLending (fail1 fail2 fail3 : Bool) (info : Lending) (t : List Lending) :
    Except QrError (List Lending) :=
  let answers := isLending fail1 fail2 info t
  insertLendingRow fail3 answers.1 answers.2 info t

/-- `update_lending`: every column but `id` set from `newInfo`. -/
def updateLending (fail : Bool) (newInfo : Lending) (t : List Lending) :
    Except QrError (List Lending) :=
  let new := newInfo.stored
  Table.runUpdate fail (.databaseUpdate "lending") (fun r => r.id = newInfo.id)
    (fun r =>
      { r with
        fixturesId := new.fixturesId, fixturesQrId := new.fixturesQrId,
        spotName := new.spotName, lendingAt := new.lendingAt,
        returnedAt := new.returnedAt, borrowerName := new.borrowerName,
        borrowerNumber := new.borrowerNumber, borrowerOrg := new.borrowerOrg })
    t

/-- `returned_lending`: `UPDATE lending SET returned_at=$1 WHERE fixtures_id=$2`. -/
def returnedLending (fail : Bool) (id : Uuid) (returnedAt : DateTime) (t : List Lending) :
    Except QrError (List Lending) :=
  Table.runUpdate fail (.databaseUpdate "lending(returned)") (fun r => r.fixturesId = id)
    (fun r => { r with returnedAt := some returnedAt.timestamptz }) t

/-! ## Containers -/

/-- `insert_container`. -/
def insertContainer (fail : Bool) (info : Container) (t : List ContainerRow) :
    Except QrError (List ContainerRow) :=
  Table.runInsert fail (.databaseAdd "container") ContainerRow.id (ContainerRow.encode info) t

/-! ## What the writes do -/

section Effects

open Table

variable {fail : Bool} {t t' : List FixturesRow} {u : List SpotRow} {u' : List SpotRow}

theorem insertFixtures_eq_ok {info : Fixtures} :
    insertFixtures fail info t = .ok t' ↔
      fail = false ∧ (∀ s ∈ t, s.id ≠ info.id) ∧ t' = t ++ [FixturesRow.encode info.stored] :=
  runInsert_eq_ok

/-- `update_fixtures` replaces the row of the item's id by the stored item's row. -/
theorem updateFixtures_eq_ok {newInfo : Fixtures} :
    updateFixtures fail newInfo t = .ok t' ↔
      fail = false ∧ t' =
        update (fun r => r.id = newInfo.id) (fun _ => FixturesRow.encode newInfo.stored) t := by
  unfold updateFixtures
  rw [runUpdate_eq_ok, update_congr (g := fun _ => FixturesRow.encode newInfo.stored)]
  -- the one column left alone is the id, which already agrees
  intro r _ hr
  have hid : r.id = newInfo.id := of_decide_eq_true hr
  obtain ⟨id, _, _, _, _, _, _, _, _, _, _, _⟩ := r
  subst hid
  rfl

theorem deleteFixtures_eq_ok {uuid : Uuid} :
    deleteFixtures fail uuid t = .ok t' ↔ fail = false ∧ t' = delete (fun r => r.id = uuid) t :=
  runDelete_eq_ok

theorem insertSpot_eq_ok {info : Spot} :
    insertSpot fail info u = .ok u' ↔
      fail = false ∧ (∀ s ∈ u, s.name ≠ info.name) ∧ u' = u ++ [SpotRow.encode info] :=
  runInsert_eq_ok

/-- `update_spot` replaces the row of the spot's name by the encoded spot. -/
theorem updateSpot_eq_ok {newInfo : Spot} :
    updateSpot fail newInfo u = .ok u' ↔
      fail = false ∧
        u' = update (fun r => r.name = newInfo.name) (fun _ => SpotRow.encode newInfo) u := by
  unfold updateSpot
  rw [runUpdate_eq_ok, update_congr (g := fun _ => SpotRow.encode newInfo)]
  intro r _ hr
  have hname : r.name = newInfo.name := of_decide_eq_true hr
  obtain ⟨name, _, _, _, _, _⟩ := r
  subst hname
  rfl

theorem deleteSpot_eq_ok {name : String} :
    deleteSpot fail name u = .ok u' ↔ fail = false ∧ u' = delete (fun r => r.name = name) u :=
  runDelete_eq_ok

end Effects

/-! ## The writes as one step -/

/-- A call of one of the database's writing functions. -/
inductive DbOp where
  | insertFixtures (info : Fixtures)
  | updateFixtures (info : Fixtures)
  | deleteFixtures (uuid : Uuid)
  | insertSpot (info : Spot)
  | updateSpot (info : Spot)
  | deleteSpot (name : String)
  | insertLending (info : Lending)
  | updateLending (info : Lending)
  | returnedLending (id : Uuid) (returnedAt : DateTime)
  | insertContainer (info : Container)

/-- Keep the written table on success, the old one on an error. -/
def commit {ρ : Type} (old : List ρ) : Except QrError (List ρ) → List ρ
  | .ok t => t
  | .error _ => old

/-- What holds of the old table and of every table the statement writes holds
    of the committed one. -/
theorem commit_cases {ρ : Type} {P : List ρ → Prop} {old : List ρ} {w : Except QrError (List ρ)}
    (hold : P old) (hok : ∀ t, w = .ok t → P t) : P (commit old w) := by
  cases w with
  | ok t => exact hok t rfl
  | error _ => exact hold

/-- One call against the database, under the fault pattern `ff` (its
    statements at sites `0`, `1`, `2`). -/
def DbOp.apply (ff : Faults) (db : Db) : DbOp → Db
  | .insertFixtures info => { db with fixtures := commit db.fixtures (QrDatabase.insertFixtures (ff 0) info db.fixtures) }
  | .updateFixtures info => { db with fixtures := commit db.fixtures (QrDatabase.updateFixtures (ff 0) info db.fixtures) }
  | .deleteFixtures uuid => { db with fixtures := commit db.fixtures (QrDatabase.deleteFixtures (ff 0) uuid db.fixtures) }
  | .insertSpot info => { db with spot := commit db.spot (QrDatabase.insertSpot (ff 0) info db.spot) }
  | .updateSpot info => { db with spot := commit db.spot (QrDatabase.updateSpot (ff 0) info db.spot) }
  | .deleteSpot name => { db with spot := commit db.spot (QrDatabase.deleteSpot (ff 0) name db.spot) }
  | .insertLending info =>
      { db with lending := commit db.lending (QrDatabase.insertLending (ff 0) (ff 1) (ff 2) info db.lending) }
  | .updateLending info =>
      { db with lending := commit db.lending (QrDatabase.updateLending (ff 0) info db.lending) }
  | .returnedLending id returnedAt =>
      { db with lending := commit db.lending (QrDatabase.returnedLending (ff 0) id returnedAt db.lending) }
  | .insertContainer info =>
      { db with container := commit db.container (QrDatabase.insertContainer (ff 0) info db.container) }

/-- A run: calls, each with its fault pattern, applied in order. -/
def DbOp.run (db : Db) (calls : List (Faults × DbOp)) : Db :=
  Runs.run (fun db c => c.2.apply c.1 db) db calls

end QrDatabase
