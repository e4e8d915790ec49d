import Mathlib
import QrBackend.Database

/-! # One active lending per item — `src/database/*_lending.rs`

    A lending is *active* until `returned_lending` sets its `returned_at`.  The
    backend means an item to be lent at most once at a time, and only one
    function guards it: `insert_lending` looks the item up among the active
    lendings by id and by QR id, and inserts only when both look-ups find
    nothing.  The schema has no constraint behind it.

    The invariant `SingleLending` (the active rows are unique by item id and by
    QR id, the rows unique by lending id) is kept

    * by `insert_lending` whenever its two look-ups answer — a failed look-up
      is read as "not lent" by `.is_ok()`, although the comment above them
      says they are there to prevent a double lending, and `get_is_lending`
      tells `DatabaseNotFound` from other errors;
    * by `returned_lending`, which only closes lendings;
    * by `update_lending` only when the caller does not re-open a lending or
      move it onto a lent item: it rewrites every column with no check.

    `singleLending_run` carries it over every run of database calls that meets
    these conditions.  `insertLending_failed_lookups_lends_twice` shows a run
    in which two failed look-ups lend an item twice, and
    `updateLending_lends_twice` what an unchecked update does.

    `returned_lending` closes by item id alone: it also rewrites the return
    time of every earlier, already returned lending of the item
    (`returnedLending_rewrites_history`). -/

namespace QrLending

open Chrono QrModel QrErrorHandling QrDatabase Table Runs

/-- The item an active lending holds, by item id; a returned lending holds none. -/
def activeFixturesId (r : Lending) : Option Uuid :=
  if r.active then some r.fixturesId else none

/-- The item an active lending holds, by QR id. -/
def activeQrId (r : Lending) : Option String :=
  if r.active then some r.fixturesQrId else none

@[simp] theorem activeFixturesId_eq_some {r : Lending} {f : Uuid} :
    activeFixturesId r = some f ↔ r.active = true ∧ r.fixturesId = f := by
  unfold activeFixturesId
  cases r.active <;> simp

@[simp] theorem activeQrId_eq_some {r : Lending} {q : String} :
    activeQrId r = some q ↔ r.active = true ∧ r.fixturesQrId = q := by
  unfold activeQrId
  cases r.active <;> simp

/-! ## The three writes -/

/-- Answering, the look-up by item id reports the item lent exactly when an
    active lending holds it. -/
theorem isLending_fst {fail2 : Bool} {info : Lending} {t : List Lending} :
    (isLending false fail2 info t).1 = true ↔
      ∃ r ∈ t, activeFixturesId r = some info.fixturesId := by
  unfold isLending getOneLending
  rw [runFetchOne_isOk]
  simp only [Bool.and_eq_true, decide_eq_true_eq, activeFixturesId_eq_some, and_comm]

/-- Answering, the look-up by QR id reports the item lent exactly when an
    active lending holds its QR id. -/
theorem isLending_snd {fail1 : Bool} {info : Lending} {t : List Lending} :
    (isLending fail1 false info t).2 = true ↔
      ∃ r ∈ t, activeQrId r = some info.fixturesQrId := by
  unfold isLending getOneLending
  rw [runFetchOne_isOk]
  simp only [Bool.and_eq_true, decide_eq_true_eq, activeQrId_eq_some, and_comm]

/-- When no active lending holds an item, both look-ups of a call for it,
    answering, find nothing. -/
theorem isLending_eq_free {info : Lending} {t : List Lending}
    (hfree : ∀ r ∈ t, activeFixturesId r ≠ some info.fixturesId ∧
      activeQrId r ≠ some info.fixturesQrId) :
    isLending false false info t = (false, false) := by
  have h1 : (isLending false false info t).1 = false := by
    rw [Bool.eq_false_iff]
    intro h
    obtain ⟨r, hr, hrf⟩ := isLending_fst.mp h
    exact (hfree r hr).1 hrf
  have h2 : (isLending false false info t).2 = false := by
    rw [Bool.eq_false_iff]
    intro h
    obtain ⟨r, hr, hrq⟩ := isLending_snd.mp h
    exact (hfree r hr).2 hrq
  exact Prod.ext h1 h2

/-- `insert_lending` succeeds exactly when neither look-up reports the item
    lent and the `INSERT` goes through; the lending is appended. -/
theorem insertLending_eq_ok {fail1 fail2 fail3 : Bool} {info : Lending} {t t' : List Lending} :
    QrDatabase.insertLending fail1 fail2 fail3 info t = .ok t' ↔
      isLending fail1 fail2 info t = (false, false) ∧ fail3 = false ∧
        (∀ s ∈ t, s.id ≠ info.id) ∧ t' = t ++ [info.stored] := by
  unfold QrDatabase.insertLending insertLendingRow
  obtain ⟨b1, b2⟩ := isLending fail1 fail2 info t
  -- any "lent" answer refuses the call with `DatabaseUpdate("spot")`
  cases b1 <;> cases b2 <;> simp [runInsert_eq_ok]

/-- **THE CHECK, ALONE**: `insert_lending` refuses a lending of an item that
    an active lending of the table holds, by id or by QR id, when the look-up
    that would see it answers. -/
theorem insertLending_refuses_lent {fail1 fail2 fail3 : Bool} {a b : Lending} {t : List Lending}
    (ha : a ∈ t) (hact : a.active = true)
    (hsame : (b.fixturesId = a.fixturesId ∧ fail1 = false) ∨
      (b.fixturesQrId = a.fixturesQrId ∧ fail2 = false)) (t' : List Lending) :
    QrDatabase.insertLending fail1 fail2 fail3 b t ≠ .ok t' := by
  intro h
  obtain ⟨hans, -⟩ := insertLending_eq_ok.mp h
  rcases hsame with ⟨hf, h1⟩ | ⟨hq, h2⟩
  · -- the look-up by id finds `a`
    have hlent : (isLending false fail2 b t).1 = true :=
      isLending_fst.mpr ⟨a, ha, activeFixturesId_eq_some.mpr ⟨hact, hf.symm⟩⟩
    rw [← h1, hans] at hlent
    nomatch hlent
  · -- the look-up by QR id finds `a`
    have hlent : (isLending fail1 false b t).2 = true :=
      isLending_snd.mpr ⟨a, ha, activeQrId_eq_some.mpr ⟨hact, hq.symm⟩⟩
    rw [← h2, hans] at hlent
    nomatch hlent

/-- `update_lending` replaces the row with the new lending's id by the new
    lending as the table keeps it, whatever the row held. -/
theorem updateLending_eq_ok {fail : Bool} {newInfo : Lending} {t t' : List Lending} :
    QrDatabase.updateLending fail newInfo t = .ok t' ↔
      fail = false ∧ t' = update (fun r => r.id = newInfo.id) (fun _ => newInfo.stored) t := by
  unfold QrDatabase.updateLending
  rw [runUpdate_eq_ok]
  have hrow : ∀ r : Lending, (if decide (r.id = newInfo.id) then
      { r with
        fixturesId := newInfo.stored.fixturesId, fixturesQrId := newInfo.stored.fixturesQrId,
        spotName := newInfo.stored.spotName, lendingAt := newInfo.stored.lendingAt,
        returnedAt := newInfo.stored.returnedAt, borrowerName := newInfo.stored.borrowerName,
        borrowerNumber := newInfo.stored.borrowerNumber,
        borrowerOrg := newInfo.stored.borrowerOrg }
      else r) = (if decide (r.id = newInfo.id) then newInfo.stored else r) := by
    intro r
    by_cases h : r.id = newInfo.id
    · -- the one column left alone is the id, which already agrees
      rw [if_pos (decide_eq_true h), if_pos (decide_eq_true h)]
      cases r
      cases newInfo
      subst h
      rfl
    · rw [if_neg (by simpa using h), if_neg (by simpa using h)]
  simp only [update, hrow]

/-- `returned_lending` sets `returned_at` on every row of the item, as the
    column keeps it. -/
theorem returnedLending_eq_ok {fail : Bool} {id : Uuid} {returnedAt : DateTime}
    {t t' : List Lending} :
    QrDatabase.returnedLending fail id returnedAt t = .ok t' ↔
      fail = false ∧ t' = update (fun r => r.fixturesId = id)
        (fun r => { r with returnedAt := some returnedAt.timestamptz }) t :=
  runUpdate_eq_ok

/-! ## The invariant, one write at a time -/

/-- No item is lent twice at once — the active rows are unique by item id and
    by QR id — and the rows are unique by lending id, the primary key. -/
structure SingleLending (t : List Lending) : Prop where
  ids : KeyUnique (fun r : Lending => some r.id) t
  byFixturesId : KeyUnique activeFixturesId t
  byQrId : KeyUnique activeQrId t

theorem singleLending_nil : SingleLending [] :=
  ⟨keyUnique_nil, keyUnique_nil, keyUnique_nil⟩

/-- Appending a lending with a fresh id keeps the invariant when, if it is
    active, no active lending holds its item. -/
theorem SingleLending.append {t : List Lending} {info : Lending} (h : SingleLending t)
    (hid : ∀ s ∈ t, s.id ≠ info.id)
    (hfree : info.active = true → ∀ s ∈ t,
      activeFixturesId s ≠ some info.fixturesId ∧ activeQrId s ≠ some info.fixturesQrId) :
    SingleLending (t ++ [info]) where
  ids := keyUnique_append_fresh h.ids hid
  byFixturesId := by
    apply keyUnique_append_singleton h.byFixturesId
    intro x hx s hs
    obtain ⟨hact, rfl⟩ := activeFixturesId_eq_some.mp hx
    exact (hfree hact s hs).1
  byQrId := by
    apply keyUnique_append_singleton h.byQrId
    intro x hx s hs
    obtain ⟨hact, rfl⟩ := activeQrId_eq_some.mp hx
    exact (hfree hact s hs).2

/-- `insert_lending` keeps the invariant when its look-ups answer: both then
    say that no active lending holds the item. -/
theorem SingleLending.insertLending {fail3 : Bool} {info : Lending} {t t' : List Lending}
    (h : SingleLending t) (hi : QrDatabase.insertLending false false fail3 info t = .ok t') :
    SingleLending t' := by
  obtain ⟨hans, -, hid, rfl⟩ := insertLending_eq_ok.mp hi
  have h1 : ∀ s ∈ t, activeFixturesId s ≠ some info.fixturesId := by
    intro s hs hsf
    have hlent : (isLending false false info t).1 = true := isLending_fst.mpr ⟨s, hs, hsf⟩
    rw [hans] at hlent
    exact Bool.false_ne_true hlent
  have h2 : ∀ s ∈ t, activeQrId s ≠ some info.fixturesQrId := by
    intro s hs hsq
    have hlent : (isLending false false info t).2 = true := isLending_snd.mpr ⟨s, hs, hsq⟩
    rw [hans] at hlent
    exact Bool.false_ne_true hlent
  exact h.append hid (fun _ s hs => ⟨h1 s hs, h2 s hs⟩)

/-- Closing lendings keeps the invariant: a closed row holds no item. -/
theorem SingleLending.close {t : List Lending} (h : SingleLending t) (p : Lending → Bool)
    (returnedAt : DateTime) :
    SingleLending (update p (fun r => { r with returnedAt := some returnedAt }) t) where
  ids := keyUnique_update p (fun _ _ _ hx => hx) h.ids
  byFixturesId := keyUnique_update p
    (fun _ _ _ hx => by simp [activeFixturesId, Lending.active] at hx)
    h.byFixturesId
  byQrId := keyUnique_update p (fun _ _ _ hx => by simp [activeQrId, Lending.active] at hx)
    h.byQrId

/-- Replacing the row of a lending id keeps the invariant when, if the new
    lending is active, no other active lending holds its item. -/
theorem SingleLending.replace {t : List Lending} {newInfo : Lending} (h : SingleLending t)
    (hfree : newInfo.active = true → ∀ s ∈ t, s.id ≠ newInfo.id →
      activeFixturesId s ≠ some newInfo.fixturesId ∧ activeQrId s ≠ some newInfo.fixturesQrId) :
    SingleLending (update (fun r => r.id = newInfo.id) (fun _ => newInfo) t) := by
  -- the primary key: at most one row is replaced
  have hone : t.countP (fun r => decide (r.id = newInfo.id)) ≤ 1 := by
    simpa [keyCount] using h.ids newInfo.id
  refine ⟨?_, ?_, ?_⟩
  · apply keyUnique_update_one hone _ h.ids
    intro _ _ _ x hx r _ hpr hrx
    have hrid : r.id = newInfo.id := (Option.some.inj hrx).trans (Option.some.inj hx).symm
    exact absurd hrid (by simpa using hpr)
  · apply keyUnique_update_one hone _ h.byFixturesId
    intro s _ _ x hx r hr hpr
    obtain ⟨hact, rfl⟩ := activeFixturesId_eq_some.mp hx
    exact (hfree hact r hr (by simpa using hpr)).1
  · apply keyUnique_update_one hone _ h.byQrId
    intro s _ _ x hx r hr hpr
    obtain ⟨hact, rfl⟩ := activeQrId_eq_some.mp hx
    exact (hfree hact r hr (by simpa using hpr)).2

/-! ## Over runs of database calls -/

/-- What the invariant asks of a call: the look-ups of `insert_lending`
    answer, and `update_lending` neither re-opens a lending nor moves one onto
    an item another active lending holds.  The code checks neither. -/
def Admissible (db : Db) : Faults × DbOp → Prop
  | (ff, .insertLending _) => ff 0 = false ∧ ff 1 = false
  | (_, .updateLending info) => info.active = true → ∀ s ∈ db.lending, s.id ≠ info.id →
      activeFixturesId s ≠ some info.fixturesId ∧ activeQrId s ≠ some info.fixturesQrId
  | _ => True

/-- **STEP**: an admissible call keeps the invariant; a failed statement
    leaves the table as it was. -/
theorem singleLending_apply (db : Db) (c : Faults × DbOp) (h : SingleLending db.lending)
    (hc : Admissible db c) : SingleLending (c.2.apply c.1 db).lending := by
  obtain ⟨ff, op⟩ := c
  -- a call commits the lending table it writes, or keeps the old one
  cases op with
  | insertLending info =>
      obtain ⟨h0, h1⟩ := hc
      refine commit_cases (P := SingleLending) h fun t hi => ?_
      -- both look-ups answered
      dsimp only at hi
      rw [h0, h1] at hi
      exact h.insertLending hi
  | updateLending info =>
      refine commit_cases (P := SingleLending) h fun t hu => ?_
      obtain ⟨-, rfl⟩ := updateLending_eq_ok.mp hu
      -- the table keeps the lending active exactly when it was
      exact @SingleLending.replace _ info.stored h fun hact => hc (by simpa using hact)
  | returnedLending id returnedAt =>
      refine commit_cases (P := SingleLending) h fun t hr => ?_
      obtain ⟨-, rfl⟩ := returnedLending_eq_ok.mp hr
      exact h.close _ returnedAt.timestamptz
  -- the other calls leave the lending table alone
  | insertFixtures _ | updateFixtures _ | deleteFixtures _ | insertSpot _ | updateSpot _
  | deleteSpot _ | insertContainer _ => exact h

/-- **ONE ACTIVE LENDING PER ITEM**: from the empty database, every run of
    calls each admissible where it is made leaves at most one active lending
    per item id and per QR id. -/
theorem singleLending_run (calls : List (Faults × DbOp))
    (hg : Guarded (fun db c => c.2.apply c.1 db) Admissible Db.empty calls) :
    KeyUnique activeFixturesId (DbOp.run Db.empty calls).lending ∧
      KeyUnique activeQrId (DbOp.run Db.empty calls).lending := by
  have hinv : SingleLending (DbOp.run Db.empty calls).lending :=
    run_invariant_of_guarded (fun db => SingleLending db.lending) Admissible singleLending_apply
      calls Db.empty singleLending_nil hg
  exact ⟨hinv.byFixturesId, hinv.byQrId⟩

/-! ## A lending history

    The lendings of `tests::test_returned_lending`: item `itemF` (QR id
    `x234`) lent as `lendingA`, and lent again as `lendingA2`. -/

/-- The item lent in the runs below. -/
def itemF : Uuid := ⟨10⟩

/-- A first lending of `itemF`. -/
def lendingA : Lending :=
  { id := ⟨1⟩, fixturesId := itemF, fixturesQrId := "x234", spotName := "test",
    lendingAt := DateTime.unixEpoch, returnedAt := none, borrowerName := "test",
    borrowerNumber := 202200000, borrowerOrg := some "jsys" }

/-- A second lending of `itemF`, after the first is returned. -/
def lendingA2 : Lending :=
  { lendingA with id := ⟨2⟩ }

/-- A lending of another item. -/
def lendingB : Lending :=
  { lendingA with id := ⟨3⟩, fixturesId := ⟨11⟩, fixturesQrId := "x235" }

/-- One day after the epoch. -/
def dayOne : DateTime :=
  ⟨nanosPerDay, by decide, by decide⟩

/-- Two days after the epoch. -/
def dayTwo : DateTime :=
  ⟨2 * nanosPerDay, by decide, by decide⟩

/-- The fault pattern in which the two look-ups of `insert_lending` (sites
    `0` and `1`) fail and every other statement answers. -/
def lookupsFail : Faults := fun i => decide (i < 2)

/-- Lend `itemF`, then lend it again while both look-ups of the second
    `insert_lending` fail with a database error: `.is_ok()` reads each
    failure as "not lent", the `INSERT` answers, and the item is lent twice. -/
theorem insertLending_failed_lookups_lends_twice :
    ¬ KeyUnique activeFixturesId (DbOp.run Db.empty
      [(noFaults, .insertLending lendingA), (lookupsFail, .insertLending lendingA2)]).lending := by
  intro h
  have hcount := h itemF
  revert hcount
  decide

/-- Unchecked, `update_lending` moves a lending onto an item already lent:
    in every table where an active lending `a` holds an item, rewriting the
    row of another lending to an active lending of that item answers, and
    leaves `a` and the new row both active on the item. -/
theorem updateLending_lends_twice {t : List Lending} {a b newInfo : Lending} (ha : a ∈ t)
    (hact : a.active = true) (hb : b ∈ t) (hid : newInfo.id = b.id) (hne : a.id ≠ b.id)
    (hnew : newInfo.active = true) (hsame : newInfo.fixturesId = a.fixturesId) :
    ∃ t', QrDatabase.updateLending false newInfo t = .ok t' ∧ a ∈ t' ∧ newInfo.stored ∈ t' ∧
      a ≠ newInfo.stored ∧ activeFixturesId a = some a.fixturesId ∧
      activeFixturesId newInfo.stored = some a.fixturesId := by
  refine ⟨_, updateLending_eq_ok.mpr ⟨rfl, rfl⟩, ?_, ?_, ?_, ?_, ?_⟩
  · -- `a` is not the row the `UPDATE` selects
    exact mem_update_of_not ha (by simpa [hid] using hne)
  · exact mem_update.mpr ⟨b, hb, by simp [hid]⟩
  · intro h
    exact hne (by rw [h, Lending.stored_id, hid])
  · exact activeFixturesId_eq_some.mpr ⟨hact, rfl⟩
  · exact activeFixturesId_eq_some.mpr ⟨by rw [Lending.stored_active, hnew], hsame⟩

/-! ## What `returned_lending` touches -/

section Returned

variable {fail : Bool} {id : Uuid} {returnedAt : DateTime} {t t' : List Lending}

/-- **FRAME**: the lendings of other items are left as they were. -/
theorem returnedLending_frame (h : QrDatabase.returnedLending fail id returnedAt t = .ok t')
    {r : Lending} (hr : r ∈ t) (hne : r.fixturesId ≠ id) : r ∈ t' := by
  obtain ⟨-, rfl⟩ := returnedLending_eq_ok.mp h
  exact mem_update_of_not hr (by simpa using hne)

/-- No lending of the item stays active. -/
theorem returnedLending_closes (h : QrDatabase.returnedLending fail id returnedAt t = .ok t') :
    ∀ r ∈ t', r.fixturesId = id → r.active = false := by
  obtain ⟨-, rfl⟩ := returnedLending_eq_ok.mp h
  intro r hr hid
  obtain ⟨s, -, rfl⟩ := mem_update.mp hr
  by_cases hs : s.fixturesId = id
  · simp [hs, Lending.active]
  · -- an untouched row keeps its item, which is not `id`
    simp [hs] at hid

/-- Every lending of the item, returned or not, gets the new return time:
    the `WHERE` clause names the item only. -/
theorem returnedLending_rewrites (h : QrDatabase.returnedLending fail id returnedAt t = .ok t')
    {r : Lending} (hr : r ∈ t) (hid : r.fixturesId = id) :
    { r with returnedAt := some returnedAt.timestamptz } ∈ t' := by
  obtain ⟨-, rfl⟩ := returnedLending_eq_ok.mp h
  exact mem_update.mpr ⟨r, hr, by simp [hid]⟩

end Returned

/-- Lend `itemF`, return it on day one, lend it again and return it on day
    two: the first lending now reads as returned on day two. -/
theorem returnedLending_rewrites_history :
    (DbOp.run Db.empty
      [(noFaults, .insertLending lendingA), (noFaults, .returnedLending itemF dayOne),
       (noFaults, .insertLending lendingA2), (noFaults, .returnedLending itemF dayTwo)]).lending =
      [{ lendingA with returnedAt := some dayTwo }, { lendingA2 with returnedAt := some dayTwo }] := by
  decide

end QrLending
