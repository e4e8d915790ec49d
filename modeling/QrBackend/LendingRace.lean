import Mathlib
import QrBackend.LendingProofs

/-! # Two `insert_lending` calls at once — `src/database/insert_lending.rs`

    `insert_lending` sends three statements through the shared connection
    pool — the look-up by item id, the look-up by QR id, the `INSERT` — with
    no transaction or lock around them, and the schema has no unique index on
    the active lendings.  Two requests served at once therefore interleave
    statement by statement: a *schedule* names, for each statement the
    database executes, the call it belongs to.

    A call is its argument, its fault pattern and where it stands (`Pc`);
    `Call.step` runs its next statement, built from the same `getOneLending`
    and `insertLendingRow` as the sequential model.  The model is faithful to
    it: three statements of one call with nothing in between are exactly
    `QrDatabase.insertLending` (`run_alone`).

    * `serial_refuses_second` — when one call ends before the other starts,
      the check works: the later call for an item the earlier one lent is
      refused;
    * `race_lends_twice` — when both calls run their look-ups before either
      inserts, both insert, for every table in which the item is free;
    * `race_accounted` — under every schedule, the table is the one the calls
      started on followed by exactly the lendings of the calls that report
      success, as the table keeps them: no insert is lost or doubled;
    * `race_keyUnique_id` — under every schedule the lending ids stay unique,
      since the `INSERT` checks the id in the statement that writes;
    * `race_apart_both_insert` — two calls for different items both insert
      under every schedule that runs each call's three statements (a call has
      ended once they ran, `run_start_toRun`): the race needs one item. -/

namespace QrLendingRace

open Chrono QrModel QrErrorHandling QrDatabase Table Runs QrLending

/-- Where a call of `insert_lending` stands: the statement it runs next, with
    the answers of the look-ups it has run. -/
inductive Pc where
  | lookupFixturesId
  | lookupQrId (isLending1 : Bool)
  | insert (isLending1 isLending2 : Bool)
  | done (result : Except QrError Unit)

/-- A call of `insert_lending`: its argument, the faults of its statements
    (sites `0`, `1`, `2`, as in `DbOp.apply`) and where it stands. -/
structure Call where
  info : Lending
  ff : Faults
  pc : Pc

/-- A call that has run no statement yet. -/
def Call.start (info : Lending) (ff : Faults) : Call :=
  { info, ff, pc := .lookupFixturesId }

/-- The call runs its next statement against the shared lending table. -/
def Call.step (c : Call) (t : List Lending) : Call × List Lending :=
  match c.pc with
  | .lookupFixturesId =>
      ({ c with pc := .lookupQrId (getOneLending (c.ff 0) (.fixturesId c.info.fixturesId) t).isOk },
       t)
  | .lookupQrId isLending1 =>
      ({ c with pc := .insert isLending1 (getOneLending (c.ff 1) (.qrId c.info.fixturesQrId) t).isOk },
       t)
  | .insert isLending1 isLending2 =>
      match insertLendingRow (c.ff 2) isLending1 isLending2 c.info t with
      | .ok t' => ({ c with pc := .done (.ok ()) }, t')
      | .error e => ({ c with pc := .done (.error e) }, t)
  | .done _ => (c, t)

/-- Whether the call ended having inserted its lending. -/
def Call.inserted (c : Call) : Bool :=
  match c.pc with
  | .done (.ok ()) => true
  | _ => false

/-- The two requests served at once. -/
inductive Side where
  | first
  | second
  deriving DecidableEq

/-- Two calls in flight over one lending table. -/
structure Race where
  calls : Side → Call
  lending : List Lending

/-- Call `i` runs its next statement. -/
def Race.step (s : Race) (i : Side) : Race :=
  let r := (s.calls i).step s.lending
  { calls := Function.update s.calls i r.1, lending := r.2 }

/-- Both calls about to start on the lending table `t`. -/
def Race.start (a b : Lending) (ffa ffb : Faults) (t : List Lending) : Race :=
  { calls := fun | .first => Call.start a ffa | .second => Call.start b ffb, lending := t }

@[simp] theorem step_lending (s : Race) (i : Side) :
    (s.step i).lending = ((s.calls i).step s.lending).2 := rfl

@[simp] theorem step_calls_self (s : Race) (i : Side) :
    (s.step i).calls i = ((s.calls i).step s.lending).1 := by
  simp [Race.step]

theorem step_calls_of_ne (s : Race) {i j : Side} (h : j ≠ i) :
    (s.step i).calls j = s.calls j := by
  simp [Race.step, Function.update_of_ne h]

@[simp] theorem start_lending (a b : Lending) (ffa ffb : Faults) (t : List Lending) :
    (Race.start a b ffa ffb t).lending = t := rfl

/-! ## One call alone is `insert_lending` -/

/-- **ALONE**: three statements of a call with nothing in between are
    `insert_lending`; the other call stays where it was. -/
theorem run_alone (s : Race) (i : Side) {info : Lending} {ff : Faults}
    (h : s.calls i = Call.start info ff) :
    (run Race.step s [i, i, i]).lending =
        commit s.lending (QrDatabase.insertLending (ff 0) (ff 1) (ff 2) info s.lending) ∧
      ((run Race.step s [i, i, i]).calls i).inserted =
        (QrDatabase.insertLending (ff 0) (ff 1) (ff 2) info s.lending).isOk ∧
      ∀ j, j ≠ i → (run Race.step s [i, i, i]).calls j = s.calls j := by
  -- after the two look-ups the call holds both answers; the table is unchanged
  have hlook : ((s.step i).step i).calls i =
      { info, ff, pc := .insert (isLending (ff 0) (ff 1) info s.lending).1
          (isLending (ff 0) (ff 1) info s.lending).2 } ∧
      ((s.step i).step i).lending = s.lending := by
    simp [h, Call.step, Call.start, isLending]
  obtain ⟨hc, hl⟩ := hlook
  -- the insert sees the answers `insert_lending` computes
  have hins : (((s.step i).step i).calls i).step ((s.step i).step i).lending =
      match QrDatabase.insertLending (ff 0) (ff 1) (ff 2) info s.lending with
      | .ok t' => ({ info, ff, pc := .done (.ok ()) }, t')
      | .error e => ({ info, ff, pc := .done (.error e) }, s.lending) := by
    rw [hc, hl]
    rfl
  refine ⟨?_, ?_, ?_⟩
  · rw [run_cons, run_cons, run_cons, run_nil, step_lending, hins]
    cases QrDatabase.insertLending (ff 0) (ff 1) (ff 2) info s.lending <;> rfl
  · rw [run_cons, run_cons, run_cons, run_nil, step_calls_self, hins]
    cases QrDatabase.insertLending (ff 0) (ff 1) (ff 2) info s.lending <;> rfl
  · intro j hj
    rw [run_cons, run_cons, run_cons, run_nil, step_calls_of_ne _ hj, step_calls_of_ne _ hj,
      step_calls_of_ne _ hj]

/-! ## Serial schedules -/

/-- The first call runs to its end, then the second. -/
def serialSchedule : List Side := [.first, .first, .first, .second, .second, .second]

/-- **SERIAL SCHEDULES**: when the first call ends before the second starts
    and it lent the item, the second call for the same item is refused, as
    long as the look-up that would see the lending answers. -/
theorem serial_refuses_second (t : List Lending) (a b : Lending) (ffa ffb : Faults)
    (ha : a.active = true)
    (hsame : (b.fixturesId = a.fixturesId ∧ ffb 0 = false) ∨
      (b.fixturesQrId = a.fixturesQrId ∧ ffb 1 = false))
    (hfirst : ((run Race.step (Race.start a b ffa ffb t) serialSchedule).calls .first).inserted = true) :
    ((run Race.step (Race.start a b ffa ffb t) serialSchedule).calls .second).inserted = false := by
  -- the first call alone, then the second alone
  obtain ⟨hl1, hi1, ho1⟩ := run_alone (Race.start a b ffa ffb t) .first rfl
  rw [start_lending] at hl1 hi1
  let s1 := run Race.step (Race.start a b ffa ffb t) [.first, .first, .first]
  have hs2 : s1.calls .second = Call.start b ffb := ho1 .second (by decide)
  obtain ⟨hl2, hi2, ho2⟩ := run_alone s1 .second hs2
  have hrun : run Race.step (Race.start a b ffa ffb t) serialSchedule =
      run Race.step s1 [.second, .second, .second] :=
    run_append _ [Side.first, .first, .first] [Side.second, .second, .second]
  rw [hrun] at hfirst ⊢
  rw [ho2 .first (by decide), hi1] at hfirst
  rw [hi2]
  -- the first call inserted `a`
  obtain ⟨t1, ht1⟩ : ∃ t1, QrDatabase.insertLending (ffa 0) (ffa 1) (ffa 2) a t = .ok t1 := by
    cases h : QrDatabase.insertLending (ffa 0) (ffa 1) (ffa 2) a t with
    | ok t1 => exact ⟨t1, rfl⟩
    | error e => rw [h] at hfirst; nomatch hfirst
  obtain ⟨-, -, -, rfl⟩ := insertLending_eq_ok.mp ht1
  have hlend : s1.lending = t ++ [a.stored] := by rw [hl1, ht1]; rfl
  rw [hlend]
  -- so the second call's look-up sees `a`, and the call is refused
  have haa : a.stored ∈ t ++ [a.stored] := List.mem_append_right t List.mem_cons_self
  have hact : a.stored.active = true := by rw [Lending.stored_active, ha]
  cases h : QrDatabase.insertLending (ffb 0) (ffb 1) (ffb 2) b (t ++ [a.stored]) with
  | error e => rfl
  | ok t2 => exact absurd h (insertLending_refuses_lent haa hact hsame t2)

/-- Run one after the other, the two calls of the race lend `itemF` once. -/
theorem serial_refuses_second_itemF :
    ((run Race.step (Race.start lendingA lendingA2 noFaults noFaults []) serialSchedule).calls
        .first).inserted = true ∧
      ((run Race.step (Race.start lendingA lendingA2 noFaults noFaults []) serialSchedule).calls
        .second).inserted = false := by
  have hfirst : ((run Race.step (Race.start lendingA lendingA2 noFaults noFaults [])
      serialSchedule).calls .first).inserted = true := by decide
  exact ⟨hfirst, serial_refuses_second [] lendingA lendingA2 noFaults noFaults rfl
    (Or.inl ⟨rfl, rfl⟩) hfirst⟩

/-! ## The race -/

/-- Both calls run their look-ups before either inserts. -/
def raceSchedule : List Side := [.first, .first, .second, .second, .first, .second]

/-- **THE RACE**: under `raceSchedule` both calls insert — for every table in
    which the item is not lent, any two lendings of it with fresh, distinct
    ids, and no failing statement. -/
theorem race_lends_twice (t : List Lending) (a b : Lending)
    (hfree : ∀ r ∈ t, activeFixturesId r ≠ some a.fixturesId ∧ activeQrId r ≠ some a.fixturesQrId)
    (hsame : b.fixturesId = a.fixturesId ∧ b.fixturesQrId = a.fixturesQrId)
    (hida : ∀ r ∈ t, r.id ≠ a.id) (hidb : ∀ r ∈ t, r.id ≠ b.id) (hab : a.id ≠ b.id) :
    ((run Race.step (Race.start a b noFaults noFaults t) raceSchedule).calls .first).inserted = true ∧
    ((run Race.step (Race.start a b noFaults noFaults t) raceSchedule).calls .second).inserted = true ∧
    (run Race.step (Race.start a b noFaults noFaults t) raceSchedule).lending =
      t ++ [a.stored, b.stored] := by
  have hA := isLending_eq_free hfree
  have hB : isLending false false b t = (false, false) := by
    rw [hsame.1.symm, hsame.2.symm] at hfree
    exact isLending_eq_free hfree
  simp only [isLending, Prod.mk.injEq] at hA hB
  have hinsA : insertLendingRow false false false a t = .ok (t ++ [a.stored]) := by
    show runInsert false (QrError.databaseUpdate "lending") Lending.id a.stored t =
      .ok (t ++ [a.stored])
    exact runInsert_eq_ok.mpr ⟨rfl, hida, rfl⟩
  have hinsB : insertLendingRow false false false b (t ++ [a.stored]) =
      .ok (t ++ [a.stored, b.stored]) := by
    show runInsert false (QrError.databaseUpdate "lending") Lending.id b.stored (t ++ [a.stored]) =
      .ok (t ++ [a.stored, b.stored])
    refine runInsert_eq_ok.mpr ⟨rfl, ?_, by simp⟩
    intro r hr
    rcases List.mem_append.mp hr with hr | hr
    · exact hidb r hr
    · rw [List.mem_singleton.mp hr]; exact hab
  -- run the six statements: every look-up reads `t`, both inserts go through
  simp [raceSchedule, Race.step, Race.start, Call.start, Call.step, Function.update, noFaults,
    hA, hB, hinsA, hinsB, Call.inserted]

/-- Two requests to lend `itemF` on the empty table, scheduled by
    `raceSchedule`: both insert and the item is lent twice. -/
theorem race_lends_itemF_twice :
    ((run Race.step (Race.start lendingA lendingA2 noFaults noFaults []) raceSchedule).calls
        .first).inserted = true ∧
    ((run Race.step (Race.start lendingA lendingA2 noFaults noFaults []) raceSchedule).calls
        .second).inserted = true ∧
    ¬ KeyUnique activeFixturesId
      (run Race.step (Race.start lendingA lendingA2 noFaults noFaults []) raceSchedule).lending := by
  refine ⟨by decide, by decide, ?_⟩
  intro h
  have hcount := h itemF
  revert hcount
  decide

/-! ## Every schedule -/

/-- The `INSERT` of `insert_lending` that goes through appends the lending,
    as the table keeps it, to a table without its id. -/
theorem insertLendingRow_eq_ok {fail3 isLending1 isLending2 : Bool} {info : Lending}
    {t t' : List Lending} (h : insertLendingRow fail3 isLending1 isLending2 info t = .ok t') :
    (∀ s ∈ t, s.id ≠ info.id) ∧ t' = t ++ [info.stored] := by
  unfold insertLendingRow at h
  by_cases hfree : (!isLending1 && !isLending2) = true
  · rw [if_pos hfree] at h
    obtain ⟨-, hfresh, rfl⟩ := runInsert_eq_ok.mp h
    exact ⟨hfresh, rfl⟩
  · -- a lent item is refused
    rw [if_neg hfree] at h
    cases h

/-- The row a call reports it inserted: its own lending as the table keeps
    it, once it ended with success. -/
def Call.insertedRow (c : Call) : List Lending :=
  if c.inserted then [c.info.stored] else []

/-- The lendings the two calls report they inserted. -/
def Race.insertedRows (s : Race) : List Lending :=
  (s.calls .first).insertedRow ++ (s.calls .second).insertedRow

/-- **ONE STATEMENT**: what a statement appends to the table is exactly what
    its call newly reports inserted — nothing, or the call's own lending,
    under an id the table did not hold. -/
theorem Call.step_appends (c : Call) (t : List Lending) :
    ∃ extra, (c.step t).2 = t ++ extra ∧ (c.step t).1.insertedRow = c.insertedRow ++ extra ∧
      (extra = [] ∨ extra = [c.info.stored] ∧ ∀ s ∈ t, s.id ≠ c.info.id) := by
  obtain ⟨info, ff, pc⟩ := c
  cases pc with
  | lookupFixturesId | lookupQrId _ => exact ⟨[], (List.append_nil t).symm, rfl, Or.inl rfl⟩
  | insert isLending1 isLending2 =>
      -- the `INSERT` appends the lending and reports it, or fails and reports nothing
      cases h : insertLendingRow (ff 2) isLending1 isLending2 info t with
      | ok t' =>
          obtain ⟨hfresh, rfl⟩ := insertLendingRow_eq_ok h
          refine ⟨[info.stored], ?_, ?_, Or.inr ⟨rfl, hfresh⟩⟩ <;>
            simp [Call.step, h, Call.insertedRow, Call.inserted]
      | error e =>
          refine ⟨[], ?_, ?_, Or.inl rfl⟩ <;>
            simp [Call.step, h, Call.insertedRow, Call.inserted]
  | done result => exact ⟨[], (List.append_nil t).symm, (List.append_nil _).symm, Or.inl rfl⟩

/-- The calls' reports after one statement of call `i`: the other call's
    report is as it was, and call `i`'s grew by `extra`. -/
theorem insertedRows_perm {s s' : Race} {i : Side} {extra : List Lending}
    (hother : ∀ j, j ≠ i → s'.calls j = s.calls j)
    (hrow : (s'.calls i).insertedRow = (s.calls i).insertedRow ++ extra) :
    s'.insertedRows.Perm (s.insertedRows ++ extra) := by
  cases i with
  | first =>
      rw [Race.insertedRows, Race.insertedRows, hrow, hother .second (by decide),
        List.append_assoc, List.append_assoc]
      exact List.Perm.append_left _ List.perm_append_comm
  | second =>
      rw [Race.insertedRows, Race.insertedRows, hrow, hother .first (by decide), List.append_assoc]

/-- **STEP**: a statement keeps the table accounted for by the calls'
    reports. -/
theorem accounted_step (t : List Lending) {s : Race}
    (hs : ∃ ins, s.lending = t ++ ins ∧ ins.Perm s.insertedRows) (i : Side) :
    ∃ ins, (s.step i).lending = t ++ ins ∧ ins.Perm (s.step i).insertedRows := by
  obtain ⟨ins, hl, hp⟩ := hs
  obtain ⟨extra, ht, hrow, -⟩ := Call.step_appends (s.calls i) s.lending
  refine ⟨ins ++ extra, by rw [step_lending, ht, hl, List.append_assoc], ?_⟩
  have hperm : (s.step i).insertedRows.Perm (s.insertedRows ++ extra) :=
    insertedRows_perm (fun j hj => step_calls_of_ne s hj) (by rw [step_calls_self, hrow])
  exact (hp.append_right extra).trans hperm.symm

/-- **EVERY SCHEDULE: NO LOST OR DOUBLED INSERT**: under every interleaving
    of the two calls' statements, the lending table is the table they started
    on followed, in the order they inserted, by exactly the lendings of the
    calls that report success; a refused or unfinished call added nothing. -/
theorem race_accounted (t : List Lending) (a b : Lending) (ffa ffb : Faults) (sched : List Side) :
    ∃ ins, (run Race.step (Race.start a b ffa ffb t) sched).lending = t ++ ins ∧
      ins.Perm (run Race.step (Race.start a b ffa ffb t) sched).insertedRows :=
  run_invariant (fun s : Race => ∃ ins, s.lending = t ++ ins ∧ ins.Perm s.insertedRows)
    (fun _ i hs => accounted_step t hs i) sched _ ⟨[], (List.append_nil t).symm, .nil⟩

/-- **EVERY SCHEDULE KEEPS THE PRIMARY KEY**: the `INSERT` checks the id in
    the statement that writes, so no interleaving stores two lendings under
    one id — unlike two active lendings of one item (`race_lends_twice`). -/
theorem race_keyUnique_id {t : List Lending} (ht : KeyUnique (fun r : Lending => some r.id) t)
    (a b : Lending) (ffa ffb : Faults) (sched : List Side) :
    KeyUnique (fun r : Lending => some r.id)
      (run Race.step (Race.start a b ffa ffb t) sched).lending := by
  refine run_invariant (fun s : Race => KeyUnique (fun r : Lending => some r.id) s.lending)
    (fun s i hs => ?_) sched _ ht
  obtain ⟨extra, hstep, -, rfl | ⟨rfl, hfresh⟩⟩ := Call.step_appends (s.calls i) s.lending
  · rw [step_lending, hstep, List.append_nil]
    exact hs
  · rw [step_lending, hstep]
    exact keyUnique_append_fresh hs hfresh

/-- A lending of `lendingB`'s item under `lendingA`'s id. -/
def lendingBWithIdA : Lending :=
  { lendingB with id := lendingA.id }

/-- Two calls for different items under one id, both look-ups before either
    insert: the second `INSERT` meets the first's row and is refused, and the
    ids stay unique. -/
theorem race_keyUnique_id_sharedId :
    KeyUnique (fun r : Lending => some r.id) [] ∧
      ((run Race.step (Race.start lendingA lendingBWithIdA noFaults noFaults [])
          raceSchedule).calls .second).inserted = false ∧
      KeyUnique (fun r : Lending => some r.id)
        (run Race.step (Race.start lendingA lendingBWithIdA noFaults noFaults [])
          raceSchedule).lending := by
  have hrefused : ((run Race.step (Race.start lendingA lendingBWithIdA noFaults noFaults [])
      raceSchedule).calls .second).inserted = false := by decide
  exact ⟨keyUnique_nil, hrefused,
    race_keyUnique_id keyUnique_nil lendingA lendingBWithIdA noFaults noFaults raceSchedule⟩

/-- The statements a call has left to run. -/
def Pc.toRun : Pc → Nat
  | .lookupFixturesId => 3
  | .lookupQrId _ => 2
  | .insert _ _ => 1
  | .done _ => 0

/-- Each statement of a call leaves it one fewer to run. -/
theorem Call.step_toRun (c : Call) (t : List Lending) :
    (c.step t).1.pc.toRun = c.pc.toRun - 1 := by
  obtain ⟨info, ff, pc⟩ := c
  cases pc with
  | lookupFixturesId | lookupQrId _ | done _ => rfl
  | insert isLending1 isLending2 =>
      simp only [Call.step]
      split <;> rfl

/-- **RUN**: after a schedule, a call has as many statements left as it had,
    less the statements the schedule gave it; the other call's statements do
    not move it. -/
theorem run_toRun (i : Side) (sched : List Side) (s : Race) :
    ((run Race.step s sched).calls i).pc.toRun = (s.calls i).pc.toRun - sched.count i := by
  induction sched generalizing s with
  | nil => rfl
  | cons j sched ih =>
      rw [run_cons, ih, List.count_cons]
      by_cases hj : j = i
      · -- call `i` ran one statement
        subst hj
        rw [step_calls_self, Call.step_toRun, beq_self_eq_true, if_pos rfl]
        omega
      · rw [step_calls_of_ne s (Ne.symm hj), if_neg (by simpa using hj)]
        rfl

/-- From the start, a call has its three statements left, less those the
    schedule gave it. -/
theorem run_start_toRun (a b : Lending) (ffa ffb : Faults) (t : List Lending) (sched : List Side)
    (i : Side) :
    ((run Race.step (Race.start a b ffa ffb t) sched).calls i).pc.toRun = 3 - sched.count i := by
  rw [run_toRun]
  cases i <;> rfl

/-- Only an ended call has no statement left. -/
theorem Pc.eq_done_of_toRun {pc : Pc} (h : pc.toRun = 0) : ∃ result, pc = .done result := by
  cases pc with
  | done result => exact ⟨result, rfl⟩
  | lookupFixturesId | lookupQrId _ | insert _ _ =>
      simp only [Pc.toRun] at h
      omega

/-! ## Two items apart -/

/-- The other call. -/
def Side.other : Side → Side
  | .first => .second
  | .second => .first

/-- What keeps the lending `x` clear of the lending `y` on the start table
    `t`: its item is free there and differs from `y`'s by id and by QR id, and
    its id is fresh and differs from `y`'s. -/
structure Apart (x y : Lending) (t : List Lending) : Prop where
  free : ∀ r ∈ t, activeFixturesId r ≠ some x.fixturesId ∧ activeQrId r ≠ some x.fixturesQrId
  fresh : ∀ r ∈ t, r.id ≠ x.id
  fixturesId_ne : y.fixturesId ≠ x.fixturesId
  qrId_ne : y.fixturesQrId ≠ x.fixturesQrId
  id_ne : y.id ≠ x.id

/-- A call nothing has blocked: its look-ups answered "not lent", and once
    ended it inserted. -/
def Call.Clear (c : Call) : Prop :=
  match c.pc with
  | .lookupFixturesId => True
  | .lookupQrId isLending1 => isLending1 = false
  | .insert isLending1 isLending2 => isLending1 = false ∧ isLending2 = false
  | .done result => result = .ok ()

/-- A statement keeps the call's lending and fault pattern. -/
theorem Call.step_info (c : Call) (t : List Lending) :
    (c.step t).1.info = c.info ∧ (c.step t).1.ff = c.ff := by
  obtain ⟨info, ff, pc⟩ := c
  cases pc with
  | lookupFixturesId | lookupQrId _ | done _ => exact ⟨rfl, rfl⟩
  | insert isLending1 isLending2 =>
      cases h : insertLendingRow (ff 2) isLending1 isLending2 info t <;>
        simp [Call.step, h]

theorem Call.insertedRow_of_not {c : Call} (h : c.inserted = false) : c.insertedRow = [] := by
  simp [Call.insertedRow, h]

theorem Call.eq_info_of_mem_insertedRow {c : Call} {r : Lending} (h : r ∈ c.insertedRow) :
    r = c.info.stored := by
  unfold Call.insertedRow at h
  by_cases hc : c.inserted = true
  · rw [if_pos hc] at h
    exact List.mem_singleton.mp h
  · rw [if_neg hc] at h
    exact absurd h List.not_mem_nil

/-- While call `i` has not inserted, an accounted table holds the start rows
    and at most the other call's lending. -/
theorem rows_of_accounted {t : List Lending} {s : Race}
    (hacc : ∃ ins, s.lending = t ++ ins ∧ ins.Perm s.insertedRows) {i : Side}
    (hnot : (s.calls i).inserted = false) :
    ∀ r ∈ s.lending, r ∈ t ∨ r = (s.calls i.other).info.stored := by
  obtain ⟨ins, hl, hp⟩ := hacc
  intro r hr
  rw [hl] at hr
  rcases List.mem_append.mp hr with hr | hr
  · exact Or.inl hr
  · -- a new row is a reported insert, and call `i` reports none
    have hrep : r ∈ s.insertedRows := hp.subset hr
    right
    cases i with
    | first =>
        rw [Race.insertedRows, Call.insertedRow_of_not hnot, List.nil_append] at hrep
        exact Call.eq_info_of_mem_insertedRow hrep
    | second =>
        rw [Race.insertedRows, Call.insertedRow_of_not hnot, List.append_nil] at hrep
        exact Call.eq_info_of_mem_insertedRow hrep

section Apart

variable {x y : Lending} {t table : List Lending}

theorem Apart.free_of_rows (h : Apart x y t) (hrows : ∀ r ∈ table, r ∈ t ∨ r = y.stored) :
    ∀ r ∈ table, activeFixturesId r ≠ some x.fixturesId ∧ activeQrId r ≠ some x.fixturesQrId := by
  intro r hr
  rcases hrows r hr with hr | rfl
  · exact h.free r hr
  · -- the other lending holds another item
    exact ⟨fun hf => h.fixturesId_ne (activeFixturesId_eq_some.mp hf).2,
      fun hq => h.qrId_ne (activeQrId_eq_some.mp hq).2⟩

theorem Apart.fresh_of_rows (h : Apart x y t) (hrows : ∀ r ∈ table, r ∈ t ∨ r = y.stored) :
    ∀ r ∈ table, r.id ≠ x.id := by
  intro r hr
  rcases hrows r hr with hr | rfl
  · exact h.fresh r hr
  · exact h.id_ne

end Apart

/-- **ONE STATEMENT**: a call whose lending is apart from `y`, on a table
    that holds the start rows and at most `y` until the call inserts, stays
    clear. -/
theorem Call.step_clear {c : Call} {y : Lending} {t table : List Lending}
    (hsep : Apart c.info y t) (hff : c.ff = noFaults)
    (hrows : c.inserted = false → ∀ r ∈ table, r ∈ t ∨ r = y.stored) (hc : c.Clear) :
    (c.step table).1.Clear := by
  obtain ⟨info, ff, pc⟩ := c
  subst hff
  cases pc with
  | lookupFixturesId =>
      -- no row of the table holds the item
      exact congrArg Prod.fst (isLending_eq_free (hsep.free_of_rows (hrows rfl)))
  | lookupQrId isLending1 =>
      exact ⟨hc, congrArg Prod.snd (isLending_eq_free (hsep.free_of_rows (hrows rfl)))⟩
  | insert isLending1 isLending2 =>
      obtain ⟨rfl, rfl⟩ := hc
      -- the `INSERT` meets no row under the lending's id
      have hins : insertLendingRow false false false info table = .ok (table ++ [info.stored]) :=
        show runInsert false (QrError.databaseUpdate "lending") Lending.id info.stored table = _ from
          runInsert_eq_ok.mpr ⟨rfl, hsep.fresh_of_rows (hrows rfl), rfl⟩
      have hff2 : noFaults 2 = false := rfl
      simp only [Call.step, hff2, hins]
      rfl
  | done result => exact hc

/-- What two calls on lendings apart keep: their lendings, no failing
    statement, each call clear, and the table accounted for by their
    reports. -/
def Race.Unblocked (info : Side → Lending) (t : List Lending) (s : Race) : Prop :=
  (∀ i, (s.calls i).info = info i ∧ (s.calls i).ff = noFaults ∧ (s.calls i).Clear) ∧
    ∃ ins, s.lending = t ++ ins ∧ ins.Perm s.insertedRows

/-- **STEP**: each statement keeps two calls on lendings apart unblocked. -/
theorem unblocked_step {info : Side → Lending} {t : List Lending}
    (hsep : ∀ i, Apart (info i) (info i.other) t) {s : Race} (hs : Race.Unblocked info t s)
    (i : Side) : Race.Unblocked info t (s.step i) := by
  obtain ⟨hcalls, hacc⟩ := hs
  refine ⟨fun j => ?_, accounted_step t hacc i⟩
  by_cases hj : j = i
  · -- call `j` runs its statement
    subst hj
    obtain ⟨hinfo, hff, hc⟩ := hcalls j
    obtain ⟨hinfo', hff'⟩ := Call.step_info (s.calls j) s.lending
    have hrows :
        (s.calls j).inserted = false → ∀ r ∈ s.lending, r ∈ t ∨ r = (info j.other).stored := by
      intro hnot r hr
      rcases rows_of_accounted hacc hnot r hr with hr | hr
      · exact Or.inl hr
      · exact Or.inr (by rw [hr, (hcalls j.other).1])
    have hsep' : Apart (s.calls j).info (info j.other) t := by
      rw [hinfo]
      exact hsep j
    rw [step_calls_self]
    exact ⟨hinfo'.trans hinfo, hff'.trans hff, Call.step_clear hsep' hff hrows hc⟩
  · rw [step_calls_of_ne s hj]
    exact hcalls j

/-- A clear call that has ended inserted its lending. -/
theorem Call.inserted_of_clear {c : Call} {result : Except QrError Unit}
    (hpc : c.pc = .done result) (hc : c.Clear) : c.inserted = true := by
  unfold Call.Clear at hc
  unfold Call.inserted
  rw [hpc] at hc ⊢
  rw [hc]

/-- **ITEMS APART NEVER BLOCK EACH OTHER**: two concurrent `insert_lending`
    calls for different items (different ids and QR ids), each item free on
    the table and each lending under a fresh id, both insert under every
    interleaving that runs the three statements of each, when no statement
    fails. The race of `race_lends_twice` needs one item. -/
theorem race_apart_both_insert (t : List Lending) (a b : Lending)
    (hfreeA : ∀ r ∈ t, activeFixturesId r ≠ some a.fixturesId ∧ activeQrId r ≠ some a.fixturesQrId)
    (hfreeB : ∀ r ∈ t, activeFixturesId r ≠ some b.fixturesId ∧ activeQrId r ≠ some b.fixturesQrId)
    (hida : ∀ r ∈ t, r.id ≠ a.id) (hidb : ∀ r ∈ t, r.id ≠ b.id)
    (hitem : a.fixturesId ≠ b.fixturesId) (hqr : a.fixturesQrId ≠ b.fixturesQrId)
    (hab : a.id ≠ b.id) {sched : List Side}
    (hfirst : 3 ≤ sched.count .first) (hsecond : 3 ≤ sched.count .second) :
    ((run Race.step (Race.start a b noFaults noFaults t) sched).calls .first).inserted = true ∧
      ((run Race.step (Race.start a b noFaults noFaults t) sched).calls .second).inserted = true := by
  let info : Side → Lending := fun | .first => a | .second => b
  have hsep : ∀ i, Apart (info i) (info i.other) t := by
    intro i
    cases i with
    | first => exact ⟨hfreeA, hida, Ne.symm hitem, Ne.symm hqr, Ne.symm hab⟩
    | second => exact ⟨hfreeB, hidb, hitem, hqr, hab⟩
  have hstart : Race.Unblocked info t (Race.start a b noFaults noFaults t) := by
    refine ⟨fun i => ?_, [], (List.append_nil t).symm, .nil⟩
    cases i <;> exact ⟨rfl, rfl, trivial⟩
  obtain ⟨hcalls, -⟩ := run_invariant (Race.Unblocked info t) (fun s i hs => unblocked_step hsep hs i)
    sched _ hstart
  -- each call has run out of statements, and a clear call that ended inserted
  have hins : ∀ i, 3 ≤ sched.count i →
      ((run Race.step (Race.start a b noFaults noFaults t) sched).calls i).inserted = true := by
    intro i hthree
    have hzero :
        ((run Race.step (Race.start a b noFaults noFaults t) sched).calls i).pc.toRun = 0 := by
      rw [run_start_toRun]
      omega
    obtain ⟨result, hpc⟩ := Pc.eq_done_of_toRun hzero
    exact Call.inserted_of_clear hpc (hcalls i).2.2
  exact ⟨hins .first hfirst, hins .second hsecond⟩

theorem race_apart_both_insert_itemF :
    lendingA.fixturesId ≠ lendingB.fixturesId ∧ lendingA.fixturesQrId ≠ lendingB.fixturesQrId ∧
      lendingA.id ≠ lendingB.id ∧
      ((run Race.step (Race.start lendingA lendingB noFaults noFaults []) raceSchedule).calls
          .first).inserted = true ∧
      ((run Race.step (Race.start lendingA lendingB noFaults noFaults []) raceSchedule).calls
          .second).inserted = true := by
  have hitem : lendingA.fixturesId ≠ lendingB.fixturesId := by decide
  have hqr : lendingA.fixturesQrId ≠ lendingB.fixturesQrId := by decide
  have hab : lendingA.id ≠ lendingB.id := by decide
  exact ⟨hitem, hqr, hab, race_apart_both_insert [] lendingA lendingB
    (fun _ h => absurd h List.not_mem_nil) (fun _ h => absurd h List.not_mem_nil)
    (fun _ h => absurd h List.not_mem_nil) (fun _ h => absurd h List.not_mem_nil)
    hitem hqr hab (by decide) (by decide)⟩

end QrLendingRace
