import Mathlib

/-! # SQL tables as lists of rows — the statement algebra

    A table is the list of its rows.  The statements a program sends through a
    database driver become list functions:

    * `fetchOptional p` — `SELECT * ... WHERE p` read with `fetch_optional`: the
      first row satisfying `p` (the list order stands for the order the server
      happens to return rows in);
    * `fetchAll p` — the same `SELECT` read with `fetch_all`;
    * `insert key r` — `INSERT` under the primary key `key`, refused on a key
      conflict;
    * `update p f` — `UPDATE ... SET f WHERE p`, every matching row rewritten;
    * `delete p` — `DELETE ... WHERE p`.

    A statement sent through a driver may also fail for a reason the database
    state does not show (a lost connection, a timeout); `runInsert`,
    `runUpdate`, `runDelete` and `runFetchOne` take that as a flag `fail`, and
    turn every failure into the caller's error (its `map_err`).  A failed
    statement changes nothing.

    On top of them, `keyCount k x` counts the rows whose *partial* key `k` is
    `x` (rows with `k r = none` take no part), and `KeyUnique k` says every key
    value is held by at most one row: the shape of "at most one active row per
    item".  Each statement gets its frame and its effect on `keyCount`, so that
    invariants of a schema are proved one statement at a time. -/

namespace Table

variable {ρ κ : Type}

/-- `SELECT * ... WHERE p` read with `fetch_optional`. -/
def fetchOptional (p : ρ → Bool) (t : List ρ) : Option ρ :=
  t.find? p

/-- `SELECT * ... WHERE p` read with `fetch_all`. -/
def fetchAll (p : ρ → Bool) (t : List ρ) : List ρ :=
  t.filter p

/-- `INSERT` into a table whose primary key is `key`: `none` when some row
    already holds the key of `r`. -/
def insert [DecidableEq κ] (key : ρ → κ) (r : ρ) (t : List ρ) : Option (List ρ) :=
  if t.any (fun s => key s = key r) then none else some (t ++ [r])

/-- `UPDATE ... SET f WHERE p`. -/
def update (p : ρ → Bool) (f : ρ → ρ) (t : List ρ) : List ρ :=
  t.map (fun r => if p r then f r else r)

/-- `DELETE ... WHERE p`. -/
def delete (p : ρ → Bool) (t : List ρ) : List ρ :=
  t.filter (fun r => !p r)

/-! ## Statements through a driver -/

section Run

variable {ε : Type}

/-- An `INSERT` through the driver, reporting `err` on failure or key conflict. -/
def runInsert [DecidableEq κ] (fail : Bool) (err : ε) (key : ρ → κ) (r : ρ) (t : List ρ) :
    Except ε (List ρ) :=
  if fail then .error err else
  match insert key r t with
  | none => .error err
  | some t' => .ok t'

/-- An `UPDATE` through the driver; zero matching rows is still a success. -/
def runUpdate (fail : Bool) (err : ε) (p : ρ → Bool) (f : ρ → ρ) (t : List ρ) :
    Except ε (List ρ) :=
  if fail then .error err else .ok (update p f t)

/-- A `DELETE` through the driver. -/
def runDelete (fail : Bool) (err : ε) (p : ρ → Bool) (t : List ρ) : Except ε (List ρ) :=
  if fail then .error err else .ok (delete p t)

/-- A `fetch_optional` through the driver, with `notFound` for an empty answer. -/
def runFetchOne (fail : Bool) (err notFound : ε) (p : ρ → Bool) (t : List ρ) : Except ε ρ :=
  if fail then .error err else
  match fetchOptional p t with
  | some r => .ok r
  | none => .error notFound

end Run

/-- The number of rows whose partial key `k` is `x`. -/
def keyCount [DecidableEq κ] (k : ρ → Option κ) (x : κ) (t : List ρ) : Nat :=
  t.countP (fun r => k r = some x)

/-- At most one row per value of the partial key `k`. -/
def KeyUnique [DecidableEq κ] (k : ρ → Option κ) (t : List ρ) : Prop :=
  ∀ x, keyCount k x t ≤ 1

/-! ## Reads -/

theorem fetchOptional_eq_none {p : ρ → Bool} {t : List ρ} :
    fetchOptional p t = none ↔ ∀ r ∈ t, p r = false := by
  simp [fetchOptional]

theorem fetchOptional_mem {p : ρ → Bool} {t : List ρ} {r : ρ}
    (h : fetchOptional p t = some r) : r ∈ t ∧ p r = true :=
  ⟨List.mem_of_find?_eq_some h, List.find?_some h⟩

/-- A row satisfying `p` makes the read succeed. -/
theorem fetchOptional_isSome {p : ρ → Bool} {t : List ρ} {r : ρ}
    (hr : r ∈ t) (hp : p r = true) : (fetchOptional p t).isSome = true := by
  cases h : fetchOptional p t with
  | some _ => rfl
  | none =>
      have := fetchOptional_eq_none.mp h r hr
      rw [hp] at this
      exact Bool.noConfusion this

/-! ## Inserts -/

theorem insert_eq_some [DecidableEq κ] {key : ρ → κ} {r : ρ} {t t' : List ρ} :
    insert key r t = some t' ↔ (∀ s ∈ t, key s ≠ key r) ∧ t' = t ++ [r] := by
  unfold insert
  by_cases h : t.any (fun s => key s = key r) = true
  · rw [if_pos h]
    obtain ⟨s, hs, hk⟩ := List.any_eq_true.mp h
    constructor
    · intro hn
      nomatch hn
    · rintro ⟨hne, -⟩
      exact absurd (of_decide_eq_true hk) (hne s hs)
  · rw [if_neg h]
    have hne : ∀ s ∈ t, key s ≠ key r := by
      intro s hs hk
      exact h (List.any_eq_true.mpr ⟨s, hs, decide_eq_true hk⟩)
    constructor
    · intro he
      exact ⟨hne, (Option.some.inj he).symm⟩
    · rintro ⟨-, rfl⟩
      rfl

theorem insert_eq_none [DecidableEq κ] {key : ρ → κ} {r : ρ} {t : List ρ} :
    insert key r t = none ↔ ∃ s ∈ t, key s = key r := by
  unfold insert
  by_cases h : t.any (fun s => key s = key r) = true
  · rw [if_pos h]
    obtain ⟨s, hs, hk⟩ := List.any_eq_true.mp h
    exact ⟨fun _ => ⟨s, hs, of_decide_eq_true hk⟩, fun _ => rfl⟩
  · rw [if_neg h]
    constructor
    · intro hn
      nomatch hn
    · rintro ⟨s, hs, hk⟩
      exact absurd (List.any_eq_true.mpr ⟨s, hs, decide_eq_true hk⟩) h

/-- A read after an append finds the old answer, or else the new row. -/
theorem fetchOptional_append_singleton (p : ρ → Bool) (t : List ρ) (r : ρ) :
    fetchOptional p (t ++ [r]) =
      (fetchOptional p t).or (if p r then some r else none) := by
  simp only [fetchOptional, List.find?_append, List.find?_cons, List.find?_nil]
  cases p r <;> rfl

/-- A read of a row appended to a table where no row matches finds that row. -/
theorem fetchOptional_append_fresh {p : ρ → Bool} {t : List ρ} {r : ρ}
    (hfresh : ∀ s ∈ t, p s = false) (hr : p r = true) : fetchOptional p (t ++ [r]) = some r := by
  rw [fetchOptional_append_singleton, fetchOptional_eq_none.mpr hfresh, hr]
  rfl

/-- A read that finds a row finds the same row once rows are appended. -/
theorem fetchOptional_append_of_eq_some {p : ρ → Bool} {t : List ρ} {r : ρ}
    (h : fetchOptional p t = some r) (u : List ρ) : fetchOptional p (t ++ u) = some r := by
  simp only [fetchOptional] at h ⊢
  rw [List.find?_append, h, Option.some_or]

/-! ## Updates -/

theorem mem_update {p : ρ → Bool} {f : ρ → ρ} {t : List ρ} {x : ρ} :
    x ∈ update p f t ↔ ∃ r ∈ t, (if p r then f r else r) = x := by
  simp [update]

/-- **Frame**: a row the `WHERE` clause does not select survives the update. -/
theorem mem_update_of_not {p : ρ → Bool} {f : ρ → ρ} {t : List ρ} {r : ρ}
    (hr : r ∈ t) (hp : p r = false) : r ∈ update p f t := by
  rw [mem_update]
  exact ⟨r, hr, by rw [hp]; rfl⟩

/-- What every row has, every row has after an update that gives it to each
    row it rewrites. -/
theorem forall_mem_update {P : ρ → Prop} {p : ρ → Bool} {f : ρ → ρ} {t : List ρ}
    (h : ∀ r ∈ t, P r) (hf : ∀ r ∈ t, p r = true → P (f r)) : ∀ x ∈ update p f t, P x := by
  intro x hx
  obtain ⟨r, hr, rfl⟩ := mem_update.mp hx
  cases hp : p r with
  | true =>
      rw [if_pos rfl]
      exact hf r hr hp
  | false =>
      rw [if_neg Bool.false_ne_true]
      exact h r hr

/-- Two rewrites that agree on the selected rows make the same update. -/
theorem update_congr {p : ρ → Bool} {f g : ρ → ρ} {t : List ρ}
    (h : ∀ r ∈ t, p r = true → f r = g r) : update p f t = update p g t := by
  unfold update
  apply List.map_congr_left
  intro r hr
  cases hp : p r with
  | false => rfl
  | true =>
      simp only [if_true]
      exact h r hr hp

/-- A read whose predicate holds on no row the update touches, before or after,
    is not affected by the update. -/
theorem fetchOptional_update_of_disjoint {p q : ρ → Bool} {f : ρ → ρ} {t : List ρ}
    (hq : ∀ r, p r = true → q r = false ∧ q (f r) = false) :
    fetchOptional q (update p f t) = fetchOptional q t := by
  induction t with
  | nil => rfl
  | cons r rest ih =>
      simp only [fetchOptional, update, List.map_cons, List.find?_cons] at ih ⊢
      rw [ih]
      cases hp : p r with
      | false => rfl
      | true =>
          obtain ⟨h1, h2⟩ := hq r hp
          simp only [if_true, h1, h2]

/-- Reading the rows an update selects, when the rewrite keeps them selected,
    gives the rewritten first match. -/
theorem fetchOptional_update_self {p : ρ → Bool} {f : ρ → ρ} {t : List ρ}
    (hf : ∀ r, p r = true → p (f r) = true) :
    fetchOptional p (update p f t) = (fetchOptional p t).map f := by
  induction t with
  | nil => rfl
  | cons r rest ih =>
      simp only [fetchOptional, update, List.map_cons, List.find?_cons] at ih ⊢
      cases hp : p r with
      | false => simp only [Bool.false_eq_true, if_false, hp, ih]
      | true => simp only [if_true, hf r hp, Option.map_some]

/-- An update writing the row `c` over the rows `p` selects, when one is
    selected and `c` stays selected, reads back `c`. -/
theorem fetchOptional_update_const {p : ρ → Bool} {c : ρ} {t : List ρ} (hc : p c = true)
    (hex : ∃ r ∈ t, p r = true) : fetchOptional p (update p (fun _ => c) t) = some c := by
  rw [fetchOptional_update_self (fun _ _ => hc)]
  obtain ⟨r, hr, hp⟩ := hex
  obtain ⟨r', hr'⟩ := Option.isSome_iff_exists.mp (fetchOptional_isSome hr hp)
  rw [hr']
  rfl

/-- Writing the row `c` over the selected rows again changes nothing when `c`
    stays selected. -/
theorem update_const_idem {p : ρ → Bool} {c : ρ} (hc : p c = true) (t : List ρ) :
    update p (fun _ => c) (update p (fun _ => c) t) = update p (fun _ => c) t := by
  unfold update
  rw [List.map_map]
  apply List.map_congr_left
  intro r _
  -- a selected row is `c`, which stays selected; any other row is kept twice
  cases hp : p r with
  | true => simp [hp, hc]
  | false => simp [hp]

/-! ## Deletes -/

theorem mem_delete {p : ρ → Bool} {t : List ρ} {x : ρ} :
    x ∈ delete p t ↔ x ∈ t ∧ p x = false := by
  simp [delete]

/-- What every row has, every row left by a delete has. -/
theorem forall_mem_delete {P : ρ → Prop} {p : ρ → Bool} {t : List ρ}
    (h : ∀ r ∈ t, P r) : ∀ x ∈ delete p t, P x :=
  fun x hx => h x (mem_delete.mp hx).1

/-- A delete run again deletes nothing. -/
theorem delete_delete (p : ρ → Bool) (t : List ρ) : delete p (delete p t) = delete p t := by
  simp only [delete, List.filter_filter, Bool.and_self]

/-- After a delete, a read of the deleted rows finds none. -/
theorem fetchOptional_delete_self (p : ρ → Bool) (t : List ρ) :
    fetchOptional p (delete p t) = none := by
  rw [fetchOptional_eq_none]
  intro r hr
  exact (mem_delete.mp hr).2

/-- A read that selects none of the deleted rows is not affected. -/
theorem fetchOptional_delete_of_disjoint {p q : ρ → Bool} {t : List ρ}
    (hq : ∀ r, q r = true → p r = false) :
    fetchOptional q (delete p t) = fetchOptional q t := by
  induction t with
  | nil => rfl
  | cons r rest ih =>
      simp only [fetchOptional, delete, List.filter_cons] at ih ⊢
      cases hqr : q r with
      | false =>
          cases p r with
          | false => simp only [Bool.not_false, if_true, List.find?_cons, hqr, ih]
          | true => simp only [Bool.not_true, Bool.false_eq_true, if_false, List.find?_cons, hqr, ih]
      | true =>
          simp only [hq r hqr, Bool.not_false, if_true, List.find?_cons, hqr]

/-! ## Statements through a driver: effects -/

section RunLemmas

variable {ε : Type}

theorem runInsert_eq_ok [DecidableEq κ] {fail : Bool} {err : ε} {key : ρ → κ} {r : ρ}
    {t t' : List ρ} :
    runInsert fail err key r t = .ok t' ↔
      fail = false ∧ (∀ s ∈ t, key s ≠ key r) ∧ t' = t ++ [r] := by
  unfold runInsert
  cases fail with
  | true =>
      simp only [if_true, Bool.true_eq_false, false_and, iff_false]
      intro h
      nomatch h
  | false =>
      simp only [Bool.false_eq_true, if_false, true_and]
      cases hi : insert key r t with
      | none =>
          have hc := insert_eq_none.mp hi
          obtain ⟨s, hs, hk⟩ := hc
          simp only [reduceCtorEq, false_iff, not_and]
          intro hne
          exact absurd hk (hne s hs)
      | some t'' =>
          obtain ⟨hne, rfl⟩ := insert_eq_some.mp hi
          simp only [Except.ok.injEq]
          exact ⟨fun h => ⟨hne, h.symm⟩, fun h => h.2.symm⟩

theorem runUpdate_eq_ok {fail : Bool} {err : ε} {p : ρ → Bool} {f : ρ → ρ} {t t' : List ρ} :
    runUpdate fail err p f t = .ok t' ↔ fail = false ∧ t' = update p f t := by
  unfold runUpdate
  cases fail with
  | true =>
      simp only [if_true, Bool.true_eq_false, false_and, iff_false]
      intro h
      nomatch h
  | false =>
      simp only [Bool.false_eq_true, if_false, true_and, Except.ok.injEq]
      exact eq_comm

theorem runDelete_eq_ok {fail : Bool} {err : ε} {p : ρ → Bool} {t t' : List ρ} :
    runDelete fail err p t = .ok t' ↔ fail = false ∧ t' = delete p t := by
  unfold runDelete
  cases fail with
  | true =>
      simp only [if_true, Bool.true_eq_false, false_and, iff_false]
      intro h
      nomatch h
  | false =>
      simp only [Bool.false_eq_true, if_false, true_and, Except.ok.injEq]
      exact eq_comm

theorem runFetchOne_eq_ok {fail : Bool} {err notFound : ε} {p : ρ → Bool} {t : List ρ} {r : ρ} :
    runFetchOne fail err notFound p t = .ok r ↔ fail = false ∧ fetchOptional p t = some r := by
  unfold runFetchOne
  cases fail with
  | true =>
      simp only [if_true, Bool.true_eq_false, false_and, iff_false]
      intro h
      nomatch h
  | false =>
      simp only [Bool.false_eq_true, if_false, true_and]
      cases fetchOptional p t with
      | none => simp only [reduceCtorEq]
      | some r' => simp

/-- A `fetch_optional` through the driver reads only the row the look-up finds. -/
theorem runFetchOne_congr {fail : Bool} {err notFound : ε} {p : ρ → Bool} {t t' : List ρ}
    (h : fetchOptional p t = fetchOptional p t') :
    runFetchOne fail err notFound p t = runFetchOne fail err notFound p t' := by
  simp only [runFetchOne, h]

/-- With the statement answering and no row matching, a read answers its
    not-found error. -/
theorem runFetchOne_eq_notFound {err notFound : ε} {p : ρ → Bool} {t : List ρ}
    (h : fetchOptional p t = none) : runFetchOne false err notFound p t = .error notFound := by
  simp only [runFetchOne, Bool.false_eq_true, if_false, h]

/-- With the statement answering, a read succeeds exactly when some row
    matches: the one thing a caller learns from `.is_ok()`. -/
theorem runFetchOne_isOk {err notFound : ε} {p : ρ → Bool} {t : List ρ} :
    (runFetchOne false err notFound p t).isOk = true ↔ ∃ r ∈ t, p r = true := by
  unfold runFetchOne
  simp only [Bool.false_eq_true, if_false]
  cases h : fetchOptional p t with
  | some r =>
      obtain ⟨hr, hp⟩ := fetchOptional_mem h
      exact ⟨fun _ => ⟨r, hr, hp⟩, fun _ => rfl⟩
  | none =>
      have hno := fetchOptional_eq_none.mp h
      constructor
      · intro hok
        nomatch hok
      · rintro ⟨r, hr, hp⟩
        rw [hno r hr] at hp
        exact absurd hp Bool.false_ne_true

end RunLemmas

/-! ## Partial-key uniqueness -/

section KeyUnique

variable [DecidableEq κ] {k : ρ → Option κ}

theorem keyUnique_nil : KeyUnique k ([] : List ρ) := by
  intro x
  simp [keyCount]

/-- A rewrite that can only drop rows out of a key class keeps keys unique. -/
theorem keyUnique_map {t : List ρ} {g : ρ → ρ}
    (hg : ∀ r x, k (g r) = some x → k r = some x) (h : KeyUnique k t) :
    KeyUnique k (t.map g) := by
  intro x
  calc keyCount k x (t.map g)
      = t.countP (fun r => k (g r) = some x) := by
        simp only [keyCount, List.countP_map]
        rfl
    _ ≤ keyCount k x t := by
        apply List.countP_mono_left
        intro r _ hr
        simp only [decide_eq_true_eq] at hr ⊢
        exact hg r x hr
    _ ≤ 1 := h x

/-- An `UPDATE` whose rewrite of a selected row can only drop it out of a key
    class keeps keys unique. -/
theorem keyUnique_update {t : List ρ} (p : ρ → Bool) {f : ρ → ρ}
    (hf : ∀ r, p r = true → ∀ x, k (f r) = some x → k r = some x) (h : KeyUnique k t) :
    KeyUnique k (update p f t) := by
  apply keyUnique_map _ h
  intro r x hr
  cases hp : p r with
  | false => rw [hp] at hr; exact hr
  | true => rw [hp] at hr; exact hf r hp x hr

/-- A `DELETE` keeps keys unique: it only drops rows. -/
theorem keyUnique_delete {t : List ρ} (p : ρ → Bool) (h : KeyUnique k t) :
    KeyUnique k (delete p t) := by
  intro x
  calc keyCount k x (delete p t)
      ≤ keyCount k x t := List.Sublist.countP_le List.filter_sublist
    _ ≤ 1 := h x

/-- After an `UPDATE`, the rows holding a key are the rewritten rows that take
    it and the untouched rows that hold it. -/
theorem keyCount_update (t : List ρ) (p : ρ → Bool) (f : ρ → ρ) (x : κ) :
    keyCount k x (update p f t) =
      (t.filter p).countP (fun r => k (f r) = some x) +
        (t.filter (fun r => !p r)).countP (fun r => k r = some x) := by
  unfold keyCount update
  rw [List.countP_map, List.countP_eq_countP_filter_add _ _ p]
  congr 1
  · apply List.countP_congr
    intro r hr
    simp only [Function.comp_apply, (List.mem_filter.mp hr).2, if_true]
  · apply List.countP_congr
    intro r hr
    have hpr : p r = false := by simpa using (List.mem_filter.mp hr).2
    simp only [Function.comp_apply, hpr, Bool.false_eq_true, if_false]

/-- An `UPDATE` that selects at most one row keeps a key unique when no row it
    leaves alone holds the key the rewritten row gets. -/
theorem keyUnique_update_one {t : List ρ} {p : ρ → Bool} {f : ρ → ρ}
    (hone : t.countP p ≤ 1)
    (hfresh : ∀ s ∈ t, p s = true → ∀ x, k (f s) = some x →
      ∀ r ∈ t, p r = false → k r ≠ some x)
    (h : KeyUnique k t) : KeyUnique k (update p f t) := by
  intro x
  rw [keyCount_update]
  by_cases hx : ∃ s ∈ t, p s = true ∧ k (f s) = some x
  · -- the rewritten row takes the key, so no untouched row holds it
    obtain ⟨s, hs, hps, hks⟩ := hx
    have h0 : (t.filter (fun r => !p r)).countP (fun r => k r = some x) = 0 := by
      rw [List.countP_eq_zero]
      intro r hr hkr
      obtain ⟨hrt, hpr⟩ := List.mem_filter.mp hr
      exact hfresh s hs hps x hks r hrt (by simpa using hpr) (of_decide_eq_true hkr)
    have h1 : (t.filter p).countP (fun r => k (f r) = some x) ≤ 1 :=
      calc (t.filter p).countP (fun r => k (f r) = some x)
          ≤ (t.filter p).length := List.countP_le_length
        _ = t.countP p := List.countP_eq_length_filter.symm
        _ ≤ 1 := hone
    omega
  · -- no rewritten row takes the key: only untouched rows can hold it
    have h0 : (t.filter p).countP (fun r => k (f r) = some x) = 0 := by
      rw [List.countP_eq_zero]
      intro r hr hkr
      obtain ⟨hrt, hpr⟩ := List.mem_filter.mp hr
      exact hx ⟨r, hrt, hpr, of_decide_eq_true hkr⟩
    have h1 : (t.filter (fun r => !p r)).countP (fun r => k r = some x) ≤ keyCount k x t :=
      List.Sublist.countP_le List.filter_sublist
    have h2 := h x
    omega

/-- Appending a row whose key no row holds keeps keys unique. -/
theorem keyUnique_append_singleton {t : List ρ} {r : ρ} (h : KeyUnique k t)
    (hr : ∀ x, k r = some x → ∀ s ∈ t, k s ≠ some x) :
    KeyUnique k (t ++ [r]) := by
  intro x
  unfold keyCount
  rw [List.countP_append]
  by_cases hx : k r = some x
  · have h0 : t.countP (fun s => k s = some x) = 0 := by
      rw [List.countP_eq_zero]
      intro s hs hks
      exact hr x hx s hs (of_decide_eq_true hks)
    rw [h0, Nat.zero_add]
    exact List.countP_le_length
  · have h0 : [r].countP (fun s => k s = some x) = 0 := by
      simp [hx]
    rw [h0]
    exact h x

/-! ### Total keys -/

/-- Appending a row under a total key that no row holds keeps the key unique. -/
theorem keyUnique_append_fresh {key : ρ → κ} {t : List ρ} {r : ρ}
    (h : KeyUnique (fun s => some (key s)) t) (hfresh : ∀ s ∈ t, key s ≠ key r) :
    KeyUnique (fun s => some (key s)) (t ++ [r]) := by
  refine keyUnique_append_singleton h fun x hx s hs hsx => hfresh s hs ?_
  exact Option.some.inj (hsx.trans hx.symm)

/-- An `INSERT` past its primary-key check keeps the primary key unique. -/
theorem keyUnique_runInsert {ε : Type} {key : ρ → κ} {fail : Bool} {err : ε} {r : ρ}
    {t t' : List ρ} (h : KeyUnique (fun s => some (key s)) t)
    (hw : runInsert fail err key r t = .ok t') : KeyUnique (fun s => some (key s)) t' := by
  obtain ⟨-, hfresh, rfl⟩ := runInsert_eq_ok.mp hw
  exact keyUnique_append_fresh h hfresh

/-- An `UPDATE ... WHERE key = x` whose rewrite keeps the key `x` keeps the key
    unique. -/
theorem keyUnique_update_key {key : ρ → κ} {x : κ} {f : ρ → ρ} {t : List ρ}
    (hf : ∀ r, key r = x → key (f r) = x) (h : KeyUnique (fun s => some (key s)) t) :
    KeyUnique (fun s => some (key s)) (update (fun r => key r = x) f t) := by
  refine keyUnique_update _ (fun r hr y hy => ?_) h
  have hx : key r = x := of_decide_eq_true hr
  rw [← hy, hf r hx, hx]

/-! ### Look-ups by a unique key

    A key that every row has is unique exactly when the column of keys has no
    duplicate; a look-up by such a key then finds the row that holds it,
    whatever order the rows come in. -/

/-- A total key is unique exactly when the list of keys has no duplicate. -/
theorem keyUnique_iff_nodup {key : ρ → κ} {t : List ρ} :
    KeyUnique (fun s => some (key s)) t ↔ (t.map key).Nodup := by
  rw [List.nodup_iff_count_le_one]
  refine forall_congr' fun x => ?_
  have hcount : keyCount (fun s => some (key s)) x t = (t.map key).count x := by
    rw [List.count, List.countP_map]
    apply List.countP_congr
    intro r _
    simp
  rw [hcount]

theorem KeyUnique.perm {t t' : List ρ} (hp : t.Perm t') (h : KeyUnique k t) : KeyUnique k t' := by
  intro x
  calc keyCount k x t' = keyCount k x t := (hp.countP_eq _).symm
    _ ≤ 1 := h x

/-- Under a unique key, a look-up by the key finds exactly the row holding it. -/
theorem fetchOptional_key_eq_some {key : ρ → κ} {t : List ρ}
    (h : KeyUnique (fun s => some (key s)) t) {x : κ} {r : ρ} :
    fetchOptional (fun s => key s = x) t = some r ↔ r ∈ t ∧ key r = x := by
  constructor
  · intro hr
    obtain ⟨hmem, hkey⟩ := fetchOptional_mem hr
    exact ⟨hmem, of_decide_eq_true hkey⟩
  · rintro ⟨hmem, rfl⟩
    -- the look-up finds some row of the key, and only `r` holds it
    obtain ⟨r', hr'⟩ := Option.isSome_iff_exists.mp
      (fetchOptional_isSome (p := fun s => decide (key s = key r)) hmem (decide_eq_true rfl))
    obtain ⟨hmem', hkey'⟩ := fetchOptional_mem hr'
    rw [hr', List.inj_on_of_nodup_map (keyUnique_iff_nodup.mp h) hmem' hmem
      (of_decide_eq_true hkey')]

/-- Under a unique key, a look-up by the key does not depend on the order the
    rows come in. -/
theorem fetchOptional_key_perm {key : ρ → κ} {t t' : List ρ} (hp : t.Perm t')
    (h : KeyUnique (fun s => some (key s)) t) (x : κ) :
    fetchOptional (fun s => key s = x) t = fetchOptional (fun s => key s = x) t' := by
  cases hf : fetchOptional (fun s => key s = x) t with
  | some r =>
      obtain ⟨hr, hk⟩ := (fetchOptional_key_eq_some h).mp hf
      exact ((fetchOptional_key_eq_some (h.perm hp)).mpr ⟨hp.subset hr, hk⟩).symm
  | none =>
      -- no row holds the key, in either order
      rw [eq_comm, fetchOptional_eq_none]
      intro r hr
      exact fetchOptional_eq_none.mp hf r (hp.symm.subset hr)

end KeyUnique

/-! ## The keyed store a table stands for

    Read through a key, a table is a store: under each value of the key, the
    row a look-up by that value finds.  A statement acts on that store as the
    store's own operation, whatever rows the table holds: an `INSERT` past its
    key check fills a free key, an `UPDATE` that keeps keys rewrites what each
    key holds, a `DELETE` by key frees the key.  Only a look-up that is not by
    the key needs the key to be unique, to see every row through the store. -/

section Store

variable [DecidableEq κ]

/-- What the table holds under each value of `key`. -/
def readBack (key : ρ → κ) (t : List ρ) : κ → Option ρ :=
  fun x => fetchOptional (fun r => key r = x) t

/-- An `INSERT` on a store: `r` goes in under `x` when the statement answers
    and `x` is free. -/
def insertAt (fail : Bool) (x : κ) (r : ρ) (m : κ → Option ρ) : κ → Option ρ :=
  if fail = false ∧ (m x).isNone then Function.update m x (some r) else m

/-- An `UPDATE` of one key on a store: what `x` holds, rewritten by `f`. -/
def updateAt (fail : Bool) (x : κ) (f : ρ → ρ) (m : κ → Option ρ) : κ → Option ρ :=
  if fail = false then Function.update m x ((m x).map f) else m

/-- An `UPDATE ... WHERE p` on a store: every row satisfying `p` rewritten by `f`. -/
def updateWhere (fail : Bool) (p : ρ → Bool) (f : ρ → ρ) (m : κ → Option ρ) : κ → Option ρ :=
  if fail = false then fun x => (m x).map (fun r => if p r then f r else r) else m

/-- A `DELETE` of one key on a store. -/
def deleteAt (fail : Bool) (x : κ) (m : κ → Option ρ) : κ → Option ρ :=
  if fail = false then Function.update m x none else m

variable (key : ρ → κ)

@[simp] theorem readBack_nil : readBack key ([] : List ρ) = fun _ => none := rfl

theorem readBack_eq_none {t : List ρ} {x : κ} :
    readBack key t x = none ↔ ∀ r ∈ t, key r ≠ x := by
  unfold readBack
  rw [fetchOptional_eq_none]
  simp only [decide_eq_false_iff_not]

/-- The row the store holds under `x` is a row of the table, and holds `x`. -/
theorem readBack_eq_some {t : List ρ} {x : κ} {r : ρ} (h : readBack key t x = some r) :
    r ∈ t ∧ key r = x := by
  obtain ⟨hr, hk⟩ := fetchOptional_mem h
  exact ⟨hr, of_decide_eq_true hk⟩

/-- A row appended under a key no row holds is what the store holds there. -/
theorem readBack_append_fresh {t : List ρ} {r : ρ} (hfresh : ∀ s ∈ t, key s ≠ key r) :
    readBack key (t ++ [r]) = Function.update (readBack key t) (key r) (some r) := by
  funext x
  by_cases hx : x = key r
  · subst hx
    rw [Function.update_self]
    exact fetchOptional_append_fresh (fun s hs => decide_eq_false (hfresh s hs))
      (decide_eq_true rfl)
  · -- the appended row does not hold `x`
    have hr : decide (key r = x) = false := decide_eq_false (Ne.symm hx)
    rw [Function.update_of_ne hx]
    show fetchOptional _ (t ++ [r]) = fetchOptional _ t
    rw [fetchOptional_append_singleton, hr]
    exact Option.or_none

/-- An `UPDATE` whose rewrite keeps the key rewrites what each key holds. -/
theorem readBack_update {t : List ρ} {p : ρ → Bool} {f : ρ → ρ}
    (hf : ∀ r, p r = true → key (f r) = key r) (x : κ) :
    readBack key (update p f t) x = (readBack key t x).map (fun r => if p r then f r else r) := by
  unfold readBack fetchOptional update
  rw [List.find?_map]
  congr 1
  -- the rewritten row holds the key the row held
  apply List.find?_congr
  intro r _
  cases hp : p r with
  | false => simp only [Function.comp_apply, hp, Bool.false_eq_true, if_false]
  | true => simp only [Function.comp_apply, hp, if_true, hf r hp]

/-- An `UPDATE ... WHERE key = y` whose rewrite keeps `y` rewrites what `y`
    holds, and nothing else. -/
theorem readBack_update_key {t : List ρ} {y : κ} {f : ρ → ρ}
    (hf : ∀ r, key r = y → key (f r) = y) :
    readBack key (update (fun r => key r = y) f t) =
      Function.update (readBack key t) y ((readBack key t y).map f) := by
  funext x
  have hkeep : ∀ r, decide (key r = y) = true → key (f r) = key r := by
    intro r hr
    have hy : key r = y := of_decide_eq_true hr
    rw [hf r hy, hy]
  rw [readBack_update key hkeep x]
  cases hx : readBack key t x with
  | none =>
      by_cases hxy : x = y
      · subst hxy
        rw [Function.update_self, hx, Option.map_none, Option.map_none]
      · rw [Function.update_of_ne hxy, hx, Option.map_none]
  | some r =>
      -- the row found under `x` holds `x`
      have hrx : key r = x := (readBack_eq_some key hx).2
      by_cases hxy : x = y
      · subst hxy
        rw [Function.update_self, hx, Option.map_some, Option.map_some,
          if_pos (decide_eq_true hrx)]
      · rw [Function.update_of_ne hxy, hx, Option.map_some,
          if_neg (by rw [hrx]; exact fun h => hxy (of_decide_eq_true h))]

/-- A `DELETE ... WHERE key = y` frees `y` and nothing else. -/
theorem readBack_delete_key {t : List ρ} {y : κ} :
    readBack key (delete (fun r => key r = y) t) = Function.update (readBack key t) y none := by
  funext x
  by_cases hxy : x = y
  · subst hxy
    rw [Function.update_self]
    exact fetchOptional_delete_self _ t
  · rw [Function.update_of_ne hxy]
    apply fetchOptional_delete_of_disjoint
    intro r hr
    have hrx : key r = x := of_decide_eq_true hr
    exact decide_eq_false (by rw [hrx]; exact hxy)

/-- Under a unique key the store shows every row: a row is in the table
    exactly when the store holds it under its key. -/
theorem mem_iff_readBack {t : List ρ} (h : KeyUnique (fun s => some (key s)) t) {r : ρ} :
    r ∈ t ↔ readBack key t (key r) = some r :=
  ⟨fun hr => (fetchOptional_key_eq_some h).mpr ⟨hr, rfl⟩, fun hr => (readBack_eq_some key hr).1⟩

/-- Under a unique key, a row of the table with a property is a row of the
    store with it. -/
theorem exists_mem_iff_readBack {t : List ρ} (h : KeyUnique (fun s => some (key s)) t)
    {P : ρ → Prop} : (∃ r ∈ t, P r) ↔ ∃ x r, readBack key t x = some r ∧ P r := by
  constructor
  · rintro ⟨r, hr, hP⟩
    exact ⟨key r, r, (mem_iff_readBack key h).mp hr, hP⟩
  · rintro ⟨x, r, hx, hP⟩
    exact ⟨r, (readBack_eq_some key hx).1, hP⟩

end Store

end Table
