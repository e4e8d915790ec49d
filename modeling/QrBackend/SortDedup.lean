import Mathlib

/-! # Sort by a key, then drop repeated keys

    `sortByKey key` is a *stable* sort by `key`: core's merge sort, whose
    output is the one every stable sort must produce (sorted, equal keys in
    input order).  `dedupByKey key` keeps an element only when its key differs
    from the key of the element kept just before it — Rust's `dedup_by_key`,
    which is Mathlib's `destutter` at `key a ≠ key b`.

    Composed, they turn any list into one entry per key:

    * `dedupByKey_sortByKey_pairwise` — the keys strictly increase;
    * `exists_mem_dedupByKey_sortByKey` / `mem_of_mem_dedupByKey_sortByKey` —
      the keys are exactly the input's;
    * `find?_of_mem_dedupByKey_sortByKey` — the entry kept for a key is the
      *first* input element with that key.

    The last one is where stability matters: `filter_sortByKey` says the sort
    keeps each key class in input order, and `find?_of_mem_dedupByKey` that
    deduplicating a sorted list keeps the head of each class. -/

namespace SortDedup

variable {α κ : Type} [LinearOrder κ] (key : α → κ)

/-- A stable sort by `key`. -/
def sortByKey (l : List α) : List α :=
  l.mergeSort (fun a b => decide (key a ≤ key b))

/-- Drop each element whose key repeats that of the element kept before it. -/
def dedupByKey (l : List α) : List α :=
  l.destutter (fun a b => key a ≠ key b)

variable {key}

/-! ## The sort -/

/-- The sort's comparison is transitive. -/
theorem keyLe_trans (a b c : α) (hab : decide (key a ≤ key b) = true)
    (hbc : decide (key b ≤ key c) = true) : decide (key a ≤ key c) = true := by
  simp only [decide_eq_true_eq] at hab hbc ⊢
  exact le_trans hab hbc

/-- The sort's comparison is total; with transitivity, what merge sort asks of it. -/
theorem keyLe_total (a b : α) : (decide (key a ≤ key b) || decide (key b ≤ key a)) = true := by
  rcases le_total (key a) (key b) with h | h <;> simp [h]

theorem sortByKey_perm (l : List α) : List.Perm (sortByKey key l) l :=
  List.mergeSort_perm l _

theorem sortByKey_sorted (l : List α) :
    (sortByKey key l).Pairwise (fun a b => key a ≤ key b) := by
  have h : (sortByKey key l).Pairwise (fun a b => decide (key a ≤ key b)) :=
    List.pairwise_mergeSort keyLe_trans keyLe_total l
  exact h.imp (fun hab => of_decide_eq_true hab)

/-- **STABILITY**: the sort keeps every key class in input order. -/
theorem filter_sortByKey (l : List α) (k : κ) :
    (sortByKey key l).filter (fun a => key a = k) = l.filter (fun a => key a = k) := by
  -- the class is sorted (all its keys are `k`), so it stays a sublist of the sorted list
  have hsorted : (l.filter (fun a => key a = k)).Pairwise
      (fun a b => decide (key a ≤ key b) = true) := by
    rw [List.pairwise_filter]
    apply List.pairwise_of_forall
    intro a b ha hb
    simp only [decide_eq_true_eq] at ha hb ⊢
    rw [ha, hb]
  have hsub : List.Sublist (l.filter (fun a => key a = k)) (sortByKey key l) :=
    List.sublist_mergeSort keyLe_trans keyLe_total hsorted List.filter_sublist
  have hsub' : List.Sublist (l.filter (fun a => key a = k))
      ((sortByKey key l).filter (fun a => key a = k)) := by
    have := hsub.filter (fun a => key a = k)
    simpa only [List.filter_filter, Bool.and_self] using this
  -- and both classes have the same size, the sort being a permutation
  have hlen : (l.filter (fun a => key a = k)).length =
      ((sortByKey key l).filter (fun a => key a = k)).length := by
    rw [← List.countP_eq_length_filter, ← List.countP_eq_length_filter]
    exact ((sortByKey_perm l).countP_eq _).symm
  exact (hsub'.eq_of_length hlen).symm

/-- Stability read through `find?`: the first element with a key is the same
    before and after the sort. -/
theorem find?_sortByKey (l : List α) (k : κ) :
    (sortByKey key l).find? (fun a => key a = k) = l.find? (fun a => key a = k) := by
  rw [← List.head?_filter, ← List.head?_filter, filter_sortByKey]

/-! ## The dedup -/

/-- Every key of the input survives the dedup. -/
theorem exists_mem_destutter' (a : α) (l : List α) :
    ∀ x ∈ a :: l, ∃ b ∈ l.destutter' (fun a b => key a ≠ key b) a, key b = key x := by
  induction l generalizing a with
  | nil =>
      intro x hx
      rw [List.mem_singleton.mp hx]
      exact ⟨a, List.mem_destutter' _ _ a, rfl⟩
  | cons h t ih =>
      intro x hx
      by_cases hah : key a ≠ key h
      · rw [List.destutter'_cons_pos t (R := fun x y => key x ≠ key y) hah]
        rcases List.mem_cons.mp hx with rfl | hx'
        · exact ⟨x, List.mem_cons_self, rfl⟩
        · obtain ⟨b, hb, hk⟩ := ih h x hx'
          exact ⟨b, List.mem_cons_of_mem _ hb, hk⟩
      · rw [List.destutter'_cons_neg t (R := fun x y => key x ≠ key y) hah]
        have hah' : key a = key h := not_not.mp hah
        rcases List.mem_cons.mp hx with rfl | hx'
        · exact ih x x List.mem_cons_self
        · rcases List.mem_cons.mp hx' with rfl | hx''
          · obtain ⟨b, hb, hk⟩ := ih a a List.mem_cons_self
            exact ⟨b, hb, hk.trans hah'⟩
          · exact ih a x (List.mem_cons_of_mem _ hx'')

/-- **FIRST OF ITS CLASS**: on a key-sorted list, the element the dedup keeps
    for a key is the first one with that key. -/
theorem find?_of_mem_destutter' (a : α) (l : List α)
    (hs : (a :: l).Pairwise (fun a b => key a ≤ key b)) :
    ∀ b ∈ l.destutter' (fun a b => key a ≠ key b) a,
      (a :: l).find? (fun x => key x = key b) = some b := by
  induction l generalizing a with
  | nil =>
      intro b hb
      rw [List.destutter'_nil, List.mem_singleton] at hb
      subst hb
      simp
  | cons h t ih =>
      intro b hb
      have hah : key a ≤ key h := List.rel_of_pairwise_cons hs List.mem_cons_self
      by_cases hne : key a ≠ key h
      · rw [List.destutter'_cons_pos t (R := fun x y => key x ≠ key y) hne] at hb
        rcases List.mem_cons.mp hb with rfl | hb'
        · simp
        · -- `b` comes from the tail: its key is at least `h`'s, so not `a`'s
          have hrec := ih h hs.of_cons b hb'
          have hbmem : b ∈ h :: t :=
            (List.destutter'_sublist t (fun x y => key x ≠ key y) h).subset hb'
          have hhb : key h ≤ key b := by
            rcases List.mem_cons.mp hbmem with rfl | hbt
            · exact le_refl _
            · exact List.rel_of_pairwise_cons hs.of_cons hbt
          have hab : key a ≠ key b := by
            intro heq
            exact hne (le_antisymm hah (heq ▸ hhb))
          rw [List.find?_cons_of_neg (by simpa using hab)]
          exact hrec
      · rw [List.destutter'_cons_neg t (R := fun x y => key x ≠ key y) hne] at hb
        have heq : key a = key h := not_not.mp hne
        -- `h` is dropped: reading past it changes nothing
        have hs' : (a :: t).Pairwise (fun a b => key a ≤ key b) :=
          List.Pairwise.sublist (List.Sublist.cons_cons a (List.sublist_cons_self h t)) hs
        have hrec := ih a hs' b hb
        by_cases hab : key a = key b
        · simp only [List.find?_cons, hab, decide_true] at hrec ⊢
          exact hrec
        · rw [List.find?_cons_of_neg (by simpa using hab)] at hrec ⊢
          rw [List.find?_cons_of_neg (by simpa [← heq] using hab)]
          exact hrec

/-- Adjacent distinct keys on a key-sorted list strictly increase. -/
theorem pairwise_lt_of_isChain {l : List α}
    (hc : l.IsChain (fun a b => key a ≠ key b))
    (hs : l.Pairwise (fun a b => key a ≤ key b)) :
    l.Pairwise (fun a b => key a < key b) := by
  induction l with
  | nil => exact List.Pairwise.nil
  | cons a t ih =>
      refine List.Pairwise.cons ?_ (ih hc.tail hs.of_cons)
      intro b hb
      have hab : key a ≤ key b := List.rel_of_pairwise_cons hs hb
      refine lt_of_le_of_ne hab ?_
      intro heq
      -- the head of the tail sits between `a` and `b`, so shares their key
      cases t with
      | nil => exact absurd hb List.not_mem_nil
      | cons h t' =>
          have hne : key a ≠ key h := (List.isChain_cons_cons.mp hc).1
          have hah : key a ≤ key h := List.rel_of_pairwise_cons hs List.mem_cons_self
          have hhb : key h ≤ key b := by
            rcases List.mem_cons.mp hb with rfl | hbt
            · exact le_refl _
            · exact List.rel_of_pairwise_cons hs.of_cons hbt
          exact hne (le_antisymm hah (heq ▸ hhb))

/-! ## Sort, then dedup -/

theorem dedupByKey_sortByKey_pairwise (l : List α) :
    (dedupByKey key (sortByKey key l)).Pairwise (fun a b => key a < key b) :=
  pairwise_lt_of_isChain (List.isChain_destutter _ _)
    ((sortByKey_sorted l).sublist (List.destutter_sublist _ _))

theorem mem_of_mem_dedupByKey_sortByKey {l : List α} {b : α}
    (hb : b ∈ dedupByKey key (sortByKey key l)) : b ∈ l :=
  (sortByKey_perm l).subset ((List.destutter_sublist _ _).subset hb)

theorem exists_mem_dedupByKey_sortByKey {l : List α} {x : α} (hx : x ∈ l) :
    ∃ b ∈ dedupByKey key (sortByKey key l), key b = key x := by
  have hx' : x ∈ sortByKey key l := (sortByKey_perm l).symm.subset hx
  cases hsl : sortByKey key l with
  | nil => rw [hsl] at hx'; exact absurd hx' List.not_mem_nil
  | cons a t =>
      rw [hsl] at hx'
      exact exists_mem_destutter' a t x hx'

theorem find?_of_mem_dedupByKey_sortByKey {l : List α} {b : α}
    (hb : b ∈ dedupByKey key (sortByKey key l)) :
    l.find? (fun x => key x = key b) = some b := by
  rw [← find?_sortByKey]
  have hs : (sortByKey key l).Pairwise (fun a b => key a ≤ key b) := sortByKey_sorted l
  cases hsl : sortByKey key l with
  | nil =>
      rw [hsl] at hb
      exact absurd hb List.not_mem_nil
  | cons a t =>
      rw [hsl] at hb hs
      exact find?_of_mem_destutter' a t hs b hb

end SortDedup
