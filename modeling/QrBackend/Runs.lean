import Mathlib

/-! # Runs of a step function — invariants, guarded runs, interleavings

    A system that takes inputs one after another is a step function
    `step : σ → ι → σ`, and a run feeds it a list of inputs.  The inputs can
    be requests to a server, calls of a library, or — for two programs sharing
    a state — the name of the program that moves next: a run over a schedule
    is an interleaving.

    Two rules carry every invariant proof over runs:

    * `run_invariant` — a property every step keeps holds after every run;
    * `run_invariant_of_guarded` — a property every *admissible* step keeps
      holds after every run whose inputs are each admissible at the state they
      meet (`Guarded`): the shape of an invariant that holds only while the
      callers respect a precondition the system itself does not check.

    A third carries a refinement: `run_simulation` — an abstraction that
    commutes with each step maps every run to the abstract run. -/

namespace Runs

variable {σ ι : Type}

/-- Feed the inputs to `step`, first to last. -/
def run (step : σ → ι → σ) (s : σ) (xs : List ι) : σ :=
  xs.foldl step s

/-- Every input of the run is admissible (`ok`) at the state it meets. -/
def Guarded (step : σ → ι → σ) (ok : σ → ι → Prop) : σ → List ι → Prop
  | _, [] => True
  | s, x :: xs => ok s x ∧ Guarded step ok (step s x) xs

variable {step : σ → ι → σ}

@[simp] theorem run_nil (s : σ) : run step s [] = s := rfl

@[simp] theorem run_cons (s : σ) (x : ι) (xs : List ι) :
    run step s (x :: xs) = run step (step s x) xs := rfl

/-- A run of two segments is the second run from where the first stops. -/
theorem run_append (s : σ) (xs ys : List ι) :
    run step s (xs ++ ys) = run step (run step s xs) ys :=
  List.foldl_append

@[simp] theorem guarded_nil (ok : σ → ι → Prop) (s : σ) : Guarded step ok s [] := trivial

@[simp] theorem guarded_cons (ok : σ → ι → Prop) (s : σ) (x : ι) (xs : List ι) :
    Guarded step ok s (x :: xs) ↔ ok s x ∧ Guarded step ok (step s x) xs := Iff.rfl

/-- **INVARIANT RULE**: what every step keeps holds after every run. -/
theorem run_invariant (Inv : σ → Prop) (hstep : ∀ s x, Inv s → Inv (step s x)) :
    ∀ (xs : List ι) (s : σ), Inv s → Inv (run step s xs) := by
  intro xs
  induction xs with
  | nil => intro s hs; exact hs
  | cons x xs ih => intro s hs; exact ih (step s x) (hstep s x hs)

/-- **GUARDED INVARIANT RULE**: what every admissible step keeps holds after
    every run whose every input is admissible where it is fed. -/
theorem run_invariant_of_guarded (Inv : σ → Prop) (ok : σ → ι → Prop)
    (hstep : ∀ s x, Inv s → ok s x → Inv (step s x)) :
    ∀ (xs : List ι) (s : σ), Inv s → Guarded step ok s xs → Inv (run step s xs) := by
  intro xs
  induction xs with
  | nil => intro s hs _; exact hs
  | cons x xs ih =>
      intro s hs hg
      obtain ⟨hx, hrest⟩ := hg
      exact ih (step s x) (hstep s x hs hx) hrest

/-- **SIMULATION RULE**: when an abstraction `abs` takes each step from a
    state satisfying `Inv` to the step `spec` makes, and every step keeps
    `Inv`, the abstraction of a run is the run of `spec` on the same inputs. -/
theorem run_simulation {τ : Type} (abs : σ → τ) (spec : τ → ι → τ) (Inv : σ → Prop)
    (hinv : ∀ s x, Inv s → Inv (step s x))
    (hsim : ∀ s x, Inv s → abs (step s x) = spec (abs s) x) :
    ∀ (xs : List ι) (s : σ), Inv s → abs (run step s xs) = run spec (abs s) xs := by
  intro xs
  induction xs with
  | nil => intro s _; rfl
  | cons x xs ih =>
      intro s hs
      rw [run_cons, run_cons, ← hsim s x hs]
      exact ih (step s x) (hinv s x hs)

end Runs
