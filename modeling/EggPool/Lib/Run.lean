import Mathlib

/-!
# Runs of a step function

A deterministic system is a step function; a run feeds it a list of inputs. The
rules here are the only inductions over runs the development needs: an invariant
kept by each step is kept by each run, also when the step keeps it only for inputs
that meet a condition in the state where they arrive, and then exactly for those.
A sequence of checks is the run that ends at the first failure.
-/

namespace EggPool.Lib

variable {σ α : Type} (step : σ → α → σ)

/-- The state after a list of inputs. -/
def run (s : σ) (as : List α) : σ := as.foldl step s

/-- Every input meets `P` in the state in which it is taken. -/
def Along (P : σ → α → Prop) : σ → List α → Prop
  | _, [] => True
  | s, a :: as => P s a ∧ Along P (step s a) as

@[simp]
theorem run_nil (s : σ) : run step s [] = s := rfl

@[simp]
theorem run_cons (s : σ) (a : α) (as : List α) : run step s (a :: as) = run step (step s a) as :=
  rfl

theorem run_append (s : σ) (as bs : List α) :
    run step s (as ++ bs) = run step (run step s as) bs := by
  simp [run]

/-- Two systems that take the same inputs side by side. -/
theorem run_prod {σ τ α : Type} (f : σ → α → σ) (g : τ → α → τ) (s : σ) (t : τ) (as : List α) :
    run (fun st a => (f st.1 a, g st.2 a)) (s, t) as = (run f s as, run g t as) := by
  induction as generalizing s t with
  | nil => rfl
  | cons a as ih => exact ih (f s a) (g t a)

variable {step} {P : σ → α → Prop}

theorem along_append {s : σ} {as bs : List α} :
    Along step P s (as ++ bs) ↔ Along step P s as ∧ Along step P (run step s as) bs := by
  induction as generalizing s with
  | nil => simp [Along]
  | cons a as ih => simp [Along, run_cons, ih, and_assoc]

/-- A condition that does not look at the state is met along every run. -/
theorem along_of_forall {P : α → Prop} {as : List α} (h : ∀ a ∈ as, P a) (s : σ) :
    Along step (fun _ a => P a) s as := by
  induction as generalizing s with
  | nil => trivial
  | cons a as ih =>
    obtain ⟨ha, has⟩ := List.forall_mem_cons.mp h
    exact ⟨ha, ih has (step s a)⟩

variable {I : σ → Prop}

/-- **Run rule, with a condition on the inputs.** -/
theorem run_invariant_along (ht : ∀ s a, I s → P s a → I (step s a)) :
    ∀ {as : List α} {s : σ}, I s → Along step P s as → I (run step s as) := by
  intro as
  induction as with
  | nil => intro s hs _; exact hs
  | cons a as ih => intro s hs ha; exact ih (ht s a hs ha.1) ha.2

/-- **Run rule.** -/
theorem run_invariant (ht : ∀ s a, I s → I (step s a)) {s : σ} (hs : I s) (as : List α) :
    I (run step s as) := by
  induction as generalizing s with
  | nil => exact hs
  | cons a as ih => exact ih (ht s a hs)

/--
**Run rule, as an equivalence.** When a step keeps `I` exactly on the inputs that
meet `P`, and nothing brings a lost `I` back, a run keeps `I` exactly if every
input meets `P`. `T` is what holds along every run.
-/
theorem run_iff_along {T : σ → Prop} (htr : ∀ s a, T s → T (step s a))
    (hst : ∀ s a, T s → I s → (I (step s a) ↔ P s a)) (hl : ∀ s a, ¬ I s → ¬ I (step s a)) :
    ∀ {as : List α} {s : σ}, T s → I s → (I (run step s as) ↔ Along step P s as) := by
  intro as
  induction as with
  | nil => intro s _ hs; exact ⟨fun _ => trivial, fun _ => hs⟩
  | cons a as ih =>
    intro s ht hs
    by_cases hk : I (step s a)
    · have hr : I (run step (step s a) as) ↔ Along step P (step s a) as :=
        ih (htr s a ht) hk
      exact ⟨fun h => ⟨(hst s a ht hs).mp hk, hr.mp h⟩, fun h => hr.mpr h.2⟩
    · have hend : ¬ I (run step (step s a) as) :=
        run_invariant hl hk as
      exact ⟨fun h => absurd h hend, fun h => absurd ((hst s a ht hs).mpr h.1) hk⟩

/--
**Run rule, for every state on the way.** When a step from a state with `I` keeps `I`
exactly on the inputs that meet `P`, all states of a run have `I` exactly if every input
meets `P`.
-/
theorem forall_prefix_iff_along {as : List α} {s : σ} (hs : I s)
    (ht : ∀ s, ∀ a ∈ as, I s → (I (step s a) ↔ P s a)) :
    (∀ first, first <+: as → I (run step s first)) ↔ Along step P s as := by
  induction as generalizing s with
  | nil =>
    refine iff_of_true (fun first hf => ?_) trivial
    rwa [List.prefix_nil.mp hf]
  | cons a as ih =>
    obtain ⟨ha, has⟩ : (∀ s, I s → (I (step s a) ↔ P s a)) ∧
        ∀ s, ∀ b ∈ as, I s → (I (step s b) ↔ P s b) :=
      ⟨fun s => ht s a List.mem_cons_self, fun s b hb => ht s b (List.mem_cons_of_mem a hb)⟩
    constructor
    · intro h
      have hn : I (step s a) := h [a] ⟨as, rfl⟩
      refine ⟨(ha s hs).mp hn, (ih hn has).mp fun first hf => ?_⟩
      exact h (a :: first) (List.cons_prefix_cons.mpr ⟨rfl, hf⟩)
    · rintro ⟨hp, hr⟩ first hf
      have hn : I (step s a) := (ha s hs).mpr hp
      cases first with
      | nil => exact hs
      | cons b first =>
        obtain ⟨rfl, hh⟩ := List.cons_prefix_cons.mp hf
        exact (ih hn has).mpr hr first hh

/-! ## Checks in sequence -/

/-- A result of which something can be said is there. -/
theorem exists_ok_of_any {ε α : Type} {x : Except ε α} {p : α → Bool}
    (h : x.toOption.any p = true) : ∃ a, x = .ok a ∧ p a = true := by
  cases x with
  | error e => cases h
  | ok a => exact ⟨a, rfl, h⟩

/-- A sequence of checks succeeds when each of them does. -/
@[simp]
theorem bind_eq_ok {ε α β : Type} {x : Except ε α} {f : α → Except ε β} {b : β} :
    (x >>= f) = .ok b ↔ ∃ a, x = .ok a ∧ f a = .ok b := by
  rcases x with e | a
  · constructor
    · rintro ⟨⟩
    · rintro ⟨_, ⟨⟩, _⟩
  · constructor
    · intro h
      exact ⟨a, rfl, h⟩
    · rintro ⟨_, ⟨⟩, h⟩
      exact h

end EggPool.Lib
