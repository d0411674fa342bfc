import Mathlib.Data.List.Induction

/-!
# Steps and where they are made

A run takes a state from step to step. Its trace pairs each step with the state at which it is made.
-/

namespace RequestAuth

variable {σ α : Type} {step : σ → α → σ}

/-- The steps of a run, each with the state at which it is made. -/
def trace (step : σ → α → σ) (s : σ) : List α → List (σ × α)
  | [] => []
  | a :: as => (s, a) :: trace step (step s a) as

@[simp] theorem trace_nil (s : σ) : trace step s [] = [] := rfl

@[simp] theorem trace_cons (s : σ) (a : α) (as : List α) :
    trace step s (a :: as) = (s, a) :: trace step (step s a) as := rfl

theorem trace_append (s : σ) (as bs : List α) :
    trace step s (as ++ bs) = trace step s as ++ trace step (as.foldl step s) bs := by
  induction as generalizing s with
  | nil => rfl
  | cons a as ih => simp [ih]

/-- What every step keeps that is made in a run holds wherever a step is made. -/
theorem forall_mem_trace {P : σ → Prop} {s : σ} {as : List α} (start : P s)
    (keep : ∀ x ∈ trace step s as, P x.1 → P (step x.1 x.2)) : ∀ x ∈ trace step s as, P x.1 := by
  induction as generalizing s with
  | nil => exact nofun
  | cons a as ih =>
    rw [trace_cons, List.forall_mem_cons] at keep ⊢
    exact ⟨start, ih (keep.1 start) keep.2⟩

/-- Each item counts as one or as nothing. -/
theorem countP_cons_eq (p : α → Bool) (a : α) (l : List α) :
    (a :: l).countP p = l.countP p + (p a).toNat := by
  rw [List.countP_cons]
  cases p a <;> rfl

end RequestAuth
