import Mathlib.Data.List.Induction

/-!
Machines that take one step for each input. What is said of a run is proved for
one step and then, by induction on the inputs from the last one, for every run.

* `Machine.invariant`: what every step keeps holds after every run.
* `Machine.run_emits`: a log that every step extends by what it emits is what the
  run emits.
* `Machine.emitted_sublist` and `Machine.emitted_congr`: what one observer sees less
  of in every step, it sees less of in the run, and two that see the same in every
  step see the same in the run.
* `Machine.run_simulates`: what is seen of a run drives a machine of its views.
-/

structure Machine (σ α : Type) where
  start : σ
  step : σ → α → σ

namespace Machine

variable {σ τ α β γ : Type}

def run (M : Machine σ α) (inputs : List α) : σ := inputs.foldl M.step M.start

/-- What an observer of the steps sees of a run. -/
def emittedFrom (M : Machine σ α) (emit : σ → α → List β) : σ → List α → List β
  | _, [] => []
  | s, a :: inputs => emit s a ++ M.emittedFrom emit (M.step s a) inputs

def emitted (M : Machine σ α) (emit : σ → α → List β) (inputs : List α) : List β :=
  M.emittedFrom emit M.start inputs

variable (M : Machine σ α)

@[simp] theorem run_nil : M.run [] = M.start := rfl

@[simp] theorem run_snoc (inputs : List α) (a : α) :
    M.run (inputs ++ [a]) = M.step (M.run inputs) a := by
  rw [run, List.foldl_append]
  rfl

theorem run_append (inputs rest : List α) :
    M.run (inputs ++ rest) = rest.foldl M.step (M.run inputs) := List.foldl_append

theorem emittedFrom_snoc (emit : σ → α → List β) (s : σ) (inputs : List α) (a : α) :
    M.emittedFrom emit s (inputs ++ [a]) =
      M.emittedFrom emit s inputs ++ emit (inputs.foldl M.step s) a := by
  induction inputs generalizing s with
  | nil => simp [emittedFrom]
  | cons b inputs ih => simp [emittedFrom, ih]

@[simp] theorem emitted_nil (emit : σ → α → List β) : M.emitted emit [] = [] := rfl

@[simp] theorem emitted_snoc (emit : σ → α → List β) (inputs : List α) (a : α) :
    M.emitted emit (inputs ++ [a]) = M.emitted emit inputs ++ emit (M.run inputs) a :=
  M.emittedFrom_snoc emit M.start inputs a

/-- **Invariants.** The inputs so far may be part of what is kept. -/
theorem invariant {I : List α → σ → Prop} (hstart : I [] M.start)
    (hstep : ∀ inputs s a, I inputs s → I (inputs ++ [a]) (M.step s a)) (inputs : List α) :
    I inputs (M.run inputs) := by
  induction inputs using List.reverseRecOn with
  | nil => exact hstart
  | append_singleton inputs a ih =>
    rw [run_snoc]
    exact hstep inputs (M.run inputs) a ih

/-- **Logs.** -/
theorem run_emits {log : σ → List β} {emit : σ → α → List β}
    (hstep : ∀ s a, log (M.step s a) = log s ++ emit s a) (inputs : List α) :
    log (M.run inputs) = log M.start ++ M.emitted emit inputs := by
  induction inputs using List.reverseRecOn with
  | nil => simp
  | append_singleton inputs a ih => rw [run_snoc, hstep, ih, emitted_snoc, List.append_assoc]

/-- What is seen of a run is seen of its steps, in the states that the run goes through. -/
theorem mem_emitted {emit : σ → α → List β} {inputs : List α} {b : β}
    (hb : b ∈ M.emitted emit inputs) :
    ∃ before a after, inputs = before ++ a :: after ∧ b ∈ emit (M.run before) a := by
  induction inputs using List.reverseRecOn with
  | nil => cases hb
  | append_singleton inputs a ih =>
    rw [emitted_snoc, List.mem_append] at hb
    rcases hb with hb | hb
    · obtain ⟨before, c, after, rfl, hc⟩ := ih hb
      exact ⟨before, c, after ++ [a], by simp, hc⟩
    · exact ⟨inputs, a, [], rfl, hb⟩

theorem filterMap_emitted (p : β → Option γ) (emit : σ → α → List β) (inputs : List α) :
    (M.emitted emit inputs).filterMap p =
      M.emitted (fun s a => (emit s a).filterMap p) inputs := by
  induction inputs using List.reverseRecOn with
  | nil => rfl
  | append_singleton inputs a ih => rw [emitted_snoc, emitted_snoc, List.filterMap_append, ih]

section Observers

variable {M} {emit emit' : σ → α → List β} {inputs : List α}

theorem emitted_sublist (h : ∀ before a after, inputs = before ++ a :: after →
    List.Sublist (emit (M.run before) a) (emit' (M.run before) a)) :
    List.Sublist (M.emitted emit inputs) (M.emitted emit' inputs) := by
  induction inputs using List.reverseRecOn with
  | nil => exact List.Sublist.refl []
  | append_singleton inputs a ih =>
    rw [emitted_snoc, emitted_snoc]
    refine (ih fun before c after heq => ?_).append (h inputs a [] rfl)
    exact h before c (after ++ [a]) (by rw [heq]; simp)

theorem emitted_congr (h : ∀ before a after, inputs = before ++ a :: after →
    emit (M.run before) a = emit' (M.run before) a) :
    M.emitted emit inputs = M.emitted emit' inputs := by
  induction inputs using List.reverseRecOn with
  | nil => rfl
  | append_singleton inputs a ih =>
    rw [emitted_snoc, emitted_snoc, h inputs a [] rfl, ih fun before c after heq => ?_]
    exact h before c (after ++ [a]) (by rw [heq]; simp)

/-- **Simulation.** A machine that takes what is seen of each step goes through the
views of the states. -/
theorem run_simulates {A : Machine τ β} {view : σ → τ} (hstart : A.start = view M.start)
    (hstep : ∀ before a after, inputs = before ++ a :: after →
      (emit (M.run before) a).foldl A.step (view (M.run before)) =
        view (M.step (M.run before) a)) :
    A.run (M.emitted emit inputs) = view (M.run inputs) := by
  induction inputs using List.reverseRecOn with
  | nil => exact hstart
  | append_singleton inputs a ih =>
    rw [emitted_snoc, run_append, run_snoc, ih fun before c after heq => ?_]
    · exact hstep inputs a [] rfl
    · exact hstep before c (after ++ [a]) (by rw [heq]; simp)

end Observers

end Machine
