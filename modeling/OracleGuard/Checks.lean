import Mathlib.Data.List.Basic

/-!
Ordered checks that stop at the first failure. A procedure that runs its checks
in a fixed order and reports the first one that fails is determined by the list
of its checks.

* `firstFailing_eq_none`: nothing is reported exactly when every check holds.
* `firstFailing_append`: later checks count only when all earlier ones hold.
* `exists_failing`: the reported reason is that of a check that fails.
* `firstFailing_eq_some`: more exactly, of a check that fails behind checks that
  all hold.
-/

namespace Checks

/-- A check of a state, and the reason reported when it fails. -/
structure Check (σ ρ : Type) where
  holds : σ → Bool
  reason : ρ

variable {σ ρ : Type}

def firstFailing (s : σ) : List (Check σ ρ) → Option ρ
  | [] => none
  | c :: cs => if c.holds s then firstFailing s cs else some c.reason

@[simp] theorem firstFailing_nil (s : σ) : firstFailing s ([] : List (Check σ ρ)) = none := rfl

theorem firstFailing_cons_pos {s : σ} {c : Check σ ρ} (h : c.holds s = true)
    (cs : List (Check σ ρ)) : firstFailing s (c :: cs) = firstFailing s cs :=
  if_pos h

theorem firstFailing_cons_neg {s : σ} {c : Check σ ρ} (h : c.holds s = false)
    (cs : List (Check σ ρ)) : firstFailing s (c :: cs) = some c.reason := by
  simp [firstFailing, h]

theorem firstFailing_eq_none (s : σ) (cs : List (Check σ ρ)) :
    firstFailing s cs = none ↔ ∀ c ∈ cs, c.holds s = true := by
  induction cs with
  | nil => simp
  | cons c cs ih =>
    cases h : c.holds s
    · simp [firstFailing_cons_neg h, h]
    · simp [firstFailing_cons_pos h, h, ih]

/-- The reported reason belongs to a check that fails. -/
theorem exists_failing {s : σ} {cs : List (Check σ ρ)} {r : ρ} (h : firstFailing s cs = some r) :
    ∃ c ∈ cs, c.holds s = false ∧ c.reason = r := by
  induction cs with
  | nil => cases h
  | cons c cs ih =>
    cases hc : c.holds s
    · rw [firstFailing_cons_neg hc] at h
      exact ⟨c, List.mem_cons_self, hc, Option.some.inj h⟩
    · rw [firstFailing_cons_pos hc] at h
      obtain ⟨d, hd, hfail⟩ := ih h
      exact ⟨d, List.mem_cons_of_mem c hd, hfail⟩

theorem firstFailing_append (s : σ) (cs ds : List (Check σ ρ)) :
    firstFailing s (cs ++ ds) = (firstFailing s cs).or (firstFailing s ds) := by
  induction cs with
  | nil => rfl
  | cons c cs ih =>
    cases h : c.holds s
    · simp [firstFailing_cons_neg h]
    · simp [firstFailing_cons_pos h, ih]

/-- A check with this reason fails, and every check before it holds. -/
def FailsFirst (s : σ) (cs : List (Check σ ρ)) (r : ρ) : Prop :=
  ∃ before c after, cs = before ++ c :: after ∧ (∀ d ∈ before, d.holds s = true) ∧
    c.holds s = false ∧ c.reason = r

theorem firstFailing_eq_some (s : σ) (cs : List (Check σ ρ)) (r : ρ) :
    firstFailing s cs = some r ↔ FailsFirst s cs r := by
  constructor
  · intro h
    induction cs with
    | nil => cases h
    | cons c cs ih =>
      cases hc : c.holds s
      · rw [firstFailing_cons_neg hc] at h
        exact ⟨[], c, cs, rfl, by simp, hc, Option.some.inj h⟩
      · rw [firstFailing_cons_pos hc] at h
        obtain ⟨before, d, after, rfl, hbefore, hd⟩ := ih h
        refine ⟨c :: before, d, after, rfl, ?_, hd⟩
        simpa [hc] using hbefore
  · rintro ⟨before, c, after, rfl, hbefore, hc, rfl⟩
    have hpass : firstFailing s before = none := (firstFailing_eq_none s before).mpr hbefore
    rw [firstFailing_append, hpass, Option.none_or, firstFailing_cons_neg hc]

end Checks
