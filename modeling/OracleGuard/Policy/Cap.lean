import OracleGuard.Policy.Evaluate

/-!
The release cap over the whole range of its arguments, and the arm of the evaluator
for a cap that does not exist.

* `computeMaxReleasableLovelace_eq`: the cap is the floor of the exact quotient, and
  there is none exactly where the floor does not fit.
* `evaluateDisbursementChecked_eq`: the evaluator never looks for a cap that does
  not exist.
* `deny_releaseCapExceeded_iff`: so it denies at the cap only what is above it.
-/

namespace OracleGuard

/-- **The cap is the floor**, where that fits in 64 bits. -/
theorem computeMaxReleasableLovelace_eq (allocation bps : UInt64) :
    computeMaxReleasableLovelace allocation bps =
      if allocation.toNat * bps.toNat / 10000 < 2 ^ 64 then
        some (.ofNat (allocation.toNat * bps.toNat / 10000))
      else none := by
  split
  next hfits =>
    rw [computeMaxReleasableLovelace_eq_some, UInt64.toNat_ofNat_of_lt' hfits]
  next hlarge =>
    cases hcap : computeMaxReleasableLovelace allocation bps with
    | none => rfl
    | some c =>
      have hfloor := (computeMaxReleasableLovelace_eq_some _ _ _).mp hcap
      exact absurd (hfloor ▸ c.toNat_lt) hlarge

/-- The cap that is computed is the floor, and not above the allocation. -/
structure IsCap (allocation bps c : UInt64) : Prop where
  computed : computeMaxReleasableLovelace allocation bps = some c
  le_allocation : c ≤ allocation
  lower : c.toNat * 10000 ≤ allocation.toNat * bps.toNat
  upper : allocation.toNat * bps.toNat < (c.toNat + 1) * 10000

/-- A band of at most the scale always has a cap. -/
theorem exists_isCap (allocation price : UInt64) :
    ∃ c, IsCap allocation (selectReleaseBandBps price) c := by
  obtain ⟨c, hcap, hfloor⟩ := exists_cap allocation price
  have hband := Nat.mul_le_mul_left allocation.toNat (releaseBand_le price.toNat)
  refine ⟨c, hcap, ?_, ?_, ?_⟩
  · rw [UInt64.le_iff_toNat_le]
    omega
  · rw [toNat_selectReleaseBandBps]
    omega
  · rw [toNat_selectReleaseBandBps]
    omega

/-! ## The evaluator -/

/-- `evaluateDisbursement` without a result for a cap that does not exist. -/
def evaluateDisbursementChecked (intent : DisbursementIntentV1)
    (allocationBasisLovelace : UInt64) : Option EvaluationResult :=
  if intent.requestedAmountLovelace = 0 then some (.deny .amountZero)
  else
    match validateOracleFactEval intent.oracleFact with
    | .error reason => some (.deny reason)
    | .ok () => do
      let bandBps := selectReleaseBandBps intent.oracleFact.priceMicrousd
      let maxReleasable ← computeMaxReleasableLovelace allocationBasisLovelace bandBps
      match decideGrant maxReleasable intent.requestedAmountLovelace with
      | none => some (.allow intent.requestedAmountLovelace bandBps)
      | some reason => some (.deny reason)

/-- **The arm is never reached.** -/
theorem evaluateDisbursementChecked_eq (intent : DisbursementIntentV1) (basis : UInt64) :
    evaluateDisbursementChecked intent basis = some (evaluateDisbursement intent basis) := by
  obtain ⟨c, hcap⟩ := exists_isCap basis intent.oracleFact.priceMicrousd
  unfold evaluateDisbursementChecked evaluateDisbursement
  split
  · rfl
  · cases validateOracleFactEval intent.oracleFact with
    | error reason => rfl
    | ok _ =>
      simp only [hcap.computed, Option.bind_eq_bind, Option.bind_some]
      cases decideGrant c intent.requestedAmountLovelace <;> rfl

theorem deny_releaseCapExceeded_iff {intent : DisbursementIntentV1} {basis c : UInt64}
    (hcap : IsCap basis (selectReleaseBandBps intent.oracleFact.priceMicrousd) c) :
    evaluateDisbursement intent basis = .deny .releaseCapExceeded ↔
      0 < intent.oracleFact.priceMicrousd ∧ c < intent.requestedAmountLovelace := by
  have hfloor := (computeMaxReleasableLovelace_eq_some _ _ _).mp hcap.computed
  rw [toNat_selectReleaseBandBps] at hfloor
  have hle := le_cap_iff intent.requestedAmountLovelace hfloor
  rw [evaluateDisbursement_eq_deny, Refuses, ← hle, UInt64.not_le]
  constructor
  · rintro (⟨hother, -⟩ | ⟨hother, -⟩ | ⟨-, -, hprice, habove⟩)
    · cases hother
    · cases hother
    · exact ⟨hprice, habove⟩
  · rintro ⟨hprice, habove⟩
    have hpos : 0 < intent.requestedAmountLovelace := UInt64.lt_of_le_of_lt UInt64.zero_le habove
    exact .inr (.inr ⟨rfl, hpos, hprice, habove⟩)

/-- **Cap arithmetic is exact**, and every denial at the cap is above it. -/
theorem cap_arithmetic_exact :
    (∀ allocation bps : UInt64, allocation.toNat * bps.toNat < 2 ^ 128 ∧
      (asU128 allocation * asU128 bps).toNat = allocation.toNat * bps.toNat ∧
      computeMaxReleasableLovelace allocation bps =
        if allocation.toNat * bps.toNat / 10000 < 2 ^ 64 then
          some (.ofNat (allocation.toNat * bps.toNat / 10000))
        else none) ∧
    (∀ price allocation : UInt64, ∃ c, IsCap allocation (selectReleaseBandBps price) c) ∧
    (∀ (intent : DisbursementIntentV1) (basis : UInt64),
      evaluateDisbursementChecked intent basis = some (evaluateDisbursement intent basis)) ∧
    ∀ (intent : DisbursementIntentV1) (basis : UInt64),
      ∃ c, IsCap basis (selectReleaseBandBps intent.oracleFact.priceMicrousd) c ∧
        (evaluateDisbursement intent basis = .deny .releaseCapExceeded ↔
          0 < intent.oracleFact.priceMicrousd ∧ c < intent.requestedAmountLovelace) := by
  refine ⟨?_, fun price allocation => exists_isCap allocation price,
    evaluateDisbursementChecked_eq, ?_⟩
  · intro allocation bps
    exact ⟨product_lt allocation bps, toNat_product allocation bps,
      computeMaxReleasableLovelace_eq allocation bps⟩
  · intro intent basis
    obtain ⟨c, hcap⟩ := exists_isCap basis intent.oracleFact.priceMicrousd
    exact ⟨c, hcap, deny_releaseCapExceeded_iff hcap⟩

end OracleGuard
