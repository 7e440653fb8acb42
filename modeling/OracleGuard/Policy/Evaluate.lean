import OracleGuard.Checks
import OracleGuard.Policy.Math

/-!
The release-cap evaluator, and the three ordered checks that it amounts to.

* `evaluateDisbursement_eq`: the evaluator denies with the first of its checks
  that fails, and otherwise allows the requested amount.
* `evaluateDisbursement_eq_allow` and `evaluateDisbursement_eq_deny`: each result
  in terms of the amount, the price and the cap.
-/

namespace OracleGuard

open Checks

inductive EvaluationResult where
  | allow (authorizedAmountLovelace releaseCapBasisPoints : UInt64)
  | deny (reason : DisbursementReasonCode)
  deriving DecidableEq, Repr

/-- Callers have validated the version; the source asserts it in debug builds
only. -/
def evaluateDisbursement (intent : DisbursementIntentV1) (allocationBasisLovelace : UInt64) :
    EvaluationResult :=
  if intent.requestedAmountLovelace = 0 then .deny .amountZero
  else
    match validateOracleFactEval intent.oracleFact with
    | .error reason => .deny reason
    | .ok () =>
      let bandBps := selectReleaseBandBps intent.oracleFact.priceMicrousd
      match computeMaxReleasableLovelace allocationBasisLovelace bandBps with
      | none => .deny .releaseCapExceeded
      | some maxReleasable =>
        match decideGrant maxReleasable intent.requestedAmountLovelace with
        | none => .allow intent.requestedAmountLovelace bandBps
        | some reason => .deny reason

abbrev IntentCheck := Check DisbursementIntentV1 DisbursementReasonCode

/-- The checks of the evaluator in their order. `basisOf` says which allocation
basis an intent draws on. -/
def evaluatorChecks (basisOf : DisbursementIntentV1 → Option UInt64) : List IntentCheck :=
  [{ holds := fun i => decide (i.requestedAmountLovelace ≠ 0)
     reason := .amountZero },
   { holds := fun i => decide (i.oracleFact.priceMicrousd ≠ 0)
     reason := .oraclePriceZero },
   { holds := fun i => (basisOf i).any fun basis =>
       decide (WithinCap i.requestedAmountLovelace basis i.oracleFact.priceMicrousd)
     reason := .releaseCapExceeded }]

/-- **The evaluator is its checks.** -/
theorem evaluateDisbursement_eq {basisOf : DisbursementIntentV1 → Option UInt64}
    {i : DisbursementIntentV1} {basis : UInt64} (hbasis : basisOf i = some basis) :
    evaluateDisbursement i basis =
      match firstFailing i (evaluatorChecks basisOf) with
      | none => .allow i.requestedAmountLovelace (selectReleaseBandBps i.oracleFact.priceMicrousd)
      | some reason => .deny reason := by
  obtain ⟨cap, hcap, hfloor⟩ := exists_cap basis i.oracleFact.priceMicrousd
  have hle := le_cap_iff i.requestedAmountLovelace hfloor
  simp only [evaluateDisbursement, validateOracleFactEval, hcap, decideGrant, evaluatorChecks,
    firstFailing, hbasis, Option.any_some, decide_eq_true_eq, gt_iff_lt, ← hle]
  by_cases hamount : i.requestedAmountLovelace = 0
  · simp [hamount]
  by_cases hprice : i.oracleFact.priceMicrousd = 0
  · simp [hamount, hprice]
  by_cases hcmp : i.requestedAmountLovelace ≤ cap
  · simp [hamount, hprice, hcmp, UInt64.not_lt.mpr hcmp]
  · simp [hamount, hprice, hcmp, UInt64.not_le.mp hcmp]

/-- The denials of the evaluator: each one behind the checks before its own. -/
def Refuses (i : DisbursementIntentV1) (basis : UInt64) (reason : DisbursementReasonCode) : Prop :=
  (reason = .amountZero ∧ i.requestedAmountLovelace = 0) ∨
    (reason = .oraclePriceZero ∧ 0 < i.requestedAmountLovelace ∧
      i.oracleFact.priceMicrousd = 0) ∨
    (reason = .releaseCapExceeded ∧ 0 < i.requestedAmountLovelace ∧
      0 < i.oracleFact.priceMicrousd ∧
      ¬ WithinCap i.requestedAmountLovelace basis i.oracleFact.priceMicrousd)

theorem evaluateDisbursement_eq_deny (i : DisbursementIntentV1) (basis : UInt64)
    (reason : DisbursementReasonCode) :
    evaluateDisbursement i basis = .deny reason ↔ Refuses i basis reason := by
  rw [@evaluateDisbursement_eq (fun _ => some basis) i basis rfl]
  simp only [Refuses, UInt64.pos_iff_ne_zero, evaluatorChecks, firstFailing, Option.any_some,
    decide_eq_true_eq]
  by_cases hamount : i.requestedAmountLovelace = 0
  · simp [hamount, eq_comm]
  by_cases hprice : i.oracleFact.priceMicrousd = 0
  · simp [hamount, hprice, eq_comm]
  by_cases hcap : WithinCap i.requestedAmountLovelace basis i.oracleFact.priceMicrousd
  · simp [hamount, hprice, hcap]
  · simp [hamount, hprice, hcap, eq_comm]

theorem evaluateDisbursement_eq_allow (i : DisbursementIntentV1) (basis amount cap : UInt64) :
    evaluateDisbursement i basis = .allow amount cap ↔
      0 < i.requestedAmountLovelace ∧ 0 < i.oracleFact.priceMicrousd ∧
        WithinCap i.requestedAmountLovelace basis i.oracleFact.priceMicrousd ∧
        amount = i.requestedAmountLovelace ∧
        cap.toNat = releaseBand i.oracleFact.priceMicrousd.toNat := by
  rw [@evaluateDisbursement_eq (fun _ => some basis) i basis rfl, ← toNat_selectReleaseBandBps,
    UInt64.toNat_inj]
  simp only [UInt64.pos_iff_ne_zero, evaluatorChecks, firstFailing, Option.any_some,
    decide_eq_true_eq]
  by_cases hamount : i.requestedAmountLovelace = 0
  · simp [hamount]
  by_cases hprice : i.oracleFact.priceMicrousd = 0
  · simp [hamount, hprice]
  by_cases hcap : WithinCap i.requestedAmountLovelace basis i.oracleFact.priceMicrousd
  · simp [hamount, hprice, hcap, eq_comm]
  · simp [hamount, hprice, hcap]

end OracleGuard
