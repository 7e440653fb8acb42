import OracleGuard.Policy.Evaluate
import OracleGuard.Schemas.Encoding

/-!
How the release decision moves with the amount, the price and the basis.

* `WithinCap.mono`: less fits under a cap of a larger basis at a higher price.
* `allowed_iff`: what is allowed at a price and a basis is an interval, which ends
  at `releaseCap`.
* `release_monotone`: the decision is monotone, and so are the denials.
-/

namespace OracleGuard

/-- The same intent with another amount and another price. -/
def DisbursementIntentV1.offering (i : DisbursementIntentV1) (amount price : UInt64) :
    DisbursementIntentV1 :=
  { i with
    requestedAmountLovelace := amount
    oracleFact := { i.oracleFact with priceMicrousd := price } }

/-- The largest amount that is allowed; none is at price zero. -/
def releaseCap (price basis : UInt64) : UInt64 :=
  if price = 0 then 0
  else (computeMaxReleasableLovelace basis (selectReleaseBandBps price)).getD 0

/-! ## The cap -/

theorem releaseBand_mono {price price' : Nat} (h : price ≤ price') :
    releaseBand price ≤ releaseBand price' := by
  unfold releaseBand
  split_ifs <;> omega

theorem WithinCap.mono {amount amount' basis basis' price price' : UInt64}
    (h : WithinCap amount basis price) (hamount : amount' ≤ amount) (hbasis : basis ≤ basis')
    (hprice : price ≤ price') : WithinCap amount' basis' price' := by
  rw [UInt64.le_iff_toNat_le] at hamount hbasis hprice
  have hband := releaseBand_mono hprice
  calc amount'.toNat * 10000
      ≤ amount.toNat * 10000 := Nat.mul_le_mul_right 10000 hamount
    _ ≤ basis.toNat * releaseBand price.toNat := h
    _ ≤ basis'.toNat * releaseBand price'.toNat := Nat.mul_le_mul hbasis hband

theorem releaseCap_eq {price : UInt64} (hprice : 0 < price) (basis : UInt64) :
    computeMaxReleasableLovelace basis (selectReleaseBandBps price) =
      some (releaseCap price basis) := by
  obtain ⟨cap, hcap, -⟩ := exists_cap basis price
  rw [releaseCap, if_neg (UInt64.pos_iff_ne_zero.mp hprice), hcap]
  rfl

theorem toNat_releaseCap {price : UInt64} (hprice : 0 < price) (basis : UInt64) :
    (releaseCap price basis).toNat = basis.toNat * releaseBand price.toNat / 10000 := by
  have hcap := (computeMaxReleasableLovelace_eq_some _ _ _).mp (releaseCap_eq hprice basis)
  rw [hcap, toNat_selectReleaseBandBps]

theorem releaseCap_le (price basis : UInt64) : releaseCap price basis ≤ basis := by
  by_cases hprice : price = 0
  · rw [releaseCap, if_pos hprice]
    exact UInt64.zero_le
  · rw [UInt64.le_iff_toNat_le, toNat_releaseCap (UInt64.pos_iff_ne_zero.mpr hprice)]
    have hle := Nat.mul_le_mul_left basis.toNat (releaseBand_le price.toNat)
    omega

/-! ## The decision -/

theorem evaluateDisbursement_mono {i : DisbursementIntentV1} {basis basis' amount bps : UInt64}
    (h : evaluateDisbursement i basis = .allow amount bps) (hbasis : basis ≤ basis')
    {amount' price' : UInt64} (hpos : 0 < amount') (hamount : amount' ≤ amount)
    (hprice : i.oracleFact.priceMicrousd ≤ price') :
    ∃ bps', bps ≤ bps' ∧
      evaluateDisbursement (i.offering amount' price') basis' = .allow amount' bps' := by
  obtain ⟨-, hprice₀, hcap, rfl, hbps⟩ := (evaluateDisbursement_eq_allow _ _ _ _).mp h
  refine ⟨selectReleaseBandBps price', ?_, (evaluateDisbursement_eq_allow _ _ _ _).mpr
    ⟨hpos, UInt64.lt_of_lt_of_le hprice₀ hprice, hcap.mono hamount hbasis hprice, rfl,
      toNat_selectReleaseBandBps price'⟩⟩
  rw [UInt64.le_iff_toNat_le, hbps, toNat_selectReleaseBandBps]
  exact releaseBand_mono (UInt64.le_iff_toNat_le.mp hprice)

theorem allowed_iff (i : DisbursementIntentV1) (amount price basis : UInt64) :
    (∃ a bps, evaluateDisbursement (i.offering amount price) basis = .allow a bps) ↔
      1 ≤ amount ∧ amount ≤ releaseCap price basis := by
  have hone : 1 ≤ amount ↔ 0 < amount := by
    rw [UInt64.le_iff_toNat_le, UInt64.lt_iff_toNat_lt]
    exact Iff.rfl
  rw [hone]
  constructor
  · rintro ⟨a, bps, h⟩
    obtain ⟨hamount, hprice, hcap, -⟩ := (evaluateDisbursement_eq_allow _ _ _ _).mp h
    exact ⟨hamount, (le_cap_iff amount (toNat_releaseCap hprice basis)).mpr hcap⟩
  · rintro ⟨hamount, hcap⟩
    have hprice : 0 < price := by
      rw [UInt64.pos_iff_ne_zero]
      rintro rfl
      exact absurd (UInt64.lt_of_lt_of_le hamount hcap) (UInt64.lt_irrefl 0)
    exact ⟨amount, selectReleaseBandBps price, (evaluateDisbursement_eq_allow _ _ _ _).mpr
      ⟨hamount, hprice, (le_cap_iff amount (toNat_releaseCap hprice basis)).mp hcap, rfl,
        toNat_selectReleaseBandBps price⟩⟩

theorem evaluateDisbursement_deny_mono {i : DisbursementIntentV1} {basis basis' : UInt64}
    {reason : DisbursementReasonCode} (h : evaluateDisbursement i basis = .deny reason)
    (hpos : 0 < i.requestedAmountLovelace) (hprice : 0 < i.oracleFact.priceMicrousd)
    {amount' : UInt64} (hamount : i.requestedAmountLovelace ≤ amount') (hbasis : basis' ≤ basis) :
    evaluateDisbursement (i.offering amount' i.oracleFact.priceMicrousd) basis' =
      .deny .releaseCapExceeded := by
  rcases (evaluateDisbursement_eq_deny _ _ _).mp h with ⟨-, hzero⟩ | ⟨-, -, hzero⟩ | ⟨-, -, -, hcap⟩
  · exact absurd hzero (UInt64.pos_iff_ne_zero.mp hpos)
  · exact absurd hzero (UInt64.pos_iff_ne_zero.mp hprice)
  · refine (evaluateDisbursement_eq_deny _ _ _).mpr (.inr (.inr ⟨rfl, ?_, hprice, ?_⟩))
    · exact UInt64.lt_of_lt_of_le hpos hamount
    · intro hcap'
      exact hcap (WithinCap.mono hcap' hamount hbasis (UInt64.le_refl _))

/-- **The release decision is monotone** in the amount, the price and the basis. -/
theorem release_monotone :
    (∀ (i i' : DisbursementIntentV1) (basis basis' amount bps amount' price' : UInt64),
      i' = i.offering amount' price' → basis ≤ basis' →
      evaluateDisbursement i basis = .allow amount bps → 0 < amount' → amount' ≤ amount →
      i.oracleFact.priceMicrousd ≤ price' →
      ∃ bps', bps ≤ bps' ∧ evaluateDisbursement i' basis' = .allow amount' bps') ∧
    (∀ (i : DisbursementIntentV1) (price basis : UInt64), releaseCap price basis ≤ basis ∧
      (0 < price → computeMaxReleasableLovelace basis (selectReleaseBandBps price) =
        some (releaseCap price basis)) ∧
      ∀ amount, (∃ a bps, evaluateDisbursement (i.offering amount price) basis = .allow a bps) ↔
        1 ≤ amount ∧ amount ≤ releaseCap price basis) ∧
    (∀ (i : DisbursementIntentV1) (basis : UInt64) (reason : DisbursementReasonCode),
      0 < i.oracleFact.priceMicrousd → 0 < i.requestedAmountLovelace →
      evaluateDisbursement i basis = .deny reason →
      reason = .releaseCapExceeded ∧
      ∀ amount' basis', i.requestedAmountLovelace ≤ amount' → basis' ≤ basis →
        evaluateDisbursement (i.offering amount' i.oracleFact.priceMicrousd) basis' =
          .deny .releaseCapExceeded) := by
  refine ⟨?_, ?_, ?_⟩
  · rintro i _ basis basis' amount bps amount' price' rfl hbasis h hpos hamount hprice
    exact evaluateDisbursement_mono h hbasis hpos hamount hprice
  · intro i price basis
    exact ⟨releaseCap_le price basis, fun hprice => releaseCap_eq hprice basis,
      fun amount => allowed_iff i amount price basis⟩
  · intro i basis reason hprice hpos h
    have hself : evaluateDisbursement i basis = .deny .releaseCapExceeded :=
      evaluateDisbursement_deny_mono h hpos hprice (UInt64.le_refl _) (UInt64.le_refl _)
    rw [h] at hself
    refine ⟨EvaluationResult.deny.inj hself, fun amount' basis' hamount hbasis => ?_⟩
    exact evaluateDisbursement_deny_mono h hpos hprice hamount hbasis

/-- Across a threshold, a smaller amount of a larger basis. -/
theorem release_monotone_fixture :
    ∃ bps', 5000 ≤ bps' ∧
      evaluateDisbursement (fixtureIntent.offering 400 500000) 2000 = .allow 400 bps' :=
  release_monotone.1 (fixtureIntent.offering 500 349999) _ 1000 2000 500 5000 400 500000 rfl
    (by decide) (by decide) (by decide) (by decide) (by decide)

end OracleGuard
