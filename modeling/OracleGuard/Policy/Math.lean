import Mathlib.Algebra.Order.Ring.Nat
import OracleGuard.Schemas.Domain

/-!
Integer math of the release-cap evaluator: the price band, the cap with its
128-bit intermediate product, and the grant comparison.

* `computeMaxReleasableLovelace_eq_some`: the cap is the floor of the exact
  quotient, where that fits in 64 bits.
* `le_cap_iff`: comparing with the cap of a price band is the cross-multiplied
  comparison over the naturals.
-/

namespace OracleGuard

def THRESHOLD_HIGH_MICROUSD : UInt64 := 500000
def THRESHOLD_MID_MICROUSD : UInt64 := 350000

def BAND_HIGH_BPS : UInt64 := 10000
def BAND_MID_BPS : UInt64 := 7500
def BAND_LOW_BPS : UInt64 := 5000

def BASIS_POINT_SCALE : UInt64 := 10000

/-- Both thresholds are inclusive. -/
def selectReleaseBandBps (priceMicrousd : UInt64) : UInt64 :=
  if priceMicrousd ≥ THRESHOLD_HIGH_MICROUSD then BAND_HIGH_BPS
  else if priceMicrousd ≥ THRESHOLD_MID_MICROUSD then BAND_MID_BPS
  else BAND_LOW_BPS

/-- The cast `x as u128`. -/
def asU128 (x : UInt64) : BitVec 128 := x.toBitVec.setWidth 128

/-- `None` when the quotient does not fit back into 64 bits. -/
def computeMaxReleasableLovelace (allocationLovelace releaseCapBps : UInt64) : Option UInt64 :=
  let product := asU128 allocationLovelace * asU128 releaseCapBps
  let cap := product / asU128 BASIS_POINT_SCALE
  if cap > asU128 0xFFFFFFFFFFFFFFFF then none else some ⟨cap.setWidth 64⟩

/-- Equality at the cap is within the cap. -/
def decideGrant (maxReleasableLovelace requestedAmountLovelace : UInt64) :
    Option DisbursementReasonCode :=
  if requestedAmountLovelace > maxReleasableLovelace then some .releaseCapExceeded else none

/-! ## The cap over the naturals -/

@[simp] theorem toNat_asU128 (x : UInt64) : (asU128 x).toNat = x.toNat := by
  have := x.toNat_lt
  simp only [asU128, BitVec.toNat_setWidth, UInt64.toNat_toBitVec]
  omega

theorem product_lt (a b : UInt64) : a.toNat * b.toNat < 2 ^ 128 := by
  have hlt : a.toNat * b.toNat < 2 ^ 64 * 2 ^ 64 := Nat.mul_lt_mul'' a.toNat_lt b.toNat_lt
  omega

theorem toNat_product (a b : UInt64) : (asU128 a * asU128 b).toNat = a.toNat * b.toNat := by
  rw [BitVec.toNat_mul, toNat_asU128, toNat_asU128]
  exact Nat.mod_eq_of_lt (product_lt a b)

theorem computeMaxReleasableLovelace_eq_some (a b c : UInt64) :
    computeMaxReleasableLovelace a b = some c ↔ c.toNat = a.toNat * b.toNat / 10000 := by
  have hcap : (asU128 a * asU128 b / asU128 BASIS_POINT_SCALE).toNat =
      a.toNat * b.toNat / 10000 := by
    rw [BitVec.toNat_udiv, toNat_product, toNat_asU128]
    rfl
  have hmax : (asU128 0xFFFFFFFFFFFFFFFF).toNat = 2 ^ 64 - 1 := rfl
  simp only [computeMaxReleasableLovelace, gt_iff_lt, BitVec.lt_def, hcap, hmax]
  split
  · have := c.toNat_lt
    simp only [reduceCtorEq, false_iff]
    omega
  · rw [Option.some.injEq, ← UInt64.toNat_inj, UInt64.toNat_ofBitVec, BitVec.toNat_setWidth, hcap]
    omega

/-- The price band in basis points, over the naturals. -/
def releaseBand (priceMicrousd : Nat) : Nat :=
  if 500000 ≤ priceMicrousd then 10000
  else if 350000 ≤ priceMicrousd then 7500
  else 5000

theorem releaseBand_le (price : Nat) : releaseBand price ≤ 10000 := by
  unfold releaseBand
  split
  · decide
  · split <;> decide

theorem toNat_selectReleaseBandBps (price : UInt64) :
    (selectReleaseBandBps price).toNat = releaseBand price.toNat := by
  have hhigh : price ≥ THRESHOLD_HIGH_MICROUSD ↔ 500000 ≤ price.toNat := UInt64.le_iff_toNat_le
  have hmid : price ≥ THRESHOLD_MID_MICROUSD ↔ 350000 ≤ price.toNat := UInt64.le_iff_toNat_le
  simp only [selectReleaseBandBps, releaseBand, hhigh, hmid]
  split
  · rfl
  · split <;> rfl

theorem selectReleaseBandBps_eq (price : UInt64) :
    selectReleaseBandBps price = .ofNat (releaseBand price.toNat) := by
  rw [← toNat_selectReleaseBandBps, UInt64.ofNat_toNat]

/-- The requested amount fits under the release cap, cross-multiplied. -/
def WithinCap (requested basis price : UInt64) : Prop :=
  requested.toNat * 10000 ≤ basis.toNat * releaseBand price.toNat

instance (requested basis price : UInt64) : Decidable (WithinCap requested basis price) :=
  inferInstanceAs (Decidable (_ ≤ _))

/-- A band never lifts the cap above the allocation, so the cap exists. -/
theorem exists_cap (allocation price : UInt64) :
    ∃ c, computeMaxReleasableLovelace allocation (selectReleaseBandBps price) = some c ∧
      c.toNat = allocation.toNat * releaseBand price.toNat / 10000 := by
  have hfits : allocation.toNat * releaseBand price.toNat / 10000 < 2 ^ 64 := by
    have hle := Nat.mul_le_mul_left allocation.toNat (releaseBand_le price.toNat)
    have := allocation.toNat_lt
    omega
  have hc := UInt64.toNat_ofNat_of_lt' hfits
  refine ⟨_, (computeMaxReleasableLovelace_eq_some _ _ _).mpr ?_, hc⟩
  rw [hc, toNat_selectReleaseBandBps]

theorem le_cap_iff {allocation price c : UInt64} (requested : UInt64)
    (hc : c.toNat = allocation.toNat * releaseBand price.toNat / 10000) :
    requested ≤ c ↔ WithinCap requested allocation price := by
  rw [UInt64.le_iff_toNat_le, hc, Nat.le_div_iff_mul_le (by decide)]
  rfl

end OracleGuard
