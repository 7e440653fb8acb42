import OracleGuard.Adapter.Charli3
import OracleGuard.Policy.Authorize

/-!
From a datum to the oracle fields of an intent, and the check of those fields
before an intent is built. The grant gate checks the same fields again, in the
other order.

* `adapter_agrees_with_gate`: a datum that fails one of the two checks is rejected
  for the same reason by both; of one that fails both checks the adapter says that
  its price is zero, and the gate that it is stale.
-/

namespace OracleGuard

open Wire

def normalizeAggstateDatum (cbor : Minicbor) (bytes : Bytes) (aggregatorUtxoRef : Bytes32) :
    Except Charli3ParseError (OracleFactEvalV1 × OracleFactProvenanceV1) := do
  let datum ← parseAggstateDatum cbor bytes
  let eval : OracleFactEvalV1 :=
    { assetPair := ASSET_PAIR_ADA_USD
      priceMicrousd := datum.priceMicrousd
      source := SOURCE_CHARLI3 }
  let provenance : OracleFactProvenanceV1 :=
    { timestampUnix := datum.createdUnixMs
      expiryUnix := datum.expiryUnixMs
      aggregatorUtxoRef }
  return (eval, provenance)

inductive NormalizeRejection where
  | parse (err : Charli3ParseError)
  | reason (code : DisbursementReasonCode)
  deriving DecidableEq, Repr

/-- The price is validated before the freshness. -/
def normalizeParseValidate (cbor : Minicbor) (bytes : Bytes) (aggregatorUtxoRef : Bytes32)
    (nowUnixMs : UInt64) :
    Except NormalizeRejection (OracleFactEvalV1 × OracleFactProvenanceV1) :=
  match normalizeAggstateDatum cbor bytes aggregatorUtxoRef with
  | .error err => .error (.parse err)
  | .ok (eval, provenance) =>
    match validateOracleFactEval eval with
    | .error code => .error (.reason code)
    | .ok () =>
      match checkFreshness provenance nowUnixMs with
      | .error _ => .error (.reason .oracleStale)
      | .ok () => .ok (eval, provenance)

/-! ## The adapter -/

section Adapter

variable {cbor : Minicbor} {b : Bytes} {utxoRef : Bytes32} {eval : OracleFactEvalV1}
  {provenance : OracleFactProvenanceV1}
  (hpair : normalizeAggstateDatum cbor b utxoRef = .ok (eval, provenance)) (now : UInt64)
include hpair

theorem normalizeParseValidate_priceZero (hprice : eval.priceMicrousd = 0) :
    normalizeParseValidate cbor b utxoRef now = .error (.reason .oraclePriceZero) := by
  simp only [normalizeParseValidate, hpair, validateOracleFactEval, hprice, if_true]

theorem normalizeParseValidate_stale (hprice : eval.priceMicrousd ≠ 0)
    (hstale : ¬ now < provenance.expiryUnix) :
    normalizeParseValidate cbor b utxoRef now = .error (.reason .oracleStale) := by
  simp only [normalizeParseValidate, hpair, validateOracleFactEval, hprice, checkFreshness, hstale,
    if_false]

theorem normalizeParseValidate_ok (hprice : eval.priceMicrousd ≠ 0)
    (hfresh : now < provenance.expiryUnix) :
    normalizeParseValidate cbor b utxoRef now = .ok (eval, provenance) := by
  simp only [normalizeParseValidate, hpair, validateOracleFactEval, hprice, checkFreshness, hfresh,
    if_false, if_true]

end Adapter

/-! ## The gate -/

section Gate

variable {i : DisbursementIntentV1} {anchor : PolicyAnchorView} {registry : AllocationRegistryView}
  {basis : UInt64} (hanchor : runAnchorGate i anchor = .ok ())
  (hregistry : runRegistryGate i registry = .ok basis) (now : UInt64)
include hanchor hregistry

theorem authorizeDisbursement_grant_stale (hstale : ¬ now < i.oracleProvenance.expiryUnix) :
    authorizeDisbursement i anchor registry now = .denied .oracleStale .grant := by
  simp only [authorizeDisbursement, hanchor, hregistry, runGrantGate, checkFreshness, hstale,
    if_false]

/-- Past the freshness check the evaluator decides. -/
theorem authorizeDisbursement_grant_fresh (hfresh : now < i.oracleProvenance.expiryUnix)
    (reason : DisbursementReasonCode) :
    authorizeDisbursement i anchor registry now = .denied reason .grant ↔
      Refuses i basis reason := by
  rw [← evaluateDisbursement_eq_deny]
  simp only [authorizeDisbursement, hanchor, hregistry, runGrantGate, checkFreshness, hfresh,
    if_true]
  cases evaluateDisbursement i basis with
  | allow amount cap => simp
  | deny reason' => simp

end Gate

/-- **The adapter and the gate reject a datum for the same reason**, but for a datum
that fails both checks. -/
theorem adapter_agrees_with_gate {cbor : Minicbor} {b : Bytes} {utxoRef : Bytes32} {now : UInt64}
    {i : DisbursementIntentV1} {anchor : PolicyAnchorView} {registry : AllocationRegistryView}
    {basis : UInt64}
    (hpair : normalizeAggstateDatum cbor b utxoRef = .ok (i.oracleFact, i.oracleProvenance))
    (hamount : 0 < i.requestedAmountLovelace) (hanchor : runAnchorGate i anchor = .ok ())
    (hregistry : runRegistryGate i registry = .ok basis) :
    (¬ (i.oracleFact.priceMicrousd = 0 ∧ i.oracleProvenance.expiryUnix ≤ now) →
        ∀ r, r = .oracleStale ∨ r = .oraclePriceZero →
          (normalizeParseValidate cbor b utxoRef now = .error (.reason r) ↔
            authorizeDisbursement i anchor registry now = .denied r .grant)) ∧
      (i.oracleFact.priceMicrousd = 0 → i.oracleProvenance.expiryUnix ≤ now →
        normalizeParseValidate cbor b utxoRef now = .error (.reason .oraclePriceZero) ∧
          authorizeDisbursement i anchor registry now = .denied .oracleStale .grant) := by
  constructor
  · intro hone r hr
    by_cases hfresh : now < i.oracleProvenance.expiryUnix
    · rw [authorizeDisbursement_grant_fresh hanchor hregistry now hfresh]
      by_cases hprice : i.oracleFact.priceMicrousd = 0
      · rw [normalizeParseValidate_priceZero hpair now hprice]
        rcases hr with rfl | rfl
        · simp [Refuses]
        · simp [Refuses, hamount, hprice]
      · rw [normalizeParseValidate_ok hpair now hprice hfresh]
        rcases hr with rfl | rfl
        · simp [Refuses]
        · simp [Refuses, hprice]
    · have hprice : i.oracleFact.priceMicrousd ≠ 0 := fun hzero =>
        hone ⟨hzero, UInt64.not_lt.mp hfresh⟩
      rw [normalizeParseValidate_stale hpair now hprice hfresh,
        authorizeDisbursement_grant_stale hanchor hregistry now hfresh]
      rcases hr with rfl | rfl
      · simp
      · simp
  · intro hprice hstale
    exact ⟨normalizeParseValidate_priceZero hpair now hprice,
      authorizeDisbursement_grant_stale hanchor hregistry now (UInt64.not_lt.mpr hstale)⟩

/-- The intent of the fixture over a datum of price zero that expires at 2. -/
def zeroPriceIntent : DisbursementIntentV1 :=
  { fixtureIntent with
    oracleFact := ⟨ASSET_PAIR_ADA_USD, 0, SOURCE_CHARLI3⟩
    oracleProvenance := ⟨1, 2, Vector.replicate 32 0xAA⟩ }

def zeroPriceDatum : Bytes :=
  [0xd8, 0x79, 0x9f, 0xd8, 0x7b, 0x9f, 0xa3, 0x00, 0x00, 0x01, 0x01, 0x02, 0x02, 0xff, 0xff]

theorem adapter_agrees_with_gate_fresh :
    normalizeParseValidate .reference zeroPriceDatum (Vector.replicate 32 0xAA) 1 =
        .error (.reason .oraclePriceZero) ↔
      authorizeDisbursement zeroPriceIntent openAnchor
        (constRegistry (factsOf fixtureIntent 2000000000)) 1 = .denied .oraclePriceZero .grant := by
  have hregistry : runRegistryGate zeroPriceIntent
      (constRegistry (factsOf fixtureIntent 2000000000)) = .ok 2000000000 := by
    decide
  exact (adapter_agrees_with_gate (by decide) (by decide) (by decide) hregistry).1 (by decide)
    .oraclePriceZero (.inr rfl)

/-- At its expiry the datum fails both checks. -/
theorem adapter_disagrees_with_gate :
    ¬ ∀ (cbor : Minicbor) (_ : cbor.Documented) (b : Bytes) (utxoRef : Bytes32) (now : UInt64)
      (i : DisbursementIntentV1) (anchor : PolicyAnchorView) (registry : AllocationRegistryView)
      (basis : UInt64),
      normalizeAggstateDatum cbor b utxoRef = .ok (i.oracleFact, i.oracleProvenance) →
      0 < i.requestedAmountLovelace → runAnchorGate i anchor = .ok () →
      runRegistryGate i registry = .ok basis →
      ∀ r, r = .oracleStale ∨ r = .oraclePriceZero →
        (normalizeParseValidate cbor b utxoRef now = .error (.reason r) ↔
          authorizeDisbursement i anchor registry now = .denied r .grant) := by
  intro h
  have hagree := h .reference Minicbor.reference_documented zeroPriceDatum
    (Vector.replicate 32 0xAA) 2 zeroPriceIntent openAnchor
    (constRegistry (factsOf fixtureIntent 2000000000)) 2000000000 (by decide) (by decide)
    (by decide) (by decide) .oraclePriceZero (.inr rfl)
  have hadapter : normalizeParseValidate .reference zeroPriceDatum (Vector.replicate 32 0xAA) 2 =
      .error (.reason .oraclePriceZero) := by
    decide
  have hgate : authorizeDisbursement zeroPriceIntent openAnchor
      (constRegistry (factsOf fixtureIntent 2000000000)) 2 ≠ .denied .oraclePriceZero .grant := by
    decide
  exact hgate (hagree.mp hadapter)

end OracleGuard
