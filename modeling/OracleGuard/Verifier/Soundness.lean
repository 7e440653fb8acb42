import OracleGuard.Policy.Law
import OracleGuard.Verifier.Replay

/-!
What a clean report says about the closure. The views that the closure ran on
are not part of a record, so the question is whether some views would have led
it from the recorded intent, basis and clock to the recorded verdict.

* `clean_produced_exact`: for a clean record they do exactly when the recorded
  clock agrees with the verdict. The verifier never replays the freshness check,
  so a clean report does not settle that.
* `ProducedByClosure.consistent` and `ProducedByClosure.replayed`: conversely the
  verifier's checks of the verdict pass on whatever the closure produced.
-/

namespace OracleGuard

open Checks

/-- Some views lead the closure from the recorded intent, basis and clock to the
recorded verdict. -/
def ProducedByClosure (e : DisbursementEvidenceV1) : Prop :=
  ∃ (anchor : PolicyAnchorView) (registry : AllocationRegistryView),
    (authorizeDisbursement e.intent anchor registry e.nowUnixMs).toSnapshot = e.authorization ∧
    ∀ facts, registry.lookup e.intent.allocationId = some facts →
      facts.basisLovelace = e.allocationBasisLovelace

/-- An authorization goes with a fresh datum; of the denials of the grant gate
the stale one goes with a stale datum and the others with a fresh one. -/
def ClockAgrees (e : DisbursementEvidenceV1) : Prop :=
  match e.authorization with
  | .authorized _ => e.nowUnixMs < e.intent.oracleProvenance.expiryUnix
  | .denied reason _ => reason.gate = .grant →
    (reason = .oracleStale ↔ ¬ e.nowUnixMs < e.intent.oracleProvenance.expiryUnix)

/-! ## From the closure to the clock -/

theorem ProducedByClosure.clockAgrees {e : DisbursementEvidenceV1} (h : ProducedByClosure e) :
    ClockAgrees e := by
  obtain ⟨anchor, registry, hverdict, -⟩ := h
  unfold ClockAgrees
  rw [← hverdict]
  cases hrun : authorizeDisbursement e.intent anchor registry e.nowUnixMs with
  | authorized effect =>
    have hnone := ((authorizeDisbursement_eq_authorized _ _ _ _ _).mp hrun).1
    obtain ⟨facts, -, hlaw⟩ := (closureChecks_eq_none _ _ _ _).mp hnone
    exact hlaw.fresh
  | denied reason gate =>
    have hfail := ((authorizeDisbursement_eq_denied _ _ _ _ _ _).mp hrun).1
    exact fun hgate => grantChecks_stale_iff (closureChecks_grant hfail hgate).2

theorem ProducedByClosure.consistent {e : DisbursementEvidenceV1} (h : ProducedByClosure e) :
    VerdictConsistent e.intent e.authorization := by
  obtain ⟨anchor, registry, hverdict, -⟩ := h
  rw [← hverdict, authorizeDisbursement_eq]
  cases firstFailing e.intent (closureChecks anchor registry e.nowUnixMs) with
  | none => exact ⟨rfl, rfl, rfl, rfl, rfl, rfl⟩
  | some reason => rfl

/-- Behind a passed registry gate the looked-up basis is the recorded one. -/
theorem basisIn_recorded {e : DisbursementEvidenceV1} {registry : AllocationRegistryView}
    (hfacts : ∀ facts, registry.lookup e.intent.allocationId = some facts →
      facts.basisLovelace = e.allocationBasisLovelace)
    (hpass : firstFailing e.intent (registryChecks registry) = none) :
    basisIn registry e.intent = some e.allocationBasisLovelace := by
  rcases runRegistryGate_cases e.intent registry with ⟨reason, hfail, -⟩ | ⟨basis, -, hbasis, -⟩
  · rw [hpass] at hfail
    cases hfail
  · obtain ⟨facts, hlookup, rfl⟩ := Option.map_eq_some_iff.mp hbasis
    rw [hbasis, hfacts facts hlookup]

theorem ProducedByClosure.replayed {e : DisbursementEvidenceV1} (h : ProducedByClosure e) :
    Replayed e := by
  obtain ⟨anchor, registry, hverdict, hfacts⟩ := h
  unfold Replayed
  rw [← hverdict]
  intro expected hexpected
  cases hrun : authorizeDisbursement e.intent anchor registry e.nowUnixMs with
  | authorized effect =>
    obtain ⟨hnone, rfl⟩ := (authorizeDisbursement_eq_authorized _ _ _ _ _).mp hrun
    rw [closureChecks, firstFailing_append, firstFailing_append, Option.or_eq_none_iff,
      Option.or_eq_none_iff] at hnone
    obtain ⟨-, hregistry, hgrant⟩ := hnone
    rw [hrun] at hexpected
    cases hexpected
    have hfresh : e.nowUnixMs < e.intent.oracleProvenance.expiryUnix := by
      by_contra hstale
      rw [grantChecks_stale hstale] at hgrant
      cases hgrant
    rw [evaluateDisbursement_eq (basisIn_recorded hfacts hregistry), ← grantChecks_fresh hfresh,
      hgrant]
    simp only [authorizedEffect, selectReleaseBandBps_eq]
  | denied reason gate =>
    obtain ⟨hfail, rfl⟩ := (authorizeDisbursement_eq_denied _ _ _ _ _ _).mp hrun
    rw [hrun] at hexpected
    obtain ⟨hgate, hne, rfl⟩ := (expectedFromSnapshot_denied _ _ _).mp hexpected
    obtain ⟨hregistry, hgrant⟩ := closureChecks_grant hfail hgate
    have hfresh : e.nowUnixMs < e.intent.oracleProvenance.expiryUnix := by
      by_contra hstale
      exact hne ((grantChecks_stale_iff hgrant).mpr hstale)
    rw [evaluateDisbursement_eq (basisIn_recorded hfacts hregistry), ← grantChecks_fresh hfresh,
      hgrant]

/-! ## From the clock to the closure

The views that lead to the recorded verdict approve exactly what they must. -/

section Views

variable {i : DisbursementIntentV1} (hversion : i.intentVersion = INTENT_VERSION_V1)

include hversion

theorem anchorChecks_open : firstFailing i (anchorChecks openAnchor) = none := by
  simp [anchorChecks, firstFailing, openAnchor, hversion]

/-- Behind views that approve the intent's own parties the grant gate decides. -/
theorem closureChecks_open (basis now : UInt64) :
    firstFailing i (closureChecks openAnchor (constRegistry (factsOf i basis)) now) =
      firstFailing i (grantChecks (constRegistry (factsOf i basis)) now) := by
  have hregistry : firstFailing i (registryChecks (constRegistry (factsOf i basis))) = none := by
    simp [registryChecks, firstFailing, constRegistry, factsOf]
  rw [closureChecks, firstFailing_append, firstFailing_append, anchorChecks_open hversion,
    hregistry, Option.none_or, Option.none_or]

theorem closureChecks_policyNotFound (registry : AllocationRegistryView) (now : UInt64) :
    firstFailing i (closureChecks ⟨fun _ => false⟩ registry now) = some .policyNotFound := by
  simp [closureChecks, anchorChecks, firstFailing, hversion]

theorem closureChecks_allocationNotFound (now : UInt64) :
    firstFailing i (closureChecks openAnchor emptyRegistry now) = some .allocationNotFound := by
  rw [closureChecks, firstFailing_append, anchorChecks_open hversion]
  simp [registryChecks, firstFailing, emptyRegistry]

theorem closureChecks_subjectNotAuthorized (basis now : UInt64) :
    firstFailing i (closureChecks openAnchor
      (constRegistry { factsOf i basis with authorizedSubjects := [] }) now) =
      some .subjectNotAuthorized := by
  rw [closureChecks, firstFailing_append, anchorChecks_open hversion]
  simp [registryChecks, firstFailing, constRegistry]

theorem closureChecks_assetMismatch {asset : AssetIdV1} (hasset : i.asset ≠ asset)
    (basis now : UInt64) :
    firstFailing i (closureChecks openAnchor
      (constRegistry { factsOf i basis with approvedAsset := asset }) now) =
      some .assetMismatch := by
  rw [closureChecks, firstFailing_append, anchorChecks_open hversion]
  simp [registryChecks, firstFailing, constRegistry, factsOf, hasset]

end Views

theorem exists_other_asset (asset : AssetIdV1) : ∃ other, asset ≠ other := by
  refine ⟨{ asset with assetNameLen := asset.assetNameLen + 1 }, fun h => ?_⟩
  have hlen := congrArg (fun a => a.assetNameLen) h
  simp at hlen

theorem ProducedByClosure.of_denied {e : DisbursementEvidenceV1} {reason : DisbursementReasonCode}
    (hauth : e.authorization = .denied reason reason.gate) {anchor : PolicyAnchorView}
    {registry : AllocationRegistryView}
    (hfail : firstFailing e.intent (closureChecks anchor registry e.nowUnixMs) = some reason)
    (hbasis : ∀ facts, registry.lookup e.intent.allocationId = some facts →
      facts.basisLovelace = e.allocationBasisLovelace) : ProducedByClosure e := by
  refine ⟨anchor, registry, ?_, hbasis⟩
  rw [(authorizeDisbursement_eq_denied _ _ _ _ _ _).mpr ⟨hfail, rfl⟩, hauth]
  rfl

theorem constRegistry_basis {facts : AllocationFacts} {basis : UInt64}
    (h : facts.basisLovelace = basis) (id : Bytes32) :
    ∀ facts', (constRegistry facts).lookup id = some facts' → facts'.basisLovelace = basis := by
  rintro _ ⟨⟩
  exact h

theorem emptyRegistry_basis (id : Bytes32) (basis : UInt64) :
    ∀ facts, emptyRegistry.lookup id = some facts → facts.basisLovelace = basis := by
  rintro _ ⟨⟩

/-- A denial before the grant gate is always one the closure could give. -/
theorem ProducedByClosure.of_earlier_gate {e : DisbursementEvidenceV1}
    (hversion : e.intent.intentVersion = INTENT_VERSION_V1) {reason : DisbursementReasonCode}
    (hauth : e.authorization = .denied reason reason.gate) (hgate : reason.gate ≠ .grant) :
    ProducedByClosure e := by
  cases reason with
  | policyNotFound =>
    exact .of_denied hauth (closureChecks_policyNotFound hversion emptyRegistry _)
      (emptyRegistry_basis _ _)
  | allocationNotFound =>
    exact .of_denied hauth (closureChecks_allocationNotFound hversion _) (emptyRegistry_basis _ _)
  | subjectNotAuthorized =>
    exact .of_denied hauth
      (closureChecks_subjectNotAuthorized hversion e.allocationBasisLovelace _)
      (constRegistry_basis rfl _)
  | assetMismatch =>
    obtain ⟨asset, hasset⟩ := exists_other_asset e.intent.asset
    exact .of_denied hauth
      (closureChecks_assetMismatch hversion hasset e.allocationBasisLovelace _)
      (constRegistry_basis rfl _)
  | oracleStale => exact absurd rfl hgate
  | amountZero => exact absurd rfl hgate
  | oraclePriceZero => exact absurd rfl hgate
  | releaseCapExceeded => exact absurd rfl hgate

section Grant

variable {pc : Postcard} {blake3 : Blake3} {e : DisbursementEvidenceV1} (h : Clean pc blake3 e)
include h

/-- Behind open views the recorded basis reaches the evaluator. -/
theorem Clean.closureChecks_eq :
    firstFailing e.intent (closureChecks openAnchor
      (constRegistry (factsOf e.intent e.allocationBasisLovelace)) e.nowUnixMs) =
      firstFailing e.intent
        (grantChecks (constRegistry (factsOf e.intent e.allocationBasisLovelace)) e.nowUnixMs) :=
  closureChecks_open h.intentVersion e.allocationBasisLovelace e.nowUnixMs

theorem Clean.produced_authorized {effect : AuthorizedEffectV1}
    (hauth : e.authorization = .authorized effect)
    (hfresh : e.nowUnixMs < e.intent.oracleProvenance.expiryUnix) : ProducedByClosure e := by
  have hopen := h.closureChecks_eq
  obtain ⟨rfl, hpass⟩ := h.authorized (basisIn_open e.intent e.allocationBasisLovelace) hauth
  rw [grantChecks_fresh hfresh, hpass] at hopen
  refine ⟨openAnchor, constRegistry (factsOf e.intent e.allocationBasisLovelace), ?_,
    constRegistry_basis rfl _⟩
  rw [(authorizeDisbursement_eq_authorized _ _ _ _ _).mpr ⟨hopen, rfl⟩, hauth]
  rfl

theorem Clean.produced_grant {reason : DisbursementReasonCode}
    (hauth : e.authorization = .denied reason reason.gate) (hgrant : reason.gate = .grant)
    (hstale : reason = .oracleStale ↔ ¬ e.nowUnixMs < e.intent.oracleProvenance.expiryUnix) :
    ProducedByClosure e := by
  have hopen := h.closureChecks_eq
  by_cases hfresh : e.nowUnixMs < e.intent.oracleProvenance.expiryUnix
  · have hne : reason ≠ .oracleStale := fun heq => hstale.mp heq hfresh
    rw [grantChecks_fresh hfresh,
      h.replayed_reason (basisIn_open e.intent e.allocationBasisLovelace) hauth hgrant hne] at hopen
    exact .of_denied hauth hopen (constRegistry_basis rfl _)
  · obtain rfl := hstale.mpr hfresh
    rw [grantChecks_stale hfresh] at hopen
    exact .of_denied hauth hopen (constRegistry_basis rfl _)

theorem Clean.produced (hclock : ClockAgrees e) : ProducedByClosure e := by
  unfold ClockAgrees at hclock
  cases hauth : e.authorization with
  | authorized effect =>
    rw [hauth] at hclock
    exact h.produced_authorized hauth hclock
  | denied reason gate =>
    rw [hauth] at hclock
    have hgate := h.consistent
    rw [hauth] at hgate
    obtain rfl : gate = reason.gate := hgate
    by_cases hgrant : reason.gate = .grant
    · exact h.produced_grant hauth hgrant (hclock hgrant)
    · exact .of_earlier_gate h.intentVersion hauth hgrant

end Grant

/-- **Soundness of a clean report, up to the clock.** -/
theorem clean_produced_exact (pc : Postcard) (blake3 : Blake3) (e : DisbursementEvidenceV1)
    (h : (verifyEvidence pc blake3 e).isOk = true) : ProducedByClosure e ↔ ClockAgrees e :=
  ⟨fun hproduced => hproduced.clockAgrees,
    fun hclock => ((verifyEvidence_isOk pc blake3 e).mp h).produced hclock⟩

theorem clean_produced_fixture : ProducedByClosure fixtureEvidence := by
  have h := clean_produced_exact .reference policyDigest fixtureEvidence
    fixtureEvidence_clean
  apply h.mpr
  show fixtureEvidence.nowUnixMs < fixtureEvidence.intent.oracleProvenance.expiryUnix
  decide

/-- The fixture with its clock at the expiry is reported clean. -/
theorem clean_stale_not_produced :
    ¬ ∀ e : DisbursementEvidenceV1,
      (verifyEvidence .reference policyDigest e).isOk = true → ProducedByClosure e := by
  intro h
  have hproduced := h { fixtureEvidence with nowUnixMs := 1713000300000 } (by decide)
  have hfresh : (1713000300000 : UInt64) < fixtureIntent.oracleProvenance.expiryUnix :=
    hproduced.clockAgrees
  revert hfresh
  decide

end OracleGuard
