import OracleGuard.Policy.Law

/-!
Denials: which check they name, and what they do not depend on.

* `denial_law`: a denial names the first of the ten checks that fails and the
  gate of its reason; what only later gates read cannot change it.
-/

namespace OracleGuard

open Checks

/-- The same request with other inputs for the grant gate. -/
def DisbursementIntentV1.withGrantInputs (i : DisbursementIntentV1) (fact : OracleFactEvalV1)
    (provenance : OracleFactProvenanceV1) (amount : UInt64) : DisbursementIntentV1 :=
  { i with
    oracleFact := fact
    oracleProvenance := provenance
    requestedAmountLovelace := amount }

/-- The order of the gates and of the checks within each gate. -/
example (anchor : PolicyAnchorView) (registry : AllocationRegistryView) (now : UInt64) :
    (closureChecks anchor registry now).map (·.reason) =
      [.policyNotFound, .policyNotFound, .allocationNotFound, .subjectNotAuthorized,
        .assetMismatch, .subjectNotAuthorized, .oracleStale, .amountZero, .oraclePriceZero,
        .releaseCapExceeded] :=
  rfl

section Isolation

variable {i : DisbursementIntentV1} {anchor : PolicyAnchorView}
  {registry : AllocationRegistryView} {now : UInt64} {reason : DisbursementReasonCode}
  {gate : AuthorizationGate}

/-- The first failing check of the anchor gate decides alone. -/
theorem authorizeDisbursement_of_anchor (h : firstFailing i (anchorChecks anchor) = some reason)
    (registry : AllocationRegistryView) (now : UInt64) :
    authorizeDisbursement i anchor registry now = .denied reason .anchor := by
  refine (authorizeDisbursement_eq_denied _ _ _ _ _ _).mpr
    ⟨?_, gate_of_firstFailing (fun _ => anchorChecks_gate) h⟩
  rw [closureChecks, firstFailing_append, h, Option.some_or]

/-- Behind the anchor gate that of the registry gate does. -/
theorem authorizeDisbursement_of_registry (hanchor : firstFailing i (anchorChecks anchor) = none)
    (h : firstFailing i (registryChecks registry) = some reason) (now : UInt64) :
    authorizeDisbursement i anchor registry now = .denied reason .registry := by
  refine (authorizeDisbursement_eq_denied _ _ _ _ _ _).mpr
    ⟨?_, gate_of_firstFailing (fun _ => registryChecks_gate) h⟩
  rw [closureChecks, firstFailing_append, firstFailing_append, hanchor, h, Option.none_or,
    Option.some_or]

theorem anchor_denial_isolated
    (h : authorizeDisbursement i anchor registry now = .denied reason .anchor)
    (registry' : AllocationRegistryView) (now' : UInt64) :
    authorizeDisbursement i anchor registry' now' = .denied reason .anchor := by
  obtain ⟨hfail, hgate⟩ := (authorizeDisbursement_eq_denied _ _ _ _ _ _).mp h
  exact authorizeDisbursement_of_anchor (closureChecks_anchor hfail hgate) registry' now'

/-- The first two gates read none of the inputs of the grant gate. -/
theorem registry_denial_isolated
    (h : authorizeDisbursement i anchor registry now = .denied reason .registry) (now' : UInt64)
    (fact : OracleFactEvalV1) (provenance : OracleFactProvenanceV1) (amount : UInt64) :
    authorizeDisbursement (i.withGrantInputs fact provenance amount) anchor registry now' =
      .denied reason .registry := by
  obtain ⟨hfail, hgate⟩ := (authorizeDisbursement_eq_denied _ _ _ _ _ _).mp h
  obtain ⟨hanchor, hregistry⟩ := closureChecks_registry hfail hgate
  have hanchor' : firstFailing (i.withGrantInputs fact provenance amount) (anchorChecks anchor) =
      none := hanchor
  exact authorizeDisbursement_of_registry hanchor' hregistry now'

end Isolation

/-- **Denial law.** -/
theorem denial_law {i : DisbursementIntentV1} {anchor : PolicyAnchorView}
    {registry : AllocationRegistryView} {now : UInt64} {reason : DisbursementReasonCode}
    {gate : AuthorizationGate}
    (h : authorizeDisbursement i anchor registry now = .denied reason gate) :
    gate = reason.gate ∧
      FailsFirst i (closureChecks anchor registry now) reason ∧
      (gate = .anchor → ∀ registry' now',
        authorizeDisbursement i anchor registry' now' = .denied reason gate) ∧
      (gate = .registry → ∀ now' fact provenance amount,
        authorizeDisbursement (i.withGrantInputs fact provenance amount) anchor registry now' =
          .denied reason gate) := by
  obtain ⟨hfail, hgate⟩ := (authorizeDisbursement_eq_denied _ _ _ _ _ _).mp h
  refine ⟨hgate.symm, (firstFailing_eq_some _ _ _).mp hfail, ?_, ?_⟩
  · rintro rfl
    exact anchor_denial_isolated h
  · rintro rfl
    exact registry_denial_isolated h

/-- A request of nothing from an unknown allocation is denied by the registry
gate, and so is the same request of something. -/
theorem denial_law_fixture :
    authorizeDisbursement
        (fixtureIntent.withGrantInputs fixtureIntent.oracleFact fixtureIntent.oracleProvenance
          1000000000) openAnchor emptyRegistry 0 =
      .denied .allocationNotFound .registry := by
  have h : authorizeDisbursement { fixtureIntent with requestedAmountLovelace := 0 } openAnchor
      emptyRegistry 1713000300000 = .denied .allocationNotFound .registry := by
    decide
  exact (denial_law h).2.2.2 rfl 0 fixtureIntent.oracleFact fixtureIntent.oracleProvenance
    1000000000

end OracleGuard
