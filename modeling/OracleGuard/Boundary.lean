import OracleGuard.Adapter.Artifacts
import OracleGuard.Verifier.Replay

/-!
The fulfillment boundary beside the verifier: the outcomes of the one, and the
executions that the other accepts.

* `fulfilled_recordable_exact`: the verifier accepts every outcome except that
  of a pending receipt whose output is a denial.
* `clean_fulfilled_exact`: the execution of a clean record is an outcome of the
  boundary exactly when it agrees with the asset of the effect, which the
  verifier does not look at.
-/

namespace OracleGuard

variable {World SubmitError : Type}

/-! ## Every outcome, recorded -/

theorem fulfills_recordable {receipt : IntentReceiptV1}
    {backend : SettlementBackend World SubmitError} {world world' : World}
    {outcome : FulfillmentOutcome} (h : Fulfills receipt backend world outcome world') :
    Recordable receipt.output.toSnapshot outcome.toExecution ↔
      ¬ (receipt.status = .pending ∧ ∃ reason gate, receipt.output = .denied reason gate) := by
  cases h with
  | pending hstatus =>
    cases houtput : receipt.output with
    | authorized effect =>
      simp [AuthorizationResult.toSnapshot, FulfillmentOutcome.toExecution, Recordable]
    | denied reason gate =>
      simp [AuthorizationResult.toSnapshot, FulfillmentOutcome.toExecution, Recordable, hstatus]
  | denied hstatus houtput =>
    simp [houtput, AuthorizationResult.toSnapshot, FulfillmentOutcome.toExecution, Recordable,
      hstatus]
  | nonAda hstatus houtput =>
    simp [houtput, AuthorizationResult.toSnapshot, FulfillmentOutcome.toExecution, Recordable]
  | settled hstatus houtput =>
    simp [houtput, AuthorizationResult.toSnapshot, FulfillmentOutcome.toExecution, Recordable]

/-- **Recordable outcomes.** `fulfill` looks at the status before the output, so
a pending denial is rejected at fulfillment, which is no pair of the verifier. -/
theorem fulfilled_recordable_exact {receipt : IntentReceiptV1}
    {backend : SettlementBackend World SubmitError} {world world' : World}
    {outcome : FulfillmentOutcome}
    (h : (fulfill receipt backend).run world = (.ok outcome, world'))
    {e : DisbursementEvidenceV1} (hauth : e.authorization = receipt.output.toSnapshot)
    (hexec : e.execution = outcome.toExecution) (report : VerifierReport) :
    checkCrossVariantConsistency e report = report ↔
      ¬ (receipt.status = .pending ∧ ∃ reason gate, receipt.output = .denied reason gate) := by
  rw [checkCrossVariantConsistency_eq_self, hauth, hexec]
  exact fulfills_recordable ((fulfill_eq_ok _ _ _ _ _).mp h)

def fixtureReceipt : IntentReceiptV1 where
  intentId := Vector.replicate 32 0x11
  status := .committed
  committedHeight := 10042
  output := .authorized (authorizedEffect fixtureIntent)

/-- A backend that counts its submissions. -/
def countingBackend : SettlementBackend Nat Unit where
  submit _ := fun count => (.ok ⟨Vector.replicate 32 0xAB⟩, count + 1)

theorem fulfilled_recordable_fixture :
    checkCrossVariantConsistency fixtureEvidence .new = .new := by
  have hrun : (fulfill fixtureReceipt countingBackend).run 0 =
      (.ok (.settled ⟨Vector.replicate 32 0xAB⟩), 1) := rfl
  have hexact := fulfilled_recordable_exact hrun (e := fixtureEvidence) rfl rfl .new
  exact hexact.mpr fun hpending => nomatch hpending.1

/-- A pending receipt that carries a denial. -/
def pendingDenial : IntentReceiptV1 where
  intentId := Vector.replicate 32 0x11
  status := .pending
  committedHeight := 0
  output := .denied .releaseCapExceeded .grant

theorem pending_denial_not_recordable :
    ¬ ∀ (receipt : IntentReceiptV1) (backend : SettlementBackend Nat Unit) (world world' : Nat)
        (outcome : FulfillmentOutcome),
      (fulfill receipt backend).run world = (.ok outcome, world') →
        ∀ e : DisbursementEvidenceV1, e.authorization = receipt.output.toSnapshot →
          e.execution = outcome.toExecution →
          ∀ report, checkCrossVariantConsistency e report = report := by
  intro h
  have hrun : (fulfill pendingDenial countingBackend).run 0 =
      (.ok (.rejectedAtFulfillment .receiptNotCommitted), 0) := rfl
  have hkept := h _ _ _ _ _ hrun
    { fixtureEvidence with
      authorization := .denied .releaseCapExceeded .grant
      execution := .rejectedAtFulfillment .receiptNotCommitted } rfl rfl .new
  revert hkept
  decide

/-! ## Every clean execution, fulfilled -/

/-- Some receipt with the recorded verdict and some backend lead the boundary to
the recorded execution. -/
def ProducedByFulfillment (e : DisbursementEvidenceV1) : Prop :=
  ∃ (World SubmitError : Type) (receipt : IntentReceiptV1)
    (backend : SettlementBackend World SubmitError) (world world' : World)
    (outcome : FulfillmentOutcome),
    receipt.output.toSnapshot = e.authorization ∧
    (fulfill receipt backend).run world = (.ok outcome, world') ∧
    outcome.toExecution = e.execution

/-- A settled effect is in ADA, one rejected as non-ADA is not. -/
def AssetAgrees (e : DisbursementEvidenceV1) : Prop :=
  match e.authorization, e.execution with
  | .authorized effect, .settled _ => effect.asset = .ADA
  | .authorized effect, .rejectedAtFulfillment .nonAdaAsset => effect.asset ≠ .ADA
  | _, _ => True

theorem ProducedByFulfillment.assetAgrees {e : DisbursementEvidenceV1}
    (h : ProducedByFulfillment e) : AssetAgrees e := by
  obtain ⟨_, _, receipt, backend, world, world', outcome, hauth, hrun, hexec⟩ := h
  unfold AssetAgrees
  rw [← hauth, ← hexec]
  cases (fulfill_eq_ok _ _ _ _ _).mp hrun with
  | pending hstatus => cases receipt.output <;> exact trivial
  | denied hstatus houtput => rw [houtput]; exact trivial
  | nonAda hstatus houtput hasset => rw [houtput]; exact hasset
  | settled hstatus houtput hasset => rw [houtput]; exact hasset

/-- A backend that returns one hash. -/
def constBackend (txHash : Bytes32) : SettlementBackend Unit Unit where
  submit _ := return .ok ⟨txHash⟩

theorem ProducedByFulfillment.of_recordable {e : DisbursementEvidenceV1}
    (hpair : Recordable e.authorization e.execution) (hasset : AssetAgrees e) :
    ProducedByFulfillment e := by
  unfold AssetAgrees at hasset
  cases hauth : e.authorization with
  | authorized effect =>
    cases hexec : e.execution with
    | settled txHash =>
      simp only [hauth, hexec] at hasset
      refine ⟨Unit, Unit, ⟨e.intentId, .committed, e.committedHeight, .authorized effect⟩,
        constBackend txHash, (), (), .settled ⟨txHash⟩, hauth.symm, ?_, hexec.symm⟩
      rw [fulfill_ada rfl rfl hasset]
      rfl
    | deniedUpstream reason gate => simp [hauth, hexec, Recordable] at hpair
    | rejectedAtFulfillment kind =>
      cases kind with
      | nonAdaAsset =>
        simp only [hauth, hexec] at hasset
        exact ⟨Unit, Unit, ⟨e.intentId, .committed, e.committedHeight, .authorized effect⟩,
          constBackend e.intentId, (), (), .rejectedAtFulfillment .nonAdaAsset, hauth.symm,
          fulfill_nonAda rfl rfl hasset _ _, hexec.symm⟩
      | receiptNotCommitted =>
        exact ⟨Unit, Unit, ⟨e.intentId, .pending, 0, .authorized effect⟩, constBackend e.intentId,
          (), (), .rejectedAtFulfillment .receiptNotCommitted, hauth.symm,
          fulfill_pending rfl _ _, hexec.symm⟩
  | denied reason gate =>
    cases hexec : e.execution with
    | settled txHash => simp [hauth, hexec, Recordable] at hpair
    | rejectedAtFulfillment kind => simp [hauth, hexec, Recordable] at hpair
    | deniedUpstream reason' gate' =>
      simp only [hauth, hexec, Recordable] at hpair
      obtain ⟨rfl, rfl⟩ := hpair
      exact ⟨Unit, Unit, ⟨e.intentId, .committed, e.committedHeight, .denied reason gate⟩,
        constBackend e.intentId, (), (), .deniedUpstream reason gate, hauth.symm,
        fulfill_denied rfl rfl _ _, hexec.symm⟩

/-- **Clean executions.** -/
theorem clean_fulfilled_exact (pc : Postcard) (blake3 : Blake3) (e : DisbursementEvidenceV1)
    (h : (verifyEvidence pc blake3 e).isOk = true) : ProducedByFulfillment e ↔ AssetAgrees e :=
  ⟨fun hproduced => hproduced.assetAgrees,
    .of_recordable ((verifyEvidence_isOk pc blake3 e).mp h).recordable⟩

theorem clean_fulfilled_fixture : ProducedByFulfillment fixtureEvidence := by
  have h := clean_fulfilled_exact .reference policyDigest fixtureEvidence
    fixtureEvidence_clean
  apply h.mpr
  show (authorizedEffect fixtureIntent).asset = .ADA
  rfl

/-- The fixture in another asset. -/
def nonAdaIntent : DisbursementIntentV1 :=
  { fixtureIntent with asset := ⟨Vector.replicate 28 0x77, Vector.replicate 32 0, 0⟩ }

/-- A settlement in another asset than ADA is reported clean. -/
theorem clean_non_ada_not_fulfilled :
    ¬ ∀ e : DisbursementEvidenceV1,
      (verifyEvidence .reference policyDigest e).isOk = true → ProducedByFulfillment e := by
  intro h
  have hproduced := h
    { fixtureEvidence with
      intent := nonAdaIntent
      authorization := .authorized (authorizedEffect nonAdaIntent) } (by decide)
  have hasset : nonAdaIntent.asset = .ADA := hproduced.assetAgrees
  revert hasset
  decide

end OracleGuard
