import OracleGuard.Verifier.Report

/-!
Structural integrity of an evidence record. Each check comes with what it asks
of the record.

* `checkIntegrity_isOk`: a report stays clean exactly when all four checks are
  met.
* `checkCrossVariantConsistency_eq_self`: the cross-variant check pushes nothing
  exactly on the recordable pairs of verdict and execution.
-/

namespace OracleGuard

open VerifierReport

def checkVersions (evidence : DisbursementEvidenceV1) (report : VerifierReport) :
    VerifierReport :=
  (report.pushIf (evidence.evidenceVersion ≠ EVIDENCE_VERSION_V1)
      (.evidenceVersionUnsupported evidence.evidenceVersion EVIDENCE_VERSION_V1)).pushIf
    (evidence.intent.intentVersion ≠ INTENT_VERSION_V1)
    (.intentVersionUnsupported evidence.intent.intentVersion INTENT_VERSION_V1)

def checkIntentId (pc : Postcard) (blake3 : Blake3) (evidence : DisbursementEvidenceV1)
    (report : VerifierReport) : VerifierReport :=
  match intentId pc blake3 evidence.intent with
  | .ok recomputed =>
    report.pushIf (recomputed ≠ evidence.intentId)
      (.intentIdMismatch recomputed evidence.intentId)
  | .error _ => report.push .intentIdRecomputeFailed

/-- The basis points of an effect are left to the replay. -/
def checkAuthorizationConsistency (evidence : DisbursementEvidenceV1) (report : VerifierReport) :
    VerifierReport :=
  match evidence.authorization with
  | .authorized effect =>
    let intent := evidence.intent
    let report := report.pushIf (effect.policyRef ≠ intent.policyRef)
      (.authorizedEffectMismatch .policyRef)
    let report := report.pushIf (effect.allocationId ≠ intent.allocationId)
      (.authorizedEffectMismatch .allocationId)
    let report := report.pushIf (effect.requesterId ≠ intent.requesterId)
      (.authorizedEffectMismatch .requesterId)
    let report := report.pushIf (effect.destination ≠ intent.destination)
      (.authorizedEffectMismatch .destination)
    let report := report.pushIf (effect.asset ≠ intent.asset)
      (.authorizedEffectMismatch .asset)
    report.pushIf (effect.authorizedAmountLovelace ≠ intent.requestedAmountLovelace)
      (.authorizedEffectMismatch .authorizedAmountLovelace)
  | .denied reason gate =>
    let expectedGate := reason.gate
    report.pushIf (gate ≠ expectedGate) (.gateInvariantBroken reason gate expectedGate)

def checkCrossVariantConsistency (evidence : DisbursementEvidenceV1) (report : VerifierReport) :
    VerifierReport :=
  match evidence.authorization, evidence.execution with
  | .authorized _, .settled _ => report
  | .authorized _, .rejectedAtFulfillment _ => report
  | .authorized _, .deniedUpstream _ _ =>
    report.push (.authorizationExecutionInconsistent .authorizedButDeniedExecution)
  | .denied _ _, .settled _ =>
    report.push (.authorizationExecutionInconsistent .deniedButSettledExecution)
  | .denied _ _, .rejectedAtFulfillment _ =>
    report.push (.authorizationExecutionInconsistent .deniedButFulfillmentRejection)
  | .denied authReason authGate, .deniedUpstream execReason execGate =>
    (report.pushIf (authReason ≠ execReason)
        (.authorizationExecutionInconsistent .deniedReasonMismatch)).pushIf
      (authGate ≠ execGate) (.authorizationExecutionInconsistent .deniedGateMismatch)

def checkIntegrity (pc : Postcard) (blake3 : Blake3) (evidence : DisbursementEvidenceV1)
    (report : VerifierReport) : VerifierReport :=
  let report := checkVersions evidence report
  let report := checkIntentId pc blake3 evidence report
  let report := checkAuthorizationConsistency evidence report
  checkCrossVariantConsistency evidence report

/-! ## What the checks ask for -/

/-- An effect copies its fields from the intent, and a denial names the gate of
its reason. -/
def VerdictConsistent (intent : DisbursementIntentV1) : AuthorizationSnapshotV1 → Prop
  | .authorized effect =>
    effect.policyRef = intent.policyRef ∧ effect.allocationId = intent.allocationId ∧
      effect.requesterId = intent.requesterId ∧ effect.destination = intent.destination ∧
      effect.asset = intent.asset ∧
      effect.authorizedAmountLovelace = intent.requestedAmountLovelace
  | .denied reason gate => gate = reason.gate

/-- The executions that may be recorded beside a verdict. -/
def Recordable : AuthorizationSnapshotV1 → ExecutionOutcomeV1 → Prop
  | .authorized _, .settled _ => True
  | .authorized _, .rejectedAtFulfillment _ => True
  | .denied reason gate, .deniedUpstream reason' gate' => reason = reason' ∧ gate = gate'
  | _, _ => False

theorem checkVersions_isOk (e : DisbursementEvidenceV1) (report : VerifierReport) :
    (checkVersions e report).isOk = true ↔
      report.isOk = true ∧ e.evidenceVersion = EVIDENCE_VERSION_V1 ∧
        e.intent.intentVersion = INTENT_VERSION_V1 := by
  simp only [checkVersions, pushIf_isOk, not_ne_iff, and_assoc]

theorem checkIntentId_isOk (pc : Postcard) (blake3 : Blake3) (e : DisbursementEvidenceV1)
    (report : VerifierReport) :
    (checkIntentId pc blake3 e report).isOk = true ↔
      report.isOk = true ∧ intentId pc blake3 e.intent = .ok e.intentId := by
  unfold checkIntentId
  cases intentId pc blake3 e.intent with
  | ok recomputed => simp only [pushIf_isOk, not_ne_iff, Except.ok.injEq]
  | error err => simp

theorem checkAuthorizationConsistency_isOk (e : DisbursementEvidenceV1)
    (report : VerifierReport) :
    (checkAuthorizationConsistency e report).isOk = true ↔
      report.isOk = true ∧ VerdictConsistent e.intent e.authorization := by
  unfold checkAuthorizationConsistency VerdictConsistent
  cases e.authorization with
  | authorized effect => simp only [pushIf_isOk, not_ne_iff, and_assoc]
  | denied reason gate => simp only [pushIf_isOk, not_ne_iff]

theorem checkCrossVariantConsistency_isOk (e : DisbursementEvidenceV1) (report : VerifierReport) :
    (checkCrossVariantConsistency e report).isOk = true ↔
      report.isOk = true ∧ Recordable e.authorization e.execution := by
  unfold checkCrossVariantConsistency Recordable
  cases e.authorization with
  | authorized effect => cases e.execution <;> simp
  | denied reason gate => cases e.execution <;> simp [and_assoc]

theorem checkCrossVariantConsistency_eq_self (e : DisbursementEvidenceV1)
    (report : VerifierReport) :
    checkCrossVariantConsistency e report = report ↔ Recordable e.authorization e.execution := by
  unfold checkCrossVariantConsistency Recordable
  cases e.authorization with
  | authorized effect => cases e.execution <;> simp
  | denied reason gate =>
    cases e.execution with
    | settled txHash => simp
    | rejectedAtFulfillment kind => simp
    | deniedUpstream reason' gate' => simp only [pushIf_pushIf_eq_self, not_ne_iff]

theorem checkIntegrity_isOk (pc : Postcard) (blake3 : Blake3) (e : DisbursementEvidenceV1)
    (report : VerifierReport) :
    (checkIntegrity pc blake3 e report).isOk = true ↔
      report.isOk = true ∧ e.evidenceVersion = EVIDENCE_VERSION_V1 ∧
        e.intent.intentVersion = INTENT_VERSION_V1 ∧
        intentId pc blake3 e.intent = .ok e.intentId ∧
        VerdictConsistent e.intent e.authorization ∧ Recordable e.authorization e.execution := by
  simp only [checkIntegrity, checkCrossVariantConsistency_isOk,
    checkAuthorizationConsistency_isOk, checkIntentId_isOk, checkVersions_isOk, and_assoc]

end OracleGuard
