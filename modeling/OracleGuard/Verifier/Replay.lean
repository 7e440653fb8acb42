import OracleGuard.Policy.Authorize
import OracleGuard.Verifier.Integrity

/-!
Evaluator replay and the offline verifier as a whole. Replay covers the verdicts
of the evaluator; a denial by an earlier gate or for a stale datum is not
replayed.

* `verifyEvidence_isOk`: a report is clean exactly when the record meets the
  conditions of `Clean`.
* `Clean.authorized` and `Clean.replayed_reason`: what the replay adds, in terms
  of the checks of the evaluator.
-/

namespace OracleGuard

open Checks VerifierReport

def expectedFromSnapshot : AuthorizationSnapshotV1 → Option EvaluationResult
  | .authorized effect =>
    some (.allow effect.authorizedAmountLovelace effect.releaseCapBasisPoints)
  | .denied reason _ =>
    match reason with
    | .amountZero | .oraclePriceZero | .releaseCapExceeded => some (.deny reason)
    | .policyNotFound | .allocationNotFound | .subjectNotAuthorized | .assetMismatch
    | .oracleStale => none

/-- The version mismatch of a skipped record is a finding of `checkIntegrity`. -/
def checkReplayEquivalence (evidence : DisbursementEvidenceV1) (report : VerifierReport) :
    VerifierReport :=
  if evidence.intent.intentVersion ≠ INTENT_VERSION_V1 then report
  else
    match expectedFromSnapshot evidence.authorization with
    | none => report
    | some expected =>
      let actual := evaluateDisbursement evidence.intent evidence.allocationBasisLovelace
      report.pushIf (actual ≠ expected) (.replayDiverged expected actual)

def verifyEvidence (pc : Postcard) (blake3 : Blake3) (evidence : DisbursementEvidenceV1) :
    VerifierReport :=
  let report := VerifierReport.new
  let report := checkIntegrity pc blake3 evidence report
  checkReplayEquivalence evidence report

/-- Reading the file is left out, and its I/O error with it. -/
inductive BundleLoadError where
  | decode (err : EvidenceDecodeError)
  deriving DecidableEq, Repr

def decodeBundle (pc : Postcard) (bytes : Wire.Bytes) :
    Except BundleLoadError DisbursementEvidenceV1 :=
  (decodeEvidence pc bytes).mapError .decode

/-! ## Clean records -/

/-- The recorded verdict is what the evaluator says on the recorded basis, where
the verdict is one of the evaluator's. -/
def Replayed (e : DisbursementEvidenceV1) : Prop :=
  ∀ expected, expectedFromSnapshot e.authorization = some expected →
    evaluateDisbursement e.intent e.allocationBasisLovelace = expected

structure Clean (pc : Postcard) (blake3 : Blake3) (e : DisbursementEvidenceV1) : Prop where
  evidenceVersion : e.evidenceVersion = EVIDENCE_VERSION_V1
  intentVersion : e.intent.intentVersion = INTENT_VERSION_V1
  intentId : intentId pc blake3 e.intent = .ok e.intentId
  consistent : VerdictConsistent e.intent e.authorization
  recordable : Recordable e.authorization e.execution
  replayed : Replayed e

/-- The replayed denials are those of the grant gate other than the stale one. -/
theorem expectedFromSnapshot_denied (reason : DisbursementReasonCode) (gate : AuthorizationGate)
    (expected : EvaluationResult) :
    expectedFromSnapshot (.denied reason gate) = some expected ↔
      reason.gate = .grant ∧ reason ≠ .oracleStale ∧ .deny reason = expected := by
  cases reason <;> simp [expectedFromSnapshot, DisbursementReasonCode.gate]

theorem checkReplayEquivalence_isOk (e : DisbursementEvidenceV1) (report : VerifierReport) :
    (checkReplayEquivalence e report).isOk = true ↔
      report.isOk = true ∧ (e.intent.intentVersion = INTENT_VERSION_V1 → Replayed e) := by
  unfold checkReplayEquivalence Replayed
  by_cases hversion : e.intent.intentVersion = INTENT_VERSION_V1
  · cases expectedFromSnapshot e.authorization with
    | none => simp [hversion]
    | some expected => simp [hversion]
  · simp [hversion]

/-- **What a clean report means.** -/
theorem verifyEvidence_isOk (pc : Postcard) (blake3 : Blake3) (e : DisbursementEvidenceV1) :
    (verifyEvidence pc blake3 e).isOk = true ↔ Clean pc blake3 e := by
  simp only [verifyEvidence, checkReplayEquivalence_isOk, checkIntegrity_isOk, new_isOk, true_and]
  constructor
  · rintro ⟨⟨hev, hiv, hid, hverdict, hpair⟩, hreplay⟩
    exact ⟨hev, hiv, hid, hverdict, hpair, hreplay hiv⟩
  · intro h
    exact ⟨⟨h.evidenceVersion, h.intentVersion, h.intentId, h.consistent, h.recordable⟩,
      fun _ => h.replayed⟩

/-- The fixture, authorized and settled, under the id that `policyDigest` gives. -/
def fixtureEvidence : DisbursementEvidenceV1 where
  evidenceVersion := EVIDENCE_VERSION_V1
  intent := fixtureIntent
  intentId := Vector.replicate 32 0x11
  allocationBasisLovelace := 2000000000
  nowUnixMs := 1713000100000
  committedHeight := 10042
  authorization := .authorized (authorizedEffect fixtureIntent)
  execution := .settled (Vector.replicate 32 0xAB)

theorem fixtureEvidence_clean :
    (verifyEvidence .reference policyDigest fixtureEvidence).isOk = true := by decide

section Replay

variable {pc : Postcard} {blake3 : Blake3} {e : DisbursementEvidenceV1}
  {basisOf : DisbursementIntentV1 → Option UInt64}

/-- An authorized effect of a clean record is the intent's own, and the checks
of the evaluator hold on the recorded basis. -/
theorem Clean.authorized (h : Clean pc blake3 e)
    (hbasis : basisOf e.intent = some e.allocationBasisLovelace) {effect : AuthorizedEffectV1}
    (hauth : e.authorization = .authorized effect) :
    effect = authorizedEffect e.intent ∧
      firstFailing e.intent (evaluatorChecks basisOf) = none := by
  have hfields := h.consistent
  have hreplay := h.replayed
  simp only [Replayed, hauth, expectedFromSnapshot, Option.some.injEq, forall_eq'] at hreplay
  simp only [hauth, VerdictConsistent] at hfields
  obtain ⟨hpolicy, hallocation, hrequester, hdestination, hasset, hamount⟩ := hfields
  rw [evaluateDisbursement_eq hbasis] at hreplay
  cases hfirst : firstFailing e.intent (evaluatorChecks basisOf) with
  | some reason =>
    rw [hfirst] at hreplay
    cases hreplay
  | none =>
    rw [hfirst] at hreplay
    injection hreplay with _ hband
    have hcap : effect.releaseCapBasisPoints =
        .ofNat (releaseBand e.intent.oracleFact.priceMicrousd.toNat) := by
      rw [← hband, selectReleaseBandBps_eq]
    exact ⟨AuthorizedEffectV1.ext hpolicy hallocation hrequester hdestination hasset hamount hcap,
      rfl⟩

/-- A replayed denial names the first check of the evaluator that fails. -/
theorem Clean.replayed_reason (h : Clean pc blake3 e)
    (hbasis : basisOf e.intent = some e.allocationBasisLovelace)
    {reason : DisbursementReasonCode} {gate : AuthorizationGate}
    (hauth : e.authorization = .denied reason gate)
    (hreason : reason.gate = .grant) (hfresh : reason ≠ .oracleStale) :
    firstFailing e.intent (evaluatorChecks basisOf) = some reason := by
  have hexpected : expectedFromSnapshot e.authorization = some (.deny reason) := by
    rw [hauth]
    exact (expectedFromSnapshot_denied _ _ _).mpr ⟨hreason, hfresh, rfl⟩
  have hreplay := h.replayed _ hexpected
  rw [evaluateDisbursement_eq hbasis] at hreplay
  cases hfirst : firstFailing e.intent (evaluatorChecks basisOf) with
  | none =>
    rw [hfirst] at hreplay
    cases hreplay
  | some first =>
    rw [hfirst] at hreplay
    cases hreplay
    rfl

end Replay

end OracleGuard
