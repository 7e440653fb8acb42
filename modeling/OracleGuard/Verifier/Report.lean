import OracleGuard.Policy.Evaluate
import OracleGuard.Schemas.Evidence

/-!
Verifier reports: a list of findings that the checks append to.
-/

namespace OracleGuard

inductive AuthorizedEffectField where
  | policyRef
  | allocationId
  | requesterId
  | destination
  | asset
  | authorizedAmountLovelace
  deriving DecidableEq, Repr

inductive AuthorizationExecutionInconsistency where
  | authorizedButDeniedExecution
  | deniedButSettledExecution
  | deniedButFulfillmentRejection
  | deniedReasonMismatch
  | deniedGateMismatch
  deriving DecidableEq, Repr

inductive VerifierFinding where
  | evidenceVersionUnsupported (found expected : UInt16)
  | intentVersionUnsupported (found expected : UInt16)
  | intentIdMismatch (fromIntent fromRecord : Bytes32)
  | intentIdRecomputeFailed
  | authorizedEffectMismatch (field : AuthorizedEffectField)
  | gateInvariantBroken (reason : DisbursementReasonCode)
      (recordedGate expectedGate : AuthorizationGate)
  | authorizationExecutionInconsistent (kind : AuthorizationExecutionInconsistency)
  | replayDiverged (expected actual : EvaluationResult)
  deriving DecidableEq, Repr

structure VerifierReport where
  findings : List VerifierFinding
  deriving DecidableEq, Repr

namespace VerifierReport

def new : VerifierReport := ⟨[]⟩

def isOk (report : VerifierReport) : Bool := report.findings.isEmpty

def push (report : VerifierReport) (finding : VerifierFinding) : VerifierReport :=
  ⟨report.findings ++ [finding]⟩

/-- The step `if broken { report.push(finding) }`. -/
def pushIf (report : VerifierReport) (broken : Prop) [Decidable broken]
    (finding : VerifierFinding) : VerifierReport :=
  if broken then report.push finding else report

@[simp] theorem new_isOk : new.isOk = true := rfl

theorem isOk_iff (report : VerifierReport) : report.isOk = true ↔ report.findings = [] :=
  List.isEmpty_iff

@[simp] theorem push_isOk (report : VerifierReport) (finding : VerifierFinding) :
    (report.push finding).isOk = false := by
  simp [isOk, push]

@[simp] theorem pushIf_isOk (report : VerifierReport) (broken : Prop) [Decidable broken]
    (finding : VerifierFinding) :
    (report.pushIf broken finding).isOk = true ↔ report.isOk = true ∧ ¬ broken := by
  unfold pushIf
  split <;> simp_all

@[simp] theorem push_ne_self (report : VerifierReport) (finding : VerifierFinding) :
    report.push finding ≠ report := by
  obtain ⟨findings⟩ := report
  simp [push]

/-- No finding is taken back: two steps leave the report as it was only if
neither pushes. -/
theorem pushIf_pushIf_eq_self (report : VerifierReport) (broken broken' : Prop)
    [Decidable broken] [Decidable broken'] (finding finding' : VerifierFinding) :
    (report.pushIf broken finding).pushIf broken' finding' = report ↔
      ¬ broken ∧ ¬ broken' := by
  obtain ⟨findings⟩ := report
  by_cases h : broken <;> by_cases h' : broken' <;> simp [pushIf, push, h, h']

end VerifierReport

end OracleGuard
