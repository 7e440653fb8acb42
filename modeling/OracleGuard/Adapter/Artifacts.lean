import OracleGuard.Adapter.Settlement

/-!
Assembling an evidence record from an intent, its receipt and the outcome of
fulfillment.
-/

namespace OracleGuard

def FulfillmentRejection.toKind : FulfillmentRejection → FulfillmentRejectionKindV1
  | nonAdaAsset => .nonAdaAsset
  | receiptNotCommitted => .receiptNotCommitted

def FulfillmentOutcome.toExecution : FulfillmentOutcome → ExecutionOutcomeV1
  | settled txHash => .settled txHash.bytes
  | deniedUpstream reason gate => .deniedUpstream reason gate
  | rejectedAtFulfillment kind => .rejectedAtFulfillment kind.toKind

inductive AssembleError where
  | intentIdFailure
  | intentIdMismatch (fromIntent fromReceipt : Bytes32)
  deriving DecidableEq, Repr

def assembleDisbursementEvidence (pc : Postcard) (blake3 : Blake3) (intent : DisbursementIntentV1)
    (receipt : IntentReceiptV1) (outcome : FulfillmentOutcome)
    (allocationBasisLovelace nowUnixMs : UInt64) : Except AssembleError DisbursementEvidenceV1 :=
  match intentId pc blake3 intent with
  | .error _ => .error .intentIdFailure
  | .ok derivedIntentId =>
    if derivedIntentId ≠ receipt.intentId then
      .error (.intentIdMismatch derivedIntentId receipt.intentId)
    else
      .ok
        { evidenceVersion := EVIDENCE_VERSION_V1
          intent
          intentId := derivedIntentId
          allocationBasisLovelace
          nowUnixMs
          committedHeight := receipt.committedHeight
          authorization := receipt.output.toSnapshot
          execution := outcome.toExecution }

/-- The record that carries its inputs verbatim. -/
def recordOf (intent : DisbursementIntentV1) (receipt : IntentReceiptV1)
    (outcome : FulfillmentOutcome) (basis now : UInt64) : DisbursementEvidenceV1 where
  evidenceVersion := EVIDENCE_VERSION_V1
  intent := intent
  intentId := receipt.intentId
  allocationBasisLovelace := basis
  nowUnixMs := now
  committedHeight := receipt.committedHeight
  authorization := receipt.output.toSnapshot
  execution := outcome.toExecution

theorem assembleDisbursementEvidence_ok {pc : Postcard} {blake3 : Blake3}
    {intent : DisbursementIntentV1} {receipt : IntentReceiptV1}
    (hid : intentId pc blake3 intent = .ok receipt.intentId) (outcome : FulfillmentOutcome)
    (basis now : UInt64) :
    assembleDisbursementEvidence pc blake3 intent receipt outcome basis now =
      .ok (recordOf intent receipt outcome basis now) := by
  simp [assembleDisbursementEvidence, recordOf, hid]

end OracleGuard
