import OracleGuard.Schemas.Encoding

/-!
Evidence records: one disbursement outcome with its intent, the inputs of the
evaluator and the freshness check, the authorization verdict and the execution
outcome.
-/

namespace OracleGuard

open Wire

def EVIDENCE_VERSION_V1 : UInt16 := 1

inductive FulfillmentRejectionKindV1 where
  | nonAdaAsset
  | receiptNotCommitted
  deriving DecidableEq, Repr

inductive AuthorizationSnapshotV1 where
  | authorized (effect : AuthorizedEffectV1)
  | denied (reason : DisbursementReasonCode) (gate : AuthorizationGate)
  deriving DecidableEq, Repr

inductive ExecutionOutcomeV1 where
  | settled (txHash : Bytes32)
  | deniedUpstream (reason : DisbursementReasonCode) (gate : AuthorizationGate)
  | rejectedAtFulfillment (kind : FulfillmentRejectionKindV1)
  deriving DecidableEq, Repr

structure DisbursementEvidenceV1 where
  evidenceVersion : UInt16
  intent : DisbursementIntentV1
  intentId : Bytes32
  allocationBasisLovelace : UInt64
  nowUnixMs : UInt64
  committedHeight : UInt64
  authorization : AuthorizationSnapshotV1
  execution : ExecutionOutcomeV1
  deriving DecidableEq, Repr

/-! ## Enums

The discriminants of the `repr(u8)` enums are their variant indices. -/

namespace DisbursementReasonCode

def ofIndex : Fin 8 → DisbursementReasonCode
  | 0 => policyNotFound
  | 1 => allocationNotFound
  | 2 => oracleStale
  | 3 => oraclePriceZero
  | 4 => amountZero
  | 5 => releaseCapExceeded
  | 6 => subjectNotAuthorized
  | 7 => assetMismatch

def toIndex : DisbursementReasonCode → Fin 8
  | policyNotFound => 0
  | allocationNotFound => 1
  | oracleStale => 2
  | oraclePriceZero => 3
  | amountZero => 4
  | releaseCapExceeded => 5
  | subjectNotAuthorized => 6
  | assetMismatch => 7

theorem toIndex_ofIndex : ∀ i, toIndex (ofIndex i) = i := by decide

def codec (pc : Postcard) : Codec DisbursementReasonCode :=
  (pc.variantIndex.index 8).iso
    { toFun := ofIndex
      invFun := toIndex
      left_inv := toIndex_ofIndex
      right_inv := by intro r; cases r <;> rfl }

theorem codec_hasLayout {pc : Postcard} (hpc : pc.Documented) :
    (codec pc).HasLayout .number :=
  .iso (hpc.unitVariants_hasLayout (by decide)) _

end DisbursementReasonCode

namespace AuthorizationGate

def ofIndex : Fin 3 → AuthorizationGate
  | 0 => anchor
  | 1 => registry
  | 2 => grant

def toIndex : AuthorizationGate → Fin 3
  | anchor => 0
  | registry => 1
  | grant => 2

theorem toIndex_ofIndex : ∀ i, toIndex (ofIndex i) = i := by decide

def codec (pc : Postcard) : Codec AuthorizationGate :=
  (pc.variantIndex.index 3).iso
    { toFun := ofIndex
      invFun := toIndex
      left_inv := toIndex_ofIndex
      right_inv := by intro g; cases g <;> rfl }

theorem codec_hasLayout {pc : Postcard} (hpc : pc.Documented) :
    (codec pc).HasLayout .number :=
  .iso (hpc.unitVariants_hasLayout (by decide)) _

end AuthorizationGate

namespace FulfillmentRejectionKindV1

def ofIndex : Fin 2 → FulfillmentRejectionKindV1
  | 0 => nonAdaAsset
  | 1 => receiptNotCommitted

def toIndex : FulfillmentRejectionKindV1 → Fin 2
  | nonAdaAsset => 0
  | receiptNotCommitted => 1

theorem toIndex_ofIndex : ∀ i, toIndex (ofIndex i) = i := by decide

def codec (pc : Postcard) : Codec FulfillmentRejectionKindV1 :=
  (pc.variantIndex.index 2).iso
    { toFun := ofIndex
      invFun := toIndex
      left_inv := toIndex_ofIndex
      right_inv := by intro k; cases k <;> rfl }

theorem codec_hasLayout {pc : Postcard} (hpc : pc.Documented) :
    (codec pc).HasLayout .number :=
  .iso (hpc.unitVariants_hasLayout (by decide)) _

end FulfillmentRejectionKindV1

/-! ## Verdicts, outcomes and records -/

/-- A reason and its gate, the fields of every denial variant. -/
def denialCodec (pc : Postcard) : Codec (DisbursementReasonCode × AuthorizationGate) :=
  (DisbursementReasonCode.codec pc).pair (AuthorizationGate.codec pc)

def denialLayout : Layout := .seq .number .number

theorem denialCodec_hasLayout {pc : Postcard} (hpc : pc.Documented) :
    (denialCodec pc).HasLayout denialLayout :=
  .pair (DisbursementReasonCode.codec_hasLayout hpc) (AuthorizationGate.codec_hasLayout hpc)

/-! The authorization snapshot mirrors the policy-side verdict, so both have
the same payloads: an effect, or a denial. -/

def VerdictPayload : Fin 2 → Type
  | 0 => AuthorizedEffectV1
  | 1 => DisbursementReasonCode × AuthorizationGate

def verdictPayloadCodec (pc : Postcard) : (i : Fin 2) → Codec (VerdictPayload i)
  | 0 => AuthorizedEffectV1.codec pc
  | 1 => denialCodec pc

def verdictLayout : Layout :=
  .tagged fun
    | 0 => AuthorizedEffectV1.layout
    | _ => denialLayout

def verdictCodec (pc : Postcard) :
    Codec (AuthorizedEffectV1 ⊕ DisbursementReasonCode × AuthorizationGate) :=
  ((pc.variantIndex.index 2).tagged (verdictPayloadCodec pc)).iso
    { toFun := fun
        | ⟨0, effect⟩ => .inl effect
        | ⟨1, denial⟩ => .inr denial
      invFun := fun
        | .inl effect => ⟨0, effect⟩
        | .inr denial => ⟨1, denial⟩
      left_inv := fun
        | ⟨0, _⟩ => rfl
        | ⟨1, _⟩ => rfl
      right_inv := fun
        | .inl _ => rfl
        | .inr _ => rfl }

theorem verdictCodec_hasLayout {pc : Postcard} (hpc : pc.Documented) :
    (verdictCodec pc).HasLayout verdictLayout := by
  have h : ((pc.variantIndex.index 2).tagged (verdictPayloadCodec pc)).HasLayout verdictLayout :=
    hpc.variants_hasLayout (by decide) fun
      | 0 => AuthorizedEffectV1.codec_hasLayout hpc
      | 1 => denialCodec_hasLayout hpc
  exact h.iso _

namespace AuthorizationSnapshotV1

def codec (pc : Postcard) : Codec AuthorizationSnapshotV1 :=
  (verdictCodec pc).iso
    { toFun := fun
        | .inl effect => authorized effect
        | .inr (reason, gate) => denied reason gate
      invFun := fun
        | authorized effect => .inl effect
        | denied reason gate => .inr (reason, gate)
      left_inv := fun
        | .inl _ => rfl
        | .inr _ => rfl
      right_inv := fun
        | authorized _ => rfl
        | denied _ _ => rfl }

theorem codec_hasLayout {pc : Postcard} (hpc : pc.Documented) :
    (codec pc).HasLayout verdictLayout :=
  .iso (verdictCodec_hasLayout hpc) _

end AuthorizationSnapshotV1

namespace ExecutionOutcomeV1

def Payload : Fin 3 → Type
  | 0 => Bytes32
  | 1 => DisbursementReasonCode × AuthorizationGate
  | 2 => FulfillmentRejectionKindV1

def payloadCodec (pc : Postcard) : (i : Fin 3) → Codec (Payload i)
  | 0 => pc.array 32
  | 1 => denialCodec pc
  | 2 => FulfillmentRejectionKindV1.codec pc

def codec (pc : Postcard) : Codec ExecutionOutcomeV1 :=
  ((pc.variantIndex.index 3).tagged (payloadCodec pc)).iso
    { toFun := fun
        | ⟨0, txHash⟩ => settled txHash
        | ⟨1, (reason, gate)⟩ => deniedUpstream reason gate
        | ⟨2, kind⟩ => rejectedAtFulfillment kind
      invFun := fun
        | settled txHash => ⟨0, txHash⟩
        | deniedUpstream reason gate => ⟨1, (reason, gate)⟩
        | rejectedAtFulfillment kind => ⟨2, kind⟩
      left_inv := fun
        | ⟨0, _⟩ => rfl
        | ⟨1, (_, _)⟩ => rfl
        | ⟨2, _⟩ => rfl
      right_inv := fun
        | settled _ => rfl
        | deniedUpstream _ _ => rfl
        | rejectedAtFulfillment _ => rfl }

def layout : Layout :=
  .tagged fun
    | 0 => .raw 32
    | 1 => denialLayout
    | _ => .number

theorem codec_hasLayout {pc : Postcard} (hpc : pc.Documented) : (codec pc).HasLayout layout := by
  have h : ((pc.variantIndex.index 3).tagged (payloadCodec pc)).HasLayout layout :=
    hpc.variants_hasLayout (by decide) fun
      | 0 => hpc.array_hasLayout 32
      | 1 => denialCodec_hasLayout hpc
      | 2 => FulfillmentRejectionKindV1.codec_hasLayout hpc
  exact h.iso _

end ExecutionOutcomeV1

namespace DisbursementEvidenceV1

def codec (pc : Postcard) : Codec DisbursementEvidenceV1 :=
  (pc.u16.pair ((DisbursementIntentV1.codec pc).pair ((pc.array 32).pair (pc.u64.pair
    (pc.u64.pair (pc.u64.pair ((AuthorizationSnapshotV1.codec pc).pair
      (ExecutionOutcomeV1.codec pc)))))))).iso
    { toFun := fun (version, intent, intentId, basis, now, height, authorization, execution) =>
        ⟨version, intent, intentId, basis, now, height, authorization, execution⟩
      invFun := fun e => (e.evidenceVersion, e.intent, e.intentId, e.allocationBasisLovelace,
        e.nowUnixMs, e.committedHeight, e.authorization, e.execution)
      left_inv := fun _ => rfl
      right_inv := fun _ => rfl }

def layout : Layout :=
  .seq .number (.seq DisbursementIntentV1.layout (.seq (.raw 32) (.seq .number
    (.seq .number (.seq .number (.seq verdictLayout ExecutionOutcomeV1.layout))))))

theorem codec_hasLayout {pc : Postcard} (hpc : pc.Documented) : (codec pc).HasLayout layout :=
  have h64 := hpc.u64_hasLayout
  .iso (.pair hpc.u16_hasLayout (.pair (DisbursementIntentV1.codec_hasLayout hpc)
    (.pair (hpc.array_hasLayout 32) (.pair h64 (.pair h64 (.pair h64
      (.pair (AuthorizationSnapshotV1.codec_hasLayout hpc)
        (ExecutionOutcomeV1.codec_hasLayout hpc)))))))) _

end DisbursementEvidenceV1

inductive EvidenceEncodeError where
  | serializerFailure
  deriving DecidableEq, Repr

inductive EvidenceDecodeError where
  | malformed
  | trailingBytes
  deriving DecidableEq, Repr

def encodeEvidence (pc : Postcard) (evidence : DisbursementEvidenceV1) :
    Except EvidenceEncodeError Bytes :=
  (DisbursementEvidenceV1.codec pc).toVec .serializerFailure evidence

def decodeEvidence (pc : Postcard) (bytes : Bytes) :
    Except EvidenceDecodeError DisbursementEvidenceV1 :=
  (DisbursementEvidenceV1.codec pc).fromBytes .malformed .trailingBytes bytes

end OracleGuard
