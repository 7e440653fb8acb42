import OracleGuard.Boundary
import OracleGuard.Verifier.Soundness

/-!
The pipeline from an intent to the verifier: the closure decides, the boundary
executes, the record is assembled and encoded, and the verifier reads it back.

* `pipeline_verified`: whatever the pipeline records is decoded as it was
  recorded and verified without findings.
-/

namespace OracleGuard

/-- The receipt of a committed verdict of the closure. -/
def committedReceipt (i : DisbursementIntentV1) (id : Bytes32) (height : UInt64)
    (anchor : PolicyAnchorView) (registry : AllocationRegistryView) (now : UInt64) :
    IntentReceiptV1 where
  intentId := id
  status := .committed
  committedHeight := height
  output := authorizeDisbursement i anchor registry now

theorem evidence_round_trip {pc : Postcard} (hpc : pc.Documented) (e : DisbursementEvidenceV1) :
    ∃ b, encodeEvidence pc e = .ok b ∧ decodeBundle pc b = .ok e := by
  obtain ⟨b, hb, hd, -⟩ := (DisbursementEvidenceV1.codec_hasLayout hpc).selfDelimiting.framed
    EvidenceEncodeError.serializerFailure EvidenceDecodeError.malformed .trailingBytes e
  refine ⟨b, hb, ?_⟩
  have hdecode : decodeEvidence pc b = .ok e := hd
  rw [decodeBundle, hdecode]
  rfl

/-- **Completeness of the pipeline.** -/
theorem pipeline_verified {pc : Postcard} (hpc : pc.Documented) (blake3 : Blake3)
    (i : DisbursementIntentV1) (hversion : i.intentVersion = INTENT_VERSION_V1)
    (anchor : PolicyAnchorView) (registry : AllocationRegistryView) (now height : UInt64) :
    ∃ id, intentId pc blake3 i = .ok id ∧
      ∀ {World SubmitError : Type} (backend : SettlementBackend World SubmitError)
        (world world' : World) (outcome : FulfillmentOutcome) (basis : UInt64),
        (∀ facts, registry.lookup i.allocationId = some facts → basis = facts.basisLovelace) →
        (fulfill (committedReceipt i id height anchor registry now) backend).run world =
          (.ok outcome, world') →
        ∃ e b,
          assembleDisbursementEvidence pc blake3 i
              (committedReceipt i id height anchor registry now) outcome basis now = .ok e ∧
            encodeEvidence pc e = .ok b ∧ decodeBundle pc b = .ok e ∧
            (verifyEvidence pc blake3 e).findings = [] := by
  obtain ⟨id, hid⟩ := intentId_ok hpc blake3 i
  refine ⟨id, hid, ?_⟩
  intro World SubmitError backend world world' outcome basis hbasis hrun
  let e := recordOf i (committedReceipt i id height anchor registry now) outcome basis now
  obtain ⟨b, hencode, hdecode⟩ := evidence_round_trip hpc e
  have hproduced : ProducedByClosure e :=
    ⟨anchor, registry, rfl, fun facts hlookup => (hbasis facts hlookup).symm⟩
  have hrecordable : Recordable e.authorization e.execution :=
    (fulfills_recordable ((fulfill_eq_ok _ _ _ _ _).mp hrun)).mpr fun hpending =>
      nomatch hpending.1
  have hclean : Clean pc blake3 e :=
    { evidenceVersion := rfl
      intentVersion := hversion
      intentId := hid
      consistent := hproduced.consistent
      recordable := hrecordable
      replayed := hproduced.replayed }
  exact ⟨e, b, assembleDisbursementEvidence_ok hid outcome basis now, hencode, hdecode,
    (VerifierReport.isOk_iff _).mp ((verifyEvidence_isOk pc blake3 e).mpr hclean)⟩

def fixtureRegistry : AllocationRegistryView := constRegistry (factsOf fixtureIntent 2000000000)

/-- The fixture settles, and its record verifies. -/
theorem pipeline_verified_fixture :
    ∃ id e, intentId .reference policyDigest fixtureIntent = .ok id ∧
      assembleDisbursementEvidence .reference policyDigest fixtureIntent
          (committedReceipt fixtureIntent id 10042 openAnchor fixtureRegistry 1713000100000)
          (.settled ⟨Vector.replicate 32 0xAB⟩) 2000000000 1713000100000 = .ok e ∧
        (verifyEvidence .reference policyDigest e).findings = [] := by
  obtain ⟨id, hid, h⟩ := pipeline_verified Postcard.reference_documented policyDigest fixtureIntent
    rfl openAnchor fixtureRegistry 1713000100000 10042
  have hauthorized : authorizeDisbursement fixtureIntent openAnchor fixtureRegistry 1713000100000 =
      .authorized (authorizedEffect fixtureIntent) := by
    decide
  have hrun : (fulfill
      (committedReceipt fixtureIntent id 10042 openAnchor fixtureRegistry 1713000100000)
      countingBackend).run 0 = (.ok (.settled ⟨Vector.replicate 32 0xAB⟩), 1) :=
    fulfill_ada rfl hauthorized rfl countingBackend 0
  have hbasis : ∀ facts, fixtureRegistry.lookup fixtureIntent.allocationId = some facts →
      2000000000 = facts.basisLovelace :=
    fun facts hlookup => (constRegistry_basis rfl _ facts hlookup).symm
  obtain ⟨e, b, hassemble, -, -, hclean⟩ := h countingBackend 0 1 _ 2000000000 hbasis hrun
  exact ⟨id, e, hid, hassemble, hclean⟩

end OracleGuard
