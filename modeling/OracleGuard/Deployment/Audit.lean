import OracleGuard.Deployment.Step

/-!
What the bundles of a run say about its payments.

* `audit_trail`: no bundle claims a settlement that did not happen; where the
  receipts are those of their intents, the bundles claim every settlement, in
  order.
* `bundles_verified_iff`: which of the bundles the verifier finds clean.
-/

namespace OracleGuard

open Wire

/-! ## Settlements, made and claimed -/

/-- The settlement that a submission led to. -/
def Submission.settlement {SubmitError : Type} (submission : Submission SubmitError) :
    Option (SettlementRequest × CardanoTxHashV1) :=
  match submission.response with
  | .ok txHash => some (submission.request, txHash)
  | .error _ => none

/-- The settlement that a record claims. -/
def DisbursementEvidenceV1.settlement (e : DisbursementEvidenceV1) :
    Option (SettlementRequest × CardanoTxHashV1) :=
  match e.authorization, e.execution with
  | .authorized effect, .settled txHash =>
    some (settlementRequestFromEffect effect e.intentId, ⟨txHash⟩)
  | _, _ => none

/-- The settlement that a bundle claims, to whoever decodes it. -/
def claimedSettlement (pc : Postcard) (b : Bytes) : Option (SettlementRequest × CardanoTxHashV1) :=
  match decodeBundle pc b with
  | .ok e => e.settlement
  | .error _ => none

theorem decodeBundle_encode {pc : Postcard} (hpc : pc.Documented) {e : DisbursementEvidenceV1}
    {b : Bytes} (hencode : encodeEvidence pc e = .ok b) : decodeBundle pc b = .ok e := by
  obtain ⟨b', hb', hdecode⟩ := evidence_round_trip hpc e
  obtain rfl : b' = b := Except.ok.inj (hb'.symm.trans hencode)
  exact hdecode

section Receipt

variable {SubmitError : Type} {receipt : IntentReceiptV1} {intent : DisbursementIntentV1}
  {basis now : UInt64}

theorem settlement_of_not_settled {outcome : FulfillmentOutcome}
    (hnot : ∀ txHash, outcome ≠ .settled txHash) :
    (recordOf intent receipt outcome basis now).settlement = none := by
  unfold DisbursementEvidenceV1.settlement recordOf
  cases outcome with
  | settled txHash => exact absurd rfl (hnot txHash)
  | deniedUpstream reason gate => cases receipt.output <;> rfl
  | rejectedAtFulfillment kind => cases receipt.output <;> rfl

theorem settlement_of_owed {request : SettlementRequest}
    (howed : requestOwed receipt = some request) (txHash : CardanoTxHashV1) :
    (recordOf intent receipt (.settled txHash) basis now).settlement = some (request, txHash) := by
  unfold DisbursementEvidenceV1.settlement recordOf
  cases hstatus : receipt.status with
  | pending => simp [requestOwed, hstatus] at howed
  | committed =>
    cases houtput : receipt.output with
    | denied reason gate => simp [requestOwed, hstatus, houtput] at howed
    | authorized effect =>
      simp only [requestOwed, hstatus, houtput, Option.ite_none_right_eq_some,
        Option.some.injEq] at howed
      rw [← howed.2]
      rfl

theorem exists_bundle {pc : Postcard} (hpc : pc.Documented) {blake3 : Blake3}
    (hid : intentId pc blake3 intent = .ok receipt.intentId) (outcome : FulfillmentOutcome) :
    ∃ b, bundleOf pc blake3 intent receipt outcome basis now = some b := by
  obtain ⟨b, hencode, -⟩ := evidence_round_trip hpc (recordOf intent receipt outcome basis now)
  exact ⟨b, bundleOf_eq_some.mpr ⟨hid, hencode⟩⟩

/-- **One receipt**: its bundle claims what its calls settled, unless there is no
bundle because the receipt is that of another intent. -/
theorem claims_receipt {pc : Postcard} (hpc : pc.Documented) (blake3 : Blake3)
    (answer : Except SubmitError CardanoTxHashV1) :
    let bundle := (outcomeOf receipt answer).toOption.bind fun outcome =>
      bundleOf pc blake3 intent receipt outcome basis now
    bundle.toList.filterMap (claimedSettlement pc) =
        (callsOf receipt answer).filterMap Submission.settlement ∨
      bundle = none ∧ intentId pc blake3 intent ≠ .ok receipt.intentId := by
  have hclaims : ∀ {outcome b}, bundleOf pc blake3 intent receipt outcome basis now = some b →
      claimedSettlement pc b = (recordOf intent receipt outcome basis now).settlement := by
    intro outcome b hb
    rw [claimedSettlement, decodeBundle_encode hpc (bundleOf_eq_some.mp hb).2]
  intro bundle
  cases howed : requestOwed receipt with
  | none =>
    obtain ⟨outcome, hnot, hrun⟩ := @fulfill_of_none SubmitError receipt howed
    have hbundle : bundle = bundleOf pc blake3 intent receipt outcome basis now := by
      simp [bundle, outcomeOf, hrun, Except.toOption]
    refine .inl ?_
    rw [callsOf, howed]
    cases hb : bundle with
    | none => rfl
    | some b => simp [hclaims (hbundle ▸ hb), settlement_of_not_settled hnot]
  | some request =>
    have houtcome : outcomeOf receipt answer = answer.map .settled := by
      rw [outcomeOf, fulfill_of_some howed]
      rfl
    cases answer with
    | error err =>
      have hbundle : bundle = none := by
        simp [bundle, houtcome, Except.map, Except.toOption]
      refine .inl ?_
      rw [hbundle, callsOf, howed]
      rfl
    | ok txHash =>
      have hbundle : bundle =
          bundleOf pc blake3 intent receipt (.settled txHash) basis now := by
        simp [bundle, houtcome, Except.map, Except.toOption]
      cases hb : bundle with
      | none =>
        refine .inr ⟨rfl, fun hid => ?_⟩
        obtain ⟨b, hsome⟩ := exists_bundle hpc hid (.settled txHash)
        rw [← hbundle, hb] at hsome
        cases hsome
      | some b =>
        refine .inl ?_
        rw [callsOf, howed]
        simp [hclaims (hbundle ▸ hb), settlement_of_owed howed, Submission.settlement]

/-- **One record**: it is clean unless its intent has another version, or its receipt
was a denial still pending. -/
theorem verified_receipt {pc : Postcard} {blake3 : Blake3} {anchor : PolicyAnchorView}
    {registry : AllocationRegistryView}
    (houtput : receipt.output = authorizeDisbursement intent anchor registry now)
    (hbasis : ∀ facts, registry.lookup intent.allocationId = some facts →
      facts.basisLovelace = basis)
    (hid : intentId pc blake3 intent = .ok receipt.intentId)
    {World : Type} {backend : SettlementBackend World SubmitError} {world world' : World}
    {outcome : FulfillmentOutcome} (houtcome : Fulfills receipt backend world outcome world') :
    (verifyEvidence pc blake3 (recordOf intent receipt outcome basis now)).findings = [] ↔
      intent.intentVersion = 1 ∧
        ¬ (receipt.status = .pending ∧ ∃ reason gate, receipt.output = .denied reason gate) := by
  have hproduced : ProducedByClosure (recordOf intent receipt outcome basis now) :=
    ⟨anchor, registry, by rw [recordOf, houtput], hbasis⟩
  rw [← VerifierReport.isOk_iff, verifyEvidence_isOk, ← fulfills_recordable houtcome]
  constructor
  · exact fun hclean => ⟨hclean.intentVersion, hclean.recordable⟩
  · rintro ⟨hversion, hrecordable⟩
    exact
      { evidenceVersion := rfl
        intentVersion := hversion
        intentId := hid
        consistent := hproduced.consistent
        recordable := hrecordable
        replayed := hproduced.replayed }

end Receipt

theorem recordedBasis_of_lookup {handler : DisbursementHandler} {intent : DisbursementIntentV1}
    {facts : AllocationFacts} (hlookup : handler.registry.lookup intent.allocationId = some facts) :
    facts.basisLovelace = handler.recordedBasis intent := by
  rw [DisbursementHandler.recordedBasis, hlookup]

theorem AuthorizationResult.toSnapshot_eq_denied {output : AuthorizationResult}
    {reason : DisbursementReasonCode} {gate : AuthorizationGate} :
    output.toSnapshot = .denied reason gate ↔ output = .denied reason gate := by
  cases output <;> simp [toSnapshot]

namespace Deployment

variable {Node SubmitError : Type} [DecidableEq Node] {D : Deployment Node}

variable (D) in
/-- Every delivery carries the id of the intent that it is about. -/
def OwnReceipts (inputs : List (Event Node SubmitError)) : Prop :=
  ∀ delivery entry intent, Event.deliver delivery ∈ inputs →
    (inputs.filterMap commitOf)[delivery.index]? = some entry →
    decodeIntent D.pc entry.call = .ok intent →
    intentId D.pc D.blake3 intent = .ok delivery.intentId

omit [DecidableEq Node] in
theorem Delivers.claims (hpc : D.pc.Documented) {s : DeploymentState Node SubmitError}
    {delivery : Delivery Node SubmitError} {entry : Commit} {intent : DisbursementIntentV1}
    (h : D.Delivers s delivery entry intent) :
    (D.settle s delivery).2.toList.filterMap (claimedSettlement D.pc) =
        (D.settle s delivery).1.filterMap Submission.settlement ∨
      (D.settle s delivery).2 = none ∧
        intentId D.pc D.blake3 intent ≠ .ok delivery.intentId := by
  rw [h.settled]
  exact claims_receipt hpc D.blake3 delivery.answer

/-- One step of the audit: fewer claims than settlements, or as many. -/
theorem claims_step (hpc : D.pc.Documented) {inputs before after : List (Event Node SubmitError)}
    {event : Event Node SubmitError} (hinputs : inputs = before ++ event :: after) :
    let s := (D.machine SubmitError).run before
    ((D.bundlesAt s event).filterMap (claimedSettlement D.pc)).Sublist
        ((D.submissionsAt s event).filterMap Submission.settlement) ∧
      (D.OwnReceipts inputs → (D.bundlesAt s event).filterMap (claimedSettlement D.pc) =
        (D.submissionsAt s event).filterMap Submission.settlement) := by
  intro s
  cases event with
  | commit entry => exact ⟨.slnil, fun _ => rfl⟩
  | execute node => exact ⟨.slnil, fun _ => rfl⟩
  | deliver delivery =>
    simp only [bundlesAt, submissionsAt]
    rcases settle_cases hpc (D.results_run before) delivery with hsettle | ⟨entry, intent, h⟩
    · rw [hsettle]
      exact ⟨.slnil, fun _ => rfl⟩
    · rcases h.claims hpc with hclaims | ⟨hnone, hother⟩
      · rw [hclaims]
        exact ⟨List.Sublist.refl _, fun _ => rfl⟩
      · rw [hnone]
        refine ⟨List.nil_sublist _, fun hown => absurd ?_ hother⟩
        have hentry := h.committed
        rw [log_run] at hentry
        refine hown delivery entry intent (by simp [hinputs]) ?_ h.decoded
        rw [hinputs, List.filterMap_append]
        exact getElem?_of_prefix (List.prefix_append _ _) hentry

/-- **The audit trail.** -/
theorem audit_trail (hpc : D.pc.Documented) (inputs : List (Event Node SubmitError)) :
    let s := (D.machine SubmitError).run inputs
    (s.bundles.filterMap (claimedSettlement D.pc)).Sublist
        (s.submissions.filterMap Submission.settlement) ∧
      (D.OwnReceipts inputs → s.bundles.filterMap (claimedSettlement D.pc) =
        s.submissions.filterMap Submission.settlement) := by
  intro s
  simp only [s, submissions_run, bundles_run, Machine.filterMap_emitted]
  exact ⟨Machine.emitted_sublist fun before event after h => (claims_step hpc h).1,
    fun hown => Machine.emitted_congr fun before event after h => (claims_step hpc h).2 hown⟩

end Deployment

theorem fixtureIntent_id : intentId .reference policyDigest fixtureIntent =
    .ok (Vector.replicate 32 0x11) := by
  decide

/-- The commit of a fixture run is that of its call. -/
theorem fixtureRun_own {call : Bytes} (hcall : decodeIntent .reference call = .ok fixtureIntent) :
    fixtureDeployment.OwnReceipts (fixtureRun call) := by
  intro delivery entry intent hdeliver hcommit hdecode
  obtain rfl : delivery = fixtureDelivery := by simpa [fixtureRun] using hdeliver
  obtain rfl : fixtureCommit call = entry := Option.some.inj hcommit
  obtain rfl : fixtureIntent = intent := Except.ok.inj (hcall.symm.trans hdecode)
  exact fixtureIntent_id

theorem audit_trail_fixture :
    ∃ call, decodeIntent .reference call = .ok fixtureIntent ∧
      let s := (fixtureDeployment.machine Unit).run (fixtureRun call)
      s.bundles.filterMap (claimedSettlement .reference) =
        s.submissions.filterMap Submission.settlement := by
  obtain ⟨call, hcall⟩ := exists_fixtureCall
  have htrail := @Deployment.audit_trail _ Unit _ fixtureDeployment
    Postcard.reference_documented (fixtureRun call)
  exact ⟨call, hcall, htrail.2 (fixtureRun_own hcall)⟩

theorem fixtureRun_bundle {call : Bytes}
    (hcall : decodeIntent .reference call = .ok fixtureIntent) :
    ∃ b, b ∈ ((fixtureDeployment.machine Unit).run (fixtureRun call)).bundles := by
  let before : List (Event Unit Unit) := [.commit (fixtureCommit call), .execute ()]
  let receipt := fixtureDeployment.receiptOf fixtureDelivery (fixtureCommit call) fixtureIntent
  have houtput : receipt.output = .authorized (authorizedEffect fixtureIntent) :=
    fixtureSnapshot_authorizes
  have houtcome : outcomeOf receipt fixtureDelivery.answer =
      .ok (.settled ⟨Vector.replicate 32 0xAB⟩) := by
    rw [outcomeOf, fulfill_ada rfl houtput rfl]
    rfl
  obtain ⟨b, hb⟩ := @exists_bundle receipt fixtureIntent 2000000000 1713000100000 _
    Postcard.reference_documented policyDigest fixtureIntent_id
    (.settled ⟨Vector.replicate 32 0xAB⟩)
  have hdelivers := @Deployment.delivers_of_executed _ _ fixtureDeployment
    Postcard.reference_documented _ (fixtureDeployment.results_run before) fixtureDelivery
    (fixtureCommit call) fixtureIntent rfl Nat.one_pos hcall
  refine ⟨b, ?_⟩
  show b ∈ ((fixtureDeployment.machine Unit).run (before ++ [.deliver fixtureDelivery])).bundles
  rw [Machine.run_snoc]
  refine List.mem_append_right _ ?_
  rw [hdelivers.settled, Option.mem_toList, houtcome]
  exact hb

end OracleGuard
