import OracleGuard.Verifier.Law

/-!
What the verifier notices of a change to a clean record. Each field is changed
alone, and the changes that leave the record clean are named exactly.

* `tamper_exact`: a version, an id or a verdict cannot be changed, an intent only
  in its provenance, a basis only within the bounds of the verdict, an execution
  only within its class; the clock and the height can be anything.
-/

namespace OracleGuard

/-- The bases on which the evaluator would have said the same. -/
def BasisFits (e : DisbursementEvidenceV1) (basis : UInt64) : Prop :=
  match e.authorization with
  | .authorized _ =>
    WithinCap e.intent.requestedAmountLovelace basis e.intent.oracleFact.priceMicrousd
  | .denied .releaseCapExceeded _ =>
    ¬ WithinCap e.intent.requestedAmountLovelace basis e.intent.oracleFact.priceMicrousd
  | .denied _ _ => True

/-- The verifier on a record with one field changed. -/
structure TamperLaw (pc : Postcard) (blake3 : Blake3) (e : DisbursementEvidenceV1) : Prop where
  evidenceVersion : ∀ version,
    (verifyEvidence pc blake3 { e with evidenceVersion := version }).isOk = true ↔
      version = e.evidenceVersion
  intentId : ∀ id,
    (verifyEvidence pc blake3 { e with intentId := id }).isOk = true ↔ id = e.intentId
  intent : ∀ j, Set.InjOn (blake3 ORACLEGUARD_DISBURSEMENT_DOMAIN)
      {b | encodeIntentIdentity pc e.intent = .ok b ∨ encodeIntentIdentity pc j = .ok b} →
    ((verifyEvidence pc blake3 { e with intent := j }).isOk = true ↔ SameIdentity e.intent j)
  allocationBasis : ∀ basis,
    (verifyEvidence pc blake3 { e with allocationBasisLovelace := basis }).isOk = true ↔
      BasisFits e basis
  authorization : ∀ verdict,
    (verifyEvidence pc blake3 { e with authorization := verdict }).isOk = true ↔
      verdict = e.authorization
  execution : ∀ execution,
    (verifyEvidence pc blake3 { e with execution := execution }).isOk = true ↔
      Recordable e.authorization execution
  clock : ∀ now height,
    (verifyEvidence pc blake3 { e with nowUnixMs := now, committedHeight := height }).isOk = true

section Clean

variable {pc : Postcard} {blake3 : Blake3} {e : DisbursementEvidenceV1} (h : Clean pc blake3 e)
include h

/-- Another record of the same intent and verdict. -/
theorem Clean.replayed_basis_iff {e' : DisbursementEvidenceV1} (hintent : e'.intent = e.intent)
    (hverdict : e'.authorization = e.authorization) :
    Replayed e' ↔ BasisFits e e'.allocationBasisLovelace := by
  unfold BasisFits
  cases hauth : e.authorization with
  | authorized effect =>
    obtain ⟨hamount, hprice, -, heq, hbps⟩ :=
      (evaluateDisbursement_eq_allow _ _ _ _).mp (h.evaluates_allow hauth)
    rw [replayed_authorized (hverdict.trans hauth), evaluateDisbursement_eq_allow, hintent]
    exact ⟨fun hallow => hallow.2.2.1, fun hcap => ⟨hamount, hprice, hcap, heq, hbps⟩⟩
  | denied reason gate =>
    have hreasons := (refuses_iff e.intent e.allocationBasisLovelace reason).mp
      ((replayed_denied hauth).mp h.replayed)
    rw [replayed_denied (hverdict.trans hauth), refuses_iff, hintent]
    cases reason with
    | releaseCapExceeded =>
      obtain ⟨hamount, hprice, -⟩ := hreasons.2.2 rfl
      simp [hamount, hprice, WithinCap]
    | amountZero => simpa using hreasons.1
    | oraclePriceZero => simpa using hreasons.2.1
    | policyNotFound => simp
    | allocationNotFound => simp
    | oracleStale => simp
    | subjectNotAuthorized => simp
    | assetMismatch => simp

/-- A clean verdict is the only one for its intent, basis and execution. -/
theorem Clean.authorization_eq {verdict : AuthorizationSnapshotV1}
    (h' : Clean pc blake3 { e with authorization := verdict }) : verdict = e.authorization := by
  have hpair := h.recordable
  have hpair' : Recordable verdict e.execution := h'.recordable
  cases hauth : e.authorization with
  | authorized effect =>
    cases hverdict : verdict with
    | authorized effect' =>
      rw [h.effect_eq hauth, h'.effect_eq hverdict]
    | denied reason gate =>
      rw [hauth, recordable_authorized] at hpair
      rw [hverdict, recordable_denied] at hpair'
      rcases hpair with ⟨_, hexec⟩ | ⟨_, hexec⟩ <;> rw [hexec] at hpair' <;> cases hpair'
  | denied reason gate =>
    rw [hauth, recordable_denied] at hpair
    cases hverdict : verdict with
    | authorized effect =>
      rw [hverdict, recordable_authorized] at hpair'
      rcases hpair' with ⟨_, hexec⟩ | ⟨_, hexec⟩ <;> rw [hexec] at hpair <;> cases hpair
    | denied reason' gate' =>
      rw [hverdict, recordable_denied, hpair] at hpair'
      cases hpair'
      rfl

/-- The verdict and the replay do not read the provenance. -/
theorem Clean.of_sameIdentity {j : DisbursementIntentV1} (hij : SameIdentity e.intent j)
    (hid : OracleGuard.intentId pc blake3 e.intent = OracleGuard.intentId pc blake3 j) :
    Clean pc blake3 { e with intent := j } := by
  have hreplay := h.replayed
  have hconsistent := h.consistent
  refine
    { evidenceVersion := h.evidenceVersion
      intentVersion := hij.1 ▸ h.intentVersion
      intentId := hid ▸ h.intentId
      consistent := ?_
      recordable := h.recordable
      replayed := ?_ }
  · obtain ⟨-, hpolicy, hallocation, hrequester, -, hamount, hdestination, hasset⟩ := hij
    show VerdictConsistent j e.authorization
    unfold VerdictConsistent at hconsistent ⊢
    rwa [hpolicy, hallocation, hrequester, hamount, hdestination, hasset] at hconsistent
  · intro expected hexpected
    exact (evaluateDisbursement_congr hij _).symm.trans (hreplay expected hexpected)

end Clean

/-- **Tampering with a clean record**, field by field. -/
theorem tamper_exact {pc : Postcard} (hpc : pc.Documented) {blake3 : Blake3}
    {e : DisbursementEvidenceV1} (hclean : (verifyEvidence pc blake3 e).isOk = true) :
    TamperLaw pc blake3 e := by
  have h := (verifyEvidence_isOk pc blake3 e).mp hclean
  constructor
  · intro version
    rw [verifyEvidence_isOk]
    constructor
    · exact fun h' => h'.evidenceVersion.trans h.evidenceVersion.symm
    · rintro rfl
      exact h
  · intro id
    rw [verifyEvidence_isOk]
    constructor
    · exact fun h' => Except.ok.inj (h'.intentId.symm.trans h.intentId)
    · rintro rfl
      exact h
  · intro j hinj
    rw [verifyEvidence_isOk, ← intentId_eq_iff hpc hinj]
    constructor
    · exact fun h' => h.intentId.trans h'.intentId.symm
    · exact fun hid => h.of_sameIdentity ((intentId_eq_iff hpc hinj).mp hid) hid
  · intro basis
    have hreplay := @Clean.replayed_basis_iff _ _ _ h
      { e with allocationBasisLovelace := basis } rfl rfl
    rw [verifyEvidence_isOk, ← hreplay]
    constructor
    · exact fun h' => h'.replayed
    · exact fun hreplayed => { h with replayed := hreplayed }
  · intro verdict
    rw [verifyEvidence_isOk]
    constructor
    · exact fun h' => h.authorization_eq h'
    · rintro rfl
      exact h
  · intro execution
    rw [verifyEvidence_isOk]
    constructor
    · exact fun h' => h'.recordable
    · exact fun hpair => { h with recordable := hpair }
  · intro now height
    rw [verifyEvidence_isOk]
    exact { h with }

/-- The fixture is clean on half of the recorded basis, and not on less. -/
theorem tamper_exact_fixture :
    (verifyEvidence .reference policyDigest
        { fixtureEvidence with allocationBasisLovelace := 1000000000 }).isOk = true ↔
      BasisFits fixtureEvidence 1000000000 :=
  (tamper_exact Postcard.reference_documented fixtureEvidence_clean).allocationBasis 1000000000

end OracleGuard
