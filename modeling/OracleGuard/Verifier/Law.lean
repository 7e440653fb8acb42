import OracleGuard.Policy.NonInterference
import OracleGuard.Verifier.Replay

/-!
What a clean report says about the record alone, and about two records of one
intent.

* `clean_report_exact`: a record is reported clean exactly when its versions and
  its id are right and its verdict and execution fit the intent and the basis.
* `clean_records_agree`: clean records of one id have one identity, at most one
  authorized effect and, on one basis, one verdict of the evaluator.
-/

namespace OracleGuard

open VerifierReport

/-- An authorization that the recorded basis carries, settled or rejected at
fulfillment. -/
def AuthorizedSoundly (e : DisbursementEvidenceV1) : Prop :=
  ∃ effect, e.authorization = .authorized effect ∧
    effect.policyRef = e.intent.policyRef ∧
    effect.allocationId = e.intent.allocationId ∧
    effect.requesterId = e.intent.requesterId ∧
    effect.destination = e.intent.destination ∧
    effect.asset = e.intent.asset ∧
    effect.authorizedAmountLovelace = e.intent.requestedAmountLovelace ∧
    0 < e.intent.requestedAmountLovelace ∧
    0 < e.intent.oracleFact.priceMicrousd ∧
    effect.releaseCapBasisPoints.toNat = releaseBand e.intent.oracleFact.priceMicrousd.toNat ∧
    e.intent.requestedAmountLovelace.toNat * 10000 ≤
      e.allocationBasisLovelace.toNat * releaseBand e.intent.oracleFact.priceMicrousd.toNat ∧
    ((∃ txHash, e.execution = .settled txHash) ∨
      ∃ kind, e.execution = .rejectedAtFulfillment kind)

/-- A denial executed as that denial. A reason of the evaluator is the right one
for the amount, the price and the basis. -/
def DeniedSoundly (e : DisbursementEvidenceV1) : Prop :=
  ∃ reason gate, e.authorization = .denied reason gate ∧ gate = reason.gate ∧
    e.execution = .deniedUpstream reason gate ∧
    (reason = .amountZero → e.intent.requestedAmountLovelace = 0) ∧
    (reason = .oraclePriceZero →
      0 < e.intent.requestedAmountLovelace ∧ e.intent.oracleFact.priceMicrousd = 0) ∧
    (reason = .releaseCapExceeded →
      0 < e.intent.requestedAmountLovelace ∧ 0 < e.intent.oracleFact.priceMicrousd ∧
        e.allocationBasisLovelace.toNat * releaseBand e.intent.oracleFact.priceMicrousd.toNat <
          e.intent.requestedAmountLovelace.toNat * 10000)

/-! ## The verdicts that pass -/

theorem recordable_authorized (effect : AuthorizedEffectV1) (execution : ExecutionOutcomeV1) :
    Recordable (.authorized effect) execution ↔
      (∃ txHash, execution = .settled txHash) ∨
        ∃ kind, execution = .rejectedAtFulfillment kind := by
  cases execution <;> simp [Recordable]

theorem recordable_denied (reason : DisbursementReasonCode) (gate : AuthorizationGate)
    (execution : ExecutionOutcomeV1) :
    Recordable (.denied reason gate) execution ↔ execution = .deniedUpstream reason gate := by
  cases execution <;> simp [Recordable, eq_comm]

theorem replayed_authorized {e : DisbursementEvidenceV1} {effect : AuthorizedEffectV1}
    (hauth : e.authorization = .authorized effect) :
    Replayed e ↔ evaluateDisbursement e.intent e.allocationBasisLovelace =
      .allow effect.authorizedAmountLovelace effect.releaseCapBasisPoints := by
  simp only [Replayed, hauth, expectedFromSnapshot, Option.some.injEq, forall_eq']

/-- The replay holds a denial to its reason where the evaluator gives that
reason. -/
theorem replayed_denied {e : DisbursementEvidenceV1} {reason : DisbursementReasonCode}
    {gate : AuthorizationGate} (hauth : e.authorization = .denied reason gate) :
    Replayed e ↔ (reason.gate = .grant → reason ≠ .oracleStale →
      Refuses e.intent e.allocationBasisLovelace reason) := by
  simp only [Replayed, hauth, expectedFromSnapshot_denied, ← evaluateDisbursement_eq_deny]
  constructor
  · exact fun h hgate hne => h _ ⟨hgate, hne, rfl⟩
  · rintro h _ ⟨hgate, hne, rfl⟩
    exact h hgate hne

theorem refuses_iff (i : DisbursementIntentV1) (basis : UInt64)
    (reason : DisbursementReasonCode) :
    (reason.gate = .grant → reason ≠ .oracleStale → Refuses i basis reason) ↔
      (reason = .amountZero → i.requestedAmountLovelace = 0) ∧
        (reason = .oraclePriceZero →
          0 < i.requestedAmountLovelace ∧ i.oracleFact.priceMicrousd = 0) ∧
        (reason = .releaseCapExceeded →
          0 < i.requestedAmountLovelace ∧ 0 < i.oracleFact.priceMicrousd ∧
            basis.toNat * releaseBand i.oracleFact.priceMicrousd.toNat <
              i.requestedAmountLovelace.toNat * 10000) := by
  cases reason <;> simp [DisbursementReasonCode.gate, Refuses, WithinCap]

theorem clean_authorized_iff {e : DisbursementEvidenceV1} {effect : AuthorizedEffectV1}
    (hauth : e.authorization = .authorized effect) :
    VerdictConsistent e.intent e.authorization ∧ Recordable e.authorization e.execution ∧
      Replayed e ↔ AuthorizedSoundly e := by
  rw [replayed_authorized hauth, evaluateDisbursement_eq_allow, hauth, recordable_authorized]
  unfold AuthorizedSoundly VerdictConsistent WithinCap
  constructor
  · rintro ⟨⟨hp, hal, hr, hd, has, ham⟩, hexec, hamount, hprice, hcap, -, hband⟩
    exact ⟨effect, hauth, hp, hal, hr, hd, has, ham, hamount, hprice, hband, hcap, hexec⟩
  · rintro ⟨effect', hauth', hp, hal, hr, hd, has, ham, hamount, hprice, hband, hcap, hexec⟩
    rw [hauth] at hauth'
    cases hauth'
    exact ⟨⟨hp, hal, hr, hd, has, ham⟩, hexec, hamount, hprice, hcap, ham, hband⟩

theorem clean_denied_iff {e : DisbursementEvidenceV1} {reason : DisbursementReasonCode}
    {gate : AuthorizationGate} (hauth : e.authorization = .denied reason gate) :
    VerdictConsistent e.intent e.authorization ∧ Recordable e.authorization e.execution ∧
      Replayed e ↔ DeniedSoundly e := by
  rw [replayed_denied hauth, refuses_iff, hauth, recordable_denied]
  unfold DeniedSoundly VerdictConsistent
  constructor
  · rintro ⟨hgate, hexec, hreasons⟩
    exact ⟨reason, gate, hauth, hgate, hexec, hreasons⟩
  · rintro ⟨reason', gate', hauth', hgate, hexec, hreasons⟩
    rw [hauth] at hauth'
    cases hauth'
    exact ⟨hgate, hexec, hreasons⟩

theorem not_deniedSoundly {e : DisbursementEvidenceV1} {effect : AuthorizedEffectV1}
    (hauth : e.authorization = .authorized effect) : ¬ DeniedSoundly e := by
  rintro ⟨reason, gate, hauth', -⟩
  rw [hauth] at hauth'
  cases hauth'

theorem not_authorizedSoundly {e : DisbursementEvidenceV1} {reason : DisbursementReasonCode}
    {gate : AuthorizationGate} (hauth : e.authorization = .denied reason gate) :
    ¬ AuthorizedSoundly e := by
  rintro ⟨effect, hauth', -⟩
  rw [hauth] at hauth'
  cases hauth'

theorem soundVerdict_iff (e : DisbursementEvidenceV1) :
    VerdictConsistent e.intent e.authorization ∧ Recordable e.authorization e.execution ∧
      Replayed e ↔ AuthorizedSoundly e ∨ DeniedSoundly e := by
  cases hauth : e.authorization with
  | authorized effect =>
    rw [← hauth, clean_authorized_iff hauth, or_iff_left (not_deniedSoundly hauth)]
  | denied reason gate =>
    rw [← hauth, clean_denied_iff hauth, or_iff_right (not_authorizedSoundly hauth)]

/-- **What a clean report means, exactly.** -/
theorem clean_report_exact (pc : Postcard) (blake3 : Blake3) (e : DisbursementEvidenceV1) :
    (verifyEvidence pc blake3 e).findings = [] ↔
      e.evidenceVersion = 1 ∧ e.intent.intentVersion = 1 ∧
        intentId pc blake3 e.intent = .ok e.intentId ∧
        (AuthorizedSoundly e ∨ DeniedSoundly e) := by
  rw [← isOk_iff, verifyEvidence_isOk, ← soundVerdict_iff]
  constructor
  · intro h
    exact ⟨h.evidenceVersion, h.intentVersion, h.intentId, h.consistent, h.recordable, h.replayed⟩
  · rintro ⟨hev, hiv, hid, hverdict, hpair, hreplay⟩
    exact ⟨hev, hiv, hid, hverdict, hpair, hreplay⟩

/-! ## Two records of one intent -/

/-- The reasons that the evaluator gives, which are replayed. -/
def EvaluatorReason (reason : DisbursementReasonCode) : Prop :=
  reason = .amountZero ∨ reason = .oraclePriceZero ∨ reason = .releaseCapExceeded

theorem EvaluatorReason.replayed {reason : DisbursementReasonCode} (h : EvaluatorReason reason) :
    reason.gate = .grant ∧ reason ≠ .oracleStale := by
  rcases h with rfl | rfl | rfl <;> exact ⟨rfl, nofun⟩

theorem evaluateDisbursement_congr {i j : DisbursementIntentV1} (hij : SameIdentity i j)
    (basis : UInt64) : evaluateDisbursement i basis = evaluateDisbursement j basis := by
  obtain ⟨-, -, -, -, hfact, hamount, -⟩ := hij
  simp only [evaluateDisbursement, hfact, hamount]

section Records

variable {pc : Postcard} {blake3 : Blake3} {e e₁ e₂ : DisbursementEvidenceV1}

theorem Clean.evaluates_allow (h : Clean pc blake3 e) {effect : AuthorizedEffectV1}
    (hauth : e.authorization = .authorized effect) :
    evaluateDisbursement e.intent e.allocationBasisLovelace =
      .allow effect.authorizedAmountLovelace effect.releaseCapBasisPoints :=
  (replayed_authorized hauth).mp h.replayed

theorem Clean.evaluates_deny (h : Clean pc blake3 e) {reason : DisbursementReasonCode}
    {gate : AuthorizationGate} (hauth : e.authorization = .denied reason gate)
    (hreason : EvaluatorReason reason) :
    evaluateDisbursement e.intent e.allocationBasisLovelace = .deny reason := by
  obtain ⟨hgate, hne⟩ := hreason.replayed
  exact (evaluateDisbursement_eq_deny _ _ _).mpr ((replayed_denied hauth).mp h.replayed hgate hne)

theorem Clean.effect_eq (h : Clean pc blake3 e) {effect : AuthorizedEffectV1}
    (hauth : e.authorization = .authorized effect) : effect = authorizedEffect e.intent :=
  (h.authorized (basisIn_open e.intent e.allocationBasisLovelace) hauth).1

/-- The ids of two clean records are hashes of their identity bytes. -/
theorem Clean.sameIdentity (hpc : pc.Documented) (h₁ : Clean pc blake3 e₁)
    (h₂ : Clean pc blake3 e₂)
    (hinj : Set.InjOn (blake3 ORACLEGUARD_DISBURSEMENT_DOMAIN)
      {b | encodeIntentIdentity pc e₁.intent = .ok b ∨ encodeIntentIdentity pc e₂.intent = .ok b})
    (hid : e₁.intentId = e₂.intentId) : SameIdentity e₁.intent e₂.intent := by
  apply (intentId_eq_iff hpc hinj).mp
  rw [h₁.intentId, h₂.intentId, hid]

/-- On one basis an authorization and a denial by the evaluator exclude each
other. -/
theorem Clean.not_conflicting (h₁ : Clean pc blake3 e₁) (h₂ : Clean pc blake3 e₂)
    (hij : SameIdentity e₁.intent e₂.intent)
    (hbasis : e₁.allocationBasisLovelace = e₂.allocationBasisLovelace)
    {effect : AuthorizedEffectV1} {reason : DisbursementReasonCode} {gate : AuthorizationGate}
    (hauth₁ : e₁.authorization = .authorized effect)
    (hauth₂ : e₂.authorization = .denied reason gate) : ¬ EvaluatorReason reason := by
  intro hreason
  have hallow := h₁.evaluates_allow hauth₁
  have hdeny := h₂.evaluates_deny hauth₂ hreason
  rw [evaluateDisbursement_congr hij, hbasis, hdeny] at hallow
  cases hallow

theorem Clean.same_denial (h₁ : Clean pc blake3 e₁) (h₂ : Clean pc blake3 e₂)
    (hij : SameIdentity e₁.intent e₂.intent)
    (hbasis : e₁.allocationBasisLovelace = e₂.allocationBasisLovelace)
    {r₁ r₂ : DisbursementReasonCode} {g₁ g₂ : AuthorizationGate}
    (hauth₁ : e₁.authorization = .denied r₁ g₁) (hauth₂ : e₂.authorization = .denied r₂ g₂)
    (hr₁ : EvaluatorReason r₁) (hr₂ : EvaluatorReason r₂) : r₁ = r₂ ∧ g₁ = g₂ := by
  have hdeny := h₁.evaluates_deny hauth₁ hr₁
  rw [evaluateDisbursement_congr hij, hbasis, h₂.evaluates_deny hauth₂ hr₂] at hdeny
  cases hdeny
  have hg₁ := h₁.consistent
  have hg₂ := h₂.consistent
  rw [hauth₁] at hg₁
  rw [hauth₂] at hg₂
  have hgate : g₁ = r₁.gate := hg₁
  have hgate' : g₂ = r₁.gate := hg₂
  exact ⟨rfl, hgate.trans hgate'.symm⟩

end Records

/-- **Clean records of one intent cannot equivocate.** -/
theorem clean_records_agree {pc : Postcard} (hpc : pc.Documented) {blake3 : Blake3}
    {e₁ e₂ : DisbursementEvidenceV1} (hclean₁ : (verifyEvidence pc blake3 e₁).isOk = true)
    (hclean₂ : (verifyEvidence pc blake3 e₂).isOk = true)
    (hinj : Set.InjOn (blake3 ORACLEGUARD_DISBURSEMENT_DOMAIN)
      {b | encodeIntentIdentity pc e₁.intent = .ok b ∨ encodeIntentIdentity pc e₂.intent = .ok b})
    (hid : e₁.intentId = e₂.intentId) :
    SameIdentity e₁.intent e₂.intent ∧
      (∀ effect₁ effect₂, e₁.authorization = .authorized effect₁ →
        e₂.authorization = .authorized effect₂ → effect₁ = effect₂) ∧
      (e₁.allocationBasisLovelace = e₂.allocationBasisLovelace →
        (∀ effect reason gate, e₁.authorization = .authorized effect →
          e₂.authorization = .denied reason gate → ¬ EvaluatorReason reason) ∧
        (∀ effect reason gate, e₂.authorization = .authorized effect →
          e₁.authorization = .denied reason gate → ¬ EvaluatorReason reason) ∧
        (∀ r₁ g₁ r₂ g₂, e₁.authorization = .denied r₁ g₁ → e₂.authorization = .denied r₂ g₂ →
          EvaluatorReason r₁ → EvaluatorReason r₂ → r₁ = r₂ ∧ g₁ = g₂)) := by
  have h₁ := (verifyEvidence_isOk pc blake3 e₁).mp hclean₁
  have h₂ := (verifyEvidence_isOk pc blake3 e₂).mp hclean₂
  have hij := h₁.sameIdentity hpc h₂ hinj hid
  have hji : SameIdentity e₂.intent e₁.intent := hij.symm
  refine ⟨hij, fun effect₁ effect₂ hauth₁ hauth₂ => ?_, fun hbasis => ⟨?_, ?_, ?_⟩⟩
  · rw [h₁.effect_eq hauth₁, h₂.effect_eq hauth₂, authorizedEffect_congr hij]
  · exact fun _ _ _ hauth₁ hauth₂ => h₁.not_conflicting h₂ hij hbasis hauth₁ hauth₂
  · exact fun _ _ _ hauth₂ hauth₁ => h₂.not_conflicting h₁ hji hbasis.symm hauth₂ hauth₁
  · exact fun _ _ _ _ hauth₁ hauth₂ => h₁.same_denial h₂ hij hbasis hauth₁ hauth₂

/-- The fixture, recorded again later and with another provenance. -/
def laterEvidence : DisbursementEvidenceV1 :=
  { fixtureEvidence with
    intent := { fixtureIntent with
      oracleProvenance := ⟨1713000200000, 1713000500000, Vector.replicate 32 0x66⟩ }
    nowUnixMs := 1713000250000
    committedHeight := 10050 }

theorem clean_records_agree_fixture : SameIdentity fixtureIntent laterEvidence.intent := by
  have hinj : Set.InjOn (policyDigest ORACLEGUARD_DISBURSEMENT_DOMAIN)
      {b | encodeIntentIdentity .reference fixtureEvidence.intent = .ok b ∨
        encodeIntentIdentity .reference laterEvidence.intent = .ok b} := by
    -- Both intents have the same identity bytes, so the set is a singleton.
    have hbytes : ∀ b, encodeIntentIdentity .reference fixtureIntent = .ok b ∨
        encodeIntentIdentity .reference laterEvidence.intent = .ok b →
        encodeIntentIdentity .reference fixtureIntent = .ok b := fun b hb => hb.elim id id
    intro b hb c hc _
    have hbc := hbytes c hc
    rw [hbytes b hb] at hbc
    exact Except.ok.inj hbc
  have hclean : (verifyEvidence .reference policyDigest laterEvidence).isOk = true := by decide
  exact (clean_records_agree Postcard.reference_documented fixtureEvidence_clean hclean hinj rfl).1

end OracleGuard
