import OracleGuard.Verifier.Replay

/-!
The whole report of the verifier, finding by finding.

* `Adds`: a step of the verifier appends some findings, in increasing rank, and
  takes none back.
* `verify_findings_exact`: the report names every rule that a record breaks, each
  once, in one fixed order, and nothing else.
-/

namespace OracleGuard

open VerifierReport

/-! ## The rules -/

def AuthorizedEffectField.rank : AuthorizedEffectField → Nat
  | policyRef => 4
  | allocationId => 5
  | requesterId => 6
  | destination => 7
  | asset => 8
  | authorizedAmountLovelace => 9

def AuthorizationExecutionInconsistency.rank : AuthorizationExecutionInconsistency → Nat
  | authorizedButDeniedExecution => 11
  | deniedButSettledExecution => 12
  | deniedButFulfillmentRejection => 13
  | deniedReasonMismatch => 14
  | deniedGateMismatch => 15

/-- The place of a finding in a report. -/
def VerifierFinding.rank : VerifierFinding → Nat
  | evidenceVersionUnsupported _ _ => 0
  | intentVersionUnsupported _ _ => 1
  | intentIdMismatch _ _ => 2
  | intentIdRecomputeFailed => 3
  | authorizedEffectMismatch field => field.rank
  | gateInvariantBroken _ _ _ => 10
  | authorizationExecutionInconsistent kind => kind.rank
  | replayDiverged _ _ => 16

/-- An effect that does not copy a field from its intent. -/
def AuthorizedEffectField.Differs (effect : AuthorizedEffectV1) (i : DisbursementIntentV1) :
    AuthorizedEffectField → Prop
  | policyRef => effect.policyRef ≠ i.policyRef
  | allocationId => effect.allocationId ≠ i.allocationId
  | requesterId => effect.requesterId ≠ i.requesterId
  | destination => effect.destination ≠ i.destination
  | asset => effect.asset ≠ i.asset
  | authorizedAmountLovelace => effect.authorizedAmountLovelace ≠ i.requestedAmountLovelace

/-- The pairs of a verdict and an execution that do not go together. -/
inductive Inconsistent : AuthorizationSnapshotV1 → ExecutionOutcomeV1 →
    AuthorizationExecutionInconsistency → Prop
  | authorizedDenied (effect reason gate) :
      Inconsistent (.authorized effect) (.deniedUpstream reason gate) .authorizedButDeniedExecution
  | deniedSettled (reason gate txHash) :
      Inconsistent (.denied reason gate) (.settled txHash) .deniedButSettledExecution
  | deniedRejected (reason gate kind) :
      Inconsistent (.denied reason gate) (.rejectedAtFulfillment kind)
        .deniedButFulfillmentRejection
  | reasons {reason reason'} (gate gate') (h : reason ≠ reason') :
      Inconsistent (.denied reason gate) (.deniedUpstream reason' gate') .deniedReasonMismatch
  | gates (reason reason') {gate gate'} (h : gate ≠ gate') :
      Inconsistent (.denied reason gate) (.deniedUpstream reason' gate') .deniedGateMismatch

/-- The rules that a record breaks, one constructor for each kind of finding. -/
inductive Broken (pc : Postcard) (blake3 : Blake3) (e : DisbursementEvidenceV1) :
    VerifierFinding → Prop
  | evidenceVersion (h : e.evidenceVersion ≠ EVIDENCE_VERSION_V1) :
      Broken pc blake3 e (.evidenceVersionUnsupported e.evidenceVersion EVIDENCE_VERSION_V1)
  | intentVersion (h : e.intent.intentVersion ≠ INTENT_VERSION_V1) :
      Broken pc blake3 e (.intentVersionUnsupported e.intent.intentVersion INTENT_VERSION_V1)
  | intentId {id} (hid : intentId pc blake3 e.intent = .ok id) (h : id ≠ e.intentId) :
      Broken pc blake3 e (.intentIdMismatch id e.intentId)
  | recompute {err} (hid : OracleGuard.intentId pc blake3 e.intent = .error err) :
      Broken pc blake3 e .intentIdRecomputeFailed
  | effect {effect} {field : AuthorizedEffectField} (hauth : e.authorization = .authorized effect)
      (h : field.Differs effect e.intent) : Broken pc blake3 e (.authorizedEffectMismatch field)
  | gate {reason gate} (hauth : e.authorization = .denied reason gate) (h : gate ≠ reason.gate) :
      Broken pc blake3 e (.gateInvariantBroken reason gate reason.gate)
  | pair {kind} (h : Inconsistent e.authorization e.execution kind) :
      Broken pc blake3 e (.authorizationExecutionInconsistent kind)
  | replay {expected} (hversion : e.intent.intentVersion = INTENT_VERSION_V1)
      (hexpected : expectedFromSnapshot e.authorization = some expected)
      (h : evaluateDisbursement e.intent e.allocationBasisLovelace ≠ expected) :
      Broken pc blake3 e
        (.replayDiverged expected (evaluateDisbursement e.intent e.allocationBasisLovelace))

/-! ## Steps of a report -/

/-- A step that appends, in increasing rank from `k` on and below `n`, the findings
that satisfy `P`. -/
structure Adds (P : VerifierFinding → Prop) (k n : Nat) (before after : VerifierReport) :
    Prop where
  le : k ≤ n
  appends : ∃ found, after.findings = before.findings ++ found ∧
    found.Pairwise (fun f g => f.rank < g.rank) ∧ (∀ f, f ∈ found ↔ P f) ∧
    ∀ f ∈ found, k ≤ f.rank ∧ f.rank < n

namespace Adds

variable {P Q : VerifierFinding → Prop} {k m n : Nat} {a b c : VerifierReport}

theorem none (report : VerifierReport) (h : k ≤ n) : Adds (fun _ => False) k n report report :=
  ⟨h, [], (List.append_nil _).symm, .nil, by simp, by simp⟩

theorem push (report : VerifierReport) {finding : VerifierFinding} (h : finding.rank = k) :
    Adds (fun f => f = finding) k (k + 1) report (report.push finding) :=
  ⟨Nat.le_succ k, [finding], rfl, List.pairwise_singleton _ _, by simp, by simp [h]⟩

theorem pushIf (report : VerifierReport) (broken : Prop) [Decidable broken]
    {finding : VerifierFinding} (h : finding.rank = k) :
    Adds (fun f => broken ∧ f = finding) k (k + 1) report (report.pushIf broken finding) := by
  unfold VerifierReport.pushIf
  split
  next hbroken => simpa [hbroken] using push report h
  next hbroken => simpa [hbroken] using none report (Nat.le_succ k)

/-- Two steps, where the second finds only what comes after. -/
theorem trans (hab : Adds P k m a b) (hbc : Adds Q m n b c) :
    Adds (fun f => P f ∨ Q f) k n a c := by
  obtain ⟨hkm, found, hb, hsorted, hP, hbound⟩ := hab
  obtain ⟨hmn, found', hc, hsorted', hQ, hbound'⟩ := hbc
  refine ⟨hkm.trans hmn, found ++ found', by rw [hc, hb, List.append_assoc], ?_, ?_, ?_⟩
  · refine List.pairwise_append.mpr ⟨hsorted, hsorted', fun f hf g hg => ?_⟩
    exact Nat.lt_of_lt_of_le (hbound f hf).2 (hbound' g hg).1
  · intro f
    rw [List.mem_append, hP, hQ]
  · intro f hf
    rcases List.mem_append.mp hf with hf | hf
    · exact ⟨(hbound f hf).1, Nat.lt_of_lt_of_le (hbound f hf).2 hmn⟩
    · exact ⟨hkm.trans (hbound' f hf).1, (hbound' f hf).2⟩

theorem widen (h : Adds P k n a b) {k' n' : Nat} (hk : k' ≤ k) (hn : n ≤ n') :
    Adds P k' n' a b := by
  obtain ⟨hkn, found, hb, hsorted, hP, hbound⟩ := h
  exact ⟨(hk.trans hkn).trans hn, found, hb, hsorted, hP,
    fun f hf => ⟨hk.trans (hbound f hf).1, Nat.lt_of_lt_of_le (hbound f hf).2 hn⟩⟩

theorem congr (h : Adds P k n a b) (hPQ : ∀ f, P f ↔ Q f) : Adds Q k n a b := by
  obtain ⟨hkn, found, hb, hsorted, hP, hbound⟩ := h
  exact ⟨hkn, found, hb, hsorted, fun f => (hP f).trans (hPQ f), hbound⟩

end Adds

/-! ## The checks -/

section Checks

variable (pc : Postcard) (blake3 : Blake3) (e : DisbursementEvidenceV1) (report : VerifierReport)

/-- The findings of the effect fields. -/
def EffectBroken (effect : AuthorizedEffectV1) (i : DisbursementIntentV1) (f : VerifierFinding) :
    Prop :=
  ∃ field : AuthorizedEffectField, field.Differs effect i ∧ f = .authorizedEffectMismatch field

theorem checkVersions_adds :
    Adds (fun f => (e.evidenceVersion ≠ EVIDENCE_VERSION_V1 ∧
          f = .evidenceVersionUnsupported e.evidenceVersion EVIDENCE_VERSION_V1) ∨
        (e.intent.intentVersion ≠ INTENT_VERSION_V1 ∧
          f = .intentVersionUnsupported e.intent.intentVersion INTENT_VERSION_V1)) 0 2
      report (checkVersions e report) :=
  (Adds.pushIf _ _ rfl).trans (Adds.pushIf _ _ rfl)

theorem checkIntentId_adds :
    Adds (fun f => (∃ id, intentId pc blake3 e.intent = .ok id ∧ id ≠ e.intentId ∧
          f = .intentIdMismatch id e.intentId) ∨
        ((∃ err, intentId pc blake3 e.intent = .error err) ∧ f = .intentIdRecomputeFailed)) 2 4
      report (checkIntentId pc blake3 e report) := by
  unfold checkIntentId
  cases hid : intentId pc blake3 e.intent with
  | ok id =>
    refine Adds.congr ((Adds.pushIf report (id ≠ e.intentId) rfl).widen (Nat.le_refl 2)
      (show 3 ≤ 4 by decide)) fun f => ?_
    simp
  | error err =>
    refine Adds.congr ((Adds.push report rfl).widen (show 2 ≤ 3 by decide) (Nat.le_refl 4))
      fun f => ?_
    constructor
    · exact fun h => .inr ⟨⟨err, rfl⟩, h⟩
    · rintro (⟨id, hok, -⟩ | ⟨-, h⟩)
      · cases hok
      · exact h

theorem checkAuthorizationConsistency_adds :
    Adds (fun f => (∃ effect, e.authorization = .authorized effect ∧
          EffectBroken effect e.intent f) ∨
        ∃ reason gate, e.authorization = .denied reason gate ∧ gate ≠ reason.gate ∧
          f = .gateInvariantBroken reason gate reason.gate) 4 11
      report (checkAuthorizationConsistency e report) := by
  unfold checkAuthorizationConsistency
  cases e.authorization with
  | authorized effect =>
    refine Adds.congr (((((((Adds.pushIf report _ rfl).trans (Adds.pushIf _ _ rfl)).trans
      (Adds.pushIf _ _ rfl)).trans (Adds.pushIf _ _ rfl)).trans (Adds.pushIf _ _ rfl)).trans
      (Adds.pushIf _ _ rfl)).widen (Nat.le_refl 4) (show 10 ≤ 11 by decide)) fun f => ?_
    constructor
    · rintro (((((⟨h, rfl⟩ | ⟨h, rfl⟩) | ⟨h, rfl⟩) | ⟨h, rfl⟩) | ⟨h, rfl⟩) | ⟨h, rfl⟩)
      · exact .inl ⟨effect, rfl, .policyRef, h, rfl⟩
      · exact .inl ⟨effect, rfl, .allocationId, h, rfl⟩
      · exact .inl ⟨effect, rfl, .requesterId, h, rfl⟩
      · exact .inl ⟨effect, rfl, .destination, h, rfl⟩
      · exact .inl ⟨effect, rfl, .asset, h, rfl⟩
      · exact .inl ⟨effect, rfl, .authorizedAmountLovelace, h, rfl⟩
    · rintro (⟨_, ⟨⟩, field, h, rfl⟩ | ⟨reason, gate, hauth, -⟩)
      · cases field with
        | policyRef => exact .inl (.inl (.inl (.inl (.inl ⟨h, rfl⟩))))
        | allocationId => exact .inl (.inl (.inl (.inl (.inr ⟨h, rfl⟩))))
        | requesterId => exact .inl (.inl (.inl (.inr ⟨h, rfl⟩)))
        | destination => exact .inl (.inl (.inr ⟨h, rfl⟩))
        | asset => exact .inl (.inr ⟨h, rfl⟩)
        | authorizedAmountLovelace => exact .inr ⟨h, rfl⟩
      · cases hauth
  | denied reason gate =>
    refine Adds.congr ((Adds.pushIf report (gate ≠ reason.gate) rfl).widen (show 4 ≤ 10 by decide)
      (Nat.le_refl 11)) fun f => ?_
    simp

theorem checkCrossVariantConsistency_adds :
    Adds (fun f => ∃ kind, Inconsistent e.authorization e.execution kind ∧
        f = .authorizationExecutionInconsistent kind) 11 16
      report (checkCrossVariantConsistency e report) := by
  unfold checkCrossVariantConsistency
  cases e.authorization with
  | authorized effect =>
    cases e.execution with
    | settled txHash =>
      refine (Adds.none report (by decide)).congr fun f => ⟨False.elim, ?_⟩
      rintro ⟨kind, ⟨⟩, -⟩
    | rejectedAtFulfillment kind =>
      refine (Adds.none report (by decide)).congr fun f => ⟨False.elim, ?_⟩
      rintro ⟨kind, ⟨⟩, -⟩
    | deniedUpstream reason gate =>
      refine ((Adds.push (k := 11) report rfl).widen (Nat.le_refl _) (by decide)).congr fun f => ?_
      exact ⟨fun h => ⟨_, .authorizedDenied effect reason gate, h⟩, by rintro ⟨_, ⟨⟩, h⟩; exact h⟩
  | denied reason gate =>
    cases e.execution with
    | settled txHash =>
      refine ((Adds.push (k := 12) report rfl).widen (by decide) (by decide)).congr fun f => ?_
      exact ⟨fun h => ⟨_, .deniedSettled reason gate txHash, h⟩, by rintro ⟨_, ⟨⟩, h⟩; exact h⟩
    | rejectedAtFulfillment kind =>
      refine ((Adds.push (k := 13) report rfl).widen (by decide) (by decide)).congr fun f => ?_
      exact ⟨fun h => ⟨_, .deniedRejected reason gate kind, h⟩, by rintro ⟨_, ⟨⟩, h⟩; exact h⟩
    | deniedUpstream reason' gate' =>
      refine (((Adds.pushIf (k := 14) report _ rfl).trans (Adds.pushIf (k := 15) _ _ rfl)).widen
        (by decide) (Nat.le_refl _)).congr fun f => ?_
      constructor
      · rintro (⟨h, rfl⟩ | ⟨h, rfl⟩)
        · exact ⟨_, .reasons gate gate' h, rfl⟩
        · exact ⟨_, .gates reason reason' h, rfl⟩
      · rintro ⟨kind, hpair, rfl⟩
        cases hpair with
        | reasons _ _ h => exact .inl ⟨h, rfl⟩
        | gates _ _ h => exact .inr ⟨h, rfl⟩

theorem checkReplayEquivalence_adds :
    Adds (fun f => ∃ expected, e.intent.intentVersion = INTENT_VERSION_V1 ∧
        expectedFromSnapshot e.authorization = some expected ∧
        evaluateDisbursement e.intent e.allocationBasisLovelace ≠ expected ∧
        f = .replayDiverged expected (evaluateDisbursement e.intent e.allocationBasisLovelace))
      16 17 report (checkReplayEquivalence e report) := by
  unfold checkReplayEquivalence
  by_cases hversion : e.intent.intentVersion = INTENT_VERSION_V1
  · rw [if_neg (not_not_intro hversion)]
    cases expectedFromSnapshot e.authorization with
    | none => exact (Adds.none report (by decide)).congr fun f => by simp
    | some expected =>
      refine (Adds.pushIf (k := 16) report _ rfl).congr fun f => ?_
      simp [hversion]
  · rw [if_pos hversion]
    exact (Adds.none report (by decide)).congr fun f => by simp [hversion]

end Checks

theorem verifyEvidence_adds (pc : Postcard) (blake3 : Blake3) (e : DisbursementEvidenceV1) :
    Adds (Broken pc blake3 e) 0 17 .new (verifyEvidence pc blake3 e) := by
  refine (((((checkVersions_adds e .new).trans (checkIntentId_adds pc blake3 e _)).trans
    (checkAuthorizationConsistency_adds e _)).trans (checkCrossVariantConsistency_adds e _)).trans
    (checkReplayEquivalence_adds e _)).congr fun f => ?_
  constructor
  · rintro (((((⟨h, rfl⟩ | ⟨h, rfl⟩) | (⟨id, hid, h, rfl⟩ | ⟨⟨err, hid⟩, rfl⟩)) |
      (⟨effect, hauth, field, h, rfl⟩ | ⟨reason, gate, hauth, h, rfl⟩)) | ⟨kind, h, rfl⟩) |
      ⟨expected, hversion, hexpected, h, rfl⟩)
    · exact .evidenceVersion h
    · exact .intentVersion h
    · exact .intentId hid h
    · exact .recompute hid
    · exact .effect hauth h
    · exact .gate hauth h
    · exact .pair h
    · exact .replay hversion hexpected h
  · intro h
    cases h with
    | evidenceVersion h => exact .inl (.inl (.inl (.inl (.inl ⟨h, rfl⟩))))
    | intentVersion h => exact .inl (.inl (.inl (.inl (.inr ⟨h, rfl⟩))))
    | intentId hid h => exact .inl (.inl (.inl (.inr (.inl ⟨_, hid, h, rfl⟩))))
    | recompute hid => exact .inl (.inl (.inl (.inr (.inr ⟨⟨_, hid⟩, rfl⟩))))
    | effect hauth h => exact .inl (.inl (.inr (.inl ⟨_, hauth, _, h, rfl⟩)))
    | gate hauth h => exact .inl (.inl (.inr (.inr ⟨_, _, hauth, h, rfl⟩)))
    | pair h => exact .inl (.inr ⟨_, h, rfl⟩)
    | replay hversion hexpected h => exact .inr ⟨_, hversion, hexpected, h, rfl⟩

/-- **The report is the broken rules**, each once and in their order. -/
theorem verify_findings_exact (pc : Postcard) (blake3 : Blake3) (e : DisbursementEvidenceV1) :
    (∀ f, f ∈ (verifyEvidence pc blake3 e).findings ↔ Broken pc blake3 e f) ∧
      (verifyEvidence pc blake3 e).findings.Pairwise (fun f g => f.rank < g.rank) := by
  obtain ⟨-, found, hfound, hsorted, hbroken, -⟩ := verifyEvidence_adds pc blake3 e
  rw [hfound]
  exact ⟨hbroken, hsorted⟩

end OracleGuard
