import OracleGuard.Policy.Authorize

/-!
What the closure authorizes, exactly.

* `authorization_exact`: the closure authorizes an effect exactly when every
  check holds over the naturals, and the effect is then the intent's own.
* `canonical_oracle_exact`: the closure reads neither oracle identifier, so an
  intent that carries others is kept out by the remaining checks alone, and some
  views authorize every such intent that can be authorized at all.
-/

namespace OracleGuard

open Checks

/-- What the closure demands of an intent against its policy, the facts of its
allocation and the clock. -/
structure Authorizes (anchor : PolicyAnchorView) (facts : AllocationFacts) (now : UInt64)
    (i : DisbursementIntentV1) : Prop where
  version : i.intentVersion = 1
  policy : anchor.isPolicyRegistered i.policyRef = true
  subject : i.requesterId ∈ facts.authorizedSubjects
  asset : i.asset = facts.approvedAsset
  destination : i.destination ∈ facts.approvedDestinations
  fresh : now < i.oracleProvenance.expiryUnix
  amount : 0 < i.requestedAmountLovelace
  price : 0 < i.oracleFact.priceMicrousd
  cap : i.requestedAmountLovelace.toNat * 10000 ≤
    facts.basisLovelace.toNat * releaseBand i.oracleFact.priceMicrousd.toNat

/-- The demands, with the allocation looked up. -/
def Authorizable (anchor : PolicyAnchorView) (registry : AllocationRegistryView) (now : UInt64)
    (i : DisbursementIntentV1) : Prop :=
  ∃ facts, registry.lookup i.allocationId = some facts ∧ Authorizes anchor facts now i

theorem closureChecks_eq_none (i : DisbursementIntentV1) (anchor : PolicyAnchorView)
    (registry : AllocationRegistryView) (now : UInt64) :
    firstFailing i (closureChecks anchor registry now) = none ↔
      Authorizable anchor registry now i := by
  simp only [firstFailing_eq_none, closureChecks, anchorChecks, registryChecks, grantChecks,
    freshnessCheck, evaluatorChecks, basisIn, List.mem_append, List.mem_cons, List.not_mem_nil,
    or_false, or_imp, forall_and, forall_eq, decide_eq_true_eq]
  constructor
  · rintro ⟨⟨hversion, hpolicy⟩, ⟨hsome, hsubject, hasset, hdestination⟩, hfresh, hamount, hprice,
      hcap⟩
    obtain ⟨facts, hfacts⟩ := Option.isSome_iff_exists.mp hsome
    rw [hfacts] at hsubject hasset hdestination hcap
    simp only [Option.any_some, decide_eq_true_eq] at hsubject hasset hdestination
    simp only [Option.any_some, Option.map_some, decide_eq_true_eq] at hcap
    exact ⟨facts, hfacts, hversion, hpolicy, hsubject, hasset, hdestination, hfresh,
      UInt64.pos_iff_ne_zero.mpr hamount, UInt64.pos_iff_ne_zero.mpr hprice, hcap⟩
  · rintro ⟨facts, hfacts, h⟩
    simp only [hfacts, Option.any_some, Option.map_some, Option.isSome_some, decide_eq_true_eq]
    exact ⟨⟨h.version, h.policy⟩, ⟨trivial, h.subject, h.asset, h.destination⟩, h.fresh,
      UInt64.pos_iff_ne_zero.mp h.amount, UInt64.pos_iff_ne_zero.mp h.price, h.cap⟩

theorem authorizeDisbursement_eq_authorized (i : DisbursementIntentV1) (anchor : PolicyAnchorView)
    (registry : AllocationRegistryView) (now : UInt64) (effect : AuthorizedEffectV1) :
    authorizeDisbursement i anchor registry now = .authorized effect ↔
      firstFailing i (closureChecks anchor registry now) = none ∧ authorizedEffect i = effect := by
  rw [authorizeDisbursement_eq]
  cases firstFailing i (closureChecks anchor registry now) with
  | none => simp
  | some reason => simp

/-- **Authorization law.** -/
theorem authorization_exact (i : DisbursementIntentV1) (anchor : PolicyAnchorView)
    (registry : AllocationRegistryView) (now : UInt64) (effect : AuthorizedEffectV1) :
    authorizeDisbursement i anchor registry now = .authorized effect ↔
      Authorizable anchor registry now i ∧ effect = authorizedEffect i := by
  rw [authorizeDisbursement_eq_authorized, closureChecks_eq_none, eq_comm (b := effect)]

/-! ## Denials -/

theorem authorizeDisbursement_eq_denied (i : DisbursementIntentV1) (anchor : PolicyAnchorView)
    (registry : AllocationRegistryView) (now : UInt64) (reason : DisbursementReasonCode)
    (gate : AuthorizationGate) :
    authorizeDisbursement i anchor registry now = .denied reason gate ↔
      firstFailing i (closureChecks anchor registry now) = some reason ∧ reason.gate = gate := by
  rw [authorizeDisbursement_eq]
  cases firstFailing i (closureChecks anchor registry now) with
  | none => simp
  | some first =>
    simp only [AuthorizationResult.denied.injEq, Option.some.injEq]
    constructor <;> rintro ⟨rfl, rfl⟩ <;> exact ⟨rfl, rfl⟩

theorem gate_of_firstFailing {i : DisbursementIntentV1} {cs : List IntentCheck}
    {gate : AuthorizationGate} (hcs : ∀ c ∈ cs, c.reason.gate = gate)
    {reason : DisbursementReasonCode} (h : firstFailing i cs = some reason) :
    reason.gate = gate := by
  obtain ⟨c, hc, -, rfl⟩ := exists_failing h
  exact hcs c hc

section Gates

variable {i : DisbursementIntentV1} {anchor : PolicyAnchorView}
  {registry : AllocationRegistryView} {now : UInt64} {reason : DisbursementReasonCode}

/-- A reason of the anchor gate comes from the anchor gate. -/
theorem closureChecks_anchor (h : firstFailing i (closureChecks anchor registry now) = some reason)
    (hgate : reason.gate = .anchor) : firstFailing i (anchorChecks anchor) = some reason := by
  rw [closureChecks, firstFailing_append, firstFailing_append] at h
  cases hanchor : firstFailing i (anchorChecks anchor) with
  | some first =>
    rw [hanchor] at h
    exact h
  | none =>
    rw [hanchor, Option.none_or] at h
    cases hregistry : firstFailing i (registryChecks registry) with
    | some first =>
      have hfirst := gate_of_firstFailing (fun _ => registryChecks_gate) hregistry
      rw [hregistry] at h
      cases h
      rw [hgate] at hfirst
      cases hfirst
    | none =>
      rw [hregistry, Option.none_or] at h
      have hfirst := gate_of_firstFailing (fun _ => grantChecks_gate) h
      rw [hgate] at hfirst
      cases hfirst

/-- A reason of a later gate comes from behind the anchor gate. -/
theorem closureChecks_behind_anchor
    (h : firstFailing i (closureChecks anchor registry now) = some reason)
    (hgate : reason.gate ≠ .anchor) :
    firstFailing i (anchorChecks anchor) = none ∧
      (firstFailing i (registryChecks registry)).or (firstFailing i (grantChecks registry now)) =
        some reason := by
  rw [closureChecks, firstFailing_append, firstFailing_append] at h
  cases hanchor : firstFailing i (anchorChecks anchor) with
  | some first =>
    have hfirst := gate_of_firstFailing (fun _ => anchorChecks_gate) hanchor
    rw [hanchor] at h
    cases h
    exact absurd hfirst hgate
  | none =>
    rw [hanchor, Option.none_or] at h
    exact ⟨rfl, h⟩

theorem closureChecks_registry
    (h : firstFailing i (closureChecks anchor registry now) = some reason)
    (hgate : reason.gate = .registry) :
    firstFailing i (anchorChecks anchor) = none ∧
      firstFailing i (registryChecks registry) = some reason := by
  obtain ⟨hanchor, hbehind⟩ := closureChecks_behind_anchor h (by rw [hgate]; decide)
  refine ⟨hanchor, ?_⟩
  cases hregistry : firstFailing i (registryChecks registry) with
  | some first =>
    rw [hregistry] at hbehind
    exact hbehind
  | none =>
    rw [hregistry, Option.none_or] at hbehind
    have hfirst := gate_of_firstFailing (fun _ => grantChecks_gate) hbehind
    rw [hgate] at hfirst
    cases hfirst

/-- A reason of the grant gate comes from the grant gate, behind the others. -/
theorem closureChecks_grant
    (h : firstFailing i (closureChecks anchor registry now) = some reason)
    (hgate : reason.gate = .grant) :
    firstFailing i (registryChecks registry) = none ∧
      firstFailing i (grantChecks registry now) = some reason := by
  obtain ⟨-, hbehind⟩ := closureChecks_behind_anchor h (by rw [hgate]; decide)
  cases hregistry : firstFailing i (registryChecks registry) with
  | some first =>
    have hfirst := gate_of_firstFailing (fun _ => registryChecks_gate) hregistry
    rw [hregistry] at hbehind
    cases hbehind
    rw [hgate] at hfirst
    cases hfirst
  | none =>
    rw [hregistry, Option.none_or] at hbehind
    exact ⟨rfl, hbehind⟩

end Gates

theorem grantChecks_stale_iff {i : DisbursementIntentV1} {registry : AllocationRegistryView}
    {now : UInt64} {reason : DisbursementReasonCode}
    (h : firstFailing i (grantChecks registry now) = some reason) :
    reason = .oracleStale ↔ ¬ now < i.oracleProvenance.expiryUnix := by
  by_cases hfresh : now < i.oracleProvenance.expiryUnix
  · rw [grantChecks_fresh hfresh] at h
    obtain ⟨c, hc, -, rfl⟩ := exists_failing h
    simp only [evaluatorChecks, List.mem_cons, List.not_mem_nil, or_false] at hc
    rcases hc with rfl | rfl | rfl <;> simp [hfresh]
  · rw [grantChecks_stale hfresh] at h
    cases h
    simp [hfresh]

/-! ## Oracle identifiers -/

def CanonicalOracle (fact : OracleFactEvalV1) : Prop :=
  fact.assetPair = ASSET_PAIR_ADA_USD ∧ fact.source = SOURCE_CHARLI3

instance (fact : OracleFactEvalV1) : Decidable (CanonicalOracle fact) :=
  inferInstanceAs (Decidable (_ ∧ _))

/-- What the closure demands of an intent whatever the views and the clock. -/
structure Attainable (i : DisbursementIntentV1) : Prop where
  version : i.intentVersion = 1
  expiry : 0 < i.oracleProvenance.expiryUnix
  amount : 0 < i.requestedAmountLovelace
  price : 0 < i.oracleFact.priceMicrousd
  cap : i.requestedAmountLovelace.toNat * 10000 ≤
    (2 ^ 64 - 1) * releaseBand i.oracleFact.priceMicrousd.toNat

theorem Authorizable.attainable {anchor : PolicyAnchorView} {registry : AllocationRegistryView}
    {now : UInt64} {i : DisbursementIntentV1} (h : Authorizable anchor registry now i) :
    Attainable i := by
  obtain ⟨facts, -, hlaw⟩ := h
  have hbasis : facts.basisLovelace.toNat ≤ 2 ^ 64 - 1 := Nat.le_sub_one_of_lt (UInt64.toNat_lt _)
  refine ⟨hlaw.version, ?_, hlaw.amount, hlaw.price,
    hlaw.cap.trans (Nat.mul_le_mul_right _ hbasis)⟩
  exact UInt64.lt_of_le_of_lt (UInt64.le_iff_toNat_le.mpr (Nat.zero_le _)) hlaw.fresh

/-- The largest basis and the earliest clock authorize whatever can be. -/
theorem Attainable.authorizable {i : DisbursementIntentV1} (h : Attainable i) :
    Authorizable openAnchor (constRegistry (factsOf i 0xFFFFFFFFFFFFFFFF)) 0 i :=
  ⟨_, rfl,
    { version := h.version
      policy := rfl
      subject := List.mem_singleton.mpr rfl
      asset := rfl
      destination := List.mem_singleton.mpr rfl
      fresh := h.expiry
      amount := h.amount
      price := h.price
      cap := h.cap }⟩

/-- **Oracle identifiers are not checked.** The intents that authorize under
other identifiers are all those that meet the demands of the closure. -/
theorem canonical_oracle_exact (i : DisbursementIntentV1) :
    (∀ (anchor : PolicyAnchorView) (registry : AllocationRegistryView) (now : UInt64),
      (∀ effect, authorizeDisbursement i anchor registry now = .authorized effect →
          CanonicalOracle i.oracleFact) ↔
        CanonicalOracle i.oracleFact ∨ ¬ Authorizable anchor registry now i) ∧
      ((∀ anchor registry now effect,
          authorizeDisbursement i anchor registry now = .authorized effect →
            CanonicalOracle i.oracleFact) ↔
        CanonicalOracle i.oracleFact ∨ ¬ Attainable i) := by
  simp only [authorizeDisbursement_eq_authorized, closureChecks_eq_none]
  refine ⟨fun anchor registry now => ⟨fun h => ?_, ?_⟩, fun h => ?_, ?_⟩
  · by_cases hdemands : Authorizable anchor registry now i
    · exact .inl (h _ ⟨hdemands, rfl⟩)
    · exact .inr hdemands
  · rintro (hcanonical | hdemands) effect ⟨h, -⟩
    · exact hcanonical
    · exact absurd h hdemands
  · by_cases hattainable : Attainable i
    · exact .inl (h _ _ _ _ ⟨hattainable.authorizable, rfl⟩)
    · exact .inr hattainable
  · rintro (hcanonical | hattainable) anchor registry now effect ⟨h, -⟩
    · exact hcanonical
    · exact absurd h.attainable hattainable

/-- An intent priced in another pair by another source. -/
def foreignIntent : DisbursementIntentV1 :=
  { fixtureIntent with oracleFact := ⟨Vector.replicate 16 0x42, 450000, Vector.replicate 16 0x58⟩ }

theorem foreign_oracle_authorized :
    ¬ ∀ (i : DisbursementIntentV1) (anchor : PolicyAnchorView) (registry : AllocationRegistryView)
        (now : UInt64) (effect : AuthorizedEffectV1),
      authorizeDisbursement i anchor registry now = .authorized effect →
        CanonicalOracle i.oracleFact := by
  intro h
  have hcanonical : CanonicalOracle foreignIntent.oracleFact := by
    apply h foreignIntent ⟨fun _ => true⟩ ⟨fun _ => some (factsOf foreignIntent 2000000000)⟩
      1713000000000 (authorizedEffect foreignIntent)
    decide
  revert hcanonical
  decide

end OracleGuard
