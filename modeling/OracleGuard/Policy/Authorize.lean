import OracleGuard.Policy.Evaluate
import OracleGuard.Schemas.Evidence

/-!
The three-gate authorization closure: anchor, registry, grant. The views are
pure, so they are functions. Beside the gates as the source has them stands the
closure as one ordered list of ten checks.

* `authorizeDisbursement_eq`: the closure denies with the first of the ten
  checks that fails and with the gate of its reason, and otherwise authorizes
  the intent's own fields.
-/

namespace OracleGuard

open Checks Wire

inductive AuthorizationResult where
  | authorized (effect : AuthorizedEffectV1)
  | denied (reason : DisbursementReasonCode) (gate : AuthorizationGate)
  deriving DecidableEq, Repr

structure PolicyAnchorView where
  isPolicyRegistered : Bytes32 → Bool

structure AllocationFacts where
  basisLovelace : UInt64
  authorizedSubjects : List Bytes32
  approvedAsset : AssetIdV1
  approvedDestinations : List CardanoAddressV1
  deriving DecidableEq, Repr

structure AllocationRegistryView where
  lookup : Bytes32 → Option AllocationFacts

/-! ## The gates -/

/-- An unsupported version and an unknown policy give the same reason. -/
def runAnchorGate (intent : DisbursementIntentV1) (anchor : PolicyAnchorView) :
    Except DisbursementReasonCode Unit :=
  match validateIntentVersion intent with
  | .error _ => .error .policyNotFound
  | .ok () =>
    if !anchor.isPolicyRegistered intent.policyRef then .error .policyNotFound else .ok ()

/-- A destination that is not approved gives the subject's reason. -/
def runRegistryGate (intent : DisbursementIntentV1) (registry : AllocationRegistryView) :
    Except DisbursementReasonCode UInt64 :=
  match registry.lookup intent.allocationId with
  | none => .error .allocationNotFound
  | some facts =>
    if !facts.authorizedSubjects.contains intent.requesterId then .error .subjectNotAuthorized
    else if intent.asset ≠ facts.approvedAsset then .error .assetMismatch
    else if !facts.approvedDestinations.contains intent.destination then
      .error .subjectNotAuthorized
    else .ok facts.basisLovelace

def runGrantGate (intent : DisbursementIntentV1) (basisLovelace nowUnixMs : UInt64) :
    Except DisbursementReasonCode AuthorizedEffectV1 :=
  match checkFreshness intent.oracleProvenance nowUnixMs with
  | .error _ => .error .oracleStale
  | .ok () =>
    match evaluateDisbursement intent basisLovelace with
    | .allow authorizedAmountLovelace releaseCapBasisPoints =>
      .ok
        { policyRef := intent.policyRef
          allocationId := intent.allocationId
          requesterId := intent.requesterId
          destination := intent.destination
          asset := intent.asset
          authorizedAmountLovelace
          releaseCapBasisPoints }
    | .deny reason => .error reason

def authorizeDisbursement (intent : DisbursementIntentV1) (anchor : PolicyAnchorView)
    (registry : AllocationRegistryView) (nowUnixMs : UInt64) : AuthorizationResult :=
  match runAnchorGate intent anchor with
  | .error reason => .denied reason .anchor
  | .ok () =>
    match runRegistryGate intent registry with
    | .error reason => .denied reason .registry
    | .ok basisLovelace =>
      match runGrantGate intent basisLovelace nowUnixMs with
      | .ok effect => .authorized effect
      | .error reason => .denied reason .grant

/-! ## Conversions and bytes -/

def AuthorizationResult.toSnapshot : AuthorizationResult → AuthorizationSnapshotV1
  | authorized effect => .authorized effect
  | denied reason gate => .denied reason gate

namespace AuthorizationResult

def codec (pc : Postcard) : Codec AuthorizationResult :=
  (verdictCodec pc).iso
    { toFun := fun
        | .inl effect => authorized effect
        | .inr (reason, gate) => denied reason gate
      invFun := fun
        | authorized effect => .inl effect
        | denied reason gate => .inr (reason, gate)
      left_inv := fun
        | .inl _ => rfl
        | .inr _ => rfl
      right_inv := fun
        | authorized _ => rfl
        | denied _ _ => rfl }

theorem codec_hasLayout {pc : Postcard} (hpc : pc.Documented) :
    (codec pc).HasLayout verdictLayout :=
  .iso (verdictCodec_hasLayout hpc) _

end AuthorizationResult

inductive AuthorizationResultDecodeError where
  | malformed
  | trailingBytes
  deriving DecidableEq, Repr

def AuthorizationResult.decode (pc : Postcard) (bytes : Bytes) :
    Except AuthorizationResultDecodeError AuthorizationResult :=
  (codec pc).fromBytes .malformed .trailingBytes bytes

/-- A serializer failure is reported as `Malformed`. -/
def AuthorizationResult.encode (pc : Postcard) (result : AuthorizationResult) :
    Except AuthorizationResultDecodeError Bytes :=
  (codec pc).toVec .malformed result

/-! ## The closure as ordered checks -/

def anchorChecks (anchor : PolicyAnchorView) : List IntentCheck :=
  [{ holds := fun i => decide (i.intentVersion = INTENT_VERSION_V1)
     reason := .policyNotFound },
   { holds := fun i => anchor.isPolicyRegistered i.policyRef
     reason := .policyNotFound }]

/-- The checks of the registry gate; all but the first fail on an allocation
that is not there, behind the first. -/
def registryChecks (registry : AllocationRegistryView) : List IntentCheck :=
  [{ holds := fun i => (registry.lookup i.allocationId).isSome
     reason := .allocationNotFound },
   { holds := fun i => (registry.lookup i.allocationId).any
       fun facts => decide (i.requesterId ∈ facts.authorizedSubjects)
     reason := .subjectNotAuthorized },
   { holds := fun i => (registry.lookup i.allocationId).any
       fun facts => decide (i.asset = facts.approvedAsset)
     reason := .assetMismatch },
   { holds := fun i => (registry.lookup i.allocationId).any
       fun facts => decide (i.destination ∈ facts.approvedDestinations)
     reason := .subjectNotAuthorized }]

def freshnessCheck (nowUnixMs : UInt64) : IntentCheck where
  holds := fun i => decide (nowUnixMs < i.oracleProvenance.expiryUnix)
  reason := .oracleStale

/-- The basis of the allocation that an intent names. -/
def basisIn (registry : AllocationRegistryView) (i : DisbursementIntentV1) : Option UInt64 :=
  (registry.lookup i.allocationId).map (·.basisLovelace)

def grantChecks (registry : AllocationRegistryView) (nowUnixMs : UInt64) : List IntentCheck :=
  freshnessCheck nowUnixMs :: evaluatorChecks (basisIn registry)

/-- The ten checks of the closure in the order of the gates. -/
def closureChecks (anchor : PolicyAnchorView) (registry : AllocationRegistryView)
    (nowUnixMs : UInt64) : List IntentCheck :=
  anchorChecks anchor ++ (registryChecks registry ++ grantChecks registry nowUnixMs)

/-- What an authorization of the intent releases. -/
def authorizedEffect (i : DisbursementIntentV1) : AuthorizedEffectV1 where
  policyRef := i.policyRef
  allocationId := i.allocationId
  requesterId := i.requesterId
  destination := i.destination
  asset := i.asset
  authorizedAmountLovelace := i.requestedAmountLovelace
  releaseCapBasisPoints := .ofNat (releaseBand i.oracleFact.priceMicrousd.toNat)

/-- Facts that approve exactly the intent's own parties. -/
def factsOf (i : DisbursementIntentV1) (basis : UInt64) : AllocationFacts where
  basisLovelace := basis
  authorizedSubjects := [i.requesterId]
  approvedAsset := i.asset
  approvedDestinations := [i.destination]

def openAnchor : PolicyAnchorView := ⟨fun _ => true⟩

def emptyRegistry : AllocationRegistryView := ⟨fun _ => none⟩

def constRegistry (facts : AllocationFacts) : AllocationRegistryView := ⟨fun _ => some facts⟩

theorem basisIn_open (i : DisbursementIntentV1) (basis : UInt64) :
    basisIn (constRegistry (factsOf i basis)) i = some basis := rfl

theorem anchorChecks_gate {anchor : PolicyAnchorView} {c : IntentCheck}
    (hc : c ∈ anchorChecks anchor) : c.reason.gate = .anchor := by
  simp only [anchorChecks, List.mem_cons, List.not_mem_nil, or_false] at hc
  rcases hc with rfl | rfl <;> rfl

theorem registryChecks_gate {registry : AllocationRegistryView} {c : IntentCheck}
    (hc : c ∈ registryChecks registry) : c.reason.gate = .registry := by
  simp only [registryChecks, List.mem_cons, List.not_mem_nil, or_false] at hc
  rcases hc with rfl | rfl | rfl | rfl <;> rfl

theorem grantChecks_gate {registry : AllocationRegistryView} {now : UInt64} {c : IntentCheck}
    (hc : c ∈ grantChecks registry now) : c.reason.gate = .grant := by
  simp only [grantChecks, freshnessCheck, evaluatorChecks, List.mem_cons, List.not_mem_nil,
    or_false] at hc
  rcases hc with rfl | rfl | rfl | rfl <;> rfl

/-! ## Each gate runs its checks -/

theorem runAnchorGate_eq (i : DisbursementIntentV1) (anchor : PolicyAnchorView) :
    runAnchorGate i anchor =
      match firstFailing i (anchorChecks anchor) with
      | none => .ok ()
      | some reason => .error reason := by
  simp only [runAnchorGate, validateIntentVersion, anchorChecks, firstFailing, decide_eq_true_eq]
  by_cases hversion : i.intentVersion = INTENT_VERSION_V1
  · by_cases hpolicy : anchor.isPolicyRegistered i.policyRef = true <;> simp [hversion, hpolicy]
  · simp [hversion]

/-- The gate fails with its first failing check, or hands on the basis. -/
theorem runRegistryGate_cases (i : DisbursementIntentV1) (registry : AllocationRegistryView) :
    (∃ reason, firstFailing i (registryChecks registry) = some reason ∧
        runRegistryGate i registry = .error reason) ∨
      (∃ basis, firstFailing i (registryChecks registry) = none ∧
        basisIn registry i = some basis ∧ runRegistryGate i registry = .ok basis) := by
  simp only [runRegistryGate, registryChecks, firstFailing, basisIn]
  rcases Option.eq_none_or_eq_some (registry.lookup i.allocationId) with hnone | ⟨facts, hfacts⟩
  · simp [hnone]
  by_cases hsubject : i.requesterId ∈ facts.authorizedSubjects
  · by_cases hasset : i.asset = facts.approvedAsset
    · by_cases hdestination : i.destination ∈ facts.approvedDestinations
      · simp [hfacts, hsubject, hasset, hdestination]
      · simp [hfacts, hsubject, hasset, hdestination]
    · simp [hfacts, hsubject, hasset]
  · simp [hfacts, hsubject]

theorem grantChecks_fresh {i : DisbursementIntentV1} {now : UInt64}
    (hfresh : now < i.oracleProvenance.expiryUnix) (registry : AllocationRegistryView) :
    firstFailing i (grantChecks registry now) =
      firstFailing i (evaluatorChecks (basisIn registry)) :=
  firstFailing_cons_pos (decide_eq_true hfresh) _

theorem grantChecks_stale {i : DisbursementIntentV1} {now : UInt64}
    (hstale : ¬ now < i.oracleProvenance.expiryUnix) (registry : AllocationRegistryView) :
    firstFailing i (grantChecks registry now) = some .oracleStale :=
  firstFailing_cons_neg (decide_eq_false hstale) _

theorem runGrantGate_eq {i : DisbursementIntentV1} {registry : AllocationRegistryView}
    {basis : UInt64} (hbasis : basisIn registry i = some basis) (now : UInt64) :
    runGrantGate i basis now =
      match firstFailing i (grantChecks registry now) with
      | none => .ok (authorizedEffect i)
      | some reason => .error reason := by
  by_cases hfresh : now < i.oracleProvenance.expiryUnix
  · simp only [runGrantGate, checkFreshness, hfresh, if_true, grantChecks_fresh hfresh,
      evaluateDisbursement_eq hbasis]
    cases firstFailing i (evaluatorChecks (basisIn registry)) with
    | none => simp only [authorizedEffect, selectReleaseBandBps_eq]
    | some reason => rfl
  · simp only [runGrantGate, checkFreshness, hfresh, if_false, grantChecks_stale hfresh]

/-- **The closure is its ten checks.** -/
theorem authorizeDisbursement_eq (i : DisbursementIntentV1) (anchor : PolicyAnchorView)
    (registry : AllocationRegistryView) (now : UInt64) :
    authorizeDisbursement i anchor registry now =
      match firstFailing i (closureChecks anchor registry now) with
      | none => .authorized (authorizedEffect i)
      | some reason => .denied reason reason.gate := by
  rw [closureChecks, firstFailing_append, firstFailing_append]
  unfold authorizeDisbursement
  rw [runAnchorGate_eq]
  cases hanchor : firstFailing i (anchorChecks anchor) with
  | some reason =>
    obtain ⟨c, hc, -, rfl⟩ := exists_failing hanchor
    simp [anchorChecks_gate hc]
  | none =>
    rcases runRegistryGate_cases i registry with
      ⟨reason, hfail, hrun⟩ | ⟨basis, hpass, hbasis, hrun⟩
    · obtain ⟨c, hc, -, rfl⟩ := exists_failing hfail
      simp [hrun, hfail, registryChecks_gate hc]
    · simp only [hrun, hpass, Option.none_or, runGrantGate_eq hbasis]
      cases hgrant : firstFailing i (grantChecks registry now) with
      | none => rfl
      | some reason =>
        obtain ⟨c, hc, -, rfl⟩ := exists_failing hgrant
        simp [grantChecks_gate hc]

end OracleGuard
