import OracleGuard.Policy.Authorize

/-!
The fulfillment boundary: from a consensus receipt to a typed outcome. The
settlement backend is the outside world, so a call of it acts on an arbitrary
state and may fail with an arbitrary error, which is passed on unread.

* `fulfill_eq_ok`: the outcomes of `fulfill` are exactly those of the relation
  `Fulfills`, which has one rule for each branch.
-/

namespace OracleGuard

inductive IntentStatus where
  | committed
  | pending
  deriving DecidableEq, Repr

structure IntentReceiptV1 where
  intentId : Bytes32
  status : IntentStatus
  committedHeight : UInt64
  output : AuthorizationResult
  deriving DecidableEq, Repr

structure CardanoTxHashV1 where
  bytes : Bytes32
  deriving DecidableEq, Repr

structure SettlementRequest where
  destination : CardanoAddressV1
  asset : AssetIdV1
  amountLovelace : UInt64
  intentId : Bytes32
  deriving DecidableEq, Repr

structure SettlementBackend (World SubmitError : Type) where
  submit : SettlementRequest → StateM World (Except SubmitError CardanoTxHashV1)

inductive FulfillmentRejection where
  | nonAdaAsset
  | receiptNotCommitted
  deriving DecidableEq, Repr

inductive FulfillmentOutcome where
  | settled (txHash : CardanoTxHashV1)
  | deniedUpstream (reason : DisbursementReasonCode) (gate : AuthorizationGate)
  | rejectedAtFulfillment (kind : FulfillmentRejection)
  deriving DecidableEq, Repr

def guardMvpAsset (effect : AuthorizedEffectV1) : Except FulfillmentRejection Unit :=
  if effect.asset ≠ .ADA then .error .nonAdaAsset else .ok ()

def settlementRequestFromEffect (effect : AuthorizedEffectV1) (intentId : Bytes32) :
    SettlementRequest where
  destination := effect.destination
  asset := effect.asset
  amountLovelace := effect.authorizedAmountLovelace
  intentId := intentId

variable {World SubmitError : Type}

/-- The status of the receipt is looked at before its output. -/
def fulfill (receipt : IntentReceiptV1) (backend : SettlementBackend World SubmitError) :
    StateM World (Except SubmitError FulfillmentOutcome) :=
  if receipt.status ≠ .committed then
    return .ok (.rejectedAtFulfillment .receiptNotCommitted)
  else
    match receipt.output with
    | .denied reason gate => return .ok (.deniedUpstream reason gate)
    | .authorized effect =>
      match guardMvpAsset effect with
      | .error kind => return .ok (.rejectedAtFulfillment kind)
      | .ok () => do
        let request := settlementRequestFromEffect effect receipt.intentId
        match ← backend.submit request with
        | .error err => return .error err
        | .ok txHash => return .ok (.settled txHash)

/-! ## What a call can do -/

/-- A successful call: the outcome, and the world it leaves. -/
inductive Fulfills (receipt : IntentReceiptV1) (backend : SettlementBackend World SubmitError)
    (world : World) : FulfillmentOutcome → World → Prop
  | pending (hstatus : receipt.status = .pending) :
      Fulfills receipt backend world (.rejectedAtFulfillment .receiptNotCommitted) world
  | denied {reason gate} (hstatus : receipt.status = .committed)
      (houtput : receipt.output = .denied reason gate) :
      Fulfills receipt backend world (.deniedUpstream reason gate) world
  | nonAda {effect} (hstatus : receipt.status = .committed)
      (houtput : receipt.output = .authorized effect) (hasset : effect.asset ≠ .ADA) :
      Fulfills receipt backend world (.rejectedAtFulfillment .nonAdaAsset) world
  | settled {effect txHash world'} (hstatus : receipt.status = .committed)
      (houtput : receipt.output = .authorized effect) (hasset : effect.asset = .ADA)
      (hsubmit : (backend.submit (settlementRequestFromEffect effect receipt.intentId)).run world =
        (.ok txHash, world')) :
      Fulfills receipt backend world (.settled txHash) world'

theorem guardMvpAsset_ada {effect : AuthorizedEffectV1} (hasset : effect.asset = .ADA) :
    guardMvpAsset effect = .ok () :=
  if_neg (not_not_intro hasset)

theorem guardMvpAsset_nonAda {effect : AuthorizedEffectV1} (hasset : effect.asset ≠ .ADA) :
    guardMvpAsset effect = .error .nonAdaAsset :=
  if_pos hasset

theorem fulfill_pending {receipt : IntentReceiptV1} (hstatus : receipt.status = .pending)
    (backend : SettlementBackend World SubmitError) (world : World) :
    (fulfill receipt backend).run world =
      (.ok (.rejectedAtFulfillment .receiptNotCommitted), world) := by
  simp only [fulfill, hstatus]
  rfl

theorem fulfill_denied {receipt : IntentReceiptV1} {reason : DisbursementReasonCode}
    {gate : AuthorizationGate} (hstatus : receipt.status = .committed)
    (houtput : receipt.output = .denied reason gate)
    (backend : SettlementBackend World SubmitError) (world : World) :
    (fulfill receipt backend).run world = (.ok (.deniedUpstream reason gate), world) := by
  simp only [fulfill, hstatus, houtput]
  rfl

theorem fulfill_nonAda {receipt : IntentReceiptV1} {effect : AuthorizedEffectV1}
    (hstatus : receipt.status = .committed) (houtput : receipt.output = .authorized effect)
    (hasset : effect.asset ≠ .ADA) (backend : SettlementBackend World SubmitError)
    (world : World) :
    (fulfill receipt backend).run world = (.ok (.rejectedAtFulfillment .nonAdaAsset), world) := by
  simp only [fulfill, hstatus, houtput, guardMvpAsset_nonAda hasset]
  rfl

/-- The only branch that calls the backend. -/
theorem fulfill_ada {receipt : IntentReceiptV1} {effect : AuthorizedEffectV1}
    (hstatus : receipt.status = .committed) (houtput : receipt.output = .authorized effect)
    (hasset : effect.asset = .ADA) (backend : SettlementBackend World SubmitError)
    (world : World) :
    (fulfill receipt backend).run world =
      let submitted :=
        (backend.submit (settlementRequestFromEffect effect receipt.intentId)).run world
      (submitted.1.map .settled, submitted.2) := by
  simp only [fulfill, hstatus, houtput, guardMvpAsset_ada hasset, ne_eq, not_true_eq_false,
    if_false, StateT.run_bind]
  cases hsubmit : (backend.submit (settlementRequestFromEffect effect receipt.intentId)).run world
    with
  | mk submitted world' => cases submitted <;> rfl

/-- **The outcomes of the boundary.** -/
theorem fulfill_eq_ok (receipt : IntentReceiptV1) (backend : SettlementBackend World SubmitError)
    (world world' : World) (outcome : FulfillmentOutcome) :
    (fulfill receipt backend).run world = (.ok outcome, world') ↔
      Fulfills receipt backend world outcome world' := by
  constructor
  · intro h
    cases hstatus : receipt.status with
    | pending =>
      rw [fulfill_pending hstatus] at h
      cases h
      exact .pending hstatus
    | committed =>
      cases houtput : receipt.output with
      | denied reason gate =>
        rw [fulfill_denied hstatus houtput] at h
        cases h
        exact .denied hstatus houtput
      | authorized effect =>
        by_cases hasset : effect.asset = .ADA
        · rw [fulfill_ada hstatus houtput hasset] at h
          cases hsubmit :
            (backend.submit (settlementRequestFromEffect effect receipt.intentId)).run world with
          | mk submitted after =>
            rw [hsubmit] at h
            cases submitted with
            | error err => cases h
            | ok txHash =>
              cases h
              exact .settled hstatus houtput hasset hsubmit
        · rw [fulfill_nonAda hstatus houtput hasset] at h
          cases h
          exact .nonAda hstatus houtput hasset
  · intro h
    cases h with
    | pending hstatus => exact fulfill_pending hstatus backend world
    | denied hstatus houtput => exact fulfill_denied hstatus houtput backend world
    | nonAda hstatus houtput hasset => exact fulfill_nonAda hstatus houtput hasset backend world
    | settled hstatus houtput hasset hsubmit =>
      rw [fulfill_ada hstatus houtput hasset, hsubmit]
      rfl

end OracleGuard
