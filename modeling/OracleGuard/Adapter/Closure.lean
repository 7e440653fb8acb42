import OracleGuard.Adapter.Settlement

/-!
Runs of the fulfillment boundary over any receipts, against a backend whose calls
are written to a log.

* `fulfill_of_none` and `fulfill_of_some`: a receipt that owes no request is closed
  without a call, and any other one by its own call.
* `fulfillAll_recording`: the log of a run is one request for each receipt that owes
  one, in order, and each outcome is that of the receipt's own call.
* `fulfillAll_erase`: the fields that do not belong on a transaction do not matter.
-/

namespace OracleGuard

variable {World SubmitError : Type}

/-- The request that a receipt stands for: a committed, authorized effect in ADA. -/
def requestOwed (receipt : IntentReceiptV1) : Option SettlementRequest :=
  match receipt.status, receipt.output with
  | .committed, .authorized effect =>
    if effect.asset = .ADA then
      some {
        destination := effect.destination
        asset := effect.asset
        amountLovelace := effect.authorizedAmountLovelace
        intentId := receipt.intentId }
    else none
  | _, _ => none

/-- Receipts passed to `fulfill` one after the other; an error does not end the run. -/
def fulfillAll (backend : SettlementBackend World SubmitError) (receipts : List IntentReceiptV1) :
    StateM World (List (Except SubmitError FulfillmentOutcome)) :=
  receipts.mapM fun receipt => fulfill receipt backend

/-- A call that reached the backend, and what the backend returned. -/
structure Submission (SubmitError : Type) where
  request : SettlementRequest
  response : Except SubmitError CardanoTxHashV1

/-- The same backend, with a log of its calls. -/
def SettlementBackend.recording (backend : SettlementBackend World SubmitError) :
    SettlementBackend (World × List (Submission SubmitError)) SubmitError where
  submit request := fun (world, log) =>
    let (response, world') := backend.submit request world
    (response, (world', log ++ [⟨request, response⟩]))

/-- One receipt of a run: its own calls, and its outcome. -/
structure Closing (SubmitError : Type) where
  submissions : List (Submission SubmitError)
  outcome : Except SubmitError FulfillmentOutcome

/-- The calls are the request owed, and the outcome is what they returned. -/
structure Closing.Of (receipt : IntentReceiptV1) (closing : Closing SubmitError) : Prop where
  requests : closing.submissions.map Submission.request = (requestOwed receipt).toList
  settled_iff : ∀ txHash, closing.outcome = .ok (.settled txHash) ↔
    ∃ submission ∈ closing.submissions, submission.response = .ok txHash
  error_iff : ∀ err, closing.outcome = .error err ↔
    ∃ submission ∈ closing.submissions, submission.response = .error err

/-! ## One receipt -/

theorem fulfill_of_none {receipt : IntentReceiptV1} (h : requestOwed receipt = none) :
    ∃ outcome : FulfillmentOutcome, (∀ txHash, outcome ≠ .settled txHash) ∧
      ∀ {World : Type} (backend : SettlementBackend World SubmitError) (world : World),
        (fulfill receipt backend).run world = (.ok outcome, world) := by
  cases hstatus : receipt.status with
  | pending =>
    exact ⟨.rejectedAtFulfillment .receiptNotCommitted, nofun, fulfill_pending hstatus⟩
  | committed =>
    cases houtput : receipt.output with
    | denied reason gate =>
      exact ⟨.deniedUpstream reason gate, nofun, fulfill_denied hstatus houtput⟩
    | authorized effect =>
      have hasset : effect.asset ≠ .ADA := by
        intro hada
        simp [requestOwed, hstatus, houtput, hada] at h
      exact ⟨.rejectedAtFulfillment .nonAdaAsset, nofun, fulfill_nonAda hstatus houtput hasset⟩

theorem fulfill_of_some {receipt : IntentReceiptV1} {request : SettlementRequest}
    (h : requestOwed receipt = some request) (backend : SettlementBackend World SubmitError)
    (world : World) :
    (fulfill receipt backend).run world =
      (((backend.submit request).run world).1.map .settled,
        ((backend.submit request).run world).2) := by
  cases hstatus : receipt.status with
  | pending => simp [requestOwed, hstatus] at h
  | committed =>
    cases houtput : receipt.output with
    | denied reason gate => simp [requestOwed, hstatus, houtput] at h
    | authorized effect =>
      by_cases hasset : effect.asset = .ADA
      · simp only [requestOwed, hstatus, houtput, hasset, if_true, Option.some.injEq] at h
        have hrequest : settlementRequestFromEffect effect receipt.intentId = request := by
          rw [← h, settlementRequestFromEffect, hasset]
        rw [fulfill_ada hstatus houtput hasset, hrequest]
      · simp [requestOwed, hstatus, houtput, hasset] at h

/-- **One call of the boundary**, seen by a recording backend and by the backend
itself. -/
theorem fulfill_recording (receipt : IntentReceiptV1)
    (backend : SettlementBackend World SubmitError) (world : World)
    (log : List (Submission SubmitError)) :
    ∃ (closing : Closing SubmitError) (world' : World), closing.Of receipt ∧
      (fulfill receipt backend).run world = (closing.outcome, world') ∧
      (fulfill receipt backend.recording).run (world, log) =
        (closing.outcome, (world', log ++ closing.submissions)) := by
  cases howed : requestOwed receipt with
  | none =>
    obtain ⟨outcome, hnot, hrun⟩ := @fulfill_of_none SubmitError receipt howed
    refine ⟨⟨[], .ok outcome⟩, world, ?_, hrun backend world, ?_⟩
    · refine ⟨by rw [howed]; rfl, ?_, ?_⟩
      · simpa using hnot
      · simp
    · rw [List.append_nil]
      exact hrun backend.recording (world, log)
  | some request =>
    have hrun := fulfill_of_some howed backend world
    have hrecorded := fulfill_of_some howed backend.recording (world, log)
    cases hsubmit : (backend.submit request).run world with
    | mk response world' =>
      have hlogged : (backend.recording.submit request).run (world, log) =
          (response, (world', log ++ [⟨request, response⟩])) := by
        show (let (response, world') := (backend.submit request).run world
          (response, (world', log ++ [Submission.mk request response]))) = _
        rw [hsubmit]
      rw [hsubmit] at hrun
      rw [hlogged] at hrecorded
      refine ⟨⟨[⟨request, response⟩], response.map .settled⟩, world', ?_, hrun, hrecorded⟩
      refine ⟨by rw [howed]; rfl, ?_, ?_⟩
      · cases response <;> simp [Except.map]
      · cases response <;> simp [Except.map]

/-! ## Runs -/

theorem fulfillAll_cons {backend : SettlementBackend World SubmitError}
    {receipt : IntentReceiptV1} {receipts : List IntentReceiptV1} {world world₁ world' : World}
    {outcome : Except SubmitError FulfillmentOutcome}
    {outcomes : List (Except SubmitError FulfillmentOutcome)}
    (hfirst : (fulfill receipt backend).run world = (outcome, world₁))
    (hrest : (fulfillAll backend receipts).run world₁ = (outcomes, world')) :
    (fulfillAll backend (receipt :: receipts)).run world = (outcome :: outcomes, world') := by
  have hcons : (fulfillAll backend (receipt :: receipts)).run world =
      let first := (fulfill receipt backend).run world
      let rest := (fulfillAll backend receipts).run first.2
      (first.1 :: rest.1, rest.2) := by
    rw [fulfillAll, List.mapM_cons]
    rfl
  simp only [hcons, hfirst, hrest]

/-- **A run is its receipts**, each closed by its own calls. -/
theorem fulfillAll_recording (backend : SettlementBackend World SubmitError)
    (receipts : List IntentReceiptV1) (world : World) (log : List (Submission SubmitError)) :
    ∃ (closings : List (Closing SubmitError)) (world' : World),
      List.Forall₂ (fun receipt closing => closing.Of receipt) receipts closings ∧
      (fulfillAll backend receipts).run world = (closings.map Closing.outcome, world') ∧
      (fulfillAll backend.recording receipts).run (world, log) =
        (closings.map Closing.outcome,
          (world', log ++ closings.flatMap Closing.submissions)) := by
  induction receipts generalizing world log with
  | nil =>
    refine ⟨[], world, .nil, rfl, ?_⟩
    rw [List.flatMap_nil, List.append_nil]
    rfl
  | cons receipt receipts ih =>
    obtain ⟨closing, world₁, hof, hrun, hrecorded⟩ := fulfill_recording receipt backend world log
    obtain ⟨closings, world', hall, hruns, hrecordeds⟩ := ih world₁ (log ++ closing.submissions)
    refine ⟨closing :: closings, world', .cons hof hall, fulfillAll_cons hrun hruns, ?_⟩
    rw [List.flatMap_cons, ← List.append_assoc]
    exact fulfillAll_cons hrecorded hrecordeds

theorem requests_of_closings {receipts : List IntentReceiptV1}
    {closings : List (Closing SubmitError)}
    (h : List.Forall₂ (fun receipt closing => closing.Of receipt) receipts closings) :
    (closings.flatMap Closing.submissions).map Submission.request =
      receipts.filterMap requestOwed := by
  induction h with
  | nil => rfl
  | @cons receipt closing receipts closings hof _ ih =>
    rw [List.flatMap_cons, List.map_append, hof.requests, ih]
    cases howed : requestOwed receipt with
    | none => rw [List.filterMap_cons_none howed]; rfl
    | some request => rw [List.filterMap_cons_some howed]; rfl

/-! ## Fields that do not matter -/

/-- The policy, the allocation, the requester and the cap are blanked out. -/
def AuthorizationResult.erase : AuthorizationResult → AuthorizationResult
  | .authorized effect => .authorized { effect with
      policyRef := Vector.replicate 32 0
      allocationId := Vector.replicate 32 0
      requesterId := Vector.replicate 32 0
      releaseCapBasisPoints := 0 }
  | .denied reason gate => .denied reason gate

/-- What a receipt says apart from them and from the committed height. -/
def IntentReceiptV1.erase (receipt : IntentReceiptV1) : IntentReceiptV1 :=
  { receipt with
    committedHeight := 0
    output := receipt.output.erase }

theorem fulfill_erase (receipt : IntentReceiptV1)
    (backend : SettlementBackend World SubmitError) :
    fulfill receipt.erase backend = fulfill receipt backend := by
  obtain ⟨intentId, status, committedHeight, output⟩ := receipt
  cases output <;> rfl

theorem fulfillAll_erase (backend : SettlementBackend World SubmitError)
    (receipts : List IntentReceiptV1) :
    fulfillAll backend (receipts.map IntentReceiptV1.erase) = fulfillAll backend receipts := by
  rw [fulfillAll, List.mapM_map]
  exact congrArg receipts.mapM (funext fun receipt => fulfill_erase receipt backend)

/-- **No-transaction closure over runs.** -/
theorem no_transaction_closure (backend : SettlementBackend World SubmitError)
    (receipts : List IntentReceiptV1) (world : World) :
    (∃ (closings : List (Closing SubmitError)) (world' : World),
      (fulfillAll backend receipts).run world = (closings.map Closing.outcome, world') ∧
      (fulfillAll backend.recording receipts).run (world, []) =
        (closings.map Closing.outcome, (world', closings.flatMap Closing.submissions)) ∧
      (closings.flatMap Closing.submissions).map Submission.request =
        receipts.filterMap requestOwed ∧
      List.Forall₂ (fun receipt closing => closing.Of receipt) receipts closings) ∧
    ∀ receipts' : List IntentReceiptV1,
      receipts'.map IntentReceiptV1.erase = receipts.map IntentReceiptV1.erase →
      fulfillAll backend receipts' = fulfillAll backend receipts ∧
      fulfillAll backend.recording receipts' = fulfillAll backend.recording receipts := by
  constructor
  · obtain ⟨closings, world', hall, hrun, hrecorded⟩ :=
      fulfillAll_recording backend receipts world []
    exact ⟨closings, world', hrun, hrecorded, requests_of_closings hall, hall⟩
  · intro receipts' herase
    constructor
    · rw [← fulfillAll_erase, herase, fulfillAll_erase]
    · rw [← fulfillAll_erase, herase, fulfillAll_erase]

/-- A backend that fails every other call. -/
def alternatingBackend : SettlementBackend Nat String where
  submit _ := fun calls =>
    (if calls % 2 = 0 then .ok ⟨Vector.replicate 32 0xcc⟩ else .error "node unreachable",
      calls + 1)

def adaReceipt : IntentReceiptV1 where
  intentId := Vector.replicate 32 0x01
  status := .committed
  committedHeight := 7
  output := .authorized {
    policyRef := Vector.replicate 32 0x11
    allocationId := Vector.replicate 32 0x22
    requesterId := Vector.replicate 32 0x33
    destination := ⟨Vector.replicate 57 0x55, 57⟩
    asset := .ADA
    authorizedAmountLovelace := 700000000
    releaseCapBasisPoints := 7500 }

/-- Two settlements, one of which fails, around a receipt that is still pending. -/
theorem no_transaction_closure_alternating :
    let receipts := [adaReceipt, { adaReceipt with status := .pending }, adaReceipt]
    (fulfillAll alternatingBackend receipts).run 0 =
        ([.ok (.settled ⟨Vector.replicate 32 0xcc⟩),
          .ok (.rejectedAtFulfillment .receiptNotCommitted), .error "node unreachable"], 2) ∧
      fulfillAll alternatingBackend (receipts.map fun r => { r with committedHeight := 8 }) =
        fulfillAll alternatingBackend receipts := by
  intro receipts
  exact ⟨rfl, ((no_transaction_closure alternatingBackend receipts 0).2 _ rfl).1⟩

end OracleGuard
