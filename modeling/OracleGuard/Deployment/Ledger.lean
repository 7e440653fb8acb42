import OracleGuard.Adapter.Chain
import OracleGuard.Deployment.Safety

/-!
From the file of a validator to the transactions that the node accepts.

* `accepted_payments_permitted`: the transactions that are accepted over a run pay what the
  file permits, each for a receipt of its own.
-/

namespace OracleGuard

open Wire

/-- The output of a receipt is what a validator returned for a call. -/
structure Returned (pc : Postcard) (handler : DisbursementHandler) (receipt : IntentReceiptV1)
    (intent : DisbursementIntentV1) (ctx : CommitContext) : Prop where
  output : ∃ call b, decodeIntent pc call = .ok intent ∧ handler.handle pc call ctx = .ok b ∧
    AuthorizationResult.decode pc b = .ok receipt.output

section Ledger

variable {pc : Postcard} (hpc : pc.Documented) {file : ConfigFile} {snapshot : ConfigSnapshot}
  (hload : ConfigSnapshot.fromFile file = .ok snapshot)

include hpc in
theorem Returned.closure {handler : DisbursementHandler} {receipt : IntentReceiptV1}
    {intent : DisbursementIntentV1} {ctx : CommitContext}
    (h : Returned pc handler receipt intent ctx) :
    receipt.output =
      authorizeDisbursement intent handler.anchor handler.registry ctx.nowUnixMs := by
  obtain ⟨call, b, hcall, hhandle, hdecode⟩ := h.output
  obtain ⟨intent', hcall', hdecode'⟩ := DisbursementHandler.handle_eq_ok hpc hhandle
  obtain rfl : intent' = intent := Except.ok.inj (hcall'.symm.trans hcall)
  exact Except.ok.inj (hdecode.symm.trans hdecode')

include hpc hload in
/-- **One request**: it is that of an intent that the file permits. -/
theorem Returned.owed {receipt : IntentReceiptV1} {intent : DisbursementIntentV1}
    {ctx : CommitContext} (h : Returned pc snapshot.handler receipt intent ctx)
    {request : SettlementRequest} (howed : requestOwed receipt = some request) :
    receipt.status = .committed ∧ file.Permits ctx.nowUnixMs intent ∧
      request = Deployment.requestFor intent receipt.intentId := by
  have houtput := h.closure hpc
  cases hstatus : receipt.status with
  | pending => simp [requestOwed, hstatus] at howed
  | committed =>
    cases hrun : receipt.output with
    | denied reason gate => simp [requestOwed, hstatus, hrun] at howed
    | authorized effect =>
      rw [hrun] at houtput
      obtain ⟨hnone, heffect⟩ := (authorizeDisbursement_eq_authorized _ _ _ _ _).mp houtput.symm
      have hpermits := (permits_iff hload _ _).mp ((closureChecks_eq_none _ _ _ _).mp hnone)
      simp only [requestOwed, hstatus, hrun, Option.ite_none_right_eq_some,
        Option.some.injEq] at howed
      refine ⟨rfl, hpermits, ?_⟩
      rw [← howed.2, ← heffect]
      rfl

variable {World : Type} {C : PyClasses} {host : Host World C} {attributes : PyAttributes C}

/-- A transaction that pays an intent from the pool of a backend, under the id of a receipt. -/
structure Pays (host : Host World C) (attributes : PyAttributes C)
    (backend : PyCardanoDisburseBackend) (receipt : IntentReceiptV1)
    (intent : DisbursementIntentV1) (tx : C.Transaction) : Prop where
  committed : receipt.status = .committed
  payment : ∃ pc, host.pycardano = some pc ∧
    PaysRequest attributes pc backend (Deployment.requestFor intent receipt.intentId) tx

/-- One transaction at most, which pays the request that is owed. -/
theorem Settles.pays {backend : PyCardanoDisburseBackend} {receipt : IntentReceiptV1}
    {outcome : Except SettlementSubmitError FulfillmentOutcome} {txs : List C.Transaction}
    (h : Settles host attributes backend receipt outcome txs) :
    txs.length ≤ 1 ∧ ∀ tx ∈ txs, ∃ request pc, requestOwed receipt = some request ∧
      host.pycardano = some pc ∧ PaysRequest attributes pc backend request tx := by
  cases h with
  | refused => simp
  | submitted howed hsubmits =>
    cases hsubmits with
    | failed => simp
    | sent hpc hpays => simpa using ⟨_, howed, _, hpc, hpays⟩
    | doubtful hpc hpays => simpa using ⟨_, howed, _, hpc, hpays⟩

include hpc hload in
/-- **One receipt.** -/
theorem Returned.pays {receipt : IntentReceiptV1} {intent : DisbursementIntentV1}
    {ctx : CommitContext} (h : Returned pc snapshot.handler receipt intent ctx)
    {backend : PyCardanoDisburseBackend}
    {outcome : Except SettlementSubmitError FulfillmentOutcome} {txs : List C.Transaction}
    (hsettles : Settles host attributes backend receipt outcome txs) {tx : C.Transaction}
    (htx : tx ∈ txs) :
    file.Permits ctx.nowUnixMs intent ∧ Pays host attributes backend receipt intent tx := by
  obtain ⟨request, py, howed, hpy, hpays⟩ := hsettles.pays.2 tx htx
  obtain ⟨hstatus, hpermits, rfl⟩ := h.owed hpc hload howed
  exact ⟨hpermits, hstatus, py, hpy, hpays⟩

variable (hpy : host.py.Documented) {accepted : World → List C.Transaction}
  (hchain : ∀ py, host.pycardano = some py → py.Documented attributes accepted)
include hpc hload hpy hchain

/-- **What is accepted is permitted**: what is accepted over a run falls into parts, one
for each receipt, of one transaction at most. -/
theorem accepted_payments_permitted (backend : PythonBackend) {receipts : List IntentReceiptV1}
    (hreceipts : ∀ receipt ∈ receipts, ∃ intent ctx,
      Returned pc snapshot.handler receipt intent ctx) (w : World) :
    ∃ results w', (fulfillAll (backend.settlement host.command) receipts).run w =
        (results.map Prod.fst, w') ∧
      accepted w' = accepted w ++ results.flatMap Prod.snd ∧
      List.Forall₂ (fun receipt result => result.2.length ≤ 1 ∧ ∀ tx ∈ result.2,
        ∃ intent ctx, Returned pc snapshot.handler receipt intent ctx ∧
          file.Permits ctx.nowUnixMs intent ∧
          Pays host attributes backend.toPyCardanoDisburseBackend receipt intent tx)
        receipts results := by
  refine @fulfillAll_results _ _ accepted _ _
    (fun receipt _ txs => txs.length ≤ 1 ∧ ∀ tx ∈ txs, ∃ intent ctx,
      Returned pc snapshot.handler receipt intent ctx ∧ file.Permits ctx.nowUnixMs intent ∧
        Pays host attributes backend.toPyCardanoDisburseBackend receipt intent tx) receipts ?_ w
  intro receipt hmem w
  obtain ⟨outcome, txs, w', hrun, hlog, hsettles⟩ := fulfill_settles hpy hchain backend receipt w
  obtain ⟨intent, ctx, hreturned⟩ := hreceipts receipt hmem
  refine ⟨outcome, txs, w', hrun, hlog, hsettles.pays.1, fun tx htx => ?_⟩
  obtain ⟨hpermits, hpays⟩ := hreturned.pays hpc hload hsettles htx
  exact ⟨intent, ctx, hreturned, hpermits, hpays⟩

end Ledger

theorem fixtureReceipt_returned : Returned .reference fixtureSnapshot.handler fixtureReceipt
    fixtureIntent ⟨1713000100000, 10042, Vector.replicate 32 0⟩ := by
  have hpc := Postcard.reference_documented
  obtain ⟨call, hcall⟩ := exists_fixtureCall
  obtain ⟨b, hb, hencode⟩ := DisbursementHandler.handle_decoded hpc hcall fixtureSnapshot.handler
    ⟨1713000100000, 10042, Vector.replicate 32 0⟩
  rw [fixtureSnapshot_authorizes] at hencode
  exact ⟨call, b, hcall, hb, AuthorizationResult.decode_encode hpc hencode⟩

theorem accepted_payments_permitted_fixture :
    ∃ results ledger, (fulfillAll (fixturePython.settlement fixtureHost.command)
        [fixtureReceipt]).run [] = (results.map Prod.fst, ledger) ∧
      ledger = results.flatMap Prod.snd ∧ ledger.length = 1 ∧
      List.Forall₂ (fun receipt result => result.2.length ≤ 1 ∧ ∀ tx ∈ result.2,
        ∃ intent ctx, Returned .reference fixtureSnapshot.handler receipt intent ctx ∧
          fixtureConfigFile.Permits ctx.nowUnixMs intent ∧
          Pays fixtureHost fixtureAttributes sampleBackend receipt intent tx)
        [fixtureReceipt] results := by
  obtain ⟨results, ledger, hrun, hledger, hall⟩ :=
    @accepted_payments_permitted _ Postcard.reference_documented _ _ fixtureConfigFile_loads _ _
      fixtureHost fixtureAttributes Python.reference_documented id
      (fun py hpy => Option.some.inj hpy ▸ fixtureChain_documented) fixturePython
      [fixtureReceipt] (fun receipt hmem => ⟨_, _, List.mem_singleton.mp hmem ▸
        fixtureReceipt_returned⟩) []
  have hone : ((fulfillAll (fixturePython.settlement fixtureHost.command)
      [fixtureReceipt]).run []).2.length = 1 := by
    decide +kernel
  rw [hrun] at hone
  exact ⟨results, ledger, hrun, hledger, hone, hall⟩

end OracleGuard
