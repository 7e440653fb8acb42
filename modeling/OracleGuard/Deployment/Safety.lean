import OracleGuard.Deployment.Audit
import OracleGuard.Ziranity.Agreement

/-!
What holds in every run of a deployment, whatever the interleaving.

* `payments_permitted`: the backend is asked to pay only what a call committed in
  the run asks for, and what the file of the validator permits at that commit.
* `payments_keyed_by_id`: what is paid under one id is one payment, so that whoever
  remembers ids recognizes what was paid before, and nothing else.
* `validators_agree_iff`: two validators never give different results for one
  commit exactly when no intent tells their views apart.
-/

namespace OracleGuard

open Checks Wire

/-! ## What a file permits -/

/-- What a configuration asks of an intent at a clock. -/
structure ConfigFile.Permits (file : ConfigFile) (now : UInt64) (i : DisbursementIntentV1) :
    Prop where
  version : i.intentVersion = 1
  policy : ∃ s ∈ file.anchor.registeredPolicyRefs, Hex.ofText s = i.policyRef.toList
  allocation : ∃ a, file.withId i.allocationId = [a] ∧
    (∃ s ∈ a.authorizedSubjects, Hex.ofText s = i.requesterId.toList) ∧
    (∃ d ∈ a.approvedDestinations, DescribesAddress d i.destination) ∧
    i.requestedAmountLovelace.toNat * 10000 ≤
      a.basisLovelace.toNat * releaseBand i.oracleFact.priceMicrousd.toNat
  asset : i.asset = .ADA
  fresh : now < i.oracleProvenance.expiryUnix
  amount : 0 < i.requestedAmountLovelace
  price : 0 < i.oracleFact.priceMicrousd

theorem permits_iff {file : ConfigFile} {snapshot : ConfigSnapshot}
    (hload : ConfigSnapshot.fromFile file = .ok snapshot) (now : UInt64)
    (i : DisbursementIntentV1) :
    Authorizable snapshot.handler.anchor snapshot.handler.registry now i ↔
      file.Permits now i := by
  constructor
  · rintro ⟨facts, hlookup, h⟩
    have hone : ∃ a, file.withId i.allocationId = [a] := by
      by_contra hnot
      have hnone := lookup_none hload hnot
      exact absurd (hlookup.symm.trans hnone) (by simp)
    obtain ⟨a, ha⟩ := hone
    obtain ⟨facts', hlookup', hdescribes⟩ := lookup_of_withId hload ha
    obtain rfl : facts = facts' := Option.some.inj (hlookup.symm.trans hlookup')
    exact
      { version := h.version
        policy := (isPolicyRegistered_iff hload _).mp h.policy
        allocation := ⟨a, ha, (hdescribes.subject_iff _).mp h.subject,
          (hdescribes.destination_iff _).mp h.destination, hdescribes.basis ▸ h.cap⟩
        asset := h.asset.trans hdescribes.asset
        fresh := h.fresh
        amount := h.amount
        price := h.price }
  · intro h
    obtain ⟨a, ha, hsubject, hdestination, hcap⟩ := h.allocation
    obtain ⟨facts, hlookup, hdescribes⟩ := lookup_of_withId hload ha
    exact ⟨facts, hlookup,
      { version := h.version
        policy := (isPolicyRegistered_iff hload _).mpr h.policy
        subject := (hdescribes.subject_iff _).mpr hsubject
        asset := h.asset.trans hdescribes.asset.symm
        destination := (hdescribes.destination_iff _).mpr hdestination
        fresh := h.fresh
        amount := h.amount
        price := h.price
        cap := hdescribes.basis ▸ hcap }⟩

namespace Deployment

variable {Node SubmitError : Type} [DecidableEq Node] {D : Deployment Node}

/-! ## Payments -/

/-- The requests of an intent; only the intent id is not its own. -/
def requestFor (i : DisbursementIntentV1) (id : Bytes32) : SettlementRequest where
  destination := i.destination
  asset := i.asset
  amountLovelace := i.requestedAmountLovelace
  intentId := id

omit [DecidableEq Node] in
theorem requestOwed_receiptOf {delivery : Delivery Node SubmitError} {entry : Commit}
    {intent : DisbursementIntentV1} {request : SettlementRequest} :
    requestOwed (D.receiptOf delivery entry intent) = some request ↔
      delivery.status = .committed ∧ intent.asset = .ADA ∧
        Authorizable (D.handlers delivery.node).anchor (D.handlers delivery.node).registry
          entry.ctx.nowUnixMs intent ∧
        request = requestFor intent delivery.intentId := by
  simp only [requestOwed, receiptOf, ← closureChecks_eq_none, authorizeDisbursement_eq]
  cases delivery.status with
  | pending => simp
  | committed =>
    cases firstFailing intent (closureChecks (D.handlers delivery.node).anchor
      (D.handlers delivery.node).registry entry.ctx.nowUnixMs) with
    | some reason => simp
    | none =>
      by_cases hada : intent.asset = .ADA
      · simp [authorizedEffect, requestFor, hada, eq_comm]
      · simp [authorizedEffect, hada]

section Files

variable {files : Node → ConfigFile}
  (hfiles : ∀ node, ∃ snapshot, ConfigSnapshot.fromFile (files node) = .ok snapshot ∧
    D.handlers node = snapshot.handler)
include hfiles

omit [DecidableEq Node] in
/-- A delivery calls the backend once if it is committed and permitted, and otherwise
not at all. -/
theorem callsOf_receiptOf (delivery : Delivery Node SubmitError) (entry : Commit)
    (intent : DisbursementIntentV1) :
    (delivery.status = .committed ∧ (files delivery.node).Permits entry.ctx.nowUnixMs intent →
      callsOf (D.receiptOf delivery entry intent) delivery.answer =
        [⟨requestFor intent delivery.intentId, delivery.answer⟩]) ∧
      (¬ (delivery.status = .committed ∧
          (files delivery.node).Permits entry.ctx.nowUnixMs intent) →
        callsOf (D.receiptOf delivery entry intent) delivery.answer = []) := by
  obtain ⟨snapshot, hload, hhandler⟩ := hfiles delivery.node
  have hpermits := permits_iff hload entry.ctx.nowUnixMs intent
  rw [← hhandler] at hpermits
  constructor
  · rintro ⟨hstatus, hpermit⟩
    rw [callsOf, (requestOwed_receiptOf (D := D)).mpr
      ⟨hstatus, hpermit.asset, hpermits.mpr hpermit, rfl⟩]
    rfl
  · intro hnot
    cases howed : requestOwed (D.receiptOf delivery entry intent) with
    | none => rw [callsOf, howed]; rfl
    | some request =>
      obtain ⟨hstatus, -, hauthorizable, -⟩ := requestOwed_receiptOf.mp howed
      exact absurd ⟨hstatus, hpermits.mp hauthorizable⟩ hnot

variable (hpc : D.pc.Documented)
include hpc

omit hfiles in
theorem submissions_deliver {inputs : List (Event Node SubmitError)}
    {delivery : Delivery Node SubmitError} {entry : Commit} {intent : DisbursementIntentV1}
    (hentry : ((D.machine SubmitError).run inputs).log[delivery.index]? = some entry)
    (hindex : delivery.index < (((D.machine SubmitError).run inputs).results delivery.node).length)
    (hdecode : decodeIntent D.pc entry.call = .ok intent) :
    ((D.machine SubmitError).run (inputs ++ [.deliver delivery])).submissions =
      ((D.machine SubmitError).run inputs).submissions ++
        callsOf (D.receiptOf delivery entry intent) delivery.answer := by
  rw [Machine.run_snoc]
  exact congrArg _ (congrArg Prod.fst
    (delivers_of_executed hpc (D.results_run inputs) hentry hindex hdecode).settled)

omit hfiles in
/-- Nothing is paid where there is no executed commit of an intent to deliver. -/
theorem submissions_deliver_other {inputs : List (Event Node SubmitError)}
    {delivery : Delivery Node SubmitError}
    (hother : ¬ ∃ entry intent,
      ((D.machine SubmitError).run inputs).log[delivery.index]? = some entry ∧
      delivery.index < (((D.machine SubmitError).run inputs).results delivery.node).length ∧
      decodeIntent D.pc entry.call = .ok intent) :
    ((D.machine SubmitError).run (inputs ++ [.deliver delivery])).submissions =
      ((D.machine SubmitError).run inputs).submissions := by
  have hsettle : D.settle ((D.machine SubmitError).run inputs) delivery = ([], none) := by
    by_cases hindex :
        delivery.index < (((D.machine SubmitError).run inputs).results delivery.node).length
    · rcases settle_cases hpc (D.results_run inputs) delivery with hsettle | ⟨entry, intent, h⟩
      · exact hsettle
      · exact absurd ⟨entry, intent, h.committed, hindex, h.decoded⟩ hother
    · exact settle_of_not_executed hindex
  rw [Machine.run_snoc]
  show _ ++ (D.settle ((D.machine SubmitError).run inputs) delivery).1 = _
  rw [hsettle, List.append_nil]

/-- **Payments are permitted**, every delivery of a permitted one pays it, and no other
delivery pays. -/
theorem payments_permitted (inputs : List (Event Node SubmitError)) :
    (∀ submission ∈ ((D.machine SubmitError).run inputs).submissions,
      ∃ delivery entry intent, Event.deliver delivery ∈ inputs ∧
        (inputs.filterMap commitOf)[delivery.index]? = some entry ∧
        decodeIntent D.pc entry.call = .ok intent ∧ delivery.status = .committed ∧
        (files delivery.node).Permits entry.ctx.nowUnixMs intent ∧
        submission = ⟨requestFor intent delivery.intentId, delivery.answer⟩) ∧
    (∀ (delivery : Delivery Node SubmitError) (entry : Commit) (intent : DisbursementIntentV1),
      ((D.machine SubmitError).run inputs).log[delivery.index]? = some entry →
      delivery.index < (((D.machine SubmitError).run inputs).results delivery.node).length →
      decodeIntent D.pc entry.call = .ok intent →
      (delivery.status = .committed ∧ (files delivery.node).Permits entry.ctx.nowUnixMs intent →
        ((D.machine SubmitError).run (inputs ++ [.deliver delivery])).submissions =
          ((D.machine SubmitError).run inputs).submissions ++
            [⟨requestFor intent delivery.intentId, delivery.answer⟩]) ∧
      (¬ (delivery.status = .committed ∧
          (files delivery.node).Permits entry.ctx.nowUnixMs intent) →
        ((D.machine SubmitError).run (inputs ++ [.deliver delivery])).submissions =
          ((D.machine SubmitError).run inputs).submissions)) ∧
    ∀ delivery : Delivery Node SubmitError,
      (¬ ∃ entry intent, ((D.machine SubmitError).run inputs).log[delivery.index]? = some entry ∧
        delivery.index < (((D.machine SubmitError).run inputs).results delivery.node).length ∧
        decodeIntent D.pc entry.call = .ok intent) →
      ((D.machine SubmitError).run (inputs ++ [.deliver delivery])).submissions =
        ((D.machine SubmitError).run inputs).submissions := by
  refine ⟨?_, ?_, fun _ => submissions_deliver_other hpc⟩
  · intro submission hsubmission
    obtain ⟨delivery, entry, intent, hdeliver, hcommit, hdecode, hmem⟩ :=
      mem_submissions hpc hsubmission
    obtain ⟨hpaid, hrefused⟩ := callsOf_receiptOf hfiles delivery entry intent
    by_cases hpermit : delivery.status = .committed ∧
        (files delivery.node).Permits entry.ctx.nowUnixMs intent
    · rw [hpaid hpermit, List.mem_singleton] at hmem
      exact ⟨delivery, entry, intent, hdeliver, hcommit, hdecode, hpermit.1, hpermit.2, hmem⟩
    · rw [hrefused hpermit] at hmem
      cases hmem
  · intro delivery entry intent hentry hindex hdecode
    obtain ⟨hpaid, hrefused⟩ := callsOf_receiptOf hfiles delivery entry intent
    rw [submissions_deliver hpc hentry hindex hdecode]
    exact ⟨fun hpermit => by rw [hpaid hpermit],
      fun hpermit => by rw [hrefused hpermit, List.append_nil]⟩

end Files

end Deployment

theorem fixture_permits :
    fixtureConfigFile.Permits 1713000100000 fixtureIntent := by
  have hauthorized := fixtureSnapshot_authorizes
  rw [authorizeDisbursement_eq_authorized, closureChecks_eq_none] at hauthorized
  exact (permits_iff fixtureConfigFile_loads _ _).mp hauthorized.1

theorem fixtureDeployment_files : ∀ node, ∃ snapshot,
    ConfigSnapshot.fromFile ((fun _ : Unit => fixtureConfigFile) node) = .ok snapshot ∧
      fixtureDeployment.handlers node = snapshot.handler :=
  fun _ => ⟨_, fixtureConfigFile_loads, rfl⟩

theorem payments_permitted_fixture :
    ∃ call, decodeIntent .reference call = .ok fixtureIntent ∧
      ((fixtureDeployment.machine Unit).run (fixtureRun call)).submissions =
        [⟨Deployment.requestFor fixtureIntent (Vector.replicate 32 0x11),
          .ok ⟨Vector.replicate 32 0xAB⟩⟩] := by
  obtain ⟨call, hdecode⟩ := exists_fixtureCall
  have h := @Deployment.payments_permitted _ Unit _ _ _ fixtureDeployment_files
    Postcard.reference_documented [.commit (fixtureCommit call), .execute ()]
  rw [Deployment.run_commit_execute] at h
  exact ⟨call, hdecode, (h.2.1 fixtureDelivery (fixtureCommit call) fixtureIntent rfl Nat.one_pos
    hdecode).1 ⟨rfl, fixture_permits⟩⟩

namespace Deployment

variable {Node SubmitError : Type} [DecidableEq Node] {D : Deployment Node}

/-! ## Ids -/

/-- The request is that of the fields that the id stands for. -/
theorem requestFor_of_sameIdentity {i j : DisbursementIntentV1} (h : SameIdentity i j)
    (id : Bytes32) : requestFor i id = requestFor j id := by
  obtain ⟨-, -, -, -, -, hamount, hdestination, hasset⟩ := h
  rw [requestFor, requestFor, hamount, hdestination, hasset]

variable (D) in
/-- A delivery of the run, and the committed intent that it is about. -/
structure Concerns (inputs : List (Event Node SubmitError)) (delivery : Delivery Node SubmitError)
    (intent : DisbursementIntentV1) : Prop where
  delivered : Event.deliver delivery ∈ inputs
  committed : ∃ entry, (inputs.filterMap commitOf)[delivery.index]? = some entry ∧
    decodeIntent D.pc entry.call = .ok intent

variable (D) in
/-- What is hashed for the intents that are committed. -/
def identityBytes (inputs : List (Event Node SubmitError)) : Set Bytes :=
  {b | ∃ entry intent, entry ∈ inputs.filterMap commitOf ∧
    decodeIntent D.pc entry.call = .ok intent ∧ encodeIntentIdentity D.pc intent = .ok b}

section Ids

variable (hpc : D.pc.Documented) {inputs : List (Event Node SubmitError)}
include hpc

theorem exists_concerns {submission : Submission SubmitError}
    (h : submission ∈ ((D.machine SubmitError).run inputs).submissions) :
    ∃ delivery intent, D.Concerns inputs delivery intent ∧
      submission.request = requestFor intent delivery.intentId := by
  obtain ⟨delivery, entry, intent, hdeliver, hentry, hdecode, hmem⟩ := mem_submissions hpc h
  obtain ⟨request, howed, rfl⟩ := List.mem_map.mp hmem
  obtain ⟨-, -, -, rfl⟩ := requestOwed_receiptOf.mp (Option.mem_toList.mp howed)
  exact ⟨delivery, intent, ⟨hdeliver, entry, hentry, hdecode⟩, rfl⟩

variable (hown : D.OwnReceipts inputs)
  (hinj : Set.InjOn (D.blake3 ORACLEGUARD_DISBURSEMENT_DOMAIN) (D.identityBytes inputs))
include hown hinj

omit [DecidableEq Node] in
theorem Concerns.intentId_eq_iff {delivery delivery' : Delivery Node SubmitError}
    {intent intent' : DisbursementIntentV1} (h : D.Concerns inputs delivery intent)
    (h' : D.Concerns inputs delivery' intent') :
    delivery.intentId = delivery'.intentId ↔ SameIdentity intent intent' := by
  obtain ⟨hdeliver, entry, hentry, hdecode⟩ := h
  obtain ⟨hdeliver', entry', hentry', hdecode'⟩ := h'
  have hid := hown _ _ _ hdeliver hentry hdecode
  have hid' := hown _ _ _ hdeliver' hentry' hdecode'
  rw [← OracleGuard.intentId_eq_iff hpc (hinj.mono ?_), hid, hid', Except.ok.injEq]
  rintro b (hb | hb)
  · exact ⟨entry, intent, List.mem_of_getElem? hentry, hdecode, hb⟩
  · exact ⟨entry', intent', List.mem_of_getElem? hentry', hdecode', hb⟩

/-- **The id is the key of a payment.** -/
theorem payments_keyed_by_id :
    (∀ submission ∈ ((D.machine SubmitError).run inputs).submissions,
      ∀ submission' ∈ ((D.machine SubmitError).run inputs).submissions,
        submission.request.intentId = submission'.request.intentId →
          submission.request = submission'.request) ∧
    ∀ (delivery delivery' : Delivery Node SubmitError) (intent intent' : DisbursementIntentV1),
      D.Concerns inputs delivery intent → D.Concerns inputs delivery' intent' →
      (delivery.intentId = delivery'.intentId ↔ SameIdentity intent intent') := by
  constructor
  · intro submission hmem submission' hmem' hid
    obtain ⟨delivery, intent, hconcerns, hrequest⟩ := exists_concerns hpc hmem
    obtain ⟨delivery', intent', hconcerns', hrequest'⟩ := exists_concerns hpc hmem'
    have hids : delivery.intentId = delivery'.intentId := by rwa [hrequest, hrequest'] at hid
    have hsame := (hconcerns.intentId_eq_iff hpc hown hinj hconcerns').mp hids
    rw [hrequest, hrequest', requestFor_of_sameIdentity hsame, hids]
  · exact fun _ _ _ _ => Concerns.intentId_eq_iff hpc hown hinj

end Ids

end Deployment

/-- The fixture, delivered twice. -/
def fixtureReplay (call : Bytes) : List (Event Unit Unit) :=
  fixtureRun call ++ [.deliver fixtureDelivery]

theorem fixtureReplay_own {call : Bytes}
    (hcall : decodeIntent .reference call = .ok fixtureIntent) :
    fixtureDeployment.OwnReceipts (fixtureReplay call) := by
  intro delivery entry intent hdeliver
  refine fixtureRun_own hcall delivery entry intent ?_
  simpa [fixtureReplay, fixtureRun] using hdeliver

/-- There is one call, so nothing can collide. -/
theorem fixtureReplay_injOn (call : Bytes) :
    Set.InjOn (fixtureDeployment.blake3 ORACLEGUARD_DISBURSEMENT_DOMAIN)
      (fixtureDeployment.identityBytes (fixtureReplay call)) := by
  apply Set.Subsingleton.injOn
  rintro b ⟨entry, intent, hentry, hdecode, hb⟩ b' ⟨entry', intent', hentry', hdecode', hb'⟩
  obtain rfl : entry = fixtureCommit call := List.mem_singleton.mp hentry
  obtain rfl : entry' = fixtureCommit call := List.mem_singleton.mp hentry'
  obtain rfl : intent = intent' := Except.ok.inj (hdecode.symm.trans hdecode')
  exact Except.ok.inj (hb.symm.trans hb')

theorem payments_keyed_by_id_fixture :
    ∃ call, decodeIntent .reference call = .ok fixtureIntent ∧
      ∀ submission ∈ ((fixtureDeployment.machine Unit).run (fixtureReplay call)).submissions,
        ∀ submission' ∈ ((fixtureDeployment.machine Unit).run (fixtureReplay call)).submissions,
          submission.request.intentId = submission'.request.intentId →
            submission.request = submission'.request := by
  obtain ⟨call, hcall⟩ := exists_fixtureCall
  exact ⟨call, hcall, (Deployment.payments_keyed_by_id Postcard.reference_documented
    (fixtureReplay_own hcall) (fixtureReplay_injOn call)).1⟩

namespace Deployment

variable {Node SubmitError : Type} [DecidableEq Node] {D : Deployment Node}

/-! ## Validators -/

/-- **Validators agree in every run exactly when their views do.** -/
theorem validators_agree_iff (hpc : D.pc.Documented) (m n : Node) :
    (∀ (inputs : List (Event Node SubmitError)) (k : Nat) (r r' : Except HandlerErrorCode Bytes),
      (((D.machine SubmitError).run inputs).results m)[k]? = some r →
      (((D.machine SubmitError).run inputs).results n)[k]? = some r' → r = r') ↔
      SameDecisions (D.handlers m) (D.handlers n) := by
  constructor
  · intro hagree
    by_cases hmn : m = n
    · rw [hmn, ← sameVerdicts_iff]
      exact fun _ _ => rfl
    · refine sameDecisions_of_handle hpc fun call ctx => ?_
      -- one commit, executed by both
      have hrun : ((D.machine SubmitError).run
          [.commit ⟨call, ctx⟩, .execute m, .execute n]).results =
          Function.update (Function.update (fun _ => []) m [(D.handlers m).handle D.pc call ctx]) n
            [(D.handlers n).handle D.pc call ctx] := by
        show ((D.machine SubmitError).run
          ([.commit ⟨call, ctx⟩, .execute m] ++ [.execute n])).results = _
        rw [Machine.run_snoc, run_commit_execute]
        simp [step, Ne.symm hmn]
      refine hagree [.commit ⟨call, ctx⟩, .execute m, .execute n] 0 _ _ ?_ ?_
      · rw [hrun, Function.update_of_ne hmn, Function.update_self]
        rfl
      · rw [hrun, Function.update_self]
        rfl
  · intro hsame inputs k r r' hr hr'
    have hm := getElem?_of_prefix (D.results_run inputs m) hr
    have hn := getElem?_of_prefix (D.results_run inputs n) hr'
    simp only [resultsOf, List.getElem?_map, hsame.verdicts.handle_eq D.pc] at hm hn
    exact Option.some.inj (hm.symm.trans hn)

end Deployment

/-- Two validators that differ in what nobody may ask for. -/
def closedDeployment : Deployment Bool where
  pc := .reference
  blake3 := policyDigest
  handlers two := closedHandler (if two then 2 else 1)

theorem validators_agree_closed :
    (closedDeployment.handlers false).registry.lookup (Vector.replicate 32 0) ≠
        (closedDeployment.handlers true).registry.lookup (Vector.replicate 32 0) ∧
      ∀ (inputs : List (Event Bool Unit)) (k : Nat) (r r' : Except HandlerErrorCode Bytes),
        (((closedDeployment.machine Unit).run inputs).results false)[k]? = some r →
        (((closedDeployment.machine Unit).run inputs).results true)[k]? = some r' → r = r' :=
  ⟨closedHandler_differ, (Deployment.validators_agree_iff Postcard.reference_documented false
    true).mpr (closedHandler_same 1 2)⟩

end OracleGuard
