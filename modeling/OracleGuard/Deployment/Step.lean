import OracleGuard.Adapter.Closure
import OracleGuard.Machine
import OracleGuard.Pipeline
import OracleGuard.Ziranity.Config

/-!
A deployment: clients have calls committed, validators execute the log each at
its own pace, and the adapter takes the results that the client hands it, one
frame at a time. Which calls are committed, in which context, when a validator
executes, what the client hands on and how often, and what the settlement backend
answers are inputs, so a run is any interleaving of them.

* `results_run`: a validator's results are those of a prefix of the log.
* `submissions_run` and `bundles_run`: what the backend received and what was
  recorded, delivery by delivery.
-/

namespace OracleGuard

open Wire

/-! ## One delivery -/

/-- The bundle of an outcome; there is none where the receipt is that of another
intent. -/
def bundleOf (pc : Postcard) (blake3 : Blake3) (intent : DisbursementIntentV1)
    (receipt : IntentReceiptV1) (outcome : FulfillmentOutcome) (basis now : UInt64) :
    Option Bytes :=
  match assembleDisbursementEvidence pc blake3 intent receipt outcome basis now with
  | .error _ => none
  | .ok evidence => (encodeEvidence pc evidence).toOption

/-- The adapter on the bytes of a receipt: they are parsed, the receipt is
fulfilled, and the outcome recorded for the intent. -/
def adapt {World SubmitError : Type} (pc : Postcard) (blake3 : Blake3)
    (intent : DisbursementIntentV1) (basis now : UInt64) (raw : Bytes)
    (backend : SettlementBackend World SubmitError) : StateM World (Option Bytes) :=
  match parseCliReceipt pc raw with
  | .error _ => return none
  | .ok receipt => do
    match ← fulfill receipt backend with
    | .error _ => return none
    | .ok outcome => return bundleOf pc blake3 intent receipt outcome basis now

/-- A backend that gives one answer and keeps a log of its calls. -/
def answering {SubmitError : Type} (answer : Except SubmitError CardanoTxHashV1) :
    SettlementBackend (List (Submission SubmitError)) SubmitError where
  submit request := fun log => (answer, log ++ [⟨request, answer⟩])

section Adapt

variable {SubmitError : Type}

/-- The outcome of a receipt under an answer. -/
def outcomeOf (receipt : IntentReceiptV1) (answer : Except SubmitError CardanoTxHashV1) :
    Except SubmitError FulfillmentOutcome :=
  ((fulfill receipt (answering answer)).run []).1

/-- The calls that a receipt leads to under an answer. -/
def callsOf (receipt : IntentReceiptV1) (answer : Except SubmitError CardanoTxHashV1) :
    List (Submission SubmitError) :=
  (requestOwed receipt).toList.map fun request => ⟨request, answer⟩

theorem fulfill_answering (receipt : IntentReceiptV1)
    (answer : Except SubmitError CardanoTxHashV1) (log : List (Submission SubmitError)) :
    (fulfill receipt (answering answer)).run log =
      (outcomeOf receipt answer, log ++ callsOf receipt answer) := by
  unfold outcomeOf callsOf
  cases howed : requestOwed receipt with
  | none =>
    obtain ⟨outcome, -, hrun⟩ := @fulfill_of_none SubmitError receipt howed
    rw [hrun, hrun]
    simp
  | some request =>
    rw [fulfill_of_some howed, fulfill_of_some howed]
    rfl

theorem adapt_receipt {pc : Postcard} {raw : Bytes} {receipt : IntentReceiptV1}
    (hparse : parseCliReceipt pc raw = .ok receipt) (blake3 : Blake3)
    (intent : DisbursementIntentV1) (basis now : UInt64)
    (answer : Except SubmitError CardanoTxHashV1) (log : List (Submission SubmitError)) :
    (adapt pc blake3 intent basis now raw (answering answer)).run log =
      ((outcomeOf receipt answer).toOption.bind fun outcome =>
          bundleOf pc blake3 intent receipt outcome basis now,
        log ++ callsOf receipt answer) := by
  unfold adapt
  simp only [hparse, StateT.run_bind, fulfill_answering]
  cases outcomeOf receipt answer <;> rfl

theorem bundleOf_eq_some {pc : Postcard} {blake3 : Blake3}
    {intent : DisbursementIntentV1} {receipt : IntentReceiptV1} {outcome : FulfillmentOutcome}
    {basis now : UInt64} {b : Bytes} :
    bundleOf pc blake3 intent receipt outcome basis now = some b ↔
      intentId pc blake3 intent = .ok receipt.intentId ∧
        encodeEvidence pc (recordOf intent receipt outcome basis now) = .ok b := by
  unfold bundleOf
  by_cases hid : intentId pc blake3 intent = .ok receipt.intentId
  · rw [assembleDisbursementEvidence_ok hid]
    cases hencode : encodeEvidence pc (recordOf intent receipt outcome basis now) <;>
      simp [hid, hencode, Except.toOption]
  · have hassemble : ∃ err,
        assembleDisbursementEvidence pc blake3 intent receipt outcome basis now = .error err := by
      unfold assembleDisbursementEvidence
      cases hderived : intentId pc blake3 intent with
      | error err => exact ⟨_, rfl⟩
      | ok derived =>
        have hne : derived ≠ receipt.intentId := by
          rintro rfl
          exact hid hderived
        exact ⟨_, if_pos hne⟩
    obtain ⟨err, hassemble⟩ := hassemble
    simp [hassemble, hid]

end Adapt

/-! ## The deployment -/

/-- A call that consensus has committed, and the context it was committed in. -/
structure Commit where
  call : Bytes
  ctx : CommitContext

/-- The result of a validator, as the client hands it on, and the answer of the
backend, should it be called. -/
structure Delivery (Node SubmitError : Type) where
  node : Node
  index : Nat
  intentId : Bytes32
  status : IntentStatus
  answer : Except SubmitError CardanoTxHashV1

inductive Event (Node SubmitError : Type) where
  | commit (entry : Commit)
  | execute (node : Node)
  | deliver (delivery : Delivery Node SubmitError)

structure DeploymentState (Node SubmitError : Type) where
  log : List Commit
  results : Node → List (Except HandlerErrorCode Bytes)
  submissions : List (Submission SubmitError)
  bundles : List Bytes

/-- What does not change in a run. -/
structure Deployment (Node : Type) where
  pc : Postcard
  blake3 : Blake3
  handlers : Node → DisbursementHandler

/-- The frame of the client around the output of a validator. -/
def Delivery.frame {Node SubmitError : Type} (delivery : Delivery Node SubmitError)
    (entry : Commit) (output : Bytes) : Option Bytes :=
  if h : output.length < 2 ^ 32 then
    some (CliFrame.bytes ⟨delivery.intentId, delivery.status, entry.ctx.blockHeight, output, h⟩)
  else none

/-- The basis that is recorded: what the validator's view says of the allocation. -/
def DisbursementHandler.recordedBasis (handler : DisbursementHandler)
    (intent : DisbursementIntentV1) : UInt64 :=
  match handler.registry.lookup intent.allocationId with
  | some facts => facts.basisLovelace
  | none => 0

namespace Deployment

variable {Node SubmitError : Type} [DecidableEq Node] (D : Deployment Node)

/-- The commit and the output that a delivery is about. -/
def delivered (s : DeploymentState Node SubmitError) (delivery : Delivery Node SubmitError) :
    Option (Commit × Bytes) :=
  match s.log[delivery.index]?, (s.results delivery.node)[delivery.index]? with
  | some entry, some (.ok output) => some (entry, output)
  | _, _ => none

/-- The submissions and the bundle of one delivery. -/
def settle (s : DeploymentState Node SubmitError) (delivery : Delivery Node SubmitError) :
    List (Submission SubmitError) × Option Bytes :=
  match delivered s delivery with
  | none => ([], none)
  | some (entry, output) =>
    match decodeIntent D.pc entry.call, delivery.frame entry output with
    | .ok intent, some raw =>
      let run := (adapt D.pc D.blake3 intent ((D.handlers delivery.node).recordedBasis intent)
        entry.ctx.nowUnixMs raw (answering delivery.answer)).run []
      (run.2, run.1)
    | _, _ => ([], none)

def step (s : DeploymentState Node SubmitError) :
    Event Node SubmitError → DeploymentState Node SubmitError
  | .commit entry => { s with log := s.log ++ [entry] }
  | .execute node =>
    match s.log[(s.results node).length]? with
    | none => s
    | some entry =>
      let result := (D.handlers node).handle D.pc entry.call entry.ctx
      { s with results := Function.update s.results node (s.results node ++ [result]) }
  | .deliver delivery =>
    { s with
      submissions := s.submissions ++ (D.settle s delivery).1
      bundles := s.bundles ++ (D.settle s delivery).2.toList }

def machine (SubmitError : Type) :
    Machine (DeploymentState Node SubmitError) (Event Node SubmitError) where
  start := ⟨[], fun _ => [], [], []⟩
  step := D.step

/-! ## Steps -/

@[simp] theorem machine_start : (D.machine SubmitError).start = ⟨[], fun _ => [], [], []⟩ := rfl

@[simp] theorem machine_step : (D.machine SubmitError).step = D.step := rfl

theorem step_execute {s : DeploymentState Node SubmitError} {node : Node} {entry : Commit}
    (hentry : s.log[(s.results node).length]? = some entry) :
    D.step s (.execute node) =
      { s with
        results := Function.update s.results node
          (s.results node ++ [(D.handlers node).handle D.pc entry.call entry.ctx]) } := by
  simp only [step, hentry]

/-- A commit that a validator executes at once. -/
theorem step_commit_execute {s : DeploymentState Node SubmitError} {node : Node}
    (hup : (s.results node).length = s.log.length) (entry : Commit) :
    D.step (D.step s (.commit entry)) (.execute node) =
      { s with
        log := s.log ++ [entry]
        results := Function.update s.results node
          (s.results node ++ [(D.handlers node).handle D.pc entry.call entry.ctx]) } := by
  have hentry : (s.log ++ [entry])[(s.results node).length]? = some entry := by
    rw [hup]
    simp
  exact step_execute D hentry

theorem run_commit_execute (node : Node) (entry : Commit) :
    (D.machine SubmitError).run [.commit entry, .execute node] =
      { log := [entry]
        results := Function.update (fun _ => []) node
          [(D.handlers node).handle D.pc entry.call entry.ctx]
        submissions := []
        bundles := [] } :=
  @step_commit_execute _ SubmitError _ D ⟨[], fun _ => [], [], []⟩ node rfl entry

/-! ## Validators -/

/-- The results of the whole log, as a validator gives them. -/
def resultsOf (node : Node) (log : List Commit) : List (Except HandlerErrorCode Bytes) :=
  log.map fun entry => (D.handlers node).handle D.pc entry.call entry.ctx

theorem getElem?_of_prefix {α : Type} {l m : List α} {k : Nat} {x : α} (h : l <+: m)
    (hx : l[k]? = some x) : m[k]? = some x := by
  obtain ⟨rest, rfl⟩ := h
  rw [List.getElem?_append_left (List.getElem?_eq_some_iff.mp hx).1, hx]

theorem concat_prefix {α : Type} {l m : List α} {x : α} (h : l <+: m)
    (hx : m[l.length]? = some x) : l ++ [x] <+: m := by
  obtain ⟨rest, rfl⟩ := h
  cases rest with
  | nil => simp at hx
  | cons y rest =>
    rw [List.getElem?_append_right (Nat.le_refl _), Nat.sub_self] at hx
    cases hx
    exact ⟨rest, by simp⟩

/-- **A validator's results are those of a prefix of the log.** -/
theorem results_run (inputs : List (Event Node SubmitError)) (node : Node) :
    ((D.machine SubmitError).run inputs).results node <+:
      D.resultsOf node ((D.machine SubmitError).run inputs).log := by
  refine (D.machine SubmitError).invariant
    (I := fun _ s => ∀ node, s.results node <+: D.resultsOf node s.log)
    (fun node => List.nil_prefix) ?_ inputs node
  intro _ s event hs node
  cases event with
  | commit entry =>
    refine (hs node).trans ?_
    simp only [machine, step, resultsOf, List.map_append]
    exact List.prefix_append ..
  | execute executing =>
    simp only [machine, step]
    cases hentry : s.log[(s.results executing).length]? with
    | none => exact hs node
    | some entry =>
      by_cases hnode : node = executing
      · subst hnode
        simp only [Function.update_self]
        exact concat_prefix (hs node) (by simp [resultsOf, hentry])
      · simp only [Function.update_of_ne hnode]
        exact hs node
  | deliver delivery => exact hs node

/-! ## Deliveries -/

/-- The receipt that a delivery amounts to: the verdict of its validator on the
committed intent. -/
def receiptOf (delivery : Delivery Node SubmitError) (entry : Commit)
    (intent : DisbursementIntentV1) : IntentReceiptV1 where
  intentId := delivery.intentId
  status := delivery.status
  committedHeight := entry.ctx.blockHeight
  output := authorizeDisbursement intent (D.handlers delivery.node).anchor
    (D.handlers delivery.node).registry entry.ctx.nowUnixMs

/-- A delivery of the result of a committed intent. -/
structure Delivers (s : DeploymentState Node SubmitError) (delivery : Delivery Node SubmitError)
    (entry : Commit) (intent : DisbursementIntentV1) : Prop where
  committed : s.log[delivery.index]? = some entry
  decoded : decodeIntent D.pc entry.call = .ok intent
  settled : D.settle s delivery = (callsOf (D.receiptOf delivery entry intent) delivery.answer,
    (outcomeOf (D.receiptOf delivery entry intent) delivery.answer).toOption.bind fun outcome =>
      bundleOf D.pc D.blake3 intent (D.receiptOf delivery entry intent) outcome
        ((D.handlers delivery.node).recordedBasis intent) entry.ctx.nowUnixMs)

variable {D}

omit [DecidableEq Node] in
theorem delivered_eq_some {s : DeploymentState Node SubmitError}
    {delivery : Delivery Node SubmitError} {entry : Commit} {output : Bytes}
    (h : delivered s delivery = some (entry, output)) :
    s.log[delivery.index]? = some entry ∧
      (s.results delivery.node)[delivery.index]? = some (.ok output) := by
  unfold delivered at h
  split at h
  next entry' output' hentry houtput =>
    cases h
    exact ⟨hentry, houtput⟩
  · cases h

omit [DecidableEq Node] in
theorem settle_of_undelivered {s : DeploymentState Node SubmitError}
    {delivery : Delivery Node SubmitError} (h : delivered s delivery = none) :
    D.settle s delivery = ([], none) := by
  simp only [settle, h]

omit [DecidableEq Node] in
theorem settle_of_not_executed {s : DeploymentState Node SubmitError}
    {delivery : Delivery Node SubmitError}
    (hindex : ¬ delivery.index < (s.results delivery.node).length) :
    D.settle s delivery = ([], none) := by
  have hresult : (s.results delivery.node)[delivery.index]? = none :=
    List.getElem?_eq_none (Nat.le_of_not_lt hindex)
  refine settle_of_undelivered ?_
  unfold delivered
  rw [hresult]
  cases s.log[delivery.index]? <;> rfl

section Settle

variable (hpc : D.pc.Documented) {s : DeploymentState Node SubmitError}
  (hresults : ∀ node, s.results node <+: D.resultsOf node s.log)
  {delivery : Delivery Node SubmitError} {entry : Commit}
include hresults

omit [DecidableEq Node] in
theorem result_eq {result : Except HandlerErrorCode Bytes}
    (hentry : s.log[delivery.index]? = some entry)
    (hresult : (s.results delivery.node)[delivery.index]? = some result) :
    (D.handlers delivery.node).handle D.pc entry.call entry.ctx = result := by
  have h := getElem?_of_prefix (hresults delivery.node) hresult
  simpa only [resultsOf, List.getElem?_map, hentry, Option.map_some, Option.some.injEq] using h

include hpc

omit [DecidableEq Node] in
/-- The delivery of a result that a validator has. -/
theorem delivers_of_executed {intent : DisbursementIntentV1}
    (hentry : s.log[delivery.index]? = some entry)
    (hindex : delivery.index < (s.results delivery.node).length)
    (hdecode : decodeIntent D.pc entry.call = .ok intent) :
    D.Delivers s delivery entry intent := by
  obtain ⟨b, hb, hencode⟩ :=
    DisbursementHandler.handle_decoded hpc hdecode (D.handlers delivery.node) entry.ctx
  have hresult := List.getElem?_eq_getElem hindex
  rw [← result_eq hresults hentry hresult, hb] at hresult
  have hdelivered : delivered s delivery = some (entry, b) := by
    simp only [delivered, hentry, hresult]
  have hlength := AuthorizationResult.length_encode hpc hencode
  have hparse := parseCliReceipt_frame D.pc
    ⟨delivery.intentId, delivery.status, entry.ctx.blockHeight, b, hlength⟩
  rw [parseConsensusOutput_encode hpc hencode] at hparse
  refine ⟨hentry, hdecode, ?_⟩
  unfold settle
  simp only [hdelivered, hdecode, Delivery.frame, hlength, dif_pos]
  rw [adapt_receipt hparse, List.nil_append]
  rfl

omit [DecidableEq Node] in
/-- **A delivery settles nothing, or the verdict on a committed intent.** -/
theorem settle_cases (delivery : Delivery Node SubmitError) :
    D.settle s delivery = ([], none) ∨ ∃ entry intent, D.Delivers s delivery entry intent := by
  cases hdelivered : delivered s delivery with
  | none => exact .inl (settle_of_undelivered hdelivered)
  | some pair =>
    obtain ⟨entry, output⟩ := pair
    obtain ⟨hentry, houtput⟩ := delivered_eq_some hdelivered
    have hresult := result_eq hresults hentry houtput
    cases hdecode : decodeIntent D.pc entry.call with
    | error err =>
      rw [DisbursementHandler.handle_malformed hdecode] at hresult
      cases hresult
    | ok intent =>
      exact .inr ⟨entry, intent, delivers_of_executed hpc hresults hentry
        (List.getElem?_eq_some_iff.mp houtput).1 hdecode⟩

end Settle

/-! ## Runs -/

variable (D)

def commitOf : Event Node SubmitError → Option Commit
  | .commit entry => some entry
  | _ => none

/-- The log is what was committed, in order. -/
theorem log_run (inputs : List (Event Node SubmitError)) :
    ((D.machine SubmitError).run inputs).log = inputs.filterMap commitOf := by
  induction inputs using List.reverseRecOn with
  | nil => rfl
  | append_singleton inputs event ih =>
    rw [Machine.run_snoc, List.filterMap_append, ← ih]
    cases event with
    | commit entry => rfl
    | execute node =>
      simp only [machine, step, commitOf, List.filterMap_cons, List.filterMap_nil, List.append_nil]
      split <;> rfl
    | deliver delivery => exact (List.append_nil _).symm

def submissionsAt (s : DeploymentState Node SubmitError) :
    Event Node SubmitError → List (Submission SubmitError)
  | .deliver delivery => (D.settle s delivery).1
  | _ => []

def bundlesAt (s : DeploymentState Node SubmitError) : Event Node SubmitError → List Bytes
  | .deliver delivery => (D.settle s delivery).2.toList
  | _ => []

theorem submissions_run (inputs : List (Event Node SubmitError)) :
    ((D.machine SubmitError).run inputs).submissions =
      (D.machine SubmitError).emitted D.submissionsAt inputs := by
  refine (D.machine SubmitError).run_emits ?_ inputs
  intro s event
  cases event with
  | commit entry => exact (List.append_nil _).symm
  | execute node =>
    simp only [machine, step, submissionsAt, List.append_nil]
    split <;> rfl
  | deliver delivery => rfl

theorem bundles_run (inputs : List (Event Node SubmitError)) :
    ((D.machine SubmitError).run inputs).bundles =
      (D.machine SubmitError).emitted D.bundlesAt inputs := by
  refine (D.machine SubmitError).run_emits ?_ inputs
  intro s event
  cases event with
  | commit entry => exact (List.append_nil _).symm
  | execute node =>
    simp only [machine, step, bundlesAt, List.append_nil]
    split <;> rfl
  | deliver delivery => rfl

variable {D}

/-- What an observer of the deliveries sees comes from a delivery in the run, of a
result of a call committed in the run. -/
theorem mem_emitted_deliver (hpc : D.pc.Documented) {β : Type}
    {emit : DeploymentState Node SubmitError → Event Node SubmitError → List β}
    (hcommit : ∀ s entry, emit s (.commit entry) = [])
    (hexecute : ∀ s node, emit s (.execute node) = [])
    (hnone : ∀ s delivery, D.settle s delivery = ([], none) → emit s (.deliver delivery) = [])
    {inputs : List (Event Node SubmitError)} {b : β}
    (hb : b ∈ (D.machine SubmitError).emitted emit inputs) :
    ∃ s delivery entry intent, Event.deliver delivery ∈ inputs ∧
      (inputs.filterMap commitOf)[delivery.index]? = some entry ∧
      D.Delivers s delivery entry intent ∧ b ∈ emit s (.deliver delivery) := by
  obtain ⟨before, event, after, rfl, hmem⟩ := Machine.mem_emitted _ hb
  cases event with
  | commit entry =>
    rw [hcommit] at hmem
    cases hmem
  | execute node =>
    rw [hexecute] at hmem
    cases hmem
  | deliver delivery =>
    rcases settle_cases hpc (D.results_run before) delivery with hsettle | ⟨entry, intent, h⟩
    · rw [hnone _ _ hsettle] at hmem
      cases hmem
    · have hentry := h.committed
      rw [log_run] at hentry
      refine ⟨_, delivery, entry, intent, by simp, ?_, h, hmem⟩
      rw [List.filterMap_append]
      exact getElem?_of_prefix (List.prefix_append _ _) hentry

theorem mem_submissions (hpc : D.pc.Documented) {inputs : List (Event Node SubmitError)}
    {submission : Submission SubmitError}
    (h : submission ∈ ((D.machine SubmitError).run inputs).submissions) :
    ∃ delivery entry intent, Event.deliver delivery ∈ inputs ∧
      (inputs.filterMap commitOf)[delivery.index]? = some entry ∧
      decodeIntent D.pc entry.call = .ok intent ∧
      submission ∈ callsOf (D.receiptOf delivery entry intent) delivery.answer := by
  rw [submissions_run] at h
  obtain ⟨s, delivery, entry, intent, hdeliver, hcommit, hdelivers, hmem⟩ :=
    mem_emitted_deliver hpc (fun _ _ => rfl) (fun _ _ => rfl)
      (fun s delivery hnone => by simp only [submissionsAt, hnone]) h
  refine ⟨delivery, entry, intent, hdeliver, hcommit, hdelivers.decoded, ?_⟩
  rw [submissionsAt, hdelivers.settled] at hmem
  exact hmem

end Deployment

/-! ## A run -/

/-- One validator, over the fixture's configuration. -/
def fixtureDeployment : Deployment Unit where
  pc := .reference
  blake3 := policyDigest
  handlers _ := fixtureSnapshot.handler

def fixtureCommit (call : Bytes) : Commit := ⟨call, ⟨1713000100000, 10042, Vector.replicate 32 0⟩⟩

def fixtureDelivery : Delivery Unit Unit where
  node := ()
  index := 0
  intentId := Vector.replicate 32 0x11
  status := .committed
  answer := .ok ⟨Vector.replicate 32 0xAB⟩

/-- The fixture, committed, executed and delivered. -/
def fixtureRun (call : Bytes) : List (Event Unit Unit) :=
  [.commit (fixtureCommit call), .execute (), .deliver fixtureDelivery]

theorem fixtureSnapshot_authorizes :
    authorizeDisbursement fixtureIntent fixtureSnapshot.handler.anchor
      fixtureSnapshot.handler.registry 1713000100000 =
        .authorized (authorizedEffect fixtureIntent) := by
  decide

theorem exists_fixtureCall : ∃ call, decodeIntent .reference call = .ok fixtureIntent := by
  obtain ⟨call, -, hdecode, -⟩ :=
    (DisbursementIntentV1.codec_hasLayout Postcard.reference_documented).selfDelimiting.framed
      CanonicalEncodeError.serializerFailure CanonicalDecodeError.malformed .trailingBytes
      fixtureIntent
  exact ⟨call, hdecode⟩

end OracleGuard
