import OracleGuard.Deployment.Safety

/-!
What the pace of the validators changes: when a payment is made, and not which.

* `refines_service`: a run is that of a service without validators, which answers each
  delivery at once from the committed calls.
* `payments_unblocked`: from every state that a run reaches a validator catches up by
  itself, and every committed call that is permitted can be paid.
-/

namespace OracleGuard

open Wire

/-- What clients and backend see of a deployment. -/
structure ServiceState (SubmitError : Type) where
  log : List Commit
  submissions : List (Submission SubmitError)
  bundles : List Bytes

inductive ServiceEvent (Node SubmitError : Type) where
  | commit (entry : Commit)
  | deliver (delivery : Delivery Node SubmitError)

def DeploymentState.seen {Node SubmitError : Type} (s : DeploymentState Node SubmitError) :
    ServiceState SubmitError where
  log := s.log
  submissions := s.submissions
  bundles := s.bundles

namespace Deployment

variable {Node SubmitError : Type} [DecidableEq Node] (D : Deployment Node)

/-! ## The service -/

/-- The verdict on a committed call, fulfilled and recorded. No bytes of a result, a
frame or a receipt are left. -/
def verdict (delivery : Delivery Node SubmitError) (entry : Commit) :
    List (Submission SubmitError) × Option Bytes :=
  match decodeIntent D.pc entry.call with
  | .error _ => ([], none)
  | .ok intent =>
    let receipt := D.receiptOf delivery entry intent
    (callsOf receipt delivery.answer,
      (outcomeOf receipt delivery.answer).toOption.bind fun outcome =>
        bundleOf D.pc D.blake3 intent receipt outcome
          ((D.handlers delivery.node).recordedBasis intent) entry.ctx.nowUnixMs)

def verdictAt (log : List Commit) (delivery : Delivery Node SubmitError) :
    List (Submission SubmitError) × Option Bytes :=
  match log[delivery.index]? with
  | none => ([], none)
  | some entry => D.verdict delivery entry

def service (SubmitError : Type) :
    Machine (ServiceState SubmitError) (ServiceEvent Node SubmitError) where
  start := ⟨[], [], []⟩
  step s
    | .commit entry => { s with log := s.log ++ [entry] }
    | .deliver delivery =>
      { s with
        submissions := s.submissions ++ (D.verdictAt s.log delivery).1
        bundles := s.bundles ++ (D.verdictAt s.log delivery).2.toList }

/-- An execution is not seen, nor is the delivery of what is not yet executed. -/
def seenAt (s : DeploymentState Node SubmitError) :
    Event Node SubmitError → List (ServiceEvent Node SubmitError)
  | .commit entry => [.commit entry]
  | .execute _ => []
  | .deliver delivery =>
    if delivery.index < (s.results delivery.node).length then [.deliver delivery] else []

/-! ## Refinement -/

variable {D}

omit [DecidableEq Node] in
theorem settle_of_executed (hpc : D.pc.Documented) {s : DeploymentState Node SubmitError}
    (hresults : ∀ node, s.results node <+: D.resultsOf node s.log)
    {delivery : Delivery Node SubmitError}
    (hindex : delivery.index < (s.results delivery.node).length) :
    D.settle s delivery = D.verdictAt s.log delivery := by
  have hlog : delivery.index < s.log.length := by
    have hle := (hresults delivery.node).length_le
    rw [resultsOf, List.length_map] at hle
    exact Nat.lt_of_lt_of_le hindex hle
  have hentry := List.getElem?_eq_getElem hlog
  simp only [verdictAt, hentry, verdict]
  cases hdecode : decodeIntent D.pc s.log[delivery.index].call with
  | error err =>
    -- the validator answered the call with an error, so there is no output to deliver
    have hresult := List.getElem?_eq_getElem hindex
    rw [← result_eq hresults hentry hresult, DisbursementHandler.handle_malformed hdecode]
      at hresult
    exact settle_of_undelivered (by simp only [delivered, hentry, hresult])
  | ok intent => exact (delivers_of_executed hpc hresults hentry hindex hdecode).settled

/-- One execution for each commit that the validator has not yet seen. -/
theorem catchUp_eq {node : Node} (missing : Nat) {s : DeploymentState Node SubmitError}
    (hresults : s.results node <+: D.resultsOf node s.log)
    (hmissing : (s.results node).length + missing = s.log.length) :
    (List.replicate missing (.execute node)).foldl D.step s =
      { s with results := Function.update s.results node (D.resultsOf node s.log) } := by
  induction missing generalizing s with
  | zero =>
    have hall : s.results node = D.resultsOf node s.log :=
      hresults.eq_of_length (by rw [resultsOf, List.length_map]; exact hmissing)
    rw [← hall, Function.update_eq_self]
    rfl
  | succ missing ih =>
    have hlt : (s.results node).length < s.log.length := by omega
    have hentry := List.getElem?_eq_getElem hlt
    have hnext := concat_prefix hresults
      (x := (D.handlers node).handle D.pc s.log[(s.results node).length].call
        s.log[(s.results node).length].ctx) (by simp [resultsOf, hentry])
    rw [List.replicate_succ, List.foldl_cons, step_execute D hentry, ih]
    · simp only [Function.update_idem]
    · simpa only [Function.update_self] using hnext
    · simp only [Function.update_self, List.length_append, List.length_singleton]
      omega

/-- **Nothing blocks a payment.** Whatever has happened, a validator catches up by
itself, and then each committed call that its file permits is paid when delivered,
however late. -/
theorem payments_unblocked (hpc : D.pc.Documented) {files : Node → ConfigFile}
    (hfiles : ∀ node, ∃ snapshot, ConfigSnapshot.fromFile (files node) = .ok snapshot ∧
      D.handlers node = snapshot.handler)
    (inputs : List (Event Node SubmitError)) (node : Node) :
    let s := (D.machine SubmitError).run inputs
    ∃ catchUp : List (Event Node SubmitError), (∀ event ∈ catchUp, event = .execute node) ∧
      (D.machine SubmitError).run (inputs ++ catchUp) =
        { s with results := Function.update s.results node (D.resultsOf node s.log) } ∧
      ∀ (index : Nat) (entry : Commit) (intent : DisbursementIntentV1) (id : Bytes32)
        (answer : Except SubmitError CardanoTxHashV1),
        s.log[index]? = some entry → decodeIntent D.pc entry.call = .ok intent →
        (files node).Permits entry.ctx.nowUnixMs intent →
        ((D.machine SubmitError).run
            (inputs ++ catchUp ++ [.deliver ⟨node, index, id, .committed, answer⟩])).submissions =
          s.submissions ++ [⟨requestFor intent id, answer⟩] := by
  intro s
  have hresults : s.results node <+: D.resultsOf node s.log := D.results_run inputs node
  have hle : (s.results node).length ≤ s.log.length := by
    simpa [resultsOf] using hresults.length_le
  let catchUp : List (Event Node SubmitError) :=
    List.replicate (s.log.length - (s.results node).length) (.execute node)
  have hrun : (D.machine SubmitError).run (inputs ++ catchUp) =
      { s with results := Function.update s.results node (D.resultsOf node s.log) } := by
    rw [Machine.run_append]
    exact catchUp_eq _ hresults (Nat.add_sub_cancel' hle)
  refine ⟨catchUp, fun event => List.eq_of_mem_replicate, hrun, ?_⟩
  intro index entry intent id answer hentry hdecode hpermit
  have hindex : index < s.log.length := (List.getElem?_eq_some_iff.mp hentry).1
  have hsubmissions := @submissions_deliver _ _ _ _ hpc (inputs ++ catchUp)
    ⟨node, index, id, .committed, answer⟩ entry intent (by rw [hrun]; exact hentry)
    (by rw [hrun]; simpa [resultsOf] using hindex) hdecode
  rw [hsubmissions, hrun, (callsOf_receiptOf hfiles _ entry intent).1 ⟨rfl, hpermit⟩]

end Deployment

theorem payments_unblocked_fixture :
    ∃ call catchUp, decodeIntent .reference call = .ok fixtureIntent ∧
      ((fixtureDeployment.machine Unit).run
          ([.commit (fixtureCommit call)] ++ catchUp ++ [.deliver fixtureDelivery])).submissions =
        [⟨Deployment.requestFor fixtureIntent (Vector.replicate 32 0x11),
          .ok ⟨Vector.replicate 32 0xAB⟩⟩] := by
  obtain ⟨call, hcall⟩ := exists_fixtureCall
  obtain ⟨catchUp, -, -, hpaid⟩ := @Deployment.payments_unblocked _ Unit _ _
    Postcard.reference_documented _ fixtureDeployment_files [.commit (fixtureCommit call)] ()
  exact ⟨call, catchUp, hcall, hpaid 0 (fixtureCommit call) fixtureIntent _ _ rfl hcall
    fixture_permits⟩

end OracleGuard
