import OracleGuard.Adapter.Artifacts
import OracleGuard.Live.Args
import OracleGuard.Live.Scenario
import OracleGuard.Verifier.Law
import OracleGuard.Verifier.Soundness

/-!
The tool that assembles a record of a live run and verifies it.

* `exit_zero_iff`: the command lines and the files on which it exits with zero.
* `committed_result_clean_iff`: when it finds the record of a validator's result clean.
* `scenario_clean_iff`: when it finds the record of a scenario clean.
-/

namespace OracleGuard

open Fallible Flags Wire

namespace VerifyLiveBundle

inductive Failure where
  | readIntent
  | decodeIntent (err : CanonicalDecodeError)
  | intentId (err : CanonicalEncodeError)
  | readAuth
  | decodeAuth (err : AuthorizationResultDecodeError)
  | txHashRequired
  | assemble (err : AssembleError)
  deriving DecidableEq, Repr

inductive Exit where
  | stopped (stop : Stop)
  | failed (err : Failure)
  | verified (evidence : DisbursementEvidenceV1) (report : VerifierReport)

def Exit.code : Exit → Nat
  | .stopped .help => 0
  | .stopped (.usage _) => 2
  | .failed .txHashRequired => 2
  | .failed _ => 1
  | .verified _ report => if report.isOk then 0 else 1

/-- A hash that comes with a denial is ignored. -/
def outcomeFor (authorization : AuthorizationResult) (txHash : Option Bytes32) :
    Except Failure FulfillmentOutcome :=
  match authorization with
  | .authorized _ =>
    match txHash with
    | some txHash => .ok (.settled ⟨txHash⟩)
    | none => .error .txHashRequired
  | .denied reason gate => .ok (.deniedUpstream reason gate)

def readFile (read : String → Option Bytes) (path : String) (err : Failure) :
    Except Failure Bytes :=
  match read path with
  | some bytes => .ok bytes
  | none => .error err

section Main

variable (pc : Postcard) (blake3 : Blake3) (read : String → Option Bytes)

/-- Up to the report; `read` is the file system. -/
def assemble (a : Args) : Except Failure DisbursementEvidenceV1 := do
  let intentBytes ← readFile read a.intentPath .readIntent
  let intent ← (decodeIntent pc intentBytes).mapError .decodeIntent
  let id ← (intentId pc blake3 intent).mapError .intentId
  let authBytes ← readFile read a.authPath .readAuth
  let authorization ← (AuthorizationResult.decode pc authBytes).mapError .decodeAuth
  let receipt : IntentReceiptV1 :=
    { intentId := id
      status := .committed
      committedHeight := a.committedHeight
      output := authorization }
  let outcome ← outcomeFor authorization a.txHash
  let nowUnixMs := intent.oracleProvenance.timestampUnix
  (assembleDisbursementEvidence pc blake3 intent receipt outcome a.allocationBasisLovelace
    nowUnixMs).mapError .assemble

def main (args : List String) : Exit :=
  match parseArgs args with
  | .error stop => .stopped stop
  | .ok a =>
    match assemble pc blake3 read a with
    | .error err => .failed err
    | .ok evidence => .verified evidence (verifyEvidence pc blake3 evidence)

end Main

/-- The authorizations that the tool finds clean beside an intent. -/
def Justifies (a : Args) (i : DisbursementIntentV1) : AuthorizationResult → Prop
  | .authorized effect =>
    (∃ txHash, a.txHash = some txHash) ∧ VerdictConsistent i (.authorized effect) ∧
      evaluateDisbursement i a.allocationBasisLovelace =
        .allow effect.authorizedAmountLovelace effect.releaseCapBasisPoints
  | .denied reason gate =>
    gate = reason.gate ∧ (reason.gate = .grant → reason ≠ .oracleStale →
      evaluateDisbursement i a.allocationBasisLovelace = .deny reason)

variable {pc : Postcard} {blake3 : Blake3} {read : String → Option Bytes}

theorem readFile_eq_ok {path : String} {err : Failure} {bytes : Bytes} :
    readFile read path err = .ok bytes ↔ read path = some bytes := by
  unfold readFile
  cases read path <;> simp

theorem outcomeFor_eq_ok {authorization : AuthorizationResult} {txHash : Option Bytes32}
    {outcome : FulfillmentOutcome} :
    outcomeFor authorization txHash = .ok outcome ↔
      (∃ effect k, authorization = .authorized effect ∧ txHash = some k ∧
        outcome = .settled ⟨k⟩) ∨
      ∃ reason gate, authorization = .denied reason gate ∧
        outcome = .deniedUpstream reason gate := by
  unfold outcomeFor
  cases authorization with
  | authorized effect => cases txHash <;> simp [eq_comm]
  | denied reason gate => simp [eq_comm]

/-- The record of a run. -/
def recordFor (a : Args) (i : DisbursementIntentV1) (id : Bytes32)
    (authorization : AuthorizationResult) (outcome : FulfillmentOutcome) :
    DisbursementEvidenceV1 :=
  recordOf i ⟨id, .committed, a.committedHeight, authorization⟩ outcome
    a.allocationBasisLovelace i.oracleProvenance.timestampUnix

theorem assemble_eq_ok {a : Args} {e : DisbursementEvidenceV1} :
    assemble pc blake3 read a = .ok e ↔ ∃ intentBytes i id authBytes authorization outcome,
      read a.intentPath = some intentBytes ∧ decodeIntent pc intentBytes = .ok i ∧
      intentId pc blake3 i = .ok id ∧ read a.authPath = some authBytes ∧
      AuthorizationResult.decode pc authBytes = .ok authorization ∧
      outcomeFor authorization a.txHash = .ok outcome ∧
      recordFor a i id authorization outcome = e := by
  simp only [assemble, bind_eq_ok, readFile_eq_ok, mapError_eq_ok]
  constructor
  · rintro ⟨intentBytes, hintent, i, hi, id, hid, authBytes, hauth, authorization, hresult,
      outcome, houtcome, h⟩
    rw [assembleDisbursementEvidence_ok hid] at h
    exact ⟨_, i, id, _, authorization, outcome, hintent, hi, hid, hauth, hresult, houtcome,
      Except.ok.inj h⟩
  · rintro ⟨intentBytes, i, id, authBytes, authorization, outcome, hintent, hi, hid, hauth,
      hresult, houtcome, rfl⟩
    refine ⟨_, hintent, i, hi, id, hid, _, hauth, authorization, hresult, outcome, houtcome, ?_⟩
    exact @assembleDisbursementEvidence_ok pc blake3 i ⟨id, .committed, _, _⟩ hid outcome _ _

/-- One record: its execution is always one that may stand beside its verdict. -/
theorem recordFor_clean {a : Args} {i : DisbursementIntentV1} {id : Bytes32}
    (hid : intentId pc blake3 i = .ok id) {authorization : AuthorizationResult}
    {outcome : FulfillmentOutcome} (houtcome : outcomeFor authorization a.txHash = .ok outcome) :
    (verifyEvidence pc blake3 (recordFor a i id authorization outcome)).isOk = true ↔
      i.intentVersion = 1 ∧ Justifies a i authorization := by
  rw [verifyEvidence_isOk]
  rcases outcomeFor_eq_ok.mp houtcome with ⟨effect, k, rfl, hk, rfl⟩ | ⟨reason, gate, rfl, rfl⟩
  · have hreplay : Replayed (recordFor a i id (.authorized effect) (.settled ⟨k⟩)) ↔
        evaluateDisbursement i a.allocationBasisLovelace =
          .allow effect.authorizedAmountLovelace effect.releaseCapBasisPoints :=
      replayed_authorized rfl
    constructor
    · exact fun h => ⟨h.intentVersion, ⟨k, hk⟩, h.consistent, hreplay.mp h.replayed⟩
    · rintro ⟨hversion, -, hconsistent, heval⟩
      exact ⟨rfl, hversion, hid, hconsistent, trivial, hreplay.mpr heval⟩
  · have hreplay : Replayed (recordFor a i id (.denied reason gate) (.deniedUpstream reason gate)) ↔
        (reason.gate = .grant → reason ≠ .oracleStale →
          evaluateDisbursement i a.allocationBasisLovelace = .deny reason) := by
      simp only [evaluateDisbursement_eq_deny]
      exact replayed_denied rfl
    constructor
    · exact fun h => ⟨h.intentVersion, h.consistent, hreplay.mp h.replayed⟩
    · rintro ⟨hversion, hgate, heval⟩
      exact ⟨rfl, hversion, hid, hgate, ⟨rfl, rfl⟩, hreplay.mpr heval⟩

theorem code_eq_zero {args : List String} :
    (main pc blake3 read args).code = 0 ↔ parseArgs args = .error .help ∨
      ∃ a e, parseArgs args = .ok a ∧ assemble pc blake3 read a = .ok e ∧
        (verifyEvidence pc blake3 e).isOk = true := by
  unfold main
  cases parseArgs args with
  | error stop => cases stop <;> simp [Exit.code]
  | ok a =>
    cases hassemble : assemble pc blake3 read a with
    | error err => cases err <;> simp [Exit.code, hassemble]
    | ok e => simp [Exit.code, hassemble]

/-- The verdict on two files that decode. -/
theorem code_of_files (hpc : pc.Documented) {args : List String} {a : Args}
    {i : DisbursementIntentV1} {authorization : AuthorizationResult} {intentBytes authBytes : Bytes}
    (hargs : parseArgs args = .ok a) (hread : read a.intentPath = some intentBytes)
    (hi : decodeIntent pc intentBytes = .ok i) (hauth : read a.authPath = some authBytes)
    (hresult : AuthorizationResult.decode pc authBytes = .ok authorization) :
    (main pc blake3 read args).code = 0 ↔ i.intentVersion = 1 ∧ Justifies a i authorization := by
  rw [code_eq_zero]
  constructor
  · rintro (hhelp | ⟨a', e, hargs', hassemble, hclean⟩)
    · cases hargs.symm.trans hhelp
    · obtain rfl : a' = a := Except.ok.inj (hargs'.symm.trans hargs)
      obtain ⟨intentBytes', i', id, authBytes', authorization', outcome, hread', hi', hid, hauth',
        hresult', houtcome, rfl⟩ := assemble_eq_ok.mp hassemble
      obtain rfl : intentBytes' = intentBytes := Option.some.inj (hread'.symm.trans hread)
      obtain rfl : i' = i := Except.ok.inj (hi'.symm.trans hi)
      obtain rfl : authBytes' = authBytes := Option.some.inj (hauth'.symm.trans hauth)
      obtain rfl : authorization' = authorization := Except.ok.inj (hresult'.symm.trans hresult)
      exact (recordFor_clean hid houtcome).mp hclean
  · rintro ⟨hversion, hjust⟩
    obtain ⟨id, hid⟩ := intentId_ok hpc blake3 i
    obtain ⟨outcome, houtcome⟩ : ∃ outcome, outcomeFor authorization a.txHash = .ok outcome := by
      cases authorization with
      | authorized effect =>
        obtain ⟨⟨k, hk⟩, -⟩ := hjust
        exact ⟨_, outcomeFor_eq_ok.mpr (.inl ⟨effect, k, rfl, hk, rfl⟩)⟩
      | denied reason gate => exact ⟨_, outcomeFor_eq_ok.mpr (.inr ⟨reason, gate, rfl, rfl⟩)⟩
    exact .inr ⟨a, _, hargs, assemble_eq_ok.mpr ⟨_, i, id, _, authorization, outcome, hread, hi,
      hid, hauth, hresult, houtcome, rfl⟩, (recordFor_clean hid houtcome).mpr ⟨hversion, hjust⟩⟩

/-- **When the tool exits with zero**: it was asked for help, or the record is clean. -/
theorem exit_zero_iff (hpc : pc.Documented) (blake3 : Blake3) (read : String → Option Bytes)
    (args : List String) :
    (main pc blake3 read args).code = 0 ↔ parseArgs args = .error .help ∨
      ∃ a intentBytes i authBytes authorization, parseArgs args = .ok a ∧
        read a.intentPath = some intentBytes ∧ decodeIntent pc intentBytes = .ok i ∧
        read a.authPath = some authBytes ∧
        AuthorizationResult.decode pc authBytes = .ok authorization ∧
        i.intentVersion = 1 ∧ Justifies a i authorization := by
  constructor
  · intro hcode
    rcases code_eq_zero.mp hcode with hhelp | ⟨a, e, hargs, hassemble, -⟩
    · exact .inl hhelp
    · obtain ⟨_, i, id, _, authorization, outcome, hread, hi, -, hauth, hresult, -, -⟩ :=
        assemble_eq_ok.mp hassemble
      exact .inr ⟨a, _, i, _, authorization, hargs, hread, hi, hauth, hresult,
        (code_of_files hpc hargs hread hi hauth hresult).mp hcode⟩
  · rintro (hhelp | ⟨a, _, i, _, authorization, hargs, hread, hi, hauth, hresult, hclean⟩)
    · exact code_eq_zero.mpr (.inl hhelp)
    · exact (code_of_files hpc hargs hread hi hauth hresult).mpr hclean

/-- A hash in upper case and a number with a sign. -/
def fixtureArgs : List String :=
  ["--intent-path", "intent.postcard", "--auth-path", "result.postcard", "--tx-hash",
    "ABABABABABABABABABABABABABABABABABABABABABABABABABABABABABABABAB",
    "--committed-height", "10042", "--allocation-basis-lovelace", "+2000000000"]

def fixtureRead : Args :=
  ⟨"intent.postcard", "result.postcard", some (Vector.replicate 32 0xAB), 10042, 2000000000⟩

theorem fixtureArgs_read : parseArgs fixtureArgs = .ok fixtureRead := by decide

def fixtureFiles (intentBytes authBytes : Bytes) (path : String) : Option Bytes :=
  if path = "intent.postcard" then some intentBytes
  else if path = "result.postcard" then some authBytes
  else none

theorem exit_zero_fixture :
    ∃ intentBytes authBytes, decodeIntent .reference intentBytes = .ok fixtureIntent ∧
      (main .reference policyDigest (fixtureFiles intentBytes authBytes) fixtureArgs).code = 0 := by
  have hpc := Postcard.reference_documented
  obtain ⟨intentBytes, -, hintent⟩ := exists_call hpc fixtureIntent
  let effect : AuthorizedEffectV1 := authorizedEffect fixtureIntent
  obtain ⟨authBytes, hencode⟩ := (AuthorizationResult.authorized effect).encode_ok hpc
  refine ⟨intentBytes, authBytes, hintent, (exit_zero_iff hpc policyDigest _ _).mpr (.inr ?_)⟩
  refine ⟨fixtureRead, intentBytes, fixtureIntent, authBytes, .authorized effect, fixtureArgs_read,
    rfl, hintent, rfl, AuthorizationResult.decode_encode hpc hencode, rfl, ⟨_, rfl⟩, ?_, by decide⟩
  exact ⟨rfl, rfl, rfl, rfl, rfl, rfl⟩

/-! ## The record of a validator's result -/

/-- The closure justifies itself, at whatever time it ran. -/
theorem justifies_closure {a : Args} {i : DisbursementIntentV1} {anchor : PolicyAnchorView}
    {registry : AllocationRegistryView} {now : UInt64}
    (hbasis : ∀ facts, registry.lookup i.allocationId = some facts →
      facts.basisLovelace = a.allocationBasisLovelace) :
    Justifies a i (authorizeDisbursement i anchor registry now) ↔
      ((∃ effect, authorizeDisbursement i anchor registry now = .authorized effect) →
        ∃ txHash, a.txHash = some txHash) := by
  let authorization := authorizeDisbursement i anchor registry now
  let e : DisbursementEvidenceV1 := recordOf i ⟨Vector.replicate 32 0, .committed, 0, authorization⟩
    (.rejectedAtFulfillment .nonAdaAsset) a.allocationBasisLovelace now
  have hproduced : ProducedByClosure e := ⟨anchor, registry, rfl, hbasis⟩
  have hconsistent : VerdictConsistent i authorization.toSnapshot := hproduced.consistent
  have hreplayed := hproduced.replayed
  cases hrun : authorizeDisbursement i anchor registry now with
  | authorized effect =>
    have hsnapshot : e.authorization = .authorized effect :=
      congrArg AuthorizationResult.toSnapshot hrun
    have heval : evaluateDisbursement i a.allocationBasisLovelace =
        .allow effect.authorizedAmountLovelace effect.releaseCapBasisPoints :=
      (replayed_authorized hsnapshot).mp hreplayed
    have hfields : VerdictConsistent i (.authorized effect) := hsnapshot ▸ hconsistent
    constructor
    · exact fun h _ => h.1
    · exact fun h => ⟨h ⟨effect, rfl⟩, hfields, heval⟩
  | denied reason gate =>
    have hsnapshot : e.authorization = .denied reason gate :=
      congrArg AuthorizationResult.toSnapshot hrun
    have hgate : VerdictConsistent i (.denied reason gate) := hsnapshot ▸ hconsistent
    have hreplay := (replayed_denied hsnapshot).mp hreplayed
    simp only [← evaluateDisbursement_eq_deny] at hreplay
    simp only [reduceCtorEq, exists_false, false_implies, iff_true]
    exact ⟨hgate, hreplay⟩

/-- **The record of a validator's result**: on the validator's allocation the tool asks for
the version and, where there was a payment, for its hash. -/
theorem committed_result_clean_iff (hpc : pc.Documented) {handler : DisbursementHandler}
    {call b : Bytes} {ctx : CommitContext} (hhandle : handler.handle pc call ctx = .ok b)
    {i : DisbursementIntentV1} (hi : decodeIntent pc call = .ok i) {args : List String} {a : Args}
    (hargs : parseArgs args = .ok a) (hintent : read a.intentPath = some call)
    (hauth : read a.authPath = some b)
    (hbasis : ∀ facts, handler.registry.lookup i.allocationId = some facts →
      facts.basisLovelace = a.allocationBasisLovelace) :
    (main pc blake3 read args).code = 0 ↔ i.intentVersion = 1 ∧
      ((∃ effect, AuthorizationResult.decode pc b = .ok (.authorized effect)) →
        ∃ txHash, a.txHash = some txHash) := by
  obtain ⟨i', hi', hresult⟩ := DisbursementHandler.handle_eq_ok hpc hhandle
  obtain rfl : i' = i := Except.ok.inj (hi'.symm.trans hi)
  rw [code_of_files hpc hargs hintent hi hauth hresult, justifies_closure hbasis, hresult]
  simp only [Except.ok.injEq]

theorem committed_result_clean_fixture :
    ∃ call b, fixtureHandler.handle .reference call
        ⟨1713000100000, 10042, Vector.replicate 32 0⟩ = .ok b ∧
      (main .reference policyDigest (fixtureFiles call b) fixtureArgs).code = 0 := by
  have hpc := Postcard.reference_documented
  obtain ⟨call, -, hcall⟩ := exists_call hpc fixtureIntent
  obtain ⟨b, hb, -⟩ := DisbursementHandler.handle_decoded hpc hcall fixtureHandler
    ⟨1713000100000, 10042, Vector.replicate 32 0⟩
  refine ⟨call, b, hb, ?_⟩
  refine (committed_result_clean_iff hpc hb hcall fixtureArgs_read rfl rfl ?_).mpr
    ⟨rfl, fun _ => ⟨_, rfl⟩⟩
  rintro facts ⟨⟩
  rfl

/-! ## The record of a scenario -/

open BuildLiveScenario (Live Runs Scenario scenarioIntent predicted)

theorem verdict_denied (reason : DisbursementReasonCode) :
    "Deny:" ++ BuildLiveScenario.reasonName reason ≠ "Allow" := by
  cases reason <;> decide

/-- What is predicted is what the verifier asks for, on the same evaluation. -/
theorem justifies_predicted {a : Args} {i : DisbursementIntentV1} {allocationLovelace : UInt64} :
    Justifies a i (predicted i allocationLovelace).1 ↔
      evaluateDisbursement i a.allocationBasisLovelace =
          evaluateDisbursement i allocationLovelace ∧
        ((predicted i allocationLovelace).2.2 = "Allow" → ∃ txHash, a.txHash = some txHash) := by
  unfold predicted
  cases heval : evaluateDisbursement i allocationLovelace with
  | allow amount cap =>
    have hamount : amount = i.requestedAmountLovelace :=
      ((evaluateDisbursement_eq_allow _ _ _ _).mp heval).2.2.2.1
    simp [Justifies, VerdictConsistent, hamount, and_comm]
  | deny reason =>
    have hgate : AuthorizationGate.grant = reason.gate ∧ reason ≠ .oracleStale := by
      rcases (evaluateDisbursement_eq_deny _ _ _).mp heval with ⟨rfl, -⟩ | ⟨rfl, -⟩ | ⟨rfl, -⟩ <;>
        decide
    simp [Justifies, ← hgate.1, hgate.2, verdict_denied reason]

/-- **The record of a scenario**: the versions agree, the allocation is evaluated as it was
for the prediction, and what is allowed was settled. -/
theorem scenario_clean_iff (hpc : pc.Documented) {cbor : Minicbor} {fetched : Kupo.AggStateFetch}
    {built : BuildLiveScenario.Args} {template : DisbursementIntentV1} {live : Live}
    (hruns : Runs pc blake3 cbor fetched built template live) (scenario : Scenario)
    {args : List String} {a : Args} (hargs : parseArgs args = .ok a)
    (hintent : read a.intentPath = some (live.out scenario).intentBytes)
    (hauth : read a.authPath = some (live.out scenario).resultBytes) :
    (main pc blake3 read args).code = 0 ↔
      template.intentVersion = 1 ∧
        (let i := scenarioIntent scenario template live.evalFact live.provenance live.capLovelace
        evaluateDisbursement i a.allocationBasisLovelace =
          evaluateDisbursement i built.allocationLovelace) ∧
        ((live.out scenario).verdict = "Allow" → ∃ txHash, a.txHash = some txHash) := by
  have hbuilds := hruns.builds scenario
  rw [code_of_files hpc hargs hintent hbuilds.decoded hauth
    (AuthorizationResult.decode_encode hpc hbuilds.resultBytes), justifies_predicted,
    hbuilds.verdict]
  rfl

end VerifyLiveBundle

end OracleGuard
