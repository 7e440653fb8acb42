import OracleGuard.Adapter.CardanoCli
import OracleGuard.Adapter.PyCardano

/-!
Settlement down to the node: the Rust backend starts the script, the script pays through
`pycardano` and prints an id, and the backend reads it. What runs the script is a `Host`.

* `submit_settles`: what one submission reports, and what it leaves accepted.
* `settled_accepted`: over a run, each settled receipt has the one transaction that its
  hash names. Where the script raised while it paid there may be one as well.
-/

namespace OracleGuard

open Raising Wire

/-! ## The script -/

/-- What the script finds where it runs, and what is on its standard error when it ends.
Only its own `print` writes to its standard output. -/
structure Host (World : Type) (C : PyClasses) where
  py : Python
  urlparse : String → Except PyError ParsedUrl
  pycardano : Option (PyCardano World C)
  poolMnemonic : Option String
  spawnError : PathBuf → Option String
  stderr : World → Bytes

def EXIT_OK : Int := 0

def EXIT_ARGS : Int := 2

def EXIT_MNEMONIC : Int := 3

def EXIT_IMPORT : Int := 4

def EXIT_DECODE : Int := 5

def EXIT_BUILD : Int := 6

section Script

variable {World : Type} {C : PyClasses} (host : Host World C)

def Host.exit (code : Int) (stdout : Bytes) : StateM World Output := do
  return ⟨some code, stdout, host.stderr (← get)⟩

/-- The end of `main`: `print` ends its line. -/
def Host.report : Except PyError String → StateM World Output
  | .error .valueError => host.exit EXIT_DECODE []
  | .error .other => host.exit EXIT_BUILD []
  | .ok txIdHex => host.exit EXIT_OK (utf8 (txIdHex ++ "\n"))

/-- `main` -/
def Host.main (argv : List String) : StateM World Output := do
  match parseArgs host.py argv with
  | none => host.exit EXIT_ARGS []
  | some args =>
    if host.poolMnemonic.getD "" = "" then host.exit EXIT_MNEMONIC []
    else
      match host.pycardano with
      | none => host.exit EXIT_IMPORT []
      | some pc => do
        host.report
          (← (buildAndSubmit host.py host.urlparse pc args (host.poolMnemonic.getD "")).run)

/-- The interpreter runs the script that comes first. -/
def Host.command : Command World := fun bin args => do
  match host.spawnError bin with
  | some err => return .error err
  | none => return .ok (← host.main args.tail)

end Script

/-! ## The backend -/

structure PythonBackend extends PyCardanoDisburseBackend where
  pythonBin : PathBuf

section Backend

variable {World : Type} (command : Command World) (backend : PythonBackend)

/-- The digits of the arguments are always found. -/
def PythonBackend.args (request : SettlementRequest) : List String :=
  (buildSubmitArgs backend.toPyCardanoDisburseBackend request).get
    (by rw [buildSubmitArgs_eq]; rfl)

def PythonBackend.settlement : SettlementBackend World SettlementSubmitError where
  submit request := spawnTxid command backend.pythonBin (backend.args request)

theorem PythonBackend.args_eq (request : SettlementRequest) :
    backend.args request = submitArgs backend.toPyCardanoDisburseBackend request := by
  simp only [args, buildSubmitArgs_eq, Option.get_some]

end Backend

/-! ## What is accepted -/

/-- The bytes that the script makes an address of. -/
def CardanoAddressV1.semantic (d : CardanoAddressV1) : Bytes := d.bytes.toList.take d.length.toNat

section Accepted

variable {World : Type} {C : PyClasses} (host : Host World C) (attributes : PyAttributes C)

/-- A transaction that pays a request from the pool of a backend. -/
structure PaysRequest (pc : PyCardano World C) (backend : PyCardanoDisburseBackend)
    (request : SettlementRequest) (tx : C.Transaction) : Prop where
  outputs : ∃ pool destination change, pc.addressOfText backend.poolAddress = .ok pool ∧
    pc.addressOfBytes request.destination.semantic = .ok destination ∧
    attributes.outputs tx = ⟨destination, request.amountLovelace.toNat⟩ :: change ∧
    ∀ output ∈ change, output.address = pool
  data : (attributes.auxiliaryData tx).map attributes.data =
    some [(674, [("oracleguard_intent_id", Hex.text request.intentId.toList)])]

/-- What is reported of a submission, next to the transactions that it leaves accepted. -/
inductive Submits (backend : PyCardanoDisburseBackend) (request : SettlementRequest) :
    Except SettlementSubmitError CardanoTxHashV1 → List C.Transaction → Prop
  | sent {pc tx hash} : host.pycardano = some pc → PaysRequest attributes pc backend request tx →
      hash.bytes = pc.idPayload tx → Submits backend request (.ok hash) [tx]
  | doubtful {pc tx code stderr} : host.pycardano = some pc →
      PaysRequest attributes pc backend request tx → code = EXIT_DECODE ∨ code = EXIT_BUILD →
      Submits backend request (.error (.nonZeroExit (some code) [] stderr)) [tx]
  | failed {err} : Submits backend request (.error err) []

/-- What is reported of a receipt. -/
inductive Settles (backend : PyCardanoDisburseBackend) (receipt : IntentReceiptV1) :
    Except SettlementSubmitError FulfillmentOutcome → List C.Transaction → Prop
  | submitted {request result txs} : requestOwed receipt = some request →
      Submits host attributes backend request result txs →
      Settles backend receipt (result.map .settled) txs
  | refused {outcome} : requestOwed receipt = none → (∀ hash, outcome ≠ .settled hash) →
      Settles backend receipt (.ok outcome) []

end Accepted

section Submission

variable {World : Type} {C : PyClasses} {host : Host World C} (hpy : host.py.Documented)
  {attributes : PyAttributes C} {accepted : World → List C.Transaction}
  (hchain : ∀ pc, host.pycardano = some pc → pc.Documented attributes accepted)

include hpy in
theorem parseArgs_eq_some {backend : PyCardanoDisburseBackend} {request : SettlementRequest}
    {args : Arguments} (h : parseArgs host.py (submitArgs backend request).tail = some args) :
    args = {
      ogmiosUrl := backend.ogmiosUrl
      poolAddress := backend.poolAddress
      destinationBytesHex := Hex.text request.destination.bytes.toList
      destinationLength := request.destination.length.toNat
      amountLovelace := request.amountLovelace.toNat
      intentId := Hex.text request.intentId.toList } := by
  cases hurl : host.py.isValue backend.ogmiosUrl with
  | false =>
    rw [parseArgs, submitArgs, List.tail_cons, parseOptions_option hurl] at h
    cases h
  | true =>
    cases hpool : host.py.isValue backend.poolAddress with
    | false =>
      rw [parseArgs, submitArgs, List.tail_cons, parseOptions_value hurl rfl,
        parseOptions_option hpool] at h
      cases h
    | true =>
      rw [parseArgs_submitArgs hpy request hurl hpool] at h
      exact (Option.some.inj h).symm

include hpy in
theorem buildDestination_eq_some {d : CardanoAddressV1} {trimmed : Bytes}
    (h : buildDestination host.py (Hex.text d.bytes.toList) d.length.toNat = some trimmed) :
    trimmed = d.semantic := by
  rw [buildDestination] at h
  split at h
  · cases h
  · have hcount : d.bytes.toList.length = 57 := Vector.length_toList
    simp only [fromhex_text hpy, Option.bind_eq_bind, Option.bind_some, hcount, gt_iff_lt,
      lt_irrefl, if_false, Int.toNat_natCast] at h
    exact (Option.some.inj h).symm

include hpy in
theorem CarriesOut.paysRequest {pc : PyCardano World C} {backend : PyCardanoDisburseBackend}
    {request : SettlementRequest} {args : Arguments} {tx : C.Transaction}
    (hargs : parseArgs host.py (submitArgs backend request).tail = some args)
    (h : CarriesOut host.py pc attributes args tx) :
    PaysRequest attributes pc backend request tx := by
  obtain ⟨⟨pool, destination, change, hpool, hdestination, houtputs, hchange⟩, hdata⟩ := h
  rw [parseArgs_eq_some hpy hargs] at hpool hdestination houtputs hdata
  unfold buildDestinationAddress at hdestination
  cases htrimmed : buildDestination host.py (Hex.text request.destination.bytes.toList)
      request.destination.length.toNat with
  | none =>
    rw [htrimmed] at hdestination
    cases hdestination
  | some trimmed =>
    rw [htrimmed] at hdestination
    rw [buildDestination_eq_some hpy htrimmed] at hdestination
    exact ⟨⟨pool, destination, change, hpool, hdestination, houtputs, hchange⟩, hdata⟩

/-- The script ends before it calls anything of `pycardano`, or it reports how that ends. -/
theorem main_cases (argv : List String) :
    (∃ code, code ≠ 0 ∧ host.main argv = host.exit code []) ∨
      ∃ args pc, parseArgs host.py argv = some args ∧ host.pycardano = some pc ∧
        host.main argv = (buildAndSubmit host.py host.urlparse pc args
          (host.poolMnemonic.getD "")).run >>= host.report := by
  unfold Host.main
  cases parseArgs host.py argv with
  | none => exact .inl ⟨EXIT_ARGS, by decide, rfl⟩
  | some args =>
    by_cases hmnemonic : host.poolMnemonic.getD "" = ""
    · exact .inl ⟨EXIT_MNEMONIC, by decide, if_pos hmnemonic⟩
    · cases host.pycardano with
      | none => exact .inl ⟨EXIT_IMPORT, by decide, if_neg hmnemonic⟩
      | some pc => exact .inr ⟨args, pc, rfl, rfl, if_neg hmnemonic⟩

/-- What the script prints, next to the transactions that it leaves accepted. -/
inductive Prints (host : Host World C) (attributes : PyAttributes C)
    (backend : PyCardanoDisburseBackend) (request : SettlementRequest) (stderr : Bytes) :
    Output → List C.Transaction → Prop
  | sent {pc tx} : host.pycardano = some pc → PaysRequest attributes pc backend request tx →
      Prints host attributes backend request stderr
        ⟨some EXIT_OK, utf8 (Hex.text (pc.idPayload tx).toList ++ "\n"), stderr⟩ [tx]
  | doubtful {pc tx code} : host.pycardano = some pc →
      PaysRequest attributes pc backend request tx → code = EXIT_DECODE ∨ code = EXIT_BUILD →
      Prints host attributes backend request stderr ⟨some code, [], stderr⟩ [tx]
  | failed {code} : code ≠ 0 →
      Prints host attributes backend request stderr ⟨some code, [], stderr⟩ []

variable (host) in
theorem report_error (err : PyError) (w : World) : ∃ code,
    (host.report (.error err)).run w = (⟨some code, [], host.stderr w⟩, w) ∧
      (code = EXIT_DECODE ∨ code = EXIT_BUILD) := by
  cases err with
  | valueError => exact ⟨EXIT_DECODE, rfl, .inl rfl⟩
  | other => exact ⟨EXIT_BUILD, rfl, .inr rfl⟩

include hpy hchain in
theorem main_prints (backend : PyCardanoDisburseBackend) (request : SettlementRequest) (w : World) :
    ∃ output txs w', (host.main (submitArgs backend request).tail).run w = (output, w') ∧
      accepted w' = accepted w ++ txs ∧
      Prints host attributes backend request (host.stderr w') output txs := by
  rcases main_cases (submitArgs backend request).tail with
    ⟨code, hcode, hmain⟩ | ⟨args, pc, hargs, hpc, hmain⟩
  · rw [hmain]
    exact ⟨_, [], w, rfl, (List.append_nil _).symm, .failed hcode⟩
  · have hpays : ∀ {tx}, CarriesOut host.py pc attributes args tx →
        PaysRequest attributes pc backend request tx := CarriesOut.paysRequest hpy hargs
    have hsends := @buildAndSubmit_sends _ _ host.py host.urlparse _ _ _ (hchain pc hpc) args
      (host.poolMnemonic.getD "") w
    rw [hmain, StateT.run_bind]
    cases hrun : (buildAndSubmit host.py host.urlparse pc args
        (host.poolMnemonic.getD "")).run.run w with
    | mk result w' =>
      rw [hrun] at hsends
      cases result with
      | ok txIdHex =>
        obtain ⟨tx, hlog, rfl, hcarries⟩ := hsends
        exact ⟨_, [tx], w', rfl, hlog, .sent hpc (hpays hcarries)⟩
      | error err =>
        obtain ⟨code, hreport, hcode⟩ := report_error host err w'
        rcases hsends with hlog | ⟨tx, hlog, hcarries⟩
        · refine ⟨_, [], w', hreport, by rw [hlog, List.append_nil], .failed ?_⟩
          rcases hcode with rfl | rfl <;> decide
        · exact ⟨_, [tx], w', hreport, hlog, .doubtful hpc (hpays hcarries) hcode⟩

/-- The printed id is read back. -/
theorem parseCliTxidStdout_printed (id : Bytes32) :
    parseCliTxidStdout (utf8 (Hex.text id.toList ++ "\n")) = .ok ⟨id⟩ :=
  (parseCliTxidStdout_iff _ _).mpr
    ⟨[], ['\n'], List.forall_mem_nil _, List.forall_mem_singleton.mpr rfl, by simp⟩

include hpy hchain in
/-- **One submission.** -/
theorem submit_settles (backend : PythonBackend) (request : SettlementRequest) (w : World) :
    ∃ result txs w', ((backend.settlement host.command).submit request).run w = (result, w') ∧
      accepted w' = accepted w ++ txs ∧
      Submits host attributes backend.toPyCardanoDisburseBackend request result txs := by
  cases hspawn : host.spawnError backend.pythonBin with
  | some err =>
    have hrun :
        (host.command backend.pythonBin (backend.args request)).run w = (.error err, w) := by
      simp only [Host.command, hspawn]
      rfl
    exact ⟨_, [], w, spawnTxid_spawn hrun, (List.append_nil _).symm, .failed⟩
  | none =>
    obtain ⟨output, txs, w', hmain, hlog, hprints⟩ :=
      main_prints hpy hchain backend.toPyCardanoDisburseBackend request w
    have hrun : (host.command backend.pythonBin (backend.args request)).run w =
        (.ok output, w') := by
      rw [backend.args_eq]
      simp only [Host.command, hspawn, StateT.run_bind, hmain]
      rfl
    refine ⟨_, txs, w', spawnTxid_output hrun, hlog, ?_⟩
    cases hprints with
    | sent hpc hpays =>
      rw [if_pos (show some EXIT_OK = some 0 from rfl), parseCliTxidStdout_printed]
      exact .sent hpc hpays rfl
    | doubtful hpc hpays hcode =>
      rw [if_neg (by rcases hcode with rfl | rfl <;> simp [EXIT_DECODE, EXIT_BUILD])]
      exact .doubtful hpc hpays hcode
    | failed hcode =>
      rw [if_neg (by simpa using hcode)]
      exact .failed

/-! ## Runs -/

include hpy hchain in
theorem fulfill_settles (backend : PythonBackend) (receipt : IntentReceiptV1) (w : World) :
    ∃ outcome txs w', (fulfill receipt (backend.settlement host.command)).run w = (outcome, w') ∧
      accepted w' = accepted w ++ txs ∧
      Settles host attributes backend.toPyCardanoDisburseBackend receipt outcome txs := by
  cases howed : requestOwed receipt with
  | none =>
    obtain ⟨outcome, hnot, hrun⟩ := @fulfill_of_none SettlementSubmitError receipt howed
    exact ⟨_, [], w, hrun _ w, (List.append_nil _).symm, .refused howed hnot⟩
  | some request =>
    have hrun := fulfill_of_some howed (backend.settlement host.command) w
    obtain ⟨result, txs, w', hsubmit, hlog, hsubmits⟩ :=
      submit_settles hpy hchain backend request w
    rw [hsubmit] at hrun
    exact ⟨_, txs, w', hrun, hlog, .submitted howed hsubmits⟩

/-- What holds of every receipt on its own holds of a run, receipt by receipt. -/
theorem fulfillAll_results {SubmitError : Type} {backend : SettlementBackend World SubmitError}
    {P : IntentReceiptV1 → Except SubmitError FulfillmentOutcome → List C.Transaction → Prop}
    {receipts : List IntentReceiptV1}
    (h : ∀ receipt ∈ receipts, ∀ w, ∃ outcome txs w',
      (fulfill receipt backend).run w = (outcome, w') ∧
        accepted w' = accepted w ++ txs ∧ P receipt outcome txs) (w : World) :
    ∃ results w', (fulfillAll backend receipts).run w = (results.map Prod.fst, w') ∧
      accepted w' = accepted w ++ results.flatMap Prod.snd ∧
      List.Forall₂ (fun receipt result => P receipt result.1 result.2) receipts results := by
  induction receipts generalizing w with
  | nil => exact ⟨[], w, rfl, (List.append_nil _).symm, .nil⟩
  | cons receipt receipts ih =>
    obtain ⟨outcome, txs, w₁, hrun, hlog, hP⟩ := h receipt List.mem_cons_self w
    obtain ⟨results, w', hruns, hlogs, hall⟩ :=
      ih (fun r hr => h r (List.mem_cons_of_mem _ hr)) w₁
    refine ⟨(outcome, txs) :: results, w', fulfillAll_cons hrun hruns, ?_, .cons hP hall⟩
    rw [hlogs, hlog, List.flatMap_cons, List.append_assoc]

end Submission

/-! ## A node that accepts every payment -/

abbrev fixtureClasses : PyClasses where
  Address := Bytes
  AuxiliaryData := Metadata
  HDWallet := Unit
  PaymentExtendedSigningKey := Unit
  ChainContext := Unit
  TransactionBuilder := List (TransactionOutput Bytes) × Option Metadata
  Transaction := List (TransactionOutput Bytes) × Option Metadata

def fixtureAttributes : PyAttributes fixtureClasses where
  data := id
  builderOutputs := Prod.fst
  builderData := Prod.snd
  outputs := Prod.fst
  auxiliaryData := Prod.snd

def fixtureChain : PyCardano (List fixtureClasses.Transaction) fixtureClasses where
  addressOfText s := .ok (utf8 s)
  addressOfBytes := .ok
  ogmiosV6ChainContext _ _ := pure ()
  transactionBuilder _ := pure ([], none)
  addInputAddress builder _ := pure builder
  addOutput builder output := pure (builder.1 ++ [output], builder.2)
  auxiliaryData := pure
  setAuxiliaryData builder data := pure (builder.1, some data)
  fromMnemonic _ := pure ()
  deriveFromPath _ _ := pure ()
  fromHdwallet _ := pure ()
  buildAndSign builder _ changeAddress :=
    pure (builder.1 ++ [⟨changeAddress, 1000000⟩], builder.2)
  submitTx _ tx := modify fun ledger => ledger ++ [tx]
  idPayload _ := Vector.replicate 32 0x2a

theorem fixtureChain_documented : fixtureChain.Documented fixtureAttributes id where
  ogmiosV6ChainContext _ _ _ := ⟨rfl, trivial⟩
  transactionBuilder _ _ := ⟨rfl, rfl, rfl⟩
  addInputAddress _ _ _ := ⟨rfl, rfl, rfl⟩
  addOutput _ _ _ := ⟨rfl, rfl, rfl⟩
  auxiliaryData _ _ := ⟨rfl, rfl⟩
  setAuxiliaryData _ _ _ := ⟨rfl, rfl, rfl⟩
  fromMnemonic _ _ := ⟨rfl, trivial⟩
  deriveFromPath _ _ _ := ⟨rfl, trivial⟩
  fromHdwallet _ _ := ⟨rfl, trivial⟩
  buildAndSign _ _ changeAddress _ :=
    ⟨rfl, ⟨[⟨changeAddress, 1000000⟩], rfl, List.forall_mem_singleton.mpr rfl⟩, rfl⟩
  submitTx _ tx _ := ⟨tx, rfl, rfl⟩

def fixtureHost : Host (List fixtureClasses.Transaction) fixtureClasses where
  py := .reference
  urlparse _ := .ok ⟨"http", some "localhost", .ok (some 1337), ""⟩
  pycardano := some fixtureChain
  poolMnemonic := some "abandon"
  spawnError _ := none
  stderr _ := []

def fixturePython : PythonBackend := ⟨sampleBackend, utf8 "python3"⟩

/-- Two receipts of one effect, of which the first is still pending. -/
def sampleReceipts : List IntentReceiptV1 :=
  [⟨Vector.replicate 32 0x77, .pending, 10041, .authorized sampleEffect⟩,
    ⟨Vector.replicate 32 0x77, .committed, 10042, .authorized sampleEffect⟩]

end OracleGuard
