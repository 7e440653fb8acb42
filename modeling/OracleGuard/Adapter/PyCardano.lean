import OracleGuard.Adapter.Disburse
import OracleGuard.Raising

/-!
The part of the settlement script that pays, call by call. What it calls of `pycardano` is
a parameter, and `PyCardano.Documented` says what is documented of these calls.

* `buildAndSubmit_sends`: the script returns the id of the one transaction that it sends,
  which pays what the arguments ask for. Where it raises, one may have been accepted.
-/

namespace OracleGuard

open Raising Wire

/-! ## Python -/

/-- The script tells two kinds of exceptions apart. -/
inductive PyError where
  | valueError
  | other
  deriving DecidableEq, Repr

/-- What a function of Python does. -/
abbrev PyM (World α : Type) := Call World PyError α

/-- What `urlparse` returns; its port is checked when it is read. -/
structure ParsedUrl where
  scheme : String
  hostname : Option String
  port : Except PyError (Option Nat)
  path : String

structure OgmiosUrl where
  host : String
  port : Nat
  path : String
  secure : Bool

/-- An empty host is missing, and port 0 counts as none. -/
def parseOgmiosUrl (urlparse : String → Except PyError ParsedUrl) (url : String) :
    Except PyError OgmiosUrl := do
  let parsed ← urlparse url
  let host := parsed.hostname.getD ""
  if host = "" then throw .valueError
  let secure := parsed.scheme = "https" ∨ parsed.scheme = "wss"
  let port ← parsed.port
  return {
    host
    port := if port.getD 0 = 0 then if secure then 443 else 80 else port.getD 0
    path := parsed.path
    secure }

/-! ## `pycardano` -/

/-- The classes whose objects the script hands on without looking into them. -/
structure PyClasses where
  Address : Type
  AuxiliaryData : Type
  HDWallet : Type
  PaymentExtendedSigningKey : Type
  ChainContext : Type
  TransactionBuilder : Type
  Transaction : Type

inductive Network where
  | TESTNET
  | MAINNET
  deriving DecidableEq, Repr

structure TransactionOutput (Address : Type) where
  address : Address
  amount : Int
  deriving DecidableEq, Repr

/-- A dictionary of labels, with a dictionary each. -/
abbrev Metadata := List (Int × List (String × String))

/-- The calls of the script; `Address.from_primitive` is called with a string and with bytes. -/
structure PyCardano (World : Type) (C : PyClasses) where
  addressOfText : String → Except PyError C.Address
  addressOfBytes : Bytes → Except PyError C.Address
  ogmiosV6ChainContext : OgmiosUrl → Network → PyM World C.ChainContext
  transactionBuilder : C.ChainContext → PyM World C.TransactionBuilder
  addInputAddress : C.TransactionBuilder → C.Address → PyM World C.TransactionBuilder
  addOutput : C.TransactionBuilder → TransactionOutput C.Address → PyM World C.TransactionBuilder
  auxiliaryData : Metadata → PyM World C.AuxiliaryData
  setAuxiliaryData : C.TransactionBuilder → C.AuxiliaryData → PyM World C.TransactionBuilder
  fromMnemonic : String → PyM World C.HDWallet
  deriveFromPath : C.HDWallet → String → PyM World C.HDWallet
  fromHdwallet : C.HDWallet → PyM World C.PaymentExtendedSigningKey
  buildAndSign : C.TransactionBuilder → List C.PaymentExtendedSigningKey → C.Address →
    PyM World C.Transaction
  submitTx : C.ChainContext → C.Transaction → PyM World Unit
  idPayload : C.Transaction → Bytes32

section Script

variable {World : Type} {C : PyClasses} (py : Python)
  (urlparse : String → Except PyError ParsedUrl) (pc : PyCardano World C)

/-- `_derive_pool_signing_key` -/
def derivePoolSigningKey (mnemonic : String) : PyM World C.PaymentExtendedSigningKey := do
  let hdwallet ← pc.fromMnemonic mnemonic
  let paymentHd ← pc.deriveFromPath hdwallet "m/1852'/1815'/0'/0/0"
  pc.fromHdwallet paymentHd

/-- `_build_destination`, with the address that it ends in. -/
def buildDestinationAddress (destHex : String) (destLength : Int) : Except PyError C.Address :=
  match buildDestination py destHex destLength with
  | none => throw .valueError
  | some trimmed => pc.addressOfBytes trimmed

/-- `_build_and_submit` -/
def buildAndSubmit (args : Arguments) (mnemonic : String) : PyM World String := do
  let url ← parseOgmiosUrl urlparse args.ogmiosUrl
  let poolAddr ← pc.addressOfText args.poolAddress
  let destination ←
    buildDestinationAddress py pc args.destinationBytesHex args.destinationLength
  let context ← pc.ogmiosV6ChainContext url .TESTNET
  let builder ← pc.transactionBuilder context
  let builder ← pc.addInputAddress builder poolAddr
  let builder ← pc.addOutput builder ⟨destination, args.amountLovelace⟩
  let auxiliaryData ← pc.auxiliaryData [(674, [("oracleguard_intent_id", args.intentId)])]
  let builder ← pc.setAuxiliaryData builder auxiliaryData
  let signingKey ← derivePoolSigningKey pc mnemonic
  let signedTx ← pc.buildAndSign builder [signingKey] poolAddr
  pc.submitTx context signedTx
  return Hex.text (pc.idPayload signedTx).toList

end Script

/-! ## What is documented -/

/-- The attributes of the objects that are made. -/
structure PyAttributes (C : PyClasses) where
  data : C.AuxiliaryData → Metadata
  builderOutputs : C.TransactionBuilder → List (TransactionOutput C.Address)
  builderData : C.TransactionBuilder → Option C.AuxiliaryData
  outputs : C.Transaction → List (TransactionOutput C.Address)
  auxiliaryData : C.Transaction → Option C.AuxiliaryData

/-- A builder starts empty and keeps what it is given. It builds a transaction with its
outputs, behind them the change, and with its data. Only `submitTx` submits: the
transaction is accepted when the call returns, and may be accepted when it raises. -/
structure PyCardano.Documented {World : Type} {C : PyClasses} (pc : PyCardano World C)
    (attributes : PyAttributes C) (accepted : World → List C.Transaction) : Prop where
  ogmiosV6ChainContext : ∀ url network,
    Keeps accepted (pc.ogmiosV6ChainContext url network) fun _ => True
  transactionBuilder : ∀ context, Keeps accepted (pc.transactionBuilder context) fun builder =>
    attributes.builderOutputs builder = [] ∧ attributes.builderData builder = none
  addInputAddress : ∀ builder address,
    Keeps accepted (pc.addInputAddress builder address) fun builder' =>
      attributes.builderOutputs builder' = attributes.builderOutputs builder ∧
        attributes.builderData builder' = attributes.builderData builder
  addOutput : ∀ builder output, Keeps accepted (pc.addOutput builder output) fun builder' =>
    attributes.builderOutputs builder' = attributes.builderOutputs builder ++ [output] ∧
      attributes.builderData builder' = attributes.builderData builder
  auxiliaryData : ∀ metadata,
    Keeps accepted (pc.auxiliaryData metadata) fun data => attributes.data data = metadata
  setAuxiliaryData : ∀ builder data,
    Keeps accepted (pc.setAuxiliaryData builder data) fun builder' =>
      attributes.builderOutputs builder' = attributes.builderOutputs builder ∧
        attributes.builderData builder' = some data
  fromMnemonic : ∀ mnemonic, Keeps accepted (pc.fromMnemonic mnemonic) fun _ => True
  deriveFromPath : ∀ wallet path, Keeps accepted (pc.deriveFromPath wallet path) fun _ => True
  fromHdwallet : ∀ wallet, Keeps accepted (pc.fromHdwallet wallet) fun _ => True
  buildAndSign : ∀ builder keys changeAddress,
    Keeps accepted (pc.buildAndSign builder keys changeAddress) fun tx =>
      (∃ change, attributes.outputs tx = attributes.builderOutputs builder ++ change ∧
        ∀ output ∈ change, output.address = changeAddress) ∧
      attributes.auxiliaryData tx = attributes.builderData builder
  submitTx : ∀ context tx, Sends accepted (pc.submitTx context tx)
    (fun _ entry => entry = tx) fun entry => entry = tx

section Sent

variable {World : Type} {C : PyClasses} {py : Python}
  {urlparse : String → Except PyError ParsedUrl} {pc : PyCardano World C}
  {attributes : PyAttributes C} {accepted : World → List C.Transaction}

variable (py pc attributes) in
/-- A transaction that carries out the arguments: one output for the destination, and all
others back to the pool. -/
structure CarriesOut (args : Arguments) (tx : C.Transaction) : Prop where
  outputs : ∃ pool destination change, pc.addressOfText args.poolAddress = .ok pool ∧
    buildDestinationAddress py pc args.destinationBytesHex args.destinationLength =
      .ok destination ∧
    attributes.outputs tx = ⟨destination, args.amountLovelace⟩ :: change ∧
    ∀ output ∈ change, output.address = pool
  data : (attributes.auxiliaryData tx).map attributes.data =
    some [(674, [("oracleguard_intent_id", args.intentId)])]

variable (hdoc : pc.Documented attributes accepted)
include hdoc

theorem derivePoolSigningKey_keeps (mnemonic : String) :
    Keeps accepted (derivePoolSigningKey pc mnemonic) fun _ => True := by
  refine (hdoc.fromMnemonic mnemonic).bind fun hdwallet _ => ?_
  refine (hdoc.deriveFromPath hdwallet _).bind fun paymentHd _ => ?_
  exact hdoc.fromHdwallet paymentHd

/-- **One transaction at most.** -/
theorem buildAndSubmit_sends (args : Arguments) (mnemonic : String) :
    Sends accepted (buildAndSubmit py urlparse pc args mnemonic)
      (fun txIdHex tx => txIdHex = Hex.text (pc.idPayload tx).toList ∧
        CarriesOut py pc attributes args tx)
      (CarriesOut py pc attributes args) := by
  refine (Keeps.ofExcept accepted _).bind_sends fun url _ => ?_
  refine (Keeps.ofExcept accepted _).bind_sends fun poolAddr hpool => ?_
  refine (Keeps.ofExcept accepted _).bind_sends fun destination hdestination => ?_
  refine (hdoc.ogmiosV6ChainContext url _).bind_sends fun context _ => ?_
  refine (hdoc.transactionBuilder context).bind_sends fun empty hempty => ?_
  refine (hdoc.addInputAddress empty poolAddr).bind_sends fun funded hfunded => ?_
  refine (hdoc.addOutput funded _).bind_sends fun paying hpaying => ?_
  refine (hdoc.auxiliaryData _).bind_sends fun data hdata => ?_
  refine (hdoc.setAuxiliaryData paying data).bind_sends fun builder hbuilder => ?_
  refine (derivePoolSigningKey_keeps hdoc mnemonic).bind_sends fun signingKey _ => ?_
  refine (hdoc.buildAndSign builder [signingKey] poolAddr).bind_sends fun tx htx => ?_
  obtain ⟨⟨change, houtputs, hchange⟩, htxData⟩ := htx
  have hcarries : CarriesOut py pc attributes args tx := by
    refine ⟨⟨poolAddr, destination, change, hpool, hdestination, ?_, hchange⟩, ?_⟩
    · rw [houtputs, hbuilder.1, hpaying.1, hfunded.1, hempty.1]
      rfl
    · rw [htxData, hbuilder.2, Option.map_some, hdata]
  refine (hdoc.submitTx context tx).bind_pure ?_ ?_
  · rintro _ _ rfl
    exact ⟨rfl, hcarries⟩
  · rintro _ rfl
    exact hcarries

end Sent

end OracleGuard
