/-!
The canonical domain types of `oracleguard-schemas`: addresses and assets,
oracle facts and their freshness, gates and reason codes, the authorized effect
and the disbursement intent. Fixed-width byte arrays are vectors.
-/

namespace OracleGuard

abbrev Bytes32 := Vector UInt8 32

/-! ## Addresses, assets, effects -/

structure CardanoAddressV1 where
  bytes : Vector UInt8 57
  length : UInt8
  deriving DecidableEq, Repr

structure AssetIdV1 where
  policyId : Vector UInt8 28
  assetName : Vector UInt8 32
  assetNameLen : UInt8
  deriving DecidableEq, Repr

/-- Zero policy, empty asset name. -/
def AssetIdV1.ADA : AssetIdV1 where
  policyId := Vector.replicate 28 0
  assetName := Vector.replicate 32 0
  assetNameLen := 0

@[ext] structure AuthorizedEffectV1 where
  policyRef : Bytes32
  allocationId : Bytes32
  requesterId : Bytes32
  destination : CardanoAddressV1
  asset : AssetIdV1
  authorizedAmountLovelace : UInt64
  releaseCapBasisPoints : UInt64
  deriving DecidableEq, Repr

/-! ## Oracle observations -/

structure OracleFactEvalV1 where
  assetPair : Vector UInt8 16
  priceMicrousd : UInt64
  source : Vector UInt8 16
  deriving DecidableEq, Repr

structure OracleFactProvenanceV1 where
  timestampUnix : UInt64
  expiryUnix : UInt64
  aggregatorUtxoRef : Bytes32
  deriving DecidableEq, Repr

structure OracleStale where
  expiryUnixMs : UInt64
  nowUnixMs : UInt64
  deriving DecidableEq, Repr

/-- Equality at expiry is stale. -/
def checkFreshness (provenance : OracleFactProvenanceV1) (nowUnixMs : UInt64) :
    Except OracleStale Unit :=
  if nowUnixMs < provenance.expiryUnix then .ok ()
  else .error ⟨provenance.expiryUnix, nowUnixMs⟩

/-- `b"ADA/USD"` and nine zero bytes. -/
def ASSET_PAIR_ADA_USD : Vector UInt8 16 :=
  #v[0x41, 0x44, 0x41, 0x2F, 0x55, 0x53, 0x44, 0, 0, 0, 0, 0, 0, 0, 0, 0]

/-- `b"charli3"` and nine zero bytes. -/
def SOURCE_CHARLI3 : Vector UInt8 16 :=
  #v[0x63, 0x68, 0x61, 0x72, 0x6C, 0x69, 0x33, 0, 0, 0, 0, 0, 0, 0, 0, 0]

/-! ## Gates and reason codes -/

inductive AuthorizationGate where
  | anchor
  | registry
  | grant
  deriving DecidableEq, Repr

inductive DisbursementReasonCode where
  | policyNotFound
  | allocationNotFound
  | oracleStale
  | oraclePriceZero
  | amountZero
  | releaseCapExceeded
  | subjectNotAuthorized
  | assetMismatch
  deriving DecidableEq, Repr

def DisbursementReasonCode.gate : DisbursementReasonCode → AuthorizationGate
  | policyNotFound => .anchor
  | allocationNotFound | subjectNotAuthorized | assetMismatch => .registry
  | oracleStale | oraclePriceZero | amountZero | releaseCapExceeded => .grant

/-- Pins the zero-price rule only. -/
def validateOracleFactEval (fact : OracleFactEvalV1) : Except DisbursementReasonCode Unit :=
  if fact.priceMicrousd = 0 then .error .oraclePriceZero else .ok ()

/-! ## Intents -/

def INTENT_VERSION_V1 : UInt16 := 1

structure DisbursementIntentV1 where
  intentVersion : UInt16
  policyRef : Bytes32
  allocationId : Bytes32
  requesterId : Bytes32
  oracleFact : OracleFactEvalV1
  oracleProvenance : OracleFactProvenanceV1
  requestedAmountLovelace : UInt64
  destination : CardanoAddressV1
  asset : AssetIdV1
  deriving DecidableEq, Repr

structure UnsupportedVersionError where
  found : UInt16
  expected : UInt16
  deriving DecidableEq, Repr

def validateIntentVersion (intent : DisbursementIntentV1) :
    Except UnsupportedVersionError Unit :=
  if intent.intentVersion = INTENT_VERSION_V1 then .ok ()
  else .error ⟨intent.intentVersion, INTENT_VERSION_V1⟩

end OracleGuard
