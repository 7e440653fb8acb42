import Mathlib.Data.Set.Function
import OracleGuard.Schemas.Postcard

/-!
Canonical encoding of intents and intent identity. `intentId` hashes the
encoding of a projection that leaves `oracleProvenance` out; BLAKE3 in
derive-key mode is a parameter.

* `encodeIntentIdentity_eq_iff`: the identity bytes determine the projection.
* `intent_identity_exact`: identity bytes, and ids where BLAKE3 does not
  collide on them, agree exactly when the identity-bearing fields agree.
-/

namespace OracleGuard

open Wire

/-- BLAKE3 in derive-key mode: a context string and the input bytes. -/
abbrev Blake3 := String → Bytes → Bytes32

def ORACLEGUARD_DISBURSEMENT_DOMAIN : String := "ORACLEGUARD_DISBURSEMENT_V1"

inductive CanonicalEncodeError where
  | serializerFailure
  deriving DecidableEq, Repr

inductive CanonicalDecodeError where
  | malformed
  | trailingBytes
  deriving DecidableEq, Repr

def encodeIntent (pc : Postcard) (intent : DisbursementIntentV1) :
    Except CanonicalEncodeError Bytes :=
  (DisbursementIntentV1.codec pc).toVec .serializerFailure intent

def decodeIntent (pc : Postcard) (bytes : Bytes) :
    Except CanonicalDecodeError DisbursementIntentV1 :=
  (DisbursementIntentV1.codec pc).fromBytes .malformed .trailingBytes bytes

/-! ## Intent identity -/

/-- The identity-bearing projection of an intent: no provenance. -/
structure DisbursementIntentIdentityV1 where
  intentVersion : UInt16
  policyRef : Bytes32
  allocationId : Bytes32
  requesterId : Bytes32
  oracleFact : OracleFactEvalV1
  requestedAmountLovelace : UInt64
  destination : CardanoAddressV1
  asset : AssetIdV1
  deriving DecidableEq, Repr

def projectIdentity (intent : DisbursementIntentV1) : DisbursementIntentIdentityV1 where
  intentVersion := intent.intentVersion
  policyRef := intent.policyRef
  allocationId := intent.allocationId
  requesterId := intent.requesterId
  oracleFact := intent.oracleFact
  requestedAmountLovelace := intent.requestedAmountLovelace
  destination := intent.destination
  asset := intent.asset

/-- The source derives the serializer only; nothing reads these bytes back. -/
def DisbursementIntentIdentityV1.codec (pc : Postcard) : Codec DisbursementIntentIdentityV1 :=
  (pc.u16.pair ((pc.array 32).pair ((pc.array 32).pair ((pc.array 32).pair
    ((OracleFactEvalV1.codec pc).pair (pc.u64.pair
      ((CardanoAddressV1.codec pc).pair (AssetIdV1.codec pc)))))))).iso
    { toFun := fun (version, policyRef, allocationId, requesterId, fact, amount, destination,
          asset) =>
        ⟨version, policyRef, allocationId, requesterId, fact, amount, destination, asset⟩
      invFun := fun i => (i.intentVersion, i.policyRef, i.allocationId, i.requesterId,
        i.oracleFact, i.requestedAmountLovelace, i.destination, i.asset)
      left_inv := fun _ => rfl
      right_inv := fun _ => rfl }

def encodeIntentIdentity (pc : Postcard) (intent : DisbursementIntentV1) :
    Except CanonicalEncodeError Bytes :=
  (DisbursementIntentIdentityV1.codec pc).toVec .serializerFailure (projectIdentity intent)

def intentId (pc : Postcard) (blake3 : Blake3) (intent : DisbursementIntentV1) :
    Except CanonicalEncodeError Bytes32 := do
  let identityBytes ← encodeIntentIdentity pc intent
  return blake3 ORACLEGUARD_DISBURSEMENT_DOMAIN identityBytes

theorem DisbursementIntentIdentityV1.codec_selfDelimiting {pc : Postcard}
    (hpc : pc.Documented) : (codec pc).SelfDelimiting :=
  have h32 := hpc.array_hasLayout 32
  (Codec.HasLayout.iso (.pair hpc.u16_hasLayout (.pair h32 (.pair h32 (.pair h32
    (.pair (OracleFactEvalV1.codec_hasLayout hpc) (.pair hpc.u64_hasLayout
      (.pair (CardanoAddressV1.codec_hasLayout hpc) (AssetIdV1.codec_hasLayout hpc)))))))) _
    ).selfDelimiting

/-- Agreement on every identity-bearing field. -/
def SameIdentity (i j : DisbursementIntentV1) : Prop :=
  i.intentVersion = j.intentVersion ∧ i.policyRef = j.policyRef ∧
    i.allocationId = j.allocationId ∧ i.requesterId = j.requesterId ∧
    i.oracleFact = j.oracleFact ∧
    i.requestedAmountLovelace = j.requestedAmountLovelace ∧
    i.destination = j.destination ∧ i.asset = j.asset

theorem projectIdentity_eq_iff (i j : DisbursementIntentV1) :
    projectIdentity i = projectIdentity j ↔ SameIdentity i j := by
  simp only [projectIdentity, DisbursementIntentIdentityV1.mk.injEq, SameIdentity]

theorem encodeIntentIdentity_ok {pc : Postcard} (hpc : pc.Documented)
    (i : DisbursementIntentV1) : ∃ b, encodeIntentIdentity pc i = .ok b := by
  obtain ⟨b, hb, -⟩ :=
    (DisbursementIntentIdentityV1.codec_selfDelimiting hpc).lawful (projectIdentity i) []
  exact ⟨b, (Codec.toVec_eq_ok _ _ _ _).mpr hb⟩

theorem intentId_eq_ok {pc : Postcard} {blake3 : Blake3} {i : DisbursementIntentV1} {b : Bytes}
    (hb : encodeIntentIdentity pc i = .ok b) :
    intentId pc blake3 i = .ok (blake3 ORACLEGUARD_DISBURSEMENT_DOMAIN b) := by
  unfold intentId
  rw [hb]
  rfl

theorem intentId_ok {pc : Postcard} (hpc : pc.Documented) (blake3 : Blake3)
    (i : DisbursementIntentV1) : ∃ id, intentId pc blake3 i = .ok id := by
  obtain ⟨b, hb⟩ := encodeIntentIdentity_ok hpc i
  exact ⟨_, intentId_eq_ok hb⟩

theorem encodeIntentIdentity_eq_iff {pc : Postcard} (hpc : pc.Documented)
    (i j : DisbursementIntentV1) :
    encodeIntentIdentity pc i = encodeIntentIdentity pc j ↔ SameIdentity i j := by
  rw [← projectIdentity_eq_iff]
  constructor
  · intro h
    obtain ⟨b, hb⟩ := encodeIntentIdentity_ok hpc i
    have hb' : encodeIntentIdentity pc j = .ok b := h ▸ hb
    apply (DisbursementIntentIdentityV1.codec_selfDelimiting hpc).lawful.encode_injective
    rw [(Codec.toVec_eq_ok _ _ _ _).mp hb, (Codec.toVec_eq_ok _ _ _ _).mp hb']
  · intro h
    unfold encodeIntentIdentity
    rw [h]

theorem SameIdentity.symm {i j : DisbursementIntentV1} (h : SameIdentity i j) :
    SameIdentity j i :=
  (projectIdentity_eq_iff j i).mp ((projectIdentity_eq_iff i j).mpr h).symm

/-- The ids follow the bytes as far as BLAKE3 does not collide on them. -/
theorem intentId_eq_iff {pc : Postcard} (hpc : pc.Documented) {blake3 : Blake3}
    {i j : DisbursementIntentV1}
    (hinj : Set.InjOn (blake3 ORACLEGUARD_DISBURSEMENT_DOMAIN)
      {b | encodeIntentIdentity pc i = .ok b ∨ encodeIntentIdentity pc j = .ok b}) :
    intentId pc blake3 i = intentId pc blake3 j ↔ SameIdentity i j := by
  obtain ⟨b, hb⟩ := encodeIntentIdentity_ok hpc i
  obtain ⟨b', hb'⟩ := encodeIntentIdentity_ok hpc j
  rw [← encodeIntentIdentity_eq_iff hpc i j, intentId_eq_ok hb, intentId_eq_ok hb', hb, hb',
    Except.ok.injEq, Except.ok.injEq]
  exact hinj.eq_iff (.inl hb) (.inr hb')

/-- **Intent identity is exact.** The ids follow the bytes as far as BLAKE3 does
not collide on the two byte strings. -/
theorem intent_identity_exact {pc : Postcard} (hpc : pc.Documented) (blake3 : Blake3)
    (i j : DisbursementIntentV1) :
    (encodeIntentIdentity pc i = encodeIntentIdentity pc j ↔ SameIdentity i j) ∧
      (Set.InjOn (blake3 ORACLEGUARD_DISBURSEMENT_DOMAIN)
          {b | encodeIntentIdentity pc i = .ok b ∨ encodeIntentIdentity pc j = .ok b} →
        (intentId pc blake3 i = intentId pc blake3 j ↔ SameIdentity i j)) :=
  ⟨encodeIntentIdentity_eq_iff hpc i j, intentId_eq_iff hpc⟩

/-- The intent of the golden fixture. -/
def fixtureIntent : DisbursementIntentV1 where
  intentVersion := INTENT_VERSION_V1
  policyRef := Vector.replicate 32 0x11
  allocationId := Vector.replicate 32 0x22
  requesterId := Vector.replicate 32 0x33
  oracleFact := ⟨ASSET_PAIR_ADA_USD, 450000, SOURCE_CHARLI3⟩
  oracleProvenance := ⟨1713000000000, 1713000300000, Vector.replicate 32 0x44⟩
  requestedAmountLovelace := 1000000000
  destination := ⟨Vector.replicate 57 0x55, 57⟩
  asset := .ADA

/-- A digest that keeps bytes 1 to 32 of its input: it separates identity bytes
with different policies. -/
def policyDigest : Blake3 := fun _ b => Vector.ofFn fun k => b.getD (k + 1) 0

/-- Another policy gives another id; the provenance may change with it. -/
theorem intent_identity_exact_fixture :
    let other := { fixtureIntent with
      policyRef := Vector.replicate 32 0xFF
      oracleProvenance := ⟨1, 2, Vector.replicate 32 0⟩ }
    (encodeIntentIdentity .reference fixtureIntent = encodeIntentIdentity .reference other ↔
        SameIdentity fixtureIntent other) ∧
      (intentId .reference policyDigest fixtureIntent = intentId .reference policyDigest other ↔
        SameIdentity fixtureIntent other) := by
  intro other
  have h := intent_identity_exact Postcard.reference_documented policyDigest fixtureIntent other
  refine ⟨h.1, h.2 ?_⟩
  obtain ⟨b, hb⟩ := encodeIntentIdentity_ok Postcard.reference_documented fixtureIntent
  obtain ⟨c, hc⟩ := encodeIntentIdentity_ok Postcard.reference_documented other
  have hne : policyDigest ORACLEGUARD_DISBURSEMENT_DOMAIN b ≠
      policyDigest ORACLEGUARD_DISBURSEMENT_DOMAIN c := by
    cases hb
    cases hc
    decide
  have hset : {x | encodeIntentIdentity .reference fixtureIntent = .ok x ∨
      encodeIntentIdentity .reference other = .ok x} = {b, c} := by
    ext x
    simp [hb, hc, eq_comm]
  rw [hset, Set.injOn_pair]
  exact fun heq => absurd heq hne

end OracleGuard
