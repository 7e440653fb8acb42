import OracleGuard.Wire.Layout
import OracleGuard.Schemas.Domain

/-!
The byte formats of the domain types. `postcard` 1.1.1 is a parameter: the
model takes its codecs for the primitive types, and `Postcard.Documented` says
what its wire format promises about them. The derived formats are the
serde derivations: fields in declaration order, and for an enum the index of
the variant before the fields of the variant.
-/

namespace OracleGuard

open Wire

/-- The primitive serializers and deserializers that the derivations call. -/
structure Postcard where
  u8 : Codec UInt8
  u16 : Codec UInt16
  u64 : Codec UInt64
  variantIndex : Codec UInt32
  array : (n : Nat) → Codec (Vector UInt8 n)

/-- The wire format: bytes and byte arrays are raw, and integers and variant
indices are LEB128 numbers of at most 3, 10 and 5 bytes. -/
structure Postcard.Documented (pc : Postcard) : Prop where
  u8_raw : pc.u8 = Wire.byte
  array_raw : ∀ n, pc.array n = Wire.bytes n
  u16_leb128 : pc.u16 = Wire.u16
  u64_leb128 : pc.u64 = Wire.u64
  variantIndex_leb128 : pc.variantIndex = Wire.u32

/-- A postcard that is exactly its documentation. -/
def Postcard.reference : Postcard where
  u8 := Wire.byte
  u16 := Wire.u16
  u64 := Wire.u64
  variantIndex := Wire.u32
  array := Wire.bytes

theorem Postcard.reference_documented : Postcard.reference.Documented where
  u8_raw := rfl
  array_raw := fun _ => rfl
  u16_leb128 := rfl
  u64_leb128 := rfl
  variantIndex_leb128 := rfl

namespace Postcard.Documented

variable {pc : Postcard} (hpc : pc.Documented)
include hpc

theorem u8_hasLayout : pc.u8.HasLayout (.raw 1) := hpc.u8_raw ▸ byte_hasLayout

theorem array_hasLayout (n : Nat) : (pc.array n).HasLayout (.raw n) :=
  hpc.array_raw n ▸ bytes_hasLayout n

theorem u16_hasLayout : pc.u16.HasLayout .number := hpc.u16_leb128 ▸ Wire.u16_hasLayout

theorem u64_hasLayout : pc.u64.HasLayout .number := hpc.u64_leb128 ▸ Wire.u64_hasLayout

theorem variantIndex_selfDelimiting : pc.variantIndex.SelfDelimiting :=
  hpc.variantIndex_leb128 ▸ u32_selfDelimiting

theorem variantIndex_numbers : pc.variantIndex.Numbers UInt32.toNat :=
  hpc.variantIndex_leb128 ▸ u32_numbers

theorem unitVariants_hasLayout {n : Nat} (hn : n ≤ 2 ^ 32) :
    (pc.variantIndex.index n).HasLayout .number :=
  .index hpc.variantIndex_selfDelimiting hpc.variantIndex_numbers hn

theorem variants_hasLayout {n : Nat} {payload : Fin n → Type}
    {d : (i : Fin n) → Codec (payload i)} {body : Nat → Layout} (hn : n ≤ 2 ^ 32)
    (hd : ∀ i, (d i).HasLayout (body i)) :
    ((pc.variantIndex.index n).tagged d).HasLayout (.tagged body) :=
  .variants hpc.variantIndex_selfDelimiting hpc.variantIndex_numbers hn hd

end Postcard.Documented

/-! ## Derived formats

The equivalence in each format lists the fields of the type in declaration
order. -/

namespace CardanoAddressV1

def codec (pc : Postcard) : Codec CardanoAddressV1 :=
  ((pc.array 57).pair pc.u8).iso
    { toFun := fun (bytes, length) => ⟨bytes, length⟩
      invFun := fun a => (a.bytes, a.length)
      left_inv := fun _ => rfl
      right_inv := fun _ => rfl }

def layout : Layout := .seq (.raw 57) (.raw 1)

theorem codec_hasLayout {pc : Postcard} (hpc : pc.Documented) : (codec pc).HasLayout layout :=
  .iso (.pair (hpc.array_hasLayout 57) hpc.u8_hasLayout) _

end CardanoAddressV1

namespace AssetIdV1

def codec (pc : Postcard) : Codec AssetIdV1 :=
  ((pc.array 28).pair ((pc.array 32).pair pc.u8)).iso
    { toFun := fun (policyId, assetName, assetNameLen) => ⟨policyId, assetName, assetNameLen⟩
      invFun := fun a => (a.policyId, a.assetName, a.assetNameLen)
      left_inv := fun _ => rfl
      right_inv := fun _ => rfl }

def layout : Layout := .seq (.raw 28) (.seq (.raw 32) (.raw 1))

theorem codec_hasLayout {pc : Postcard} (hpc : pc.Documented) : (codec pc).HasLayout layout :=
  .iso (.pair (hpc.array_hasLayout 28) (.pair (hpc.array_hasLayout 32) hpc.u8_hasLayout)) _

end AssetIdV1

namespace AuthorizedEffectV1

def codec (pc : Postcard) : Codec AuthorizedEffectV1 :=
  ((pc.array 32).pair ((pc.array 32).pair ((pc.array 32).pair
    ((CardanoAddressV1.codec pc).pair ((AssetIdV1.codec pc).pair (pc.u64.pair pc.u64)))))).iso
    { toFun := fun (policyRef, allocationId, requesterId, destination, asset, amount, cap) =>
        ⟨policyRef, allocationId, requesterId, destination, asset, amount, cap⟩
      invFun := fun e => (e.policyRef, e.allocationId, e.requesterId, e.destination, e.asset,
        e.authorizedAmountLovelace, e.releaseCapBasisPoints)
      left_inv := fun _ => rfl
      right_inv := fun _ => rfl }

def layout : Layout :=
  .seq (.raw 32) (.seq (.raw 32) (.seq (.raw 32)
    (.seq CardanoAddressV1.layout (.seq AssetIdV1.layout (.seq .number .number)))))

theorem codec_hasLayout {pc : Postcard} (hpc : pc.Documented) : (codec pc).HasLayout layout :=
  have h32 := hpc.array_hasLayout 32
  .iso (.pair h32 (.pair h32 (.pair h32 (.pair (CardanoAddressV1.codec_hasLayout hpc)
    (.pair (AssetIdV1.codec_hasLayout hpc) (.pair hpc.u64_hasLayout hpc.u64_hasLayout)))))) _

end AuthorizedEffectV1

namespace OracleFactEvalV1

def codec (pc : Postcard) : Codec OracleFactEvalV1 :=
  ((pc.array 16).pair (pc.u64.pair (pc.array 16))).iso
    { toFun := fun (assetPair, priceMicrousd, source) => ⟨assetPair, priceMicrousd, source⟩
      invFun := fun f => (f.assetPair, f.priceMicrousd, f.source)
      left_inv := fun _ => rfl
      right_inv := fun _ => rfl }

def layout : Layout := .seq (.raw 16) (.seq .number (.raw 16))

theorem codec_hasLayout {pc : Postcard} (hpc : pc.Documented) : (codec pc).HasLayout layout :=
  .iso (.pair (hpc.array_hasLayout 16) (.pair hpc.u64_hasLayout (hpc.array_hasLayout 16))) _

end OracleFactEvalV1

namespace OracleFactProvenanceV1

def codec (pc : Postcard) : Codec OracleFactProvenanceV1 :=
  (pc.u64.pair (pc.u64.pair (pc.array 32))).iso
    { toFun := fun (timestampUnix, expiryUnix, utxoRef) => ⟨timestampUnix, expiryUnix, utxoRef⟩
      invFun := fun p => (p.timestampUnix, p.expiryUnix, p.aggregatorUtxoRef)
      left_inv := fun _ => rfl
      right_inv := fun _ => rfl }

def layout : Layout := .seq .number (.seq .number (.raw 32))

theorem codec_hasLayout {pc : Postcard} (hpc : pc.Documented) : (codec pc).HasLayout layout :=
  .iso (.pair hpc.u64_hasLayout (.pair hpc.u64_hasLayout (hpc.array_hasLayout 32))) _

end OracleFactProvenanceV1

namespace DisbursementIntentV1

def codec (pc : Postcard) : Codec DisbursementIntentV1 :=
  (pc.u16.pair ((pc.array 32).pair ((pc.array 32).pair ((pc.array 32).pair
    ((OracleFactEvalV1.codec pc).pair ((OracleFactProvenanceV1.codec pc).pair
      (pc.u64.pair ((CardanoAddressV1.codec pc).pair (AssetIdV1.codec pc))))))))).iso
    { toFun := fun (version, policyRef, allocationId, requesterId, fact, provenance, amount,
          destination, asset) =>
        ⟨version, policyRef, allocationId, requesterId, fact, provenance, amount, destination,
          asset⟩
      invFun := fun i => (i.intentVersion, i.policyRef, i.allocationId, i.requesterId,
        i.oracleFact, i.oracleProvenance, i.requestedAmountLovelace, i.destination, i.asset)
      left_inv := fun _ => rfl
      right_inv := fun _ => rfl }

def layout : Layout :=
  .seq .number (.seq (.raw 32) (.seq (.raw 32) (.seq (.raw 32)
    (.seq OracleFactEvalV1.layout (.seq OracleFactProvenanceV1.layout
      (.seq .number (.seq CardanoAddressV1.layout AssetIdV1.layout)))))))

theorem codec_hasLayout {pc : Postcard} (hpc : pc.Documented) : (codec pc).HasLayout layout :=
  have h32 := hpc.array_hasLayout 32
  .iso (.pair hpc.u16_hasLayout (.pair h32 (.pair h32 (.pair h32
    (.pair (OracleFactEvalV1.codec_hasLayout hpc)
      (.pair (OracleFactProvenanceV1.codec_hasLayout hpc)
        (.pair hpc.u64_hasLayout (.pair (CardanoAddressV1.codec_hasLayout hpc)
          (AssetIdV1.codec_hasLayout hpc))))))))) _

end DisbursementIntentV1

end OracleGuard
