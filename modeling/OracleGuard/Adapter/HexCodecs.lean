import OracleGuard.Adapter.Disburse
import OracleGuard.Ziranity.Loader

/-!
The hex codecs of the adapter, next to those of the settlement helper and of the
configuration. An encoder gives up where the source has `unreachable!()`.

* `fromHex_eq_ok`, `utxoRefBytes_eq_ok`: each decoder accepts a text of 32 bytes as
  these bytes, and nothing else.
* `hex_codecs_agree`: one format for all of them.
-/

namespace OracleGuard

open Fallible Wire

/-! ## Transaction hashes -/

inductive TxHashParseError where
  | wrongLength
  | invalidChar
  deriving DecidableEq, Repr

namespace Cardano

/-- Uppercase is rejected. -/
def decodeNibble (b : UInt8) : Except TxHashParseError UInt8 :=
  if 0x30 ≤ b ∧ b ≤ 0x39 then .ok (b - 0x30)
  else if 0x61 ≤ b ∧ b ≤ 0x66 then .ok (b - 0x61 + 10)
  else .error .invalidChar

def nibbleChar (n : UInt8) : Option Char :=
  if n ≤ 9 then some (Char.ofNat (0x30 + n).toNat)
  else if 10 ≤ n ∧ n ≤ 15 then some (Char.ofNat (0x61 + n - 10).toNat)
  else none

/-- The last component of `signed_tx_path_for`. -/
def signedTxName (request : SettlementRequest) : Option String := do
  let name ← Hex.pushDigits nibbleChar request.intentId.toList
  return name ++ ".signed"

end Cardano

def CardanoTxHashV1.fromHex (s : String) : Except TxHashParseError CardanoTxHashV1 :=
  if (utf8 s).length ≠ 64 then .error .wrongLength
  else (Hex.decodeChunks Cardano.decodeNibble (utf8 s)).map fun bytes => ⟨overwrite 32 bytes⟩

def CardanoTxHashV1.toHex (hash : CardanoTxHashV1) : Option String :=
  Hex.pushDigits Cardano.nibbleChar hash.bytes.toList

/-! ## References of outputs -/

namespace Kupo

structure MatchRecord where
  transactionId : String
  outputIndex : UInt32
  datumHash : String
  deriving DecidableEq, Repr

inductive KupoParseError where
  | malformedJson
  | noMatchingUtxo
  | missingDatumHash
  | datumFieldMissing
  | hexInvalid
  | transactionIdWrongLength
  deriving DecidableEq, Repr

def decodeNibble (b : UInt8) : Option UInt8 :=
  if 0x30 ≤ b ∧ b ≤ 0x39 then some (b - 0x30)
  else if 0x61 ≤ b ∧ b ≤ 0x66 then some (b - 0x61 + 10)
  else none

def hexDecode (s : String) : Option Bytes :=
  if (utf8 s).length % 2 ≠ 0 then none else Hex.decodeChunks decodeNibble (utf8 s)

/-- The bytes are counted after they are decoded. -/
def utxoRefBytes (record : MatchRecord) : Except KupoParseError Bytes32 :=
  match hexDecode record.transactionId with
  | none => .error .hexInvalid
  | some bytes =>
    if hlength : bytes.length = 32 then .ok ⟨bytes.toArray, hlength⟩
    else .error .transactionIdWrongLength

end Kupo

/-! ## Object ids -/

namespace ZiranitySubmit

def hexNibble (n : UInt8) : Option Char :=
  if n ≤ 9 then some (Char.ofNat (0x30 + n).toNat)
  else if 10 ≤ n ∧ n ≤ 15 then some (Char.ofNat (0x61 + n - 10).toNat)
  else none

def hexEncode (bytes : Bytes32) : Option String := Hex.pushDigits hexNibble bytes.toList

end ZiranitySubmit

/-! ## One format -/

theorem toHex_eq (hash : CardanoTxHashV1) : hash.toHex = some (Hex.text hash.bytes.toList) :=
  Hex.pushDigits_eq (by decide) _

theorem signedTxName_eq (request : SettlementRequest) :
    Cardano.signedTxName request = some (Hex.text request.intentId.toList ++ ".signed") := by
  rw [Cardano.signedTxName, Hex.pushDigits_eq (by decide)]
  rfl

theorem objectId_eq (bytes : Bytes32) :
    ZiranitySubmit.hexEncode bytes = some (Hex.text bytes.toList) :=
  Hex.pushDigits_eq (by decide) _

theorem fromHex_eq_ok {s : String} {hash : CardanoTxHashV1} :
    CardanoTxHashV1.fromHex s = .ok hash ↔ s = Hex.text hash.bytes.toList := by
  have hnibble : Hex.ReadsNibbles Cardano.decodeNibble :=
    Hex.readsNibbles_ranges fun v h => by cases h
  obtain ⟨k⟩ := hash
  rw [CardanoTxHashV1.fromHex, guard_eq_ok, not_not, map_eq_ok]
  simp only [CardanoTxHashV1.mk.injEq]
  exact overwrite_chunks_iff hnibble

theorem hexDecode_eq_some {s : String} {bs : Bytes} :
    Kupo.hexDecode s = some bs ↔ s = Hex.text bs := by
  have hnibble : Hex.ReadsNibbles Kupo.decodeNibble :=
    Hex.readsNibbles_ranges fun v h => by cases h
  unfold Kupo.hexDecode
  split
  next hodd =>
    constructor
    · rintro ⟨⟩
    · rintro rfl
      rw [length_utf8_text] at hodd
      omega
  next heven => exact Hex.decodeChunks_utf8 hnibble (not_not.mp heven)

theorem utxoRefBytes_eq_ok {record : Kupo.MatchRecord} {k : Bytes32} :
    Kupo.utxoRefBytes record = .ok k ↔ record.transactionId = Hex.text k.toList := by
  rw [← hexDecode_eq_some]
  unfold Kupo.utxoRefBytes
  constructor
  · intro h
    split at h
    · cases h
    next bytes hbytes =>
      split_ifs at h with hlength
      cases h
      exact hbytes
  · intro h
    rw [h]
    exact dif_pos k.size_toArray

/-- The 32 byte values and the strings of 64 digits. -/
def txHashTexts : CardanoTxHashV1 ≃ {s : String // HexField 64 s} where
  toFun hash := ⟨Hex.text hash.bytes.toList,
    exists_decode32Hex.mp ⟨hash.bytes, (@decode32Hex_eq_ok _ "" _).mpr rfl⟩⟩
  invFun s := ⟨overwrite 32 (Hex.ofText s)⟩
  left_inv hash := by
    show CardanoTxHashV1.mk (overwrite 32 (Hex.ofText (Hex.text hash.bytes.toList))) = hash
    rw [Hex.ofText_text, overwrite_toList]
  right_inv s := by
    obtain ⟨k, hk⟩ := (@exists_decode32Hex s "").mpr s.property
    have hs := decode32Hex_eq_ok.mp hk
    apply Subtype.ext
    show Hex.text (overwrite 32 (Hex.ofText s.val)).toList = s.val
    rw [hs, Hex.ofText_text, overwrite_toList]

theorem fromHex_text (s : {s : String // HexField 64 s}) :
    CardanoTxHashV1.fromHex s = .ok (txHashTexts.symm s) :=
  fromHex_eq_ok.mpr (congrArg Subtype.val (txHashTexts.apply_symm_apply s)).symm

theorem exists_fromHex {s : String} :
    (∃ hash, CardanoTxHashV1.fromHex s = .ok hash) ↔ HexField 64 s := by
  constructor
  · rintro ⟨hash, h⟩
    rw [fromHex_eq_ok.mp h]
    exact (txHashTexts hash).property
  · exact fun h => ⟨_, fromHex_text ⟨s, h⟩⟩

/-- All of the three decoders accept a string, with the same bytes, or none does. -/
theorem decoders_agree (s : String) (outputIndex : UInt32) (datumHash field : String) :
    (∃ k, CardanoTxHashV1.fromHex s = .ok ⟨k⟩ ∧
      Kupo.utxoRefBytes ⟨s, outputIndex, datumHash⟩ = .ok k ∧ decode32Hex s field = .ok k) ∨
    ((∃ err, CardanoTxHashV1.fromHex s = .error err) ∧
      (∃ err, Kupo.utxoRefBytes ⟨s, outputIndex, datumHash⟩ = .error err) ∧
      ∃ err, decode32Hex s field = .error err) := by
  by_cases htext : ∃ k : Bytes32, s = Hex.text k.toList
  · obtain ⟨k, hk⟩ := htext
    exact .inl ⟨k, fromHex_eq_ok.mpr hk, utxoRefBytes_eq_ok.mpr hk, decode32Hex_eq_ok.mpr hk⟩
  · refine .inr ⟨exists_error ?_, exists_error ?_, exists_error ?_⟩
    · rintro ⟨hash, h⟩
      exact htext ⟨hash.bytes, fromHex_eq_ok.mp h⟩
    · rintro ⟨k, h⟩
      exact htext ⟨k, utxoRefBytes_eq_ok.mp h⟩
    · rintro ⟨k, h⟩
      exact htext ⟨k, decode32Hex_eq_ok.mp h⟩

/-- **The hex codecs agree.** -/
theorem hex_codecs_agree :
    (∀ hash : CardanoTxHashV1, hash.toHex = some (txHashTexts hash).val) ∧
    (∀ s : {s : String // HexField 64 s},
      CardanoTxHashV1.fromHex s = .ok (txHashTexts.symm s)) ∧
    (∀ s : String, (∃ hash, CardanoTxHashV1.fromHex s = .ok hash) ↔ HexField 64 s) ∧
    (∀ (s : String) (outputIndex : UInt32) (datumHash field : String),
      (∃ k, CardanoTxHashV1.fromHex s = .ok ⟨k⟩ ∧
        Kupo.utxoRefBytes ⟨s, outputIndex, datumHash⟩ = .ok k ∧ decode32Hex s field = .ok k) ∨
      ((∃ err, CardanoTxHashV1.fromHex s = .error err) ∧
        (∃ err, Kupo.utxoRefBytes ⟨s, outputIndex, datumHash⟩ = .error err) ∧
        ∃ err, decode32Hex s field = .error err)) ∧
    (∀ bs : Bytes, Kupo.hexDecode (Hex.text bs) = some bs) ∧
    (∀ k : Bytes32, ∃ text, (CardanoTxHashV1.mk k).toHex = some text ∧
      hexEncode32 k = some text ∧ ZiranitySubmit.hexEncode k = some text) ∧
    ∀ request : SettlementRequest, ∃ text, hexEncode32 request.intentId = some text ∧
      Cardano.signedTxName request = some (text ++ ".signed") :=
  ⟨toHex_eq, fromHex_text, fun _ => exists_fromHex, decoders_agree,
    fun _ => hexDecode_eq_some.mpr rfl,
    fun k => ⟨_, toHex_eq ⟨k⟩, hexEncode_eq _, objectId_eq k⟩,
    fun request => ⟨_, hexEncode_eq _, signedTxName_eq request⟩⟩

end OracleGuard
