import OracleGuard.Adapter.Framing
import OracleGuard.Wire.PrefixFree

/-!
AggState datums as a language: which byte strings there are, and where they end.

* `parseAggstateDatum_onChain`: the frame observed on chain is parsed, for all
  numbers, in every order of the keys and with heads of any width.
* `parseAggstateDatum_avoids`: no field is missing after the loop.
* `parseAggstateDatum_prefixFree`: no datum is a proper prefix of another one.
-/

namespace OracleGuard

open Cbor Fallible Wire

/-- Two indefinite arrays, `9f .. ff`, around a map. -/
def onChainBytes (outerTag innerTag length : Arg) (entries : List MapEntry) : Bytes :=
  head .tag outerTag ++ ([0x9f] ++ (head .tag innerTag ++ ([0x9f] ++
    (head .map length ++ (entries.flatMap MapEntry.bytes ++ [0xff, 0xff])))))

theorem Minicbor.exists_number {info : Fin 28} {n : UInt64} (h : Fits info n.toNat) :
    ∃ arg : Arg, arg.info = info ∧ number arg = n := by
  obtain ⟨arg, hinfo, hvalue⟩ := exists_arg h
  exact ⟨arg, hinfo, UInt64.toNat_inj.mp hvalue⟩

def PriceMapItem.keys (item : PriceMapItem) : List UInt64 :=
  item.entries.map fun entry => Minicbor.number entry.key

theorem PriceMapItem.keys_perm (item : PriceMapItem) :
    item.keys.Perm [KEY_PRICE, KEY_CREATED_MS, KEY_EXPIRY_MS] := by
  have h := item.order.map fun entry => Minicbor.number entry.key
  simp only [List.map_cons, List.map_nil, item.price_key, item.created_key,
    item.expiry_key] at h
  exact h

/-! ## Fields that cannot be missing -/

/-- The errors after the loop over the entries. -/
def Charli3ParseError.IsMissingField (err : Charli3ParseError) : Prop :=
  err = .missingPriceField ∨ err = .missingTimestampField ∨ err = .missingExpiryField

instance (err : Charli3ParseError) : Decidable err.IsMissingField :=
  inferInstanceAs (Decidable (_ ∨ _))

section Missing

open Charli3ParseError (IsMissingField)

theorem orError_avoids {α : Type} {err : Charli3ParseError} (herr : ¬ err.IsMissingField)
    (x : Option α) : Avoids IsMissingField (orError err x) := by
  cases x with
  | none => exact .error herr
  | some a => exact .ok a

variable (cbor : Minicbor)

theorem expectTag_avoids (expected : UInt64) {onMismatch : Charli3ParseError}
    (honMismatch : ¬ onMismatch.IsMissingField) (b : Bytes) :
    Avoids IsMissingField (expectTag cbor expected onMismatch b) := by
  refine .bind (orError_avoids (by decide) _) fun (tag, rest) _ => ?_
  simp only
  split
  · exact .error honMismatch
  · exact .ok rest

theorem expectArrayWithOneElement_avoids (b : Bytes) :
    Avoids IsMissingField (expectArrayWithOneElement cbor b) := by
  refine .bind (orError_avoids (by decide) _) fun (header, rest) _ => ?_
  cases header with
  | none => exact .ok rest
  | some count =>
    simp only
    split
    · exact .ok rest
    · exact .error (by decide)

theorem expectArrayBreak_avoids (b : Bytes) : Avoids IsMissingField (expectArrayBreak cbor b) := by
  refine .bind (orError_avoids (by decide) _) fun ty _ => ?_
  split
  · exact orError_avoids (by decide) _
  · exact .ok b

theorem readU64Or_avoids {onFailure : Charli3ParseError}
    (honFailure : ¬ onFailure.IsMissingField) (b : Bytes) :
    Avoids IsMissingField (readU64Or cbor onFailure b) := by
  refine .bind (orError_avoids (by decide) _) fun ty _ => ?_
  cases ty with
  | u8 | u16 | u32 | u64 => exact orError_avoids (by decide) _
  | «break» | other => exact .error honFailure

theorem readField_avoids (field : Option UInt64) {onFailure : Charli3ParseError}
    (honFailure : ¬ onFailure.IsMissingField) (set : UInt64 → PriceMap) (b : Bytes) :
    Avoids IsMissingField (readField cbor field onFailure set b) := by
  unfold readField
  split
  · exact .error (by decide)
  · exact .bind (readU64Or_avoids cbor honFailure b) fun _ _ => .ok _

theorem readEntry_avoids (m : PriceMap) (b : Bytes) :
    Avoids IsMissingField (readEntry cbor m b) := by
  refine .bind (readU64Or_avoids cbor (by decide) b) fun (key, rest) _ => ?_
  simp only
  split
  · exact readField_avoids cbor _ (by decide) _ _
  · split
    · exact readField_avoids cbor _ (by decide) _ _
    · split
      · exact readField_avoids cbor _ (by decide) _ _
      · exact .error (by decide)

theorem readEntries_avoids (n : Nat) (m : PriceMap) (b : Bytes) :
    Avoids IsMissingField (readEntries cbor n m b) := by
  induction n generalizing m b with
  | zero => exact .ok (m, b)
  | succ n ih => exact .bind (readEntry_avoids cbor m b) fun (m, rest) _ => ih m rest

theorem decodeConstr_avoids (tag : UInt64)
    {decodeField : Bytes → Except Charli3ParseError (AggStateDatum × Bytes)}
    (hfield : ∀ b, Avoids IsMissingField (decodeField b)) (b : Bytes) :
    Avoids IsMissingField (decodeConstr cbor tag decodeField b) := by
  refine .bind (expectTag_avoids cbor tag (by decide) b) fun rest _ => ?_
  refine .bind (expectArrayWithOneElement_avoids cbor rest) fun rest _ => ?_
  refine .bind (hfield rest) fun (datum, rest) _ => ?_
  exact .bind (expectArrayBreak_avoids cbor rest) fun _ _ => .ok _

variable {cbor} (hcbor : cbor.Documented)
include hcbor

/-- Three rounds of the loop set the three fields. -/
theorem toDatum_ok {m : PriceMap} {b rest : Bytes}
    (h : readEntries cbor 3 ⟨none, none, none⟩ b = .ok (m, rest)) :
    ∃ datum, m.toDatum = .ok datum := by
  obtain ⟨entries, hlength, hall, -⟩ := (readEntries_eq_ok hcbor).mp h
  obtain ⟨x, y, z, rfl⟩ := List.length_eq_three.mp hlength
  obtain ⟨price, created, expiry, -, -, -, -, rfl⟩ := hall.order
  exact ⟨_, rfl⟩

theorem decodePriceMap_avoids (b : Bytes) :
    Avoids IsMissingField (decodePriceMap cbor b) := by
  refine .bind (orError_avoids (by decide) _) fun (len, rest) _ => ?_
  cases len with
  | none => exact .error (by decide)
  | some len =>
    simp only
    split
    · exact .error (by decide)
    · refine .bind (readEntries_avoids cbor 3 _ rest) fun (m, rest) hentries => ?_
      obtain ⟨datum, hdatum⟩ := toDatum_ok hcbor hentries
      simp only [hdatum]
      exact .ok (datum, rest)

theorem parseAggstateDatum_avoids (b : Bytes) :
    Avoids IsMissingField (parseAggstateDatum cbor b) := by
  have hinner : ∀ b, Avoids IsMissingField (decodeInner cbor b) :=
    decodeConstr_avoids cbor CONSTR_2_TAG (decodePriceMap_avoids hcbor)
  refine .bind (decodeConstr_avoids cbor CONSTR_0_TAG hinner b) fun (datum, rest) _ => ?_
  simp only
  split
  · exact .error (by decide)
  · exact .ok datum

end Missing

/-! ## Where a datum ends -/

theorem MapEntry.bytes_append_inj {entry entry' : MapEntry} {rest rest' : Bytes}
    (h : entry.bytes ++ rest = entry'.bytes ++ rest') : entry = entry' ∧ rest = rest' := by
  simp only [bytes, List.append_assoc] at h
  obtain ⟨-, hkey, h⟩ := head_append_inj h
  obtain ⟨-, hvalue, hrest⟩ := head_append_inj h
  cases entry
  cases entry'
  cases hkey
  cases hvalue
  exact ⟨rfl, hrest⟩

theorem MapEntry.flatMap_bytes_append_inj {entries entries' : List MapEntry}
    (hlength : entries.length = entries'.length) {rest rest' : Bytes}
    (h : entries.flatMap bytes ++ rest = entries'.flatMap bytes ++ rest') : rest = rest' := by
  induction entries generalizing entries' with
  | nil =>
    rw [List.length_eq_zero_iff.mp hlength.symm] at h
    exact h
  | cons entry entries ih =>
    obtain ⟨entry', entries', rfl⟩ := List.exists_cons_of_length_eq_add_one hlength.symm
    simp only [List.flatMap_cons, List.append_assoc] at h
    obtain ⟨-, h⟩ := bytes_append_inj h
    exact ih (Nat.succ.inj hlength) h

/-- Every map has three entries, so a frame tells where it ends. -/
theorem Frame.bytesBefore_inj {frame frame' : Frame} {left left' : Bytes}
    (h : frame.bytesBefore left = frame'.bytesBefore left') : left = left' := by
  simp only [bytesBefore, PriceMapItem.bytes, List.append_assoc] at h
  obtain ⟨-, -, h⟩ := head_append_inj h
  obtain ⟨-, -, h⟩ := Opening.head_append_inj h
  obtain ⟨-, -, h⟩ := head_append_inj h
  obtain ⟨-, -, h⟩ := Opening.head_append_inj h
  obtain ⟨-, -, h⟩ := head_append_inj h
  have hlength : frame.priceMap.entries.length = frame'.priceMap.entries.length :=
    frame.priceMap.order.length_eq.trans frame'.priceMap.order.length_eq.symm
  exact MapEntry.flatMap_bytes_append_inj hlength h

theorem Frame.bytesBefore_append (frame : Frame) (left rest : Bytes) :
    frame.bytesBefore left ++ rest = frame.bytesBefore (left ++ rest) := by
  simp only [bytesBefore, List.append_assoc]

section Language

variable {cbor : Minicbor} (hcbor : cbor.Documented)
include hcbor

theorem parseAggstateDatum_prefixFree :
    PrefixFree fun b => ∃ datum, parseAggstateDatum cbor b = .ok datum := by
  rintro b b' ⟨datum, hb⟩ ⟨datum', hb'⟩ ⟨rest, hrest⟩
  obtain ⟨frame, -, rfl⟩ := (parseAggstateDatum_eq_ok hcbor).mp hb
  obtain ⟨frame', -, rfl⟩ := (parseAggstateDatum_eq_ok hcbor).mp hb'
  rw [frame.bytesBefore_append] at hrest
  have hnil : rest = [] := List.append_right_eq_self.mp (Frame.bytesBefore_inj hrest)
  rw [← hrest, hnil, List.append_nil]

theorem parseAggstateDatum_onChain {outerTag innerTag length : Arg}
    {price created expiry : MapEntry} {entries : List MapEntry}
    (houterTag : Minicbor.number outerTag = CONSTR_0_TAG)
    (hinnerTag : Minicbor.number innerTag = CONSTR_2_TAG) (hlength : Minicbor.number length = 3)
    (hprice : Minicbor.number price.key = KEY_PRICE)
    (hcreated : Minicbor.number created.key = KEY_CREATED_MS)
    (hexpiry : Minicbor.number expiry.key = KEY_EXPIRY_MS)
    (horder : entries.Perm [price, created, expiry]) :
    parseAggstateDatum cbor (onChainBytes outerTag innerTag length entries) =
      .ok ⟨Minicbor.number price.value, Minicbor.number created.value,
        Minicbor.number expiry.value⟩ := by
  let item : PriceMapItem :=
    ⟨length, entries, price, created, expiry, hlength, hprice, hcreated, hexpiry, horder⟩
  let frame : Frame :=
    ⟨outerTag, .indefinite, innerTag, .indefinite, item, houterTag, hinnerTag, trivial, trivial⟩
  refine (parseAggstateDatum_eq_ok hcbor).mpr ⟨frame, rfl, ?_⟩
  simp only [onChainBytes, Frame.bytesBefore, PriceMapItem.bytes, List.append_assoc, frame, item]
  rfl

/-- **The language of AggState datums.** -/
theorem aggstate_language :
    (∀ (n : UInt64) (info : Fin 28), Fits info n.toNat →
      ∃ arg : Arg, arg.info = info ∧ Minicbor.number arg = n) ∧
    (∀ (p c e : UInt64) (outerTag innerTag length : Arg) (price created expiry : MapEntry)
      (entries : List MapEntry), Minicbor.number outerTag = 121 → Minicbor.number innerTag = 123 →
      Minicbor.number length = 3 →
      Minicbor.number price.key = 0 → Minicbor.number price.value = p →
      Minicbor.number created.key = 1 → Minicbor.number created.value = c →
      Minicbor.number expiry.key = 2 → Minicbor.number expiry.value = e →
      entries.Perm [price, created, expiry] →
      parseAggstateDatum cbor (onChainBytes outerTag innerTag length entries) = .ok ⟨p, c, e⟩) ∧
    (∀ (b : Bytes) (datum : AggStateDatum), parseAggstateDatum cbor b = .ok datum →
      ∃ frame : Frame, b = frame.bytesBefore [0xff, 0xff] ∧ datum = frame.datum ∧
        frame.priceMap.keys.Perm [0, 1, 2]) ∧
    (∀ b, parseAggstateDatum cbor b ≠ .error .missingPriceField ∧
      parseAggstateDatum cbor b ≠ .error .missingTimestampField ∧
      parseAggstateDatum cbor b ≠ .error .missingExpiryField) ∧
    (PrefixFree fun b => ∃ datum, parseAggstateDatum cbor b = .ok datum) ∧
    (∀ (b : Bytes) (datum : AggStateDatum), parseAggstateDatum cbor b = .ok datum →
      (∀ n < b.length, ∃ err, parseAggstateDatum cbor (b.take n) = .error err) ∧
      ∀ rest ≠ [], ∃ err, parseAggstateDatum cbor (b ++ rest) = .error err) := by
  have hfree := parseAggstateDatum_prefixFree hcbor
  refine ⟨fun n info h => Minicbor.exists_number h, ?_, ?_, ?_, hfree, ?_⟩
  · rintro p c e outerTag innerTag length price created expiry entries houterTag hinnerTag hlength
      hprice rfl hcreated rfl hexpiry rfl horder
    exact parseAggstateDatum_onChain hcbor houterTag hinnerTag hlength hprice hcreated hexpiry
      horder
  · intro b datum h
    obtain ⟨frame, hdatum, hb⟩ := (parseAggstateDatum_eq_ok hcbor).mp h
    exact ⟨frame, hb, hdatum, frame.priceMap.keys_perm⟩
  · intro b
    have havoids := parseAggstateDatum_avoids hcbor b
    exact ⟨fun h => havoids h (.inl rfl), fun h => havoids h (.inr (.inl rfl)),
      fun h => havoids h (.inr (.inr rfl))⟩
  · intro b datum h
    exact ⟨fun n hn => exists_error (hfree.not_take ⟨datum, h⟩ hn),
      fun rest hrest => exists_error (hfree.not_append ⟨datum, h⟩ hrest)⟩

end Language

/-- The golden frame with its keys in another order and a wider head for the price. -/
theorem aggstate_language_golden :
    parseAggstateDatum .reference (onChainBytes ⟨24, [121], rfl⟩ ⟨24, [123], rfl⟩ ⟨3, [], rfl⟩
        [goldenMap.expiry, ⟨⟨24, [0], rfl⟩, goldenMap.price.value⟩, goldenMap.created]) =
      .ok ⟨258000, 1776428823000, 1776429423000⟩ :=
  (aggstate_language Minicbor.reference_documented).2.1 _ _ _ _ _ _
    ⟨⟨24, [0], rfl⟩, goldenMap.price.value⟩ goldenMap.created goldenMap.expiry _ (by decide)
    (by decide) (by decide) (by decide) (by decide) (by decide) (by decide) (by decide)
    (by decide) (by decide)

end OracleGuard
