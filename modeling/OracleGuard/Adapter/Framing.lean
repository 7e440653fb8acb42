import OracleGuard.Adapter.Charli3

/-!
How the arrays of a datum are framed. The parser closes an array by looking for a
break, and does not remember how the array was opened.

* `definite_frame_rejected`: a datum with an array of definite length is rejected.
* `accepted_item_iff`: what is accepted is a well-formed item exactly when both
  arrays were opened with indefinite length.
-/

namespace OracleGuard

open Cbor Fallible Wire

/-- One data item: two constructors, each around an array of one element, and a map
of three entries. Each of the arrays is closed the way it was opened. -/
inductive AggStateShape : Bytes → Prop
  | intro {outerTag innerTag : Arg} {outer inner : Opening} (map : Opening)
      (entries : List (Bytes × Bytes))
      (houterTag : Minicbor.number outerTag = CONSTR_0_TAG)
      (hinnerTag : Minicbor.number innerTag = CONSTR_2_TAG)
      (houter : outer.Announces 1) (hinner : inner.Announces 1) (hmap : map.Announces 3)
      (hlength : entries.length = 3) (hkeys : ∀ e ∈ entries, WellFormed e.1)
      (hvalues : ∀ e ∈ entries, WellFormed e.2) :
      AggStateShape (head .tag outerTag ++ outer.enclose .array
        (head .tag innerTag ++ inner.enclose .array
          (map.enclose .map (entries.flatMap fun e => e.1 ++ e.2))))

/-- Both arrays of a datum start with the head of an indefinite array. -/
def OpensIndefinite (b : Bytes) : Prop :=
  ∃ (outerTag innerTag : Arg) (rest : Bytes),
    b = head .tag outerTag ++ (Opening.indefinite.head .array ++
      (head .tag innerTag ++ (Opening.indefinite.head .array ++ rest)))

theorem AggStateShape.wellFormed {b : Bytes} (h : AggStateShape b) : WellFormed b := by
  obtain ⟨map, entries, -, -, houter, hinner, hmap, hlength, hkeys, hvalues⟩ := h
  exact .tag _ (WellFormed.singleton houter
    (.tag _ (WellFormed.singleton hinner (.map (hlength ▸ hmap) hkeys hvalues))))

def MapEntry.items (entry : MapEntry) : Bytes × Bytes :=
  (head .unsigned entry.key, head .unsigned entry.value)

theorem PriceMapItem.bytes_eq (item : PriceMapItem) :
    item.bytes = (Opening.definite item.length).enclose .map
      ((item.entries.map MapEntry.items).flatMap fun e => e.1 ++ e.2) := by
  rw [Opening.enclose, Opening.closing, List.append_nil, List.flatMap_map]
  rfl

namespace Frame

variable (frame : Frame)

theorem shape : AggStateShape frame.bytes := by
  have hlength : frame.priceMap.length.value = 3 :=
    congrArg UInt64.toNat frame.priceMap.length_three
  have h := AggStateShape.intro (.definite frame.priceMap.length)
    (frame.priceMap.entries.map MapEntry.items) frame.outerTag_constr frame.innerTag_constr
    frame.outer_one frame.inner_one hlength
    (by rw [List.length_map, frame.priceMap.order.length_eq]; rfl)
    (by
      intro e he
      obtain ⟨entry, -, rfl⟩ := List.mem_map.mp he
      exact .unsigned entry.key)
    (by
      intro e he
      obtain ⟨entry, -, rfl⟩ := List.mem_map.mp he
      exact .unsigned entry.value)
  rwa [← PriceMapItem.bytes_eq] at h

theorem opensIndefinite_iff (left : Bytes) :
    OpensIndefinite (frame.bytesBefore left) ↔
      frame.outer = .indefinite ∧ frame.inner = .indefinite := by
  constructor
  · rintro ⟨outerTag, innerTag, rest, h⟩
    obtain ⟨-, -, h⟩ := head_append_inj h
    obtain ⟨-, houter, h⟩ := Opening.head_append_inj h
    obtain ⟨-, -, h⟩ := head_append_inj h
    obtain ⟨-, hinner, -⟩ := Opening.head_append_inj h
    exact ⟨houter, hinner⟩
  · rintro ⟨houter, hinner⟩
    exact ⟨frame.outerTag, frame.innerTag, frame.priceMap.bytes ++ left, by
      rw [bytesBefore, houter, hinner]⟩

theorem bytes_of_indefinite (houter : frame.outer = .indefinite)
    (hinner : frame.inner = .indefinite) : frame.bytes = frame.bytesBefore [BREAK, BREAK] := by
  rw [bytes_eq, houter, hinner]
  rfl

end Frame

/-- Entries of well-formed items that start like entries of numbers are those. -/
theorem entries_append_inj {entries : List MapEntry} {items : List (Bytes × Bytes)}
    (hlength : items.length = entries.length) (hkeys : ∀ e ∈ items, WellFormed e.1)
    (hvalues : ∀ e ∈ items, WellFormed e.2) {rest rest' : Bytes}
    (h : (items.flatMap fun e => e.1 ++ e.2) ++ rest =
      entries.flatMap MapEntry.bytes ++ rest') : rest = rest' := by
  induction entries generalizing items with
  | nil =>
    rw [List.length_eq_zero_iff.mp hlength] at h
    exact h
  | cons entry entries ih =>
    obtain ⟨⟨key, value⟩, items, rfl⟩ := List.exists_cons_of_length_eq_add_one hlength
    simp only [List.flatMap_cons, MapEntry.bytes, List.append_assoc] at h
    obtain ⟨-, h⟩ := (hkeys _ List.mem_cons_self).eq_head h
    obtain ⟨-, h⟩ := (hvalues _ List.mem_cons_self).eq_head h
    exact ih (Nat.succ.inj hlength) (fun e he => hkeys e (List.mem_cons_of_mem _ he))
      (fun e he => hvalues e (List.mem_cons_of_mem _ he)) h

/-- The breaks of a data item are those of its own arrays. -/
theorem AggStateShape.closing_eq {frame : Frame} {left : Bytes}
    (h : AggStateShape (frame.bytesBefore left)) :
    left = frame.inner.closing ++ frame.outer.closing := by
  generalize hb : frame.bytesBefore left = b at h
  cases h with
  | intro map entries _ _ _ _ _ hlength hkeys hvalues =>
    simp only [Frame.bytesBefore, PriceMapItem.bytes, Opening.enclose, List.append_assoc] at hb
    obtain ⟨-, -, hb⟩ := head_append_inj hb
    obtain ⟨-, rfl, hb⟩ := Opening.head_append_inj hb
    obtain ⟨-, -, hb⟩ := head_append_inj hb
    obtain ⟨-, rfl, hb⟩ := Opening.head_append_inj hb
    rw [← Opening.head_definite] at hb
    obtain ⟨-, rfl, hb⟩ := Opening.head_append_inj hb
    have hlength : entries.length = frame.priceMap.entries.length := by
      rw [hlength, frame.priceMap.order.length_eq]
      rfl
    exact (entries_append_inj hlength hkeys hvalues hb.symm).symm

theorem two_breaks {inner outer : Opening}
    (h : [BREAK, BREAK] = inner.closing ++ outer.closing) :
    outer = .indefinite ∧ inner = .indefinite := by
  cases inner with
  | definite _ =>
    cases outer with
    | definite _ => cases h
    | indefinite => cases h
  | indefinite =>
    cases outer with
    | definite _ => cases h
    | indefinite => exact ⟨rfl, rfl⟩

/-- Behind two breaks, the shape is that of two indefinite arrays. -/
theorem Frame.shape_iff (frame : Frame) :
    AggStateShape (frame.bytesBefore [BREAK, BREAK]) ↔
      frame.outer = .indefinite ∧ frame.inner = .indefinite := by
  constructor
  · intro h
    exact two_breaks h.closing_eq
  · rintro ⟨houter, hinner⟩
    exact frame.bytes_of_indefinite houter hinner ▸ frame.shape

/-! ## Rejected and accepted datums -/

section Framing

variable {cbor : Minicbor} (hcbor : cbor.Documented)
include hcbor

/-- Two breaks are looked for, and fewer than two are too few. -/
theorem parse_nil (frame : Frame) :
    parseAggstateDatum cbor (frame.bytesBefore []) = .error .malformedCbor := by
  rw [parseAggstateDatum_bytesBefore hcbor, expectArrayBreak_nil hcbor]
  rfl

theorem parse_one_break (frame : Frame) :
    parseAggstateDatum cbor (frame.bytesBefore [BREAK]) = .error .malformedCbor := by
  rw [parseAggstateDatum_bytesBefore hcbor, expectArrayBreak_break hcbor]
  show (expectArrayBreak cbor [] >>= _) = _
  rw [expectArrayBreak_nil hcbor]
  rfl

/-- **A datum with an array of definite length is rejected.** -/
theorem definite_frame_rejected (frame : Frame)
    (hdefinite : frame.outer ≠ .indefinite ∨ frame.inner ≠ .indefinite) :
    parseAggstateDatum cbor frame.bytes = .error .malformedCbor := by
  rw [frame.bytes_eq]
  cases hinner : frame.inner with
  | definite count =>
    cases houter : frame.outer with
    | definite count' => exact parse_nil hcbor frame
    | indefinite =>
      -- the inner array takes the break of the outer one
      exact parse_one_break hcbor frame
  | indefinite =>
    cases houter : frame.outer with
    | definite count' => exact parse_one_break hcbor frame
    | indefinite =>
      rw [houter, hinner] at hdefinite
      simp at hdefinite

/-- **What is accepted is one data item exactly when both arrays are indefinite.** -/
theorem accepted_item_iff {b : Bytes} {datum : AggStateDatum}
    (h : parseAggstateDatum cbor b = .ok datum) :
    (WellFormed b ∧ AggStateShape b) ↔ OpensIndefinite b := by
  obtain ⟨frame, -, rfl⟩ := (parseAggstateDatum_eq_ok hcbor).mp h
  rw [frame.opensIndefinite_iff, ← frame.shape_iff]
  exact ⟨And.right, fun hshape => ⟨hshape.wellFormed, hshape⟩⟩

end Framing

/-! ## The golden datum, framed in other ways -/

/-- The head `0x81`. -/
def oneElement : Opening := .definite ⟨1, [], rfl⟩

def goldenMap : PriceMapItem where
  length := ⟨3, [], rfl⟩
  entries := [⟨⟨0, [], rfl⟩, ⟨26, [0x00, 0x03, 0xef, 0xd0], rfl⟩⟩,
    ⟨⟨1, [], rfl⟩, ⟨27, [0x00, 0x00, 0x01, 0x9d, 0x9b, 0x68, 0xb1, 0xd8], rfl⟩⟩,
    ⟨⟨2, [], rfl⟩, ⟨27, [0x00, 0x00, 0x01, 0x9d, 0x9b, 0x71, 0xd9, 0x98], rfl⟩⟩]
  price := ⟨⟨0, [], rfl⟩, ⟨26, [0x00, 0x03, 0xef, 0xd0], rfl⟩⟩
  created := ⟨⟨1, [], rfl⟩, ⟨27, [0x00, 0x00, 0x01, 0x9d, 0x9b, 0x68, 0xb1, 0xd8], rfl⟩⟩
  expiry := ⟨⟨2, [], rfl⟩, ⟨27, [0x00, 0x00, 0x01, 0x9d, 0x9b, 0x71, 0xd9, 0x98], rfl⟩⟩
  length_three := rfl
  price_key := rfl
  created_key := rfl
  expiry_key := rfl
  order := .refl _

/-- The frame observed on chain. -/
def goldenFrame : Frame where
  outerTag := ⟨24, [121], rfl⟩
  outer := .indefinite
  innerTag := ⟨24, [123], rfl⟩
  inner := .indefinite
  priceMap := goldenMap
  outerTag_constr := rfl
  innerTag_constr := rfl
  outer_one := trivial
  inner_one := trivial

def definiteFrame : Frame :=
  { goldenFrame with outer := oneElement, inner := oneElement, outer_one := rfl, inner_one := rfl }

example : goldenFrame.datum = ⟨258000, 1776428823000, 1776429423000⟩ := by decide

theorem definite_frame_rejected_golden :
    definiteFrame.bytes = [0xd8, 0x79, 0x81, 0xd8, 0x7b, 0x81, 0xa3, 0x00, 0x1a, 0x00, 0x03, 0xef,
        0xd0, 0x01, 0x1b, 0x00, 0x00, 0x01, 0x9d, 0x9b, 0x68, 0xb1, 0xd8, 0x02, 0x1b, 0x00, 0x00,
        0x01, 0x9d, 0x9b, 0x71, 0xd9, 0x98] ∧
      parseAggstateDatum .reference definiteFrame.bytes = .error .malformedCbor :=
  ⟨by decide, definite_frame_rejected Minicbor.reference_documented definiteFrame
    (.inl (by decide))⟩

theorem definite_frame_not_accepted :
    ¬ ∀ (cbor : Minicbor), cbor.Documented → ∀ frame : Frame,
      frame.outer ≠ .indefinite ∨ frame.inner ≠ .indefinite →
        parseAggstateDatum cbor frame.bytes = .ok frame.datum := by
  intro h
  have haccepted := h .reference Minicbor.reference_documented definiteFrame (.inl (by decide))
  have hrejected : parseAggstateDatum .reference definiteFrame.bytes ≠ .ok definiteFrame.datum := by
    decide
  exact hrejected haccepted

theorem accepted_item_iff_golden :
    parseAggstateDatum .reference goldenFrame.bytes = .ok goldenFrame.datum ∧
      WellFormed goldenFrame.bytes := by
  have haccepted : parseAggstateDatum .reference goldenFrame.bytes = .ok goldenFrame.datum := by
    decide
  have hindefinite : OpensIndefinite goldenFrame.bytes := by
    rw [goldenFrame.bytes_eq]
    exact (goldenFrame.opensIndefinite_iff _).mpr ⟨rfl, rfl⟩
  exact ⟨haccepted,
    ((accepted_item_iff Minicbor.reference_documented haccepted).mpr hindefinite).1⟩

/-- Two definite arrays, and two breaks that close nothing. -/
theorem stray_breaks_accepted :
    ¬ ∀ (cbor : Minicbor), cbor.Documented → ∀ (b : Bytes) (datum : AggStateDatum),
      parseAggstateDatum cbor b = .ok datum → WellFormed b ∧ AggStateShape b := by
  intro h
  have haccepted : parseAggstateDatum .reference (definiteFrame.bytes ++ [BREAK, BREAK]) =
      .ok definiteFrame.datum := by
    decide
  have hshape : AggStateShape (definiteFrame.bytesBefore [BREAK, BREAK]) :=
    (h .reference Minicbor.reference_documented _ _ haccepted).2
  cases (definiteFrame.shape_iff.mp hshape).1

end OracleGuard
