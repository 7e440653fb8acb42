import OracleGuard.Adapter.Minicbor
import OracleGuard.Fallible
import OracleGuard.Schemas.Domain

/-!
The parser of AggState datums.

* `parseAggstateDatum_eq_ok`: the accepted byte strings are exactly the frames
  followed by two breaks, whatever arrays the frame has opened.
-/

namespace OracleGuard

open Cbor Fallible Wire

/-! ## The parser -/

def CONSTR_0_TAG : UInt64 := 121

def CONSTR_2_TAG : UInt64 := 123

def KEY_PRICE : UInt64 := 0

def KEY_CREATED_MS : UInt64 := 1

def KEY_EXPIRY_MS : UInt64 := 2

structure AggStateDatum where
  priceMicrousd : UInt64
  createdUnixMs : UInt64
  expiryUnixMs : UInt64
  deriving DecidableEq, Repr

inductive Charli3ParseError where
  | malformedCbor
  | unexpectedConstructor
  | missingPriceField
  | missingTimestampField
  | missingExpiryField
  | priceNotInteger
  | timestampNotInteger
  | integerTooLarge
  | unexpectedMapKey
  deriving DecidableEq, Repr

section Parser

variable (cbor : Minicbor)

/-- Every error of a decoder method is mapped to one error of the parser. -/
def orError {α : Type} (err : Charli3ParseError) : Option α → Except Charli3ParseError α
  | some a => .ok a
  | none => .error err

def expectTag (expected : UInt64) (onMismatch : Charli3ParseError) (b : Bytes) :
    Except Charli3ParseError Bytes := do
  let (tag, rest) ← orError .malformedCbor (cbor.tag b)
  if tag ≠ expected then .error onMismatch else return rest

/-- The caller is expected to close an indefinite array. -/
def expectArrayWithOneElement (b : Bytes) : Except Charli3ParseError Bytes := do
  let (header, rest) ← orError .malformedCbor (cbor.array b)
  match header with
  | some count => if count = 1 then return rest else .error .malformedCbor
  | none => return rest

/-- A break is consumed whether or not the array it would close is indefinite. -/
def expectArrayBreak (b : Bytes) : Except Charli3ParseError Bytes := do
  let ty ← orError .malformedCbor (cbor.datatype b)
  if ty = .break then orError .malformedCbor (cbor.skip b) else return b

def readU64Or (onFailure : Charli3ParseError) (b : Bytes) :
    Except Charli3ParseError (UInt64 × Bytes) := do
  match ← orError .malformedCbor (cbor.datatype b) with
  | .u8 | .u16 | .u32 | .u64 => orError .integerTooLarge (cbor.u64 b)
  | .break | .other => .error onFailure

/-- The fields read so far. -/
structure PriceMap where
  price : Option UInt64
  created : Option UInt64
  expiry : Option UInt64
  deriving DecidableEq, Repr

/-- A field is read once. -/
def readField (field : Option UInt64) (onFailure : Charli3ParseError) (set : UInt64 → PriceMap)
    (b : Bytes) : Except Charli3ParseError (PriceMap × Bytes) :=
  if field.isSome then .error .unexpectedMapKey
  else do
    let (value, rest) ← readU64Or cbor onFailure b
    return (set value, rest)

/-- The body of the loop over the entries. -/
def readEntry (m : PriceMap) (b : Bytes) : Except Charli3ParseError (PriceMap × Bytes) := do
  let (key, rest) ← readU64Or cbor .malformedCbor b
  if key = KEY_PRICE then
    readField cbor m.price .priceNotInteger (fun price => { m with price := some price }) rest
  else if key = KEY_CREATED_MS then
    readField cbor m.created .timestampNotInteger
      (fun created => { m with created := some created }) rest
  else if key = KEY_EXPIRY_MS then
    readField cbor m.expiry .timestampNotInteger
      (fun expiry => { m with expiry := some expiry }) rest
  else .error .unexpectedMapKey

def readEntries : Nat → PriceMap → Bytes → Except Charli3ParseError (PriceMap × Bytes)
  | 0, m, b => return (m, b)
  | n + 1, m, b => do
    let (m, rest) ← readEntry cbor m b
    readEntries n m rest

def PriceMap.toDatum (m : PriceMap) : Except Charli3ParseError AggStateDatum := do
  let priceMicrousd ← orError .missingPriceField m.price
  let createdUnixMs ← orError .missingTimestampField m.created
  let expiryUnixMs ← orError .missingExpiryField m.expiry
  return { priceMicrousd, createdUnixMs, expiryUnixMs }

def decodePriceMap (b : Bytes) : Except Charli3ParseError (AggStateDatum × Bytes) := do
  let (len, rest) ← orError .malformedCbor (cbor.map b)
  match len with
  | none => .error .malformedCbor
  | some len =>
    if len ≠ 3 then .error .malformedCbor
    else
      let (m, rest) ← readEntries cbor 3 ⟨none, none, none⟩ rest
      let datum ← m.toDatum
      return (datum, rest)

/-- A constructor around the one field of a datum. -/
def decodeConstr (tag : UInt64)
    (decodeField : Bytes → Except Charli3ParseError (AggStateDatum × Bytes)) (b : Bytes) :
    Except Charli3ParseError (AggStateDatum × Bytes) := do
  let rest ← expectTag cbor tag .unexpectedConstructor b
  let rest ← expectArrayWithOneElement cbor rest
  let (datum, rest) ← decodeField rest
  let rest ← expectArrayBreak cbor rest
  return (datum, rest)

def decodeInner : Bytes → Except Charli3ParseError (AggStateDatum × Bytes) :=
  decodeConstr cbor CONSTR_2_TAG (decodePriceMap cbor)

def decodeOuter : Bytes → Except Charli3ParseError (AggStateDatum × Bytes) :=
  decodeConstr cbor CONSTR_0_TAG (decodeInner cbor)

def parseAggstateDatum (b : Bytes) : Except Charli3ParseError AggStateDatum := do
  let (datum, rest) ← decodeOuter cbor b
  if rest ≠ [] then .error .malformedCbor else return datum

end Parser

/-! ## Frames -/

/-- An entry of the map: two unsigned numbers, each in any width. -/
structure MapEntry where
  key : Arg
  value : Arg
  deriving DecidableEq, Repr

def MapEntry.bytes (entry : MapEntry) : Bytes :=
  head .unsigned entry.key ++ head .unsigned entry.value

/-- A map of three entries, one for each key, in any order. -/
structure PriceMapItem where
  length : Arg
  entries : List MapEntry
  price : MapEntry
  created : MapEntry
  expiry : MapEntry
  length_three : Minicbor.number length = 3
  price_key : Minicbor.number price.key = KEY_PRICE
  created_key : Minicbor.number created.key = KEY_CREATED_MS
  expiry_key : Minicbor.number expiry.key = KEY_EXPIRY_MS
  order : entries.Perm [price, created, expiry]

namespace PriceMapItem

def datum (item : PriceMapItem) : AggStateDatum where
  priceMicrousd := Minicbor.number item.price.value
  createdUnixMs := Minicbor.number item.created.value
  expiryUnixMs := Minicbor.number item.expiry.value

def bytes (item : PriceMapItem) : Bytes :=
  head .map item.length ++ item.entries.flatMap MapEntry.bytes

end PriceMapItem

/-- The shape of an AggState datum: two constructors, each around an array of one
element, and the map inside them. -/
structure Frame where
  outerTag : Arg
  outer : Opening
  innerTag : Arg
  inner : Opening
  priceMap : PriceMapItem
  outerTag_constr : Minicbor.number outerTag = CONSTR_0_TAG
  innerTag_constr : Minicbor.number innerTag = CONSTR_2_TAG
  outer_one : outer.Announces 1
  inner_one : inner.Announces 1

namespace Frame

def datum (frame : Frame) : AggStateDatum := frame.priceMap.datum

/-- The data item: each array is closed the way it was opened. -/
def bytes (frame : Frame) : Bytes :=
  head .tag frame.outerTag ++ frame.outer.enclose .array
    (head .tag frame.innerTag ++ frame.inner.enclose .array frame.priceMap.bytes)

/-- The data item up to the end of the map, and then something else. -/
def bytesBefore (frame : Frame) (rest : Bytes) : Bytes :=
  head .tag frame.outerTag ++ (frame.outer.head .array ++
    (head .tag frame.innerTag ++ (frame.inner.head .array ++ (frame.priceMap.bytes ++ rest))))

theorem bytes_eq (frame : Frame) :
    frame.bytes = frame.bytesBefore (frame.inner.closing ++ frame.outer.closing) := by
  simp only [bytes, bytesBefore, Opening.enclose, List.append_assoc]

end Frame

/-! ## What each function accepts -/

theorem orError_eq_ok {α : Type} {err : Charli3ParseError} {x : Option α} {a : α} :
    orError err x = .ok a ↔ x = some a := by
  cases x with
  | none => simp [orError]
  | some b => simp [orError]

/-- What an entry does to the fields read before it. -/
inductive Takes : PriceMap → MapEntry → PriceMap → Prop
  | price {entry : MapEntry} {created expiry : Option UInt64}
      (hkey : Minicbor.number entry.key = KEY_PRICE) :
      Takes ⟨none, created, expiry⟩ entry ⟨some (Minicbor.number entry.value), created, expiry⟩
  | created {entry : MapEntry} {price expiry : Option UInt64}
      (hkey : Minicbor.number entry.key = KEY_CREATED_MS) :
      Takes ⟨price, none, expiry⟩ entry ⟨price, some (Minicbor.number entry.value), expiry⟩
  | expiry {entry : MapEntry} {price created : Option UInt64}
      (hkey : Minicbor.number entry.key = KEY_EXPIRY_MS) :
      Takes ⟨price, created, none⟩ entry ⟨price, created, some (Minicbor.number entry.value)⟩

inductive TakesAll : PriceMap → List MapEntry → PriceMap → Prop
  | nil {m : PriceMap} : TakesAll m [] m
  | cons {m : PriceMap} {entry : MapEntry} {m₁ : PriceMap} {entries : List MapEntry} {m' : PriceMap}
      (htakes : Takes m entry m₁) (hall : TakesAll m₁ entries m') : TakesAll m (entry :: entries) m'

/-- Three entries fill the map exactly when each key has one of them. -/
theorem TakesAll.order {a b c : MapEntry} {m : PriceMap}
    (h : TakesAll ⟨none, none, none⟩ [a, b, c] m) :
    ∃ price created expiry : MapEntry,
      Minicbor.number price.key = KEY_PRICE ∧ Minicbor.number created.key = KEY_CREATED_MS ∧
      Minicbor.number expiry.key = KEY_EXPIRY_MS ∧ [a, b, c].Perm [price, created, expiry] ∧
      m = ⟨some (Minicbor.number price.value), some (Minicbor.number created.value),
        some (Minicbor.number expiry.value)⟩ := by
  obtain _ | ⟨ha, _ | ⟨hb, _ | ⟨hc, ⟨⟩⟩⟩⟩ := h
  cases ha with
  | price ha =>
    cases hb with
    | created hb =>
      cases hc with
      | expiry hc => exact ⟨a, b, c, ha, hb, hc, .refl _, rfl⟩
    | expiry hb =>
      cases hc with
      | created hc => exact ⟨a, c, b, ha, hc, hb, .cons a (.swap c b []), rfl⟩
  | created ha =>
    cases hb with
    | price hb =>
      cases hc with
      | expiry hc => exact ⟨b, a, c, hb, ha, hc, .swap b a [c], rfl⟩
    | expiry hb =>
      cases hc with
      | price hc => exact ⟨c, a, b, hc, ha, hb, @List.perm_append_comm _ [a, b] [c], rfl⟩
  | expiry ha =>
    cases hb with
    | price hb =>
      cases hc with
      | created hc => exact ⟨b, c, a, hb, hc, ha, @List.perm_append_comm _ [a] [b, c], rfl⟩
    | created hb =>
      cases hc with
      | price hc => exact ⟨c, b, a, hc, hb, ha, (List.reverse_perm [a, b, c]).symm, rfl⟩

theorem Takes.swap {m m₁ m₂ : PriceMap} {x y : MapEntry} (hx : Takes m x m₁)
    (hy : Takes m₁ y m₂) : ∃ m₁', Takes m y m₁' ∧ Takes m₁' x m₂ := by
  cases hx with
  | price hx =>
    cases hy with
    | created hy => exact ⟨_, .created hy, .price hx⟩
    | expiry hy => exact ⟨_, .expiry hy, .price hx⟩
  | created hx =>
    cases hy with
    | price hy => exact ⟨_, .price hy, .created hx⟩
    | expiry hy => exact ⟨_, .expiry hy, .created hx⟩
  | expiry hx =>
    cases hy with
    | price hy => exact ⟨_, .price hy, .expiry hx⟩
    | created hy => exact ⟨_, .created hy, .expiry hx⟩

/-- The order of the entries does not matter. -/
theorem TakesAll.perm {entries entries' : List MapEntry} (hperm : entries.Perm entries')
    {m m' : PriceMap} (h : TakesAll m entries m') : TakesAll m entries' m' := by
  induction hperm generalizing m with
  | nil => exact h
  | cons x _ ih =>
    obtain _ | ⟨htakes, hall⟩ := h
    exact .cons htakes (ih hall)
  | swap x y l =>
    obtain _ | ⟨hy, _ | ⟨hx, hall⟩⟩ := h
    obtain ⟨m₁, hx, hy⟩ := hy.swap hx
    exact .cons hx (.cons hy hall)
  | trans _ _ ih ih' => exact ih' (ih h)

theorem PriceMapItem.takesAll (item : PriceMapItem) :
    TakesAll ⟨none, none, none⟩ item.entries
      ⟨some (Minicbor.number item.price.value), some (Minicbor.number item.created.value),
        some (Minicbor.number item.expiry.value)⟩ :=
  TakesAll.perm item.order.symm
    (.cons (.price item.price_key) (.cons (.created item.created_key)
      (.cons (.expiry item.expiry_key) .nil)))

section Accepts

variable {cbor : Minicbor} (hcbor : cbor.Documented)
include hcbor

theorem expectTag_eq_ok {expected : UInt64} {onMismatch : Charli3ParseError} {b rest : Bytes} :
    expectTag cbor expected onMismatch b = .ok rest ↔
      ∃ arg, Minicbor.number arg = expected ∧ b = head .tag arg ++ rest := by
  rw [expectTag, bind_eq_ok, hcbor.tag_head]
  constructor
  · rintro ⟨⟨tag, rest'⟩, hread, h⟩
    obtain ⟨arg, harg, rfl⟩ := Minicbor.readNumber_eq_some.mp (orError_eq_ok.mp hread)
    obtain ⟨hexpected, h⟩ := guard_eq_ok.mp h
    cases h
    exact ⟨arg, harg.trans (not_not.mp hexpected), rfl⟩
  · rintro ⟨arg, hexpected, rfl⟩
    refine ⟨(expected, rest),
      orError_eq_ok.mpr (Minicbor.readNumber_eq_some.mpr ⟨arg, hexpected, rfl⟩), ?_⟩
    simp
    rfl

theorem expectArrayWithOneElement_eq_ok {b rest : Bytes} :
    expectArrayWithOneElement cbor b = .ok rest ↔
      ∃ opening : Opening, opening.Announces 1 ∧ b = opening.head .array ++ rest := by
  rw [expectArrayWithOneElement, bind_eq_ok, hcbor.array_head]
  constructor
  · rintro ⟨⟨header, rest'⟩, hread, h⟩
    obtain ⟨opening, rfl, rfl⟩ := Minicbor.readCount_eq_some.mp (orError_eq_ok.mp hread)
    refine ⟨opening, ?_⟩
    cases opening with
    | indefinite =>
      cases h
      exact ⟨trivial, rfl⟩
    | definite count =>
      simp only [Minicbor.countOf] at h
      split at h
      next hone =>
        cases h
        exact ⟨congrArg UInt64.toNat hone, rfl⟩
      · cases h
  · rintro ⟨opening, hone, rfl⟩
    refine ⟨(Minicbor.countOf opening, rest),
      orError_eq_ok.mpr (Minicbor.readCount_eq_some.mpr ⟨opening, rfl, rfl⟩), ?_⟩
    cases opening with
    | indefinite => rfl
    | definite count =>
      have hnumber : Minicbor.number count = 1 := UInt64.toNat_inj.mp hone
      simp only [Minicbor.countOf, hnumber, if_true]
      rfl

theorem expectArrayBreak_nil : expectArrayBreak cbor [] = .error .malformedCbor := by
  rw [expectArrayBreak, hcbor.datatype_end]
  rfl

theorem expectArrayBreak_break (rest : Bytes) :
    expectArrayBreak cbor (BREAK :: rest) = .ok rest := by
  have hty := (hcbor.datatype_peek BREAK rest .break nofun).mpr rfl
  rw [expectArrayBreak, hty, hcbor.skip_break]
  rfl

/-- The break need not be there, but then something else is. -/
theorem expectArrayBreak_eq_ok {b rest : Bytes} (h : expectArrayBreak cbor b = .ok rest) :
    b = BREAK :: rest ∨ rest = b ∧ b ≠ [] ∧ ∀ rest', b ≠ BREAK :: rest' := by
  cases b with
  | nil =>
    rw [expectArrayBreak_nil hcbor] at h
    cases h
  | cons c b =>
    by_cases hbreak : c = BREAK
    · rw [hbreak, expectArrayBreak_break hcbor] at h
      cases h
      exact .inl (by rw [hbreak])
    · right
      have hne : ∀ rest', c :: b ≠ BREAK :: rest' := fun rest' heq => hbreak (List.cons.inj heq).1
      obtain ⟨ty, hty, h⟩ := bind_eq_ok.mp h
      have hother : ty ≠ .break := by
        rintro rfl
        have htype := (hcbor.datatype_peek c b .break nofun).mp (orError_eq_ok.mp hty)
        exact hbreak (Minicbor.typeOf_eq_break.mp htype)
      rw [if_neg hother] at h
      cases h
      exact ⟨rfl, List.cons_ne_nil c b, hne⟩

theorem datatype_unsigned (arg : Arg) (rest : Bytes) :
    ∃ ty, cbor.datatype (head .unsigned arg ++ rest) = some ty ∧
      (ty = .u8 ∨ ty = .u16 ∨ ty = .u32 ∨ ty = .u64) := by
  have hbyte := toNat_initialByte .unsigned (show arg.info.val < 32 by omega)
  have htype := Minicbor.typeOf_unsigned (b := initialByte .unsigned arg.info)
    (by rw [hbyte, Major.code]; omega)
  refine ⟨_, (hcbor.datatype_peek _ (arg.tail ++ rest) _ ?_).mpr rfl, htype⟩
  rcases htype with h | h | h | h <;> rw [h] <;> nofun

theorem readU64Or_eq_ok {onFailure : Charli3ParseError} {b rest : Bytes} {n : UInt64} :
    readU64Or cbor onFailure b = .ok (n, rest) ↔
      ∃ arg, Minicbor.number arg = n ∧ b = head .unsigned arg ++ rest := by
  rw [← Minicbor.readNumber_eq_some, ← hcbor.u64_head, readU64Or, bind_eq_ok]
  constructor
  · rintro ⟨ty, -, h⟩
    cases ty with
    | u8 | u16 | u32 | u64 => exact orError_eq_ok.mp h
    | «break» | other => cases h
  · intro h
    obtain ⟨arg, -, rfl⟩ := Minicbor.readNumber_eq_some.mp (hcbor.u64_head b ▸ h)
    obtain ⟨ty, hty, hunsigned⟩ := datatype_unsigned hcbor arg rest
    refine ⟨ty, orError_eq_ok.mpr hty, ?_⟩
    rcases hunsigned with rfl | rfl | rfl | rfl <;> exact orError_eq_ok.mpr h

theorem readField_eq_ok {field : Option UInt64} {onFailure : Charli3ParseError}
    {set : UInt64 → PriceMap} {m : PriceMap} {b rest : Bytes} :
    readField cbor field onFailure set b = .ok (m, rest) ↔
      field = none ∧ ∃ arg, m = set (Minicbor.number arg) ∧ b = head .unsigned arg ++ rest := by
  cases field with
  | some value => simp [readField]
  | none =>
    rw [readField, Option.isSome_none, if_neg Bool.false_ne_true, bind_eq_ok]
    constructor
    · rintro ⟨⟨value, rest⟩, hvalue, ⟨⟩⟩
      obtain ⟨arg, rfl, rfl⟩ := (readU64Or_eq_ok hcbor).mp hvalue
      exact ⟨rfl, arg, rfl, rfl⟩
    · rintro ⟨-, arg, rfl, rfl⟩
      exact ⟨(Minicbor.number arg, rest), (readU64Or_eq_ok hcbor).mpr ⟨arg, rfl, rfl⟩, rfl⟩

/-- One round of the loop sets one field that was not set. -/
theorem readEntry_eq_ok {m m' : PriceMap} {b rest : Bytes} :
    readEntry cbor m b = .ok (m', rest) ↔
      ∃ entry, Takes m entry m' ∧ b = entry.bytes ++ rest := by
  obtain ⟨price, created, expiry⟩ := m
  rw [readEntry, bind_eq_ok]
  constructor
  · rintro ⟨⟨key, rest'⟩, hkey, h⟩
    obtain ⟨key, rfl, rfl⟩ := (readU64Or_eq_ok hcbor).mp hkey
    simp only at h
    have hbytes : ∀ value, head .unsigned key ++ (head .unsigned value ++ rest) =
        (MapEntry.mk key value).bytes ++ rest := fun value => (List.append_assoc _ _ _).symm
    split at h
    next hprice =>
      obtain ⟨rfl, value, rfl, rfl⟩ := (readField_eq_ok hcbor).mp h
      exact ⟨⟨key, value⟩, .price hprice, hbytes value⟩
    · split at h
      next hcreated =>
        obtain ⟨rfl, value, rfl, rfl⟩ := (readField_eq_ok hcbor).mp h
        exact ⟨⟨key, value⟩, .created hcreated, hbytes value⟩
      · split at h
        next hexpiry =>
          obtain ⟨rfl, value, rfl, rfl⟩ := (readField_eq_ok hcbor).mp h
          exact ⟨⟨key, value⟩, .expiry hexpiry, hbytes value⟩
        · cases h
  · rintro ⟨⟨key, value⟩, htakes, rfl⟩
    refine ⟨(Minicbor.number key, head .unsigned value ++ rest),
      (readU64Or_eq_ok hcbor).mpr ⟨key, rfl, List.append_assoc _ _ _⟩, ?_⟩
    simp only
    cases htakes with
    | price hkey =>
      rw [if_pos hkey]
      exact (readField_eq_ok hcbor).mpr ⟨rfl, value, rfl, rfl⟩
    | created hkey =>
      rw [hkey, if_neg (by decide), if_pos rfl]
      exact (readField_eq_ok hcbor).mpr ⟨rfl, value, rfl, rfl⟩
    | expiry hkey =>
      rw [hkey, if_neg (by decide), if_neg (by decide), if_pos rfl]
      exact (readField_eq_ok hcbor).mpr ⟨rfl, value, rfl, rfl⟩

theorem readEntries_eq_ok {n : Nat} {m m' : PriceMap} {b rest : Bytes} :
    readEntries cbor n m b = .ok (m', rest) ↔
      ∃ entries, entries.length = n ∧ TakesAll m entries m' ∧
        b = entries.flatMap MapEntry.bytes ++ rest := by
  induction n generalizing m b with
  | zero =>
    constructor
    · rintro ⟨⟩
      exact ⟨[], rfl, .nil, rfl⟩
    · rintro ⟨entries, hlength, hall, rfl⟩
      rw [List.length_eq_zero_iff] at hlength
      subst hlength
      cases hall
      rfl
  | succ n ih =>
    rw [readEntries, bind_eq_ok]
    constructor
    · rintro ⟨⟨m₁, rest₁⟩, hentry, hrest⟩
      obtain ⟨entry, htakes, rfl⟩ := (readEntry_eq_ok hcbor).mp hentry
      obtain ⟨entries, hlength, hall, rfl⟩ := ih.mp hrest
      exact ⟨entry :: entries, by rw [List.length_cons, hlength], .cons htakes hall,
        by rw [List.flatMap_cons, List.append_assoc]⟩
    · rintro ⟨entries, hlength, hall, rfl⟩
      cases hall with
      | nil => cases hlength
      | @cons _ entry m₁ entries _ htakes hall =>
        refine ⟨(m₁, entries.flatMap MapEntry.bytes ++ rest),
          (readEntry_eq_ok hcbor).mpr ⟨entry, htakes, ?_⟩,
          ih.mpr ⟨entries, Nat.succ.inj hlength, hall, rfl⟩⟩
        rw [List.flatMap_cons, List.append_assoc]

theorem decodePriceMap_eq_ok {b rest : Bytes} {datum : AggStateDatum} :
    decodePriceMap cbor b = .ok (datum, rest) ↔
      ∃ item : PriceMapItem, datum = item.datum ∧ b = item.bytes ++ rest := by
  rw [decodePriceMap, bind_eq_ok, hcbor.map_head]
  constructor
  · rintro ⟨⟨len, rest'⟩, hread, h⟩
    obtain ⟨opening, rfl, rfl⟩ := Minicbor.readCount_eq_some.mp (orError_eq_ok.mp hread)
    cases opening with
    | indefinite => cases h
    | definite length =>
      obtain ⟨hthree, h⟩ := guard_eq_ok.mp h
      obtain ⟨⟨m, rest₁⟩, hentries, h⟩ := bind_eq_ok.mp h
      obtain ⟨entries, hlength, hall, rfl⟩ := (readEntries_eq_ok hcbor).mp hentries
      obtain ⟨a, b, c, rfl⟩ := List.length_eq_three.mp hlength
      obtain ⟨price, created, expiry, hprice, hcreated, hexpiry, horder, rfl⟩ := hall.order
      cases h
      exact ⟨⟨length, [a, b, c], price, created, expiry, not_not.mp hthree, hprice, hcreated,
        hexpiry, horder⟩, rfl, (List.append_assoc _ _ _).symm⟩
  · rintro ⟨item, rfl, rfl⟩
    refine ⟨(some 3, item.entries.flatMap MapEntry.bytes ++ rest), orError_eq_ok.mpr
      (Minicbor.readCount_eq_some.mpr ⟨.definite item.length, ?_, List.append_assoc _ _ _⟩), ?_⟩
    · rw [Minicbor.countOf, item.length_three]
    · simp only [ne_eq, not_true_eq_false, if_false]
      refine bind_eq_ok.mpr ⟨_, (readEntries_eq_ok hcbor).mpr
        ⟨item.entries, item.order.length_eq, item.takesAll, rfl⟩, rfl⟩

/-- Past the tag and the head of the array, the field and the break decide. -/
theorem decodeConstr_head {tag : UInt64}
    {decodeField : Bytes → Except Charli3ParseError (AggStateDatum × Bytes)} {arg : Arg}
    {opening : Opening} (harg : Minicbor.number arg = tag) (hone : opening.Announces 1)
    (field : Bytes) :
    decodeConstr cbor tag decodeField (head .tag arg ++ (opening.head .array ++ field)) =
      decodeField field >>= fun (datum, left) =>
        (expectArrayBreak cbor left).map fun rest => (datum, rest) := by
  have htag : expectTag cbor tag .unexpectedConstructor
      (head .tag arg ++ (opening.head .array ++ field)) = .ok (opening.head .array ++ field) :=
    (expectTag_eq_ok hcbor).mpr ⟨arg, harg, rfl⟩
  have harray : expectArrayWithOneElement cbor (opening.head .array ++ field) = .ok field :=
    (expectArrayWithOneElement_eq_ok hcbor).mpr ⟨opening, hone, rfl⟩
  rw [decodeConstr, htag]
  show (expectArrayWithOneElement cbor (opening.head .array ++ field) >>= _) = _
  rw [harray]
  rfl

theorem decodeConstr_eq_ok {tag : UInt64}
    {decodeField : Bytes → Except Charli3ParseError (AggStateDatum × Bytes)} {b rest : Bytes}
    {datum : AggStateDatum} :
    decodeConstr cbor tag decodeField b = .ok (datum, rest) ↔
      ∃ (arg : Arg) (opening : Opening) (field left : Bytes), Minicbor.number arg = tag ∧
        opening.Announces 1 ∧ b = head .tag arg ++ (opening.head .array ++ field) ∧
        decodeField field = .ok (datum, left) ∧ expectArrayBreak cbor left = .ok rest := by
  constructor
  · intro h
    obtain ⟨b₁, htag, h⟩ := bind_eq_ok.mp h
    obtain ⟨b₂, harray, h⟩ := bind_eq_ok.mp h
    obtain ⟨⟨datum, left⟩, hfield, h⟩ := bind_eq_ok.mp h
    obtain ⟨rest, hbreak, h⟩ := bind_eq_ok.mp h
    cases h
    obtain ⟨arg, harg, rfl⟩ := (expectTag_eq_ok hcbor).mp htag
    obtain ⟨opening, hone, rfl⟩ := (expectArrayWithOneElement_eq_ok hcbor).mp harray
    exact ⟨arg, opening, b₂, left, harg, hone, rfl, hfield, hbreak⟩
  · rintro ⟨arg, opening, field, left, harg, hone, rfl, hfield, hbreak⟩
    rw [decodeConstr_head hcbor harg hone, hfield]
    exact map_eq_ok.mpr ⟨rest, hbreak, rfl⟩

/-- What is left after the map is what the two break readers see, the inner one
first. -/
theorem parseAggstateDatum_bytesBefore (frame : Frame) (left : Bytes) :
    parseAggstateDatum cbor (frame.bytesBefore left) = (do
      let rest ← expectArrayBreak cbor left
      let rest ← expectArrayBreak cbor rest
      if rest ≠ [] then .error .malformedCbor else return frame.datum) := by
  have hmap : decodePriceMap cbor (frame.priceMap.bytes ++ left) = .ok (frame.datum, left) :=
    (decodePriceMap_eq_ok hcbor).mpr ⟨frame.priceMap, rfl, rfl⟩
  rw [parseAggstateDatum, decodeOuter, Frame.bytesBefore,
    decodeConstr_head hcbor frame.outerTag_constr frame.outer_one, decodeInner,
    decodeConstr_head hcbor frame.innerTag_constr frame.inner_one, hmap]
  cases hinner : expectArrayBreak cbor left with
  | error err => simp [hinner, bind, Except.bind, Except.map]
  | ok rest =>
    cases houter : expectArrayBreak cbor rest with
    | error err => simp [hinner, houter, bind, Except.bind, Except.map]
    | ok rest => simp [hinner, houter, bind, Except.bind, Except.map]

/-- Two break readers reach the end of the input over two breaks only. -/
theorem eq_breaks {left mid : Bytes} (hinner : expectArrayBreak cbor left = .ok mid)
    (houter : expectArrayBreak cbor mid = .ok []) : left = [BREAK, BREAK] := by
  have hmid : mid = [BREAK] := by
    rcases expectArrayBreak_eq_ok hcbor houter with h | ⟨h, hne, -⟩
    · exact h
    · exact absurd h.symm hne
  rcases expectArrayBreak_eq_ok hcbor hinner with h | ⟨h, -, hnot⟩
  · rw [h, hmid]
  · exact absurd (h ▸ hmid) (hnot [])

/-- **What is accepted**: a frame up to the end of its map, and then two breaks. -/
theorem parseAggstateDatum_eq_ok {b : Bytes} {datum : AggStateDatum} :
    parseAggstateDatum cbor b = .ok datum ↔
      ∃ frame : Frame, datum = frame.datum ∧ b = frame.bytesBefore [BREAK, BREAK] := by
  constructor
  · intro h
    obtain ⟨⟨datum, rest⟩, houter, h⟩ := bind_eq_ok.mp h
    obtain ⟨hend, h⟩ := guard_eq_ok.mp h
    cases h
    obtain ⟨outerTag, outer, field, left, hconstr0, houterOne, rfl, hinner, hbreak⟩ :=
      (decodeConstr_eq_ok hcbor).mp houter
    obtain ⟨innerTag, inner, field, left', hconstr2, hinnerOne, rfl, hfield, hbreak'⟩ :=
      (decodeConstr_eq_ok hcbor).mp hinner
    obtain ⟨item, rfl, rfl⟩ := (decodePriceMap_eq_ok hcbor).mp hfield
    rw [not_not.mp hend] at hbreak
    rw [eq_breaks hcbor hbreak' hbreak]
    exact ⟨⟨outerTag, outer, innerTag, inner, item, hconstr0, hconstr2, houterOne, hinnerOne⟩,
      rfl, rfl⟩
  · rintro ⟨frame, rfl, rfl⟩
    rw [parseAggstateDatum_bytesBefore hcbor, expectArrayBreak_break hcbor]
    show (expectArrayBreak cbor [BREAK] >>= _) = _
    rw [expectArrayBreak_break hcbor]
    rfl

end Accepts

end OracleGuard
