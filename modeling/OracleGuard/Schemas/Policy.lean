import Mathlib.Data.Set.Function
import OracleGuard.Fallible
import OracleGuard.Json.Rearrange
import OracleGuard.Schemas.Domain
import OracleGuard.Schemas.SerdeJson

/-!
Canonical policy bytes and policy references.

* `canonical_bytes_exact`: canonical bytes are a normal form of the policy's value.
* `member_order_iff`: members may be reordered in the documents where no object
  gives one name two values, and in no other.
-/

namespace OracleGuard

open Fallible Json Wire

/-! ## Canonicalization -/

/-- Errors returned by `canonicalizePolicyJson`. -/
inductive PolicyCanonError where
  | invalidJson
  | floatForbidden
  | encodeFailure
  deriving DecidableEq, Repr

def isF64 : Number → Bool
  | .float _ => true
  | _ => false

/-- What is appended to `out`, or an error. -/
abbrev Write := Bytes → Except PolicyCanonError Bytes

/-- The writers of a value, of the items of an array or of the members of an object. -/
abbrev Writers : Kind → Type
  | .value => Write
  | .items => List Write
  | .members => List (String × Write)

/-- The loop over the items, with a comma in front of every item but the first. -/
def writeItems : Bool → List Write → Write
  | _, [], out => .ok out
  | first, write :: rest, out => do
    let out ← write (if first then out else out ++ [COMMA])
    writeItems false rest out

def writeKey (serde : SerdeJson) (key : String) (out : Bytes) : Except PolicyCanonError Bytes :=
  match serde.encodeString key with
  | none => .error .encodeFailure
  | some encodedKey => .ok (out ++ encodedKey ++ [COLON])

def writeMember (serde : SerdeJson) (member : String × Write) : Write := fun out => do
  let out ← writeKey serde member.1 out
  member.2 out

def writeCanonical (serde : SerdeJson) : {k : Kind} → Tree String k → Writers k
  | _, .null => fun out => .ok (out ++ NULL)
  | _, .bool true => fun out => .ok (out ++ TRUE)
  | _, .bool false => fun out => .ok (out ++ FALSE)
  | _, .number n => fun out =>
    if isF64 n then .error .floatForbidden else .ok (out ++ serde.display n)
  | _, .string s => fun out =>
    match serde.encodeString s with
    | none => .error .encodeFailure
    | some encoded => .ok (out ++ encoded)
  | _, .array items => fun out => do
    let out ← writeItems true (writeCanonical serde items) (out ++ [LBRACKET])
    return out ++ [RBRACKET]
  | _, .object members => fun out => do
    -- code points are ordered as their UTF-8 bytes are
    let entries := (writeCanonical serde members).mergeSort fun a b => a.1 ≤ b.1
    let out ← writeItems true (entries.map (writeMember serde)) (out ++ [LBRACE])
    return out ++ [RBRACE]
  | _, .nil => []
  | _, .cons value rest => writeCanonical serde value :: writeCanonical serde rest
  | _, .empty => []
  | _, .entry key value rest => (key, writeCanonical serde value) :: writeCanonical serde rest

def canonicalizePolicyJson (serde : SerdeJson) (raw : Bytes) : Except PolicyCanonError Bytes :=
  match serde.fromSlice raw with
  | none => .error .invalidJson
  | some value => writeCanonical serde value.tree []

def derivePolicyRef (sha256 : Bytes → Bytes32) (canonicalBytes : Bytes) : Bytes32 :=
  sha256 canonicalBytes

/-! ## The canonical document -/

def Writers.run (serde : SerdeJson) : {k : Kind} → Writers k → Bool → Write
  | .value, write, _ => write
  | .items, writes, first => writeItems first writes
  | .members, entries, first => writeItems first (entries.map (writeMember serde))

/-- The writers of a tree append the text of a document that means the tree. -/
structure Writes (serde : SerdeJson) {k : Kind} (t : Tree String k) (d : Doc serde.lexicon k) :
    Prop where
  run : ∀ first out, (writeCanonical serde t).run serde first out =
    .ok (out ++ ((if first then [] else d.comma) ++ d.text))
  denote : d.denote = t.meaning
  depth : d.depth = t.depth

theorem writeKey_eq_ok {serde : SerdeJson} {key : String} {out out' : Bytes} :
    writeKey serde key out = .ok out' ↔
      ∃ text, serde.encodeString key = some text ∧ out' = out ++ text ++ [COLON] := by
  unfold writeKey
  cases serde.encodeString key with
  | none => simp
  | some text => simp [eq_comm]

theorem keys_writeCanonical (serde : SerdeJson) : (t : Tree String .members) →
    (writeCanonical serde t).map Prod.fst = t.members.map Prod.fst
  | .empty => rfl
  | .entry key _ rest => congrArg (key :: ·) (keys_writeCanonical serde rest)

/-- The members of an object are sorted already. -/
theorem mergeSort_writeCanonical (serde : SerdeJson) {t : Tree String .members} (ht : t.Sorted) :
    ((writeCanonical serde t).mergeSort fun a b => a.1 ≤ b.1) = writeCanonical serde t := by
  apply List.mergeSort_of_pairwise
  have hkeys : (t.members.map Prod.fst).Pairwise (· ≤ ·) :=
    List.pairwise_map.mpr ((t.sorted_members ht).imp le_of_lt)
  rw [← keys_writeCanonical serde t, List.pairwise_map] at hkeys
  exact hkeys.imp fun h => decide_eq_true h

theorem writeCanonical_string {serde : SerdeJson} {s : String} {text : Bytes}
    (h : serde.encodeString s = some text) (out : Bytes) :
    writeCanonical serde (.string s) out = .ok (out ++ text) := by
  show (match serde.encodeString s with
    | none => _
    | some encoded => _) = _
  rw [h]

theorem writeCanonical_object (serde : SerdeJson) {members : Tree String .members}
    (hmembers : members.Sorted) (out : Bytes) :
    writeCanonical serde (.object members) out =
      ((writeCanonical serde members).run serde true (out ++ [LBRACE])).map (· ++ [RBRACE]) := by
  rw [← mergeSort_writeCanonical serde hmembers]
  rfl

section Document

variable {serde : SerdeJson}

theorem writes_token (hserde : serde.Documented) {token : NumberToken serde.lexicon}
    (h : token.value.integerText = some token.text) :
    Writes serde (.number token.value) (.number token) where
  run first out := by
    have hnot : ¬ isF64 token.value = true := by
      cases hvalue : token.value with
      | posInt | negInt => exact Bool.false_ne_true
      | float =>
        rw [hvalue] at h
        cases h
    show (if isF64 token.value then _ else _) = _
    rw [if_neg hnot, hserde.display_integer h]
    cases first <;> rfl
  denote := rfl
  depth := rfl

theorem writes_literal {literal : Literal serde.lexicon}
    (h : serde.encodeString literal.value = some literal.text) :
    Writes serde (.string literal.value) (.string literal) where
  run first out := by
    refine (writeCanonical_string h out).trans ?_
    cases first <;> rfl
  denote := rfl
  depth := rfl

theorem writes_number (hserde : serde.Documented) {n : Number} {out out' : Bytes}
    (h : writeCanonical serde (.number n) out = .ok out') :
    ∃ d, Writes serde (.number n) d := by
  cases hn : n.integerText with
  | none =>
    cases n with
    | posInt | negInt => cases hn
    | float => cases h
  | some text =>
    obtain ⟨token, rfl, rfl⟩ := NumberToken.written serde.lexicon hn
    exact ⟨_, writes_token hserde hn⟩

theorem encodeString_total (hserde : serde.Documented) (s : String) :
    ∃ text, serde.encodeString s = some text := by
  obtain ⟨text, htext, -⟩ := hserde.lawful.lawful s []
  exact ⟨text, htext⟩

theorem writes_string (hserde : serde.Documented) (s : String) :
    ∃ d, Writes serde (.string s) d := by
  obtain ⟨text, htext⟩ := encodeString_total hserde s
  obtain ⟨literal, rfl, rfl⟩ := Literal.written hserde.lawful htext
  exact ⟨_, writes_literal htext⟩

theorem writes_nothing {k : Kind} {d : Doc serde.lexicon k} (hcomma : d.comma = [])
    (htext : d.text = []) (first : Bool) (out : Bytes) :
    writeItems first [] out = .ok (out ++ ((if first then [] else d.comma) ++ d.text)) := by
  rw [hcomma, htext, ite_self, List.append_nil, List.append_nil]
  cases first <;> rfl

theorem writes_array {items : Tree String .items} {d : Doc serde.lexicon .items}
    (hd : Writes serde items d) : Writes serde (.array items) (.array .empty d) where
  run first out := by
    have hrun : writeItems true (writeCanonical serde items) (out ++ [LBRACKET]) =
        .ok (out ++ [LBRACKET] ++ ([] ++ d.text)) := hd.run true _
    refine bind_eq_ok.mpr ⟨_, hrun, congrArg Except.ok ?_⟩
    cases first <;> simp [Doc.text, Doc.comma]
  denote := by
    rw [Doc.denote, hd.denote]
    exact congrArg Tree.array items.ofItems_items
  depth := congrArg (· + 1) hd.depth

theorem writes_object {members : Tree String .members} (hmembers : members.Sorted)
    {d : Doc serde.lexicon .members} (hd : Writes serde members d) :
    Writes serde (.object members) (.object .empty d) where
  run first out := by
    have hrun : writeItems true ((writeCanonical serde members).map (writeMember serde))
        (out ++ [LBRACE]) = .ok (out ++ [LBRACE] ++ ([] ++ d.text)) := hd.run true _
    refine (writeCanonical_object serde hmembers out).trans (map_eq_ok.mpr ⟨_, hrun, ?_⟩)
    cases first <;> simp [Doc.text, Doc.comma]
  denote := by
    have hbuild : SortedMap.build members.members = members.members :=
      SortedMap.build_of_sorted (members.sorted_members hmembers)
    rw [Doc.denote, hd.denote]
    show Tree.object (Tree.ofMembers (SortedMap.build members.members)) = _
    rw [hbuild, members.ofMembers_members]
    rfl
  depth := congrArg (· + 1) hd.depth

theorem writes_cons {value : Tree String .value} {rest : Tree String .items}
    {d : Doc serde.lexicon .value} {d' : Doc serde.lexicon .items} (hd : Writes serde value d)
    (hd' : Writes serde rest d') :
    Writes serde (.cons value rest) (.cons .empty d .empty d') where
  run first out := by
    have hvalue := hd.run true (if first then out else out ++ [COMMA])
    have hrest := hd'.run false ((if first then out else out ++ [COMMA]) ++ ([] ++ d.text))
    refine bind_eq_ok.mpr ⟨_, hvalue, hrest.trans ?_⟩
    cases first <;> simp [Doc.text, Doc.comma]
  denote := congrArg₂ List.cons hd.denote hd'.denote
  depth := congrArg₂ max hd.depth hd'.depth

theorem writes_entry {key : Literal serde.lexicon}
    (hkey : serde.encodeString key.value = some key.text) {value : Tree String .value}
    {rest : Tree String .members} {d : Doc serde.lexicon .value}
    {d' : Doc serde.lexicon .members} (hd : Writes serde value d) (hd' : Writes serde rest d') :
    Writes serde (.entry key.value value rest) (.entry .empty key .empty .empty d .empty d') where
  run first out := by
    have hmember : writeMember serde (key.value, writeCanonical serde value)
        (if first then out else out ++ [COMMA]) =
          .ok ((if first then out else out ++ [COMMA]) ++ key.text ++ [COLON] ++ ([] ++ d.text)) :=
      bind_eq_ok.mpr ⟨_, writeKey_eq_ok.mpr ⟨_, hkey, rfl⟩, hd.run true _⟩
    refine bind_eq_ok.mpr ⟨_, hmember, (hd'.run false _).trans ?_⟩
    cases first <;> simp [Doc.text, Doc.comma]
  denote := congrArg₂ (fun value rest => (key.value, value) :: rest) hd.denote hd'.denote
  depth := congrArg₂ max hd.depth hd'.depth

/-- Where the writers succeed, they write a document. -/
theorem exists_writes (hserde : serde.Documented) {k : Kind} {t : Tree String k} (ht : t.Sorted)
    (first : Bool) {out out' : Bytes}
    (h : (writeCanonical serde t).run serde first out = .ok out') : ∃ d, Writes serde t d := by
  induction t generalizing first out out' with
  | null => exact ⟨.null, fun first _ => by cases first <;> rfl, rfl, rfl⟩
  | bool b =>
    exact ⟨.bool b, fun first _ => by cases b <;> cases first <;> rfl, rfl, rfl⟩
  | number n => exact writes_number hserde h
  | string s => exact writes_string hserde s
  | array items ih =>
    obtain ⟨out₁, hitems, -⟩ := bind_eq_ok.mp h
    obtain ⟨d, hd⟩ := ih ht true hitems
    exact ⟨_, writes_array hd⟩
  | object members ih =>
    obtain ⟨out₁, hmembers, -⟩ := map_eq_ok.mp ((writeCanonical_object serde ht out).symm.trans h)
    obtain ⟨d, hd⟩ := ih ht true hmembers
    exact ⟨_, writes_object ht hd⟩
  | nil => exact ⟨.nil, writes_nothing rfl rfl, rfl, rfl⟩
  | cons value rest ih ih' =>
    obtain ⟨out₁, hvalue, hrest⟩ := bind_eq_ok.mp h
    obtain ⟨d, hd⟩ := ih ht.1 first hvalue
    obtain ⟨d', hd'⟩ := ih' ht.2 false hrest
    exact ⟨_, writes_cons hd hd'⟩
  | empty => exact ⟨.empty, writes_nothing rfl rfl, rfl, rfl⟩
  | entry key value rest ih ih' =>
    obtain ⟨out₁, hmember, hrest⟩ := bind_eq_ok.mp h
    obtain ⟨out₂, hkey, hvalue⟩ := bind_eq_ok.mp hmember
    obtain ⟨text, htext, -⟩ := writeKey_eq_ok.mp hkey
    obtain ⟨literal, hliteral, rfl⟩ := Literal.written hserde.lawful htext
    obtain ⟨d, hd⟩ := ih ht.1 first hvalue
    obtain ⟨d', hd'⟩ := ih' ht.2.1 false hrest
    exact ⟨_, writes_entry (hliteral ▸ htext) hd hd'⟩

end Document

/-! ## Policy identity -/

theorem canonicalize_eq_ok {serde : SerdeJson} {raw c : Bytes} :
    canonicalizePolicyJson serde raw = .ok c ↔
      ∃ value, serde.fromSlice raw = some value ∧ writeCanonical serde value.tree [] = .ok c := by
  unfold canonicalizePolicyJson
  cases serde.fromSlice raw with
  | none => simp
  | some value => simp

theorem canonicalize_text {serde : SerdeJson} (hserde : serde.Documented)
    {doc : Document serde.lexicon} (hdepth : doc.depth < 128) :
    canonicalizePolicyJson serde doc.text = writeCanonical serde doc.root.denote [] := by
  have hslice : serde.fromSlice doc.text = some doc.value :=
    hserde.fromSlice_eq_some.mpr ⟨doc, rfl, hdepth, rfl⟩
  rw [canonicalizePolicyJson, hslice]
  rfl

theorem canonicalize_object {serde : SerdeJson} (hserde : serde.Documented)
    {doc : Document serde.lexicon} (hdepth : doc.depth < 128) (members : Tree String .members)
    {c : Bytes} (hmembers : members.Sorted) (hdenote : doc.root.denote = .object members)
    (hwrite : ((writeCanonical serde members).run serde true [LBRACE]).map (· ++ [RBRACE]) =
      .ok c) :
    canonicalizePolicyJson serde doc.text = .ok c := by
  rw [canonicalize_text hserde hdepth, hdenote, writeCanonical_object serde hmembers]
  exact hwrite

/-- Canonical bytes hold the value that they were written from. -/
theorem fromSlice_canonical {serde : SerdeJson} (hserde : serde.Documented) {raw c : Bytes}
    {value : Value String} (hraw : serde.fromSlice raw = some value)
    (hwrite : writeCanonical serde value.tree [] = .ok c) : serde.fromSlice c = some value := by
  obtain ⟨doc, -, hdepth, hvalue⟩ := hserde.fromSlice_eq_some.mp hraw
  obtain ⟨d, hd⟩ := exists_writes hserde value.sorted true hwrite
  have htext : c = d.text := Except.ok.inj (hwrite.symm.trans (hd.run true []))
  have hle : d.depth ≤ doc.depth := by
    rw [hd.depth, ← hvalue]
    exact doc.root.depth_denote_le
  refine hserde.fromSlice_eq_some.mpr ⟨⟨.empty, d, .empty⟩, ?_, hle.trans_lt hdepth, ?_⟩
  · rw [Document.text, htext]
    simp
  · exact Value.ext hd.denote

theorem canonicalize_eq_ok_iff {serde : SerdeJson} (hserde : serde.Documented)
    {raw raw' c c' : Bytes} (h : canonicalizePolicyJson serde raw = .ok c)
    (h' : canonicalizePolicyJson serde raw' = .ok c') :
    c = c' ↔ serde.fromSlice raw = serde.fromSlice raw' := by
  obtain ⟨value, hraw, hwrite⟩ := canonicalize_eq_ok.mp h
  obtain ⟨value', hraw', hwrite'⟩ := canonicalize_eq_ok.mp h'
  constructor
  · rintro rfl
    have hsame := (fromSlice_canonical hserde hraw hwrite).symm.trans
      (fromSlice_canonical hserde hraw' hwrite')
    rw [hraw, hraw', hsame]
  · intro hsame
    have hvalue : value = value' :=
      Option.some_inj.mp (hraw.symm.trans (hsame.trans hraw'))
    subst hvalue
    exact Except.ok.inj (hwrite.symm.trans hwrite')

/-- **Canonical policy bytes are a normal form**, and policy references follow them
as far as SHA-256 does not collide. -/
theorem canonical_bytes_exact {serde : SerdeJson} (hserde : serde.Documented) {raw c : Bytes}
    (h : canonicalizePolicyJson serde raw = .ok c) :
    canonicalizePolicyJson serde c = .ok c ∧
      (∃ value, serde.fromSlice raw = some value ∧ serde.fromSlice c = some value) ∧
      ∀ raw' c', canonicalizePolicyJson serde raw' = .ok c' →
        (c = c' ↔ serde.fromSlice raw = serde.fromSlice raw') ∧
        ∀ sha256 : Bytes → Bytes32, Set.InjOn sha256 {c, c'} →
          (derivePolicyRef sha256 c = derivePolicyRef sha256 c' ↔
            serde.fromSlice raw = serde.fromSlice raw') := by
  obtain ⟨value, hraw, hwrite⟩ := canonicalize_eq_ok.mp h
  have hcanonical := fromSlice_canonical hserde hraw hwrite
  refine ⟨canonicalize_eq_ok.mpr ⟨value, hcanonical, hwrite⟩, ⟨value, hraw, hcanonical⟩, ?_⟩
  intro raw' c' h'
  have hiff := canonicalize_eq_ok_iff hserde h h'
  refine ⟨hiff, fun sha256 hinj => ?_⟩
  rw [← hiff]
  exact hinj.eq_iff (.inl rfl) (.inr rfl)

/-- A serde_json that need not round any float. -/
def fixtureSerde : SerdeJson := .reference fun _ => none

theorem fixtureSerde_documented : fixtureSerde.Documented := SerdeJson.reference_documented _

def fixtureKey (key : String) : Literal fixtureSerde.lexicon :=
  ⟨writeString key, key, readString_writeString key⟩

/-- An object of two members, without whitespace. -/
def fixtureDocument (key key' : String) (b b' : Bool) : Document fixtureSerde.lexicon where
  before := .empty
  root := .object .empty
    (.entry .empty (fixtureKey key) .empty .empty (.bool b) .empty
      (.entry .empty (fixtureKey key') .empty .empty (.bool b') .empty .empty))
  after := .empty

theorem fixtureDocument_depth (key key' : String) (b b' : Bool) :
    (fixtureDocument key key' b b').depth < 128 := by
  show max 0 (max 0 0) + 1 < 128
  decide

theorem fixtureDocument_swapped (key key' : String) (b b' : Bool) :
    (fixtureDocument key key' b b').Rearranged (fixtureDocument key' key b' b) :=
  .object _ _ (.swap _ _ _ _ _ _ _ _ _ _ _ _ _)

theorem canonicalize_fixture_unsorted :
    canonicalizePolicyJson fixtureSerde (fixtureDocument "b" "a" true false).text =
      .ok (fixtureDocument "a" "b" false true).text :=
  canonicalize_object fixtureSerde_documented (fixtureDocument_depth "b" "a" true false)
    (.entry "a" (.bool false) (.entry "b" (.bool true) .empty))
    ⟨trivial, ⟨trivial, trivial, nofun⟩, by decide⟩ (by decide) rfl

/-- The canonical bytes of an object whose only member is `a`. -/
def fixtureCanonical (b : Bool) : Bytes :=
  LBRACE :: (writeString "a" ++ COLON :: ((if b then TRUE else FALSE) ++ [RBRACE]))

theorem canonicalize_fixture_repeated (b b' : Bool) :
    canonicalizePolicyJson fixtureSerde (fixtureDocument "a" "a" b b').text =
      .ok (fixtureCanonical b') :=
  canonicalize_object fixtureSerde_documented (fixtureDocument_depth "a" "a" b b')
    (.entry "a" (.bool b') .empty) ⟨trivial, trivial, nofun⟩
    (by cases b <;> cases b' <;> decide) (by cases b' <;> rfl)

/-- A digest that keeps the first 32 bytes. -/
def prefixDigest (b : Bytes) : Bytes32 := Vector.ofFn fun k => b.getD k 0

/-- A policy with its members out of order, and another policy. -/
theorem canonical_bytes_exact_fixture :
    let raw := (fixtureDocument "b" "a" true false).text
    let c := (fixtureDocument "a" "b" false true).text
    let raw' := (fixtureDocument "a" "a" false true).text
    canonicalizePolicyJson fixtureSerde c = .ok c ∧
      (derivePolicyRef prefixDigest c = derivePolicyRef prefixDigest (fixtureCanonical true) ↔
        fixtureSerde.fromSlice raw = fixtureSerde.fromSlice raw') := by
  intro raw c raw'
  obtain ⟨hcanonical, -, hiff⟩ :=
    canonical_bytes_exact fixtureSerde_documented canonicalize_fixture_unsorted
  refine ⟨hcanonical,
    (hiff raw' _ (canonicalize_fixture_repeated false true)).2 prefixDigest ?_⟩
  have hne : prefixDigest (fixtureDocument "a" "b" false true).text ≠
      prefixDigest (fixtureCanonical true) := by
    decide
  rw [Set.injOn_pair]
  exact fun heq => absurd heq hne

/-! ## Member order -/

theorem fromSlice_text {serde : SerdeJson} (hserde : serde.Documented)
    {doc : Document serde.lexicon} {value : Value String}
    (h : serde.fromSlice doc.text = some value) : doc.depth < 128 ∧ doc.value = value := by
  obtain ⟨doc', htext, hdepth, hvalue⟩ := hserde.fromSlice_eq_some.mp h
  obtain ⟨hdepth', hdenote⟩ := Document.unambiguous hserde.lawful htext
  exact ⟨hdepth' ▸ hdepth, (Value.ext hdenote.symm).trans hvalue⟩

/-- **Exactly where no object gives one name two values**, the order of the members
and the whitespace leave the canonical bytes as they are. -/
theorem member_order_iff {serde : SerdeJson} (hserde : serde.Documented)
    (sha256 : Bytes → Bytes32) {raw c : Bytes} (h : canonicalizePolicyJson serde raw = .ok c) :
    (∃ doc : Document serde.lexicon, doc.text = raw) ∧
      ∀ doc : Document serde.lexicon, doc.text = raw →
        ((∀ doc', doc.Rearranged doc' →
            canonicalizePolicyJson serde doc'.text = .ok c ∧
              (canonicalizePolicyJson serde doc'.text).map (derivePolicyRef sha256) =
                .ok (derivePolicyRef sha256 c)) ↔
          doc.root.Consistent) := by
  obtain ⟨value, hraw, hwrite⟩ := canonicalize_eq_ok.mp h
  obtain ⟨doc₀, htext₀, -, -⟩ := hserde.fromSlice_eq_some.mp hraw
  refine ⟨⟨doc₀, htext₀⟩, ?_⟩
  rintro doc rfl
  obtain ⟨hdepth, rfl⟩ := fromSlice_text hserde hraw
  constructor
  · intro hsame
    by_contra hnot
    obtain ⟨d, hd, hne⟩ := doc.root.varies hnot
    let doc' : Document serde.lexicon := { doc with root := d }
    have hcanonical := (hsame doc' hd).1
    have hvalue : serde.fromSlice doc'.text = some doc'.value :=
      hserde.fromSlice_eq_some.mpr ⟨doc', rfl, hd.depth.trans_lt hdepth, rfl⟩
    have heq := (canonicalize_eq_ok_iff hserde hcanonical h).mp rfl
    rw [hvalue, hraw] at heq
    exact hne (congrArg Value.tree (Option.some_inj.mp heq))
  · intro hconsistent doc' hdoc
    have hvalue : serde.fromSlice doc'.text = some doc.value :=
      hserde.fromSlice_eq_some.mpr ⟨doc', rfl, (Json.Rearranged.depth hdoc).trans_lt hdepth,
        Value.ext (Json.Rearranged.denote hdoc hconsistent).symm⟩
    have hcanonical := canonicalize_eq_ok.mpr ⟨doc.value, hvalue, hwrite⟩
    rw [hcanonical]
    exact ⟨rfl, rfl⟩

/-- Two different names. -/
theorem member_order_iff_fixture :
    canonicalizePolicyJson fixtureSerde (fixtureDocument "a" "b" false true).text =
      .ok (fixtureDocument "a" "b" false true).text := by
  have hconsistent : (fixtureDocument "b" "a" true false).root.Consistent :=
    ⟨⟨trivial, trivial, trivial⟩, by unfold SortedMap.Functional; decide⟩
  have hiff := (member_order_iff fixtureSerde_documented prefixDigest
    canonicalize_fixture_unsorted).2 (fixtureDocument "b" "a" true false) rfl
  exact (hiff.mpr hconsistent _ (fixtureDocument_swapped "b" "a" true false)).1

/-- One name twice: the last value is kept. -/
theorem member_order_matters :
    let doc := fixtureDocument "a" "a" true false
    canonicalizePolicyJson fixtureSerde doc.text = .ok (fixtureCanonical false) ∧
      ¬ ∀ doc', doc.Rearranged doc' →
        canonicalizePolicyJson fixtureSerde doc'.text = .ok (fixtureCanonical false) := by
  intro doc
  refine ⟨canonicalize_fixture_repeated true false, fun hall => ?_⟩
  have hswapped := hall _ (fixtureDocument_swapped "a" "a" true false)
  rw [canonicalize_fixture_repeated false true] at hswapped
  have hne : fixtureCanonical true ≠ fixtureCanonical false := by decide
  exact hne (Except.ok.inj hswapped)

end OracleGuard
