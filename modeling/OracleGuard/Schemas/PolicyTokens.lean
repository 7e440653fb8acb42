import OracleGuard.Json.Floats
import OracleGuard.Json.Spelling
import OracleGuard.Schemas.Policy

/-!
What canonicalization makes of the tokens of a policy document.

* `float_rejection_iff`: a document with a float is refused where its value keeps a
  float, or where it is nested too deep.
* `tokens_verbatim_iff`: canonical bytes copy the tokens of a document where every
  string of it is written as it is written out.
-/

namespace OracleGuard

open Fallible Json Wire

section Tokens

variable {serde : SerdeJson}

/-! ## Floats -/

theorem isF64_iff (n : Number) : isF64 n = true ↔ n.IsFloat := by
  cases n <;> simp [isF64, Number.IsFloat]

/-- **The writers fail on floats, and on nothing else.** -/
theorem exists_run_iff (hserde : serde.Documented) {k : Kind} {t : Tree String k} (ht : t.Sorted)
    (first : Bool) (out : Bytes) :
    (∃ out', (writeCanonical serde t).run serde first out = .ok out') ↔ ¬ t.HasFloat := by
  induction t generalizing first out with
  | null => exact iff_of_true ⟨_, rfl⟩ not_false
  | bool b => exact iff_of_true (by cases b <;> exact ⟨_, rfl⟩) not_false
  | number n =>
    show (∃ out', (if isF64 n then _ else _ : Except PolicyCanonError Bytes) = .ok out') ↔ _
    rw [Tree.HasFloat, ← isF64_iff]
    split <;> simp_all
  | string s =>
    obtain ⟨text, htext⟩ := encodeString_total hserde s
    exact iff_of_true ⟨out ++ text, writeCanonical_string htext out⟩ not_false
  | array items ih =>
    refine (exists_bind_iff fun out' => iff_true_intro ⟨out' ++ [RBRACKET], rfl⟩).trans ?_
    rw [and_true]
    exact ih ht true (out ++ [LBRACKET])
  | object members ih =>
    have hobject : (∃ out', writeCanonical serde (.object members) out = .ok out') ↔
        ∃ out', (writeCanonical serde members).run serde true (out ++ [LBRACE]) = .ok out' := by
      simp only [writeCanonical_object serde ht, map_eq_ok]
      constructor
      · rintro ⟨_, out₁, hout, -⟩
        exact ⟨out₁, hout⟩
      · rintro ⟨out₁, hout⟩
        exact ⟨_, out₁, hout, rfl⟩
    exact hobject.trans (ih ht true _)
  | nil | empty => exact iff_of_true ⟨out, by cases first <;> rfl⟩ not_false
  | cons value rest ih ih' =>
    refine (exists_bind_iff fun out' => ih' ht.2 false out').trans ?_
    rw [Tree.HasFloat, not_or]
    exact and_congr_left' (ih ht.1 first _)
  | entry key value rest ih ih' =>
    refine (exists_bind_iff fun out' => ih' ht.2.1 false out').trans ?_
    rw [Tree.HasFloat, not_or]
    refine and_congr_left' ((exists_bind_iff fun out' => ih ht.1 first out').trans ?_)
    obtain ⟨text, htext⟩ := encodeString_total hserde key
    exact and_iff_right ⟨_, writeKey_eq_ok.mpr ⟨text, htext, rfl⟩⟩

/-- **What is accepted**: documents within the limit that keep no float. -/
theorem exists_canonicalize_iff (hserde : serde.Documented) (doc : Document serde.lexicon) :
    (∃ c, canonicalizePolicyJson serde doc.text = .ok c) ↔
      doc.depth < 128 ∧ ¬ doc.root.KeepsFloat := by
  rw [doc.root.keepsFloat_iff]
  constructor
  · rintro ⟨c, hc⟩
    obtain ⟨value, hslice, hwrite⟩ := canonicalize_eq_ok.mp hc
    obtain ⟨hdepth, rfl⟩ := fromSlice_text hserde hslice
    exact ⟨hdepth, (exists_run_iff hserde doc.value.sorted true []).mp ⟨c, hwrite⟩⟩
  · rintro ⟨hdepth, hfloat⟩
    rw [canonicalize_text hserde hdepth]
    exact (exists_run_iff hserde doc.value.sorted true []).mpr hfloat

end Tokens

/-- **A document with a float is refused exactly** where it is nested too deep or its
value keeps a float, which it does where no object repeats a name. -/
theorem float_rejection_iff {serde : SerdeJson} (hserde : serde.Documented) (raw : Bytes) :
    ((∀ doc : Document serde.lexicon, doc.text ≠ raw) →
      ∃ err, canonicalizePolicyJson serde raw = .error err) ∧
    ∀ doc : Document serde.lexicon, doc.text = raw → doc.root.HasPointed →
      ((∃ err, canonicalizePolicyJson serde raw = .error err) ↔
        128 ≤ doc.depth ∨ doc.root.KeepsFloat) ∧
      (doc.root.Distinct → ∃ err, canonicalizePolicyJson serde raw = .error err) := by
  constructor
  · intro hraw
    apply exists_error
    rintro ⟨c, hc⟩
    obtain ⟨value, hslice, -⟩ := canonicalize_eq_ok.mp hc
    obtain ⟨doc, htext, -⟩ := hserde.fromSlice_eq_some.mp hslice
    exact hraw doc htext
  · rintro doc rfl hpointed
    have hiff : (∃ err, canonicalizePolicyJson serde doc.text = .error err) ↔
        128 ≤ doc.depth ∨ doc.root.KeepsFloat := by
      have haccepted := exists_canonicalize_iff hserde doc
      constructor
      · rintro ⟨err, herr⟩
        by_contra hnot
        rw [not_or, not_le] at hnot
        obtain ⟨c, hc⟩ := haccepted.mpr hnot
        rw [herr] at hc
        cases hc
      · intro hrefused
        apply exists_error
        intro hc
        obtain ⟨hdepth, hfloat⟩ := haccepted.mp hc
        exact hrefused.elim hdepth.not_ge hfloat
    exact ⟨hiff, fun hdistinct => hiff.mpr (.inr (hdistinct.keepsFloat hpointed))⟩

/-- The bits of 1.5. -/
def FLOAT_BITS : UInt64 := 0x3FF8000000000000

/-- Every float is rounded to the one of the documents below. -/
def floatSerde : SerdeJson := .reference fun _ => some FLOAT_BITS

theorem floatSerde_documented : floatSerde.Documented := SerdeJson.reference_documented _

/-- The token 1.5. -/
def floatToken : NumberToken floatSerde.lexicon where
  text := [0x31, POINT, 0x35]
  value := .float FLOAT_BITS
  number := rfl
  run := List.all_eq_true.mp rfl

def floatKey (key : String) : Literal floatSerde.lexicon :=
  ⟨writeString key, key, readString_writeString key⟩

/-- An object that gives one name two values. -/
def repeatedDocument (value value' : Doc floatSerde.lexicon .value) :
    Document floatSerde.lexicon where
  before := .empty
  root := .object .empty
    (.entry .empty (floatKey "a") .empty .empty value .empty
      (.entry .empty (floatKey "a") .empty .empty value' .empty .empty))
  after := .empty

/-- The float comes last. -/
theorem float_rejection_iff_repeated :
    ∃ err, canonicalizePolicyJson floatSerde
      (repeatedDocument (.bool true) (.number floatToken)).text = .error err := by
  have hpointed : floatToken.Pointed := ⟨POINT, by decide, .inl rfl⟩
  have hiff := ((float_rejection_iff floatSerde_documented _).2
    (repeatedDocument (.bool true) (.number floatToken)) rfl (.inr (.inl hpointed))).1
  exact hiff.mpr (.inr (.inr (.inl ⟨trivial, nofun⟩)))

/-- The float comes first: the document is accepted. -/
theorem hidden_float_accepted :
    let doc := repeatedDocument (.number floatToken) (.bool true)
    doc.root.HasPointed ∧
      canonicalizePolicyJson floatSerde doc.text = .ok (fixtureCanonical true) := by
  intro doc
  have hdepth : doc.depth < 128 := by
    show max 0 (max 0 0) + 1 < 128
    decide
  exact ⟨.inl ⟨POINT, by decide, .inl rfl⟩, canonicalize_object floatSerde_documented hdepth
    (.entry "a" (.bool true) .empty) ⟨trivial, trivial, nofun⟩ (by decide) rfl⟩

/-! ## Spellings -/

section Spellings

variable {serde : SerdeJson}

/-- **The writers write an ordered document** without whitespace, with its literals
written out. -/
theorem writes_stripped (hserde : serde.Documented) {k : Kind} {d : Doc serde.lexicon k}
    (hd : d.Ordered) (hfloat : ¬ (Meaning.tree d.denote).HasFloat) :
    Writes serde (Meaning.tree d.denote) (d.respelled hserde.lawful).stripped := by
  induction d with
  | null => exact ⟨fun first _ => by cases first <;> rfl, rfl, rfl⟩
  | bool b => exact ⟨fun first _ => by cases b <;> cases first <;> rfl, rfl, rfl⟩
  | number token =>
    exact writes_token hserde ((integerText_of_numberOf token.number).resolve_left hfloat)
  | string literal =>
    exact @writes_literal serde (literal.respelled hserde.lawful)
      (literal.encode_respelled hserde.lawful)
  | array _ items ih => exact writes_array (ih hd hfloat)
  | object gap members ih =>
    have hsorted : (Tree.ofMembers members.denote).Sorted :=
      Tree.sorted_ofMembers hd.2 members.sorted_denote
    have hdenote : (Doc.object gap members).denote = .object (Tree.ofMembers members.denote) := by
      rw [Doc.denote, SortedMap.build_of_sorted hd.2]
    rw [hdenote] at hfloat ⊢
    exact writes_object hsorted (ih hd.1 hfloat)
  | nil | empty => exact ⟨writes_nothing rfl rfl, rfl, rfl⟩
  | cons _ value _ rest ih ih' =>
    obtain ⟨hvalue, hrest⟩ := not_or.mp hfloat
    exact writes_cons (ih hd.1 hvalue) (ih' hd.2 hrest)
  | entry _ key _ _ value _ rest ih ih' =>
    obtain ⟨hvalue, hrest⟩ := not_or.mp hfloat
    exact @writes_entry serde (key.respelled hserde.lawful)
      (key.encode_respelled hserde.lawful) _ _ _ _ (ih hd.1 hvalue) (ih' hd.2 hrest)

/-- **Canonical bytes are the document** without whitespace, in order and with its
literals written out. -/
theorem canonical_text (hserde : serde.Documented) {doc : Document serde.lexicon} {c : Bytes}
    (hdistinct : doc.root.Distinct) (h : canonicalizePolicyJson serde doc.text = .ok c) :
    c = (doc.root.arranged.respelled hserde.lawful).stripped.text := by
  obtain ⟨value, hslice, hwrite⟩ := canonicalize_eq_ok.mp h
  obtain ⟨-, rfl⟩ := fromSlice_text hserde hslice
  have hdenote : doc.root.denote = doc.root.arranged.denote :=
    doc.root.rearranged_arranged.denote hdistinct.consistent
  have hfloat : ¬ doc.root.denote.HasFloat :=
    (exists_run_iff hserde doc.value.sorted true []).mp ⟨c, hwrite⟩
  rw [hdenote] at hfloat
  have hwrites := (writes_stripped hserde hdistinct.ordered_arranged hfloat).run true []
  refine Except.ok.inj (hwrite.symm.trans ?_)
  show writeCanonical serde doc.root.denote [] = _
  rw [hdenote]
  exact hwrites

/-- The tokens of the document are copied: whitespace goes, and members change places. -/
def Verbatim (doc : Document serde.lexicon) (c : Bytes) : Prop :=
  c = doc.root.arranged.stripped.text ∧ ∀ token ∈ doc.root.tokens, token <:+: c

theorem infix_arranged (doc : Document serde.lexicon) {token : Bytes}
    (h : token ∈ doc.root.tokens) : token <:+: doc.root.arranged.stripped.text := by
  apply Doc.infix_of_mem_tokens
  rw [Doc.tokens_stripped]
  exact doc.root.rearranged_arranged.tokens.mem_iff.mp h

end Spellings

/-- **Canonical bytes copy the tokens of a document exactly** where every string of it is
written as it is written out. -/
theorem tokens_verbatim_iff {serde : SerdeJson} (hserde : serde.Documented) {raw c : Bytes}
    (h : canonicalizePolicyJson serde raw = .ok c) :
    (∃ doc : Document serde.lexicon, doc.text = raw) ∧
      ∀ doc : Document serde.lexicon, doc.text = raw → doc.root.Distinct →
        (Verbatim doc c ↔ doc.root.Plain) := by
  obtain ⟨value, hraw, -⟩ := canonicalize_eq_ok.mp h
  obtain ⟨doc₀, htext₀, -, -⟩ := hserde.fromSlice_eq_some.mp hraw
  refine ⟨⟨doc₀, htext₀⟩, ?_⟩
  rintro doc rfl hdistinct
  have htext := canonical_text hserde hdistinct h
  constructor
  · rintro ⟨hverbatim, -⟩
    have hstripped := Doc.stripped_inj hserde.lawful _ _ (hverbatim.symm.trans htext)
    have hplain := doc.root.arranged.plain_respelled hserde.lawful
    rwa [← Doc.plain_stripped, ← hstripped, Doc.plain_stripped,
      ← doc.root.rearranged_arranged.plain] at hplain
  · intro hplain
    rw [doc.root.rearranged_arranged.plain] at hplain
    rw [hplain.respelled_eq hserde.lawful] at htext
    exact ⟨htext, fun token htoken => htext ▸ infix_arranged doc htoken⟩

/-- Two names out of order. -/
theorem tokens_verbatim_iff_fixture :
    Verbatim (fixtureDocument "b" "a" true false) (fixtureDocument "a" "b" false true).text := by
  have hdistinct : (fixtureDocument "b" "a" true false).root.Distinct :=
    ⟨trivial, ⟨trivial, trivial, nofun⟩, by decide⟩
  have hiff := (tokens_verbatim_iff fixtureSerde_documented canonicalize_fixture_unsorted).2 _ rfl
    hdistinct
  exact hiff.mpr ⟨rfl, trivial, rfl, trivial, trivial⟩

/-- A slash that is escaped. -/
def escapedSlash : Bytes := [QUOTE, BACKSLASH, 0x2f, QUOTE]

theorem readString_escapedSlash (rest : Bytes) :
    readString (escapedSlash ++ rest) = some ("/", rest) := by
  have hread : readString escapedSlash = some ("/", []) := by decide
  obtain ⟨text, htext, hprefixed⟩ := readString_prefixed hread
  rw [List.append_nil] at htext
  rw [htext]
  exact hprefixed rest

def escapedDocument : Document fixtureSerde.lexicon where
  before := .empty
  root := .object .empty (.entry .empty (fixtureKey "a") .empty .empty
    (.string ⟨escapedSlash, "/", readString_escapedSlash⟩) .empty .empty)
  after := .empty

/-- The escape is not copied. -/
theorem escaped_slash_rewritten :
    let c := LBRACE :: (writeString "a" ++ COLON :: (writeString "/" ++ [RBRACE]))
    escapedDocument.root.Distinct ∧
      canonicalizePolicyJson fixtureSerde escapedDocument.text = .ok c ∧
      ¬ Verbatim escapedDocument c := by
  intro c
  have hdepth : escapedDocument.depth < 128 := by
    show max 0 0 + 1 < 128
    decide
  refine ⟨⟨trivial, trivial, nofun⟩, canonicalize_object fixtureSerde_documented hdepth
    (.entry "a" (.string "/") .empty) ⟨trivial, trivial, nofun⟩ (by decide) rfl, ?_⟩
  rintro ⟨-, htokens⟩
  have hmissing : ¬ escapedSlash <:+: c := by decide
  exact hmissing (htokens escapedSlash (.tail _ (.head _)))

end OracleGuard
