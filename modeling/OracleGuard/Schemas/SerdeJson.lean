import Mathlib.Data.String.Basic
import OracleGuard.Json.Decimal
import OracleGuard.Json.Exact
import OracleGuard.Json.StringLiteral

/-!
What is used of serde_json, as a parameter. Its documented behaviour is that of the
JSON grammar, with a limit on the nesting.

* `SerdeJson.reference_documented`: the parser of the grammar behaves like this.
-/

namespace OracleGuard

open Json Wire

structure SerdeJson where
  lexicon : Lexicon String
  /-- `serde_json::from_slice` to a `Value`. -/
  fromSlice : Bytes → Option (Value String)
  /-- `Number::to_string`. -/
  display : Number → Bytes

/-- `serde_json::to_string` of a string. -/
def SerdeJson.encodeString (serde : SerdeJson) (s : String) : Option Bytes :=
  serde.lexicon.string.encode s

structure SerdeJson.Documented (serde : SerdeJson) : Prop where
  lawful : serde.lexicon.Lawful
  display_integer : ∀ {n : Number} {text : Bytes}, n.integerText = some text →
    serde.display n = text
  /-- Fewer than 128 arrays and objects inside each other, and nothing after the value. -/
  fromSlice_eq_some : ∀ {raw : Bytes} {value : Value String}, serde.fromSlice raw = some value ↔
    ∃ doc : Document serde.lexicon, doc.text = raw ∧ doc.depth < 128 ∧ doc.value = value

theorem sorted_of_parseDocument {S : Type} [LinearOrder S] {lex : Lexicon S} (hlex : lex.Lawful)
    {limit : Nat} {raw : Bytes} {t : Tree S .value} (h : parseDocument lex limit raw = some t) :
    t.Sorted := by
  obtain ⟨doc, -, -, rfl⟩ := (parseDocument_eq_some hlex).mp h
  exact doc.root.sorted_denote

/-- Floats are rounded by a parameter, and never printed. -/
def SerdeJson.reference (float : Bytes → Option UInt64) : SerdeJson where
  lexicon := jsonLexicon float
  fromSlice raw :=
    (parseDocument (jsonLexicon float) 127 raw).pmap Value.mk fun _ h =>
      sorted_of_parseDocument (jsonLexicon_lawful float) h
  display n := n.integerText.getD []

theorem SerdeJson.reference_documented (float : Bytes → Option UInt64) :
    (SerdeJson.reference float).Documented where
  lawful := jsonLexicon_lawful float
  display_integer h := by
    show Option.getD _ [] = _
    rw [h, Option.getD_some]
  fromSlice_eq_some := by
    intro raw value
    have hlex := jsonLexicon_lawful float
    constructor
    · intro h
      obtain ⟨t, ht, hparse, rfl⟩ := Option.pmap_eq_some_iff.mp h
      obtain ⟨doc, hraw, hdepth, hvalue⟩ := (parseDocument_eq_some hlex).mp hparse
      exact ⟨doc, hraw, Nat.lt_succ_of_le hdepth, Value.ext hvalue⟩
    · rintro ⟨doc, hraw, hdepth, rfl⟩
      refine Option.pmap_eq_some_iff.mpr ⟨doc.root.denote, doc.root.sorted_denote, ?_, rfl⟩
      exact (parseDocument_eq_some hlex).mpr ⟨doc, hraw, Nat.le_of_lt_succ hdepth, rfl⟩

end OracleGuard
