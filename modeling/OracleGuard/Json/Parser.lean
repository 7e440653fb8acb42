import Mathlib.Data.List.TakeWhile
import OracleGuard.Json.Grammar

/-!
A parser for the grammar, with a limit on the nesting, and its steps.

* `parse`: one function for values, items and members, by recursion on fuel.
* `Doc.fuel_le`: the length of a document bounds the fuel that it takes.
-/

namespace Json

open Wire

/-- What string literals promise: what is written is read back, a read depends on
the literal alone, and a literal starts with a quote. -/
structure Lexicon.Lawful {S : Type} (lex : Lexicon S) : Prop where
  lawful : lex.string.Lawful
  prefixed : ∀ {b : Bytes} {s : S} {rest : Bytes}, lex.string.decode b = some (s, rest) →
    ∃ text, b = text ++ rest ∧ ∀ rest', lex.string.decode (text ++ rest') = some (s, rest')
  quoted : ∀ {b : Bytes} {p : S × Bytes}, lex.string.decode b = some p → b.head? = some QUOTE

def skipSpace (b : Bytes) : Bytes := b.dropWhile isSpace

def expect (c : UInt8) (b : Bytes) : Option Bytes :=
  if b.head? = some c then some b.tail else none

section Parser

variable {S : Type} [LinearOrder S] (lex : Lexicon S)

/-- A number is as long as it can be. -/
def readNumber (b : Bytes) : Option (Tree S .value × Bytes) :=
  (numberOf lex.float (b.takeWhile isNumberByte)).map fun n =>
    (.number n, b.dropWhile isNumberByte)

def parse : Nat → Nat → (k : Kind) → Bytes → Option (Meaning S k × Bytes)
  | 0, _, _, _ => none
  | fuel + 1, limit, .value, b =>
    if b.head? = some 0x6e then (b.dropPrefix? NULL).map fun rest => (.null, rest)
    else if b.head? = some 0x74 then (b.dropPrefix? TRUE).map fun rest => (.bool true, rest)
    else if b.head? = some 0x66 then (b.dropPrefix? FALSE).map fun rest => (.bool false, rest)
    else if b.head? = some QUOTE then
      (lex.string.decode b).map fun (s, rest) => (.string s, rest)
    else if b.head? = some LBRACKET then
      match limit with
      | 0 => none
      | limit + 1 =>
        if (skipSpace b.tail).head? = some RBRACKET then
          some (.array .nil, (skipSpace b.tail).tail)
        else do
          let (items, rest) ← parse fuel limit .items b.tail
          let rest ← expect RBRACKET rest
          return (.array (.ofItems items), rest)
    else if b.head? = some LBRACE then
      match limit with
      | 0 => none
      | limit + 1 =>
        if (skipSpace b.tail).head? = some RBRACE then
          some (.object .empty, (skipSpace b.tail).tail)
        else do
          let (members, rest) ← parse fuel limit .members b.tail
          let rest ← expect RBRACE rest
          return (.object (.ofMembers (SortedMap.build members)), rest)
    else readNumber lex b
  | fuel + 1, limit, .items, b => do
    let (value, rest) ← parse fuel limit .value (skipSpace b)
    if (skipSpace rest).head? = some COMMA then
      let (items, rest) ← parse fuel limit .items (skipSpace rest).tail
      return (value :: items, rest)
    else return ([value], skipSpace rest)
  | fuel + 1, limit, .members, b => do
    let (key, rest) ← lex.string.decode (skipSpace b)
    let rest ← expect COLON (skipSpace rest)
    let (value, rest) ← parse fuel limit .value (skipSpace rest)
    if (skipSpace rest).head? = some COMMA then
      let (members, rest) ← parse fuel limit .members (skipSpace rest).tail
      return ((key, value) :: members, rest)
    else return ([(key, value)], skipSpace rest)

/-- Enough fuel for every document of that length. -/
def parseDocument (limit : Nat) (b : Bytes) : Option (Tree S .value) := do
  let (value, rest) ← parse lex (2 * b.length) limit .value (skipSpace b)
  if skipSpace rest = [] then return value else none

end Parser

/-! ## Whitespace and tokens -/

theorem skipSpace_gap (gap : Gap) (b : Bytes) : skipSpace (gap.text ++ b) = skipSpace b :=
  List.dropWhile_append_of_pos gap.blank

theorem exists_gap (b : Bytes) : ∃ gap : Gap, b = gap.text ++ skipSpace b :=
  ⟨⟨b.takeWhile isSpace, fun _ hc => List.mem_takeWhile_imp hc⟩,
    List.takeWhile_append_dropWhile.symm⟩

theorem skipSpace_cons {c : UInt8} (hc : isSpace c = false) (b : Bytes) :
    skipSpace (c :: b) = c :: b :=
  List.dropWhile_cons_of_neg (by simp [hc])

theorem skipSpace_gap_cons (gap : Gap) {c : UInt8} (hc : isSpace c = false) (b : Bytes) :
    skipSpace (gap.text ++ c :: b) = c :: b := by
  rw [skipSpace_gap, skipSpace_cons hc]

theorem expect_eq_some {c : UInt8} {b rest : Bytes} :
    expect c b = some rest ↔ b = c :: rest := by
  cases b with
  | nil => simp [expect]
  | cons d b =>
    by_cases hd : d = c
    · simp [expect, hd]
    · simp [expect, hd]

theorem dropPrefix?_eq_some {word b rest : Bytes} :
    b.dropPrefix? word = some rest ↔ b = word ++ rest := by
  rw [List.dropPrefix?_eq_some_iff]
  simp

/-- What comes next does not continue a number. -/
def Delimited (b : Bytes) : Prop := ∀ c ∈ b.head?, isNumberByte c = false

theorem Delimited.gap {b : Bytes} (h : Delimited b) (gap : Gap) : Delimited (gap.text ++ b) := by
  intro c hc
  cases htext : gap.text with
  | nil =>
    rw [htext] at hc
    exact h c hc
  | cons d text =>
    have hspace := gap.blank d (htext ▸ List.mem_cons_self)
    rw [htext] at hc
    cases hc
    simp only [isSpace, Bool.or_eq_true, decide_eq_true_eq] at hspace
    rcases hspace with ((rfl | rfl) | rfl) | rfl <;> decide

section Numbers

variable {S : Type} {lex : Lexicon S}

theorem readNumber_eq_some {b rest : Bytes} {value : Tree S .value}
    (h : readNumber lex b = some (value, rest)) :
    ∃ token : NumberToken lex, value = .number token.value ∧ b = token.text ++ rest := by
  obtain ⟨n, hn, heq⟩ := Option.map_eq_some_iff.mp h
  cases heq
  exact ⟨⟨b.takeWhile isNumberByte, n, hn, fun _ hc => List.mem_takeWhile_imp hc⟩, rfl,
    List.takeWhile_append_dropWhile.symm⟩

theorem readNumber_token (token : NumberToken lex) {rest : Bytes} (hrest : Delimited rest) :
    readNumber lex (token.text ++ rest) = some (.number token.value, rest) := by
  have htake : rest.takeWhile isNumberByte = [] := by
    cases rest with
    | nil => rfl
    | cons c rest => exact List.takeWhile_cons_of_neg (by simp [hrest c rfl])
  have hdrop : rest.dropWhile isNumberByte = rest := by
    cases rest with
    | nil => rfl
    | cons c rest => exact List.dropWhile_cons_of_neg (by simp [hrest c rfl])
  rw [readNumber, List.takeWhile_append_of_pos token.run, htake, List.append_nil, token.number,
    List.dropWhile_append_of_pos token.run, hdrop]
  rfl

theorem NumberToken.head (token : NumberToken lex) :
    ∃ c rest, token.text = c :: rest ∧ (isDigit c = true ∨ c = MINUS) := by
  have hnumber := token.number
  cases htext : token.text with
  | nil =>
    rw [htext] at hnumber
    cases hnumber
  | cons c rest =>
    refine ⟨c, rest, rfl, ?_⟩
    by_cases hminus : c = MINUS
    · exact .inr hminus
    by_cases hdigit : isDigit c = true
    · exact .inl hdigit
    rw [htext, numberOf, if_neg hminus, unsignedOf, List.takeWhile_cons_of_neg hdigit] at hnumber
    cases hnumber

end Numbers

theorem numberStart_ne {c d : UInt8} (hc : isDigit c = true ∨ c = MINUS)
    (hd : isDigit d = false ∧ d ≠ MINUS) : c ≠ d := by
  rintro rfl
  simp [hd] at hc

section Documents

variable {S : Type} {lex : Lexicon S}

theorem Literal.head (hlex : lex.Lawful) (literal : Literal lex) :
    ∃ rest, literal.text = QUOTE :: rest := by
  have hhead := hlex.quoted (literal.reads [])
  rw [List.append_nil] at hhead
  exact ⟨_, List.eq_cons_of_mem_head? hhead⟩

theorem Literal.written (hlex : lex.Lawful) {s : S} {text : Bytes}
    (h : lex.string.encode s = some text) :
    ∃ literal : Literal lex, literal.text = text ∧ literal.value = s := by
  have hread : ∀ rest, lex.string.decode (text ++ rest) = some (s, rest) := by
    intro rest
    obtain ⟨text', htext, hread⟩ := hlex.lawful s rest
    rwa [← Option.some_inj.mp (h.symm.trans htext)] at hread
  exact ⟨⟨text, s, hread⟩, rfl, rfl⟩

/-- A value starts with a byte that is neither a space nor a closing bracket. -/
theorem Doc.head (hlex : lex.Lawful) (d : Doc lex .value) :
    ∃ c rest, d.text = c :: rest ∧ isSpace c = false ∧ c ≠ RBRACKET := by
  cases d with
  | null => exact ⟨_, _, rfl, by decide, by decide⟩
  | bool b => cases b <;> exact ⟨_, _, rfl, by decide, by decide⟩
  | number token =>
    obtain ⟨c, rest, htext, hc⟩ := token.head
    refine ⟨c, rest, htext, ?_, numberStart_ne hc (by decide)⟩
    simp only [isSpace, Bool.or_eq_false_iff, decide_eq_false_iff_not]
    exact ⟨⟨⟨numberStart_ne hc (by decide), numberStart_ne hc (by decide)⟩,
      numberStart_ne hc (by decide)⟩, numberStart_ne hc (by decide)⟩
  | string literal =>
    obtain ⟨rest, htext⟩ := literal.head hlex
    exact ⟨QUOTE, rest, htext, by decide, by decide⟩
  | array gap items => exact ⟨_, _, rfl, by decide, by decide⟩
  | object gap members => exact ⟨_, _, rfl, by decide, by decide⟩

theorem Doc.skipSpace_text (hlex : lex.Lawful) (d : Doc lex .value) (b : Bytes) :
    skipSpace (d.text ++ b) = d.text ++ b := by
  obtain ⟨c, rest, htext, hspace, -⟩ := d.head hlex
  rw [htext, List.cons_append, skipSpace_cons hspace]

theorem Literal.skipSpace_text (hlex : lex.Lawful) (literal : Literal lex) (b : Bytes) :
    skipSpace (literal.text ++ b) = literal.text ++ b := by
  obtain ⟨rest, htext⟩ := literal.head hlex
  rw [htext, List.cons_append, skipSpace_cons (by decide)]

/-- Behind a value there is a comma or a closing bracket. -/
def Punctuated (b : Bytes) : Prop := ∃ c ∈ b.head?, c = COMMA ∨ c = RBRACKET ∨ c = RBRACE

theorem Punctuated.skipSpace_gap {b : Bytes} (h : Punctuated b) (gap : Gap) :
    skipSpace (gap.text ++ b) = b := by
  obtain ⟨c, hc, hpunctuation⟩ := h
  obtain ⟨b, rfl⟩ : ∃ b', b = c :: b' := ⟨_, List.eq_cons_of_mem_head? hc⟩
  apply skipSpace_gap_cons
  rcases hpunctuation with rfl | rfl | rfl <;> decide

theorem Punctuated.delimited {b : Bytes} (h : Punctuated b) (gap : Gap) :
    Delimited (gap.text ++ b) := by
  apply Delimited.gap
  obtain ⟨c, hc, hpunctuation⟩ := h
  intro d hd
  rw [← Option.mem_unique hc hd]
  rcases hpunctuation with rfl | rfl | rfl <;> decide

/-- How deep the parser recurses over a document. -/
def Doc.fuel : {k : Kind} → Doc lex k → Nat
  | _, array _ items => items.fuel + 1
  | _, object _ members => members.fuel + 1
  | _, nil | _, empty => 0
  | _, cons _ value _ rest => max value.fuel rest.fuel + 1
  | _, entry _ _ _ _ value _ rest => max value.fuel rest.fuel + 1
  | _, _ => 1

theorem Doc.fuel_le (hlex : lex.Lawful) {k : Kind} (d : Doc lex k) :
    d.fuel + (if k = .value then 1 else 0) ≤ 2 * d.text.length := by
  induction d with
  | null => simp [Doc.fuel, Doc.text, NULL]
  | bool b => cases b <;> simp [Doc.fuel, Doc.text, TRUE, FALSE]
  | number token =>
    obtain ⟨c, rest, htext, -⟩ := token.head
    simp only [Doc.fuel, Doc.text, htext, List.length_cons, if_true]
    omega
  | string literal =>
    obtain ⟨rest, htext⟩ := literal.head hlex
    simp only [Doc.fuel, Doc.text, htext, List.length_cons, if_true]
    omega
  | array gap items ih | object gap items ih =>
    simp only [Doc.fuel, Doc.text, List.length_cons, List.length_append, List.length_nil, if_true,
      reduceCtorEq, if_false] at ih ⊢
    omega
  | nil | empty => exact Nat.le_refl 0
  | cons _ value _ rest ih ih' | entry _ _ _ _ value _ rest ih ih' =>
    simp only [Doc.fuel, Doc.text, List.length_cons, List.length_append, if_true, reduceCtorEq,
      if_false] at ih ih' ⊢
    omega

/-- What may follow a document: a value is delimited, and a list that is not empty is
closed by a bracket. -/
def Doc.Ends : {k : Kind} → Doc lex k → Bytes → Prop
  | .value, _, rest => Delimited rest
  | .items, d, rest => d.comma ≠ [] ∧ rest.head? = some RBRACKET
  | .members, d, rest => d.comma ≠ [] ∧ rest.head? = some RBRACE

variable [LinearOrder S]

/-! One step of the parser at each of its branches. -/

theorem parse_number (fuel limit : Nat) {c : UInt8} (hc : isDigit c = true ∨ c = MINUS)
    (b : Bytes) :
    parse lex (fuel + 1) limit .value (c :: b) = readNumber lex (c :: b) := by
  have hne : ∀ {d : UInt8}, isDigit d = false ∧ d ≠ MINUS → ¬ (c :: b).head? = some d :=
    fun hd heq => numberStart_ne hc hd (Option.some_inj.mp heq)
  rw [parse.eq_def]
  simp only
  rw [if_neg (hne (by decide)), if_neg (hne (by decide)), if_neg (hne (by decide)),
    if_neg (hne (by decide)), if_neg (hne (by decide)), if_neg (hne (by decide))]

theorem parse_string (fuel limit : Nat) (b : Bytes) :
    parse lex (fuel + 1) limit .value (QUOTE :: b) =
      (lex.string.decode (QUOTE :: b)).map fun (s, rest) => (.string s, rest) := rfl

theorem parse_null (fuel limit : Nat) (rest : Bytes) :
    parse lex (fuel + 1) limit .value (NULL ++ rest) = some (.null, rest) := by
  show ((NULL ++ rest).dropPrefix? NULL).map _ = _
  rw [dropPrefix?_eq_some.mpr rfl]
  rfl

theorem parse_true (fuel limit : Nat) (rest : Bytes) :
    parse lex (fuel + 1) limit .value (TRUE ++ rest) = some (.bool true, rest) := by
  show ((TRUE ++ rest).dropPrefix? TRUE).map _ = _
  rw [dropPrefix?_eq_some.mpr rfl]
  rfl

theorem parse_false (fuel limit : Nat) (rest : Bytes) :
    parse lex (fuel + 1) limit .value (FALSE ++ rest) = some (.bool false, rest) := by
  show ((FALSE ++ rest).dropPrefix? FALSE).map _ = _
  rw [dropPrefix?_eq_some.mpr rfl]
  rfl

theorem parse_array (fuel limit : Nat) (b : Bytes) :
    parse lex (fuel + 1) (limit + 1) .value (LBRACKET :: b) =
      if (skipSpace b).head? = some RBRACKET then some (.array .nil, (skipSpace b).tail)
      else do
        let (items, rest) ← parse lex fuel limit .items b
        let rest ← expect RBRACKET rest
        return (.array (.ofItems items), rest) := rfl

theorem parse_object (fuel limit : Nat) (b : Bytes) :
    parse lex (fuel + 1) (limit + 1) .value (LBRACE :: b) =
      if (skipSpace b).head? = some RBRACE then some (.object .empty, (skipSpace b).tail)
      else do
        let (members, rest) ← parse lex fuel limit .members b
        let rest ← expect RBRACE rest
        return (.object (.ofMembers (SortedMap.build members)), rest) := rfl

theorem parse_items (fuel limit : Nat) (b : Bytes) :
    parse lex (fuel + 1) limit .items b = (do
      let (value, rest) ← parse lex fuel limit .value (skipSpace b)
      if (skipSpace rest).head? = some COMMA then
        let (items, rest) ← parse lex fuel limit .items (skipSpace rest).tail
        return (value :: items, rest)
      else return ([value], skipSpace rest)) := rfl

theorem parse_members (fuel limit : Nat) (b : Bytes) :
    parse lex (fuel + 1) limit .members b = (do
      let (key, rest) ← lex.string.decode (skipSpace b)
      let rest ← expect COLON (skipSpace rest)
      let (value, rest) ← parse lex fuel limit .value (skipSpace rest)
      if (skipSpace rest).head? = some COMMA then
        let (members, rest) ← parse lex fuel limit .members (skipSpace rest).tail
        return ((key, value) :: members, rest)
      else return ([(key, value)], skipSpace rest)) := rfl

theorem parse_items_gap (fuel limit : Nat) (gap : Gap) (b : Bytes) :
    parse lex fuel limit .items (gap.text ++ b) = parse lex fuel limit .items b := by
  cases fuel with
  | zero => rfl
  | succ fuel => rw [parse_items, parse_items, skipSpace_gap]

theorem parse_members_gap (fuel limit : Nat) (gap : Gap) (b : Bytes) :
    parse lex fuel limit .members (gap.text ++ b) = parse lex fuel limit .members b := by
  cases fuel with
  | zero => rfl
  | succ fuel => rw [parse_members, parse_members, skipSpace_gap]

end Documents

end Json
