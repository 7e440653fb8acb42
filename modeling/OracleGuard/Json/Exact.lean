import Mathlib.Logic.Basic
import OracleGuard.Json.Parser

/-!
The parser accepts the documents of the grammar within the limit, and returns their
values.

* `Doc.readsBack`: the text of a document is read back, within the limit.
* `parse_sound`: what is read off the front of some bytes is a document and its
  meaning.
* `Document.unambiguous`: so a text has one value and one depth.
-/

namespace Json

open Wire

section Exact

variable {S : Type} {lex : Lexicon S}

/-- The end of a list, or a comma and what is left of it. -/
theorem Doc.comma_cases {k : Kind} (hk : k ≠ .value) (d : Doc lex k) :
    d.comma = [COMMA] ∨ d.comma = [] ∧ d.text = [] ∧ d.depth = 0 := by
  cases d with
  | null | bool _ | number _ | string _ | array _ _ | object _ _ => exact absurd rfl hk
  | nil | empty => exact .inr ⟨rfl, rfl, rfl⟩
  | cons | entry => exact .inl rfl

variable [LinearOrder S]

/-! ## Completeness -/

/-- The text of a document is read back where its depth is within the limit, and
refused elsewhere. -/
def Doc.ReadsBack {k : Kind} (d : Doc lex k) : Prop :=
  ∀ ⦃fuel limit : Nat⦄ ⦃rest : Bytes⦄, d.fuel ≤ fuel → d.Ends rest →
    parse lex fuel limit k (d.text ++ rest) =
      if d.depth ≤ limit then some (d.denote, rest) else none

theorem bind_ite {α β : Type} {p : Prop} [Decidable p] (a : α) (f : α → Option β) :
    (if p then some a else none) >>= f = if p then f a else none := by
  split <;> rfl

theorem ite_max {α : Type} (m n limit : Nat) (a : Option α) :
    (if m ≤ limit then if n ≤ limit then a else none else none) =
      if max m n ≤ limit then a else none := by
  by_cases hm : m ≤ limit <;> by_cases hn : n ≤ limit <;> simp [hm, hn]

theorem ite_succ {α : Type} (n limit : Nat) (a : Option α) :
    (if n ≤ limit then a else none) = if n + 1 ≤ limit + 1 then a else none := by
  by_cases hn : n ≤ limit <;> simp [hn]

namespace Doc.ReadsBack

/-- A value without brackets. -/
theorem flat {d : Doc lex .value} (hfuel : d.fuel = 1) (hdepth : d.depth = 0)
    (h : ∀ (fuel limit : Nat) {rest : Bytes}, Delimited rest →
      parse lex (fuel + 1) limit .value (d.text ++ rest) = some (d.denote, rest)) :
    d.ReadsBack := by
  intro fuel limit rest hle hends
  rw [hdepth, if_pos (Nat.zero_le limit)]
  rw [hfuel] at hle
  cases fuel with
  | zero => cases hle
  | succ fuel => exact h fuel limit hends

theorem number (token : NumberToken lex) : (Doc.number token).ReadsBack := by
  refine flat rfl rfl fun fuel limit rest hends => ?_
  obtain ⟨c, tail, htext, hc⟩ := token.head
  have hread := readNumber_token token hends
  rw [htext, List.cons_append, ← parse_number fuel limit hc] at hread
  rw [Doc.text, htext]
  exact hread

theorem string (hlex : lex.Lawful) (literal : Literal lex) : (Doc.string literal).ReadsBack := by
  refine flat rfl rfl fun fuel limit rest _ => ?_
  obtain ⟨tail, htext⟩ := literal.head hlex
  have hread := literal.reads rest
  rw [htext, List.cons_append] at hread
  rw [Doc.text, htext, List.cons_append, parse_string, hread]
  rfl

theorem array (hlex : lex.Lawful) (gap : Gap) {items : Doc lex .items} (h : items.ReadsBack) :
    (Doc.array gap items).ReadsBack := by
  intro fuel limit rest hfuel _
  cases fuel with
  | zero => cases hfuel
  | succ fuel =>
    cases limit with
    | zero => exact (if_neg (Nat.not_succ_le_zero _)).symm
    | succ limit =>
      have htext : (Doc.array gap items).text ++ rest =
          LBRACKET :: (gap.text ++ (items.text ++ RBRACKET :: rest)) := by
        simp [Doc.text]
      rw [htext, parse_array, skipSpace_gap]
      cases items with
      | nil => exact (if_pos (Nat.succ_le_succ (Nat.zero_le limit))).symm
      | cons before value after items =>
        have hopen : ¬ (skipSpace ((Doc.cons before value after items).text ++
            RBRACKET :: rest)).head? = some RBRACKET := by
          obtain ⟨c, tail, hvalue, -, hc⟩ := value.head hlex
          rw [Doc.text, List.append_assoc, skipSpace_gap, List.append_assoc,
            value.skipSpace_text hlex, hvalue]
          simpa using hc
        rw [if_neg hopen, parse_items_gap,
          h (Nat.le_of_succ_le_succ hfuel) ⟨List.cons_ne_nil _ _, rfl⟩, bind_ite]
        exact ite_succ _ _ _

theorem object (hlex : lex.Lawful) (gap : Gap) {members : Doc lex .members}
    (h : members.ReadsBack) : (Doc.object gap members).ReadsBack := by
  intro fuel limit rest hfuel _
  cases fuel with
  | zero => cases hfuel
  | succ fuel =>
    cases limit with
    | zero => exact (if_neg (Nat.not_succ_le_zero _)).symm
    | succ limit =>
      have htext : (Doc.object gap members).text ++ rest =
          LBRACE :: (gap.text ++ (members.text ++ RBRACE :: rest)) := by
        simp [Doc.text]
      rw [htext, parse_object, skipSpace_gap]
      cases members with
      | empty => exact (if_pos (Nat.succ_le_succ (Nat.zero_le limit))).symm
      | entry before key beforeColon afterColon value after members =>
        have hopen : ¬ (skipSpace ((Doc.entry before key beforeColon afterColon value after
            members).text ++ RBRACE :: rest)).head? = some RBRACE := by
          obtain ⟨tail, hkey⟩ := key.head hlex
          rw [Doc.text, List.append_assoc, skipSpace_gap, List.append_assoc,
            key.skipSpace_text hlex, hkey]
          simp [QUOTE, RBRACE]
        rw [if_neg hopen, parse_members_gap,
          h (Nat.le_of_succ_le_succ hfuel) ⟨List.cons_ne_nil _ _, rfl⟩, bind_ite]
        exact ite_succ _ _ _

/-- What is left of a list behind a value. -/
theorem tail {k : Kind} (hk : k ≠ .value) {d : Doc lex k} (h : d.ReadsBack) {fuel limit : Nat}
    {rest : Bytes} (after : Gap) (f : Meaning S k → Meaning S k) (single : Meaning S k)
    (hsingle : d.comma = [] → f d.denote = single) (hfuel : d.fuel ≤ fuel)
    (hends : d.comma ≠ [] → d.Ends rest) (hclosed : ¬ rest.head? = some COMMA)
    (hrest : Punctuated (d.comma ++ (d.text ++ rest))) :
    (if (skipSpace (after.text ++ (d.comma ++ (d.text ++ rest)))).head? = some COMMA then do
        let (m, rest) ← parse lex fuel limit k
          (skipSpace (after.text ++ (d.comma ++ (d.text ++ rest)))).tail
        return (f m, rest)
      else return (single, skipSpace (after.text ++ (d.comma ++ (d.text ++ rest))))) =
      if d.depth ≤ limit then some (f d.denote, rest) else none := by
  rw [hrest.skipSpace_gap]
  rcases d.comma_cases hk with hcomma | ⟨hcomma, htext, hdepth⟩
  · have hne : d.comma ≠ [] := by
      rw [hcomma]
      exact List.cons_ne_nil _ _
    rw [hcomma]
    show (parse lex fuel limit k (d.text ++ rest) >>= _) = _
    rw [h hfuel (hends hne), bind_ite]
    rfl
  · rw [hcomma, htext, hdepth, if_pos (Nat.zero_le limit), hsingle hcomma]
    exact if_neg hclosed

theorem cons (hlex : lex.Lawful) (before after : Gap) {value : Doc lex .value}
    {items : Doc lex .items} (h : value.ReadsBack) (h' : items.ReadsBack) :
    (Doc.cons before value after items).ReadsBack := by
  intro fuel limit rest hfuel hends
  cases fuel with
  | zero => cases hfuel
  | succ fuel =>
    obtain ⟨hvalueFuel, hitemsFuel⟩ := Nat.max_le.mp (Nat.le_of_succ_le_succ hfuel)
    have htext : (Doc.cons before value after items).text ++ rest = before.text ++
        (value.text ++ (after.text ++ (items.comma ++ (items.text ++ rest)))) := by
      simp [Doc.text]
    have hrest : Punctuated (items.comma ++ (items.text ++ rest)) := by
      cases items with
      | nil => exact ⟨RBRACKET, hends.2, .inr (.inl rfl)⟩
      | cons => exact ⟨COMMA, rfl, .inl rfl⟩
    rw [htext, parse_items, skipSpace_gap, value.skipSpace_text hlex,
      h hvalueFuel (hrest.delimited after), bind_ite, Doc.depth, ← ite_max]
    have hclosed : ¬ rest.head? = some COMMA := by
      rw [hends.2]
      decide
    have hsingle : items.comma = [] → value.denote :: items.denote = [value.denote] := by
      intro hcomma
      cases items with
      | nil => rfl
      | cons => cases hcomma
    refine if_congr Iff.rfl ?_ rfl
    exact tail (k := .items) (by decide) h' after (value.denote :: ·) _ hsingle hitemsFuel
      (fun hne => ⟨hne, hends.2⟩) hclosed hrest

theorem entry (hlex : lex.Lawful) (before beforeColon afterColon after : Gap) (key : Literal lex)
    {value : Doc lex .value} {members : Doc lex .members} (h : value.ReadsBack)
    (h' : members.ReadsBack) :
    (Doc.entry before key beforeColon afterColon value after members).ReadsBack := by
  intro fuel limit rest hfuel hends
  cases fuel with
  | zero => cases hfuel
  | succ fuel =>
    obtain ⟨hvalueFuel, hmembersFuel⟩ := Nat.max_le.mp (Nat.le_of_succ_le_succ hfuel)
    have htext : (Doc.entry before key beforeColon afterColon value after members).text ++ rest =
        before.text ++ (key.text ++ (beforeColon.text ++ COLON :: (afterColon.text ++ (value.text ++
          (after.text ++ (members.comma ++ (members.text ++ rest))))))) := by
      simp [Doc.text]
    have hrest : Punctuated (members.comma ++ (members.text ++ rest)) := by
      cases members with
      | empty => exact ⟨RBRACE, hends.2, .inr (.inr rfl)⟩
      | entry => exact ⟨COMMA, rfl, .inl rfl⟩
    rw [htext, parse_members, skipSpace_gap, key.skipSpace_text hlex, key.reads]
    show (expect COLON (skipSpace (beforeColon.text ++ COLON :: _)) >>= _) = _
    rw [skipSpace_gap_cons _ (by decide), expect_eq_some.mpr rfl]
    show (parse lex fuel limit .value (skipSpace (afterColon.text ++ _)) >>= _) = _
    rw [skipSpace_gap, value.skipSpace_text hlex, h hvalueFuel (hrest.delimited after), bind_ite,
      Doc.depth, ← ite_max]
    have hclosed : ¬ rest.head? = some COMMA := by
      rw [hends.2]
      decide
    have hsingle : members.comma = [] →
        (key.value, value.denote) :: members.denote = [(key.value, value.denote)] := by
      intro hcomma
      cases members with
      | empty => rfl
      | entry => cases hcomma
    refine if_congr Iff.rfl ?_ rfl
    exact tail (k := .members) (by decide) h' after ((key.value, value.denote) :: ·) _ hsingle
      hmembersFuel (fun hne => ⟨hne, hends.2⟩) hclosed hrest

end Doc.ReadsBack

theorem Doc.readsBack (hlex : lex.Lawful) {k : Kind} (d : Doc lex k) : d.ReadsBack := by
  induction d with
  | null => exact .flat rfl rfl fun fuel limit rest _ => parse_null fuel limit rest
  | bool b =>
    cases b with
    | false => exact .flat rfl rfl fun fuel limit rest _ => parse_false fuel limit rest
    | true => exact .flat rfl rfl fun fuel limit rest _ => parse_true fuel limit rest
  | number token => exact .number token
  | string literal => exact .string hlex literal
  | array gap _ ih => exact .array hlex gap ih
  | object gap _ ih => exact .object hlex gap ih
  | nil | empty => exact fun _ _ _ _ hends => absurd rfl hends.1
  | cons before _ after _ ih ih' => exact .cons hlex before after ih ih'
  | entry before key beforeColon afterColon _ after _ ih ih' =>
    exact .entry hlex before beforeColon afterColon after key ih ih'

/-! ## Soundness -/

/-- A document that the parser has read. -/
structure Reads (lex : Lexicon S) (limit : Nat) {k : Kind} (b : Bytes) (m : Meaning S k)
    (rest : Bytes) (d : Doc lex k) : Prop where
  denote : d.denote = m
  text : b = d.text ++ rest
  depth : d.depth ≤ limit
  nonempty : k ≠ .value → d.comma = [COMMA]

/-- One of the three words. -/
theorem parse_word_sound {limit : Nat} (d : Doc lex .value) (hdepth : d.depth = 0)
    {b rest : Bytes} {value : Tree S .value}
    (h : (b.dropPrefix? d.text).map (fun rest => (d.denote, rest)) = some (value, rest)) :
    ∃ d : Doc lex .value, Reads lex limit b value rest d := by
  obtain ⟨rest, hword, heq⟩ := Option.map_eq_some_iff.mp h
  cases heq
  exact ⟨d, rfl, dropPrefix?_eq_some.mp hword, hdepth ▸ Nat.zero_le _, fun hk => absurd rfl hk⟩

/-- A bracket, a list that may be empty, and the closing bracket. -/
theorem parse_bracketed_sound {fuel limit : Nat} {k : Kind} (opening closing : UInt8)
    (none : Doc lex k) (bracketed : Gap → Doc lex k → Doc lex .value)
    (f : Meaning S k → Tree S .value)
    (ih : ∀ {b : Bytes} {m : Meaning S k} {rest : Bytes},
      parse lex fuel limit k b = some (m, rest) → ∃ d : Doc lex k, Reads lex limit b m rest d)
    (hnone : none.text = [] ∧ none.depth = 0)
    (hdenote : ∀ gap d, (bracketed gap d).denote = f d.denote)
    (hdepth : ∀ gap d, (bracketed gap d).depth = d.depth + 1)
    (htext : ∀ gap d, (bracketed gap d).text = opening :: (gap.text ++ (d.text ++ [closing])))
    {b rest : Bytes} {value : Tree S .value} (hopen : b.head? = some opening)
    (h : (if (skipSpace b.tail).head? = some closing then
        some (f none.denote, (skipSpace b.tail).tail)
      else do
        let (m, rest) ← parse lex fuel limit k b.tail
        let rest ← expect closing rest
        return (f m, rest)) = some (value, rest)) :
    ∃ d : Doc lex .value, Reads lex (limit + 1) b value rest d := by
  have hb := List.eq_cons_of_mem_head? hopen
  split at h
  next hclose =>
    cases h
    obtain ⟨gap, hgap⟩ := exists_gap b.tail
    refine ⟨bracketed gap none, hdenote gap none, ?_, ?_, fun hk => absurd rfl hk⟩
    · calc b = opening :: b.tail := hb
        _ = opening :: (gap.text ++ skipSpace b.tail) := by rw [← hgap]
        _ = opening :: (gap.text ++ closing :: (skipSpace b.tail).tail) := by
          rw [← List.eq_cons_of_mem_head? hclose]
        _ = (bracketed gap none).text ++ (skipSpace b.tail).tail := by
          simp [htext, hnone.1]
    · rw [hdepth, hnone.2]
      exact Nat.le_add_left 1 limit
  · obtain ⟨⟨m, rest₁⟩, hm, h⟩ := Option.bind_eq_some_iff.mp h
    obtain ⟨rest₂, hclose, heq⟩ := Option.bind_eq_some_iff.mp h
    cases heq
    obtain ⟨d, rfl, hread, hd, -⟩ := ih hm
    refine ⟨bracketed .empty d, hdenote _ d, ?_, ?_, fun hk => absurd rfl hk⟩
    · rw [hb, hread, expect_eq_some.mp hclose, htext]
      simp
    · rw [hdepth]
      exact Nat.succ_le_succ hd

theorem parse_value_sound (hlex : lex.Lawful) {fuel limit : Nat}
    (ih : ∀ {limit : Nat} {k : Kind} {b : Bytes} {m : Meaning S k} {rest : Bytes},
      parse lex fuel limit k b = some (m, rest) → ∃ d : Doc lex k, Reads lex limit b m rest d)
    {b rest : Bytes} {value : Tree S .value}
    (h : parse lex (fuel + 1) limit .value b = some (value, rest)) :
    ∃ d : Doc lex .value, Reads lex limit b value rest d := by
  rw [parse.eq_def] at h
  simp only at h
  split at h
  · exact parse_word_sound .null rfl h
  split at h
  · exact parse_word_sound (.bool true) rfl h
  split at h
  · exact parse_word_sound (.bool false) rfl h
  split at h
  · obtain ⟨⟨s, rest⟩, hread, heq⟩ := Option.map_eq_some_iff.mp h
    cases heq
    obtain ⟨text, rfl, hreads⟩ := hlex.prefixed hread
    exact ⟨.string ⟨text, s, hreads⟩, rfl, rfl, Nat.zero_le _, fun hk => absurd rfl hk⟩
  split at h
  next hopen =>
    cases limit with
    | zero => cases h
    | succ limit =>
      exact parse_bracketed_sound LBRACKET RBRACKET .nil .array
        (fun items => .array (.ofItems items))
        ih ⟨rfl, rfl⟩ (fun _ _ => rfl) (fun _ _ => rfl) (fun _ _ => rfl) hopen h
  split at h
  next hopen =>
    cases limit with
    | zero => cases h
    | succ limit =>
      exact parse_bracketed_sound LBRACE RBRACE .empty .object
        (fun members => .object (.ofMembers (SortedMap.build members)))
        ih ⟨rfl, rfl⟩ (fun _ _ => rfl) (fun _ _ => rfl) (fun _ _ => rfl) hopen h
  · obtain ⟨token, rfl, rfl⟩ := readNumber_eq_some h
    exact ⟨.number token, rfl, rfl, Nat.zero_le _, fun hk => absurd rfl hk⟩

/-- What is left of a list behind a value. -/
theorem parse_rest_sound {fuel limit : Nat} {k : Kind} (none : Doc lex k)
    (f : Meaning S k → Meaning S k)
    (ih : ∀ {b : Bytes} {m : Meaning S k} {rest : Bytes},
      parse lex fuel limit k b = some (m, rest) → ∃ d : Doc lex k, Reads lex limit b m rest d)
    (hk : k ≠ .value) (hnone : none.comma = [] ∧ none.text = [] ∧ none.depth = 0)
    {b rest : Bytes} {m : Meaning S k}
    (h : (if (skipSpace b).head? = some COMMA then do
        let (m, rest) ← parse lex fuel limit k (skipSpace b).tail
        return (f m, rest)
      else return (f none.denote, skipSpace b)) = some (m, rest)) :
    ∃ (after : Gap) (d : Doc lex k), f d.denote = m ∧ d.depth ≤ limit ∧
      b = after.text ++ (d.comma ++ (d.text ++ rest)) := by
  obtain ⟨after, hafter⟩ := exists_gap b
  split at h
  next hcomma =>
    obtain ⟨⟨m, rest₁⟩, hm, heq⟩ := Option.bind_eq_some_iff.mp h
    cases heq
    obtain ⟨d, rfl, htext, hdepth, hnonempty⟩ := ih hm
    refine ⟨after, d, rfl, hdepth, ?_⟩
    calc b = after.text ++ skipSpace b := hafter
      _ = after.text ++ COMMA :: (d.text ++ rest) := by
        rw [← htext, ← List.eq_cons_of_mem_head? hcomma]
      _ = after.text ++ (d.comma ++ (d.text ++ rest)) := by
        rw [hnonempty hk]
        rfl
  · cases h
    refine ⟨after, none, rfl, ?_, ?_⟩
    · rw [hnone.2.2]
      exact Nat.zero_le limit
    · rw [hnone.1, hnone.2.1]
      exact hafter

theorem parse_items_sound {fuel limit : Nat}
    (ih : ∀ {limit : Nat} {k : Kind} {b : Bytes} {m : Meaning S k} {rest : Bytes},
      parse lex fuel limit k b = some (m, rest) → ∃ d : Doc lex k, Reads lex limit b m rest d)
    {b rest : Bytes} {items : List (Tree S .value)}
    (h : parse lex (fuel + 1) limit .items b = some (items, rest)) :
    ∃ d : Doc lex .items, Reads lex limit b items rest d := by
  rw [parse_items] at h
  obtain ⟨⟨value, rest₁⟩, hvalue, h⟩ := Option.bind_eq_some_iff.mp h
  obtain ⟨d, rfl, htext, hdepth, -⟩ := ih hvalue
  obtain ⟨before, hbefore⟩ := exists_gap b
  obtain ⟨after, d', rfl, hdepth', hrest⟩ :=
    parse_rest_sound .nil (d.denote :: ·) ih (by decide) ⟨rfl, rfl, rfl⟩ h
  refine ⟨.cons before d after d', rfl, ?_, Nat.max_le.mpr ⟨hdepth, hdepth'⟩, fun _ => rfl⟩
  calc b = before.text ++ skipSpace b := hbefore
    _ = before.text ++ (d.text ++ (after.text ++ (d'.comma ++ (d'.text ++ rest)))) := by
      rw [htext, hrest]
    _ = (Doc.cons before d after d').text ++ rest := by
      simp [Doc.text]

theorem parse_members_sound (hlex : lex.Lawful) {fuel limit : Nat}
    (ih : ∀ {limit : Nat} {k : Kind} {b : Bytes} {m : Meaning S k} {rest : Bytes},
      parse lex fuel limit k b = some (m, rest) → ∃ d : Doc lex k, Reads lex limit b m rest d)
    {b rest : Bytes} {members : List (S × Tree S .value)}
    (h : parse lex (fuel + 1) limit .members b = some (members, rest)) :
    ∃ d : Doc lex .members, Reads lex limit b members rest d := by
  rw [parse_members] at h
  obtain ⟨⟨s, rest₁⟩, hkey, h⟩ := Option.bind_eq_some_iff.mp h
  obtain ⟨rest₂, hcolon, h⟩ := Option.bind_eq_some_iff.mp h
  obtain ⟨⟨value, rest₃⟩, hvalue, h⟩ := Option.bind_eq_some_iff.mp h
  obtain ⟨text, hkeyText, hreads⟩ := hlex.prefixed hkey
  obtain ⟨d, rfl, htext, hdepth, -⟩ := ih hvalue
  obtain ⟨before, hbefore⟩ := exists_gap b
  obtain ⟨beforeColon, hbeforeColon⟩ := exists_gap rest₁
  obtain ⟨afterColon, hafterColon⟩ := exists_gap rest₂
  obtain ⟨after, d', rfl, hdepth', hrest⟩ :=
    parse_rest_sound .empty ((s, d.denote) :: ·) ih (by decide) ⟨rfl, rfl, rfl⟩ h
  let key : Literal lex := ⟨text, s, hreads⟩
  refine ⟨.entry before key beforeColon afterColon d after d', rfl, ?_,
    Nat.max_le.mpr ⟨hdepth, hdepth'⟩, fun _ => rfl⟩
  calc b = before.text ++ skipSpace b := hbefore
    _ = before.text ++ (key.text ++ rest₁) := by rw [hkeyText]
    _ = before.text ++ (key.text ++ (beforeColon.text ++ skipSpace rest₁)) := by
      rw [← hbeforeColon]
    _ = before.text ++ (key.text ++ (beforeColon.text ++ COLON :: rest₂)) := by
      rw [expect_eq_some.mp hcolon]
    _ = before.text ++ (key.text ++ (beforeColon.text ++ COLON ::
        (afterColon.text ++ (d.text ++ rest₃)))) := by
      rw [← htext, ← hafterColon]
    _ = (Doc.entry before key beforeColon afterColon d after d').text ++ rest := by
      rw [hrest]
      simp [Doc.text]

theorem parse_sound (hlex : lex.Lawful) {fuel limit : Nat} {k : Kind} {b : Bytes} {m : Meaning S k}
    {rest : Bytes} (h : parse lex fuel limit k b = some (m, rest)) :
    ∃ d : Doc lex k, Reads lex limit b m rest d := by
  induction fuel generalizing limit k b m rest with
  | zero => cases h
  | succ fuel ih =>
    cases k with
    | value => exact parse_value_sound hlex ih h
    | items => exact parse_items_sound ih h
    | members => exact parse_members_sound hlex ih h

/-! ## Whole documents -/

theorem parseDocument_text (hlex : lex.Lawful) (doc : Document lex) (limit : Nat) :
    parseDocument lex limit doc.text =
      if doc.depth ≤ limit then some doc.root.denote else none := by
  obtain ⟨before, d, after⟩ := doc
  have hskip : skipSpace (Document.mk before d after).text = d.text ++ after.text := by
    rw [Document.text, skipSpace_gap, d.skipSpace_text hlex]
  have hfuel : d.fuel ≤ 2 * (Document.mk before d after).text.length := by
    have hle := d.fuel_le hlex
    simp only [Document.text, List.length_append]
    omega
  have hends : Delimited after.text := by
    have hnil : Delimited [] := nofun
    simpa using hnil.gap after
  have hafter : skipSpace after.text = [] := by
    have hgap := skipSpace_gap after []
    rwa [List.append_nil] at hgap
  rw [parseDocument, hskip, d.readsBack hlex hfuel hends, bind_ite]
  show (if d.depth ≤ limit then if skipSpace after.text = [] then _ else _ else _) = _
  rw [if_pos hafter]
  rfl

/-- **The parser is exact**: it accepts the documents within the limit. -/
theorem parseDocument_eq_some (hlex : lex.Lawful) {limit : Nat} {b : Bytes}
    {value : Tree S .value} :
    parseDocument lex limit b = some value ↔
      ∃ doc : Document lex, doc.text = b ∧ doc.depth ≤ limit ∧ doc.root.denote = value := by
  constructor
  · intro h
    obtain ⟨⟨value, rest⟩, hparse, h⟩ := Option.bind_eq_some_iff.mp h
    obtain ⟨d, rfl, htext, hdepth, -⟩ := parse_sound hlex hparse
    obtain ⟨before, hbefore⟩ := exists_gap b
    obtain ⟨after, hafter⟩ := exists_gap rest
    simp only at h
    split at h
    next hend =>
      cases h
      refine ⟨⟨before, d, after⟩, ?_, hdepth, rfl⟩
      rw [hend, List.append_nil] at hafter
      rw [Document.text, ← hafter, ← htext, ← hbefore]
    · cases h
  · rintro ⟨doc, rfl, hdepth, rfl⟩
    rw [parseDocument_text hlex, if_pos hdepth]

/-- **The grammar is unambiguous** in values and depths. -/
theorem Document.unambiguous (hlex : lex.Lawful) {doc doc' : Document lex}
    (htext : doc.text = doc'.text) :
    doc.depth = doc'.depth ∧ doc.root.denote = doc'.root.denote := by
  have hread : ∀ limit, (if doc.depth ≤ limit then some doc.root.denote else none) =
      if doc'.depth ≤ limit then some doc'.root.denote else none := by
    intro limit
    rw [← parseDocument_text hlex, htext, parseDocument_text hlex]
  have hdepth := hread doc.depth
  have hdepth' := hread doc'.depth
  rw [if_pos (Nat.le_refl _)] at hdepth hdepth'
  have hle : doc'.depth ≤ doc.depth := by
    by_contra hnot
    rw [if_neg hnot] at hdepth
    cases hdepth
  have hle' : doc.depth ≤ doc'.depth := by
    by_contra hnot
    rw [if_neg hnot] at hdepth'
    cases hdepth'
  rw [if_pos hle] at hdepth
  exact ⟨Nat.le_antisymm hle' hle, Option.some_inj.mp hdepth⟩

end Exact

end Json
