import OracleGuard.Json.Exact
import OracleGuard.Json.Rearrange

/-!
Documents without whitespace, with their members in order and their literals as they
are written out.

* `Doc.stripped_inj`: a document without whitespace is determined by its text.
* `Doc.Distinct.ordered_arranged`: without repeated names the order is strict.
* `Doc.infix_of_mem_tokens`: a text contains the tokens of its document.
-/

namespace Json

open Wire

section Spelling

variable {S : Type} {lex : Lexicon S}

/-- Without whitespace. -/
def Doc.stripped : {k : Kind} → Doc lex k → Doc lex k
  | _, null => null
  | _, bool b => bool b
  | _, number token => number token
  | _, string literal => string literal
  | _, array _ items => array .empty items.stripped
  | _, object _ members => object .empty members.stripped
  | _, nil => nil
  | _, cons _ value _ rest => cons .empty value.stripped .empty rest.stripped
  | _, empty => empty
  | _, entry _ key _ _ value _ rest =>
    entry .empty key .empty .empty value.stripped .empty rest.stripped

/-! ## Literals -/

/-- A literal is determined by its text. -/
theorem Literal.ext_text {literal literal' : Literal lex} (h : literal.text = literal'.text) :
    literal = literal' := by
  have hvalue : literal.value = literal'.value := by
    have hread := literal.reads []
    rw [h, literal'.reads [], Option.some_inj, Prod.mk.injEq] at hread
    exact hread.1.symm
  cases literal
  cases literal'
  cases h
  cases hvalue
  rfl

theorem NumberToken.ext_text {token token' : NumberToken lex} (h : token.text = token'.text) :
    token = token' := by
  have hvalue : token.value = token'.value := by
    have hnumber := token.number
    rw [h, token'.number, Option.some_inj] at hnumber
    exact hnumber.symm
  cases token
  cases token'
  cases h
  cases hvalue
  rfl

theorem Lexicon.Lawful.encode_isSome (hlex : lex.Lawful) (s : S) :
    (lex.string.encode s).isSome = true := by
  obtain ⟨text, htext, -⟩ := hlex.lawful s []
  rw [htext, Option.isSome_some]

/-- A literal as it is written out. -/
def Literal.respelled (hlex : lex.Lawful) (literal : Literal lex) : Literal lex where
  text := (lex.string.encode literal.value).get (hlex.encode_isSome literal.value)
  value := literal.value
  reads rest := by
    obtain ⟨text, htext, hread⟩ := hlex.lawful literal.value rest
    simpa only [htext, Option.get_some] using hread

theorem Literal.encode_respelled (hlex : lex.Lawful) (literal : Literal lex) :
    lex.string.encode literal.value = some (literal.respelled hlex).text :=
  (Option.some_get _).symm

/-- Every literal of the document is written out. -/
def Doc.respelled (hlex : lex.Lawful) : {k : Kind} → Doc lex k → Doc lex k
  | _, null => null
  | _, bool b => bool b
  | _, number token => number token
  | _, string literal => string (literal.respelled hlex)
  | _, array gap items => array gap (items.respelled hlex)
  | _, object gap members => object gap (members.respelled hlex)
  | _, nil => nil
  | _, cons before value after rest =>
    cons before (value.respelled hlex) after (rest.respelled hlex)
  | _, empty => empty
  | _, entry before key beforeColon afterColon value after rest =>
    entry before (key.respelled hlex) beforeColon afterColon (value.respelled hlex) after
      (rest.respelled hlex)

/-- The literal is the one that is written out for its value. -/
def Literal.Plain (literal : Literal lex) : Prop :=
  lex.string.encode literal.value = some literal.text

/-- Every literal, names included, is the one that is written out for its value. -/
def Doc.Plain : {k : Kind} → Doc lex k → Prop
  | _, string literal => literal.Plain
  | _, array _ items => items.Plain
  | _, object _ members => members.Plain
  | _, cons _ value _ rest => value.Plain ∧ rest.Plain
  | _, entry _ key _ _ value _ rest => key.Plain ∧ value.Plain ∧ rest.Plain
  | _, _ => True

theorem Doc.plain_stripped {k : Kind} (d : Doc lex k) : d.stripped.Plain ↔ d.Plain := by
  induction d with
  | null | bool _ | number _ | string _ | nil | empty => exact Iff.rfl
  | array _ _ ih | object _ _ ih => exact ih
  | cons _ _ _ _ ih ih' => exact and_congr ih ih'
  | entry _ _ _ _ _ _ _ ih ih' => exact and_congr_right' (and_congr ih ih')

theorem Doc.plain_respelled (hlex : lex.Lawful) {k : Kind} (d : Doc lex k) :
    (d.respelled hlex).Plain := by
  induction d with
  | null | bool _ | number _ | nil | empty => trivial
  | string literal => exact literal.encode_respelled hlex
  | array _ _ ih | object _ _ ih => exact ih
  | cons _ _ _ _ ih ih' => exact ⟨ih, ih'⟩
  | entry _ key _ _ _ _ _ ih ih' => exact ⟨key.encode_respelled hlex, ih, ih'⟩

theorem Literal.Plain.respelled_eq (hlex : lex.Lawful) {literal : Literal lex}
    (h : literal.Plain) : literal.respelled hlex = literal :=
  Literal.ext_text (Option.some_inj.mp ((literal.encode_respelled hlex).symm.trans h))

theorem Doc.Plain.respelled_eq (hlex : lex.Lawful) {k : Kind} {d : Doc lex k} (h : d.Plain) :
    d.respelled hlex = d := by
  induction d with
  | null | bool _ | number _ | nil | empty => rfl
  | string _ => exact congrArg Doc.string (Literal.Plain.respelled_eq hlex h)
  | array gap _ ih => exact congrArg (Doc.array gap) (ih h)
  | object gap _ ih => exact congrArg (Doc.object gap) (ih h)
  | cons before _ after _ ih ih' => rw [respelled, ih h.1, ih' h.2]
  | entry before key beforeColon afterColon _ after _ ih ih' =>
    rw [respelled, Literal.Plain.respelled_eq hlex h.1, ih h.2.1, ih' h.2.2]

theorem Rearranged.plain {k : Kind} {d d' : Doc lex k} (h : Rearranged d d') :
    d.Plain ↔ d'.Plain := by
  induction h with
  | refl d => exact Iff.rfl
  | trans _ _ ih ih' => exact ih.trans ih'
  | array _ _ _ ih | object _ _ _ ih => exact ih
  | cons _ _ _ _ _ _ ih ih' => exact and_congr ih ih'
  | entry _ _ _ _ _ _ _ _ _ _ _ ih ih' => exact and_congr_right' (and_congr ih ih')
  | swap =>
    simp only [Doc.Plain]
    tauto

/-! ## Tokens -/

/-- The string and number tokens as they are written, from left to right. -/
def Doc.tokens : {k : Kind} → Doc lex k → List Bytes
  | _, number token => [token.text]
  | _, string literal => [literal.text]
  | _, array _ items => items.tokens
  | _, object _ members => members.tokens
  | _, cons _ value _ rest => value.tokens ++ rest.tokens
  | _, entry _ key _ _ value _ rest => key.text :: (value.tokens ++ rest.tokens)
  | _, _ => []

theorem Doc.tokens_stripped {k : Kind} (d : Doc lex k) : d.stripped.tokens = d.tokens := by
  induction d with
  | null | bool _ | number _ | string _ | nil | empty => rfl
  | array _ _ ih | object _ _ ih => exact ih
  | cons _ _ _ _ ih ih' => exact congrArg₂ List.append ih ih'
  | entry _ key _ _ _ _ _ ih ih' => exact congrArg (key.text :: ·) (congrArg₂ List.append ih ih')

theorem Rearranged.tokens {k : Kind} {d d' : Doc lex k} (h : Rearranged d d') :
    d.tokens.Perm d'.tokens := by
  induction h with
  | refl d => exact .refl _
  | trans _ _ ih ih' => exact ih.trans ih'
  | array _ _ _ ih | object _ _ _ ih => exact ih
  | cons _ _ _ _ _ _ ih ih' => exact ih.append ih'
  | entry _ _ _ _ _ _ _ _ key _ _ ih ih' => exact (ih.append ih').cons key.text
  | swap _ _ _ _ _ _ _ _ key₁ key₂ value₁ value₂ rest =>
    show List.Perm ((key₁.text :: value₁.tokens) ++ ((key₂.text :: value₂.tokens) ++ rest.tokens))
      ((key₂.text :: value₂.tokens) ++ ((key₁.text :: value₁.tokens) ++ rest.tokens))
    rw [← List.append_assoc, ← List.append_assoc]
    exact List.perm_append_comm.append_right rest.tokens

theorem Doc.infix_of_mem_tokens {k : Kind} {d : Doc lex k} {token : Bytes} (h : token ∈ d.tokens) :
    token <:+: d.text := by
  induction d with
  | null | bool _ | nil | empty => cases h
  | number _ | string _ =>
    rw [List.mem_singleton.mp h]
    exact List.infix_rfl
  | array gap items ih =>
    exact (ih h).trans ⟨LBRACKET :: gap.text, [RBRACKET], by simp [text]⟩
  | object gap members ih =>
    exact (ih h).trans ⟨LBRACE :: gap.text, [RBRACE], by simp [text]⟩
  | cons before value after rest ih ih' =>
    rcases List.mem_append.mp h with hvalue | hrest
    · exact (ih hvalue).trans
        ⟨before.text, after.text ++ (rest.comma ++ rest.text), by simp [text]⟩
    · exact (ih' hrest).trans
        ⟨before.text ++ (value.text ++ (after.text ++ rest.comma)), [], by simp [text]⟩
  | entry before key beforeColon afterColon value after rest ih ih' =>
    rcases List.mem_cons.mp h with rfl | h
    · exact ⟨before.text, _, List.append_assoc _ _ _⟩
    rcases List.mem_append.mp h with hvalue | hrest
    · refine (ih hvalue).trans ⟨before.text ++ (key.text ++ (beforeColon.text ++
        (COLON :: afterColon.text))), after.text ++ (rest.comma ++ rest.text), ?_⟩
      simp [text]
    · refine (ih' hrest).trans ⟨before.text ++ (key.text ++ (beforeColon.text ++
        (COLON :: (afterColon.text ++ (value.text ++ (after.text ++ rest.comma)))))), [], ?_⟩
      simp [text]

/-! ## Texts -/

/-- What is left of a list does not continue a number. -/
theorem Doc.delimited_rest {k : Kind} (hk : k ≠ .value) (d : Doc lex k) :
    Delimited (d.comma ++ d.text) := by
  rcases d.comma_cases hk with hcomma | ⟨hcomma, htext, -⟩
  · rw [hcomma]
    rintro c hc
    cases hc
    decide
  · rw [hcomma, htext]
    exact nofun

/-- Only an empty list has no text. -/
theorem Doc.comma_eq_nil (hlex : lex.Lawful) {k : Kind} {d : Doc lex k} (h : d.text = []) :
    d.comma = [] := by
  cases d with
  | cons _ value _ _ =>
    obtain ⟨c, rest, htext, -⟩ := value.head hlex
    simp [Doc.text, htext] at h
  | entry _ key _ _ _ _ _ =>
    obtain ⟨rest, htext⟩ := key.head hlex
    simp [Doc.text, htext] at h
  | _ => rfl

theorem Doc.rest_inj {k : Kind} (hk : k ≠ .value) {d d' : Doc lex k}
    (h : d.comma ++ d.text = d'.comma ++ d'.text) : d.text = d'.text := by
  rcases d.comma_cases hk with hcomma | ⟨hcomma, htext, -⟩
  · rcases d'.comma_cases hk with hcomma' | ⟨hcomma', htext', -⟩
    · rw [hcomma, hcomma'] at h
      exact List.append_cancel_left h
    · rw [hcomma, hcomma', htext'] at h
      cases h
  · rcases d'.comma_cases hk with hcomma' | ⟨hcomma', htext', -⟩
    · rw [hcomma, hcomma', htext] at h
      cases h
    · rw [htext, htext']

theorem Literal.text_append_inj {literal literal' : Literal lex} {rest rest' : Bytes}
    (h : literal.text ++ rest = literal'.text ++ rest') :
    literal = literal' ∧ rest = rest' := by
  have hread := literal.reads rest
  rw [h, literal'.reads rest', Option.some_inj, Prod.mk.injEq] at hread
  obtain ⟨-, rfl⟩ := hread
  exact ⟨Literal.ext_text (List.append_cancel_right h), rfl⟩

variable [LinearOrder S]

/-- Two values in front of what does not continue a number. -/
theorem Doc.text_append_inj (hlex : lex.Lawful) {d d' : Doc lex .value} {rest rest' : Bytes}
    (hrest : Delimited rest) (hrest' : Delimited rest')
    (h : d.text ++ rest = d'.text ++ rest') :
    d.denote = d'.denote ∧ d.text = d'.text ∧ rest = rest' := by
  have hread : parse lex (max d.fuel d'.fuel) (max d.depth d'.depth) .value (d.text ++ rest) =
      some (d.denote, rest) := by
    rw [d.readsBack hlex (Nat.le_max_left _ _) hrest, if_pos (Nat.le_max_left _ _)]
  rw [h, d'.readsBack hlex (Nat.le_max_right _ _) hrest', if_pos (Nat.le_max_right _ _),
    Option.some_inj, Prod.mk.injEq] at hread
  obtain ⟨hdenote, rfl⟩ := hread
  exact ⟨hdenote.symm, List.append_cancel_right h, rfl⟩

/-- **A document without whitespace is determined by its text.** -/
theorem Doc.stripped_inj (hlex : lex.Lawful) {k : Kind} (d : Doc lex k) :
    ∀ d' : Doc lex k, d.stripped.text = d'.stripped.text → d.stripped = d'.stripped := by
  have hdelimited : Delimited [] := nofun
  -- the first byte tells what kind of value it is
  have hshape : ∀ {d d' : Doc lex .value}, d.stripped.text = d'.stripped.text →
      d.stripped.denote = d'.stripped.denote := fun h =>
    (text_append_inj hlex hdelimited hdelimited (congrArg (· ++ []) h)).1
  induction d with
  | null =>
    intro d' h
    have hdenote := hshape h
    cases d' with
    | null => rfl
    | _ => cases hdenote
  | bool b =>
    intro d' h
    have hdenote := hshape h
    cases d' with
    | bool b' => exact congrArg Doc.bool (Tree.bool.inj hdenote)
    | _ => cases hdenote
  | number token =>
    intro d' h
    have hdenote := hshape h
    cases d' with
    | number token' => exact congrArg Doc.number (NumberToken.ext_text h)
    | _ => cases hdenote
  | string literal =>
    intro d' h
    have hdenote := hshape h
    cases d' with
    | string literal' => exact congrArg Doc.string (Literal.ext_text h)
    | _ => cases hdenote
  | array _ items ih =>
    intro d' h
    have hdenote := hshape h
    cases d' with
    | array _ items' =>
      exact congrArg (Doc.array .empty) (ih items' (List.append_cancel_right (List.cons.inj h).2))
    | _ => cases hdenote
  | object _ members ih =>
    intro d' h
    have hdenote := hshape h
    cases d' with
    | object _ members' =>
      exact congrArg (Doc.object .empty)
        (ih members' (List.append_cancel_right (List.cons.inj h).2))
    | _ => cases hdenote
  | nil =>
    intro d' h
    cases d' with
    | nil => rfl
    | cons _ value' _ rest' =>
      have hcomma := comma_eq_nil hlex h.symm
      cases hcomma
  | cons _ value _ rest ih ih' =>
    intro d' h
    cases d' with
    | nil =>
      have hcomma := comma_eq_nil hlex h
      cases hcomma
    | cons _ value' _ rest' =>
      obtain ⟨-, hvalue, hrest⟩ := text_append_inj hlex (delimited_rest (by decide) _)
        (delimited_rest (by decide) _) h
      rw [stripped, stripped, ih value' hvalue, ih' rest' (rest_inj (by decide) hrest)]
  | empty =>
    intro d' h
    cases d' with
    | empty => rfl
    | entry _ key' _ _ value' _ rest' =>
      have hcomma := comma_eq_nil hlex h.symm
      cases hcomma
  | entry _ key _ _ value _ rest ih ih' =>
    intro d' h
    cases d' with
    | empty =>
      have hcomma := comma_eq_nil hlex h
      cases hcomma
    | entry _ key' _ _ value' _ rest' =>
      obtain ⟨rfl, hcolon⟩ := Literal.text_append_inj h
      obtain ⟨-, hvalue, hrest⟩ := text_append_inj hlex (delimited_rest (by decide) _)
        (delimited_rest (by decide) _) (List.cons.inj hcolon).2
      rw [stripped, stripped, ih value' hvalue, ih' rest' (rest_inj (by decide) hrest)]

/-! ## Order -/

/-- Members are ordered by their names. -/
def Entry.le (e e' : Entry lex) : Bool := e.key.value ≤ e'.key.value

theorem Entry.le_trans (e e' e'' : Entry lex) (h : e.le e' = true) (h' : e'.le e'' = true) :
    e.le e'' = true :=
  decide_eq_true ((of_decide_eq_true h).trans (of_decide_eq_true h'))

theorem Entry.le_total (e e' : Entry lex) : (e.le e' || e'.le e) = true := by
  rw [Bool.or_eq_true]
  exact (LinearOrder.le_total e.key.value e'.key.value).imp decide_eq_true decide_eq_true

/-- The members of every object in the order of their names. -/
def Doc.arranged : {k : Kind} → Doc lex k → Doc lex k
  | _, null => null
  | _, bool b => bool b
  | _, number token => number token
  | _, string literal => string literal
  | _, array gap items => array gap items.arranged
  | _, object gap members =>
    object gap (ofEntries (members.arranged.entries.mergeSort Entry.le))
  | _, nil => nil
  | _, cons before value after rest => cons before value.arranged after rest.arranged
  | _, empty => empty
  | _, entry before key beforeColon afterColon value after rest =>
    entry before key beforeColon afterColon value.arranged after rest.arranged

theorem Doc.rearranged_arranged {k : Kind} (d : Doc lex k) : Rearranged d d.arranged := by
  induction d with
  | null | bool _ | number _ | string _ | nil | empty => exact .refl _
  | array gap _ ih => exact .array gap gap ih
  | object gap members ih =>
    have hperm := Rearranged.ofPerm (List.mergeSort_perm members.arranged.entries Entry.le).symm
    rw [members.arranged.ofEntries_entries] at hperm
    exact .object gap gap (ih.trans hperm)
  | cons _ _ _ _ ih ih' => exact .cons _ _ _ _ ih ih'
  | entry _ key _ _ _ _ _ ih ih' => exact .entry _ _ _ _ _ _ _ _ key ih ih'

/-- The members of every object are in strict order. -/
def Doc.Ordered : {k : Kind} → Doc lex k → Prop
  | _, array _ items => items.Ordered
  | _, object _ members => members.Ordered ∧ SortedMap.Sorted members.denote
  | _, cons _ value _ rest => value.Ordered ∧ rest.Ordered
  | _, entry _ _ _ _ value _ rest => value.Ordered ∧ rest.Ordered
  | _, _ => True

theorem Doc.ordered_ofEntries {l : List (Entry lex)} (h : ∀ e ∈ l, e.value.Ordered) :
    (ofEntries l).Ordered := by
  induction l with
  | nil => trivial
  | cons e l ih =>
    rw [List.forall_mem_cons] at h
    exact ⟨h.1, ih h.2⟩

theorem Doc.Ordered.values : {d : Doc lex .members} → d.Ordered →
    ∀ e ∈ d.entries, e.value.Ordered
  | .empty, _ => nofun
  | .entry .., h => List.forall_mem_cons.mpr ⟨h.1, Doc.Ordered.values h.2⟩

theorem Doc.names_arranged : (d : Doc lex .members) →
    (d.arranged.entries.map fun e => e.key.value) = d.entries.map fun e => e.key.value
  | .empty => rfl
  | .entry _ key _ _ _ _ rest => congrArg (key.value :: ·) rest.names_arranged

/-- Without repeated names the order is strict. -/
theorem Doc.Distinct.ordered_arranged {k : Kind} {d : Doc lex k} (h : d.Distinct) :
    d.arranged.Ordered := by
  induction d with
  | null | bool _ | number _ | string _ | nil | empty => trivial
  | array _ _ ih => exact ih h
  | object _ members ih =>
    let l := members.arranged.entries.mergeSort Entry.le
    have hle : l.Pairwise fun e e' => e.le e' = true :=
      List.pairwise_mergeSort Entry.le_trans Entry.le_total _
    have hne : l.Pairwise fun e e' => e.key.value ≠ e'.key.value := by
      have hnodup : (members.arranged.entries.map fun e => e.key.value).Nodup := by
        rw [members.names_arranged]
        exact h.nodup
      have hperm := (List.mergeSort_perm members.arranged.entries Entry.le).map
        fun e => e.key.value
      exact List.pairwise_map.mp (hperm.nodup_iff.mpr hnodup)
    refine ⟨ordered_ofEntries fun e he => (ih h).values e (List.mem_mergeSort.mp he), ?_⟩
    rw [denote_ofEntries]
    exact List.pairwise_map.mpr ((hle.and hne).imp fun ⟨hle, hne⟩ =>
      lt_of_le_of_ne (of_decide_eq_true hle) hne)
  | cons _ _ _ _ ih ih' => exact ⟨ih h.1, ih' h.2⟩
  | entry _ _ _ _ _ _ _ ih ih' => exact ⟨ih h.1, ih' h.2.1⟩

end Spelling

end Json
