import OracleGuard.Json.Grammar

/-!
Documents with the same content in another layout: the members of their objects in
another order, at any depth, and other whitespace.

* `Rearranged.denote`: where no object gives one name two values, the value stays.
* `Doc.varies`: any other document can be rearranged to another value.
-/

namespace Json

open Wire

section Rearranged

variable {S : Type} {lex : Lexicon S}

/-- Two neighbouring members change places, and any gap may change. -/
inductive Rearranged : {k : Kind} → Doc lex k → Doc lex k → Prop
  | refl {k : Kind} (d : Doc lex k) : Rearranged d d
  | trans {k : Kind} {d d' d'' : Doc lex k} (h : Rearranged d d') (h' : Rearranged d' d'') :
      Rearranged d d''
  | array (gap gap' : Gap) {items items' : Doc lex .items} (h : Rearranged items items') :
      Rearranged (.array gap items) (.array gap' items')
  | object (gap gap' : Gap) {members members' : Doc lex .members}
      (h : Rearranged members members') :
      Rearranged (.object gap members) (.object gap' members')
  | cons (before before' after after' : Gap) {value value' : Doc lex .value}
      {rest rest' : Doc lex .items} (h : Rearranged value value') (h' : Rearranged rest rest') :
      Rearranged (.cons before value after rest) (.cons before' value' after' rest')
  | entry (before before' beforeColon beforeColon' afterColon afterColon' after after' : Gap)
      (key : Literal lex) {value value' : Doc lex .value} {rest rest' : Doc lex .members}
      (h : Rearranged value value') (h' : Rearranged rest rest') :
      Rearranged (.entry before key beforeColon afterColon value after rest)
        (.entry before' key beforeColon' afterColon' value' after' rest')
  | swap (before₁ beforeColon₁ afterColon₁ after₁ before₂ beforeColon₂ afterColon₂ after₂ : Gap)
      (key₁ key₂ : Literal lex) (value₁ value₂ : Doc lex .value) (rest : Doc lex .members) :
      Rearranged
        (.entry before₁ key₁ beforeColon₁ afterColon₁ value₁ after₁
          (.entry before₂ key₂ beforeColon₂ afterColon₂ value₂ after₂ rest))
        (.entry before₂ key₂ beforeColon₂ afterColon₂ value₂ after₂
          (.entry before₁ key₁ beforeColon₁ afterColon₁ value₁ after₁ rest))

theorem Rearranged.depth {k : Kind} {d d' : Doc lex k} (h : Rearranged d d') :
    d'.depth = d.depth := by
  induction h with
  | refl d => rfl
  | trans _ _ ih ih' => rw [ih', ih]
  | array _ _ _ ih | object _ _ _ ih => rw [Doc.depth, Doc.depth, ih]
  | cons _ _ _ _ _ _ ih ih' | entry _ _ _ _ _ _ _ _ _ _ _ ih ih' =>
    rw [Doc.depth, Doc.depth, ih, ih']
  | swap => exact Nat.max_left_comm _ _ _

/-- One member of an object, and the whitespace in it. -/
structure Entry (lex : Lexicon S) where
  before : Gap
  key : Literal lex
  beforeColon : Gap
  afterColon : Gap
  value : Doc lex .value
  after : Gap

def Doc.ofEntries : List (Entry lex) → Doc lex .members
  | [] => .empty
  | e :: rest => .entry e.before e.key e.beforeColon e.afterColon e.value e.after (ofEntries rest)

def Doc.entries : {k : Kind} → Doc lex k → List (Entry lex)
  | _, .entry before key beforeColon afterColon value after rest =>
    ⟨before, key, beforeColon, afterColon, value, after⟩ :: rest.entries
  | _, _ => []

theorem Doc.ofEntries_entries : (d : Doc lex .members) → Doc.ofEntries d.entries = d
  | .empty => rfl
  | .entry before key beforeColon afterColon value after rest =>
    congrArg (Doc.entry before key beforeColon afterColon value after) (ofEntries_entries rest)

/-- No object, at any depth, has two members with one name. -/
def Doc.Distinct : {k : Kind} → Doc lex k → Prop
  | _, .array _ items => items.Distinct
  | _, .object _ members => members.Distinct
  | _, .cons _ value _ rest => value.Distinct ∧ rest.Distinct
  | _, .entry _ key _ _ value _ rest =>
    value.Distinct ∧ rest.Distinct ∧ ∀ e ∈ rest.entries, e.key.value ≠ key.value
  | _, _ => True

theorem Doc.Distinct.nodup : {d : Doc lex .members} → d.Distinct →
    (d.entries.map fun e => e.key.value).Nodup
  | .empty, _ => List.nodup_nil
  | .entry .., h => by
    obtain ⟨-, hrest, hkey⟩ := h
    refine List.nodup_cons.mpr ⟨fun hmem => ?_, hrest.nodup⟩
    obtain ⟨e, he, heq⟩ := List.mem_map.mp hmem
    exact hkey e he heq

/-- Members in any other order. -/
theorem Rearranged.ofPerm {l l' : List (Entry lex)} (h : l.Perm l') :
    Rearranged (Doc.ofEntries l) (Doc.ofEntries l') := by
  induction h with
  | nil => exact .refl _
  | cons e _ ih => exact .entry _ _ _ _ _ _ _ _ _ (.refl _) ih
  | swap e e' l => exact .swap _ _ _ _ _ _ _ _ _ _ _ _ _
  | trans _ _ ih ih' => exact .trans ih ih'

/-- The last member with its value rearranged. -/
theorem Rearranged.last (l : List (Entry lex)) (e : Entry lex) {value : Doc lex .value}
    (hvalue : Rearranged e.value value) :
    Rearranged (Doc.ofEntries (l ++ [e])) (Doc.ofEntries (l ++ [{ e with value := value }])) := by
  induction l with
  | nil => exact .entry _ _ _ _ _ _ _ _ _ hvalue (.refl _)
  | cons first l ih => exact .entry _ _ _ _ _ _ _ _ _ (.refl _) ih

/-- Any member can be the last one. -/
theorem Doc.exists_last (d : Doc lex .members) {e : Entry lex} (he : e ∈ d.entries) :
    ∃ l, Rearranged d (Doc.ofEntries (l ++ [e])) := by
  obtain ⟨front, back, hentries⟩ := List.append_of_mem he
  refine ⟨front ++ back, ?_⟩
  have hperm : d.entries.Perm (front ++ back ++ [e]) := by
    rw [hentries]
    exact List.perm_middle.trans (List.perm_append_singleton e (front ++ back)).symm
  have hrearranged := Rearranged.ofPerm hperm
  rwa [d.ofEntries_entries] at hrearranged

/-- The same members in any order. -/
def Meaning.Same : {k : Kind} → Meaning S k → Meaning S k → Prop
  | .value, value, value' => value = value'
  | .items, items, items' => items = items'
  | .members, members, members' => List.Perm members members'

theorem Meaning.Same.refl {k : Kind} (m : Meaning S k) : Meaning.Same m m := by
  cases k with
  | value | items => exact rfl
  | members => exact List.Perm.refl m

theorem Meaning.Same.trans {k : Kind} {m m' m'' : Meaning S k} (h : Meaning.Same m m')
    (h' : Meaning.Same m' m'') : Meaning.Same m m'' := by
  cases k with
  | value | items => exact Eq.trans h h'
  | members => exact List.Perm.trans h h'

end Rearranged

section Meaning

variable {S : Type} [LinearOrder S] {lex : Lexicon S}

/-- No object, at any depth, has two members with one name and different values. -/
def Doc.Consistent : {k : Kind} → Doc lex k → Prop
  | _, .array _ items => items.Consistent
  | _, .object _ members => members.Consistent ∧ SortedMap.Functional members.denote
  | _, .cons _ value _ rest => value.Consistent ∧ rest.Consistent
  | _, .entry _ _ _ _ value _ rest => value.Consistent ∧ rest.Consistent
  | _, _ => True

theorem Rearranged.same {k : Kind} {d d' : Doc lex k} (h : Rearranged d d') (hd : d.Consistent) :
    d'.Consistent ∧ Meaning.Same d.denote d'.denote := by
  induction h with
  | refl d => exact ⟨hd, .refl _⟩
  | trans _ _ ih ih' =>
    obtain ⟨hd', hsame⟩ := ih hd
    obtain ⟨hd'', hsame'⟩ := ih' hd'
    exact ⟨hd'', hsame.trans hsame'⟩
  | array _ _ _ ih =>
    obtain ⟨hitems, hsame⟩ := ih hd
    exact ⟨hitems, congrArg (fun items => Tree.array (Tree.ofItems items)) hsame⟩
  | object _ _ _ ih =>
    obtain ⟨hmembers, hsame⟩ := ih hd.1
    refine ⟨⟨hmembers, hd.2.perm hsame⟩, ?_⟩
    exact congrArg (fun m => Tree.object (Tree.ofMembers m)) (SortedMap.build_perm hd.2 hsame)
  | cons _ _ _ _ _ _ ih ih' =>
    obtain ⟨hvalue, hsame⟩ := ih hd.1
    obtain ⟨hrest, hsame'⟩ := ih' hd.2
    exact ⟨⟨hvalue, hrest⟩, congrArg₂ List.cons hsame hsame'⟩
  | entry _ _ _ _ _ _ _ _ key _ _ ih ih' =>
    obtain ⟨hvalue, hsame⟩ := ih hd.1
    obtain ⟨hrest, hsame'⟩ := ih' hd.2
    refine ⟨⟨hvalue, hrest⟩, ?_⟩
    rw [Doc.denote, Doc.denote, ← (hsame : _ = _)]
    exact List.Perm.cons _ hsame'
  | swap => exact ⟨⟨hd.2.1, hd.1, hd.2.2⟩, List.Perm.swap _ _ _⟩

/-- **Neither the order of the members nor the whitespace matters** to a document
where no object gives one name two values. -/
theorem Rearranged.denote {d d' : Doc lex .value} (h : Rearranged d d') (hd : d.Consistent) :
    d.denote = d'.denote := (h.same hd).2

def Entry.denote (e : Entry lex) : S × Tree S .value := (e.key.value, e.value.denote)

theorem Doc.denote_ofEntries (l : List (Entry lex)) :
    (Doc.ofEntries l).denote = l.map Entry.denote := by
  induction l with
  | nil => rfl
  | cons e l ih =>
    rw [Doc.ofEntries, Doc.denote, ih]
    rfl

theorem Doc.denote_members (d : Doc lex .members) : d.denote = d.entries.map Entry.denote := by
  rw [← Doc.denote_ofEntries, d.ofEntries_entries]

theorem Doc.Distinct.consistent {k : Kind} {d : Doc lex k} (h : d.Distinct) : d.Consistent := by
  induction d with
  | null | bool _ | number _ | string _ | nil | empty => trivial
  | array _ items ih => exact ih h
  | object _ members ih =>
    refine ⟨ih h, fun p hp q hq hkey => ?_⟩
    have hnodup : (members.denote.map Prod.fst).Nodup := by
      rw [members.denote_members, List.map_map]
      exact h.nodup
    exact List.inj_on_of_nodup_map hnodup hp hq hkey
  | cons _ value _ rest ih ih' => exact ⟨ih h.1, ih' h.2⟩
  | entry _ key _ _ value _ rest ih ih' => exact ⟨ih h.1, ih' h.2.1⟩

/-- The value of the last member is kept. -/
theorem Doc.mem_build_last (l : List (Entry lex)) (e : Entry lex) :
    e.denote ∈ SortedMap.build (Doc.ofEntries (l ++ [e])).denote := by
  rw [Doc.denote_ofEntries, List.map_append]
  exact (SortedMap.mem_build_append _ _ _).mpr (.inl rfl)

/-- Two arrangements that keep different values of one name. -/
theorem Doc.object_varies (gap : Gap) (d : Doc lex .members) {m m' : Doc lex .members}
    (hm : Rearranged d m) (hm' : Rearranged d m') {p q : S × Tree S .value}
    (hp : p ∈ SortedMap.build m.denote) (hq : q ∈ SortedMap.build m'.denote) (hkey : p.1 = q.1)
    (hne : p ≠ q) :
    ∃ d', Rearranged (Doc.object gap d) d' ∧ d'.denote ≠ (Doc.object gap d).denote := by
  by_contra hall
  have hsame : ∀ {m : Doc lex .members}, Rearranged d m →
      SortedMap.build m.denote = SortedMap.build d.denote := by
    intro m hm
    have hdenote : (Doc.object gap m).denote = (Doc.object gap d).denote := by
      by_contra hother
      exact hall ⟨_, .object gap gap hm, hother⟩
    have hmembers := congrArg Tree.members (Tree.object.inj hdenote)
    rwa [Tree.members_ofMembers, Tree.members_ofMembers] at hmembers
  rw [hsame hm] at hp
  rw [hsame hm'] at hq
  exact hne ((SortedMap.sorted_build _).functional p hp q hq hkey)

/-- A rearrangement changes what is meant, or the value of some member. -/
def Doc.Varies : {k : Kind} → Doc lex k → Prop
  | .value, d => ∃ d', Rearranged d d' ∧ d'.denote ≠ d.denote
  | .items, d => ∃ d', Rearranged d d' ∧ d'.denote ≠ d.denote
  | .members, d => ∃ e ∈ d.entries, ∃ d', Rearranged e.value d' ∧ d'.denote ≠ e.value.denote

/-- **A document that gives one name two values** can be rearranged to another
value. -/
theorem Doc.varies {k : Kind} (d : Doc lex k) (hd : ¬ d.Consistent) : d.Varies := by
  induction d with
  | null | bool _ | number _ | string _ | nil | empty => exact absurd trivial hd
  | array gap items ih =>
    obtain ⟨items', hitems, hne⟩ := ih hd
    refine ⟨.array gap items', .array gap gap hitems, fun heq => hne ?_⟩
    have hsame := congrArg Tree.items (Tree.array.inj heq)
    rwa [Tree.items_ofItems, Tree.items_ofItems] at hsame
  | object gap members ih =>
    by_cases hmembers : members.Consistent
    · have hdup : ¬ SortedMap.Functional members.denote := fun h => hd ⟨hmembers, h⟩
      rw [← members.ofEntries_entries, Doc.denote_ofEntries] at hdup
      simp only [SortedMap.Functional, List.forall_mem_map, not_forall] at hdup
      obtain ⟨e, he, e', he', hkey, hne⟩ := hdup
      obtain ⟨l, hlast⟩ := members.exists_last he
      obtain ⟨l', hlast'⟩ := members.exists_last he'
      exact members.object_varies gap hlast hlast' (Doc.mem_build_last l e)
        (Doc.mem_build_last l' e') hkey hne
    · obtain ⟨e, he, value, hvalue, hne⟩ := ih hmembers
      obtain ⟨l, hlast⟩ := members.exists_last he
      let e' : Entry lex := { e with value := value }
      have hlast' : Rearranged members (Doc.ofEntries (l ++ [e'])) :=
        hlast.trans (.last l e hvalue)
      exact members.object_varies gap hlast hlast' (Doc.mem_build_last l e)
        (Doc.mem_build_last l e') rfl fun heq => hne (congrArg Prod.snd heq).symm
  | cons before value after rest ih ih' =>
    by_cases hvalue : value.Consistent
    · obtain ⟨rest', hrest, hne⟩ := ih' fun h => hd ⟨hvalue, h⟩
      exact ⟨.cons before value after rest', .cons _ _ _ _ (.refl value) hrest,
        fun heq => hne (List.cons.inj heq).2⟩
    · obtain ⟨value', hvalue', hne⟩ := ih hvalue
      exact ⟨.cons before value' after rest, .cons _ _ _ _ hvalue' (.refl rest),
        fun heq => hne (List.cons.inj heq).1⟩
  | entry before key beforeColon afterColon value after rest ih ih' =>
    by_cases hvalue : value.Consistent
    · obtain ⟨e, he, hvaries⟩ := ih' fun h => hd ⟨hvalue, h⟩
      exact ⟨e, List.mem_cons_of_mem _ he, hvaries⟩
    · exact ⟨⟨before, key, beforeColon, afterColon, value, after⟩, List.mem_cons_self, ih hvalue⟩

end Meaning

/-- The whitespace around the value may change as well. -/
def Document.Rearranged {S : Type} {lex : Lexicon S} (doc doc' : Document lex) : Prop :=
  Json.Rearranged doc.root doc'.root

end Json
