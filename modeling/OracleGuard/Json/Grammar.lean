import OracleGuard.Json.Tree
import OracleGuard.Wire.Codec

/-!
The grammar of JSON documents, and the value of a document. How string literals
are written and how a number is rounded to a float are the parameters of a
`Lexicon`.

* `numberOf`: the number of a token, with the integers apart from the floats.
* `Doc.denote`: the value of a document; a repeated name keeps its last value.
* `Doc.sorted_denote` and `Doc.depth_denote_le`: the value is sorted, and nested no
  deeper than the document.
-/

namespace Json

open Wire

structure Lexicon (S : Type) where
  string : Codec S
  float : Bytes → Option UInt64

/-! ## Bytes and numbers -/

def NULL : Bytes := [0x6e, 0x75, 0x6c, 0x6c]

def TRUE : Bytes := [0x74, 0x72, 0x75, 0x65]

def FALSE : Bytes := [0x66, 0x61, 0x6c, 0x73, 0x65]

def QUOTE : UInt8 := 0x22

def LBRACKET : UInt8 := 0x5b

def RBRACKET : UInt8 := 0x5d

def LBRACE : UInt8 := 0x7b

def RBRACE : UInt8 := 0x7d

def COMMA : UInt8 := 0x2c

def COLON : UInt8 := 0x3a

def MINUS : UInt8 := 0x2d

def POINT : UInt8 := 0x2e

def ZERO : UInt8 := 0x30

def isSpace (b : UInt8) : Bool := b = 0x20 || b = 0x09 || b = 0x0a || b = 0x0d

def isDigit (b : UInt8) : Bool := ZERO ≤ b && b ≤ 0x39

def isExponent (b : UInt8) : Bool := b = 0x65 || b = 0x45

def isSign (b : UInt8) : Bool := b = 0x2b || b = MINUS

/-- The bytes that a number is made of. -/
def isNumberByte (b : UInt8) : Bool := isDigit b || isExponent b || isSign b || b = POINT

def digitsValue (digits : Bytes) : Nat :=
  digits.foldl (fun n b => 10 * n + (b.toNat - ZERO.toNat)) 0

def isDigits (digits : Bytes) : Bool := !digits.isEmpty && digits.all isDigit

/-- No leading zeros. -/
def isInteger (digits : Bytes) : Bool :=
  isDigits digits && (digits = [ZERO] || digits.head? ≠ some ZERO)

/-- An exponent, or nothing. -/
def exponentEnds : Bytes → Bool
  | [] => true
  | e :: rest =>
    isExponent e &&
      match rest with
      | [] => false
      | sign :: digits => if isSign sign then isDigits digits else isDigits rest

/-- A fraction and an exponent, each of which may be missing. -/
def fractionEnds : Bytes → Bool
  | [] => true
  | b :: rest =>
    if b = POINT then
      isDigits (rest.takeWhile isDigit) && exponentEnds (rest.dropWhile isDigit)
    else exponentEnds (b :: rest)

/-- An integer that fits is one, and minus zero is a float. -/
def integerOf (negative : Bool) (n : Nat) : Option Number :=
  if negative then
    if h : 0 < n ∧ n ≤ 2 ^ 63 then some (.negInt (-n) (by omega) (by unfold INT_MIN; omega))
    else none
  else if n < 2 ^ 64 then some (.posInt (UInt64.ofNat n)) else none

def unsignedOf (float : Option UInt64) (negative : Bool) (token : Bytes) : Option Number :=
  let digits := token.takeWhile isDigit
  let rest := token.dropWhile isDigit
  if isInteger digits && fractionEnds rest then
    match rest, integerOf negative (digitsValue digits) with
    | [], some n => some n
    | _, _ => float.map .float
  else none

def numberOf (float : Bytes → Option UInt64) (token : Bytes) : Option Number :=
  match token with
  | [] => none
  | b :: rest =>
    if b = MINUS then unsignedOf (float token) true rest else unsignedOf (float token) false token

/-! ## Tokens -/

/-- Insignificant whitespace. -/
structure Gap where
  text : Bytes
  blank : ∀ b ∈ text, isSpace b

def Gap.empty : Gap := ⟨[], nofun⟩

@[simp] theorem Gap.text_empty : Gap.empty.text = [] := rfl

structure NumberToken {S : Type} (lex : Lexicon S) where
  text : Bytes
  value : Number
  number : numberOf lex.float text = some value
  run : ∀ b ∈ text, isNumberByte b

/-- A string literal, quotes included. -/
structure Literal {S : Type} (lex : Lexicon S) where
  text : Bytes
  value : S
  reads : ∀ rest, lex.string.decode (text ++ rest) = some (value, rest)

/-! ## Documents -/

inductive Doc {S : Type} (lex : Lexicon S) : Kind → Type
  | null : Doc lex .value
  | bool (b : Bool) : Doc lex .value
  | number (token : NumberToken lex) : Doc lex .value
  | string (literal : Literal lex) : Doc lex .value
  | array (gap : Gap) (items : Doc lex .items) : Doc lex .value
  | object (gap : Gap) (members : Doc lex .members) : Doc lex .value
  | nil : Doc lex .items
  | cons (before : Gap) (value : Doc lex .value) (after : Gap) (rest : Doc lex .items) :
      Doc lex .items
  | empty : Doc lex .members
  | entry (before : Gap) (key : Literal lex) (beforeColon afterColon : Gap)
      (value : Doc lex .value) (after : Gap) (rest : Doc lex .members) : Doc lex .members

abbrev Meaning (S : Type) : Kind → Type
  | .value => Tree S .value
  | .items => List (Tree S .value)
  | .members => List (S × Tree S .value)

def Tree.meaning {S : Type} : {k : Kind} → Tree S k → Meaning S k
  | .value, value => value
  | .items, items => items.items
  | .members, members => members.members

def Meaning.tree {S : Type} : {k : Kind} → Meaning S k → Tree S k
  | .value, value => value
  | .items, items => Tree.ofItems items
  | .members, members => Tree.ofMembers members

/-- A property of all the values that are meant. -/
def Meaning.All {S : Type} (P : Tree S .value → Prop) : {k : Kind} → Meaning S k → Prop
  | .value, value => P value
  | .items, items => ∀ value ∈ items, P value
  | .members, members => ∀ p ∈ members, P p.2

namespace Doc

variable {S : Type} {lex : Lexicon S}

/-- The comma in front of what is left of a list. -/
def comma : {k : Kind} → Doc lex k → Bytes
  | _, cons _ _ _ _ => [COMMA]
  | _, entry _ _ _ _ _ _ _ => [COMMA]
  | _, _ => []

def text : {k : Kind} → Doc lex k → Bytes
  | _, null => NULL
  | _, bool b => if b then TRUE else FALSE
  | _, number token => token.text
  | _, string literal => literal.text
  | _, array gap items => LBRACKET :: (gap.text ++ (items.text ++ [RBRACKET]))
  | _, object gap members => LBRACE :: (gap.text ++ (members.text ++ [RBRACE]))
  | _, nil => []
  | _, cons before value after rest =>
    before.text ++ (value.text ++ (after.text ++ (rest.comma ++ rest.text)))
  | _, empty => []
  | _, entry before key beforeColon afterColon value after rest =>
    before.text ++ (key.text ++ (beforeColon.text ++ (COLON :: (afterColon.text ++
      (value.text ++ (after.text ++ (rest.comma ++ rest.text)))))))

def depth : {k : Kind} → Doc lex k → Nat
  | _, array _ items => items.depth + 1
  | _, object _ members => members.depth + 1
  | _, cons _ value _ rest => max value.depth rest.depth
  | _, entry _ _ _ _ value _ rest => max value.depth rest.depth
  | _, _ => 0

variable [LinearOrder S]

/-- The members of an object are inserted one after the other. -/
def denote : {k : Kind} → Doc lex k → Meaning S k
  | _, null => Tree.null
  | _, bool b => Tree.bool b
  | _, number token => Tree.number token.value
  | _, string literal => Tree.string literal.value
  | _, array _ items => Tree.array (Tree.ofItems items.denote)
  | _, object _ members => Tree.object (Tree.ofMembers (SortedMap.build members.denote))
  | _, nil => []
  | _, cons _ value _ rest => value.denote :: rest.denote
  | _, empty => []
  | _, entry _ key _ _ value _ rest => (key.value, value.denote) :: rest.denote

theorem sorted_denote {k : Kind} (d : Doc lex k) : Meaning.All Tree.Sorted d.denote := by
  induction d with
  | null | bool _ | number _ | string _ => trivial
  | array _ items ih => exact Tree.sorted_ofItems ih
  | object _ members ih =>
    exact Tree.sorted_ofMembers (SortedMap.sorted_build _) fun p hp =>
      ih p (SortedMap.mem_of_mem_build hp)
  | nil => exact fun _ h => absurd h List.not_mem_nil
  | cons _ value _ rest ih ih' => exact List.forall_mem_cons.mpr ⟨ih, ih'⟩
  | empty => exact fun _ h => absurd h List.not_mem_nil
  | entry _ key _ _ value _ rest ih ih' => exact List.forall_mem_cons.mpr ⟨ih, ih'⟩

theorem depth_denote_le {k : Kind} (d : Doc lex k) :
    Meaning.All (fun value => value.depth ≤ d.depth) d.denote := by
  induction d with
  | null | bool _ | number _ | string _ => exact Nat.le_refl 0
  | array _ items ih => exact Nat.succ_le_succ (Tree.depth_ofItems_le ih)
  | object _ members ih =>
    exact Nat.succ_le_succ (Tree.depth_ofMembers_le fun p hp =>
      ih p (SortedMap.mem_of_mem_build hp))
  | nil => exact fun _ h => absurd h List.not_mem_nil
  | cons _ value _ rest ih ih' =>
    exact List.forall_mem_cons.mpr ⟨Nat.le_trans ih (Nat.le_max_left _ _),
      fun t ht => Nat.le_trans (ih' t ht) (Nat.le_max_right _ _)⟩
  | empty => exact fun _ h => absurd h List.not_mem_nil
  | entry _ key _ _ value _ rest ih ih' =>
    exact List.forall_mem_cons.mpr ⟨Nat.le_trans ih (Nat.le_max_left _ _),
      fun p hp => Nat.le_trans (ih' p hp) (Nat.le_max_right _ _)⟩

end Doc

/-- A value between whitespace. -/
structure Document {S : Type} (lex : Lexicon S) where
  before : Gap
  root : Doc lex .value
  after : Gap

namespace Document

variable {S : Type} {lex : Lexicon S}

def text (doc : Document lex) : Bytes := doc.before.text ++ (doc.root.text ++ doc.after.text)

def depth (doc : Document lex) : Nat := doc.root.depth

def value [LinearOrder S] (doc : Document lex) : Value S :=
  ⟨doc.root.denote, doc.root.sorted_denote⟩

end Document

end Json
