import FieldMap.Guard

/-!
The syntax of guards: disjunctions of conjunctions of lone operands and comparisons, as trees, and
the texts that write a tree down. Between any two words of a text stands white space of any kind and
length, and both connectives have two spellings.
-/

namespace FieldMap.Guard

structure ReferenceText where
  chars : List Char
  solid : ∀ c ∈ chars, Text.isBlank c = false
  external : (Reference.parse (String.ofList chars)).isExternal = true

namespace ReferenceText

def reference (r : ReferenceText) : Reference := .parse (String.ofList r.chars)

end ReferenceText

inductive Sign where
  | none
  | plus
  | minus
  deriving DecidableEq, Repr

namespace Sign

def chars : Sign → List Char
  | none => []
  | plus => ['+']
  | minus => ['-']

end Sign

structure WholeNumber where
  sign : Sign
  digits : List Char
  nonempty : digits ≠ []
  decimal : ∀ c ∈ digits, Text.isDecimal c = true
  short : digits.length ≤ Number.digitLimit

namespace WholeNumber

def chars (n : WholeNumber) : List Char := n.sign.chars ++ n.digits

def value (n : WholeNumber) : Int :=
  if n.sign = .minus then -(Number.ofDigits n.digits : Int) else Number.ofDigits n.digits

end WholeNumber

structure QuotedText where
  quote : Char
  content : List Char
  isQuote : quote = '\'' ∨ quote = '"'
  free : quote ∉ content

namespace QuotedText

def chars (q : QuotedText) : List Char := q.quote :: q.content ++ [q.quote]

end QuotedText

inductive Operand where
  | reference (r : ReferenceText)
  | truth (b : Bool)
  | null
  | undefined
  | number (n : WholeNumber)
  | quoted (q : QuotedText)

namespace Operand

def chars : Operand → List Char
  | reference r => r.chars
  | truth b => (if b then "true" else "false").toList
  | null => "null".toList
  | undefined => "undefined".toList
  | number n => n.chars
  | quoted q => q.chars

@[simp] theorem chars_reference (r : ReferenceText) : (reference r).chars = r.chars := rfl

@[simp] theorem chars_number (n : WholeNumber) : (number n).chars = n.chars := rfl

@[simp] theorem chars_quoted (q : QuotedText) : (quoted q).chars = q.chars := rfl

def value (env : Reference → Value) : Operand → Value
  | reference r => env r.reference
  | truth b => .bool b
  | null => .null
  | undefined => .undefined
  | number n => .int n.value
  | quoted q => .text (String.ofList q.content)

end Operand

inductive Symbol where
  | equal
  | strictlyEqual
  | unequal
  | strictlyUnequal
  | order (test : OrderTest)
  deriving DecidableEq, Repr

namespace Symbol

def text : Symbol → String
  | equal => "=="
  | strictlyEqual => "==="
  | unequal => "!="
  | strictlyUnequal => "!=="
  | order test => test.symbol

def comparison : Symbol → Comparison
  | equal | strictlyEqual => .equal
  | unequal | strictlyUnequal => .unequal
  | order test => .order test

end Symbol

inductive Test where
  | lone (a : Operand)
  | compared (a : Operand) (symbol : Symbol) (b : Operand)

inductive Spelling where
  | sign
  | word
  deriving DecidableEq, Repr

structure Joined (α : Type) where
  first : α
  others : List (Spelling × α)

namespace Joined

variable {α : Type}

def items (joined : Joined α) : List α := joined.first :: joined.others.map Prod.snd

end Joined

abbrev Conjunction := Joined Test

abbrev Tree := Joined Conjunction

inductive Lexeme where
  | operand (a : Operand)
  | symbol (s : Symbol)
  | conjunction (spelling : Spelling)
  | disjunction (spelling : Spelling)

namespace Lexeme

def chars : Lexeme → List Char
  | operand a => a.chars
  | symbol s => s.text.toList
  | conjunction .sign => "&&".toList
  | conjunction .word => "and".toList
  | disjunction .sign => "||".toList
  | disjunction .word => "or".toList

def part (env : Reference → Value) : Lexeme → Part
  | operand a => .operand (a.value env)
  | symbol s => .comparison s.text s.comparison
  | conjunction _ => .conjunction
  | disjunction _ => .disjunction

end Lexeme

namespace Test

def lexemes : Test → List Lexeme
  | lone a => [.operand a]
  | compared a symbol b => [.operand a, .symbol symbol, .operand b]

end Test

namespace Joined

variable {α : Type}

def lexemesWith (connective : Spelling → Lexeme) (lexemes : α → List Lexeme) (joined : Joined α) :
    List Lexeme :=
  lexemes joined.first ++
    joined.others.flatMap fun other => connective other.1 :: lexemes other.2

end Joined

namespace Conjunction

def lexemes (c : Conjunction) : List Lexeme := c.lexemesWith .conjunction Test.lexemes

end Conjunction

namespace Tree

def lexemes (tree : Tree) : List Lexeme := tree.lexemesWith .disjunction Conjunction.lexemes

end Tree

structure Gap where
  chars : List Char
  nonempty : chars ≠ []
  blank : ∀ c ∈ chars, Text.isBlank c = true

/-- Words with gaps between them; `gap n` stands before the last `n` words. -/
def spaced (gap : Nat → Gap) : List (List Char) → List Char
  | [] => []
  | [word] => word
  | word :: words => word ++ (gap words.length).chars ++ spaced gap words

namespace Tree

def text (tree : Tree) (gap : Nat → Gap) : String :=
  String.ofList (spaced gap (tree.lexemes.map Lexeme.chars))

end Tree

end FieldMap.Guard
