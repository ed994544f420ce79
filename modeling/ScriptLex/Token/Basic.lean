import ScriptLex.Token.Keyword

/-!
# Tokens

A token is a classified lexeme: the byte offset of its first character in the source text and
its kind. The kind is a lexical class (`Kind`) or, for a reserved word, the word itself. Every
reserved word has the tag `Kind.keyword`; a token whose kind is that bare tag can be written down
and read back, though scanning never makes one.
-/

namespace ScriptLex

inductive Kind where
  | leftParen | rightParen | leftBrace | rightBrace | comma | dot | semicolon
  | minus | plus | slash | star
  | equalEqual | equal | greaterEqual | greater | lessEqual | less | bangEqual | bang
  | number | string | identifier | keyword | comment | error
  deriving DecidableEq, Repr, Inhabited

namespace Kind

def all : List Kind :=
  [leftParen, rightParen, leftBrace, rightBrace, comma, dot, semicolon, minus, plus, slash, star,
   equalEqual, equal, greaterEqual, greater, lessEqual, less, bangEqual, bang,
   number, string, identifier, keyword, comment, error]

def name : Kind → String
  | leftParen => "LEFT_PAREN" | rightParen => "RIGHT_PAREN"
  | leftBrace => "LEFT_BRACE" | rightBrace => "RIGHT_BRACE"
  | comma => "COMMA" | dot => "DOT" | semicolon => "SEMICOLON"
  | minus => "MINUS" | plus => "PLUS" | slash => "SLASH" | star => "STAR"
  | equalEqual => "EQUAL_EQUAL" | equal => "EQUAL"
  | greaterEqual => "GREATER_EQUAL" | greater => "GREATER"
  | lessEqual => "LESS_EQUAL" | less => "LESS"
  | bangEqual => "BANG_EQUAL" | bang => "BANG"
  | number => "NUMBER" | string => "STRING" | identifier => "IDENTIFIER"
  | keyword => "KEYWORD" | comment => "COMMENT" | error => "ERROR"

def ofName? (s : String) : Option Kind := all.find? (·.name == s)

end Kind

/-- What a token is: a lexical class, or a reserved word. -/
inductive TokenKind where
  | plain (k : Kind)
  | reserved (w : Keyword)
  deriving DecidableEq, Repr, Inhabited

namespace TokenKind

/-- The lexical class: `Kind.keyword` for every reserved word. -/
def tag : TokenKind → Kind
  | plain k => k
  | reserved _ => .keyword

def name : TokenKind → String
  | plain k => k.name
  | reserved w => w.name

/-- The kind with this name. Class names and reserved-word names do not overlap. -/
def ofName? (s : String) : Option TokenKind :=
  match Kind.ofName? s with
  | some k => some (plain k)
  | none => (Keyword.ofName? s).map reserved

/-- How a message names the kind: a reserved word as `keyword 'w'`, a class by its name. -/
def describe : TokenKind → String
  | plain k => k.name
  | reserved w => s!"keyword '{w.spelling}'"

def keyword? : TokenKind → Option Keyword
  | plain _ => none
  | reserved w => some w

end TokenKind

/-- A classified lexeme: the byte offset of its first character, and what kind it is. -/
structure Token where
  position : Int
  kind : TokenKind
  deriving DecidableEq, Repr, Inhabited

namespace Token

def tag (t : Token) : Kind := t.kind.tag

def keyword? (t : Token) : Option Keyword := t.kind.keyword?

def isKeyword (t : Token) : Bool := t.keyword?.isSome

def isLiteral (t : Token) : Bool := t.kind == .plain .number || t.kind == .plain .string

def isError (t : Token) : Bool := t.kind == .plain .error

/-- The short form of a token: its kind's name, `@`, and its offset. -/
def label (t : Token) : String := s!"{t.kind.name}@{t.position}"

end Token

end ScriptLex
