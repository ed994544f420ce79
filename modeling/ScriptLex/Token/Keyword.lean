/-!
# Reserved words

The sixteen reserved words of the language. Each has a spelling, the lower-case word in source
text, and a name, the upper-case form in which tokens are reported.
-/

namespace ScriptLex

/-- A reserved word of the language. -/
inductive Keyword where
  | kwAnd | kwOr | kwTrue | kwFalse | kwIf | kwElse | kwFor | kwWhile
  | kwClass | kwNil | kwSuper | kwThis | kwVar | kwFunction | kwPrint | kwReturn
  deriving DecidableEq, Repr, Inhabited

namespace Keyword

/-- Every reserved word, in the order in which the language lists them. -/
def all : List Keyword :=
  [kwAnd, kwOr, kwTrue, kwFalse, kwIf, kwElse, kwFor, kwWhile,
   kwClass, kwNil, kwSuper, kwThis, kwVar, kwFunction, kwPrint, kwReturn]

/-- How the word is written in source text. -/
def spelling : Keyword → String
  | kwAnd => "and" | kwOr => "or" | kwTrue => "true" | kwFalse => "false"
  | kwIf => "if" | kwElse => "else" | kwFor => "for" | kwWhile => "while"
  | kwClass => "class" | kwNil => "nil" | kwSuper => "super" | kwThis => "this"
  | kwVar => "var" | kwFunction => "function" | kwPrint => "print" | kwReturn => "return"

/-- The name under which a token of this word is reported: its spelling in upper case. -/
def name (k : Keyword) : String := k.spelling.toUpper

/-- The reserved word with this name, if there is one. -/
def ofName? (s : String) : Option Keyword := all.find? (·.name == s)

theorem mem_all (k : Keyword) : k ∈ all := by
  cases k <;> simp [all]

end Keyword

end ScriptLex
