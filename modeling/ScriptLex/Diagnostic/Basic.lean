import ScriptLex.Token.Basic
import ScriptLex.Source.Index
import ScriptLex.Text

/-!
# Diagnostics: located faults and their text

A fault has a code, a message, a help line and possibly suggestions; a diagnostic places it at a
location and renders as a few lines.
-/

namespace ScriptLex

/-- What a diagnostic reports: a character that starts no token, a string whose closing quote
never comes, a token of another kind than the expected one, or no token where one was expected. -/
inductive Fault
  | invalidCharacter (c : Char)
  | unterminatedString
  | unexpectedToken (expected : TokenKind) (found : Token)
  | unexpectedEnd (expected : TokenKind)
  deriving DecidableEq, Repr

namespace Fault

/-- `L` for lexical faults, `P` for faults found while reading tokens. -/
def code : Fault → String
  | .invalidCharacter _ => "L001"
  | .unterminatedString => "L002"
  | .unexpectedToken _ _ => "P001"
  | .unexpectedEnd _ => "P010"

/-- A character is shown quoted and escaped. -/
def message : Fault → String
  | .invalidCharacter c => "Invalid character: " ++ Text.quote (String.singleton c)
  | .unterminatedString => "Unterminated string literal"
  | .unexpectedToken e f => "Expected " ++ e.describe ++ ", found " ++ f.kind.describe
  | .unexpectedEnd e => "Unexpected end of input, expected " ++ e.describe

/-- A printable character is shown as it is, any other by its code point. -/
def help : Fault → String
  | .invalidCharacter c =>
    if Unicode.isPrintable c then "The character '" ++ String.singleton c ++ "' is not valid in source code."
    else "Non-printable character (Unicode: U+" ++ Text.hexUpper 4 c.toNat ++ ") is not allowed."
  | .unterminatedString => "String literals must be closed with a matching \" quote."
  | .unexpectedToken e f =>
    "The parser expected to see " ++ e.describe ++ " at this position, but found " ++
      f.kind.describe ++ " instead."
  | .unexpectedEnd e => "The parser reached the end of the input while expecting " ++ e.describe ++ "."

def suggestions : Fault → List String
  | .unterminatedString => ["Add a closing \" quote"]
  | .unexpectedEnd e => ["Add the missing " ++ e.describe]
  | _ => []

def token? : Fault → Option Token
  | .unexpectedToken _ t => some t
  | _ => none

end Fault

structure Diagnostic where
  fault : Fault
  location : Location
  deriving DecidableEq, Repr

namespace Diagnostic

/-- Every diagnostic is an error. -/
def severity (_ : Diagnostic) : String := "error"

def code (d : Diagnostic) : String := d.fault.code

def message (d : Diagnostic) : String := d.fault.message

def help (d : Diagnostic) : String := d.fault.help

def suggestions (d : Diagnostic) : List String := d.fault.suggestions

/-- The rendered text: a header line, the location line, a help line unless the help is empty,
and a block of suggestions unless there are none. Every line ends in a line feed. -/
def render (d : Diagnostic) : String :=
  let header := "ERROR[" ++ d.code ++ "]: " ++ d.message ++ "\n"
  let place := "  --> " ++ d.location.text ++ "\n"
  let helpLine := if d.help.isEmpty then "" else "  help: " ++ d.help ++ "\n"
  let block :=
    if d.suggestions.isEmpty then ""
    else "  suggestions:\n" ++ String.join (d.suggestions.map fun s => "    - " ++ s ++ "\n")
  header ++ place ++ helpLine ++ block

end Diagnostic

end ScriptLex
