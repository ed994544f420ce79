import ScriptLex.Diagnostic.Basic
import ScriptLex.Scan.Scanner

/-!
# Lexical diagnostics

An error token does not say why it is one; the text it was scanned from does. A quote at the
token's offset means a string left open, any other character one that starts no token. A strict
scan returns the tokens of a text that has no error token, and otherwise the diagnostic of the
first one.
-/

namespace ScriptLex

/-- Why the scanner made an error token. -/
inductive LexicalCause
  | unrecognizedCharacter
  | unterminatedString
  deriving DecidableEq, Repr

namespace LexicalCause

def name : LexicalCause → String
  | .unrecognizedCharacter => "UNRECOGNIZED_CHARACTER"
  | .unterminatedString => "UNTERMINATED_STRING"

def code : LexicalCause → String
  | .unrecognizedCharacter => "L001"
  | .unterminatedString => "L002"

end LexicalCause

/-- Why a token cannot be explained: it is no error token, or its offset does not fit the text. -/
inductive DiagnoseError
  | notErrorToken (t : Token)
  | badOffset (e : OffsetError)
  deriving DecidableEq, Repr

def DiagnoseError.message : DiagnoseError → String
  | .notErrorToken t => "Token " ++ t.label ++ " is not an error token"
  | .badOffset e => e.message

namespace SourceIndex

/-- Why the scanner made the error token `t`, judged from the character at its offset. -/
def classify (ix : SourceIndex) (t : Token) : Except DiagnoseError LexicalCause :=
  if t.isError then
    match ix.charAt t.position with
    | .ok c => .ok (if c = '"' then .unterminatedString else .unrecognizedCharacter)
    | .error e => .error (.badOffset e)
  else .error (.notErrorToken t)

/-- The diagnostic of the error token `t`: its cause, then its location, then, for a character
that starts no token, that character. -/
def diagnose (ix : SourceIndex) (filename : String) (t : Token) :
    Except DiagnoseError Diagnostic := do
  let cause ← ix.classify t
  let location ← (ix.locate filename t.position).mapError .badOffset
  match cause with
  | .unterminatedString => pure ⟨.unterminatedString, location⟩
  | .unrecognizedCharacter =>
    let c ← (ix.charAt t.position).mapError .badOffset
    pure ⟨.invalidCharacter c, location⟩

/-- The diagnostics of the error tokens among `ts`, in order; the first that fails makes the
whole answer that failure. -/
def diagnostics (ix : SourceIndex) (filename : String) (ts : List Token) :
    Except DiagnoseError (List Diagnostic) :=
  (ts.filter Token.isError).mapM (ix.diagnose filename)

end SourceIndex

/-- Why a strict scan returns no tokens: the first error token's diagnostic, or why it has
none. -/
inductive StrictScanError
  | lexical (d : Diagnostic)
  | undiagnosed (e : DiagnoseError)
  deriving DecidableEq, Repr

namespace Scan

/-- The tokens of a text that scans without an error token; otherwise the diagnostic of the first
error token, located in the text reported as `filename`. -/
def tokensStrict (cfg : ScanConfig) (filename : String) (s : String) :
    Except StrictScanError (List Token) :=
  let ts := tokens cfg s
  match ts.find? Token.isError with
  | none => .ok ts
  | some t =>
    match (SourceIndex.ofString s).diagnose filename t with
    | .ok d => .error (.lexical d)
    | .error e => .error (.undiagnosed e)

end Scan

end ScriptLex
