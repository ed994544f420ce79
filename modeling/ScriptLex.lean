import ScriptLex.Unicode.Letter
import ScriptLex.Unicode.Numeric
import ScriptLex.Unicode.Printable
import ScriptLex.Text
import ScriptLex.Token.Keyword
import ScriptLex.Token.Basic
import ScriptLex.Token.PrefixTable
import ScriptLex.Scan.Config
import ScriptLex.Scan.Word
import ScriptLex.Scan.Lexeme
import ScriptLex.Scan.Scanner
import ScriptLex.Scan.Reference
import ScriptLex.Source.Index
import ScriptLex.Diagnostic.Basic
import ScriptLex.Diagnostic.Lexical
import ScriptLex.Token.Stream
import ScriptLex.Proofs.ScannerCursor
import ScriptLex.Proofs.PrefixTable
import ScriptLex.Proofs.ShortestKeys
import ScriptLex.Proofs.WordReading
import ScriptLex.Proofs.ScanRules
import ScriptLex.Proofs.Separators
import ScriptLex.Proofs.IndexPlaces
import ScriptLex.Proofs.OffsetLookups
import ScriptLex.Proofs.LexicalDiagnostics
import ScriptLex.Proofs.DiagnosticFailures
import ScriptLex.Proofs.StreamCursor
