import ScriptLex.Text

/-!
# Scan configuration

The one dialect switch of the scanner is the comment marker: `//`, the default, or `#`. A
configuration is read from a table of named settings, in which `comment_style` is the only name
known. Reading checks the names first: all unknown names are reported at once, in sorted order.
Then the value of `comment_style` must be one of the two markers as text.
-/

namespace ScriptLex

/-- The marker that starts a comment, which runs to the end of its line. -/
inductive CommentStyle where
  | slashSlash
  | hash
  deriving DecidableEq, Repr, Inhabited

namespace CommentStyle

def spelling : CommentStyle → String
  | slashSlash => "//"
  | hash => "#"

def marker (d : CommentStyle) : List Char := d.spelling.toList

def ofSpelling? (s : String) : Option CommentStyle :=
  if s = "//" then some slashSlash else if s = "#" then some hash else none

end CommentStyle

structure ScanConfig where
  commentStyle : CommentStyle := .slashSlash
  deriving DecidableEq, Repr, Inhabited

/-- A setting's value as it is given: nothing, a truth value, an integer, a text, a list of
values, or a table of named values. -/
inductive ConfigValue where
  | none
  | bool (b : Bool)
  | int (n : Int)
  | text (s : String)
  | list (vs : List ConfigValue)
  | table (entries : List (String × ConfigValue))
  deriving Repr

mutual

/-- How a message writes a value: `None`, `True`, `False`, a decimal integer, a quoted text, a
list in square brackets and a table in braces, each with its items separated by `, `. -/
def ConfigValue.literal : ConfigValue → String
  | .none => "None"
  | .bool true => "True"
  | .bool false => "False"
  | .int n => toString n
  | .text s => Text.quote s
  | .list vs => "[" ++ ", ".intercalate (ConfigValue.itemLiterals vs) ++ "]"
  | .table kvs => "\x7b" ++ ", ".intercalate (ConfigValue.entryLiterals kvs) ++ "\x7d"

def ConfigValue.itemLiterals : List ConfigValue → List String
  | [] => []
  | v :: vs => v.literal :: ConfigValue.itemLiterals vs

def ConfigValue.entryLiterals : List (String × ConfigValue) → List String
  | [] => []
  | (k, v) :: kvs => (Text.quote k ++ ": " ++ v.literal) :: ConfigValue.entryLiterals kvs

end

/-- Why a table of settings is no configuration: settings of unknown names, listed sorted, or a
value of `comment_style` that is neither marker. -/
inductive ConfigError where
  | unknownKeys (names : List String)
  | invalidCommentStyle (v : ConfigValue)
  deriving Repr

def ConfigError.message : ConfigError → String
  | .unknownKeys names => "Unknown scan config keys: " ++ ", ".intercalate names
  | .invalidCommentStyle v => v.literal ++ " is not a valid CommentStyle"

namespace ScanConfig

def knownKeys : List String := ["comment_style"]

def styleOf? : ConfigValue → Option CommentStyle
  | .text s => CommentStyle.ofSpelling? s
  | _ => none

/-- Reads a configuration from named settings; an unset setting keeps its default. -/
def ofSettings (settings : List (String × ConfigValue)) : Except ConfigError ScanConfig :=
  let unknown := (settings.map (·.1)).filter (· ∉ knownKeys) |>.eraseDups
  if unknown ≠ [] then
    .error (.unknownKeys (unknown.mergeSort fun a b => decide (a ≤ b)))
  else
    match settings.lookup "comment_style" with
    | none => .ok {}
    | some v =>
      match styleOf? v with
      | some d => .ok { commentStyle := d }
      | none => .error (.invalidCommentStyle v)

end ScanConfig

end ScriptLex
