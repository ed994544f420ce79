import ScriptLex.Unicode.Printable

/-!
# Text: byte lengths, hexadecimal numerals and quoted literals

Offsets into a source text count bytes of its UTF-8 encoding: one to four per character. Messages
write numbers in base sixteen and show characters and texts as quoted literals.
-/

namespace ScriptLex.Text

open ScriptLex.Unicode

/-! ## Byte lengths -/

/-- The bytes a character takes in UTF-8, decided by its code point as the scanner's own table
does. -/
def utf8Width (c : Char) : Nat :=
  if c.toNat < 0x80 then 1 else if c.toNat < 0x800 then 2 else if c.toNat < 0x10000 then 3 else 4

theorem utf8Width_eq_utf8Size (c : Char) : utf8Width c = c.utf8Size := by
  have h : c.toNat = c.val.toNat := rfl
  simp only [utf8Width, Char.utf8Size, UInt32.le_iff_toNat_le, h, UInt32.toNat_ofNatLT]
  repeat' split
  all_goals omega

/-- The number of bytes that the characters take in UTF-8. -/
def byteLength : List Char → Nat
  | [] => 0
  | c :: cs => c.utf8Size + byteLength cs

@[simp] theorem byteLength_nil : byteLength [] = 0 := rfl

@[simp] theorem byteLength_cons (c : Char) (cs : List Char) :
    byteLength (c :: cs) = c.utf8Size + byteLength cs := rfl

@[simp] theorem byteLength_append (cs ds : List Char) :
    byteLength (cs ++ ds) = byteLength cs + byteLength ds := by
  induction cs with
  | nil => simp
  | cons c cs ih => simp only [List.cons_append, byteLength_cons, ih]; omega

/-! ## Hexadecimal numerals

Escapes use lower-case digits and code point labels upper-case ones, padded with zeros on the
left to a least number of digits. -/

def hexLower (width n : Nat) : String :=
  let ds := Nat.toDigits 16 n
  String.ofList (List.replicate (width - ds.length) '0' ++ ds)

def hexUpper (width n : Nat) : String :=
  String.ofList ((hexLower width n).toList.map Char.toUpper)

/-! ## Quoted literals

The quote is `'`, or `"` when the text holds a `'` and no `"`. Inside, the quote in use and the
backslash are escaped by a backslash, tab, line feed and carriage return by their letters, other
controls below U+0080 by `\xhh`, and characters beyond ASCII that are not printable by `\xhh`,
`\uhhhh` or `\Uhhhhhhhh`, whichever is the shortest form that holds the code point. -/

/-- How one character is written inside a literal quoted by `q`. -/
def escapeChar (q c : Char) : List Char :=
  if c = q ∨ c = '\\' then ['\\', c]
  else if c = '\t' then ['\\', 't']
  else if c = '\n' then ['\\', 'n']
  else if c = '\r' then ['\\', 'r']
  else if c.toNat < 0x20 ∨ c.toNat = 0x7F then '\\' :: 'x' :: (hexLower 2 c.toNat).toList
  else if c.toNat < 0x7F ∨ isPrintable c then [c]
  else if c.toNat ≤ 0xFF then '\\' :: 'x' :: (hexLower 2 c.toNat).toList
  else if c.toNat ≤ 0xFFFF then '\\' :: 'u' :: (hexLower 4 c.toNat).toList
  else '\\' :: 'U' :: (hexLower 8 c.toNat).toList

def quoteFor (cs : List Char) : Char :=
  if '\'' ∈ cs ∧ '"' ∉ cs then '"' else '\''

def quote (s : String) : String :=
  let q := quoteFor s.toList
  String.ofList (q :: s.toList.flatMap (escapeChar q) ++ [q])

end ScriptLex.Text
