import ScriptLex.Token.PrefixTable
import ScriptLex.Unicode.Numeric

/-!
# Reading words through a prefix table

A word starts with a letter and runs on over letters and characters with a numeric value. The
reader decides whether a word is reserved without collecting it first. It walks the prefix table:
while the prefix read so far is ambiguous and names no word, it takes one more character, as long
as the longer prefix is still a key or still ambiguous. When the prefix names a word, the rest of
that word's spelling is matched character by character, each matching character being taken. The
word is reserved if all its letters matched and no word character follows. Otherwise the
characters taken so far begin an identifier, which runs on over word characters from wherever
matching stopped.

## Main definitions

* `Scan.takeMatching`: take the characters of an expected text while they match.
* `Scan.extendPrefix`: walk the ambiguous prefixes of a table.
* `Scan.finishWord`: match the rest of the word that a prefix names.
* `Scan.readWord`: read one word, and say which reserved word it is, if any.
* `Scan.readWholeWord`: the plain rule that the walk keeps: collect the whole word, then look it
  up among the spellings.
-/

namespace ScriptLex.Scan

open ScriptLex.Unicode

variable {α : Type}

/-- Takes the characters of `expected` from the front of `input` while they match: whether all
matched, the characters taken, and the rest of the input. -/
def takeMatching : List Char → List Char → Bool × List Char × List Char
  | [], input => (true, [], input)
  | _ :: _, [] => (false, [], [])
  | e :: es, c :: cs =>
    if c = e then
      let (ok, taken, rest) := takeMatching es cs
      (ok, c :: taken, rest)
    else (false, [], c :: cs)

/-- The characters that follow the prefix `p` through the table's ambiguous prefixes: while `p`
names no word and is ambiguous, the next character is taken if the longer prefix is a key or is
still ambiguous. Returns the characters taken and the rest of the input. -/
def extendPrefix (t : PrefixTable α) (p : List Char) : List Char → List Char × List Char
  | [] => ([], [])
  | c :: cs =>
    if (t.find? p).isNone && t.isAmbiguous p &&
        ((t.find? (p ++ [c])).isSome || t.isAmbiguous (p ++ [c])) then
      let (more, rest) := extendPrefix t (p ++ [c]) cs
      (c :: more, rest)
    else ([], c :: cs)

/-- Finishes a word whose prefix `pre` has been read through the table. If `pre` names a word,
the rest of its spelling is matched against the input; the word is that reserved word if all of
it matched and no word character follows. Otherwise the word is an identifier that runs on over
word characters from where matching stopped. -/
def finishWord (spell : α → List Char) (t : PrefixTable α) (pre input : List Char) :
    Option α × List Char × List Char :=
  match t.find? pre with
  | some w =>
    let m := takeMatching ((spell w).drop pre.length) input
    if m.1 && !(m.2.2.head?.any isAlnum) then (some w, pre ++ m.2.1, m.2.2)
    else (none, pre ++ m.2.1 ++ m.2.2.takeWhile isAlnum, m.2.2.dropWhile isAlnum)
  | none => (none, pre ++ input.takeWhile isAlnum, input.dropWhile isAlnum)

/-- Reads the word that starts with `first`, the rest of the input being `input`. Returns the
reserved word it is, if any, the characters of the word, `first` included, and the rest. -/
def readWord (spell : α → List Char) (t : PrefixTable α) (first : Char) (input : List Char) :
    Option α × List Char × List Char :=
  let e := extendPrefix t [first] input
  finishWord spell t (first :: e.1) e.2

/-- Reads a whole word first and looks it up afterwards: the word is `first` and the word
characters after it; it is reserved if it is the spelling of a listed word. -/
def readWholeWord (spell : α → List Char) (ws : List α) (first : Char) (input : List Char) :
    Option α × List Char × List Char :=
  let word := first :: input.takeWhile isAlnum
  (ws.find? fun w => spell w == word, word, input.dropWhile isAlnum)

end ScriptLex.Scan
