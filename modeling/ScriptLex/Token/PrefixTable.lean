/-!
# Tables of identifying prefixes

A set of words is recognised one character at a time through a table of prefixes. A prefix
identifies a word when no other word of the set starts with it; each word is keyed by its
shortest identifying prefix. A prefix that several words share is ambiguous: a reader that has
seen only an ambiguous prefix must look at more characters before it can choose a word.

The table is built for any type of words with a spelling, so that the same reading works for
any vocabulary. A word that is a prefix of another word, or that is spelt empty, has no
identifying prefix; building a table for a list that holds one fails with the first such word.

## Main definitions

* `PrefixTable.ofWords?`: the table of a list of words, or the first word with no identifying
  prefix.
* `PrefixTable.find?`: the word that a prefix identifies.
* `PrefixTable.ambiguous`: the proper prefixes of the keys.
-/

namespace ScriptLex

/-- Keys that identify words, and the prefixes that need more characters before a word is chosen. -/
structure PrefixTable (α : Type) where
  /-- Each word's shortest identifying prefix with the word, ordered by prefix. -/
  keys : List (List Char × α)
  /-- The proper, non-empty prefixes of the keys. -/
  ambiguous : List (List Char)

namespace PrefixTable

variable {α : Type}

/-- Whether any word of `ws` other than `w` starts with `p`. -/
def sharedBy [DecidableEq α] (spell : α → List Char) (ws : List α) (w : α) (p : List Char) : Bool :=
  ws.any fun w' => w' != w && p.isPrefixOf (spell w')

/-- The shortest non-empty prefix of `w`'s spelling that no other word of `ws` starts with. -/
def identifyingPrefix? [DecidableEq α] (spell : α → List Char) (ws : List α) (w : α) :
    Option (List Char) :=
  ((List.range (spell w).length).map fun n => (spell w).take (n + 1)).find?
    fun p => !sharedBy spell ws w p

/-- Lexicographic order of prefixes, by code point. -/
def prefixLe : List Char → List Char → Bool
  | [], _ => true
  | _ :: _, [] => false
  | a :: as, b :: bs => a < b || (a == b && prefixLe as bs)

/-- The proper, non-empty prefixes of `p`. -/
def properPrefixes (p : List Char) : List (List Char) :=
  (List.range (p.length - 1)).map fun n => p.take (n + 1)

/-- The table of the words of `ws` that have an identifying prefix, keyed by the shortest one. -/
def ofWords [DecidableEq α] (spell : α → List Char) (ws : List α) : PrefixTable α :=
  let entries := ws.filterMap fun w => (identifyingPrefix? spell ws w).map (·, w)
  let keys := (entries.foldl (fun acc e => if acc.any (·.1 == e.1) then acc else acc ++ [e]) []).mergeSort
    fun a b => prefixLe a.1 b.1
  { keys, ambiguous := keys.flatMap fun e => properPrefixes e.1 }

/-- The table of `ws`, or the first word of `ws` that has no identifying prefix. -/
def ofWords? [DecidableEq α] (spell : α → List Char) (ws : List α) : Except α (PrefixTable α) :=
  match ws.find? fun w => (identifyingPrefix? spell ws w).isNone with
  | some w => .error w
  | none => .ok (ofWords spell ws)

/-- The word that the prefix `p` identifies, if `p` is a key. -/
def find? (t : PrefixTable α) (p : List Char) : Option α := t.keys.lookup p

/-- Whether the prefix `p` is ambiguous: a proper prefix of a key. -/
def isAmbiguous (t : PrefixTable α) (p : List Char) : Bool := t.ambiguous.contains p

end PrefixTable

end ScriptLex
