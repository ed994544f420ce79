import ScriptLex.Scan.Config
import ScriptLex.Scan.Word
import ScriptLex.Token.Basic

/-!
# Reading one token

A token is read from input that starts with a character that is not blank. The first rule that
applies decides its kind and how far it reaches:

1. the comment marker starts a comment, which runs up to the next line feed, not including it;
2. each of `( ) { } , . ; + - * /` is a token of its own;
3. each of `= > < !` is doubled by a `=` that follows at once, and stands alone otherwise;
4. `"` starts a string, which runs through the next `"`; with no `"` after it, the rest of the
   input is one error token;
5. an ASCII digit starts a number, which runs over ASCII digits;
6. a letter starts a word, read through the prefix table of the reserved words;
7. any other character is an error token of one character.

Every rule takes at least the first character, and what a rule takes and what it leaves make up
the input again (`Scan.text_append_rest`).
-/

namespace ScriptLex

/-- One token read from the front of the input: its kind, the characters it took, and the rest. -/
structure Lexeme where
  /-- What the token is. -/
  kind : TokenKind
  /-- The characters of the token. -/
  text : List Char
  /-- The input after the token. -/
  rest : List Char

/-- The prefix table of the reserved words. -/
def Keyword.prefixTable : PrefixTable Keyword :=
  PrefixTable.ofWords (fun k => k.spelling.toList) Keyword.all

/-- The prefix table of the listed reserved words; fails with the first listed word that no prefix
identifies, one whose spelling begins another listed word's. -/
def Keyword.tableOf? (ks : List Keyword) : Except Keyword (PrefixTable Keyword) :=
  PrefixTable.ofWords? (fun k => k.spelling.toList) ks

/-- The text that reports a reserved word that no prefix identifies. -/
def Keyword.unidentifiedMessage (k : Keyword) : String :=
  "Keyword " ++ Text.quote k.spelling ++ " is a prefix of another keyword"

namespace Scan

/-- Blank characters separate tokens: space, tab, line feed and carriage return. -/
def isBlank (c : Char) : Bool := c == ' ' || c == '\t' || c == '\n' || c == '\r'

/-- The characters that are tokens on their own. -/
def singleKind? : Char → Option Kind
  | '(' => some .leftParen | ')' => some .rightParen
  | '{' => some .leftBrace | '}' => some .rightBrace
  | ',' => some .comma | '.' => some .dot | ';' => some .semicolon
  | '+' => some .plus | '-' => some .minus | '*' => some .star | '/' => some .slash
  | _ => none

/-- The operators that a following `=` doubles: the doubled kind and the kind alone. -/
def comparisonKinds? : Char → Option (Kind × Kind)
  | '=' => some (.equalEqual, .equal)
  | '>' => some (.greaterEqual, .greater)
  | '<' => some (.lessEqual, .less)
  | '!' => some (.bangEqual, .bang)
  | _ => none

/-- Reads a string whose opening quote has been taken: through the closing quote, or, with none,
the rest of the input as an error. -/
def readString (input : List Char) : Kind × List Char × List Char :=
  let body := input.takeWhile (· != '"')
  match input.dropWhile (· != '"') with
  | '"' :: rest => (.string, body ++ ['"'], rest)
  | rest => (.error, body, rest)

/-- Reads one token from `c :: cs` under the configuration `cfg`. -/
def read (cfg : ScanConfig) (c : Char) (cs : List Char) : Lexeme :=
  let marker := cfg.commentStyle.marker
  let m := takeMatching marker.tail cs
  if marker.head? = some c ∧ m.1 = true then
    ⟨.plain .comment, c :: m.2.1 ++ m.2.2.takeWhile (· != '\n'), m.2.2.dropWhile (· != '\n')⟩
  else match singleKind? c, comparisonKinds? c with
  | some k, _ => ⟨.plain k, [c], cs⟩
  | none, some (doubled, single) =>
    match cs with
    | '=' :: rest => ⟨.plain doubled, [c, '='], rest⟩
    | _ => ⟨.plain single, [c], cs⟩
  | none, none =>
    if c = '"' then
      let r := readString cs
      ⟨.plain r.1, c :: r.2.1, r.2.2⟩
    else if c.isDigit then
      ⟨.plain .number, c :: cs.takeWhile Char.isDigit, cs.dropWhile Char.isDigit⟩
    else if Unicode.isLetter c then
      let w := readWord (fun k => k.spelling.toList) Keyword.prefixTable c cs
      ⟨(w.1.map .reserved).getD (.plain .identifier), w.2.1, w.2.2⟩
    else ⟨.plain .error, [c], cs⟩

/-! ## Nothing is lost -/

theorem takeMatching_append (es cs : List Char) :
    (takeMatching es cs).2.1 ++ (takeMatching es cs).2.2 = cs := by
  induction es generalizing cs with
  | nil => simp [takeMatching]
  | cons e es ih =>
    cases cs with
    | nil => simp [takeMatching]
    | cons c cs =>
      simp only [takeMatching]
      split
      · simp [ih cs]
      · rfl

theorem extendPrefix_append {α : Type} (t : PrefixTable α) (p cs : List Char) :
    (extendPrefix t p cs).1 ++ (extendPrefix t p cs).2 = cs := by
  induction cs generalizing p with
  | nil => simp [extendPrefix]
  | cons c cs ih =>
    simp only [extendPrefix]
    split
    · simp [ih]
    · rfl

theorem finishWord_append {α : Type} (spell : α → List Char) (t : PrefixTable α)
    (pre input : List Char) :
    ∃ w, (finishWord spell t pre input).2.1 = pre ++ w ∧ w ++ (finishWord spell t pre input).2.2 = input := by
  unfold finishWord
  split
  · rename_i w _
    have hm := takeMatching_append ((spell w).drop pre.length) input
    dsimp only
    split
    · exact ⟨_, rfl, hm⟩
    · refine ⟨_, List.append_assoc .., ?_⟩
      rw [List.append_assoc, List.takeWhile_append_dropWhile, hm]
  · exact ⟨_, rfl, List.takeWhile_append_dropWhile⟩

/-- A word is its first character and what follows it: nothing is lost, and the first character
leads the word. -/
theorem readWord_append {α : Type} (spell : α → List Char) (t : PrefixTable α) (c : Char)
    (cs : List Char) : ∃ w, (readWord spell t c cs).2.1 = c :: w ∧ w ++ (readWord spell t c cs).2.2 = cs := by
  obtain ⟨w, hw, hr⟩ := finishWord_append spell t (c :: (extendPrefix t [c] cs).1) (extendPrefix t [c] cs).2
  refine ⟨(extendPrefix t [c] cs).1 ++ w, by simp only [readWord, hw, List.cons_append], ?_⟩
  simp only [readWord]
  rw [List.append_assoc, hr, extendPrefix_append]

theorem readString_append (cs : List Char) : (readString cs).2.1 ++ (readString cs).2.2 = cs := by
  have h := List.takeWhile_append_dropWhile (p := (· != '"')) (l := cs)
  unfold readString
  generalize cs.dropWhile (· != '"') = r at h ⊢
  split
  · simpa using h
  · exact h

/-- A token is its first character and what follows it: what `read` takes and what it leaves
make up its input, and the first character is always taken. -/
theorem read_append (cfg : ScanConfig) (c : Char) (cs : List Char) :
    ∃ w, (read cfg c cs).text = c :: w ∧ w ++ (read cfg c cs).rest = cs := by
  have hm := takeMatching_append cfg.commentStyle.marker.tail cs
  simp only [read]
  split
  · refine ⟨_, List.cons_append .., ?_⟩
    rw [List.append_assoc, List.takeWhile_append_dropWhile, hm]
  · split
    · exact ⟨[], rfl, rfl⟩
    · split
      · exact ⟨['='], rfl, rfl⟩
      · exact ⟨[], rfl, rfl⟩
    · split
      · exact ⟨_, rfl, readString_append cs⟩
      · split
        · exact ⟨_, rfl, List.takeWhile_append_dropWhile⟩
        · split
          · exact readWord_append _ _ c cs
          · exact ⟨[], rfl, rfl⟩

/-- What `read` takes and what it leaves make up its input. -/
theorem text_append_rest (cfg : ScanConfig) (c : Char) (cs : List Char) :
    (read cfg c cs).text ++ (read cfg c cs).rest = c :: cs := by
  obtain ⟨w, hw, he⟩ := read_append cfg c cs
  rw [hw, List.cons_append, he]

/-- Reading a token leaves less input than there was. -/
theorem length_rest_lt (cfg : ScanConfig) (c : Char) (cs : List Char) :
    (read cfg c cs).rest.length < (c :: cs).length := by
  obtain ⟨w, _, he⟩ := read_append cfg c cs
  have := congrArg List.length he
  simp only [List.length_append, List.length_cons] at this ⊢
  omega

end Scan

end ScriptLex
