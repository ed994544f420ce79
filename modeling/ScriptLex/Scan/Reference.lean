import ScriptLex.Scan.Lexeme
import ScriptLex.Text

/-!
# The scan, rule by rule

The scan of `Scan.tokens` reads words through a prefix table and keeps a running byte offset.
This module states the same scan in its plainest form, as the rules are written: skip blanks;
stop at the end; otherwise the first rule that applies gives one token, at the byte length of
everything consumed before it.

1. the input starts with the comment marker: a comment, up to the next line feed;
2. one of `( ) { } , . ; + - * /`: a token of its own;
3. one of `= > < !`: the doubled kind if `=` follows, else the single kind;
4. `"`: a string through the next `"`, or, if none follows, an error token over the whole rest;
5. an ASCII digit: a number over the run of ASCII digits;
6. a letter: the whole word, that letter and the word characters after it, reserved if it is the
   spelling of a reserved word and an identifier otherwise;
7. anything else: an error token of one character.

`Scan.reference` is meant to be compared with `Scan.tokens`: the two agree on every text.
-/

namespace ScriptLex.Scan

open ScriptLex.Text ScriptLex.Unicode

/-- One token by the plain rules, from input that starts with `c`, which is not blank. -/
def readPlain (cfg : ScanConfig) (c : Char) (cs : List Char) : Lexeme :=
  if cfg.commentStyle.marker.isPrefixOf (c :: cs) then
    ⟨.plain .comment, c :: cs.takeWhile (· != '\n'), cs.dropWhile (· != '\n')⟩
  else
    match singleKind? c, comparisonKinds? c with
    | some k, _ => ⟨.plain k, [c], cs⟩
    | none, some (doubled, single) =>
      if cs.head? = some '=' then ⟨.plain doubled, [c, '='], cs.drop 1⟩
      else ⟨.plain single, [c], cs⟩
    | none, none =>
      if c = '"' then
        if '"' ∈ cs then
          ⟨.plain .string, c :: cs.takeWhile (· != '"') ++ ['"'], (cs.dropWhile (· != '"')).drop 1⟩
        else ⟨.plain .error, c :: cs, []⟩
      else if c.isDigit then
        ⟨.plain .number, c :: cs.takeWhile Char.isDigit, cs.dropWhile Char.isDigit⟩
      else if isLetter c then
        let w := readWholeWord (fun k => k.spelling.toList) Keyword.all c cs
        ⟨(w.1.map .reserved).getD (.plain .identifier), w.2.1, w.2.2⟩
      else ⟨.plain .error, [c], cs⟩

/-- The plain rules never leave more than the input after the first character. -/
theorem length_readPlain_rest_le (cfg : ScanConfig) (c : Char) (cs : List Char) :
    (readPlain cfg c cs).rest.length ≤ cs.length := by
  unfold readPlain
  split
  · exact (List.dropWhile_suffix _).length_le
  · split
    · exact Nat.le_refl _
    · split
      · simp
      · exact Nat.le_refl _
    · split
      · split
        · simp only [List.length_drop]
          have := (List.dropWhile_suffix (· != '"') (l := cs)).length_le
          omega
        · simp
      · split
        · exact (List.dropWhile_suffix _).length_le
        · split
          · exact (List.dropWhile_suffix _).length_le
          · exact Nat.le_refl _

/-- The plain scan of `input`, after `consumed` has been read: each token sits at the byte length
of all that was consumed before it. -/
def referenceFrom (cfg : ScanConfig) (consumed input : List Char) : List Token :=
  let blank := input.takeWhile isBlank
  match h : input.dropWhile isBlank with
  | [] => []
  | c :: cs =>
    have : (readPlain cfg c cs).rest.length < input.length := by
      have hd := (List.dropWhile_suffix isBlank (l := input)).length_le
      have := length_readPlain_rest_le cfg c cs
      rw [h] at hd
      simp only [List.length_cons] at hd
      omega
    let l := readPlain cfg c cs
    ⟨byteLength (consumed ++ blank), l.kind⟩ :: referenceFrom cfg (consumed ++ blank ++ l.text) l.rest
termination_by input.length

/-- The plain scan of a text. -/
def reference (cfg : ScanConfig) (s : String) : List Token := referenceFrom cfg [] s.toList

end ScriptLex.Scan
