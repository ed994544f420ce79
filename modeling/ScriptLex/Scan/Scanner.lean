import ScriptLex.Scan.Lexeme
import ScriptLex.Text

/-!
# Scanning a text

A scan skips blanks, reads one token at the byte offset of its first character, and goes on after
it until only blanks are left. `Scan.tokens` returns all the tokens at once; a `Scanner` hands them
out one at a time and remembers whether a request has found the text used up.
-/

namespace ScriptLex

open ScriptLex.Text

namespace Scan

/-- One step of a scan of `input`, whose first character lies at byte `offset`: skip the blanks,
then read one token. The answer is the token, the offset after it and the rest of the input, or
nothing if only blanks are left. -/
def step? (cfg : ScanConfig) (offset : Nat) (input : List Char) : Option (Token × Nat × List Char) :=
  let start := offset + byteLength (input.takeWhile isBlank)
  match input.dropWhile isBlank with
  | [] => none
  | c :: cs =>
    let l := read cfg c cs
    some (⟨start, l.kind⟩, start + byteLength l.text, l.rest)

theorem length_lt_of_step? {cfg : ScanConfig} {offset : Nat} {input : List Char}
    {t : Token} {o : Nat} {r : List Char} (h : step? cfg offset input = some (t, o, r)) :
    r.length < input.length := by
  have hd := (List.dropWhile_suffix isBlank (l := input)).length_le
  unfold step? at h
  split at h
  · simp at h
  · rename_i c cs hcs
    simp only [Option.some.injEq, Prod.mk.injEq] at h
    rw [← h.2.2]
    have := length_rest_lt cfg c cs
    rw [hcs] at hd
    omega

/-- The tokens of `input` under `cfg`, the first character of `input` lying at byte `offset`. -/
def tokensFrom (cfg : ScanConfig) (offset : Nat) (input : List Char) : List Token :=
  match h : step? cfg offset input with
  | none => []
  | some (t, o, r) =>
    have : r.length < input.length := length_lt_of_step? h
    t :: tokensFrom cfg o r
termination_by input.length

def tokens (cfg : ScanConfig) (s : String) : List Token := tokensFrom cfg 0 s.toList

end Scan

/-- A scan in progress: the text still to be read, where it starts, and whether the end of the
text has been reported. -/
structure Scanner where
  config : ScanConfig
  rest : List Char
  offset : Nat
  exhausted : Bool

namespace Scanner

def start (cfg : ScanConfig) (s : String) : Scanner :=
  { config := cfg, rest := s.toList, offset := 0, exhausted := false }

/-- The next token, and the scanner after it; nothing once only blanks are left, which the
scanner then remembers as the end of the text. -/
def next (sc : Scanner) : Option Token × Scanner :=
  match Scan.step? sc.config sc.offset sc.rest with
  | some (t, o, r) => (some t, { sc with rest := r, offset := o })
  | none => (none, { sc with exhausted := true })

def drain (sc : Scanner) : List Token × Scanner :=
  (Scan.tokensFrom sc.config sc.offset sc.rest,
    { sc with rest := [], exhausted := true })

inductive Request where
  | next
  | drain
  | exhausted
  deriving DecidableEq, Repr

inductive Reply where
  | token (t : Option Token)
  | tokens (ts : List Token)
  | exhausted (b : Bool)
  deriving DecidableEq, Repr

def respond (sc : Scanner) : Request → Reply × Scanner
  | .next => let r := sc.next; (.token r.1, r.2)
  | .drain => let r := sc.drain; (.tokens r.1, r.2)
  | .exhausted => (.exhausted sc.exhausted, sc)

def run (sc : Scanner) : List Request → List Reply
  | [] => []
  | q :: qs => let r := sc.respond q; r.1 :: r.2.run qs

end Scanner

end ScriptLex
