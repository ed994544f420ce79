import Mathlib.Data.List.TakeWhile
import ScriptLex.Proofs.ScannerCursor
import ScriptLex.Proofs.WordReading
import ScriptLex.Scan.Reference

/-!
# The scanner follows the rules

`Scan.tokens` reads a comment marker by matching it character by character, words through the
prefix table of the reserved words, and keeps a running byte offset. `Scan.reference` states the
scan rule by rule, with the whole word looked up among the spellings and each offset the byte
length of all that came before. The two agree on every text and under both comment markers
(`Scan.tokens_eq_reference`).

The agreement is one token at a time: `Scan.read` and `Scan.readPlain` read the same lexeme from
every input (`Scan.read_eq_readPlain`), and a scan is one such read after each run of blanks.
-/

namespace ScriptLex

@[simp] theorem CommentStyle.marker_slashSlash : CommentStyle.slashSlash.marker = ['/', '/'] := rfl

@[simp] theorem CommentStyle.marker_hash : CommentStyle.hash.marker = ['#'] := rfl

namespace Scan

open ScriptLex.Text ScriptLex.Unicode

/-! ## One step of a scan -/

theorem tokensFrom_of_blank {cfg : ScanConfig} {o : Nat} {input : List Char}
    (h : input.dropWhile isBlank = []) : tokensFrom cfg o input = [] := by
  rw [Scanner.tokensFrom_eq_step]
  simp [step?, h]

/-- After the blanks, one token is read, at the offset just after them. -/
theorem tokensFrom_of_cons {cfg : ScanConfig} {o : Nat} {input cs : List Char} {c : Char}
    (h : input.dropWhile isBlank = c :: cs) :
    tokensFrom cfg o input =
      ⟨o + byteLength (input.takeWhile isBlank), (read cfg c cs).kind⟩ ::
        tokensFrom cfg (o + byteLength (input.takeWhile isBlank) + byteLength (read cfg c cs).text)
          (read cfg c cs).rest := by
  rw [Scanner.tokensFrom_eq_step]
  simp [step?, h]

/-- Before the first character that is no blank stand only blanks. -/
theorem eq_blanks_append {input cs : List Char} {c : Char} (h : input.dropWhile isBlank = c :: cs) :
    input = input.takeWhile isBlank ++ c :: cs ∧ isBlank c = false :=
  ⟨by rw [← h, List.takeWhile_append_dropWhile],
    by simpa [h] using List.head?_dropWhile_not isBlank input⟩

/-- Induction along a scan: what holds where only blanks are left, and holds before a token
whenever it holds after it, holds at every offset and input. -/
theorem tokensFrom_induction (cfg : ScanConfig) {motive : Nat → List Char → Prop}
    (blank : ∀ o input, input.dropWhile isBlank = [] → motive o input)
    (token : ∀ o input c cs, input.dropWhile isBlank = c :: cs →
      motive (o + byteLength (input.takeWhile isBlank) + byteLength (read cfg c cs).text)
        (read cfg c cs).rest → motive o input)
    (o : Nat) (input : List Char) : motive o input := by
  cases hd : input.dropWhile isBlank with
  | nil => exact blank o input hd
  | cons c cs => exact token o input c cs hd (tokensFrom_induction cfg blank token _ _)
termination_by input.length
decreasing_by
  have hd' := (List.dropWhile_suffix isBlank (l := input)).length_le
  have := length_rest_lt cfg c cs
  rw [hd] at hd'
  omega

/-! ## One lexeme -/

theorem readString_eq (cs : List Char) :
    readString cs =
      if '"' ∈ cs then (.string, cs.takeWhile (· != '"') ++ ['"'], (cs.dropWhile (· != '"')).drop 1)
      else (.error, cs, []) := by
  unfold readString
  split
  · rename_i rest hd
    have hq : '"' ∈ cs := by
      have := List.dropWhile_suffix (· != '"') (l := cs)
      rw [hd] at this
      exact this.subset (by simp)
    simp [hq, hd]
  · rename_i rest hd
    have hq : '"' ∉ cs := by
      intro hq
      -- a quote stops the dropping, and the next character would be that quote
      have hne : cs.dropWhile (· != '"') ≠ [] := by
        rw [Ne, List.dropWhile_eq_nil_iff]
        exact fun hall => by simpa using hall '"' hq
      obtain ⟨x, r, hxr⟩ := List.exists_cons_of_ne_nil hne
      have hx := List.head?_dropWhile_not (· != '"') cs
      rw [hxr] at hx
      simp only [List.head?_cons, bne_eq_false_iff_eq] at hx
      exact hd r (by rw [hxr, hx])
    have hall : ∀ x ∈ cs, (x != '"') = true := fun x hx => by
      simpa using fun h : x = '"' => hq (h ▸ hx)
    simp [hq, List.takeWhile_eq_self_iff.2 hall, List.dropWhile_eq_nil_iff.2 hall]

theorem marker_eq_cons (d : CommentStyle) : ∃ m ms, d.marker = m :: ms ∧ ∀ x ∈ ms, (x != '\n') = true := by
  cases d
  · exact ⟨'/', ['/'], rfl, by simp⟩
  · exact ⟨'#', [], rfl, nofun⟩

/-- The comment marker is matched exactly when the input starts with it. -/
theorem marker_matches_iff (d : CommentStyle) (c : Char) (cs : List Char) :
    (d.marker.head? = some c ∧ (takeMatching d.marker.tail cs).1 = true) ↔
      d.marker.isPrefixOf (c :: cs) = true := by
  obtain ⟨m, ms, hm, -⟩ := marker_eq_cons d
  rw [hm, List.isPrefixOf_iff_prefix, List.cons_prefix_cons, takeMatching_eq_true_iff]
  simp [eq_comm]

theorem read_eq_readPlain (cfg : ScanConfig) (c : Char) (cs : List Char) :
    read cfg c cs = readPlain cfg c cs := by
  unfold read readPlain
  by_cases hm : cfg.commentStyle.marker.isPrefixOf (c :: cs) = true
  · rw [if_pos ((marker_matches_iff _ c cs).2 hm), if_pos hm]
    obtain ⟨-, htail⟩ := (marker_matches_iff _ c cs).2 hm
    have hpre := takeMatching_eq_true_iff.1 htail
    have hsplit : cs = cfg.commentStyle.marker.tail ++ cs.drop cfg.commentStyle.marker.tail.length :=
      (List.prefix_iff_eq_append.1 hpre).symm
    obtain ⟨m, ms, hms, hnl⟩ := marker_eq_cons cfg.commentStyle
    rw [hms, List.tail_cons] at hsplit
    rw [takeMatching_of_starts hpre, hms, List.tail_cons]
    conv => rhs; rw [hsplit]
    rw [List.takeWhile_append_of_pos hnl, List.dropWhile_append_of_pos hnl, List.cons_append]
  · rw [if_neg (fun h => hm ((marker_matches_iff _ c cs).1 h)), if_neg hm]
    rcases singleKind? c with _ | k
    · rcases comparisonKinds? c with _ | ⟨doubled, single⟩
      · by_cases hq : c = '"'
        · rw [if_pos hq, if_pos hq, readString_eq]
          by_cases hin : '"' ∈ cs <;> simp [hin]
        · rw [if_neg hq, if_neg hq]
          by_cases hd : c.isDigit = true
          · rw [if_pos hd, if_pos hd]
          · rw [if_neg hd, if_neg hd]
            by_cases hl : isLetter c = true
            · rw [if_pos hl, if_pos hl, Keyword.prefixTable,
                readWord_eq_readWholeWord Keyword.readable]
            · rw [if_neg hl, if_neg hl]
      · cases cs with
        | nil => simp
        | cons x r => by_cases hx : x = '=' <;> simp [hx]
    · rfl

/-! ## The whole scan -/

theorem tokensFrom_eq_referenceFrom (cfg : ScanConfig) (consumed input : List Char) :
    tokensFrom cfg (byteLength consumed) input = referenceFrom cfg consumed input := by
  fun_induction referenceFrom cfg consumed input with
  | case1 consumed input h => exact tokensFrom_of_blank h
  | case2 consumed input blank c cs h _ l ih =>
    rw [tokensFrom_of_cons h, ← ih, read_eq_readPlain]
    simp only [blank, l, byteLength_append, Int.natCast_add]

/-- The scan of every text, under either comment marker, is the scan by the plain rules. -/
theorem tokens_eq_reference (cfg : ScanConfig) (s : String) : tokens cfg s = reference cfg s :=
  tokensFrom_eq_referenceFrom cfg [] s.toList

end Scan

end ScriptLex
