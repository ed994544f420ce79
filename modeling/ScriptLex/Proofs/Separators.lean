import ScriptLex.Proofs.IndexPlaces
import ScriptLex.Proofs.ScanRules

/-!
# Cutting a text at a separator

A text `a ++ x ++ b` scans as `a` and `b` apart when `x` is a line break (blanks that hold a line
feed) or a stray character (one that starts no token and continues none): the tokens of `a`,
then, for a stray character, one error token, then the tokens of `b` moved along by the bytes of
`a ++ x` (`Scan.tokens_append_separator`). Two things in `a` could reach across the cut and are
ruled out: a string that never closes, and, before a stray character, a comment still open at the
end of `a`.

Every reader looks at most one character past its lexeme, and none reads on over a blank or a
stray character. So a lexeme that ends before the end of `a` reads the same with anything after
`a` (`Scan.readPlain_append_of_rest_ne_nil`), and one that ends with `a` stops at the separator
(`Scan.readPlain_append_boundary`), save a comment, which a line break closes.
-/

namespace ScriptLex

open ScriptLex.Text ScriptLex.Unicode

/-- The token moved along by `n` bytes. -/
def Token.shift (n : Int) (t : Token) : Token := ⟨t.position + n, t.kind⟩

namespace Text

/-- The character `c` starts at byte `n` of `cs`. -/
def CharAt (cs : List Char) (n : Int) (c : Char) : Prop :=
  ∃ u v, cs = u ++ c :: v ∧ (byteLength u : Int) = n

end Text

namespace Scan

def LineBreak (x : List Char) : Prop := (∀ c ∈ x, isBlank c = true) ∧ '\n' ∈ x

/-- A character that starts no token and continues none: no blank, no word character, no quote,
none of `( ) { } , . ; + - * / = > < !`, and not the marker `#` when that starts comments. -/
def Stray (cfg : ScanConfig) (c : Char) : Prop :=
  isBlank c = false ∧ isAlnum c = false ∧ c ≠ '"' ∧
    c ∉ ['(', ')', '{', '}', ',', '.', ';', '+', '-', '*', '/', '=', '>', '<', '!'] ∧
    (cfg.commentStyle = .hash → c ≠ '#')

/-- The last token of the text is a comment with no line feed after it. -/
def EndsInComment (cfg : ScanConfig) (a : String) : Prop :=
  ∃ t, (tokens cfg a).getLast? = some t ∧ t.kind = .plain .comment ∧
    ∀ u v, a.toList = u ++ v → (byteLength u : Int) = t.position → '\n' ∉ v

/-! ## A lexeme and what follows it -/

theorem while_append_of_dropWhile_ne_nil {p : Char → Bool} {l : List Char} (y : List Char)
    (h : l.dropWhile p ≠ []) :
    (l ++ y).takeWhile p = l.takeWhile p ∧ (l ++ y).dropWhile p = l.dropWhile p ++ y := by
  have hlen : (l.takeWhile p).length ≠ l.length := by
    intro hl
    have := congrArg List.length (List.takeWhile_append_dropWhile (p := p) (l := l))
    rw [List.length_append, hl] at this
    exact h (List.eq_nil_of_length_eq_zero (by omega))
  rw [List.takeWhile_append, List.dropWhile_append, if_neg hlen]
  simp [h]

theorem while_append_of_forall {p : Char → Bool} {l : List Char} {d : Char} (y : List Char)
    (h : ∀ x ∈ l, p x = true) (hd : p d = false) :
    (l ++ d :: y).takeWhile p = l ∧ (l ++ d :: y).dropWhile p = d :: y := by
  simp [List.takeWhile_append_of_pos h, List.dropWhile_append_of_pos h, hd]

/-- What follows the first character decides the comment marker only through its first
character, and a character other than `/` never completes it. -/
theorem marker_isPrefixOf_append (d : CommentStyle) {c : Char} {cs y : List Char}
    (h : cs ≠ [] ∨ ∀ z, y.head? = some z → z ≠ '/') :
    d.marker.isPrefixOf (c :: (cs ++ y)) = d.marker.isPrefixOf (c :: cs) := by
  cases d with
  | hash => simp [List.isPrefixOf]
  | slashSlash =>
    rw [CommentStyle.marker_slashSlash]
    rcases h with h | h
    · obtain ⟨x, r, rfl⟩ := List.exists_cons_of_ne_nil h
      simp [List.isPrefixOf]
    · cases cs with
      | cons x r => simp [List.isPrefixOf]
      | nil =>
        cases y with
        | nil => rfl
        | cons z y => simp [List.isPrefixOf, Ne.symm (h z rfl)]

/-- A lexeme that ends before the end of its input reads the same whatever follows it. -/
theorem readPlain_append_of_rest_ne_nil (cfg : ScanConfig) (c : Char) {cs : List Char}
    (y : List Char) (h : (readPlain cfg c cs).rest ≠ []) :
    readPlain cfg c (cs ++ y) = { readPlain cfg c cs with rest := (readPlain cfg c cs).rest ++ y } := by
  have hcs : cs ≠ [] := by
    rintro rfl
    exact h (List.eq_nil_of_length_eq_zero (by simpa using length_readPlain_rest_le cfg c []))
  revert h
  unfold readPlain
  rw [marker_isPrefixOf_append _ (.inl hcs)]
  by_cases hm : cfg.commentStyle.marker.isPrefixOf (c :: cs) = true
  · rw [if_pos hm, if_pos hm]
    intro h
    obtain ⟨ht, hd⟩ := while_append_of_dropWhile_ne_nil y h
    simp only [ht, hd]
  · rw [if_neg hm, if_neg hm]
    rcases singleKind? c with _ | k
    · rcases comparisonKinds? c with _ | ⟨doubled, single⟩
      · by_cases hq : c = '"'
        · simp only [if_pos hq]
          by_cases hin : '"' ∈ cs
          · have hne : cs.dropWhile (· != '"') ≠ [] := by
              rw [Ne, List.dropWhile_eq_nil_iff]
              exact fun hall => by simpa using hall '"' hin
            obtain ⟨ht, hd⟩ := while_append_of_dropWhile_ne_nil y hne
            obtain ⟨x, r, hxr⟩ := List.exists_cons_of_ne_nil hne
            simp [hin, ht, hd, hxr]
          · simp [hin]
        · simp only [if_neg hq]
          by_cases hdig : c.isDigit = true
          · simp only [if_pos hdig]
            intro h
            obtain ⟨ht, hd⟩ := while_append_of_dropWhile_ne_nil y h
            simp only [ht, hd]
          · simp only [if_neg hdig]
            by_cases hl : isLetter c = true
            · simp only [if_pos hl, readWholeWord]
              intro h
              obtain ⟨ht, hd⟩ := while_append_of_dropWhile_ne_nil y h
              simp only [ht, hd]
            · simp [hl]
      · obtain ⟨x, r, rfl⟩ := List.exists_cons_of_ne_nil hcs
        by_cases hx : x = '=' <;> simp [hx]
    · intro _
      rfl

theorem isDigit_eq_false_of_isAlnum {d : Char} (hd : isAlnum d = false) : d.isDigit = false := by
  cases h : d.isDigit with
  | false => rfl
  | true => rw [isAlnum_of_isDigit h] at hd; cases hd

/-- A lexeme that takes all of its input, and is neither a comment nor a string that never
closes, stops at a following character that is no word character, no `=` and no `/`. -/
theorem readPlain_append_boundary (cfg : ScanConfig) {c d : Char} {cs : List Char} (y : List Char)
    (hrest : (readPlain cfg c cs).rest = []) (hcom : (readPlain cfg c cs).kind ≠ .plain .comment)
    (hstr : c = '"' → '"' ∈ cs) (hd : isAlnum d = false) (heq : d ≠ '=') (hsl : d ≠ '/') :
    readPlain cfg c (cs ++ d :: y) = { readPlain cfg c cs with rest := d :: y } := by
  revert hrest hcom
  unfold readPlain
  rw [marker_isPrefixOf_append _ (.inr fun z hz => by simp only [List.head?_cons, Option.some.injEq] at hz; exact hz ▸ hsl)]
  by_cases hm : cfg.commentStyle.marker.isPrefixOf (c :: cs) = true
  · rw [if_pos hm, if_pos hm]
    intro _ h
    exact absurd rfl h
  · rw [if_neg hm, if_neg hm]
    rcases singleKind? c with _ | k
    · rcases comparisonKinds? c with _ | ⟨doubled, single⟩
      · by_cases hq : c = '"'
        · have hin := hstr hq
          have hne : cs.dropWhile (· != '"') ≠ [] := by
            rw [Ne, List.dropWhile_eq_nil_iff]
            exact fun hall => by simpa using hall '"' hin
          obtain ⟨ht, hdw⟩ := while_append_of_dropWhile_ne_nil (d :: y) hne
          obtain ⟨x, r, hxr⟩ := List.exists_cons_of_ne_nil hne
          have hin' : '"' ∈ cs ++ d :: y := List.mem_append_left _ hin
          simp only [if_pos hq, if_pos hin, if_pos hin', ht, hdw, hxr]
          intro hr _
          simp only [List.drop_succ_cons, List.drop_zero] at hr
          simp [hr]
        · simp only [if_neg hq]
          by_cases hdig : c.isDigit = true
          · simp only [if_pos hdig]
            intro hr _
            have hall := List.dropWhile_eq_nil_iff.1 hr
            obtain ⟨ht, hdw⟩ := while_append_of_forall y hall (isDigit_eq_false_of_isAlnum hd)
            simp only [ht, hdw, List.takeWhile_eq_self_iff.2 hall]
          · simp only [if_neg hdig]
            by_cases hl : isLetter c = true
            · simp only [if_pos hl, readWholeWord]
              intro hr _
              have hall := List.dropWhile_eq_nil_iff.1 hr
              obtain ⟨ht, hdw⟩ := while_append_of_forall y hall hd
              simp only [ht, hdw, List.takeWhile_eq_self_iff.2 hall]
            · simp only [if_neg hl]
              rintro rfl _
              rfl
      · cases cs with
        | nil => simp [heq]
        | cons x r =>
          by_cases hx : x = '='
          · subst hx
            simp only [List.head?_cons, if_true, List.drop_succ_cons, List.drop_zero, List.cons_append]
            rintro rfl _
            rfl
          · simp [hx]
    · rintro rfl _
      rfl

theorem singleKind?_ne_comment (c : Char) : singleKind? c ≠ some .comment := by
  unfold singleKind?
  split <;> simp

theorem comparisonKinds?_ne_comment {c : Char} {doubled single : Kind}
    (h : comparisonKinds? c = some (doubled, single)) : doubled ≠ .comment ∧ single ≠ .comment := by
  unfold comparisonKinds? at h
  split at h <;> simp only [Option.some.injEq, Prod.mk.injEq, reduceCtorEq] at h <;>
    (obtain ⟨rfl, rfl⟩ := h; simp)

theorem isPrefixOf_of_readPlain_comment {cfg : ScanConfig} {c : Char} {cs : List Char}
    (h : (readPlain cfg c cs).kind = .plain .comment) :
    cfg.commentStyle.marker.isPrefixOf (c :: cs) = true := by
  revert h
  unfold readPlain
  split
  · exact fun _ => ‹_›
  · split
    · rename_i k hk
      simp only [TokenKind.plain.injEq]
      rintro rfl
      exact absurd hk (singleKind?_ne_comment c)
    · rename_i doubled single _ hk
      obtain ⟨hd, hs⟩ := comparisonKinds?_ne_comment hk
      split <;> simp [hd, hs]
    · split
      · split <;> simp
      · split
        · simp
        · split
          · have hw : ∀ w : Option Keyword, (w.map TokenKind.reserved).getD (.plain .identifier) ≠ TokenKind.plain .comment := by
              intro w
              cases w <;> simp
            exact fun h => absurd h (hw _)
          · simp

/-- A comment that takes all of its input runs on over a line break, up to its line feed. -/
theorem readPlain_append_comment (cfg : ScanConfig) {c : Char} {cs x : List Char} (y : List Char)
    (hrest : (readPlain cfg c cs).rest = []) (hcom : (readPlain cfg c cs).kind = .plain .comment)
    (hx : '\n' ∈ x) :
    readPlain cfg c (cs ++ x ++ y) =
      ⟨.plain .comment, c :: cs ++ x.takeWhile (· != '\n'), x.dropWhile (· != '\n') ++ y⟩ := by
  have hm := isPrefixOf_of_readPlain_comment hcom
  have hm' : cfg.commentStyle.marker.isPrefixOf (c :: (cs ++ x ++ y)) = true := by
    rw [List.isPrefixOf_iff_prefix] at hm ⊢
    exact hm.trans (by simp [List.append_assoc])
  unfold readPlain at hrest ⊢
  rw [if_pos hm] at hrest
  rw [if_pos hm']
  have hall : ∀ z ∈ cs, (z != '\n') = true := List.dropWhile_eq_nil_iff.1 hrest
  have hne : x.dropWhile (· != '\n') ≠ [] := by
    rw [Ne, List.dropWhile_eq_nil_iff]
    exact fun h => by simpa using h '\n' hx
  obtain ⟨ht, hd⟩ := while_append_of_dropWhile_ne_nil y hne
  simp [List.append_assoc, List.takeWhile_append_of_pos hall, List.dropWhile_append_of_pos hall, ht, hd]

theorem readPlain_open_quote (cfg : ScanConfig) {cs : List Char} (h : '"' ∉ cs) :
    readPlain cfg '"' cs = ⟨.plain .error, '"' :: cs, []⟩ := by
  have hm : cfg.commentStyle.marker.isPrefixOf ('"' :: cs) = false := by
    cases cfg.commentStyle <;> simp [List.isPrefixOf]
  simp [readPlain, hm, singleKind?, comparisonKinds?, h]

theorem readPlain_stray {cfg : ScanConfig} {c : Char} (cs : List Char) (h : Stray cfg c) :
    readPlain cfg c cs = ⟨.plain .error, [c], cs⟩ := by
  obtain ⟨-, halnum, hq, hops, hhash⟩ := h
  have hm : cfg.commentStyle.marker.isPrefixOf (c :: cs) = false := by
    cases hd : cfg.commentStyle with
    | slashSlash =>
      have : c ≠ '/' := fun h => hops (by simp [h])
      simp [List.isPrefixOf, Ne.symm this]
    | hash => simp [List.isPrefixOf, Ne.symm (hhash hd)]
  have hs : singleKind? c = none := by
    unfold singleKind?
    split <;> simp_all
  have hc : comparisonKinds? c = none := by
    unfold comparisonKinds?
    split <;> simp_all
  have hdig : c.isDigit = false := isDigit_eq_false_of_isAlnum halnum
  have hl : isLetter c = false := by
    simp only [isAlnum, Bool.or_eq_false_iff] at halnum
    exact halnum.1
  simp [readPlain, hm, hs, hc, hq, hdig, hl]

theorem readPlain_comment_rest {cfg : ScanConfig} {c : Char} {cs : List Char}
    (h : (readPlain cfg c cs).kind = .plain .comment) :
    (readPlain cfg c cs).rest = cs.dropWhile (· != '\n') := by
  have hm := isPrefixOf_of_readPlain_comment h
  unfold readPlain
  rw [if_pos hm]

/-! ## Blanks and offsets -/

theorem tokensFrom_blank_append (cfg : ScanConfig) (o : Nat) {w : List Char} (y : List Char)
    (h : ∀ c ∈ w, isBlank c = true) :
    tokensFrom cfg o (w ++ y) = tokensFrom cfg (o + byteLength w) y := by
  have hd : (w ++ y).dropWhile isBlank = y.dropWhile isBlank := List.dropWhile_append_of_pos h
  have ht : (w ++ y).takeWhile isBlank = w ++ y.takeWhile isBlank := List.takeWhile_append_of_pos h
  cases hy : y.dropWhile isBlank with
  | nil => rw [tokensFrom_of_blank (hd.trans hy), tokensFrom_of_blank hy]
  | cons c cs =>
    rw [tokensFrom_of_cons (hd.trans hy), tokensFrom_of_cons hy, ht, byteLength_append]
    simp only [Nat.add_assoc, Int.natCast_add, Int.add_assoc]

theorem tokensFrom_shift (cfg : ScanConfig) (o n : Nat) (input : List Char) :
    tokensFrom cfg (o + n) input = (tokensFrom cfg o input).map (Token.shift n) := by
  induction o, input using tokensFrom_induction cfg with
  | blank o input hd => rw [tokensFrom_of_blank hd, tokensFrom_of_blank hd, List.map_nil]
  | token o input c cs hd ih =>
    have e : o + n + byteLength (input.takeWhile isBlank) + byteLength (read cfg c cs).text =
        o + byteLength (input.takeWhile isBlank) + byteLength (read cfg c cs).text + n := by omega
    rw [tokensFrom_of_cons hd, tokensFrom_of_cons hd, List.map_cons, e, ih]
    simp only [Token.shift, Int.natCast_add, List.cons.injEq, Token.mk.injEq, and_true]
    omega

theorem le_position_of_mem_tokensFrom {cfg : ScanConfig} {o : Nat} {input : List Char} {t : Token}
    (h : t ∈ tokensFrom cfg o input) : (o : Int) ≤ t.position := by
  induction o, input using tokensFrom_induction cfg with
  | blank o input hd => simp [tokensFrom_of_blank hd] at h
  | token o input c cs hd ih =>
    rw [tokensFrom_of_cons hd, List.mem_cons] at h
    rcases h with rfl | h
    · dsimp only
      omega
    · have := ih h
      omega

theorem tokensFrom_append_of_cons {cfg : ScanConfig} {o : Nat} {a cs : List Char} {c : Char}
    (z : List Char) (h : a.dropWhile isBlank = c :: cs) :
    tokensFrom cfg o (a ++ z) =
      ⟨o + byteLength (a.takeWhile isBlank), (read cfg c (cs ++ z)).kind⟩ ::
        tokensFrom cfg (o + byteLength (a.takeWhile isBlank) + byteLength (read cfg c (cs ++ z)).text)
          (read cfg c (cs ++ z)).rest := by
  obtain ⟨ha, hc⟩ := eq_blanks_append h
  have hall : ∀ x ∈ a.takeWhile isBlank, isBlank x = true := fun x hx => List.mem_takeWhile_imp hx
  have hd : (a ++ z).dropWhile isBlank = c :: (cs ++ z) := by
    rw [ha, List.append_assoc, List.dropWhile_append_of_pos hall, List.cons_append,
      List.dropWhile_cons_of_neg (by simp [hc])]
  have ht : (a ++ z).takeWhile isBlank = a.takeWhile isBlank := by
    conv => lhs; rw [ha]
    rw [List.append_assoc, List.takeWhile_append_of_pos hall, List.cons_append,
      List.takeWhile_cons_of_neg (by simp [hc]), List.append_nil]
  rw [tokensFrom_of_cons hd, ht]

/-! ## Cutting the scan -/

/-- No error token of the scan of `a` from offset `o` lies on a quote. -/
def QuotesClosed (cfg : ScanConfig) (o : Nat) (a : List Char) : Prop :=
  ∀ t ∈ tokensFrom cfg o a, t.kind = .plain .error →
    ∀ u v, a = u ++ '"' :: v → ((o + byteLength u : Nat) : Int) ≠ t.position

/-- If the scan of `a` from offset `o` ends in a comment, a line feed follows it in `a`. -/
def CommentsClosed (cfg : ScanConfig) (o : Nat) (a : List Char) : Prop :=
  ∀ t, (tokensFrom cfg o a).getLast? = some t → t.kind = .plain .comment →
    ∃ u v, a = u ++ v ∧ ((o + byteLength u : Nat) : Int) = t.position ∧ '\n' ∈ v

theorem exists_append_of_byteLength_le {u v pre rest : List Char} (h : u ++ v = pre ++ rest)
    (hn : byteLength pre ≤ byteLength u) : ∃ u', u = pre ++ u' ∧ rest = u' ++ v := by
  rcases List.append_eq_append_iff.1 h with ⟨a', rfl, rfl⟩ | ⟨c', rfl, rfl⟩
  · have hz : byteLength a' = 0 := by simp at hn; omega
    have : a' = [] := by
      cases a' with
      | nil => rfl
      | cons x r => simp at hz; have := x.utf8Size_pos; omega
    subst this
    exact ⟨[], by simp, rfl⟩
  · exact ⟨c', rfl, rfl⟩

theorem QuotesClosed.tail {cfg : ScanConfig} {o : Nat} {a pre rest : List Char} {t₀ : Token}
    (h : QuotesClosed cfg o a) (ha : a = pre ++ rest)
    (ht : tokensFrom cfg o a = t₀ :: tokensFrom cfg (o + byteLength pre) rest) :
    QuotesClosed cfg (o + byteLength pre) rest := by
  intro t hmem hk u v hr
  have := h t (by rw [ht]; exact List.mem_cons_of_mem _ hmem) hk (pre ++ u) v
    (by rw [ha, hr, List.append_assoc])
  simpa [byteLength_append, Nat.add_assoc] using this

theorem CommentsClosed.tail {cfg : ScanConfig} {o : Nat} {a pre rest : List Char} {t₀ : Token}
    (h : CommentsClosed cfg o a) (ha : a = pre ++ rest)
    (ht : tokensFrom cfg o a = t₀ :: tokensFrom cfg (o + byteLength pre) rest) :
    CommentsClosed cfg (o + byteLength pre) rest := by
  intro t hlast hk
  have hne : tokensFrom cfg (o + byteLength pre) rest ≠ [] := fun h => by simp [h] at hlast
  have hlast' : (tokensFrom cfg o a).getLast? = some t := by
    rw [ht, List.getLast?_cons, hlast]
    rfl
  obtain ⟨u, v, huv, hpos, hnl⟩ := h t hlast' hk
  -- the comment lies in `rest`, so the cut before it falls after `pre`
  have hle : ((o + byteLength pre : Nat) : Int) ≤ t.position :=
    le_position_of_mem_tokensFrom (List.mem_of_getLast? hlast)
  obtain ⟨u', rfl, hrest⟩ := exists_append_of_byteLength_le (huv.symm.trans ha) (by omega)
  refine ⟨u', v, hrest, ?_, hnl⟩
  rw [← hpos, byteLength_append, Nat.add_assoc]

theorem eq_blank_text_rest (cfg : ScanConfig) {a cs : List Char} {c : Char}
    (hda : a.dropWhile isBlank = c :: cs) :
    a = a.takeWhile isBlank ++ (readPlain cfg c cs).text ++ (readPlain cfg c cs).rest := by
  rw [List.append_assoc, ← read_eq_readPlain, text_append_rest]
  exact (eq_blanks_append hda).1

theorem CommentsClosed.not_last {cfg : ScanConfig} {o : Nat} {a cs : List Char} {c : Char}
    (h : CommentsClosed cfg o a) (hda : a.dropWhile isBlank = c :: cs)
    (hr : (readPlain cfg c cs).rest = []) (hk : (readPlain cfg c cs).kind = .plain .comment) :
    False := by
  obtain ⟨ha, hcb⟩ := eq_blanks_append hda
  have hscan : tokensFrom cfg o a = [⟨o + byteLength (a.takeWhile isBlank), .plain .comment⟩] := by
    rw [tokensFrom_of_cons hda, read_eq_readPlain, hr, @tokensFrom_of_blank cfg _ [] rfl, hk]
  obtain ⟨u, v, huv, hpos, hnl⟩ := h _ (by rw [hscan]; rfl) rfl
  -- the cut at the comment's offset leaves the comment itself, which holds no line feed
  have hu := Text.eq_of_byteLength_eq (huv.symm.trans ha) (Int.ofNat_inj.1 (by simpa using hpos))
  rw [hu.2] at hnl
  have hnc : ∀ z ∈ cs, (z != '\n') = true :=
    List.dropWhile_eq_nil_iff.1 ((readPlain_comment_rest hk).symm.trans hr)
  rcases List.mem_cons.1 hnl with h | h
  · rw [← h] at hcb
    exact absurd hcb (by decide)
  · exact absurd (hnc _ h) (by simp)

/-- When the first lexeme of `a` runs to the end of `a`, it stops at `d`; a comment there runs on
over the line break after `a` instead. -/
theorem tokensFrom_append_last (cfg : ScanConfig) (o : Nat) {a cs : List Char} {c d : Char}
    {y : List Char} (hda : a.dropWhile isBlank = c :: cs) (hr : (readPlain cfg c cs).rest = [])
    (hq : QuotesClosed cfg o a) (hd : isAlnum d = false) (heq : d ≠ '=') (hsl : d ≠ '/')
    (hc : CommentsClosed cfg o a ∨ ∃ x b, d :: y = x ++ b ∧ LineBreak x) :
    tokensFrom cfg o (a ++ d :: y) =
      tokensFrom cfg o a ++ tokensFrom cfg (o + byteLength a) (d :: y) := by
  have ha := (eq_blanks_append hda).1
  have hsplit := eq_blank_text_rest cfg hda
  rw [hr, List.append_nil] at hsplit
  have htext : (readPlain cfg c cs).text = c :: cs := List.append_cancel_left (hsplit.symm.trans ha)
  have hoa : o + byteLength a = o + byteLength (a.takeWhile isBlank) + byteLength (c :: cs) := by
    have := congrArg byteLength ha
    rw [byteLength_append] at this
    omega
  have hscan := @tokensFrom_of_cons cfg o _ _ _ hda
  rw [tokensFrom_append_of_cons _ hda, hscan]
  simp only [read_eq_readPlain] at hscan ⊢
  rw [hr, @tokensFrom_of_blank cfg _ [] rfl, List.cons_append, List.nil_append]
  by_cases hk : (readPlain cfg c cs).kind = .plain .comment
  · rcases hc with hc | ⟨x, b, hxb, hx⟩
    · exact (hc.not_last hda hr hk).elim
    · rw [hxb, ← List.append_assoc, readPlain_append_comment cfg b hr hk hx.2, hk,
        tokensFrom_blank_append cfg _ b (fun z hz => hx.1 z ((List.dropWhile_suffix _).subset hz)),
        tokensFrom_blank_append cfg _ b hx.1, hoa]
      congr 2
      conv => rhs; rw [← List.takeWhile_append_dropWhile (p := (· != '\n')) (l := x)]
      simp only [byteLength_append, List.cons_append, byteLength_cons]
      omega
  · -- a quote that opens a string closes it within `a`, so the string does not reach `d`
    have hstr : c = '"' → '"' ∈ cs := by
      rintro rfl
      by_contra hin
      rw [readPlain_open_quote cfg hin] at hscan
      exact hq _ (by rw [hscan]; exact List.mem_cons_self) rfl _ cs ha rfl
    rw [readPlain_append_boundary cfg y hr hk hstr hd heq hsl, htext, hoa]

/-- The scan of `a ++ d :: y` is the scan of `a`, then the scan of `d :: y`, when `d` continues
no lexeme, `a` holds no string that never closes, and a comment still open at the end of `a` is
closed by a line break. The induction runs over the lexemes of `a`; only the last can reach
across the cut. -/
theorem tokensFrom_append (cfg : ScanConfig) (o : Nat) (a : List Char) {d : Char} {y : List Char}
    (hq : QuotesClosed cfg o a) (hd : isAlnum d = false) (heq : d ≠ '=') (hsl : d ≠ '/')
    (hc : CommentsClosed cfg o a ∨ ∃ x b, d :: y = x ++ b ∧ LineBreak x) :
    tokensFrom cfg o (a ++ d :: y) =
      tokensFrom cfg o a ++ tokensFrom cfg (o + byteLength a) (d :: y) := by
  induction o, a using tokensFrom_induction cfg with
  | blank o a hda =>
    rw [tokensFrom_of_blank hda, List.nil_append]
    exact tokensFrom_blank_append cfg o _ (List.dropWhile_eq_nil_iff.1 hda)
  | token o a c cs hda ih =>
    by_cases hr : (readPlain cfg c cs).rest = []
    · exact tokensFrom_append_last cfg o hda hr hq hd heq hsl hc
    · -- the lexeme ends inside `a`: it reads the same, and the rest of `a` is cut at `d`
      simp only [read_eq_readPlain] at ih
      have ha := eq_blank_text_rest cfg hda
      have hscan : tokensFrom cfg o a =
          ⟨o + byteLength (a.takeWhile isBlank), (readPlain cfg c cs).kind⟩ :: tokensFrom cfg
          (o + byteLength (a.takeWhile isBlank ++ (readPlain cfg c cs).text)) (readPlain cfg c cs).rest := by
        rw [tokensFrom_of_cons hda, read_eq_readPlain, byteLength_append, Nat.add_assoc]
      have hoa : o + byteLength a = o + byteLength (a.takeWhile isBlank) +
          byteLength (readPlain cfg c cs).text + byteLength (readPlain cfg c cs).rest := by
        have := congrArg byteLength ha
        simp only [byteLength_append] at this
        omega
      rw [tokensFrom_append_of_cons _ hda, tokensFrom_of_cons hda]
      simp only [read_eq_readPlain]
      rw [readPlain_append_of_rest_ne_nil cfg c (d :: y) hr]
      have hq' := hq.tail ha hscan
      have hc' := hc.imp (fun h => h.tail ha hscan) id
      rw [byteLength_append, ← Nat.add_assoc] at hq' hc'
      rw [ih hq' hc', hoa, List.cons_append]

theorem boundary_of_isBlank {d : Char} (h : isBlank d = true) :
    isAlnum d = false ∧ d ≠ '=' ∧ d ≠ '/' := by
  simp only [isBlank, Bool.or_eq_true, beq_iff_eq] at h
  rcases h with ((rfl | rfl) | rfl) | rfl <;> decide

theorem boundary_of_stray {cfg : ScanConfig} {c : Char} (h : Stray cfg c) :
    isAlnum c = false ∧ c ≠ '=' ∧ c ≠ '/' := by
  obtain ⟨-, halnum, -, hops, -⟩ := h
  exact ⟨halnum, fun h => hops (by simp [h]), fun h => hops (by simp [h])⟩

/-! ## The separator law -/

/-- Where a text is cut by a line break or by a stray character, its scan is cut there too: the
tokens of the part before, then, for a stray character, one error token, then the tokens of the
part after, moved along by the bytes before them. The part before must hold no string that never
closes, and, before a stray character, no comment still open at its end. -/
theorem tokens_append_separator (cfg : ScanConfig) (a x b : String)
    (hq : ∀ t ∈ tokens cfg a, t.kind = .plain .error → ¬ Text.CharAt a.toList t.position '"') :
    (LineBreak x.toList →
      tokens cfg (a ++ x ++ b) =
        tokens cfg a ++ (tokens cfg b).map (Token.shift (byteLength (a ++ x).toList))) ∧
    (∀ c, x.toList = [c] → Stray cfg c → ¬ EndsInComment cfg a →
      tokens cfg (a ++ x ++ b) =
        tokens cfg a ++ ⟨byteLength a.toList, .plain .error⟩ ::
          (tokens cfg b).map (Token.shift (byteLength (a ++ x).toList))) := by
  have hq' : QuotesClosed cfg 0 a.toList :=
    fun t ht hk u v hu hpos => hq t ht hk ⟨u, v, hu, by simpa using hpos⟩
  have hshift (n : Nat) :
      tokensFrom cfg n b.toList = (tokensFrom cfg 0 b.toList).map (Token.shift n) := by
    simpa using tokensFrom_shift cfg 0 n b.toList
  simp only [tokens, String.toList_append, List.append_assoc, byteLength_append]
  constructor
  · intro hx
    obtain ⟨d, x', hdx⟩ := List.exists_cons_of_ne_nil (List.ne_nil_of_mem hx.2)
    obtain ⟨hd, heq, hsl⟩ := boundary_of_isBlank (hx.1 d (by simp [hdx]))
    rw [hdx, List.cons_append,
      tokensFrom_append cfg 0 a.toList hq' hd heq hsl (.inr ⟨x.toList, b.toList, by simp [hdx], hx⟩),
      ← List.cons_append, ← hdx, tokensFrom_blank_append cfg _ _ hx.1, hshift, Nat.zero_add,
      Int.natCast_add]
  · intro c hx hs hend
    have hcc : CommentsClosed cfg 0 a.toList := by
      intro t hlast hk
      by_contra hno
      exact hend ⟨t, hlast, hk, fun u v huv hpos hn => hno ⟨u, v, huv, by simpa using hpos, hn⟩⟩
    obtain ⟨hd, heq, hsl⟩ := boundary_of_stray hs
    have hdrop : (c :: b.toList).dropWhile isBlank = c :: b.toList := by
      simp [hs.1]
    have htake : (c :: b.toList).takeWhile isBlank = [] := by
      simp [hs.1]
    rw [hx, List.singleton_append, tokensFrom_append cfg 0 a.toList hq' hd heq hsl (.inl hcc),
      tokensFrom_of_cons hdrop, read_eq_readPlain, readPlain_stray _ hs, htake, hshift]
    simp

theorem tokens_x : tokens {} "x" = [⟨0, .plain .identifier⟩] := by
  rw [tokens, @tokensFrom_of_cons {} 0 "x".toList [] 'x' (by decide), read_eq_readPlain]
  have hrest : (readPlain {} 'x' []).rest = [] := by decide
  have hkind : (readPlain {} 'x' []).kind = .plain .identifier := by decide
  rw [hrest, hkind, @tokensFrom_of_blank {} _ [] rfl]
  decide

/-- The law at an identifier cut from the next one by a line feed, and by a stray `@`. -/
theorem tokens_append_separator_x :
    ((∀ t ∈ tokens {} "x", t.kind = .plain .error → ¬ Text.CharAt "x".toList t.position '"') ∧
      tokens {} ("x" ++ "\n" ++ "y") =
        tokens {} "x" ++ (tokens {} "y").map (Token.shift (byteLength ("x" ++ "\n").toList))) ∧
    (Stray {} '@' ∧ ¬ EndsInComment {} "x" ∧
      tokens {} ("x" ++ "@" ++ "y") =
        tokens {} "x" ++ ⟨byteLength "x".toList, .plain .error⟩ ::
          (tokens {} "y").map (Token.shift (byteLength ("x" ++ "@").toList))) := by
  have hq : ∀ t ∈ tokens {} "x", t.kind = .plain .error → ¬ Text.CharAt "x".toList t.position '"' := by
    simp [tokens_x]
  have hs : Stray {} '@' := ⟨by decide, by decide, by decide, by decide, by decide⟩
  have hc : ¬ EndsInComment {} "x" := by
    rintro ⟨t, ht, hk, -⟩
    simp [tokens_x] at ht
    simp [← ht] at hk
  refine ⟨⟨hq, (tokens_append_separator {} "x" "\n" "y" hq).1 ?_⟩,
    hs, hc, (tokens_append_separator {} "x" "@" "y" hq).2 '@' rfl hs hc⟩
  simp [LineBreak, isBlank]

end Scan

end ScriptLex
