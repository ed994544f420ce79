import Mathlib.Data.List.Forall2
import ScriptLex.Diagnostic.Lexical
import ScriptLex.Proofs.DiagnosticFailures
import ScriptLex.Proofs.Separators

/-!
# Lexical diagnostics explain the scan

An error token does not say why the scan made it; its diagnostic finds out again from the
character at the token's offset, looked up in an index built apart from the scan. The two agree on
every text (`Scan.diagnostics_explain_error_tokens`): the diagnostics of a scan's error tokens
never fail, there is one per error token and in the same order, each at its token's character and
that character's line and column. A string left open is reported only for a quote with no quote
after it, which the scan makes into its last token; every other error token is one character that
starts no token. A strict scan returns the tokens when there is no error token, and otherwise
fails with the first diagnostic.
-/

namespace ScriptLex

namespace Scan

open ScriptLex.Text ScriptLex.Unicode

/-- A character that no rule of the scan starts a token with: no blank, no quote, no ASCII digit,
no letter, none of `( ) { } , . ; + - * / = > < !`, and not the first character of the comment
marker. -/
def StartsNoToken (cfg : ScanConfig) (c : Char) : Prop :=
  isBlank c = false ∧ c ≠ '"' ∧ c.isDigit = false ∧ isLetter c = false ∧
    c ∉ ['(', ')', '{', '}', ',', '.', ';', '+', '-', '*', '/', '=', '>', '<', '!'] ∧
    cfg.commentStyle.marker.head? ≠ some c

/-! ## Where the tokens of a scan come from -/

/-- Every token of a scan is read from a character that is not blank, at the byte length of all
that stands before it; the tokens after it are the scan of what that read leaves. -/
theorem exists_split_of_mem_tokensFrom {cfg : ScanConfig} {o : Nat} {input : List Char}
    {t : Token} (h : t ∈ tokensFrom cfg o input) :
    ∃ T₁ w c cs, input = w ++ c :: cs ∧ isBlank c = false ∧
      t.position = o + byteLength w ∧ t.kind = (read cfg c cs).kind ∧
      tokensFrom cfg o input =
        T₁ ++ t :: tokensFrom cfg (o + byteLength w + byteLength (read cfg c cs).text)
          (read cfg c cs).rest := by
  induction o, input using tokensFrom_induction cfg with
  | blank o input hd => simp [tokensFrom_of_blank hd] at h
  | token o input c cs hd ih =>
    obtain ⟨hsplit, hc⟩ := eq_blanks_append hd
    have heq := @tokensFrom_of_cons cfg o input cs c hd
    rw [heq, List.mem_cons] at h
    rcases h with rfl | h
    · exact ⟨[], _, c, cs, hsplit, hc, rfl, rfl, heq⟩
    · -- the token comes later: what stands before it grows by the blanks and the first lexeme
      obtain ⟨T₁, w, c', cs', hs', hc', hpos, hkind, htail⟩ := ih h
      have e : o + byteLength (input.takeWhile isBlank ++ (read cfg c cs).text ++ w) =
          o + byteLength (input.takeWhile isBlank) + byteLength (read cfg c cs).text +
            byteLength w := by
        simp only [byteLength_append]
        omega
      refine ⟨⟨o + byteLength (input.takeWhile isBlank), (read cfg c cs).kind⟩ :: T₁,
        input.takeWhile isBlank ++ (read cfg c cs).text ++ w, c', cs', ?_, hc', ?_, hkind, ?_⟩
      · calc input = input.takeWhile isBlank ++ c :: cs := hsplit
          _ = input.takeWhile isBlank ++ ((read cfg c cs).text ++ (read cfg c cs).rest) := by
            rw [text_append_rest]
          _ = _ := by rw [hs']; simp
      · rw [hpos]
        simp only [byteLength_append, Int.natCast_add]
        omega
      · rw [heq, htail, e]
        rfl

/-- The tokens of a scan stand at growing offsets. -/
theorem tokensFrom_positions_increasing (cfg : ScanConfig) (o : Nat) (input : List Char) :
    (tokensFrom cfg o input).Pairwise (fun t t' => t.position < t'.position) := by
  induction o, input using tokensFrom_induction cfg with
  | blank o input hd => simp [tokensFrom_of_blank hd]
  | token o input c cs hd ih =>
    rw [tokensFrom_of_cons hd, List.pairwise_cons]
    refine ⟨fun t ht => ?_, ih⟩
    -- every later token starts after the first lexeme, which holds at least `c`
    have hle := le_position_of_mem_tokensFrom ht
    obtain ⟨w, hw, -⟩ := read_append cfg c cs
    have hpos := c.utf8Size_pos
    rw [hw, byteLength_cons] at hle
    dsimp only
    omega

/-! ## The two ways to an error token -/

theorem singleKind?_ne_error (c : Char) : singleKind? c ≠ some .error := by
  unfold singleKind?
  split <;> simp

theorem comparisonKinds?_ne_error {c : Char} {doubled single : Kind}
    (h : comparisonKinds? c = some (doubled, single)) : doubled ≠ .error ∧ single ≠ .error := by
  unfold comparisonKinds? at h
  split at h <;> cases h <;> decide

theorem not_mem_operators {c : Char} (hs : singleKind? c = none) (hcmp : comparisonKinds? c = none) :
    c ∉ ['(', ')', '{', '}', ',', '.', ';', '+', '-', '*', '/', '=', '>', '<', '!'] := by
  intro hc
  simp only [List.mem_cons, List.not_mem_nil, or_false] at hc
  rcases hc with rfl | rfl | rfl | rfl | rfl | rfl | rfl | rfl | rfl | rfl | rfl | rfl | rfl | rfl |
    rfl <;> simp [singleKind?, comparisonKinds?] at hs hcmp

/-- An error lexeme is either a quote with no quote after it, which takes the rest of the input,
or a character that starts no token, taken alone. -/
theorem readPlain_error {cfg : ScanConfig} {c : Char} {cs : List Char} (hc : isBlank c = false)
    (h : (readPlain cfg c cs).kind = .plain .error) :
    (c = '"' ∧ '"' ∉ cs ∧ readPlain cfg c cs = ⟨.plain .error, c :: cs, []⟩) ∨
      (StartsNoToken cfg c ∧ readPlain cfg c cs = ⟨.plain .error, [c], cs⟩) := by
  have hm : cfg.commentStyle.marker.isPrefixOf (c :: cs) = false := by
    by_cases hm : cfg.commentStyle.marker.isPrefixOf (c :: cs) = true
    · simp [readPlain, hm] at h
    · exact Bool.eq_false_iff.2 hm
  cases hs : singleKind? c with
  | some k =>
    have hk : k ≠ .error := fun hk => singleKind?_ne_error c (hk ▸ hs)
    simp [readPlain, hm, hs, hk] at h
  | none =>
    cases hcmp : comparisonKinds? c with
    | some p =>
      obtain ⟨hd, hsg⟩ := comparisonKinds?_ne_error hcmp
      simp only [readPlain, hm, hs, hcmp] at h
      by_cases he : cs.head? = some '=' <;> simp [he, hd, hsg] at h
    | none =>
      by_cases hq : c = '"'
      · subst hq
        by_cases hin : '"' ∈ cs
        · simp [readPlain, hm, hs, hcmp, hin] at h
        · exact .inl ⟨rfl, hin, readPlain_open_quote cfg hin⟩
      · have hdig : c.isDigit = false := by
          cases hdig : c.isDigit
          · rfl
          · simp [readPlain, hm, hs, hcmp, hq, hdig] at h
        have hl : isLetter c = false := by
          cases hl : isLetter c
          · rfl
          · simp only [readPlain, hm, hs, hcmp, hq, hdig, hl] at h
            cases hw : (readWholeWord (fun k => k.spelling.toList) Keyword.all c cs).1 <;>
              simp [hw] at h
        -- the comment marker starts with `/` or `#`: the first is an operator, the second always
        -- opens a comment
        have hhead : cfg.commentStyle.marker.head? ≠ some c := by
          cases hstyle : cfg.commentStyle with
          | slashSlash =>
            intro he
            simp only [CommentStyle.marker_slashSlash, List.head?_cons, Option.some.injEq] at he
            subst he
            simp [singleKind?] at hs
          | hash =>
            intro he
            simp only [CommentStyle.marker_hash, List.head?_cons, Option.some.injEq] at he
            subst he
            simp [hstyle, List.isPrefixOf] at hm
        refine .inr ⟨⟨hc, hq, hdig, hl, not_mem_operators hs hcmp, hhead⟩, ?_⟩
        simp [readPlain, hm, hs, hcmp, hq, hdig, hl]

/-! ## Explaining an error token -/

/-- What the diagnostic `d` says of the error token `t` in the scan of `s`, reported as
`filename`: it sits at the character `c` that starts at the token's offset, on that character's
line and column. It reports a string left open exactly when `c` is a quote with no quote after
it, and then `t` is the last token; otherwise it reports `c` as an invalid character, one that
starts no token and the only one that `t` took. -/
def Explains (cfg : ScanConfig) (s filename : String) (t : Token) (d : Diagnostic) : Prop :=
  ∃ u c v, s.toList = u ++ c :: v ∧ t.position = byteLength u ∧
    d.location = ⟨filename, lineOf u, columnOf u, t.position⟩ ∧
    (d.code = "L002" ↔ c = '"' ∧ '"' ∉ v) ∧
    (d.code = "L002" → (tokens cfg s).getLast? = some t) ∧
    (d.code ≠ "L002" → d.code = "L001" ∧ d.fault = .invalidCharacter c ∧ StartsNoToken cfg c ∧
      ∃ T₁, tokens cfg s = T₁ ++ t :: tokensFrom cfg (byteLength u + c.utf8Size) v)

theorem diagnose_error_token {cfg : ScanConfig} {s : String} (filename : String) {t : Token}
    (ht : t ∈ (tokens cfg s).filter Token.isError) :
    ∃ d, (SourceIndex.ofString s).diagnose filename t = .ok d ∧ Explains cfg s filename t d := by
  obtain ⟨hmem, herr⟩ := List.mem_filter.1 ht
  obtain ⟨T₁, u, c, v, hs, hc, hpos, hkind, htoks⟩ := exists_split_of_mem_tokensFrom hmem
  have hpos' : t.position = byteLength u := by simp [hpos]
  have hc' : (SourceIndex.ofString s).charAt t.position = .ok c := by
    rw [hpos']
    exact SourceIndex.charAt_ofString_of_eq_append hs
  obtain ⟨loc, hloc, hdiag⟩ := SourceIndex.diagnose_of_charAt_eq_ok _ filename herr hc'
  rw [hpos', SourceIndex.locate_ofString_of_eq_append hs, Except.ok.injEq] at hloc
  subst hloc
  refine ⟨_, hdiag, u, c, v, hs, hpos', by rw [hpos'], ?_⟩
  have herr' : (readPlain cfg c v).kind = .plain .error := by
    rw [← read_eq_readPlain, ← hkind]
    simpa [Token.isError] using herr
  rw [read_eq_readPlain] at htoks
  rcases readPlain_error hc herr' with ⟨rfl, hq, hread⟩ | ⟨hno, hread⟩
  · -- a string left open takes the rest of the text, so nothing is scanned after it
    rw [hread, @tokensFrom_of_blank cfg _ [] rfl] at htoks
    have hlast : (tokens cfg s).getLast? = some t := by
      rw [tokens, htoks]
      simp
    simp only [Diagnostic.code, Fault.code]
    exact ⟨by simp [hq], fun _ => hlast, fun h => absurd rfl h⟩
  · have hfault : (if c = '"' then Fault.unterminatedString else .invalidCharacter c) =
        .invalidCharacter c := if_neg hno.2.1
    simp only [Diagnostic.code, hfault, Fault.code]
    refine ⟨by simp [hno.2.1], by simp, fun _ => ⟨trivial, trivial, hno, T₁, ?_⟩⟩
    rw [tokens, htoks, hread]
    simp

/-! ## All the error tokens -/

theorem mapM_eq_ok_of_forall {α β ε : Type} {g : α → Except ε β} {R : α → β → Prop} :
    ∀ {l : List α}, (∀ a ∈ l, ∃ b, g a = .ok b ∧ R a b) →
      ∃ bs, l.mapM g = .ok bs ∧ List.Forall₂ (fun a b => g a = .ok b ∧ R a b) l bs
  | [], _ => ⟨[], rfl, .nil⟩
  | a :: l, h => by
    obtain ⟨b, hb, hR⟩ := h a (by simp)
    obtain ⟨bs, hbs, hall⟩ := mapM_eq_ok_of_forall fun x hx => h x (List.mem_cons_of_mem a hx)
    refine ⟨b :: bs, ?_, .cons ⟨hb, hR⟩ hall⟩
    simp only [List.mapM_cons, hb, hbs]
    rfl

theorem exists_of_forall₂_of_mem {α β : Type} {R : α → β → Prop} {l₁ : List α} {l₂ : List β}
    (h : List.Forall₂ R l₁ l₂) {b : β} (hb : b ∈ l₂) : ∃ a ∈ l₁, R a b := by
  induction h with
  | nil => simp at hb
  | cons hab _ ih =>
    rcases List.mem_cons.1 hb with rfl | hb
    · exact ⟨_, by simp, hab⟩
    · obtain ⟨a, ha, h⟩ := ih hb
      exact ⟨a, List.mem_cons_of_mem _ ha, h⟩

/-- An error token before the last one is not the last token of the scan. -/
theorem getLast?_ne_of_mem_dropLast {cfg : ScanConfig} {s : String} {t : Token}
    (ht : t ∈ ((tokens cfg s).filter Token.isError).dropLast) :
    (tokens cfg s).getLast? ≠ some t := by
  intro hlast
  obtain ⟨T₀, hT⟩ := List.getLast?_eq_some_iff.1 hlast
  have herr : t.isError = true := (List.mem_filter.1 (List.dropLast_subset _ ht)).2
  have ht₀ : t ∈ T₀ := by
    simp only [hT, List.filter_append, List.filter_cons, herr, ↓reduceIte, List.filter_nil,
      List.dropLast_concat] at ht
    exact (List.mem_filter.1 ht).1
  -- the last token stands after all the others
  have hsorted := tokensFrom_positions_increasing cfg 0 s.toList
  rw [← tokens, hT, List.pairwise_append] at hsorted
  exact Int.lt_irrefl _ (hsorted.2.2 t ht₀ t (by simp))

/-- The diagnostics of the error tokens of a scan never fail: there is one for each error token,
in order, and each explains its token. Only the last can report a string left open. A strict scan
gives the tokens when there is no error token, and otherwise fails with the first diagnostic. -/
theorem diagnostics_explain_error_tokens (cfg : ScanConfig) (s filename : String) :
    ∃ ds, (SourceIndex.ofString s).diagnostics filename (tokens cfg s) = .ok ds ∧
      List.Forall₂ (Explains cfg s filename) ((tokens cfg s).filter Token.isError) ds ∧
      (∀ d ∈ ds.dropLast, d.code ≠ "L002") ∧
      (ds = [] → tokensStrict cfg filename s = .ok (tokens cfg s)) ∧
      (∀ d ∈ ds.head?, tokensStrict cfg filename s = .error (.lexical d)) := by
  obtain ⟨ds, hds, hall⟩ := mapM_eq_ok_of_forall fun t ht => diagnose_error_token filename ht
  have hexp := hall.imp fun _ _ h => h.2
  refine ⟨ds, hds, hexp, ?_, ?_, ?_⟩
  · -- a diagnostic before the last explains an error token before the last
    intro d hd hcode
    have hdrop : List.Forall₂ (Explains cfg s filename)
        ((tokens cfg s).filter Token.isError).dropLast ds.dropLast := by
      rw [List.dropLast_eq_take, List.dropLast_eq_take, hexp.length_eq]
      exact List.forall₂_take _ hexp
    obtain ⟨t, ht, u, c, v, -, -, -, -, hlast, -⟩ := exists_of_forall₂_of_mem hdrop hd
    exact getLast?_ne_of_mem_dropLast ht (hlast hcode)
  · rintro rfl
    have herrs := List.forall₂_nil_right_iff.1 hall
    simp only [tokensStrict, ← List.head?_filter, herrs, List.head?_nil]
  · intro d hd
    obtain ⟨ds', rfl⟩ : ∃ ds', ds = d :: ds' := by
      cases ds with
      | nil => simp at hd
      | cons d' ds' =>
        obtain rfl : d' = d := by simpa using hd
        exact ⟨ds', rfl⟩
    obtain ⟨t, errs', ⟨hdiag, -⟩, -, herrs⟩ := List.forall₂_cons_right_iff.1 hall
    simp only [tokensStrict, ← List.head?_filter, herrs, List.head?_cons, hdiag]

end Scan

end ScriptLex
