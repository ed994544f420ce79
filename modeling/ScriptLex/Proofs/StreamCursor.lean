import ScriptLex.Proofs.OffsetLookups
import ScriptLex.Token.Stream

/-!
# A token stream is an index into its tokens

A token stream keeps the tokens it has yet to hand out and the one it handed out last. Seen from
outside it is an index `k` into the list `L` of all its tokens: `peek` shows `L[k]`, `previous`
shows `L[k - 1]`, consuming moves `k` on by one, skipping comments moves it to the first token at
or after `k` that is no comment, and a request that fails leaves `k` where it was. An expectation
that fails at the end points at the end of the text; one that fails at a token points at the line
and column of the token's offset.

`TokenStream.run_eq_cursor_run` says that a stream over any tokens of a text, and a stream over
the scan of the text, answer every sequence of requests as this cursor does.
-/

namespace ScriptLex

open Text

/-- A token has kind `K` when its own kind is `K`, or when `K` is the class of reserved words and
the token is one. -/
theorem Token.hasKind_iff (t : Token) (K : TokenKind) :
    t.hasKind K = true ↔ t.kind = K ∨ (K = .plain .keyword ∧ t.tag = .keyword) := by
  obtain ⟨position, kind⟩ := t
  cases kind with
  | plain k =>
    simp only [Token.hasKind, Token.tag, TokenKind.tag, Bool.or_self, beq_iff_eq]
    constructor
    · exact .inl
    · rintro (h | ⟨rfl, rfl⟩)
      · exact h
      · rfl
  | reserved w =>
    simp only [Token.hasKind, Token.tag, TokenKind.tag, Bool.or_eq_true, beq_iff_eq, and_true]
    exact or_congr_right eq_comm

theorem Token.hasKind_comment (t : Token) :
    t.hasKind (.plain .comment) = (t.kind == .plain .comment) := by
  rw [Bool.eq_iff_iff, hasKind_iff, beq_iff_eq]
  simp

namespace TokenStream

namespace Cursor

variable (s filename : String) (L : List Token)

/-- Whether the token at `k` has kind `K`: its own kind, or the class of reserved words if it is
one. -/
def checks (k : Nat) (K : TokenKind) : Bool :=
  match L[k]? with
  | some t => decide (t.kind = K ∨ (K = .plain .keyword ∧ t.tag = .keyword))
  | none => false

/-- The first index at or after `k` whose token is no comment, or the length of `L`. -/
def skipFrom (k : Nat) : Nat := k + ((L.drop k).takeWhile (·.kind == .plain .comment)).length

/-- The answer of the cursor at `k` over the tokens `L` of `s` to one request, and where it
stands after it. -/
def respond (k : Nat) : Request → Reply × Nat
  | .peek => (.token L[k]?, k)
  | .advance => if k < L.length then (.token L[k]?, k + 1) else (.token none, k)
  | .previous => (.token (if k = 0 then none else L[k - 1]?), k)
  | .isAtEnd => (.value (decide (k = L.length)), k)
  | .skipComments => (.token L[skipFrom L k]?, skipFrom L k)
  | .check K => (.value (checks L k K), k)
  | .accept K => if checks L k K then (.value true, k + 1) else (.value false, k)
  | .expect K =>
    match L[k]? with
    | none =>
      (.failure (.unexpected ⟨.unexpectedEnd K,
        ⟨filename, lineOf s.toList, columnOf s.toList, byteLength s.toList⟩⟩), k)
    | some t =>
      if checks L k K then (.token (some t), k + 1)
      else
        match placeAt? s.toList t.position with
        | some (line, column) =>
          (.failure (.unexpected ⟨.unexpectedToken K t, ⟨filename, line, column, t.position⟩⟩), k)
        | none => (.failure (.badOffset (.notBoundary t.position)), k)

def run (k : Nat) : List Request → List Reply
  | [] => []
  | q :: qs => (respond s filename L k q).1 :: run (respond s filename L k q).2 qs

variable {L}

theorem dropWhile_drop (k : Nat) :
    (L.drop k).dropWhile (·.kind == .plain .comment) = L.drop (skipFrom L k) := by
  have hsplit := List.takeWhile_append_dropWhile (p := (·.kind == .plain .comment)) (l := L.drop k)
  have hleft := @List.drop_left _ ((L.drop k).takeWhile (·.kind == .plain .comment))
    ((L.drop k).dropWhile (·.kind == .plain .comment))
  rw [hsplit, List.drop_drop] at hleft
  exact hleft.symm

theorem skipFrom_le_length {k : Nat} (hk : k ≤ L.length) : skipFrom L k ≤ L.length := by
  have hlen := (List.takeWhile_prefix (·.kind == .plain .comment) (l := L.drop k)).length_le
  rw [List.length_drop] at hlen
  rw [skipFrom]
  omega

/-- The last comment skipped is the token before the index that skipping reaches. -/
theorem getLast?_takeWhile_drop (k : Nat) :
    ((L.drop k).takeWhile (·.kind == .plain .comment)).getLast? =
      if skipFrom L k = k then none else L[skipFrom L k - 1]? := by
  set T := (L.drop k).takeWhile (·.kind == .plain .comment)
  have hT : T = (L.drop k).take T.length := List.prefix_iff_eq_take.1 (List.takeWhile_prefix _)
  have hskip : skipFrom L k = k + T.length := rfl
  rw [List.getLast?_eq_getElem?, hskip]
  by_cases h0 : T.length = 0
  · rw [if_pos (by omega), List.getElem?_eq_none (by omega)]
  · have hpre := List.takeWhile_prefix (·.kind == .plain .comment) (l := L.drop k)
    have hlt : T.length - 1 < T.length := by omega
    have hlt' : T.length - 1 < (L.drop k).length := Nat.lt_of_lt_of_le hlt hpre.length_le
    rw [if_neg (by omega)]
    calc T[T.length - 1]? = some T[T.length - 1] := List.getElem?_eq_getElem hlt
      _ = some (L.drop k)[T.length - 1] := by rw [hpre.getElem hlt]
      _ = (L.drop k)[T.length - 1]? := (List.getElem?_eq_getElem hlt').symm
      _ = L[k + T.length - 1]? := by rw [List.getElem?_drop]; congr 1; omega

/-- Skipping comments moves past the comments at `k` and stops at the first token that is none,
or at the end. -/
theorem skipFrom_spec (k : Nat) :
    k ≤ skipFrom L k ∧
      (∀ i, k ≤ i → i < skipFrom L k → ∃ t, L[i]? = some t ∧ t.kind = .plain .comment) ∧
      ∀ t, L[skipFrom L k]? = some t → t.kind ≠ .plain .comment := by
  set T := (L.drop k).takeWhile (·.kind == .plain .comment)
  have hT : T = (L.drop k).take T.length := List.prefix_iff_eq_take.1 (List.takeWhile_prefix _)
  have hskip : skipFrom L k = k + T.length := rfl
  refine ⟨Nat.le_add_right _ _, fun i hki hi => ?_, fun t ht => ?_⟩
  · -- the token at `i` lies in the run of comments
    have hlt : i - k < T.length := by omega
    have hget : T[i - k]? = L[i]? := by
      rw [hT, List.getElem?_take, if_pos hlt, List.getElem?_drop, Nat.add_sub_cancel' hki]
    refine ⟨T[i - k], by rw [← hget, List.getElem?_eq_getElem hlt], ?_⟩
    simpa using List.mem_takeWhile_imp (List.getElem_mem hlt)
  · -- the token after the run is the first that the run leaves
    have hhead : ((L.drop k).dropWhile (·.kind == .plain .comment)).head? = some t := by
      rw [dropWhile_drop, List.head?_drop]
      exact ht
    simpa [hhead] using List.head?_dropWhile_not (·.kind == .plain .comment) (L.drop k)

end Cursor

/-- The stream `st` stands where the cursor at `k` over the tokens `L` of `s` stands: it reads
`s` under `filename`, holds the tokens from `k` on, and last handed out `L[k - 1]`. -/
structure Tracks (s filename : String) (L : List Token) (st : TokenStream) (k : Nat) : Prop where
  source_eq : st.source = s
  filename_eq : st.filename = filename
  le_length : k ≤ L.length
  pending_eq : st.pending = L.drop k
  previous_eq : st.previous = if k = 0 then none else L[k - 1]?

namespace Tracks

variable {s filename : String} {L : List Token} {st : TokenStream} {k : Nat}

theorem ofTokens (s filename : String) (L : List Token) :
    Tracks s filename L (TokenStream.ofTokens s filename L) 0 :=
  ⟨rfl, rfl, Nat.zero_le _, rfl, rfl⟩

theorem pending_of_some (h : Tracks s filename L st k) {t : Token} (ht : L[k]? = some t) :
    st.pending = t :: L.drop (k + 1) := by
  obtain ⟨hlt, rfl⟩ := List.getElem?_eq_some_iff.1 ht
  rw [h.pending_eq, List.drop_eq_getElem_cons hlt]

theorem pending_of_none (h : Tracks s filename L st k) (ht : L[k]? = none) : st.pending = [] := by
  rw [h.pending_eq, List.drop_eq_nil_iff]
  exact List.getElem?_eq_none_iff.1 ht

theorem next (h : Tracks s filename L st k) {t : Token} (ht : L[k]? = some t) :
    Tracks s filename L { st with pending := L.drop (k + 1), previous := some t } (k + 1) :=
  ⟨h.source_eq, h.filename_eq, (List.getElem?_eq_some_iff.1 ht).1, rfl, by simpa using ht.symm⟩

theorem peek (h : Tracks s filename L st k) : st.peek = L[k]? := by
  rw [TokenStream.peek, h.pending_eq, List.head?_drop]

theorem isAtEnd (h : Tracks s filename L st k) : st.isAtEnd = decide (k = L.length) := by
  have hle := h.le_length
  rw [TokenStream.isAtEnd, h.pending_eq, Bool.eq_iff_iff, List.isEmpty_iff, List.drop_eq_nil_iff,
    decide_eq_true_iff]
  omega

theorem check (h : Tracks s filename L st k) (K : TokenKind) :
    st.check K = Cursor.checks L k K := by
  cases ht : L[k]? with
  | some t =>
    rw [TokenStream.check, h.pending_of_some ht, Cursor.checks, ht, Bool.eq_iff_iff,
      Token.hasKind_iff, decide_eq_true_iff]
  | none => rw [TokenStream.check, h.pending_of_none ht, Cursor.checks, ht]

theorem advance_of_some (h : Tracks s filename L st k) {t : Token} (ht : L[k]? = some t) :
    st.advance = (some t, { st with pending := L.drop (k + 1), previous := some t }) := by
  rw [TokenStream.advance, h.pending_of_some ht]

theorem advance_of_none (h : Tracks s filename L st k) (ht : L[k]? = none) :
    st.advance = (none, st) := by
  rw [TokenStream.advance, h.pending_of_none ht]

theorem advance (h : Tracks s filename L st k) :
    .token (st.advance).1 = (Cursor.respond s filename L k .advance).1 ∧
      Tracks s filename L (st.advance).2 (Cursor.respond s filename L k .advance).2 := by
  cases ht : L[k]? with
  | some t =>
    have hlt : k < L.length := (List.getElem?_eq_some_iff.1 ht).1
    rw [h.advance_of_some ht, Cursor.respond, if_pos hlt, ht]
    exact ⟨rfl, h.next ht⟩
  | none =>
    have hge : ¬ k < L.length := fun hlt => by simp [List.getElem?_eq_getElem hlt] at ht
    rw [h.advance_of_none ht, Cursor.respond, if_neg hge]
    exact ⟨rfl, h⟩

theorem skipComments (h : Tracks s filename L st k) :
    Tracks s filename L st.skipComments (Cursor.skipFrom L k) := by
  have hp : (fun t : Token => t.hasKind (.plain .comment)) = (·.kind == .plain .comment) :=
    funext Token.hasKind_comment
  have hle := Cursor.skipFrom_le_length h.le_length
  refine ⟨h.source_eq, h.filename_eq, hle, ?_, ?_⟩
  · show st.pending.dropWhile (·.hasKind (.plain .comment)) = _
    rw [h.pending_eq, hp, Cursor.dropWhile_drop]
  · -- the last comment skipped is the token before the new index; with none skipped, nothing moves
    show (st.pending.takeWhile (·.hasKind (.plain .comment))).getLast?.or st.previous = _
    rw [h.pending_eq, hp, Cursor.getLast?_takeWhile_drop]
    by_cases hk : Cursor.skipFrom L k = k
    · rw [if_pos hk, Option.none_or, h.previous_eq, hk]
    · have hpos : k < Cursor.skipFrom L k := Nat.lt_of_le_of_ne (Cursor.skipFrom_spec k).1 (Ne.symm hk)
      rw [if_neg hk, if_neg (by omega), List.getElem?_eq_getElem (by omega), Option.some_or]

theorem expect_of_some (h : Tracks s filename L st k) {t : Token} (ht : L[k]? = some t)
    (K : TokenKind) :
    st.expect K =
      if t.hasKind K then .ok (t, { st with pending := L.drop (k + 1), previous := some t })
      else
        match placeAt? s.toList t.position with
        | some (line, column) => .error (.unexpected ⟨.unexpectedToken K t, ⟨filename, line, column, t.position⟩⟩)
        | none => .error (.badOffset (.notBoundary t.position)) := by
  simp only [TokenStream.expect, h.pending_of_some ht, h.source_eq, h.filename_eq,
    SourceIndex.locateIn, SourceIndex.locate_ofString]
  cases placeAt? s.toList t.position <;> rfl

theorem expect_of_none (h : Tracks s filename L st k) (ht : L[k]? = none) (K : TokenKind) :
    st.expect K = .error (.unexpected ⟨.unexpectedEnd K,
      ⟨filename, lineOf s.toList, columnOf s.toList, byteLength s.toList⟩⟩) := by
  rw [TokenStream.expect, h.pending_of_none ht, TokenStream.endLocation, h.source_eq,
    h.filename_eq, SourceIndex.locateIn_end]

theorem expect (h : Tracks s filename L st k) (K : TokenKind) :
    (st.respond (.expect K)).1 = (Cursor.respond s filename L k (.expect K)).1 ∧
      Tracks s filename L (st.respond (.expect K)).2 (Cursor.respond s filename L k (.expect K)).2 := by
  cases ht : L[k]? with
  | some t =>
    have hcheck : Cursor.checks L k K = t.hasKind K := by
      rw [← h.check K, TokenStream.check, h.pending_of_some ht]
    simp only [TokenStream.respond, h.expect_of_some ht, Cursor.respond, ht, hcheck]
    by_cases hk : t.hasKind K = true
    · rw [if_pos hk, if_pos hk]
      exact ⟨rfl, h.next ht⟩
    · -- a token of another kind is located by its offset, and the stream stays
      rw [if_neg hk, if_neg hk]
      cases placeAt? s.toList t.position with
      | some p => exact ⟨rfl, h⟩
      | none => exact ⟨rfl, h⟩
  | none =>
    rw [TokenStream.respond, h.expect_of_none ht, Cursor.respond, ht]
    exact ⟨rfl, h⟩

/-- One request is answered alike by the stream and the cursor it stands at, and they stand
together after it. -/
theorem respond (h : Tracks s filename L st k) (q : Request) :
    (st.respond q).1 = (Cursor.respond s filename L k q).1 ∧
      Tracks s filename L (st.respond q).2 (Cursor.respond s filename L k q).2 := by
  cases q with
  | peek => exact ⟨by rw [TokenStream.respond, h.peek]; rfl, h⟩
  | advance => exact h.advance
  | previous => exact ⟨by rw [TokenStream.respond, h.previous_eq]; rfl, h⟩
  | isAtEnd => exact ⟨by rw [TokenStream.respond, h.isAtEnd]; rfl, h⟩
  | skipComments => exact ⟨by simp [TokenStream.respond, Cursor.respond, h.skipComments.peek],
      h.skipComments⟩
  | check K => exact ⟨by rw [TokenStream.respond, h.check]; rfl, h⟩
  | accept K =>
    rw [TokenStream.respond, TokenStream.accept, h.check, Cursor.respond]
    by_cases hc : Cursor.checks L k K = true
    · -- a token that checks is there, and it is handed out
      obtain ⟨t, ht⟩ : ∃ t, L[k]? = some t := by
        cases ht : L[k]? with
        | some t => exact ⟨t, rfl⟩
        | none => simp [Cursor.checks, ht] at hc
      rw [if_pos hc, if_pos hc, h.advance_of_some ht]
      exact ⟨rfl, h.next ht⟩
    · rw [if_neg hc, if_neg hc]
      exact ⟨rfl, h⟩
  | expect K => exact h.expect K

theorem run (h : Tracks s filename L st k) (qs : List Request) :
    st.run qs = Cursor.run s filename L k qs := by
  induction qs generalizing st k with
  | nil => rfl
  | cons q qs ih =>
    obtain ⟨hr, h'⟩ := h.respond q
    rw [TokenStream.run, Cursor.run, hr, ih h']

end Tracks

/-- A stream over any tokens of a text, and a stream over the scan of the text, answer every
sequence of requests as the cursor over those tokens that starts at the first. -/
theorem run_eq_cursor_run (s filename : String) (qs : List Request) :
    (∀ L, (ofTokens s filename L).run qs = Cursor.run s filename L 0 qs) ∧
      ∀ cfg, (ofString cfg s filename).run qs =
        Cursor.run s filename (Scan.tokens cfg s) 0 qs :=
  ⟨fun L => (Tracks.ofTokens s filename L).run qs,
    fun cfg => (Tracks.ofTokens s filename (Scan.tokens cfg s)).run qs⟩

end TokenStream

end ScriptLex
