import ScriptLex.Proofs.IndexPlaces

/-!
# Offset lookups against a plain count

The index of a text answers two questions about an integer byte offset `n`: where in the text it
lies, and which character starts there. Both answers are checked here against a plain count over
the first `i` characters of the text: their UTF-8 byte length `Text.bytesBefore s i`, the line feeds
among them, and `Text.lineStart`, the index just after the last of these line feeds.

The binary search among the character starts finds `i` exactly when `n` is the byte length of the
first `i` characters, and the one among the line starts then counts the line feeds before `i` and
finds where the last line began. Every other offset, negative, past the end or inside a multi-byte
character, is refused with its own reason (`SourceIndex.ofString_lookups_agree`).
-/

namespace ScriptLex

namespace Text

/-- The per-character widths add up to the size of the UTF-8 encoding. -/
theorem byteLength_eq_utf8ByteSize (cs : List Char) :
    byteLength cs = (String.ofList cs).utf8ByteSize := by
  induction cs with
  | nil => simp
  | cons c cs ih =>
    rw [byteLength_cons, ih, ← List.singleton_append, String.ofList_append,
      String.utf8ByteSize_append, ← String.singleton_eq_ofList, String.utf8ByteSize_singleton]

/-- The UTF-8 byte length of the first `i` characters of `s`. -/
def bytesBefore (s : String) (i : Nat) : Nat := (String.ofList (s.toList.take i)).utf8ByteSize

theorem bytesBefore_eq_byteLength (s : String) (i : Nat) :
    bytesBefore s i = byteLength (s.toList.take i) :=
  (byteLength_eq_utf8ByteSize _).symm

/-- Two first parts of a text with the same byte length are the same part. -/
theorem eq_of_bytesBefore_eq {s : String} {i j : Nat} (hi : i ≤ s.length) (hj : j ≤ s.length)
    (h : bytesBefore s i = bytesBefore s j) : i = j := by
  rw [bytesBefore_eq_byteLength, bytesBefore_eq_byteLength] at h
  have hsplit : s.toList.take i ++ s.toList.drop i = s.toList.take j ++ s.toList.drop j := by
    rw [List.take_append_drop, List.take_append_drop]
  have htake := congrArg List.length (eq_of_byteLength_eq hsplit h).1
  rw [List.length_take, List.length_take, String.length_toList] at htake
  omega

/-- The index just after the last line feed among the first `i` characters of `cs`, or `0` when
there is none. -/
def lineStart (cs : List Char) (i : Nat) : Nat :=
  match ((List.range i).filter fun k => cs[k]? == some '\n').getLast? with
  | some k => k + 1
  | none => 0

theorem lineStart_succ {cs : List Char} {i : Nat} (h : i < cs.length) :
    lineStart cs (i + 1) = if cs[i] = '\n' then i + 1 else lineStart cs i := by
  by_cases hc : cs[i] = '\n' <;>
    simp [lineStart, List.range_succ, List.filter_append, List.getElem?_eq_getElem h, hc]

theorem lineStart_le (cs : List Char) (i : Nat) : lineStart cs i ≤ i := by
  rw [lineStart]
  split
  · rename_i k hk
    have hmem : k ∈ List.range i := (List.mem_filter.1 (List.mem_of_getLast? hk)).1
    rw [List.mem_range] at hmem
    omega
  · exact Nat.zero_le i

theorem columnOf_append_singleton (u : List Char) (c : Char) :
    columnOf (u ++ [c]) = if c = '\n' then 1 else columnOf u + 1 := by
  by_cases hc : c = '\n' <;> simp [columnOf, hc]

/-- The column after the first `i` characters counts the characters since the last line feed. -/
theorem columnOf_take {cs : List Char} {i : Nat} (h : i ≤ cs.length) :
    columnOf (cs.take i) = i - lineStart cs i + 1 := by
  induction i with
  | zero => rfl
  | succ i ih =>
    have hle := lineStart_le cs i
    rw [List.take_succ_eq_append_getElem (by omega), columnOf_append_singleton,
      lineStart_succ (by omega), ih (by omega)]
    split <;> omega

theorem length_filter_lineFeed {cs : List Char} {i : Nat} (h : i ≤ cs.length) :
    ((List.range i).filter fun k => cs[k]? == some '\n').length = (cs.take i).count '\n' := by
  induction i with
  | zero => simp
  | succ i ih =>
    rw [List.range_succ, List.filter_append, List.length_append, ih (by omega),
      List.take_succ_eq_append_getElem (by omega), List.count_append]
    by_cases hc : cs[i] = '\n' <;> simp [List.getElem?_eq_getElem (show i < cs.length by omega), hc]

theorem foldl_add_utf8Width (cs : List Char) (k : Nat) :
    cs.foldl (fun n c => n + utf8Width c) k = k + byteLength cs := by
  induction cs generalizing k with
  | nil => rfl
  | cons c cs ih =>
    rw [List.foldl_cons, ih, utf8Width_eq_utf8Size, byteLength_cons]
    omega

end Text

open Text

namespace SourceIndex

variable {s : String}

/-! ## The lists of the index of a text -/

@[simp] theorem ofString_source : (ofString s).source = s.toList := rfl

theorem ofString_starts : (ofString s).starts = (List.range s.length).map (bytesBefore s) := by
  show (IndexBuild.run s.toList).starts = _
  rw [IndexBuild.run_eq, String.length_toList]
  exact List.map_congr_left fun k _ => (bytesBefore_eq_byteLength s k).symm

theorem ofString_lineStarts :
    (ofString s).lineStarts =
      0 :: ((List.range s.length).filter fun k => s.toList[k]? == some '\n').map (· + 1) := by
  show (IndexBuild.run s.toList).lineStarts = _
  rw [IndexBuild.run_eq, String.length_toList]

theorem size_ofString : (ofString s).size = bytesBefore s s.length := by
  show (IndexBuild.run s.toList).position = _
  rw [IndexBuild.run_eq, bytesBefore_eq_byteLength, ← String.length_toList, List.take_length]

theorem length_starts_ofString : (ofString s).starts.length = s.length := by
  rw [(ofString s).starts_length, ofString_source, String.length_toList]

theorem getElem_starts_ofString {k : Nat} (hk : k < (ofString s).starts.length) :
    (ofString s).starts[k] = bytesBefore s k := by
  simp only [ofString_starts, List.getElem_map, List.getElem_range]

theorem starts_ofString_pairwise : (ofString s).starts.Pairwise (· < ·) :=
  IndexBuild.run_starts_pairwise s.toList

theorem lineStarts_ofString_pairwise : (ofString s).lineStarts.Pairwise (· < ·) :=
  IndexBuild.run_lineStarts_pairwise s.toList

/-- The binary search among the character starts finds a character at its own start. -/
theorem bisectLeft_starts_ofString {i : Nat} (hi : i < s.length) :
    bisectLeft (ofString s).starts (bytesBefore s i) = i :=
  bisectLeft_eq_of_getElem_eq starts_ofString_pairwise (by rw [length_starts_ofString]; exact hi)
    (by rw [getElem_starts_ofString])

/-- The line starts up to character index `i` are zero and the index after each line feed before
`i`. -/
theorem takeWhile_lineStarts_ofString {i : Nat} (hi : i ≤ s.length) :
    (ofString s).lineStarts.takeWhile (fun v => !decide (i < v)) =
      0 :: ((List.range i).filter fun k => s.toList[k]? == some '\n').map (· + 1) := by
  obtain ⟨m, hm⟩ : ∃ m, s.length = i + m := ⟨s.length - i, by omega⟩
  -- the line starts after index `i` all lie past `i`, so the run ends where they begin
  have stop : ∀ l : List Nat, (∀ v ∈ l, i < v) → l.takeWhile (fun v => !decide (i < v)) = [] := by
    rintro (_ | ⟨v, l⟩) h
    · rfl
    · simp [h v List.mem_cons_self]
  have hafter : ∀ v ∈ (((List.range m).map (i + ·)).filter fun k => s.toList[k]? == some '\n').map
      (· + 1), i < v := by
    simp only [List.mem_map, List.mem_filter, List.mem_range]
    rintro v ⟨k, ⟨⟨j, -, rfl⟩, -⟩, rfl⟩
    omega
  rw [ofString_lineStarts, hm, List.range_add, List.filter_append, List.map_append,
    List.takeWhile_cons_of_pos (by simp), List.takeWhile_append_of_pos (by simp; omega),
    stop _ hafter, List.append_nil]

/-- The binary search among the line starts counts the line feeds before `i`. -/
theorem bisectRight_lineStarts_ofString {i : Nat} (hi : i ≤ s.length) :
    bisectRight (ofString s).lineStarts i = (s.toList.take i).count '\n' + 1 := by
  rw [bisectRight_eq_length_takeWhile lineStarts_ofString_pairwise,
    takeWhile_lineStarts_ofString hi, List.length_cons, List.length_map,
    length_filter_lineFeed (by rw [String.length_toList]; exact hi)]

/-- The line start it stops after is the index after the last line feed before `i`. -/
theorem getElem_lineStarts_ofString {i : Nat} (hi : i ≤ s.length)
    (h : bisectRight (ofString s).lineStarts i - 1 < (ofString s).lineStarts.length) :
    (ofString s).lineStarts[bisectRight (ofString s).lineStarts i - 1] = lineStart s.toList i := by
  have hpre := List.takeWhile_prefix (fun v => !decide (i < v)) (l := (ofString s).lineStarts)
  have hlen : bisectRight (ofString s).lineStarts i - 1 <
      ((ofString s).lineStarts.takeWhile fun v => !decide (i < v)).length := by
    rw [bisectRight_eq_length_takeWhile lineStarts_ofString_pairwise,
      takeWhile_lineStarts_ofString hi, List.length_cons]
    omega
  rw [← hpre.getElem hlen, List.getElem_eq_iff]
  simp only [bisectRight_eq_length_takeWhile lineStarts_ofString_pairwise,
    takeWhile_lineStarts_ofString hi, lineStart]
  -- the last of zero and the indices after the line feeds
  generalize ((List.range i).filter fun k => s.toList[k]? == some '\n') = F
  rcases List.eq_nil_or_concat F with rfl | ⟨F, k, rfl⟩ <;> simp

/-! ## Character indices -/

theorem charIndex?_ofString_spec {n : Int} {index : Fin ((ofString s).source.length + 1)}
    (h : (ofString s).charIndex? n = some index) :
    (index : Nat) ≤ s.length ∧ n = bytesBefore s index := by
  rw [charIndex?] at h
  split at h
  · rename_i hsize
    cases h
    simp [hsize, size_ofString, String.length_toList]
  · split at h
    · split at h
      · rename_i hlt heq
        cases h
        rw [length_starts_ofString] at hlt
        rw [getElem_starts_ofString] at heq
        exact ⟨hlt.le, heq.symm⟩
      · cases h
    · cases h

/-- Every boundary is found: the end of the text by its size, a character start by the search. -/
theorem charIndex?_ofString_bytesBefore {i : Nat} (hi : i ≤ s.length) :
    ((ofString s).charIndex? (bytesBefore s i)).map Fin.val = some i := by
  rcases Nat.lt_or_eq_of_le hi with hlt | rfl
  · have hne : ((bytesBefore s i : Nat) : Int) ≠ (ofString s).size := by
      rw [size_ofString]
      exact fun h => Nat.ne_of_lt hlt (eq_of_bytesBefore_eq hi le_rfl (by exact_mod_cast h))
    have hlen : bisectLeft (ofString s).starts (bytesBefore s i) < (ofString s).starts.length := by
      rw [bisectLeft_starts_ofString hlt, length_starts_ofString]
      exact hlt
    rw [charIndex?, if_neg hne, dif_pos hlen,
      if_pos (by rw [getElem_starts_ofString, bisectLeft_starts_ofString hlt])]
    simp [bisectLeft_starts_ofString hlt]
  · rw [charIndex?, if_pos (by rw [size_ofString])]
    simp only [Option.map_some, Fin.val_last, ofString_source, String.length_toList]

theorem charIndex?_ofString_eq_some_iff {n : Int} {i : Nat} :
    ((ofString s).charIndex? n).map Fin.val = some i ↔ i ≤ s.length ∧ n = bytesBefore s i := by
  constructor
  · rw [Option.map_eq_some_iff]
    rintro ⟨index, h, rfl⟩
    exact charIndex?_ofString_spec h
  · rintro ⟨hi, rfl⟩
    exact charIndex?_ofString_bytesBefore hi

theorem charIndex?_ofString_eq_none_iff {n : Int} :
    (ofString s).charIndex? n = none ↔ ∀ i ≤ s.length, n ≠ bytesBefore s i := by
  constructor
  · intro h i hi hn
    have := charIndex?_ofString_eq_some_iff.2 ⟨hi, hn⟩
    rw [h] at this
    cases this
  · intro h
    cases hc : (ofString s).charIndex? n with
    | none => rfl
    | some index =>
      obtain ⟨hi, hn⟩ := charIndex?_ofString_spec hc
      exact absurd hn (h _ hi)

/-! ## Locations and characters -/

theorem locate_ofString_of_charIndex? (filename : String) {n : Int}
    {index : Fin ((ofString s).source.length + 1)} (h : (ofString s).charIndex? n = some index) :
    (ofString s).locate filename n =
      .ok ⟨filename, (s.toList.take index).count '\n' + 1, index - lineStart s.toList index + 1, n⟩ := by
  have hi := (charIndex?_ofString_spec h).1
  rw [locate, h]
  simp only [Except.ok.injEq, Location.mk.injEq, true_and, and_true]
  exact ⟨bisectRight_lineStarts_ofString hi, by rw [getElem_lineStarts_ofString hi]⟩

/-- The character at a boundary: the one at its index, none at the end of the text. -/
theorem charAt_ofString_of_charIndex? {n : Int} {index : Fin ((ofString s).source.length + 1)}
    (h : (ofString s).charIndex? n = some index) :
    (ofString s).charAt n =
      match s.toList[(index : Nat)]? with
      | some c => .ok c
      | none => .error (.noCharacter n) := by
  rw [charAt, h]
  dsimp only
  -- the index of the end of the text has no character, every other index one
  split
  · rename_i hend
    rw [List.getElem?_eq_none (by simp only [ofString_source] at hend; omega)]
  · rename_i hend
    rw [List.getElem?_eq_getElem (by
      have := index.isLt
      simp only [ofString_source] at hend this ⊢
      omega)]
    rfl

theorem locate_ofString_eq_ok_iff {filename : String} {n : Int} {loc : Location} :
    (ofString s).locate filename n = .ok loc ↔
      ∃ i ≤ s.length, n = bytesBefore s i ∧
        loc = ⟨filename, (s.toList.take i).count '\n' + 1, i - lineStart s.toList i + 1, n⟩ := by
  cases hc : (ofString s).charIndex? n with
  | none =>
    rw [locate, hc]
    refine ⟨fun h => (by cases h), ?_⟩
    rintro ⟨i, hi, hn, -⟩
    exact absurd hn (charIndex?_ofString_eq_none_iff.1 hc i hi)
  | some index =>
    obtain ⟨hi, hn⟩ := charIndex?_ofString_spec hc
    rw [locate_ofString_of_charIndex? filename hc, Except.ok.injEq]
    constructor
    · rintro rfl
      exact ⟨index, hi, hn, rfl⟩
    · rintro ⟨j, hj, hn', rfl⟩
      -- the byte length fixes the first part, so the index found is `j`
      obtain rfl : (index : Nat) = j := eq_of_bytesBefore_eq hi hj (by omega)
      rfl

theorem locate_ofString_eq_error_iff {filename : String} {n : Int} :
    (ofString s).locate filename n = .error (.notBoundary n) ↔
      ∀ i ≤ s.length, n ≠ bytesBefore s i := by
  rw [← charIndex?_ofString_eq_none_iff]
  cases hc : (ofString s).charIndex? n with
  | none => simp [locate, hc]
  | some index => simp [locate_ofString_of_charIndex? filename hc]

theorem charAt_ofString_eq_ok_iff {n : Int} {c : Char} :
    (ofString s).charAt n = .ok c ↔
      ∃ i < s.length, n = bytesBefore s i ∧ s.toList[i]? = some c := by
  cases hc : (ofString s).charIndex? n with
  | none =>
    rw [charAt, hc]
    refine ⟨fun h => (by cases h), ?_⟩
    rintro ⟨i, hi, hn, -⟩
    exact absurd hn (charIndex?_ofString_eq_none_iff.1 hc i hi.le)
  | some index =>
    obtain ⟨hi, hn⟩ := charIndex?_ofString_spec hc
    rw [charAt_ofString_of_charIndex? hc]
    constructor
    · intro h
      split at h
      · rename_i c' hc'
        cases h
        exact ⟨index, (List.getElem?_eq_some_iff.1 hc').1, hn, hc'⟩
      · cases h
    · rintro ⟨j, hj, hn', hcj⟩
      obtain rfl : (index : Nat) = j := eq_of_bytesBefore_eq hi hj.le (by omega)
      rw [hcj]

theorem charAt_ofString_eq_error_iff {n : Int} :
    (ofString s).charAt n = .error (.noCharacter n) ↔ ∀ i < s.length, n ≠ bytesBefore s i := by
  cases hc : (ofString s).charIndex? n with
  | none =>
    rw [charAt, hc]
    exact ⟨fun _ i hi => charIndex?_ofString_eq_none_iff.1 hc i hi.le, fun _ => rfl⟩
  | some index =>
    obtain ⟨hi, hn⟩ := charIndex?_ofString_spec hc
    rw [charAt_ofString_of_charIndex? hc]
    constructor
    · -- only the end of the text is a boundary with no character
      intro h j hj hn'
      split at h
      · cases h
      · rename_i hnone
        have hend := List.getElem?_eq_none_iff.1 hnone
        have := eq_of_bytesBefore_eq hi hj.le (by omega)
        simp only [String.length_toList] at hend
        omega
    · intro h
      rw [List.getElem?_eq_none (by have := h index; simp only [String.length_toList]; omega)]

/-! ## Lookups at a cut of the text -/

/-- The place after a first part `u` of a text is located at the byte length of `u`. -/
theorem locate_ofString_of_eq_append {u v : List Char} (h : s.toList = u ++ v) (filename : String) :
    (ofString s).locate filename (byteLength u) =
      .ok ⟨filename, lineOf u, columnOf u, byteLength u⟩ := by
  have hu : s.toList.take u.length = u := by rw [h, List.take_left]
  have hi : u.length ≤ s.length := by
    rw [← String.length_toList, h, List.length_append]
    omega
  refine locate_ofString_eq_ok_iff.2 ⟨u.length, hi, by rw [bytesBefore_eq_byteLength, hu], ?_⟩
  rw [← columnOf_take (by rw [String.length_toList]; exact hi), hu]
  rfl

/-- The character after a first part `u` of a text starts at the byte length of `u`. -/
theorem charAt_ofString_of_eq_append {u v : List Char} {c : Char} (h : s.toList = u ++ c :: v) :
    (ofString s).charAt (byteLength u) = .ok c := by
  have hu : s.toList.take u.length = u := by rw [h, List.take_left]
  have hi : u.length < s.length := by
    rw [← String.length_toList, h, List.length_append, List.length_cons]
    omega
  refine charAt_ofString_eq_ok_iff.2 ⟨u.length, hi, by rw [bytesBefore_eq_byteLength, hu], ?_⟩
  rw [h, List.getElem?_append_right le_rfl, Nat.sub_self, List.getElem?_cons_zero]

/-- An offset is located where a first part of the text of that byte length ends. -/
theorem locate_ofString (s filename : String) (n : Int) :
    (ofString s).locate filename n =
      match placeAt? s.toList n with
      | some (line, column) => .ok ⟨filename, line, column, n⟩
      | none => .error (.notBoundary n) := by
  cases hp : placeAt? s.toList n with
  | none =>
    refine locate_ofString_eq_error_iff.2 fun i hi hn => ?_
    have := (placeAt?_eq_some_iff (n := n)).2
      ⟨_, _, (List.take_append_drop i s.toList).symm, by rw [hn, bytesBefore_eq_byteLength], rfl⟩
    rw [hp] at this
    cases this
  | some p =>
    obtain ⟨u, v, h, rfl, rfl⟩ := placeAt?_eq_some_iff.1 hp
    exact locate_ofString_of_eq_append h filename

/-- The widths of all the characters add up to the end of the text, which lies after them all. -/
theorem locateIn_end (s filename : String) :
    locateIn s filename (s.toList.foldl (fun n c => n + utf8Width c) 0 : Nat) =
      .ok ⟨filename, lineOf s.toList, columnOf s.toList, byteLength s.toList⟩ := by
  rw [locateIn, foldl_add_utf8Width, Nat.zero_add]
  exact locate_ofString_of_eq_append (List.append_nil _).symm filename

/-- The index of a text agrees with a plain count over the text. Its size is the byte length of
the whole text. An integer offset `n` is located when it is the byte length of the first `i`
characters for some `i`, which is then unique, at line one more than the line feeds among them and
column `i - j + 1`, `j` being the index after the last of those line feeds; otherwise it is refused
as no boundary. The character at `n` is the `i`-th character when `n` is the byte length of the
first `i` characters and `i` is less than the length of the text; otherwise no character starts at
`n`. -/
theorem ofString_lookups_agree (s filename : String) (n : Int) :
    (ofString s).size = bytesBefore s s.length ∧
      (∀ i ≤ s.length, ∀ j ≤ s.length, bytesBefore s i = bytesBefore s j → i = j) ∧
      (∀ loc, (ofString s).locate filename n = .ok loc ↔
        ∃ i ≤ s.length, n = bytesBefore s i ∧
          loc = ⟨filename, (s.toList.take i).count '\n' + 1, i - lineStart s.toList i + 1, n⟩) ∧
      ((ofString s).locate filename n = .error (.notBoundary n) ↔
        ∀ i ≤ s.length, n ≠ bytesBefore s i) ∧
      (∀ c, (ofString s).charAt n = .ok c ↔
        ∃ i < s.length, n = bytesBefore s i ∧ s.toList[i]? = some c) ∧
      ((ofString s).charAt n = .error (.noCharacter n) ↔ ∀ i < s.length, n ≠ bytesBefore s i) :=
  ⟨size_ofString, fun _ hi _ hj => eq_of_bytesBefore_eq hi hj, fun _ => locate_ofString_eq_ok_iff,
    locate_ofString_eq_error_iff, fun _ => charAt_ofString_eq_ok_iff, charAt_ofString_eq_error_iff⟩

-- `é` takes bytes 1 and 2, so byte 2 starts no character; `b` starts line 2 at byte 4
example : (ofString "aé\nb").charAt 2 = .error (.noCharacter 2) ∧
    (ofString "aé\nb").locate "f" 4 = .ok ⟨"f", 2, 1, 4⟩ := by
  decide +kernel

end SourceIndex

end ScriptLex
