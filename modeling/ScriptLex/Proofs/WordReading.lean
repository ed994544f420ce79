import ScriptLex.Proofs.PrefixTable
import ScriptLex.Scan.Lexeme
import ScriptLex.Token.Keyword

/-!
# The walk through a prefix table reads whole words

`Scan.readWord` decides whether a word is reserved without collecting it first: it walks the
ambiguous prefixes, matches the rest of the word that a key names, and falls back on an identifier
from wherever matching stopped. For a vocabulary in which every listed word has an identifying
prefix and is spelt with word characters, this is the plain rule of `Scan.readWholeWord`: take the
whole word, then look it up among the spellings.

The walk keeps two facts. What it has read is a key, an ambiguous prefix, or the first character
alone; and it stops only where no longer prefix of a key can follow. With these, the word it
settles on is the one that the whole word spells, if any.
-/

namespace ScriptLex.Scan

open ScriptLex.Unicode ScriptLex.PrefixTable

/-! ## Matching an expected text -/

theorem takeMatching_spec {es cs taken rest : List Char} {ok : Bool}
    (h : takeMatching es cs = (ok, taken, rest)) :
    taken <+: es ∧ taken ++ rest = cs ∧ (ok = true ↔ taken = es) ∧
      (ok = false → ∀ c r, rest = c :: r → es[taken.length]? ≠ some c) := by
  induction es generalizing cs ok taken rest with
  | nil =>
    simp only [takeMatching, Prod.mk.injEq] at h
    obtain ⟨rfl, rfl, rfl⟩ := h
    simp
  | cons e es ih =>
    cases cs with
    | nil =>
      simp only [takeMatching, Prod.mk.injEq] at h
      obtain ⟨rfl, rfl, rfl⟩ := h
      simp
    | cons c cs =>
      simp only [takeMatching] at h
      split at h
      · rename_i hce
        subst hce
        rcases hm : takeMatching es cs with ⟨ok', taken', rest'⟩
        rw [hm] at h
        simp only [Prod.mk.injEq] at h
        obtain ⟨rfl, rfl, rfl⟩ := h
        obtain ⟨hp, hs, hok, hmis⟩ := ih hm
        refine ⟨List.cons_prefix_cons.2 ⟨rfl, hp⟩, by rw [List.cons_append, hs], by simp [hok], ?_⟩
        intro hf c' r hr
        simpa using hmis hf c' r hr
      · rename_i hce
        simp only [Prod.mk.injEq] at h
        obtain ⟨rfl, rfl, rfl⟩ := h
        refine ⟨List.nil_prefix, rfl, by simp, fun _ c' r hr => ?_⟩
        simp only [List.cons.injEq] at hr
        obtain ⟨rfl, rfl⟩ := hr
        simpa [eq_comm] using hce

/-- Matching succeeds exactly when the expected text begins the input, and then takes just it. -/
theorem takeMatching_eq_true_iff {es cs : List Char} :
    (takeMatching es cs).1 = true ↔ es <+: cs := by
  rcases hm : takeMatching es cs with ⟨ok, taken, rest⟩
  obtain ⟨hp, hs, hok, hmis⟩ := takeMatching_spec hm
  dsimp only
  constructor
  · intro h
    rw [← hs, ← hok.1 h]
    exact List.prefix_append _ _
  · intro hes
    cases ok with
    | true => rfl
    | false =>
      -- matching stopped early, inside `es`; the input there still agrees with `es`
      have hne : taken ≠ es := fun h => absurd (hok.2 h) (by simp)
      have hlt : taken.length < es.length :=
        Nat.lt_of_le_of_ne hp.length_le (fun h => hne (hp.eq_of_length h))
      obtain ⟨c, r, hr⟩ : ∃ c r, rest = c :: r := by
        cases rest with
        | nil =>
          have := hes.length_le
          rw [← hs, List.append_nil] at this
          omega
        | cons c r => exact ⟨c, r, rfl⟩
      have hc : cs[taken.length]? = some c := by
        rw [← hs, hr, List.getElem?_append_right (Nat.le_refl _)]
        simp
      have he : es[taken.length]? = some c := by
        rw [← hc]
        obtain ⟨u, rfl⟩ := hes
        rw [List.getElem?_append_left hlt]
      exact absurd he (hmis rfl c r hr)

theorem takeMatching_of_starts {es cs : List Char} (h : es <+: cs) :
    takeMatching es cs = (true, es, cs.drop es.length) := by
  rcases hm : takeMatching es cs with ⟨ok, taken, rest⟩
  have hok : ok = true := by
    have := takeMatching_eq_true_iff.2 h
    rwa [hm] at this
  obtain ⟨-, hs, hiff, -⟩ := takeMatching_spec hm
  have ht : taken = es := hiff.1 hok
  subst hok ht
  rw [← hs, List.drop_left]

/-! ## Vocabularies that a table reads -/

variable {α : Type} [DecidableEq α] {spell : α → List Char} {ws : List α}

/-- A vocabulary that a prefix table reads: every listed word has an identifying prefix, and every
word is spelt with word characters. -/
structure Readable (spell : α → List Char) (ws : List α) : Prop where
  identified : ∀ w ∈ ws, (identifyingPrefix? spell ws w).isSome
  alnum : ∀ w ∈ ws, ∀ c ∈ spell w, isAlnum c = true

/-- Non-empty words spelt with word characters, none of whose spellings begins another's, form a
readable vocabulary. -/
theorem Readable.of_prefixFree (hne : ∀ w ∈ ws, spell w ≠ [])
    (halnum : ∀ w ∈ ws, ∀ c ∈ spell w, isAlnum c = true)
    (hfree : ∀ w ∈ ws, ∀ w' ∈ ws, w ≠ w' → ¬ spell w <+: spell w') : Readable spell ws := by
  refine ⟨fun w hw => identifyingPrefix?_isSome_iff.2 ⟨hne w hw, ?_⟩, halnum⟩
  exact fun w' hw' hne' => hfree w hw w' hw' (Ne.symm hne')

/-- `q` begins a key of the table: a reader that has read `q` may still be on its way to a word. -/
def KeyPrefix (t : PrefixTable α) (q : List Char) : Prop :=
  ∃ k w, t.find? k = some w ∧ q ≠ [] ∧ q <+: k

/-- The walk goes on to a longer prefix exactly when it begins a key. -/
theorem keyOrAmbiguous_iff {q : List Char} :
    (((ofWords spell ws).find? q).isSome || (ofWords spell ws).isAmbiguous q) = true ↔
      KeyPrefix (ofWords spell ws) q := by
  rw [Bool.or_eq_true, Option.isSome_iff_exists, isAmbiguous_iff]
  constructor
  · rintro (⟨w, hw⟩ | ⟨k, w, hk, hne, hpre, -⟩)
    · exact ⟨q, w, hw, (find?_spec hw).2.1, List.prefix_refl q⟩
    · exact ⟨k, w, hk, hne, hpre⟩
  · rintro ⟨k, w, hk, hne, hpre⟩
    by_cases hlen : q.length = k.length
    · left
      rw [hpre.eq_of_length hlen]
      exact ⟨w, hk⟩
    · right
      exact ⟨k, w, hk, hne, hpre, Nat.lt_of_le_of_ne hpre.length_le hlen⟩

theorem alnum_of_keyPrefix (hr : Readable spell ws) {q : List Char}
    (h : KeyPrefix (ofWords spell ws) q) : ∀ c ∈ q, isAlnum c = true := by
  obtain ⟨k, w, hk, -, hqk⟩ := h
  obtain ⟨hw, -, hkw, -⟩ := find?_spec hk
  exact fun c hc => hr.alnum w hw c ((hqk.trans hkw).subset hc)

/-! ## The walk through ambiguous prefixes -/

/-- The walk from `p` takes word characters only; it ends on `p` itself or on a prefix of a key;
and it stops at an ambiguous prefix that names no word only where no longer prefix of a key
follows. -/
theorem extendPrefix_spec (hr : Readable spell ws) {p input more rest : List Char}
    (h : extendPrefix (ofWords spell ws) p input = (more, rest)) :
    more ++ rest = input ∧ (∀ c ∈ more, isAlnum c = true) ∧
      (more = [] ∨ KeyPrefix (ofWords spell ws) (p ++ more)) ∧
      ((ofWords spell ws).find? (p ++ more) = none →
        (ofWords spell ws).isAmbiguous (p ++ more) = true →
        ∀ c r, rest = c :: r → ¬ KeyPrefix (ofWords spell ws) (p ++ more ++ [c])) := by
  induction input generalizing p more rest with
  | nil =>
    simp only [extendPrefix, Prod.mk.injEq] at h
    obtain ⟨rfl, rfl⟩ := h
    simp
  | cons c cs ih =>
    simp only [extendPrefix] at h
    split at h
    · rename_i hgo
      rcases he : extendPrefix (ofWords spell ws) (p ++ [c]) cs with ⟨more', rest'⟩
      rw [he] at h
      simp only [Prod.mk.injEq] at h
      obtain ⟨rfl, rfl⟩ := h
      obtain ⟨hs, hal, hreach, hstop⟩ := ih he
      simp only [Bool.and_eq_true, Option.isNone_iff_eq_none] at hgo
      have hkey : KeyPrefix (ofWords spell ws) (p ++ [c]) := keyOrAmbiguous_iff.1 hgo.2
      have hc : isAlnum c = true := alnum_of_keyPrefix hr hkey c (by simp)
      have hcons : p ++ c :: more' = p ++ [c] ++ more' := by simp
      refine ⟨by rw [List.cons_append, hs], ?_, .inr ?_, ?_⟩
      · exact fun x hx => (List.mem_cons.1 hx).elim (· ▸ hc) (hal x)
      · rw [hcons]
        rcases hreach with rfl | hk
        · simpa using hkey
        · exact hk
      · rw [hcons]
        exact hstop
    · rename_i hstop
      simp only [Prod.mk.injEq] at h
      obtain ⟨rfl, rfl⟩ := h
      refine ⟨rfl, by simp, .inl rfl, fun hnone hamb c' r hr' hkey => hstop ?_⟩
      simp only [List.cons.injEq] at hr'
      obtain ⟨rfl, rfl⟩ := hr'
      simp only [List.append_nil] at hnone hamb hkey
      simp [hnone, hamb, keyOrAmbiguous_iff.2 hkey]

/-! ## Finishing a word -/

/-- The one listed word spelt as a word whose key it starts with is the key's word. -/
theorem find?_spelling {pre : List Char} {w : α} (hw : (ofWords spell ws).find? pre = some w) :
    ws.find? (fun v => spell v == spell w) = some w := by
  obtain ⟨hws, -, hpre, huniq⟩ := find?_spec hw
  obtain ⟨v, hv⟩ : ∃ v, ws.find? (fun v => spell v == spell w) = some v :=
    Option.isSome_iff_exists.1 (List.find?_isSome.2 ⟨w, hws, by simp⟩)
  have hsp : spell v = spell w := by simpa using List.find?_some hv
  rw [hv, huniq v (List.mem_of_find?_eq_some hv) (hsp ▸ hpre)]

theorem takeWhile_dropWhile_of_head {p : Char → Bool} {l : List Char} (h : (l.head?.any p) = false) :
    l.takeWhile p = [] ∧ l.dropWhile p = l := by
  cases l with
  | nil => simp
  | cons c r => simp_all

/-- A prefix that names a word: the word is reserved if its letters all follow and no word
character comes after them; otherwise the whole word is an identifier that spells no listed
word. -/
theorem finishWord_of_find?_some (hr : Readable spell ws) {pre rest : List Char} {w : α}
    (hw : (ofWords spell ws).find? pre = some w) :
    finishWord spell (ofWords spell ws) pre rest =
      (ws.find? (fun v => spell v == pre ++ rest.takeWhile isAlnum),
        pre ++ rest.takeWhile isAlnum, rest.dropWhile isAlnum) := by
  obtain ⟨hws, -, ⟨e, he⟩, huniq⟩ := find?_spec hw
  have hdrop : (spell w).drop pre.length = e := by rw [← he, List.drop_left]
  have hal : ∀ c ∈ e, isAlnum c = true :=
    fun c hc => hr.alnum w hws c (he ▸ List.mem_append_right _ hc)
  rcases hm : takeMatching e rest with ⟨ok, taken, rest'⟩
  obtain ⟨htk, rfl, hok, hmis⟩ := takeMatching_spec hm
  have halt : ∀ c ∈ taken, isAlnum c = true := fun c hc => hal c (htk.subset hc)
  simp only [finishWord, hw, hdrop, hm, List.takeWhile_append_of_pos halt,
    List.dropWhile_append_of_pos halt]
  split
  · rename_i hend
    simp only [Bool.and_eq_true, Bool.not_eq_true'] at hend
    obtain ⟨hnext, hdrop'⟩ := takeWhile_dropWhile_of_head hend.2
    rw [hnext, hdrop', List.append_nil, hok.1 hend.1, he, find?_spelling hw]
  · rename_i hend
    -- the whole word would have to be `w`'s spelling, which the match has ruled out
    simp only [Prod.mk.injEq, List.append_assoc, and_true]
    refine (List.find?_eq_none.2 fun v hv hsp => hend ?_).symm
    have hsp : spell v = pre ++ (taken ++ rest'.takeWhile isAlnum) := by simpa using hsp
    have hvw : v = w := huniq v hv (hsp ▸ List.prefix_append _ _)
    rw [hvw, ← he] at hsp
    have he' : e = taken ++ rest'.takeWhile isAlnum := List.append_cancel_left hsp
    cases ok with
    | true =>
      have hnil : rest'.takeWhile isAlnum = [] := by
        simpa [hok.1 rfl] using he'
      cases rest' with
      | nil => rfl
      | cons c r =>
        have hc : isAlnum c = false := by
          cases hc : isAlnum c with
          | false => rfl
          | true => simp [hc] at hnil
        simp [hc]
    | false =>
      exfalso
      cases hrest : rest' with
      | nil =>
        rw [hrest] at he'
        exact absurd (hok.2 (by simpa using he'.symm)) (by simp)
      | cons c r =>
        rw [hrest] at he'
        by_cases hc : isAlnum c = true
        · apply hmis rfl c r hrest
          rw [he']
          simp [hc]
        · exact absurd (hok.2 (by simpa [hc] using he'.symm)) (by simp)

/-- A prefix that names no word, where the walk has stopped: the whole word is an identifier, for
no listed word is spelt so. -/
theorem finishWord_of_find?_none (hr : Readable spell ws) {pre rest : List Char}
    (hnone : (ofWords spell ws).find? pre = none)
    (hreach : pre.length = 1 ∨ KeyPrefix (ofWords spell ws) pre)
    (hstop : (ofWords spell ws).isAmbiguous pre = true →
      ∀ c r, rest = c :: r → ¬ KeyPrefix (ofWords spell ws) (pre ++ [c])) :
    finishWord spell (ofWords spell ws) pre rest =
      (ws.find? (fun v => spell v == pre ++ rest.takeWhile isAlnum),
        pre ++ rest.takeWhile isAlnum, rest.dropWhile isAlnum) := by
  simp only [finishWord, hnone, Prod.mk.injEq, and_true]
  refine (List.find?_eq_none.2 fun v hv hsp => ?_).symm
  have hsp : spell v = pre ++ rest.takeWhile isAlnum := by simpa using hsp
  -- compare `pre` with the key `k` of the word `v` that the whole word would spell
  obtain ⟨k, hk⟩ := Option.isSome_iff_exists.1 (hr.identified v hv)
  have hkv := find?_eq_some_iff.2 ⟨hv, hk⟩
  obtain ⟨-, hkne, hkpre, hkuniq⟩ := find?_spec hkv
  have hpre : pre <+: spell v := hsp ▸ List.prefix_append _ _
  have hpk : pre ≠ k := fun h => by rw [h, hkv] at hnone; cases hnone
  rcases List.prefix_or_prefix_of_prefix hkpre hpre with hkp | hpk'
  · -- a key inside `pre` would make `pre` a key or no prefix of any key
    have hlt : k.length < pre.length :=
      Nat.lt_of_le_of_ne hkp.length_le fun h => hpk (hkp.eq_of_length h).symm
    rcases hreach with h1 | ⟨k', w', hk', -, hpk''⟩
    · have : k.length = 0 := by omega
      exact hkne (List.eq_nil_of_length_eq_zero this)
    · have hw' : w' = v := hkuniq w' (find?_spec hk').1 (hkp.trans (hpk''.trans (find?_spec hk').2.2.1))
      rw [hw'] at hk'
      have := (eq_of_find? hk' hkv) ▸ hpk''.length_le
      omega
  · -- `pre` is ambiguous, so the walk stopped before a character that goes on towards `k`
    have hlt : pre.length < k.length :=
      Nat.lt_of_le_of_ne hpk'.length_le fun h => hpk (hpk'.eq_of_length h)
    have hne : pre ≠ [] := by
      rcases hreach with h1 | ⟨-, -, -, hne, -⟩
      · exact List.ne_nil_of_length_pos (by omega)
      · exact hne
    have hamb := isAmbiguous_iff.2 ⟨k, v, hkv, hne, hpk', hlt⟩
    have hlen := hkpre.length_le
    rw [hsp, List.length_append] at hlen
    cases hrest : rest with
    | nil => simp [hrest] at hlen; omega
    | cons c r =>
      rw [hrest] at hsp hlen
      by_cases hc : isAlnum c = true
      · apply hstop hamb c r hrest
        refine ⟨k, v, hkv, by simp, List.prefix_of_prefix_length_le ?_ hkpre (by simp; omega)⟩
        rw [hsp]
        simp [hc]
      · simp [hc] at hlen
        omega

/-- Reading a word through the table of a readable vocabulary gives what the plain rule gives:
the whole word, reserved exactly when it spells a listed word. -/
theorem readWord_eq_readWholeWord (hr : Readable spell ws) (first : Char) (input : List Char) :
    readWord spell (ofWords spell ws) first input = readWholeWord spell ws first input := by
  rcases he : extendPrefix (ofWords spell ws) [first] input with ⟨more, rest⟩
  obtain ⟨rfl, hal, hreach, hstop⟩ := extendPrefix_spec hr he
  have hpre : [first] ++ more = first :: more := rfl
  rw [hpre] at hreach hstop
  have hwhole : readWholeWord spell ws first (more ++ rest) =
      (ws.find? (fun v => spell v == first :: more ++ rest.takeWhile isAlnum),
        first :: more ++ rest.takeWhile isAlnum, rest.dropWhile isAlnum) := by
    simp [readWholeWord, List.takeWhile_append_of_pos hal, List.dropWhile_append_of_pos hal]
  rw [hwhole]
  simp only [readWord, he]
  cases hfind : (ofWords spell ws).find? (first :: more) with
  | some w => exact finishWord_of_find?_some hr hfind
  | none =>
    refine finishWord_of_find?_none hr hfind ?_ (fun hamb => hstop hfind hamb)
    rcases hreach with rfl | h
    · exact .inl rfl
    · exact .inr h

end ScriptLex.Scan

namespace ScriptLex.Unicode

/-! ## Word characters -/

theorem isAlnum_of_isDigit {c : Char} (h : c.isDigit = true) : isAlnum c = true := by
  have hn := Char.isDigit_iff_toNat.1 h
  have hr : numericRanges = (0x30, 0x39) :: numericRanges.tail := rfl
  have hlo : ¬ c.toNat < 0x30 := by simp at hn; omega
  have hhi : c.toNat ≤ 0x39 := by simp at hn; omega
  rw [isAlnum, isNumeric, hr, inRanges, if_neg hlo, if_pos hhi, Bool.or_true]

theorem isAlnum_of_lower {c : Char} (h : 97 ≤ c.toNat ∧ c.toNat ≤ 122) : isAlnum c = true := by
  have hr : letterRanges = (0x41, 0x5A) :: (0x61, 0x7A) :: letterRanges.tail.tail := rfl
  have h1 : ¬ c.toNat < 0x41 := by omega
  have h2 : ¬ c.toNat ≤ 0x5A := by omega
  have h3 : ¬ c.toNat < 0x61 := by omega
  have h4 : c.toNat ≤ 0x7A := by omega
  rw [isAlnum, isLetter, hr, inRanges, if_neg h1, if_neg h2, inRanges, if_neg h3, if_pos h4,
    Bool.true_or]

end ScriptLex.Unicode

namespace ScriptLex.Keyword

/-! ## The reserved words -/

/-- The reserved words form a readable vocabulary: none is a prefix of another, and all are
spelt in lower-case letters. -/
theorem readable : Scan.Readable (fun k => k.spelling.toList) all := by
  -- checked word by word as `List.all`, which evaluates without enumerating characters
  have hid : all.all (fun w => (PrefixTable.identifyingPrefix? (fun k => k.spelling.toList) all w).isSome) = true := by
    decide
  have hlow : all.all (fun w => w.spelling.toList.all fun c => 97 ≤ c.toNat && c.toNat ≤ 122) = true := by
    decide
  refine ⟨fun w hw => List.all_eq_true.1 hid w hw, fun w hw c hc => Unicode.isAlnum_of_lower ?_⟩
  simpa using List.all_eq_true.1 (List.all_eq_true.1 hlow w hw) c hc

end ScriptLex.Keyword

namespace ScriptLex.Scan

open ScriptLex.Unicode ScriptLex.PrefixTable

variable {α : Type} [DecidableEq α] {spell : α → List Char} {ws : List α}

/-- For non-empty words spelt with word characters, none of whose spellings begins another's, the
table builds, and reading a word through it takes the first character and the longest run of word
characters after it; the word is a listed word exactly when it is that word's spelling. -/
theorem readWord_ofWords?_reads_whole_word (hne : ∀ w ∈ ws, spell w ≠ [])
    (halnum : ∀ w ∈ ws, ∀ c ∈ spell w, isAlnum c = true)
    (hfree : ∀ w ∈ ws, ∀ w' ∈ ws, w ≠ w' → ¬ spell w <+: spell w') :
    ∃ t, ofWords? spell ws = .ok t ∧ ∀ (x : Char) (r : List Char),
      (readWord spell t x r).2.1 = x :: r.takeWhile isAlnum ∧
      (readWord spell t x r).2.2 = r.dropWhile isAlnum ∧
      ∀ k, (readWord spell t x r).1 = some k ↔ k ∈ ws ∧ spell k = x :: r.takeWhile isAlnum := by
  have hr := Readable.of_prefixFree hne halnum hfree
  refine ⟨ofWords spell ws, ofWords?_eq_ok_iff.2 ⟨hr.identified, rfl⟩, fun x r => ?_⟩
  rw [readWord_eq_readWholeWord hr]
  refine ⟨rfl, rfl, fun k => ?_⟩
  simp only [readWholeWord]
  constructor
  · intro h
    exact ⟨List.mem_of_find?_eq_some h, by simpa using List.find?_some h⟩
  · rintro ⟨hk, hsp⟩
    -- the lookup finds some word of that spelling, and two words never share a spelling
    obtain ⟨v, hv⟩ : ∃ v, ws.find? (fun w => spell w == x :: r.takeWhile isAlnum) = some v :=
      Option.isSome_iff_exists.1 (List.find?_isSome.2 ⟨k, hk, by simp [hsp]⟩)
    have hvsp : spell v = x :: r.takeWhile isAlnum := by simpa using List.find?_some hv
    have hvk : v = k := by
      by_cases hvk : v = k
      · exact hvk
      · exact absurd ⟨[], by rw [List.append_nil, hvsp, hsp]⟩
          (hfree v (List.mem_of_find?_eq_some hv) k hk hvk)
    rw [hv, hvk]

/-- The reserved words build their table, and it reads whole words. -/
theorem keywords_read_whole_words :
    (∀ k ∈ Keyword.all, k.spelling.toList ≠ []) ∧
      (∀ k ∈ Keyword.all, ∀ c ∈ k.spelling.toList, isAlnum c = true) ∧
      (∀ k ∈ Keyword.all, ∀ k' ∈ Keyword.all, k ≠ k' →
        ¬ k.spelling.toList <+: k'.spelling.toList) ∧
      ∃ t, Keyword.tableOf? Keyword.all = .ok t ∧ ∀ (x : Char) (r : List Char),
        (readWord (fun k => k.spelling.toList) t x r).2.1 = x :: r.takeWhile isAlnum ∧
        (readWord (fun k => k.spelling.toList) t x r).2.2 = r.dropWhile isAlnum ∧
        ∀ k, (readWord (fun k => k.spelling.toList) t x r).1 = some k ↔
          k ∈ Keyword.all ∧ k.spelling.toList = x :: r.takeWhile isAlnum := by
  have hne : ∀ k ∈ Keyword.all, k.spelling.toList ≠ [] := by decide
  have hfree : ∀ k ∈ Keyword.all, ∀ k' ∈ Keyword.all, k ≠ k' →
      ¬ k.spelling.toList <+: k'.spelling.toList := by
    decide
  exact ⟨hne, Keyword.readable.alnum, hfree,
    readWord_ofWords?_reads_whole_word hne Keyword.readable.alnum hfree⟩

end ScriptLex.Scan
