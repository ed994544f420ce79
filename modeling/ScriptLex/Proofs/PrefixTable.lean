import ScriptLex.Token.PrefixTable

/-!
# The keys of a prefix table

A prefix that identifies a word is a prefix of no other listed word's spelling, so two words never
share one. The keys of `PrefixTable.ofWords` are therefore exactly the listed words' identifying
prefixes, each with its own word: however often a word is listed, and in whatever order, a lookup
by prefix finds the one word that the prefix identifies. A prefix is ambiguous exactly when it is
a proper, non-empty prefix of a key.
-/

namespace ScriptLex.PrefixTable

variable {α : Type}

/-! ## Keeping the first entry of each key -/

theorem mem_of_mem_foldl_first {l acc : List (List Char × α)} {e : List Char × α}
    (h : e ∈ l.foldl (fun acc e => if acc.any (·.1 == e.1) then acc else acc ++ [e]) acc) :
    e ∈ acc ∨ e ∈ l := by
  induction l generalizing acc with
  | nil => exact .inl h
  | cons x l ih =>
    rcases ih h with h | h
    · dsimp only at h
      split at h
      · exact .inl h
      · rcases List.mem_append.1 h with h | h
        · exact .inl h
        · exact .inr (by simp_all)
    · exact .inr (List.mem_cons_of_mem x h)

theorem mem_foldl_first_of_mem {l acc : List (List Char × α)} {e : List Char × α} (h : e ∈ acc) :
    e ∈ l.foldl (fun acc e => if acc.any (·.1 == e.1) then acc else acc ++ [e]) acc := by
  induction l generalizing acc with
  | nil => exact h
  | cons x l ih =>
    apply ih
    dsimp only
    split
    · exact h
    · exact List.mem_append_left _ h

theorem exists_key_foldl_first {l acc : List (List Char × α)} {e : List Char × α} (h : e ∈ l) :
    ∃ e' ∈ l.foldl (fun acc e => if acc.any (·.1 == e.1) then acc else acc ++ [e]) acc,
      e'.1 = e.1 := by
  induction l generalizing acc with
  | nil => simp at h
  | cons x l ih =>
    rcases List.mem_cons.1 h with rfl | h
    · -- the step either finds the key already kept or keeps `e`; what is kept stays
      simp only [List.foldl_cons]
      split
      · rename_i hx
        obtain ⟨e', he', hk⟩ := List.any_eq_true.1 hx
        exact ⟨e', mem_foldl_first_of_mem he', by simpa using hk⟩
      · exact ⟨e, mem_foldl_first_of_mem (by simp), rfl⟩
    · exact ih h

/-- What the fold keeps has each key once. -/
theorem foldl_first_pairwise_ne {l acc : List (List Char × α)}
    (h : acc.Pairwise (fun a b => a.1 ≠ b.1)) :
    (l.foldl (fun acc e => if acc.any (·.1 == e.1) then acc else acc ++ [e]) acc).Pairwise
      (fun a b => a.1 ≠ b.1) := by
  induction l generalizing acc with
  | nil => exact h
  | cons x l ih =>
    apply ih
    dsimp only
    split
    · exact h
    · rename_i hx
      -- `x` is kept only when its key is not kept yet
      refine List.pairwise_append.2 ⟨h, List.pairwise_singleton _ _, fun a ha b hb heq => ?_⟩
      rw [List.mem_singleton] at hb
      subst hb
      exact hx (List.any_eq_true.2 ⟨a, ha, by simp [heq]⟩)

variable [DecidableEq α] {spell : α → List Char} {ws : List α}

/-! ## Identifying prefixes -/

theorem sharedBy_eq_false_iff {w : α} {p : List Char} :
    sharedBy spell ws w p = false ↔ ∀ w' ∈ ws, w' ≠ w → ¬ p <+: spell w' := by
  simp [sharedBy]

theorem identifyingPrefix?_spec {w : α} {p : List Char} (h : identifyingPrefix? spell ws w = some p) :
    p ≠ [] ∧ p <+: spell w ∧ ∀ w' ∈ ws, w' ≠ w → ¬ p <+: spell w' := by
  have hfree : sharedBy spell ws w p = false := by simpa using List.find?_some h
  obtain ⟨n, hn, rfl⟩ := List.mem_map.1 (List.mem_of_find?_eq_some h)
  rw [List.mem_range] at hn
  refine ⟨?_, List.take_prefix _ _, sharedBy_eq_false_iff.1 hfree⟩
  rw [← List.length_pos_iff, List.length_take]
  omega

/-- A prefix that identifies `w` begins the spelling of no other listed word. -/
theorem eq_of_identifyingPrefix? {w w' : α} {p : List Char}
    (h : identifyingPrefix? spell ws w = some p) (hw' : w' ∈ ws) (hp : p <+: spell w') : w' = w := by
  by_cases hne : w' = w
  · exact hne
  · exact absurd hp ((identifyingPrefix?_spec h).2.2 w' hw' hne)

/-- A word has an identifying prefix exactly when it is spelt with some character and its spelling
begins no other listed word's: the whole spelling is then the longest candidate. -/
theorem identifyingPrefix?_isSome_iff {w : α} :
    (identifyingPrefix? spell ws w).isSome ↔
      spell w ≠ [] ∧ ∀ w' ∈ ws, w' ≠ w → ¬ spell w <+: spell w' := by
  constructor
  · intro h
    obtain ⟨p, hp⟩ := Option.isSome_iff_exists.1 h
    obtain ⟨hne, hpre, hfree⟩ := identifyingPrefix?_spec hp
    refine ⟨fun he => hne (List.prefix_nil.1 (he ▸ hpre)), fun w' hw' hne' hw => ?_⟩
    exact hfree w' hw' hne' (hpre.trans hw)
  · rintro ⟨hne, hfree⟩
    have hpos : 0 < (spell w).length := List.length_pos_iff.2 hne
    rw [identifyingPrefix?, List.find?_isSome]
    refine ⟨spell w, List.mem_map.2 ⟨(spell w).length - 1, List.mem_range.2 (by omega), ?_⟩, ?_⟩
    · rw [Nat.sub_add_cancel hpos, List.take_length]
    · simpa using sharedBy_eq_false_iff.2 hfree

/-! ## Building a table -/

/-- Building succeeds exactly when every listed word has an identifying prefix. -/
theorem ofWords?_eq_ok_iff {t : PrefixTable α} :
    ofWords? spell ws = .ok t ↔
      (∀ w ∈ ws, (identifyingPrefix? spell ws w).isSome) ∧ t = ofWords spell ws := by
  rw [ofWords?]
  split
  · rename_i w hw
    have hnone : (identifyingPrefix? spell ws w).isNone := by simpa using List.find?_some hw
    refine ⟨nofun, fun ⟨hall, _⟩ => ?_⟩
    have := hall w (List.mem_of_find?_eq_some hw)
    simp_all
  · rename_i hnone
    have hall : ∀ w ∈ ws, (identifyingPrefix? spell ws w).isSome := fun w hw =>
      Option.isSome_iff_ne_none.2 (by simpa using List.find?_eq_none.1 hnone w hw)
    simp only [Except.ok.injEq]
    exact ⟨fun h => ⟨hall, h.symm⟩, fun h => h.2.symm⟩

/-- Building fails exactly when some listed word has no identifying prefix. -/
theorem exists_ofWords?_eq_error_iff :
    (∃ w, ofWords? spell ws = .error w) ↔ ∃ w ∈ ws, (identifyingPrefix? spell ws w).isNone := by
  rw [ofWords?]
  split
  · rename_i w hw
    exact ⟨fun _ => ⟨w, List.mem_of_find?_eq_some hw, by simpa using List.find?_some hw⟩,
      fun _ => ⟨w, rfl⟩⟩
  · rename_i hnone
    simp only [reduceCtorEq, exists_false, false_iff, not_exists, not_and]
    exact fun w hw => by simpa using List.find?_eq_none.1 hnone w hw

/-! ## The keys -/

/-- The keys are the identifying prefixes of the listed words, each with its word. -/
theorem mem_keys_iff {p : List Char} {w : α} :
    (p, w) ∈ (ofWords spell ws).keys ↔ w ∈ ws ∧ identifyingPrefix? spell ws w = some p := by
  have entries {q : List Char} {v : α} :
      (q, v) ∈ ws.filterMap (fun w => (identifyingPrefix? spell ws w).map (·, w)) ↔
        v ∈ ws ∧ identifyingPrefix? spell ws v = some q := by
    simp only [List.mem_filterMap, Option.map_eq_some_iff, Prod.mk.injEq]
    constructor
    · rintro ⟨v', hv', q', hq', rfl, rfl⟩
      exact ⟨hv', hq'⟩
    · rintro ⟨hv, hq⟩
      exact ⟨v, hv, q, hq, rfl, rfl⟩
  have kept {q : List Char} {v : α} (h : (q, v) ∈ (ofWords spell ws).keys) :
      v ∈ ws ∧ identifyingPrefix? spell ws v = some q := by
    simp only [ofWords, List.mem_mergeSort] at h
    rcases mem_of_mem_foldl_first h with h | h
    · simp at h
    · exact entries.1 h
  refine ⟨kept, fun h => ?_⟩
  -- the entry kept for the key `p` is `(p, w)` itself, since `p` identifies only `w`
  obtain ⟨⟨q, v⟩, hmem, hq⟩ := @exists_key_foldl_first _ _ [] _ (entries.2 h)
  dsimp only at hq
  subst hq
  have hmem' : (q, v) ∈ (ofWords spell ws).keys := by
    simp only [ofWords, List.mem_mergeSort]
    exact hmem
  obtain ⟨hv, hqv⟩ := kept hmem'
  have hvw : v = w := eq_of_identifyingPrefix? h.2 hv (identifyingPrefix?_spec hqv).2.1
  rwa [hvw] at hmem'

/-- No key is kept twice. -/
theorem keys_pairwise_ne : (ofWords spell ws).keys.Pairwise (fun a b => a.1 ≠ b.1) :=
  (foldl_first_pairwise_ne List.Pairwise.nil).perm (List.mergeSort_perm _ _).symm Ne.symm

/-- A lookup by prefix finds the listed word that the prefix identifies. -/
theorem find?_eq_some_iff {p : List Char} {w : α} :
    (ofWords spell ws).find? p = some w ↔ w ∈ ws ∧ identifyingPrefix? spell ws w = some p := by
  have found {v : α} (h : (ofWords spell ws).find? p = some v) : (p, v) ∈ (ofWords spell ws).keys := by
    obtain ⟨l₁, l₂, hl, -⟩ := List.lookup_eq_some_iff.1 h
    rw [hl]
    simp
  refine ⟨fun h => mem_keys_iff.1 (found h), fun h => ?_⟩
  obtain ⟨v, hv⟩ : ∃ v, (ofWords spell ws).find? p = some v :=
    Option.isSome_iff_exists.1 (List.lookup_isSome_iff.2 ⟨_, mem_keys_iff.2 h, by simp⟩)
  obtain ⟨hvs, hpv⟩ := mem_keys_iff.1 (found hv)
  rw [hv, eq_of_identifyingPrefix? h.2 hvs (identifyingPrefix?_spec hpv).2.1]

theorem find?_spec {p : List Char} {w : α} (h : (ofWords spell ws).find? p = some w) :
    w ∈ ws ∧ p ≠ [] ∧ p <+: spell w ∧ ∀ w' ∈ ws, p <+: spell w' → w' = w := by
  obtain ⟨hw, hp⟩ := find?_eq_some_iff.1 h
  obtain ⟨hne, hpre, -⟩ := identifyingPrefix?_spec hp
  exact ⟨hw, hne, hpre, fun w' hw' => eq_of_identifyingPrefix? hp hw'⟩

/-- Each word has one key. -/
theorem eq_of_find? {p q : List Char} {w : α} (hp : (ofWords spell ws).find? p = some w)
    (hq : (ofWords spell ws).find? q = some w) : p = q := by
  have h1 := (find?_eq_some_iff.1 hp).2
  have h2 := (find?_eq_some_iff.1 hq).2
  rw [h1] at h2
  exact Option.some.inj h2

/-! ## Ambiguous prefixes -/

theorem mem_properPrefixes {p k : List Char} :
    p ∈ properPrefixes k ↔ p ≠ [] ∧ p <+: k ∧ p.length < k.length := by
  simp only [properPrefixes, List.mem_map, List.mem_range]
  constructor
  · rintro ⟨n, hn, rfl⟩
    refine ⟨?_, List.take_prefix _ _, ?_⟩
    · rw [← List.length_pos_iff, List.length_take]
      omega
    · rw [List.length_take]
      omega
  · rintro ⟨hne, hpre, hlen⟩
    have hpos : 0 < p.length := List.length_pos_iff.2 hne
    refine ⟨p.length - 1, by omega, ?_⟩
    rw [Nat.sub_add_cancel hpos]
    exact (List.prefix_iff_eq_take.1 hpre).symm

/-- A prefix is ambiguous exactly when it is a proper, non-empty prefix of a key. -/
theorem isAmbiguous_iff {p : List Char} :
    (ofWords spell ws).isAmbiguous p = true ↔
      ∃ k w, (ofWords spell ws).find? k = some w ∧ p ≠ [] ∧ p <+: k ∧ p.length < k.length := by
  simp only [isAmbiguous, ofWords, List.contains_iff_mem, List.mem_flatMap]
  constructor
  · rintro ⟨⟨k, w⟩, hkw, hp⟩
    refine ⟨k, w, find?_eq_some_iff.2 (mem_keys_iff.1 hkw), mem_properPrefixes.1 hp⟩
  · rintro ⟨k, w, hkw, hp⟩
    exact ⟨(k, w), mem_keys_iff.2 (find?_eq_some_iff.1 hkw), mem_properPrefixes.2 hp⟩

end ScriptLex.PrefixTable
