import ScriptLex.Proofs.PrefixTable
import ScriptLex.Scan.Lexeme

/-!
# Built tables hold the shortest identifying prefixes

Building a table from a list of words fails exactly when some listed word is spelt empty or its
spelling is a proper prefix of another listed word's. Otherwise every listed word has one key, the
shortest prefix of its spelling that begins no other listed word's spelling. The keys are pairwise
prefix-incomparable, and the table depends on the set of listed words only: listing them in
another order, or listing some of them again, builds the same table. A prefix is ambiguous exactly
when two different listed words start with it, and no key is ambiguous
(`PrefixTable.ofWords?_builds_shortest_keys`).
-/

namespace ScriptLex.PrefixTable

variable {α : Type} [DecidableEq α] {spell : α → List Char} {ws ws' : List α}

/-! ## The order of keys -/

theorem prefixLe_cons_cons {a b : Char} {as bs : List Char} :
    prefixLe (a :: as) (b :: bs) = true ↔ a < b ∨ a = b ∧ prefixLe as bs = true := by
  simp [prefixLe]

theorem prefixLe_total : ∀ p q : List Char, prefixLe p q = true ∨ prefixLe q p = true
  | [], _ => .inl rfl
  | _ :: _, [] => .inr rfl
  | a :: as, b :: bs => by
    by_cases hab : a < b
    · exact .inl (prefixLe_cons_cons.2 (.inl hab))
    by_cases hba : b < a
    · exact .inr (prefixLe_cons_cons.2 (.inl hba))
    have heq : a = b := Char.le_antisymm (Char.not_lt.1 hba) (Char.not_lt.1 hab)
    subst heq
    rcases prefixLe_total as bs with h | h
    · exact .inl (prefixLe_cons_cons.2 (.inr ⟨rfl, h⟩))
    · exact .inr (prefixLe_cons_cons.2 (.inr ⟨rfl, h⟩))

theorem prefixLe_trans : ∀ {p q r : List Char}, prefixLe p q = true → prefixLe q r = true →
    prefixLe p r = true
  | [], _, _, _, _ => rfl
  | _ :: _, [], _, h, _ => by simp [prefixLe] at h
  | _ :: _, _ :: _, [], _, h => by simp [prefixLe] at h
  | _ :: _, _ :: _, _ :: _, hpq, hqr => by
    rw [prefixLe_cons_cons] at hpq hqr ⊢
    rcases hpq with hab | ⟨rfl, hpq⟩ <;> rcases hqr with hbc | ⟨rfl, hqr⟩
    · exact .inl (Char.lt_trans hab hbc)
    · exact .inl hab
    · exact .inl hbc
    · exact .inr ⟨rfl, prefixLe_trans hpq hqr⟩

theorem prefixLe_antisymm : ∀ {p q : List Char}, prefixLe p q = true → prefixLe q p = true → p = q
  | [], [], _, _ => rfl
  | [], _ :: _, _, h => by simp [prefixLe] at h
  | _ :: _, [], h, _ => by simp [prefixLe] at h
  | _ :: _, _ :: _, hpq, hqp => by
    rw [prefixLe_cons_cons] at hpq hqp
    rcases hpq with hab | ⟨rfl, hpq⟩
    · rcases hqp with hba | ⟨rfl, -⟩
      · exact absurd hba (Char.lt_asymm hab)
      · exact absurd hab (Char.lt_irrefl _)
    · rcases hqp with hba | ⟨-, hqp⟩
      · exact absurd hba (Char.lt_irrefl _)
      · rw [prefixLe_antisymm hpq hqp]

/-- The keys are in order. -/
theorem keys_pairwise_prefixLe : (ofWords spell ws).keys.Pairwise (fun a b => prefixLe a.1 b.1) :=
  @List.pairwise_mergeSort _ (fun (a b : List Char × α) => prefixLe a.1 b.1)
    (fun _ _ _ => prefixLe_trans) (fun a b => by simpa using prefixLe_total a.1 b.1) _

/-! ## Shortest identifying prefixes -/

/-- `p` identifies `w` among the words `ws`: a non-empty prefix of `w`'s spelling that no other
listed word's spelling starts with. -/
structure Identifies (spell : α → List Char) (ws : List α) (w : α) (p : List Char) : Prop where
  ne_nil : p ≠ []
  isPrefix : p <+: spell w
  unshared : ∀ w' ∈ ws, w' ≠ w → ¬ p <+: spell w'

/-- `p` is the shortest prefix that identifies `w` among the words `ws`. -/
structure IsShortestKey (spell : α → List Char) (ws : List α) (w : α) (p : List Char) : Prop where
  identifies : Identifies spell ws w p
  shortest : ∀ q, Identifies spell ws w q → p.length ≤ q.length

/-- The `n`-character prefix of a spelling, for `0 < n`, identifies the word when it is shared
by no other listed word. -/
theorem identifies_take_iff {w : α} {n : Nat} (hn : 0 < n) (hlen : n ≤ (spell w).length) :
    Identifies spell ws w ((spell w).take n) ↔ sharedBy spell ws w ((spell w).take n) = false := by
  rw [sharedBy_eq_false_iff]
  constructor
  · exact fun h => h.unshared
  · intro h
    refine ⟨?_, List.take_prefix _ _, h⟩
    rw [← List.length_pos_iff, List.length_take]
    omega

/-- The search over lengths finds the shortest identifying prefix. -/
theorem identifyingPrefix?_eq_some_iff {w : α} {p : List Char} :
    identifyingPrefix? spell ws w = some p ↔ IsShortestKey spell ws w p := by
  rw [identifyingPrefix?, List.find?_map, Option.map_eq_some_iff]
  simp only [List.find?_range_eq_some, Function.comp_apply, List.mem_range, Bool.not_eq_true']
  constructor
  · rintro ⟨i, ⟨hfree, hi, hshared⟩, rfl⟩
    have hid := (identifies_take_iff (Nat.succ_pos i) hi).2 hfree
    refine ⟨hid, fun q hq => ?_⟩
    -- a shorter identifying prefix would have been found first
    have hq' : q = (spell w).take q.length := List.prefix_iff_eq_take.1 hq.isPrefix
    have hqpos : 0 < q.length := List.length_pos_iff.2 hq.ne_nil
    rw [List.length_take]
    by_cases hlt : q.length - 1 < i
    · have hsh := hshared (q.length - 1) hlt
      rw [Nat.sub_add_cancel hqpos, ← hq'] at hsh
      have hid' : Identifies spell ws w ((spell w).take q.length) := by rw [← hq']; exact hq
      have hfree' := (identifies_take_iff hqpos hq.isPrefix.length_le).1 hid'
      rw [← hq'] at hfree'
      simp [hfree'] at hsh
    · omega
  · intro hp
    have hpos : 0 < p.length := List.length_pos_iff.2 hp.identifies.ne_nil
    have hle : p.length ≤ (spell w).length := hp.identifies.isPrefix.length_le
    have hp' : (spell w).take p.length = p :=
      (List.prefix_iff_eq_take.1 hp.identifies.isPrefix).symm
    refine ⟨p.length - 1, ⟨?_, by omega, fun j hj => ?_⟩, by rw [Nat.sub_add_cancel hpos, hp']⟩
    · rw [Nat.sub_add_cancel hpos, hp']
      exact sharedBy_eq_false_iff.2 hp.identifies.unshared
    · -- a shorter prefix shared by no other word would identify `w` with fewer characters
      cases hsh : sharedBy spell ws w ((spell w).take (j + 1)) with
      | true => rfl
      | false =>
        have hid := (identifies_take_iff (Nat.succ_pos j) (by omega)).2 hsh
        have := hp.shortest _ hid
        rw [List.length_take] at this
        omega

/-- A word has no identifying prefix exactly when it is spelt empty or its spelling is a proper
prefix of another listed word's, when different words are spelt differently. -/
theorem identifyingPrefix?_isNone_iff (hinj : ∀ w ∈ ws, ∀ w' ∈ ws, spell w = spell w' → w = w')
    {w : α} (hw : w ∈ ws) :
    (identifyingPrefix? spell ws w).isNone ↔
      spell w = [] ∨ ∃ w' ∈ ws, spell w <+: spell w' ∧ spell w ≠ spell w' := by
  rw [Option.isNone_iff_eq_none, ← Option.not_isSome_iff_eq_none, identifyingPrefix?_isSome_iff]
  constructor
  · intro h
    by_cases he : spell w = []
    · exact .inl he
    · refine .inr (Classical.byContradiction fun hex => h ⟨he, fun w' hw' hne hp => hex ?_⟩)
      exact ⟨w', hw', hp, fun heq => hne (hinj w' hw' w hw heq.symm)⟩
  · rintro (he | ⟨w', hw', hp, hne⟩) ⟨hne', hfree⟩
    · exact hne' he
    · exact hfree w' hw' (fun heq => hne (heq ▸ rfl)) hp

/-! ## The keys of a built table -/

theorem mem_keys_iff_isShortestKey {p : List Char} {w : α} :
    (p, w) ∈ (ofWords spell ws).keys ↔ w ∈ ws ∧ IsShortestKey spell ws w p := by
  rw [mem_keys_iff, identifyingPrefix?_eq_some_iff]

/-- Each word is kept with one key. -/
theorem keys_pairwise_snd_ne : (ofWords spell ws).keys.Pairwise (fun a b => a.2 ≠ b.2) := by
  refine keys_pairwise_ne.imp_of_mem fun {a b} ha hb hab heq => hab ?_
  have ha' := (mem_keys_iff (p := a.1) (w := a.2)).1 ha
  have hb' := (mem_keys_iff (p := b.1) (w := b.2)).1 hb
  rw [heq] at ha'
  exact Option.some.inj (ha'.2.symm.trans hb'.2)

/-- A key is a prefix of no other key. -/
theorem not_prefix_of_mem_keys {e e' : List Char × α} (he : e ∈ (ofWords spell ws).keys)
    (he' : e' ∈ (ofWords spell ws).keys) (hne : e ≠ e') : ¬ e.1 <+: e'.1 := by
  intro hpre
  obtain ⟨hw, hp⟩ := mem_keys_iff.1 he
  obtain ⟨hw', hp'⟩ := mem_keys_iff.1 he'
  -- `e.1` begins the spelling of `e'.2`, so `e'.2` is `e.2`, and one word has one key
  have hword : e'.2 = e.2 :=
    eq_of_identifyingPrefix? hp hw' (hpre.trans (identifyingPrefix?_spec hp').2.1)
  rw [hword, hp] at hp'
  exact hne (Prod.ext (Option.some.inj hp') hword.symm)

/-- Whether a word has an identifying prefix depends on the set of listed words only. -/
theorem identifyingPrefix?_congr (h : ∀ w, w ∈ ws ↔ w ∈ ws') :
    identifyingPrefix? spell ws = identifyingPrefix? spell ws' := by
  have hshared : sharedBy spell ws = sharedBy spell ws' := by
    funext w p
    rw [sharedBy, sharedBy, Bool.eq_iff_iff, List.any_eq_true, List.any_eq_true]
    simp only [h]
  funext w
  simp only [identifyingPrefix?, hshared]

/-- The table depends on the set of listed words only. -/
theorem ofWords_congr (h : ∀ w, w ∈ ws ↔ w ∈ ws') : ofWords spell ws = ofWords spell ws' := by
  have hmem : ∀ e, e ∈ (ofWords spell ws).keys ↔ e ∈ (ofWords spell ws').keys := by
    rintro ⟨p, w⟩
    rw [mem_keys_iff, mem_keys_iff, identifyingPrefix?_congr h, h]
  have nodup (vs : List α) : (ofWords spell vs).keys.Nodup :=
    keys_pairwise_ne.imp fun hne heq => hne (congrArg Prod.fst heq)
  -- two ordered lists of the same entries, each key once, are one list
  have hkeys : (ofWords spell ws).keys = (ofWords spell ws').keys := by
    refine List.Perm.eq_of_pairwise (fun a b ha hb hab hba => ?_) keys_pairwise_prefixLe
      keys_pairwise_prefixLe ((List.perm_ext_iff_of_nodup (nodup ws) (nodup ws')).2 hmem)
    have hkey : a.1 = b.1 := prefixLe_antisymm hab hba
    have ha' := mem_keys_iff.1 ((hmem a).1 ha)
    have hb' := mem_keys_iff.1 hb
    rw [← hkey] at hb'
    have hword : a.2 = b.2 :=
      eq_of_identifyingPrefix? hb'.2 ha'.1 (identifyingPrefix?_spec ha'.2).2.1
    exact Prod.ext hkey hword
  simp only [ofWords] at hkeys ⊢
  rw [hkeys]

/-! ## Ambiguous prefixes -/

/-- No key is ambiguous. -/
theorem isAmbiguous_key {p : List Char} {w : α} (h : (p, w) ∈ (ofWords spell ws).keys) :
    (ofWords spell ws).isAmbiguous p = false := by
  cases hamb : (ofWords spell ws).isAmbiguous p with
  | false => rfl
  | true =>
    obtain ⟨k, v, hk, -, hpk, hlt⟩ := isAmbiguous_iff.1 hamb
    have hp := find?_eq_some_iff.2 (mem_keys_iff.1 h)
    -- `p` begins `v`'s spelling through the key `k`, so `v` is `w` and `k` is `p`
    have hvw : v = w := (find?_spec hp).2.2.2 v (find?_spec hk).1 (hpk.trans (find?_spec hk).2.2.1)
    rw [hvw] at hk
    rw [eq_of_find? hk hp] at hlt
    exact absurd hlt (Nat.lt_irrefl _)

/-- When every listed word has an identifying prefix, a prefix is ambiguous exactly when two
different listed words start with it. -/
theorem isAmbiguous_ofWords_iff (hall : ∀ w ∈ ws, (identifyingPrefix? spell ws w).isSome)
    {p : List Char} :
    (ofWords spell ws).isAmbiguous p = true ↔
      p ≠ [] ∧ ∃ w ∈ ws, ∃ w' ∈ ws, w ≠ w' ∧ p <+: spell w ∧ p <+: spell w' := by
  rw [isAmbiguous_iff]
  constructor
  · rintro ⟨k, w, hk, hne, hpk, hlt⟩
    obtain ⟨hw, hshort⟩ := mem_keys_iff_isShortestKey.1 (mem_keys_iff.2 (find?_eq_some_iff.1 hk))
    have hpw : p <+: spell w := hpk.trans hshort.identifies.isPrefix
    -- `p` is shorter than the shortest key of `w`, so another word starts with it
    by_cases hsh : ∃ w' ∈ ws, w' ≠ w ∧ p <+: spell w'
    · obtain ⟨w', hw', hne', hp'⟩ := hsh
      exact ⟨hne, w, hw, w', hw', Ne.symm hne', hpw, hp'⟩
    · have := hshort.shortest p ⟨hne, hpw, fun w' hw' hne' hp' => hsh ⟨w', hw', hne', hp'⟩⟩
      omega
  · rintro ⟨hne, w, hw, w', hw', hww', hpw, hpw'⟩
    obtain ⟨k, hk⟩ := Option.isSome_iff_exists.1 (hall w hw)
    obtain ⟨-, hkw, hfree⟩ := identifyingPrefix?_spec hk
    -- the key of `w` begins no other word, so it is longer than the shared prefix `p`
    have hnot : ¬ k <+: p := fun hkp => hfree w' hw' (Ne.symm hww') (hkp.trans hpw')
    have hpk : p <+: k := (List.prefix_or_prefix_of_prefix hpw hkw).resolve_right hnot
    have hlt : p.length < k.length :=
      Nat.lt_of_le_of_ne hpk.length_le fun hlen => hnot (hpk.eq_of_length hlen ▸ List.prefix_refl p)
    exact ⟨k, w, find?_eq_some_iff.2 ⟨hw, hk⟩, hne, hpk, hlt⟩

/-! ## Building a table -/

/-- What a built table holds: each listed word once, with its shortest identifying prefix as
its key; keys that are prefixes of no other key; and as ambiguous prefixes exactly those that two
different listed words start with, which no key is. -/
structure ShortestKeyTable (spell : α → List Char) (ws : List α) (t : PrefixTable α) : Prop where
  keys_nodup : (t.keys.map Prod.fst).Nodup
  words_nodup : (t.keys.map Prod.snd).Nodup
  mem_keys : ∀ p w, (p, w) ∈ t.keys ↔ w ∈ ws ∧ IsShortestKey spell ws w p
  incomparable : ∀ e ∈ t.keys, ∀ e' ∈ t.keys, e ≠ e' → ¬ e.1 <+: e'.1
  isAmbiguous_iff : ∀ p, t.isAmbiguous p = true ↔
    p ≠ [] ∧ ∃ w ∈ ws, ∃ w' ∈ ws, w ≠ w' ∧ p <+: spell w ∧ p <+: spell w'
  key_not_ambiguous : ∀ e ∈ t.keys, t.isAmbiguous e.1 = false

theorem shortestKeyTable_ofWords (hall : ∀ w ∈ ws, (identifyingPrefix? spell ws w).isSome) :
    ShortestKeyTable spell ws (ofWords spell ws) where
  keys_nodup := List.pairwise_map.2 keys_pairwise_ne
  words_nodup := List.pairwise_map.2 keys_pairwise_snd_ne
  mem_keys _ _ := mem_keys_iff_isShortestKey
  incomparable _ he _ he' hne := not_prefix_of_mem_keys he he' hne
  isAmbiguous_iff _ := isAmbiguous_ofWords_iff hall
  key_not_ambiguous e he := isAmbiguous_key (w := e.2) he

/-- Building a table from words of which different ones are spelt differently fails exactly when
some listed word is spelt empty or is spelt as a proper prefix of another listed word. Otherwise
the table holds the shortest identifying prefixes (`ShortestKeyTable`), and listing the same words
in any order, any number of times, builds the same table. -/
theorem ofWords?_builds_shortest_keys (hinj : ∀ w ∈ ws, ∀ w' ∈ ws, spell w = spell w' → w = w') :
    ((∃ w, ofWords? spell ws = .error w) ↔
      ∃ w ∈ ws, spell w = [] ∨ ∃ w' ∈ ws, spell w <+: spell w' ∧ spell w ≠ spell w') ∧
    ∀ t, ofWords? spell ws = .ok t →
      ShortestKeyTable spell ws t ∧
        ∀ ws' : List α, (∀ w, w ∈ ws' ↔ w ∈ ws) → ofWords? spell ws' = .ok t := by
  refine ⟨?_, fun t ht => ?_⟩
  · rw [exists_ofWords?_eq_error_iff]
    constructor
    · rintro ⟨w, hw, hnone⟩
      exact ⟨w, hw, (identifyingPrefix?_isNone_iff hinj hw).1 hnone⟩
    · rintro ⟨w, hw, hbad⟩
      exact ⟨w, hw, (identifyingPrefix?_isNone_iff hinj hw).2 hbad⟩
  · obtain ⟨hall, rfl⟩ := ofWords?_eq_ok_iff.1 ht
    refine ⟨shortestKeyTable_ofWords hall,
      fun ws' h => ofWords?_eq_ok_iff.2 ⟨?_, (ofWords_congr h).symm⟩⟩
    intro w hw
    rw [identifyingPrefix?_congr h]
    exact hall w ((h w).1 hw)

end ScriptLex.PrefixTable

namespace ScriptLex.Keyword

open PrefixTable

/-- The reserved words are spelt differently, and their table holds their shortest identifying
prefixes, whatever order they are listed in. -/
theorem table_builds_shortest_keys :
    (∀ k ∈ all, ∀ k' ∈ all, k.spelling.toList = k'.spelling.toList → k = k') ∧
      ((∃ k, tableOf? all = .error k) ↔
        ∃ k ∈ all, k.spelling.toList = [] ∨
          ∃ k' ∈ all, k.spelling.toList <+: k'.spelling.toList ∧
            k.spelling.toList ≠ k'.spelling.toList) ∧
      ∀ t, tableOf? all = .ok t →
        ShortestKeyTable (fun k => k.spelling.toList) all t ∧
          ∀ ks : List Keyword, (∀ k, k ∈ ks ↔ k ∈ all) → tableOf? ks = .ok t := by
  have hinj : ∀ k ∈ all, ∀ k' ∈ all, k.spelling.toList = k'.spelling.toList → k = k' := by
    decide
  exact ⟨hinj, ofWords?_builds_shortest_keys hinj⟩

end ScriptLex.Keyword
