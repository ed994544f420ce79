import Mathlib.Data.List.Forall2
import Mathlib.Data.Nat.Find
import ScriptLex.Diagnostic.Lexical
import ScriptLex.Proofs.OffsetLookups

/-!
# Diagnosing any list of tokens

The diagnostics of a list of tokens are asked of tokens of any kinds at any integer offsets, not
only of those a scan made. Tokens that are not error tokens are passed over wherever they stand.
An error token is explained by the character that starts at its offset; so the whole answer fails
exactly when some error token stands where no character of the text starts, and then with the
offset of the first such token (`SourceIndex.diagnostics_fail_at_first_misplaced_error`).

Diagnosing one token classifies it, locates its offset and, for a character that starts no token,
reads that character once more. A token that is not an error token is refused before its offset is
looked at; for an error token every read agrees, so its diagnosis rests on the one character at its
offset (`SourceIndex.diagnose_of_charAt_eq_ok`).
-/

namespace ScriptLex

namespace Text

/-- Some character of `s` starts at byte `n`: `n` is the UTF-8 byte length of the first `i`
characters of `s`, for an `i` short of the whole text. -/
def IsCharStart (s : String) (n : Int) : Prop := ∃ i < s.length, n = bytesBefore s i

theorem bytesBefore_mono {s : String} {i j : Nat} (hij : i ≤ j) :
    bytesBefore s i ≤ bytesBefore s j := by
  obtain ⟨u, hu⟩ := List.take_prefix_take_left (l := s.toList) hij
  rw [bytesBefore_eq_byteLength, bytesBefore_eq_byteLength, ← hu, byteLength_append]
  omega

/-- Each character takes at least a byte, so the first `j` characters take at least `j - i` bytes
more than the first `i`. -/
theorem bytesBefore_add_le {s : String} {i j : Nat} (hij : i ≤ j) (hj : j ≤ s.length) :
    bytesBefore s i + (j - i) ≤ bytesBefore s j := by
  rw [bytesBefore_eq_byteLength, bytesBefore_eq_byteLength]
  exact byteLength_take_add_le s.toList hij (by rw [String.length_toList]; exact hj)

/-- An offset where no character starts is negative, inside a character of several bytes, or at
the end of the text or beyond. -/
theorem not_isCharStart_iff {s : String} {n : Int} :
    ¬ IsCharStart s n ↔
      n < 0 ∨ (∃ i < s.length, bytesBefore s i < n ∧ n < bytesBefore s (i + 1)) ∨
        bytesBefore s s.length ≤ n := by
  constructor
  · intro hno
    by_cases hneg : n < 0
    · exact .inl hneg
    by_cases hend : (bytesBefore s s.length : Int) ≤ n
    · exact .inr (.inr hend)
    -- the shortest first part that ends after `n` is one character longer than a part that
    -- ends before it
    have hex : ∃ j, n < bytesBefore s j := ⟨s.length, by omega⟩
    have hafter := Nat.find_spec hex
    have hmin : ∀ k < Nat.find hex, ¬ n < bytesBefore s k := fun k hk => Nat.find_min hex hk
    have hle := Nat.find_min' hex (show n < bytesBefore s s.length by omega)
    generalize Nat.find hex = j at hafter hmin hle
    have hpos : 0 < j := Nat.pos_of_ne_zero fun h => by
      simp [h, bytesBefore] at hafter
      omega
    have hbefore : (bytesBefore s (j - 1) : Int) ≤ n := Int.not_lt.1 (hmin (j - 1) (by omega))
    have hne : (bytesBefore s (j - 1) : Int) ≠ n := fun h => hno ⟨j - 1, by omega, h.symm⟩
    refine .inr (.inl ⟨j - 1, by omega, by omega, ?_⟩)
    rwa [Nat.sub_add_cancel hpos]
  · rintro (hneg | ⟨i, hi, hlo, hhi⟩ | hend) ⟨j, hj, rfl⟩
    · omega
    · -- a character starting before the `i + 1`-th starts at most where the `i`-th does
      rcases Nat.lt_or_ge j (i + 1) with hji | hji
      · have := bytesBefore_mono (s := s) (Nat.le_of_lt_succ hji)
        omega
      · have := bytesBefore_mono (s := s) hji
        omega
    · have := bytesBefore_add_le (s := s) (Nat.le_of_lt hj) le_rfl
      omega

end Text

open Text

theorem Except.bind_eq_ok_iff {ε α β : Type} {x : Except ε α} {f : α → Except ε β} {b : β} :
    x >>= f = .ok b ↔ ∃ a, x = .ok a ∧ f a = .ok b := by
  cases x <;> simp [bind, Except.bind]

namespace SourceIndex

variable (ix : SourceIndex) (filename : String)

/-! ## One token -/

theorem charAt_eq_error {n : Int} {e : OffsetError} (h : ix.charAt n = .error e) :
    e = .noCharacter n := by
  rw [charAt] at h
  split at h
  · cases h
    rfl
  · split at h
    · cases h
      rfl
    · cases h

/-- An offset where a character is read is a boundary, so it is also located. -/
theorem exists_locate_of_charAt_eq_ok {n : Int} {c : Char} (h : ix.charAt n = .ok c) :
    ∃ loc, ix.locate filename n = .ok loc := by
  rw [charAt] at h
  rw [locate]
  split
  · rename_i hnone
    rw [hnone] at h
    cases h
  · exact ⟨_, rfl⟩

theorem classify_of_not_isError {t : Token} (h : t.isError = false) :
    ix.classify t = .error (.notErrorToken t) := by
  simp [classify, h]

/-- A token that is not an error token is refused before its offset is looked at. -/
theorem diagnose_of_not_isError {t : Token} (h : t.isError = false) :
    ix.diagnose filename t = .error (.notErrorToken t) := by
  simp [diagnose, classify_of_not_isError ix h, bind, Except.bind]

theorem diagnose_of_charAt_eq_error {t : Token} (ht : t.isError) {e : OffsetError}
    (hc : ix.charAt t.position = .error e) : ix.diagnose filename t = .error (.badOffset e) := by
  simp [diagnose, classify, ht, hc, bind, Except.bind]

/-- Diagnosing an error token rests on the one character at its offset: the offset is located
once that character is read, and the second read, for a character that starts no token, reads the
same character again. -/
theorem diagnose_of_charAt_eq_ok {t : Token} (ht : t.isError) {c : Char}
    (hc : ix.charAt t.position = .ok c) :
    ∃ loc, ix.locate filename t.position = .ok loc ∧
      ix.diagnose filename t =
        .ok ⟨if c = '"' then .unterminatedString else .invalidCharacter c, loc⟩ := by
  obtain ⟨loc, hloc⟩ := exists_locate_of_charAt_eq_ok ix filename hc
  refine ⟨loc, hloc, ?_⟩
  by_cases hq : c = '"' <;>
    simp [diagnose, classify, ht, hc, hloc, hq, bind, Except.bind, Except.mapError, pure,
      Except.pure]

theorem diagnose_eq_ok_iff {t : Token} {d : Diagnostic} :
    ix.diagnose filename t = .ok d ↔
      t.isError ∧ ∃ c, ix.charAt t.position = .ok c ∧
        ix.locate filename t.position = .ok d.location ∧
        d.fault = if c = '"' then .unterminatedString else .invalidCharacter c := by
  by_cases ht : t.isError
  · cases hc : ix.charAt t.position with
    | error e => simp [diagnose_of_charAt_eq_error ix filename ht hc]
    | ok c =>
      obtain ⟨loc, hloc, hd⟩ := diagnose_of_charAt_eq_ok ix filename ht hc
      obtain ⟨fault, location⟩ := d
      simp only [hd, hloc, ht, Except.ok.injEq, Diagnostic.mk.injEq, true_and, exists_eq_left']
      exact ⟨fun ⟨hf, hl⟩ => ⟨hl, hf.symm⟩, fun ⟨hl, hf⟩ => ⟨hf.symm, hl⟩⟩
  · simp [diagnose_of_not_isError ix filename (Bool.eq_false_iff.2 ht), ht]

theorem diagnose_eq_error_iff_of_isError {t : Token} {e : DiagnoseError} (ht : t.isError) :
    ix.diagnose filename t = .error e ↔
      ix.charAt t.position = .error (.noCharacter t.position) ∧
        e = .badOffset (.noCharacter t.position) := by
  cases hc : ix.charAt t.position with
  | error e' =>
    obtain rfl := charAt_eq_error ix hc
    simp [diagnose_of_charAt_eq_error ix filename ht hc, eq_comm]
  | ok c =>
    obtain ⟨loc, -, hd⟩ := diagnose_of_charAt_eq_ok ix filename ht hc
    simp [hd]

theorem exists_diagnose_eq_ok_iff_of_isError {t : Token} (ht : t.isError) :
    (∃ d, ix.diagnose filename t = .ok d) ↔ ∃ c, ix.charAt t.position = .ok c := by
  constructor
  · rintro ⟨d, hd⟩
    obtain ⟨-, c, hc, -⟩ := (diagnose_eq_ok_iff ix filename).1 hd
    exact ⟨c, hc⟩
  · rintro ⟨c, hc⟩
    obtain ⟨loc, -, hd⟩ := diagnose_of_charAt_eq_ok ix filename ht hc
    exact ⟨_, hd⟩

/-! ## A list of tokens -/

theorem diagnostics_cons (t : Token) (ts : List Token) :
    ix.diagnostics filename (t :: ts) =
      if t.isError then
        (do
          let d ← ix.diagnose filename t
          let ds ← ix.diagnostics filename ts
          pure (d :: ds))
      else ix.diagnostics filename ts := by
  by_cases h : t.isError <;> simp [diagnostics, h]

/-- The diagnostics of a list that do not fail are those of its error tokens, in order. -/
theorem diagnostics_eq_ok_iff {ts : List Token} {ds : List Diagnostic} :
    ix.diagnostics filename ts = .ok ds ↔
      List.Forall₂ (fun t d => ix.diagnose filename t = .ok d) (ts.filter Token.isError) ds := by
  induction ts generalizing ds with
  | nil => cases ds <;> simp [diagnostics, pure, Except.pure]
  | cons t ts ih =>
    rw [diagnostics_cons]
    by_cases ht : t.isError
    · simp only [ht, if_true, List.filter_cons_of_pos ht, List.forall₂_cons_left_iff,
        Except.bind_eq_ok_iff, ← ih]
      constructor
      · rintro ⟨d, hd, ds', hds, hpure⟩
        exact ⟨d, ds', hd, hds, (Except.ok.inj hpure).symm⟩
      · rintro ⟨d, ds', hd, hds, rfl⟩
        exact ⟨d, hd, ds', hds, rfl⟩
    · simp [ht, List.filter_cons_of_neg, ih]

theorem diagnostics_append_cons_of_fails {ts₁ : List Token} {t : Token} (ts₂ : List Token)
    {e : DiagnoseError} (hgood : ∀ u ∈ ts₁, u.isError → ∃ d, ix.diagnose filename u = .ok d)
    (ht : t.isError) (hfail : ix.diagnose filename t = .error e) :
    ix.diagnostics filename (ts₁ ++ t :: ts₂) = .error e := by
  induction ts₁ with
  | nil => simp [diagnostics_cons, ht, hfail, bind, Except.bind]
  | cons u ts₁ ih =>
    have hrest := ih fun v hv => hgood v (List.mem_cons_of_mem u hv)
    by_cases hu : u.isError
    · obtain ⟨d, hd⟩ := hgood u List.mem_cons_self hu
      simp [diagnostics_cons, hu, hd, hrest, bind, Except.bind]
    · simp [diagnostics_cons, hu, hrest]

theorem exists_first_failure_of_diagnostics_eq_error {ts : List Token} {e : DiagnoseError}
    (h : ix.diagnostics filename ts = .error e) :
    ∃ ts₁ t ts₂, ts = ts₁ ++ t :: ts₂ ∧
      (∀ u ∈ ts₁, u.isError → ∃ d, ix.diagnose filename u = .ok d) ∧
      t.isError ∧ ix.diagnose filename t = .error e := by
  induction ts with
  | nil => simp [diagnostics, pure, Except.pure] at h
  | cons t ts ih =>
    -- a failure further on, behind a first token that diagnoses or is passed over
    have later (hts : ix.diagnostics filename ts = .error e)
        (ht : t.isError → ∃ d, ix.diagnose filename t = .ok d) :
        ∃ ts₁ t' ts₂, t :: ts = ts₁ ++ t' :: ts₂ ∧
          (∀ u ∈ ts₁, u.isError → ∃ d, ix.diagnose filename u = .ok d) ∧
          t'.isError ∧ ix.diagnose filename t' = .error e := by
      obtain ⟨ts₁, t', ts₂, rfl, hgood, herr, hfail⟩ := ih hts
      exact ⟨t :: ts₁, t', ts₂, rfl, List.forall_mem_cons.2 ⟨ht, hgood⟩, herr, hfail⟩
    rw [diagnostics_cons] at h
    by_cases ht : t.isError
    · rw [if_pos ht] at h
      cases hd : ix.diagnose filename t with
      | error e' =>
        rw [hd] at h
        cases h
        exact ⟨[], t, ts, rfl, by simp, ht, hd⟩
      | ok d =>
        rw [hd] at h
        have hts : ix.diagnostics filename ts = .error e := by
          cases hts : ix.diagnostics filename ts <;> rw [hts] at h <;> cases h
          rfl
        exact later hts fun _ => ⟨d, hd⟩
    · rw [if_neg ht] at h
      exact later h fun h' => absurd h' ht

/-- The diagnostics of a list fail exactly at its first error token that cannot be diagnosed, and
with that token's failure. -/
theorem diagnostics_eq_error_iff {ts : List Token} {e : DiagnoseError} :
    ix.diagnostics filename ts = .error e ↔
      ∃ ts₁ t ts₂, ts = ts₁ ++ t :: ts₂ ∧
        (∀ u ∈ ts₁, u.isError → ∃ d, ix.diagnose filename u = .ok d) ∧
        t.isError ∧ ix.diagnose filename t = .error e := by
  refine ⟨exists_first_failure_of_diagnostics_eq_error ix filename, ?_⟩
  rintro ⟨ts₁, t, ts₂, rfl, hgood, ht, hfail⟩
  exact diagnostics_append_cons_of_fails ix filename ts₂ hgood ht hfail

theorem exists_diagnostics_eq_error_iff {ts : List Token} :
    (∃ e, ix.diagnostics filename ts = .error e) ↔
      ∃ t ∈ ts, t.isError ∧ ∃ e, ix.diagnose filename t = .error e := by
  constructor
  · rintro ⟨e, h⟩
    obtain ⟨ts₁, t, ts₂, rfl, -, ht, hfail⟩ :=
      exists_first_failure_of_diagnostics_eq_error ix filename h
    exact ⟨t, by simp, ht, e, hfail⟩
  · rintro ⟨t, htm, ht, e, hfail⟩
    induction ts with
    | nil => cases htm
    | cons u ts ih =>
      -- behind a first token that diagnoses or is passed over, the failing one comes later
      have later (hu : u.isError → ∃ d, ix.diagnose filename u = .ok d) : t ∈ ts := by
        rcases List.mem_cons.1 htm with rfl | h
        · obtain ⟨d, hd⟩ := hu ht
          rw [hd] at hfail
          cases hfail
        · exact h
      rw [diagnostics_cons]
      by_cases hu : u.isError
      · rw [if_pos hu]
        cases hd : ix.diagnose filename u with
        | error e' => exact ⟨e', rfl⟩
        | ok d =>
          obtain ⟨e', he'⟩ := ih (later fun _ => ⟨d, hd⟩)
          exact ⟨e', by simp [he', bind, Except.bind]⟩
      · rw [if_neg hu]
        exact ih (later fun h => absurd h hu)

/-! ## Against the text -/

section OfString

variable {s : String}

theorem exists_charAt_ofString_eq_ok_iff {n : Int} :
    (∃ c, (ofString s).charAt n = .ok c) ↔ IsCharStart s n := by
  simp only [charAt_ofString_eq_ok_iff, IsCharStart]
  constructor
  · rintro ⟨c, i, hi, hn, -⟩
    exact ⟨i, hi, hn⟩
  · rintro ⟨i, hi, hn⟩
    have hsome : s.toList[i]?.isSome := by simpa [String.length_toList] using hi
    obtain ⟨c, hc⟩ := Option.isSome_iff_exists.1 hsome
    exact ⟨c, i, hi, hn, hc⟩

theorem charAt_ofString_eq_noCharacter_iff {n : Int} :
    (ofString s).charAt n = .error (.noCharacter n) ↔ ¬ IsCharStart s n := by
  simp only [charAt_ofString_eq_error_iff, IsCharStart, not_exists, not_and]

theorem exists_diagnose_ofString_eq_ok_iff {t : Token} (ht : t.isError) :
    (∃ d, (ofString s).diagnose filename t = .ok d) ↔ IsCharStart s t.position := by
  rw [exists_diagnose_eq_ok_iff_of_isError _ _ ht, exists_charAt_ofString_eq_ok_iff]

theorem diagnose_ofString_eq_error_iff {t : Token} {e : DiagnoseError} (ht : t.isError) :
    (ofString s).diagnose filename t = .error e ↔
      ¬ IsCharStart s t.position ∧ e = .badOffset (.noCharacter t.position) := by
  rw [diagnose_eq_error_iff_of_isError _ _ ht, charAt_ofString_eq_noCharacter_iff]

theorem diagnostics_ofString_eq_error_iff {ts : List Token} {e : DiagnoseError} :
    (ofString s).diagnostics filename ts = .error e ↔
      ∃ ts₁ t ts₂, ts = ts₁ ++ t :: ts₂ ∧ (∀ u ∈ ts₁, u.isError → IsCharStart s u.position) ∧
        t.isError ∧ ¬ IsCharStart s t.position ∧ e = .badOffset (.noCharacter t.position) := by
  rw [diagnostics_eq_error_iff]
  constructor
  · rintro ⟨ts₁, t, ts₂, rfl, hgood, ht, hfail⟩
    obtain ⟨hno, rfl⟩ := (diagnose_ofString_eq_error_iff filename ht).1 hfail
    exact ⟨ts₁, t, ts₂, rfl,
      fun u hu hue => (exists_diagnose_ofString_eq_ok_iff filename hue).1 (hgood u hu hue), ht,
      hno, rfl⟩
  · rintro ⟨ts₁, t, ts₂, rfl, hgood, ht, hno, rfl⟩
    exact ⟨ts₁, t, ts₂, rfl,
      fun u hu hue => (exists_diagnose_ofString_eq_ok_iff filename hue).2 (hgood u hu hue), ht,
      (diagnose_ofString_eq_error_iff filename ht).2 ⟨hno, rfl⟩⟩

/-- Diagnosing any list of tokens against a text. It fails exactly when some error token stands
where no character of the text starts (a negative offset, one inside a multi-byte character, the
end of the text or beyond), and then with the offset of the first such token; tokens of other
kinds are passed over wherever they stand. Otherwise it gives, in order, the diagnostic of each
error token, located at the token's offset, with code `L002` when a quote starts there and `L001`
otherwise. A token that is not an error token is refused by the classifier and by the diagnostic
alike, whatever its offset. -/
theorem diagnostics_fail_at_first_misplaced_error (s filename : String) (ts : List Token) :
    ((∃ e, (ofString s).diagnostics filename ts = .error e) ↔
      ∃ t ∈ ts, t.isError ∧ ¬ IsCharStart s t.position) ∧
    (∀ n, ¬ IsCharStart s n ↔
      n < 0 ∨ (∃ i < s.length, bytesBefore s i < n ∧ n < bytesBefore s (i + 1)) ∨
        (ofString s).size ≤ n) ∧
    (∀ e, (ofString s).diagnostics filename ts = .error e ↔
      ∃ ts₁ t ts₂, ts = ts₁ ++ t :: ts₂ ∧ (∀ u ∈ ts₁, u.isError → IsCharStart s u.position) ∧
        t.isError ∧ ¬ IsCharStart s t.position ∧ e = .badOffset (.noCharacter t.position) ∧
        e.message = "No character starts at offset " ++ toString t.position) ∧
    (∀ ds, (ofString s).diagnostics filename ts = .ok ds ↔
      List.Forall₂ (fun t d => (ofString s).diagnose filename t = .ok d ∧
          ∃ c, (ofString s).charAt t.position = .ok c ∧
            (ofString s).locate filename t.position = .ok d.location ∧
            d.code = if c = '"' then "L002" else "L001")
        (ts.filter Token.isError) ds) ∧
    (∀ (ix : SourceIndex) (t : Token), t.isError = false →
      ix.classify t = .error (.notErrorToken t) ∧
        ix.diagnose filename t = .error (.notErrorToken t) ∧
        (DiagnoseError.notErrorToken t).message =
          "Token " ++ t.label ++ " is not an error token") := by
  refine ⟨?_, fun n => by rw [size_ofString, not_isCharStart_iff], fun e => ?_, fun ds => ?_,
    fun ix t ht => ⟨classify_of_not_isError ix ht, diagnose_of_not_isError ix filename ht, rfl⟩⟩
  · -- an error token fails to diagnose exactly when it stands at no character
    rw [exists_diagnostics_eq_error_iff]
    constructor
    · rintro ⟨t, htm, ht, e, hfail⟩
      exact ⟨t, htm, ht, ((diagnose_ofString_eq_error_iff filename ht).1 hfail).1⟩
    · rintro ⟨t, htm, ht, hno⟩
      exact ⟨t, htm, ht, _, (diagnose_ofString_eq_error_iff filename ht).2 ⟨hno, rfl⟩⟩
  · rw [diagnostics_ofString_eq_error_iff]
    constructor
    · rintro ⟨ts₁, t, ts₂, hs, hgood, ht, hno, rfl⟩
      exact ⟨ts₁, t, ts₂, hs, hgood, ht, hno, rfl, rfl⟩
    · rintro ⟨ts₁, t, ts₂, hs, hgood, ht, hno, he, -⟩
      exact ⟨ts₁, t, ts₂, hs, hgood, ht, hno, he⟩
  · -- a diagnostic that exists was read off the character at its token's offset
    rw [diagnostics_eq_ok_iff]
    constructor
    · refine fun h => h.imp fun t d hd => ⟨hd, ?_⟩
      obtain ⟨-, c, hc, hloc, hfault⟩ := (diagnose_eq_ok_iff _ _).1 hd
      refine ⟨c, hc, hloc, ?_⟩
      rw [Diagnostic.code, hfault]
      split <;> rfl
    · exact fun h => h.imp fun _ _ h => h.1

end OfString

end SourceIndex

end ScriptLex
