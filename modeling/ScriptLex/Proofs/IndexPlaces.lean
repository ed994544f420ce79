import Mathlib.Data.List.Induction
import Mathlib.Data.List.TakeWhile
import ScriptLex.Source.Index

/-!
# The lists an index keeps

The index of a text keeps the byte offset where each character starts and the character index
after each line feed, the first line's start ahead of them. The loop that builds them leaves the
byte length of every shorter first part of the text and the index after every line feed
(`IndexBuild.run_eq`), so both lists grow strictly. On such a list the binary search finds
the length of the longest first part whose elements pass its test
(`bisect_eq_length_takeWhile`).

The place after a piece `u` at the start of a text is on line `Text.lineOf u`, one more than the
line feeds in `u`, and in column `Text.columnOf u`, one more than the characters after the last
of them.
-/

namespace ScriptLex

namespace Text

/-- A byte offset cuts a text in one place only. -/
theorem eq_of_byteLength_eq {u v u' v' : List Char} (h : u ++ v = u' ++ v')
    (hn : byteLength u = byteLength u') : u = u' ∧ v = v' := by
  induction u generalizing u' with
  | nil =>
    cases u' with
    | nil => exact ⟨rfl, h⟩
    | cons c u' => simp at hn; have := c.utf8Size_pos; omega
  | cons c u ih =>
    cases u' with
    | nil => simp at hn; have := c.utf8Size_pos; omega
    | cons c' u' =>
      simp only [List.cons_append, List.cons.injEq] at h
      obtain ⟨rfl, h⟩ := h
      simp only [byteLength_cons, Nat.add_left_cancel_iff] at hn
      obtain ⟨rfl, rfl⟩ := ih h hn
      exact ⟨rfl, rfl⟩

theorem length_le_byteLength (cs : List Char) : cs.length ≤ byteLength cs := by
  induction cs with
  | nil => simp
  | cons c cs ih =>
    have := c.utf8Size_pos
    simp only [List.length_cons, byteLength_cons]
    omega

/-- Each character takes at least a byte, so a longer first part is longer in bytes by at least
as many as it has more characters. -/
theorem byteLength_take_add_le (cs : List Char) {i j : Nat} (hij : i ≤ j) (hj : j ≤ cs.length) :
    byteLength (cs.take i) + (j - i) ≤ byteLength (cs.take j) := by
  obtain ⟨u, hu⟩ := List.take_prefix_take_left (l := cs) hij
  have hlen := congrArg List.length hu
  simp only [List.length_append, List.length_take] at hlen
  have := length_le_byteLength u
  rw [← hu, byteLength_append]
  omega

/-- The line of the place after `u`. -/
def lineOf (u : List Char) : Nat := u.count '\n' + 1

/-- The column of the place after `u`. -/
def columnOf (u : List Char) : Nat := (u.reverse.takeWhile (· != '\n')).length + 1

/-- The line and column at byte `n` of `cs`: those after the first part of `cs` that is `n` bytes
long, if there is one. -/
def placeAt? (cs : List Char) (n : Int) : Option (Nat × Nat) :=
  ((List.range (cs.length + 1)).find? fun i => (byteLength (cs.take i) : Int) == n).map
    fun i => (lineOf (cs.take i), columnOf (cs.take i))

theorem placeAt?_eq_some_iff {cs : List Char} {n : Int} {p : Nat × Nat} :
    placeAt? cs n = some p ↔
      ∃ u v, cs = u ++ v ∧ n = byteLength u ∧ p = (lineOf u, columnOf u) := by
  rw [placeAt?, Option.map_eq_some_iff]
  constructor
  · rintro ⟨i, hi, rfl⟩
    have hn : (byteLength (cs.take i) : Int) = n := by simpa using List.find?_some hi
    exact ⟨cs.take i, cs.drop i, (List.take_append_drop i cs).symm, hn.symm, rfl⟩
  · rintro ⟨u, v, rfl, rfl, rfl⟩
    -- the search finds some cut of that byte length, and a byte length cuts in one place only
    have hex : ((List.range ((u ++ v).length + 1)).find?
        fun i => (byteLength ((u ++ v).take i) : Int) == byteLength u).isSome := by
      rw [List.find?_isSome]
      exact ⟨u.length, List.mem_range.2 (by rw [List.length_append]; omega), by simp⟩
    obtain ⟨i, hi⟩ := Option.isSome_iff_exists.1 hex
    have hn : byteLength ((u ++ v).take i) = byteLength u :=
      Int.ofNat_inj.1 (by simpa using List.find?_some hi)
    have hu : (u ++ v).take i = u := (eq_of_byteLength_eq (List.take_append_drop i (u ++ v)) hn).1
    exact ⟨i, hi, by rw [hu]⟩

end Text

open Text

/-! ## Binary search over a list that passes its test up to a place -/

section Bisect

variable {α : Type} {a : List α} {right : α → Bool}

/-- When no element passes `right` after one that fails it, an element passes exactly when it
lies in the longest first part that passes. -/
theorem right_getElem_iff (hp : a.Pairwise fun x y => right y → right x) {k : Nat}
    (hk : k < a.length) : right a[k] ↔ k < (a.takeWhile right).length := by
  induction a generalizing k with
  | nil => simp at hk
  | cons x xs ih =>
    obtain ⟨hx, hxs⟩ := List.pairwise_cons.1 hp
    by_cases hr : right x
    · rw [List.takeWhile_cons_of_pos hr, List.length_cons]
      cases k with
      | zero => simpa using hr
      | succ k =>
        rw [List.getElem_cons_succ, ih hxs (by simpa using hk)]
        omega
    · -- the first element fails, and every later one fails with it
      rw [List.takeWhile_cons_of_neg hr, List.length_nil]
      cases k with
      | zero => simpa using hr
      | succ k =>
        rw [List.getElem_cons_succ]
        simp only [Nat.not_lt_zero, iff_false]
        exact fun h => hr (hx _ (List.getElem_mem _) h)

/-- The halving loop keeps the place it looks for between its bounds, and ends on it. -/
theorem bisect_eq_of_le (hp : a.Pairwise fun x y => right y → right x) (lo hi : Nat)
    (h : hi ≤ a.length) (hlo : lo ≤ (a.takeWhile right).length)
    (hhi : (a.takeWhile right).length ≤ hi) :
    bisect a right lo hi h = (a.takeWhile right).length := by
  induction lo, hi, h using bisect.induct a right with
  | case1 lo hi h hlt hmid hr ih =>
    rw [bisect, dif_pos hlt, if_pos hr]
    exact ih ((right_getElem_iff hp hmid).1 hr) hhi
  | case2 lo hi h hlt hmid hr ih =>
    rw [bisect, dif_pos hlt, if_neg hr]
    exact ih hlo (Nat.le_of_not_lt fun hlt' => hr ((right_getElem_iff hp hmid).2 hlt'))
  | case3 lo hi h hlt =>
    rw [bisect, dif_neg hlt]
    omega

theorem bisect_eq_length_takeWhile (hp : a.Pairwise fun x y => right y → right x) :
    bisect a right 0 a.length (Nat.le_refl _) = (a.takeWhile right).length :=
  bisect_eq_of_le hp 0 a.length _ (Nat.zero_le _) (List.takeWhile_prefix right).length_le

end Bisect

/-- On a growing list, the first place whose element is not below `x` is the place of `x`
itself, when `x` is in the list. -/
theorem bisectLeft_eq_of_getElem_eq {a : List Nat} (ha : a.Pairwise (· < ·)) {x : Int} {i : Nat}
    (hi : i < a.length) (hx : (a[i] : Int) = x) : bisectLeft a x = i := by
  have hp : a.Pairwise fun (u v : Nat) => decide ((v : Int) < x) → decide ((u : Int) < x) :=
    ha.imp fun huv hv => by simp only [decide_eq_true_eq] at hv ⊢; omega
  have hiff := fun k (hk : k < a.length) => right_getElem_iff hp hk
  rw [bisectLeft, bisect_eq_length_takeWhile hp]
  -- the element at `i` is not below `x`, and the one at the place found is not either
  have hge : (a.takeWhile fun (v : Nat) => decide ((v : Int) < x)).length ≤ i :=
    Nat.le_of_not_lt fun h => by simpa [hx] using (hiff i hi).2 h
  refine Nat.le_antisymm hge (Nat.le_of_not_lt fun hlt => ?_)
  have hT := (hiff _ (by omega)).not.2 (Nat.lt_irrefl _)
  have hlt' := List.pairwise_iff_getElem.1 ha _ i (by omega) hi hlt
  simp only [decide_eq_true_eq] at hT
  omega

theorem bisectRight_eq_length_takeWhile {a : List Nat} (ha : a.Pairwise (· < ·)) (x : Nat) :
    bisectRight a x = (a.takeWhile fun v => !decide (x < v)).length := by
  have hp : a.Pairwise fun (u v : Nat) => (!decide (x < v)) → !decide (x < u) :=
    ha.imp fun huv hv => by
      simp only [Bool.not_eq_eq_eq_not, Bool.not_true, decide_eq_false_iff_not] at hv ⊢
      omega
  exact bisect_eq_length_takeWhile hp

/-! ## The lists the loop builds -/

namespace IndexBuild

/-- After the characters `cs` the loop holds the byte length of each shorter first part of `cs`,
zero and the index after each line feed, and the byte length of all of `cs`. -/
theorem run_eq (cs : List Char) :
    run cs = ⟨(List.range cs.length).map (fun k => byteLength (cs.take k)),
      0 :: ((List.range cs.length).filter (fun k => cs[k]? == some '\n')).map (· + 1),
      byteLength cs⟩ := by
  induction cs using List.reverseRecOn with
  | nil => rfl
  | append_singleton cs c ih =>
    -- the last turn of the loop is at `c`, whose index is the length of `cs`
    have hrun : run (cs ++ [c]) = (run cs).step c cs.length := by
      simp only [run, List.zipIdx_append, List.foldl_append, List.zipIdx_cons, List.zipIdx_nil,
        List.foldl_cons, List.foldl_nil, Nat.zero_add]
    have htake : ∀ k ∈ List.range cs.length, (cs ++ [c]).take k = cs.take k :=
      fun k hk => List.take_append_of_le_length (List.mem_range.1 hk).le
    have hget : ∀ k ∈ List.range cs.length, (cs ++ [c])[k]? = cs[k]? :=
      fun k hk => List.getElem?_append_left (List.mem_range.1 hk)
    rw [hrun, ih]
    simp only [step, mk.injEq]
    refine ⟨?_, ?_, ?_⟩
    · have hmap : (List.range cs.length).map (fun k => byteLength ((cs ++ [c]).take k)) =
          (List.range cs.length).map (fun k => byteLength (cs.take k)) :=
        List.map_congr_left fun k hk => by rw [htake k hk]
      rw [List.length_append, List.length_singleton, List.range_succ, List.map_append, hmap]
      simp
    · have hfilter : (List.range cs.length).filter (fun k => (cs ++ [c])[k]? == some '\n') =
          (List.range cs.length).filter (fun k => cs[k]? == some '\n') :=
        List.filter_congr fun k hk => by rw [hget k hk]
      rw [List.length_append, List.length_singleton, List.range_succ, List.filter_append, hfilter]
      by_cases hc : c = '\n' <;> simp [hc]
    · rw [byteLength_append, Text.utf8Width_eq_utf8Size]
      simp

theorem run_starts_pairwise (cs : List Char) : (run cs).starts.Pairwise (· < ·) := by
  rw [run_eq, List.pairwise_map]
  refine List.pairwise_lt_range.imp_of_mem fun {i j} hi hj hij => ?_
  have := byteLength_take_add_le cs (Nat.le_of_lt hij) (by simpa using List.mem_range.1 hj |>.le)
  omega

theorem run_lineStarts_pairwise (cs : List Char) : (run cs).lineStarts.Pairwise (· < ·) := by
  rw [run_eq, List.pairwise_cons, List.pairwise_map]
  exact ⟨fun k hk => by simp at hk; omega, (List.pairwise_lt_range.filter _).imp fun h => by omega⟩

end IndexBuild

end ScriptLex
