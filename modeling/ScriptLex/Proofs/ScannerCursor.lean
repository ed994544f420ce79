import ScriptLex.Scan.Scanner

/-!
# The scanner is a cursor over its tokens

A scanner reads its text lazily, a token at a time, with a running byte offset. Seen from outside
it is much simpler: a position in the list `T` of all tokens of the text, and a flag that records
whether the end has been reported. `next` hands out `T[k]` and moves on, or, at the end, reports
the end; `drain` hands out what is left of `T` and reports the end; `exhausted` shows the flag.

`Scanner.run_start` says that a scanner started on a text answers every sequence of requests as
this cursor does. So the tokens handed out by any requests form a prefix of `T`, and all of `T`
once the end has been reported.
-/

namespace ScriptLex

namespace Scanner

/-- The scanner after a sequence of requests. -/
def after (sc : Scanner) : List Request → Scanner
  | [] => sc
  | q :: qs => (sc.respond q).2.after qs

/-- The tokens that a reply hands out. -/
def Reply.delivered : Reply → List Token
  | .token t => t.toList
  | .tokens ts => ts
  | .exhausted _ => []

/-- A position in a list of tokens, and whether the end of the list has been reported. -/
structure Cursor where
  /-- How many tokens have been handed out. -/
  handed : Nat
  /-- Whether the end has been reported. -/
  ended : Bool

namespace Cursor

variable (T : List Token)

/-- The answer of the cursor over `T` to one request, and the cursor after it. -/
def respond (c : Cursor) : Request → Reply × Cursor
  | .next =>
    match T[c.handed]? with
    | some t => (.token (some t), { c with handed := c.handed + 1 })
    | none => (.token none, { c with ended := true })
  | .drain => (.tokens (T.drop c.handed), ⟨T.length, true⟩)
  | .exhausted => (.exhausted c.ended, c)

/-- The answers of the cursor over `T` to a sequence of requests. -/
def run (c : Cursor) : List Request → List Reply
  | [] => []
  | q :: qs => (c.respond T q).1 :: (c.respond T q).2.run qs

/-- The cursor over `T` after a sequence of requests. -/
def after (c : Cursor) : List Request → Cursor
  | [] => c
  | q :: qs => (c.respond T q).2.after qs

/-- A cursor that lies within `T` and has reported the end only at the end. -/
def Valid (c : Cursor) : Prop := c.handed ≤ T.length ∧ (c.ended = true → c.handed = T.length)

variable {T}

/-- One request keeps a cursor valid, and what it hands out continues what was handed out
before. -/
theorem respond_valid {c : Cursor} (hc : c.Valid T) (q : Request) :
    (c.respond T q).2.Valid T ∧
      T.take c.handed ++ (c.respond T q).1.delivered = T.take (c.respond T q).2.handed := by
  obtain ⟨hle, hend⟩ := hc
  cases q with
  | next =>
    cases ht : T[c.handed]? with
    | some t =>
      have hlt : c.handed < T.length := (List.getElem?_eq_some_iff.1 ht).1
      simp only [respond, ht, Reply.delivered, Option.toList_some]
      refine ⟨⟨hlt, fun h => absurd (hend h) (by omega)⟩, ?_⟩
      rw [List.take_add_one, ht, Option.toList_some]
    | none =>
      have hge : T.length ≤ c.handed := List.getElem?_eq_none_iff.1 ht
      simp only [respond, ht]
      refine ⟨⟨hle, fun _ => Nat.le_antisymm hle hge⟩, ?_⟩
      simp [Reply.delivered]
  | drain =>
    simp only [respond, Reply.delivered, List.take_append_drop, List.take_length]
    exact ⟨⟨Nat.le_refl _, fun _ => rfl⟩, trivial⟩
  | exhausted =>
    simp only [respond, Reply.delivered, List.append_nil]
    exact ⟨⟨hle, hend⟩, trivial⟩

/-- Over any requests, a valid cursor stays valid, and the tokens handed out continue those
handed out before. -/
theorem run_valid {c : Cursor} (hc : c.Valid T) (qs : List Request) :
    (c.after T qs).Valid T ∧
      T.take c.handed ++ (c.run T qs).flatMap Reply.delivered = T.take (c.after T qs).handed := by
  induction qs generalizing c with
  | nil => exact ⟨hc, by simp [run, after]⟩
  | cons q qs ih =>
    obtain ⟨hv, hd⟩ := respond_valid hc q
    obtain ⟨hv', hd'⟩ := ih hv
    refine ⟨hv', ?_⟩
    simp only [run, after, List.flatMap_cons]
    rw [← List.append_assoc, hd, hd']

end Cursor

/-- The scanner `sc` stands where the cursor `c` over `T` stands: the tokens it has yet to hand
out are those of `T` after the first `c.handed`, and it reports the end as `c` does. -/
def Tracks (T : List Token) (sc : Scanner) (c : Cursor) : Prop :=
  Scan.tokensFrom sc.config sc.offset sc.rest = T.drop c.handed ∧ sc.exhausted = c.ended

/-- The scan of the rest is the first step's token before the scan after it. -/
theorem tokensFrom_eq_step (cfg : ScanConfig) (offset : Nat) (input : List Char) :
    Scan.tokensFrom cfg offset input =
      match Scan.step? cfg offset input with
      | none => []
      | some (t, o, r) => t :: Scan.tokensFrom cfg o r := by
  rw [Scan.tokensFrom]
  split <;> simp_all

/-- One request is answered alike by a scanner and the cursor it stands at, and they stand
together after it. -/
theorem respond_tracks {T : List Token} {sc : Scanner} {c : Cursor} (h : Tracks T sc c)
    (q : Request) :
    (sc.respond q).1 = (c.respond T q).1 ∧ Tracks T (sc.respond q).2 (c.respond T q).2 := by
  obtain ⟨hv, he⟩ := h
  cases q with
  | next =>
    rw [tokensFrom_eq_step] at hv
    cases hs : Scan.step? sc.config sc.offset sc.rest with
    | none =>
      rw [hs] at hv
      have ht : T[c.handed]? = none := by rw [← List.head?_drop, ← hv]; rfl
      have e1 : sc.respond .next = (.token none, { sc with exhausted := true }) := by
        simp [respond, next, hs]
      have e2 : c.respond T .next = (.token none, { c with ended := true }) := by
        simp [Cursor.respond, ht]
      rw [e1, e2]
      refine ⟨rfl, ?_, rfl⟩
      show Scan.tokensFrom sc.config sc.offset sc.rest = T.drop c.handed
      rw [tokensFrom_eq_step, hs]
      exact hv
    | some x =>
      obtain ⟨t, o, r⟩ := x
      rw [hs] at hv
      simp only at hv
      have ht : T[c.handed]? = some t := by rw [← List.head?_drop, ← hv]; rfl
      have e1 : sc.respond .next = (.token (some t), { sc with rest := r, offset := o }) := by
        simp [respond, next, hs]
      have e2 : c.respond T .next = (.token (some t), { c with handed := c.handed + 1 }) := by
        simp [Cursor.respond, ht]
      rw [e1, e2]
      refine ⟨rfl, ?_, he⟩
      show Scan.tokensFrom sc.config o r = T.drop (c.handed + 1)
      rw [← List.drop_drop, ← hv]
      rfl
  | drain =>
    have e1 : sc.respond .drain = (.tokens (Scan.tokensFrom sc.config sc.offset sc.rest),
        { sc with rest := [], exhausted := true }) := rfl
    have e2 : c.respond T .drain = (.tokens (T.drop c.handed), ⟨T.length, true⟩) := rfl
    rw [e1, e2, hv]
    refine ⟨rfl, ?_, rfl⟩
    show Scan.tokensFrom sc.config sc.offset [] = T.drop T.length
    rw [tokensFrom_eq_step, List.drop_length]
    rfl
  | exhausted =>
    have e1 : sc.respond .exhausted = (.exhausted sc.exhausted, sc) := rfl
    have e2 : c.respond T .exhausted = (.exhausted c.ended, c) := rfl
    rw [e1, e2, he]
    exact ⟨rfl, hv, he⟩

/-- Over any requests, a scanner answers as the cursor it stands at, and they stand together
after them. -/
theorem run_tracks {T : List Token} {sc : Scanner} {c : Cursor} (h : Tracks T sc c)
    (qs : List Request) :
    sc.run qs = c.run T qs ∧ Tracks T (sc.after qs) (c.after T qs) := by
  induction qs generalizing sc c with
  | nil => exact ⟨rfl, h⟩
  | cons q qs ih =>
    obtain ⟨hr, ht⟩ := respond_tracks h q
    obtain ⟨hr', ht'⟩ := ih ht
    exact ⟨by simp only [run, Cursor.run]; rw [hr, hr'], ht'⟩

/-- A scanner started on a text stands at the start of the text's tokens. -/
theorem tracks_start (cfg : ScanConfig) (s : String) :
    Tracks (Scan.tokens cfg s) (Scanner.start cfg s) ⟨0, false⟩ :=
  ⟨by simp [Scan.tokens, Scanner.start], rfl⟩

/-- A scanner started on a text answers every sequence of requests as the cursor over the text's
tokens does, starting at the first token with the end not reported. The tokens it hands out form
a prefix of the text's tokens, and all of them once it has reported the end. -/
theorem run_start (cfg : ScanConfig) (s : String) (qs : List Request) :
    (Scanner.start cfg s).run qs = Cursor.run (Scan.tokens cfg s) ⟨0, false⟩ qs ∧
      ((Scanner.start cfg s).run qs).flatMap Reply.delivered <+: Scan.tokens cfg s ∧
      (((Scanner.start cfg s).after qs).exhausted = true →
        ((Scanner.start cfg s).run qs).flatMap Reply.delivered = Scan.tokens cfg s) := by
  obtain ⟨hr, hv, he⟩ := run_tracks (tracks_start cfg s) qs
  have hc : (⟨0, false⟩ : Cursor).Valid (Scan.tokens cfg s) := ⟨Nat.zero_le _, nofun⟩
  obtain ⟨⟨_, hend⟩, hd⟩ := Cursor.run_valid hc qs
  simp only [List.take_zero, List.nil_append] at hd
  rw [hr, hd]
  refine ⟨rfl, List.take_prefix _ _, fun h => ?_⟩
  rw [he] at h
  rw [hend h, List.take_length]

end Scanner

end ScriptLex
