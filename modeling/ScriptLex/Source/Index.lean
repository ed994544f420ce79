import ScriptLex.Text

/-!
# Source index

A text is addressed by byte offsets into its UTF-8 encoding. Its index is built in one pass over
the characters: the byte offset at which each character starts, and the character index at which
each line starts. An offset is looked up by binary search among the character starts; it is a
boundary when a character starts exactly there or when it is the byte length of the whole text.
The line of a boundary is found by binary search among the line starts, and its column counts the
characters since that line began.
-/

namespace ScriptLex

/-- A place in a named text: its line and column, counted from one, and its byte offset. -/
structure Location where
  filename : String
  line : Nat
  column : Nat
  offset : Int
  deriving DecidableEq, Repr, Inhabited

/-- The short form of a location, `file:line:column`. -/
def Location.text (l : Location) : String := s!"{l.filename}:{l.line}:{l.column}"

/-- Why an offset has no answer. -/
inductive OffsetError
  | notBoundary (offset : Int)
  | noCharacter (offset : Int)
  deriving DecidableEq, Repr

def OffsetError.message : OffsetError → String
  | .notBoundary n => s!"Offset {n} is not a character boundary in the source"
  | .noCharacter n => s!"No character starts at offset {n}"

/-! ## Binary search -/

/-- The halving binary search over the places `lo` to `hi` of `a`: the answer lies after the
middle element when `right` holds of it, and at or before it otherwise. -/
def bisect {α : Type} (a : List α) (right : α → Bool) (lo hi : Nat) (h : hi ≤ a.length) : Nat :=
  if hlt : lo < hi then
    have hmid : (lo + hi) / 2 < a.length := by omega
    if right a[(lo + hi) / 2] then bisect a right ((lo + hi) / 2 + 1) hi h
    else bisect a right lo ((lo + hi) / 2) (by omega)
  else lo
termination_by hi - lo

/-- On a sorted list, the first place whose element is not below `x`. -/
def bisectLeft (a : List Nat) (x : Int) : Nat :=
  bisect a (fun v => decide ((v : Int) < x)) 0 a.length (Nat.le_refl _)

/-- On a sorted list, the first place whose element is above `x`. -/
def bisectRight (a : List Nat) (x : Nat) : Nat :=
  bisect a (fun v => !decide (x < v)) 0 a.length (Nat.le_refl _)

theorem bisect_le {α : Type} (a : List α) (right : α → Bool) (lo hi : Nat) (h : hi ≤ a.length)
    (hle : lo ≤ hi) : bisect a right lo hi h ≤ hi := by
  induction lo, hi, h using bisect.induct a right with
  | case1 lo hi h hlt _ hr ih =>
    rw [bisect, dif_pos hlt, if_pos hr]
    exact ih (by omega)
  | case2 lo hi h hlt _ hr ih =>
    rw [bisect, dif_pos hlt, if_neg hr]
    have := ih (by omega)
    omega
  | case3 lo hi h hlt =>
    rw [bisect, dif_neg hlt]
    exact hle

theorem bisectRight_le (a : List Nat) (x : Nat) : bisectRight a x ≤ a.length :=
  bisect_le a _ 0 a.length _ (Nat.zero_le _)

/-! ## Building the index -/

/-- What the indexing loop has built so far, and the byte offset it has reached. -/
structure IndexBuild where
  starts : List Nat
  lineStarts : List Nat
  position : Nat

namespace IndexBuild

/-- One turn of the loop, at the character `c` with character index `index`: record where `c`
starts and move past its bytes; after a line feed, a line starts at the next character. -/
def step (b : IndexBuild) (c : Char) (index : Nat) : IndexBuild :=
  { starts := b.starts ++ [b.position]
    lineStarts := if c = '\n' then b.lineStarts ++ [index + 1] else b.lineStarts
    position := b.position + Text.utf8Width c }

/-- The loop over the characters of `cs` and their indices; no character yet, the first line
starts at index zero. -/
def run (cs : List Char) : IndexBuild :=
  cs.zipIdx.foldl (fun b p => b.step p.1 p.2) ⟨[], [0], 0⟩

theorem foldl_step_starts_length (cs : List Char) (b : IndexBuild) (k : Nat) :
    ((cs.zipIdx k).foldl (fun b p => b.step p.1 p.2) b).starts.length =
      b.starts.length + cs.length := by
  induction cs generalizing b k with
  | nil => rfl
  | cons c cs ih =>
    rw [List.zipIdx_cons, List.foldl_cons, ih]
    simp only [step, List.length_append, List.length_cons, List.length_nil]
    omega

theorem foldl_step_lineStarts_ne_nil (cs : List Char) (b : IndexBuild) (k : Nat)
    (hb : b.lineStarts ≠ []) :
    ((cs.zipIdx k).foldl (fun b p => b.step p.1 p.2) b).lineStarts ≠ [] := by
  induction cs generalizing b k with
  | nil => exact hb
  | cons c cs ih =>
    rw [List.zipIdx_cons, List.foldl_cons]
    refine ih _ _ ?_
    by_cases hc : c = '\n'
    · simp [step, hc]
    · simpa [step, hc] using hb

theorem run_starts_length (cs : List Char) : (run cs).starts.length = cs.length := by
  simpa [run] using foldl_step_starts_length cs ⟨[], [0], 0⟩ 0

theorem run_lineStarts_ne_nil (cs : List Char) : (run cs).lineStarts ≠ [] :=
  foldl_step_lineStarts_ne_nil cs ⟨[], [0], 0⟩ 0 (List.cons_ne_nil 0 [])

end IndexBuild

/-! ## Lookups -/

/-- The index of one text: its characters, the byte offset where each starts, the character index
where each line starts, and its byte length. -/
structure SourceIndex where
  source : List Char
  starts : List Nat
  lineStarts : List Nat
  size : Nat
  starts_length : starts.length = source.length
  lineStarts_ne_nil : lineStarts ≠ []

namespace SourceIndex

def ofString (s : String) : SourceIndex :=
  { source := s.toList
    starts := (IndexBuild.run s.toList).starts
    lineStarts := (IndexBuild.run s.toList).lineStarts
    size := (IndexBuild.run s.toList).position
    starts_length := IndexBuild.run_starts_length s.toList
    lineStarts_ne_nil := IndexBuild.run_lineStarts_ne_nil s.toList }

/-- The character index at a byte offset: the length of the text at its byte length, the index of
the character that starts at the offset, or none. -/
def charIndex? (ix : SourceIndex) (offset : Int) : Option (Fin (ix.source.length + 1)) :=
  if offset = ix.size then some (Fin.last _)
  else
    if h : bisectLeft ix.starts offset < ix.starts.length then
      if (ix.starts[bisectLeft ix.starts offset] : Int) = offset then
        some ⟨bisectLeft ix.starts offset, by have := ix.starts_length; omega⟩
      else none
    else none

/-- The line and column of a boundary, reported under `filename`. -/
def locate (ix : SourceIndex) (filename : String) (offset : Int) : Except OffsetError Location :=
  match ix.charIndex? offset with
  | none => .error (.notBoundary offset)
  | some index =>
    have : bisectRight ix.lineStarts index - 1 < ix.lineStarts.length := by
      have := bisectRight_le ix.lineStarts index
      have := List.length_pos_iff.2 ix.lineStarts_ne_nil
      omega
    .ok ⟨filename, bisectRight ix.lineStarts index,
      index - ix.lineStarts[bisectRight ix.lineStarts index - 1] + 1, offset⟩

/-- The character that starts at an offset; the end of the text is a boundary but no character. -/
def charAt (ix : SourceIndex) (offset : Int) : Except OffsetError Char :=
  match ix.charIndex? offset with
  | none => .error (.noCharacter offset)
  | some index =>
    if h : index.val = ix.source.length then .error (.noCharacter offset)
    else
      have : index.val < ix.source.length := by have := index.isLt; omega
      .ok ix.source[index.val]

/-- A location looked up once, in a fresh index of `s`. -/
def locateIn (s filename : String) (offset : Int) : Except OffsetError Location :=
  (ofString s).locate filename offset

end SourceIndex

end ScriptLex
