import ScriptLex.Diagnostic.Basic
import ScriptLex.Scan.Scanner

/-!
# Token streams

A cursor over the tokens of a text for a reader that looks one token ahead: the tokens not yet
consumed, and the one consumed last. Expecting a kind consumes a matching token; otherwise the
stream stays as it was and the answer is a diagnostic, at the end of the text when no token is
left and at the token's offset otherwise, which fails if that offset is no boundary of the text.
-/

namespace ScriptLex

/-- Whether a token has kind `k`: its own kind, or the class of all reserved words if it is
one. -/
def Token.hasKind (t : Token) (k : TokenKind) : Bool := t.kind == k || TokenKind.plain t.tag == k

/-- Why an expectation is not met: a located fault, or an offset that could not be located. -/
inductive StreamError
  | unexpected (d : Diagnostic)
  | badOffset (e : OffsetError)
  deriving DecidableEq, Repr

structure TokenStream where
  source : String
  filename : String
  pending : List Token
  previous : Option Token

namespace TokenStream

/-- A stream over `ts`, scanned from `s`, with nothing consumed. -/
def ofTokens (s : String) (filename : String) (ts : List Token) : TokenStream :=
  { source := s, filename, pending := ts, previous := none }

def ofString (cfg : ScanConfig) (s : String) (filename : String) : TokenStream :=
  ofTokens s filename (Scan.tokens cfg s)

def peek (st : TokenStream) : Option Token := st.pending.head?

def isAtEnd (st : TokenStream) : Bool := st.pending.isEmpty

def check (st : TokenStream) (k : TokenKind) : Bool :=
  match st.pending with
  | t :: _ => t.hasKind k
  | [] => false

/-- The next token, consumed; at the end, nothing, and the stream stays as it is. -/
def advance (st : TokenStream) : Option Token × TokenStream :=
  match st.pending with
  | t :: ts => (some t, { st with pending := ts, previous := some t })
  | [] => (none, st)

def accept (st : TokenStream) (k : TokenKind) : Bool × TokenStream :=
  if st.check k then (true, (st.advance).2) else (false, st)

def skipComments (st : TokenStream) : TokenStream :=
  let comments := st.pending.takeWhile (Token.hasKind · (.plain .comment))
  { st with
    pending := st.pending.dropWhile (Token.hasKind · (.plain .comment))
    previous := comments.getLast?.or st.previous }

/-- The end of the text: the widths of its characters summed, and that offset located. -/
def endLocation (st : TokenStream) : Except OffsetError Location :=
  SourceIndex.locateIn st.source st.filename
    (st.source.toList.foldl (fun n c => n + Text.utf8Width c) 0 : Nat)

/-- Consumes the next token, which must have kind `k`. -/
def expect (st : TokenStream) (k : TokenKind) : Except StreamError (Token × TokenStream) :=
  match st.pending with
  | t :: ts =>
    if t.hasKind k then .ok (t, { st with pending := ts, previous := some t })
    else
      match SourceIndex.locateIn st.source st.filename t.position with
      | .ok loc => .error (.unexpected ⟨.unexpectedToken k t, loc⟩)
      | .error e => .error (.badOffset e)
  | [] =>
    match st.endLocation with
    | .ok loc => .error (.unexpected ⟨.unexpectedEnd k, loc⟩)
    | .error e => .error (.badOffset e)

/-- What a token stream can be asked; `skipComments` also shows the next token. -/
inductive Request where
  | peek
  | advance
  | previous
  | isAtEnd
  | skipComments
  | check (k : TokenKind)
  | accept (k : TokenKind)
  | expect (k : TokenKind)
  deriving DecidableEq, Repr

inductive Reply where
  | token (t : Option Token)
  | value (b : Bool)
  | failure (e : StreamError)
  deriving DecidableEq, Repr

/-- The answer to one request, and the stream after it; a failed request leaves the stream as it
was. -/
def respond (st : TokenStream) : Request → Reply × TokenStream
  | .peek => (.token st.peek, st)
  | .advance => let r := st.advance; (.token r.1, r.2)
  | .previous => (.token st.previous, st)
  | .isAtEnd => (.value st.isAtEnd, st)
  | .skipComments => let st' := st.skipComments; (.token st'.peek, st')
  | .check k => (.value (st.check k), st)
  | .accept k => let r := st.accept k; (.value r.1, r.2)
  | .expect k =>
    match st.expect k with
    | .ok (t, st') => (.token (some t), st')
    | .error e => (.failure e, st)

def run (st : TokenStream) : List Request → List Reply
  | [] => []
  | q :: qs => let r := st.respond q; r.1 :: r.2.run qs

end TokenStream

end ScriptLex
