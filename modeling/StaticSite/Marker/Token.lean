import StaticSite.Marker.Basic

/-!
# Tokens of template text

Template text is cut from left to right into markers and the ordinary text between them. Each
piece keeps the text it was cut from, so that the pieces together are the whole text. Where only the
markers count, a search goes over the text by itself and says where they lie. Positions count bytes
in UTF-8.
-/

namespace StaticSite.Marker

/-- A part of a template. -/
inductive Token where
  /-- Ordinary text. -/
  | literal (text : String)
  /-- A reference to another template. -/
  | reference (r : Reference)
  /-- A place for a value. -/
  | placeholder (p : Placeholder)
  deriving DecidableEq, Repr

/-- The token of what a marker means. -/
def Meaning.toToken : Meaning → Token
  | .reference r => .reference r
  | .placeholder p => .placeholder p

/-- A token with the text it was cut from. -/
structure Piece where
  /-- The text in the template. -/
  source : List Char
  /-- What the text stands for. -/
  token : Token
  deriving DecidableEq, Repr

/-- Ordinary text as a piece, unless there is none. -/
def literalPiece (source : List Char) : List Piece :=
  if source.isEmpty then [] else [⟨source, .literal (String.ofList source)⟩]

/-- The pieces of a text that follows some ordinary text, which is given backwards. -/
def piecesAfter (literal text : List Char) : List Piece :=
  match text with
  | [] => literalPiece literal.reverse
  | c :: text =>
    match _h : read? (c :: text) with
    | some (marker, rest) =>
      literalPiece literal.reverse
        ++ ⟨(c :: text).take (text.length + 1 - rest.length), marker.toToken⟩
        :: piecesAfter [] rest
    | none => piecesAfter (c :: literal) text
termination_by text.length
decreasing_by
  · exact length_of_read? _h
  · simp

/-- The pieces of a text. -/
def pieces (text : List Char) : List Piece := piecesAfter [] text

/-- The tokens of a text. -/
def tokenize (text : String) : List Token := (pieces text.toList).map Piece.token

/-- A reference and the bytes it takes up. -/
structure Occurrence where
  /-- The position of its first byte. -/
  start : Nat
  /-- The position after its last byte. -/
  stop : Nat
  /-- The reference. -/
  reference : Reference
  deriving DecidableEq, Repr

/-- A marker and the bytes it takes up. -/
structure Span where
  /-- The position of its first byte. -/
  start : Nat
  /-- The position after its last byte. -/
  stop : Nat
  /-- What the marker stands for. -/
  meaning : Meaning
  deriving DecidableEq, Repr

/-- The reference of a marker, if it is one. -/
def Span.reference? (span : Span) : Option Occurrence :=
  match span.meaning with
  | .reference r => some ⟨span.start, span.stop, r⟩
  | .placeholder _ => none

/-- The markers of a text from left to right and without overlap. The text begins at a position;
where no marker begins, the search goes on behind the next character. -/
def scanFrom (position : Nat) (text : List Char) : List Span :=
  match text with
  | [] => []
  | c :: text =>
    match _h : read? (c :: text) with
    | some (marker, rest) =>
      let stop := position + (Text.byteLength (c :: text) - Text.byteLength rest)
      ⟨position, stop, marker⟩ :: scanFrom stop rest
    | none => scanFrom (position + c.utf8Size) text
termination_by text.length
decreasing_by
  · exact length_of_read? _h
  · simp

/-- The leftmost reference of a text. -/
def findReference? (text : String) : Option Occurrence :=
  (scanFrom 0 text.toList).findSome? Span.reference?

end StaticSite.Marker
