import StaticSite.Markdown.Inline
import StaticSite.Markdown.Line
import StaticSite.Text.Punctuation

/-!
# Emphasis

Runs of asterisks, low lines or tildes begin and end emphasis. Whether a run may do so depends on
the characters around it; which runs belong together is found from left to right, where a closing
run takes the nearest opening run that fits.
-/

namespace StaticSite.Markdown

/-- A run of one mark. -/
structure Run where
  /-- The mark. -/
  mark : Char
  /-- The number of marks. -/
  length : Nat
  /-- Whether it may begin emphasis. -/
  opens : Bool
  /-- Whether it may end emphasis. -/
  closes : Bool
  deriving DecidableEq, Repr

/-- Whether a run may begin or end emphasis within a word. -/
def marksWithinWord (mark : Char) (length : Nat) : Bool :=
  mark == '*' || (mark == '~' && length > 1)

/-- The run of a mark between two characters. The start of a line counts as white space, and so do
the ends of the text. -/
def Run.between (mark : Char) (length : Nat) (before : Char) (after? : Option Char) : Run :=
  let startsLine := before == '\n'
  let opens :=
    match after? with
    | none => false
    | some after =>
      !Text.isBlank after
        && (startsLine
          || (marksWithinWord mark length && !Text.isPunctuation after)
          || (mark == '~' && before == '~' && !Text.isPunctuation after)
          || Text.isBlank before || Text.isPunctuation before)
  let closes :=
    !startsLine && !Text.isBlank before
      && match after? with
        | none => true
        | some after =>
          (marksWithinWord mark length && !Text.isPunctuation before)
            || (mark == '~' && before == '~')
            || Text.isBlank after || Text.isPunctuation after
  ⟨mark, length, opens, closes⟩

/-- Whether the run is emphasis at all: a run of tildes has at most two of them. -/
def Run.isUsable (run : Run) : Bool :=
  (run.opens || run.closes) && (run.mark != '~' || run.length ≤ 2)

/-- Whether a run may both begin and end emphasis. -/
def Run.isBoth (run : Run) : Bool := run.opens && run.closes

/-- Whether a closing run ends what an opening run begins. Tildes go with as many tildes. Where one
of two runs may both begin and end, their lengths add up to no multiple of three, unless both are
multiples of three. -/
def Run.matches (closing opening : Run) : Bool :=
  closing.mark == opening.mark
    && (closing.mark != '~' || closing.length == opening.length)
    && ((!closing.isBoth && !opening.isBoth)
      || (closing.length + opening.length) % 3 != 0 || closing.length % 3 == 0)

/-- A part of a text before emphasis is found. -/
inductive Piece where
  /-- A finished part. -/
  | done (inline : Inline)
  /-- A run of marks. -/
  | run (r : Run)

/-- An opening run that waits for its closing one. -/
structure Opening where
  /-- The run. -/
  run : Run
  /-- The number of its marks that are left. -/
  left : Nat
  /-- The parts between the opening run before it and this one, the last one first. -/
  before : List Inline

/-- The marks of a run as plain text. -/
def marksText (mark : Char) (n : Nat) : Inline := .plain (List.replicate n mark)

/-- Emphasis by a number of marks on both sides: each pair of marks is strong emphasis, and an odd
one is emphasis around all of it. -/
def wrap (mark : Char) : Nat → List Inline → List Inline
  | 0, children => children
  | 1, children => if mark = '~' then [.struck children] else [.emphasis children]
  | n + 2, children =>
    wrap mark n (if mark = '~' then [.struck children] else [.strong children])

/-- The parts after some openings, with the openings as plain text. -/
def collapse : List Opening → List Inline → List Inline
  | [], current => current
  | opening :: openings, current =>
    collapse openings (current ++ marksText opening.run.mark opening.left :: opening.before)

/-- The nearest opening that a run closes, those above it, and those below it. -/
def findOpening? (run : Run) : List Opening → Option (List Opening × Opening × List Opening)
  | [] => none
  | opening :: openings =>
    if run.matches opening.run then some ([], opening, openings)
    else (findOpening? run openings).map fun (above, found, below) => (opening :: above, found, below)

/-- The parts read so far: the openings, the nearest first, and the parts after the nearest, the
last one first. -/
structure Emphasized where
  /-- The openings. -/
  openings : List Opening := []
  /-- The parts after the nearest opening. -/
  current : List Inline := []

/-- Closes what a run closes. Some marks of it may be left, and as many steps are made at most. -/
def Emphasized.close (run : Run) : Nat → Nat → Emphasized → Nat × Emphasized
  | 0, left, state => (left, state)
  | n + 1, left, state =>
    if left = 0 then (0, state)
    else
      match findOpening? run state.openings with
      | none => (left, state)
      | some (above, opening, below) =>
        let children := (collapse above state.current).reverse
        let used := min left opening.left
        let node := (wrap run.mark used children).reverse
        let state : Emphasized :=
          if used < opening.left then
            ⟨{ opening with left := opening.left - used } :: below, node⟩
          else ⟨below, node ++ opening.before⟩
        close run n (left - used) state

/-- The parts with a further piece. -/
def Emphasized.add (state : Emphasized) (piece : Piece) : Emphasized :=
  match piece with
  | .done inline => { state with current := inline :: state.current }
  | .run run =>
    let (left, state) :=
      if run.closes then state.close run run.length run.length else (run.length, state)
    if left = 0 then state
    else if run.opens then ⟨⟨run, left, state.current⟩ :: state.openings, []⟩
    else { state with current := marksText run.mark left :: state.current }

/-- The inline structure of some pieces. -/
def emphasize (pieces : List Piece) : List Inline :=
  let state := pieces.foldl Emphasized.add {}
  (collapse state.openings state.current).reverse

end StaticSite.Markdown
