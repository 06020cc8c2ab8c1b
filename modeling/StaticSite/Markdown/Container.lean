import StaticSite.Markdown.BlockStart

/-!
# Open containers

While a document is read, the containers around the current line are open: quotations, lists, their
items and footnotes. A line belongs to a container if the container's marks come first on it.
-/

namespace StaticSite.Markdown

/-- A container of blocks. -/
inductive Container where
  /-- A quotation, marked on every line. -/
  | quote
  /-- A list of items with one mark, which is tight as long as no blank line stands in it. -/
  | list (mark : Char) (start : Option Nat) (tight : Bool)
  /-- An item, by the indentation of its lines. -/
  | item (indent : Nat)
  /-- The text of a footnote. -/
  | footnote (label : List Char)
  deriving DecidableEq, Repr

/-- The cursor after an indentation, or at the end of the line. -/
def enterIndented? (n : Nat) (cur : Cursor) : Option Cursor :=
  let (taken, after) := cur.takeIndent n
  if taken = n || after.atEnd then some after else none

/-- The cursor after the marks of the container, if the line has them. -/
def Container.enter? (container : Container) (cur : Cursor) : Option Cursor :=
  match container with
  | .quote => readQuoteMark? (cur.takeIndent 3).2
  | .list .. => some cur
  | .item n => enterIndented? n cur
  | .footnote _ => enterIndented? 4 cur

/-- The containers, from the outermost, that the line belongs to, as a number, and the cursor after
their marks. -/
def enterAll : List Container → Cursor → Nat × Cursor
  | [], cur => (0, cur)
  | container :: inner, cur =>
    match container.enter? cur with
    | some after =>
      let (n, after) := enterAll inner after
      (n + 1, after)
    | none => (0, cur)

/-- The cursor on a line after the marks of all containers, if the line belongs to all. -/
def enter? (spine : List Container) (line : Line) : Option Cursor :=
  let (n, cur) := enterAll spine (Cursor.ofText line.text)
  if n = spine.length then some cur else none

/-- A container that is open, with its blocks so far, the last one first. -/
structure Level where
  /-- The container. -/
  container : Container
  /-- Its blocks. -/
  children : List Block

/-- The block of a container that is closed. -/
def Level.toBlock (level : Level) : Block :=
  let children := level.children.reverse
  match level.container with
  | .quote => .quote children
  | .list _ start tight => .list start tight children
  | .item _ => .item children
  | .footnote label => .footnote label children

/-- A document while it is read. -/
structure Draft where
  /-- The open containers, from the innermost. -/
  levels : List Level := []
  /-- The blocks outside of all open containers, the last one first. -/
  blocks : List Block := []
  /-- Whether the last line was blank. -/
  afterBlank : Bool := false
  /-- Whether the last line held the mark of an item and nothing else. -/
  atItemStart : Bool := false
  /-- The box of a task whose paragraph has not begun. -/
  task : Option Bool := none
  /-- The links defined so far. -/
  targets : List (List Char × Target) := []
  /-- The footnotes so far. -/
  footnotes : List (List Char) := []

namespace Draft

/-- The open containers, from the outermost. -/
def spine (draft : Draft) : List Container := (draft.levels.map Level.container).reverse

/-- Puts a block into the innermost container. -/
def append (draft : Draft) (block : Block) : Draft :=
  match draft.levels with
  | [] => { draft with blocks := block :: draft.blocks }
  | level :: outer =>
    { draft with levels := { level with children := block :: level.children } :: outer }

/-- Opens a container. -/
def push (draft : Draft) (container : Container) : Draft :=
  { draft with levels := ⟨container, []⟩ :: draft.levels }

/-- Closes the innermost container. -/
def pop (draft : Draft) : Draft :=
  match draft.levels with
  | [] => draft
  | level :: outer =>
    let closed := { draft with levels := outer }.append level.toBlock
    match level.container with
    | .list _ _ true => { closed with atItemStart := false }
    | _ => closed

/-- Closes containers until a number of them is open. -/
def popTo (n : Nat) (draft : Draft) : Draft :=
  (List.range (draft.levels.length - n)).foldl (fun draft _ => draft.pop) draft

/-- Closes an item that has no text and is followed by a blank line. -/
def finishEmptyItem (draft : Draft) : Draft :=
  let closed :=
    if draft.atItemStart && draft.afterBlank then
      match draft.levels with
      | ⟨.item _, _⟩ :: _ => draft.pop
      | _ => draft
    else draft
  { closed with atItemStart := false }

/-- The levels with the outer one of the first two, if it is a list, no longer tight. -/
def loosen : List Level → List Level
  | inner :: ⟨.list mark start _, items⟩ :: outer =>
    inner :: ⟨.list mark start false, items⟩ :: outer
  | levels => levels

/-- Closes the innermost container if it is a list. A blank line before a further block makes the
list around it loose. -/
def finishList (draft : Draft) : Draft :=
  let draft := draft.finishEmptyItem
  let draft :=
    match draft.levels with
    | ⟨.list .., _⟩ :: _ => draft.pop
    | _ => draft
  if draft.afterBlank then
    { draft with levels := loosen draft.levels, afterBlank := false }
  else draft

/-- Makes sure that a list with the mark of an item is the innermost container. An item after a
blank line makes its list loose. -/
def continueList (draft : Draft) (mark : ListMark) : Draft :=
  let draft := draft.finishEmptyItem
  let opened (draft : Draft) : Draft :=
    { draft.push (.list mark.mark mark.number? true) with afterBlank := false }
  match draft.levels with
  | [] => opened draft
  | ⟨.list c start tight, items⟩ :: outer =>
    if c = mark.mark then
      let tight := tight && !draft.afterBlank
      { draft with levels := ⟨.list c start tight, items⟩ :: outer, afterBlank := false }
    else opened draft.finishList
  | _ :: _ => opened draft.finishList

/-- Takes note of a blank line. An item that has no text before it gets none after it. -/
def blankLine (draft : Draft) : Draft :=
  match draft.levels with
  | [] => draft
  | level :: outer =>
    match level.container with
    | .quote => draft
    | .item _ =>
      if draft.atItemStart then
        { draft with levels := { level with container := .item 0 } :: outer, afterBlank := true }
      else { draft with afterBlank := true }
    | _ => { draft with afterBlank := true }

/-- Adds a link, unless its label is taken. -/
def define (draft : Draft) (label : List Char) (target : Target) : Draft :=
  let key := foldLabel label
  if (draft.targets.lookup key).isSome then draft
  else { draft with targets := (key, target) :: draft.targets }

/-- Opens the containers that begin on the line; the second component is the cursor where their
text begins, or `none` if the line holds the mark of an item and nothing else. At most the given
number of containers is opened. -/
def openContainers : Nat → Draft → Cursor → Draft × Option Cursor
  | 0, draft, cur => (draft, some cur)
  | n + 1, draft, cur =>
    let (outer, within) := cur.takeIndent 4
    if outer = 4 then (draft, some cur)
    else
      match readFootnoteStart? within.rest with
      | some (label, rest) =>
        let draft := draft.finishList.push (.footnote label)
        openContainers n { draft with footnotes := foldLabel label :: draft.footnotes }
          (Cursor.ofText rest)
      | none =>
        match readListMark? outer within with
        | some (mark, after) =>
          let draft := (draft.continueList mark).push (.item mark.indent)
          if after.isBlank then ({ draft with atItemStart := true }, none)
          else
            match readTaskBox? after with
            | some (done, after) =>
              if after.isBlank then
                ({ draft.append (.task done) with atItemStart := true }, none)
              else openContainers n { draft with task := some done } after
            | none => openContainers n draft after
        | none =>
          match readQuoteMark? within with
          | some after => openContainers n (draft.finishList.push .quote) after
          | none => (draft, some cur)

end Draft

end StaticSite.Markdown
