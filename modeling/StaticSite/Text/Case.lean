import StaticSite.Text.CaseTable

/-!
# Case of letters

Lower and upper case of text by the full mappings of Unicode. A capital sigma at the end of a word
becomes a final sigma; all other mappings do not look at the neighbours of a character.
-/

namespace StaticSite.Text

/-- The counterpart of a character in a run that holds it. -/
def CaseRun.counterpart? (run : CaseRun) (n : Nat) : Option Nat :=
  if run.first ≤ n ∧ n ≤ run.last ∧ (n - run.first) % run.stride = 0 then
    some ((n : Int) + run.difference).toNat
  else none

/-- Whether one of the ranges holds a character. -/
def inRanges (ranges : Array (Nat × Nat)) (c : Char) : Bool :=
  ranges.any fun (first, last) => first ≤ c.toNat && c.toNat ≤ last

/-- The lower case of a character. -/
def lowerChar (c : Char) : List Char :=
  if c.toNat < 128 then [c.toLower]
  else if c.toNat = 0x130 then ['i', Char.ofNat 0x307]
  else
    match lowerRuns.findSome? fun run => run.counterpart? c.toNat with
    | some n => [Char.ofNat n]
    | none => [c]

/-- The upper case of a character. -/
def upperChar (c : Char) : List Char :=
  if c.toNat < 128 then [c.toUpper]
  else
    match upperSequences.find? fun (n, _) => n == c.toNat with
    | some (_, sequence) => sequence.map Char.ofNat
    | none =>
      match upperRuns.findSome? fun run => run.counterpart? c.toNat with
      | some n => [Char.ofNat n]
      | none => [c]

/-- Whether the first character that is not case-ignorable is cased. -/
def leadsWithCased (text : List Char) : Bool :=
  match text.dropWhile (inRanges ignorableRanges) with
  | c :: _ => inRanges casedRanges c
  | [] => false

/-- The text in lower case, after some text given backwards. -/
def lowerAfter (before : List Char) : List Char → List Char
  | [] => []
  | c :: text =>
    let lower :=
      if c.toNat = 0x3A3 then
        if leadsWithCased before && !leadsWithCased text then [Char.ofNat 0x3C2]
        else [Char.ofNat 0x3C3]
      else lowerChar c
    lower ++ lowerAfter (c :: before) text

/-- The text in lower case. -/
def lower (text : List Char) : List Char := lowerAfter [] text

/-- The text in upper case. -/
def upper (text : List Char) : List Char := text.flatMap upperChar

end StaticSite.Text
