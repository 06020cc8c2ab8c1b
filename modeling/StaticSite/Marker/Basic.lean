import StaticSite.Text.Blank
import StaticSite.Text.Table

/-!
# Markers

Template text holds two kinds of markers. A reference `{{ name | key=value }}` stands for another
template, with parameters; a placeholder `{{{ name=fallback }}}` stands for a value. A marker is
read at the front of a text. Text that is no well-formed marker is ordinary text, so reading never
fails as a whole. The lemmas say that a marker read off the front leaves a proper suffix of the
text.
-/

namespace StaticSite.Marker

/-- A reference to another template, with the parameters it passes on. -/
structure Reference where
  /-- The name as written, to be resolved against the directory of the template. -/
  name : String
  /-- The parameters. -/
  params : Table String
  deriving DecidableEq, Repr

/-- A place for a value. -/
structure Placeholder where
  /-- The name of the value. -/
  name : String
  /-- The text for a value that is not given. -/
  fallback : Option String
  deriving DecidableEq, Repr

/-- What a marker stands for. -/
inductive Meaning where
  /-- Another template goes here. -/
  | reference (r : Reference)
  /-- A value goes here. -/
  | placeholder (p : Placeholder)
  deriving DecidableEq, Repr

/-- The characters of the names of values: ASCII letters, digits and the underscore. -/
def isIdentifierChar (c : Char) : Bool := c.isAlphanum || c == '_'

/-- The characters of parameters: all but the bar and the braces. -/
def isSegmentChar (c : Char) : Bool := c != '|' && c != '\x7b' && c != '\x7d'

/-- The characters of the names of templates: those of parameters, without white space. -/
def isNameChar (c : Char) : Bool := isSegmentChar c && !Text.isBlank c

/-- The two opening braces of a marker. -/
def opening : List Char := ['\x7b', '\x7b']

/-- The two closing braces of a reference. -/
def closing : List Char := ['\x7d', '\x7d']

/-- The three closing braces of a placeholder. -/
def tripleClosing : List Char := ['\x7d', '\x7d', '\x7d']

/-- The text before and after the first occurrence of a character. -/
def splitOnce? (separator : Char) (text : List Char) : Option (List Char × List Char) :=
  match Text.spanOf (· != separator) text with
  | (_, []) => none
  | (before, _ :: after) => some (before, after)

/-- A parameter `key=value`. The key must not be empty; white space around either part is
dropped. -/
def readParam? (segment : List Char) : Option (String × String) :=
  match splitOnce? '=' segment with
  | none => none
  | some (key, value) =>
    if (Text.trim key).isEmpty then none
    else some (String.ofList (Text.trim key), String.ofList (Text.trim value))

/-- The parameters up to and with the closing braces. -/
def readParams? (params : Table String) (text : List Char) :
    Option (Table String × List Char) :=
  match Text.stripPrefix? closing text with
  | some rest => some (params, rest)
  | none =>
    match text with
    | [] => none
    | c :: body =>
      if c = '|' then
        match readParam? (Text.spanOf isSegmentChar body).1 with
        | none => none
        | some (key, value) =>
          readParams? (params.insert key value) (Text.spanOf isSegmentChar body).2
      else none
termination_by text.length
decreasing_by
  have := Text.length_spanOf_snd_le isSegmentChar body
  simp only [List.length_cons]
  omega

/-- A reference after its two opening braces. -/
def readReference? (text : List Char) : Option (Reference × List Char) :=
  let (name, rest) := Text.spanOf isNameChar (text.dropWhile Text.isBlank)
  if name.isEmpty then none
  else
    (readParams? [] (rest.dropWhile Text.isBlank)).map fun (params, rest) =>
      (⟨String.ofList name, params⟩, rest)

/-- A placeholder after its three opening braces. The fallback ends at the first three closing
braces and stays on one line. -/
def readPlaceholder? (text : List Char) : Option (Placeholder × List Char) :=
  let (name, rest) := Text.spanOf isIdentifierChar (text.dropWhile Text.isBlank)
  let rest := rest.dropWhile Text.isBlank
  if name.isEmpty then none
  else
    match Text.stripPrefix? tripleClosing rest with
    | some rest => some (⟨String.ofList name, none⟩, rest)
    | none =>
      match rest with
      | '=' :: body =>
        match Text.breakOn? tripleClosing body with
        | none => none
        | some (fallback, rest) =>
          if fallback.contains '\n' then none
          else some (⟨String.ofList name, some (String.ofList (Text.trim fallback))⟩, rest)
      | _ => none

/-- A marker at the front of the text, and the text after it. Three braces that open no placeholder
open no reference either. -/
def read? (text : List Char) : Option (Meaning × List Char) :=
  match Text.stripPrefix? opening text with
  | none => none
  | some ('\x7b' :: body) =>
    (readPlaceholder? body).map fun (p, rest) => (.placeholder p, rest)
  | some body => (readReference? body).map fun (r, rest) => (.reference r, rest)

/-- Parameters leave a suffix. -/
theorem readParams?_suffix {params : Table String} {text : List Char}
    {result : Table String × List Char} (h : readParams? params text = some result) :
    result.2 <:+ text := by
  fun_induction readParams? params text with
  | case1 params text rest hrest =>
    simp only [Option.some.injEq] at h
    subst h
    exact ⟨closing, (Text.stripPrefix?_eq_some hrest).symm⟩
  | case2 => simp at h
  | case3 => simp at h
  | case4 params body key value hparam hclose ih =>
    have hbody : (Text.spanOf isSegmentChar body).2 <:+ body :=
      ⟨_, Text.spanOf_append isSegmentChar body⟩
    exact ((ih h).trans hbody).trans (List.suffix_cons _ _)
  | case5 => simp at h

private theorem dropWhile_suffix_self (p : Char → Bool) (text : List Char) :
    text.dropWhile p <:+ text := List.dropWhile_suffix p

private theorem spanOf_suffix (p : Char → Bool) (text : List Char) :
    (Text.spanOf p text).2 <:+ text := ⟨_, Text.spanOf_append p text⟩

/-- A reference leaves a suffix. -/
theorem readReference?_suffix {text : List Char} {result : Reference × List Char}
    (h : readReference? text = some result) : result.2 <:+ text := by
  simp only [readReference?] at h
  split at h
  · simp at h
  · simp only [Option.map_eq_some_iff, Prod.exists] at h
    obtain ⟨params, rest, hparams, rfl⟩ := h
    exact (((readParams?_suffix hparams).trans (dropWhile_suffix_self _ _)).trans
      (spanOf_suffix _ _)).trans (dropWhile_suffix_self _ _)

/-- A placeholder leaves a suffix. -/
theorem readPlaceholder?_suffix {text : List Char} {result : Placeholder × List Char}
    (h : readPlaceholder? text = some result) : result.2 <:+ text := by
  have hname := ((dropWhile_suffix_self Text.isBlank _).trans
    (spanOf_suffix isIdentifierChar (text.dropWhile Text.isBlank))).trans
    (dropWhile_suffix_self Text.isBlank text)
  simp only [readPlaceholder?] at h
  split at h
  · simp at h
  · split at h
    · next rest hrest =>
      simp only [Option.some.injEq] at h
      subst h
      have hsuffix : rest <:+ _ := ⟨tripleClosing, (Text.stripPrefix?_eq_some hrest).symm⟩
      exact hsuffix.trans hname
    · split at h
      · next body hbody =>
        rw [hbody] at hname
        split at h
        · simp at h
        · next fallback rest hbreak =>
          split at h
          · simp at h
          · simp only [Option.some.injEq] at h
            subst h
            have hsuffix : rest <:+ body :=
              ⟨fallback ++ tripleClosing, (Text.breakOn?_append hbreak).symm⟩
            exact (hsuffix.trans (List.suffix_cons _ _)).trans hname
      · simp at h

/-- A marker leaves a proper suffix of the text. -/
theorem length_of_read? {text : List Char} {result : Meaning × List Char}
    (h : read? text = some result) : result.2.length < text.length := by
  unfold read? at h
  split at h
  · simp at h
  · next body hbody =>
    simp only [Option.map_eq_some_iff, Prod.exists] at h
    obtain ⟨p, rest, hp, rfl⟩ := h
    have hlen := (readPlaceholder?_suffix hp).length_le
    have htext := congrArg List.length (Text.stripPrefix?_eq_some hbody)
    simp only [List.length_append, opening, List.length_cons, List.length_nil] at htext hlen ⊢
    omega
  · next body _ hbody =>
    simp only [Option.map_eq_some_iff, Prod.exists] at h
    obtain ⟨r, rest, hr, rfl⟩ := h
    have hlen := (readReference?_suffix hr).length_le
    have htext := congrArg List.length (Text.stripPrefix?_eq_some hbody)
    simp only [List.length_append, opening, List.length_cons, List.length_nil] at htext hlen ⊢
    omega

end StaticSite.Marker
