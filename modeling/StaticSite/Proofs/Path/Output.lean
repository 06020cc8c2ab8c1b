import StaticSite.Format
import StaticSite.Path.Site
import StaticSite.Proofs.Path.Normal

/-!
# File names and output files

The extension of a path, and so whether it is a page, depends on the last name alone. A page keeps
all components in the output but the name, which becomes that of an HTML file (`fields_outputPage`).
A page whose name is an extension behind two dots becomes `..` instead.
-/

namespace StaticSite.Path

variable {path : Path} {before : List (List Char)} {directory : List Component} {name : String}

/-! ## Names and extensions -/

theorem splitName_of_none {text : List Char} (h : (splitName text).2 = none) :
    (splitName text).1 = text := by
  revert h
  rw [splitName]
  split
  · split_ifs <;> simp
  · simp

theorem splitName_of_some {text extension : List Char} (h : (splitName text).2 = some extension) :
    text = (splitName text).1 ++ '.' :: extension ∧ (splitName text).1 ≠ [] ∧
      '.' ∉ extension := by
  revert h
  rw [splitName]
  split
  · next stem found hfound =>
    split_ifs with hempty
    · simp
    · intro h
      obtain rfl : found = extension := by simpa using h
      obtain ⟨htext, hdot⟩ := Text.breakOnLast?_eq_some hfound
      exact ⟨htext, by simpa using hempty, hdot⟩
  · simp

theorem splitName_append {stem extension : List Char} (hstem : stem ≠ []) (h : '.' ∉ extension) :
    splitName (stem ++ '.' :: extension) = (stem, some extension) := by
  rw [splitName, Text.breakOnLast?_append h]
  simp [hstem]

theorem stem_ne_nil (h : name ≠ "") : (splitName name.toList).1 ≠ [] := by
  cases hextension : (splitName name.toList).2 with
  | none => simpa [splitName_of_none hextension] using h
  | some extension => exact (splitName_of_some hextension).2.1

theorem stem_isPrefix (text : List Char) : (splitName text).1 <+: text := by
  cases hextension : (splitName text).2 with
  | none => rw [splitName_of_none hextension]
  | some extension => exact ⟨_, (splitName_of_some hextension).1.symm⟩

theorem fileName?_eq (h : path.components = directory ++ [.normal name]) :
    path.fileName? = some name := by
  rw [fileName?, h, List.getLast?_concat]

theorem exists_of_fileName? (h : path.fileName? = some name) :
    ∃ directory, path.components = directory ++ [.normal name] := by
  rw [fileName?] at h
  split at h
  · next found hlast =>
    obtain rfl := Option.some.inj h
    exact List.getLast?_eq_some_iff.mp hlast
  · simp at h

theorem extension?_eq (h : path.components = directory ++ [.normal name]) :
    path.extension? = (splitName name.toList).2.map String.ofList := by
  rw [extension?, fileName?_eq h]

theorem components_name (h : IsName name) : components ⟨name⟩ = [] ++ [.normal name] := by
  have hcomponent := componentOf?_name h
  rw [components_eq, fields_name h, leadOf_cons_of_component hcomponent]
  simp [hcomponent]

/-- Whether a file is a page depends on its name alone. -/
theorem forPath?_eq (registry : Registry) (h : path.components = directory ++ [.normal name])
    (hname : IsName name) : registry.forPath? path = registry.forPath? ⟨name⟩ := by
  rw [Registry.forPath?, Registry.forPath?, extension?_eq h, extension?_eq (components_name hname)]

theorem isPage_eq (registry : Registry) (h : path.components = directory ++ [.normal name])
    (hname : IsName name) : registry.isPage path = registry.isPage ⟨name⟩ := by
  rw [Registry.isPage, Registry.isPage, forPath?_eq registry h hname]

/-! ## New extensions -/

private theorem notMem_of_fields {last : List Char} (h : path.fields = before ++ [last]) :
    ∀ field ∈ before, '/' ∉ field := fun field hmem ↦ by
  have hfield : field ∈ path.fields := by simp [h, hmem]
  exact notMem_of_mem_fields hfield

private theorem fields_of_text {last : List Char}
    (htext : path.text.toList = Text.ended '/' before ++ last)
    (hbefore : ∀ field ∈ before, '/' ∉ field) (hlast : '/' ∉ last) :
    path.fields = before ++ [last] := by
  have hjoin : path.text.toList = Text.joinWith ['/'] (before ++ [last]) := by
    rw [htext, Text.joinWith_append (by simp)]
    rfl
  rw [fields, hjoin, Text.splitOn_joinWith (by simp)]
  intro field hmem
  rcases List.mem_append.mp hmem with hmem | hmem
  · exact hbefore field hmem
  · rwa [List.mem_singleton.mp hmem]

theorem text_of_fields (h : path.fields = before ++ [name.toList]) :
    path.text.toList = Text.ended '/' before ++ name.toList := by
  rw [text_eq_joinWith, h, Text.joinWith_append (by simp)]
  rfl

/-- A path without a name at its end gets no extension. -/
theorem setExtension_of_fileName?_eq_none {extension : String} (h : path.fileName? = none) :
    path.setExtension extension = path := by
  rw [setExtension]
  split
  · next name start stop hlast =>
    have hcomponent := congrArg (Option.map Part.component) hlast
    rw [← List.getLast?_map] at hcomponent
    change path.components.getLast? = some (.normal name) at hcomponent
    simp [fileName?, hcomponent] at h
  · rfl

/-- A new extension comes behind the stem of the name. -/
theorem fields_setExtension {extension : String} (h : path.fields = before ++ [name.toList])
    (hname : IsName name) (hextension : '/' ∉ extension.toList) :
    (path.setExtension extension).fields =
      before ++ [(splitName name.toList).1 ++ '.' :: extension.toList] := by
  have hstem := stem_isPrefix name.toList
  refine fields_of_text ?_ (notMem_of_fields h) ?_
  · rw [setExtension, getLast?_parts h hname]
    simp only
    rw [text_of_fields h, String.toList_append, String.toList_append, String.toList_ofList,
      List.take_length_add_append, ← List.prefix_iff_eq_take.mp hstem]
    simp
  · have hnot : '/' ∉ (splitName name.toList).1 := fun hmem ↦ hname.2.2.2 (hstem.mem hmem)
    simp [hnot, hextension]

/-- Whether a name keeps more than a dot when its extension is taken off. -/
def HasStem (name : String) : Prop := (splitName name.toList).1 ≠ ['.']

theorem hasStem_of_not_isHiddenName (h : ¬ isHiddenName name) : HasStem name := by
  intro hdot
  obtain ⟨rest, hrest⟩ := stem_isPrefix name.toList
  rw [hdot] at hrest
  exact h (by rw [isHiddenName, ← hrest]; rfl)

/-- A path whose extension is taken off ends in the stem and the dot. -/
private theorem fields_withoutExtension {old : List Char}
    (h : path.fields = before ++ [name.toList]) (hname : IsName name)
    (hold : (splitName name.toList).2 = some old) :
    fields ⟨String.ofList (path.text.toList.take
      (path.text.toList.length - (String.ofList old).length))⟩ =
        before ++ [(splitName name.toList).1 ++ ['.']] := by
  obtain ⟨hsplit, -, -⟩ := splitName_of_some hold
  have hslash : '/' ∉ (splitName name.toList).1 ++ ['.'] := by
    have hnot : '/' ∉ (splitName name.toList).1 := fun hmem ↦
      hname.2.2.2 ((stem_isPrefix name.toList).mem hmem)
    simpa using hnot
  refine fields_of_text ?_ (notMem_of_fields h) hslash
  have htext : path.text.toList =
      Text.ended '/' before ++ ((splitName name.toList).1 ++ ['.']) ++ old := by
    rw [text_of_fields h]
    nth_rewrite 1 [hsplit]
    simp
  rw [String.toList_ofList, htext, List.length_append, String.length_ofList, Nat.add_sub_cancel,
    List.take_left]

/-- The stem of a name, with the new extension behind it, is put in its place. -/
theorem fields_withExtension {extension : String} (h : path.fields = before ++ [name.toList])
    (hname : IsName name) (hstem : HasStem name) (hextension : '/' ∉ extension.toList) :
    (path.withExtension extension).fields =
      before ++ [(splitName name.toList).1 ++ '.' :: extension.toList] := by
  obtain ⟨directory, hcomponents⟩ := components_of_fields h hname
  rw [withExtension]
  simp only [extension?_eq hcomponents]
  cases hold : (splitName name.toList).2 with
  | none => exact fields_setExtension h hname hextension
  | some old =>
    obtain ⟨hsplit, hne, hdot⟩ := splitName_of_some hold
    have hfields := fields_withoutExtension h hname hold
    -- The name without its old extension is a name still: it is no pair of dots.
    have hcutName : IsName (String.ofList ((splitName name.toList).1 ++ ['.'])) := by
      have hother (other : List Char) (h : (splitName name.toList).1 ++ ['.'] ≠ other) :
          String.ofList ((splitName name.toList).1 ++ ['.']) ≠ String.ofList other := fun heq ↦
        h (by simpa using congrArg String.toList heq)
      refine ⟨hother [] (by simp), hother ['.'] (by simpa using hne), hother ['.', '.'] fun hdots ↦ ?_,
        ?_⟩
      · exact hstem (List.append_cancel_right (hdots.trans (List.singleton_append (l := ['.'])).symm))
      · have hslash := hname.2.2.2
        rw [hsplit] at hslash
        simp only [List.mem_append, not_or] at hslash
        simpa using hslash.1
    simp only [Option.map_some]
    rw [← String.toList_ofList (l := (splitName name.toList).1 ++ ['.'])] at hfields
    rw [fields_setExtension hfields hcutName hextension, String.toList_ofList,
      splitName_append hne (by simp)]

/-- Two paths whose fields agree up to the last ones, which are components, have the same components
up to the last ones. -/
theorem components_of_same_fields {other : Path} {last last' : List Char} {c c' : Component}
    (h : path.fields = before ++ [last]) (hlast : componentOf? last = some c)
    (hother : other.fields = before ++ [last']) (hlast' : componentOf? last' = some c')
    (hcomponents : path.components = directory ++ [c]) :
    other.components = directory ++ [c'] := by
  have hlead : leadOf (before ++ [last]) = leadOf (before ++ [last']) := by
    cases before with
    | nil =>
      rw [List.nil_append, List.nil_append, leadOf_cons_of_component hlast,
        leadOf_cons_of_component hlast']
    | cons first before => exact leadOf_append (List.cons_ne_nil _ _) _ _ _ _
  have hnew : [last'].filterMap componentOf? = [c'] := by simp [hlast']
  have hold : [last].filterMap componentOf? = [c] := by simp [hlast]
  rw [components_eq, h, List.filterMap_append, hold, ← List.append_assoc] at hcomponents
  rw [components_eq, hother, ← hlead, List.filterMap_append, hnew, ← List.append_assoc,
    List.append_cancel_right hcomponents]

/-- A name whose stem is a dot becomes `..`, and no extension is set. -/
theorem components_withExtension_of_not_hasStem {extension : String} (hpath : path.IsFilePath)
    (h : path.components = directory ++ [.normal name]) (hstem : ¬ HasStem name) :
    (path.withExtension extension).components = directory ++ [.parent] := by
  obtain ⟨before, hfields, hname⟩ := fields_of_components hpath h
  have hdot : (splitName name.toList).1 = ['.'] := not_not.mp hstem
  rw [withExtension]
  simp only [extension?_eq h]
  cases hold : (splitName name.toList).2 with
  | none =>
    rw [splitName_of_none hold] at hdot
    exact absurd (String.toList_inj.mp hdot) hname.2.1
  | some old =>
    have hcut := fields_withoutExtension hfields hname hold
    rw [hdot] at hcut
    have hcomponents := components_of_same_fields hfields (componentOf?_name hname) hcut rfl h
    simp only [Option.map_some]
    rw [setExtension_of_fileName?_eq_none, hcomponents]
    rw [fileName?, hcomponents, List.getLast?_concat]

/-! ## Output files -/

/-- The name of the output file of a page with a name. -/
def outputName (name : String) : String := (outputPage ⟨name⟩).text

private theorem outputPage_cases (path : Path) :
    (∃ extension, path.extension? = some extension ∧ isHtmlExtension extension ∧
      path.outputPage = path) ∨
    (∀ extension, path.extension? = some extension → ¬ isHtmlExtension extension) ∧
      path.outputPage = path.withExtension "html" := by
  rw [outputPage]
  cases path.extension? with
  | none => exact Or.inr ⟨by simp, rfl⟩
  | some extension =>
    by_cases hhtml : isHtmlExtension extension
    · exact Or.inl ⟨extension, rfl, hhtml, if_pos hhtml⟩
    · exact Or.inr ⟨by simpa using hhtml, if_neg hhtml⟩

/-- The name of the output file of a page is the old one, or its stem with a new extension. -/
private theorem outputName_cases (hname : IsName name) (hstem : HasStem name) :
    (∃ extension, (⟨name⟩ : Path).extension? = some extension ∧ isHtmlExtension extension ∧
      outputName name = name) ∨
    (∀ extension, (⟨name⟩ : Path).extension? = some extension → ¬ isHtmlExtension extension) ∧
      (outputName name).toList = (splitName name.toList).1 ++ '.' :: "html".toList := by
  rcases outputPage_cases ⟨name⟩ with ⟨extension, hextension, hhtml, hsame⟩ | ⟨hnot, hnew⟩
  · exact Or.inl ⟨extension, hextension, hhtml, by rw [outputName, hsame]⟩
  · refine Or.inr ⟨hnot, ?_⟩
    have hown : fields ⟨name⟩ = [] ++ [name.toList] := fields_name hname
    have hfields : (withExtension ⟨name⟩ "html").fields = _ :=
      fields_withExtension hown hname hstem (by decide)
    rw [outputName, text_eq_joinWith, hnew, hfields]
    rfl

/-- A name with an extension behind it is a name. -/
private theorem isName_append {newName : String} (hname : IsName name)
    (h : newName.toList = (splitName name.toList).1 ++ '.' :: "html".toList) : IsName newName := by
  have hslash : '/' ∉ (splitName name.toList).1 := fun hmem ↦
    hname.2.2.2 ((stem_isPrefix name.toList).mem hmem)
  have hne (other : String) (hother : other.toList.length < 5) : newName ≠ other := by
    rintro rfl
    rw [h] at hother
    simp at hother
  exact ⟨hne _ (by decide), hne _ (by decide), hne _ (by decide), by rw [h]; simp [hslash]⟩

private theorem extension?_of_append {newName : String} (hname : IsName name)
    (h : newName.toList = (splitName name.toList).1 ++ '.' :: "html".toList) :
    (⟨newName⟩ : Path).extension? = some "html" := by
  rw [extension?_eq (components_name (isName_append hname h)), h,
    splitName_append (stem_ne_nil hname.1) (by decide)]
  rfl

theorem isName_outputName (hname : IsName name) (hstem : HasStem name) :
    IsName (outputName name) := by
  rcases outputName_cases hname hstem with ⟨-, -, -, hsame⟩ | ⟨-, hnew⟩
  · rwa [hsame]
  · exact isName_append hname hnew

/-- Where HTML files are pages, the output file of a page has the name of a page. -/
theorem isPage_outputName {registry : Registry}
    (hhtml : (registry.forExtension? "html").isSome) (hname : IsName name)
    (hstem : HasStem name) (h : registry.isPage ⟨name⟩) :
    registry.isPage ⟨outputName name⟩ := by
  rcases outputName_cases hname hstem with ⟨-, -, -, hsame⟩ | ⟨-, hnew⟩
  · rwa [hsame]
  · have hextension := extension?_of_append hname hnew
    rw [Registry.isPage, Registry.forPath?, hextension, Option.bind_some]
    exact hhtml

/-- The name of an output file stays as it is in a second pass. -/
theorem outputName_outputName (hname : IsName name) (hstem : HasStem name) :
    outputName (outputName name) = outputName name := by
  rcases outputName_cases hname hstem with ⟨-, -, -, hsame⟩ | ⟨-, hnew⟩
  · rw [hsame, hsame]
  · have hextension := extension?_of_append hname hnew
    rcases outputPage_cases ⟨outputName name⟩ with ⟨-, -, -, hown⟩ | ⟨hnot, -⟩
    · rw [outputName, hown]
    · exact absurd (by decide) (hnot _ hextension)

/-- The output file of a page lies where the page would lie; only the name is another one. -/
theorem fields_outputPage (h : path.fields = before ++ [name.toList]) (hname : IsName name)
    (hstem : HasStem name) :
    path.outputPage.fields = before ++ [(outputName name).toList] := by
  obtain ⟨directory, hcomponents⟩ := components_of_fields h hname
  have hextension : path.extension? = (⟨name⟩ : Path).extension? := by
    rw [extension?_eq hcomponents, extension?_eq (components_name hname)]
  rcases outputName_cases hname hstem with ⟨extension, hsome, hhtml, hsame⟩ | ⟨hnot, hnew⟩
  · rcases outputPage_cases path with ⟨-, -, -, hpath⟩ | ⟨hcontra, -⟩
    · rw [hpath, hsame, h]
    · exact absurd hhtml (hcontra extension (hextension.trans hsome))
  · rcases outputPage_cases path with ⟨extension, hsome, hhtml, -⟩ | ⟨-, hpath⟩
    · exact absurd hhtml (hnot extension (hextension.symm.trans hsome))
    · rw [hpath, hnew]
      exact fields_withExtension h hname hstem (by decide)

theorem components_outputPage (hpath : path.IsFilePath)
    (h : path.components = directory ++ [.normal name]) (hstem : HasStem name) :
    path.outputPage.components = directory ++ [.normal (outputName name)] := by
  obtain ⟨before, hfields, hname⟩ := fields_of_components hpath h
  exact components_of_same_fields hfields (componentOf?_name hname)
    (fields_outputPage hfields hname hstem) (componentOf?_name (isName_outputName hname hstem)) h

/-- The output of any page lies where the page would lie, or its path goes up to the directory above
this one. -/
theorem components_outputPage_cases (hpath : path.IsFilePath)
    (h : path.components = directory ++ [.normal name]) :
    path.outputPage.components = directory ++ [.parent] ∧ ¬ HasStem name ∨
      path.outputPage.components = directory ++ [.normal (outputName name)] := by
  by_cases hstem : HasStem name
  · exact Or.inr (components_outputPage hpath h hstem)
  obtain ⟨before, -, hname⟩ := fields_of_components hpath h
  have hextension : path.extension? = (⟨name⟩ : Path).extension? := by
    rw [extension?_eq h, extension?_eq (components_name hname)]
  rcases outputPage_cases path with ⟨extension, hsome, hhtml, hsame⟩ | ⟨-, hnew⟩
  · rcases outputPage_cases ⟨name⟩ with ⟨-, -, -, hown⟩ | ⟨hnot, -⟩
    · exact Or.inr (by rw [hsame, h, outputName, hown])
    · exact absurd hhtml (hnot extension (hextension.symm.trans hsome))
  · exact Or.inl ⟨by rw [hnew, components_withExtension_of_not_hasStem hpath h hstem], hstem⟩

/-- The last component of the output of a page depends on the name alone. -/
theorem components_outputPage_append (hpath : path.IsFilePath)
    (h : path.components = directory ++ [.normal name]) (hname : IsName name) :
    path.outputPage.components = directory ++ (outputPage ⟨name⟩).components := by
  have hown := components_name hname
  have hextension : path.extension? = (⟨name⟩ : Path).extension? := by
    rw [extension?_eq h, extension?_eq hown]
  by_cases hstem : HasStem name
  · rw [components_outputPage hpath h hstem,
      components_outputPage (isFilePath_name hname) hown hstem, List.nil_append]
  rcases outputPage_cases path with ⟨extension, hsome, hhtml, hsame⟩ | ⟨hnot, hnew⟩
  · rcases outputPage_cases ⟨name⟩ with ⟨-, -, -, hsame'⟩ | ⟨hnot, -⟩
    · rw [hsame, hsame', h, hown, List.nil_append]
    · exact absurd hhtml (hnot extension (hextension.symm.trans hsome))
  · rcases outputPage_cases ⟨name⟩ with ⟨extension, hsome, hhtml, -⟩ | ⟨-, hnew'⟩
    · exact absurd hhtml (hnot extension (hextension.trans hsome))
    · rw [hnew, hnew', components_withExtension_of_not_hasStem hpath h hstem,
        components_withExtension_of_not_hasStem (isFilePath_name hname) hown hstem, List.nil_append]

/-- The output of a page is hidden if the page is. -/
theorem isHiddenName_outputName (hname : IsName name) (houtput : IsName (outputName name)) :
    isHiddenName (outputName name) = isHiddenName name := by
  by_cases hstem : HasStem name
  · rcases outputName_cases hname hstem with ⟨-, -, -, hsame⟩ | ⟨-, hnew⟩
    · rw [hsame]
    · obtain ⟨c, stem, hcut⟩ := List.exists_cons_of_ne_nil (stem_ne_nil hname.1)
      obtain ⟨rest, hrest⟩ := stem_isPrefix name.toList
      have hhead : name.toList = c :: (stem ++ rest) := by
        rw [← hrest, hcut]
        rfl
      rw [isHiddenName, isHiddenName, hnew, hcut, hhead]
      rfl
  · have hfile : IsFilePath ⟨name⟩ := ⟨[], name, fields_name hname, hname⟩
    rcases components_outputPage_cases hfile (components_name hname) with ⟨hparent, -⟩ | hsame
    · -- A name is not `..`.
      rw [show outputPage ⟨name⟩ = ⟨outputName name⟩ from rfl, components_name houtput] at hparent
      simp at hparent
    · rcases outputPage_cases ⟨name⟩ with ⟨-, -, -, hown⟩ | ⟨-, hnew⟩
      · rw [outputName, hown]
      · rw [hnew, components_withExtension_of_not_hasStem hfile (components_name hname) hstem] at hsame
        simp at hsame

/-- The extension of the output file of a page: that of the page if it is one of HTML files. -/
def outputExtension (name : String) : List Char :=
  match (splitName name.toList).2 with
  | some extension =>
    if isHtmlExtension (String.ofList extension) then extension else "html".toList
  | none => "html".toList

private theorem toList_outputName (hname : IsName name) (hstem : HasStem name) :
    (outputName name).toList = (splitName name.toList).1 ++ '.' :: outputExtension name := by
  have hextension := extension?_eq (components_name hname)
  rcases outputName_cases hname hstem with ⟨extension, hsome, hhtml, hsame⟩ | ⟨hnot, hnew⟩
  · obtain ⟨own, hown, rfl⟩ := Option.map_eq_some_iff.mp (hextension.symm.trans hsome)
    simp only [hsame, outputExtension, hown, hhtml, if_true]
    exact (splitName_of_some hown).1
  · rw [hnew]
    cases hown : (splitName name.toList).2 with
    | none => simp only [outputExtension, hown]
    | some own =>
      rw [hown] at hextension
      simp only [outputExtension, hown, if_neg (hnot _ hextension)]

private theorem dot_notMem_outputExtension (name : String) : '.' ∉ outputExtension name := by
  rw [outputExtension]
  split
  · next extension hextension =>
    split_ifs
    · exact (splitName_of_some hextension).2.2
    · decide
  · decide

/-- Two pages of one directory have the same output file if they have the same name up to the
extension, and the same extension in the output. -/
theorem outputName_eq_iff {other : String} (hname : IsName name) (hstem : HasStem name)
    (hother : IsName other) (hstem' : HasStem other) : outputName name = outputName other ↔
      (splitName name.toList).1 = (splitName other.toList).1 ∧
        outputExtension name = outputExtension other := by
  rw [← String.toList_inj, toList_outputName hname hstem, toList_outputName hother hstem']
  constructor
  · intro hsame
    have hsplit := congrArg splitName hsame
    rw [splitName_append (stem_ne_nil hname.1) (dot_notMem_outputExtension name),
      splitName_append (stem_ne_nil hother.1) (dot_notMem_outputExtension other)] at hsplit
    simpa using hsplit
  · rintro ⟨hstems, hextensions⟩
    rw [hstems, hextensions]

theorem isFilePath_outputPage (hpath : path.IsFilePath)
    (h : path.components = directory ++ [.normal name]) (hstem : HasStem name) :
    path.outputPage.IsFilePath := by
  obtain ⟨before, hfields, hname⟩ := fields_of_components hpath h
  exact ⟨before, _, fields_outputPage hfields hname hstem, isName_outputName hname hstem⟩

theorem withExtension_of_fileName?_eq_none {extension : String} (h : path.fileName? = none) :
    path.withExtension extension = path := by
  have hextension : path.extension? = none := by rw [extension?, h]
  simp only [withExtension, hextension]
  exact setExtension_of_fileName?_eq_none h

/-- A path in normal form without an extension gets one behind the name at its end. -/
theorem components_withExtension_normalize (h : path.normalize.extension? = none)
    (hsplit : path.normalize.components = directory ++ [.normal name]) :
    (path.normalize.withExtension "html").components =
      directory ++
        [.normal (String.ofList ((splitName name.toList).1 ++ '.' :: "html".toList))] := by
  obtain ⟨before, hfields, hname⟩ := fields_of_components (isFilePath_normalize hsplit) hsplit
  simp only [withExtension, h]
  have hnew : (path.normalize.setExtension "html").fields = before ++
      [(String.ofList ((splitName name.toList).1 ++ '.' :: "html".toList)).toList] := by
    rw [String.toList_ofList]
    exact fields_setExtension hfields hname (by decide)
  exact components_of_same_fields hfields (componentOf?_name hname) hnew
    (componentOf?_name (isName_append hname (by simp))) hsplit

/-- A path in normal form either has a name at its end, or it has no name at all. -/
theorem normalize_cases (path : Path) :
    (path.normalize.fileName? = none ∧ ∀ name, .normal name ∉ path.normalize.components) ∨
      ∃ (lead : List Component) (front : List String) (name : String),
        path.normalize.components = (lead ++ front.map .normal) ++ [.normal name] ∧
          ∀ name, .normal name ∉ lead := by
  obtain ⟨lead, names, hcomponents, hlead⟩ := path.direct_normalize
  rcases List.eq_nil_or_concat' names with rfl | ⟨front, name, rfl⟩
  · rw [List.map_nil, List.append_nil] at hcomponents
    refine .inl ⟨?_, hcomponents ▸ hlead⟩
    rw [fileName?, hcomponents]
    split
    · next name hlast => exact absurd (List.mem_of_getLast? hlast) (hlead name)
    · rfl
  · exact .inr ⟨lead, front, name, by simp [hcomponents], hlead⟩

/-- A path in normal form without an extension stays without `..` behind a name when it gets one. -/
theorem direct_withExtension (h : path.normalize.extension? = none) :
    (path.normalize.withExtension "html").Direct := by
  rcases path.normalize_cases with ⟨hnone, -⟩ | ⟨lead, front, name, hsplit, hlead⟩
  · rw [withExtension_of_fileName?_eq_none hnone]
    exact path.direct_normalize
  · refine ⟨lead, front ++ [String.ofList ((splitName name.toList).1 ++ '.' :: "html".toList)], ?_,
      hlead⟩
    rw [components_withExtension_normalize h hsplit]
    simp

end StaticSite.Path
