import StaticSite.Proofs.Site.ContentName

/-!
# Stages of a build

While a build runs, the file tree differs from the one it began with only below the output directory
(`Stage`), so content files and templates read as in the beginning (`Stage.read_contentFile`,
`Stage.read_direct`). Every piece of work on an output file leads from a stage to a stage
(`Stage.update`).
-/

namespace StaticSite.Builder

open StaticSite.Path

variable {builder : Builder} {base tree tree₁ : FileTree} {file : ContentName} {path : Path}
  {place : Place} {content : Content}

/-- Whether the output directory lies apart from the directories of content and of templates. -/
structure Separate (builder : Builder) (base : FileTree) : Prop where
  contentText : builder.paths.content.text ≠ ""
  outputText : builder.paths.output.text ≠ ""
  output_notPrefix : ¬ builder.outputPlace base <+: builder.contentPlace base
  content_notPrefix : ¬ builder.contentPlace base <+: builder.outputPlace base
  output_notPrefix_templates :
    ¬ builder.outputPlace base <+: base.placeOf builder.paths.templates
  templates_notPrefix : ¬ base.placeOf builder.paths.templates <+: builder.outputPlace base

theorem Separate.congr {builder' : Builder} (h : builder.Separate base)
    (hpaths : builder'.paths = builder.paths) (hcurrent : tree.current = base.current) :
    builder'.Separate tree := by
  have hplace (path : Path) : tree.placeOf path = base.placeOf path := FileTree.placeOf_congr hcurrent
  obtain ⟨hcontentText, houtputText, h₁, h₂, h₃, h₄⟩ := h
  simp only [outputPlace, contentPlace] at h₁ h₂ h₃ h₄
  constructor <;> simp only [outputPlace, contentPlace, hpaths, hplace] <;> assumption

namespace Separate

variable (h : builder.Separate base)

include h

/-- No place lies in both the directory of content and the output directory. -/
theorem not_isPrefix (hcontent : builder.contentPlace base <+: place) :
    ¬ builder.outputPlace base <+: place := fun houtput ↦
  (List.prefix_or_prefix_of_prefix hcontent houtput).elim h.content_notPrefix h.output_notPrefix

/-- No content file lies in the output directory. -/
theorem outside (file : ContentName) : ¬ builder.outputPlace base <+: builder.placeOf base file :=
  h.not_isPrefix (List.prefix_append _ _)

end Separate

/-- What a build relies on: the file tree that it begins with is in order, and its directories are
apart. -/
structure Grounded (builder : Builder) (base : FileTree) : Prop
    extends builder.Separate base where
  wellFormed : base.WellFormed
  content : base.Passable base.current builder.paths.content.components

/-- Whether a tree is one that a build on another tree may come to. -/
structure Stage (builder : Builder) (base tree : FileTree) : Prop where
  current : tree.current = base.current
  closed : tree.Closed
  content : tree.Passable tree.current builder.paths.content.components
  file? : ∀ place, ¬ builder.outputPlace base <+: place → tree.file? place = base.file? place

theorem placeFrom_isPrefix {start : Place} {lead : List Component}
    (h : ∀ name, .normal name ∉ lead) : FileTree.placeFrom start lead <+: start := by
  induction lead generalizing start with
  | nil => exact List.prefix_refl _
  | cons c lead ih =>
    have hrest (place : Place) : FileTree.placeFrom place lead <+: place :=
      ih fun name hmem ↦ h name (List.mem_cons_of_mem _ hmem)
    cases c with
    | root => exact (hrest []).trans List.nil_prefix
    | current => exact hrest start
    | parent => exact (hrest start.dropLast).trans (List.dropLast_prefix _)
    | normal name => exact absurd List.mem_cons_self (h name)

/-- What lies above a directory is a directory. -/
theorem directory_of_isPrefix {above below : Place} (h : tree.Closed)
    (hbelow : tree.get? below = some .directory) (hbegins : above <+: below) :
    tree.get? above = some .directory := by
  by_cases hsame : above = below
  · rwa [hsame]
  · exact h.directory_of_isPrefix hbelow hbegins hsame

/-- What lies above content that is there is a directory. -/
theorem directory_of_names_isPrefix {other : ContentName} (h : tree.Closed)
    (hthere : (tree.get? (builder.placeOf tree other)).isSome)
    (hle : file.names <+: other.directory) :
    tree.get? (builder.placeOf tree file) = some .directory := by
  obtain ⟨entry, hentry⟩ := Option.isSome_iff_exists.mp hthere
  have habove : file.names <+: other.names := hle.trans (List.prefix_append _ _)
  refine h.directory_of_isPrefix hentry ((List.prefix_append_right_inj _).mpr habove) ?_
  intro hsame
  have hlength := hle.length_le
  rw [List.append_cancel_left hsame, ContentName.names, List.length_append] at hlength
  simp at hlength

/-- The tree that a build begins with is a stage of the build. -/
theorem Grounded.stage (h : builder.Grounded base) : builder.Stage base base where
  current := rfl
  closed := h.wellFormed.toClosed
  content := h.content
  file? _ _ := rfl

/-- Two directories of which neither holds the other by their texts have texts, and neither holds the
other. -/
theorem apart_of_not_overlaps {a b : Path} (hnames : ∀ name ∈ tree.current, IsName name)
    (h : ¬ overlaps tree a b) : (a.text ≠ "" ∧ b.text ≠ "") ∧
      ¬ tree.placeOf a <+: tree.placeOf b ∧ ¬ tree.placeOf b <+: tree.placeOf a := by
  rw [overlaps, Bool.or_eq_true, not_or, startsWith, startsWith, beginsWith_eq_true_iff,
    beginsWith_eq_true_iff] at h
  have hnil {path : Path} (hempty : path.text = "") : (tree.absolute path).components = [] := by
    rw [components_eq_nil_iff, FileTree.absolute, if_pos (by simpa using hempty), hempty]
  have ha : a.text ≠ "" := fun hempty ↦ h.2 (by rw [hnil hempty]; exact List.nil_prefix)
  have hb : b.text ≠ "" := fun hempty ↦ h.1 (by rw [hnil hempty]; exact List.nil_prefix)
  rw [FileTree.components_absolute hnames ha, FileTree.components_absolute hnames hb] at h
  refine ⟨⟨ha, hb⟩, fun hle ↦ h.2 ?_, fun hle ↦ h.1 ?_⟩
  · exact List.cons_prefix_cons.mpr ⟨rfl, hle.map _⟩
  · exact List.cons_prefix_cons.mpr ⟨rfl, hle.map _⟩

/-- A builder that finds nothing wrong with the directories has them apart. -/
theorem separate_of_directoryError? (hnames : ∀ name ∈ base.current, IsName name)
    (h : builder.directoryError? base = none) : builder.Separate base := by
  rw [directoryError?] at h
  split_ifs at h with htemplates hcontent hoverlap hother
  obtain ⟨⟨houtputText, hcontentText⟩, houtput, hcontents⟩ := apart_of_not_overlaps hnames hoverlap
  obtain ⟨-, houtputs, htemplate⟩ := apart_of_not_overlaps hnames hother
  exact ⟨hcontentText, houtputText, houtput, hcontents, houtputs, htemplate⟩

/-- A builder that finds nothing wrong with the directories can rely on them. -/
theorem grounded_of_directoryError? (hbase : base.WellFormed) (h : builder.directoryError? base = none) :
    builder.Grounded base := by
  refine ⟨separate_of_directoryError? hbase.currentName h, hbase, ?_⟩
  rw [directoryError?] at h
  split_ifs at h with htemplates hcontent hoverlap hother
  rw [Bool.not_eq_true, Bool.not_eq_false', FileTree.isDirectory_iff] at hcontent
  exact hcontent.2.1

namespace Stage

variable (h : builder.Stage base tree)

include h

theorem outputPlace_eq : builder.outputPlace tree = builder.outputPlace base :=
  FileTree.placeOf_congr h.current

theorem contentPlace_eq : builder.contentPlace tree = builder.contentPlace base :=
  FileTree.placeOf_congr h.current

theorem placeOf_eq (file : ContentName) : builder.placeOf tree file = builder.placeOf base file :=
  placeOf_file_congr h.current

/-- New directories lead to another stage. -/
theorem extend (hextends : tree.Extends tree₁) : builder.Stage base tree₁ where
  current := hextends.current.trans h.current
  closed := hextends.closed h.closed
  content := by
    rw [hextends.current]
    exact h.content.mono hextends.directory
  file? place hplace := (hextends.file? place).trans (h.file? place hplace)

/-- Work on a file in the output directory leads to another stage. -/
theorem update {names : List String} {content : Option Content}
    (hupdate : tree.Updates (builder.outputPlace base ++ names) content tree₁) :
    builder.Stage base tree₁ where
  current := hupdate.current.trans h.current
  closed := hupdate.closed h.closed
  content := by
    rw [hupdate.current]
    exact h.content.mono hupdate.directory
  file? place hplace := by
    rw [hupdate.file?, if_neg, h.file? place hplace]
    rintro rfl
    exact hplace (List.prefix_append _ _)

end Stage

namespace Grounded

variable (hbase : builder.Grounded base)

include hbase

/-- At every stage a content file holds what it held in the beginning. -/
theorem file?_placeOf (h : builder.Stage base tree) (file : ContentName) :
    tree.file? (builder.placeOf base file) = base.file? (builder.placeOf base file) :=
  h.file? _ (hbase.toSeparate.outside file)

/-- At every stage a path of a content file reads this file. -/
theorem read_contentFile (h : builder.Stage base tree) (hpath : builder.IsPathOf file path) :
    tree.read path = .ok content ↔ base.file? (builder.placeOf base file) = some content := by
  have hplace : tree.placeOf path = builder.placeOf base file := by
    rw [hpath.placeOf_eq, h.placeOf_eq]
  have hsplit : path.components = builder.paths.content.components ++
      ([] ++ file.names.map .normal) := hpath.leadsTo
  rw [h.closed.read_eq_ok_iff hsplit (by simp) h.content (by simp [ContentName.names]), hplace,
    hbase.file?_placeOf h]
  exact and_iff_right hpath.isFilePath

/-- At every stage a path that goes up first and then only down reads the file at its place, if the
place is not in the output directory. -/
theorem read_direct (h : builder.Stage base tree) (hdirect : path.Direct)
    (hplace : ¬ builder.outputPlace base <+: base.placeOf path) :
    tree.read path = .ok content ↔
      path.IsFilePath ∧ base.file? (base.placeOf path) = some content := by
  obtain ⟨lead, names, hsplit, hlead⟩ := hdirect
  have hall : path.components = [] ++ (lead ++ names.map .normal) := hsplit
  have hsame : tree.placeOf path = base.placeOf path := FileTree.placeOf_congr h.current
  rw [h.closed.read_eq_ok_iff hall hlead trivial ?_, hsame, h.file? _ hplace]
  rintro rfl
  rw [hsame, h.file? _ hplace]
  refine FileTree.file?_of_directory
    (directory_of_isPrefix hbase.wellFormed.toClosed hbase.wellFormed.current ?_)
  rw [FileTree.placeOf, hsplit, List.map_nil, List.append_nil]
  exact placeFrom_isPrefix hlead

end Grounded

end StaticSite.Builder
