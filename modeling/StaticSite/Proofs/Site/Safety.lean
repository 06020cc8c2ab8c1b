import StaticSite.Proofs.Site.Frame
import StaticSite.Proofs.Site.History
import StaticSite.Watch

/-!
# Safety of sources

While a site is watched, it is built as a whole or as far as the events ask for it that happen at any
paths. Whatever a build changes lies in the output directory and so is no source
(`isPrefix_of_changed`). This takes a directory of content without the name of a page:
`run_misnamed` runs a site where an event at this very directory deletes a file beside the output
directory.
-/

namespace StaticSite

open StaticSite.Path Builder Build FileTree

variable {builder : Builder} {watched : Watched} {seen tree : FileTree} {happening : FileEvent}
  {happenings : List FileEvent} {change : Change} {task : Task} {tasks : List Task} {path : Path}
  {current : Place}

/-! ## Events -/

/-- What an event at a path means. -/
theorem Watched.classify_eq_some (h : watched.classify seen happening = some change) :
    change = .config ∨ change = .template happening.path ∨
      ∃ relative, happening.path.relativeTo? watched.content = some relative ∧
        ¬ isHidden relative ∧
        (change = .metadata happening.path ∧
            happening.path.fileName? = some watched.metadataFile ∨
          change = .page happening.path happening.deleted ∨
          change = .asset happening.path happening.deleted) := by
  simp only [classify] at h
  by_cases hconfig : happening.path.same watched.config
  · rw [if_pos hconfig] at h
    exact Or.inl (Option.some.inj h).symm
  rw [if_neg hconfig] at h
  split at h
  · split_ifs at h
    exact Or.inr (Or.inl (Option.some.inj h).symm)
  split at h
  · simp at h
  next relative hrelative =>
  rw [ite_eq_iff] at h
  obtain ⟨-, h⟩ | ⟨hshown, h⟩ := h
  · simp at h
  rw [Bool.or_eq_true, not_or] at hshown
  refine Or.inr (Or.inr ⟨relative, hrelative, hshown.1, ?_⟩)
  split_ifs at h with hmetadata hpage
  · exact Or.inl ⟨(Option.some.inj h).symm, hmetadata⟩
  · exact Or.inr (Or.inl (Option.some.inj h).symm)
  · exact Or.inr (Or.inr (Option.some.inj h).symm)

/-- Whether the directory of content is what is watched for content, under the path that the builder
has for it or one without `..`. -/
structure Builder.Watches (builder : Builder) (watched : Watched) (current : Place) : Prop where
  text : watched.content.text ≠ ""
  place : placeFrom current watched.content.components =
    placeFrom current builder.paths.content.components
  written : watched.content.components = builder.paths.content.components ∨
    .parent ∉ watched.content.components

theorem Registry.isPage_congr {registry : Registry} {a b : Path} (h : a.components = b.components) :
    registry.isPage a = registry.isPage b := by
  rw [isPage, isPage, forPath?, forPath?, extension?, extension?, fileName?, fileName?, h]

section Tasks

variable (hwatches : builder.Watches watched current)
  (hpage : ¬ builder.registry.isPage builder.paths.content) {rest : List Component}
  (hpath : path.components = watched.content.components ++ rest)
  (hshown : ∀ c ∈ rest, ¬ isHiddenName c.text)

include hwatches hpage hpath hshown

/-- A path without hidden names below what is watched does not go up from the content. -/
theorem Builder.Watches.below : builder.Below path where
  down more hmore hparent := by
    rcases hwatches.written with hsame | hnot
    · rw [hpath, hsame] at hmore
      rw [← List.append_cancel_left hmore] at hparent
      exact hshown _ hparent rfl
    · have hmem : .parent ∈ path.components := hmore ▸ List.mem_append_right _ hparent
      rw [hpath, List.mem_append] at hmem
      exact hmem.elim hnot fun hrest ↦ hshown _ hrest rfl
  self hsame := by
    rwa [Registry.isPage_congr hsame]

/-- Nor does a path in the directory of such a path. -/
theorem Builder.Watches.below_beside {front : List Component} {name other : String} {beside : Path}
    (hname : path.components = front ++ [.normal name])
    (hbeside : beside.components = front ++ [.normal other]) : builder.Below beside where
  down more hmore hparent := by
    rw [hbeside] at hmore
    rcases List.eq_nil_or_concat' more with rfl | ⟨more, last, rfl⟩
    · simp at hparent
    · rw [← List.append_assoc] at hmore
      obtain ⟨rfl, hlast⟩ := List.append_inj' hmore rfl
      obtain rfl := List.singleton_inj.mp hlast
      rw [List.append_assoc] at hname
      refine (hwatches.below hpage hpath hshown).down _ hname ?_
      simpa using hparent
  self hsame := by
    rwa [Registry.isPage_congr hsame]

omit hpage in
/-- Such a path leads to the same from the directory of content as from what is watched. -/
theorem Builder.Watches.rest_eq (hcontent : builder.paths.content.text ≠ "") {more : List Component}
    (hmore : path.components = builder.paths.content.components ++ more) : more = rest := by
  rcases hwatches.written with hsame | hnot
  · rw [hpath, hsame] at hmore
    exact (List.append_cancel_left hmore).symm
  have hplace := hwatches.place
  -- One of the two is written as the other one with names behind it, of which there are none.
  rcases List.append_eq_append_iff.mp (hpath.symm.trans hmore) with ⟨names, hcontents, rfl⟩ |
    ⟨names, hwatched, rfl⟩
  · have hnames : names = [] := by
      obtain ⟨below, rfl⟩ : ∃ below : List String, names = below.map .normal := by
        refine exists_names_of_isStep (isStep_of_components hcontents
          (mt components_eq_nil_iff.mp hwatches.text)) fun hparent ↦ ?_
        exact hshown _ (List.mem_append_left _ hparent) rfl
      rw [hcontents, placeFrom_append_names] at hplace
      simpa using hplace
    simp [hnames]
  · have hnames : names = [] := by
      obtain ⟨below, rfl⟩ : ∃ below : List String, names = below.map .normal := by
        refine exists_names_of_isStep (isStep_of_components hwatched
          (mt components_eq_nil_iff.mp hcontent)) fun hparent ↦ ?_
        exact hnot (hwatched ▸ List.mem_append_right _ hparent)
      rw [hwatched, placeFrom_append_names] at hplace
      simpa using hplace
    simp [hnames]

omit hpage in
/-- The name of such a path has a stem, if it lies below the directory of content. -/
theorem Builder.Watches.hasStem (hcontent : builder.paths.content.text ≠ "")
    {names : List Component} {name : String} (hname : path.components =
      builder.paths.content.components ++ (names ++ [.normal name])) : HasStem name := by
  obtain rfl := hwatches.rest_eq hpath hshown hcontent hname
  exact hasStem_of_not_isHiddenName (hshown (.normal name) (by simp))

omit hpage in
/-- A content file to which such a path leads is not hidden. -/
theorem Builder.Watches.not_isHidden (hcontent : builder.paths.content.text ≠ "")
    {file : ContentName} (hfile : builder.LeadsTo path file) : ¬ file.IsHidden := by
  obtain rfl := hwatches.rest_eq hpath hshown hcontent hfile
  rintro ⟨name, hname, hhidden⟩
  exact hshown (.normal name) (List.mem_map_of_mem hname) hhidden

end Tasks

/-- A task that events ask for is about one of their paths, or about its directory if it is that of
metadata. The path has no hidden names below what is watched. -/
theorem Watched.exists_of_mem_tasks (htext : watched.content.text ≠ "")
    (hscope : Scope.ofChanges (happenings.filterMap (watched.classify seen)) = .files tasks)
    (hmem : task ∈ tasks) : ∃ happening ∈ happenings, ∃ rest,
      happening.path.components = watched.content.components ++ rest ∧
        (∀ c ∈ rest, ¬ isHiddenName c.text) ∧
        (task = .directory (happening.path.parent?.getD ⟨""⟩) ∧
            happening.path.fileName? = some watched.metadataFile ∨
          task = .remove happening.path ∨ task = .page happening.path ∨
            task = .asset happening.path) := by
  rw [tasks_of_files hscope] at hmem
  obtain ⟨before, change, after, hsplit, htask, -⟩ := Change.mem_tasks_iff.mp hmem
  have hchange : change ∈ happenings.filterMap (watched.classify seen) := by simp [hsplit]
  obtain ⟨happening, hhappening, hclassify⟩ := List.mem_filterMap.mp hchange
  rcases Watched.classify_eq_some hclassify with rfl | rfl | ⟨relative, hrelative, hhidden, hkind⟩
  · simp [Change.task?] at htask
  · simp [Change.task?] at htask
  obtain ⟨rest, hrest, rfl, -⟩ := exists_of_relativeTo? htext hrelative
  refine ⟨happening, hhappening, _, hrest, by simpa [Watched.isHidden] using hhidden, ?_⟩
  rcases hkind with ⟨rfl, hname⟩ | rfl | rfl
  · exact Or.inl ⟨(Option.some.inj htask).symm, hname⟩
  · obtain rfl := Option.some.inj htask
    split_ifs <;> simp
  · obtain rfl := Option.some.inj htask
    split_ifs <;> simp

/-- A file that events ask for work on is not hidden. -/
theorem Builder.Watches.not_isHidden_of_mem_tasks (hwatches : builder.Watches watched current)
    (hcontent : builder.paths.content.text ≠ "")
    (hscope : Scope.ofChanges (happenings.filterMap (watched.classify seen)) = .files tasks)
    (hmem : task ∈ tasks) (htask : ¬ task.isDirectory) {file : ContentName}
    (hfile : builder.LeadsTo task.path file) : ¬ file.IsHidden := by
  obtain ⟨happening, -, rest, hrest, hshown, hkind⟩ :=
    Watched.exists_of_mem_tasks hwatches.text hscope hmem
  rcases hkind with ⟨rfl, -⟩ | rfl | rfl | rfl
  · exact absurd rfl htask
  · exact hwatches.not_isHidden hrest hshown hcontent hfile
  · exact hwatches.not_isHidden hrest hshown hcontent hfile
  · exact hwatches.not_isHidden hrest hshown hcontent hfile

/-- What events ask for is about files below the directory of content. -/
theorem Builder.Watches.staysBelow (hwatches : builder.Watches watched current)
    (hcontent : builder.paths.content.text ≠ "")
    (hpage : ¬ builder.registry.isPage builder.paths.content)
    (hscope : Scope.ofChanges (happenings.filterMap (watched.classify seen)) = .files tasks) :
    ∀ task ∈ tasks, builder.StaysBelow task := by
  intro task hmem
  obtain ⟨happening, -, rest, hrest, hshown, htask⟩ :=
    Watched.exists_of_mem_tasks hwatches.text hscope hmem
  have hbelow := hwatches.below hpage hrest hshown
  rcases htask with ⟨rfl, hname⟩ | rfl | rfl | rfl
  · obtain ⟨front, hfront⟩ := exists_of_fileName? hname
    obtain ⟨directory, hparent, rfl⟩ := exists_parent? hfront (by simp)
    rw [hparent, Option.getD_some]
    exact fun beside other hbeside ↦ hwatches.below_beside hpage hrest hshown hfront hbeside
  · exact ⟨hbelow, fun _ _ hname ↦ hwatches.hasStem hrest hshown hcontent hname⟩
  · exact hbelow
  · exact hbelow

/-! ## Histories of a watched site -/

/-- Whether an event may happen to a site that is watched: the files may be edited, and there are
builds and rebuilds, which do what any happenings mean. -/
def Event.Arises (watched : Watched) (current : Place) : Event → Prop
  | .edit tree => tree.Closed ∧ tree.current = current
  | .build => True
  | .rebuild scope => ∃ (seen : FileTree) (happenings : List FileEvent),
      scope = Scope.ofChanges (happenings.filterMap (watched.classify seen))

/-- Whether an event is a build. -/
def Event.IsBuild : Event → Prop
  | .edit _ => False
  | .build => True
  | .rebuild _ => True

namespace Situation

variable {start now : Situation} {event : Event} {events : List Event} {place : Place}

/-- Whether a situation may follow another one in a history of a watched site. -/
structure Follows (start now : Situation) : Prop where
  builder : ∃ cache, now.builder = { start.builder with cache := cache }
  closed : now.tree.Closed
  current : now.tree.current = start.tree.current
  separate : now.builder.cache.isSome → now.builder.Separate now.tree

theorem Follows.watches (h : Follows start now)
    (hwatches : start.builder.Watches watched start.tree.current) :
    now.builder.Watches watched now.tree.current := by
  obtain ⟨cache, hcache⟩ := h.builder
  rw [hcache, h.current]
  exact ⟨hwatches.text, hwatches.place, hwatches.written⟩

theorem Follows.staysBelow (h : Follows start now)
    (hwatches : start.builder.Watches watched start.tree.current)
    (hpage : ¬ start.builder.registry.isPage start.builder.paths.content)
    (hcontent : now.builder.paths.content.text ≠ "")
    (hscope : Scope.ofChanges (happenings.filterMap (watched.classify seen)) = .files tasks) :
    ∀ task ∈ tasks, now.builder.StaysBelow task := by
  refine (h.watches hwatches).staysBelow hcontent ?_ hscope
  obtain ⟨cache, hcache⟩ := h.builder
  rwa [hcache]

/-- The tree after a build is the one that it leaves, whether it succeeds or not. -/
theorem tree_after (work : Build (BuildResult × Builder)) :
    (now.after (work now.tree)).tree = (work now.tree).2 := by
  rcases work now.tree with ⟨_ | _, tree₁⟩ <;> rfl

/-- A build changes files in the output directory alone. -/
theorem Follows.sameOutside (h : Follows start now)
    (hwatches : start.builder.Watches watched start.tree.current)
    (hpage : ¬ start.builder.registry.isPage start.builder.paths.content)
    (hevent : event.Arises watched start.tree.current) (hbuild : event.IsBuild) :
    SameOutside (now.builder.outputPlace now.tree) now.tree (now.step event).tree := by
  have hstands : now.builder.Stands (now.builder.outputPlace now.tree) now.tree := ⟨h.closed, rfl⟩
  cases event with
  | edit tree => exact hbuild.elim
  | build =>
    rw [step, tree_after]
    exact within_build hstands
  | rebuild scope =>
    obtain ⟨seen, happenings, rfl⟩ := hevent
    rw [step, tree_after]
    exact within_rebuild hstands h.separate fun hseparate tasks hscope ↦
      h.staysBelow hwatches hpage hseparate.contentText hscope

theorem step_rebuild {scope : Scope} (h : now.builder.isTargeted scope = false) :
    now.step (.rebuild scope) = now.step .build := by
  rw [step, step, rebuild_eq_build h]

theorem exists_tasks_of_isTargeted {scope : Scope} (h : builder.isTargeted scope) :
    builder.cache.isSome ∧ ∃ tasks, scope = .files tasks := by
  cases scope with
  | files tasks => exact ⟨h, tasks, rfl⟩
  | full => simp [isTargeted] at h
  | config => simp [isTargeted] at h

/-- A full build changes files only if the directories are apart, and a builder that holds new
templates has found them so. -/
private theorem separate_of_step_build (hclosed : now.tree.Closed)
    (h : now.step .build ≠ now) : now.builder.Separate now.tree := by
  cases herror : now.builder.directoryError? now.tree with
  | none => exact separate_of_directoryError? hclosed.currentName herror
  | some e => exact absurd (after_of_fails (build_of_directoryError? herror)) h

/-- A build that changes anything has the directories apart. -/
theorem Follows.separate_of_step (h : Follows start now) (hbuild : event.IsBuild)
    (hchanged : now.step event ≠ now) : now.builder.Separate now.tree := by
  cases event with
  | edit tree => exact hbuild.elim
  | build => exact separate_of_step_build h.closed hchanged
  | rebuild scope =>
    by_cases htargeted : now.builder.isTargeted scope
    · exact h.separate (exists_tasks_of_isTargeted htargeted).1
    · rw [step_rebuild (by simpa using htargeted)] at hchanged
      exact separate_of_step_build h.closed hchanged

/-- A build keeps the builder but for the templates. -/
private theorem exists_builder_step (now : Situation) (hbuild : event.IsBuild) :
    ∃ cache, (now.step event).builder = { now.builder with cache := cache } := by
  have hfull : ∃ cache, (now.step .build).builder = { now.builder with cache := cache } := by
    rcases builder_after now.builder.build with ⟨hsame, -⟩ | ⟨result, rebuilt, tree₁, hgives, hsame, -⟩
    · exact ⟨now.builder.cache, hsame⟩
    · obtain ⟨templates, -, -, -, -, -, -, -, -, -, hrebuilt⟩ := gives_build.mp hgives
      exact ⟨some templates, hsame.trans hrebuilt⟩
  cases event with
  | edit tree => exact hbuild.elim
  | build => exact hfull
  | rebuild scope =>
    by_cases htargeted : now.builder.isTargeted scope
    · exact ⟨now.builder.cache, builder_step_rebuild htargeted⟩
    · rwa [step_rebuild (by simpa using htargeted)]

/-- What may happen next to a watched site leads to a situation of its history. -/
theorem Follows.step (h : Follows start now)
    (hwatches : start.builder.Watches watched start.tree.current)
    (hpage : ¬ start.builder.registry.isPage start.builder.paths.content)
    (hevent : event.Arises watched start.tree.current) : Follows start (now.step event) := by
  by_cases hbuild : event.IsBuild
  · have hsame := h.sameOutside hwatches hpage hevent hbuild
    obtain ⟨cache, hcache⟩ := exists_builder_step now hbuild
    obtain ⟨old, hold⟩ := h.builder
    refine ⟨⟨cache, by rw [hcache, hold]⟩, hsame.closed h.closed, hsame.current.trans h.current,
      fun hsome ↦ ?_⟩
    have hseparate : now.builder.Separate now.tree := by
      by_cases hchanged : now.step event = now
      · exact h.separate (hchanged ▸ hsome)
      · exact h.separate_of_step hbuild hchanged
    exact hseparate.congr (by rw [hcache]) hsame.current
  · cases event with
    | edit tree =>
      refine ⟨h.builder, hevent.1, hevent.2, fun hsome ↦ (h.separate hsome).congr rfl ?_⟩
      exact hevent.2.trans h.current.symm
    | build => exact absurd trivial hbuild
    | rebuild scope => exact absurd trivial hbuild

/-- A history of a watched site consists of situations that may follow its beginning. -/
theorem follows_run (hclosed : start.tree.Closed) (hcache : start.builder.cache = none)
    (hwatches : start.builder.Watches watched start.tree.current)
    (hpage : ¬ start.builder.registry.isPage start.builder.paths.content)
    (hevents : ∀ event ∈ events, event.Arises watched start.tree.current) :
    Follows start (start.run events).1 := by
  induction events using List.reverseRecOn with
  | nil => exact ⟨⟨start.builder.cache, rfl⟩, hclosed, rfl, fun hsome ↦ by
      rw [show (start.run []).1.builder = start.builder from rfl, hcache] at hsome
      simp at hsome⟩
  | append_singleton events event ih =>
    rw [run_concat]
    exact (ih fun event hmem ↦ hevents event (List.mem_append_left _ hmem)).step hwatches hpage
      (hevents event (by simp))

/-- At any time in the history of a watched site, a file that a build creates, changes or deletes
lies in the output directory, and neither in the directory of content nor in that of templates. -/
theorem isPrefix_of_changed (hclosed : start.tree.Closed) (hcache : start.builder.cache = none)
    (hwatches : start.builder.Watches watched start.tree.current)
    (hpage : ¬ start.builder.registry.isPage start.builder.paths.content)
    (hevents : ∀ event ∈ events, event.Arises watched start.tree.current)
    (hevent : event.Arises watched start.tree.current) (hbuild : event.IsBuild) :
    let now := (start.run events).1
    ∀ place, (now.step event).tree.file? place ≠ now.tree.file? place →
      start.builder.outputPlace start.tree <+: place ∧
        ¬ start.builder.contentPlace start.tree <+: place ∧
        ¬ start.tree.placeOf start.builder.paths.templates <+: place := by
  intro now place hchanged
  have hfollows : Follows start now := follows_run hclosed hcache hwatches hpage hevents
  have hsame := hfollows.sameOutside hwatches hpage hevent hbuild
  obtain ⟨cache, hnow⟩ := hfollows.builder
  have hseparate : start.builder.Separate start.tree := by
    have hstep : now.step event ≠ now := fun hstep ↦ hchanged (by rw [hstep])
    exact (hfollows.separate_of_step hbuild hstep).congr (by rw [hnow]) hfollows.current.symm
  have houtput : start.builder.outputPlace start.tree <+: place := by
    have hplace : now.builder.outputPlace now.tree = start.builder.outputPlace start.tree := by
      rw [hnow]
      exact placeOf_congr hfollows.current
    rw [← hplace]
    by_contra hnot
    exact hchanged (hsame.file? place hnot)
  refine ⟨houtput, fun hcontent ↦ ?_, fun htemplates ↦ ?_⟩
  · exact (List.prefix_or_prefix_of_prefix houtput hcontent).elim hseparate.output_notPrefix
      hseparate.content_notPrefix
  · exact (List.prefix_or_prefix_of_prefix houtput htemplates).elim
      hseparate.output_notPrefix_templates hseparate.templates_notPrefix

/-- The events of a watched flat site are at the places of its files. -/
def flatWatch : Watched :=
  ⟨⟨"origin"⟩, ⟨"template"⟩, ⟨"rbuild.yaml"⟩, "metadata.yaml", .standard⟩

/-- A file of a flat site is deleted after the site was built. -/
theorem isPrefix_of_changed_flat :
    let start : Situation := ⟨.flat [("a.txt", "a")] [], .flat none⟩
    let now := (start.run [.build, .edit (.flat [] [("a.txt", "a")])]).1
    let event := Event.rebuild (Scope.ofChanges
      ([⟨⟨"origin/a.txt"⟩, true⟩, ⟨⟨"origin/../template"⟩, true⟩].filterMap
        (flatWatch.classify (.flat [] [("a.txt", "a")]))))
    ∀ place, (now.step event).tree.file? place ≠ now.tree.file? place →
      start.builder.outputPlace start.tree <+: place ∧
        ¬ start.builder.contentPlace start.tree <+: place ∧
        ¬ start.tree.placeOf start.builder.paths.templates <+: place := by
  have hclosed (content output : List (String × String))
      (hnames : ∀ file ∈ content ++ output, IsName file.1)
      (hcontent : (content.map Prod.fst).Nodup) (houtput : (output.map Prod.fst).Nodup) :
      (FileTree.flat content output).Closed :=
    (wellFormed_flat hnames hcontent houtput).toClosed
  intro start now event
  have hwatches : start.builder.Watches flatWatch start.tree.current :=
    ⟨by decide, rfl, Or.inl rfl⟩
  refine isPrefix_of_changed (hclosed _ _ (by decide) (by decide) (by decide)) rfl hwatches
    (by decide) ?_ ⟨_, _, rfl⟩ trivial
  rintro event (_ | ⟨_, _ | ⟨_, _ | _⟩⟩)
  · trivial
  · exact ⟨hclosed _ _ (by decide) (by decide) (by decide), rfl⟩

/-! ## A directory of content with the name of a page -/

/-- A site whose content lies in a directory with the name of a page. -/
def misnamed (more : List (Place × Entry)) : FileTree where
  entries := [(["template"], .directory), (["site.md"], .directory),
    (["site.md", "a.txt"], .file (.text "a")), (["public"], .directory)] ++ more
  current := []

/-- The builder of the site. -/
def misnamedBuilder (cache : Option ComposedTemplates) : Builder :=
  { flat cache with paths := { Config.defaultPaths with content := ⟨"site.md"⟩ } }

/-- The site is watched. -/
def misnamedWatch : Watched := { flatWatch with content := ⟨"site.md"⟩ }

/-- A file beside the output directory. -/
def besideOutput : Place × Entry := (["public.html"], .file (.text "mine"))

/-- The output of the site. -/
def misnamedOutput : Place × Entry := (["public", "a.txt"], .file (.text "a"))

/-- The site has been built, and an event says that the directory of content is gone. -/
def misnamedEvent : Event := .rebuild (Scope.ofChanges
  ([⟨⟨"site.md"⟩, true⟩].filterMap (misnamedWatch.classify (misnamed [besideOutput, misnamedOutput]))))

private theorem gives_build_misnamed : (misnamedBuilder none).build.Gives (misnamed [besideOutput])
    (⟨⟨"public"⟩, 0, 1, 0, []⟩, misnamedBuilder (some plainTemplates))
    (misnamed [besideOutput, misnamedOutput]) := by
  have hwalk : (misnamed [besideOutput]).walk ((misnamed [besideOutput]).depth + 1) ⟨"site.md"⟩ =
      .ok [⟨"site.md/a.txt"⟩] := by
    have hlist : (misnamed [besideOutput]).list ⟨"site.md"⟩ = .ok ["a.txt"] := rfl
    simp [FileTree.walk, FileTree.walkNames, hlist]
    rfl
  exact gives_build_of_walk (misnamed [besideOutput]) _ (by decide) rfl rfl hwalk (by decide) rfl

private theorem gives_rebuild_misnamed :
    ((misnamedBuilder (some plainTemplates)).rebuild (.files [.remove ⟨"site.md"⟩])).Gives
      (misnamed [besideOutput, misnamedOutput])
      (⟨⟨"public"⟩, 0, 0, 1, []⟩, misnamedBuilder (some plainTemplates))
      (misnamed [misnamedOutput]) := by
  have hrun : ((misnamedBuilder (some plainTemplates)).runTasks plainTemplates .identity
      [.remove ⟨"site.md"⟩] (misnamedBuilder (some plainTemplates)).noResult).Gives
        (misnamed [besideOutput, misnamedOutput]) ⟨⟨"public"⟩, 0, 0, 1, []⟩
        (misnamed [misnamedOutput]) := rfl
  rw [rebuild_files rfl renderer_plainTemplates]
  exact gives_bind.mpr ⟨_, _, hrun, gives_pure.mpr ⟨rfl, rfl⟩⟩

private theorem misnamedEvent_eq :
    misnamedEvent = .rebuild (.files [.remove ⟨"site.md"⟩]) := by
  have hclassify : misnamedWatch.classify (misnamed [besideOutput, misnamedOutput])
      ⟨⟨"site.md"⟩, true⟩ = some (.page ⟨"site.md"⟩ true) := rfl
  have hscope : Scope.ofChanges [.page ⟨"site.md"⟩ true] = .files [.remove ⟨"site.md"⟩] := rfl
  rw [misnamedEvent, List.filterMap_cons_some hclassify, List.filterMap_nil, hscope]

private theorem step_misnamedEvent :
    step ⟨misnamed [besideOutput, misnamedOutput], misnamedBuilder (some plainTemplates)⟩
      misnamedEvent = ⟨misnamed [misnamedOutput], misnamedBuilder (some plainTemplates)⟩ := by
  rw [misnamedEvent_eq]
  exact step_rebuild_of_gives gives_rebuild_misnamed

private theorem step_build_misnamed : step ⟨misnamed [besideOutput], misnamedBuilder none⟩ .build =
    ⟨misnamed [besideOutput, misnamedOutput], misnamedBuilder (some plainTemplates)⟩ :=
  step_build_of_gives gives_build_misnamed

private theorem arises_misnamedEvent : misnamedEvent.Arises misnamedWatch [] :=
  ⟨misnamed [besideOutput, misnamedOutput], [⟨⟨"site.md"⟩, true⟩], rfl⟩

private theorem watches_misnamed : (misnamedBuilder none).Watches misnamedWatch [] :=
  ⟨by decide, rfl, Or.inl rfl⟩

private theorem closed_misnamed : (misnamed [besideOutput]).Closed :=
  .of_entries (by decide) (by decide) (by decide)

/-- The file beside the output directory is deleted. -/
theorem run_misnamed :
    let start : Situation := ⟨misnamed [besideOutput], misnamedBuilder none⟩
    let now := (start.run [.build]).1
    start.tree.Closed ∧ start.builder.cache = none ∧
      start.builder.Watches misnamedWatch start.tree.current ∧
      misnamedEvent.Arises misnamedWatch start.tree.current ∧
      now.tree.file? ["public.html"] = some (.text "mine") ∧
      (now.step misnamedEvent).tree.file? ["public.html"] = none ∧
      ¬ start.builder.outputPlace start.tree <+: ["public.html"] := by
  have houtput : (misnamedBuilder none).outputPlace (misnamed [besideOutput]) = ["public"] := rfl
  have hrun : (run ⟨misnamed [besideOutput], misnamedBuilder none⟩ [.build]).1 =
      ⟨misnamed [besideOutput, misnamedOutput], misnamedBuilder (some plainTemplates)⟩ :=
    (run_singleton _ _).trans step_build_misnamed
  dsimp only
  rw [hrun, step_misnamedEvent, houtput]
  exact ⟨closed_misnamed, rfl, watches_misnamed, arises_misnamedEvent, rfl, rfl, by decide⟩

end Situation

end StaticSite
