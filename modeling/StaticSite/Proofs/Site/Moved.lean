import StaticSite.Proofs.Site.Clash
import StaticSite.Proofs.Site.Rework
import StaticSite.Proofs.Site.Safety

/-!
# Content that was moved away

A file that is moved away is told like one that has changed. Work on a page that is not there does
nothing, and neither does work on another file, so what was made of it stays in the output. It goes
only with another file that has the same output and is told to be deleted (`output_of_misses`).
`run_moved` moves a page away.
-/

namespace StaticSite

open StaticSite.Path Builder Build FileTree

namespace Builder

variable {builder : Builder} {site after : FileTree} {file other : ContentName}
  {names : List String} {task : Task} {tasks : List Task} {templates : ComposedTemplates}
  {renderer : Renderer} {result result₁ : BuildResult}

/-! ## Work on missing files -/

/-- Whether tasks ask for work on a file that is not there, and nothing else in the content has its
output. -/
structure Misses (builder : Builder) (site : FileTree) (tasks : List Task) (file : ContentName) :
    Prop where
  asked : ∃ path, builder.LeadsTo path file ∧ (.page path ∈ tasks ∨ .asset path ∈ tasks)
  get?_eq_none : site.get? (builder.placeOf site file) = none
  alone : ∀ other, (site.get? (builder.placeOf site other)).isSome →
    builder.outputNames other ≠ builder.outputNames file

/-- Whether tasks delete the output of another file that has the same output. -/
def DropsTwin (builder : Builder) (tasks : List Task) (file : ContentName) : Prop :=
  ∃ path other, .remove path ∈ tasks ∧ builder.LeadsTo path other ∧ other ≠ file ∧
    ¬ builder.IsSidecarName other ∧ builder.outputNames other = builder.outputNames file

/-- What a task makes is the output of something that is there. -/
private theorem exists_of_makes (h : builder.Makes site names task) :
    ∃ other, (site.get? (builder.placeOf site other)).isSome ∧ builder.outputNames other = names := by
  cases task with
  | page path =>
    obtain ⟨other, -, hsome, hsame⟩ := h
    exact ⟨other, isSome_get?_of_file? hsome, hsame⟩
  | directory directory =>
    obtain ⟨other, -, -, hsome, hsame⟩ := h
    exact ⟨other, isSome_get?_of_file? hsome, hsame⟩
  | asset path =>
    obtain ⟨other, -, hsome, hsame⟩ := h
    exact ⟨other, hsome, hsame⟩
  | remove path => exact h.elim

/-- What has the names of an output in the content has that output itself. -/
private theorem outputNames_of_names_eq (hname : IsName file.name) (hstem : HasStem file.name)
    (h : other.names = builder.outputNames file) :
    builder.outputNames other = builder.outputNames file := by
  obtain ⟨hdirectory, hlast⟩ := List.append_inj' h rfl
  have hown : other.name = if builder.registry.isPage ⟨file.name⟩ then outputName file.name
      else file.name := List.singleton_inj.mp hlast
  rw [← h, outputNames, ContentName.names]
  congr 2
  split_ifs at hown with hpage
  · rw [hown, outputName_outputName hname hstem, ite_self]
  · rw [hown, if_neg hpage]

namespace Misses

variable (h : builder.Misses site tasks file)

include h

theorem isName : IsName file.name := by
  obtain ⟨path, hpath, -⟩ := h.asked
  exact hpath.isName

/-- Nothing in the content has its output where that of the file is, or below. -/
theorem not_isPrefix (hclosed : site.Closed) (hstem : HasStem file.name)
    (hthere : (site.get? (builder.placeOf site other)).isSome) :
    ¬ builder.outputNames file <+: builder.outputNames other := by
  intro hle
  rcases List.prefix_concat_iff.mp hle with hsame | habove
  · exact h.alone other hthere hsame.symm
  · -- There is a directory in the content that has the names of the output.
    obtain ⟨last, hlast⟩ : ∃ last, builder.outputNames file = file.directory ++ [last] := ⟨_, rfl⟩
    have hnames : (⟨file.directory, last⟩ : ContentName).names = builder.outputNames file := hlast.symm
    have hdirectory := directory_of_names_isPrefix hclosed hthere (hnames ▸ habove)
    exact h.alone _ (by rw [hdirectory]; rfl) (outputNames_of_names_eq h.isName hstem hnames)

/-- Another task removes no output of the file, as there is one task for a file. -/
theorem dropsTwin (hdistinct : ∀ a ∈ tasks, ∀ b ∈ tasks, a.sameTarget b → a = b) (hmem : task ∈ tasks)
    (hdrops : builder.Drops (builder.outputNames file) task) : builder.DropsTwin tasks file := by
  cases task with
  | remove path =>
    obtain ⟨other, hother, hsidecar, hsame⟩ := hdrops
    refine ⟨path, other, hmem, hother, ?_, hsidecar, hsame⟩
    rintro rfl
    obtain ⟨found, hfound, hpage | hasset⟩ := h.asked
    · exact nomatch hdistinct _ hmem _ hpage (Task.sameTarget_iff.mpr ⟨rfl, hother.trans hfound.symm⟩)
    · exact nomatch hdistinct _ hmem _ hasset (Task.sameTarget_iff.mpr ⟨rfl, hother.trans hfound.symm⟩)
  | page path => exact hdrops.elim
  | asset path => exact hdrops.elim
  | directory directory => exact hdrops.elim

/-- Tasks leave the output of the file as it is, or delete it with that of another file. -/
theorem get?_of_runTasks (hseparate : builder.Separate site) (hsite : site.WellFormed)
    (hdirect : builder.paths.output.Direct) (hbelow : ∀ task ∈ tasks, builder.StaysBelow task)
    (hdistinct : ∀ a ∈ tasks, ∀ b ∈ tasks, a.sameTarget b → a = b) (hstem : HasStem file.name)
    (hgives : (builder.runTasks templates renderer tasks result).Gives site result₁ after) :
    builder.DropsTwin tasks file ∧ after.get? (builder.outputPlaceOf site file) = none ∨
      ¬ builder.DropsTwin tasks file ∧
        after.get? (builder.outputPlaceOf site file) = site.get? (builder.outputPlaceOf site file) := by
  have hmakes : ∀ task ∈ tasks, ∀ made, builder.Makes site made task →
      ¬ builder.outputNames file <+: made := by
    intro task _ made hmade
    obtain ⟨other, hthere, rfl⟩ := exists_of_makes hmade
    exact h.not_isPrefix hsite.toClosed hstem hthere
  by_cases hdrops : builder.DropsTwin tasks file
  · obtain ⟨path, other, hmem, hother, -, hsidecar, hsame⟩ := id hdrops
    have hgone := (get?_of_mem_remove hseparate hsite hdirect hbelow hmem hother hsidecar
      (by rwa [hsame]) hgives).2
    rw [outputPlaceOf, hsame, ← outputPlaceOf] at hgone
    exact Or.inl ⟨hdrops, hgone⟩
  · have hreworks : builder.Reworks site tasks site after :=
      (reworks_runTasks hseparate hsite hdirect hbelow (accumulates_reworks.refl site)
        (List.Subset.refl _)).of_gives hgives
    have hnames : builder.outputNames file ≠ [] := by simp [outputNames]
    rcases hreworks.get?_cases hnames hmakes with hsame | ⟨⟨task, hmem, hdropped⟩, -⟩
    · exact Or.inr ⟨hdrops, hsame⟩
    · exact absurd (h.dropsTwin hdistinct hmem hdropped) hdrops

end Misses

end Builder

namespace Situation

variable {start now : Situation} {events : List Event} {watched : Watched} {seen after : FileTree}
  {happenings : List FileEvent} {tasks : List Task} {file : ContentName} {result : BuildResult}
  {rebuilt : Builder}

/-- At any time in the history of a watched site, a rebuild for single files that is to work on a file
that is not there leaves its output as it is, if nothing else in the content has the same output.
So no output is left exactly if there was none, or if another file with the same output is told to be
deleted. -/
theorem output_of_misses (hclosed : start.tree.Closed) (hcache : start.builder.cache = none)
    (hwatches : start.builder.Watches watched start.tree.current)
    (hpage : ¬ start.builder.registry.isPage start.builder.paths.content)
    (hdirect : start.builder.paths.output.Direct)
    (hevents : ∀ event ∈ events, event.Arises watched start.tree.current)
    (hnow : (start.run events).1 = now) (hcurrent : now.tree.get? now.tree.current = some .directory)
    (hscope : Scope.ofChanges (happenings.filterMap (watched.classify seen)) = .files tasks)
    (htargeted : now.builder.isTargeted (.files tasks))
    (hgives : (now.builder.rebuild (.files tasks)).Gives now.tree (result, rebuilt) after)
    (hmisses : now.builder.Misses now.tree tasks file) :
    (after.get? (now.builder.outputPlaceOf now.tree file) = none ↔
        now.tree.get? (now.builder.outputPlaceOf now.tree file) = none ∨
          now.builder.DropsTwin tasks file) ∧
      (after.get? (now.builder.outputPlaceOf now.tree file) = none ∨
        after.get? (now.builder.outputPlaceOf now.tree file) =
          now.tree.get? (now.builder.outputPlaceOf now.tree file)) := by
  have hfollows : Follows start now := hnow ▸ follows_run hclosed hcache hwatches hpage hevents
  obtain ⟨hsome, -⟩ := exists_tasks_of_isTargeted htargeted
  have hseparate := hfollows.separate hsome
  have hcontent := hseparate.contentText
  have hdirect : now.builder.paths.output.Direct := by
    obtain ⟨cache, hbuilder⟩ := hfollows.builder
    rwa [hbuilder]
  -- The name of the file is in an event, and so not hidden.
  have hstem : HasStem file.name := by
    obtain ⟨path, hpath, hasked⟩ := hmisses.asked
    have hshown {task : Task} (hmem : task ∈ tasks) (hfile : ¬ task.isDirectory)
        (hfound : now.builder.LeadsTo task.path file) : ¬ file.IsHidden :=
      (hfollows.watches hwatches).not_isHidden_of_mem_tasks hcontent hscope hmem hfile hfound
    refine hasStem_of_not_isHiddenName (ContentName.not_isHiddenName ?_)
    rcases hasked with hmem | hmem
    · exact hshown hmem (by simp [Task.isDirectory]) hpath
    · exact hshown hmem (by simp [Task.isDirectory]) hpath
  obtain ⟨templates, hcached⟩ := Option.isSome_iff_exists.mp hsome
  obtain ⟨-, renderer, -, hrun⟩ := exists_of_rebuild_files hcached hgives
  have hdistinct : ∀ a ∈ tasks, ∀ b ∈ tasks, a.sameTarget b → a = b := by
    rw [tasks_of_files hscope]
    exact fun a ha b hb ↦ Change.eq_of_sameTarget ha hb
  rcases hmisses.get?_of_runTasks hseparate ⟨hfollows.closed, hcurrent⟩ hdirect
    (hfollows.staysBelow hwatches hpage hcontent hscope) hdistinct hstem hrun with
    ⟨hdrops, hgone⟩ | ⟨hdrops, hsame⟩
  · simp [hdrops, hgone]
  · simp [hdrops, hsame]

/-- A flat site whose content is gone holds none of it. -/
private theorem get?_placeOf_gone {cache : Option ComposedTemplates} {output : List (String × String)} :
    (FileTree.flat [] output).get? ((flat cache).placeOf (.flat [] output) file) = none := by
  rw [Builder.placeOf, contentPlace_flat]
  by_contra hsome
  obtain ⟨entry, hentry⟩ := Option.ne_none_iff_exists'.mp hsome
  have hmem := mem_entries_of_get? (by simp) hentry
  simp [FileTree.flat, mem_textEntries, ContentName.names] at hmem

/-- The site is built, and then its content is gone. -/
private theorem arises_gone {output : List (String × String)}
    (hnames : ∀ file ∈ output, IsName file.1) (hdistinct : (output.map Prod.fst).Nodup) :
    ∀ event ∈ [Event.build, .edit (.flat [] output)], event.Arises flatWatch [] := by
  have hclosed : (FileTree.flat [] output).Closed :=
    (wellFormed_flat (by simpa using hnames) (by simp) hdistinct).toClosed
  simp only [List.forall_mem_cons]
  exact ⟨trivial, ⟨hclosed, rfl⟩, by simp⟩

/-- Of two pages with one output file one is moved away, and the other one is deleted. -/
theorem output_of_misses_twins :
    (flat (some plainTemplates)).DropsTwin [.remove ⟨"origin/a.md"⟩, .page ⟨"origin/a.html"⟩]
      ⟨[], "a.html"⟩ := by
  have hscope : Scope.ofChanges ([⟨⟨"origin/a.md"⟩, true⟩, ⟨⟨"origin/a.html"⟩, false⟩].filterMap
      (flatWatch.classify (.flat [] twinOutput))) =
        .files [.remove ⟨"origin/a.md"⟩, .page ⟨"origin/a.html"⟩] := rfl
  have hrun : ((flat (some plainTemplates)).runTasks plainTemplates .identity
      [.remove ⟨"origin/a.md"⟩, .page ⟨"origin/a.html"⟩] (flat (some plainTemplates)).noResult).Gives
        (.flat [] twinOutput) ⟨⟨"public"⟩, 0, 0, 1, []⟩ (.flat [] []) := rfl
  have hgives : ((flat (some plainTemplates)).rebuild
      (.files [.remove ⟨"origin/a.md"⟩, .page ⟨"origin/a.html"⟩])).Gives (.flat [] twinOutput)
        (⟨⟨"public"⟩, 0, 0, 1, []⟩, flat (some plainTemplates)) (.flat [] []) := by
    rw [rebuild_files rfl renderer_plainTemplates]
    exact gives_bind.mpr ⟨_, _, hrun, gives_pure.mpr ⟨rfl, rfl⟩⟩
  have hmisses : (flat (some plainTemplates)).Misses (.flat [] twinOutput)
      [.remove ⟨"origin/a.md"⟩, .page ⟨"origin/a.html"⟩] ⟨[], "a.html"⟩ :=
    ⟨⟨_, isPathOf_page.leadsTo, Or.inl (by simp)⟩, get?_placeOf_gone,
      fun other hsome ↦ by simp [get?_placeOf_gone] at hsome⟩
  have hnow : (run ⟨.flat twins [], flat none⟩ [.build, .edit (.flat [] twinOutput)]).1 =
      ⟨.flat [] twinOutput, flat (some plainTemplates)⟩ := run_build_edit gives_build_twins
  have hwatches : (flat none).Watches flatWatch [] := ⟨by decide, rfl, Or.inl rfl⟩
  have houtput := (output_of_misses (wellFormed_flat (by decide) (by decide) (by decide)).toClosed rfl
    hwatches (by decide) ⟨[], ["public"], rfl, by simp⟩ (arises_gone (by decide) (by decide)) hnow rfl
    hscope rfl hgives hmisses).1
  rw [outputPlaceOf, outputPlace_flat] at houtput
  exact (houtput.mp rfl).resolve_left (by decide)

/-- A page is moved away after the site was built, and what was made of it stays. -/
theorem run_moved :
    let start : Situation := ⟨.flat [("a.html", "A")] [], .flat none⟩
    let site : FileTree := .flat [] [("a.html", "A")]
    let events := [.build, .edit site]
    let now := (start.run events).1
    let tasks := [.page ⟨"origin/a.html"⟩]
    start.tree.Closed ∧ start.builder.cache = none ∧
      start.builder.Watches flatWatch start.tree.current ∧
      (∀ event ∈ events, event.Arises flatWatch start.tree.current) ∧ now.tree = site ∧
      Scope.ofChanges ([⟨⟨"origin/a.html"⟩, false⟩].filterMap (flatWatch.classify site)) =
        .files tasks ∧
      now.builder.isTargeted (.files tasks) ∧ now.builder.Misses now.tree tasks ⟨[], "a.html"⟩ ∧
      (now.builder.rebuild (.files tasks)).Gives now.tree (⟨⟨"public"⟩, 0, 0, 0, []⟩, now.builder)
        now.tree ∧
      now.tree.get? (now.builder.outputPlaceOf now.tree ⟨[], "a.html"⟩) = some (.file (.text "A")) := by
  intro start site events now tasks
  have hbuild : (flat none).build.Gives (.flat [("a.html", "A")] [])
      (⟨⟨"public"⟩, 1, 0, 0, []⟩, flat (some plainTemplates))
      (.flat [("a.html", "A")] [("a.html", "A")]) :=
    gives_build_page (Marker.isPlain_of_not_mem (by decide)) (fun _ ↦ rfl) (by decide) rfl rfl
  have hnow : now = ⟨site, flat (some plainTemplates)⟩ := run_build_edit hbuild
  have hrun : ((flat (some plainTemplates)).runTasks plainTemplates .identity tasks
      (flat (some plainTemplates)).noResult).Gives site ⟨⟨"public"⟩, 0, 0, 0, []⟩ site := rfl
  rw [hnow]
  refine ⟨(wellFormed_flat (by decide) (by decide) (by decide)).toClosed, rfl,
    ⟨by decide, rfl, Or.inl rfl⟩, arises_gone (by decide) (by decide), rfl, rfl, rfl,
    ⟨⟨_, isPathOf_page.leadsTo, Or.inl (by simp [tasks])⟩, get?_placeOf_gone,
      fun other hsome ↦ by simp [site, get?_placeOf_gone] at hsome⟩, ?_, ?_⟩
  · rw [rebuild_files rfl renderer_plainTemplates]
    exact gives_bind.mpr ⟨_, _, hrun, gives_pure.mpr ⟨rfl, rfl⟩⟩
  · rw [outputPlaceOf, outputPlace_flat]
    rfl

end Situation

end StaticSite
