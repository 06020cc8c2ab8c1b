import StaticSite.Proofs.Site.Safety

/-!
# Hidden content

The walk of a full build leaves out hidden files and directories, and so do the events of a watched
site. The pages of a directory are rebuilt whether they are hidden or not (`exists_mem_pagesIn_iff`),
so hidden content stays out of the output as long as no directory is rebuilt that holds a hidden page
(`hides_run`). `run_draft` publishes a draft.
-/

namespace StaticSite

open StaticSite.Path Builder Build FileTree

variable {builder : Builder} {watched : Watched} {site tree tree₁ : FileTree}
  {file other : ContentName} {path directory : Path} {tasks : List Task} {names : List String}
  {files pages : List Path} {writes removes : List String → Prop}

namespace Builder

/-! ## Hidden output -/

/-- Whether a tree holds no output file of hidden content. -/
def Hides (builder : Builder) (tree : FileTree) : Prop :=
  ∀ file path, builder.IsPathOf file path → file.IsHidden →
    tree.file? (builder.outputPlaceOf tree file) = none

theorem hides_withCache {cache : Option ComposedTemplates} :
    ({ builder with cache := cache } : Builder).Hides tree ↔ builder.Hides tree :=
  ⟨fun h file path hpath ↦ h file path ⟨hpath.isFilePath, hpath.components⟩,
    fun h file path hpath ↦ h file path ⟨hpath.isFilePath, hpath.components⟩⟩

/-- Work that writes no output of hidden content keeps it out. -/
theorem Hides.alters (h : builder.Hides tree)
    (halters : Alters (builder.outputPlace tree) writes removes tree tree₁)
    (hwrites : ∀ file path, builder.IsPathOf file path → file.IsHidden →
      ¬ writes (builder.outputNames file)) : builder.Hides tree₁ := by
  intro file path hpath hhidden
  rw [outputPlaceOf_congr halters.current]
  rcases halters.below (builder.outputNames file) (by simp [outputNames]) with hsame | hwritten |
    hremoved
  · exact hsame.trans (h file path hpath hhidden)
  · exact absurd hwritten.1 (hwrites file path hpath hhidden)
  · exact hremoved.2

/-- Content that is there and has the output file of hidden content is hidden. -/
theorem IsPathOf.isHidden_of_isSome (h : builder.IsPathOf file path) (hclosed : site.Closed)
    (hsome : (site.file? (builder.placeOf site other)).isSome)
    (hsame : builder.outputNames other = builder.outputNames file) (hhidden : file.IsHidden) :
    other.IsHidden :=
  isHidden_of_outputNames_eq h.isName
    (isName_of_isSome hclosed hsome other.name (List.mem_append_right _ List.mem_cons_self))
    hsame.symm hhidden

/-- The pages of a directory of content are those that a walk finds there, and the hidden ones. -/
theorem mem_pagesIn_iff_mem_contentFiles (hclosed : tree.Closed)
    (hcomponents : directory.components = builder.paths.content.components ++ names.map .normal)
    (hpages : (builder.pagesIn directory).Gives tree pages tree₁)
    (hfiles : tree.contentFiles builder.paths.content = .ok files) :
    (∃ path ∈ pages, builder.IsPathOf file path) ↔
      file.directory = names ∧ builder.IsPageName file ∧
        ((∃ path ∈ files, builder.IsPathOf file path) ∨
          file.IsHidden ∧ (tree.file? (builder.placeOf tree file)).isSome) := by
  have htext := (isDirectory_iff.mp (isDirectory_of_contentFiles hfiles)).1
  have hlists := lists_contentFiles hclosed htext hfiles
  have hmem := (exists_mem_pagesIn_iff hclosed (passable_of_contentFiles hfiles)
    (text_ne_empty_of_components htext hcomponents) hcomponents hpages).2 file
  rw [hmem]
  refine and_congr_right fun _ ↦ and_congr_right fun _ ↦ ⟨fun hsome ↦ ?_, ?_⟩
  · by_cases hhidden : file.IsHidden
    · exact Or.inr ⟨hhidden, hsome⟩
    · exact Or.inl (hlists.complete file hhidden hsome)
  · rintro (⟨path, hfile, hpath⟩ | ⟨-, hsome⟩)
    · obtain ⟨other, hother, -, hsome⟩ := hlists.sound path hfile
      rwa [hpath.unique hother]
    · exact hsome

end Builder

namespace Situation

variable {start now : Situation} {event : Event} {events : List Event}

/-! ## Histories -/

/-- Whether an event asks for the pages of a directory that holds a hidden one. -/
def RebuildsHidden (now : Situation) : Event → Prop
  | .rebuild (.files tasks) => ∃ directory, .directory directory ∈ tasks ∧ ∃ file : ContentName,
      directory.components = now.builder.directoryComponents file ∧ now.builder.IsPageName file ∧
        file.IsHidden ∧ (now.tree.file? (now.builder.placeOf now.tree file)).isSome
  | .rebuild .full => False
  | .rebuild .config => False
  | .build => False
  | .edit _ => False

/-- Without pages there are no hidden ones. -/
private theorem not_rebuildsHidden (h : ∀ file, now.builder.IsPageName file →
    now.tree.file? (now.builder.placeOf now.tree file) = none) : ¬ now.RebuildsHidden event := by
  intro hrebuilds
  match event, hrebuilds with
  | .rebuild (.files _), ⟨_, _, file, _, hpage, _, hsome⟩ => simp [h file hpage] at hsome

/-- A full build keeps hidden content out. -/
private theorem hides_step_build (hclosed : now.tree.Closed) (hhides : now.builder.Hides now.tree) :
    now.builder.Hides (now.step .build).tree := by
  rw [step, tree_after]
  refine hhides.alters (alters_build hclosed) fun file path hpath hhidden ↦ ?_
  rintro ⟨other, hshown, hsome, hsame⟩
  exact hshown (hpath.isHidden_of_isSome hclosed hsome hsame hhidden)

/-- So does a rebuild, unless it is about the pages of a directory that holds a hidden one. -/
private theorem Follows.hides_step (h : Follows start now)
    (hwatches : start.builder.Watches watched start.tree.current)
    (hpage : ¬ start.builder.registry.isPage start.builder.paths.content)
    (hevent : event.Arises watched start.tree.current) (hbuild : event.IsBuild)
    (hhides : now.builder.Hides now.tree) (hnot : ¬ now.RebuildsHidden event) :
    now.builder.Hides (now.step event).tree := by
  cases event with
  | edit tree => exact hbuild.elim
  | build => exact hides_step_build h.closed hhides
  | rebuild scope =>
    by_cases htargeted : now.builder.isTargeted scope
    case neg =>
      rw [step_rebuild (by simpa using htargeted)]
      exact hides_step_build h.closed hhides
    obtain ⟨hcache, tasks, rfl⟩ := exists_tasks_of_isTargeted htargeted
    obtain ⟨seen, happenings, hscope⟩ := hevent
    have hseparate := h.separate hcache
    have hcontent := hseparate.contentText
    have hbelow := h.staysBelow hwatches hpage hcontent hscope.symm
    rw [Situation.step, tree_after]
    refine hhides.alters (alters_rebuild hseparate h.closed hcache hbelow)
      fun file path hpath hhidden ↦ ?_
    rintro ⟨task, hmem, hmakes⟩
    -- What events ask for is not hidden.
    have hnotHidden {other : ContentName} (hfile : ¬ task.isDirectory)
        (hfound : now.builder.LeadsTo task.path other) : ¬ other.IsHidden :=
      (h.watches hwatches).not_isHidden_of_mem_tasks hcontent hscope.symm hmem hfile hfound
    cases task with
    | page found =>
      obtain ⟨other, hfound, -, hsame⟩ := hmakes
      exact hnotHidden (by simp [Task.isDirectory]) hfound
        (isHidden_of_outputNames_eq hpath.isName hfound.isName hsame.symm hhidden)
    | asset found =>
      obtain ⟨other, hfound, -, hsame⟩ := hmakes
      exact hnotHidden (by simp [Task.isDirectory]) hfound
        (isHidden_of_outputNames_eq hpath.isName hfound.isName hsame.symm hhidden)
    | remove found => exact hmakes
    | directory found =>
      obtain ⟨other, hfound, hisPage, hsome, hsame⟩ := hmakes
      exact hnot ⟨found, hmem, other, hfound, hisPage,
        hpath.isHidden_of_isSome h.closed hsome hsame hhidden, hsome⟩

/-- In the history of a watched site nothing of hidden content gets into the output, unless it is put
there or a directory is rebuilt that holds a hidden page. -/
private theorem hides_of_run (hclosed : start.tree.Closed) (hcache : start.builder.cache = none)
    (hwatches : start.builder.Watches watched start.tree.current)
    (hpage : ¬ start.builder.registry.isPage start.builder.paths.content)
    (hevents : ∀ event ∈ events, event.Arises watched start.tree.current)
    (hstart : start.builder.Hides start.tree)
    (hedits : ∀ tree, .edit tree ∈ events → start.builder.Hides tree)
    (hrebuilds : ∀ before event after, events = before ++ event :: after →
      ¬ (start.run before).1.RebuildsHidden event) :
    start.builder.Hides (start.run events).1.tree := by
  induction events using List.reverseRecOn with
  | nil => exact hstart
  | append_singleton events event ih =>
    have hbefore : ∀ event ∈ events, event.Arises watched start.tree.current :=
      fun event hmem ↦ hevents event (List.mem_append_left _ hmem)
    have hhides := ih hbefore (fun tree hmem ↦ hedits tree (List.mem_append_left _ hmem))
      fun before other after hsplit ↦ hrebuilds before other (after ++ [event]) (by simp [hsplit])
    have hfollows : Follows start (start.run events).1 :=
      follows_run hclosed hcache hwatches hpage hbefore
    obtain ⟨cache, hnow⟩ := hfollows.builder
    rw [run_concat]
    by_cases hbuild : event.IsBuild
    · have hstep := hfollows.hides_step hwatches hpage (hevents event (by simp)) hbuild
        (by rwa [hnow, hides_withCache]) (hrebuilds events event [] rfl)
      rwa [hnow, hides_withCache] at hstep
    · cases event with
      | edit tree => exact hedits tree (by simp)
      | build => exact absurd trivial hbuild
      | rebuild scope => exact absurd trivial hbuild

/-- At any time in the history of a watched site the output holds nothing of hidden content, if none
was put there and no directory was rebuilt that held a hidden page. The pages that the rebuild of a
directory finds there, at whatever stage, are those that a full build would find, and the hidden
ones. -/
theorem hides_run (hclosed : start.tree.Closed) (hcache : start.builder.cache = none)
    (hwatches : start.builder.Watches watched start.tree.current)
    (hpage : ¬ start.builder.registry.isPage start.builder.paths.content)
    (hevents : ∀ event ∈ events, event.Arises watched start.tree.current)
    (hstart : start.builder.Hides start.tree)
    (hedits : ∀ tree, .edit tree ∈ events → start.builder.Hides tree)
    (hrebuilds : ∀ before event after, events = before ++ event :: after →
      ¬ (start.run before).1.RebuildsHidden event) :
    start.builder.Hides (start.run events).1.tree ∧
      ∀ tree, SameOutside (start.builder.outputPlace start.tree) (start.run events).1.tree tree →
        ∀ directory names pages files, directory.components =
            start.builder.paths.content.components ++ names.map .normal →
          (start.builder.pagesIn directory).Gives tree pages tree →
          tree.contentFiles start.builder.paths.content = .ok files →
            ∀ file, (∃ path ∈ pages, start.builder.IsPathOf file path) ↔
              file.directory = names ∧ start.builder.IsPageName file ∧
                ((∃ path ∈ files, start.builder.IsPathOf file path) ∨ file.IsHidden ∧
                  (tree.file? (start.builder.placeOf tree file)).isSome) := by
  refine ⟨hides_of_run hclosed hcache hwatches hpage hevents hstart hedits hrebuilds,
    fun tree hstage directory names pages files hcomponents hpages hfiles file ↦ ?_⟩
  have hfollows : Follows start (start.run events).1 :=
    follows_run hclosed hcache hwatches hpage hevents
  exact mem_pagesIn_iff_mem_contentFiles (hstage.closed hfollows.closed) hcomponents hpages hfiles

/-! ## A draft -/

/-- The output of a flat site holds nothing of hidden content if no name in it is hidden. -/
theorem hides_flat {cache : Option ComposedTemplates} {content output : List (String × String)}
    (h : ∀ file ∈ output, IsName file.1 ∧ ¬ isHiddenName file.1) :
    (flat cache).Hides (.flat content output) := by
  intro file path hpath hhidden
  rw [outputPlaceOf, outputPlace_flat]
  by_contra hsome
  obtain ⟨found, hfound⟩ := Option.ne_none_iff_exists'.mp hsome
  rcases FileTree.exists_of_file?_flat hfound with ⟨item, -, hplace, -⟩ | ⟨item, hitem, hplace, -⟩
  · exact absurd (List.cons.inj hplace).1 (by decide)
  · obtain ⟨hname, hshown⟩ := h item hitem
    have houtput : (flat cache).outputNames file = [] ++ [item.1] := (List.cons.inj hplace).2
    rw [isHidden_iff_of_outputNames hpath.isName houtput hname] at hhidden
    simp [hshown] at hhidden

/-- Metadata is added to a flat site without pages after the site was built. -/
theorem hides_run_flat :
    let start : Situation := ⟨.flat [("a.txt", "a")] [], .flat none⟩
    let site : FileTree := .flat [("a.txt", "a"), ("metadata.yaml", "")] [("a.txt", "a")]
    let events := [.build, .edit site,
      .rebuild (Scope.ofChanges ([⟨⟨"origin/metadata.yaml"⟩, false⟩].filterMap
        (flatWatch.classify site)))]
    start.builder.Hides (start.run events).1.tree := by
  intro start site events
  have hwatches : start.builder.Watches flatWatch start.tree.current :=
    ⟨by decide, rfl, Or.inl rfl⟩
  have hstart : start.tree.Closed := (wellFormed_flat (by decide) (by decide) (by decide)).toClosed
  have hsite : site.Closed := (wellFormed_flat (by decide) (by decide) (by decide)).toClosed
  have hpages : ∀ item ∈ [("a.txt", "a"), ("metadata.yaml", "")],
      ¬ (flat none).IsPageName ⟨[], item.1⟩ := by decide
  have hevents : ∀ event ∈ events, event.Arises flatWatch start.tree.current := by
    simp only [events, List.forall_mem_cons]
    exact ⟨trivial, ⟨hsite, rfl⟩, ⟨site, _, rfl⟩, by simp⟩
  refine (hides_run hstart rfl hwatches (by decide) hevents (hides_flat (by simp))
    (fun tree hmem ↦ ?_) fun before event after hsplit ↦ ?_).1
  · obtain rfl : tree = site := by simpa [events] using hmem
    exact hides_flat (by decide)
  · -- There is nothing to rebuild before the last event, and then there are no pages.
    rcases before with _ | ⟨first, _ | ⟨second, before⟩⟩
    · simp only [events, List.nil_append, List.cons.injEq] at hsplit
      exact hsplit.1 ▸ id
    · simp only [events, List.cons_append, List.nil_append, List.cons.injEq] at hsplit
      exact hsplit.2.1 ▸ id
    · simp only [events, List.cons_append, List.cons.injEq, List.singleton_eq_append_iff] at hsplit
      obtain ⟨rfl, rfl, ⟨rfl, hlast⟩ | ⟨-, hnil⟩⟩ := hsplit
      · have hfollows : Follows start (start.run [.build, .edit site]).1 :=
          follows_run hstart rfl hwatches (by decide) fun event hmem ↦
            hevents event (List.mem_of_mem_dropLast hmem)
        obtain ⟨cache, hcache⟩ := hfollows.builder
        refine not_rebuildsHidden fun file hpage ↦ ?_
        have htree : (start.run [.build, .edit site]).1.tree = site := rfl
        rw [htree, hcache]
        by_contra hsome
        obtain ⟨found, hfound⟩ := Option.ne_none_iff_exists'.mp hsome
        obtain ⟨item, hitem, rfl, -⟩ := Builder.exists_of_file?_flat hfound
        rw [hcache] at hpage
        exact hpages item hitem hpage
      · simp at hnil

/-- A site with a draft and a page. -/
def drafts : List (String × String) := [(".draft.html", "secret"), ("a.html", "A")]

/-- The site with metadata. -/
def titledDrafts : List (String × String) := drafts ++ [("metadata.yaml", "title: T\n")]

/-- The metadata is new. -/
def draftEvent : Event := .rebuild (Scope.ofChanges
  ([⟨⟨"origin/metadata.yaml"⟩, false⟩].filterMap
    (flatWatch.classify (.flat titledDrafts [("a.html", "A")]))))

private theorem gives_build_drafts : (flat none).build.Gives (.flat drafts [])
    (⟨⟨"public"⟩, 1, 0, 0, []⟩, flat (some plainTemplates)) (.flat drafts [("a.html", "A")]) := by
  have hhtml : (flat none).pageHtml (.flat drafts []) plainTemplates .identity ⟨"origin/a.html"⟩ =
      .ok "A" :=
    pageHtml_of_fillMarkers rfl rfl rfl rfl (Marker.isPlain_of_not_mem (by decide)) rfl
  have hbuild : ((flat none).buildFiles plainTemplates .identity [⟨"origin/a.html"⟩]
      (flat none).noResult).Gives (.flat drafts []) ⟨⟨"public"⟩, 1, 0, 0, []⟩
        (.flat drafts [("a.html", "A")]) :=
    gives_bind.mpr ⟨_, _, gives_notePage_of_writeOutput hhtml rfl rfl, gives_pure.mpr ⟨rfl, rfl⟩⟩
  refine gives_build_of_walk (.flat drafts []) [⟨"origin/a.html"⟩] (by decide) rfl rfl ?_ (by decide)
    hbuild
  have hlist : (FileTree.flat drafts []).list ⟨"origin"⟩ = .ok [".draft.html", "a.html"] := rfl
  change FileTree.walk _ _ ⟨"origin"⟩ = _
  simp [FileTree.walk, FileTree.walkNames, hlist]
  rfl

private theorem gives_rebuild_drafts :
    ((flat (some plainTemplates)).rebuild (.files [.directory ⟨"origin"⟩])).Gives
      (.flat titledDrafts [("a.html", "A")])
      (⟨⟨"public"⟩, 2, 0, 0, []⟩, flat (some plainTemplates))
      (.flat titledDrafts [("a.html", "A"), (".draft.html", "secret")]) := by
  have hdraft : (flat (some plainTemplates)).pageHtml (.flat titledDrafts [("a.html", "A")])
      plainTemplates .identity ⟨"origin/.draft.html"⟩ = .ok "secret" :=
    pageHtml_of_fillMarkers rfl rfl rfl rfl (Marker.isPlain_of_not_mem (by decide)) rfl
  have hpage : (flat (some plainTemplates)).pageHtml
      (.flat titledDrafts [("a.html", "A"), (".draft.html", "secret")])
      plainTemplates .identity ⟨"origin/a.html"⟩ = .ok "A" :=
    pageHtml_of_fillMarkers rfl rfl rfl rfl (Marker.isPlain_of_not_mem (by decide)) rfl
  have hpages : ((flat (some plainTemplates)).pagesIn ⟨"origin"⟩).Gives
      (.flat titledDrafts [("a.html", "A")]) [⟨"origin/.draft.html"⟩, ⟨"origin/a.html"⟩]
      (.flat titledDrafts [("a.html", "A")]) := by
    have hlist : (FileTree.flat titledDrafts [("a.html", "A")]).list ⟨"origin"⟩ =
        .ok [".draft.html", "a.html", "metadata.yaml"] := rfl
    have hfound : ([".draft.html", "a.html", "metadata.yaml"].map
        fun name ↦ (⟨"origin"⟩ : Path).join ⟨name⟩).filter (fun path ↦
          (FileTree.flat titledDrafts [("a.html", "A")]).isFile path &&
            (flat (some plainTemplates)).registry.isPage path) =
        [⟨"origin/.draft.html"⟩, ⟨"origin/a.html"⟩] := rfl
    have hsorted : Path.sorted [⟨"origin/.draft.html"⟩, ⟨"origin/a.html"⟩] =
        [⟨"origin/.draft.html"⟩, ⟨"origin/a.html"⟩] :=
      List.mergeSort_of_pairwise (by decide)
    refine gives_bind.mpr ⟨_, _, gives_files.mpr ⟨rfl, rfl⟩, ?_⟩
    rw [if_pos (by rfl)]
    simp only [hlist]
    rw [hfound, hsorted]
    exact gives_pure.mpr ⟨rfl, rfl⟩
  rw [rebuild_files rfl renderer_plainTemplates]
  refine gives_bind.mpr ⟨_, _, gives_bind.mpr ⟨_, _, gives_bind.mpr ⟨_, _, hpages, ?_⟩,
    gives_pure.mpr ⟨rfl, rfl⟩⟩, gives_pure.mpr ⟨rfl, rfl⟩⟩
  exact gives_bind.mpr ⟨_, _, gives_notePage_of_writeOutput hdraft rfl rfl,
    gives_bind.mpr ⟨_, _, gives_notePage_of_writeOutput hpage rfl rfl, gives_pure.mpr ⟨rfl, rfl⟩⟩⟩

private theorem draftEvent_eq : draftEvent = .rebuild (.files [.directory ⟨"origin"⟩]) := by
  have hclassify : flatWatch.classify (.flat titledDrafts [("a.html", "A")])
      ⟨⟨"origin/metadata.yaml"⟩, false⟩ = some (.metadata ⟨"origin/metadata.yaml"⟩) := rfl
  have hscope : Scope.ofChanges [.metadata ⟨"origin/metadata.yaml"⟩] =
      .files [.directory ⟨"origin"⟩] := rfl
  rw [draftEvent, List.filterMap_cons_some hclassify, List.filterMap_nil, hscope]

/-- A page is rebuilt with the others of its directory, although it is hidden. -/
theorem run_draft :
    let start : Situation := ⟨.flat drafts [], .flat none⟩
    let site : FileTree := .flat titledDrafts [("a.html", "A")]
    let events := [.build, .edit site, draftEvent]
    start.tree.Closed ∧ start.builder.cache = none ∧
      start.builder.Watches flatWatch start.tree.current ∧
      (∀ event ∈ events, event.Arises flatWatch start.tree.current) ∧
      start.builder.Hides start.tree ∧ start.builder.Hides site ∧
      (∃ path, start.builder.IsPathOf ⟨[], ".draft.html"⟩ path) ∧
      (start.run events).1.tree.file? (start.builder.outputPlaceOf start.tree ⟨[], ".draft.html"⟩) =
        some (.text "secret") := by
  intro start site events
  have hwatches : start.builder.Watches flatWatch start.tree.current :=
    ⟨by decide, rfl, Or.inl rfl⟩
  have hevents : ∀ event ∈ events, event.Arises flatWatch start.tree.current := by
    simp only [events, List.forall_mem_cons]
    exact ⟨trivial, ⟨(wellFormed_flat (by decide) (by decide) (by decide)).toClosed, rfl⟩, ⟨_, _, rfl⟩,
      by simp⟩
  have hpath : start.builder.IsPathOf ⟨[], ".draft.html"⟩ ((⟨"origin"⟩ : Path).join ⟨".draft.html"⟩) :=
    isPathOf_join (List.append_nil _).symm (by decide) (by decide)
  have hrun : (start.run events).1 = ⟨.flat titledDrafts [("a.html", "A"), (".draft.html", "secret")],
      flat (some plainTemplates)⟩ := by
    have hsplit : events = [.build, .edit site] ++ [draftEvent] := rfl
    have hedit : (start.run [.build, .edit site]).1 = ⟨site, flat (some plainTemplates)⟩ :=
      run_build_edit gives_build_drafts
    rw [hsplit, run_concat, hedit, draftEvent_eq]
    exact step_rebuild_of_gives gives_rebuild_drafts
  refine ⟨(wellFormed_flat (by decide) (by decide) (by decide)).toClosed, rfl, hwatches, hevents,
    hides_flat (by simp), hides_flat (by decide), ⟨_, hpath⟩, ?_⟩
  have houtput : (flat none).outputNames ⟨[], ".draft.html"⟩ = [".draft.html"] := rfl
  rw [hrun, outputPlaceOf, outputPlace_flat, houtput]
  rfl

end Situation

end StaticSite
