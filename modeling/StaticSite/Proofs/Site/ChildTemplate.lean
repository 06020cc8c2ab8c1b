import StaticSite.Proofs.Compose.OpenValue
import StaticSite.Proofs.Layout.Frame
import StaticSite.Proofs.Site.Flat
import StaticSite.Proofs.Text.Tidy

/-!
# Child templates on a page

A composition leaves markers for open values in child templates as it does in pages and layouts. A
layout puts the text of a child template in as it stands, and what it puts in is not filled. So every
page of such a layout shows these markers, whatever its values are (`renderMarker_isInfix_pageHtml`).
-/

namespace StaticSite

namespace Layout

/-- The part of a layout that puts a child template in. -/
def childNode (key : String) : Node :=
  .value (.filtered (.ident [.name "templates", .name key]) [("safe", [])])

variable {templates : Table String} {key child : String} {scopes scopes' : Scopes}

theorem fields_get?_mapValues (templates : Table String) (key : String) :
    Fields.get? (templates.mapValues Value.text) key = (templates.get? key).map Value.text := by
  induction templates with
  | nil => rfl
  | cons entry templates ih =>
    obtain ⟨n, v⟩ := entry
    change (if n = key then _ else Fields.get? (Table.mapValues Value.text templates) key) = _
    rw [ih, Table.get?]
    split_ifs <;> rfl

theorem lookupPath?_child
    (htemplates : scopes.get? "templates" = some (.record (templates.mapValues Value.text)))
    (hchild : templates.get? key = some child) :
    lookupPath? scopes [.name "templates", .name key] = some (.text child) := by
  rw [lookupPath?, htemplates, Option.bind_some, follow?, partOf?, fields_get?_mapValues, hchild,
    Option.map_some, Option.bind_some, follow?]

theorem eq_of_lookup {path : List Access} {v w : Value} (hpath : lookupPath? scopes path = some v)
    (h : lookup path scopes = .ok (w, scopes')) : w = v := by
  rw [lookup_of_lookupPath? hpath] at h
  cases h
  rfl

theorem eq_of_applyFilters_safe {fuel : Nat} {v w : Value}
    (h : applyFilters fuel [("safe", [])] v scopes = .ok (w, scopes')) : w = v := by
  rcases fuel with _ | _ | fuel
  · cases h
  · cases h
  · cases h
    rfl

/-- A child template is put in as it stands. -/
theorem eq_of_renderNode_childNode {fuel : Nat} {text : List Char} {ending : Ending}
    (htemplates : scopes.get? "templates" = some (.record (templates.mapValues Value.text)))
    (hchild : templates.get? key = some child)
    (h : renderNode fuel (childNode key) scopes = .ok ((text, ending), scopes')) :
    text = child.toList := by
  have hpath := lookupPath?_child htemplates hchild
  rcases fuel with _ | _ | _ | fuel
  · cases h
  · cases h
  · cases h
  · obtain ⟨v, middle, hvalue, h⟩ := exists_of_bind_eq_ok h
    cases h
    obtain ⟨w, inner, hlookup, hfilters⟩ := exists_of_bind_eq_ok hvalue
    rw [eq_of_applyFilters_safe hfilters, eq_of_lookup hpath hlookup]
    rfl

end Layout

/-- The context of a page has the child templates. -/
theorem ContextSetting.get?_templates {setting : ContextSetting} {templates : Table String}
    (h : setting.templates = some templates) (read? : Path → Option String) (metadata : Metadata)
    (body : String) (page : Path) :
    (setting.context read? metadata body page).get? "templates" =
      some (.record (templates.mapValues Value.text)) := by
  rw [PageContext.get?, context, derived, Fields.extend, h]
  simp

namespace Renderer

/-- The layout sees the child templates of the context. -/
private theorem get?_templates {context : PageContext} {templates : Table String}
    (h : context.get? "templates" = some (.record (templates.mapValues Value.text))) (body : Value) :
    Layout.Scopes.get? ⟨[], [], context.values.insert "doc" body⟩ "templates" =
      some (.record (templates.mapValues Value.text)) := by
  rw [PageContext.get?] at h
  simp [Layout.Scopes.get?, List.findSome?, Fields.get?, h]

/-- With a layout that is a child template, a page is the text of that template. -/
theorem renderPage_child {context : PageContext} {key child : String} {templates : Table String}
    (hfill : ∃ body, fillMarkers context.body context = .ok body)
    (htemplates : context.get? "templates" = some (.record (templates.mapValues Value.text)))
    (hchild : templates.get? key = some child) :
    renderPage ⟨[Layout.childNode key]⟩ context = .ok child := by
  obtain ⟨body, hbody⟩ := hfill
  have hrender := Layout.render_ident (Layout.lookup_of_lookupPath?
    (Layout.lookupPath?_child (get?_templates htemplates (.text body)) hchild))
  rw [renderPage, hbody]
  dsimp only
  rw [Layout.childNode, hrender]

/-- A page shows the text of a child template that its layout puts in. -/
theorem isInfix_of_renderPage {renderer : Renderer} {context : PageContext} {key child html : String}
    {templates : Table String} {front back : List Layout.Node}
    (hnodes : renderer.nodes = front ++ Layout.childNode key :: back)
    (hassign : Layout.nodesAssign "templates" front = false)
    (hexit : Layout.nodesExit front = false)
    (htemplates : context.get? "templates" = some (.record (templates.mapValues Value.text)))
    (hchild : templates.get? key = some child) (h : renderer.renderPage context = .ok html) :
    child.toList <:+: html.toList := by
  rw [renderPage] at h
  cases hbody : fillMarkers context.body context with
  | error e => simp [hbody] at h
  | ok body =>
    rw [hbody] at h
    dsimp only at h
    rw [Layout.render] at h
    cases hall : Layout.renderAll Layout.renderFuel renderer.nodes
        ⟨[], [], context.values.insert "doc" (.text body)⟩ with
    | error fault => simp [hall] at h
    | ok result =>
      obtain ⟨⟨text, ending⟩, scopes⟩ := result
      rw [hall] at h
      obtain rfl := Except.ok.inj h
      rw [hnodes] at hall
      obtain ⟨k, middle, part, partEnding, later, hkeeps, hpart, hinfix⟩ :=
        Layout.exists_of_renderAll hall hassign hexit
      have hlookup : middle.get? "templates" = some (.record (templates.mapValues Value.text)) := by
        rw [hkeeps.get?_eq, get?_templates htemplates]
      rw [Layout.eq_of_renderNode_childNode hlookup hchild hpart] at hinfix
      simpa using hinfix

end Renderer

/-! ## Markers in child templates -/

/-- A marker is on one line and does not end in white space, so that tidying keeps it. -/
theorem Marker.isWord_renderMarker {name : String} (h : Marker.IsIdentifier name) :
    Tidy.IsWord (Marker.renderMarker name).toList := by
  rw [Marker.toList_renderMarker]
  refine ⟨?_, Marker.opening ++ ' ' :: (name.toList ++ " | safe \x7d".toList), '\x7d', ?_, by decide⟩
  · simp [Marker.opening, h.not_mem_of_ne (c := '\n') (by decide)]
  · simp

/-- A script goes in before or behind a marker, not into it. -/
theorem renderMarker_isInfix_injectScript {name html : String} (hname : Marker.IsIdentifier name)
    (h : (Marker.renderMarker name).toList <:+: html.toList) (script : String) :
    (Marker.renderMarker name).toList <:+: (injectScript html script).toList := by
  rw [injectScript]
  split
  · next before behind hbreak =>
    have hmarker := Marker.toList_renderMarker name
    have hbracket : '<' ∉ (Marker.renderMarker name).toList := by
      simp [hmarker, Marker.opening, hname.not_mem_of_ne (c := '<') (by decide)]
    rw [Text.breakOnLast?_split hbreak, List.append_assoc] at h
    replace h : (Marker.renderMarker name).toList <:+: before ++ '<' :: ("/body>".toList ++ behind) := h
    have hsides : (Marker.renderMarker name).toList <:+: before ∨
        (Marker.renderMarker name).toList <:+: behind := by
      refine (Text.isInfix_or_of_notMem h hbracket).imp_right
        fun hlater ↦ Text.isInfix_of_append hlater ?_ ?_
      · simp [hmarker, Marker.opening]
      · simp [hmarker, Marker.opening]
    simp only [String.toList_append, String.toList_ofList, List.append_assoc]
    rcases hsides with hbefore | hbehind
    · exact hbefore.trans (List.prefix_append _ _).isInfix
    · refine hbehind.trans (List.IsSuffix.isInfix ?_)
      exact ⟨before ++ (script.toList ++ "</body>".toList), by simp⟩
  · rw [String.toList_append]
    exact h.trans (List.prefix_append _ _).isInfix

namespace Builder

open Marker Compose

variable {builder : Builder} {tree : FileTree} {templates : ComposedTemplates}

/-- The location of a child template. -/
def childLocation (builder : Builder) (path : String) : Location :=
  Location.resolveTemplate builder.paths.templates (.file builder.paths.templates) path

/-- A child template is found under its name among the composed ones. -/
theorem exists_of_composeChildren {table children : Table String} {key path : String}
    (h : builder.composeChildren tree table = .ok children) (hkey : table.get? key = some path) :
    ∃ child, builder.composeTemplate tree (builder.childLocation path) = .ok child ∧
      children.get? key = some child := by
  induction table generalizing children with
  | nil => cases hkey
  | cons entry rest ih =>
    obtain ⟨name, first⟩ := entry
    rw [composeChildren] at h
    split at h
    · cases h
    · next text htext =>
      cases hrest : builder.composeChildren tree rest with
      | error e => simp [hrest, Except.map] at h
      | ok more =>
        rw [hrest] at h
        obtain rfl : (name, text) :: more = children := Except.ok.inj h
        rw [Table.get?] at hkey ⊢
        split_ifs at hkey with hname
        · obtain rfl := Option.some.inj hkey
          exact ⟨text, htext, if_pos hname⟩
        · rw [if_neg hname]
          exact ih hrest hkey

/-- A composed template holds the markers for the placeholders that it leaves open. -/
theorem renderMarker_isInfix_of_composeTemplate {location : Location} {text child : String}
    {p : Placeholder} (hsource : tree.source builder.config.retries location = .ok text)
    (hmem : .placeholder p ∈ tokenize text) (hopen : IsOpen builder.config.page [] p)
    (h : builder.composeTemplate tree location = .ok child) :
    (renderMarker p.name).toList <:+: child.toList := by
  rw [composeTemplate, hsource] at h
  dsimp only at h
  cases hresult : (compose (builder.setting tree) text location).result with
  | error e => simp [composeTidied, hresult, Except.map, Except.mapError] at h
  | ok output =>
    have hmarker := renderMarker_isInfix_of_compose hresult hmem hopen
    simp only [composeTidied, hresult, Except.map, Except.mapError] at h
    obtain rfl := Except.ok.inj h
    split_ifs
    · exact isInfix_tidy (isWord_renderMarker (isIdentifier_of_mem_tokenize hmem)) hmarker
    · exact hmarker

/-- A page whose layout puts a child template in shows the markers for all placeholders that the
child template leaves open, whether or not the page has values for them. -/
theorem renderMarker_isInfix_pageHtml {key path text html : String} {p : Placeholder}
    {front back : List Layout.Node} {tree' : FileTree} {renderer : Renderer} {page : Path}
    (hkey : builder.config.childTemplates.get? key = some path)
    (hsource : tree.source builder.config.retries (builder.childLocation path) = .ok text)
    (hmem : .placeholder p ∈ tokenize text) (hopen : IsOpen builder.config.page [] p)
    (htemplates : builder.composeTemplates tree = .ok templates)
    (hrenderer : builder.renderer templates = .ok renderer)
    (hnodes : renderer.nodes = front ++ Layout.childNode key :: back)
    (hassign : Layout.nodesAssign "templates" front = false)
    (hexit : Layout.nodesExit front = false)
    (hhtml : builder.pageHtml tree' templates renderer page = .ok html) :
    (renderMarker p.name).toList <:+: html.toList := by
  rw [composeTemplates] at htemplates
  split at htemplates
  · cases htemplates
  · next layout hlayout =>
    cases hchildren : builder.composeChildren tree builder.config.childTemplates with
    | error e => simp [hchildren, Except.map] at htemplates
    | ok children =>
      rw [hchildren] at htemplates
      obtain rfl : ⟨layout, children⟩ = templates := Except.ok.inj htemplates
      obtain ⟨child, hchild, hget⟩ := exists_of_composeChildren hchildren hkey
      obtain ⟨body, composed, rendered, -, -, hrendered, rfl⟩ := exists_of_pageHtml hhtml
      have hpage := Renderer.isInfix_of_renderPage hnodes hassign hexit
        (ContextSetting.get?_templates rfl _ _ _ _) hget hrendered
      have hmarker := (renderMarker_isInfix_of_composeTemplate hsource hmem hopen hchild).trans hpage
      split_ifs
      · exact renderMarker_isInfix_injectScript (isIdentifier_of_mem_tokenize hmem) hmarker _
      · exact hmarker

/-! ## A site with a child template -/

/-- The text of a child template with an open placeholder. -/
def headingText : String := "<b>\x7b\x7b\x7b title \x7d\x7d\x7d</b>"

/-- The text of a layout that is a child template. -/
def headingLayout : String := "\x7b\x7b templates.nav | safe \x7d\x7d"

/-- The templates as they are composed. -/
def headingTemplates : ComposedTemplates :=
  ⟨headingLayout, [("nav", "<b>\x7b\x7b title | safe \x7d\x7d</b>")]⟩

/-- A site with a layout, a child template and a page. -/
def headingTree : FileTree where
  entries := [(["template"], .directory),
    (["template", "layout.html"], .file (.text headingLayout)),
    (["template", "nav.html"], .file (.text headingText)), (["origin"], .directory),
    (["origin", "a.html"], .file (.text "A"))]
  current := []

/-- The builder of the site. -/
def headingBuilder : Builder :=
  ofConfig { Config.default with tidy := false, childTemplates := [("nav", "nav.html")] } ⟨""⟩
    .standard false

theorem tokenize_headingText :
    tokenize headingText = [.literal "<b>", .placeholder ⟨"title", none⟩, .literal "</b>"] := by
  cbv

private theorem compose_headingText (setting : Setting) (hglobals : setting.globals = [])
    (location : Location) :
    compose setting headingText location = ⟨.ok "<b>\x7b\x7b title | safe \x7d\x7d</b>", []⟩ := by
  have hopen : ∀ p, .placeholder p ∈ tokenize headingText → IsOpen setting.globals [] p := by
    intro p hp
    obtain rfl : p = ⟨"title", none⟩ := by simpa [tokenize_headingText] using hp
    rw [hglobals]
    exact ⟨rfl, rfl, rfl⟩
  rw [compose_of_open (by simp [tokenize_headingText]) hopen, tokenize_headingText]
  rfl

private theorem isPlain_headingLayout : IsPlain headingLayout.toList := by
  have hplain : IsPlain (renderMarker "templates.nav").toList :=
    isPlain_renderMarker (by decide) (List.all_eq_true.mp (by rfl))
  exact hplain

theorem composeTemplates_heading :
    headingBuilder.composeTemplates headingTree = .ok headingTemplates := by
  have hpaths : headingBuilder.paths.templates = ⟨"template"⟩ := rfl
  have hlayout : headingBuilder.composeLayout headingTree = .ok headingLayout :=
    composeLayout_of_compose rfl rfl rfl rfl (by rw [compose_of_isPlain isPlain_headingLayout])
  have hchild : Location.resolveTemplate ⟨"template"⟩ (.file ⟨"template"⟩) "nav.html" =
      .file ⟨"template/nav.html"⟩ := rfl
  have htext : headingTree.source headingBuilder.config.retries (.file ⟨"template/nav.html"⟩) =
      .ok headingText := rfl
  have hchildren : headingBuilder.config.childTemplates = [("nav", "nav.html")] := rfl
  rw [composeTemplates, hlayout, hchildren]
  simp only [composeChildren, composeTemplate, hpaths, hchild, htext, composeTidied]
  rw [compose_headingText _ rfl]
  rfl

theorem renderer_heading :
    headingBuilder.renderer headingTemplates = .ok ⟨[Layout.childNode "nav"]⟩ := by
  have hlayout : Layout.ofText? headingTemplates.layout = some [Layout.childNode "nav"] := by cbv
  exact renderer_of_ofText? hlayout

/-- The page shows the marker in place of its title. -/
theorem pageHtml_heading : headingBuilder.pageHtml headingTree headingTemplates
    ⟨[Layout.childNode "nav"]⟩ ⟨"origin/a.html"⟩ =
      .ok "<b>\x7b\x7b title | safe \x7d\x7d</b>" := by
  have hread : headingTree.readText ⟨"origin/a.html"⟩ = .ok "A" := rfl
  have hfill (context : PageContext) : Renderer.fillMarkers "A" context = .ok "A" := rfl
  refine pageHtml_of_isPlain rfl rfl rfl hread (isPlain_of_not_mem (by decide)) ?_
  refine Renderer.renderPage_child ⟨"A", ?_⟩ (ContextSetting.get?_templates rfl _ _ _ _) rfl
  rw [ContextSetting.body_context]
  exact hfill _

theorem renderMarker_isInfix_pageHtml_heading :
    headingBuilder.config.childTemplates.get? "nav" = some "nav.html" ∧
      headingTree.source headingBuilder.config.retries (headingBuilder.childLocation "nav.html") =
        .ok headingText ∧
      .placeholder ⟨"title", none⟩ ∈ tokenize headingText ∧
      IsOpen headingBuilder.config.page [] ⟨"title", none⟩ ∧
      headingBuilder.composeTemplates headingTree = .ok headingTemplates ∧
      headingBuilder.renderer headingTemplates = .ok ⟨[] ++ Layout.childNode "nav" :: []⟩ ∧
      Layout.nodesAssign "templates" [] = false ∧ Layout.nodesExit [] = false ∧
      headingBuilder.pageHtml headingTree headingTemplates ⟨[Layout.childNode "nav"]⟩
        ⟨"origin/a.html"⟩ = .ok "<b>\x7b\x7b title | safe \x7d\x7d</b>" ∧
      (renderMarker "title").toList <:+: "<b>\x7b\x7b title | safe \x7d\x7d</b>".toList := by
  have hmem : .placeholder ⟨"title", none⟩ ∈ tokenize headingText := by simp [tokenize_headingText]
  have hopen : IsOpen headingBuilder.config.page [] ⟨"title", none⟩ := ⟨rfl, rfl, rfl⟩
  have hkey : headingBuilder.config.childTemplates.get? "nav" = some "nav.html" := rfl
  have hlocation : headingBuilder.childLocation "nav.html" = .file ⟨"template/nav.html"⟩ := rfl
  have hsource : headingTree.source headingBuilder.config.retries
      (headingBuilder.childLocation "nav.html") = .ok headingText := by
    rw [hlocation]
    rfl
  have hnodes : (⟨[Layout.childNode "nav"]⟩ : Renderer).nodes = [] ++ Layout.childNode "nav" :: [] :=
    rfl
  have hassign : Layout.nodesAssign "templates" [] = false := rfl
  have hexit : Layout.nodesExit [] = false := rfl
  refine ⟨hkey, hsource, hmem, hopen, composeTemplates_heading, renderer_heading, hassign, hexit,
    pageHtml_heading, ?_⟩
  have hmarker := renderMarker_isInfix_pageHtml hkey hsource hmem hopen composeTemplates_heading
    renderer_heading hnodes hassign hexit pageHtml_heading
  exact hmarker

/-- The page has a title, but its child template does not show it. -/
theorem pageHtml_heading_without_title :
    .placeholder ⟨"title", none⟩ ∈ tokenize headingText ∧
      IsOpen headingBuilder.config.page [] ⟨"title", none⟩ ∧
      headingBuilder.composeTemplates headingTree = .ok headingTemplates ∧
      headingBuilder.renderer headingTemplates = .ok ⟨[Layout.childNode "nav"]⟩ ∧
      (headingBuilder.contextOf headingTree headingTemplates ⟨"origin/a.html"⟩ "A").get? "title" =
        some (.text "a.html") ∧
      headingBuilder.pageHtml headingTree headingTemplates ⟨[Layout.childNode "nav"]⟩
        ⟨"origin/a.html"⟩ = .ok "<b>\x7b\x7b title | safe \x7d\x7d</b>" ∧
      headingBuilder.pageHtml headingTree headingTemplates ⟨[Layout.childNode "nav"]⟩
        ⟨"origin/a.html"⟩ ≠ .ok "<b>a.html</b>" := by
  refine ⟨by simp [tokenize_headingText], ⟨rfl, rfl, rfl⟩, composeTemplates_heading,
    renderer_heading, rfl, pageHtml_heading, ?_⟩
  rw [pageHtml_heading]
  decide

end Builder

end StaticSite
