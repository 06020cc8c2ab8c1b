import StaticSite.Proofs.Compose.Refinement
import StaticSite.Proofs.Location
import StaticSite.Proofs.Marker.RenderMarker

/-!
# Cycles

A composition that ends with a cycle names the visits that led to it. Each of them is one step of
the expansion behind the one before it: a template that a reference in the text names, or a
placeholder in the text whose value holds a reference. This is read off the stack, on which every
frame stands for a text that the frame below it has opened (`exists_layers_of_reachable`), so that
the chain of a cycle leads from the text of the composition back to one of its own visits
(`compose_eq_cycle`).

The visits of the chain are distinct, but their labels are so only if no web address on the chain
has a scheme other than `http` and `https`: a reference in a template from the web can name a web
address whose text is that of a file (`compose_two_labels`).
-/

namespace StaticSite.Compose

open Marker

/-- A text that is expanded, and how it was come to. -/
structure Layer where
  /-- The template of the text, or the placeholder whose value it is. -/
  visit : Visit
  /-- The template, or the one that holds the placeholder. -/
  location : Location
  /-- The parameters of the reference that brought the template in. -/
  params : Table String
  /-- The text. -/
  text : String

/-- The text of a composition. -/
def Layer.root (location : Location) (text : String) : Layer :=
  ⟨.template location.canonical, location.canonical, [], text⟩

/-- The expansion of a text leads to a visit in one step: a reference of the text names the
template, or the value of a placeholder of the text holds a reference. -/
inductive LeadsInto (setting : Setting) (layer : Layer) : Visit → Prop
  | template {r : Reference} (mem : .reference r ∈ tokenize layer.text) :
      LeadsInto setting layer (.template (referred setting layer.location r))
  | placeholder {p : Placeholder} (mem : .placeholder p ∈ tokenize layer.text)
      (reference : findReference? (valueOf setting.globals layer.params p) ≠ none) :
      LeadsInto setting layer (.placeholder p.name)

/-- The expansion of a text leads in one step to another text: that of the template which a
reference names, or the value of a placeholder. -/
inductive Opens (setting : Setting) (layer : Layer) : Layer → Prop
  | template {r : Reference} {text : String} (mem : .reference r ∈ tokenize layer.text)
      (source_eq : setting.source (referred setting layer.location r) = .ok text) :
      Opens setting layer ⟨.template (referred setting layer.location r),
        referred setting layer.location r, r.params, text⟩
  | value {p : Placeholder} (mem : .placeholder p ∈ tokenize layer.text)
      (reference : findReference? (valueOf setting.globals layer.params p) ≠ none) :
      Opens setting layer ⟨.placeholder p.name, layer.location, layer.params,
        valueOf setting.globals layer.params p⟩

/-- Texts, from that of the composition on, each of which opens the next one, until the last one
leads back to the visit of one of them. -/
structure IsCycle (setting : Setting) (root : Layer) (layers : List Layer) (closing : Visit) :
    Prop where
  head_eq : layers.head? = some root
  opens : layers.IsChain (Opens setting)
  leads : ∀ last ∈ layers.getLast?, LeadsInto setting last closing
  mem : closing ∈ layers.map Layer.visit
  nodup : (layers.map Layer.visit).Nodup

/-- A frame stands for a layer of which some tokens may be expanded already. -/
structure Frame.IsAt (frame : Frame) (layer : Layer) : Prop where
  visit_eq : frame.visit = layer.visit
  location_eq : frame.location = layer.location
  params_eq : frame.params = layer.params
  suffix : frame.tokens <:+ tokenize layer.text

/-- The layers that the frames of a stack stand for, both with the innermost first. -/
inductive StandsFor (setting : Setting) (root : Layer) : List Frame → List Layer → Prop
  | root {frame : Frame} (at_root : frame.IsAt root) : StandsFor setting root [frame] [root]
  | inner {frame : Frame} {below : List Frame} {layer outer : Layer} {layers : List Layer}
      (at_layer : frame.IsAt layer) (opens : Opens setting outer layer)
      (standsFor : StandsFor setting root below (outer :: layers)) :
      StandsFor setting root (frame :: below) (layer :: outer :: layers)

variable {setting : Setting} {root layer : Layer} {frame : Frame} {below stack next : List Frame}
  {layers : List Layer} {text name : String} {location : Location} {chain : List String}

/-! ## The layers of a stack -/

theorem Frame.IsAt.advance (h : frame.IsAt layer) {token : Token} {tokens : List Token}
    (htokens : frame.tokens = token :: tokens) (output : String) :
    ({ frame with tokens, output } : Frame).IsAt layer :=
  ⟨h.visit_eq, h.location_eq, h.params_eq,
    ((List.suffix_cons token tokens).trans (htokens ▸ List.suffix_rfl)).trans h.suffix⟩

theorem Frame.IsAt.mem_tokenize (h : frame.IsAt layer) {token : Token} {tokens : List Token}
    (htokens : frame.tokens = token :: tokens) : token ∈ tokenize layer.text :=
  h.suffix.subset (htokens ▸ List.mem_cons_self)

theorem Frame.IsAt.target_eq (h : frame.IsAt layer) (r : Reference) :
    target setting.root frame.location r.name = referred setting layer.location r := by
  rw [h.location_eq, target, referred]

namespace StandsFor

theorem exists_head (h : StandsFor setting root (frame :: below) layers) :
    ∃ layer outer, layers = layer :: outer ∧ frame.IsAt layer := by
  cases h with
  | root hframe => exact ⟨_, _, rfl, hframe⟩
  | inner hframe => exact ⟨_, _, rfl, hframe⟩

/-- The innermost frame may change as long as it stands for its layer. -/
theorem replace (h : StandsFor setting root (frame :: below) (layer :: layers)) {frame' : Frame}
    (hframe : frame'.IsAt layer) : StandsFor setting root (frame' :: below) (layer :: layers) := by
  cases h with
  | root => exact .root hframe
  | inner _ hopens hbelow => exact .inner hframe hopens hbelow

theorem pathOf_eq (h : StandsFor setting root stack layers) :
    pathOf stack = layers.map Layer.visit := by
  induction h with
  | root hframe => exact congrArg (· :: []) hframe.visit_eq
  | inner hframe _ _ ih => exact congrArg₂ List.cons hframe.visit_eq ih

theorem getLast?_eq (h : StandsFor setting root stack layers) : layers.getLast? = some root := by
  induction h with
  | root => rfl
  | inner _ _ _ ih => rw [List.getLast?_cons_cons, ih]

theorem isChain (h : StandsFor setting root stack layers) :
    layers.IsChain fun inner outer ↦ Opens setting outer inner := by
  induction h with
  | root => exact .singleton root
  | inner _ hopens _ ih => exact ih.cons_cons hopens

end StandsFor

/-- A move keeps layers under the frames: a frame is only entered for a text that the frame below it
opens. -/
theorem Move.exists_standsFor (h : Move setting stack next)
    (hstack : StandsFor setting root stack layers) :
    ∃ layers', StandsFor setting root next layers' := by
  cases h with
  | literal htokens =>
    obtain ⟨layer, outer, rfl, hframe⟩ := hstack.exists_head
    exact ⟨_, hstack.replace (hframe.advance htokens _)⟩
  | value htokens =>
    obtain ⟨layer, outer, rfl, hframe⟩ := hstack.exists_head
    exact ⟨_, hstack.replace (hframe.advance htokens _)⟩
  | @enterValue frame below p tokens htokens hreference =>
    obtain ⟨layer, outer, rfl, hframe⟩ := hstack.exists_head
    rw [substitute_eq_valueOf, hframe.params_eq] at hreference
    refine ⟨_, .inner ?_ (.value (hframe.mem_tokenize htokens) hreference)
      (hstack.replace (hframe.advance htokens frame.output))⟩
    exact ⟨rfl, hframe.location_eq, hframe.params_eq, by
      rw [substitute_eq_valueOf, hframe.params_eq]
      exact List.suffix_rfl⟩
  | @enterTemplate frame below r tokens text htokens _ hsource =>
    obtain ⟨layer, outer, rfl, hframe⟩ := hstack.exists_head
    rw [hframe.target_eq] at hsource ⊢
    exact ⟨_, .inner ⟨rfl, rfl, rfl, List.suffix_rfl⟩
      (.template (hframe.mem_tokenize htokens) hsource)
      (hstack.replace (hframe.advance htokens frame.output))⟩
  | leave =>
    cases hstack with
    | inner _ _ hbelow =>
      obtain ⟨layer, outer, hlayers, hframe⟩ := hbelow.exists_head
      rw [hlayers] at hbelow
      exact ⟨_, hbelow.replace ⟨hframe.visit_eq, hframe.location_eq, hframe.params_eq,
        hframe.suffix⟩⟩

/-- Every stack that a composition comes to stands for layers, the first of which is its text. -/
theorem exists_layers_of_reachable
    (h : Reachable setting [.ofTemplate location.canonical text []] stack) :
    ∃ layers, StandsFor setting (.root location text) stack layers := by
  induction h with
  | refl => exact ⟨_, .root ⟨rfl, rfl, rfl, List.suffix_rfl⟩⟩
  | tail _ hstep ih =>
    obtain ⟨layers, hlayers⟩ := ih
    exact (move_of_leadsTo hstep).exists_standsFor hlayers

/-! ## The chain of a cycle -/

/-- A step that closes a cycle is at a token which leads to a visit on the path. -/
private theorem exists_leadsInto_of_step {fetched : Option Location}
    (hanchored : Anchored (frame :: below)) (hframe : frame.IsAt layer)
    (h : step setting (frame :: below) = (.finished (.error (.cycle chain)), fetched)) :
    ∃ closing, LeadsInto setting layer closing ∧ closing ∈ pathOf (frame :: below) ∧
      .cycle chain = cycleAt (pathOf (frame :: below)) closing := by
  cases htokens : frame.tokens with
  | nil => cases below <;> simp [step, htokens, append] at h
  | cons token tokens =>
    have hmem := hframe.mem_tokenize htokens
    cases token with
    | literal text => simp [step, htokens, append] at h
    | placeholder p =>
      simp only [step, htokens, append] at h
      split_ifs at h with hvalue hcycle
      · simp at h
      · refine ⟨.placeholder p.name, .placeholder hmem ?_, ?_, ?_⟩
        · rw [← hframe.params_eq, ← substitute_eq_valueOf]
          exact fun hnone ↦ hvalue (by simp [hnone])
        · exact mem_pathOf_placeholder.mpr (by simpa using hcycle)
        · obtain ⟨rfl, -⟩ : _ = chain ∧ _ := by simpa using h
          exact chainOf_eq _ (.placeholder p.name)
      · simp at h
    | reference r =>
      simp only [step, htokens] at h
      split_ifs at h with hcycle
      · rw [hframe.target_eq] at h hcycle
        refine ⟨.template (referred setting layer.location r), .template hmem, ?_, ?_⟩
        · exact (mem_pathOf_template hanchored).mpr (by simpa using hcycle)
        · obtain ⟨rfl, -⟩ : _ = chain ∧ _ := by simpa using h
          exact chainOf_eq _ (.template (referred setting layer.location r))
      · split at h <;> simp at h

/-- The chain of a cycle is made of the labels of texts that lead from that of the composition back
to one of them. -/
theorem exists_isCycle_of_compose
    (h : (compose setting text location).result = .error (.cycle chain)) :
    ∃ layers closing, IsCycle setting (.root location text) layers closing ∧
      chain = layers.map (·.visit.label) ++ [closing.label] := by
  obtain ⟨stack, fetched, hreachable, hstep⟩ := (compose_eq_error_iff (by simp)).mp h
  obtain ⟨hanchored, hnodup⟩ := wellFormed_of_reachable hreachable (wellFormed_singleton _ text [])
  obtain ⟨layers, hlayers⟩ := exists_layers_of_reachable hreachable
  cases stack with
  | nil => cases hlayers
  | cons frame below =>
    have hpath := hlayers.pathOf_eq
    obtain ⟨layer, outer, rfl, hframe⟩ := hlayers.exists_head
    obtain ⟨closing, hleads, hmem, hchain⟩ := exists_leadsInto_of_step hanchored hframe hstep
    rw [hpath] at hmem hnodup hchain
    refine ⟨(layer :: outer).reverse, closing, ⟨?_, ?_, ?_, ?_, ?_⟩, ?_⟩
    · rw [List.head?_reverse, hlayers.getLast?_eq]
    · exact List.isChain_reverse.mpr hlayers.isChain
    · simpa using hleads
    · rwa [List.map_reverse, List.mem_reverse]
    · rw [List.map_reverse]
      exact List.nodup_reverse.mpr hnodup
    · obtain rfl := ComposeError.cycle.inj hchain
      simp [Function.comp_def]

/-! ## Labels -/

/-- The label of a placeholder is a name in braces. -/
theorem isBraced_placeholderLabel (h : IsIdentifier name) :
    Location.IsBraced (placeholderLabel name) := by
  have hslash := h.not_mem_of_ne (c := '/') (by decide)
  have hdot := h.not_mem_of_ne (c := '.') (by decide)
  constructor <;> simp [placeholderLabel, hslash, hdot]

/-- The label of a placeholder begins with a brace. -/
theorem ne_placeholderLabel (h : text.toList.head? ≠ some '\x7b') (name : String) :
    text ≠ placeholderLabel name := by
  rintro rfl
  simp [placeholderLabel] at h

theorem placeholderLabel_injective : Function.Injective placeholderLabel := by
  intro name other h
  have hchars := congrArg String.toList h
  exact String.toList_inj.mp (by simpa [placeholderLabel] using hchars)

/-- A visit is known by its label among others of this kind: the location of a template is in
canonical form, and its text is not the label of a placeholder. -/
def Visit.IsLabelled : Visit → Prop
  | .template location => (∃ other : Location, other.IsRead ∧ other.canonical = location) ∧
      ∀ name, IsIdentifier name → location.IsWeb → location.display ≠ placeholderLabel name
  | .placeholder name => IsIdentifier name

/-- Whether the location of a visit is a file or a web address with the scheme `http` or `https`. -/
def Visit.IsWeb : Visit → Prop
  | .template location => location.IsWeb
  | .placeholder _ => True

theorem Visit.label_injective {visit other : Visit} (h : visit.IsLabelled)
    (hother : other.IsLabelled) (hweb : visit.IsWeb) (hweb' : other.IsWeb)
    (hlabel : visit.label = other.label) : visit = other := by
  cases visit with
  | template location =>
    cases other with
    | template location' =>
      obtain ⟨⟨a, ha, rfl⟩, -⟩ := h
      obtain ⟨⟨b, hb, rfl⟩, -⟩ := hother
      have hsame := Location.display_injective ha hb (Location.isWeb_canonical.mp hweb)
        (Location.isWeb_canonical.mp hweb') hlabel
      rw [hsame]
    | placeholder name => exact absurd hlabel (h.2 name hother hweb)
  | placeholder name =>
    cases other with
    | template location => exact absurd hlabel.symm (hother.2 name h hweb')
    | placeholder name' => rw [placeholderLabel_injective hlabel]

/-- A text that another one opens is at a location that was read, and is known by its label. -/
theorem Opens.isLabelled {inner : Layer} (h : Opens setting layer inner)
    (hread : layer.location.IsRead) : inner.location.IsRead ∧ inner.visit.IsLabelled := by
  cases h with
  | @template r text hmem hsource =>
    have hparent := hread.parent
    have hbrace : '\x7b' ∉ r.name.toList := fun hc ↦
      absurd (isNameChar_of_mem_tokenize hmem _ hc) (by decide)
    have htarget := hparent.resolveTemplate setting.root r.name
    refine ⟨htarget.canonical, ⟨_, htarget, rfl⟩, fun name hname hweb hlabel ↦ ?_⟩
    exact Location.not_isBraced_resolveTemplate hparent hbrace (Location.isWeb_canonical.mp hweb)
      (hlabel ▸ isBraced_placeholderLabel hname)
  | value hmem _ => exact ⟨hread, isIdentifier_of_mem_tokenize hmem⟩

/-- What holds of the text of a composition, and of every text that one with it opens, holds of all
texts of a cycle. -/
theorem IsCycle.forall_of_opens {closing : Visit} (h : IsCycle setting root layers closing)
    {P : Layer → Prop} (hroot : P root)
    (hopens : ∀ outer inner, Opens setting outer inner → P outer → P inner) :
    ∀ layer ∈ layers, P layer := by
  refine h.opens.induction P layers hopens fun hne ↦ ?_
  have hhead : layers.head hne = root := by simpa [List.head?_eq_some_head hne] using h.head_eq
  exact hhead ▸ hroot

/-- The texts of a cycle have distinct labels, unless a web address among them has another scheme
than `http` and `https`. -/
theorem IsCycle.nodup_label {closing : Visit}
    (h : IsCycle setting (.root location text) layers closing) (hread : location.IsRead)
    (hroot : ∀ name, location.canonical.display ≠ placeholderLabel name)
    (hweb : ∀ visit ∈ layers.map Layer.visit, visit.IsWeb) :
    (layers.map (·.visit.label)).Nodup := by
  have hlayers : ∀ layer ∈ layers, layer.location.IsRead ∧ layer.visit.IsLabelled :=
    h.forall_of_opens ⟨hread.canonical, ⟨location, hread, rfl⟩, fun name _ _ ↦ hroot name⟩
      fun outer inner hopens houter ↦ hopens.isLabelled houter.1
  have hlabelled : ∀ visit ∈ layers.map Layer.visit, visit.IsLabelled :=
    List.forall_mem_map.mpr fun layer hlayer ↦ (hlayers layer hlayer).2
  have hnodup := h.nodup.map_on fun visit hvisit other hother ↦ Visit.label_injective
    (hlabelled visit hvisit) (hlabelled other hother) (hweb visit hvisit) (hweb other hother)
  rwa [List.map_map] at hnodup

/-! ## The reported chain -/

/-- A reported cycle is real. Its chain begins with the label of the text of the composition and
ends with a label that it has before. It is made of the labels of texts, each of which opens the
next one until the last one leads back to the visit of one of them, and these visits are distinct.
The labels before the last one are distinct as well, unless a web address among the texts has
another scheme than `http` and `https`, or the location of the composition looks like a placeholder.
-/
theorem compose_eq_cycle (h : (compose setting text location).result = .error (.cycle chain)) :
    2 ≤ chain.length ∧ chain.head? = some location.canonical.display ∧
      (∃ label ∈ chain.dropLast, chain.getLast? = some label) ∧
      ∃ layers closing, IsCycle setting (.root location text) layers closing ∧
        chain = layers.map (·.visit.label) ++ [closing.label] ∧
        (location.IsRead → (∀ name, location.canonical.display ≠ placeholderLabel name) →
          (∀ layer ∈ layers, layer.visit.IsWeb) → chain.dropLast.Nodup) := by
  obtain ⟨layers, closing, hcycle, rfl⟩ := exists_isCycle_of_compose h
  obtain ⟨rest, rfl⟩ := List.head?_eq_some_iff.mp hcycle.head_eq
  rw [List.dropLast_concat, List.getLast?_concat]
  refine ⟨by simp, rfl, ⟨closing.label, ?_, rfl⟩, _, closing, hcycle, rfl, ?_⟩
  · obtain ⟨layer, hlayer, hvisit⟩ := List.mem_map.mp hcycle.mem
    exact List.mem_map.mpr ⟨layer, hlayer, congrArg Visit.label hvisit⟩
  · intro hread hroot hweb
    exact hcycle.nodup_label hread hroot (List.forall_mem_map.mpr hweb)

/-- A value of all pages that refers to a template, which holds the placeholder of the value. -/
def circular : Setting where
  source location :=
    if location = .file ⟨"/t/a.html"⟩ then .ok "\x7b\x7b\x7b x \x7d\x7d\x7d"
    else .error (.unreachable location.display)
  root := ⟨"/t"⟩
  globals := [("x", .text "\x7b\x7b a \x7d\x7d")]

private theorem expands_reference {params : Table String} {path : List Visit} {r : Reference}
    {found : Location} {inner : String} {e : ComposeError} {log : List Location}
    (htokens : tokenize text = [.reference r]) (hfound : referred setting location r = found)
    (hfresh : .template found ∉ path) (hsource : setting.source found = .ok inner)
    (h : Expands setting found r.params (.template found :: path) (tokenize inner)
      ⟨.error e, log⟩) :
    Expands setting location params path (tokenize text) ⟨.error e, found :: log⟩ := by
  subst hfound
  rw [htokens]
  exact .templateError hfresh hsource h

private theorem compose_circular :
    (compose circular "\x7b\x7b\x7b x \x7d\x7d\x7d" (.file ⟨"/t/index.html"⟩)).result =
      .error (.cycle ["/t/index.html", "\x7b\x7b\x7b x \x7d\x7d\x7d", "/t/a.html",
        "\x7b\x7b\x7b x \x7d\x7d\x7d"]) := by
  have htext : tokenize "\x7b\x7b\x7b x \x7d\x7d\x7d" = [.placeholder ⟨"x", none⟩] := by cbv
  have hvalue : tokenize "\x7b\x7b a \x7d\x7d" = [.reference ⟨"a", []⟩] :=
    tokenize_of_read? (show _ = some (.reference ⟨"a", []⟩, []) by cbv)
  have hreference : findReference? (valueOf circular.globals [] ⟨"x", none⟩) ≠ none := fun hnone ↦
    findReference?_eq_none_iff.mp hnone ⟨"a", []⟩ (hvalue ▸ List.mem_cons_self)
  have hexpands : Expands circular (.file ⟨"/t/index.html"⟩) []
      [.template (.file ⟨"/t/index.html"⟩)] [.placeholder ⟨"x", none⟩] ⟨.error (cycleAt
        [.template (.file ⟨"/t/a.html"⟩), .placeholder "x", .template (.file ⟨"/t/index.html"⟩)]
        (.placeholder "x")), [.file ⟨"/t/a.html"⟩]⟩ := by
    refine .valueError hreference (by simp) (expands_reference hvalue rfl (by decide) rfl ?_)
    rw [htext]
    exact .valueCycle hreference (by simp)
  rw [← htext] at hexpands
  rw [compose_of_expands hexpands]
  rfl

private theorem isWeb_of_circular {layers : List Layer} {closing : Visit}
    (h : IsCycle circular (.root (.file ⟨"/t/index.html"⟩) text) layers closing) :
    ∀ layer ∈ layers, layer.visit.IsWeb := by
  refine h.forall_of_opens trivial fun outer inner hopens _ ↦ ?_
  cases hopens with
  | @template r text hmem hsource =>
    by_cases hfound : referred circular outer.location r = .file ⟨"/t/a.html"⟩
    · rw [hfound]
      trivial
    · cases (if_neg hfound).symm.trans hsource
  | value => trivial

/-- A page whose placeholder has a value that refers to a template with this placeholder. -/
theorem compose_eq_cycle_circular :
    (compose circular "\x7b\x7b\x7b x \x7d\x7d\x7d" (.file ⟨"/t/index.html"⟩)).result =
        .error (.cycle ["/t/index.html", "\x7b\x7b\x7b x \x7d\x7d\x7d", "/t/a.html",
          "\x7b\x7b\x7b x \x7d\x7d\x7d"]) ∧
      (∃ layers closing, IsCycle circular
        (.root (.file ⟨"/t/index.html"⟩) "\x7b\x7b\x7b x \x7d\x7d\x7d") layers closing) ∧
      ["/t/index.html", "\x7b\x7b\x7b x \x7d\x7d\x7d", "/t/a.html"].Nodup := by
  obtain ⟨-, -, -, layers, closing, hcycle, -, hnodup⟩ := compose_eq_cycle compose_circular
  exact ⟨compose_circular, ⟨layers, closing, hcycle⟩,
    hnodup trivial (ne_placeholderLabel (by decide)) (isWeb_of_circular hcycle)⟩

/-- The web address `http://h/a.html`. -/
def hostedPage : Url :=
  { Url.bare "http" with host := some (.domain "h"), path := .segments ["a.html"] }

private def hostedDirectory : Url := { hostedPage with path := .segments [""] }

/-- The web address `mailto:x.html`. -/
def mailAddress : Url := { Url.bare "mailto" with path := .plain "x.html" }

/-- A template on the web and the web address `mailto:x.html` that refer to each other. -/
def mailed : Setting where
  source location :=
    if location = .remote hostedPage then .ok "\x7b\x7b mailto:x.html \x7d\x7d"
    else if location = .remote mailAddress then .ok "\x7b\x7b http://h/a.html \x7d\x7d"
    else .error (.unreachable location.display)
  root := ⟨"/t"⟩
  globals := []

private theorem referred_hostedPage :
    referred mailed (.file ⟨"mailto:x.html"⟩) ⟨"http://h/a.html", []⟩ = .remote hostedPage := by
  have hremote : Location.remoteUrl? "http://h/a.html" = some hostedPage := by decide
  rw [referred, Location.resolveTemplate, Location.parent, Location.resolve, hremote]
  rfl

private theorem referred_mailAddress :
    referred mailed (.remote hostedPage) ⟨"mailto:x.html", []⟩ = .remote mailAddress := by
  have hdirectory : Url.join? hostedPage "./" = some hostedDirectory := by decide
  have hjoin : Url.join? hostedDirectory "mailto:x.html" = some mailAddress := by decide
  rw [referred, Location.resolveTemplate, Location.parent, hdirectory, Option.getD_some,
    Location.resolve, hjoin]
  rfl

private theorem referred_from_mailAddress :
    referred mailed (.remote mailAddress) ⟨"http://h/a.html", []⟩ = .remote hostedPage := by
  have hdirectory : Url.join? mailAddress "./" = none := by decide
  have hjoin : Url.join? mailAddress "http://h/a.html" = some hostedPage := by decide
  rw [referred, Location.resolveTemplate, Location.parent, hdirectory, Option.getD_none,
    Location.resolve, hjoin]
  rfl

/-- The file `mailto:x.html` refers to a template on the web, from where its name leads to a web
address with the same text. Both are on the chain, the file in front. -/
theorem compose_two_labels :
    (compose mailed "\x7b\x7b http://h/a.html \x7d\x7d" (.ofText "mailto:x.html")).result =
        .error (.cycle
          ["mailto:x.html", "http://h/a.html", "mailto:x.html", "http://h/a.html"]) ∧
      ¬ ["mailto:x.html", "http://h/a.html", "mailto:x.html"].Nodup ∧
      ∀ name, (Location.ofText "mailto:x.html").canonical.display ≠ placeholderLabel name := by
  have hpage : tokenize "\x7b\x7b http://h/a.html \x7d\x7d" =
      [.reference ⟨"http://h/a.html", []⟩] :=
    tokenize_of_read? (show _ = some (.reference ⟨"http://h/a.html", []⟩, []) by cbv)
  have hmail : tokenize "\x7b\x7b mailto:x.html \x7d\x7d" = [.reference ⟨"mailto:x.html", []⟩] :=
    tokenize_of_read? (show _ = some (.reference ⟨"mailto:x.html", []⟩, []) by cbv)
  have hroot : (Location.ofText "mailto:x.html").canonical = .file ⟨"mailto:x.html"⟩ := by
    rw [Location.ofText, Location.remoteUrl?, if_neg (by decide)]
    rfl
  have hexpands : Expands mailed (.file ⟨"mailto:x.html"⟩) []
      [.template (.file ⟨"mailto:x.html"⟩)] (tokenize "\x7b\x7b http://h/a.html \x7d\x7d")
      ⟨.error (cycleAt [.template (.remote mailAddress), .template (.remote hostedPage),
        .template (.file ⟨"mailto:x.html"⟩)] (.template (.remote hostedPage))),
        [.remote hostedPage, .remote mailAddress]⟩ := by
    refine expands_reference hpage referred_hostedPage (by decide) rfl ?_
    refine expands_reference hmail referred_mailAddress (by decide) rfl ?_
    rw [hpage, ← referred_from_mailAddress]
    exact .templateCycle (by simp)
  refine ⟨?_, by decide, hroot ▸ ne_placeholderLabel (by decide)⟩
  rw [← hroot] at hexpands
  rw [compose_of_expands hexpands]
  decide

end StaticSite.Compose
