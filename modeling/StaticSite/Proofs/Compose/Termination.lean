import StaticSite.Proofs.Compose.Refinement
import StaticSite.Proofs.Marker.Partition

/-!
# Compositions come to an end

Only finitely many texts are ever expanded as a whole: the text of the composition, those of the
templates that have one and the values of all pages. Every placeholder that can be on a path is
spelled in one of them, because parameters hold no braces, and neither a fallback nor a marker for
the page holds the three braces that close a placeholder. So the visits on a path are taken from a
finite set (`visitsFrom`) and are distinct, which bounds the depth of the recursion and of every
stack (`length_le_of_reachable`) and lets every composition come to an end
(`compose_terminates`).
-/

namespace StaticSite.Compose

open Marker

/-- The locations that have a text. -/
def known (setting : Setting) : Set Location :=
  {location | ∃ text, setting.source location = .ok text}

/-- The texts that placeholders can come from: the text of a composition, the texts of templates
and the values of all pages. -/
def textsFrom (setting : Setting) (text : String) : Set String :=
  {s | s = text ∨ (∃ location, setting.source location = .ok s) ∨
    ∃ name value, setting.globals.get? name = some value ∧ value.display = s}

/-- The names of the placeholders in texts. -/
def placeholdersIn (texts : Set String) : Set String :=
  {name | ∃ text ∈ texts, ∃ p, .placeholder p ∈ tokenize text ∧ p.name = name}

/-- The visits that a composition of a text can make. -/
def visitsFrom (setting : Setting) (root : Location) (text : String) : Set Visit :=
  Visit.template '' insert root (known setting) ∪
    Visit.placeholder '' placeholdersIn (textsFrom setting text)

variable {setting : Setting}

/-! ## The visits are finitely many -/

private theorem mem_of_get? {α : Type} {table : Table α} {name : String} {value : α}
    (h : table.get? name = some value) : (name, value) ∈ table := by
  induction table with
  | nil => cases h
  | cons entry rest ih =>
    obtain ⟨n, v⟩ := entry
    rw [Table.get?] at h
    split_ifs at h with hn
    · rw [← hn, ← Option.some.inj h]
      exact List.mem_cons_self
    · exact List.mem_cons_of_mem _ (ih h)

private theorem fields_get?_eq (fields : Fields) (name : String) :
    fields.get? name = Table.get? fields name := by
  induction fields with
  | nil => rfl
  | cons field rest ih => rw [Fields.get?, Table.get?, ih]

theorem finite_textsFrom (h : (known setting).Finite) (text : String) :
    (textsFrom setting text).Finite := by
  have htemplates : {s | ∃ location, setting.source location = .ok s}.Finite := by
    refine (h.image fun location ↦ (setting.source location).toOption.getD "").subset ?_
    rintro s ⟨location, hs⟩
    exact ⟨location, ⟨s, hs⟩, by simp [hs, Except.toOption]⟩
  have hvalues : {s | ∃ name value,
      setting.globals.get? name = some value ∧ value.display = s}.Finite := by
    refine (List.finite_toSet (setting.globals.map fun field ↦ field.2.display)).subset ?_
    rintro s ⟨name, value, hvalue, rfl⟩
    rw [fields_get?_eq] at hvalue
    exact List.mem_map.mpr ⟨_, mem_of_get? hvalue, rfl⟩
  exact (Set.finite_singleton text).union (htemplates.union hvalues)

theorem finite_placeholdersIn {texts : Set String} (h : texts.Finite) :
    (placeholdersIn texts).Finite := by
  have hnames (text : String) :
      {name | ∃ p, .placeholder p ∈ tokenize text ∧ p.name = name}.Finite := by
    refine (List.finite_toSet ((tokenize text).map fun token ↦
      match token with
      | .placeholder p => p.name
      | _ => "")).subset ?_
    rintro name ⟨p, hp, rfl⟩
    exact List.mem_map.mpr ⟨_, hp, rfl⟩
  refine (h.biUnion fun text _ ↦ hnames text).subset ?_
  rintro name ⟨text, htext, hname⟩
  exact Set.mem_biUnion htext hname

section

variable {root : Location} {text : String}

theorem finite_visitsFrom (h : (known setting).Finite) : (visitsFrom setting root text).Finite :=
  ((h.insert root).image _).union ((finite_placeholdersIn (finite_textsFrom h text)).image _)

theorem ncard_visitsFrom_le (h : (known setting).Finite) :
    (visitsFrom setting root text).ncard ≤
      (insert root (known setting)).ncard + (placeholdersIn (textsFrom setting text)).ncard := by
  refine (Set.ncard_union_le _ _).trans (Nat.add_le_add ?_ ?_)
  · exact Set.ncard_image_le (h.insert root)
  · exact Set.ncard_image_le (finite_placeholdersIn (finite_textsFrom h text))

end

private theorem length_le_ncard {α : Type} {s : Set α} (hs : s.Finite) {list : List α}
    (hnodup : list.Nodup) (hmem : ∀ a ∈ list, a ∈ s) : list.length ≤ s.ncard := by
  classical
  rw [← List.toFinset_card_of_nodup hnodup, ← Set.ncard_coe_finset]
  exact Set.ncard_le_ncard (fun a ha ↦ hmem a (by simpa using ha)) hs

/-! ## Tokens that come from the texts -/

/-- What holds of the tokens that are expanded, and of the parameters they have: parameters bring no
markers, and the placeholders are among some that are known. -/
structure Confined (names : Set String) (params : Table String) (tokens : List Token) : Prop where
  params_plain : ∀ name value, params.get? name = some value → IsPlain value.toList
  tokens_wellFormed : ∀ token ∈ tokens, token.WellFormed
  mem_names : ∀ p, .placeholder p ∈ tokens → p.name ∈ names

/-- A marker for the page does not close a placeholder. -/
private theorem not_tripleClosing_isInfix_renderMarker {name : String}
    (h : ∀ c ∈ name.toList, isIdentifierChar c) :
    ¬ tripleClosing <:+: (renderMarker name).toList := by
  intro hocc
  have hname : name.toList.count '\x7d' = 0 :=
    List.count_eq_zero.mpr fun hc ↦ absurd (h _ hc) (by decide)
  have hcount := hocc.sublist.count_le '\x7d'
  simp [renderMarker, hname, tripleClosing] at hcount

namespace Confined

variable {names : Set String} {params : Table String} {tokens : List Token} {token : Token}

theorem tail (h : Confined names params (token :: tokens)) : Confined names params tokens :=
  ⟨h.params_plain, fun t ht ↦ h.tokens_wellFormed t (List.mem_cons_of_mem _ ht),
    fun p hp ↦ h.mem_names p (List.mem_cons_of_mem _ hp)⟩

/-- The tokens of a text without placeholders are confined to any names. -/
theorem of_not_isInfix {text : String}
    (hparams : ∀ name value, params.get? name = some value → IsPlain value.toList)
    (htext : ¬ tripleClosing <:+: text.toList) : Confined names params (tokenize text) :=
  ⟨hparams, fun _ ↦ wellFormed_of_mem_tokenize,
    fun _ hp ↦ absurd (tripleClosing_isInfix_of_mem_tokenize hp) htext⟩

theorem of_mem_textsFrom {text s : String} (hs : s ∈ textsFrom setting text)
    (hparams : ∀ name value, params.get? name = some value → IsPlain value.toList) :
    Confined (placeholdersIn (textsFrom setting text)) params (tokenize s) :=
  ⟨hparams, fun _ ↦ wellFormed_of_mem_tokenize, fun p hp ↦ ⟨s, hs, p, hp, rfl⟩⟩

/-- A composition starts without parameters. -/
theorem root {text : String} :
    Confined (placeholdersIn (textsFrom setting text)) [] (tokenize text) := by
  refine of_mem_textsFrom (.inl rfl) fun name value hvalue ↦ ?_
  cases hvalue

/-- The parameters of a reference bring no markers. -/
theorem params_of_reference {r : Reference} (h : Confined names params (.reference r :: tokens)) :
    ∀ name value, r.params.get? name = some value → IsPlain value.toList := by
  intro name value hvalue
  refine isPlain_of_not_mem fun hbrace ↦ ?_
  have hr : (Token.reference r).WellFormed := h.tokens_wellFormed _ List.mem_cons_self
  exact absurd (hr _ (mem_of_get? hvalue) _ hbrace) (by decide)

/-- The tokens of a value that is expanded are confined as those around it are. -/
theorem value {text : String} {p : Placeholder}
    (h : Confined (placeholdersIn (textsFrom setting text)) params (.placeholder p :: tokens))
    (hvalue : findReference? (valueOf setting.globals params p) ≠ none) :
    Confined (placeholdersIn (textsFrom setting text)) params
      (tokenize (valueOf setting.globals params p)) := by
  obtain ⟨hname, hfallback⟩ := h.tokens_wellFormed _ List.mem_cons_self
  unfold valueOf at hvalue ⊢
  cases hparam : params.get? p.name with
  | some value =>
    rw [hparam] at hvalue
    exact absurd (findReference?_of_isPlain (h.params_plain _ _ hparam)) hvalue
  | none =>
    cases hglobal : setting.globals.get? p.name with
    | some value =>
      exact of_mem_textsFrom (.inr (.inr ⟨_, value, hglobal, rfl⟩)) h.params_plain
    | none =>
      cases hp : p.fallback with
      | some fallback => exact of_not_isInfix h.params_plain (hfallback fallback hp)
      | none =>
        exact of_not_isInfix h.params_plain (not_tripleClosing_isInfix_renderMarker hname)

end Confined

/-! ## Expansions exist -/

/-- The tokens of a text on a path without repetitions have an expansion. -/
theorem exists_expands {root : Location} {text : String} (hknown : (known setting).Finite)
    {location : Location} {params : Table String} {path : List Visit} {tokens : List Token}
    (hnodup : path.Nodup) (hpath : ∀ visit ∈ path, visit ∈ visitsFrom setting root text)
    (htokens : Confined (placeholdersIn (textsFrom setting text)) params tokens) :
    ∃ expansion, Expands setting location params path tokens expansion := by
  -- The induction is on the number of visits that are not on the path, then on the tokens.
  generalize hroom : (visitsFrom setting root text).ncard - path.length = room
  induction room using Nat.strongRecOn generalizing location params path tokens with
  | _ room ih =>
  have henter {visit : Visit} (hvisit : visit ∈ visitsFrom setting root text)
      (hfresh : visit ∉ path) (location : Location) {params : Table String} {tokens : List Token}
      (htokens : Confined (placeholdersIn (textsFrom setting text)) params tokens) :
      ∃ expansion, Expands setting location params (visit :: path) tokens expansion := by
    have hnodup' : (visit :: path).Nodup := List.nodup_cons.mpr ⟨hfresh, hnodup⟩
    have hpath' : ∀ v ∈ visit :: path, v ∈ visitsFrom setting root text :=
      List.forall_mem_cons.mpr ⟨hvisit, hpath⟩
    have hlength := length_le_ncard (finite_visitsFrom hknown) hnodup' hpath'
    rw [List.length_cons] at hlength
    refine ih _ ?_ hnodup' hpath' htokens rfl
    rw [List.length_cons]
    omega
  induction tokens with
  | nil => exact ⟨_, .nil⟩
  | cons token tokens ihtokens =>
    obtain ⟨more, hmore⟩ := ihtokens htokens.tail
    cases token with
    | literal s => exact ⟨_, .literal hmore⟩
    | placeholder p =>
      by_cases hvalue : findReference? (valueOf setting.globals params p) = none
      · exact ⟨_, .value hvalue hmore⟩
      by_cases hcycle : .placeholder p.name ∈ path
      · exact ⟨_, .valueCycle hvalue hcycle⟩
      · have hvisit : .placeholder p.name ∈ visitsFrom setting root text :=
          .inr ⟨p.name, htokens.mem_names p List.mem_cons_self, rfl⟩
        obtain ⟨⟨result, log⟩, hinner⟩ := henter hvisit hcycle location (htokens.value hvalue)
        cases result with
        | error e => exact ⟨_, .valueError hvalue hcycle hinner⟩
        | ok fragments => exact ⟨_, .valueText hvalue hcycle hinner hmore⟩
    | reference r =>
      by_cases hcycle : .template (referred setting location r) ∈ path
      · exact ⟨_, .templateCycle hcycle⟩
      · cases hsource : setting.source (referred setting location r) with
        | error e => exact ⟨_, .fetchError hcycle hsource⟩
        | ok s =>
          have hvisit : .template (referred setting location r) ∈ visitsFrom setting root text :=
            .inl ⟨_, .inr ⟨s, hsource⟩, rfl⟩
          have hinside : Confined (placeholdersIn (textsFrom setting text)) r.params (tokenize s) :=
            .of_mem_textsFrom (.inr (.inl ⟨_, hsource⟩)) htokens.params_of_reference
          obtain ⟨⟨result, log⟩, hinner⟩ :=
            henter hvisit hcycle (referred setting location r) hinside
          cases result with
          | error e => exact ⟨_, .templateError hcycle hsource hinner⟩
          | ok fragments => exact ⟨_, .templateText hcycle hsource hinner hmore⟩

/-! ## Reachable stacks -/

/-- What is said of the frames of a stack that a composition of a text comes to. -/
def Within (setting : Setting) (root : Location) (text : String) (stack : List Frame) : Prop :=
  ∀ frame ∈ stack, frame.visit ∈ visitsFrom setting root text ∧
    Confined (placeholdersIn (textsFrom setting text)) frame.params frame.tokens

section

variable {root : Location} {text : String} {stack next : List Frame}

theorem within_singleton : Within setting root text [Frame.ofTemplate root text []] := by
  intro frame hframe
  rw [List.mem_singleton.mp hframe]
  exact ⟨.inl ⟨root, .inl rfl, rfl⟩, .root⟩

/-- A move enters only texts that are known from the start. -/
theorem Move.within (h : Move setting stack next) (hstack : Within setting root text stack) :
    Within setting root text next := by
  cases h with
  | @literal frame below s tokens htokens =>
    obtain ⟨⟨hvisit, hconfined⟩, hbelow⟩ := List.forall_mem_cons.mp hstack
    rw [htokens] at hconfined
    exact List.forall_mem_cons.mpr ⟨⟨hvisit, hconfined.tail⟩, hbelow⟩
  | @value frame below p tokens htokens _ =>
    obtain ⟨⟨hvisit, hconfined⟩, hbelow⟩ := List.forall_mem_cons.mp hstack
    rw [htokens] at hconfined
    exact List.forall_mem_cons.mpr ⟨⟨hvisit, hconfined.tail⟩, hbelow⟩
  | @enterValue frame below p tokens htokens hvalue _ =>
    obtain ⟨⟨hvisit, hconfined⟩, hbelow⟩ := List.forall_mem_cons.mp hstack
    rw [htokens] at hconfined
    rw [substitute_eq_valueOf] at hvalue ⊢
    refine List.forall_mem_cons.mpr ⟨⟨.inr ⟨p.name, ?_, rfl⟩, hconfined.value hvalue⟩,
      List.forall_mem_cons.mpr ⟨⟨hvisit, hconfined.tail⟩, hbelow⟩⟩
    exact hconfined.mem_names p List.mem_cons_self
  | @enterTemplate frame below r tokens s htokens _ hsource =>
    obtain ⟨⟨hvisit, hconfined⟩, hbelow⟩ := List.forall_mem_cons.mp hstack
    rw [htokens] at hconfined
    refine List.forall_mem_cons.mpr ⟨⟨.inl ⟨_, .inr ⟨s, hsource⟩, rfl⟩, ?_⟩,
      List.forall_mem_cons.mpr ⟨⟨hvisit, hconfined.tail⟩, hbelow⟩⟩
    exact .of_mem_textsFrom (.inr (.inl ⟨_, hsource⟩)) hconfined.params_of_reference
  | @leave frame below rest _ =>
    obtain ⟨-, hstack⟩ := List.forall_mem_cons.mp hstack
    obtain ⟨hnext, hbelow⟩ := List.forall_mem_cons.mp hstack
    exact List.forall_mem_cons.mpr ⟨hnext, hbelow⟩

theorem within_of_reachable (h : Reachable setting [Frame.ofTemplate root text []] stack) :
    Within setting root text stack := by
  induction h with
  | refl => exact within_singleton
  | tail _ hstep ih => exact (move_of_leadsTo hstep).within ih

/-- The depth of a stack is at most the number of locations and of placeholders. -/
theorem length_le_of_reachable (hknown : (known setting).Finite)
    (h : Reachable setting [Frame.ofTemplate root text []] stack) :
    stack.length ≤
      (insert root (known setting)).ncard + (placeholdersIn (textsFrom setting text)).ncard := by
  have hnodup := (wellFormed_of_reachable h (wellFormed_singleton root text [])).nodup
  have hvisits : ∀ visit ∈ pathOf stack, visit ∈ visitsFrom setting root text := by
    intro visit hvisit
    obtain ⟨frame, hframe, rfl⟩ := List.mem_map.mp hvisit
    exact (within_of_reachable h frame hframe).1
  calc stack.length = (pathOf stack).length := (List.length_map _).symm
    _ ≤ (visitsFrom setting root text).ncard :=
      length_le_ncard (finite_visitsFrom hknown) hnodup hvisits
    _ ≤ _ := ncard_visitsFrom_le hknown

/-- The templates on a stack have different locations. -/
theorem WellFormed.pairwise_location (h : WellFormed stack) :
    stack.Pairwise fun f g ↦
      f.placeholder = none → g.placeholder = none → f.location ≠ g.location := by
  refine (List.pairwise_map.mp h.nodup).imp fun {f g} hne hf hg hlocation ↦ hne ?_
  rw [Frame.visit, Frame.visit, hf, hg, hlocation]

/-- The values on a stack have placeholders with different names. -/
theorem WellFormed.pairwise_placeholder (h : WellFormed stack) :
    stack.Pairwise fun f g ↦ f.placeholder ≠ none → f.placeholder ≠ g.placeholder := by
  refine (List.pairwise_map.mp h.nodup).imp fun {f g} hne hf hname ↦ hne ?_
  obtain ⟨name, hf⟩ := Option.ne_none_iff_exists'.mp hf
  rw [Frame.visit, Frame.visit, ← hname, hf]

end

/-! ## Results -/

/-- A step never finds a composition to be endless. -/
theorem ne_endless_of_step {stack : List Frame} {result : Except ComposeError String}
    {location : Option Location} (h : step setting stack = (.finished result, location)) :
    result ≠ .error .endless := by
  rcases stack with _ | ⟨⟨base, tokens, params, output, name⟩, below⟩
  · obtain ⟨rfl, -⟩ : Except.ok "" = result ∧ _ := by simpa [step] using h
    simp
  rcases tokens with _ | ⟨token, tokens⟩
  · cases below <;> simp [step, append] at h
    simp [← h.1]
  cases token with
  | literal text => simp [step, append] at h
  | placeholder p =>
    simp only [step, append] at h
    split_ifs at h with hvalue hcycle
    · simp at h
    · obtain ⟨rfl, -⟩ : Except.error (.cycle _) = result ∧ _ := by simpa using h
      simp
    · simp at h
  | reference r =>
    simp only [step] at h
    split_ifs at h with hcycle
    · obtain ⟨rfl, -⟩ : Except.error (.cycle _) = result ∧ _ := by simpa using h
      simp
    · split at h
      · obtain ⟨rfl, -⟩ : Except.error (.fetch _) = result ∧ _ := by simpa using h
        simp
      · simp at h

theorem ne_endless_of_runFor {n : ℕ} {stack : List Frame} {fetched : List Location}
    {composed : Composed} (h : runFor setting n stack fetched = some composed) :
    composed.result ≠ .error .endless := by
  induction n generalizing stack fetched with
  | zero => cases h
  | succ n ih =>
    rw [runFor] at h
    split at h
    · next hstep =>
      rw [← Option.some.inj h]
      exact ne_endless_of_step hstep
    · exact ih h

/-- With finitely many templates every composition comes to an end. -/
theorem compose_terminates (hknown : (known setting).Finite) (text : String)
    (location : Location) :
    (∃ n composed,
      runFor setting n [.ofTemplate location.canonical text []] [] = some composed ∧
      compose setting text location = composed ∧
      ((∃ output, composed.result = .ok output) ∨ (∃ e, composed.result = .error (.fetch e)) ∨
        ∃ chain, composed.result = .error (.cycle chain))) ∧
    ∀ stack, Reachable setting [.ofTemplate location.canonical text []] stack →
      (stack.Pairwise fun f g ↦
        f.placeholder = none → g.placeholder = none → f.location ≠ g.location) ∧
      (stack.Pairwise fun f g ↦ f.placeholder ≠ none → f.placeholder ≠ g.placeholder) ∧
      stack.length ≤ (insert location.canonical (known setting)).ncard +
        (placeholdersIn (textsFrom setting text)).ncard := by
  constructor
  · have hpath : ∀ visit ∈ [Visit.template location.canonical],
        visit ∈ visitsFrom setting location.canonical text :=
      List.forall_mem_singleton.mpr (.inl ⟨_, .inl rfl, rfl⟩)
    obtain ⟨expansion, hexpansion⟩ :=
      exists_expands hknown (List.nodup_singleton _) hpath .root
    have hrun : run setting [.ofTemplate location.canonical text []] [] =
        some expansion.toComposed :=
      run_eq_some_iff_expands.mpr ⟨expansion, hexpansion, rfl⟩
    obtain ⟨n, hn⟩ := run_eq_some_iff.mp hrun
    refine ⟨n, expansion.toComposed, hn, by rw [compose, compose?, hrun, Option.getD_some], ?_⟩
    have hne := ne_endless_of_runFor hn
    cases hresult : expansion.toComposed.result with
    | ok output => exact .inl ⟨output, rfl⟩
    | error e =>
      rw [hresult] at hne
      cases e with
      | fetch e => exact .inr (.inl ⟨e, rfl⟩)
      | cycle chain => exact .inr (.inr ⟨chain, rfl⟩)
      | endless => exact absurd rfl hne
  · intro stack h
    have hstack := wellFormed_of_reachable h (wellFormed_singleton _ text [])
    exact ⟨hstack.pairwise_location, hstack.pairwise_placeholder, length_le_of_reachable hknown h⟩

/-- A single template that refers to itself. -/
def selfReferring : Setting where
  source location :=
    if location = .file ⟨"/t/a.html"⟩ then .ok "\x7b\x7b a \x7d\x7d"
    else .error (.unreachable location.display)
  root := ⟨"/t"⟩
  globals := []

theorem compose_terminates_selfReferring :
    (known selfReferring).Finite ∧ ∃ n composed,
      runFor selfReferring n
        [.ofTemplate (Location.file ⟨"/t/a.html"⟩).canonical "\x7b\x7b a \x7d\x7d" []] [] =
        some composed := by
  have hknown : (known selfReferring).Finite := by
    refine (Set.finite_singleton (Location.file ⟨"/t/a.html"⟩)).subset ?_
    rintro location ⟨text, htext⟩
    by_contra hne
    simp [selfReferring, show location ≠ .file ⟨"/t/a.html"⟩ from hne] at htext
  obtain ⟨⟨n, composed, hrun, -⟩, -⟩ :=
    compose_terminates hknown "\x7b\x7b a \x7d\x7d" (.file ⟨"/t/a.html"⟩)
  exact ⟨hknown, n, composed, hrun⟩

end StaticSite.Compose
