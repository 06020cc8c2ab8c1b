import StaticSite.Proofs.Layout.Identity

/-!
# What rendering leaves alone

Expressions do not set variables, and the variables of a loop are gone after it. So a variable that
a part of a layout never assigns has the same value behind that part as before it
(`spares_renderAll`). A part that holds no end of a loop outside of loops is rendered to its end
(`done_of_renderAll`).
-/

namespace StaticSite.Layout

/-- A variable has the same values at two times. -/
structure Keeps (name : String) (before after : Scopes) : Prop where
  page_eq : after.page = before.page
  own_eq : after.own.get? name = before.own.get? name
  loops_eq : after.loops.map (·.get? name) = before.loops.map (·.get? name)

namespace Keeps

variable {name : String} {first second third : Scopes}

theorem refl (scopes : Scopes) : Keeps name scopes scopes := ⟨rfl, rfl, rfl⟩

theorem trans (h : Keeps name first second) (h' : Keeps name second third) :
    Keeps name first third :=
  ⟨h'.page_eq.trans h.page_eq, h'.own_eq.trans h.own_eq, h'.loops_eq.trans h.loops_eq⟩

/-- The variable is found at the same value. -/
theorem get?_eq (h : Keeps name first second) : second.get? name = first.get? name := by
  have hfind (scopes : Scopes) : scopes.get? name =
      (scopes.loops.map (Fields.get? · name) ++
        [scopes.own.get? name, scopes.page.get? name]).findSome? id := by
    rw [Scopes.get?, List.findSome?_append, List.findSome?_append, List.findSome?_map]
    rfl
  rw [hfind, hfind, h.page_eq, h.own_eq, h.loops_eq]

end Keeps

/-- Work that leaves the values of a variable as they are. -/
def Spares (name : String) {α : Type} (part : Eval α) : Prop :=
  ∀ scopes a scopes', part scopes = .ok (a, scopes') → Keeps name scopes scopes'

namespace Spares

variable {name : String} {α β : Type} {part : Eval α} {next : α → Eval β}

theorem pure (a : α) : Spares name (pure a) := by
  rintro scopes b scopes' h
  cases h
  exact .refl scopes

theorem fail (fault : Fault) : Spares name (Eval.fail fault : Eval α) := by
  rintro scopes b scopes' h
  cases h

theorem get : Spares name (get : Eval Scopes) := by
  rintro scopes b scopes' h
  cases h
  exact .refl scopes

theorem modify {f : Scopes → Scopes} (h : ∀ scopes, Keeps name scopes (f scopes)) :
    Spares name (modify f : Eval Unit) := by
  rintro scopes b scopes' heq
  cases heq
  exact h scopes

theorem bind (h : Spares name part) (hnext : ∀ a, Spares name (next a)) :
    Spares name (part >>= next) := by
  rintro scopes b scopes' heq
  obtain ⟨a, middle, hpart, heq⟩ := exists_of_bind_eq_ok heq
  exact (h scopes a middle hpart).trans (hnext a middle b scopes' heq)

theorem demand (a : Option α) : Spares name (Eval.demand a) := by
  cases a with
  | none => exact fail _
  | some a => exact pure a

theorem attempt (h : Spares name part) : Spares name (Eval.attempt part) := by
  rintro scopes b scopes' heq
  rw [Eval.attempt] at heq
  split at heq
  · next hpart =>
    cases heq
    exact h _ _ _ hpart
  · cases heq
    exact .refl scopes

theorem mapM {γ : Type} {f : γ → Eval α} (h : ∀ c, Spares name (f c)) (list : List γ) :
    Spares name (list.mapM f) := by
  induction list with
  | nil => exact pure _
  | cons c list ih =>
    rw [List.mapM_cons]
    exact (h c).bind fun a ↦ ih.bind fun as ↦ pure _

end Spares

/-! ## Expressions -/

variable {name : String}

theorem spares_lookup (path : List Access) : Spares name (lookup path) := by
  refine Spares.get.bind fun scopes ↦ ?_
  split
  · exact .pure _
  · exact .fail _

theorem spares_calculate (op : Operator) (a b : Value) : Spares name (calculate op a b) := by
  have hfloats (f : Float → Float → Float) : Spares name (do
      let x := f (← Eval.demand (asFloat? a)) (← Eval.demand (asFloat? b))
      return if x.isFinite then some (Value.float x) else none) :=
    (Spares.demand _).bind fun _ ↦ (Spares.demand _).bind fun _ ↦ .pure _
  have hwhole (f : Int → Int → Int) (i j : Int) : Spares name (do
      return some (← Eval.demand (wholeResult? i j (f i j)))) :=
    (Spares.demand _).bind fun _ ↦ .pure _
  unfold calculate
  dsimp only
  split
  all_goals try split
  all_goals first
    | exact hfloats _
    | exact hwhole _ _ _
    | exact .fail _
    | exact .pure _

/-- Reading an expression leaves variables alone, with all that it reads on the way. -/
structure SparesReading (name : String) (fuel : Nat) : Prop where
  evaluate : ∀ e, Spares name (evaluate fuel e)
  evaluateAll : ∀ es, Spares name (evaluateAll fuel es)
  evaluateArgs : ∀ args, Spares name (evaluateArgs fuel args)
  evaluateNumber : ∀ e, Spares name (evaluateNumber fuel e)
  applyFilters : ∀ filters v, Spares name (applyFilters fuel filters v)
  isTrue : ∀ e, Spares name (isTrue fuel e)

namespace SparesReading

variable {fuel : Nat}

private theorem evaluate_succ (h : SparesReading name fuel) (e : Expr) :
    Spares name (Layout.evaluate (fuel + 1) e) := by
  rw [evaluate.eq_def]
  cases e with
  | literal v => exact .pure _
  | ident path => exact spares_lookup path
  | array items => exact (h.evaluateAll _).bind fun _ ↦ .pure _
  | concat items =>
    refine (h.evaluateAll _).bind fun _ ↦ .bind (.mapM (fun v ↦ ?_) _) fun _ ↦ .pure _
    split <;> first | exact .pure _ | exact .fail _
  | call f args => exact (h.evaluateArgs _).bind fun _ ↦ .demand _
  | macroCall f args => exact .fail _
  | test path negated f args =>
    exact (h.evaluateAll _).bind fun _ ↦ Spares.get.bind fun _ ↦ (Spares.demand _).bind fun _ ↦
      .pure _
  | binary op left right =>
    dsimp only
    split
    · exact (h.evaluateNumber _).bind fun _ ↦ .pure _
    · exact (h.isTrue _).bind fun _ ↦ .pure _
  | inside negated item container => exact (h.isTrue _).bind fun _ ↦ .pure _
  | filtered inner filters =>
    have husual (args : List (String × Expr)) : Spares name (do
        let start ← Layout.evaluate fuel (← Eval.demand (args.lookup "value"))
        Layout.applyFilters fuel filters start) :=
      (Spares.demand _).bind fun _ ↦ (h.evaluate _).bind fun _ ↦ h.applyFilters _ _
    dsimp only
    split
    · refine (h.evaluate _).attempt.bind fun v ↦ ?_
      split
      · exact husual _
      · exact husual _
      · exact (Spares.pure _).bind fun _ ↦ h.applyFilters _ _
    · exact (h.evaluate _).bind fun _ ↦ h.applyFilters _ _
  | negation inner => exact (h.isTrue _).bind fun _ ↦ .pure _

private theorem evaluateAll_succ (h : SparesReading name fuel) (es : List Expr) :
    Spares name (Layout.evaluateAll (fuel + 1) es) := by
  rw [evaluateAll.eq_def]
  cases es with
  | nil => exact .pure _
  | cons e rest => exact (h.evaluate _).bind fun _ ↦ (h.evaluateAll _).bind fun _ ↦ .pure _

private theorem evaluateArgs_succ (h : SparesReading name fuel) (args : List (String × Expr)) :
    Spares name (Layout.evaluateArgs (fuel + 1) args) := by
  rw [evaluateArgs.eq_def]
  cases args with
  | nil => exact .pure _
  | cons arg rest => exact (h.evaluate _).bind fun _ ↦ (h.evaluateArgs _).bind fun _ ↦ .pure _

private theorem operation (h : SparesReading name fuel) (op : Operator) (left right : Expr) :
    Spares name (do
      let a ← Layout.evaluateNumber fuel left
      let b ← Layout.evaluateNumber fuel right
      match a, b with
      | some a, some b => calculate op a b
      | _, _ => return none) := by
  refine (h.evaluateNumber _).bind fun a ↦ (h.evaluateNumber _).bind fun b ↦ ?_
  split
  · exact spares_calculate op _ _
  · exact .pure _

private theorem evaluateNumber_succ (h : SparesReading name fuel) (e : Expr) :
    Spares name (Layout.evaluateNumber (fuel + 1) e) := by
  rw [evaluateNumber.eq_def]
  dsimp only
  split
  · next op left right =>
    split
    · exact (Spares.fail _).bind fun _ ↦ h.operation op left right
    · exact h.operation op left right
  · refine (h.evaluate _).bind fun v ↦ ?_
    split
    · exact (Spares.fail _).bind fun _ ↦ .pure _
    · exact .pure _

private theorem applyFilters_succ (h : SparesReading name fuel)
    (filters : List (String × List (String × Expr))) (v : Value) :
    Spares name (Layout.applyFilters (fuel + 1) filters v) := by
  rw [applyFilters.eq_def]
  cases filters with
  | nil => exact .pure _
  | cons filter rest =>
    dsimp only
    split
    · exact h.applyFilters _ _
    · split
      · exact .fail _
      · exact (h.evaluateArgs _).bind fun _ ↦ (Spares.demand _).bind fun _ ↦ h.applyFilters _ _

private theorem isTrue_succ (h : SparesReading name fuel) (e : Expr) :
    Spares name (Layout.isTrue (fuel + 1) e) := by
  have htry (e : Expr) : Spares name (do
      return ((← Eval.attempt (Layout.evaluate fuel e)).map isTruthy).getD false) :=
    (h.evaluate _).attempt.bind fun _ ↦ .pure _
  rw [isTrue.eq_def]
  dsimp only
  split
  · refine (h.isTrue _).bind fun b ↦ ?_
    split
    · exact h.isTrue _
    · exact .pure _
  · refine (h.isTrue _).bind fun b ↦ ?_
    split
    · exact .pure _
    · exact h.isTrue _
  · exact (h.evaluate _).bind fun _ ↦ (h.evaluate _).bind fun _ ↦ .pure _
  · exact (h.evaluate _).bind fun _ ↦ (h.evaluate _).bind fun _ ↦ .pure _
  · split
    · exact (h.evaluateNumber _).bind fun _ ↦ .pure _
    · exact (h.evaluateNumber _).bind fun _ ↦ (h.evaluateNumber _).bind fun _ ↦
        (Spares.demand _).bind fun _ ↦ (Spares.demand _).bind fun _ ↦ .pure _
  · exact (h.evaluate _).bind fun _ ↦ (h.evaluate _).bind fun _ ↦ (Spares.demand _).bind fun _ ↦
      .pure _
  · exact (h.isTrue _).bind fun _ ↦ .pure _
  · exact htry _
  · exact htry _
  · refine (h.evaluate _).bind fun v ↦ ?_
    split
    · exact .pure _
    · exact .fail _
  · split
    · exact htry _
    · exact (h.evaluate _).bind fun _ ↦ .pure _
    · exact h.isTrue _
  · exact (h.evaluate _).bind fun _ ↦ .pure _

end SparesReading

/-- Expressions set no variables. -/
theorem sparesReading (name : String) (fuel : Nat) : SparesReading name fuel := by
  induction fuel with
  | zero =>
    constructor
    all_goals intros
    all_goals exact .fail _
  | succ fuel ih =>
    exact ⟨ih.evaluate_succ, ih.evaluateAll_succ, ih.evaluateArgs_succ, ih.evaluateNumber_succ,
      ih.applyFilters_succ, ih.isTrue_succ⟩

/-! ## Parts of a layout -/

mutual

/-- Whether a part assigns a variable. -/
def Node.assigns (name : String) : Node → Bool
  | .assign _ other _ => other == name
  | .branch cases otherwise => casesAssign name cases || nodesAssign name otherwise
  | .loop _ _ _ body otherwise => nodesAssign name body || nodesAssign name otherwise
  | .filterSection _ _ body => nodesAssign name body
  | .block _ body => nodesAssign name body
  | _ => false

/-- Whether one of some parts assigns a variable. -/
def nodesAssign (name : String) : List Node → Bool
  | [] => false
  | node :: rest => node.assigns name || nodesAssign name rest

/-- Whether one of some bodies assigns a variable. -/
def casesAssign (name : String) : List (Expr × List Node) → Bool
  | [] => false
  | (_, body) :: rest => nodesAssign name body || casesAssign name rest

end

mutual

/-- Whether a part may end the loop around it, or its turn in it. -/
def Node.exits : Node → Bool
  | .branch cases otherwise => casesExit cases || nodesExit otherwise
  | .loop _ _ _ _ otherwise => nodesExit otherwise
  | .filterSection _ _ body => nodesExit body
  | .block _ body => nodesExit body
  | .leave | .next => true
  | _ => false

/-- Whether one of some parts may end the loop around it. -/
def nodesExit : List Node → Bool
  | [] => false
  | node :: rest => node.exits || nodesExit rest

/-- Whether one of some bodies may end the loop around it. -/
def casesExit : List (Expr × List Node) → Bool
  | [] => false
  | (_, body) :: rest => nodesExit body || casesExit rest

end

/-- Rendering leaves a variable alone that the parts do not assign. -/
structure SparesRendering (name : String) (fuel : Nat) : Prop where
  renderAll : ∀ nodes, nodesAssign name nodes = false → Spares name (renderAll fuel nodes)
  renderBranch : ∀ cases otherwise, casesAssign name cases = false →
    nodesAssign name otherwise = false → Spares name (renderBranch fuel cases otherwise)
  renderItems : ∀ key item body index count items, nodesAssign name body = false →
    Spares name (renderItems fuel key item body index count items)
  renderNode : ∀ node : Node, node.assigns name = false → Spares name (renderNode fuel node)

theorem Keeps.assign {other : String} (hother : other ≠ name) (everywhere : Bool) (v : Value)
    (scopes : Scopes) : Keeps name scopes (scopes.assign everywhere other v) := by
  rw [Scopes.assign.eq_def]
  split
  · next inner outer hloops =>
    refine ⟨rfl, rfl, ?_⟩
    simp [hloops, hother]
  · exact ⟨rfl, by simp [hother], rfl⟩

/-- The variables of a loop are gone at its end, so that it spares even a variable of its own. -/
theorem spares_within {α β : Type} {part : Eval α} {next : α → Eval β} (h : Spares name part)
    (scope : Fields) (hnext : ∀ a, Spares name (next a)) :
    Spares name (do
      modify fun scopes : Scopes ↦ { scopes with loops := scope :: scopes.loops }
      let a ← part
      modify fun scopes : Scopes ↦ { scopes with loops := scopes.loops.drop 1 }
      next a) := by
  rintro scopes b scopes' heq
  obtain ⟨_, pushed, hpush, heq⟩ := exists_of_bind_eq_ok heq
  cases hpush
  obtain ⟨a, middle, hpart, heq⟩ := exists_of_bind_eq_ok heq
  have hinner := h _ _ _ hpart
  have hloops := congrArg (List.drop 1) hinner.loops_eq
  have hafter : Keeps name scopes { middle with loops := middle.loops.drop 1 } :=
    ⟨hinner.page_eq, hinner.own_eq, by simpa using hloops⟩
  exact hafter.trans (hnext a _ _ _ heq)

namespace SparesRendering

variable {fuel : Nat}

private theorem renderAll_succ (h : SparesRendering name fuel) (nodes : List Node)
    (hnodes : nodesAssign name nodes = false) : Spares name (Layout.renderAll (fuel + 1) nodes) := by
  rw [renderAll.eq_def]
  cases nodes with
  | nil => exact .pure _
  | cons node rest =>
    rw [nodesAssign, Bool.or_eq_false_iff] at hnodes
    refine (h.renderNode node hnodes.1).bind fun result ↦ ?_
    dsimp only
    split
    · exact (h.renderAll rest hnodes.2).bind fun _ ↦ .pure _
    · exact .pure _

private theorem renderBranch_succ (h : SparesRendering name fuel) (cases : List (Expr × List Node))
    (otherwise : List Node) (hcases : casesAssign name cases = false)
    (hotherwise : nodesAssign name otherwise = false) :
    Spares name (Layout.renderBranch (fuel + 1) cases otherwise) := by
  rw [renderBranch.eq_def]
  cases cases with
  | nil => exact h.renderAll otherwise hotherwise
  | cons first rest =>
    rw [casesAssign, Bool.or_eq_false_iff] at hcases
    refine ((sparesReading name fuel).isTrue _).bind fun b ↦ ?_
    split
    · exact h.renderAll _ hcases.1
    · exact h.renderBranch _ _ hcases.2 hotherwise

private theorem renderItems_succ (h : SparesRendering name fuel) (key : Option String)
    (item : String) (body : List Node) (index count : Nat) (items : List (String × Value))
    (hbody : nodesAssign name body = false) :
    Spares name (Layout.renderItems (fuel + 1) key item body index count items) := by
  rw [renderItems.eq_def]
  cases items with
  | nil => exact .pure _
  | cons first rest =>
    refine spares_within (h.renderAll body hbody) _ fun result ↦ ?_
    split
    · exact .pure _
    · exact (h.renderItems _ _ _ _ _ _ hbody).bind fun _ ↦ .pure _

private theorem renderNode_succ (h : SparesRendering name fuel) (node : Node)
    (hnode : node.assigns name = false) : Spares name (Layout.renderNode (fuel + 1) node) := by
  rw [renderNode.eq_def]
  cases node with
  | text chars => exact .pure _
  | verbatim chars => exact .pure _
  | value e => exact ((sparesReading name fuel).evaluate e).bind fun _ ↦ .pure _
  | assign everywhere other e =>
    have hother : other ≠ name := by simpa [Node.assigns] using hnode
    refine ((sparesReading name fuel).evaluate e).bind fun v ↦ ?_
    exact (Spares.modify (Keeps.assign hother everywhere v)).bind fun _ ↦ .pure _
  | embed names optional =>
    dsimp only
    split
    · exact .pure _
    · exact .fail _
  | branch cases otherwise =>
    rw [Node.assigns, Bool.or_eq_false_iff] at hnode
    exact h.renderBranch _ _ hnode.1 hnode.2
  | loop key item container body otherwise =>
    rw [Node.assigns, Bool.or_eq_false_iff] at hnode
    have hitems : Spares name (do
        let items ← Eval.demand (loopItems? key.isSome (← evaluate fuel container))
        if items.isEmpty then Layout.renderAll fuel otherwise
        else return (← Layout.renderItems fuel key item body 0 items.length items, .done)) := by
      refine ((sparesReading name fuel).evaluate _).bind fun _ ↦ (Spares.demand _).bind fun _ ↦ ?_
      split
      · exact h.renderAll _ hnode.2
      · exact (h.renderItems _ _ _ _ _ _ hnode.1).bind fun _ ↦ .pure _
    dsimp only
    split
    · exact (Spares.fail _).bind fun _ ↦ hitems
    · exact hitems
  | filterSection f args body =>
    exact (h.renderAll body hnode).bind fun _ ↦
      ((sparesReading name fuel).applyFilters _ _).bind fun _ ↦ .pure _
  | block label body => exact h.renderAll body hnode
  | define f params body => exact .fail _
  | leave => exact .pure _
  | next => exact .pure _

end SparesRendering

theorem sparesRendering (name : String) (fuel : Nat) : SparesRendering name fuel := by
  induction fuel with
  | zero =>
    constructor
    all_goals intros
    all_goals exact .fail _
  | succ fuel ih =>
    exact ⟨ih.renderAll_succ, ih.renderBranch_succ, ih.renderItems_succ, ih.renderNode_succ⟩

/-! ## The ends of parts -/

/-- Rendering that comes to the end of what it renders, if it succeeds. -/
def RunsThrough (part : Eval (List Char × Ending)) : Prop :=
  ∀ scopes text ending scopes', part scopes = .ok ((text, ending), scopes') → ending = .done

namespace RunsThrough

variable {α : Type} {part : Eval α}

theorem pure (text : List Char) : RunsThrough (pure (text, .done)) := by
  rintro scopes text ending scopes' h
  cases h
  rfl

theorem fail (fault : Fault) : RunsThrough (Eval.fail fault) := by
  rintro scopes text ending scopes' h
  cases h

theorem bind {next : α → Eval (List Char × Ending)} (h : ∀ a, RunsThrough (next a)) :
    RunsThrough (part >>= next) := by
  rintro scopes text ending scopes' heq
  obtain ⟨a, middle, -, heq⟩ := exists_of_bind_eq_ok heq
  exact h a _ _ _ _ heq

/-- What follows on a part that comes to its end need not heed its other endings. -/
theorem bind_done {part : Eval (List Char × Ending)}
    {next : List Char × Ending → Eval (List Char × Ending)} (hpart : RunsThrough part)
    (h : ∀ text, RunsThrough (next (text, .done))) : RunsThrough (part >>= next) := by
  rintro scopes text ending scopes' heq
  obtain ⟨⟨first, firstEnding⟩, middle, hfirst, heq⟩ := exists_of_bind_eq_ok heq
  obtain rfl := hpart _ _ _ _ hfirst
  exact h first _ _ _ _ heq

end RunsThrough

/-- Parts that end no loop around them are rendered to their end. -/
structure RendersThrough (fuel : Nat) : Prop where
  renderAll : ∀ nodes, nodesExit nodes = false → RunsThrough (renderAll fuel nodes)
  renderBranch : ∀ cases otherwise, casesExit cases = false → nodesExit otherwise = false →
    RunsThrough (renderBranch fuel cases otherwise)
  renderNode : ∀ node : Node, node.exits = false → RunsThrough (renderNode fuel node)

namespace RendersThrough

variable {fuel : Nat}

private theorem renderAll_succ (h : RendersThrough fuel) (nodes : List Node)
    (hnodes : nodesExit nodes = false) : RunsThrough (Layout.renderAll (fuel + 1) nodes) := by
  rw [renderAll.eq_def]
  cases nodes with
  | nil => exact .pure _
  | cons node rest =>
    rw [nodesExit, Bool.or_eq_false_iff] at hnodes
    exact (h.renderNode node hnodes.1).bind_done fun _ ↦
      (h.renderAll rest hnodes.2).bind_done fun _ ↦ .pure _

private theorem renderBranch_succ (h : RendersThrough fuel) (cases : List (Expr × List Node))
    (otherwise : List Node) (hcases : casesExit cases = false)
    (hotherwise : nodesExit otherwise = false) :
    RunsThrough (Layout.renderBranch (fuel + 1) cases otherwise) := by
  rw [renderBranch.eq_def]
  cases cases with
  | nil => exact h.renderAll otherwise hotherwise
  | cons first rest =>
    rw [casesExit, Bool.or_eq_false_iff] at hcases
    refine RunsThrough.bind fun b ↦ ?_
    split
    · exact h.renderAll _ hcases.1
    · exact h.renderBranch _ _ hcases.2 hotherwise

private theorem renderNode_succ (h : RendersThrough fuel) (node : Node)
    (hnode : node.exits = false) : RunsThrough (Layout.renderNode (fuel + 1) node) := by
  rw [renderNode.eq_def]
  cases node with
  | text chars => exact .pure _
  | verbatim chars => exact .pure _
  | value e => exact .bind fun _ ↦ .pure _
  | assign everywhere other e => exact .bind fun _ ↦ .bind fun _ ↦ .pure _
  | embed names optional =>
    dsimp only
    split
    · exact .pure _
    · exact .fail _
  | branch cases otherwise =>
    rw [Node.exits, Bool.or_eq_false_iff] at hnode
    exact h.renderBranch _ _ hnode.1 hnode.2
  | loop key item container body otherwise =>
    have hitems : RunsThrough (do
        let items ← Eval.demand (loopItems? key.isSome (← evaluate fuel container))
        if items.isEmpty then Layout.renderAll fuel otherwise
        else return (← Layout.renderItems fuel key item body 0 items.length items, .done)) := by
      refine .bind fun _ ↦ .bind fun _ ↦ ?_
      split
      · exact h.renderAll _ hnode
      · exact .bind fun _ ↦ .pure _
    dsimp only
    split
    · exact .bind fun _ ↦ hitems
    · exact hitems
  | filterSection f args body =>
    exact (h.renderAll body hnode).bind_done fun _ ↦ .bind fun _ ↦ .pure _
  | block label body => exact h.renderAll body hnode
  | define f params body => exact .fail _
  | leave => cases hnode
  | next => cases hnode

end RendersThrough

theorem rendersThrough (fuel : Nat) : RendersThrough fuel := by
  induction fuel with
  | zero =>
    constructor
    all_goals intros
    all_goals exact .fail _
  | succ fuel ih => exact ⟨ih.renderAll_succ, ih.renderBranch_succ, ih.renderNode_succ⟩

/-! ## Parts one after another -/

/-- The first part is rendered first, and its text stands in front. -/
theorem exists_of_renderAll_cons {fuel : Nat} {node : Node} {rest : List Node}
    {scopes scopes' : Scopes} {text : List Char} {ending : Ending}
    (h : renderAll fuel (node :: rest) scopes = .ok ((text, ending), scopes')) :
    ∃ k first firstEnding middle, fuel = k + 1 ∧
      renderNode k node scopes = .ok ((first, firstEnding), middle) ∧ first <+: text ∧
      (firstEnding = .done → ∃ more, text = first ++ more ∧
        renderAll k rest middle = .ok ((more, ending), scopes')) := by
  cases fuel with
  | zero => cases h
  | succ k =>
    rw [renderAll] at h
    obtain ⟨⟨first, firstEnding⟩, middle, hfirst, h⟩ := exists_of_bind_eq_ok h
    refine ⟨k, first, firstEnding, middle, rfl, hfirst, ?_⟩
    cases firstEnding with
    | done =>
      obtain ⟨⟨more, moreEnding⟩, after, hmore, h⟩ := exists_of_bind_eq_ok h
      cases h
      exact ⟨List.prefix_append _ _, fun _ ↦ ⟨more, rfl, hmore⟩⟩
    | leave =>
      cases h
      exact ⟨List.prefix_refl _, by simp⟩
    | next =>
      cases h
      exact ⟨List.prefix_refl _, by simp⟩

/-- A part is rendered with the variables that the parts in front of it have left, unless one of them
ends a loop around them, and its text is put in. -/
theorem exists_of_renderAll {name : String} {fuel : Nat} {front back : List Node} {node : Node}
    {scopes scopes' : Scopes} {text : List Char} {ending : Ending}
    (h : renderAll fuel (front ++ node :: back) scopes = .ok ((text, ending), scopes'))
    (hassign : nodesAssign name front = false) (hexit : nodesExit front = false) :
    ∃ k middle part partEnding after, Keeps name scopes middle ∧
      renderNode k node middle = .ok ((part, partEnding), after) ∧ part <:+: text := by
  induction front generalizing fuel scopes text with
  | nil =>
    obtain ⟨k, part, partEnding, after, -, hpart, hprefix, -⟩ := exists_of_renderAll_cons h
    exact ⟨k, scopes, part, partEnding, after, .refl scopes, hpart, hprefix.isInfix⟩
  | cons first front ih =>
    rw [nodesAssign, Bool.or_eq_false_iff] at hassign
    rw [nodesExit, Bool.or_eq_false_iff] at hexit
    obtain ⟨k, written, firstEnding, middle, -, hfirst, -, hrest⟩ := exists_of_renderAll_cons h
    have hdone := (rendersThrough k).renderNode first hexit.1 _ _ _ _ hfirst
    obtain ⟨more, rfl, hmore⟩ := hrest hdone
    obtain ⟨j, before, part, partEnding, after, hkeeps, hpart, hinfix⟩ := ih hmore hassign.2 hexit.2
    have hspared := (sparesRendering name k).renderNode first hassign.1 _ _ _ hfirst
    exact ⟨j, before, part, partEnding, after, hspared.trans hkeeps, hpart,
      hinfix.trans (List.suffix_append _ _).isInfix⟩

end StaticSite.Layout
