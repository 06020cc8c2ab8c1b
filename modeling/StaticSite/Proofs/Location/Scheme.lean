import StaticSite.Proofs.Location

/-!
# Schemes of web addresses

A text stands for a web address only if its scheme is `http` or `https`, and so does a reference in
a file. But a reference at a web address is joined to it whatever its scheme is, so a chain of
references leaves these two schemes exactly where a reference at a web address is itself a URL with
another one (`forall_isWeb_iff`).
-/

namespace StaticSite

namespace Url

open Text

variable {base url : Url} {reference text : String} {rest : List Char}

/-- A URL has the scheme of the text that it is read from. -/
theorem scheme_of_read? (h : read? text = some url) :
    (readScheme? (significant text)).map Prod.fst = some url.scheme := by
  obtain ⟨⟨scheme, rest⟩, hscheme, hread⟩ := Option.bind_eq_some_iff.mp h
  rw [hscheme, Option.map_some, scheme_of_readAfterScheme? hread]

/-- A URL that a reference leads to has the scheme of the reference, or else that of the base. -/
theorem scheme_of_join? (h : join? base reference = some url) :
    url.scheme = ((readScheme? (significant reference)).map Prod.fst).getD base.scheme := by
  simp only [join?] at h
  split at h
  · next scheme rest hscheme =>
    rw [hscheme, scheme_of_readAfterScheme? h]
    rfl
  · next hscheme =>
    rw [hscheme, Option.map_none, Option.getD_none]
    split at h
    · rw [← Option.some.inj h]
    · cases h
    · split_ifs at h with hfile
      · rw [scheme_of_readFile? (by simpa using hfile) h, hfile]
      · exact scheme_of_readRelative? h

/-- No character at the front of a text is dropped if it is neither white space nor a control
character. -/
private theorem significant_append {front : List Char} (hne : front ≠ [])
    (hfront : ∀ c ∈ front, 0x20 < c.toNat) (h : text.toList = front ++ rest) :
    ∃ more, significant text = front ++ more := by
  have hfirst : (front ++ rest).dropWhile (fun c ↦ decide (c.toNat ≤ 0x20)) = front ++ rest := by
    obtain ⟨c, front, rfl⟩ := List.exists_cons_of_ne_nil hne
    exact List.dropWhile_cons_of_neg (by simpa using hfront c List.mem_cons_self)
  have hlast : front.reverse.dropWhile (fun c ↦ decide (c.toNat ≤ 0x20)) = front.reverse := by
    obtain ⟨c, more, hreverse⟩ := List.exists_cons_of_ne_nil (List.reverse_ne_nil_iff.mpr hne)
    have hc : c ∈ front := List.mem_reverse.mp (hreverse ▸ List.mem_cons_self)
    rw [hreverse]
    exact List.dropWhile_cons_of_neg (by simpa using hfront c hc)
  obtain ⟨more, hmore⟩ : ∃ more, ((front ++ rest).reverse.dropWhile
      (fun c ↦ decide (c.toNat ≤ 0x20))).reverse = front ++ more := by
    rw [List.reverse_append, List.dropWhile_append, hlast]
    split_ifs
    · exact ⟨[], by simp⟩
    · exact ⟨_, by rw [List.reverse_append, List.reverse_reverse]⟩
  have hkept : front.filter (fun c ↦ !(c == '\t' || c == '\n' || c == '\r')) = front := by
    refine List.filter_eq_self.mpr fun c hc ↦ ?_
    have hlarge := hfront c hc
    simp only [Bool.not_eq_true', Bool.or_eq_false_iff, beq_eq_false_iff_ne]
    refine ⟨⟨?_, ?_⟩, ?_⟩ <;> rintro rfl <;> simp at hlarge
  exact ⟨_, by rw [significant, h, hfirst, hmore, List.filter_append, hkept]⟩

/-- The schemes of web addresses, as characters. -/
private def webSchemes : List (List Char) := [['h', 't', 't', 'p'], ['h', 't', 't', 'p', 's']]

/-- A text with one of these schemes and two slashes at its front is read as a URL with it. -/
private theorem scheme_of_startsWith {scheme : List Char} (hscheme : scheme ∈ webSchemes)
    (hfront : startsWith (scheme ++ [':', '/', '/']) text.toList) (hread : read? text = some url) :
    url.scheme = String.ofList scheme := by
  obtain ⟨rest, hrest⟩ := Option.isSome_iff_exists.mp hfront
  have hlarge : webSchemes.all fun scheme ↦ (scheme ++ [':', '/', '/']).all (0x20 < ·.toNat) := by
    decide
  have hchars : webSchemes.all fun scheme ↦
      scheme.all fun c ↦ c.isAlphanum || c == '+' || c == '-' || c == '.' := by decide
  simp only [List.all_eq_true, decide_eq_true_eq] at hlarge hchars
  obtain ⟨more, hmore⟩ :=
    significant_append (by simp) (hlarge scheme hscheme) (stripPrefix?_eq_some hrest)
  have hspan : spanOf (fun c ↦ c.isAlphanum || c == '+' || c == '-' || c == '.')
      (significant text) = (scheme, ':' :: '/' :: '/' :: more) := by
    rw [hmore, List.append_assoc]
    exact spanOf_append_of_all (hchars scheme hscheme) (by simp)
  have hname := scheme_of_read? hread
  rw [readScheme?, hspan] at hname
  simp only [webSchemes, List.mem_cons, List.not_mem_nil, or_false] at hscheme
  rcases hscheme with rfl | rfl <;> exact (Option.some.inj hname).symm

/-- The URL of a text with `http://` or `https://` at its front has this scheme. -/
theorem scheme_of_isWeb
    (hfront : startsWith "http://".toList text.toList ∨ startsWith "https://".toList text.toList)
    (hread : read? text = some url) : url.scheme = "http" ∨ url.scheme = "https" := by
  rcases hfront with hfront | hfront
  · exact .inl (scheme_of_startsWith (List.mem_cons_self) hfront hread)
  · exact .inr (scheme_of_startsWith (List.mem_cons_of_mem _ List.mem_cons_self) hfront hread)

end Url

namespace Location

variable {location : Location} {url : Url} {root : Path} {reference text : String}

/-! ## Locations that texts and references lead to -/

theorem isWeb_of_remoteUrl? (h : remoteUrl? text = some url) : (remote url).IsWeb := by
  rw [remoteUrl?] at h
  split_ifs at h with hfront
  exact Url.scheme_of_isWeb (by simpa using hfront) h

/-- A text stands for a file or for a web address with one of the two schemes. -/
theorem isWeb_ofText (text : String) : (ofText text).IsWeb := by
  rw [ofText]
  split
  · next url hurl => exact isWeb_of_remoteUrl? hurl
  · trivial

/-- The directory of a web address has its scheme. -/
theorem isWeb_parent (h : location.IsWeb) : location.parent.IsWeb := by
  cases location with
  | file path => trivial
  | remote url =>
    rw [parent]
    cases hjoin : Url.join? url "./" with
    | none => exact h
    | some directory =>
      have hscheme : Url.readScheme? (Url.significant "./") = none := by decide
      have hsame := Url.scheme_of_join? hjoin
      rw [hscheme] at hsame
      rw [Option.getD_some, IsWeb, hsame]
      exact h

/-- A reference in a document at a URL is itself a URL, with a scheme that is neither `http` nor
`https`. -/
def LeavesWeb (url : Url) (reference : String) : Prop :=
  ∃ scheme rest, Url.readScheme? (Url.significant reference) = some (scheme, rest) ∧
    (Url.readAfterScheme? (some url) scheme rest).isSome ∧ scheme ≠ "http" ∧ scheme ≠ "https"

/-- What a reference leads to has one of the two schemes, unless it is found at a web address and
leaves them. -/
theorem isWeb_resolve_iff (h : location.IsWeb) :
    (resolve root location reference).IsWeb ↔
      ∀ url, location = .remote url → ¬ LeavesWeb url reference := by
  cases location with
  | file path =>
    simp only [reduceCtorEq, false_imp_iff, implies_true, iff_true, resolve]
    split
    · next url hurl => exact isWeb_of_remoteUrl? hurl
    · trivial
  | remote url =>
    simp only [remote.injEq, forall_eq', resolve, LeavesWeb, not_exists, not_and]
    cases hjoin : Url.join? url reference with
    | none =>
      refine iff_of_true (isWeb_ofText reference) fun scheme rest hscheme hread ↦ ?_
      have hnone : Url.readAfterScheme? (some url) scheme rest = none := by
        simpa [Url.join?, hscheme] using hjoin
      simp [hnone] at hread
    | some joined =>
      have hsame := Url.scheme_of_join? hjoin
      cases hscheme : Url.readScheme? (Url.significant reference) with
      | none =>
        rw [hscheme] at hsame
        simp only [IsWeb, hsame]
        exact iff_of_true h (by simp)
      | some found =>
        obtain ⟨scheme, rest⟩ := found
        have hread : Url.readAfterScheme? (some url) scheme rest = some joined := by
          simpa [Url.join?, hscheme] using hjoin
        rw [hscheme] at hsame
        obtain rfl : joined.scheme = scheme := hsame
        simp only [IsWeb, Option.some.injEq, Prod.mk.injEq, and_imp]
        constructor
        · rintro hweb scheme rest rfl rfl - hhttp hhttps
          exact hweb.elim hhttp hhttps
        · intro hnot
          by_contra hother
          rw [not_or] at hother
          exact hnot _ _ rfl rfl (by simp [hread]) hother.1 hother.2

theorem isWeb_resolveTemplate :
    (resolveTemplate root location reference).IsWeb ↔ (resolve root location reference).IsWeb := by
  rw [resolveTemplate]
  split
  · next path hpath =>
    rw [hpath]
    split <;> rfl
  · next url hurl => rw [hurl]

/-! ## Chains of moves -/

/-- A way from one location to another. -/
inductive Move where
  /-- To the directory. -/
  | parent
  /-- To the canonical form. -/
  | canonical
  /-- By a reference, with a directory of templates. -/
  | resolve (root : Path) (reference : String)
  /-- By a reference to a template, with a directory of templates. -/
  | resolveTemplate (root : Path) (reference : String)
  deriving DecidableEq, Repr

namespace Move

variable {move : Move}

/-- Where a move leads. -/
def apply (location : Location) : Move → Location
  | .parent => location.parent
  | .canonical => location.canonical
  | .resolve root reference => Location.resolve root location reference
  | .resolveTemplate root reference => Location.resolveTemplate root location reference

/-- The reference that a move follows. -/
def reference? : Move → Option String
  | .parent | .canonical => none
  | .resolve _ reference | .resolveTemplate _ reference => some reference

/-- A move follows a reference at a web address that is a URL of another scheme. -/
def Leaves (location : Location) (move : Move) : Prop :=
  ∃ url reference, location = .remote url ∧ move.reference? = some reference ∧
    LeavesWeb url reference

/-- Where a chain of moves leads. -/
def reach (location : Location) (moves : List Move) : Location := moves.foldl apply location

@[simp] theorem reach_nil (location : Location) : reach location [] = location := rfl

theorem reach_concat (location : Location) (moves : List Move) (move : Move) :
    reach location (moves ++ [move]) = move.apply (reach location moves) := by
  rw [reach, List.foldl_append]
  rfl

/-- One move leads to a location with one of the two schemes unless it leaves them. -/
theorem isWeb_apply_iff (h : location.IsWeb) :
    (move.apply location).IsWeb ↔ ¬ move.Leaves location := by
  have hfollow (reference : String) :
      (∃ url found, location = .remote url ∧ some reference = some found ∧ LeavesWeb url found) ↔
        ¬ ∀ url, location = .remote url → ¬ LeavesWeb url reference := by
    simp
  cases move with
  | parent => exact iff_of_true (isWeb_parent h) (by simp [Leaves, reference?])
  | canonical => exact iff_of_true (isWeb_canonical.mpr h) (by simp [Leaves, reference?])
  | resolve root reference =>
    rw [Leaves, reference?, hfollow, not_not]
    exact isWeb_resolve_iff h
  | resolveTemplate root reference =>
    rw [Leaves, reference?, hfollow, not_not]
    exact isWeb_resolveTemplate.trans (isWeb_resolve_iff h)

/-- All locations on a chain that begins with a text have one of the two schemes, if they are web
addresses, exactly if no move of the chain follows a reference at a web address that is a URL of
another scheme. -/
theorem forall_isWeb_iff (text : String) (moves : List Move) :
    (∀ front, front <+: moves → (reach (ofText text) front).IsWeb) ↔
      ∀ front move, front ++ [move] <+: moves → ¬ move.Leaves (reach (ofText text) front) := by
  constructor
  · intro hweb front move hfront hleaves
    have hstart := hweb front ((List.prefix_append _ _).trans hfront)
    have hnext := hweb (front ++ [move]) hfront
    rw [reach_concat] at hnext
    exact (isWeb_apply_iff hstart).mp hnext hleaves
  · intro hstays front hfront
    induction front using List.reverseRecOn with
    | nil => exact isWeb_ofText text
    | append_singleton front move ih =>
      rw [reach_concat]
      exact (isWeb_apply_iff (ih ((List.prefix_append _ _).trans hfront))).mpr
        (hstays front move hfront)

/-- A reference at a web address leads to a mail address. -/
theorem reach_mail :
    reach (ofText "http://h/") [.resolve ⟨"/t"⟩ "mailto:x.html"] =
        .remote { Url.bare "mailto" with path := .plain "x.html" } ∧
      ¬ (reach (ofText "http://h/") [.resolve ⟨"/t"⟩ "mailto:x.html"]).IsWeb := by
  have hreach : reach (ofText "http://h/") [.resolve ⟨"/t"⟩ "mailto:x.html"] =
      .remote { Url.bare "mailto" with path := .plain "x.html" } := by decide
  refine ⟨hreach, ?_⟩
  rw [hreach, IsWeb]
  decide

end Move

end Location

end StaticSite
