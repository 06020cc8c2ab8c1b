import StaticSite.Proofs.Url.Host
import StaticSite.Url.Reader

/-!
# What is read as a URL

The parts of a URL with a special scheme hold none of the characters by which the parts are told
apart in its text, since these are encoded: this is so for every such URL that is read from a text
or found by a reference in a document at another one (`IsRead.isSpecial`). A URL with another scheme
may be found on the way, so the property is one of all URLs that are read.
-/

namespace StaticSite.Url

open Text

variable {url base : Url} {scheme reference : String} {kind : SchemeKind} {c : Char}
  {text rest : List Char}

/-- The URLs that are read from texts, alone or relative to others. -/
inductive IsRead : Url → Prop
  /-- A URL is read from a text of its own. -/
  | read {text : String} {url : Url} (read?_eq : read? text = some url) : IsRead url
  /-- A URL is found by a reference. -/
  | join {base url : Url} {reference : String} (base_isRead : IsRead base)
      (join?_eq : join? base reference = some url) : IsRead url

/-- Whether none of some characters stands in a text. -/
def Lacks (marks : List Char) (text : String) : Prop := ∀ c ∈ marks, c ∉ text.toList

/-- What holds of the parts before the path of a URL with a special scheme that is read. -/
structure HasFront (url : Url) : Prop where
  kind : kindOf url.scheme = .special
  username : Lacks ['/', '?', '#', '@', ':'] url.username
  password : ∀ password, url.password = some password → Lacks ['/', '?', '#', '@'] password
  host : ∃ host, url.host = some host ∧ host.IsCanonical

/-- What holds of a URL with a special scheme that is read. -/
structure IsSpecial (url : Url) : Prop extends HasFront url where
  path : ∃ names, url.path = .segments names ∧ names ≠ [] ∧
    ∀ name ∈ names, Lacks ['/', '?', '#'] name
  query : ∀ query, url.query = some query → Lacks ['#'] query

/-! ## Encoding -/

/-- Only percent signs, digits and letters come in by encoding. -/
theorem mem_of_mem_encode {set : String} (h : c ∈ encode set text) (hpercent : c ≠ '%')
    (halnum : c.isAlphanum = false) : c ∈ text ∧ c ∉ set.toList := by
  have hhex (n : Nat) : (hexUpper n).isAlphanum := by
    have hupper : ∀ digit < 16, digit.digitChar.toUpper.isAlphanum := by decide
    obtain ⟨first, more, hdigits⟩ :=
      List.exists_cons_of_ne_nil (Nat.toDigits_ne_nil (n := n) (b := 16))
    obtain ⟨digit, hdigit, rfl⟩ := exists_of_mem_toDigits (show 1 < 16 by decide) (by decide)
      (hdigits ▸ List.mem_cons_self)
    rw [hexUpper, hdigits]
    exact hupper digit hdigit
  rw [encode, List.mem_flatMap] at h
  obtain ⟨a, ha, hc⟩ := h
  split_ifs at hc with hencoded
  · obtain ⟨byte, -, hc⟩ := List.mem_flatMap.mp hc
    simp only [encodeByte, List.mem_cons, List.not_mem_nil, or_false] at hc
    rcases hc with hc | hc | hc
    · exact absurd hc hpercent
    · simp [hc, hhex] at halnum
    · simp [hc, hhex] at halnum
  · obtain rfl := List.mem_singleton.mp hc
    rw [Bool.or_eq_true, not_or, List.contains_iff_mem] at hencoded
    exact ⟨ha, hencoded.2⟩

/-- A character of the set is no longer there after encoding. -/
theorem lacks_encode {set : String} {marks : List Char}
    (h : ∀ c ∈ marks, c ≠ '%' ∧ c.isAlphanum = false ∧ (c ∈ text → c ∈ set.toList)) :
    Lacks marks (String.ofList (encode set text)) := by
  intro c hc hmem
  obtain ⟨hpercent, halnum, hset⟩ := h c hc
  rw [String.toList_ofList] at hmem
  obtain ⟨htext, hnot⟩ := mem_of_mem_encode hmem hpercent halnum
  exact hnot (hset htext)

/-! ## The rest of a URL -/

private theorem lacks_empty (marks : List Char) : Lacks marks "" := fun _ _ h ↦ by simp at h

/-- What holds of the segments that are read under a special scheme, last first. -/
private def AreSegments (names : List (List Char)) : Prop :=
  ∀ name ∈ names, Lacks ['/', '?', '#'] (String.ofList name)

private theorem areSegments_nil : AreSegments [] := fun _ h ↦ by cases h

private theorem AreSegments.cons {names : List (List Char)} {segment : List Char}
    (h : AreSegments names) (hslash : '/' ∉ segment) :
    AreSegments (encode pathSet segment :: names) := by
  refine List.forall_mem_cons.mpr ⟨lacks_encode fun c hc ↦ ?_, h⟩
  simp only [List.mem_cons, List.not_mem_nil, or_false] at hc
  rcases hc with rfl | rfl | rfl
  · exact ⟨by decide, by decide, fun hmem ↦ absurd hmem hslash⟩
  · exact ⟨by decide, by decide, fun _ ↦ by decide⟩
  · exact ⟨by decide, by decide, fun _ ↦ by decide⟩

private theorem AreSegments.drop {names : List (List Char)} (h : AreSegments names) :
    AreSegments (dropSegment .special names) := by
  unfold dropSegment
  split
  · exact h
  · rw [if_neg (by simp)]
    exact areSegments_nil
  · exact fun name hname ↦ h name (List.mem_cons_of_mem _ hname)

private theorem addSegment_special (final : Bool) (names : List (List Char)) (segment : List Char) :
    addSegment .special final names segment =
      if isDoubleDot segment then
        if final then [] :: dropSegment .special names else dropSegment .special names
      else if isSingleDot segment then if final then [] :: names else names
      else encode pathSet segment :: names := by
  simp only [addSegment, reduceCtorEq, false_and, if_false]
  rcases segment with _ | ⟨a, _ | ⟨b, _ | ⟨c, rest⟩⟩⟩ <;> rfl

private theorem AreSegments.add {names : List (List Char)} {final : Bool} {segment : List Char}
    (h : AreSegments names) (hslash : '/' ∉ segment) :
    AreSegments (addSegment .special final names segment) := by
  have hempty {names : List (List Char)} (h : AreSegments names) : AreSegments ([] :: names) :=
    List.forall_mem_cons.mpr ⟨lacks_empty _, h⟩
  rw [addSegment_special]
  split_ifs
  · exact hempty h.drop
  · exact h.drop
  · exact hempty h
  · exact h
  · exact h.cons hslash

private theorem addSegment_ne_nil {names : List (List Char)} {segment : List Char} :
    addSegment .special true names segment ≠ [] := by
  rw [addSegment_special]
  split_ifs <;> simp_all

/-- A path has at least one segment, and no segment holds a slash. -/
private theorem areSegments_readSegments {names : List (List Char)} {segment : List Char}
    (h : AreSegments names) (hslash : '/' ∉ segment) :
    AreSegments (readSegments .special names segment text).1 ∧
      (readSegments .special names segment text).1 ≠ [] := by
  induction text generalizing names segment with
  | nil => exact ⟨h.add (by simpa using hslash), addSegment_ne_nil⟩
  | cons a text ih =>
    rw [readSegments]
    split_ifs with hend ha
    · exact ⟨h.add (by simpa using hslash), addSegment_ne_nil⟩
    · exact ih (h.add (by simpa using hslash)) (by simp)
    · refine ih h ?_
      rw [List.mem_cons, not_or]
      exact ⟨fun hslash ↦ ha (by simp [isSlash, ← hslash]), hslash⟩

/-- The query ends before the number sign of the fragment. -/
private theorem lacks_readQueryAndFragment {query : String}
    (h : (readQueryAndFragment .special text).1 = some query) : Lacks ['#'] query := by
  simp only [readQueryAndFragment] at h
  split at h
  · obtain rfl := Option.some.inj h
    refine lacks_encode fun c hc ↦ ?_
    obtain rfl := List.mem_singleton.mp hc
    exact ⟨by decide, by decide, fun _ ↦ by decide⟩
  · cases h

private theorem isSpecial_withPath {names : List (List Char)} (h : HasFront url)
    (hnames : AreSegments names) : (withPath url .special names text).IsSpecial := by
  obtain ⟨hsegments, hne⟩ :
      AreSegments (readSegments .special names [] text).1 ∧
        (readSegments .special names [] text).1 ≠ [] := areSegments_readSegments hnames (by simp)
  refine ⟨⟨h.kind, h.username, h.password, h.host⟩, ⟨_, rfl, ?_, ?_⟩, fun query hquery ↦ ?_⟩
  · simpa using hne
  · intro name hname
    obtain ⟨segment, hsegment, rfl⟩ := List.mem_map.mp hname
    exact hsegments segment (List.mem_reverse.mp hsegment)
  · exact lacks_readQueryAndFragment hquery

private theorem isSpecial_withRest (h : HasFront url) (hquery : url.query = none) :
    (withRest url .special text).IsSpecial := by
  unfold withRest
  split
  · split_ifs with hslash hkind
    · exact isSpecial_withPath h areSegments_nil
    · exact isSpecial_withPath h areSegments_nil
    · exact absurd rfl hkind
  · exact ⟨⟨h.kind, h.username, h.password, h.host⟩,
      ⟨[""], rfl, by simp, by simpa using lacks_empty _⟩, by simp [hquery]⟩

/-! ## Whole URLs -/

private theorem lacks_readUserinfo (user : List Char) :
    Lacks ['/', '?', '#', '@', ':'] (readUserinfo user).1 ∧
      ∀ password, (readUserinfo user).2 = some password → Lacks ['/', '?', '#', '@'] password := by
  have hlacks (part : List Char) :
      Lacks ['/', '?', '#', '@', ':'] (String.ofList (encode userinfoSet part)) := by
    refine lacks_encode fun c hc ↦ ?_
    simp only [List.mem_cons, List.not_mem_nil, or_false] at hc
    rcases hc with rfl | rfl | rfl | rfl | rfl <;>
      exact ⟨by decide, by decide, fun _ ↦ by decide⟩
  unfold readUserinfo
  dsimp only
  split
  · refine ⟨hlacks _, fun password hpassword c hc ↦ ?_⟩
    rw [← Option.some.inj hpassword]
    exact hlacks _ c (by simp at hc ⊢; tauto)
  · exact ⟨hlacks _, by simp⟩

@[simp] theorem scheme_withPath (url : Url) (kind : SchemeKind) (names : List (List Char))
    (text : List Char) : (withPath url kind names text).scheme = url.scheme := rfl

@[simp] theorem scheme_withRest (url : Url) (kind : SchemeKind) (text : List Char) :
    (withRest url kind text).scheme = url.scheme := by
  unfold withRest
  split
  · split_ifs <;> rfl
  · rfl

theorem scheme_of_readAuthority? (h : readAuthority? scheme kind text = some url) :
    url.scheme = scheme := by
  simp only [readAuthority?] at h
  split_ifs at h
  all_goals
    split at h
    · rw [← Option.some.inj h]
      exact scheme_withRest _ _ _
    · cases h

theorem isSpecial_of_readAuthority? (hkind : kindOf scheme = .special)
    (h : readAuthority? scheme .special text = some url) : url.IsSpecial := by
  simp only [readAuthority?, reduceCtorEq, if_false] at h
  split_ifs at h
  split at h
  · next host port hhost hport =>
    rw [← Option.some.inj h]
    exact isSpecial_withRest ⟨hkind, (lacks_readUserinfo _).1, (lacks_readUserinfo _).2, host, rfl,
      Host.isCanonical_of_readSpecial? hhost⟩ rfl
  · cases h

theorem scheme_of_readRelative? (h : readRelative? base text = some url) :
    url.scheme = base.scheme := by
  simp only [readRelative?] at h
  split at h
  · rw [← Option.some.inj h]
  · rw [← Option.some.inj h]
  · rw [← Option.some.inj h]
  · split_ifs at h
    · split at h <;> exact scheme_of_readAuthority? h
    · rw [← Option.some.inj h, scheme_withPath]
    · rw [← Option.some.inj h, scheme_withPath]

private theorem areSegments_segmentsOf (h : base.IsSpecial) :
    AreSegments ((segmentsOf base).drop 1) := by
  obtain ⟨names, hpath, -, hnames⟩ := h.path
  intro name hname
  rw [segmentsOf, hpath] at hname
  obtain ⟨segment, hsegment, rfl⟩ :=
    List.mem_map.mp (List.mem_reverse.mp (List.mem_of_mem_drop hname))
  rw [String.ofList_toList]
  exact hnames segment hsegment

/-- What is read relative to a URL with a special scheme is another one. -/
theorem isSpecial_of_readRelative? (hbase : base.IsSpecial)
    (h : readRelative? base text = some url) : url.IsSpecial := by
  simp only [readRelative?, hbase.kind] at h
  split at h
  · rw [← Option.some.inj h]
    exact { hbase with }
  · rw [← Option.some.inj h]
    exact { hbase with query := fun query hquery ↦ lacks_readQueryAndFragment hquery }
  · rw [← Option.some.inj h]
    exact { hbase with }
  · split_ifs at h
    · split at h <;> exact isSpecial_of_readAuthority? hbase.kind h
    · rw [← Option.some.inj h]
      exact isSpecial_withPath hbase.toHasFront areSegments_nil
    · rw [← Option.some.inj h]
      exact isSpecial_withPath hbase.toHasFront (areSegments_segmentsOf hbase)

theorem scheme_of_relative {start : Url} (h : readFile?.relative c rest start = some url) :
    url.scheme = start.scheme := by
  simp only [readFile?.relative] at h
  split_ifs at h <;> rw [← Option.some.inj h] <;> rfl

theorem scheme_of_readFile? {start : Option Url} (hstart : ∀ base ∈ start, base.scheme = "file")
    (h : readFile? start text = some url) : url.scheme = "file" := by
  have hfile : ((start.map fun b ↦ { b with fragment := none }).getD
      { bare "file" with host := some (.domain "") } : Url).scheme = "file" := by
    cases start with
    | none => rfl
    | some base => exact hstart base rfl
  simp only [readFile?] at h
  split at h
  · split_ifs at h
    · rw [← Option.some.inj h]
      rfl
    · obtain ⟨host, -, rfl⟩ := Option.map_eq_some_iff.mp h
      exact scheme_withRest _ _ _
    · exact (scheme_of_relative h).trans hfile
  · exact (scheme_of_relative h).trans hfile
  · split_ifs at h
    · rw [← Option.some.inj h]
      exact hfile
    · rw [← Option.some.inj h]
      exact scheme_withRest _ _ _

theorem kindOf_eq_file_iff : kindOf scheme = .file ↔ scheme = "file" := by
  rw [kindOf]
  split_ifs <;> simp_all

/-- A URL has the scheme that it is read after. -/
theorem scheme_of_readAfterScheme? {start : Option Url}
    (h : readAfterScheme? start scheme text = some url) : url.scheme = scheme := by
  have hsame : ∀ base ∈ start.filter fun b ↦ b.scheme = scheme, base.scheme = scheme := by
    intro base hbase
    simpa using (Option.mem_filter_iff.mp hbase).2
  simp only [readAfterScheme?] at h
  split at h
  · next hkind =>
    obtain rfl := kindOf_eq_file_iff.mp hkind
    exact scheme_of_readFile? hsame h
  · split at h
    · next base hbase =>
      split_ifs at h
      · exact (scheme_of_readRelative? h).trans (hsame base hbase)
      · exact scheme_of_readAuthority? h
    · exact scheme_of_readAuthority? h
  · split at h
    · exact scheme_of_readAuthority? h
    · rw [← Option.some.inj h]
      rfl
    · rw [← Option.some.inj h]
      rfl

/-- What is read after a special scheme has the property if the URL that it is relative to has it.
-/
theorem isSpecial_of_readAfterScheme? {start : Option Url} (hkind : kindOf scheme = .special)
    (hstart : ∀ base ∈ start, kindOf base.scheme = .special → base.IsSpecial)
    (h : readAfterScheme? start scheme text = some url) : url.IsSpecial := by
  simp only [readAfterScheme?, hkind] at h
  split at h
  · next base hbase =>
    obtain ⟨hmem, hscheme⟩ := Option.mem_filter_iff.mp hbase
    obtain rfl : base.scheme = scheme := by simpa using hscheme
    split_ifs at h
    · exact isSpecial_of_readRelative? (hstart base hmem hkind) h
    · exact isSpecial_of_readAuthority? hkind h
  · exact isSpecial_of_readAuthority? hkind h

private theorem isSpecial_of_join? (hbase : kindOf base.scheme = .special → base.IsSpecial)
    (hkind : kindOf url.scheme = .special) (h : join? base reference = some url) :
    url.IsSpecial := by
  simp only [join?] at h
  split at h
  · next scheme rest hscheme =>
    rw [scheme_of_readAfterScheme? h] at hkind
    exact isSpecial_of_readAfterScheme? hkind (by simpa using hbase) h
  · split at h
    · rw [← Option.some.inj h] at hkind ⊢
      exact { hbase hkind with }
    · cases h
    · split_ifs at h with hfile
      · rw [scheme_of_readFile? (by simpa using hfile) h] at hkind
        exact absurd hkind (by decide)
      · rw [scheme_of_readRelative? h] at hkind
        exact isSpecial_of_readRelative? (hbase hkind) h

/-- A URL with a special scheme that is read has parts that can be told apart. -/
theorem IsRead.isSpecial (h : url.IsRead) (hkind : kindOf url.scheme = .special) :
    url.IsSpecial := by
  induction h with
  | read hread =>
    obtain ⟨⟨scheme, rest⟩, -, hread⟩ := Option.bind_eq_some_iff.mp hread
    rw [scheme_of_readAfterScheme? hread] at hkind
    exact isSpecial_of_readAfterScheme? hkind (by simp) hread
  | join _ hjoin ih => exact isSpecial_of_join? ih hkind hjoin

end StaticSite.Url
