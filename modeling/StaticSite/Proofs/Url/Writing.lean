import StaticSite.Proofs.Url.Reading

/-!
# Texts of URLs

A URL with a special scheme is known by its text: the text is cut into the parts at the marks that
none of them holds (`IsSpecial.write_injective`). The text of a host goes up to the colon before the
port, which is not one of those in an address (`spanHost_write`).
-/

namespace StaticSite.Url

open Text

variable {url other : Url} {host : Host} {names : List String} {text rest : List Char}

/-! ## Cutting texts -/

/-- Characters that pass a test are told apart from what follows, if that begins with one that does
not pass it. -/
theorem append_inj_of_all {p : Char → Bool} {front front' back back' : List Char}
    (hfront : ∀ c ∈ front, p c) (hfront' : ∀ c ∈ front', p c)
    (hback : ∀ c ∈ back.head?, p c = false) (hback' : ∀ c ∈ back'.head?, p c = false)
    (h : front ++ back = front' ++ back') : front = front' ∧ back = back' := by
  have hspan := congrArg (spanOf p) h
  rwa [spanOf_append_of_all hfront hback, spanOf_append_of_all hfront' hback',
    Prod.mk.injEq] at hspan

/-- Texts without a mark are told apart from what follows, if that begins with the mark. -/
theorem append_inj_of_notMem {mark : Char} {front front' back back' : List Char}
    (hfront : mark ∉ front) (hfront' : mark ∉ front') (hback : ∀ c ∈ back.head?, c = mark)
    (hback' : ∀ c ∈ back'.head?, c = mark) (h : front ++ back = front' ++ back') :
    front = front' ∧ back = back' := by
  have hpass {front : List Char} (hfront : mark ∉ front) : ∀ c ∈ front, (c != mark) = true :=
    fun c hc ↦ bne_iff_ne.mpr fun heq ↦ hfront (heq ▸ hc)
  exact append_inj_of_all (hpass hfront) (hpass hfront') (fun c hc ↦ by simp [hback c hc])
    (fun c hc ↦ by simp [hback' c hc]) h

private theorem spanHost_outside (hcolon : ':' ∉ text) (hbracket : '[' ∉ text)
    (hrest : rest = [] ∨ ∃ port, rest = ':' :: port) :
    spanHost false (text ++ rest) = (text, rest) := by
  induction text with
  | nil => rcases hrest with rfl | ⟨port, rfl⟩ <;> rfl
  | cons a text ih =>
    simp only [List.mem_cons, not_or] at hcolon hbracket
    have hopening : (a == '[') = false := beq_eq_false_iff_ne.mpr (Ne.symm hbracket.1)
    simp [spanHost, Ne.symm hcolon.1, hopening, ih hcolon.2 hbracket.2]

private theorem spanHost_inside (hbracket : ']' ∉ text)
    (hrest : rest = [] ∨ ∃ port, rest = ':' :: port) :
    spanHost true (text ++ ']' :: rest) = (text ++ [']'], rest) := by
  induction text with
  | nil =>
    have houtside : spanHost false ([] ++ rest) = ([], rest) :=
      spanHost_outside (by simp) (by simp) hrest
    rw [List.nil_append] at houtside
    simp [spanHost, houtside]
  | cons a text ih =>
    simp only [List.mem_cons, not_or] at hbracket
    have hclosing : (a != ']') = true := bne_iff_ne.mpr (Ne.symm hbracket.1)
    simp [spanHost, hclosing, ih hbracket.2]

/-- The text of a host goes up to the colon before the port. -/
theorem spanHost_write (h : host.IsCanonical) (hrest : rest = [] ∨ ∃ port, rest = ':' :: port) :
    spanHost false (host.write ++ rest) = (host.write, rest) := by
  cases host with
  | domain name =>
    have hnot {c : Char} (hc : isForbiddenInDomain c) : c ∉ name.toList := fun hmem ↦ by
      simp [h.1 c hmem] at hc
    exact spanHost_outside (hnot (by decide)) (hnot (by decide)) hrest
  | ipv4 address =>
    exact spanHost_outside (fun hmem ↦ absurd (mem_writeIpv4 hmem) (by decide))
      (fun hmem ↦ absurd (mem_writeIpv4 hmem) (by decide)) hrest
  | ipv6 groups =>
    have hinside :
        spanHost true (writeIpv6 groups ++ ']' :: rest) = (writeIpv6 groups ++ [']'], rest) :=
      spanHost_inside (fun hmem ↦ absurd (mem_writeIpv6 hmem) (by decide)) hrest
    simp [Host.write, spanHost, hinside]

/-! ## Parts -/

/-- The text of a port with its colon. -/
def portText : Option Nat → List Char
  | some port => ':' :: Nat.toDigits 10 port
  | none => []

/-- The text of a user name and a password, without the sign behind them. -/
def userText (url : Url) : List Char :=
  match url.password with
  | some password => url.username.toList ++ ':' :: password.toList
  | none => url.username.toList

/-- The text between the two slashes and the path. -/
def authorityText (url : Url) (host : Host) : List Char :=
  url.userinfo.toList ++ (host.write ++ portText url.port)

/-- The text of a path of segments. -/
def pathText (names : List String) : List Char := names.flatMap fun name ↦ '/' :: name.toList

/-- The text behind the path. -/
def endText (url : Url) : List Char :=
  (markedPart "?" url.query).toList ++ (markedPart "#" url.fragment).toList

/-- The text of a URL with a host and a path of segments, part by part. -/
theorem toList_write (hhost : url.host = some host) (hpath : url.path = .segments names) :
    url.write.toList = url.scheme.toList ++ ':' :: '/' :: '/' ::
      (authorityText url host ++ (pathText names ++ endText url)) := by
  simp only [write, authority, hhost, hpath, authorityText, endText, pathText, UrlPath.write]
  cases url.port <;> simp [portText, String.toList_join, List.flatMap_map]

theorem portText_injective : Function.Injective portText := by
  intro a b h
  cases a with
  | none => cases b <;> simp [portText] at h ⊢
  | some a =>
    cases b with
    | none => simp [portText] at h
    | some b => rw [toDigits_injective (show 1 < 10 by decide) (by decide) (List.cons.inj h).2]

private theorem portText_cases (port : Option Nat) :
    portText port = [] ∨ ∃ digits, portText port = ':' :: digits := by
  cases port with
  | none => exact .inl rfl
  | some port => exact .inr ⟨_, rfl⟩

private theorem notMem_portText {c : Char} (hcolon : c ≠ ':') (halnum : c.isAlphanum = false)
    (port : Option Nat) : c ∉ portText port := by
  cases port with
  | none => simp [portText]
  | some port =>
    rw [portText, List.mem_cons, not_or]
    exact ⟨hcolon, notMem_toDigits halnum (by decide) (by decide)⟩

/-- A host and a port are known by their texts one behind the other. -/
theorem host_port_injective {host' : Host} {port port' : Option Nat} (hhost : host.IsCanonical)
    (hhost' : host'.IsCanonical) (h : host.write ++ portText port = host'.write ++ portText port') :
    host = host' ∧ port = port' := by
  have hspan := congrArg (spanHost false) h
  rw [spanHost_write hhost (portText_cases port), spanHost_write hhost' (portText_cases port'),
    Prod.mk.injEq] at hspan
  exact ⟨Host.write_injective hhost hhost' hspan.1, portText_injective hspan.2⟩

/-- The segments of a path are what stands between the slashes. -/
theorem pathText_injective {names' : List String} (h : ∀ name ∈ names, '/' ∉ name.toList)
    (h' : ∀ name ∈ names', '/' ∉ name.toList) (hsame : pathText names = pathText names') :
    names = names' := by
  have hsplit (names : List String) (h : ∀ name ∈ names, '/' ∉ name.toList) :
      splitOn '/' (pathText names) = [] :: names.map String.toList := by
    have hjoin : pathText names = joinWith ['/'] ([] :: names.map String.toList) := by
      clear h
      induction names with
      | nil => rfl
      | cons name names ih =>
        have hnext : name.toList ++ pathText names =
            joinWith ['/'] (name.toList :: names.map String.toList) := by
          rw [ih]
          cases names <;> simp [joinWith]
        rw [List.map_cons, joinWith_cons (by simp), ← hnext]
        rfl
    rw [hjoin, splitOn_joinWith (by simp)]
    intro field hfield
    rcases List.mem_cons.mp hfield with rfl | hfield
    · simp
    · obtain ⟨name, hname, rfl⟩ := List.mem_map.mp hfield
      exact h name hname
  have hfields := congrArg (splitOn '/') hsame
  rw [hsplit names h, hsplit names' h'] at hfields
  exact List.map_injective_iff.mpr (fun _ _ ↦ String.toList_injective) (List.cons.inj hfields).2

private theorem markedPart_injective (mark : Char) :
    Function.Injective (markedPart (String.singleton mark)) := by
  intro a b h
  have hlist := congrArg String.toList h
  cases a <;> cases b <;> simp [markedPart] at hlist ⊢
  exact String.toList_injective hlist

private theorem head?_markedPart (mark : Char) (part : Option String) :
    ∀ c ∈ (markedPart (String.singleton mark) part).toList.head?, c = mark := by
  cases part <;> simp [markedPart, eq_comm]

/-- A query and a fragment are known by their texts one behind the other. -/
theorem endText_injective (hquery : ∀ query, url.query = some query → '#' ∉ query.toList)
    (hquery' : ∀ query, other.query = some query → '#' ∉ query.toList)
    (h : endText url = endText other) :
    url.query = other.query ∧ url.fragment = other.fragment := by
  have hlacks (part : Option String) (hpart : ∀ query, part = some query → '#' ∉ query.toList) :
      '#' ∉ (markedPart "?" part).toList := by
    cases part with
    | none => simp [markedPart]
    | some query => simp [markedPart, hpart query rfl]
  obtain ⟨hqueries, hfragments⟩ := append_inj_of_notMem (hlacks _ hquery) (hlacks _ hquery')
    (head?_markedPart '#' _) (head?_markedPart '#' _) h
  exact ⟨markedPart_injective '?' (String.toList_injective hqueries),
    markedPart_injective '#' (String.toList_injective hfragments)⟩

/-- A path and what follows it are told apart: the path ends at a question mark or a number sign. -/
theorem path_end_injective {names' : List String}
    (h : ∀ name ∈ names, Lacks ['/', '?', '#'] name)
    (h' : ∀ name ∈ names', Lacks ['/', '?', '#'] name)
    (hsame : pathText names ++ endText url = pathText names' ++ endText other) :
    names = names' ∧ endText url = endText other := by
  have hsegments {names : List String} (h : ∀ name ∈ names, Lacks ['/', '?', '#'] name) :
      ∀ c ∈ pathText names, (c != '?' && c != '#') = true := by
    intro c hc
    obtain ⟨name, hname, hc⟩ := List.mem_flatMap.mp hc
    rcases List.mem_cons.mp hc with rfl | hc
    · decide
    · have hlacks := h name hname
      rw [Bool.and_eq_true, bne_iff_ne, bne_iff_ne]
      exact ⟨fun heq ↦ hlacks '?' (by simp) (heq ▸ hc), fun heq ↦ hlacks '#' (by simp) (heq ▸ hc)⟩
  have hend (url : Url) : ∀ c ∈ (endText url).head?, (c != '?' && c != '#') = false := by
    intro c hc
    rw [endText, List.head?_append] at hc
    rcases Option.or_eq_some_iff.mp hc with hc | ⟨-, hc⟩
    · rw [head?_markedPart '?' _ c hc]
      decide
    · rw [head?_markedPart '#' _ c hc]
      decide
  obtain ⟨hpaths, hends⟩ :=
    append_inj_of_all (hsegments h) (hsegments h') (hend url) (hend other) hsame
  exact ⟨pathText_injective (fun name hname ↦ h name hname '/' (by simp))
    (fun name hname ↦ h' name hname '/' (by simp)) hpaths, hends⟩

/-! ## Whole URLs -/

private theorem userinfo_eq (url : Url) : url.userinfo.toList =
    if url.username = "" ∧ url.password = none then [] else userText url ++ ['@'] := by
  rw [userinfo, userText]
  cases url.password with
  | none => by_cases hname : url.username = "" <;> simp [hname]
  | some password => simp

private theorem sign_notMem (hhost : host.IsCanonical) (port : Option Nat) :
    '@' ∉ host.write ++ portText port := by
  rw [List.mem_append, not_or]
  exact ⟨Host.notMem_write hhost (by decide) (by decide) (by decide),
    notMem_portText (by decide) (by decide) port⟩

/-- The host is what stands behind the last sign of its kind. -/
private theorem breakOnLast?_authorityText (hhost : host.IsCanonical) :
    breakOnLast? ['@'] (authorityText url host) =
      if url.username = "" ∧ url.password = none then none
      else some (userText url, host.write ++ portText url.port) := by
  rw [authorityText, userinfo_eq]
  split_ifs
  · exact breakOnLast?_of_notMem (sign_notMem hhost url.port)
  · rw [List.append_assoc]
    exact breakOnLast?_append (sign_notMem hhost url.port)

namespace IsSpecial

variable (h : url.IsSpecial)

include h

private theorem colon_notMem_scheme : ':' ∉ url.scheme.toList := by
  have hkind := h.kind
  rw [kindOf] at hkind
  split_ifs at hkind with hfile hports
  obtain ⟨⟨scheme, port⟩, hmem, hscheme⟩ := List.lookup_isSome_iff.mp hports
  have hall : ∀ entry ∈ specialPorts, ':' ∉ entry.1.toList := by simp [specialPorts]
  rw [eq_of_beq hscheme]
  exact hall _ hmem

private theorem notMem_userText {c : Char} (hc : c ∈ ['/', '?', '#']) : c ∉ userText url := by
  have hmarks : c ∈ ['/', '?', '#', '@'] := List.mem_append_left ['@'] hc
  have hname := h.username c (List.mem_append_left [':'] hmarks)
  rw [userText]
  split
  · next password hpassword =>
    rw [List.mem_append, List.mem_cons, not_or, not_or]
    refine ⟨hname, ?_, h.password password hpassword c hmarks⟩
    rintro rfl
    exact absurd hc (by decide)
  · exact hname

/-- No mark of what follows stands in an authority. -/
private theorem notMem_authorityText (hhost : host.IsCanonical) {c : Char}
    (hc : c ∈ ['/', '?', '#']) : c ∉ authorityText url host := by
  have hmark : isForbiddenInDomain c ∧ c.isAlphanum = false ∧ c ∉ ['.', ':', '[', ']'] ∧
      c ≠ '@' := by
    simp only [List.mem_cons, List.not_mem_nil, or_false] at hc
    rcases hc with rfl | rfl | rfl <;> exact ⟨by decide, by decide, by decide, by decide⟩
  have huser : c ∉ url.userinfo.toList := by
    rw [userinfo_eq]
    split_ifs
    · simp
    · simp [h.notMem_userText hc, hmark.2.2.2]
  rw [authorityText, List.mem_append, List.mem_append, not_or, not_or]
  refine ⟨huser, Host.notMem_write hhost hmark.1 hmark.2.1 hmark.2.2.1, ?_⟩
  exact notMem_portText (fun heq ↦ hmark.2.2.1 (by simp [heq])) hmark.2.1 url.port

variable (hother : other.IsSpecial)

include hother

/-- A user name and a password are known by their text: the name ends at the first colon. -/
private theorem userText_injective (hsame : userText url = userText other) :
    url.username = other.username ∧ url.password = other.password := by
  have hsplit (url : Url) : userText url = url.username.toList ++
      (markedPart ":" url.password).toList := by
    rw [userText]
    cases url.password <;> simp [markedPart]
  rw [hsplit url, hsplit other] at hsame
  obtain ⟨hname, hpassword⟩ := append_inj_of_notMem (h.username ':' (by simp))
    (hother.username ':' (by simp)) (head?_markedPart ':' _) (head?_markedPart ':' _) hsame
  exact ⟨String.toList_injective hname,
    markedPart_injective ':' (String.toList_injective hpassword)⟩

/-- An authority is known by its text. -/
private theorem authorityText_injective {host' : Host} (hhost : host.IsCanonical)
    (hhost' : host'.IsCanonical) (hsame : authorityText url host = authorityText other host') :
    (url.username = other.username ∧ url.password = other.password) ∧
      host = host' ∧ url.port = other.port := by
  have hbreak := congrArg (breakOnLast? ['@']) hsame
  rw [breakOnLast?_authorityText hhost, breakOnLast?_authorityText hhost'] at hbreak
  split_ifs at hbreak with hempty hempty'
  · rw [authorityText, authorityText, userinfo_eq, userinfo_eq, if_pos hempty,
      if_pos hempty'] at hsame
    exact ⟨⟨hempty.1.trans hempty'.1.symm, hempty.2.trans hempty'.2.symm⟩,
      host_port_injective hhost hhost' hsame⟩
  · obtain ⟨huser, hhosts⟩ := Prod.mk.inj (Option.some.inj hbreak)
    exact ⟨h.userText_injective hother huser, host_port_injective hhost hhost' hhosts⟩

/-- A URL with a special scheme is known by its text. -/
theorem write_injective (hwrite : url.write = other.write) : url = other := by
  obtain ⟨host, hhost, hcanonical⟩ := h.host
  obtain ⟨host', hhost', hcanonical'⟩ := hother.host
  obtain ⟨names, hpath, hnames, hlacks⟩ := h.path
  obtain ⟨names', hpath', hnames', hlacks'⟩ := hother.path
  have htext := congrArg String.toList hwrite
  rw [toList_write hhost hpath, toList_write hhost' hpath'] at htext
  -- The scheme ends at the first colon, and the authority at the slash of the first segment.
  obtain ⟨hscheme, htext⟩ := append_inj_of_notMem h.colon_notMem_scheme hother.colon_notMem_scheme
    (by simp) (by simp) htext
  simp only [List.cons.injEq, true_and] at htext
  have hslash {names : List String} (hnames : names ≠ []) (url : Url) :
      ∀ c ∈ (pathText names ++ endText url).head?, c = '/' := by
    obtain ⟨name, names, rfl⟩ := List.exists_cons_of_ne_nil hnames
    simp [pathText]
  obtain ⟨hauthority, hbehind⟩ := append_inj_of_notMem (h.notMem_authorityText hcanonical (by simp))
    (hother.notMem_authorityText hcanonical' (by simp)) (hslash hnames url) (hslash hnames' other)
    htext
  obtain ⟨⟨husername, hpassword⟩, rfl, hport⟩ :=
    h.authorityText_injective hother hcanonical hcanonical' hauthority
  obtain ⟨rfl, hends⟩ := path_end_injective hlacks hlacks' hbehind
  obtain ⟨hquery, hfragment⟩ := endText_injective
    (fun query hquery ↦ h.query query hquery '#' (by simp))
    (fun query hquery ↦ hother.query query hquery '#' (by simp)) hends
  have hschemes := String.toList_injective hscheme
  cases url
  cases other
  simp_all

end IsSpecial

end StaticSite.Url
