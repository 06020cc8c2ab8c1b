import StaticSite.Proofs.Text.Split
import StaticSite.Url.Host

/-!
# Texts of hosts

A host that was read under a special scheme is known by its text (`write_injective`): an address of
32 bits is known by its four numbers, the groups of an address in brackets are known although a run
of zeros is left out of them, and no domain name looks like an address.
-/

namespace StaticSite.Url

open Text

variable {base n : Nat} {c : Char} {text rest : List Char}

/-! ## Digits -/

theorem digitChar_injective {a b : Nat} (ha : a < 16) (hb : b < 16)
    (h : a.digitChar = b.digitChar) : a = b := by
  have hall : ∀ a < 16, ∀ b < 16, a.digitChar = b.digitChar → a = b := by decide
  exact hall a ha b hb h

/-- A number is known by its digits. -/
theorem toDigits_injective (hbase : 1 < base) (hle : base ≤ 16) :
    Function.Injective (Nat.toDigits base) := by
  intro a b h
  induction a using Nat.strong_induction_on generalizing b with
  | _ a ih =>
    have hlast (k : Nat) : k % base < 16 := lt_of_lt_of_le (Nat.mod_lt k (by omega)) hle
    rw [Nat.toDigits_eq_if hbase, Nat.toDigits_eq_if hbase (n := b)] at h
    split_ifs at h with ha hb hb
    · exact digitChar_injective (by omega) (by omega) (List.singleton_inj.mp h)
    · exact absurd (congrArg List.length h) (by simp [Nat.toDigits_ne_nil])
    · exact absurd (congrArg List.length h) (by simp [Nat.toDigits_ne_nil])
    · obtain ⟨hfront, hdigit⟩ := List.append_inj' h rfl
      have hquotient := ih (a / base) (Nat.div_lt_self (by omega) hbase) hfront
      have hremainder := digitChar_injective (hlast a) (hlast b) (List.singleton_inj.mp hdigit)
      rw [← Nat.div_add_mod a base, ← Nat.div_add_mod b base, hquotient, hremainder]

theorem exists_of_mem_toDigits (hbase : 1 < base) (hle : base ≤ 16) (h : c ∈ Nat.toDigits base n) :
    ∃ digit < 16, digit.digitChar = c := by
  induction n using Nat.strong_induction_on with
  | _ n ih =>
    rw [Nat.toDigits_eq_if hbase] at h
    split_ifs at h with hn
    · exact ⟨n, by omega, (List.mem_singleton.mp h).symm⟩
    · rcases List.mem_append.mp h with h | h
      · exact ih (n / base) (Nat.div_lt_self (by omega) hbase) h
      · exact ⟨n % base, lt_of_lt_of_le (Nat.mod_lt n (by omega)) hle,
          (List.mem_singleton.mp h).symm⟩

/-- Digits are letters and digits of ASCII. -/
theorem isAlphanum_of_mem_toDigits (hbase : 1 < base) (hle : base ≤ 16)
    (h : c ∈ Nat.toDigits base n) : c.isAlphanum := by
  obtain ⟨digit, hdigit, rfl⟩ := exists_of_mem_toDigits hbase hle h
  have hall : ∀ digit < 16, digit.digitChar.isAlphanum := by decide
  exact hall digit hdigit

theorem notMem_toDigits (hc : c.isAlphanum = false) (hbase : 1 < base) (hle : base ≤ 16) :
    c ∉ Nat.toDigits base n := fun hmem ↦ by
  rw [isAlphanum_of_mem_toDigits hbase hle hmem] at hc
  cases hc

/-! ## Addresses of four numbers -/

/-- The four numbers of an address. -/
def bytesOf (address : Nat) : List Nat := [3, 2, 1, 0].map fun i ↦ address / Nat.pow 256 i % 256

theorem splitOn_writeIpv4 (address : Nat) :
    splitOn '.' (writeIpv4 address) = (bytesOf address).map (Nat.toDigits 10) := by
  have hwrite : writeIpv4 address = joinWith ['.'] ((bytesOf address).map (Nat.toDigits 10)) := rfl
  rw [hwrite, splitOn_joinWith (by simp [bytesOf])]
  intro field hfield
  obtain ⟨n, -, rfl⟩ := List.mem_map.mp hfield
  exact notMem_toDigits (by decide) (by decide) (by decide)

theorem writeIpv4_injective {a b : Nat} (ha : a < 2 ^ 32) (hb : b < 2 ^ 32)
    (h : writeIpv4 a = writeIpv4 b) : a = b := by
  have hbytes : bytesOf a = bytesOf b := by
    refine (toDigits_injective (show 1 < 10 by decide) (by decide)).list_map ?_
    rw [← splitOn_writeIpv4, ← splitOn_writeIpv4, h]
  simp [bytesOf] at hbytes
  omega

theorem mem_writeIpv4 {address : Nat} (h : c ∈ writeIpv4 address) : c.isAlphanum ∨ c = '.' := by
  rcases mem_joinWith h with rfl | ⟨piece, hpiece, hc⟩
  · exact .inr rfl
  · obtain ⟨i, -, rfl⟩ := List.mem_map.mp hpiece
    exact .inl (isAlphanum_of_mem_toDigits (by decide) (by decide) hc)

/-- The last label of an address is a number. -/
theorem endsInNumber_writeIpv4 (address : Nat) : endsInNumber (writeIpv4 address) := by
  have hlabels : addressLabels (writeIpv4 address) = (bytesOf address).map (Nat.toDigits 10) := by
    simp [addressLabels, splitOn_writeIpv4, bytesOf, Nat.toDigits_ne_nil]
  have hdigits (n : Nat) : (Nat.toDigits 10 n).all Char.isDigit :=
    List.all_eq_true.mpr fun c hc ↦ Nat.isDigit_of_mem_toDigits (by decide) (by decide) hc
  simp [endsInNumber, hlabels, bytesOf, hdigits, Nat.toDigits_ne_nil]

/-- The number that bytes make up together with a last number, the first one counted from a place.
-/
private theorem foldl_bytes_lt {front : List Nat} {place last : Nat} (hbytes : ∀ n ∈ front, n ≤ 255)
    (hplace : place + front.length ≤ 3) (hlast : last < 256 ^ (4 - place - front.length)) :
    (front.zipIdx place).foldl (fun sum (n, i) ↦ sum + n * 256 ^ (3 - i)) last <
      256 ^ (4 - place) := by
  induction front generalizing place last with
  | nil => exact hlast
  | cons n front ih =>
    obtain ⟨hn, hbytes⟩ := List.forall_mem_cons.mp hbytes
    have hshift (s x : Nat) (l : List (Nat × Nat)) :
        l.foldl (fun sum (n, i) ↦ sum + n * 256 ^ (3 - i)) (s + x) =
          l.foldl (fun sum (n, i) ↦ sum + n * 256 ^ (3 - i)) s + x := by
      induction l generalizing s with
      | nil => rfl
      | cons p l ih => rw [List.foldl_cons, List.foldl_cons, ← ih, Nat.add_right_comm]
    rw [List.length_cons] at hplace hlast
    have hrest := @ih (place + 1) last hbytes (by omega)
      (by rwa [Nat.sub_sub, Nat.add_assoc, Nat.add_comm 1, ← Nat.sub_sub])
    rw [List.zipIdx_cons, List.foldl_cons, hshift]
    have hexponent : 4 - place = (3 - place) + 1 := by omega
    have hlater : 4 - (place + 1) = 3 - place := by omega
    rw [hlater] at hrest
    rw [hexponent, Nat.pow_succ]
    calc _ < 256 ^ (3 - place) + n * 256 ^ (3 - place) := Nat.add_lt_add_right hrest _
      _ = (n + 1) * 256 ^ (3 - place) := by rw [Nat.add_mul, Nat.one_mul, Nat.add_comm]
      _ ≤ 256 * 256 ^ (3 - place) := Nat.mul_le_mul_right _ (by omega)
      _ = 256 ^ (3 - place) * 256 := Nat.mul_comm _ _

theorem lt_of_readIpv4? {address : Nat} (h : readIpv4? text = some address) : address < 2 ^ 32 := by
  simp only [readIpv4?, Option.bind_eq_bind, Option.bind_eq_some_iff] at h
  obtain ⟨numbers, -, last, -, h⟩ := h
  generalize numbers.dropLast = front at h
  split_ifs at h with hrange
  simp only [Bool.or_eq_true, decide_eq_true_eq, not_or, not_lt, List.any_eq_true, not_exists,
    not_and, ge_iff_le, not_le] at hrange
  obtain ⟨⟨hlength, hbytes⟩, hlast⟩ := hrange
  rw [← Option.some.inj h]
  have hbound : 2 ^ 32 = 256 ^ (4 - 0) := by norm_num
  rw [hbound]
  exact foldl_bytes_lt hbytes (by omega) hlast

/-! ## Addresses in brackets -/

/-- Groups with colons between them. -/
def groupsText (groups : List Nat) : List Char := joinWith [':'] (groups.map (Nat.toDigits 16))

variable {groups : List Nat}

private theorem colon_notMem_toDigits : ∀ field ∈ groups.map (Nat.toDigits 16), ':' ∉ field := by
  intro field hfield
  obtain ⟨n, -, rfl⟩ := List.mem_map.mp hfield
  exact notMem_toDigits (by decide) (by decide) (by decide)

theorem splitOn_groupsText (h : groups ≠ []) :
    splitOn ':' (groupsText groups) = groups.map (Nat.toDigits 16) :=
  splitOn_joinWith (by simpa using h) colon_notMem_toDigits

theorem groupsText_eq_nil_iff : groupsText groups = [] ↔ groups = [] := by
  constructor
  · intro h
    by_contra hne
    have hsplit := splitOn_groupsText hne
    rw [h] at hsplit
    have hnil : [] ∈ groups.map (Nat.toDigits 16) := by simp [← hsplit, splitOn]
    obtain ⟨n, -, hn⟩ := List.mem_map.mp hnil
    exact Nat.toDigits_ne_nil hn
  · rintro rfl
    rfl

/-- Groups are known by their text. -/
theorem groupsText_injective : Function.Injective groupsText := by
  intro a b h
  by_cases ha : a = []
  · subst ha
    exact (groupsText_eq_nil_iff.mp h.symm).symm
  · have hb : b ≠ [] := fun hb ↦
      ha (groupsText_eq_nil_iff.mp (h.trans (groupsText_eq_nil_iff.mpr hb)))
    refine (toDigits_injective (show 1 < 16 by decide) (by decide)).list_map ?_
    rw [← splitOn_groupsText ha, ← splitOn_groupsText hb, h]

/-- Where a separator stands twice in a row there is an empty field, and another field behind. -/
theorem nil_mem_dropLast_splitOn (h : [c, c] <:+: text) : [] ∈ (splitOn c text).dropLast := by
  obtain ⟨front, back, rfl⟩ := h
  have hsplit : splitOn c (front ++ [c, c] ++ back) = splitOn c front ++ [] :: splitOn c back := by
    rw [List.append_assoc, List.cons_append, splitOn_append_separator, List.singleton_append,
      splitOn, if_pos rfl]
  rw [hsplit, List.dropLast_append_of_ne_nil (by simp), List.dropLast_cons_of_ne_nil
    (splitOn_ne_nil c back)]
  simp

/-- No group is empty, so colons stand alone among groups, even with one more behind. -/
theorem not_isInfix_groupsText : ¬ [':', ':'] <:+: groupsText groups ++ [':'] := by
  intro h
  by_cases hne : groups = []
  · subst hne
    exact absurd h.length_le (by simp [groupsText, joinWith])
  · have hnil := nil_mem_dropLast_splitOn h
    rw [splitOn_append_separator, splitOn_groupsText hne, splitOn, List.dropLast_concat] at hnil
    obtain ⟨n, -, hn⟩ := List.mem_map.mp hnil
    exact Nat.toDigits_ne_nil hn

theorem zerosAtFront_spec (groups : List Nat) :
    groups = List.replicate (zerosAtFront groups) 0 ++ groups.drop (zerosAtFront groups) := by
  induction groups with
  | nil => rfl
  | cons g groups ih =>
    by_cases hg : g = 0
    · have hcount : zerosAtFront (g :: groups) = zerosAtFront groups + 1 := by
        simp [zerosAtFront, hg]
      rw [hcount, List.replicate_succ, List.drop_succ_cons, List.cons_append, ← ih, hg]
    · simp [zerosAtFront, hg]

/-- What is found as the longest run is a run of zeros. -/
theorem longestZeros_spec {position place count : Nat}
    (h : longestZeros position groups = (place, count)) :
    ∃ front back, groups = front ++ (List.replicate count 0 ++ back) ∧
      (0 < count → place = position + front.length) := by
  induction groups generalizing position place count with
  | nil =>
    obtain ⟨rfl, rfl⟩ := Prod.mk.inj h
    exact ⟨[], [], rfl, by simp⟩
  | cons g groups ih =>
    rw [longestZeros] at h
    rcases hrest : longestZeros (position + 1) groups with ⟨later, more⟩
    simp only [hrest] at h
    split_ifs at h
    · obtain ⟨rfl, rfl⟩ := Prod.mk.inj h
      exact ⟨[], _, zerosAtFront_spec (g :: groups), by simp⟩
    · obtain ⟨rfl, rfl⟩ := Prod.mk.inj h
      obtain ⟨front, back, hgroups, hplace⟩ := ih hrest
      refine ⟨g :: front, back, by rw [hgroups]; rfl, fun hcount ↦ ?_⟩
      rw [hplace hcount, List.length_cons]
      omega

/-- All groups are written, or a run of zeros is left out of them. -/
theorem writeIpv6_cases (groups : List Nat) :
    writeIpv6 groups = groupsText groups ∨ ∃ front count back,
      groups = front ++ (List.replicate count 0 ++ back) ∧
        writeIpv6 groups = groupsText front ++ [':', ':'] ++ groupsText back := by
  rcases hzeros : longestZeros 0 groups with ⟨place, count⟩
  obtain ⟨front, back, hgroups, hplace⟩ := longestZeros_spec hzeros
  rw [writeIpv6, hzeros]
  by_cases hcount : count < 2
  · exact .inl (if_pos hcount)
  · refine .inr ⟨front, count, back, hgroups, ?_⟩
    obtain rfl : place = front.length := by simpa using hplace (by omega)
    have hfront : groups.take front.length = front := by rw [hgroups, List.take_left]
    have hback : groups.drop (front.length + count) = back := by
      rw [hgroups, ← List.drop_drop, List.drop_left]
      exact List.drop_left' (by simp)
    simp only [if_neg hcount, hfront, hback]
    rfl

theorem mem_writeIpv6 (h : c ∈ writeIpv6 groups) : c.isAlphanum ∨ c = ':' := by
  have hgroups {groups : List Nat} (h : c ∈ groupsText groups) : c.isAlphanum ∨ c = ':' := by
    rcases mem_joinWith h with rfl | ⟨piece, hpiece, hc⟩
    · exact .inr rfl
    · obtain ⟨n, -, rfl⟩ := List.mem_map.mp hpiece
      exact .inl (isAlphanum_of_mem_toDigits (by decide) (by decide) hc)
  rcases writeIpv6_cases groups with hwrite | ⟨front, count, back, -, hwrite⟩
  · exact hgroups (hwrite ▸ h)
  · rw [hwrite, List.mem_append, List.mem_append] at h
    rcases h with (h | h) | h
    · exact hgroups h
    · exact .inr (by simpa using h)
    · exact hgroups h

/-- Eight groups are known by their text. -/
theorem writeIpv6_injective {a b : List Nat} (ha : a.length = 8) (hb : b.length = 8)
    (h : writeIpv6 a = writeIpv6 b) : a = b := by
  have hplain (groups front back : List Nat)
      (h : groupsText groups = groupsText front ++ [':', ':'] ++ groupsText back) : False := by
    have hsingle : ¬ [':', ':'] <:+: groupsText groups ++ [':'] := not_isInfix_groupsText
    exact hsingle ⟨groupsText front, groupsText back ++ [':'], by simp [h]⟩
  rcases writeIpv6_cases a with hwa | ⟨front, count, back, rfl, hwa⟩
  · rcases writeIpv6_cases b with hwb | ⟨front, count, back, rfl, hwb⟩
    · exact groupsText_injective (hwa ▸ hwb ▸ h)
    · exact (hplain a front back (hwa ▸ hwb ▸ h)).elim
  · rcases writeIpv6_cases b with hwb | ⟨front', count', back', rfl, hwb⟩
    · exact (hplain b front back (hwb ▸ hwa ▸ h.symm)).elim
    · have hfound (front back : List Nat) :
          breakOn? [':', ':'] (groupsText front ++ [':', ':'] ++ groupsText back) =
            some (groupsText front, groupsText back) :=
        (breakOn?_eq_some_iff (by simp)).mpr ⟨rfl, not_isInfix_groupsText⟩
      have hsame : some (groupsText front, groupsText back) =
          some (groupsText front', groupsText back') := by
        rw [← hfound, ← hfound, ← hwa, ← hwb, h]
      obtain ⟨hfront, hback⟩ := Prod.mk.inj (Option.some.inj hsame)
      obtain rfl := groupsText_injective hfront
      obtain rfl := groupsText_injective hback
      simp only [List.length_append, List.length_replicate] at ha hb
      obtain rfl : count = count' := by omega
      rfl

/-! ## Hosts -/

namespace Host

/-- What holds of a host that was read under a special scheme. -/
def IsCanonical : Host → Prop
  | .domain name => (∀ c ∈ name.toList, isForbiddenInDomain c = false) ∧ ¬ endsInNumber name.toList
  | .ipv4 address => address < 2 ^ 32
  | .ipv6 groups => groups.length = 8

theorem length_of_readIpv6? {groups : List Nat} (h : readIpv6? text = some groups) :
    groups.length = 8 := by
  rw [readIpv6?] at h
  split at h
  · split at h
    · split_ifs at h with hlength
      rwa [← Option.some.inj h]
    · cases h
  · split_ifs at h
    split at h
    · split_ifs at h with hlength
      rw [← Option.some.inj h]
      simp only [List.length_append, List.length_replicate]
      omega
    · cases h

/-- What is read as a host under a special scheme is canonical. -/
theorem isCanonical_of_readSpecial? {host : Host} (h : readSpecial? text = some host) :
    host.IsCanonical := by
  unfold readSpecial? at h
  split at h
  · rw [readBracketed?] at h
    split_ifs at h
    obtain ⟨groups, hgroups, rfl⟩ := Option.map_eq_some_iff.mp h
    exact length_of_readIpv6? hgroups
  · simp only [Option.bind_eq_bind, Option.bind_eq_some_iff] at h
    obtain ⟨decoded, -, name, hname, h⟩ := h
    split_ifs at h with hempty hnumber
    · obtain ⟨address, haddress, rfl⟩ := Option.map_eq_some_iff.mp h
      exact lt_of_readIpv4? haddress
    · obtain rfl := Option.some.inj h
      simp only [domainToAscii?, Option.bind_eq_bind, Option.bind_eq_some_iff] at hname
      obtain ⟨labels, -, hname⟩ := hname
      split_ifs at hname with hforbidden
      obtain rfl := Option.some.inj hname
      rw [IsCanonical, String.toList_ofList]
      exact ⟨by simpa using hforbidden, hnumber⟩

variable {host other : Host}

theorem notMem_write (h : host.IsCanonical) (hforbidden : isForbiddenInDomain c)
    (halnum : c.isAlphanum = false) (hmarks : c ∉ ['.', ':', '[', ']']) : c ∉ host.write := by
  simp only [List.mem_cons, List.not_mem_nil, or_false, not_or] at hmarks
  intro hmem
  cases host with
  | domain name => simp [h.1 c hmem] at hforbidden
  | ipv4 address =>
    rcases mem_writeIpv4 hmem with hc | hc
    · simp [hc] at halnum
    · exact hmarks.1 hc
  | ipv6 groups =>
    simp only [write, List.cons_append, List.mem_cons, List.mem_append, List.not_mem_nil,
      or_false] at hmem
    rcases hmem with hc | hmem | hc
    · exact hmarks.2.2.1 hc
    · rcases mem_writeIpv6 hmem with hc | hc
      · simp [hc] at halnum
      · exact hmarks.2.1 hc
    · exact hmarks.2.2.2 hc

/-- Canonical hosts are known by their texts. -/
theorem write_injective (h : host.IsCanonical) (hother : other.IsCanonical)
    (hwrite : host.write = other.write) : host = other := by
  -- Only an address in brackets begins with a bracket.
  have hbracket {name : String} {groups : List Nat} (hname : (domain name).IsCanonical) :
      (domain name).write ≠ (ipv6 groups).write := fun hsame ↦ by
    have hforbidden := hname.1 '[' (show '[' ∈ (domain name).write by rw [hsame]; simp [write])
    exact absurd hforbidden (by decide)
  have hdigits {address : Nat} {groups : List Nat} :
      (ipv4 address).write ≠ (ipv6 groups).write := fun hsame ↦ by
    have hmem : '[' ∈ writeIpv4 address :=
      show '[' ∈ (ipv4 address).write by rw [hsame]; simp [write]
    exact absurd (mem_writeIpv4 hmem) (by decide)
  have hnumber {name : String} {address : Nat} (hname : (domain name).IsCanonical) :
      (domain name).write ≠ (ipv4 address).write := fun hsame ↦ by
    have hends := endsInNumber_writeIpv4 address
    rw [show writeIpv4 address = name.toList from hsame.symm] at hends
    exact hname.2 hends
  cases host with
  | domain name =>
    cases other with
    | domain name' => rw [String.toList_injective hwrite]
    | ipv4 address => exact absurd hwrite (hnumber h)
    | ipv6 groups => exact absurd hwrite (hbracket h)
  | ipv4 address =>
    cases other with
    | domain name => exact absurd hwrite.symm (hnumber hother)
    | ipv4 address' => rw [writeIpv4_injective h hother hwrite]
    | ipv6 groups => exact absurd hwrite hdigits
  | ipv6 groups =>
    cases other with
    | domain name => exact absurd hwrite.symm (hbracket hother)
    | ipv4 address => exact absurd hwrite.symm hdigits
    | ipv6 groups' =>
      have hgroups : writeIpv6 groups = writeIpv6 groups' := by simpa [write] using hwrite
      rw [writeIpv6_injective h hother hgroups]

end Host

end StaticSite.Url
