import StaticSite.Config.Environment
import StaticSite.Proofs.Text.Digits
import StaticSite.Proofs.Text.Search

/-!
# Values of the environment

A value of the environment is read as a truth value or a number wherever it can be, and written out
again where a text is asked for. `IsVerbatim` lists the texts that this leaves as they are
(`toText_ofText_eq_iff`): a truth value in lower case, a whole number without a plus and without a
zero in front, any other number in its shortest form, and all that reads as neither. Every text with
a character that no number has, such as a slash, is among them (`isVerbatim_of_mem`).
-/

namespace StaticSite.Config

variable {s : String} {text : List Char} {c : Char}

/-! ## Whole numbers -/

/-- Whether a whole number is spelled without a plus and without a zero in front. -/
def IsPlainInteger : List Char → Prop
  | '+' :: _ => False
  | '-' :: digits => digits.head? ≠ some '0'
  | digits => Text.IsTight digits

/-- A number with a minus is written as it is spelled exactly if there is no zero in front; the
minus of zero is lost. -/
private theorem writeInt_neg_eq_iff {digits : List Char} {m : Nat}
    (hread : Text.readNat? digits = some m) :
    Json.writeInt (-(m : Int)) = '-' :: digits ↔ digits.head? ≠ some '0' := by
  have htight := Text.toDigits_eq_iff hread
  cases m with
  | zero =>
    have hzero : digits.head? = some '0' := by
      by_contra hhead
      have hdigits := htight.mpr fun h ↦ absurd h hhead
      exact hhead (hdigits ▸ rfl)
    have hwritten : Json.writeInt (-((0 : Nat) : Int)) = ['0'] := rfl
    rw [hwritten, hzero]
    simp
  | succ m =>
    have hwritten : Json.writeInt (-((m + 1 : Nat) : Int)) = '-' :: Nat.toDigits 10 (m + 1) := rfl
    rw [hwritten, List.cons.injEq, and_iff_right rfl, htight]
    refine ⟨fun hone hzero ↦ ?_, fun hzero h ↦ absurd h hzero⟩
    rw [hone hzero] at hread
    exact absurd (Option.some.inj hread) (by simp)

/-- What is written for a natural number does not begin with a sign. -/
private theorem toDigits_ne_cons (hc : ¬ c.isDigit) (m : Nat) : Nat.toDigits 10 m ≠ c :: text :=
  fun h ↦ hc (Nat.isDigit_of_mem_toDigits (by decide) (by decide) (h ▸ List.mem_cons_self))

private theorem map_cast (number? : Option Nat) :
    (do let m ← number?; pure (m : Int)) = number?.map (↑) := by
  cases number? <;> rfl

/-- A whole number is spelled with digits, behind one sign or none. -/
theorem eq_of_readSigned? {n : Int} (h : readSigned? text = some n) :
    (∃ digits m, text = '-' :: digits ∧ Text.readNat? digits = some m ∧ n = -(m : Int)) ∨
      (∃ digits m, text = '+' :: digits ∧ Text.readNat? digits = some m ∧ n = m) ∨
      ∃ m, Text.readNat? text = some m ∧ n = m := by
  rw [readSigned?.eq_def] at h
  obtain ⟨hread, -⟩ := Option.filter_eq_some_iff.mp h
  split at hread <;> simp only [map_cast, Option.map_map, Option.map_eq_some_iff] at hread
  · next digits =>
    obtain ⟨m, hm, rfl⟩ := hread
    exact .inl ⟨digits, m, rfl, hm, rfl⟩
  · next digits =>
    obtain ⟨m, hm, rfl⟩ := hread
    exact .inr (.inl ⟨digits, m, rfl, hm, rfl⟩)
  · obtain ⟨m, hm, rfl⟩ := hread
    exact .inr (.inr ⟨m, hm, rfl⟩)

/-- A whole number is written as it is spelled exactly if it is spelled plainly. -/
theorem writeInt_eq_iff {n : Int} (h : readSigned? text = some n) :
    Json.writeInt n = text ↔ IsPlainInteger text := by
  obtain ⟨digits, m, rfl, hm, rfl⟩ | ⟨digits, m, rfl, -, rfl⟩ | ⟨m, hm, rfl⟩ := eq_of_readSigned? h
  · exact writeInt_neg_eq_iff hm
  · exact iff_of_false (toDigits_ne_cons (by decide) m) id
  · have hplain : IsPlainInteger text ↔ Text.IsTight text := by
      obtain ⟨-, hdigits, -⟩ := Text.readNat?_eq_some_iff.mp hm
      rw [IsPlainInteger.eq_def]
      split
      · exact absurd hdigits (by simp [Char.isDigit])
      · exact absurd hdigits (by simp [Char.isDigit])
      · rfl
    rw [hplain]
    exact Text.toDigits_eq_iff hm

/-! ## Texts that stay as they are -/

/-- Whether a text reads as a truth value. -/
def IsTruth (s : String) : Prop := lowerText s = "true" ∨ lowerText s = "false"

instance : Decidable (IsTruth s) := inferInstanceAs (Decidable (_ ∨ _))

/-- Whether a text of the environment is the same after it has been read as a value and written
again. -/
inductive IsVerbatim (s : String) : Prop where
  /-- A truth value in lower case. -/
  | truth (h : s = "true" ∨ s = "false")
  /-- A whole number that is spelled plainly. -/
  | whole {n : Int} (hword : ¬ IsTruth s) (hread : readSigned? s.toList = some n)
      (hplain : IsPlainInteger s.toList)
  /-- Another number in the form in which it is written. -/
  | number {x : Float} (hword : ¬ IsTruth s) (hwhole : readSigned? s.toList = none)
      (hread : readNumber? s.toList = some x) (hwritten : Decimal.write .page x = s.toList)
  /-- What is neither a truth value nor a number. -/
  | other (hword : ¬ IsTruth s) (hwhole : readSigned? s.toList = none)
      (hnumber : readNumber? s.toList = none)

theorem ofText_of_not_isTruth (h : ¬ IsTruth s) : Setting.ofText s =
    match readSigned? s.toList with
    | some n => .int n
    | none =>
      match readNumber? s.toList with
      | some x => .float x
      | none => .text s := by
  rw [IsTruth, not_or] at h
  rw [Setting.ofText]
  split
  · next htrue => exact absurd htrue h.1
  · next hfalse => exact absurd hfalse h.2
  · rfl

private theorem ofList_eq_iff : String.ofList text = s ↔ text = s.toList := by
  rw [← String.toList_inj, String.toList_ofList]

theorem IsVerbatim.toText_ofText (h : IsVerbatim s) : (Setting.ofText s).toText = s := by
  cases h with
  | truth h => obtain rfl | rfl := h <;> decide +kernel
  | whole hword hread hplain =>
    rw [ofText_of_not_isTruth hword, hread]
    exact ofList_eq_iff.mpr ((writeInt_eq_iff hread).mpr hplain)
  | number hword hwhole hread hwritten =>
    rw [ofText_of_not_isTruth hword, hwhole, hread]
    exact ofList_eq_iff.mpr hwritten
  | other hword hwhole hnumber => rw [ofText_of_not_isTruth hword, hwhole, hnumber, Setting.toText]

/-- A text is the same after it has been read as a value and written again exactly if it is
verbatim. -/
theorem toText_ofText_eq_iff (s : String) : (Setting.ofText s).toText = s ↔ IsVerbatim s := by
  refine ⟨fun h ↦ ?_, IsVerbatim.toText_ofText⟩
  by_cases hword : IsTruth s
  · have hlower : (Setting.ofText s).toText = lowerText s := by
      obtain hlower | hlower := hword <;> rw [Setting.ofText, hlower] <;> rfl
    rw [IsTruth, ← hlower, h] at hword
    exact .truth hword
  rw [ofText_of_not_isTruth hword] at h
  cases hwhole : readSigned? s.toList with
  | some n =>
    rw [hwhole] at h
    exact .whole hword hwhole ((writeInt_eq_iff hwhole).mp (ofList_eq_iff.mp h))
  | none =>
    cases hnumber : readNumber? s.toList with
    | some x =>
      rw [hwhole, hnumber] at h
      exact .number hword hwhole hnumber (ofList_eq_iff.mp h)
    | none => exact .other hword hwhole hnumber

/-! ## Texts with a character that no number has -/

/-- Whether a character can stand in a truth value or a number. -/
def isNumeral (c : Char) : Bool := c.isAlphanum || c == '+' || c == '-' || c == '.'

private theorem isNumeral_of_isDigit (h : c.isDigit) : isNumeral c := by
  simp [isNumeral, Char.isAlphanum, h]

private theorem isNumeral_of_toLower (h : isNumeral c.toLower) : isNumeral c := by
  by_cases hupper : c.isUpper
  · simp [isNumeral, Char.isAlphanum, Char.isAlpha, hupper]
  · rwa [Char.toLower_eq_of_not_isUpper hupper] at h

private theorem all_isNumeral_of_readNat? {n : Nat} (h : Text.readNat? text = some n) :
    text.all isNumeral := by
  obtain ⟨-, hdigits, -⟩ := Text.readNat?_eq_some_iff.mp h
  rw [List.all_eq_true] at hdigits ⊢
  exact fun c hc ↦ isNumeral_of_isDigit (hdigits c hc)

private theorem all_isNumeral_of_readSigned? {n : Int} (h : readSigned? text = some n) :
    text.all isNumeral := by
  obtain ⟨digits, m, rfl, hm, -⟩ | ⟨digits, m, rfl, hm, -⟩ | ⟨m, hm, -⟩ := eq_of_readSigned? h
  · simpa [isNumeral] using all_isNumeral_of_readNat? hm
  · simpa [isNumeral] using all_isNumeral_of_readNat? hm
  · exact all_isNumeral_of_readNat? hm

private theorem all_isNumeral_of_readExponent? {e : Int} (h : Decimal.readExponent? text = some e) :
    text.all isNumeral := by
  rw [Decimal.readExponent?.eq_def] at h
  split at h
  · rfl
  · next mark rest =>
    split_ifs at h with hmark
    have hfirst : isNumeral mark := by
      obtain rfl | rfl := hmark <;> rfl
    rw [List.all_cons, hfirst, Bool.true_and]
    split at h <;> simp only [map_cast, Option.map_map, Option.map_eq_some_iff] at h
    all_goals
      obtain ⟨m, hm, -⟩ := h
      simpa [isNumeral] using all_isNumeral_of_readNat? hm

private theorem all_isNumeral_of_readDecimal? {d : Decimal.Number}
    (h : Decimal.readDecimal? text = some d) : text.all isNumeral := by
  have hspan (text : List Char) : ∃ digits rest, Decimal.digitSpan text = (digits, rest) ∧
      text = digits ++ rest ∧ digits.all isNumeral :=
    ⟨_, _, rfl, (Text.spanOf_append _ _).symm, List.all_eq_true.mpr fun c hc ↦
      isNumeral_of_isDigit (Text.all_spanOf_fst _ _ c hc)⟩
  rw [Decimal.readDecimal?.eq_def] at h
  obtain ⟨whole, rest, hwhole, rfl, hdigits⟩ := hspan text
  rw [hwhole] at h
  rw [List.all_append, hdigits, Bool.true_and]
  dsimp only at h
  split at h
  · next significand e hsignificand hexponent =>
    -- The rest is an exponent, behind a fraction or not.
    split at hexponent
    · next after =>
      obtain ⟨digits, rest, hafter, rfl, hfraction⟩ := hspan after
      rw [hafter] at hexponent
      simpa [isNumeral, hfraction] using all_isNumeral_of_readExponent? hexponent
    · exact all_isNumeral_of_readExponent? hexponent
  · cases h

private theorem all_isNumeral_of_readUnsigned? {x : Float} (h : readUnsigned? text = some x) :
    text.all isNumeral := by
  have hname {name : String} (hlower : String.ofList (Text.asciiLower text) = name)
      (hall : name.toList.all isNumeral) : text.all isNumeral := by
    rw [← hlower, String.toList_ofList, Text.asciiLower, List.all_map] at hall
    rw [List.all_eq_true] at hall ⊢
    exact fun c hc ↦ isNumeral_of_toLower (hall c hc)
  rw [readUnsigned?] at h
  split_ifs at h with hinf hnan
  · rw [Bool.or_eq_true, beq_iff_eq, beq_iff_eq] at hinf
    obtain hinf | hinf := hinf
    · exact hname hinf (by decide)
    · exact hname hinf (by decide)
  · exact hname (eq_of_beq hnan) (by decide)
  · obtain ⟨d, hd, -⟩ := Option.map_eq_some_iff.mp h
    exact all_isNumeral_of_readDecimal? hd

private theorem all_isNumeral_of_readNumber? {x : Float} (h : readNumber? text = some x) :
    text.all isNumeral := by
  rw [readNumber?.eq_def] at h
  split at h
  · obtain ⟨y, hy, -⟩ := Option.map_eq_some_iff.mp h
    simpa [isNumeral] using all_isNumeral_of_readUnsigned? hy
  · simpa [isNumeral] using all_isNumeral_of_readUnsigned? h
  · exact all_isNumeral_of_readUnsigned? h

/-- A character of ASCII is in the lower case of a text, in lower case. -/
private theorem mem_lowerAfter (hc : c ∈ text) (hascii : c.toNat < 128) (before : List Char) :
    c.toLower ∈ Text.lowerAfter before text := by
  induction text generalizing before with
  | nil => exact absurd hc List.not_mem_nil
  | cons first text ih =>
    rw [Text.lowerAfter, List.mem_append]
    obtain rfl | htail := List.mem_cons.mp hc
    · left
      have hsigma : c.toNat ≠ 0x3A3 := by omega
      rw [if_neg hsigma, Text.lowerChar, if_pos hascii]
      exact List.mem_singleton_self _
    · exact .inr (ih htail _)

/-- A text with a character of ASCII that no number has, such as a slash or a colon, is left as it
is. -/
theorem isVerbatim_of_mem (hc : c ∈ s.toList) (hascii : c.toNat < 128) (hnone : ¬ isNumeral c) :
    IsVerbatim s := by
  have hread : ¬ s.toList.all isNumeral := fun hall ↦ hnone (List.all_eq_true.mp hall c hc)
  refine .other ?_ ?_ ?_
  · have hlower : ¬ (lowerText s).toList.all isNumeral := fun hall ↦ by
      rw [lowerText, String.toList_ofList] at hall
      exact hnone (isNumeral_of_toLower (List.all_eq_true.mp hall _ (mem_lowerAfter hc hascii [])))
    rintro (h | h) <;> rw [h] at hlower <;> exact hlower (by decide)
  · exact Option.eq_none_iff_forall_ne_some.mpr fun n h ↦ hread (all_isNumeral_of_readSigned? h)
  · exact Option.eq_none_iff_forall_ne_some.mpr fun x h ↦ hread (all_isNumeral_of_readNumber? h)

end StaticSite.Config
