import StaticSite.Proofs.Marker.Grammar
import StaticSite.Proofs.Text.Table

/-!
# Reading a marker inside a text

The grammar of markers, applied at a position of a text: a marker is read there exactly if some part
of the text that begins there spells it, and reading goes on where that part ends
(`read?_drop_iff`). The parameters of a reference are the last ones that its segments give to their
keys (`spellsReference_iff`).
-/

namespace StaticSite.Marker

variable {r : Reference} {source rest : List Char} {marker : Meaning}

theorem addParams_nil_eq (segments : List Segment) :
    addParams [] segments = Table.ofList (segments.map Segment.param) := by
  rw [addParams, Table.ofList, List.foldl_map]

/-- The spellings of a reference, with its parameters said by what is found in them: the value of
the last segment with the key. -/
theorem spellsReference_iff : SpellsReference r source ↔
    ∃ before name after : List Char, ∃ segments : List Segment,
      source = opening ++ (before ++ (name ++ (after ++
        (segments.flatMap Segment.source ++ closing)))) ∧
      (∀ c ∈ before ++ after, Text.isBlank c) ∧ name ≠ [] ∧ (∀ c ∈ name, isNameChar c) ∧
      (∀ segment ∈ segments, segment.WellFormed) ∧
      r.name = String.ofList name ∧ r.params.IsSorted ∧
      ∀ key, r.params.get? key = (segments.map Segment.param).reverse.lookup key := by
  constructor
  · rintro @⟨before, name, after, segments, hbefore, hname, hchars, hafter, hwf⟩
    refine ⟨before, name, after, segments, rfl, ?_, hname, hchars, hwf, rfl,
      Table.eq_ofList_iff.mp (addParams_nil_eq segments)⟩
    exact fun c hc ↦ (List.mem_append.mp hc).elim (hbefore c) (hafter c)
  · rintro ⟨before, name, after, segments, rfl, hblank, hname, hchars, hwf, hrname, hparams⟩
    have hr : r = ⟨String.ofList name, addParams [] segments⟩ := by
      obtain ⟨rname, params⟩ := r
      rw [addParams_nil_eq, ← Table.eq_ofList_iff.mpr hparams]
      exact congrArg (Reference.mk · params) hrname
    rw [hr]
    exact .intro (fun c hc ↦ hblank c (List.mem_append_left _ hc)) hname hchars
      (fun c hc ↦ hblank c (List.mem_append_right _ hc)) hwf

/-- The text from a position on begins with a part that is not empty exactly if the part ends at a
position of the text. -/
private theorem drop_eq_append_iff {text : List Char} {start : Nat} (hsource : source ≠ []) :
    text.drop start = source ++ rest ↔ ∃ stop, start ≤ stop ∧ stop ≤ text.length ∧
      text.extract start stop = source ∧ text.drop stop = rest := by
  constructor
  · intro h
    have hlen := congrArg List.length h
    have hpos := List.length_pos_iff.mpr hsource
    simp only [List.length_drop, List.length_append] at hlen
    refine ⟨start + source.length, by omega, by omega, ?_, ?_⟩
    · rw [List.extract_eq_take_drop, h, Nat.add_sub_cancel_left, List.take_left]
    · rw [← List.drop_drop, h, List.drop_left]
  · rintro ⟨stop, hstart, -, rfl, rfl⟩
    have hstop : start + (stop - start) = stop := by omega
    rw [List.extract_eq_take_drop, ← hstop, Nat.add_sub_cancel_left, ← List.drop_drop,
      List.take_append_drop]

theorem Spells.ne_nil (h : Spells marker source) : source ≠ [] := by
  obtain ⟨body, rfl⟩ := h.head_eq
  exact List.cons_ne_nil _ _

/-- A marker is read at a position exactly if a part of the text from there on spells it. -/
theorem read?_drop_eq_some_iff {text : List Char} {start : Nat} :
    read? (text.drop start) = some (marker, rest) ↔ ∃ stop, start ≤ stop ∧ stop ≤ text.length ∧
      Spells marker (text.extract start stop) ∧ text.drop stop = rest := by
  rw [read?_eq_some_iff]
  constructor
  · rintro ⟨source, hspells, htext⟩
    obtain ⟨stop, hstart, hstop, rfl, hrest⟩ := (drop_eq_append_iff hspells.ne_nil).mp htext
    exact ⟨stop, hstart, hstop, hspells, hrest⟩
  · rintro ⟨stop, hstart, hstop, hspells, hrest⟩
    exact ⟨_, hspells, (drop_eq_append_iff hspells.ne_nil).mpr ⟨stop, hstart, hstop, rfl, hrest⟩⟩

/-- What is read at any position of any text: a reference exactly if the text from there up to some
position is a name with segments behind bars, a placeholder exactly if it is an identifier with or
without a fallback, and nothing exactly if it is neither, wherever it ends. The text behind that
position is what is left. -/
theorem read?_drop_iff (text : List Char) (start : Nat) :
    (∀ r rest, read? (text.drop start) = some (.reference r, rest) ↔
      ∃ stop, start ≤ stop ∧ stop ≤ text.length ∧ text.drop stop = rest ∧
        ∃ before name after : List Char, ∃ segments : List Segment,
          text.extract start stop = opening ++ (before ++ (name ++ (after ++
            (segments.flatMap Segment.source ++ closing)))) ∧
          (∀ c ∈ before ++ after, Text.isBlank c) ∧ name ≠ [] ∧ (∀ c ∈ name, isNameChar c) ∧
          (∀ segment ∈ segments, segment.WellFormed) ∧
          r.name = String.ofList name ∧ r.params.IsSorted ∧
          ∀ key, r.params.get? key = (segments.map Segment.param).reverse.lookup key) ∧
    (∀ p rest, read? (text.drop start) = some (.placeholder p, rest) ↔
      ∃ stop, start ≤ stop ∧ stop ≤ text.length ∧ text.drop stop = rest ∧
        SpellsPlaceholder p (text.extract start stop)) ∧
    (read? (text.drop start) = none ↔
      ∀ stop, start ≤ stop → stop ≤ text.length → ∀ marker,
        ¬ Spells marker (text.extract start stop)) := by
  refine ⟨fun r rest ↦ ?_, fun p rest ↦ ?_, ?_⟩
  · rw [read?_drop_eq_some_iff]
    simp only [Spells, spellsReference_iff]
    exact exists_congr fun stop ↦ by tauto
  · rw [read?_drop_eq_some_iff]
    exact exists_congr fun stop ↦ by rw [Spells]; tauto
  · rw [Option.eq_none_iff_forall_ne_some]
    constructor
    · intro h stop hstart hstop marker hspells
      exact h (marker, text.drop stop)
        (read?_drop_eq_some_iff.mpr ⟨stop, hstart, hstop, hspells, rfl⟩)
    · rintro h ⟨marker, rest⟩ hread
      obtain ⟨stop, hstart, hstop, hspells, -⟩ := read?_drop_eq_some_iff.mp hread
      exact h stop hstart hstop marker hspells

end StaticSite.Marker
