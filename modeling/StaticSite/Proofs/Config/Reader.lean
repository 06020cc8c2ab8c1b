import StaticSite.Config.Load

/-!
# Configurations that were read

A setting of a configuration that was read is the usual one or was read from a node
(`setting?_eq_some`), and so is the configuration itself (`eq_default_or_ofNode?_of_read`).
-/

namespace StaticSite.Config

theorem setting?_eq_some {α : Type} {entries : List (String × Yaml.Node)} {name : String}
    {read : Yaml.Node → Option α} {usual found : α}
    (h : setting? entries name read usual = some found) :
    found = usual ∨ ∃ node, read node = some found := by
  rw [setting?] at h
  split at h
  · exact .inl (Option.some.inj h).symm
  · exact .inr ⟨_, h⟩
  · cases h

/-- A configuration that was read is the one where nothing is set, or that of a node. -/
theorem eq_default_or_ofNode?_of_read {files : FileTree} {path : Path} {config : Config}
    (h : read files path = .ok config) :
    config = default ∨ ∃ node, ofNode? node = some config := by
  rw [read] at h
  split at h
  · split at h
    · cases h
    split at h
    · next hyaml =>
      obtain rfl := Except.ok.inj h
      unfold ofYaml? at hyaml
      split at hyaml
      · exact .inl (Option.some.inj hyaml).symm
      split at hyaml
      · cases hyaml
      · exact .inl (Option.some.inj hyaml).symm
      · exact .inr ⟨_, hyaml⟩
    · cases h
  · exact .inl (Except.ok.inj h).symm

/-- The retries of a configuration that was read have 32 bits. -/
theorem retries_le_of_read {files : FileTree} {path : Path} {config : Config}
    (h : read files path = .ok config) : config.retries ≤ maxRetries := by
  have hdefault : default.retries ≤ maxRetries := by decide
  obtain rfl | ⟨node, hnode⟩ := eq_default_or_ofNode?_of_read h
  · exact hdefault
  simp only [ofNode?, Option.bind_eq_bind, Option.bind_eq_some_iff] at hnode
  obtain ⟨_, -, _, -, _, -, _, -, _, -, retries, hretries, _, -, _, -, _, -, _, -, hconfig⟩ := hnode
  obtain rfl := Option.some.inj hconfig
  obtain rfl | ⟨node, hread⟩ := setting?_eq_some hretries
  · exact hdefault
  · unfold readCount? at hread
    split at hread
    · split at hread
      · exact of_decide_eq_true (Option.filter_eq_some_iff.mp hread).2
      · cases hread
    · cases hread

end StaticSite.Config
