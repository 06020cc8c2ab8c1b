import Mathlib.Logic.Relation
import StaticSite.Proofs.FileTree.Reading

/-!
# Changes to file trees

What the operations on file trees change, told by the files they leave: a write changes the file at
one place (`updates_write`), a removal takes away the file at one place (`updates_removeFile`), and
the making of directories changes no file (`extends_ensureDirectory`). None of them takes a
directory away, and all keep a tree closed.
-/

namespace StaticSite.FileTree

open StaticSite.Path

variable {tree tree₁ tree₂ : FileTree} {path : Path} {place : Place} {content : Option Content}

/-- Whether a tree has become another one of the same files by directories that were added. -/
structure Extends (tree tree₁ : FileTree) : Prop where
  current : tree₁.current = tree.current
  directory : ∀ place, tree.get? place = some .directory → tree₁.get? place = some .directory
  file? : ∀ place, tree₁.file? place = tree.file? place
  closed : tree.Closed → tree₁.Closed

/-- Whether a tree has become another one with a new content, or none, for the file at a place. -/
structure Updates (tree : FileTree) (place : Place) (content : Option Content)
    (tree₁ : FileTree) : Prop where
  current : tree₁.current = tree.current
  directory : ∀ place, tree.get? place = some .directory → tree₁.get? place = some .directory
  file? : ∀ other, tree₁.file? other = if other = place then content else tree.file? other
  closed : tree.Closed → tree₁.Closed

theorem Extends.refl (tree : FileTree) : tree.Extends tree :=
  ⟨rfl, fun _ h ↦ h, fun _ ↦ rfl, id⟩

theorem Extends.trans (h : tree.Extends tree₁) (h₁ : tree₁.Extends tree₂) : tree.Extends tree₂ where
  current := h₁.current.trans h.current
  directory place hplace := h₁.directory place (h.directory place hplace)
  file? place := (h₁.file? place).trans (h.file? place)
  closed := h₁.closed ∘ h.closed

theorem Extends.updates (h : tree.Extends tree₁) (h₁ : tree₁.Updates place content tree₂) :
    tree.Updates place content tree₂ where
  current := h₁.current.trans h.current
  directory place hplace := h₁.directory place (h.directory place hplace)
  file? other := by rw [h₁.file?, h.file?]
  closed := h₁.closed ∘ h.closed

/-- A tree without a file at a place is one from which this file is gone. -/
theorem Updates.of_none (h : tree.file? place = none) : tree.Updates place none tree where
  current := rfl
  directory _ hplace := hplace
  file? other := by
    split_ifs with hother
    · rw [hother, h]
    · rfl
  closed := id

/-- A path names the same place in all trees with the same current directory. -/
theorem placeOf_congr (h : tree₁.current = tree.current) : tree₁.placeOf path = tree.placeOf path := by
  rw [placeOf, placeOf, h]

theorem Passable.mono {start : Place} {components : List Component}
    (h : tree.Passable start components)
    (hdirectory : ∀ place, tree.get? place = some .directory → tree₁.get? place = some .directory) :
    tree₁.Passable start components := by
  induction components generalizing start with
  | nil => trivial
  | cons c components ih => exact ⟨fun name hname ↦ hdirectory _ (h.1 name hname), ih h.2⟩

/-! ## Writing and removing files -/

/-- The names on the way to the place of a path are names of files. -/
theorem Closed.isName_of_mem_placeOf (h : tree.Closed) {name : String}
    (hmem : name ∈ tree.placeOf path) : IsName name :=
  isName_of_mem_placeFrom h.currentName (fun _ ↦ isName_of_mem_components) hmem

theorem ne_nil_of_get?_ne (h : tree.get? place ≠ some .directory) : place ≠ [] := by
  rintro rfl
  exact h rfl

private theorem map_fst_put (entry : Entry) (entries : List (Place × Entry)) :
    (put place entry entries).map Prod.fst =
      if place ∈ entries.map Prod.fst then entries.map Prod.fst
      else entries.map Prod.fst ++ [place] := by
  induction entries with
  | nil => simp [put]
  | cons first rest ih =>
    obtain ⟨p, e⟩ := first
    by_cases hp : p = place
    · simp [put, hp]
    · simp only [put, if_neg hp, List.map_cons, ih, List.mem_cons, Ne.symm hp, false_or]
      split_ifs <;> rfl

/-- An entry may be set in a directory wherever no directory lies. -/
theorem Closed.set (h : tree.Closed) {entry : Entry} (hnames : ∀ name ∈ place, IsName name)
    (hdirectory : tree.get? place.dropLast = some .directory)
    (hplace : tree.get? place ≠ some .directory) : (tree.set place entry).Closed := by
  have hget (other : Place) := tree.get?_set other entry (ne_nil_of_get?_ne hplace)
  refine ⟨?_, ?_, ?_, h.currentName⟩
  · rw [FileTree.set, map_fst_put]
    split_ifs with hmem
    · exact h.distinct
    · exact h.distinct.append (List.nodup_singleton _) (by simpa using hmem)
  · intro other found hfound name hname
    rw [hget] at hfound
    split_ifs at hfound with hother
    · exact hnames name (hother ▸ hname)
    · exact h.isName _ _ hfound name hname
  · intro other found hfound
    rw [hget] at hfound ⊢
    split_ifs at hfound with hother
    · subst hother
      rw [if_neg, hdirectory]
      intro hsame
      exact hplace (hsame ▸ hdirectory)
    · have hparent := h.parent _ _ hfound
      rw [if_neg, hparent]
      rintro rfl
      exact hplace hparent

/-- A write needs a directory for the file, and none in its place. -/
private theorem set_of_write {written : Content} (h : tree.write path written = .ok tree₁) :
    tree.get? (tree.placeOf path) ≠ some .directory ∧
      tree.get? (tree.placeOf path).dropLast = some .directory ∧
      tree₁ = tree.set (tree.placeOf path) (.file written) := by
  rw [write] at h
  split at h
  · simp at h
  next place hlocate =>
    obtain rfl := placeOf_of_locate hlocate
    split_ifs at h with hdirectory hparent
    exact ⟨hdirectory, hparent, (Except.ok.inj h).symm⟩

/-- No write replaces a directory. -/
theorem not_directory_of_write {written : Content} (h : tree.write path written = .ok tree₁) :
    tree.get? (tree.placeOf path) ≠ some .directory :=
  (set_of_write h).1

private theorem get?_of_write {written : Content} (h : tree.write path written = .ok tree₁) :
    tree₁.get? place =
      if tree.placeOf path = place then some (.file written) else tree.get? place := by
  obtain ⟨hdirectory, -, rfl⟩ := set_of_write h
  exact tree.get?_set place _ (ne_nil_of_get?_ne hdirectory)

/-- A write makes no directory. -/
theorem directory_of_write {written : Content} (h : tree.write path written = .ok tree₁)
    (hplace : tree₁.get? place = some .directory) : tree.get? place = some .directory := by
  rw [get?_of_write h] at hplace
  split_ifs at hplace
  · simp at hplace
  · exact hplace

/-- A write sets the content of the file at the place of the path. -/
theorem updates_write {written : Content} (h : tree.write path written = .ok tree₁) :
    tree.Updates (tree.placeOf path) (some written) tree₁ := by
  have hget (other : Place) : tree₁.get? other = _ := get?_of_write h
  obtain ⟨hdirectory, hparent, rfl⟩ := set_of_write h
  refine ⟨rfl, fun other hother ↦ ?_, fun other ↦ ?_, fun hclosed ↦
    hclosed.set (fun _ ↦ hclosed.isName_of_mem_placeOf) hparent hdirectory⟩
  · rw [hget, if_neg, hother]
    rintro rfl
    exact hdirectory hother
  · simp only [file?, hget, eq_comm (a := other)]
    split_ifs <;> rfl

/-- A copy writes the content of the source. -/
theorem exists_write_of_copy {source : Path} (h : tree.copy source path = .ok tree₁) :
    ∃ written, tree.file? (tree.placeOf source) = some written ∧
      tree.write path written = .ok tree₁ := by
  rw [copy] at h
  split at h
  · simp at h
  · simp at h
  next place written hlookup =>
    have hread : tree.read source = .ok written := read_eq_ok_iff_lookup.mpr ⟨place, hlookup⟩
    exact ⟨written, file?_of_read hread, h⟩

/-- A copy sets the content of the source at the place of the target. -/
theorem updates_copy {source : Path} (h : tree.copy source path = .ok tree₁) :
    ∃ written, tree.file? (tree.placeOf source) = some written ∧
      tree.Updates (tree.placeOf path) (some written) tree₁ :=
  (exists_write_of_copy h).imp fun _ hcopy ↦ ⟨hcopy.1, updates_write hcopy.2⟩

theorem get?_removeAt_of (tree : FileTree) (gone : Place → Bool) (hroot : gone [] = false)
    (place : Place) :
    (tree.removeAt gone).get? place = if gone place then none else tree.get? place := by
  by_cases hplace : place = []
  · simp [hplace, hroot]
  · exact get?_removeAt tree gone hplace

/-- What lies below a directory may be removed, with it or without it. -/
theorem Closed.removeAt (h : tree.Closed) {gone : Place → Bool} (hroot : gone [] = false)
    (hgone : ∀ place, (tree.get? place).isSome → gone place.dropLast → gone place) :
    (tree.removeAt gone).Closed := by
  have hget := tree.get?_removeAt_of gone hroot
  refine ⟨?_, ?_, ?_, h.currentName⟩
  · exact h.distinct.sublist (List.filter_sublist.map _)
  · intro other entry hother
    rw [hget] at hother
    split_ifs at hother
    exact h.isName _ _ hother
  · intro other entry hother
    rw [hget] at hother ⊢
    split_ifs at hother with hnot
    rw [if_neg, h.parent _ _ hother]
    exact fun hparent ↦ hnot (hgone other (by simp [hother]) hparent)

private theorem removeAt_of_removeFile (h : tree.removeFile path = .ok tree₁) :
    tree.placeOf path ≠ [] ∧ (∃ written, tree.get? (tree.placeOf path) = some (.file written)) ∧
      tree₁ = tree.removeAt fun p ↦ p == tree.placeOf path := by
  rw [removeFile] at h
  split at h
  · simp at h
  · simp at h
  next place written hlookup =>
    obtain ⟨hlocate, hfile⟩ := lookup_eq_ok_iff.mp hlookup
    obtain rfl := placeOf_of_locate hlocate
    refine ⟨fun hroot ↦ ?_, ⟨written, hfile⟩, (Except.ok.inj h).symm⟩
    rw [hroot, get?_nil] at hfile
    simp at hfile

/-- What is there may be removed if it is no directory. -/
theorem exists_removeFile (h : tree.hasEntry path)
    (hnot : tree.get? (tree.placeOf path) ≠ some .directory) :
    ∃ tree₁, tree.removeFile path = .ok tree₁ := by
  rw [hasEntry] at h
  rw [removeFile]
  split
  · next fault hlookup => simp [hlookup, Except.isOk, Except.toBool] at h
  · next place hlookup =>
    obtain ⟨hlocate, hdirectory⟩ := lookup_eq_ok_iff.mp hlookup
    exact absurd (placeOf_of_locate hlocate ▸ hdirectory) hnot
  · exact ⟨_, rfl⟩

/-- Nothing is left where a file was removed, and all else stays. -/
theorem get?_of_removeFile (h : tree.removeFile path = .ok tree₁) :
    tree₁.get? place = if place = tree.placeOf path then none else tree.get? place := by
  obtain ⟨hroot, -, rfl⟩ := removeAt_of_removeFile h
  rw [tree.get?_removeAt_of (fun p ↦ p == tree.placeOf path) (by simpa using Ne.symm hroot)]
  simp

/-- A removal takes the file at the place of the path away. -/
theorem updates_removeFile (h : tree.removeFile path = .ok tree₁) :
    tree.Updates (tree.placeOf path) none tree₁ := by
  have hget (other : Place) : tree₁.get? other = _ := get?_of_removeFile h
  obtain ⟨hroot, ⟨written, hfile⟩, rfl⟩ := removeAt_of_removeFile h
  refine ⟨rfl, fun other hother ↦ ?_, fun other ↦ ?_, fun hclosed ↦
    hclosed.removeAt (by simpa using Ne.symm hroot) fun other hother hparent ↦ ?_⟩
  · rw [hget, if_neg, hother]
    rintro rfl
    simp [hfile] at hother
  · rw [file?, hget, file?]
    split_ifs <;> rfl
  · -- Nothing lies below a file.
    obtain ⟨entry, hentry⟩ := Option.isSome_iff_exists.mp hother
    have hdirectory := hclosed.parent _ _ hentry
    rw [beq_iff_eq.mp hparent, hfile] at hdirectory
    simp at hdirectory

private theorem isBelow_nil (directory : Place) : isBelow directory [] = false := by
  cases directory <;> simp [isBelow]

theorem isBelow_iff {directory : Place} :
    isBelow directory place ↔ directory <+: place ∧ place ≠ directory := by
  simp [isBelow]

private theorem removeAt_of_emptyDirectory (h : tree.emptyDirectory path = .ok tree₁) :
    tree.get? (tree.placeOf path) = some .directory ∧
      tree₁ = tree.removeAt (isBelow (tree.placeOf path)) := by
  rw [emptyDirectory] at h
  split at h
  · simp at h
  · simp at h
  next place hlookup =>
    obtain ⟨hlocate, hdirectory⟩ := lookup_eq_ok_iff.mp hlookup
    obtain rfl := placeOf_of_locate hlocate
    exact ⟨hdirectory, (Except.ok.inj h).symm⟩

/-- An emptied directory holds nothing, and all else stays. -/
theorem get?_of_emptyDirectory (h : tree.emptyDirectory path = .ok tree₁) :
    tree₁.current = tree.current ∧ tree.get? (tree.placeOf path) = some .directory ∧
      ∀ other, tree₁.get? other =
        if isBelow (tree.placeOf path) other then none else tree.get? other := by
  obtain ⟨hdirectory, rfl⟩ := removeAt_of_emptyDirectory h
  exact ⟨rfl, hdirectory, tree.get?_removeAt_of _ (isBelow_nil _)⟩

theorem Closed.emptyDirectory (hclosed : tree.Closed) (h : tree.emptyDirectory path = .ok tree₁) :
    tree₁.Closed := by
  obtain ⟨-, rfl⟩ := removeAt_of_emptyDirectory h
  refine hclosed.removeAt (isBelow_nil _) fun other _ hparent ↦ ?_
  rw [isBelow_iff] at hparent ⊢
  refine ⟨hparent.1.trans (List.dropLast_prefix _), ?_⟩
  rintro rfl
  have hlength := hparent.1.length_le
  rw [List.length_dropLast] at hlength
  have hnil : tree.placeOf path = [] := List.length_eq_zero_iff.mp (by omega)
  simp [hnil] at hparent

/-! ## Making directories -/

private theorem splitOn_append_replicate (c : Char) (text : List Char) (count : Nat) :
    Text.splitOn c (text ++ List.replicate count c) =
      Text.splitOn c text ++ List.replicate count [] := by
  induction count with
  | zero => simp
  | succ count ih =>
    rw [List.replicate_succ', ← List.append_assoc, Text.splitOn_append_separator, ih,
      List.replicate_succ', List.append_assoc]
    rfl

/-- What is cut off at the end of a path is slashes. -/
private theorem exists_append_replicate (text : List Char) : ∃ count,
    text = (text.reverse.dropWhile (· == '/')).reverse ++ List.replicate count '/' := by
  refine ⟨(text.reverse.takeWhile (· == '/')).length, ?_⟩
  have hall : text.reverse.takeWhile (· == '/') =
      List.replicate (text.reverse.takeWhile (· == '/')).length '/' := by
    refine List.eq_replicate_of_mem fun c hc ↦ ?_
    simpa using List.mem_takeWhile_imp hc
  rw [← List.reverse_replicate, ← hall, ← List.reverse_append, List.takeWhile_append_dropWhile,
    List.reverse_reverse]

/-- Only a text of slashes alone would begin in another way without those at its end. -/
private theorem leadOf_append_replicate {text : List Char} (hne : text ≠ []) (count : Nat) :
    leadOf (Text.splitOn '/' text ++ List.replicate count []) = leadOf (Text.splitOn '/' text) := by
  have hjoin := Text.joinWith_splitOn '/' text
  obtain ⟨first, rest, hsplit⟩ := List.exists_cons_of_ne_nil (Text.splitOn_ne_nil '/' text)
  rw [hsplit] at hjoin ⊢
  cases rest with
  | nil =>
    have hfirst : first ≠ [] := by
      rintro rfl
      exact hne hjoin.symm
    by_cases hdot : first = ['.'] <;> simp [leadOf, hfirst, hdot]
  | cons next rest =>
    by_cases hempty : first = []
    · simp [leadOf, hempty]
    · by_cases hdot : first = ['.'] <;> simp [leadOf, hempty, hdot]

/-- Slashes at the end of a path are no components. -/
theorem components_withoutEndSlashes (path : Path) :
    (withoutEndSlashes path).components = path.components := by
  obtain ⟨count, hcount⟩ := exists_append_replicate path.text.toList
  have hnone : (List.replicate count ([] : List Char)).filterMap componentOf? = [] := by
    rw [List.filterMap_eq_nil_iff]
    intro field hfield
    rw [List.eq_of_mem_replicate hfield]
    rfl
  have hfields : path.fields = Text.splitOn '/'
      (path.text.toList.reverse.dropWhile (· == '/')).reverse ++ List.replicate count [] := by
    rw [fields, hcount, splitOn_append_replicate, ← hcount]
  rw [withoutEndSlashes]
  split
  · next hnil =>
    split_ifs with hempty
    · rfl
    · have hpos : count ≠ 0 := by
        rintro rfl
        exact hempty (by simpa [hnil] using hcount)
      obtain ⟨count, rfl⟩ := Nat.exists_eq_succ_of_ne_zero hpos
      rw [components_eq path, hfields, hnil, List.filterMap_append, hnone]
      rfl
  · next hne =>
    rw [components_eq path, hfields, List.filterMap_append, hnone, List.append_nil,
      leadOf_append_replicate hne, components_eq, fields, String.toList_ofList]

theorem placeOf_withoutEndSlashes (path : Path) :
    tree.placeOf (withoutEndSlashes path) = tree.placeOf path := by
  rw [placeOf, components_withoutEndSlashes, placeOf]

/-- A new directory needs one to lie in, and nothing in its place. -/
private theorem set_of_makeDirectory (h : tree.makeDirectory path = .ok tree₁) :
    tree.get? (tree.placeOf path) = none ∧
      tree.get? (tree.placeOf path).dropLast = some .directory ∧
      tree₁ = tree.set (tree.placeOf path) .directory := by
  rw [makeDirectory] at h
  split at h
  · simp at h
  next place hlocate =>
    obtain rfl := placeOf_of_locate hlocate
    rw [placeOf_withoutEndSlashes] at h
    split_ifs at h with hsome hparent
    exact ⟨by simpa using hsome, hparent, (Except.ok.inj h).symm⟩

private theorem get?_of_makeDirectory (h : tree.makeDirectory path = .ok tree₁) :
    tree₁.get? place = if tree.placeOf path = place then some .directory else tree.get? place := by
  obtain ⟨hnone, -, rfl⟩ := set_of_makeDirectory h
  have hne : tree.get? (tree.placeOf path) ≠ some .directory := by simp [hnone]
  exact tree.get?_set place _ (ne_nil_of_get?_ne hne)

/-- A new directory changes no file. -/
private theorem extends_makeDirectory (h : tree.makeDirectory path = .ok tree₁) :
    tree.Extends tree₁ := by
  have hget (other : Place) : tree₁.get? other = _ := get?_of_makeDirectory h
  obtain ⟨hnone, hparent, rfl⟩ := set_of_makeDirectory h
  refine ⟨rfl, fun other hother ↦ ?_, fun other ↦ ?_, fun hclosed ↦
    hclosed.set (fun _ ↦ hclosed.isName_of_mem_placeOf) hparent (by simp [hnone])⟩
  · rw [hget]
    split_ifs <;> simp [hother]
  · rw [file?, hget, file?]
    split_ifs with hother
    · rw [← hother, hnone]
    · rfl

theorem get?_of_isDirectory (h : tree.isDirectory path) :
    tree.get? (tree.placeOf path) = some .directory :=
  (isDirectory_iff.mp h).2.2

/-- Whether a tree has become another one by one directory that was made on the way of a path. -/
private def MakesOnWay (path : Path) (tree tree₁ : FileTree) : Prop :=
  ∃ front : Path, front.components <+: path.components ∧ tree.makeDirectory front = .ok tree₁

private theorem MakesOnWay.mono {parent : Path} (h : parent.components <+: path.components) :
    MakesOnWay parent tree tree₁ → MakesOnWay path tree tree₁ :=
  fun ⟨front, hfront, hmake⟩ ↦ ⟨front, hfront.trans h, hmake⟩

/-- All that is done to make a directory is to make directories on the way to it, one by one, and it
succeeds only if the path is then that of a directory. -/
private theorem makes_of_ensureWithin {fuel : Nat} {fault : Option FileFault}
    (h : ensureWithin fuel tree path = (tree₁, fault)) :
    Relation.ReflTransGen (MakesOnWay path) tree tree₁ ∧
      (fault = none → path.text ≠ "" → tree₁.get? (tree₁.placeOf path) = some .directory) := by
  induction fuel generalizing tree tree₁ path fault with
  | zero =>
    obtain ⟨rfl, rfl⟩ := Prod.mk.inj h
    exact ⟨.refl, by simp⟩
  | succ fuel ih =>
    have hmade {before made : FileTree} (hmake : before.makeDirectory path = .ok made) :
        MakesOnWay path before made ∧ made.get? (made.placeOf path) = some .directory := by
      refine ⟨⟨path, List.prefix_refl _, hmake⟩, ?_⟩
      rw [get?_of_makeDirectory hmake, placeOf_congr (extends_makeDirectory hmake).current,
        if_pos rfl]
    -- Where nothing is made the path has to be that of a directory already.
    have hfound {found : FileTree} {cause : FileFault}
        (hnone : (if found.isDirectory path then none else some cause) = none) :
        found.get? (found.placeOf path) = some .directory := by
      split_ifs at hnone with hdirectory
      exact get?_of_isDirectory hdirectory
    rw [ensureWithin] at h
    by_cases hempty : path.text.isEmpty
    · rw [if_pos hempty] at h
      obtain ⟨rfl, -⟩ := Prod.mk.inj h
      exact ⟨.refl, fun _ htext ↦ absurd (by simpa using hempty) htext⟩
    rw [if_neg hempty] at h
    split at h
    · next made hmake =>
      obtain ⟨rfl, -⟩ := Prod.mk.inj h
      exact ⟨.single (hmade hmake).1, fun _ _ ↦ (hmade hmake).2⟩
    · next cause hmake =>
      by_cases hmissing : cause = .missing
      · rw [if_pos hmissing] at h
        split at h
        · obtain ⟨rfl, rfl⟩ := Prod.mk.inj h
          exact ⟨.refl, by simp⟩
        · next parent hparent =>
          have habove {above : FileTree} {failure : Option FileFault}
              (hensure : ensureWithin fuel tree parent = (above, failure)) :
              Relation.ReflTransGen (MakesOnWay path) tree above :=
            Relation.ReflTransGen.mono
              (fun _ _ ↦ MakesOnWay.mono (components_parent?_isPrefix hparent)) _ _ (ih hensure).1
          split at h
          · next above failure hensure =>
            obtain ⟨rfl, rfl⟩ := Prod.mk.inj h
            exact ⟨habove hensure, by simp⟩
          · next above hensure =>
            split at h
            · next made hagain =>
              obtain ⟨rfl, -⟩ := Prod.mk.inj h
              exact ⟨(habove hensure).tail (hmade hagain).1, fun _ _ ↦ (hmade hagain).2⟩
            · next failure hagain =>
              obtain ⟨rfl, rfl⟩ := Prod.mk.inj h
              exact ⟨habove hensure, fun hnone _ ↦ hfound hnone⟩
      · rw [if_neg hmissing] at h
        obtain ⟨rfl, rfl⟩ := Prod.mk.inj h
        exact ⟨.refl, fun hnone _ ↦ hfound hnone⟩

private theorem extends_of_makes (h : Relation.ReflTransGen (MakesOnWay path) tree tree₁) :
    tree.Extends tree₁ := by
  induction h with
  | refl => exact .refl tree
  | tail _ hmakes ih =>
    obtain ⟨front, -, hmake⟩ := hmakes
    exact ih.trans (extends_makeDirectory hmake)

/-- The making of a directory and the ones above it changes no file. -/
theorem extends_ensureDirectory {fault : Option FileFault}
    (h : tree.ensureDirectory path = (tree₁, fault)) : tree.Extends tree₁ :=
  extends_of_makes (makes_of_ensureWithin h).1

/-- A directory that was made lies at the place of the path. -/
theorem get?_of_ensureDirectory (h : tree.ensureDirectory path = (tree₁, none))
    (htext : path.text ≠ "") : tree₁.get? (tree.placeOf path) = some .directory := by
  rw [← placeOf_congr (extends_ensureDirectory h).current]
  exact (makes_of_ensureWithin h).2 rfl htext

/-- Directories that are new after a directory was made, with those above it, lie on the way to it. -/
theorem directory_of_ensureDirectory {fault : Option FileFault}
    (h : tree.ensureDirectory path = (tree₁, fault)) (hplace : tree₁.get? place = some .directory) :
    tree.get? place = some .directory ∨
      ∃ front, front <+: path.components ∧ place = placeFrom tree.current front := by
  have hmakes := (makes_of_ensureWithin h).1
  clear h
  induction hmakes with
  | refl => exact Or.inl hplace
  | @tail before after hbefore hmakes ih =>
    obtain ⟨front, hfront, hmake⟩ := hmakes
    rw [get?_of_makeDirectory hmake] at hplace
    split_ifs at hplace with hsame
    · rw [placeOf, (extends_of_makes hbefore).current] at hsame
      exact Or.inr ⟨_, hfront, hsame.symm⟩
    · exact ih hplace

end StaticSite.FileTree
