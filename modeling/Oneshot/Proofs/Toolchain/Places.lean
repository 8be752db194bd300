import Oneshot.Pipeline
import Oneshot.Proofs.Host.Paths

/-!
# The Places of Two Scripts

The source and the executable of a script lie below the scratch directory, at the place of the
script. Two scripts with different places have different sources and different executables. That is
not all that keeps them apart: what is a file for one script may have to be a directory for the
other, or the executable of one may be the source of the other.

* `Path.le_iff_eq_or_le_parent`: what is above a path, by its last part.
* `Scratch.name_of_place`: the place of a script keeps the name of the script.
* `Artifact.Obstructs`: a path of one artifact is a path of the other, or a directory above it.
* `Scratch.obstructs_iff`: which scripts obstruct each other, by their places alone.
-/

namespace Oneshot

namespace Path

variable {p q : Path}

theorem le_iff_eq_or_le_parent : p ≤ q ↔ p = q ∨ p ≤ q.parent := by
  constructor
  · intro h
    by_cases heq : p = q
    · exact .inl heq
    · exact .inr (le_parent h heq)
  · rintro (rfl | h)
    · exact le_rfl
    · exact h.trans q.parent_le

@[simp] theorem parent_withExtension (p : Path) (ext : Text) :
    (p.withExtension ext).parent = p.parent := by
  simp [withExtension, parent]

theorem name_withExtension (p : Path) (ext : Text) : (p.withExtension ext).name
    = p.name.take (p.name.length - extensionLength p.name) ++ ext := by
  simp [withExtension, name]

/-- Paths of one extension are told apart without it. -/
theorem withExtension_inj (hp : p.parts ≠ []) (hq : q.parts ≠ [])
    (hext : p.extension = q.extension) {ext : Text}
    (h : p.withExtension ext = q.withExtension ext) : p = q := by
  have hparent : p.parent = q.parent := by
    simpa using congrArg parent h
  have hstem : p.name.take (p.name.length - extensionLength p.name)
      = q.name.take (q.name.length - extensionLength q.name) := by
    simpa [name_withExtension] using congrArg name h
  have hname : p.name = q.name := by
    have hsplit : ∀ r : Path, r.name.take (r.name.length - extensionLength r.name) ++ r.extension
        = r.name := fun r => List.take_append_drop _ _
    rw [← hsplit p, ← hsplit q, hstem, hext]
  rw [← below_parent_name hp, ← below_parent_name hq, hparent, hname]

end Path

/-- A path of the first artifact is a path of the second, or a directory above one. -/
def Artifact.Obstructs (a b : Artifact) : Prop :=
  ∃ p ∈ [a.source, a.executable], ∃ q ∈ [b.source, b.executable], p ≤ q

instance (a b : Artifact) : Decidable (a.Obstructs b) :=
  inferInstanceAs
    (Decidable (∃ p ∈ [a.source, a.executable], ∃ q ∈ [b.source, b.executable], p ≤ q))

namespace Scratch

variable {script script₁ script₂ workDir p p₁ p₂ : Path} {toolchain : ToolchainSettings}
  {platform : Platform} {a a₁ a₂ : Artifact}

/-! ### Places -/

theorem place_eq_some (h : place? script workDir = some p) :
    p = ⟨[], (unanchored script workDir).parts.filter isKept⟩ ∧ p.parts ≠ [] := by
  simp only [place?] at h
  split at h
  · simp at h
  · next hparts =>
    obtain rfl := Option.some.inj h
    exact ⟨rfl, by simpa using hparts⟩

/-- What is left of a script's path without its anchor is its end. -/
theorem suffix_unanchored (script workDir : Path) :
    (unanchored script workDir).parts <:+ script.parts := by
  unfold unanchored
  split
  · rw [Path.below?]
    split
    · exact List.drop_suffix _ _
    · exact List.suffix_refl _
  · exact List.suffix_refl _

theorem extension_of_checked (h : checkScript script scriptExtension = .ok script) :
    script.extension = scriptExtension := by
  rw [checkScript] at h
  split at h
  · assumption
  · simp at h

/-- **The place of a script** keeps its name. -/
theorem name_of_place (h : place? script workDir = some p)
    (hchecked : checkScript script scriptExtension = .ok script) : p.name = script.name := by
  obtain ⟨rfl, hparts⟩ := place_eq_some h
  have hextension := extension_of_checked hchecked
  obtain ⟨front, hfront⟩ := suffix_unanchored script workDir
  rcases List.eq_nil_or_concat (unanchored script workDir).parts with hnil | ⟨init, last, hinit⟩
  · simp [hnil] at hparts
  · rw [List.concat_eq_append] at hinit
    have hname : script.name = last := by
      rw [Path.name, ← hfront, hinit]
      simp
    -- neither `.` nor `..` has an extension, so that the last part is kept
    have hkept : isKept last = true := by
      rw [Path.extension, hname] at hextension
      by_contra hdots
      simp only [isKept, Bool.and_eq_true, bne_iff_ne, ne_eq, not_and, not_not] at hdots
      by_cases hdot : last = ['.']
      · subst hdot
        revert hextension
        decide
      · obtain rfl := hdots hdot
        revert hextension
        decide
    rw [hname, Path.name]
    simp [hinit, List.filter_append, hkept]

theorem extension_of_place (h : place? script workDir = some p)
    (hchecked : checkScript script scriptExtension = .ok script) :
    p.extension = scriptExtension := by
  rw [Path.extension, name_of_place h hchecked]
  exact extension_of_checked hchecked

/-- Scripts with different places are built in different places. -/
theorem withExtension_ne_of_place {extension : Text} (hplace₁ : place? script₁ workDir = some p₁)
    (hplace₂ : place? script₂ workDir = some p₂)
    (hchecked₁ : checkScript script₁ scriptExtension = .ok script₁)
    (hchecked₂ : checkScript script₂ scriptExtension = .ok script₂) (hne : p₁ ≠ p₂) :
    p₁.withExtension extension ≠ p₂.withExtension extension := by
  have hextension : p₁.extension = p₂.extension := by
    rw [extension_of_place hplace₁ hchecked₁, extension_of_place hplace₂ hchecked₂]
  exact fun heq =>
    hne (Path.withExtension_inj (place_eq_some hplace₁).2 (place_eq_some hplace₂).2 hextension heq)

/-- The parts of a place are those of the script, without `.` and `..`. -/
theorem parts_of_place (hscript : script.Proper) (h : place? script workDir = some p) :
    ∀ part ∈ p.parts, Path.IsName part ∧ isKept part = true := by
  obtain ⟨rfl, -⟩ := place_eq_some h
  intro part hpart
  obtain ⟨hmem, hkept⟩ := List.mem_filter.1 hpart
  exact ⟨hscript.parts part ((suffix_unanchored script workDir).subset hmem), hkept⟩

/-! ### Artifacts -/

/-- A place below a directory. -/
def under (base p : Path) : Path :=
  ⟨base.anchor, base.parts ++ p.parts⟩

theorem under_le_under_iff {base : Path} (hp : p.anchor = []) {q : Path} (hq : q.anchor = []) :
    under base p ≤ under base q ↔ p ≤ q := by
  have hanchor : p.anchor = q.anchor := hp.trans hq.symm
  constructor
  · exact fun h => ⟨hanchor, (List.prefix_append_right_inj _).1 h.2⟩
  · exact fun h => ⟨rfl, (List.prefix_append_right_inj _).2 h.2⟩

theorem under_le_under_iff_parent {base : Path} (hp : p.anchor = []) {q : Path}
    (hq : q.anchor = []) : under base p ≤ under base q ↔ p = q ∨ p ≤ q.parent :=
  (under_le_under_iff hp hq).trans Path.le_iff_eq_or_le_parent

theorem under_ne_under {base : Path} (hp : p.anchor = []) {q : Path} (hq : q.anchor = [])
    (hne : p ≠ q) : under base p ≠ under base q := fun heq =>
  hne (le_antisymm ((under_le_under_iff hp hq).1 heq.le) ((under_le_under_iff hq hp).1 heq.ge))

/-- The paths of an artifact lie under one directory, at the place of its script. -/
theorem paths_eq_some (hscript : script.Proper) (hplace : place? script workDir = some p)
    (h : paths? script workDir toolchain platform = some a) :
    a.source = under (workDir.join toolchain.scratchDir) p ∧
      a.executable = under (workDir.join toolchain.scratchDir)
        (p.withExtension platform.executableExtension) := by
  rw [paths?, hplace] at h
  obtain rfl := Option.some.inj h
  have hkept : p.parts.filter Path.isKept = p.parts :=
    List.filter_eq_self.2 fun part hpart => (parts_of_place hscript hplace part hpart).1.1
  obtain ⟨rfl, hparts⟩ := place_eq_some hplace
  have hjoin : ∀ base : Path, base.join ⟨[], (unanchored script workDir).parts.filter isKept⟩
      = under base ⟨[], (unanchored script workDir).parts.filter isKept⟩ := by
    intro base
    rw [Path.join, if_neg (by simp [Path.isAbsolute]), hkept]
    rfl
  refine ⟨hjoin _, ?_⟩
  simp only [hjoin]
  simp only [under, Path.withExtension, Path.name]
  rw [List.dropLast_append_of_ne_nil hparts, List.getLast?_append_of_ne_nil _ hparts,
    List.append_assoc]

/-- **Which scripts obstruct each other.** The sources and the executables of two scripts with
different places are different. One script obstructs the other exactly if its place, with or without
its extension, is a directory on the way to the place of the other, or if the executable of one is
the source of the other. -/
theorem obstructs_iff (hscript₁ : script₁.Proper) (hscript₂ : script₂.Proper)
    (hchecked₁ : checkScript script₁ scriptExtension = .ok script₁)
    (hchecked₂ : checkScript script₂ scriptExtension = .ok script₂)
    (hplace₁ : place? script₁ workDir = some p₁) (hplace₂ : place? script₂ workDir = some p₂)
    (hne : p₁ ≠ p₂)
    (ha₁ : paths? script₁ workDir toolchain platform = some a₁)
    (ha₂ : paths? script₂ workDir toolchain platform = some a₂) :
    a₁.source ≠ a₂.source ∧ a₁.executable ≠ a₂.executable ∧
      (a₁.Obstructs a₂ ↔
        p₁ ≤ p₂.parent ∨ p₁.withExtension platform.executableExtension ≤ p₂.parent ∨
        p₁.withExtension platform.executableExtension = p₂ ∨
        p₁ = p₂.withExtension platform.executableExtension) := by
  obtain ⟨hsource₁, hexecutable₁⟩ := paths_eq_some hscript₁ hplace₁ ha₁
  obtain ⟨hsource₂, hexecutable₂⟩ := paths_eq_some hscript₂ hplace₂ ha₂
  have hanchor₁ : p₁.anchor = [] := by rw [(place_eq_some hplace₁).1]
  have hanchor₂ : p₂.anchor = [] := by rw [(place_eq_some hplace₂).1]
  have hbuilt₁ : (p₁.withExtension platform.executableExtension).anchor = [] := hanchor₁
  have hbuilt₂ : (p₂.withExtension platform.executableExtension).anchor = [] := hanchor₂
  have hbuilt : p₁.withExtension platform.executableExtension
      ≠ p₂.withExtension platform.executableExtension :=
    withExtension_ne_of_place hplace₁ hplace₂ hchecked₁ hchecked₂ hne
  refine ⟨?_, ?_, ?_⟩
  · rw [hsource₁, hsource₂]
    exact under_ne_under hanchor₁ hanchor₂ hne
  · rw [hexecutable₁, hexecutable₂]
    exact under_ne_under hbuilt₁ hbuilt₂ hbuilt
  · simp only [Artifact.Obstructs, List.mem_cons, List.not_mem_nil, or_false,
      exists_eq_or_imp, exists_eq_left, hsource₁, hsource₂, hexecutable₁, hexecutable₂]
    rw [under_le_under_iff_parent hanchor₁ hanchor₂, under_le_under_iff_parent hanchor₁ hbuilt₂,
      under_le_under_iff_parent hbuilt₁ hanchor₂, under_le_under_iff_parent hbuilt₁ hbuilt₂]
    simp only [hne, hbuilt, false_or, Path.parent_withExtension]
    constructor
    · rintro ((h | h | h) | (h | h) | h)
      · exact .inl h
      · exact .inr (.inr (.inr h))
      · exact .inl h
      · exact .inr (.inr (.inl h))
      · exact .inr (.inl h)
      · exact .inr (.inl h)
    · rintro (h | h | h | h)
      · exact .inl (.inl h)
      · exact .inr (.inl (.inr h))
      · exact .inr (.inl (.inl h))
      · exact .inl (.inr (.inl h))

end Scratch

end Oneshot
