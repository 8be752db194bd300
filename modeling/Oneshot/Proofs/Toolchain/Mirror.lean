import Oneshot.Proofs.Toolchain.Places

/-!
# Below the Scratch Directory

The place of a script is what is left of its path without anchor, working directory and dots. It is
the same for every spelling of the path, and being a place it is left as it is when a place is
sought for it again. Joined to the scratch directory it leads strictly below it, and so the source
of a script is always there.

The executable is not. Dots are taken out before the extension is replaced, and a name that consists
of dots in front of its extension becomes a dot or two without it: the executable of `..rs` is the
directory of its source, and that of `...rs` the directory above it.

* `place_of_spelling`: the place of a script, in terms of the parts of its path.
* `Path.Inside`: what lies strictly below a directory, by parts that are no dots.
* `inside_scratch`: where the source and the executable of a script lie.
-/

namespace Oneshot

namespace Path

variable {p q base : Path} {name ext : Text}

/-! ### Names and their extensions -/

/-- A name without its extension. -/
def stemOf (name : Text) : Text :=
  name.take (name.length - extensionLength name)

theorem stemOf_append_extensionOf (name : Text) : stemOf name ++ extensionOf name = name :=
  List.take_append_drop _ _

/-- A name does not begin with its extension. -/
theorem stemOf_ne_nil (h : extensionOf name ≠ []) : stemOf name ≠ [] := by
  intro hstem
  have hzero : name.length - extensionLength name = 0 ∨ name = [] := by
    simpa [stemOf, List.take_eq_nil_iff] using hstem
  rcases hzero with hzero | rfl
  · by_cases hnone : extensionLength name = 0
    · refine h ?_
      rw [extensionOf, hnone, Nat.sub_zero, List.drop_length]
    · -- a name with an extension is longer than that
      rw [extensionLength] at hzero hnone
      split at hzero
      · next hshort => exact hnone (if_pos hshort)
      · omega
  · simp [extensionOf] at h

theorem withExtension_below (name ext : Text) :
    (p.below name).withExtension ext = p.below (stemOf name ++ ext) := by
  simp [withExtension, below, Path.name, stemOf]

/-! ### What lies below a directory -/

instance (p q : Path) : Decidable (p < q) :=
  decidable_of_iff _ lt_iff_le_not_ge.symm

theorem below_inj {name name' : Text} : p.below name = p.below name' ↔ name = name' := by
  simp [below]

theorem lt_below_of_le (h : p ≤ q) (name : Text) : p < q.below name :=
  lt_of_le_of_lt h (lt_of_le_not_ge (le_below q name) (not_below_le q name))

/-- The path leads strictly below the directory, and none of the parts by which it does is a dot or
two. -/
def Inside (base p : Path) : Prop :=
  base < p ∧ ∀ part ∈ p.parts.drop base.parts.length, Scratch.isKept part = true

instance (base p : Path) : Decidable (Inside base p) :=
  inferInstanceAs (Decidable (base < p ∧
    ∀ part ∈ p.parts.drop base.parts.length, Scratch.isKept part = true))

theorem inside_below_iff (h : base ≤ p) (name : Text) :
    Inside base (p.below name) ↔
      (∀ part ∈ p.parts.drop base.parts.length, Scratch.isKept part = true) ∧
        Scratch.isKept name = true := by
  rw [Inside, and_iff_right (lt_below_of_le h name), below,
    List.drop_append_of_le_length (length_le h)]
  simp [or_imp, forall_and]

end Path

namespace Scratch

variable {script workDir p : Path} {toolchain : ToolchainSettings} {platform : Platform}
  {a : Artifact}

/-! ### Places -/

/-- The parts of a script's path that its place is made from: those below the working directory if
the path begins with it, and all of them otherwise. -/
def ownParts (script workDir : Path) : List Text :=
  if script.isAbsolute = true ∧ workDir ≤ script then script.parts.drop workDir.parts.length
  else script.parts

theorem parts_unanchored (script workDir : Path) :
    (unanchored script workDir).parts = ownParts script workDir := by
  have hbegins : (script.anchor == workDir.anchor && workDir.parts.isPrefixOf script.parts) = true
      ↔ workDir ≤ script := by
    rw [Bool.and_eq_true, beq_iff_eq, List.isPrefixOf_iff_prefix, eq_comm]
    exact Iff.rfl
  rw [unanchored, ownParts, Path.below?]
  by_cases habsolute : script.isAbsolute = true
  · by_cases hle : workDir ≤ script
    · rw [if_pos habsolute, if_pos (hbegins.2 hle), if_pos ⟨habsolute, hle⟩]
      rfl
    · rw [if_pos habsolute, if_neg (mt hbegins.1 hle), if_neg fun h => hle h.2]
      rfl
  · rw [if_neg habsolute, if_neg fun h => habsolute h.1]

/-- A path that is joined to the working directory has the parts that it has by itself. -/
theorem filter_ownParts_join (hworkDir : workDir.isAbsolute = true) (hp : p.isAbsolute = false)
    (hparts : [] ∉ p.parts) :
    (ownParts (workDir.join p) workDir).filter isKept = (ownParts p workDir).filter isKept := by
  have hjoin : workDir.join p = ⟨workDir.anchor, workDir.parts ++ p.parts.filter Path.isKept⟩ := by
    rw [Path.join, if_neg (by simp [hp])]
  have habsolute : (workDir.join p).isAbsolute = true := by
    rw [hjoin]
    exact hworkDir
  have hle : workDir ≤ workDir.join p := by
    rw [hjoin]
    exact ⟨rfl, List.prefix_append _ _⟩
  rw [ownParts, if_pos ⟨habsolute, hle⟩, ownParts, if_neg (by simp [hp]), hjoin]
  simp only [List.drop_left, List.filter_filter]
  -- joining drops single dots, which no place keeps
  refine List.filter_congr fun part hpart => ?_
  have hne : part ≠ [] := fun h => hparts (h ▸ hpart)
  by_cases hdot : part = ['.'] <;> simp [isKept, Path.isKept, hne, hdot]

theorem isKept_eq_false_iff {part : Text} :
    isKept part = false ↔ part = ['.'] ∨ part = ['.', '.'] := by
  simp only [isKept, Bool.and_eq_false_iff, bne_eq_false_iff_eq]

/-- The place of a place is the place itself, whatever the working directory. -/
theorem place_of_place (h : place? script workDir = some p) (workDir' : Path) :
    place? p workDir' = some p := by
  obtain ⟨rfl, hparts⟩ := place_eq_some h
  have hself : ∀ parts : List Text, unanchored ⟨[], parts⟩ workDir' = ⟨[], parts⟩ := fun parts =>
    if_neg (by simp [Path.isAbsolute])
  simp only [place?, hself, List.filter_filter, Bool.and_self]
  exact if_neg fun hempty => hparts (List.isEmpty_iff.1 hempty)

/-- **The place of a script does not depend on the spelling** of its path. A path and the same path
behind the working directory have the same place or both have none. The place has no anchor and at
least one part, its parts are those of the path in their order without the dots, and it is its own
place under every working directory. A path has no place exactly if nothing of it but dots is left
to make one from, and then no artifact can be made for it. -/
theorem place_of_spelling :
    (∀ workDir p : Path, workDir.isAbsolute = true → p.isAbsolute = false → [] ∉ p.parts →
      place? (workDir.join p) workDir = place? p workDir) ∧
    ∀ script workDir : Path,
      (place? script workDir = none ↔
        ∀ part ∈ ownParts script workDir, part = ['.'] ∨ part = ['.', '.']) ∧
      (place? script workDir = none → ∀ settings platform,
        Toolchain.artifactFor script workDir settings platform
          = Action.fail (.noScratchPath script)) ∧
      ∀ place, place? script workDir = some place →
        place.anchor = [] ∧ place.parts ≠ [] ∧ ['.'] ∉ place.parts ∧ ['.', '.'] ∉ place.parts ∧
          place.parts = (ownParts script workDir).filter
            (fun part => part ≠ ['.'] ∧ part ≠ ['.', '.']) ∧
          ∀ workDir', place? place workDir' = some place := by
  refine ⟨fun workDir p hworkDir hp hparts => ?_, fun script workDir => ⟨?_, ?_, ?_⟩⟩
  · simp only [place?, parts_unanchored, filter_ownParts_join hworkDir hp hparts]
  · simp only [place_eq_none, parts_unanchored, isKept_eq_false_iff]
  · intro hnone settings platform
    rw [Toolchain.artifactFor, paths?, hnone]
    rfl
  · intro place hplace
    obtain ⟨heq, hparts⟩ := place_eq_some hplace
    have hkept : place.parts = (ownParts script workDir).filter
        (fun part => part ≠ ['.'] ∧ part ≠ ['.', '.']) := by
      rw [heq, parts_unanchored]
      exact List.filter_congr fun part _ => by simp [isKept, bne, beq_eq_decide]
    refine ⟨by rw [heq], hparts, ?_, ?_, hkept, place_of_place hplace⟩
    · rw [hkept]
      simp
    · rw [hkept]
      simp

/-- The script `/w/./a/../x.rs` in `/w`, and the script `./a/../x.rs`. -/
theorem place_of_spelling_dots :
    let workDir := Path.ofText "/w"
    let p := Path.ofText "./a/../x.rs"
    workDir.isAbsolute = true ∧ p.isAbsolute = false ∧ [] ∉ p.parts ∧
      place? (workDir.join p) workDir = place? p workDir ∧
      place? (Path.ofText "/w/./a/../x.rs") workDir = some (Path.ofText "a/x.rs") ∧
      ∀ workDir', place? (Path.ofText "a/x.rs") workDir' = some (Path.ofText "a/x.rs") := by
  intro workDir p
  have hplace : place? (Path.ofText "/w/./a/../x.rs") workDir = some (Path.ofText "a/x.rs") := by
    decide
  refine ⟨by decide, by decide, by decide,
    place_of_spelling.1 workDir p (by decide) (by decide) (by decide), hplace, ?_⟩
  exact ((place_of_spelling.2 _ _).2.2 _ hplace).2.2.2.2.2

/-! ### Artifacts -/

/-- Neither a dot nor two have the extension of scripts. -/
theorem isKept_name_of_checked (h : checkScript script scriptExtension = .ok script) :
    isKept script.name = true := by
  have hextension : Path.extensionOf script.name = scriptExtension := extension_of_checked h
  rw [← Bool.not_eq_false, isKept_eq_false_iff]
  rintro (hdot | hdots)
  · rw [hdot] at hextension
    exact absurd hextension (by decide)
  · rw [hdots] at hextension
    exact absurd hextension (by decide)

/-- The source of a script lies at its name, behind parts that are no dots, and the executable
beside it. -/
theorem exists_parent_of_paths (hchecked : checkScript script scriptExtension = .ok script)
    (h : paths? script workDir toolchain platform = some a) :
    ∃ dir, workDir.join toolchain.scratchDir ≤ dir ∧
      (∀ part ∈ dir.parts.drop (workDir.join toolchain.scratchDir).parts.length,
        isKept part = true) ∧
      a = ⟨dir.below script.name,
        dir.below (Path.stemOf script.name ++ platform.executableExtension)⟩ := by
  obtain ⟨place, hplace, rfl⟩ := Option.map_eq_some_iff.1 h
  obtain ⟨hplace_eq, hne⟩ := place_eq_some hplace
  have hname := name_of_place hplace hchecked
  have hkept : ∀ part ∈ place.parts, isKept part = true := fun part hpart => by
    rw [hplace_eq] at hpart
    exact (List.mem_filter.1 hpart).2
  have hlast : place.parts = place.parts.dropLast ++ [script.name] := by
    rw [← hname, Path.name, List.getLast?_eq_getLast_of_ne_nil hne, Option.getD_some,
      List.dropLast_append_getLast]
  -- the name of a script is no part that joining would drop
  have hnamed : Path.isKept script.name = true := by
    have hdots : isKept script.name = true := hkept _ (by rw [hlast]; simp)
    have hextension := extension_of_checked hchecked
    have hempty : script.name ≠ [] := by
      intro hnil
      rw [Path.extension, hnil] at hextension
      revert hextension
      decide
    simp only [isKept, Bool.and_eq_true, bne_iff_ne] at hdots
    simp [Path.isKept, hempty, hdots.1]
  have hjoin : ∀ base : Path, base.join place
      = Path.below ⟨base.anchor, base.parts ++ place.parts.dropLast.filter Path.isKept⟩
          script.name := by
    intro base
    have hrelative : ¬ place.isAbsolute = true := by
      rw [hplace_eq]
      simp [Path.isAbsolute]
    rw [Path.join, if_neg hrelative, hlast]
    simp [List.filter_append, hnamed, Path.below]
  refine ⟨⟨_, (workDir.join toolchain.scratchDir).parts
    ++ place.parts.dropLast.filter Path.isKept⟩, ⟨rfl, List.prefix_append _ _⟩,
    fun part hpart => ?_, ?_⟩
  · rw [List.drop_left] at hpart
    exact hkept part (List.dropLast_subset _ (List.mem_filter.1 hpart).1)
  · simp only [hjoin, Path.withExtension_below]

/-- A stem with an extension behind it is a dot or two only if it is so by itself. -/
theorem isKept_append_iff {stem ext : Text} (hstem : stem ≠ []) (hext : ext ≠ ['.']) :
    isKept (stem ++ ext) = true ↔ ¬ (ext = [] ∧ (stem = ['.'] ∨ stem = ['.', '.'])) := by
  rw [← not_iff_not, not_not, Bool.not_eq_true, isKept_eq_false_iff]
  obtain ⟨c, stem, rfl⟩ := List.exists_cons_of_ne_nil hstem
  cases stem with
  | nil =>
    cases ext with
    | nil => simp
    | cons d ext =>
      suffices ¬ (c = '.' ∧ d = '.' ∧ ext = []) by simpa
      rintro ⟨-, rfl, rfl⟩
      exact hext rfl
  | cons d stem => cases ext <;> simp

/-- **Where the files of a script lie.** The source lies strictly below the scratch directory, by
parts that are no dots, and the executable beside it, at another name unless the platform gives
executables the extension of scripts. So the executable lies below the scratch directory as well,
except where executables have no extension and the name of the script is `..rs` or `...rs`: then its
last part is a dot or two. -/
theorem inside_scratch (hchecked : checkScript script scriptExtension = .ok script)
    (hext : platform.executableExtension ≠ ['.'])
    (h : paths? script workDir toolchain platform = some a) :
    Path.Inside (workDir.join toolchain.scratchDir) a.source ∧
      workDir.join toolchain.scratchDir < a.executable ∧
      a.executable.parent = a.source.parent ∧
      (a.executable = a.source ↔ platform.executableExtension = scriptExtension) ∧
      (Path.Inside (workDir.join toolchain.scratchDir) a.executable ↔
        ¬ (platform.executableExtension = [] ∧
          (script.name = "..rs".toList ∨ script.name = "...rs".toList))) := by
  obtain ⟨dir, hle, hdir, rfl⟩ := exists_parent_of_paths hchecked h
  have hextension : Path.extensionOf script.name = scriptExtension := extension_of_checked hchecked
  have hname : Path.stemOf script.name ++ scriptExtension = script.name := by
    rw [← hextension, Path.stemOf_append_extensionOf]
  have hstem : Path.stemOf script.name ≠ [] :=
    Path.stemOf_ne_nil (by rw [hextension]; decide)
  have hnamed := isKept_name_of_checked hchecked
  refine ⟨(Path.inside_below_iff hle _).2 ⟨hdir, hnamed⟩, Path.lt_below_of_le hle _, by simp,
    ?_, ?_⟩
  · rw [Path.below_inj]
    nth_rewrite 2 [← hname]
    exact List.append_right_inj _
  · have hstems : ∀ stem : Text, script.name = stem ++ scriptExtension
        ↔ Path.stemOf script.name = stem := fun stem => by
      nth_rewrite 1 [← hname]
      exact List.append_left_inj _
    rw [Path.inside_below_iff hle, and_iff_right hdir, isKept_append_iff hstem hext,
      ← hstems, ← hstems]
    exact Iff.rfl

/-- The source of `//srv/../a/...rs` lies below the scratch directory, and so does its executable on
a platform that gives it an extension. -/
theorem inside_scratch_windows :
    let script := Path.ofText "//srv/../a/...rs"
    let base := Path.ofText "/w/temp"
    checkScript script scriptExtension = .ok script ∧
      Platform.windows.executableExtension ≠ ['.'] ∧
      ∃ a, paths? script (Path.ofText "/w") .default .windows = some a ∧
        a.source = Path.ofText "/w/temp/srv/a/...rs" ∧ Path.Inside base a.source ∧
        a.executable.parent = a.source.parent ∧ a.executable ≠ a.source ∧
        Path.Inside base a.executable := by
  intro script base
  have hchecked : checkScript script scriptExtension = .ok script := by decide
  have hext : Platform.windows.executableExtension ≠ ['.'] := by decide
  have hpaths : paths? script (Path.ofText "/w") .default .windows
      = some ⟨Path.ofText "/w/temp/srv/a/...rs", Path.ofText "/w/temp/srv/a/...exe"⟩ := by
    decide +kernel
  obtain ⟨hsource, -, hparent, hsame, hexecutable⟩ := inside_scratch hchecked hext hpaths
  exact ⟨hchecked, hext, _, hpaths, rfl, hsource, hparent, mt hsame.1 (by decide),
    hexecutable.2 (by decide)⟩

/-- The executable of `...rs` is the directory above the scratch directory. -/
theorem executable_above_scratch :
    let script := Path.ofText "...rs"
    let workDir := Path.ofText "/w"
    checkScript script scriptExtension = .ok script ∧
      ∃ a, paths? script workDir .default .linux = some a ∧
        a.source = (Path.ofText "/w/temp").below "...rs" ∧
        a.executable = (Path.ofText "/w/temp").below ".." ∧
        ¬ Path.Inside (workDir.join ToolchainSettings.default.scratchDir) a.executable := by
  intro script workDir
  exact ⟨by decide, ⟨(Path.ofText "/w/temp").below "...rs", (Path.ofText "/w/temp").below ".."⟩,
    by decide +kernel, rfl, rfl, by decide +kernel⟩

end Scratch

end Oneshot
