import Oneshot.Proofs.Toolchain.Mirror
import Oneshot.Proofs.Toolchain.Room

/-!
# Scripts Side by Side

What a run leaves below the scratch directory stays there: the source with the directories above it,
and the executable. For the script that is run next this is as if nothing had happened, as long as
neither script obstructs the other. The tree is a volume without links that is changed by the runner
alone and, at the place of the executable, by the compiler.

* `Volume.aim_of_inside`: paths inside one directory are told apart by where they lead.
* `Volume.Ran`, `Volume.Leaves`: the volume behind a run, and what the run leaves there.
* `Volume.Leaves.open_iff`: what a run changes for another artifact.
* `Scratch.artifacts_apart`: which scripts obstruct each other, and that others do not notice each
  other.
-/

namespace Oneshot

open Virtual (Place)

namespace Volume

variable {v v' : Volume} {p q : Path}

/-! ### Paths below one directory -/

theorem foldl_onward {rest : List Text} (hrest : ∀ part ∈ rest, Scratch.isKept part = true)
    (place : Place) : rest.foldl onward place = place ++ rest := by
  induction rest generalizing place with
  | nil => simp
  | cons part rest ih =>
    have hpart := isStep_iff.1 (hrest part (by simp))
    rw [List.foldl_cons, onward, if_neg hpart.2, ih fun next hnext => hrest next (by simp [hnext])]
    simp

/-- A path inside a directory leads where its further parts say. -/
theorem aim_of_inside {base : Path} (h : Path.Inside base p) (v : Volume) :
    v.aim p = v.aim base ++ p.parts.drop base.parts.length := by
  obtain ⟨anchor, parts⟩ := p
  obtain ⟨rfl, rest, rfl⟩ := h.1.le
  have hrest := h.2
  rw [List.drop_left] at hrest ⊢
  rw [aim, List.foldl_append, foldl_onward hrest]
  rfl

/-- Paths inside one directory are told apart by where they lead. -/
theorem eq_of_aim_eq {base : Path} (hp : Path.Inside base p) (hq : Path.Inside base q)
    (h : v.aim p = v.aim q) : p = q := by
  rw [aim_of_inside hp, aim_of_inside hq, List.append_cancel_left_eq] at h
  obtain ⟨anchor, parts⟩ := p
  obtain ⟨anchor', parts'⟩ := q
  obtain ⟨rfl, rest, rfl⟩ := hp.1.le
  obtain ⟨rfl, rest', rfl⟩ := hq.1.le
  rw [List.drop_left, List.drop_left] at h
  rw [h]

/-! ### Runs -/

/-- The volume behind a run: the source has been written as far as that is possible, and the
compiler may have put an executable beside it. -/
inductive Ran (a : Artifact) : Volume → Volume → Prop
  | notCompiled (program : Text) (v : Volume) :
      Ran a v (host.play (Toolchain.writeSource a.source program).run v).state
  | compiled {program : Text} {v v' : Volume} {place : Place} {content : Bytes} {readable : Bool}
      (hwritten : (host.play (Toolchain.writeSource a.source program).run v).value = .ok ())
      (hroom : (host.play (Toolchain.writeSource a.source program).run v).state.HasRoomAt
        a.executable place)
      (hadds : (host.play (Toolchain.writeSource a.source program).run v).state.Adds place
        (.file content readable) v') :
      Ran a v v'

theorem Ran.plain {a : Artifact} (h : Ran a v v') (hplain : v.Plain) : v'.Plain := by
  cases h with
  | notCompiled => exact hplain.play _
  | compiled _ _ hadds => exact (hplain.play _).of_update (by simp) (by simp) hadds.2

/-- The files of an artifact stand side by side in a directory, below the base and behind parts that
are no dots. The name of the executable may be a dot or two. -/
structure Seated (base dir : Path) (a : Artifact) : Prop where
  proper : dir.Proper
  le : base ≤ dir
  kept : ∀ part ∈ dir.parts.drop base.parts.length, Scratch.isKept part = true
  source : ∃ name, a.source = dir.below name ∧ (dir.below name).Proper ∧
    Scratch.isKept name = true
  executable : ∃ name, a.executable = dir.below name

section Seated

variable {base dir : Path} {a : Artifact}

theorem Seated.eq_below (ha : Seated base dir a) (hp : p ∈ [a.source, a.executable]) :
    ∃ name, p = dir.below name := by
  rcases List.mem_pair.1 hp with rfl | rfl
  · exact ha.source.imp fun _ hsource => hsource.1
  · exact ha.executable

theorem Seated.inside (ha : Seated base dir a) (hp : p ∈ [a.source, a.executable])
    (hname : Scratch.isKept p.name = true) : Path.Inside base p := by
  obtain ⟨name, rfl⟩ := ha.eq_below hp
  rw [Path.name_below] at hname
  exact (Path.inside_below_iff ha.le name).2 ⟨ha.kept, hname⟩

/-- What is on the way to the directory of an artifact is on the way to the base, or inside it. -/
theorem Seated.le_or_inside (ha : Seated base dir a) (hq : q ≤ dir) :
    q ≤ base ∨ Path.Inside base q := by
  have hanchor : q.anchor = base.anchor := hq.1.trans ha.le.1.symm
  rcases List.prefix_or_prefix_of_prefix hq.2 ha.le.2 with hprefix | hprefix
  · exact .inl ⟨hanchor, hprefix⟩
  · by_cases hle : q ≤ base
    · exact .inl hle
    · refine .inr ⟨lt_of_le_not_ge ⟨hanchor.symm, hprefix⟩ hle, fun part hpart => ha.kept part ?_⟩
      exact (hq.2.drop _).subset hpart

end Seated

/-- What a run leaves: directories above its source, and files in its own two places. -/
structure Leaves (a : Artifact) (dir : Path) (v v' : Volume) : Prop where
  workDir : v'.workDir = v.workDir
  entry : ∀ place, v'.entry place = v.entry place ∨
    (v.entry place = none ∧ v.entry (start dir v.workDir) ≠ none ∧
      v'.entry place = some (.directory true) ∧ ∃ q ≤ dir, v.aim q = place) ∨
    (∃ p ∈ [a.source, a.executable], Scratch.isKept p.name = true ∧ v.aim p = place) ∧
      (∀ q ≤ dir, v.aim q ≠ place) ∧ v.entry place ≠ some (.directory true) ∧
      ∃ content readable, v'.entry place = some (.file content readable)

section Seated

variable {base dir : Path} {a : Artifact}

/-- A file in a place of its own is one of the things that a run leaves. -/
theorem Leaves.adds {v₁ : Volume} {place : Place} {content : Bytes} {readable : Bool}
    (h : Leaves a dir v v₁) (hadds : v₁.Adds place (.file content readable) v')
    (hown : ∃ p ∈ [a.source, a.executable], Scratch.isKept p.name = true ∧ v.aim p = place)
    (hfree : v.entry place ≠ some (.directory true)) (haside : ∀ q ≤ dir, v.aim q ≠ place) :
    Leaves a dir v v' := by
  refine ⟨hadds.1.trans h.workDir, fun other => ?_⟩
  rw [hadds.2]
  by_cases heq : other = place
  · subst heq
    exact .inr (.inr ⟨hown, haside, hfree, _, _, Function.update_self ..⟩)
  · rw [Function.update_of_ne heq]
    exact h.entry other

theorem Seated.leaves_writeSource (ha : Seated base dir a) (h : v.Plain) (program : Text) :
    Leaves a dir v (host.play (Toolchain.writeSource a.source program).run v).state := by
  obtain ⟨name, hsource, hp, hname⟩ := ha.source
  have hmade := (after_makeDirs (v := v) ha.proper).play
  have hplain := h.play (Files.makeDirs dir)
  have hway : Leaves a dir v (host.play (Files.makeDirs dir) v).state :=
    ⟨hmade.way.workDir, fun place => (h.entry_play_makeDirs ha.proper place).imp_right .inl⟩
  have hwritten := play_writeSource (dir.below name) program v
  rw [Path.parent_below] at hwritten
  rw [hsource]
  rcases hwritten with ⟨hvalue, hstate, -⟩ | ⟨-, hstate, -⟩
  · have hdirectory := hmade.directory hvalue
    rcases hplain.answer_write_eq hp (isStep_iff.1 hname) hdirectory (Utf8.encode program) with
      ⟨⟨-, hfree⟩, hanswer⟩ | ⟨-, hanswer⟩
    · have hadds := hplain.adds_settled_below hp (isStep_iff.1 hname) hdirectory
        (Utf8.encode program) hfree
      rw [aim_of_workDir_eq hway.workDir] at hadds hfree hanswer
      rw [h.free_iff ha.proper hvalue] at hfree
      rw [hstate, hanswer]
      refine hway.adds hadds ⟨a.source, by simp, ?_, by rw [hsource]⟩ hfree.1 hfree.2
      rwa [hsource, Path.name_below]
    · rw [hstate, hanswer]
      exact hway
  · rw [hstate]
    exact hway

theorem Seated.leaves (ha : Seated base dir a) (h : v.Plain) (hran : Ran a v v') :
    Leaves a dir v v' := by
  cases hran with
  | notCompiled program => exact ha.leaves_writeSource h program
  | @compiled program _ _ place content readable hwritten hroom hadds =>
    obtain ⟨source, hsource, hproper, hkept⟩ := ha.source
    obtain ⟨name, hexecutable⟩ := ha.executable
    have hleaves := ha.leaves_writeSource h program
    rw [hexecutable] at hroom
    obtain ⟨hname, ⟨-, hplace⟩, -⟩ := ((h.play _).hasRoomAt_iff ha.proper hroom.isDirectory).1 hroom
    rw [aim_of_workDir_eq hleaves.workDir] at hplace
    rw [hsource] at hroom
    obtain ⟨⟨-, hfree, haside⟩, -⟩ := open_below_iff.1
      ((h.hasRoom_iff hproper (isStep_iff.1 hkept) program).1 ⟨place, hroom⟩).2
    rw [← hplace] at hfree haside
    refine hleaves.adds hadds ⟨a.executable, by simp, ?_, by rw [hexecutable, hplace]⟩ hfree haside
    rwa [hexecutable, Path.name_below]

variable {dir₁ dir₂ : Path} {a₁ a₂ : Artifact}

/-- A place of its own that a run has filled is not on the way to another artifact, unless the first
obstructs the other. -/
theorem Seated.aim_ne (ha₁ : Seated base dir₁ a₁) (ha₂ : Seated base dir₂ a₂)
    (h₁₂ : ¬ a₁.Obstructs a₂) (hp : p ∈ [a₁.source, a₁.executable])
    (hname : Scratch.isKept p.name = true) (haside : ∀ r ≤ dir₁, v.aim r ≠ v.aim p) :
    ∀ q ≤ dir₂, v.aim q ≠ v.aim p := by
  intro q hq heq
  rcases ha₂.le_or_inside hq with hle | hinside
  · exact haside q (hle.trans ha₁.le) heq
  · obtain rfl := eq_of_aim_eq hinside (ha₁.inside hp hname) heq
    obtain ⟨name, hsource, -⟩ := ha₂.source
    refine h₁₂ ⟨q, hp, a₂.source, by simp, ?_⟩
    rw [hsource]
    exact hq.trans (dir₂.le_below name)

/-- A run leaves the way to another artifact as clear as it was, unless it obstructs the other. -/
theorem Leaves.clear_iff (h : Leaves a₁ dir₁ v v') (ha₁ : Seated base dir₁ a₁)
    (ha₂ : Seated base dir₂ a₂) (h₁₂ : ¬ a₁.Obstructs a₂) : v'.Clear dir₂ ↔ v.Clear dir₂ := by
  have hanchor : dir₁.anchor = dir₂.anchor := ha₁.le.1.symm.trans ha₂.le.1
  have hstart : start dir₁ v.workDir = start dir₂ v.workDir := by
    rw [start, start, Path.isAbsolute, Path.isAbsolute, hanchor]
  rw [Clear, Clear, h.workDir]
  refine and_congr ?_ (forall_congr' fun q => forall_congr' fun hq => ?_)
  · rcases h.entry (start dir₂ v.workDir) with hsame | ⟨habsent, hthere, -⟩ | ⟨-, haside, -⟩
    · rw [hsame]
    · exact absurd habsent (hstart ▸ hthere)
    · exact absurd (hstart ▸ aim_base v dir₁) (haside _ (base_le dir₁))
  · rw [aim_of_workDir_eq h.workDir]
    rcases h.entry (v.aim q) with
      hsame | ⟨habsent, -, hmade, -⟩ | ⟨⟨p, hp, hname, hplace⟩, haside, -⟩
    · rw [hsame]
    · simp [habsent, hmade]
    · rw [← hplace] at haside
      exact absurd hplace.symm (ha₁.aim_ne ha₂ h₁₂ hp hname haside q hq)

/-- **A run leaves the paths of another artifact as open as they were**, unless one artifact
obstructs the other. -/
theorem Leaves.open_iff (h : Leaves a₁ dir₁ v v') (ha₁ : Seated base dir₁ a₁)
    (ha₂ : Seated base dir₂ a₂) (h₁₂ : ¬ a₁.Obstructs a₂) (h₂₁ : ¬ a₂.Obstructs a₁)
    (hp : p ∈ [a₂.source, a₂.executable]) (hname : Scratch.isKept p.name = true) :
    v'.Open p ↔ v.Open p := by
  have hinside := ha₂.inside hp hname
  obtain ⟨name, rfl⟩ := ha₂.eq_below hp
  rw [open_below_iff, open_below_iff, h.clear_iff ha₁ ha₂ h₁₂]
  simp only [aim_of_workDir_eq h.workDir]
  refine and_congr_left fun _ => and_congr_right fun _ => and_congr_left fun haside => ?_
  rcases h.entry (v.aim (dir₂.below name)) with
    hsame | ⟨-, -, -, q, hq, hplace⟩ | ⟨-, -, hfree, content, readable, hfile⟩
  · rw [hsame]
  · rcases ha₁.le_or_inside hq with hle | hinside'
    · exact absurd hplace (haside q (hle.trans ha₂.le))
    · obtain rfl := eq_of_aim_eq hinside' hinside hplace
      obtain ⟨source, hsource, -⟩ := ha₁.source
      refine absurd ⟨_, hp, a₁.source, by simp, ?_⟩ h₂₁
      rw [hsource]
      exact hq.trans (dir₁.le_below source)
  · exact iff_of_true (by simp [hfile]) hfree

/-- Any number of runs. -/
theorem Seated.open_iff (ha₁ : Seated base dir₁ a₁) (ha₂ : Seated base dir₂ a₂)
    (h₁₂ : ¬ a₁.Obstructs a₂) (h₂₁ : ¬ a₂.Obstructs a₁) (hplain : v.Plain)
    (hran : Relation.ReflTransGen (Ran a₁) v v') : v'.Plain ∧
      ∀ p ∈ [a₂.source, a₂.executable], Scratch.isKept p.name = true →
        (v'.Open p ↔ v.Open p) := by
  induction hran with
  | refl => exact ⟨hplain, fun _ _ _ => Iff.rfl⟩
  | tail _ hran ih =>
    refine ⟨hran.plain ih.1, fun p hp hname => ?_⟩
    exact ((ha₁.leaves ih.1 hran).open_iff ha₁ ha₂ h₁₂ h₂₁ hp hname).trans (ih.2 p hp hname)

end Seated

end Volume

namespace Scratch

variable {script script₁ script₂ workDir p p₁ p₂ : Path} {toolchain : ToolchainSettings}
  {platform : Platform} {a a₁ a₂ : Artifact}

/-- The places of an artifact are read back from their texts. -/
theorem proper_under {base : Path} (hbase : base.Proper) (hp : ∀ part ∈ p.parts, Path.IsName part) :
    (under base p).Proper := by
  refine ⟨hbase.anchor, fun part hpart => ?_⟩
  rcases List.mem_append.1 hpart with hpart | hpart
  · exact hbase.parts part hpart
  · exact hp part hpart

/-- The files of a script stand side by side, below the scratch directory. -/
theorem exists_seated (hworkDir : workDir.Proper) (hscratch : toolchain.scratchDir.Proper)
    (hscript : script.Proper) (hchecked : checkScript script scriptExtension = .ok script)
    (hplace : place? script workDir = some p)
    (ha : paths? script workDir toolchain platform = some a) :
    ∃ dir, Volume.Seated (workDir.join toolchain.scratchDir) dir a := by
  have hsource := (paths_eq_some hscript hplace ha).1
  obtain ⟨dir, hle, hkept, rfl⟩ := exists_parent_of_paths hchecked ha
  have hproper : (dir.below script.name).Proper := by
    rw [show dir.below script.name = _ from hsource]
    exact proper_under (hworkDir.join hscratch) fun part hpart =>
      (parts_of_place hscript hplace part hpart).1
  exact ⟨dir, hproper.of_le (dir.le_below _), hle, hkept,
    ⟨_, rfl, hproper, isKept_name_of_checked hchecked⟩, _, rfl⟩

/-- **Scripts side by side.** The sources and the executables of two scripts with different places
are different. One script obstructs the other exactly if its place, with or without its extension,
is a directory on the way to the place of the other, or if the executable of one is the source of
the other. If neither obstructs the other, then any number of runs of the first make no difference
to whether the source of the second can be written, and to whether there is room for its executable
then. -/
theorem artifacts_apart (hworkDir : workDir.Proper) (hscratch : toolchain.scratchDir.Proper)
    (hscript₁ : script₁.Proper) (hscript₂ : script₂.Proper)
    (hchecked₁ : checkScript script₁ scriptExtension = .ok script₁)
    (hchecked₂ : checkScript script₂ scriptExtension = .ok script₂)
    (hplace₁ : place? script₁ workDir = some p₁) (hplace₂ : place? script₂ workDir = some p₂)
    (hne : p₁ ≠ p₂)
    (ha₁ : paths? script₁ workDir toolchain platform = some a₁)
    (ha₂ : paths? script₂ workDir toolchain platform = some a₂) :
    a₁.source ≠ a₂.source ∧ a₁.executable ≠ a₂.executable ∧
      (a₁.Obstructs a₂ ↔
        p₁ ≤ p₂.parent ∨ p₁.withExtension platform.executableExtension ≤ p₂.parent ∨
        p₁.withExtension platform.executableExtension = p₂ ∨
        p₁ = p₂.withExtension platform.executableExtension) ∧
      (¬ a₁.Obstructs a₂ → ¬ a₂.Obstructs a₁ → ∀ (program : Text) (v v' : Volume), v.Plain →
        Relation.ReflTransGen (Volume.Ran a₁) v v' →
          ((Volume.host.play (Toolchain.writeSource a₂.source program).run v').value = .ok () ↔
            (Volume.host.play (Toolchain.writeSource a₂.source program).run v).value = .ok ()) ∧
          ((Volume.host.play (Toolchain.writeSource a₂.source program).run v').state.HasRoom
              a₂.executable ↔
            (Volume.host.play (Toolchain.writeSource a₂.source program).run v).state.HasRoom
              a₂.executable)) := by
  obtain ⟨hsources, hexecutables, hobstructs⟩ :=
    obstructs_iff hscript₁ hscript₂ hchecked₁ hchecked₂ hplace₁ hplace₂ hne ha₁ ha₂
  refine ⟨hsources, hexecutables, hobstructs, fun h₁₂ h₂₁ program v v' hplain hran => ?_⟩
  obtain ⟨dir₁, hseated₁⟩ := exists_seated hworkDir hscratch hscript₁ hchecked₁ hplace₁ ha₁
  obtain ⟨dir₂, hseated₂⟩ := exists_seated hworkDir hscratch hscript₂ hchecked₂ hplace₂ ha₂
  obtain ⟨hplain', hopen⟩ := hseated₁.open_iff hseated₂ h₁₂ h₂₁ hplain hran
  obtain ⟨name, hsource, hproper, hkept⟩ := hseated₂.source
  obtain ⟨built, hexecutable⟩ := hseated₂.executable
  have hname := Volume.isStep_iff.1 hkept
  rw [hsource, hexecutable] at hopen ⊢
  constructor
  · rw [hplain'.writeSource_ok_iff hproper hname, hplain.writeSource_ok_iff hproper hname]
    exact hopen _ (by simp) (by simpa using hkept)
  · rw [hplain'.hasRoom_iff hproper hname, hplain.hasRoom_iff hproper hname]
    exact and_congr_right fun hbuilt => hopen _ (by simp) (by simpa using hbuilt)

/-- The executable of `a.rs` stands where `a/b.rs` needs a directory: behind a run of the first, the
source of the second cannot be written any more. -/
theorem executable_in_place_of_directory :
    checkScript (Path.ofText "a.rs") scriptExtension = .ok (Path.ofText "a.rs") ∧
      checkScript (Path.ofText "a/b.rs") scriptExtension = .ok (Path.ofText "a/b.rs") ∧
      place? (Path.ofText "a.rs") (Path.ofText "/") ≠
        place? (Path.ofText "a/b.rs") (Path.ofText "/") ∧
      ∃ a₁ a₂, paths? (Path.ofText "a.rs") (Path.ofText "/") .default .linux = some a₁ ∧
        paths? (Path.ofText "a/b.rs") (Path.ofText "/") .default .linux = some a₂ ∧
        a₁.executable ≤ a₂.source ∧ a₁.executable ≠ a₂.source ∧
        ∃ v, Volume.Ran a₁ .bare v ∧
          (Volume.host.play (Toolchain.writeSource a₂.source []).run .bare).value = .ok () ∧
          (Volume.host.play (Toolchain.writeSource a₂.source []).run v).value ≠ .ok () := by
  let artifact₁ : Artifact := ⟨Path.ofText "/temp/a.rs", Path.ofText "/temp/a"⟩
  let artifact₂ : Artifact := ⟨Path.ofText "/temp/a/b.rs", Path.ofText "/temp/a/b"⟩
  let written := (Volume.host.play (Toolchain.writeSource artifact₁.source []).run .bare).state
  have hroom : written.HasRoomAt artifact₁.executable ["temp", "a"] :=
    ⟨by decide, ⟨by decide +kernel, by decide +kernel⟩, by decide +kernel⟩
  have hadds : written.Adds ["temp", "a"] (.file [] true)
      (written.settled ["temp", "a"] (.file [] true)) :=
    Volume.adds_settled (by decide) (by decide +kernel) hroom.2.2
  have hran : Volume.Ran artifact₁ .bare (written.settled ["temp", "a"] (.file [] true)) :=
    .compiled (by decide +kernel) hroom hadds
  refine ⟨by decide, by decide, by decide, artifact₁, artifact₂, by decide, by decide, by decide,
    by decide, _, hran, by decide +kernel, by decide +kernel⟩

/-- The scripts `a.rs` and `b/a.rs` do not obstruct each other. -/
theorem artifacts_apart_directory :
    ∃ a₁ a₂, paths? (Path.ofText "a.rs") (Path.ofText "/") .default .linux = some a₁ ∧
      paths? (Path.ofText "b/a.rs") (Path.ofText "/") .default .linux = some a₂ ∧
      a₁.source ≠ a₂.source ∧ ¬ a₁.Obstructs a₂ ∧ ¬ a₂.Obstructs a₁ ∧
      ∃ v, Volume.Ran a₁ .bare v ∧
        (Volume.host.play (Toolchain.writeSource a₂.source []).run v).value = .ok () := by
  let artifact₁ : Artifact := ⟨Path.ofText "/temp/a.rs", Path.ofText "/temp/a"⟩
  let artifact₂ : Artifact := ⟨Path.ofText "/temp/b/a.rs", Path.ofText "/temp/b/a"⟩
  have hproper := Path.proper_ofText
  have hplace₁ : place? (Path.ofText "a.rs") (Path.ofText "/") = some (Path.ofText "a.rs") := by
    decide
  have hplace₂ : place? (Path.ofText "b/a.rs") (Path.ofText "/") = some (Path.ofText "b/a.rs") := by
    decide
  have hpaths₁ : paths? (Path.ofText "a.rs") (Path.ofText "/") .default .linux
      = some artifact₁ := by
    decide
  have hpaths₂ : paths? (Path.ofText "b/a.rs") (Path.ofText "/") .default .linux
      = some artifact₂ := by
    decide
  obtain ⟨hsources, -, -, hunnoticed⟩ := artifacts_apart (hproper "/") (hproper "temp")
    (hproper "a.rs") (hproper "b/a.rs") (by decide) (by decide) hplace₁ hplace₂ (by decide)
    hpaths₁ hpaths₂
  have hran : Volume.Ran artifact₁ .bare _ := .notCompiled [] .bare
  refine ⟨artifact₁, artifact₂, hpaths₁, hpaths₂, hsources, by decide, by decide, _, hran, ?_⟩
  exact ((hunnoticed (by decide) (by decide) [] _ _ Volume.plain_bare (.single hran)).1).2
    (by decide +kernel)

end Scratch

end Oneshot
