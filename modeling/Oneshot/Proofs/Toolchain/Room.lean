import Oneshot.Proofs.Toolchain.Plain
import Oneshot.Proofs.Toolchain.Places

/-!
# Room for a Script

A run makes the directories above its source, writes the source and has the compiler put an
executable beside it. On a plain volume the source can be written exactly if its path is open: no
file stands on the way, no directory at the path, and the way itself does not pass it. There is room
for the executable then exactly if its path is open as well and its name is no dot or two.

* `Volume.Open`: a file can be put at a path once the directories above it have been made.
* `Volume.HasRoom`: an executable can be put at a path.
* `Volume.Plain.writeSource_ok_iff`: whether a source can be written.
* `Volume.Plain.hasRoom_iff`: whether there is room for the executable then.
-/

namespace Oneshot

open Virtual (Place)

namespace Volume

variable {v v' : Volume} {p q parent : Path} {place : Place} {name : Text}

/-- A file can be put at a path once the directories above it have been made. -/
structure Open (v : Volume) (p : Path) : Prop where
  spelled : Spelled p
  clear : v.Clear p.parent
  free : v.entry (v.aim p) ≠ some (.directory true)
  aside : ∀ q ≤ p.parent, v.aim q ≠ v.aim p

/-! ### Writing a source -/

namespace Plain

/-- Where directories have been made, a place is free if it was free and is not one of theirs. -/
theorem free_iff (h : v.Plain) (hp : p.Proper)
    (hok : (host.play (Files.makeDirs p) v).value = .ok ()) (place : Place) :
    (host.play (Files.makeDirs p) v).state.entry place ≠ some (.directory true) ↔
      v.entry place ≠ some (.directory true) ∧ ∀ q ≤ p, v.aim q ≠ place := by
  have hmade := (after_makeDirs (v := v) hp).play
  have hway := (((h.play _).isDirectory_iff hp).1 (hmade.directory hok)).2
  simp only [aim_of_workDir_eq hmade.way.workDir] at hway
  constructor
  · refine fun hfree => ⟨fun hdirectory => ?_, ?_⟩
    · rcases hmade.way.entry place with hsame | ⟨habsent, -⟩
      · exact hfree (hsame.trans hdirectory)
      · simp [hdirectory] at habsent
    · rintro q hq rfl
      exact hfree (hway q hq)
  · rintro ⟨hfree, haside⟩ hdirectory
    rcases h.entry_play_makeDirs hp place with hsame | ⟨-, -, -, q, hq, hplace⟩
    · exact hfree (hsame.symm.trans hdirectory)
    · exact haside q hq hplace

/-- **The place of a last name** in a directory that is there. -/
theorem spot_below_iff (h : v.Plain) (hp : parent.Proper) (hname : IsStep name)
    (hparent : v.IsDirectory parent) :
    Fits (parent.below name).text ∧ v.spot (parent.below name) = some place ↔
      Spelled (parent.below name) ∧ place = v.aim (parent.below name) := by
  obtain ⟨hspelled_parent, hway⟩ := (h.isDirectory_iff hp).1 hparent
  obtain ⟨-, dir, searchable, hfind, -⟩ := hparent
  obtain rfl := h.find_eq hp hfind
  rw [aim_below, onward, if_neg hname.2, spot_below parent hname.2]
  constructor
  · rintro ⟨hfits, dir, hdir, -, hlength, rfl⟩
    obtain rfl := Option.some.inj (hfind.symm.trans hdir)
    exact ⟨spelled_below.2 ⟨hspelled_parent, hfits, fun _ => hlength⟩, rfl⟩
  · rintro ⟨hspelled, rfl⟩
    exact ⟨hspelled.fits, _, hfind, hway parent le_rfl, (spelled_below.1 hspelled).2.2 hname.2, rfl⟩

section Write

variable (h : v.Plain) (hp : (parent.below name).Proper) (hname : IsStep name)
  (hparent : v.IsDirectory parent)

include h hp hname hparent

theorem slot_below_iff : v.slot (parent.below name).text = some place ↔
    Spelled (parent.below name) ∧ place = v.aim (parent.below name) := by
  rw [← h.spot_below_iff (hp.of_le (parent.le_below name)) hname hparent]
  exact ⟨slot_text hp, fun hspot => slot_of_spot hp hspot.1 hspot.2⟩

theorem reach_below_iff : v.reach (parent.below name).text = some place ↔
    Spelled (parent.below name) ∧ place = v.aim (parent.below name) ∧ v.entry place ≠ none := by
  constructor
  · intro hreach
    have hfind : Fits (parent.below name).text ∧ v.find (parent.below name) = some place := by
      rw [reach_text hp] at hreach
      split at hreach
      · next hfits => exact ⟨hfits, hreach⟩
      · simp at hreach
    obtain ⟨dir, hdir, henter⟩ := h.find_below_iff.1 hfind.2
    obtain ⟨hdirectory, hlength, hthere, rfl⟩ := (enter_eq_some_iff hname).1 henter
    have hslot : v.slot (parent.below name).text = some (dir ++ [name]) :=
      slot_of_spot hp hfind.1 ((spot_below parent hname.2).2 ⟨dir, hdir, hdirectory, hlength, rfl⟩)
    obtain ⟨hspelled, hplace⟩ := (h.slot_below_iff hp hname hparent).1 hslot
    exact ⟨hspelled, hplace, hthere⟩
  · rintro ⟨hspelled, rfl, hthere⟩
    have hslot := (h.slot_below_iff hp hname hparent).2 ⟨hspelled, rfl⟩
    obtain ⟨hfits, hspot⟩ := slot_text hp hslot
    rw [reach_text hp, if_pos hfits]
    exact find_of_spot hp hspot hthere (h.linkAt _)

/-- **A file is written** where no directory stands, in a directory that is there. -/
theorem answer_write_eq (content : Bytes) :
    (Spelled (parent.below name) ∧ v.entry (v.aim (parent.below name)) ≠ some (.directory true)) ∧
        Volume.answer (.write (parent.below name).text content) v
          = (.ok (), v.settled (v.aim (parent.below name)) (.file content true)) ∨
      ¬ (Spelled (parent.below name) ∧
          v.entry (v.aim (parent.below name)) ≠ some (.directory true)) ∧
        Volume.answer (.write (parent.below name).text content) v
          = (.error (refusal (parent.below name).text), v) := by
  by_cases hspelled : Spelled (parent.below name)
  · have hslot := (h.slot_below_iff hp hname hparent).2 ⟨hspelled, rfl⟩
    have hreach : v.entry (v.aim (parent.below name)) ≠ none →
        v.reach (parent.below name).text = some (v.aim (parent.below name)) := fun hthere =>
      (h.reach_below_iff hp hname hparent).2 ⟨hspelled, rfl, hthere⟩
    rcases h.cases (v.aim (parent.below name)) with hentry | hentry | ⟨old, readable, hentry⟩
    · have hreach : v.reach (parent.below name).text = none :=
        Option.eq_none_iff_forall_ne_some.2 fun place hplace => by
          obtain ⟨-, rfl, hthere⟩ := (h.reach_below_iff hp hname hparent).1 hplace
          exact hthere hentry
      refine .inl ⟨⟨hspelled, by simp [hentry]⟩, ?_⟩
      simp only [Volume.answer, hreach, hslot, hentry, if_true]
    · refine .inr ⟨fun hfree => hfree.2 hentry, ?_⟩
      simp only [Volume.answer, hreach (by simp [hentry]), hentry]
    · refine .inl ⟨⟨hspelled, by simp [hentry]⟩, ?_⟩
      simp only [Volume.answer, hreach (by simp [hentry]), hentry]
  · have hslot : v.slot (parent.below name).text = none :=
      Option.eq_none_iff_forall_ne_some.2 fun place hplace =>
        hspelled ((h.slot_below_iff hp hname hparent).1 hplace).1
    have hreach : v.reach (parent.below name).text = none :=
      Option.eq_none_iff_forall_ne_some.2 fun place hplace =>
        hspelled ((h.reach_below_iff hp hname hparent).1 hplace).1
    refine .inr ⟨fun hfree => hspelled hfree.1, ?_⟩
    simp only [Volume.answer, hreach, hslot]

theorem adds_settled_below (content : Bytes)
    (hfree : v.entry (v.aim (parent.below name)) ≠ some (.directory true)) :
    v.Adds (v.aim (parent.below name)) (.file content true)
      (v.settled (v.aim (parent.below name)) (.file content true)) := by
  have hway := ((h.isDirectory_iff (hp.of_le (parent.le_below name))).1 hparent).2
  refine adds_settled ?_ ?_ fun searchable hsome => hfree (h.directory hsome)
  · simp [aim_below, onward, hname.2]
  · rw [aim_below, onward, if_neg hname.2, List.dropLast_concat]
    exact hway parent le_rfl

end Write

end Plain

/-- Reporting leaves all as it is, and has a value exactly if the reply has it. -/
theorem play_reporting {α : Type} (wrap : OsError → RunError) (reply : Except Refusal α)
    (v : Volume) : let reported := host.play (Action.reporting wrap reply).run v
    reported.state = v ∧ ∀ x, reported.value = .ok x ↔ reply = .ok x := by
  rcases reply with (e | _ | _) | x
  all_goals exact ⟨rfl, fun y => by simp [Action.reporting, Action.fail, Action.escape, Host.play]⟩

/-- What writing a source comes to: directories are made, and then the file is written. -/
theorem play_writeSource (p : Path) (program : Text) (v : Volume) :
    let made := host.play (Files.makeDirs p.parent) v
    let answered := answer (.write p.text (Utf8.encode program)) made.state
    let written := host.play (Toolchain.writeSource p program).run v
    (made.value = .ok () ∧ written.state = answered.2 ∧
        (written.value = .ok () ↔ answered.1 = .ok ())) ∨
      made.value ≠ .ok () ∧ written.state = made.state ∧ written.value ≠ .ok () := by
  intro made answered written
  have hwritten : written = (host.play (do
      Action.reporting (.scratchNotWritten p) made.value
      Action.reporting (.scratchNotWritten p)
        (← Action.ask (.write p.text (Utf8.encode program))) : Action Unit).run
          made.state).behind made.trace :=
    Host.play_bind_ok (Host.play_lift (h := host) (Files.makeDirs p.parent) v)
  rcases hvalue : made.value with refusal | x
  · refine .inr ⟨by simp, ?_⟩
    rw [hwritten, hvalue]
    rcases refusal with e | _ | _
    all_goals exact ⟨rfl, by simp [Action.reporting, Action.fail, Action.escape, Host.play]⟩
  · refine .inl ⟨rfl, ?_⟩
    obtain ⟨hstate, hreported⟩ := play_reporting (.scratchNotWritten p) answered.1 answered.2
    rw [hwritten, hvalue]
    exact ⟨hstate, hreported ()⟩

theorem open_below_iff : v.Open (parent.below name) ↔
    (Spelled (parent.below name) ∧ v.entry (v.aim (parent.below name)) ≠ some (.directory true) ∧
        ∀ q ≤ parent, v.aim q ≠ v.aim (parent.below name)) ∧
      v.Clear parent := by
  constructor
  · intro h
    have hclear := h.clear
    have haside := h.aside
    rw [Path.parent_below] at hclear haside
    exact ⟨⟨h.spelled, h.free, haside⟩, hclear⟩
  · rintro ⟨⟨hspelled, hfree, haside⟩, hclear⟩
    refine ⟨hspelled, ?_, hfree, ?_⟩
    · rwa [Path.parent_below]
    · rwa [Path.parent_below]

/-- Whether a directory is there after the attempt to make it. -/
theorem Plain.isDirectory_play_makeDirs_iff (h : v.Plain) (hp : p.Proper) :
    (host.play (Files.makeDirs p) v).state.IsDirectory p ↔ v.Clear p ∧ Spelled p := by
  have hmade := (after_makeDirs (v := v) hp).play
  rw [← h.play_makeDirs_ok_iff hp]
  refine ⟨fun hdirectory => ?_, hmade.directory⟩
  rcases hvalue : (host.play (Files.makeDirs p) v).value with refusal | _
  · exact absurd hdirectory (hmade.absent refusal hvalue)
  · rfl

/-- There is room for an executable at a path, whose last name has the given place: under a name of
its own, and not in place of a directory. -/
def HasRoomAt (v : Volume) (p : Path) (place : Place) : Prop :=
  Scratch.isKept p.name = true ∧ (Fits p.text ∧ v.spot p = some place) ∧
    ∀ searchable, v.entry place ≠ some (.directory searchable)

/-- There is room for an executable at a path. -/
def HasRoom (v : Volume) (p : Path) : Prop :=
  ∃ place, v.HasRoomAt p place

/-- Where all directories are kept, a path still leads to one. -/
theorem Plain.isDirectory_of_forall (h : v.Plain) (h' : v'.Plain)
    (hworkDir : v'.workDir = v.workDir) (hkept : ∀ place, v.entry place = some (.directory true) →
      v'.entry place = some (.directory true)) (hp : p.Proper) (hdirectory : v.IsDirectory p) :
    v'.IsDirectory p := by
  obtain ⟨hspelled, hway⟩ := (h.isDirectory_iff hp).1 hdirectory
  refine (h'.isDirectory_iff hp).2 ⟨hspelled, fun q hq => ?_⟩
  rw [aim_of_workDir_eq hworkDir]
  exact hkept _ (hway q hq)

theorem Plain.forall_directory_iff (h : v.Plain) :
    (∀ searchable, v.entry place ≠ some (.directory searchable)) ↔
      v.entry place ≠ some (.directory true) :=
  ⟨fun hfree => hfree true, fun hfree _ hsome => hfree (h.directory hsome)⟩

theorem isStep_iff : Scratch.isKept name = true ↔ IsStep name := by
  simp [Scratch.isKept, IsStep]

theorem HasRoomAt.isDirectory (h : v.HasRoomAt (parent.below name) place) :
    v.IsDirectory parent := by
  obtain ⟨hkept, ⟨hfits, hspot⟩, -⟩ := h
  rw [Path.name_below] at hkept
  obtain ⟨dir, hdir, hdirectory, -⟩ := (spot_below parent (isStep_iff.1 hkept).2).1 hspot
  exact ⟨hfits.of_le (parent.le_below name), dir, true, hdir, hdirectory⟩

theorem Plain.hasRoomAt_iff (h : v.Plain) (hp : parent.Proper) (hparent : v.IsDirectory parent) :
    v.HasRoomAt (parent.below name) place ↔ Scratch.isKept name = true ∧
      (Spelled (parent.below name) ∧ place = v.aim (parent.below name)) ∧
        v.entry place ≠ some (.directory true) := by
  rw [HasRoomAt, Path.name_below, h.forall_directory_iff]
  exact and_congr_right fun hkept =>
    and_congr_left fun _ => h.spot_below_iff hp (isStep_iff.1 hkept) hparent

section Write

variable (h : v.Plain) (hp : (parent.below name).Proper) (hname : IsStep name) (program : Text)

include h hp hname

/-- Writing a file leaves the directories as they are. -/
theorem Plain.directory_answer_write_iff (hparent : v.IsDirectory parent) (content : Bytes) :
    let after := (Volume.answer (.write (parent.below name).text content) v).2
    after.workDir = v.workDir ∧ ∀ place, after.entry place = some (.directory true) ↔
      v.entry place = some (.directory true) := by
  rcases h.answer_write_eq hp hname hparent content with ⟨⟨-, hfree⟩, hanswer⟩ | ⟨-, hanswer⟩
  · obtain ⟨hworkDir, hentry⟩ := h.adds_settled_below hp hname hparent content hfree
    rw [hanswer]
    refine ⟨hworkDir, fun place => ?_⟩
    rw [hentry]
    by_cases heq : place = v.aim (parent.below name)
    · subst heq
      simp [hfree]
    · rw [Function.update_of_ne heq]
  · rw [hanswer]
    exact ⟨rfl, fun _ => Iff.rfl⟩

/-- **The source can be written** exactly if its path is open. -/
theorem Plain.writeSource_ok_iff :
    (host.play (Toolchain.writeSource (parent.below name) program).run v).value = .ok () ↔
      v.Open (parent.below name) := by
  have hparent := hp.of_le (parent.le_below name)
  have hok := h.play_makeDirs_ok_iff hparent
  have hwritten := play_writeSource (parent.below name) program v
  rw [Path.parent_below] at hwritten
  rw [open_below_iff]
  rcases hwritten with ⟨hmade, -, hvalue⟩ | ⟨hmade, -, hvalue⟩
  · have hway := (after_makeDirs (v := v) hparent).play
    have hanswer := (h.play (Files.makeDirs parent)).answer_write_eq hp hname
      (hway.directory hmade) (Utf8.encode program)
    rw [aim_of_workDir_eq hway.way.workDir, h.free_iff hparent hmade] at hanswer
    rw [hvalue, and_iff_left (hok.1 hmade).1]
    rcases hanswer with ⟨hfit, hanswer⟩ | ⟨hunfit, hanswer⟩
    · exact iff_of_true (by rw [hanswer]) hfit
    · exact iff_of_false (by rw [hanswer]; simp) hunfit
  · exact iff_of_false hvalue fun hopen =>
      hmade (hok.2 ⟨hopen.2, hopen.1.1.of_le (parent.le_below name)⟩)

/-- **Whether there is room beside the source** once it has been written as far as it can be. -/
theorem Plain.hasRoom_iff {other : Text} :
    (host.play (Toolchain.writeSource (parent.below name) program).run v).state.HasRoom
        (parent.below other) ↔
      Scratch.isKept other = true ∧ v.Open (parent.below other) := by
  have hparent := hp.of_le (parent.le_below name)
  have hmade := (after_makeDirs (v := v) hparent).play
  have hok := h.play_makeDirs_ok_iff hparent
  have hplain := h.play (Files.makeDirs parent)
  have hwritten := play_writeSource (parent.below name) program v
  rw [Path.parent_below] at hwritten
  rw [open_below_iff]
  rcases hwritten with ⟨hvalue, hstate, -⟩ | ⟨hvalue, hstate, -⟩
  · have hdirectory := hmade.directory hvalue
    obtain ⟨hworkDir, hsame⟩ := hplain.directory_answer_write_iff hp hname hdirectory
      (Utf8.encode program)
    have hdirectory' := hplain.isDirectory_of_forall (hplain.answer _) hworkDir
      (fun q => (hsame q).2) hparent hdirectory
    simp only [HasRoom, hstate, (hplain.answer _).hasRoomAt_iff hparent hdirectory', ne_eq, hsame,
      aim_of_workDir_eq (hworkDir.trans hmade.way.workDir), (hok.1 hvalue).1, and_true]
    simp only [and_assoc, exists_and_left, exists_eq_left]
    rw [← ne_eq, h.free_iff hparent hvalue]
  · refine iff_of_false ?_ fun hopen =>
      hvalue (hok.2 ⟨hopen.2.2, hopen.2.1.1.of_le (parent.le_below other)⟩)
    rintro ⟨place, hroom⟩
    rw [hstate] at hroom
    exact hvalue (hok.2 ((h.isDirectory_play_makeDirs_iff hparent).1 hroom.isDirectory))

end Write

end Volume

end Oneshot
