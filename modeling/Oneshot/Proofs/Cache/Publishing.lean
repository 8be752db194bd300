import Oneshot.Proofs.Cache.Making

/-!
# Publishing a Cache on a Volume

A missing cache is filled in a staging directory and renamed. In between, the volume differs from
what it was at the staging directory only (`Volume.Staged`), so that discarding that directory gives
back the volume as it was. The rename either is refused or puts the whole cache in its place at once
(`Volume.Published`); that place has been empty, or an empty directory has stood there.

* `Volume.Staged.discard`: nothing is left of a staging directory.
* `Volume.Staged.published`: the rename.
* `Volume.afterAction_publishFrom`, `Volume.afterAction_publish`: the actions.
-/

namespace Oneshot

open Virtual (Place)

namespace Volume

variable {v v' v₁ v₂ : Volume} {p root : Path} {place top : Place} {name : Text} {item : Item}
  {content : Text → Option Item}

/-! ### Staging directories -/

/-- A directory with what has the names in it; nothing stands below that. -/
structure Holds (v : Volume) (place : Place) (content : Text → Option Item) : Prop where
  directory : v.entry place = some (.directory true)
  content : ∀ name, v.entry (place ++ [name]) = content name
  deep : ∀ name rest, rest ≠ [] → v.entry (place ++ name :: rest) = none

/-- What a new cache holds: the default prelude, and an empty directory for libraries. -/
def newContent (readable searchable : Bool) : Text → Option Item :=
  Function.update (Function.update (fun _ => none) "prelude".toList
    (some (.file (Utf8.encode Program.defaultPrelude) readable))) "dy-cache".toList
    (some (.directory searchable))

/-- A new cache stands at a place. -/
def HoldsNewCache (v : Volume) (place : Place) : Prop :=
  ∃ readable searchable, v.Holds place (newContent readable searchable)

/-- The volume differs from an earlier one at a staging directory only, to which a path leads. -/
structure Staged (v : Volume) (p : Path) (place : Place) (content : Text → Option Item)
    (v' : Volume) : Prop where
  workDir : v'.workDir = v.workDir
  elsewhere : ∀ other, ¬ place <+: other → v'.entry other = v.entry other
  absent : v.entry place = none
  slot : v'.slot p.text = some place
  holds : v'.Holds place content

theorem Staged.extends (h : Staged v p place content v') : v.Extends v' where
  workDir := h.workDir
  entry other item hitem := by
    refine .inl ?_
    rw [h.elsewhere other fun hle => ?_, hitem]
    simp [entry_eq_none h.absent hle] at hitem

namespace Staged

theorem find (hp : p.Proper) (h : Staged v p place content v') : v'.find p = some place :=
  find_of_spot hp (slot_text hp h.slot).2 (by simp [h.holds.directory])
    (by simp [linkAt, h.holds.directory])

theorem isDirectory (hp : p.Proper) (h : Staged v p place content v') : v'.IsDirectory p :=
  ⟨(slot_text hp h.slot).1, place, true, h.find hp, h.holds.directory⟩

theorem nul_not_mem (hp : p.Proper) (h : Staged v p place content v') : '\x00' ∉ p.text :=
  (slot_text hp h.slot).1.2

/-- A name in the staging directory is where it should be. -/
theorem eq_of_slot (h : Staged v p place content v') (hp : (p.below name).Proper)
    (hname : name ≠ ['.', '.']) {found : Place} (hslot : v'.slot (p.below name).text = some found) :
    found = place ++ [name] := by
  obtain ⟨dir, hdir, -, -, rfl⟩ := (spot_below p hname).1 (slot_text hp hslot).2
  rw [Option.some.inj ((h.find (hp.of_le (p.le_below name))).symm.trans hdir)]

/-- Something more in the staging directory. -/
theorem add (h : Staged v p place content v₁) (hp : p.Proper) (habsent : content name = none)
    (hadds : v₁.Adds (place ++ [name]) item v₂) :
    Staged v p place (Function.update content name (some item)) v₂ where
  workDir := hadds.1.trans h.workDir
  absent := h.absent
  elsewhere other hother := by
    rw [hadds.2, Function.update_of_ne, h.elsewhere other hother]
    rintro rfl
    exact hother (List.prefix_append place [name])
  slot := by
    obtain ⟨hfits, hspot⟩ := slot_text hp h.slot
    have hnone : v₁.entry (place ++ [name]) = none := (h.holds.content name).trans habsent
    exact slot_of_spot hp hfits ((hadds.extends hnone).spot hspot)
  holds := by
    refine ⟨?_, fun other => ?_, fun other rest hrest => ?_⟩
    · rw [hadds.2, Function.update_of_ne (by simp), h.holds.directory]
    · by_cases hother : other = name
      · subst hother
        rw [hadds.2, Function.update_self, Function.update_self]
      · rw [hadds.2, Function.update_of_ne (by simpa using hother), Function.update_of_ne hother,
          h.holds.content]
    · rw [hadds.2, Function.update_of_ne, h.holds.deep other rest hrest]
      simpa using fun _ => hrest

/-- **Nothing is left of a staging directory that is discarded.** -/
theorem discard (h : Staged v p place content v₁) {reply : Unit}
    (hanswers : v₁.Answers (.discard p.text) reply v₂) : v₂ = v := by
  obtain ⟨hworkDir, hentry⟩ := hanswers.1 place true h.slot h.holds.directory
  refine Volume.ext (funext fun other => ?_) (hworkDir.trans h.workDir)
  rw [hentry, removed]
  split
  · next hle => exact (entry_eq_none h.absent hle).symm
  · next hle => exact h.elsewhere other hle

end Staged

/-- A staging directory comes to be empty. -/
theorem staged_of_answers (hp : p.Proper) {label : Text} {reply : Except Refusal Text}
    (h : v.Answers (.makeStaging p.text label) reply v') :
    v' = v ∧ Refused (p.text ++ label) reply ∨
      ∃ text dir name, reply = .ok text ∧ v.find p = some dir ∧ '\x00' ∉ label ∧
        Staged v (Path.ofText text) (dir ++ [name]) (fun _ => none) v' := by
  refine h.imp_right ?_
  rintro ⟨dir, name, text, hreach, hnul, -, habsent, rfl, hadds, hslot⟩
  have hfind : v.find p = some dir := by
    rw [reach_text hp] at hreach
    split at hreach
    · exact hreach
    · simp at hreach
  have hbelow : ∀ rest, rest ≠ [] → v'.entry (dir ++ [name] ++ rest) = none := fun rest hrest => by
    rw [hadds.2, Function.update_of_ne (by simpa using hrest)]
    exact entry_eq_none habsent (List.prefix_append _ _)
  refine ⟨text, dir, name, rfl, hfind, hnul, hadds.1, fun other hother => ?_, habsent, hslot, ?_⟩
  · rw [hadds.2, Function.update_of_ne]
    rintro rfl
    exact hother (List.prefix_refl _)
  · exact ⟨by rw [hadds.2, Function.update_self], fun other => hbelow [other] (by simp),
      fun other rest _ => hbelow (other :: rest) (by simp)⟩

/-! ### The rename -/

/-- A new cache stands in its place, which was free; nothing else has changed. -/
structure Published (v : Volume) (root : Path) (top : Place) (v' : Volume) : Prop where
  workDir : v'.workDir = v.workDir
  vacant : v.Vacant top
  slot : v.slot root.text = some top
  elsewhere : ∀ other, ¬ top <+: other → v'.entry other = v.entry other
  holds : v'.HoldsNewCache top

/-- Neither of two names in one directory lies below the other. -/
theorem not_prefix_of_ne {dir : Place} {other : Text} (hne : dir ++ [name] ≠ dir ++ [other])
    (rest : Place) : ¬ dir ++ [name] <+: dir ++ [other] ++ rest := by
  intro h
  rw [List.append_assoc, List.prefix_append_right_inj] at h
  obtain ⟨rfl, -⟩ := List.cons_prefix_cons.1 h
  exact hne rfl

/-- **The rename of a staging directory that is filled.** -/
theorem Staged.published {dir : Place} {readable searchable : Bool} (hroot : root.Proper)
    (h : Staged v p (dir ++ [name]) (newContent readable searchable) v₁)
    (hdir : v.find root.parent = some dir) (hslot : v₁.slot root.text = some top)
    (hvacant : v₁.Vacant top) (hsrc : ¬ dir ++ [name] <+: top) (hworkDir : v₂.workDir = v₁.workDir)
    (hentry : v₂.entry = v₁.moved (dir ++ [name]) top) : Published v root top v₂ := by
  obtain ⟨hfits, hspot⟩ := slot_text hroot hslot
  obtain ⟨parent, last, rfl, hlast⟩ := exists_of_spot hroot hspot
  obtain ⟨found, hfound, hdirectory, hlength, rfl⟩ := (spot_below parent hlast.2).1 hspot
  rw [Path.parent_below] at hdir
  obtain rfl : dir = found := Option.some.inj ((h.extends.find hdir).symm.trans hfound)
  have hne : dir ++ [name] ≠ dir ++ [last] := fun heq => hsrc (heq ▸ List.prefix_refl _)
  have hsame : ∀ rest, v₁.entry (dir ++ [last] ++ rest) = v.entry (dir ++ [last] ++ rest) :=
    fun rest => h.elsewhere _ (not_prefix_of_ne hne rest)
  have hmoved : ∀ rest, v₂.entry (dir ++ [last] ++ rest) = v₁.entry (dir ++ [name] ++ rest) :=
    fun rest => by rw [hentry, moved, if_pos (List.prefix_append _ _), List.drop_left]
  refine ⟨hworkDir.trans h.workDir, ?_, ?_, fun other hother => ?_, readable, searchable, ?_⟩
  · have htop := hsame []
    rw [List.append_nil] at htop
    rw [Vacant, ← htop]
    exact hvacant.imp_right fun ⟨hthere, hempty⟩ =>
      ⟨hthere, fun other => (hsame [other]).symm.trans (hempty other)⟩
  · have hparent : v.entry dir = some (.directory true) := by
      rw [← h.elsewhere dir fun hle => ?_, hdirectory]
      have hlength := hle.length_le
      rw [List.length_append, List.length_singleton] at hlength
      omega
    exact slot_of_spot hroot hfits
      ((spot_below parent hlast.2).2 ⟨dir, hdir, hparent, hlength, rfl⟩)
  · rw [hentry, moved, if_neg hother]
    split
    · next hle => exact (entry_eq_none h.absent hle).symm
    · next hle => exact h.elsewhere other hle
  · have htop := hmoved []
    rw [List.append_nil, List.append_nil] at htop
    refine ⟨htop.trans h.holds.directory, fun other => ?_, fun other rest hrest => ?_⟩
    · exact (hmoved [other]).trans (h.holds.content other)
    · exact (hmoved (other :: rest)).trans (h.holds.deep other rest hrest)

theorem Published.extends (h : Published v root top v') : v.Extends v' where
  workDir := h.workDir
  entry place item hitem := by
    by_cases hle : top <+: place
    · obtain ⟨_, _, hholds⟩ := h.holds
      rcases h.vacant with habsent | ⟨⟨searchable, hdirectory⟩, hempty⟩
      · simp [entry_eq_none habsent hle] at hitem
      · obtain ⟨rest, rfl⟩ := hle
        rcases rest with _ | ⟨name, rest⟩
        · rw [List.append_nil] at hitem ⊢
          obtain rfl := Option.some.inj (hdirectory.symm.trans hitem)
          rw [hholds.directory]
          cases searchable <;> simp
        · have hnone : v.entry (top ++ name :: rest) = none :=
            entry_eq_none (hempty name) ⟨rest, by simp⟩
          simp [hnone] at hitem
    · exact .inl ((h.elsewhere place hle).trans hitem)

namespace Published

theorem find (hroot : root.Proper) (h : Published v root top v') : v'.find root = some top := by
  obtain ⟨_, _, hholds⟩ := h.holds
  exact find_of_spot hroot (h.extends.spot (slot_text hroot h.slot).2) (by simp [hholds.directory])
    (by simp [linkAt, hholds.directory])

theorem isDirectory (hroot : root.Proper) (h : Published v root top v') : v'.IsDirectory root := by
  obtain ⟨_, _, hholds⟩ := h.holds
  exact ⟨(slot_text hroot h.slot).1, top, true, h.find hroot, hholds.directory⟩

end Published

/-! ### The actions -/

/-- What is reported if a part of a cache cannot be made. -/
theorem afterAction_makePart {Q : Except Refusal Unit → Volume → Prop}
    {E : Failure → Volume → Prop} (h : After Q (Files.makeDirs p) v)
    (hfails : ∀ refusal v', Q (.error refusal) v' → ∀ failure,
      (∀ e, refusal = .os e → failure = .reported (.cacheNotCreated p e)) → E failure v') :
    AfterAction (fun _ v' => Q (.ok ()) v') E (Cache.makePart p) v := by
  refine afterAction_bind (afterAction_lift h) fun x v' hx => ?_
  refine afterAction_reporting ?_ ?_ ?_
  · rintro _ rfl
    exact hx
  · rintro e rfl
    exact hfails _ v' hx _ fun e' he' => by rw [Refusal.os.inj he']
  · rintro refusal e rfl hos
    exact hfails _ v' hx _ fun e' he' => absurd he' (hos e')

/-- How filling a staging directory and renaming it ends. -/
def PublishedFrom (v : Volume) (p root : Path) (place : Place) (reply : Except Refusal Unit)
    (v' : Volume) : Prop :=
  (reply = .ok () ∧ ∃ top, Published v root top v') ∨
    (∃ e, reply = .error (.os e)) ∧ ∃ content, Staged v p place content v'

/-- How it fails: with a report, and the staging directory still there. -/
def StillStaged (v : Volume) (p : Path) (place : Place) (failure : Failure) (v' : Volume) : Prop :=
  (∃ e, failure = .reported e) ∧ ∃ content, Staged v p place content v'

/-- The prelude of a new cache is written, or less of it, and the writing fails. -/
theorem Staged.create {dir : Place} (hp : p.Proper)
    (h : Staged v p (dir ++ [name]) (fun _ => none) v₁) {reply : Except Refusal Unit}
    (hanswers : v₁.Answers (.create (p.below "prelude").text (Utf8.encode Program.defaultPrelude))
      reply v₂) :
    (∃ e, reply = .error (.os e)) ∧ (∃ content, Staged v p (dir ++ [name]) content v₂) ∨
      reply = .ok () ∧ ∃ readable, Staged v p (dir ++ [name])
        (Function.update (fun _ => none) "prelude".toList
          (some (.file (Utf8.encode Program.defaultPrelude) readable))) v₂ := by
  have hnul : '\x00' ∉ (p.below "prelude").text :=
    Path.nul_not_mem_text_below (h.nul_not_mem hp) (by decide)
  obtain ⟨rfl, hrefused⟩ | ⟨found, written, readable, hslot, -, hadds, hreply⟩ := hanswers
  · exact .inl ⟨hrefused.os hnul, _, h⟩
  obtain rfl := h.eq_of_slot (hp.below Path.isName_prelude) (by decide) hslot
  have hstaged := h.add hp rfl hadds
  rcases hreply with ⟨rfl, rfl⟩ | hreply
  · exact .inr ⟨rfl, readable, hstaged⟩
  · exact .inl ⟨hreply, _, hstaged⟩

/-- The directory for the libraries of a new cache. -/
theorem afterAction_makeArtifacts {dir : Place} (hp : p.Proper)
    (h : Staged v p (dir ++ [name]) content v₁) (habsent : content "dy-cache".toList = none) :
    AfterAction (fun _ v' => ∃ searchable, Staged v p (dir ++ [name])
        (Function.update content "dy-cache".toList (some (.directory searchable))) v')
      (StillStaged v p (dir ++ [name])) (Cache.makePart (p.below "dy-cache")) v₁ := by
  have hartifacts := hp.below Path.isName_artifacts
  have hnul : '\x00' ∉ (p.below "dy-cache").text :=
    Path.nul_not_mem_text_below (h.nul_not_mem hp) (by decide)
  refine (afterAction_makePart (after_makeDirs_of_parent hartifacts (h.isDirectory hp))
    (E := StillStaged v p (dir ++ [name])) ?_).imp ?_ fun _ _ h => h
  · intro refusal v₂ hmade failure hreported
    cases hmade with
    | refused _ hos =>
      obtain ⟨e, rfl⟩ := hos hnul
      exact ⟨⟨_, hreported e rfl⟩, _, h⟩
  · intro _ v₂ hmade
    cases hmade with
    | there hthere =>
      -- nothing of that name is there yet
      obtain ⟨-, found, searchable, hfind, -⟩ := hthere
      obtain ⟨parent, next, hparent, henter, -⟩ := exists_of_find_below hfind
      obtain rfl := Option.some.inj ((h.find hp).symm.trans hparent)
      have hentry := ((enter_eq_some_iff ⟨by decide, by decide⟩).1 henter).2.2.1
      exact absurd ((h.holds.content _).trans habsent) hentry
    | added _ hslot _ hadds =>
      obtain rfl := h.eq_of_slot hartifacts (by decide) hslot
      exact ⟨_, h.add hp habsent hadds⟩

/-- **Filling a staging directory and renaming it.** -/
theorem afterAction_publishFrom {dir : Place} (hp : p.Proper) (hroot : root.Proper)
    (hnul : '\x00' ∉ root.text) (hdir : v.find root.parent = some dir)
    (h : Staged v p (dir ++ [name]) (fun _ => none) v₁) :
    AfterAction (PublishedFrom v p root (dir ++ [name])) (StillStaged v p (dir ++ [name]))
      (Cache.publishFrom p root) v₁ := by
  unfold Cache.publishFrom
  rw [Path.child_eq_below p Path.isName_prelude, Path.child_eq_below p Path.isName_artifacts]
  refine afterAction_ask_bind fun reply v₂ hanswers => ?_
  refine afterAction_bind (Q := fun _ v' => ∃ readable, Staged v p (dir ++ [name])
    (Function.update (fun _ => none) "prelude".toList
      (some (.file (Utf8.encode Program.defaultPrelude) readable))) v') ?_ ?_
  · obtain ⟨⟨e, rfl⟩, hstill⟩ | ⟨rfl, hwritten⟩ := h.create hp hanswers
    · exact afterAction_fail ⟨⟨_, rfl⟩, hstill⟩
    · exact afterAction_pure hwritten
  rintro _ v₂ ⟨readable, hwritten⟩
  refine afterAction_bind (afterAction_makeArtifacts hp hwritten rfl) ?_
  rintro _ v₃ ⟨searchable, hfilled⟩
  refine afterAction_ask fun reply v₄ hanswers => ?_
  rcases hanswers with ⟨rfl, hrefused⟩ |
    ⟨src, top, _, hsrc, htop, -, hvacant, hnot, rfl, hworkDir, hentry⟩
  · refine .inr ⟨hrefused.os ?_, _, hfilled⟩
    rw [List.mem_append, not_or]
    exact ⟨h.nul_not_mem hp, hnul⟩
  · obtain rfl : src = dir ++ [name] := Option.some.inj (hsrc.symm.trans hfilled.slot)
    exact .inl ⟨rfl, top, hfilled.published hroot hdir htop hvacant hnot hworkDir hentry⟩

/-- How publishing a cache ends: the directories above it are made, and then it is published, or
there already. -/
def PublishedAt (v : Volume) (root : Path) (v' : Volume) : Prop :=
  ∃ v₁, Made v root.parent (.ok ()) v₁ ∧
    (v' = v₁ ∧ v₁.IsDirectory root ∨ ∃ top, Published v₁ root top v')

/-- **Publishing a cache.** Where it fails, directories above the cache may have been made. -/
theorem afterAction_publish (hroot : root.Proper) :
    AfterAction (fun _ v' => PublishedAt v root v') (fun _ v' => MakesWay root.parent v v')
      (Cache.publish root) v := by
  have hparent := hroot.parent
  refine afterAction_bind (afterAction_makePart (after_makeDirs hparent)
    fun refusal v' hmade failure _ => hmade.way) ?_
  intro _ v₁ hmade
  refine afterAction_ask_bind fun reply v₂ hanswers => ?_
  refine afterAction_bind (Q := fun text v₂ => ∃ dir name, v₁.find root.parent = some dir ∧
    '\x00' ∉ root.text ∧ Staged v₁ (Path.ofText text) (dir ++ [name]) (fun _ => none) v₂) ?_ ?_
  · obtain ⟨rfl, hrefused⟩ | ⟨text, dir, name, rfl, hdir, hlabel, hstaged⟩ :=
      staged_of_answers hparent hanswers
    · refine afterAction_reporting ?_ (fun _ _ => hmade.way) fun _ _ _ _ => hmade.way
      rintro text rfl
      exact absurd hrefused not_refused_ok
    · refine afterAction_pure ⟨dir, name, hdir, fun hnul => ?_, hstaged⟩
      rcases Path.nul_mem_of_nul_mem_text hnul with hnul | hnul
      · exact (hmade.directory rfl).1.2 hnul
      · exact hlabel (by simp [hnul])
  rintro text v₂ ⟨dir, name, hdir, hnul, hstaged⟩
  have hp := Path.proper_ofText text
  refine afterAction_bind (Q := PublishedFrom v₁ (Path.ofText text) root (dir ++ [name])) ?_ ?_
  · refine afterAction_tryCatch (afterAction_publishFrom hp hroot hnul hdir hstaged) ?_
    rintro _ v₃ ⟨⟨e, rfl⟩, content, hstill⟩
    refine afterAction_ask_bind fun _ v₄ hanswers => ?_
    obtain rfl := hstill.discard hanswers
    exact afterAction_throw hmade.way
  rintro reply v₃ (⟨rfl, top, hpublished⟩ | ⟨⟨e, rfl⟩, content, hstill⟩)
  · exact afterAction_pure ⟨v₁, hmade, .inr ⟨top, hpublished⟩⟩
  refine afterAction_ask_bind fun _ v₄ hanswers => ?_
  obtain rfl := hstill.discard hanswers
  refine afterAction_bind ((afterAction_isDir hroot).imp (fun _ _ h => h) ?_) ?_
  · rintro _ v' ⟨rfl, -⟩
    exact hmade.way
  rintro found v' ⟨rfl, hfound⟩
  cases found with
  | false => exact afterAction_fail hmade.way
  | true => exact afterAction_pure ⟨v', hmade, .inl ⟨rfl, hfound.1 rfl⟩⟩

end Volume

end Oneshot
