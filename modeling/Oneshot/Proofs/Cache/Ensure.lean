import Oneshot.Proofs.Cache.Turns

/-!
# Building a Cache with Care

Each function on the way to a cache is careful. Directories above the cache are made where they are
missing, and one that has come to be there in the meantime is as good. A staging directory belongs
to one run, so that what the run has put into it is still there when it is renamed; and the rename
is refused exactly if a cache has come to be there in the meantime, which then stays.

* `Site.careful_makeDirsWithin_above`: the directories above the cache.
* `Site.carefulAction_publishFrom`: filling a staging directory and renaming it.
* `Site.carefulAction_ensure`: the whole function, which ends with the cache that is there.
-/

namespace Oneshot

open Virtual (Place)

namespace Site

variable {s : Site} {v v' : Volume} {own own' : Option Place} {p q : Path} {place other : Place}
  {name : Text} {item : Item}

/-! ### Directories -/

/-- A change that leaves the cache alone and makes missing directories above it at most. -/
theorem Shared.of_entry_eq (h : s.Shared v) (hworkDir : v'.workDir = v.workDir)
    (hway : ∀ place, s.ready.entry place ≠ none → v'.entry place = v.entry place ∨
      v.entry place = none ∧ v'.entry place = s.ready.entry place)
    (htop : ∀ place, s.top <+: place → v'.entry place = v.entry place) : s.Shared v' := by
  have hle : ∀ v₁ : Volume, v₁ ≤ s.ready → v₁ ≤ v → v₁ ≤ v' := fun v₁ hready hle =>
    ⟨hworkDir.trans hle.1, fun place item hitem => by
      have hthere := hle.2 place item hitem
      rcases hway place (by simp [hready.2 place item hitem]) with hsame | ⟨habsent, -⟩
      · rw [hsame, hthere]
      · simp [habsent] at hthere⟩
  refine ⟨hle _ s.before_le_ready h.kept, ⟨h.lags.workDir.trans hworkDir.symm, ?_⟩, ?_⟩
  · intro place item hitem
    rcases hway place (by simp [hitem]) with hsame | ⟨-, hready⟩
    · rw [hsame]
      exact h.lags.entry place item hitem
    · exact .inl (hready.trans hitem)
  · intro hthere
    rw [htop _ (List.prefix_refl _)] at hthere
    obtain ⟨hready, content, hallowed, hcache⟩ := h.complete hthere
    exact ⟨hle _ le_rfl hready, content, hallowed, hcache.of_entry_eq htop⟩

/-- A run that has no staging directory may make a directory above the cache. -/
theorem Guarantees.made_above (h : s.Shared v) (habsent : v.entry place = none)
    (hready : s.ready.entry place = some (.directory true))
    (hadds : v.Adds place (.directory true) v') : s.Guarantees none v none v' := by
  have hsame : ∀ other, other ≠ place → v'.entry other = v.entry other := fun other hne => by
    rw [hadds.2, Function.update_of_ne hne]
  have htop : ∀ other, s.top <+: other → v'.entry other = v.entry other := fun other hle => by
    refine hsame other fun heq => ?_
    have hnone := Volume.entry_eq_none s.absent hle
    simp [heq, hready] at hnone
  have hway : ∀ other, s.ready.entry other ≠ none → v'.entry other = v.entry other ∨
      v.entry other = none ∧ v'.entry other = s.ready.entry other := fun other _ => by
    by_cases heq : other = place
    · subst heq
      exact .inr ⟨habsent, by rw [hadds.2, Function.update_self, hready]⟩
    · exact .inl (hsame other heq)
  exact {
    shared := h.of_entry_eq hadds.1 hway htop
    lasting := fun other item _ hitem => (Volume.Adds.le hadds habsent).2 other item hitem
    top := fun _ => htop
    elsewhere := fun other _ hnone _ => hsame other fun heq => by simp [heq, hready] at hnone
    given_up := by simp
    taken := by simp }

/-- A directory above the cache: it is there afterwards, unless its own parent is missing. -/
theorem careful_makeDirHere_above (hshared : s.Shared v) (hq : q ≤ s.parent) :
    s.Careful (fun x own' v' => own' = none ∧ s.Keeps v v' ∧
      (x = .ok () ∧ v'.IsDirectory q ∨ ∃ e, x = .error (.os e) ∧
        e.cause = .noEntry ∧ q.parts ≠ [] ∧ ¬ v.IsDirectory q.parent))
      (Files.makeDirHere q) none v := by
  have hproper := s.proper_above hq
  refine careful_makeDirHere hproper (s.fits_above hq) (fun q hq => by simp at hq) ?_
  intro v₁ hv₁
  obtain hdirectory | ⟨place, hnot, hslot, habsent, hready⟩ | ⟨hparts, hlacks⟩ :=
    hv₁.shared.makeDir_cases hq
  · refine .inl ⟨.of_isDirectory hproper hdirectory, fun v₂ hv₂ => ?_⟩
    have hstays := hv₂.isDirectory hv₁.shared hq hdirectory
    exact ⟨hstays, rfl, hv₁.toKeeps.trans hv₂.toKeeps, .inl ⟨rfl, hstays⟩⟩
  · refine .inr (.inl ⟨hnot, place, hslot, fun v₂ hadds => ?_⟩)
    have hguarantees := Guarantees.made_above hv₁.shared habsent hready hadds
    exact ⟨hguarantees, rfl, hv₁.toKeeps.trans hguarantees.toKeeps,
      .inl ⟨rfl, (Volume.find_of_made hproper hslot habsent hadds).2⟩⟩
  · refine .inr (.inr ⟨hlacks, fun e hcause =>
      ⟨rfl, hv₁.toKeeps, .inr ⟨e, rfl, hcause, hparts, ?_⟩⟩⟩)
    intro hdirectory
    have hstays := hv₁.isDirectory hshared (q.parent_le.trans hq) hdirectory
    exact find_ne_none_of_isDirectory hstays hlacks.find_eq_none

/-- **The directories above the cache** are all there afterwards. -/
theorem careful_makeDirsWithin_above {fuel : Nat} (hshared : s.Shared v) (hq : q ≤ s.parent)
    (hfuel : q.parts.length ≤ fuel) :
    s.Careful (fun x own' v' => x = .ok () ∧ own' = none ∧ s.Keeps v v' ∧ v'.IsDirectory q)
      (Files.makeDirsWithin fuel q) none v := by
  induction fuel generalizing q v with
  | zero =>
    refine (careful_makeDirHere_above hshared hq).imp ?_
    rintro x own' v₁ ⟨rfl, hv₁, ⟨rfl, hdirectory⟩ | ⟨e, rfl, -, hparts, -⟩⟩
    · exact ⟨rfl, rfl, hv₁, hdirectory⟩
    · exact absurd (List.length_eq_zero_iff.1 (Nat.le_zero.1 hfuel)) hparts
  | succ fuel ih =>
    refine careful_bind (careful_makeDirHere_above hshared hq) ?_
    rintro x own' v₁ ⟨rfl, hv₁, ⟨rfl, hdirectory⟩ | ⟨e, rfl, hcause, hparts, -⟩⟩
    · exact ⟨rfl, rfl, hv₁, hdirectory⟩
    · simp only [hcause, hparts, ne_eq, not_false_eq_true, and_self, if_true]
      refine careful_bind (ih hv₁.shared (q.parent_le.trans hq) ?_) ?_
      · simp only [Path.parent, List.length_dropLast]
        omega
      · rintro x own' v₂ ⟨rfl, rfl, hv₂, hmade⟩
        -- the parent stays, so that the second try cannot miss it
        refine (careful_makeDirHere_above hv₂.shared hq).imp ?_
        rintro x own' v₃ ⟨rfl, hv₃, ⟨rfl, hdirectory⟩ | ⟨e, rfl, -, -, hmissing⟩⟩
        · exact ⟨rfl, rfl, hv₁.trans (hv₂.trans hv₃), hdirectory⟩
        · exact absurd hmade hmissing

/-- A directory that can be made at the first try. -/
theorem careful_makeDirs_of_here {Q : Option Place → Volume → Prop}
    (h : s.Careful (fun x own' v' => x = .ok () ∧ Q own' v') (Files.makeDirHere p) own v) :
    s.Careful (fun x own' v' => x = .ok () ∧ Q own' v') (Files.makeDirs p) own v := by
  unfold Files.makeDirs
  cases p.parts.length with
  | zero => exact h
  | succ fuel =>
    refine careful_bind h ?_
    rintro x own' v' ⟨rfl, hQ⟩
    exact ⟨rfl, hQ⟩

theorem carefulAction_makePart {Q : Option Place → Volume → Prop}
    (h : s.Careful (fun x own' v' => x = .ok () ∧ Q own' v') (Files.makeDirs p) own v) :
    s.CarefulAction (fun _ own' v' => Q own' v') (Cache.makePart p) own v := by
  refine carefulAction_bind (carefulAction_lift h) ?_
  rintro x own' v' ⟨rfl, hQ⟩
  exact carefulAction_pure hQ

/-! ### The parts of a cache -/

/-- A short name that something in a directory can have. -/
structure IsPart (name : Text) : Prop where
  isName : Path.IsName name
  isStep : Volume.IsStep name
  nul : '\x00' ∉ name
  length : (Utf8.encode name).length ≤ Volume.shortName

theorem isPart_prelude : IsPart "prelude".toList :=
  ⟨Path.isName_prelude, by unfold Volume.IsStep; decide, by decide, by decide⟩

theorem isPart_artifacts : IsPart "dy-cache".toList :=
  ⟨Path.isName_artifacts, by unfold Volume.IsStep; decide, by decide, by decide⟩

theorem prelude_ne_artifacts (place : Place) :
    place ++ ["prelude".toList] ≠ place ++ ["dy-cache".toList] := by
  simp only [ne_eq, List.append_cancel_left_eq]
  decide

namespace IsPart

variable (h : IsPart name)

include h

theorem fits (hp : Volume.Roomy p) : Volume.Fits (p.below name).text :=
  hp.fits_below h.length h.nul

theorem length_le : (Utf8.encode name).length ≤ Virtual.Tree.nameLimit :=
  h.length.trans (by decide)

theorem slot (hp : p.Proper) (hroomy : Volume.Roomy p) (hfind : v.find p = some place)
    (hdirectory : v.entry place = some (.directory true)) :
    v.slot (p.below name).text = some (place ++ [name]) :=
  Volume.slot_of_spot (hp.below h.isName) (h.fits hroomy)
    ((Volume.spot_below p h.isStep.2).2 ⟨place, hfind, hdirectory, h.length_le, rfl⟩)

theorem find (hfind : v.find p = some place) (hdirectory : v.entry place = some (.directory true))
    (hentry : v.entry (place ++ [name]) = some item) (hlink : ∀ target, item ≠ .link target) :
    v.find (p.below name) = some (place ++ [name]) := by
  refine Volume.find_below hfind ((Volume.enter_eq_some_iff h.isStep).2
    ⟨hdirectory, h.length_le, by simp [hentry], rfl⟩) ?_
  rw [Volume.linkAt, hentry]
  cases item with
  | link target => exact absurd rfl (hlink target)
  | _ => rfl

end IsPart

/-! ### The staging directory -/

/-- Nothing changes but within the staging directory that the run has before or after. -/
theorem Guarantees.of_staging (hplace : s.IsStaging place) (hv : s.Shared v)
    (hworkDir : v'.workDir = v.workDir)
    (hsame : ∀ other, ¬ place <+: other → v'.entry other = v.entry other)
    (hown : own = some place ∨ own' = some place)
    (hgiven_up : ∀ p, own = some p → own' ≠ some p →
      own' = none ∧ ∀ other, p <+: other → v'.entry other = none)
    (htaken : ∀ p, own' = some p → v'.entry p = some (.directory true) ∧
      (own = some p ∨ own = none ∧ s.IsStaging p ∧ v.entry p = none)) :
    s.Guarantees own v own' v' := by
  have hready : ∀ other, s.ready.entry other ≠ none → v'.entry other = v.entry other :=
    fun other hthere => hsame other fun hle => hthere (hplace.ready_eq_none hle)
  have htop : ∀ other, s.top <+: other → v'.entry other = v.entry other :=
    fun other htop => hsame other fun hle => hplace.not_below_top hle htop
  exact {
    shared := hv.of_entry_eq hworkDir (fun other hthere => .inl (hready other hthere)) htop
    lasting := fun other item hlasting hitem => by
      rwa [hsame other fun hle => hplace.not_lasting hle hlasting]
    top := fun _ => htop
    elsewhere := fun other _ _ hnone => hsame other (hnone place hown)
    given_up := hgiven_up
    taken := htaken }

/-- Something new in the staging directory of the run keeps the guarantee. -/
theorem Guarantees.inside (hplace : s.IsStaging place) (hv : s.Shared v)
    (hdirectory : v.entry place = some (.directory true))
    (hadds : v.Adds (place ++ [name]) item v') :
    s.Guarantees (some place) v (some place) v' ∧ v'.entry place = some (.directory true) := by
  have hsame : ∀ other, other ≠ place ++ [name] → v'.entry other = v.entry other :=
    fun other hne => by rw [hadds.2, Function.update_of_ne hne]
  have hdirectory' : v'.entry place = some (.directory true) := by
    rw [hsame place (by simp), hdirectory]
  refine ⟨.of_staging hplace hv hadds.1 (fun other hle => hsame other ?_) (.inl rfl)
    (fun p hp hne => absurd hp hne) fun p hp => ?_, hdirectory'⟩
  · rintro rfl
    exact hle (List.prefix_append _ _)
  · obtain rfl := Option.some.inj hp
    exact ⟨hdirectory', .inl rfl⟩

/-- A run has a staging directory, and a path that leads to it whatever other runs do. -/
structure Claims (s : Site) (p : Path) (place : Place) (own : Option Place) (v : Volume) :
    Prop where
  own : own = some place
  staging : s.IsStaging place
  proper : p.Proper
  roomy : Volume.Roomy p
  ready : s.ready ≤ v
  directory : v.entry place = some (.directory true)
  spot : ∀ v', s.Keeps v v' → v'.spot p = some place

namespace Claims

theorem of_keeps (h : s.Claims p place own v) (hv : s.Keeps v v')
    (hdirectory : v'.entry place = some (.directory true)) : s.Claims p place own v' where
  own := h.own
  staging := h.staging
  proper := h.proper
  roomy := h.roomy
  ready := hv.le le_rfl h.ready
  directory := hdirectory
  spot v'' hv'' := h.spot v'' (hv.trans hv'')

theorem of_interferes (h : s.Claims p place own v) (hv : s.Interferes own v v') :
    s.Claims p place own v' :=
  h.of_keeps hv.toKeeps (by rw [hv.own place h.own place (List.prefix_refl _), h.directory])

theorem slot (h : s.Claims p place own v) (hv : s.Shared v) : v.slot p.text = some place :=
  Volume.slot_of_spot h.proper h.roomy.fits (h.spot v (.refl hv))

theorem find (h : s.Claims p place own v) (hv : s.Shared v) : v.find p = some place :=
  Volume.find_of_spot h.proper (h.spot v (.refl hv)) (by simp [h.directory])
    (by simp [Volume.linkAt, h.directory])

theorem slot_below (h : s.Claims p place own v) (hv : s.Shared v) (hname : IsPart name) :
    v.slot (p.below name).text = some (place ++ [name]) :=
  hname.slot h.proper h.roomy (h.find hv) h.directory

end Claims

/-- What a run has put into its staging directory. -/
structure Staged (s : Site) (p : Path) (place : Place) (prelude artifacts : Option Item)
    (own : Option Place) (v : Volume) : Prop extends s.Claims p place own v where
  prelude : v.entry (place ++ ["prelude".toList]) = prelude
  artifacts : v.entry (place ++ ["dy-cache".toList]) = artifacts

theorem Staged.of_interferes {prelude artifacts : Option Item}
    (h : s.Staged p place prelude artifacts own v) (hv : s.Interferes own v v') :
    s.Staged p place prelude artifacts own v' where
  toClaims := h.toClaims.of_interferes hv
  prelude := by rw [hv.own place h.own _ (List.prefix_append _ _), h.prelude]
  artifacts := by rw [hv.own place h.own _ (List.prefix_append _ _), h.artifacts]

/-- The prelude is written into the empty staging directory. -/
theorem carefulAction_create {content : Bytes} (h : s.Staged p place none none own v) :
    s.CarefulAction (fun reply own' v' => reply = .ok () ∧
        s.Staged p place (some (.file content true)) none own' v')
      (Action.ask (.create (p.below "prelude").text content)) own v := by
  refine carefulAction_ask fun v₁ hv₁ _ reply v₂ ⟨hanswers, hobliges⟩ => ?_
  have hv := hv₁.shared
  have h₁ := h.of_interferes hv₁
  have hslot := h₁.slot_below hv isPart_prelude
  obtain ⟨hreply, hfile⟩ := hobliges _ hslot h₁.prelude
  subst hreply
  obtain ⟨-, hrefused⟩ | ⟨place', written, readable, hslot', -, hadds, -⟩ := hanswers
  · exact absurd hrefused Volume.not_refused_ok
  obtain rfl := Option.some.inj (hslot.symm.trans hslot')
  obtain rfl : own = some place := h.own
  obtain ⟨hguarantees, hdirectory⟩ := Guarantees.inside h₁.staging hv h₁.directory hadds
  refine ⟨some place, hguarantees, rfl, h₁.toClaims.of_keeps hguarantees.toKeeps hdirectory,
    hfile, ?_⟩
  rw [hadds.2, Function.update_of_ne (prelude_ne_artifacts place).symm, h₁.artifacts]

/-- The directory of the libraries is made in the staging directory. -/
theorem carefulAction_makeArtifacts {prelude : Option Item}
    (h : s.Staged p place prelude none own v) :
    s.CarefulAction (fun _ own' v' =>
        s.Staged p place prelude (some (.directory true)) own' v')
      (Cache.makePart (p.below "dy-cache")) own v := by
  have hproper := h.proper.below Path.isName_artifacts
  refine carefulAction_makePart (careful_makeDirs_of_here (careful_makeDirHere hproper
    (isPart_artifacts.fits h.roomy) (fun q hq => ?_) fun v₁ hv₁ => .inr (.inl ?_)))
  · obtain rfl := Option.some.inj (h.own.symm.trans hq)
    exact h.directory
  have hv := hv₁.shared
  have h₁ := h.of_interferes hv₁
  have hslot := h₁.slot_below hv isPart_artifacts
  refine ⟨?_, _, hslot, fun v₂ hadds => ?_⟩
  · rintro (hreach | ⟨place', hslot', hthere⟩)
    · rw [Volume.reach_text hproper, if_pos (isPart_artifacts.fits h.roomy)] at hreach
      obtain ⟨found, hfound⟩ := Option.ne_none_iff_exists'.1 hreach
      obtain ⟨dir, next, hdir, henter, -⟩ := Volume.exists_of_find_below hfound
      obtain rfl := Option.some.inj ((h₁.find hv).symm.trans hdir)
      exact ((Volume.enter_eq_some_iff isPart_artifacts.isStep).1 henter).2.2.1 h₁.artifacts
    · obtain rfl := Option.some.inj (hslot.symm.trans hslot')
      exact hthere h₁.artifacts
  · obtain rfl : own = some place := h.own
    obtain ⟨hguarantees, hdirectory⟩ := Guarantees.inside h₁.staging hv h₁.directory hadds
    refine ⟨hguarantees, rfl, h₁.toClaims.of_keeps hguarantees.toKeeps hdirectory, ?_, ?_⟩
    · rw [hadds.2, Function.update_of_ne (prelude_ne_artifacts place), h₁.prelude]
    · rw [hadds.2, Function.update_self]

/-! ### The rename -/

/-- What a run has put into its staging directory when it is complete. -/
def Filled (s : Site) (p : Path) (place : Place) : Option Place → Volume → Prop :=
  s.Staged p place (some (.file (Utf8.encode Program.defaultPrelude) true)) (some (.directory true))

/-- The staging directory has become the cache: the guarantee of a rename that is not refused. -/
theorem Guarantees.published (h : s.Filled p place own v) (hv : s.Shared v)
    (habsent : v.entry s.top = none) (hworkDir : v'.workDir = v.workDir)
    (hentry : v'.entry = v.moved place s.top) :
    s.Guarantees own v none v' ∧ v'.entry s.top ≠ none := by
  have hsame : ∀ other, ¬ s.top <+: other → ¬ place <+: other →
      v'.entry other = v.entry other := fun other htop hown => by
    rw [hentry, Volume.moved, if_neg htop, if_neg hown]
  have hready : ∀ other, s.ready.entry other ≠ none → v'.entry other = v.entry other :=
    fun other hthere => hsame other (fun hle => hthere (Volume.entry_eq_none s.absent hle))
      fun hle => hthere (h.staging.ready_eq_none hle)
  have hinside : ∀ rest, v'.entry (s.top ++ rest) = v.entry (place ++ rest) := fun rest => by
    rw [hentry, Volume.moved, if_pos (List.prefix_append _ _), List.drop_left]
  have hcache : v'.HoldsCache s.top (Utf8.encode Program.defaultPrelude) := by
    refine ⟨?_, ?_, ?_⟩
    · simpa using (hinside []).trans (by simpa using h.directory)
    · rw [hinside, h.prelude]
    · rw [hinside, h.artifacts]
  have hle : ∀ v₁ : Volume, v₁ ≤ s.ready → v₁ ≤ v → v₁ ≤ v' := fun v₁ hle₁ hle =>
    ⟨hworkDir.trans hle.1, fun other item hitem => by
      rw [hready other (by simp [hle₁.2 other item hitem]), hle.2 other item hitem]⟩
  refine ⟨?_, by simp [hcache.directory]⟩
  exact {
    shared := {
      kept := hle _ s.before_le_ready hv.kept
      lags := ⟨hv.lags.workDir.trans hworkDir.symm, fun other item hitem => by
        rw [hready other (by simp [hitem])]
        exact hv.lags.entry other item hitem⟩
      complete := fun _ => ⟨hle _ le_rfl h.ready, _, s.default_allowed, hcache⟩ }
    lasting := fun other item hlasting hitem => by
      rw [hsame other (fun htop => ?_) fun hown => h.staging.not_lasting hown hlasting, hitem]
      rw [Volume.entry_eq_none habsent htop] at hitem
      simp at hitem
    top := fun hthere => absurd habsent hthere
    elsewhere := fun other htop _ hnone => hsame other htop (hnone place (.inl h.own))
    given_up := fun p hp _ => by
      obtain rfl := Option.some.inj (h.own.symm.trans hp)
      refine ⟨rfl, fun other hle => ?_⟩
      rw [hentry, Volume.moved, if_neg (h.staging.not_below_top hle), if_pos hle]
    taken := by simp }

/-- **The rename**: either the staging directory becomes the cache, or a cache is there already, and
the run still has its staging directory. -/
theorem carefulAction_rename (h : s.Filled p place own v) :
    s.CarefulAction (fun reply own' v' => v'.entry s.top ≠ none ∧
        (reply = .ok () ∧ own' = none ∨
          (∃ e, reply = .error (.os e)) ∧ s.Claims p place own' v'))
      (Action.ask (.rename p.text s.root.text)) own v := by
  refine carefulAction_ask fun v₁ hv₁ _ reply v₂ ⟨hanswers, hobliges⟩ => ?_
  have hv := hv₁.shared
  have h₁ : s.Filled p place own v₁ := h.of_interferes hv₁
  have hsrc := h₁.slot hv
  have hdst := s.slot_root h₁.ready
  have hnot := h₁.staging.not_prefix_top
  have hnul : '\x00' ∉ p.text ++ s.root.text := fun hnul =>
    (List.mem_append.1 hnul).elim h₁.roomy.2 s.roomy_root.2
  by_cases habsent : v₁.entry s.top = none
  · have hreply := hobliges _ _ _ hsrc hdst h₁.directory (.inl habsent) hnot
    subst hreply
    obtain ⟨-, hrefused⟩ | ⟨src, dst, -, hsrc', hdst', -, -, -, -, hworkDir, hentry⟩ := hanswers
    · exact absurd hrefused Volume.not_refused_ok
    obtain rfl := Option.some.inj (hsrc.symm.trans hsrc')
    obtain rfl := Option.some.inj (hdst.symm.trans hdst')
    obtain ⟨hguarantees, hthere⟩ := Guarantees.published h₁ hv habsent hworkDir hentry
    exact ⟨none, hguarantees, hthere, .inl ⟨rfl, rfl⟩⟩
  · obtain ⟨-, content, -, hcache⟩ := hv.complete habsent
    obtain ⟨rfl, hrefused⟩ | ⟨src, dst, -, -, hdst', -, hvacant, -⟩ := hanswers
    · refine ⟨own, hv₁.kept fun p hp => ?_, habsent, .inr ⟨hrefused.os hnul, h₁.toClaims⟩⟩
      obtain rfl := Option.some.inj (h.own.symm.trans hp)
      exact h.directory
    · obtain rfl := Option.some.inj (hdst.symm.trans hdst')
      rcases hvacant with hvacant | ⟨-, hempty⟩
      · exact absurd hvacant habsent
      · have hnone := hempty "prelude"
        rw [hcache.prelude] at hnone
        simp at hnone

/-- **Filling a staging directory and renaming it.** -/
theorem carefulAction_publishFrom (h : s.Staged p place none none own v) :
    s.CarefulAction (fun reply own' v' => v'.entry s.top ≠ none ∧
        (reply = .ok () ∧ own' = none ∨
          (∃ e, reply = .error (.os e)) ∧ s.Claims p place own' v'))
      (Cache.publishFrom p s.root) own v := by
  unfold Cache.publishFrom
  rw [Path.child_eq_below p Path.isName_prelude, Path.child_eq_below p Path.isName_artifacts]
  refine carefulAction_bind (carefulAction_create h) ?_
  rintro reply own₁ v₁ ⟨rfl, hwritten⟩
  refine carefulAction_bind (carefulAction_pure (Q := fun _ own' v' =>
    s.Staged p place _ none own' v') hwritten) ?_
  intro _ own₂ v₂ hwritten
  refine carefulAction_bind (carefulAction_makeArtifacts hwritten) ?_
  intro _ own₃ v₃ hfilled
  exact carefulAction_rename hfilled

/-! ### Publishing -/

/-- A fresh staging directory has become that of the run. -/
theorem Guarantees.claimed (hplace : s.IsStaging place) (hv : s.Shared v)
    (habsent : v.entry place = none) (hadds : v.Adds place (.directory true) v') :
    s.Guarantees none v (some place) v' := by
  refine .of_staging hplace hv hadds.1 (fun other hle => ?_) (.inr rfl)
    (fun p hp => by simp at hp) fun p hp => ?_
  · rw [hadds.2, Function.update_of_ne fun heq => hle (by rw [heq])]
  · obtain rfl := Option.some.inj hp
    exact ⟨by rw [hadds.2, Function.update_self], .inr ⟨rfl, hplace, habsent⟩⟩

/-- A run gets a staging directory of its own. -/
theorem carefulAction_makeStaging (hready : s.ready ≤ v) :
    s.CarefulAction (fun reply own' v' => ∃ text place, reply = .ok text ∧
        s.Staged (Path.ofText text) place none none own' v')
      (Action.ask (.makeStaging s.parent.text s.label)) none v := by
  refine carefulAction_ask fun v₁ hv₁ hspared reply v₂ ⟨_, hobliges⟩ => ?_
  have hready₁ : s.ready ≤ v₁ := hv₁.le le_rfl hready
  have hextends := Volume.extends_of_le hready₁
  have hreach : v₁.reach s.parent.text = some s.dir := by
    rw [Volume.reach_text s.proper_parent, if_pos (s.fits_above le_rfl)]
    exact hextends.find s.find_parent
  obtain ⟨name, text, q, rfl, hname, hadds, htext, hroomy, hsteady⟩ :=
    hobliges s.dir hreach (hextends.searchable s.directory)
      (by rw [s.proper_parent.ofText_text]; exact hspared rfl)
  have hstaging : s.IsStaging (s.dir ++ [name]) := by
    refine ⟨name, rfl, hname.label, ?_⟩
    by_contra hthere
    exact hextends.entry_ne_none hthere hname.absent
  have hguarantees := Guarantees.claimed hstaging hv₁.shared hname.absent hadds
  have hbelow : ∀ part : Text, v₂.entry (s.dir ++ [name] ++ [part]) = none := fun part => by
    rw [hadds.2, Function.update_of_ne (by simp)]
    exact Volume.entry_eq_none hname.absent (List.prefix_append _ _)
  refine ⟨some (s.dir ++ [name]), hguarantees, text, s.dir ++ [name], rfl, ⟨rfl, hstaging,
    Path.proper_ofText text, htext ▸ hroomy, hguarantees.le le_rfl hready₁,
    by rw [hadds.2, Function.update_self], fun v' hv' => ?_⟩, hbelow _, hbelow _⟩
  -- nothing that the path passes is a staging directory, so that all of it lasts
  have hready' := hv'.le le_rfl (hguarantees.le le_rfl hready₁)
  have hfind : v'.find q = some s.dir := by
    rcases hsteady with rfl | hsteady
    · rw [s.proper_parent.ofText_text]
      exact (Volume.extends_of_le hready').find s.find_parent
    · refine hsteady v' ?_ fun other item hother hitem => ?_
      · rw [← hv'.shared.lags.workDir, hv₁.shared.lags.workDir]
      · exact (hguarantees.toKeeps.trans hv').lasting other item (.inr hother) hitem
  rw [htext]
  exact (Volume.spot_below q hname.isStep.2).2 ⟨s.dir, hfind,
    (Volume.extends_of_le hready').searchable s.directory, hname.length, rfl⟩

/-- The run removes its staging directory. -/
theorem carefulAction_discard (h : s.Claims p place own v) :
    s.CarefulAction (fun _ own' v' => own' = none ∧ s.Keeps v v')
      (Action.ask (.discard p.text)) own v := by
  refine carefulAction_ask fun v₁ hv₁ _ reply v₂ ⟨⟨hgone, _⟩, _⟩ => ?_
  have h₁ := h.of_interferes hv₁
  obtain ⟨hworkDir, hentry⟩ := hgone place true (h₁.slot hv₁.shared) h₁.directory
  have hguarantees : s.Guarantees own v₁ none v₂ := by
    refine .of_staging h₁.staging hv₁.shared hworkDir (fun other hle => ?_) (.inl h.own)
      (fun p hp _ => ?_) (by simp)
    · rw [hentry, Volume.removed, if_neg hle]
    · obtain rfl := Option.some.inj (h.own.symm.trans hp)
      exact ⟨rfl, fun other hle => by rw [hentry, Volume.removed, if_pos hle]⟩
  exact ⟨none, hguarantees, rfl, hv₁.toKeeps.trans hguarantees.toKeeps⟩

/-- A test for the cache. -/
theorem carefulAction_isDir :
    s.CarefulAction (fun found own' v' => own' = none ∧ s.Keeps v v' ∧
        (found = true ↔ v'.entry s.top ≠ none))
      (Action.orEscape (Files.isDir s.root)) none v := by
  refine carefulAction_bind (carefulAction_lift (careful_isDir
    (Q := fun found own' v' => ∃ x, found = .ok x ∧ own' = none ∧ s.Keeps v v' ∧
      (x = true ↔ v'.entry s.top ≠ none)) s.proper_root (fun p hp => by simp at hp) ?_)) ?_
  · intro v₁ hv₁
    obtain ⟨hthere, hfind⟩ | ⟨habsent, hlacks⟩ := hv₁.shared.root_cases
    · obtain ⟨-, content, -, hcache⟩ := hv₁.shared.complete hthere
      exact .inl ⟨⟨s.roomy_root.fits, s.top, true, hfind, hcache.directory⟩, true, rfl, rfl,
        hv₁.toKeeps, by simpa using hthere⟩
    · exact .inr ⟨s.roomy_root.fits, hlacks, false, rfl, rfl, hv₁.toKeeps, by simpa using habsent⟩
  · rintro _ own₁ v₁ ⟨x, rfl, hx⟩
    exact carefulAction_pure hx

@[simp] theorem parent_root (s : Site) : s.root.parent = s.parent :=
  Path.parent_below _ _

@[simp] theorem name_root (s : Site) : s.root.name = s.name := by
  simp [root, Path.below, Path.name]

/-- **A run that publishes a cache** ends without a staging directory, and a cache is there. -/
theorem carefulAction_publish (h : s.Shared v) :
    s.CarefulAction (fun _ own' v' => own' = none ∧ v'.entry s.top ≠ none)
      (Cache.publish s.root) none v := by
  unfold Cache.publish
  rw [parent_root, name_root]
  refine carefulAction_bind (carefulAction_makePart
    (careful_makeDirsWithin_above h le_rfl le_rfl)) ?_
  rintro _ own₁ v₁ ⟨rfl, hv₁, hparent⟩
  refine carefulAction_bind (carefulAction_makeStaging (hv₁.shared.ready_le hparent)) ?_
  rintro _ own₂ v₂ ⟨text, place, rfl, hstaged⟩
  refine carefulAction_bind (carefulAction_pure (Q := fun x own' v' => x = text ∧
    s.Staged (Path.ofText x) place none none own' v') ⟨rfl, hstaged⟩) ?_
  rintro _ own₃ v₃ ⟨rfl, hstaged₃⟩
  refine carefulAction_bind (carefulAction_tryCatch (carefulAction_publishFrom hstaged₃)) ?_
  rintro _ own₄ v₄ ⟨hthere, ⟨rfl, rfl⟩ | ⟨⟨e, rfl⟩, hclaims⟩⟩
  · exact carefulAction_pure ⟨rfl, hthere⟩
  · refine carefulAction_bind (carefulAction_discard hclaims) ?_
    rintro _ own₅ v₅ ⟨rfl, hv₅⟩
    refine carefulAction_bind carefulAction_isDir ?_
    rintro found own₆ v₆ ⟨rfl, hv₆, hfound⟩
    have hstill := hv₆.top_ne_none (hv₅.top_ne_none hthere)
    obtain rfl := hfound.2 hstill
    exact carefulAction_pure ⟨rfl, hstill⟩

/-! ### The whole function -/

/-- The directory of the libraries of a cache that is there. -/
theorem carefulAction_makePart_artifacts (hthere : v.entry s.top ≠ none) :
    s.CarefulAction (fun _ own' v' => own' = none ∧ v'.entry s.top ≠ none)
      (Cache.makePart (s.root.below "dy-cache")) none v := by
  have hproper := s.proper_root.below Path.isName_artifacts
  have hartifacts : ∀ v₁, s.Interferes none v v₁ → v₁.entry s.top ≠ none ∧
      v₁.IsDirectory (s.root.below "dy-cache") := fun v₁ hv₁ => by
    have hthere₁ := hv₁.top_ne_none hthere
    obtain ⟨-, content, -, hcache⟩ := hv₁.shared.complete hthere₁
    obtain ⟨-, hfind⟩ | ⟨habsent, -⟩ := hv₁.shared.root_cases
    · exact ⟨hthere₁, isPart_artifacts.fits s.roomy_root, _, true,
        isPart_artifacts.find hfind hcache.directory hcache.artifacts (by simp), hcache.artifacts⟩
    · exact absurd habsent hthere₁
  refine carefulAction_makePart (careful_makeDirs_of_here (careful_makeDirHere hproper
    (isPart_artifacts.fits s.roomy_root) (fun p hp => by simp at hp) fun v₁ hv₁ => .inl
      ⟨.of_isDirectory hproper (hartifacts v₁ hv₁).2, fun v₂ hv₂ => ?_⟩))
  obtain ⟨hthere₂, hdirectory⟩ := hartifacts v₂ (hv₁.trans hv₂)
  exact ⟨hdirectory, rfl, rfl, hthere₂⟩

/-- The cache is there, and what its prelude is read as. -/
def Loads (s : Site) (prelude : Text) (v : Volume) : Prop :=
  ∃ content text, Utf8.decode content = .ok text ∧ v.HoldsCache s.top content ∧
    prelude = Text.unifyNewlines text

/-- The prelude of a cache that is there. -/
theorem carefulAction_loadPrelude (hthere : v.entry s.top ≠ none) :
    s.CarefulAction (fun prelude own' v' => own' = none ∧ s.Loads prelude v')
      (Cache.loadPrelude (s.root.below "prelude")) none v := by
  refine carefulAction_bind (Q := fun prelude own' v' => own' = none ∧ s.Loads prelude v' ∧
    Text.trim prelude ≠ []) ?_ ?_
  · refine carefulAction_bind (Q := fun reply own' v' => own' = none ∧ ∃ content text,
      reply = .ok content ∧ Utf8.decode content = .ok text ∧
      Text.trim (Text.unifyNewlines text) ≠ [] ∧ v'.HoldsCache s.top content) ?_ ?_
    · refine carefulAction_ask fun v₁ hv₁ _ reply v₂ ⟨⟨hsame, hreply⟩, _⟩ => ?_
      subst hsame
      have hthere₁ := hv₁.top_ne_none hthere
      obtain ⟨-, content, hallowed, hcache⟩ := hv₁.shared.complete hthere₁
      obtain ⟨text, hdecode, hblank⟩ := s.readable content hallowed
      obtain ⟨-, hfind⟩ | ⟨habsent, -⟩ := hv₁.shared.root_cases
      · have hlook : v₂.lookUp (s.root.below "prelude").text = some (.file content true) := by
          rw [Volume.lookUp, Volume.reach_text (s.proper_root.below Path.isName_prelude),
            if_pos (isPart_prelude.fits s.roomy_root),
            isPart_prelude.find hfind hcache.directory hcache.prelude (by simp),
            Option.bind_some, hcache.prelude]
        simp only [hlook] at hreply
        exact ⟨none, hv₁.kept (fun p hp => by simp at hp), rfl, content, text, hreply, hdecode,
          hblank, hcache⟩
      · exact absurd habsent hthere₁
    · rintro _ own₁ v₁ ⟨rfl, content, text, rfl, hdecode, hblank, hcache⟩
      refine carefulAction_bind (carefulAction_pure (Q := fun bytes own' v' => bytes = content ∧
        own' = none ∧ v'.HoldsCache s.top content) ⟨rfl, rfl, hcache⟩) ?_
      rintro _ own₂ v₂ ⟨rfl, rfl, hcache₂⟩
      simp only [hdecode]
      exact carefulAction_pure ⟨rfl, ⟨_, text, hdecode, hcache₂, rfl⟩, hblank⟩
  · rintro prelude own₁ v₁ ⟨rfl, hloads, hblank⟩
    have hnot : ¬ (Text.trim prelude).isEmpty = true := by simpa using hblank
    simp only [hnot]
    exact carefulAction_pure ⟨rfl, hloads⟩

/-- **A run that wants the cache** ends with the cache that is there, and without a staging
directory. -/
theorem carefulAction_ensure :
    s.CarefulAction (fun cache own' v' => own' = none ∧ ∃ prelude, s.Loads prelude v' ∧
        cache = Cache.ofRoot s.root prelude)
      (Cache.ensure s.root) none v := by
  have hend : ∀ v', v'.entry s.top ≠ none →
      s.CarefulAction (fun cache own' v' => own' = none ∧ ∃ prelude, s.Loads prelude v' ∧
          cache = Cache.ofRoot s.root prelude) (Cache.complete s.root) none v' := by
    intro v' hthere
    unfold Cache.complete
    rw [Path.child_eq_below _ Path.isName_prelude, Path.child_eq_below _ Path.isName_artifacts]
    refine carefulAction_bind (carefulAction_makePart_artifacts hthere) ?_
    rintro _ own₁ v₁ ⟨rfl, hthere₁⟩
    refine carefulAction_bind (carefulAction_loadPrelude hthere₁) ?_
    rintro prelude own₂ v₂ ⟨rfl, hloads⟩
    exact carefulAction_pure ⟨rfl, prelude, hloads, rfl⟩
  rw [Cache.ensure_eq]
  refine carefulAction_bind carefulAction_isDir ?_
  rintro found own₁ v₁ ⟨rfl, hv₁, hfound⟩
  cases found with
  | true => exact hend v₁ (hfound.1 rfl)
  | false =>
    refine carefulAction_bind (carefulAction_publish hv₁.shared) ?_
    rintro _ own₂ v₂ ⟨rfl, hthere⟩
    exact hend v₂ hthere

end Site

end Oneshot
