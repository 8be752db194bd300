import Mathlib.Data.Finset.Card
import Oneshot.Proofs.Cache.Making
import Oneshot.Proofs.Host.Serving

/-!
# Runs that Take Turns

Runs that build the same cache share a volume and take turns: between two requests of one run,
others may have made any number of theirs. What a run may find changed then is its reliance
(`Site.Interferes`), and what it changes itself by a request is its guarantee (`Site.Guarantees`).
The guarantee of one run is within the reliance of all others, as long as no two of them have the
same staging directory.

A routine is careful if it keeps the guarantee with each of its requests, whatever it has found
changed before (`Site.Careful`). The definition follows the tree of the routine, so that careful
routines are composed of careful routines.

* `Volume.HoldsCache`: a cache that is complete.
* `Site`: the place of a cache, with the volume as it is once the directories above it are made.
* `Site.Shared`: what holds of the volume at all times.
* `Site.Shared.isDirectory_of_taken`, `Site.Shared.makeDir_cases`: what stands on the way to the
  cache at any time.
* `Site.careful_bind`, `Site.carefulAction_bind`: composition.
* `Site.careful_isDir`, `Site.careful_makeDirHere`: a test, and one attempt at making a directory.
-/

namespace Oneshot

open Virtual (Place)

/-- A complete cache stands at a place: a directory with the prelude and the directory of the
libraries. -/
structure Volume.HoldsCache (v : Volume) (top : Place) (content : Bytes) : Prop where
  directory : v.entry top = some (.directory true)
  prelude : v.entry (top ++ ["prelude".toList]) = some (.file content true)
  artifacts : v.entry (top ++ ["dy-cache".toList]) = some (.directory true)

/-- A cache stays where nothing at or below its place changes. -/
theorem Volume.HoldsCache.of_entry_eq {v v' : Volume} {top : Place} {content : Bytes}
    (h : v.HoldsCache top content) (heq : ∀ place, top <+: place → v'.entry place = v.entry place) :
    v'.HoldsCache top content where
  directory := (heq _ (List.prefix_refl _)).trans h.directory
  prelude := (heq _ (List.prefix_append _ _)).trans h.prelude
  artifacts := (heq _ (List.prefix_append _ _)).trans h.artifacts

/-- The place of a cache. Its directory is made on the volume as it is before, and then nothing has
the name of the cache there, and some names are left for staging directories. The prelude of the
cache is one of those that are allowed. -/
structure Site where
  parent : Path
  name : Text
  proper : (parent.below name).Proper
  isStep : Volume.IsStep name
  length : (Utf8.encode name).length ≤ Virtual.Tree.nameLimit
  roomy : Volume.Roomy (parent.below name)
  before : Volume
  ready : Volume
  dir : Place
  paves : before.Paves parent ready
  find_parent : ready.find parent = some dir
  directory : ready.entry dir = some (.directory true)
  absent : ready.entry (dir ++ [name]) = none
  names : Finset Text
  spare : ∀ fresh ∈ names, ready.Spare dir (['.'] ++ name ++ ['-']) fresh ∧
    Volume.Roomy (parent.below fresh)
  Allowed : Bytes → Prop
  default_allowed : Allowed (Utf8.encode Program.defaultPrelude)
  readable : ∀ content, Allowed content →
    ∃ text, Utf8.decode content = .ok text ∧ Text.trim (Text.unifyNewlines text) ≠ []

namespace Site

variable {s : Site} {v v' v'' v₁ : Volume} {own own' : Option Place} {p q : Path}
  {place other : Place}

/-! ### Places -/

/-- The path of the cache. -/
def root (s : Site) : Path :=
  s.parent.below s.name

/-- The place of the cache. -/
def top (s : Site) : Place :=
  s.dir ++ [s.name]

/-- How the names of staging directories begin. -/
def label (s : Site) : Text :=
  ['.'] ++ s.name ++ ['-']

theorem proper_root (s : Site) : s.root.Proper :=
  s.proper

theorem roomy_root (s : Site) : Volume.Roomy s.root :=
  s.roomy

theorem proper_parent (s : Site) : s.parent.Proper :=
  s.proper.of_le (s.parent.le_below s.name)

theorem before_le_ready (s : Site) : s.before ≤ s.ready :=
  s.paves.le

/-- A staging directory stands beside the cache, with a name of its own. -/
def IsStaging (s : Site) (place : Place) : Prop :=
  ∃ name, place = s.dir ++ [name] ∧ s.label <+: name ∧ s.ready.entry place = none

/-- Two places of one length above the same place are equal. -/
theorem eq_of_prefixes {place place' other : Place} (h : place <+: other)
    (h' : place' <+: other) (hlength : place.length = place'.length) : place = place' :=
  (List.prefix_of_prefix_length_le h h' hlength.le).eq_of_length hlength

namespace IsStaging

theorem length_eq (h : s.IsStaging place) : place.length = s.top.length := by
  obtain ⟨name, rfl, -, -⟩ := h
  simp [top]

theorem ne_top (h : s.IsStaging place) : place ≠ s.top := by
  obtain ⟨name, rfl, hlabel, -⟩ := h
  intro heq
  obtain rfl : name = s.name := by simpa [top] using heq
  have hlength := hlabel.length_le
  simp only [label, List.length_append, List.length_singleton] at hlength
  omega

/-- Neither of a staging directory and the cache lies below the other. -/
theorem not_prefix_top (h : s.IsStaging place) : ¬ place <+: s.top := fun hle =>
  h.ne_top (eq_of_prefixes hle (List.prefix_refl _) h.length_eq)

theorem not_below_top (h : s.IsStaging place) (hle : place <+: other) : ¬ s.top <+: other :=
  fun htop => h.ne_top (eq_of_prefixes hle htop h.length_eq)

theorem unique (h : s.IsStaging place) {place' : Place} (h' : s.IsStaging place')
    (hle : place <+: other) (hle' : place' <+: other) : place = place' :=
  eq_of_prefixes hle hle' (h.length_eq.trans h'.length_eq.symm)

/-- Nothing has stood in a staging directory. -/
theorem ready_eq_none (h : s.IsStaging place) (hle : place <+: other) :
    s.ready.entry other = none := by
  obtain ⟨-, -, -, habsent⟩ := h
  exact Volume.entry_eq_none habsent hle

end IsStaging

/-- A place that no staging directory comes to have. -/
def Lasting (s : Site) (place : Place) : Prop :=
  s.ready.entry place ≠ none ∨ ∀ name, s.label <+: name → ¬ s.dir ++ [name] <+: place

theorem IsStaging.not_lasting (h : s.IsStaging place) (hle : place <+: other) :
    ¬ s.Lasting other := by
  rintro (hready | hfree)
  · exact hready (h.ready_eq_none hle)
  · obtain ⟨name, rfl, hlabel, -⟩ := h
    exact hfree name hlabel hle

/-! ### Reliance and guarantee -/

/-- What holds of the volume at all times: what was there before is there, directories above the
cache may be missing, and the cache is complete where it is there at all. -/
structure Shared (s : Site) (v : Volume) : Prop where
  kept : s.before ≤ v
  lags : v.Lags s.ready
  complete : v.entry s.top ≠ none →
    s.ready ≤ v ∧ ∃ content, s.Allowed content ∧ v.HoldsCache s.top content

/-- Nothing that lasts is gone, and the cache has not been touched. -/
structure Keeps (s : Site) (v v' : Volume) : Prop where
  shared : s.Shared v'
  lasting : ∀ place item, s.Lasting place → v.entry place = some item →
    v'.entry place = some item
  top : v.entry s.top ≠ none → ∀ place, s.top <+: place → v'.entry place = v.entry place

/-- What a run may find changed between two of its requests. Its staging directory is as it was. -/
structure Interferes (s : Site) (own : Option Place) (v v' : Volume) : Prop
    extends s.Keeps v v' where
  own : ∀ p, own = some p → ∀ place, p <+: place → v'.entry place = v.entry place

/-- What a run changes itself by a request. It may come to have a staging directory that was not
there, and lose the one it has; elsewhere it makes missing directories above the cache, or the cache
itself where that is missing. -/
structure Guarantees (s : Site) (own : Option Place) (v : Volume) (own' : Option Place)
    (v' : Volume) : Prop extends s.Keeps v v' where
  elsewhere : ∀ place, ¬ s.top <+: place → s.ready.entry place = none →
    (∀ p, own = some p ∨ own' = some p → ¬ p <+: place) → v'.entry place = v.entry place
  given_up : ∀ p, own = some p → own' ≠ some p →
    own' = none ∧ ∀ place, p <+: place → v'.entry place = none
  taken : ∀ p, own' = some p → v'.entry p = some (.directory true) ∧
    (own = some p ∨ own = none ∧ s.IsStaging p ∧ v.entry p = none)

namespace Keeps

theorem refl (h : s.Shared v) : s.Keeps v v :=
  ⟨h, fun _ _ _ hitem => hitem, fun _ _ _ => rfl⟩

theorem top_ne_none (h : s.Keeps v v') (hthere : v.entry s.top ≠ none) :
    v'.entry s.top ≠ none := by
  rwa [h.top hthere s.top (List.prefix_refl _)]

theorem trans (h : s.Keeps v v') (h' : s.Keeps v' v'') : s.Keeps v v'' where
  shared := h'.shared
  lasting place item hlasting hitem :=
    h'.lasting place item hlasting (h.lasting place item hlasting hitem)
  top hthere place hle := by
    rw [h'.top (h.top_ne_none hthere) place hle, h.top hthere place hle]

/-- What stands on the way to the cache, and the volume without the cache at last, stays. -/
theorem le (h : s.Keeps v v') (hready : v₁ ≤ s.ready) (hle : v₁ ≤ v) : v₁ ≤ v' := by
  refine ⟨?_, fun place item hitem => ?_⟩
  · rw [← hready.1, ← h.shared.lags.workDir]
  · exact h.lasting place item (.inl (by simp [hready.2 place item hitem])) (hle.2 place item hitem)

end Keeps

theorem Interferes.refl (h : s.Shared v) : s.Interferes own v v :=
  ⟨.refl h, fun _ _ _ _ => rfl⟩

theorem Interferes.trans (h : s.Interferes own v v') (h' : s.Interferes own v' v'') :
    s.Interferes own v v'' where
  toKeeps := h.toKeeps.trans h'.toKeeps
  own p hp place hle := by rw [h'.own p hp place hle, h.own p hp place hle]

/-- A request that changes nothing keeps the guarantee. -/
theorem Guarantees.refl (h : s.Shared v)
    (hown : ∀ p, own = some p → v.entry p = some (.directory true)) :
    s.Guarantees own v own v where
  toKeeps := .refl h
  elsewhere _ _ _ _ := rfl
  given_up _ hp hne := absurd hp hne
  taken p hp := ⟨hown p hp, .inl hp⟩

/-- **What one run guarantees is what another one may find changed**, if they do not have the same
staging directory. -/
theorem Guarantees.interferes (h : s.Guarantees own v own' v') {other : Option Place}
    (hown : ∀ p, own = some p → s.IsStaging p)
    (hother : ∀ p, other = some p → s.IsStaging p ∧ v.entry p = some (.directory true))
    (hne : ∀ p, other = some p → own ≠ some p) : s.Interferes other v v' where
  toKeeps := h.toKeeps
  own p hp place hle := by
    obtain ⟨hstaging, hdirectory⟩ := hother p hp
    refine h.elsewhere place (hstaging.not_below_top hle) (hstaging.ready_eq_none hle) ?_
    rintro p' hp' hle'
    -- the staging directory of the run is another one: it has had it, or it was not there
    have hstaging' : s.IsStaging p' := by
      rcases hp' with hp' | hp'
      · exact hown p' hp'
      · obtain ⟨-, hp' | ⟨-, hstaging', -⟩⟩ := h.taken p' hp'
        · exact hown p' hp'
        · exact hstaging'
    obtain rfl := hstaging.unique hstaging' hle hle'
    rcases hp' with hp' | hp'
    · exact hne p hp hp'
    · obtain ⟨-, hp' | ⟨-, -, habsent⟩⟩ := h.taken p hp'
      · exact hne p hp hp'
      · simp [hdirectory] at habsent

/-! ### On the way to the cache -/

theorem fits_above (s : Site) (hq : q ≤ s.parent) : Volume.Fits q.text :=
  s.roomy.fits.of_le (hq.trans (s.parent.le_below s.name))

theorem proper_above (s : Site) (hq : q ≤ s.parent) : q.Proper :=
  s.proper_parent.of_le hq

/-- Every path above the cache leads to a directory in the end. -/
theorem exists_ready (s : Site) (hq : q ≤ s.parent) :
    ∃ place, s.ready.find q = some place ∧ s.ready.entry place = some (.directory true) := by
  by_cases heq : q = s.parent
  · exact ⟨s.dir, heq ▸ s.find_parent, s.directory⟩
  · exact Volume.exists_of_find_of_le s.find_parent hq heq

theorem Shared.entry_start_ne_none (h : s.Shared v) (hq : q ≤ s.parent) :
    v.entry (Volume.start q v.workDir) ≠ none := by
  obtain ⟨item, hitem⟩ := Option.ne_none_iff_exists'.1 s.paves.entry_start_ne_none
  have hstart : Volume.start q v.workDir = Volume.start s.parent s.before.workDir := by
    rw [h.kept.1, Volume.start, Volume.start, Path.isAbsolute, Path.isAbsolute, hq.1]
  rw [hstart, h.kept.2 _ item hitem]
  simp

/-- A path above the cache leads where it will lead in the end, or a name on it is not there yet. -/
theorem Shared.find_above (h : s.Shared v) (hq : q ≤ s.parent) :
    (∃ place, v.find q = some place ∧ s.ready.find q = some place ∧
      v.entry place = some (.directory true)) ∨ v.LacksWay q := by
  obtain ⟨place, hfind, hdirectory⟩ := s.exists_ready hq
  refine (h.lags.find (h.entry_start_ne_none hq) hfind).imp_left fun ⟨hfind', hthere⟩ => ?_
  exact ⟨place, hfind', hfind, by rw [h.lags.entry_eq hthere (by simp [hdirectory]), hdirectory]⟩

theorem Shared.isDirectory_of_find (h : s.Shared v) (hq : q ≤ s.parent) (hfind : v.find q ≠ none) :
    v.IsDirectory q := by
  obtain ⟨place, hplace, -, hdirectory⟩ | hlacks := h.find_above hq
  · exact ⟨s.fits_above hq, place, true, hplace, hdirectory⟩
  · exact absurd hlacks.find_eq_none hfind

theorem find_ne_none_of_isDirectory (h : v.IsDirectory q) : v.find q ≠ none := by
  obtain ⟨-, place, -, hfind, -⟩ := h
  simp [hfind]

/-- **Where a path above the cache leads somewhere, its way has been paved.** -/
theorem Shared.le_of_paves (h : s.Shared v) (hq : q ≤ s.parent) (hpaves : s.before.Paves q v₁)
    (hready : v₁ ≤ s.ready) (hfind : v.find q ≠ none) : v₁ ≤ v := by
  refine ⟨by rw [← hready.1, ← h.lags.workDir], fun place item hitem => ?_⟩
  obtain hsame | ⟨-, -, q', hle, hplace⟩ := (hpaves.way (s.proper_above hq)).entry place
  · exact h.kept.2 place item (hsame ▸ hitem)
  · have hplace' := (Volume.extends_of_le hready).find hplace
    obtain ⟨-, hthere⟩ | hlacks :=
      h.lags.find (h.entry_start_ne_none (hle.trans hq)) hplace'
    · have hitem' := hready.2 place item hitem
      rw [h.lags.entry_eq hthere (by simp [hitem']), hitem']
    · exact absurd (hlacks.mono hle).find_eq_none hfind

theorem Shared.ready_le (h : s.Shared v) (hdirectory : v.IsDirectory s.parent) : s.ready ≤ v :=
  h.le_of_paves le_rfl s.paves le_rfl (find_ne_none_of_isDirectory hdirectory)

/-- **What stands on the way to the cache is a directory**, or a link to one. -/
theorem Shared.isDirectory_of_taken (h : s.Shared v) (hq : q ≤ s.parent)
    (htaken : v.Taken q.text) : v.IsDirectory q := by
  have hproper := s.proper_above hq
  rcases htaken with hreach | ⟨place, hslot, hthere⟩
  · rw [Volume.reach_text hproper, if_pos (s.fits_above hq)] at hreach
    exact h.isDirectory_of_find hq hreach
  have hparent : v.find q.parent ≠ none :=
    find_ne_none_of_isDirectory (Volume.isDirectory_parent_of_slot hproper hslot)
  obtain ⟨v₁, hpaves, hready⟩ := s.paves.of_le hq
  cases hpaves with
  | there hdirectory => exact hdirectory.of_extends (Volume.extends_of_le h.kept)
  | found habove hdirectory =>
    have hle := h.le_of_paves (q.parent_le.trans hq) habove hready hparent
    exact hdirectory.of_extends (Volume.extends_of_le hle)
  | @added _ v₀ _ place₀ searchable habove hslot₀ habsent hadds =>
    have hle₀ := Volume.Adds.le hadds habsent
    have hle := h.le_of_paves (q.parent_le.trans hq) habove (hle₀.trans hready) hparent
    have hspot := (Volume.slot_text hproper hslot).2
    obtain rfl : place₀ = place := Option.some.inj
      (((Volume.extends_of_le hle).spot (Volume.slot_text hproper hslot₀).2).symm.trans hspot)
    have hmade : s.ready.entry place₀ = some (.directory searchable) :=
      hready.2 _ _ (by rw [hadds.2, Function.update_self])
    have hentry : v.entry place₀ = some (.directory searchable) := by
      rw [h.lags.entry_eq hthere (by simp [hmade]), hmade]
    exact ⟨s.fits_above hq, place₀, searchable,
      Volume.find_of_spot hproper hspot hthere (by simp [Volume.linkAt, hentry]), hentry⟩

/-- What is still missing of the way to the cache is a directory. -/
theorem Shared.ready_eq_directory (h : s.Shared v) (hthere : s.ready.entry place ≠ none)
    (habsent : v.entry place = none) : s.ready.entry place = some (.directory true) := by
  obtain hsame | ⟨-, -, q, hle, hplace⟩ := (s.paves.way s.proper_parent).entry place
  · obtain ⟨item, hitem⟩ := Option.ne_none_iff_exists'.1 hthere
    simp [h.kept.2 _ item (hsame ▸ hitem)] at habsent
  · obtain ⟨final, hfinal, hdirectory⟩ := s.exists_ready hle
    rwa [Option.some.inj (hplace.symm.trans hfinal)]

/-- **What an attempt at making a directory above the cache finds**: the directory, or nothing where
it will stand, or not even the way to it. -/
theorem Shared.makeDir_cases (h : s.Shared v) (hq : q ≤ s.parent) :
    v.IsDirectory q ∨
      (∃ place, ¬ v.Taken q.text ∧ v.slot q.text = some place ∧ v.entry place = none ∧
        s.ready.entry place = some (.directory true)) ∨
      q.parts ≠ [] ∧ v.LacksWay q.parent := by
  by_cases htaken : v.Taken q.text
  · exact .inl (h.isDirectory_of_taken hq htaken)
  have hproper := s.proper_above hq
  have hfits := s.fits_above hq
  have hnot : v.find q = none := by
    by_contra hfind
    exact htaken (.inl (by rwa [Volume.reach_text hproper, if_pos hfits]))
  have hparts : q.parts ≠ [] := by
    intro hnil
    rw [Volume.find, hnil, Volume.walk_nil] at hnot
    simp at hnot
  refine .inr (or_iff_not_imp_right.2 fun hway => ?_)
  have hway : ¬ v.LacksWay q.parent := fun hlacks => hway ⟨hparts, hlacks⟩
  obtain ⟨dir, hdir, hdir_ready, hdirectory⟩ :=
    (h.find_above (q.parent_le.trans hq)).resolve_right hway
  obtain ⟨final, hfinal, -⟩ := s.exists_ready hq
  obtain ⟨parent, name, rfl, hname⟩ := hproper.exists_below hparts
  rw [Path.parent_below] at hdir hdir_ready
  obtain ⟨dir', found, hdir', henter, -⟩ := Volume.exists_of_find_below hfinal
  obtain rfl := Option.some.inj (hdir_ready.symm.trans hdir')
  by_cases hup : name = ['.', '.']
  · -- the way upwards from a directory is always there
    subst hup
    rw [Volume.find_below_up hdir hdirectory] at hnot
    simp at hnot
  · have hstep : Volume.IsStep name := ⟨hname, hup⟩
    obtain ⟨-, hlength, hthere, rfl⟩ := (Volume.enter_eq_some_iff hstep).1 henter
    have hslot : v.slot (parent.below name).text = some (dir ++ [name]) :=
      Volume.slot_of_spot hproper hfits
        ((Volume.spot_below parent hstep.2).2 ⟨dir, hdir, hdirectory, hlength, rfl⟩)
    have habsent : v.entry (dir ++ [name]) = none := by
      by_contra hentry
      exact htaken (.inr ⟨_, hslot, hentry⟩)
    exact ⟨_, htaken, hslot, habsent, h.ready_eq_directory hthere habsent⟩

/-- A directory above the cache stays. -/
theorem Keeps.isDirectory (h : s.Keeps v v') (hshared : s.Shared v) (hq : q ≤ s.parent)
    (hdirectory : v.IsDirectory q) : v'.IsDirectory q := by
  obtain ⟨v₁, hpaves, hready⟩ := s.paves.of_le hq
  have hle := hshared.le_of_paves hq hpaves hready (find_ne_none_of_isDirectory hdirectory)
  exact (hpaves.isDirectory (s.proper_above hq)).of_extends
    (Volume.extends_of_le (h.le hready hle))

/-! ### At the place of the cache -/

/-- Once the directories above the cache are there, its path has its place. -/
theorem slot_root (s : Site) (hready : s.ready ≤ v) : v.slot s.root.text = some s.top := by
  have hextends := Volume.extends_of_le hready
  exact Volume.slot_of_spot s.proper s.roomy.fits ((Volume.spot_below s.parent s.isStep.2).2
    ⟨s.dir, hextends.find s.find_parent, hextends.searchable s.directory, s.length, rfl⟩)

/-- The path of the cache leads to the cache, or a name on the way is not there. -/
theorem Shared.root_cases (h : s.Shared v) :
    v.entry s.top ≠ none ∧ v.find s.root = some s.top ∨
      v.entry s.top = none ∧ v.LacksWay s.root := by
  by_cases habsent : v.entry s.top = none
  · refine .inr ⟨habsent, ?_⟩
    obtain ⟨place, hfind, hfind_ready, hdirectory⟩ | hlacks := h.find_above le_rfl
    · obtain rfl := Option.some.inj (s.find_parent.symm.trans hfind_ready)
      exact Volume.lacksWay_below hfind hdirectory s.isStep s.length habsent
    · exact hlacks.below s.name
  · obtain ⟨hready, content, -, hcache⟩ := h.complete habsent
    obtain ⟨-, hspot⟩ := Volume.slot_text s.proper (s.slot_root hready)
    exact .inl ⟨habsent, Volume.find_of_spot s.proper hspot habsent
      (by simp [Volume.linkAt, hcache.directory])⟩

/-! ### Careful routines -/

/-- A name is left for a staging directory. -/
def Spared (s : Site) (v : Volume) : Prop :=
  ∃ name, v.Spare s.dir s.label name ∧ Volume.Roomy (s.parent.below name)

/-- With each request the routine keeps the guarantee, whatever it has found changed; and at its end
the postcondition holds. As long as it has no staging directory, a name is left for one. -/
def Careful {α : Type} (s : Site) (Q : α → Option Place → Volume → Prop) :
    Routine α → Option Place → Volume → Prop
  | .done x, own, v => Q x own v
  | .ask request next, own, v => ∀ v', s.Interferes own v v' → (own = none → s.Spared v') →
      ∀ reply v'', v'.Serves request reply v'' →
        ∃ own', s.Guarantees own v' own' v'' ∧ s.Careful Q (next reply) own' v''

section Careful

variable {α β : Type} {Q : α → Option Place → Volume → Prop}
  {Q' : β → Option Place → Volume → Prop}

/-- A request and what is made of the reply. -/
theorem careful_request_bind {request : Request} {f : request.Reply → Routine β}
    (h : ∀ v', s.Interferes own v v' → (own = none → s.Spared v') →
      ∀ reply v'', v'.Serves request reply v'' →
        ∃ own', s.Guarantees own v' own' v'' ∧ s.Careful Q' (f reply) own' v'') :
    s.Careful Q' (Routine.request request >>= f) own v :=
  h

/-- An action that is careful and does not fail. -/
def CarefulAction (s : Site) (Q : α → Option Place → Volume → Prop) (a : Action α) :
    Option Place → Volume → Prop :=
  s.Careful (fun x own v => ∃ value, x = .ok value ∧ Q value own v) a.run

/-- Careful routines are composed of careful routines. -/
theorem careful_bind {r : Routine α} {f : α → Routine β} (hr : s.Careful Q r own v)
    (hf : ∀ x own v, Q x own v → s.Careful Q' (f x) own v) : s.Careful Q' (r >>= f) own v := by
  induction r generalizing own v with
  | done x => exact hf x own v hr
  | ask request next ih =>
    intro v' hv' hspared reply v'' hserves
    obtain ⟨own', hguarantees, hrest⟩ := hr v' hv' hspared reply v'' hserves
    exact ⟨own', hguarantees, ih reply hrest⟩

theorem Careful.imp {r : Routine α} {Q₁ : α → Option Place → Volume → Prop}
    (h : s.Careful Q r own v) (hQ : ∀ x own v, Q x own v → Q₁ x own v) :
    s.Careful Q₁ r own v := by
  rw [← Routine.bind_pure r]
  exact careful_bind h hQ

/-- What has been careful stays careful where it has found something changed. -/
theorem Careful.of_interferes {r : Routine α} (h : s.Careful Q r own v)
    (hQ : ∀ x v v', s.Interferes own v v' → Q x own v → Q x own v')
    (hv : s.Interferes own v v') : s.Careful Q r own v' := by
  cases r with
  | done x => exact hQ x v v' hv h
  | ask request next => exact fun v'' hv'' => h v'' (hv.trans hv'')

theorem carefulAction_pure {x : α} (h : Q x own v) : s.CarefulAction Q (pure x) own v :=
  ⟨x, rfl, h⟩

theorem carefulAction_bind {a : Action α} {f : α → Action β} (ha : s.CarefulAction Q a own v)
    (hf : ∀ x own v, Q x own v → s.CarefulAction Q' (f x) own v) :
    s.CarefulAction Q' (a >>= f) own v := by
  rw [CarefulAction, Action.run_bind]
  refine careful_bind ha ?_
  rintro x own v ⟨value, rfl, hvalue⟩
  exact hf value own v hvalue

theorem carefulAction_lift {r : Routine α} (hr : s.Careful Q r own v) :
    s.CarefulAction Q (ExceptT.lift r) own v :=
  careful_bind hr fun x _ _ hx => ⟨x, rfl, hx⟩

/-- A request of an action. -/
theorem carefulAction_ask {request : Request}
    {Q : request.Reply → Option Place → Volume → Prop}
    (h : ∀ v', s.Interferes own v v' → (own = none → s.Spared v') →
      ∀ reply v'', v'.Serves request reply v'' →
        ∃ own', s.Guarantees own v' own' v'' ∧ Q reply own' v'') :
    s.CarefulAction Q (Action.ask request) own v :=
  carefulAction_lift (careful_request_bind h)

/-- An action that does not fail needs no handler. -/
theorem carefulAction_tryCatch {a : Action α} {handler : Failure → Action α}
    (ha : s.CarefulAction Q a own v) : s.CarefulAction Q (tryCatch a handler) own v := by
  rw [CarefulAction, Action.run_tryCatch]
  refine careful_bind ha ?_
  rintro x own v ⟨value, rfl, hvalue⟩
  exact ⟨value, rfl, hvalue⟩

/-! ### One request -/

/-- A request that changes nothing. -/
theorem Interferes.kept (h : s.Interferes own v v')
    (hown : ∀ p, own = some p → v.entry p = some (.directory true)) :
    s.Guarantees own v' own v' :=
  .refl h.shared fun p hp => by rw [h.own p hp p (List.prefix_refl _), hown p hp]

/-- **A test** finds the directory, or that it is not there. -/
theorem careful_isDir {Q : Except OsError Bool → Option Place → Volume → Prop} (hp : p.Proper)
    (hown : ∀ q, own = some q → v.entry q = some (.directory true))
    (h : ∀ v', s.Interferes own v v' → v'.IsDirectory p ∧ Q (.ok true) own v' ∨
      Volume.Fits p.text ∧ v'.LacksWay p ∧ Q (.ok false) own v') :
    s.Careful Q (Files.isDir p) own v := by
  refine careful_request_bind fun v' hv' _ reply v'' ⟨⟨hsame, hreply⟩, hobliges⟩ => ?_
  subst hsame
  refine ⟨own, hv'.kept hown, ?_⟩
  obtain ⟨hdirectory, hQ⟩ | ⟨hfits, hlacks, hQ⟩ := h v'' hv'
  · obtain ⟨searchable, hlook⟩ := (Volume.isDirectory_iff hp).1 hdirectory
    simp only [hlook] at hreply
    subst hreply
    exact hQ
  · obtain ⟨e, rfl, hcause⟩ := hobliges hfits (by rwa [hp.ofText_text])
    simp only [hcause, Files.isAbsence, if_true]
    exact hQ

/-- **One attempt at making a directory**: it is there and stays, or it is made, or there is no way
to it. -/
theorem careful_makeDirHere {Q : Except Refusal Unit → Option Place → Volume → Prop}
    (hp : p.Proper) (hfits : Volume.Fits p.text)
    (hown : ∀ q, own = some q → v.entry q = some (.directory true))
    (h : ∀ v', s.Interferes own v v' →
      (v'.Taken p.text ∧ ∀ v'', s.Interferes own v' v'' →
        v''.IsDirectory p ∧ Q (.ok ()) own v'') ∨
      (¬ v'.Taken p.text ∧ ∃ place, v'.slot p.text = some place ∧
        ∀ v'', v'.Adds place (.directory true) v'' →
          s.Guarantees own v' own v'' ∧ Q (.ok ()) own v'') ∨
      v'.LacksWay p.parent ∧ ∀ e : OsError, e.cause = .noEntry → Q (.error (.os e)) own v') :
    s.Careful Q (Files.makeDirHere p) own v := by
  refine careful_request_bind fun v' hv' _ reply v'' ⟨⟨htaken, hfree⟩, hmakes, hmisses⟩ => ?_
  obtain ⟨hthere, hstays⟩ | ⟨hnot, place, hslot, hmade⟩ | ⟨hlacks, hQ⟩ := h v' hv'
  · -- the test behind the refusal still finds the directory
    obtain ⟨rfl, e, rfl, hcause⟩ := htaken hthere
    refine ⟨own, hv'.kept hown, ?_⟩
    simp only [hcause, reduceCtorEq, if_false]
    have hown' : ∀ q, own = some q → v''.entry q = some (.directory true) := fun q hq => by
      rw [hv'.own q hq q (List.prefix_refl _), hown q hq]
    refine careful_bind (careful_isDir (Q := fun found own' v₃ => found = .ok true ∧
      own' = own ∧ Q (.ok ()) own v₃) hp hown' ?_) ?_
    · intro v₃ hv₃
      obtain ⟨hdirectory, hQ⟩ := hstays v₃ hv₃
      exact .inl ⟨hdirectory, rfl, rfl, hQ⟩
    · rintro _ _ v₃ ⟨rfl, rfl, hQ⟩
      exact hQ
  · obtain ⟨hreply, hdirectory⟩ := hmakes hnot place hslot
    subst hreply
    obtain ⟨-, hrefused⟩ | ⟨place', searchable, hslot', -, hadds⟩ := hfree hnot
    · exact absurd hrefused Volume.not_refused_ok
    · obtain rfl := Option.some.inj (hslot.symm.trans hslot')
      obtain rfl : searchable = true := by
        rw [hadds.2, Function.update_self] at hdirectory
        simpa using hdirectory
      obtain ⟨hguarantees, hQ⟩ := hmade v'' hadds
      exact ⟨own, hguarantees, hQ⟩
  · rw [← hp.ofText_text] at hlacks
    have hnot := Volume.not_taken_of_lacksWay hlacks
    obtain ⟨e, hreply, hcause⟩ := hmisses hfits hlacks
    subst hreply
    obtain ⟨rfl, -⟩ | ⟨place, searchable, hslot, -⟩ := hfree hnot
    · refine ⟨own, hv'.kept hown, ?_⟩
      simp only [hcause, if_true]
      exact hQ e hcause
    · simp [Volume.slot_eq_none_of_lacksWay hlacks] at hslot

end Careful

end Site

end Oneshot
