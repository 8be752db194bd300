import Oneshot.Proofs.Cache.Making
import Oneshot.Proofs.Host.Play

/-!
# Plain Volumes

On a volume without links a path leads where its parts say, if it leads anywhere: each part goes one
step down, and `..` one step up (`Volume.aim`). Directories can be made up to a path exactly if no
file stands on its way (`Volume.Clear`) and its parts and its text are not too long
(`Volume.Spelled`).

The host of this module refuses nothing without need. It makes directories and writes files; it has
no part in other changes.

* `Volume.Plain.find_eq`, `Volume.Plain.isDirectory_iff`: where a path leads.
* `Volume.host`: a plain volume as a host.
* `Volume.Plain.play_makeDirs_ok_iff`, `Volume.Plain.entry_play_makeDirs`: making directories.
-/

namespace Oneshot

open Virtual (Place)

namespace Volume

variable {v v' : Volume} {p q : Path} {place next : Place} {name : Text} {item : Item}

/-! ### Where a path leads -/

/-- No links, and all directories can be searched. -/
structure Plain (v : Volume) : Prop where
  linkless : ∀ place target, v.entry place ≠ some (.link target)
  searchable : ∀ place, v.entry place ≠ some (.directory false)

theorem plain_bare : bare.Plain := by
  constructor
  all_goals
    intro place
    by_cases hplace : place = []
    · simp [bare, hplace]
    · simp [bare, Function.update_of_ne hplace]

/-- Where a name leads from a place, without links. -/
def onward (place : Place) (name : Text) : Place :=
  if name = ['.', '.'] then place.dropLast else place ++ [name]

/-- Where a path leads, without links. -/
def aim (v : Volume) (p : Path) : Place :=
  p.parts.foldl onward (start p v.workDir)

theorem aim_below (v : Volume) (p : Path) (name : Text) :
    v.aim (p.below name) = onward (v.aim p) name := by
  rw [aim, Path.below, List.foldl_append]
  rfl

theorem aim_of_workDir_eq (h : v'.workDir = v.workDir) (p : Path) : v'.aim p = v.aim p := by
  rw [aim, aim, h]

theorem aim_base (v : Volume) (p : Path) : v.aim ⟨p.anchor, []⟩ = start p v.workDir :=
  rfl

theorem base_le (p : Path) : (⟨p.anchor, []⟩ : Path) ≤ p :=
  ⟨rfl, List.nil_prefix⟩

/-- What holds of paths that reading yields: of one without parts, and of a name below a path. -/
theorem path_induction {motive : Path → Prop}
    (base : ∀ p : Path, p.parts = [] → motive p)
    (below : ∀ (p : Path) (name : Text), (p.below name).Proper → name ≠ ['.'] → motive p →
      motive (p.below name)) (hp : p.Proper) : motive p := by
  induction hlength : p.parts.length generalizing p with
  | zero => exact base p (List.length_eq_zero_iff.1 hlength)
  | succ n ih =>
    have hparts : p.parts ≠ [] := fun hnil => by simp [hnil] at hlength
    obtain ⟨parent, name, rfl, hname⟩ := hp.exists_below hparts
    refine below parent name hp hname (ih (hp.of_le (parent.le_below name)) ?_)
    simpa [Path.below] using hlength

theorem enter_eq_some_iff_onward (hname : name ≠ ['.']) : v.enter place name = some next ↔
    v.entry place = some (.directory true) ∧ next = onward place name ∧
      v.entry next ≠ none ∧
      (name ≠ ['.', '.'] → (Utf8.encode name).length ≤ Virtual.Tree.nameLimit) := by
  by_cases hup : name = ['.', '.']
  · have honward : onward place name = place.dropLast := if_pos hup
    rw [enter, if_neg hname, if_pos hup, honward]
    constructor
    · intro hnext
      split at hnext
      · simp at hnext
      next hdirectory =>
      rw [not_not] at hdirectory
      obtain rfl := Option.some.inj hnext
      obtain ⟨searchable, hupper⟩ := directory_dropLast hdirectory
      exact ⟨hdirectory, rfl, by simp [hupper], fun hstep => absurd hup hstep⟩
    · rintro ⟨hdirectory, rfl, -, -⟩
      rw [if_neg (not_not.2 hdirectory)]
  · have honward : onward place name = place ++ [name] := if_neg hup
    rw [enter_eq_some_iff ⟨hname, hup⟩, honward]
    constructor
    · rintro ⟨hdirectory, hlength, hthere, rfl⟩
      exact ⟨hdirectory, rfl, hthere, fun _ => hlength⟩
    · rintro ⟨hdirectory, rfl, hthere, hlength⟩
      exact ⟨hdirectory, hlength hup, hthere, rfl⟩

namespace Plain

theorem directory (h : v.Plain) {searchable : Bool}
    (hentry : v.entry place = some (.directory searchable)) :
    v.entry place = some (.directory true) := by
  cases searchable with
  | false => exact absurd hentry (h.searchable place)
  | true => exact hentry

theorem linkAt (h : v.Plain) (place : Place) : v.linkAt place = none := by
  rw [Volume.linkAt]
  split
  · next target hlink => exact absurd hlink (h.linkless place target)
  · rfl

theorem find_below_iff (h : v.Plain) : v.find (p.below name) = some next ↔
    ∃ dir, v.find p = some dir ∧ v.enter dir name = some next := by
  constructor
  · intro hfind
    obtain ⟨dir, found, hdir, henter, hnext⟩ := exists_of_find_below hfind
    obtain rfl := hnext (h.linkAt found)
    exact ⟨dir, hdir, henter⟩
  · rintro ⟨dir, hdir, henter⟩
    exact find_below hdir henter (h.linkAt next)

/-- **A path leads where its parts say**, if it leads anywhere. -/
theorem find_eq (h : v.Plain) (hp : p.Proper) (hfind : v.find p = some place) :
    place = v.aim p := by
  refine path_induction (motive := fun p => ∀ place, v.find p = some place → place = v.aim p)
    ?_ ?_ hp place hfind
  · intro p hparts place hfind
    rw [find, hparts, walk_nil] at hfind
    rw [aim, hparts]
    exact (Option.some.inj hfind).symm
  · intro p name hp hname ih place hfind
    obtain ⟨dir, hdir, henter⟩ := h.find_below_iff.1 hfind
    rw [aim_below, ← ih dir hdir]
    exact ((enter_eq_some_iff_onward hname).1 henter).2.1

end Plain

/-- A path whose text and whose parts are not too long. -/
structure Spelled (p : Path) : Prop where
  fits : Fits p.text
  short : ∀ part ∈ p.parts, part ≠ ['.', '.'] →
    (Utf8.encode part).length ≤ Virtual.Tree.nameLimit

theorem Spelled.of_le (h : Spelled p) (hle : q ≤ p) : Spelled q :=
  ⟨h.fits.of_le hle, fun part hpart => h.short part (hle.2.subset hpart)⟩

theorem spelled_below : Spelled (p.below name) ↔ Spelled p ∧ Fits (p.below name).text ∧
    (name ≠ ['.', '.'] → (Utf8.encode name).length ≤ Virtual.Tree.nameLimit) := by
  constructor
  · intro h
    exact ⟨h.of_le (p.le_below name), h.fits, h.short name (by simp [Path.below])⟩
  · rintro ⟨h, hfits, hlength⟩
    refine ⟨hfits, fun part hpart => ?_⟩
    rcases List.mem_append.1 hpart with hpart | hpart
    · exact h.short part hpart
    · rwa [List.mem_singleton.1 hpart]

namespace Plain

/-- **A path leads to a directory** if all that it passes are directories. -/
theorem isDirectory_iff (h : v.Plain) (hp : p.Proper) :
    v.IsDirectory p ↔ Spelled p ∧ ∀ q ≤ p, v.entry (v.aim q) = some (.directory true) := by
  constructor
  · intro hdirectory
    refine ⟨⟨hdirectory.1, fun part hpart hstep => ?_⟩, fun q hq => ?_⟩
    · -- the way passes the part
      obtain ⟨before, after, hsplit⟩ := List.append_of_mem hpart
      have hq : Path.below ⟨p.anchor, before⟩ part ≤ p := ⟨rfl, by simp [Path.below, hsplit]⟩
      obtain ⟨-, place, searchable, hfind, -⟩ := hdirectory.of_le hq
      obtain ⟨dir, -, henter⟩ := h.find_below_iff.1 hfind
      have hdot : part ≠ ['.'] := fun hdot =>
        absurd (hp.parts part hpart).1 (by simp [hdot, Path.isKept])
      exact ((enter_eq_some_iff_onward hdot).1 henter).2.2.2 hstep
    · obtain ⟨-, place, searchable, hfind, hentry⟩ := hdirectory.of_le hq
      rw [← h.find_eq (hp.of_le hq) hfind]
      exact h.directory hentry
  · rintro ⟨hspelled, hway⟩
    refine ⟨hspelled.fits, v.aim p, true, ?_, hway p le_rfl⟩
    refine path_induction (motive := fun p => Spelled p →
      (∀ q ≤ p, v.entry (v.aim q) = some (.directory true)) → v.find p = some (v.aim p))
      ?_ ?_ hp hspelled hway
    · intro p hparts _ _
      rw [find, aim, hparts, walk_nil, Option.map_some, List.foldl_nil]
    · intro p name hp hname ih hspelled hway
      have hle := p.le_below name
      have hfind := ih (hspelled.of_le hle) fun q hq => hway q (hq.trans hle)
      refine h.find_below_iff.2 ⟨v.aim p, hfind, (enter_eq_some_iff_onward hname).2
        ⟨hway p hle, aim_below v p name, ?_, (spelled_below.1 hspelled).2.2⟩⟩
      simp [hway _ le_rfl]

end Plain

/-! ### A plain volume as a host -/

/-- The volume with an item at a place, where that can be put there. -/
def settled (v : Volume) (place : Place) (item : Item) : Volume :=
  if h : place ≠ [] ∧ v.entry place.dropLast = some (.directory true) ∧
      v.entry place ≠ some (.directory true) ∧ v.entry place ≠ some (.directory false) then
    { entry := Function.update v.entry place (some item)
      workDir := v.workDir
      parent_directory := by
        obtain ⟨hnil, hparent, hfree⟩ := h
        intro dir last hentry
        by_cases hlast : dir ++ [last] = place
        · have hdir : dir = place.dropLast := by rw [← hlast, List.dropLast_concat]
          refine ⟨true, ?_⟩
          rw [hdir, Function.update_of_ne, hparent]
          intro heq
          exact hfree.1 (by rw [← heq, hparent])
        · rw [Function.update_of_ne hlast] at hentry
          obtain ⟨searchable, hdirectory⟩ := v.parent_directory hentry
          refine ⟨searchable, ?_⟩
          rw [Function.update_of_ne, hdirectory]
          rintro rfl
          cases searchable with
          | true => exact hfree.1 hdirectory
          | false => exact hfree.2 hdirectory }
  else v

theorem adds_settled (hplace : place ≠ [])
    (hparent : v.entry place.dropLast = some (.directory true))
    (hfree : ∀ searchable, v.entry place ≠ some (.directory searchable)) :
    v.Adds place item (v.settled place item) := by
  rw [settled, dif_pos ⟨hplace, hparent, hfree true, hfree false⟩]
  exact ⟨rfl, rfl⟩

/-- The replies of a volume to requests about directories and about files that are written, and the
volume behind each. In all else the volume is as it would be if nothing could be added. -/
def answer : (request : Request) → Volume → request.Reply × Volume
  | .makeDir text, v =>
    if v.Taken text then (.error (.os ⟨.alreadyThere, none, none⟩), v)
    else
      match v.slot text with
      | some place => (.ok (), v.settled place (.directory true))
      | none => (.error (refusal text), v)
  | .write text content, v =>
    match v.reach text, v.slot text with
    | some place, _ =>
      match v.entry place with
      | some (.file ..) => (.ok (), v.settled place (.file content true))
      | _ => (.error (refusal text), v)
    | none, some place =>
      if v.entry place = none then (.ok (), v.settled place (.file content true))
      else (.error (refusal text), v)
    | none, none => (.error (refusal text), v)
  | request, v => v.sealed request

/-- A volume as a host. -/
@[reducible] def host : Host where
  State := Volume
  answer := answer
  quiet request v hquiet := by
    cases request with
    | launch => rfl
    | _ => first | rfl | simp [Topic.quiet] at hquiet

theorem answers_answer (v : Volume) (request : Request) :
    v.Answers request (answer request v).1 (answer request v).2 := by
  cases request with
  | makeDir text =>
    by_cases htaken : v.Taken text
    · simp only [answer, if_pos htaken]
      exact ⟨fun _ => ⟨rfl, _, rfl, rfl⟩, fun hfree => absurd htaken hfree⟩
    · refine ⟨fun h => absurd h htaken, fun _ => ?_⟩
      cases hslot : v.slot text with
      | none =>
        simp only [answer, if_neg htaken, hslot]
        exact .inl ⟨trivial, refused_refusal text⟩
      | some place =>
        obtain ⟨dir, name, hdirectory, rfl⟩ := exists_of_slot hslot
        have hfree : ∀ searchable, v.entry (dir ++ [name]) ≠ some (.directory searchable) :=
          fun searchable hentry => htaken (.inr ⟨_, hslot, by simp [hentry]⟩)
        simp only [answer, if_neg htaken, hslot]
        exact .inr ⟨_, true, rfl, trivial,
          adds_settled (by simp) (by rwa [List.dropLast_concat]) hfree⟩
  | write => trivial
  | _ => exact v.answers_sealed _

/-- What holds after a routine on any host holds after it on this one. -/
theorem After.play {α : Type} {Q : α → Volume → Prop} {r : Routine α} (h : After Q r v) :
    Q (host.play r v).value (host.play r v).state := by
  induction r generalizing v with
  | done x => exact h
  | ask request next ih => exact ih _ (h _ _ (v.answers_answer request))

namespace Plain

theorem cases (h : v.Plain) (place : Place) : v.entry place = none ∨
    v.entry place = some (.directory true) ∨
      ∃ content readable, v.entry place = some (.file content readable) := by
  rcases hentry : v.entry place with _ | searchable | ⟨content, readable⟩ | target
  · exact .inl rfl
  · exact .inr (.inl (hentry ▸ h.directory hentry))
  · exact .inr (.inr ⟨content, readable, rfl⟩)
  · exact absurd hentry (h.linkless place target)

/-- What is plain stays plain where a directory or a file is added or replaced. -/
theorem of_update (h : v.Plain) (hitem : ∀ target, item ≠ .link target)
    (hsearchable : item ≠ .directory false)
    (hentry : v'.entry = Function.update v.entry place (some item)) : v'.Plain := by
  constructor
  · intro other target
    rw [hentry]
    by_cases heq : other = place
    · subst heq
      simpa using hitem target
    · rw [Function.update_of_ne heq]
      exact h.linkless other target
  · intro other
    rw [hentry]
    by_cases heq : other = place
    · subst heq
      simpa using hsearchable
    · rw [Function.update_of_ne heq]
      exact h.searchable other

theorem settled (h : v.Plain) (hitem : ∀ target, item ≠ .link target)
    (hsearchable : item ≠ .directory false) (place : Place) : (v.settled place item).Plain := by
  rw [Volume.settled]
  split
  · exact h.of_update hitem hsearchable rfl
  · exact h

theorem without (h : v.Plain) (gone : Place) : (v.without gone).Plain := by
  constructor
  · intro place target
    simp only [Volume.without, removed]
    split
    · simp
    · exact h.linkless place target
  · intro place
    simp only [Volume.without, removed]
    split
    · simp
    · exact h.searchable place

/-- **A plain volume stays plain.** -/
theorem answer (h : v.Plain) (request : Request) : (Volume.answer request v).2.Plain := by
  cases request with
  | makeDir text =>
    simp only [Volume.answer]
    split
    · exact h
    · split
      · exact h.settled (by simp) (by simp) _
      · exact h
  | write text content =>
    simp only [Volume.answer]
    split
    · split
      · exact h.settled (by simp) (by simp) _
      · exact h
    · split
      · exact h.settled (by simp) (by simp) _
      · exact h
    · exact h
  | discard text =>
    simp only [Volume.answer, sealed, discarded]
    split
    · exact h
    · split
      · exact h.without _
      · exact h
  | _ => exact h

theorem play {α : Type} (h : v.Plain) (r : Routine α) : (host.play r v).state.Plain := by
  induction r generalizing v with
  | done x => exact h
  | ask request next ih => exact ih _ (h.answer request)

end Plain

/-! ### Making directories -/

/-- A path is followed from a directory, and no file stands on its way. -/
def Clear (v : Volume) (p : Path) : Prop :=
  v.entry (start p v.workDir) = some (.directory true) ∧
    ∀ q ≤ p, ∀ content readable, v.entry (v.aim q) ≠ some (.file content readable)

theorem Clear.of_le (h : v.Clear p) (hle : q ≤ p) : v.Clear q := by
  refine ⟨?_, fun r hr => h.2 r (hr.trans hle)⟩
  rw [start, Path.isAbsolute, hle.1]
  exact h.1

/-- Directories do not stand in the way. -/
theorem Clear.of_way (h : v.Clear p) (hway : MakesWay q v v') : v'.Clear p := by
  refine ⟨?_, fun r hr content readable => ?_⟩
  · rw [hway.workDir]
    exact hway.extends.searchable h.1
  · rw [aim_of_workDir_eq hway.workDir]
    rcases hway.entry (v.aim r) with hsame | ⟨-, ⟨searchable, hdirectory⟩, -⟩
    · rw [hsame]
      exact h.2 r hr content readable
    · simp [hdirectory]

namespace Plain

/-- What is there is a directory, if no file stands on the way. -/
theorem isDirectory_of_taken (h : v.Plain) (hp : p.Proper) (hclear : v.Clear p)
    (htaken : v.Taken p.text) : v.IsDirectory p := by
  obtain ⟨hfits, place, hfind⟩ : Fits p.text ∧ ∃ place, v.find p = some place := by
    rcases htaken with hreach | ⟨place, hslot, hthere⟩
    · rw [reach_text hp] at hreach
      split at hreach
      · next hfits => exact ⟨hfits, Option.ne_none_iff_exists'.1 hreach⟩
      · simp at hreach
    · obtain ⟨hfits, hspot⟩ := slot_text hp hslot
      exact ⟨hfits, place, find_of_spot hp hspot hthere (h.linkAt place)⟩
  obtain rfl := h.find_eq hp hfind
  have hthere : v.entry (v.aim p) ≠ none := by
    by_cases hparts : p.parts = []
    · rw [aim, hparts, List.foldl_nil, hclear.1]
      simp
    · obtain ⟨parent, name, rfl, -⟩ := hp.exists_below hparts
      obtain ⟨dir, -, henter⟩ := h.find_below_iff.1 hfind
      exact entry_ne_none_of_enter henter
  rcases h.cases (v.aim p) with habsent | hdirectory | ⟨content, readable, hfile⟩
  · exact absurd habsent hthere
  · exact ⟨hfits, v.aim p, true, hfind, hdirectory⟩
  · exact absurd hfile (hclear.2 p le_rfl content readable)

/-- Where the parent is there, the last name has its place. -/
theorem slot_of_parent (h : v.Plain) (hp : p.Proper) (hspelled : Spelled p) (hparts : p.parts ≠ [])
    (hparent : v.IsDirectory p.parent) (hfree : ¬ v.Taken p.text) :
    v.slot p.text = some (v.aim p) := by
  obtain ⟨parent, name, rfl, hname⟩ := hp.exists_below hparts
  rw [Path.parent_below] at hparent
  obtain ⟨-, dir, searchable, hfind, hdirectory⟩ := hparent
  have hdirectory := h.directory hdirectory
  obtain rfl := h.find_eq (hp.of_le (parent.le_below name)) hfind
  by_cases hup : name = ['.', '.']
  · -- the way upwards is there
    subst hup
    refine absurd (.inl ?_) hfree
    rw [reach_text hp, if_pos hspelled.fits, find_below_up hfind hdirectory]
    simp
  · refine slot_of_spot hp hspelled.fits ((spot_below parent hup).2
      ⟨_, hfind, hdirectory, (spelled_below.1 hspelled).2.2 hup, ?_⟩)
    rw [aim_below, onward, if_neg hup]

/-- **One attempt at making a directory** succeeds, unless its parent is missing. -/
theorem play_makeDirHere (h : v.Plain) (hp : p.Proper) (hclear : v.Clear p)
    (hspelled : Spelled p) : (host.play (Files.makeDirHere p) v).value = .ok () ∨
      (host.play (Files.makeDirHere p) v).value = .error (.os ⟨.noEntry, none, none⟩) ∧
        (host.play (Files.makeDirHere p) v).state = v ∧ p.parts ≠ [] ∧
        ¬ v.IsDirectory p.parent := by
  by_cases htaken : v.Taken p.text
  · have hdirectory := h.isDirectory_of_taken hp hclear htaken
    exact .inl (after_makeDirsWithin_of_directory 0 hp hdirectory).play.1
  have hparts : p.parts ≠ [] := fun hnil => by
    refine htaken (.inl ?_)
    rw [reach_text hp, if_pos hspelled.fits, Volume.find, hnil, walk_nil]
    simp
  by_cases hparent : v.IsDirectory p.parent
  · have hslot := h.slot_of_parent hp hspelled hparts hparent htaken
    have hanswer : Volume.answer (.makeDir p.text) v
        = (.ok (), v.settled (v.aim p) (.directory true)) := by
      simp only [Volume.answer, if_neg htaken, hslot]
    refine .inl ?_
    rw [Files.makeDirHere, Host.play_bind]
    simp only [Routine.request, Host.play, hanswer]
    rfl
  · have hslot : v.slot p.text = none := by
      by_contra hplace
      obtain ⟨place, hplace⟩ := Option.ne_none_iff_exists'.1 hplace
      exact hparent (isDirectory_parent_of_slot hp hplace)
    have hanswer : Volume.answer (.makeDir p.text) v
        = (.error (.os ⟨.noEntry, none, none⟩), v) := by
      simp only [Volume.answer, if_neg htaken, hslot, refusal, if_neg hspelled.fits.2]
    refine .inr ⟨?_, ?_, hparts, hparent⟩
    all_goals
      rw [Files.makeDirHere, Host.play_bind]
      simp only [Routine.request, Host.play, hanswer]
      rfl

theorem play_makeDirsWithin {fuel : Nat} (h : v.Plain) (hp : p.Proper) (hclear : v.Clear p)
    (hspelled : Spelled p) (hfuel : p.parts.length ≤ fuel) :
    (host.play (Files.makeDirsWithin fuel p) v).value = .ok () := by
  induction fuel generalizing p with
  | zero =>
    refine (h.play_makeDirHere hp hclear hspelled).resolve_right fun hmissing => ?_
    exact hmissing.2.2.1 (List.length_eq_zero_iff.1 (Nat.le_zero.1 hfuel))
  | succ fuel ih =>
    rw [Files.makeDirsWithin, Host.play_bind, Played.value_behind]
    rcases h.play_makeDirHere hp hclear hspelled with hok | ⟨herror, hsame, hparts, hmissing⟩
    · rw [hok]
      rfl
    rw [herror, hsame]
    simp only [hparts, ne_eq, not_false_eq_true, and_self, if_true]
    have hle := p.parent_le
    have hlength : p.parent.parts.length ≤ fuel := by
      simp only [Path.parent, List.length_dropLast]
      omega
    have hok := ih hp.parent (hclear.of_le hle) (hspelled.of_le hle) hlength
    have hmade := (after_makeDirsWithin (v := v) fuel hp.parent).play
    rw [Host.play_bind, Played.value_behind, hok]
    -- the parent is there now, so that the second attempt succeeds
    refine ((h.play _).play_makeDirHere hp (hclear.of_way hmade.way) hspelled).resolve_right ?_
    exact fun hmissing => hmissing.2.2.2 (hmade.directory hok)

/-- **Making a directory, with all that are missing above it.** -/
theorem play_makeDirs_ok_iff (h : v.Plain) (hp : p.Proper) :
    (host.play (Files.makeDirs p) v).value = .ok () ↔ v.Clear p ∧ Spelled p := by
  constructor
  · intro hok
    have hmade := (after_makeDirs (v := v) hp).play
    obtain ⟨hspelled, hway⟩ := ((h.play _).isDirectory_iff hp).1 (hmade.directory hok)
    simp only [aim_of_workDir_eq hmade.way.workDir] at hway
    refine ⟨⟨?_, fun q hq content readable hfile => ?_⟩, hspelled⟩
    · have hstart := hway ⟨p.anchor, []⟩ (base_le p)
      rw [aim_base] at hstart
      rcases hmade.way.entry (start p v.workDir) with hsame | ⟨habsent, -⟩
      · rw [← hsame, hstart]
      · rcases hmade.way.rooted with hsame | hthere
        · rwa [hsame] at hstart
        · exact absurd habsent hthere
    · rcases hmade.way.entry (v.aim q) with hsame | ⟨habsent, -⟩
      · rw [hway q hq, hfile] at hsame
        simp at hsame
      · simp [hfile] at habsent
  · rintro ⟨hclear, hspelled⟩
    exact h.play_makeDirsWithin hp hclear hspelled le_rfl

/-- Directories are made on the way, and nothing else. -/
theorem entry_play_makeDirs (h : v.Plain) (hp : p.Proper) (place : Place) :
    (host.play (Files.makeDirs p) v).state.entry place = v.entry place ∨
      v.entry place = none ∧ v.entry (start p v.workDir) ≠ none ∧
        (host.play (Files.makeDirs p) v).state.entry place = some (.directory true) ∧
        ∃ q ≤ p, v.aim q = place := by
  have hway := (after_makeDirs (v := v) hp).play.way
  have hplain := h.play (Files.makeDirs p)
  rcases hway.rooted with hsame | hthere
  · exact .inl (by rw [hsame])
  rcases hway.entry place with hsame | ⟨habsent, ⟨searchable, hdirectory⟩, q, hq, hfind⟩
  · exact .inl hsame
  · refine .inr ⟨habsent, hthere, hplain.directory hdirectory, q, hq, ?_⟩
    rw [← aim_of_workDir_eq hway.workDir]
    exact (hplain.find_eq (hp.of_le hq) hfind).symm

end Plain

end Volume

end Oneshot
