import Mathlib.Data.List.Induction
import Oneshot.Proofs.Host.Paths
import Oneshot.Proofs.Host.Trace
import Oneshot.Virtual.Tree

/-!
# Volumes

The statements about what a run leaves behind need a host with links, with `..` in paths, and with
permissions. A volume is what stands where: at each place at most one item, and whatever stands
somewhere stands in a directory. A path is followed from the root or from the working directory,
through links, as long as every directory on the way may be searched and no limit of the system is
exceeded (`Volume.find`); for the last name of a path that is made, renamed or removed, a link is
not followed (`Volume.spot`).

A host may refuse a request for a cause of its own, such as a full or write-protected medium; a
request that changes something then changes nothing (`Volume.Answers`). What can be read from a
volume depends on the volume alone. A working directory that has been removed is one whose name no
path can spell.

* `Volume.walk_append`: a way in two parts.
* `Volume.Extends`: whatever stood there still stands there. What could be found is found at the
  same place (`Extends.find`, `Extends.spot`).
* `Volume.put`, `Volume.move`, `Volume.without`: the changes that the requests make.
* `Volume.Answers`: the requests as steps.
* `Volume.sealed`: the answers of a volume to which nothing can be added. No request is left without
  an answer (`Volume.exists_answers`).
* `Volume.After`: what holds after a routine, however its requests are answered.
-/

namespace Oneshot

open Virtual (Place)

/-- What stands at a place. -/
inductive Item where
  | directory (searchable : Bool)
  | file (content : Bytes) (readable : Bool)
  | link (target : Path)
deriving DecidableEq, Repr

/-- What stands where, and the place that relative paths are followed from. -/
@[ext] structure Volume where
  entry : Place → Option Item
  workDir : Place
  parent_directory : ∀ {place : Place} {name : Text}, entry (place ++ [name]) ≠ none →
    ∃ searchable, entry place = some (.directory searchable)

namespace Volume

variable {v v' v'' : Volume} {place place' src dst : Place} {item : Item} {name : Text}

/-- Whatever has something below it is a directory. -/
theorem directory_of_prefix (h : place <+: place') (hne : place ≠ place')
    (hentry : v.entry place' ≠ none) :
    ∃ searchable, v.entry place = some (.directory searchable) := by
  obtain ⟨rest, rfl⟩ := h
  induction rest using List.reverseRecOn with
  | nil => simp at hne
  | append_singleton rest name ih =>
    rw [← List.append_assoc] at hentry
    obtain ⟨searchable, hparent⟩ := v.parent_directory hentry
    by_cases hrest : rest = []
    · subst hrest
      exact ⟨searchable, by simpa using hparent⟩
    · exact ih (by simpa using hrest) (by simp [hparent])

/-- Nothing lies below a place at which nothing stands. -/
theorem entry_eq_none (hplace : v.entry place = none) (h : place <+: place') :
    v.entry place' = none := by
  by_contra hentry
  by_cases hne : place = place'
  · exact hentry (hne ▸ hplace)
  · obtain ⟨searchable, hdirectory⟩ := directory_of_prefix h hne hentry
    simp [hplace] at hdirectory

/-- A volume with nothing in it. -/
def bare : Volume where
  entry := Function.update (fun _ => none) [] (some (.directory true))
  workDir := []
  parent_directory h := absurd (Function.update_of_ne (by simp) _ _) h

/-! ### Following a path -/

/-- The place of a name in a directory, if something stands there. -/
def enter (v : Volume) (place : Place) (name : Text) : Option Place :=
  if v.entry place ≠ some (.directory true) then none
  else if name = ['.'] then some place
  else if name = ['.', '.'] then some place.dropLast
  else if Virtual.Tree.nameLimit < (Utf8.encode name).length ∨ v.entry (place ++ [name]) = none then
    none
  else some (place ++ [name])

/-- Where the link at a place leads, if one stands there. -/
def linkAt (v : Volume) (place : Place) : Option Path :=
  match v.entry place with
  | some (.link target) => some target
  | _ => none

/-- The place from which a path is followed that stands in the directory at `place`. -/
def start (p : Path) (place : Place) : Place :=
  if p.isAbsolute then [] else place

/-- Goes on from the directory at `place`. A link on the way is left to `onLink`, with what is still
to go behind it. The result is the place at the end of the way, and how many links may still be
followed. -/
def walkWith (v : Volume) (links : Nat) (onLink : Place → List Text → Option (Nat × Place)) :
    Place → List Text → Option (Nat × Place)
  | place, [] => some (links, place)
  | place, name :: rest =>
    match v.enter place name with
    | none => none
    | some next =>
      match v.linkAt next with
      | some target => onLink (start target place) (target.parts ++ rest)
      | none => v.walkWith links onLink next rest

/-- Goes on from a directory, following at most `links` links. -/
def walk (v : Volume) : (links : Nat) → Place → List Text → Option (Nat × Place)
  | 0 => v.walkWith 0 fun _ _ => none
  | links + 1 => v.walkWith (links + 1) (v.walk links)

/-- The place to which a path leads. -/
def find (v : Volume) (p : Path) : Option Place :=
  (v.walk Virtual.Tree.linkLimit (start p v.workDir) p.parts).map Prod.snd

/-- The place that the last name of a path has, whether something stands there or not. -/
def spot (v : Volume) (p : Path) : Option Place :=
  if p.parts = [] ∨ p.name = ['.', '.'] then none
  else
    match v.find p.parent with
    | none => none
    | some place =>
      if v.entry place = some (.directory true) ∧
          (Utf8.encode p.name).length ≤ Virtual.Tree.nameLimit then some (place ++ [p.name])
      else none

/-! ### Ways -/

@[simp] theorem walk_nil (links : Nat) : v.walk links place [] = some (links, place) := by
  cases links <;> rfl

theorem walk_stuck (h : v.enter place name = none) (links : Nat) (rest : List Text) :
    v.walk links place (name :: rest) = none := by
  cases links <;> simp [walk, walkWith, h]

theorem walk_step {next : Place} (h : v.enter place name = some next) (hlink : v.linkAt next = none)
    (links : Nat) (rest : List Text) :
    v.walk links place (name :: rest) = v.walk links next rest := by
  cases links <;> simp [walk, walkWith, h, hlink]

theorem walk_link_zero {next : Place} {target : Path} (h : v.enter place name = some next)
    (hlink : v.linkAt next = some target) (rest : List Text) :
    v.walk 0 place (name :: rest) = none := by
  simp [walk, walkWith, h, hlink]

theorem walk_link {next : Place} {target : Path} (h : v.enter place name = some next)
    (hlink : v.linkAt next = some target) (links : Nat) (rest : List Text) :
    v.walk (links + 1) place (name :: rest)
      = v.walk links (start target place) (target.parts ++ rest) := by
  simp [walk, walkWith, h, hlink]

/-- What holds of all ways: of one that is at its end, of one that does not go on, and of one that
goes on with a step or behind a link. -/
theorem way_induction (v : Volume) {motive : Nat → Place → List Text → Prop}
    (nil : ∀ links place, motive links place [])
    (stuck : ∀ links place name rest, v.enter place name = none →
      motive links place (name :: rest))
    (step : ∀ links place name rest next, v.enter place name = some next →
      v.linkAt next = none → motive links next rest → motive links place (name :: rest))
    (loop : ∀ place name rest next target, v.enter place name = some next →
      v.linkAt next = some target → motive 0 place (name :: rest))
    (link : ∀ links place name rest next target, v.enter place name = some next →
      v.linkAt next = some target → motive links (start target place) (target.parts ++ rest) →
      motive (links + 1) place (name :: rest)) (links : Nat) (place : Place) (names : List Text) :
    motive links place names := by
  induction links generalizing place names with
  | zero =>
    induction names generalizing place with
    | nil => exact nil 0 place
    | cons name rest ih =>
      cases hnext : v.enter place name with
      | none => exact stuck 0 place name rest hnext
      | some next =>
        cases hlink : v.linkAt next with
        | none => exact step 0 place name rest next hnext hlink (ih next)
        | some target => exact loop place name rest next target hnext hlink
  | succ links ihlinks =>
    induction names generalizing place with
    | nil => exact nil (links + 1) place
    | cons name rest ih =>
      cases hnext : v.enter place name with
      | none => exact stuck (links + 1) place name rest hnext
      | some next =>
        cases hlink : v.linkAt next with
        | none => exact step (links + 1) place name rest next hnext hlink (ih next)
        | some target => exact link links place name rest next target hnext hlink (ihlinks _ _)

/-- **A way in two parts.** -/
theorem walk_append (links : Nat) (place : Place) (names rest : List Text) :
    v.walk links place (names ++ rest) =
      (v.walk links place names).bind fun reached => v.walk reached.1 reached.2 rest := by
  induction links, place, names using v.way_induction with
  | nil links place => simp
  | stuck links place name names h => simp [walk_stuck h]
  | step links place name names next h hlink ih => simpa [walk_step h hlink] using ih
  | loop place name names next target h hlink => simp [walk_link_zero h hlink]
  | link links place name names next target h hlink ih =>
    simpa [walk_link h hlink, List.append_assoc] using ih

/-- A name in a directory to which a path leads. -/
theorem find_below {p : Path} {place next : Place} (hp : v.find p = some place)
    (henter : v.enter place name = some next) (hlink : v.linkAt next = none) :
    v.find (p.below name) = some next := by
  obtain ⟨⟨links, _⟩, hwalk, rfl⟩ := Option.map_eq_some_iff.1 hp
  have hstart : start (p.below name) v.workDir = start p v.workDir := rfl
  rw [find, hstart, Path.below, walk_append, hwalk]
  simp [walk_step henter hlink]

/-- A path with a last name leads into the directory to which the rest of it leads, and from there
to what has the name, unless that is a link. -/
theorem exists_of_find_below {p : Path} {next : Place} (h : v.find (p.below name) = some next) :
    ∃ place found, v.find p = some place ∧ v.enter place name = some found ∧
      (v.linkAt found = none → next = found) := by
  obtain ⟨⟨left, _⟩, hwalk, rfl⟩ := Option.map_eq_some_iff.1 h
  have hstart : start (p.below name) v.workDir = start p v.workDir := rfl
  rw [hstart, Path.below, walk_append] at hwalk
  obtain ⟨⟨links, place⟩, hfirst, hlast⟩ := Option.bind_eq_some_iff.1 hwalk
  cases henter : v.enter place name with
  | none => simp [walk_stuck henter] at hlast
  | some found =>
    refine ⟨place, found, by simp [find, hfirst], henter, fun hlink => ?_⟩
    rw [walk_step henter hlink, walk_nil] at hlast
    exact (Prod.ext_iff.1 (Option.some.inj hlast)).2.symm

/-! ### Names in a directory -/

/-- The names that lead down. -/
def IsStep (name : Text) : Prop :=
  name ≠ ['.'] ∧ name ≠ ['.', '.']

theorem enter_eq_some_iff (hname : IsStep name) {next : Place} : v.enter place name = some next ↔
    v.entry place = some (.directory true) ∧
      (Utf8.encode name).length ≤ Virtual.Tree.nameLimit ∧ v.entry (place ++ [name]) ≠ none ∧
      next = place ++ [name] := by
  rw [enter, if_neg hname.1, if_neg hname.2]
  constructor
  · intro h
    split at h
    · simp at h
    next hdirectory =>
    split at h
    · simp at h
    next hthere =>
    rw [not_or, not_lt] at hthere
    exact ⟨not_not.1 hdirectory, hthere.1, hthere.2, (Option.some.inj h).symm⟩
  · rintro ⟨hdirectory, hlength, hentry, rfl⟩
    rw [if_neg (not_not.2 hdirectory), if_neg (not_or.2 ⟨hlength.not_gt, hentry⟩)]

/-- The way upwards from a directory is always there. -/
theorem directory_dropLast {searchable : Bool} (h : v.entry place = some (.directory searchable)) :
    ∃ searchable', v.entry place.dropLast = some (.directory searchable') := by
  rcases List.eq_nil_or_concat place with rfl | ⟨parent, last, rfl⟩
  · exact ⟨searchable, h⟩
  · rw [List.concat_eq_append] at h ⊢
    have hthere : v.entry (parent ++ [last]) ≠ none := by simp [h]
    rw [List.dropLast_concat]
    exact v.parent_directory hthere

theorem find_below_up {p : Path} (hp : v.find p = some place)
    (hdirectory : v.entry place = some (.directory true)) :
    v.find (p.below ['.', '.']) = some place.dropLast := by
  obtain ⟨searchable, hupper⟩ := directory_dropLast hdirectory
  exact find_below hp (by simp [enter, hdirectory]) (by simp [linkAt, hupper])

/-- A name leads only to where something stands. -/
theorem entry_ne_none_of_enter {next : Place} (h : v.enter place name = some next) :
    v.entry next ≠ none := by
  rw [enter] at h
  split at h
  · simp at h
  next hdirectory =>
  rw [not_not] at hdirectory
  split at h
  · obtain rfl := Option.some.inj h
    simp [hdirectory]
  split at h
  · obtain rfl := Option.some.inj h
    obtain ⟨searchable, hparent⟩ := directory_dropLast hdirectory
    simp [hparent]
  split at h
  · simp at h
  next hthere =>
  obtain rfl := Option.some.inj h
  exact (not_or.1 hthere).2

theorem spot_below (p : Path) (hname : name ≠ ['.', '.']) {next : Place} :
    v.spot (p.below name) = some next ↔ ∃ place, v.find p = some place ∧
      v.entry place = some (.directory true) ∧
      (Utf8.encode name).length ≤ Virtual.Tree.nameLimit ∧ next = place ++ [name] := by
  have hproceeds : ¬ ((p.below name).parts = [] ∨ name = ['.', '.']) :=
    not_or.2 ⟨Path.parts_below_ne_nil p name, hname⟩
  rw [spot, Path.name_below, Path.parent_below, if_neg hproceeds]
  cases hfind : v.find p with
  | none => simp
  | some place =>
    simp only [Option.some.injEq, exists_eq_left']
    split
    · next h => simp [h.1, h.2, eq_comm]
    · next h =>
      simp only [reduceCtorEq, false_iff, not_and]
      exact fun hdirectory hlength => absurd ⟨hdirectory, hlength⟩ h

/-- A path that has a spot has a last name, which leads down. -/
theorem exists_of_spot {p : Path} (hp : p.Proper) (h : v.spot p = some place) :
    ∃ (parent : Path) (name : Text), p = parent.below name ∧ IsStep name := by
  have hparts : p.parts ≠ [] ∧ p.name ≠ ['.', '.'] := by
    rw [← not_or]
    intro hnot
    rw [spot, if_pos hnot] at h
    simp at h
  obtain ⟨parent, name, rfl, hname⟩ := hp.exists_below hparts.1
  rw [Path.name_below] at hparts
  exact ⟨parent, name, rfl, hname, hparts.2⟩

/-- What stands at the spot of a path is what the path leads to, unless it is a link. -/
theorem find_of_spot {p : Path} (hp : p.Proper) (h : v.spot p = some place)
    (hentry : v.entry place ≠ none) (hlink : v.linkAt place = none) : v.find p = some place := by
  obtain ⟨parent, name, rfl, hname⟩ := exists_of_spot hp h
  obtain ⟨dir, hdir, hdirectory, hlength, rfl⟩ := (spot_below parent hname.2).1 h
  exact find_below hdir ((enter_eq_some_iff hname).2 ⟨hdirectory, hlength, hentry, rfl⟩) hlink

/-- What is above a path that leads somewhere leads to a directory that can be searched. -/
theorem exists_of_find_of_le {p q : Path} (hfind : v.find q = some place) (hle : p ≤ q)
    (hne : p ≠ q) : ∃ dir, v.find p = some dir ∧ v.entry dir = some (.directory true) := by
  obtain ⟨anchor, parts⟩ := p
  obtain ⟨anchor', parts'⟩ := q
  obtain rfl : anchor = anchor' := hle.1
  obtain ⟨rest, rfl⟩ := hle.2
  obtain ⟨reached, hwalk, rfl⟩ := Option.map_eq_some_iff.1 hfind
  rw [walk_append] at hwalk
  obtain ⟨⟨links, dir⟩, hfirst, hlast⟩ := Option.bind_eq_some_iff.1 hwalk
  refine ⟨dir, Option.map_eq_some_iff.2 ⟨_, hfirst, rfl⟩, ?_⟩
  cases rest with
  | nil => simp at hne
  | cons name rest =>
    by_contra hnot
    rw [walk_stuck (by rw [enter, if_pos hnot])] at hlast
    simp at hlast

/-- A path that leads to something is followed from a place at which something stands. -/
theorem entry_start_ne_none {p : Path} (hfind : v.find p = some place)
    (hentry : v.entry place ≠ none) : v.entry (start p v.workDir) ≠ none := by
  have hstart : v.find ⟨p.anchor, []⟩ = some (start p v.workDir) := by
    rw [find, walk_nil]
    rfl
  by_cases hparts : p.parts = []
  · obtain ⟨anchor, parts⟩ := p
    obtain rfl : parts = [] := hparts
    rwa [Option.some.inj (hstart.symm.trans hfind)]
  · obtain ⟨dir, hdir, hdirectory⟩ := exists_of_find_of_le (p := ⟨p.anchor, []⟩) hfind
      ⟨rfl, List.nil_prefix⟩ fun heq => hparts (by rw [← heq])
    obtain rfl := Option.some.inj (hstart.symm.trans hdir)
    simp [hdirectory]

/-! ### Growing volumes -/

/-- Whatever stands on the one volume stands on the other. -/
instance : LE Volume :=
  ⟨fun v v' => v'.workDir = v.workDir ∧
    ∀ place item, v.entry place = some item → v'.entry place = some item⟩

instance : Preorder Volume where
  le_refl _ := ⟨rfl, fun _ _ h => h⟩
  le_trans _ _ _ h h' :=
    ⟨h'.1.trans h.1, fun place item hitem => h'.2 place item (h.2 place item hitem)⟩

/-- Whatever stood there still stands there, except that a directory may have become searchable. -/
structure Extends (v v' : Volume) : Prop where
  workDir : v'.workDir = v.workDir
  entry : ∀ place item, v.entry place = some item → v'.entry place = some item ∨
    item = .directory false ∧ v'.entry place = some (.directory true)

theorem extends_of_le (h : v ≤ v') : v.Extends v' :=
  ⟨h.1, fun place item hitem => .inl (h.2 place item hitem)⟩

namespace Extends

theorem refl (v : Volume) : v.Extends v :=
  ⟨rfl, fun _ _ h => .inl h⟩

theorem searchable (h : v.Extends v') (hplace : v.entry place = some (.directory true)) :
    v'.entry place = some (.directory true) := by
  rcases h.entry place _ hplace with hsame | ⟨hfalse, -⟩
  · exact hsame
  · simp at hfalse

theorem entry_ne_none (h : v.Extends v') (hplace : v.entry place ≠ none) :
    v'.entry place ≠ none := by
  obtain ⟨item, hitem⟩ := Option.ne_none_iff_exists'.1 hplace
  rcases h.entry place item hitem with hsame | ⟨-, hopened⟩
  · simp [hsame]
  · simp [hopened]

theorem linkAt (h : v.Extends v') (hplace : v.entry place ≠ none) :
    v'.linkAt place = v.linkAt place := by
  obtain ⟨item, hitem⟩ := Option.ne_none_iff_exists'.1 hplace
  rcases h.entry place item hitem with hsame | ⟨rfl, hopened⟩
  · simp [Volume.linkAt, hitem, hsame]
  · simp [Volume.linkAt, hitem, hopened]

theorem enter (h : v.Extends v') {next : Place} (hnext : v.enter place name = some next) :
    v'.enter place name = some next := by
  unfold Volume.enter at hnext ⊢
  split at hnext
  · simp at hnext
  next hdirectory =>
  rw [if_neg (not_not.2 (h.searchable (not_not.1 hdirectory)))]
  by_cases hdot : name = ['.']
  · rwa [if_pos hdot] at hnext ⊢
  by_cases hdots : name = ['.', '.']
  · rwa [if_neg hdot, if_pos hdots] at hnext ⊢
  rw [if_neg hdot, if_neg hdots] at hnext ⊢
  split at hnext
  · simp at hnext
  next hthere =>
  rw [not_or] at hthere
  rwa [if_neg (not_or.2 ⟨hthere.1, h.entry_ne_none hthere.2⟩)]

/-- What could be found is found at the same place. -/
theorem walk (h : v.Extends v') (links : Nat) (place : Place) (names : List Text)
    {reached : Nat × Place} (hwalk : v.walk links place names = some reached) :
    v'.walk links place names = some reached := by
  induction links, place, names using v.way_induction with
  | nil links place => simpa using hwalk
  | stuck links place name names hnext => simp [walk_stuck hnext] at hwalk
  | step links place name names next hnext hlink ih =>
    rw [walk_step hnext hlink] at hwalk
    rw [← h.linkAt (entry_ne_none_of_enter hnext)] at hlink
    rw [walk_step (h.enter hnext) hlink]
    exact ih hwalk
  | loop place name names next target hnext hlink => simp [walk_link_zero hnext hlink] at hwalk
  | link links place name names next target hnext hlink ih =>
    rw [walk_link hnext hlink] at hwalk
    rw [← h.linkAt (entry_ne_none_of_enter hnext)] at hlink
    rw [walk_link (h.enter hnext) hlink]
    exact ih hwalk

theorem find (h : v.Extends v') {p : Path} (hfind : v.find p = some place) :
    v'.find p = some place := by
  obtain ⟨reached, hwalk, rfl⟩ := Option.map_eq_some_iff.1 hfind
  rw [Volume.find, h.workDir, h.walk _ _ _ hwalk]
  rfl

theorem spot (h : v.Extends v') {p : Path} (hspot : v.spot p = some place) :
    v'.spot p = some place := by
  rw [Volume.spot] at hspot ⊢
  split at hspot
  · simp at hspot
  next hproceeds =>
  rw [if_neg hproceeds]
  cases hparent : v.find p.parent with
  | none => simp [hparent] at hspot
  | some dir =>
    rw [hparent] at hspot
    rw [h.find hparent]
    simp only at hspot ⊢
    split at hspot
    · next hdir => rwa [if_pos ⟨h.searchable hdir.1, hdir.2⟩]
    · simp at hspot

end Extends

/-! ### Changes -/

/-- The volume with something new in a directory. -/
def put (v : Volume) (place : Place) (name : Text) (item : Item)
    (hdir : ∃ searchable, v.entry place = some (.directory searchable))
    (habsent : v.entry (place ++ [name]) = none) : Volume where
  entry := Function.update v.entry (place ++ [name]) (some item)
  workDir := v.workDir
  parent_directory := by
    intro dir last hentry
    have hdir_ne : dir ≠ place ++ [name] := by
      rintro rfl
      have hbelow : v.entry (place ++ [name] ++ [last]) = none :=
        entry_eq_none habsent (List.prefix_append _ _)
      rw [Function.update_of_ne (by simp), hbelow] at hentry
      exact hentry rfl
    rw [Function.update_of_ne hdir_ne]
    by_cases hnew : dir ++ [last] = place ++ [name]
    · rwa [(List.append_inj' hnew rfl).1]
    · rw [Function.update_of_ne hnew] at hentry
      exact v.parent_directory hentry

/-- What stands at a place once `src` has been moved to `dst`. -/
def moved (v : Volume) (src dst place : Place) : Option Item :=
  if dst <+: place then v.entry (src ++ place.drop dst.length)
  else if src <+: place then none
  else v.entry place

/-- What stands at a place once `gone` has been removed with all that it holds. -/
def removed (v : Volume) (gone place : Place) : Option Item :=
  if gone <+: place then none else v.entry place

/-- The volume after a move. -/
def move (v : Volume) (src dir : Place) (name : Text)
    (hdir : ∃ searchable, v.entry dir = some (.directory searchable))
    (hsrc : ¬ src <+: dir ++ [name]) : Volume where
  entry := v.moved src (dir ++ [name])
  workDir := v.workDir
  parent_directory := by
    intro place last hentry
    by_cases hwithin : dir ++ [name] <+: place
    · -- within what has been moved, it is as it was there
      have hlast := hwithin.trans (List.prefix_append place [last])
      rw [moved, if_pos hlast, List.drop_append_of_le_length hwithin.length_le,
        ← List.append_assoc] at hentry
      rw [moved, if_pos hwithin]
      exact v.parent_directory hentry
    rw [moved, if_neg hwithin]
    by_cases hnew : dir ++ [name] <+: place ++ [last]
    · -- what has been moved stands in its new directory
      obtain heq | h := List.prefix_concat_iff.1 hnew
      · obtain rfl := (List.append_inj' heq rfl).1
        rwa [if_neg fun h => hsrc (h.trans (List.prefix_append _ _))]
      · exact absurd h hwithin
    · rw [moved, if_neg hnew] at hentry
      split at hentry
      · simp at hentry
      next hkept =>
      rw [if_neg fun h => hkept (h.trans (List.prefix_append _ _))]
      exact v.parent_directory hentry

/-- The volume without a place and all that lies below it. -/
def without (v : Volume) (gone : Place) : Volume where
  entry := v.removed gone
  workDir := v.workDir
  parent_directory := by
    intro place last hentry
    rw [removed] at hentry
    split at hentry
    · simp at hentry
    next hkept =>
    rw [removed, if_neg fun h => hkept (h.trans (List.prefix_append _ _))]
    exact v.parent_directory hentry

/-! ### Requests -/

/-- Whether the system takes a path text at all. -/
def Fits (text : Text) : Prop :=
  (Utf8.encode text).length < Virtual.Tree.pathLimit ∧ '\x00' ∉ text

instance (text : Text) : Decidable (Fits text) :=
  inferInstanceAs (Decidable (_ ∧ _))

/-- What fits is no shorter than what is above it. -/
theorem Fits.of_le {p q : Path} (h : Fits q.text) (hle : p ≤ q) : Fits p.text := by
  by_cases hnil : p.anchor = [] ∧ p.parts = []
  · have htext : p.text = ['.'] := by simp [Path.text, hnil.1, hnil.2]
    rw [htext]
    decide
  · obtain ⟨rest, hrest⟩ := Path.text_prefix hle hnil
    rw [Fits, ← hrest, Utf8.encode, List.flatMap_append, List.length_append, List.mem_append,
      not_or] at h
    exact ⟨(Nat.le_add_right _ _).trans_lt h.1, h.2.1⟩

/-- The place to which a path text leads. -/
def reach (v : Volume) (text : Text) : Option Place :=
  if Fits text then v.find (Path.ofText text) else none

/-- The place that the last name of a path text has. -/
def slot (v : Volume) (text : Text) : Option Place :=
  if Fits text then v.spot (Path.ofText text) else none

/-- The last name of a path that has a place stands in a directory that can be searched. -/
theorem exists_of_slot {text : Text} (h : v.slot text = some place) :
    ∃ dir name, v.entry dir = some (.directory true) ∧ place = dir ++ [name] := by
  rw [slot] at h
  split at h
  · rw [spot] at h
    split at h
    · simp at h
    split at h
    · simp at h
    next dir hdir =>
    split at h
    · next hdirectory => exact ⟨dir, _, hdirectory.1, (Option.some.inj h).symm⟩
    · simp at h
  · simp at h

/-- What stands where a path text leads. -/
def lookUp (v : Volume) (text : Text) : Option Item :=
  (v.reach text).bind v.entry

/-- Nothing can be made at a path text, because something stands there. -/
def Taken (v : Volume) (text : Text) : Prop :=
  v.reach text ≠ none ∨ ∃ place, v.slot text = some place ∧ v.entry place ≠ none

/-- A place to which a directory can be moved. -/
def Vacant (v : Volume) (place : Place) : Prop :=
  v.entry place = none ∨
    (∃ searchable, v.entry place = some (.directory searchable)) ∧
      ∀ name, v.entry (place ++ [name]) = none

/-- One item has been added, and nothing else has changed. -/
def Adds (v : Volume) (place : Place) (item : Item) (v' : Volume) : Prop :=
  v'.workDir = v.workDir ∧ v'.entry = Function.update v.entry place (some item)

/-- Nothing is lost by an addition. -/
theorem Adds.extends (h : v.Adds place item v') (habsent : v.entry place = none) :
    v.Extends v' where
  workDir := h.1
  entry other old hold := by
    refine .inl ?_
    rw [h.2, Function.update_of_ne fun heq => ?_, hold]
    rw [heq, habsent] at hold
    simp at hold

/-- The reply to a request about a text that is not carried out. -/
def Refused {α : Type} (text : Text) (reply : Except Refusal α) : Prop :=
  if '\x00' ∈ text then reply = .error .nulByte else ∃ e, reply = .error (.os e)

/-- One request as a step on a volume: the reply and the volume behind it. What a command leaves
behind, and a file that is overwritten, is left open. -/
def Answers (v : Volume) : (request : Request) → request.Reply → Volume → Prop
  | .kind text, reply, v' => v' = v ∧
    match v.lookUp text with
    | some (.directory _) => reply = .ok .directory
    | some _ => ∃ kind, reply = .ok kind ∧ kind ≠ .directory
    | none => Refused text reply
  | .read text, reply, v' => v' = v ∧
    match v.lookUp text with
    | some (.file content true) => reply = .ok content
    | _ => Refused text reply
  | .makeDir text, reply, v' =>
    (v.Taken text → v' = v ∧ ∃ e, reply = .error (.os e) ∧ e.cause = .alreadyThere) ∧
    (¬ v.Taken text → v' = v ∧ Refused text reply ∨
      ∃ place searchable, v.slot text = some place ∧ reply = .ok () ∧
        v.Adds place (.directory searchable) v')
  | .makeStaging parent label, reply, v' =>
    v' = v ∧ Refused (parent ++ label) reply ∨
    ∃ place name text, v.reach parent = some place ∧ '\x00' ∉ label ∧ label <+: name ∧
      v.entry (place ++ [name]) = none ∧ reply = .ok text ∧
      v.Adds (place ++ [name]) (.directory true) v' ∧
      v'.slot (Path.ofText text).text = some (place ++ [name])
  | .create text content, reply, v' =>
    v' = v ∧ Refused text reply ∨
    ∃ place written readable, v.slot text = some place ∧ v.entry place = none ∧
      v.Adds place (.file written readable) v' ∧
      -- writing may be given up before all is written
      (reply = .ok () ∧ written = content ∨ ∃ e, reply = .error (.os e))
  | .rename old new, reply, v' =>
    v' = v ∧ Refused (old ++ new) reply ∨
    ∃ src dst searchable, v.slot old = some src ∧ v.slot new = some dst ∧
      v.entry src = some (.directory searchable) ∧ v.Vacant dst ∧ ¬ src <+: dst ∧
      reply = .ok () ∧ v'.workDir = v.workDir ∧ v'.entry = v.moved src dst
  | .discard text, _, v' =>
    (∀ place searchable, v.slot text = some place → v.entry place = some (.directory searchable) →
      v'.workDir = v.workDir ∧ v'.entry = v.removed place) ∧
    ((∀ place searchable, v.slot text = some place →
      v.entry place ≠ some (.directory searchable)) → v' = v)
  | .write _ _, _, _ => True
  | .launch _, _, _ => True
  | _, _, v' => v' = v

/-- A text without NUL is refused by the system only. -/
theorem Refused.os {α : Type} {text : Text} {reply : Except Refusal α} (h : Refused text reply)
    (hnul : '\x00' ∉ text) : ∃ e, reply = .error (.os e) := by
  rwa [Refused, if_neg hnul] at h

theorem not_refused_ok {α : Type} {text : Text} {x : α} :
    ¬ Refused text (.ok x : Except Refusal α) := fun h => by
  rw [Refused] at h
  split at h <;> simp at h

/-! ### A sealed volume -/

/-- The refusal of a request about a text to which nothing can be done. -/
def refusal (text : Text) : Refusal :=
  if '\x00' ∈ text then .nulByte else .os ⟨.noEntry, none, none⟩

theorem refused_refusal {α : Type} (text : Text) :
    Refused text (.error (refusal text) : Except Refusal α) := by
  rw [Refused, refusal]
  split
  · rfl
  · exact ⟨_, rfl⟩

instance (v : Volume) (text : Text) : Decidable (v.Taken text) :=
  decidable_of_iff (v.reach text ≠ none ∨ ∃ place ∈ v.slot text, v.entry place ≠ none) Iff.rfl

/-- The volume behind the removal of a directory. -/
def discarded (v : Volume) (text : Text) : Volume :=
  match v.slot text with
  | none => v
  | some place =>
    match v.entry place with
    | some (.directory _) => v.without place
    | _ => v

/-- The answers of a volume to which nothing can be added, without an environment, and on which no
command is found. -/
def sealed (v : Volume) : (request : Request) → request.Reply × Volume
  | .kind text =>
    (match v.lookUp text with
      | some (.directory _) => .ok .directory
      | some (.file ..) => .ok .file
      | some (.link _) => .ok .other
      | none => .error (refusal text), v)
  | .read text =>
    (match v.lookUp text with
      | some (.file content true) => .ok content
      | _ => .error (refusal text), v)
  | .makeDir text =>
    (.error (if v.Taken text then .os ⟨.alreadyThere, none, none⟩ else refusal text), v)
  | .makeStaging parent label => (.error (refusal (parent ++ label)), v)
  | .create text _ => (.error (refusal text), v)
  | .rename old new => (.error (refusal (old ++ new)), v)
  | .discard text => ((), v.discarded text)
  | .write _ _ => (.ok (), v)
  | .launch _ => (.error (.os ⟨.noEntry, none, none⟩), v)
  | .isExecutable _ => (false, v)
  | .isReadable _ => (false, v)
  | .workDir => (.ok [], v)
  | .environment => ([], v)
  | .accountHome _ => (none, v)
  | .isTerminal _ => (false, v)
  | .validatorText _ => ([], v)
  | .print _ _ => ((), v)
  | .announce _ _ => ((), v)

theorem answers_sealed (v : Volume) (request : Request) :
    v.Answers request (v.sealed request).1 (v.sealed request).2 := by
  cases request with
  | kind text =>
    refine ⟨rfl, ?_⟩
    rcases hentry : v.lookUp text with _ | _ | _ | _ <;> simp only [sealed, hentry]
    · exact refused_refusal text
    · exact ⟨_, rfl, by decide⟩
    · exact ⟨_, rfl, by decide⟩
  | read text =>
    refine ⟨rfl, ?_⟩
    rcases hentry : v.lookUp text with _ | _ | ⟨content, _ | _⟩ | _ <;> simp only [sealed, hentry]
    all_goals exact refused_refusal text
  | makeDir text =>
    refine ⟨fun htaken => ⟨rfl, ?_⟩, fun hfree => .inl ⟨rfl, ?_⟩⟩
    · exact ⟨_, by rw [sealed, if_pos htaken], rfl⟩
    · rw [sealed, if_neg hfree]
      exact refused_refusal text
  | makeStaging | create | rename => exact .inl ⟨rfl, refused_refusal _⟩
  | discard text =>
    refine ⟨fun place searchable hslot hplace => ?_, fun hnone => ?_⟩
    · simp only [sealed, discarded, hslot, hplace]
      exact ⟨rfl, rfl⟩
    · simp only [sealed, discarded]
      split
      · rfl
      next place hslot =>
      split
      · next searchable hplace => exact absurd hplace (hnone place searchable hslot)
      · rfl
  | write | launch => trivial
  | isExecutable | isReadable | workDir | environment | accountHome | isTerminal | validatorText
  | print | announce => rfl

/-- No request is left unanswered. -/
theorem exists_answers (v : Volume) (request : Request) :
    ∃ reply v', v.Answers request reply v' :=
  ⟨_, _, v.answers_sealed request⟩

/-! ### Along a trace -/

/-- A trace leads from one volume to another. -/
def Along : Volume → Trace → Volume → Prop
  | v, [], v' => v' = v
  | v, e :: t, v' => ∃ between, v.Answers e.request e.reply between ∧ between.Along t v'

theorem along_append {t t' : Trace} :
    v.Along (t ++ t') v'' ↔ ∃ v', v.Along t v' ∧ v'.Along t' v'' := by
  induction t generalizing v with
  | nil => simp [Along]
  | cons e t ih =>
    simp only [List.cons_append, Along, ih]
    constructor
    · rintro ⟨between, hanswers, v', h, h'⟩
      exact ⟨v', ⟨between, hanswers, h⟩, h'⟩
    · rintro ⟨v', ⟨between, hanswers, h⟩, h'⟩
      exact ⟨between, hanswers, v', h, h'⟩

/-- The postcondition holds of the value of a routine and of the volume behind it, however its
requests are answered. -/
def After {α : Type} (Q : α → Volume → Prop) : Routine α → Volume → Prop
  | .done x, v => Q x v
  | .ask request next, v => ∀ reply v', v.Answers request reply v' → After Q (next reply) v'

section After

variable {α β : Type} {Q : α → Volume → Prop} {Q' : β → Volume → Prop}

/-- What holds after a routine holds at the end of each of its traces. -/
theorem After.of_runs {r : Routine α} {t : Trace} {x : α} (h : After Q r v) (hruns : r.Runs t x)
    (halong : v.Along t v') : Q x v' := by
  induction r generalizing v t with
  | done y =>
    obtain ⟨rfl, rfl⟩ := hruns
    obtain rfl : v' = v := halong
    exact h
  | ask request next ih =>
    obtain ⟨reply, rest, rfl, hrest⟩ := hruns
    obtain ⟨between, hanswers, halong⟩ := halong
    exact ih reply (h reply between hanswers) hrest halong

/-- A routine always comes to an end. -/
theorem exists_runs (v : Volume) (r : Routine α) : ∃ t x v', r.Runs t x ∧ v.Along t v' := by
  induction r generalizing v with
  | done x => exact ⟨[], x, v, ⟨rfl, rfl⟩, rfl⟩
  | ask request next ih =>
    obtain ⟨reply, between, hanswers⟩ := v.exists_answers request
    obtain ⟨t, x, v', hruns, halong⟩ := ih reply between
    exact ⟨⟨request, reply⟩ :: t, x, v', ⟨reply, t, rfl, hruns⟩, between, hanswers, halong⟩

theorem after_bind {r : Routine α} {f : α → Routine β} (hr : After Q r v)
    (hf : ∀ x v', Q x v' → After Q' (f x) v') : After Q' (r >>= f) v := by
  induction r generalizing v with
  | done x => exact hf x v hr
  | ask request next ih => exact fun reply v' hanswers => ih reply (hr reply v' hanswers)

theorem After.imp {r : Routine α} {Q₁ : α → Volume → Prop} (h : After Q r v)
    (hQ : ∀ x v', Q x v' → Q₁ x v') : After Q₁ r v := by
  rw [← Routine.bind_pure r]
  exact after_bind h hQ

theorem After.and {r : Routine α} {Q₁ : α → Volume → Prop} (h : After Q r v) (h₁ : After Q₁ r v) :
    After (fun x v' => Q x v' ∧ Q₁ x v') r v := by
  induction r generalizing v with
  | done x => exact ⟨h, h₁⟩
  | ask request next ih =>
    exact fun reply v' hanswers => ih reply (h reply v' hanswers) (h₁ reply v' hanswers)

theorem after_request {request : Request} {Q : request.Reply → Volume → Prop}
    (h : ∀ reply v', v.Answers request reply v' → Q reply v') :
    After Q (Routine.request request) v :=
  h

/-- The postconditions hold after an action: one of them where it has a value, and the other where
it fails. -/
def AfterAction (Q : α → Volume → Prop) (E : Failure → Volume → Prop) (a : Action α) (v : Volume) :
    Prop :=
  After (fun x v' => match x with
    | .ok value => Q value v'
    | .error failure => E failure v') a.run v

variable {E E' : Failure → Volume → Prop}

theorem afterAction_pure {x : α} (h : Q x v) : AfterAction Q E (pure x) v := h

theorem afterAction_throw {failure : Failure} (h : E failure v) :
    AfterAction Q E (throw failure) v := h

theorem afterAction_fail {e : RunError} (h : E (.reported e) v) :
    AfterAction Q E (Action.fail e) v := h

theorem afterAction_escape {e : Escape} (h : E (.escaped e) v) :
    AfterAction Q E (Action.escape e) v := h

theorem afterAction_bind {a : Action α} {f : α → Action β} (ha : AfterAction Q E a v)
    (hf : ∀ x v', Q x v' → AfterAction Q' E (f x) v') : AfterAction Q' E (a >>= f) v := by
  rw [AfterAction, Action.run_bind]
  refine after_bind ha ?_
  rintro (failure | x) v' hx
  · exact hx
  · exact hf x v' hx

theorem AfterAction.imp {a : Action α} {Q₁ : α → Volume → Prop} (h : AfterAction Q E a v)
    (hQ : ∀ x v', Q x v' → Q₁ x v') (hE : ∀ failure v', E failure v' → E' failure v') :
    AfterAction Q₁ E' a v := by
  refine After.imp h ?_
  rintro (failure | x) v' hx
  · exact hE failure v' hx
  · exact hQ x v' hx

theorem AfterAction.and {a : Action α} {Q₁ : α → Volume → Prop} (h : AfterAction Q E a v)
    (h₁ : AfterAction Q₁ E' a v) : AfterAction (fun x v' => Q x v' ∧ Q₁ x v')
      (fun failure v' => E failure v' ∧ E' failure v') a v := by
  refine After.imp (After.and h h₁) ?_
  rintro (failure | x) v' hx
  · exact hx
  · exact hx

/-- What holds after an action that has a value. -/
theorem AfterAction.of_runs_ok {a : Action α} {t : Trace} {x : α} (h : AfterAction Q E a v)
    (hruns : a.run.Runs t (.ok x)) (halong : v.Along t v') : Q x v' :=
  have hend := After.of_runs h hruns halong
  hend

/-- What holds after an action that fails. -/
theorem AfterAction.of_runs_error {a : Action α} {t : Trace} {failure : Failure}
    (h : AfterAction Q E a v) (hruns : a.run.Runs t (.error failure)) (halong : v.Along t v') :
    E failure v' :=
  have hend := After.of_runs h hruns halong
  hend

theorem afterAction_lift {r : Routine α} (hr : After Q r v) :
    AfterAction Q E (ExceptT.lift r) v :=
  after_bind hr fun _ _ hx => hx

theorem afterAction_ask {request : Request} {Q : request.Reply → Volume → Prop}
    (h : ∀ reply v', v.Answers request reply v' → Q reply v') :
    AfterAction Q E (Action.ask request) v :=
  afterAction_lift h

theorem afterAction_ask_bind {request : Request} {f : request.Reply → Action β}
    (h : ∀ reply v', v.Answers request reply v' → AfterAction Q' E (f reply) v') :
    AfterAction Q' E (Action.ask request >>= f) v :=
  afterAction_bind (afterAction_ask h) fun _ _ hf => hf

theorem afterAction_tryCatch {a : Action α} {handler : Failure → Action α}
    (ha : AfterAction Q E a v)
    (hhandler : ∀ failure v', E failure v' → AfterAction Q E' (handler failure) v') :
    AfterAction Q E' (tryCatch a handler) v := by
  rw [AfterAction, Action.run_tryCatch]
  refine after_bind ha ?_
  rintro (failure | x) v' hx
  · exact hhandler failure v' hx
  · exact hx

/-- A refusal of the system is reported. -/
theorem afterAction_reporting {wrap : OsError → RunError} {reply : Except Refusal α}
    (hok : ∀ x, reply = .ok x → Q x v)
    (hos : ∀ e, reply = .error (.os e) → E (.reported (wrap e)) v)
    (hescape : ∀ refusal e, reply = .error refusal → (∀ os, refusal ≠ .os os) → E (.escaped e) v) :
    AfterAction Q E (Action.reporting wrap reply) v := by
  rcases reply with (e | _ | _) | x
  · exact hos e rfl
  · exact hescape .nulByte _ rfl (by simp)
  · exact hescape .illegalVariable _ rfl (by simp)
  · exact hok x rfl

end After

end Volume

end Oneshot
