import Oneshot.Cache
import Oneshot.Proofs.Host.Volume

/-!
# Making Directories on a Volume

A cache is made of directories that are tested for and made, with those of their parents that are
missing. What one attempt can do is said once (`Volume.MadeHere`): a directory is there and nothing
happens, or one directory is added, or the attempt is refused and nothing happens. A whole chain of
attempts adds directories on the way to the last one and nothing else (`Volume.Made`).

A path without `..` has one more property. If anything had to be made for it, the directory to which
it leads is new, and empty. With `..` behind a missing name, a path that led nowhere can come to
lead into a directory that has been there all the time.

* `Volume.after_isDir`, `Volume.afterAction_isDir`: a test.
* `Volume.after_makeDirHere`, `Volume.after_makeDirs`: one attempt, and a chain of attempts.
* `Volume.after_makeDirs_of_directory`, `Volume.after_makeDirs_of_parent`: the chain is not needed
  where the directory, or its parent, is there.
-/

namespace Oneshot

open Virtual (Place)

/-! ### The parts of a cache -/

namespace Path

theorem isName_prelude : IsName "prelude".toList :=
  ⟨by decide, by decide⟩

theorem isName_artifacts : IsName "dy-cache".toList :=
  ⟨by decide, by decide⟩

end Path

/-- The newlines of the default prelude are read back as they have been written. -/
theorem Program.unifyNewlines_defaultPrelude :
    Text.unifyNewlines Program.defaultPrelude = Program.defaultPrelude := by
  simp (disch := rfl) only [Program.defaultPrelude, Text.toList_eq]
  decide +kernel

theorem Program.trim_defaultPrelude_ne_nil :
    Text.trim (Text.unifyNewlines Program.defaultPrelude) ≠ [] := by
  simp (disch := rfl) only [Program.defaultPrelude, Text.toList_eq]
  decide +kernel

namespace Volume

variable {v v' v'' : Volume} {p q : Path} {place : Place} {item : Item} {name : Text}

/-- A directory stands where a path leads. -/
def IsDirectory (v : Volume) (p : Path) : Prop :=
  Fits p.text ∧ ∃ place searchable, v.find p = some place ∧
    v.entry place = some (.directory searchable)

theorem reach_text (hp : p.Proper) : v.reach p.text = if Fits p.text then v.find p else none := by
  rw [reach, hp.ofText_text]

theorem slot_text (hp : p.Proper) (h : v.slot p.text = some place) :
    Fits p.text ∧ v.spot p = some place := by
  rw [slot, hp.ofText_text] at h
  split at h
  · next hfits => exact ⟨hfits, h⟩
  · simp at h

theorem slot_of_spot (hp : p.Proper) (hfits : Fits p.text) (h : v.spot p = some place) :
    v.slot p.text = some place := by
  rw [slot, hp.ofText_text, if_pos hfits, h]

theorem isDirectory_iff (hp : p.Proper) :
    v.IsDirectory p ↔ ∃ searchable, v.lookUp p.text = some (.directory searchable) := by
  rw [lookUp, reach_text hp]
  constructor
  · rintro ⟨hfits, place, searchable, hfind, hentry⟩
    exact ⟨searchable, by rw [if_pos hfits, hfind, Option.bind_some, hentry]⟩
  · rintro ⟨searchable, h⟩
    split at h
    · next hfits =>
      obtain ⟨place, hfind, hentry⟩ := Option.bind_eq_some_iff.1 h
      exact ⟨hfits, place, searchable, hfind, hentry⟩
    · simp at h

theorem IsDirectory.of_extends (h : v.IsDirectory p) (hextends : v.Extends v') :
    v'.IsDirectory p := by
  obtain ⟨hfits, place, searchable, hfind, hentry⟩ := h
  rcases hextends.entry place _ hentry with hsame | ⟨-, hopened⟩
  · exact ⟨hfits, place, searchable, hextends.find hfind, hsame⟩
  · exact ⟨hfits, place, true, hextends.find hfind, hopened⟩

theorem IsDirectory.of_le (h : v.IsDirectory p) (hle : q ≤ p) : v.IsDirectory q := by
  by_cases heq : q = p
  · rwa [heq]
  obtain ⟨hfits, place, searchable, hfind, -⟩ := h
  obtain ⟨dir, hdir, hdirectory⟩ := exists_of_find_of_le hfind hle heq
  exact ⟨hfits.of_le hle, dir, true, hdir, hdirectory⟩

/-- The directory in which something can be made is there. -/
theorem isDirectory_parent_of_slot (hp : p.Proper) (h : v.slot p.text = some place) :
    v.IsDirectory p.parent := by
  obtain ⟨hfits, hspot⟩ := slot_text hp h
  obtain ⟨parent, name, rfl, hname⟩ := exists_of_spot hp hspot
  obtain ⟨dir, hdir, hdirectory, -, -⟩ := (spot_below parent hname.2).1 hspot
  rw [Path.parent_below]
  exact ⟨hfits.of_le (parent.le_below name), dir, true, hdir, hdirectory⟩

/-! ### Tests -/

/-- **A test** finds what stands where the path leads, and changes nothing. -/
theorem after_isDir (hp : p.Proper) :
    After (fun found v' => v' = v ∧ (found = .ok true ↔ v.IsDirectory p)) (Files.isDir p) v := by
  refine after_bind (after_request (Q := fun (reply : Except Refusal FileKind) v' =>
    v' = v ∧ (reply = .ok .directory ↔ v.IsDirectory p)) ?_) ?_
  · rintro reply v' ⟨rfl, hreply⟩
    refine ⟨rfl, ?_⟩
    rw [isDirectory_iff hp]
    rcases hlook : v'.lookUp p.text with _ | searchable | _ | _
    · simp only [hlook] at hreply
      rw [Refused] at hreply
      split at hreply
      · simp [hreply]
      · obtain ⟨e, rfl⟩ := hreply
        simp
    · simp only [hlook] at hreply
      simp [hreply]
    · simp only [hlook] at hreply
      obtain ⟨kind, rfl, hkind⟩ := hreply
      simp [hkind]
    · simp only [hlook] at hreply
      obtain ⟨kind, rfl, hkind⟩ := hreply
      simp [hkind]
  · rintro ((e | _ | _) | kind) v' ⟨rfl, hfound⟩
    · simp only
      split <;> exact ⟨rfl, by simpa using hfound⟩
    · exact ⟨rfl, by simpa using hfound⟩
    · exact ⟨rfl, by simpa using hfound⟩
    · exact ⟨rfl, by simpa using hfound⟩

theorem afterAction_isDir (hp : p.Proper) :
    AfterAction (fun found v' => v' = v ∧ (found = true ↔ v.IsDirectory p))
      (fun _ v' => v' = v ∧ ¬ v.IsDirectory p) (Action.orEscape (Files.isDir p)) v := by
  refine afterAction_bind (afterAction_lift (after_isDir hp)) ?_
  rintro (e | found) v' ⟨rfl, hfound⟩
  · exact afterAction_escape ⟨rfl, by simpa using hfound⟩
  · exact afterAction_pure ⟨rfl, by simpa using hfound⟩

/-! ### One attempt -/

/-- What one attempt at making a directory leaves behind. -/
inductive MadeHere (v : Volume) (p : Path) : Except Refusal Unit → Volume → Prop
  | there (h : v.IsDirectory p) : MadeHere v p (.ok ()) v
  | added {place : Place} {searchable : Bool} {v' : Volume} (h : ¬ v.IsDirectory p)
    (hslot : v.slot p.text = some place) (habsent : v.entry place = none)
    (hadds : v.Adds place (.directory searchable) v') : MadeHere v p (.ok ()) v'
  | refused {refusal : Refusal} (h : ¬ v.IsDirectory p)
    (hos : '\x00' ∉ p.text → ∃ e, refusal = .os e) : MadeHere v p (.error refusal) v

theorem Taken.of_isDirectory (hp : p.Proper) (h : v.IsDirectory p) : v.Taken p.text := by
  obtain ⟨hfits, place, searchable, hfind, hentry⟩ := h
  exact .inl (by rw [reach_text hp, if_pos hfits, hfind]; simp)

/-- A refused attempt is followed by a test. -/
theorem after_refused_makeDir (hp : p.Proper) (e : OsError) :
    After (MadeHere v p) (do
      match ← Files.isDir p with
      | .ok true => return .ok ()
      | .ok false => return .error (.os e)
      | .error other => return .error (.os other)) v := by
  refine after_bind (after_isDir hp) ?_
  rintro (other | _ | _) v' ⟨rfl, hfound⟩
  · exact .refused (by simpa using hfound) fun _ => ⟨other, rfl⟩
  · exact .refused (by simpa using hfound) fun _ => ⟨e, rfl⟩
  · exact .there (by simpa using hfound)

/-- **One attempt at making a directory.** -/
theorem after_makeDirHere (hp : p.Proper) : After (MadeHere v p) (Files.makeDirHere p) v := by
  refine after_bind (after_request (Q := fun reply v' => v.Answers (.makeDir p.text) reply v')
    fun _ _ h => h) ?_
  rintro reply v' ⟨htaken, hfree⟩
  by_cases h : v.Taken p.text
  · obtain ⟨rfl, e, rfl, hcause⟩ := htaken h
    simp only [hcause, reduceCtorEq, if_false]
    exact after_refused_makeDir hp e
  · obtain ⟨rfl, hrefused⟩ | ⟨place, searchable, hslot, rfl, hadds⟩ := hfree h
    · have hnot : ¬ v'.IsDirectory p := fun hdirectory => h (.of_isDirectory hp hdirectory)
      rcases reply with (e | _ | _) | _
      · simp only
        split
        · exact .refused hnot fun _ => ⟨e, rfl⟩
        · exact after_refused_makeDir hp e
      · exact .refused hnot fun hnul => by simpa using hrefused.os hnul
      · exact .refused hnot fun hnul => by simpa using hrefused.os hnul
      · exact absurd hrefused not_refused_ok
    · refine .added (fun hdirectory => h (.of_isDirectory hp hdirectory)) hslot ?_ hadds
      by_contra hentry
      exact h (.inr ⟨place, hslot, hentry⟩)

theorem Adds.ne (h : v.Adds place item v') (habsent : v.entry place = none) : v' ≠ v := by
  rintro rfl
  have hentry := congrFun h.2 place
  rw [Function.update_self, habsent] at hentry
  simp at hentry

/-- A directory that has been made is found where it was made. -/
theorem find_of_made (hp : p.Proper) {searchable : Bool} (hslot : v.slot p.text = some place)
    (habsent : v.entry place = none) (hadds : v.Adds place (.directory searchable) v') :
    v'.find p = some place ∧ v'.IsDirectory p := by
  obtain ⟨hfits, hspot⟩ := slot_text hp hslot
  have hentry : v'.entry place = some (.directory searchable) := by
    rw [hadds.2, Function.update_self]
  have hfind := find_of_spot hp ((hadds.extends habsent).spot hspot) (by simp [hentry])
    (by simp [linkAt, hentry])
  exact ⟨hfind, hfits, place, searchable, hfind, hentry⟩

/-! ### A chain of attempts -/

/-- Directories have been made on the way to a path, and nothing else has changed. -/
structure MakesWay (p : Path) (v v' : Volume) : Prop where
  workDir : v'.workDir = v.workDir
  entry : ∀ place, v'.entry place = v.entry place ∨ v.entry place = none ∧
    (∃ searchable, v'.entry place = some (.directory searchable)) ∧ ∃ q ≤ p, v'.find q = some place
  rooted : v' = v ∨ v.entry (start p v.workDir) ≠ none

theorem MakesWay.extends (h : MakesWay p v v') : v.Extends v' where
  workDir := h.workDir
  entry place item hitem := by
    rcases h.entry place with hsame | ⟨habsent, -⟩
    · exact .inl (hsame.trans hitem)
    · simp [habsent] at hitem

namespace MakesWay

theorem refl (p : Path) (v : Volume) : MakesWay p v v :=
  ⟨rfl, fun _ => .inl rfl, .inl rfl⟩

theorem mono (h : MakesWay p v v') (hle : p ≤ q) : MakesWay q v v' where
  workDir := h.workDir
  rooted := by
    rw [start, Path.isAbsolute, ← hle.1]
    exact h.rooted
  entry place := by
    rcases h.entry place with hsame | ⟨habsent, hdirectory, q', hq', hfind⟩
    · exact .inl hsame
    · exact .inr ⟨habsent, hdirectory, q', hq'.trans hle, hfind⟩

theorem trans (h : MakesWay p v v') (h' : MakesWay p v' v'') : MakesWay p v v'' where
  workDir := h'.workDir.trans h.workDir
  rooted := by
    rcases h.rooted with rfl | hrooted
    · exact h'.rooted
    · exact .inr hrooted
  entry place := by
    rcases h'.entry place with hsame' | ⟨habsent', hdirectory', hq'⟩
    · rcases h.entry place with hsame | ⟨habsent, ⟨searchable, hdirectory⟩, q, hq, hfind⟩
      · exact .inl (hsame'.trans hsame)
      · exact .inr ⟨habsent, ⟨searchable, hsame'.trans hdirectory⟩, q, hq, h'.extends.find hfind⟩
    · refine .inr ⟨?_, hdirectory', hq'⟩
      rcases h.entry place with hsame | ⟨habsent, -⟩
      · exact hsame.symm.trans habsent'
      · exact habsent

end MakesWay

/-- Something stands in a directory from which a path to it is followed. -/
theorem entry_start_of_slot (hp : p.Proper) (h : v.slot p.text = some place) :
    v.entry (start p v.workDir) ≠ none := by
  obtain ⟨-, dir, searchable, hfind, hdirectory⟩ := isDirectory_parent_of_slot hp h
  have hthere : v.entry dir ≠ none := by simp [hdirectory]
  have hstart := entry_start_ne_none hfind hthere
  exact hstart

/-- One directory has been made. -/
theorem Adds.way (hp : p.Proper) {searchable : Bool} (hslot : v.slot p.text = some place)
    (habsent : v.entry place = none) (hadds : v.Adds place (.directory searchable) v') :
    MakesWay p v v' := by
  obtain ⟨hfind, -⟩ := find_of_made hp hslot habsent hadds
  refine ⟨hadds.1, fun other => ?_, .inr (entry_start_of_slot hp hslot)⟩
  by_cases heq : other = place
  · subst heq
    exact .inr ⟨habsent, ⟨searchable, by rw [hadds.2, Function.update_self]⟩, p, le_rfl, hfind⟩
  · exact .inl (by rw [hadds.2, Function.update_of_ne heq])

theorem MadeHere.way (hp : p.Proper) {x : Except Refusal Unit} (h : MadeHere v p x v') :
    MakesWay p v v' := by
  cases h with
  | there => exact .refl p v
  | refused => exact .refl p v
  | @added place searchable _ _ hslot habsent hadds =>
    exact hadds.way hp hslot habsent

/-- The directory to which a path leads is new. -/
def IsFresh (p : Path) (v v' : Volume) : Prop :=
  ∃ place, v'.find p = some place ∧ v.entry place = none ∧ ∀ name, v'.entry (place ++ [name]) = none

/-- What a chain of attempts leaves behind. -/
structure Made (v : Volume) (p : Path) (x : Except Refusal Unit) (v' : Volume) : Prop where
  way : MakesWay p v v'
  directory : x = .ok () → v'.IsDirectory p
  fresh : x = .ok () → ['.', '.'] ∉ p.parts → v' = v ∨ IsFresh p v v'
  refused : ∀ refusal, x = .error refusal → '\x00' ∉ p.text → ∃ e, refusal = .os e
  absent : ∀ refusal, x = .error refusal → ¬ v'.IsDirectory p

theorem MadeHere.directory (hp : p.Proper) (h : MadeHere v p (.ok ()) v') : v'.IsDirectory p := by
  cases h with
  | there h => exact h
  | added _ hslot habsent hadds => exact (find_of_made hp hslot habsent hadds).2

theorem MadeHere.fresh (hp : p.Proper) (h : MadeHere v p (.ok ()) v') :
    v' = v ∨ IsFresh p v v' := by
  cases h with
  | there => exact .inl rfl
  | @added place searchable _ _ hslot habsent hadds =>
    refine .inr ⟨place, (find_of_made hp hslot habsent hadds).1, habsent, fun name => ?_⟩
    rw [hadds.2, Function.update_of_ne (by simp)]
    exact entry_eq_none habsent (List.prefix_append _ _)

theorem MadeHere.made (hp : p.Proper) {x : Except Refusal Unit} (h : MadeHere v p x v') :
    Made v p x v' where
  way := h.way hp
  directory := by
    rintro rfl
    exact h.directory hp
  fresh := by
    rintro rfl -
    exact h.fresh hp
  refused := by
    rintro refusal hx hnul
    cases h with
    | refused _ hos =>
      obtain rfl := Except.error.inj hx
      exact hos hnul
    | there | added => simp at hx
  absent := by
    rintro refusal hx
    cases h with
    | refused hnot => exact hnot
    | there | added => simp at hx

/-- A path without `..` does not lead into a new and empty directory and further. -/
theorem IsFresh.not_isDirectory_below {p : Path} (h : IsFresh p v v') (hname : IsStep name) :
    ¬ v'.IsDirectory (p.below name) := by
  rintro ⟨-, found, searchable, hfind, -⟩
  obtain ⟨place, hplace, -, hempty⟩ := h
  obtain ⟨dir, next, hdir, henter, -⟩ := exists_of_find_below hfind
  obtain rfl := Option.some.inj (hplace.symm.trans hdir)
  exact ((enter_eq_some_iff hname).1 henter).2.2.1 (hempty name)

/-- A second attempt, once the parent has been made. -/
theorem Made.retry {v₁ : Volume} {x : Except Refusal Unit} (hp : (p.below name).Proper)
    (hnot : ¬ v.IsDirectory (p.below name)) (hparent : Made v p (.ok ()) v₁)
    (h : MadeHere v₁ (p.below name) x v') : Made v (p.below name) x v' where
  way := (hparent.way.mono (p.le_below name)).trans (h.way hp)
  directory := (h.made hp).directory
  refused := (h.made hp).refused
  absent := (h.made hp).absent
  fresh := by
    rintro rfl hdots
    have hstep : IsStep name := by
      refine ⟨fun hdot => ?_, fun heq => hdots (by simp [Path.below, heq])⟩
      exact absurd (hp.parts name (by simp [Path.below])).1 (by simp [hdot, Path.isKept])
    have hdots' : ['.', '.'] ∉ p.parts := fun hmem => hdots (List.mem_append_left _ hmem)
    cases h with
    | there hthere =>
      rcases hparent.fresh rfl hdots' with rfl | hfresh
      · exact absurd hthere hnot
      · exact absurd hthere (hfresh.not_isDirectory_below hstep)
    | @added place searchable _ hnot₁ hslot habsent hadds =>
      obtain ⟨found, hfind, -, hempty⟩ :=
        ((MadeHere.added hnot₁ hslot habsent hadds).fresh hp).resolve_left (hadds.ne habsent)
      obtain rfl : found = place := Option.some.inj
        (hfind.symm.trans (find_of_made hp hslot habsent hadds).1)
      refine .inr ⟨found, hfind, ?_, hempty⟩
      rcases hparent.way.entry found with hsame | ⟨hnone, -⟩
      · exact hsame.symm.trans habsent
      · exact hnone

/-- **A chain of attempts at making a directory**, with those of its parents that are missing. -/
theorem after_makeDirsWithin (fuel : Nat) (hp : p.Proper) :
    After (Made v p) (Files.makeDirsWithin fuel p) v := by
  induction fuel generalizing p v with
  | zero => exact (after_makeDirHere hp).imp fun _ _ h => h.made hp
  | succ fuel ih =>
    refine after_bind (after_makeDirHere hp) ?_
    rintro x v₁ hmade
    rcases x with (e | _ | _) | _
    · simp only
      split
      · next hmissing =>
        obtain ⟨hnot, rfl⟩ : ¬ v.IsDirectory p ∧ v₁ = v := by
          cases hmade with
          | refused hnot => exact ⟨hnot, rfl⟩
        refine after_bind (ih hp.parent) ?_
        rintro (refusal | _) v₂ hparent
        · refine ⟨hparent.way.mono p.parent_le, by simp, by simp, ?_, fun _ _ hdirectory =>
            hparent.absent refusal rfl (hdirectory.of_le p.parent_le)⟩
          intro refusal' hrefusal hnul
          obtain rfl := Except.error.inj hrefusal
          exact hparent.refused refusal rfl fun h => hnul (Path.nul_mem_text_of_le p.parent_le h)
        · rw [← Path.below_parent_name hmissing.2] at hp hnot ⊢
          exact (after_makeDirHere hp).imp fun x v₃ h => hparent.retry hp hnot h
      · exact hmade.made hp
    · exact hmade.made hp
    · exact hmade.made hp
    · exact hmade.made hp

theorem after_makeDirs (hp : p.Proper) : After (Made v p) (Files.makeDirs p) v :=
  after_makeDirsWithin _ hp

/-- Where the directory is there, nothing is made. -/
theorem after_makeDirsWithin_of_directory (fuel : Nat) (hp : p.Proper) (h : v.IsDirectory p) :
    After (fun x v' => x = .ok () ∧ v' = v) (Files.makeDirsWithin fuel p) v := by
  have hhere : After (fun x v' => x = .ok () ∧ v' = v) (Files.makeDirHere p) v := by
    refine (after_makeDirHere hp).imp fun x v' hmade => ?_
    cases hmade with
    | there => exact ⟨rfl, rfl⟩
    | refused hnot => exact absurd h hnot
    | added hnot => exact absurd h hnot
  cases fuel with
  | zero => exact hhere
  | succ fuel =>
    refine after_bind hhere ?_
    rintro x v' ⟨rfl, rfl⟩
    exact ⟨rfl, rfl⟩

theorem after_makeDirs_of_directory (hp : p.Proper) (h : v.IsDirectory p) :
    After (fun x v' => x = .ok () ∧ v' = v) (Files.makeDirs p) v :=
  after_makeDirsWithin_of_directory _ hp h

/-- Where the parent is there, at most the directory itself is made. -/
theorem after_makeDirs_of_parent (hp : (p.below name).Proper) (h : v.IsDirectory p) :
    After (MadeHere v (p.below name)) (Files.makeDirs (p.below name)) v := by
  rw [Files.makeDirs]
  cases (p.below name).parts.length with
  | zero => exact after_makeDirHere hp
  | succ fuel =>
    refine after_bind (after_makeDirHere hp) ?_
    rintro ((e | _ | _) | _) v₁ hmade
    · simp only
      split
      · obtain rfl : v₁ = v := by
          cases hmade with
          | refused => rfl
        rw [Path.parent_below]
        refine after_bind (after_makeDirsWithin_of_directory fuel (hp.of_le (p.le_below name)) h) ?_
        rintro x v₂ ⟨rfl, rfl⟩
        exact after_makeDirHere hp
      · exact hmade
    · exact hmade
    · exact hmade
    · exact hmade

/-! ### Paved ways -/

/-- The directories on the way to a path are made from the top down: each is there, or it is there
once those above it have been made, or it is new then. -/
inductive Paves (v : Volume) : Path → Volume → Prop
  | there {p : Path} (h : v.IsDirectory p) : Paves v p v
  | found {p : Path} {v₁ : Volume} (hparent : Paves v p.parent v₁) (h : v₁.IsDirectory p) :
    Paves v p v₁
  | added {p : Path} {v₁ v₂ : Volume} {place : Place} {searchable : Bool}
    (hparent : Paves v p.parent v₁) (hslot : v₁.slot p.text = some place)
    (habsent : v₁.entry place = none) (hadds : v₁.Adds place (.directory searchable) v₂) :
    Paves v p v₂

theorem Adds.le (h : v.Adds place item v') (habsent : v.entry place = none) : v ≤ v' := by
  refine ⟨h.1, fun other old hold => ?_⟩
  rw [h.2, Function.update_of_ne, hold]
  rintro rfl
  simp [habsent] at hold

namespace Paves

theorem le (h : Paves v p v') : v ≤ v' := by
  induction h with
  | there => exact le_rfl
  | found _ _ ih => exact ih
  | added _ _ habsent hadds ih => exact ih.trans (hadds.le habsent)

theorem isDirectory (hp : p.Proper) (h : Paves v p v') : v'.IsDirectory p := by
  cases h with
  | there h => exact h
  | found _ h => exact h
  | added _ hslot habsent hadds => exact (find_of_made hp hslot habsent hadds).2

/-- The directories above a directory have been made before it. -/
theorem of_le (h : Paves v p v') (hle : q ≤ p) : ∃ v₁, Paves v q v₁ ∧ v₁ ≤ v' := by
  induction h with
  | there h => exact ⟨v, .there (h.of_le hle), le_rfl⟩
  | @found p v₁ hparent h ih =>
    by_cases heq : q = p
    · exact ⟨v₁, heq ▸ .found hparent h, le_rfl⟩
    · exact ih (Path.le_parent hle heq)
  | @added p v₁ v₂ place searchable hparent hslot habsent hadds ih =>
    by_cases heq : q = p
    · exact ⟨v₂, heq ▸ .added hparent hslot habsent hadds, le_rfl⟩
    · obtain ⟨v₀, hpaves, hle₀⟩ := ih (Path.le_parent hle heq)
      exact ⟨v₀, hpaves, hle₀.trans (hadds.le habsent)⟩

/-- Something stands where the path is followed from. -/
theorem entry_start_ne_none (h : Paves v p v') : v.entry (start p v.workDir) ≠ none := by
  induction h with
  | there h =>
    obtain ⟨-, place, searchable, hfind, hentry⟩ := h
    exact Volume.entry_start_ne_none hfind (by simp [hentry])
  | found _ _ ih => exact ih
  | added _ _ _ _ ih => exact ih

theorem way (hp : p.Proper) (h : Paves v p v') : MakesWay p v v' := by
  induction h with
  | there => exact .refl _ _
  | found _ _ ih => exact (ih hp.parent).mono (Path.parent_le _)
  | @added p v₁ v₂ place searchable hparent hslot habsent hadds ih =>
    exact ((ih hp.parent).mono p.parent_le).trans (hadds.way hp hslot habsent)

end Paves

/-- A successful attempt, once the parent is there. -/
theorem MadeHere.paves {v₁ : Volume} (hparent : Paves v p.parent v₁)
    (h : MadeHere v₁ p (.ok ()) v') : Paves v p v' := by
  cases h with
  | there h => exact .found hparent h
  | added _ hslot habsent hadds => exact .added hparent hslot habsent hadds

/-- A successful attempt at first. -/
theorem MadeHere.paves_self (hp : p.Proper) (h : MadeHere v p (.ok ()) v') : Paves v p v' := by
  cases h with
  | there h => exact .there h
  | added _ hslot habsent hadds =>
    exact .added (.there (isDirectory_parent_of_slot hp hslot)) hslot habsent hadds

/-- **A chain of attempts that succeeds paves the way.** -/
theorem after_makeDirsWithin_paves (fuel : Nat) (hp : p.Proper) :
    After (fun x v' => x = .ok () → Paves v p v') (Files.makeDirsWithin fuel p) v := by
  have hfirst : After (fun x v' => MadeHere v p x v' ∧ (x = .ok () → Paves v p v'))
      (Files.makeDirHere p) v := (after_makeDirHere hp).imp fun x v' hmade =>
    ⟨hmade, by
      rintro rfl
      exact hmade.paves_self hp⟩
  induction fuel generalizing p v with
  | zero => exact hfirst.imp fun x v' h => h.2
  | succ fuel ih =>
    refine after_bind hfirst ?_
    rintro x v₁ ⟨hmade, hpaves⟩
    rcases x with (e | _ | _) | _
    · simp only
      split
      · obtain rfl : v₁ = v := by
          cases hmade with
          | refused => rfl
        refine after_bind (ih hp.parent ?_) ?_
        · exact (after_makeDirHere hp.parent).imp fun x v' hmade' =>
            ⟨hmade', by
              rintro rfl
              exact hmade'.paves_self hp.parent⟩
        · rintro (refusal | _) v₂ hparent
          · exact fun h => nomatch h
          · refine (after_makeDirHere hp).imp ?_
            rintro x v₃ hmade' rfl
            exact hmade'.paves (hparent rfl)
      · exact hpaves
    · exact hpaves
    · exact hpaves
    · exact hpaves

end Volume

end Oneshot
