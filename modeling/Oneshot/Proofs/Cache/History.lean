import Oneshot.Proofs.Cache.Publishing

/-!
# The History of a Cache

The cache is asked for again and again, and in between anybody may change anything. This module says
what one call does to a volume, in whatever state the volume is, and from that what a whole history
of calls and edits does.

* `Volume.Ready`: a call that returns has a cache that is complete and readable, and the value is
  what stands there.
* `Volume.calls_of_ready`: to call once more changes nothing and has the same value.
* `Volume.OnlyAdds`: a call leaves alone whatever was there, and adds only directories above the
  cache, the whole new cache, or its directory for libraries. If the path of the cache leads upwards
  behind a missing directory, there is one exception: an empty directory that could not be seen
  gives way to a new cache (`Volume.Displaces`).
* `Volume.history_keeps`: these, for every call of a history; and what no edit changes stays.
-/

namespace Oneshot

open Virtual (Place)

namespace Volume

variable {v v' v₁ v₂ : Volume} {root p : Path} {place top : Place} {x : Except Refusal Unit}
  {cache : Cache}

/-! ### What is added -/

/-- What may have been added at a place. -/
inductive Added (root : Path) (v v' : Volume) (place : Place) : Prop
  /-- A directory above the cache. -/
  | above {q : Path} {searchable : Bool} (hle : q ≤ root.parent) (hfind : v'.find q = some place)
    (hentry : v'.entry place = some (.directory searchable))
  /-- The cache, with all that a new one holds. -/
  | cache {top : Place} (hfind : v'.find root = some top) (habsent : v.entry top = none)
    (hholds : v'.HoldsNewCache top) (hle : top <+: place)
  /-- The directory for libraries. -/
  | artifacts {top : Place} {searchable : Bool} (hfind : v'.find root = some top)
    (hplace : place = top ++ ["dy-cache".toList])
    (hentry : v'.entry place = some (.directory searchable))

/-- Whatever was there is still there, and only parts of a cache have been added. -/
structure OnlyAdds (root : Path) (v v' : Volume) : Prop where
  workDir : v'.workDir = v.workDir
  kept : ∀ place item, v.entry place = some item → v'.entry place = some item
  added : ∀ place, v.entry place = none → v'.entry place ≠ none → Added root v v' place

/-- A new cache stands where an empty directory has stood to which its path did not lead before. -/
structure Displaces (root : Path) (v v' : Volume) : Prop where
  workDir : v'.workDir = v.workDir
  unseen : ¬ v.IsDirectory root
  displaced : ∃ top searchable, v.entry top = some (.directory searchable) ∧
    (∀ name, v.entry (top ++ [name]) = none) ∧ v'.find root = some top ∧ v'.HoldsNewCache top ∧
    ∀ place, ¬ top <+: place → v'.entry place = v.entry place ∨
      v.entry place = none ∧ Added root v v' place

/-- What a call does to a volume. -/
structure Keeps (root : Path) (v v' : Volume) : Prop where
  frame : OnlyAdds root v v' ∨ Displaces root v v'
  plain : ['.', '.'] ∉ root.parts → OnlyAdds root v v'

theorem OnlyAdds.keeps (h : OnlyAdds root v v') : Keeps root v v' :=
  ⟨.inl h, fun _ => h⟩

/-- A file in a directory that was there is more than an addition. -/
theorem not_onlyAdds {name : Text} {content : Bytes} {readable : Bool}
    (htop : v.entry top ≠ none) (habsent : v.entry (top ++ [name]) = none)
    (hfind : v'.find root = some top)
    (hfile : v'.entry (top ++ [name]) = some (.file content readable)) : ¬ OnlyAdds root v v' := by
  intro honly
  cases honly.added _ habsent (by simp [hfile]) with
  | above _ _ hdirectory => simp [hfile] at hdirectory
  | cache hfind' hnone =>
    obtain rfl := Option.some.inj (hfind.symm.trans hfind')
    exact htop hnone
  | artifacts _ _ hdirectory => simp [hfile] at hdirectory

/-- **A cache that is put where an empty directory stands is more than an addition.** -/
theorem Displaces.not_onlyAdds (h : Displaces root v v') : ¬ OnlyAdds root v v' := by
  obtain ⟨top, searchable, hentry, hempty, hfind, ⟨readable, searchable', hholds⟩, -⟩ := h.displaced
  have hprelude := hholds.content "prelude"
  rw [newContent, Function.update_of_ne (by decide), Function.update_self] at hprelude
  exact Volume.not_onlyAdds (by simp [hentry]) (hempty "prelude") hfind hprelude

/-- Directories on the way are additions. -/
theorem MakesWay.added (h : MakesWay root.parent v v₁) (hextends : v₁.Extends v')
    (habsent : v.entry place = none) (hentry : v₁.entry place ≠ none)
    (hsame : v'.entry place = v₁.entry place) : Added root v v' place := by
  rcases h.entry place with heq | ⟨-, ⟨searchable, hdirectory⟩, q, hq, hfind⟩
  · exact absurd (heq.trans habsent) hentry
  · exact .above hq (hextends.find hfind) (hsame.trans hdirectory)

theorem MakesWay.onlyAdds (h : MakesWay root.parent v v') : OnlyAdds root v v' where
  workDir := h.workDir
  kept place item hitem := by
    rcases h.entry place with heq | ⟨habsent, -⟩
    · exact heq.trans hitem
    · simp [habsent] at hitem
  added _ habsent hentry := h.added (.refl v') habsent hentry rfl

/-- Directories on the way, and the directory for libraries. -/
theorem MadeHere.onlyAdds (hroot : root.Proper) (h : MakesWay root.parent v v₁)
    (hmade : MadeHere v₁ (root.below "dy-cache") x v') : OnlyAdds root v v' := by
  have hartifacts := hroot.below Path.isName_artifacts
  have hextends := (hmade.way hartifacts).extends
  cases hmade with
  | there => exact h.onlyAdds
  | refused => exact h.onlyAdds
  | @added made searchable _ _ hslot hnone hadds =>
    obtain ⟨top, htop, -, -, hmade⟩ :=
      (spot_below root (by decide)).1 (slot_text hartifacts hslot).2
    refine ⟨hadds.1.trans h.workDir, fun place item hitem => ?_, fun place habsent hentry => ?_⟩
    · have hitem₁ := h.onlyAdds.kept place item hitem
      rw [hadds.2, Function.update_of_ne, hitem₁]
      rintro rfl
      simp [hnone] at hitem₁
    · by_cases heq : place = made
      · subst heq
        exact .artifacts (hextends.find htop) hmade (by rw [hadds.2, Function.update_self])
      · have hsame : v'.entry place = v₁.entry place := by rw [hadds.2, Function.update_of_ne heq]
        exact h.added hextends habsent (hsame ▸ hentry) hsame

/-- **A new cache in a place where nothing was.** -/
theorem Published.onlyAdds (hroot : root.Proper) (h : MakesWay root.parent v v₁)
    (hpublished : Published v₁ root top v') (habsent : v.entry top = none) :
    OnlyAdds root v v' where
  workDir := hpublished.workDir.trans h.workDir
  kept place item hitem := by
    have hnot : ¬ top <+: place := fun hle => by simp [entry_eq_none habsent hle] at hitem
    exact (hpublished.elsewhere place hnot).trans (h.onlyAdds.kept place item hitem)
  added place hnone hentry := by
    by_cases hle : top <+: place
    · exact .cache (hpublished.find hroot) habsent hpublished.holds hle
    · have hsame := hpublished.elsewhere place hle
      exact h.added hpublished.extends hnone (hsame ▸ hentry) hsame

/-- **A new cache in its place.** What stood there was seen neither by the test nor, without `..` in
the path, by anybody. -/
theorem Published.keeps (hroot : root.Proper) (hunseen : ¬ v.IsDirectory root)
    (hmade : Made v root.parent (.ok ()) v₁) (h : Published v₁ root top v') : Keeps root v v' := by
  by_cases habsent : v.entry top = none
  · exact (h.onlyAdds hroot hmade.way habsent).keeps
  have hsame : v₁.entry top = v.entry top := by
    rcases hmade.way.entry top with heq | ⟨hnone, -⟩
    · exact heq
    · exact absurd hnone habsent
  obtain ⟨⟨searchable, hdirectory⟩, hempty⟩ := h.vacant.resolve_left (hsame ▸ habsent)
  obtain ⟨hfits, hspot⟩ := slot_text hroot h.slot
  constructor
  · refine .inr ⟨h.workDir.trans hmade.way.workDir, hunseen, top, searchable,
      hsame.symm.trans hdirectory, fun name => ?_, h.find hroot, h.holds, fun place hnot => ?_⟩
    · rcases hmade.way.entry (top ++ [name]) with heq | ⟨hnone, -⟩
      · exact heq.symm.trans (hempty name)
      · exact hnone
    · have hplace := h.elsewhere place hnot
      rcases hmade.way.entry place with heq | ⟨hnone, ⟨_, hnew⟩, -⟩
      · exact .inl (hplace.trans heq)
      · exact .inr ⟨hnone, hmade.way.added h.extends hnone (by simp [hnew]) hplace⟩
  · intro hdots
    exfalso
    obtain ⟨parent, name, rfl, hname⟩ := exists_of_spot hroot hspot
    have hparent : ['.', '.'] ∉ (parent.below name).parent.parts := fun hmem =>
      hdots ((List.dropLast_prefix _).subset hmem)
    rcases hmade.fresh rfl hparent with rfl | hfresh
    · refine hunseen ⟨hfits, top, searchable, ?_, hdirectory⟩
      exact find_of_spot hroot hspot (by simp [hdirectory]) (by simp [linkAt, hdirectory])
    · -- in a new directory there is nothing yet that could be displaced
      rw [Path.parent_below] at hfresh
      refine hfresh.not_isDirectory_below hname ⟨hfits, top, searchable, ?_, hdirectory⟩
      exact find_of_spot hroot hspot (by simp [hdirectory]) (by simp [linkAt, hdirectory])

/-- Nothing is missing in a new cache. -/
theorem Published.eq_of_madeHere (hroot : root.Proper) (h : Published v root top v₁)
    (hmade : MadeHere v₁ (root.below "dy-cache") x v') : v' = v₁ := by
  have hartifacts := hroot.below Path.isName_artifacts
  cases hmade with
  | there => rfl
  | refused => rfl
  | added _ hslot hnone =>
    obtain ⟨dir, hdir, -, -, rfl⟩ := (spot_below root (by decide)).1 (slot_text hartifacts hslot).2
    obtain rfl := Option.some.inj ((h.find hroot).symm.trans hdir)
    obtain ⟨readable, searchable, hholds⟩ := h.holds
    have hthere := hholds.content "dy-cache"
    rw [hnone, newContent, Function.update_self] at hthere
    simp at hthere

/-! ### One call -/

/-- A prelude that can be read and is not blank. -/
def PreludeAt (v : Volume) (p : Path) (prelude : Text) : Prop :=
  ∃ content text, v.lookUp p.text = some (.file content true) ∧ Utf8.decode content = .ok text ∧
    Text.trim (Text.unifyNewlines text) ≠ [] ∧ prelude = Text.unifyNewlines text

theorem PreludeAt.unique {prelude prelude' : Text} (h : v.PreludeAt p prelude)
    (h' : v.PreludeAt p prelude') : prelude' = prelude := by
  obtain ⟨content, text, hlook, hdecode, -, rfl⟩ := h
  obtain ⟨content', text', hlook', hdecode', -, rfl⟩ := h'
  obtain rfl : content = content' := by simpa [hlook] using hlook'
  rw [Except.ok.inj (hdecode.symm.trans hdecode')]

/-- A cache is complete and readable, and it is the one that stands there. -/
structure Ready (root : Path) (cache : Cache) (v : Volume) : Prop where
  directory : v.IsDirectory root
  artifacts : v.IsDirectory (root.below "dy-cache")
  prelude : v.PreludeAt (root.below "prelude") cache.prelude
  parts : cache = Cache.ofRoot root cache.prelude

/-- Reading a prelude changes nothing, and finds the one that stands there. -/
theorem afterAction_loadPrelude (p : Path) :
    AfterAction (fun prelude v' => v' = v ∧ v.PreludeAt p prelude)
      (fun _ v' => v' = v ∧ ∀ prelude, ¬ v.PreludeAt p prelude) (Cache.loadPrelude p) v := by
  refine afterAction_bind (Q := fun prelude v' => v' = v ∧ ∃ content text,
    v.lookUp p.text = some (.file content true) ∧ Utf8.decode content = .ok text ∧
    prelude = Text.unifyNewlines text) ?_ ?_
  · refine afterAction_ask_bind ?_
    rintro reply v₁ ⟨rfl, hreply⟩
    refine afterAction_bind (Q := fun content v' => v' = v₁ ∧
      v₁.lookUp p.text = some (.file content true)) ?_ ?_
    · have hunread : ∀ refusal, reply = .error refusal → ∀ prelude, ¬ v₁.PreludeAt p prelude := by
        rintro refusal rfl prelude ⟨content, text, hlook, -⟩
        simp [hlook] at hreply
      refine afterAction_reporting ?_ (fun e he => ⟨rfl, hunread _ he⟩)
        fun refusal _ he _ => ⟨rfl, hunread refusal he⟩
      rintro content rfl
      refine ⟨rfl, ?_⟩
      split at hreply
      · next content' hlook => rw [hlook, Except.ok.inj hreply]
      · rw [Refused] at hreply
        split at hreply <;> simp at hreply
    · rintro content v₂ ⟨rfl, hlook⟩
      split
      · next text hdecode => exact afterAction_pure ⟨rfl, content, text, hlook, hdecode, rfl⟩
      · next fault hdecode =>
        refine afterAction_fail ⟨rfl, ?_⟩
        rintro prelude ⟨content', text, hlook', hdecode', -⟩
        obtain rfl : content = content' := by simpa [hlook] using hlook'
        simp [hdecode] at hdecode'
  · rintro _ v₁ ⟨rfl, content, text, hlook, hdecode, rfl⟩
    by_cases hblank : Text.trim (Text.unifyNewlines text) = []
    · simp only [hblank, List.isEmpty_nil, if_true]
      refine afterAction_fail ⟨rfl, ?_⟩
      rintro prelude ⟨content', text', hlook', hdecode', hblank', -⟩
      obtain rfl : content = content' := by simpa [hlook] using hlook'
      obtain rfl := Except.ok.inj (hdecode.symm.trans hdecode')
      exact hblank' hblank
    · simp only [List.isEmpty_iff, hblank, if_false]
      exact afterAction_pure ⟨rfl, content, text, hlook, hdecode, hblank, rfl⟩

/-- What is reported if the prelude of a cache cannot be used. -/
theorem afterAction_loadPrelude_fails (hnul : '\x00' ∉ p.text) :
    AfterAction (fun _ _ => True) (fun failure _ => ∃ e, failure = .reported e ∧ e.path? = some p)
      (Cache.loadPrelude p) v := by
  refine afterAction_bind (Q := fun _ _ => True) ?_ fun text v' _ => ?_
  · refine afterAction_ask_bind fun reply v' hanswers => ?_
    refine afterAction_bind (Q := fun _ _ => True) ?_ fun bytes v'' _ => ?_
    · refine afterAction_reporting (fun _ _ => trivial) (fun os _ => ⟨_, rfl, rfl⟩) ?_
      rintro refusal e rfl hos
      obtain ⟨rfl, hreply⟩ := hanswers
      have hrefused : Refused p.text (.error refusal : Except Refusal Bytes) := by
        split at hreply
        · simp at hreply
        · exact hreply
      obtain ⟨os, heq⟩ := hrefused.os hnul
      exact absurd (Except.error.inj heq) (hos os)
    · split
      · exact afterAction_pure trivial
      · exact afterAction_fail ⟨_, rfl, rfl⟩
  · split
    · exact afterAction_fail ⟨_, rfl, rfl⟩
    · exact afterAction_pure trivial

/-- How a call fails on a directory: what is reported, and what is left behind. -/
inductive Rejects (root : Path) (v : Volume) : RunError → Volume → Prop
  | artifacts {e : OsError} (h : ¬ v.IsDirectory (root.below "dy-cache")) :
      Rejects root v (.cacheNotCreated (root.below "dy-cache") e) v
  | prelude {e : RunError} {v' : Volume} (hmade : MadeHere v (root.below "dy-cache") (.ok ()) v')
      (hpath : e.path? = some (root.below "prelude"))
      (hunusable : ∀ prelude, ¬ v'.PreludeAt (root.below "prelude") prelude) : Rejects root v e v'

theorem Rejects.madeHere {e : RunError} (h : Rejects root v e v') :
    ∃ x, MadeHere v (root.below "dy-cache") x v' := by
  cases h with
  | @artifacts os hnot => exact ⟨_, .refused hnot fun _ => ⟨os, rfl⟩⟩
  | prelude hmade => exact ⟨_, hmade⟩

/-- **What is left to do where a directory is there**: it is completed, or it is rejected. -/
theorem afterAction_complete (hroot : root.Proper) (hdirectory : v.IsDirectory root) :
    AfterAction (fun cache v' => Ready root cache v' ∧
        MadeHere v (root.below "dy-cache") (.ok ()) v')
      (fun failure v' => ∃ e, failure = .reported e ∧ Rejects root v e v')
      (Cache.complete root) v := by
  have hartifacts := hroot.below Path.isName_artifacts
  have hnul : ∀ name : Text, '\x00' ∉ name → '\x00' ∉ (root.below name).text := fun _ =>
    Path.nul_not_mem_text_below hdirectory.1.2
  rw [Cache.complete, Path.child_eq_below _ Path.isName_artifacts,
    Path.child_eq_below _ Path.isName_prelude]
  refine afterAction_bind (afterAction_makePart (after_makeDirs_of_parent hartifacts hdirectory)
    ?_) fun _ v₁ hmade => ?_
  · rintro refusal v' (_ | _ | ⟨hnot, hos⟩) failure hreported
    obtain ⟨os, rfl⟩ := hos (hnul _ (by decide))
    exact ⟨_, hreported os rfl, .artifacts hnot⟩
  refine afterAction_bind (((afterAction_loadPrelude _).and
    (afterAction_loadPrelude_fails (hnul _ (by decide)))).imp (fun _ _ h => h.1) ?_) ?_
  · rintro failure v₂ ⟨⟨rfl, hunusable⟩, e, rfl, hpath⟩
    exact ⟨e, rfl, .prelude hmade hpath hunusable⟩
  · rintro prelude v₂ ⟨rfl, hprelude⟩
    refine afterAction_pure ⟨⟨?_, hmade.directory hartifacts, hprelude, rfl⟩, hmade⟩
    exact hdirectory.of_extends (hmade.way hartifacts).extends

/-- **One call**: what it leaves behind, and its value. -/
theorem afterAction_ensure (hroot : root.Proper) :
    AfterAction (fun cache v' => Ready root cache v' ∧ Keeps root v v')
      (fun _ v' => Keeps root v v') (Cache.ensure root) v := by
  have hcomplete : ∀ v₁, v₁.IsDirectory root →
      (∀ x v₂, MadeHere v₁ (root.below "dy-cache") x v₂ → Keeps root v v₂) →
      AfterAction (fun cache v' => Ready root cache v' ∧ Keeps root v v')
        (fun _ v' => Keeps root v v') (Cache.complete root) v₁ := by
    intro v₁ hdirectory hkeeps
    refine (afterAction_complete hroot hdirectory).imp ?_ ?_
    · rintro cache v₂ ⟨hready, hmade⟩
      exact ⟨hready, hkeeps _ v₂ hmade⟩
    · rintro failure v₂ ⟨e, -, hrejects⟩
      obtain ⟨x, hmade⟩ := hrejects.madeHere
      exact hkeeps x v₂ hmade
  rw [Cache.ensure_eq]
  refine afterAction_bind ((afterAction_isDir hroot).imp (fun _ _ h => h) ?_) ?_
  · rintro _ v' ⟨rfl, -⟩
    exact (MakesWay.refl _ v').onlyAdds.keeps
  rintro found v' ⟨rfl, hfound⟩
  cases found with
  | true =>
    exact hcomplete v' (hfound.1 rfl) fun x v₂ hmade =>
      (hmade.onlyAdds hroot (.refl _ v')).keeps
  | false =>
    have hunseen : ¬ v'.IsDirectory root := by simpa using hfound
    refine afterAction_bind ((afterAction_publish hroot).imp (fun _ _ h => h) fun _ _ hway =>
      hway.onlyAdds.keeps) ?_
    rintro _ v₂ ⟨v₁, hmade, ⟨rfl, hdirectory⟩ | ⟨top, hpublished⟩⟩
    · exact hcomplete v₂ hdirectory fun x v₃ hmade' => (hmade'.onlyAdds hroot hmade.way).keeps
    · refine hcomplete v₂ (hpublished.isDirectory hroot) fun x v₃ hmade' => ?_
      rw [hpublished.eq_of_madeHere hroot hmade']
      exact hpublished.keeps hroot hunseen hmade

/-! ### One call more -/

/-- A call that has come to an end. -/
def Calls (root : Path) (v : Volume) (result : Except Failure Cache) (v' : Volume) : Prop :=
  ∃ t, (Cache.ensure root).run.Runs t result ∧ v.Along t v'

theorem exists_calls (root : Path) (v : Volume) : ∃ result v', Calls root v result v' := by
  obtain ⟨t, result, v', hruns, halong⟩ := v.exists_runs (Cache.ensure root).run
  exact ⟨result, v', t, hruns, halong⟩

/-- **A cache that is ready is found as it is**, and nothing changes. -/
theorem afterAction_ensure_of_ready (hroot : root.Proper) (h : Ready root cache v) :
    AfterAction (fun cache' v' => cache' = cache ∧ v' = v) (fun _ _ => False)
      (Cache.ensure root) v := by
  have hartifacts := hroot.below Path.isName_artifacts
  refine afterAction_bind ((afterAction_isDir hroot).imp (fun _ _ h => h) ?_) ?_
  · rintro _ v' ⟨-, hnot⟩
    exact hnot h.directory
  rintro found v' ⟨rfl, hfound⟩
  obtain rfl := hfound.2 h.directory
  rw [Path.child_eq_below _ Path.isName_artifacts, Path.child_eq_below _ Path.isName_prelude]
  refine afterAction_bind (afterAction_makePart
    (after_makeDirs_of_directory hartifacts h.artifacts) ?_) ?_
  · rintro refusal v₂ ⟨hok, -⟩
    simp at hok
  rintro _ v₂ ⟨-, rfl⟩
  refine afterAction_bind ((afterAction_loadPrelude _).imp (fun _ _ h => h) ?_) ?_
  · rintro _ v₃ ⟨-, hunread⟩
    exact hunread _ h.prelude
  · rintro prelude v₃ ⟨rfl, hprelude⟩
    obtain rfl := h.prelude.unique hprelude
    exact afterAction_pure ⟨h.parts.symm, rfl⟩

/-- **To call once more is possible, changes nothing and has the same value.** -/
theorem calls_of_ready (hroot : root.Proper) (h : Ready root cache v) :
    Calls root v (.ok cache) v ∧
      ∀ result v', Calls root v result v' → result = .ok cache ∧ v' = v := by
  have hagain : ∀ result v', Calls root v result v' → result = .ok cache ∧ v' = v := by
    rintro result v' ⟨t, hruns, halong⟩
    have hafter := (afterAction_ensure_of_ready hroot h).of_runs hruns halong
    rcases result with failure | cache'
    · exact hafter.elim
    · obtain ⟨rfl, rfl⟩ := hafter
      exact ⟨rfl, rfl⟩
  obtain ⟨result, v', hcalls⟩ := exists_calls root v
  obtain ⟨rfl, rfl⟩ := hagain result v' hcalls
  exact ⟨hcalls, hagain⟩

/-! ### Histories -/

/-- What happens to a volume: a call, or an edit by anybody. -/
inductive Event where
  | call (before : Volume) (result : Except Failure Cache) (after : Volume)
  | edit (before after : Volume)

/-- The events lead from one volume to another. -/
inductive History (root : Path) : Volume → List Event → Volume → Prop
  | nil (v : Volume) : History root v [] v
  | call {v v₁ v' : Volume} {result : Except Failure Cache} {events : List Event}
    (hcalls : Calls root v result v₁) (h : History root v₁ events v') :
    History root v (.call v result v₁ :: events) v'
  | edit {v v₁ v' : Volume} {events : List Event} (h : History root v₁ events v') :
    History root v (.edit v v₁ :: events) v'

/-- What is promised of a call. -/
structure Promised (root : Path) (before : Volume) (result : Except Failure Cache)
    (after : Volume) : Prop where
  ready : ∀ cache, result = .ok cache → Ready root cache after
  again : ∀ cache, result = .ok cache → Calls root after (.ok cache) after ∧
    ∀ result' after', Calls root after result' after' → result' = .ok cache ∧ after' = after
  keeps : Keeps root before after

theorem Calls.promised (hroot : root.Proper) {result : Except Failure Cache}
    (h : Calls root v result v') : Promised root v result v' := by
  obtain ⟨t, hruns, halong⟩ := h
  have hafter := (afterAction_ensure hroot).of_runs hruns halong
  rcases result with failure | cache
  · exact ⟨by simp, by simp, hafter⟩
  · have hready : ∀ cache', Except.ok cache = (Except.ok cache' : Except Failure Cache) →
        Ready root cache' v' := by
      intro cache' hcache
      obtain rfl := Except.ok.inj hcache
      exact hafter.1
    exact ⟨hready, fun cache' hcache => calls_of_ready hroot (hready cache' hcache), hafter.2⟩

/-- **A cache is written once.** Every call of a history keeps its promises. If the path of the
cache does not lead upwards, whatever stands somewhere stays as it is as long as no edit changes
it. -/
theorem history_keeps (hroot : root.Proper) {events : List Event}
    (h : History root v events v') :
    (∀ before result after, .call before result after ∈ events →
      Promised root before result after) ∧
    (['.', '.'] ∉ root.parts → ∀ place item, v.entry place = some item →
      (∀ before after, .edit before after ∈ events → before.entry place = some item →
        after.entry place = some item) → v'.entry place = some item) := by
  induction h with
  | nil v => exact ⟨by simp, fun _ _ _ hitem _ => hitem⟩
  | @call v v₁ v' result events hcalls h ih =>
    have hpromised := hcalls.promised hroot
    refine ⟨fun before result' after hmem => ?_, fun hdots place item hitem hedits => ?_⟩
    · rcases List.mem_cons.1 hmem with heq | hmem
      · obtain ⟨rfl, rfl, rfl⟩ := Event.call.inj heq
        exact hpromised
      · exact ih.1 before result' after hmem
    · exact ih.2 hdots place item ((hpromised.keeps.plain hdots).kept place item hitem)
        fun before after hmem => hedits before after (List.mem_cons_of_mem _ hmem)
  | @edit v v₁ v' events h ih =>
    refine ⟨fun before result after hmem => ?_, fun hdots place item hitem hedits => ?_⟩
    · exact ih.1 before result after (by simpa using hmem)
    · exact ih.2 hdots place item (hedits v v₁ List.mem_cons_self hitem)
        fun before after hmem => hedits before after (List.mem_cons_of_mem _ hmem)

/-- An empty directory. -/
def emptyDirectory : Volume :=
  bare.put [] "b" (.directory true) ⟨true, rfl⟩ rfl

/-- A prelude that is not the default one. -/
def editedPrelude : Text := "use std::env;\n"

/-- The directory has come to hold a cache with another prelude. -/
def edited : Volume :=
  (emptyDirectory.put ["b"] "dy-cache" (.directory true) ⟨true, rfl⟩ rfl).put ["b"] "prelude"
    (.file (Utf8.encode editedPrelude) true) ⟨true, rfl⟩ rfl

/-- A prelude that has been edited is used and kept. -/
theorem history_keeps_edited :
    let root : Path := ⟨[], ["b"]⟩
    let cache := Cache.ofRoot root editedPrelude
    let events : List Event := [.edit emptyDirectory edited, .call edited (.ok cache) edited]
    root.Proper ∧ History root emptyDirectory events edited ∧
      Promised root edited (.ok cache) edited := by
  intro root cache events
  have hproper : root.Proper := ⟨.inl rfl, by simp [root, Path.IsName, Path.isKept]⟩
  have hready : Ready root cache edited := by
    refine ⟨⟨by decide +kernel, ["b"], true, by decide +kernel, rfl⟩,
      ⟨by decide +kernel, ["b", "dy-cache"], true, by decide +kernel, rfl⟩,
      ⟨Utf8.encode editedPrelude, editedPrelude, by decide +kernel, Utf8.decode_encode _,
        by decide +kernel, by decide +kernel⟩, rfl⟩
  have hhistory : History root emptyDirectory events edited :=
    .edit (.call (calls_of_ready hproper hready).1 (.nil edited))
  have hmem : Event.call edited (.ok cache) edited ∈ events := by simp [events]
  exact ⟨hproper, hhistory, (history_keeps hproper hhistory).1 _ _ _ hmem⟩

/-! ### An empty directory that is displaced -/

/-- The path of the empty directory by way of another one, which is missing. -/
def detour : Path :=
  ⟨[], ["a", "..", "b"]⟩

/-- The other directory has been made. -/
def detourMade : Volume :=
  emptyDirectory.put [] "a" (.directory true) ⟨true, rfl⟩ rfl

/-- The name of the staging directory. -/
def detourStaging : Text := "a/../.b-x"

/-- The staging directory has been made. -/
def detourStaged : Volume :=
  detourMade.put [] ".b-x" (.directory true) ⟨true, rfl⟩ rfl

/-- The prelude has been written. -/
def detourWritten : Volume :=
  detourStaged.put [".b-x"] "prelude" (.file (Utf8.encode Program.defaultPrelude) true)
    ⟨true, rfl⟩ rfl

/-- The staging directory has been filled. -/
def detourFilled : Volume :=
  detourWritten.put [".b-x"] "dy-cache" (.directory true) ⟨true, rfl⟩ rfl

/-- The staging directory has taken the place of the empty one. -/
def detourTaken : Volume :=
  detourFilled.move [".b-x"] [] "b" ⟨true, rfl⟩ (by decide)

/-- What passes between a call and its host until the prelude is read. -/
def detourTrace : Trace :=
  let missing : Refusal := .os ⟨.noEntry, none, none⟩
  let there : Refusal := .os ⟨.alreadyThere, none, none⟩
  let staging := Path.ofText detourStaging
  [⟨.kind detour.text, .error missing⟩,
    ⟨.makeDir detour.parent.text, .error missing⟩,
    ⟨.makeDir detour.parent.parent.text, .ok ()⟩,
    ⟨.makeDir detour.parent.text, .error there⟩,
    ⟨.kind detour.parent.text, .ok .directory⟩,
    ⟨.makeStaging detour.parent.text (['.'] ++ detour.name ++ ['-']), .ok detourStaging⟩,
    ⟨.create (staging.child "prelude").text (Utf8.encode Program.defaultPrelude), .ok ()⟩,
    ⟨.makeDir (staging.child "dy-cache").text, .ok ()⟩,
    ⟨.rename staging.text detour.text, .ok ()⟩,
    ⟨.makeDir (detour.child "dy-cache").text, .error there⟩,
    ⟨.kind (detour.child "dy-cache").text, .ok .directory⟩]

theorem runs_detourTrace {t : Trace} {prelude : Text}
    (h : (Cache.loadPrelude (detour.child "prelude")).run.Runs t (.ok prelude)) :
    (Cache.ensure detour).run.Runs (detourTrace ++ t) (.ok (Cache.ofRoot detour prelude)) := by
  have hend : (do return Cache.ofRoot detour (← Cache.loadPrelude (detour.child "prelude")) :
      Action Cache).run.Runs t (.ok (Cache.ofRoot detour prelude)) :=
    Action.runs_bind.2 (.inl ⟨t, [], prelude, (List.append_nil t).symm, h, rfl, rfl⟩)
  exact ⟨_, _, rfl, _, _, rfl, _, _, rfl, _, _, rfl, _, _, rfl, _, _, rfl, _, _, rfl, _, _, rfl,
    _, _, rfl, _, _, rfl, _, _, rfl, hend⟩

/-- A path text that leads nowhere, and has no place, is free. -/
theorem not_taken {text : Text} (hreach : v.reach text = none)
    (hslot : ∀ place, v.slot text = some place → v.entry place = none) : ¬ v.Taken text := by
  rintro (h | ⟨place, hplace, hentry⟩)
  · exact h hreach
  · exact hentry (hslot place hplace)

theorem answers_makeDir_there {text : Text} (h : v.reach text ≠ none) {e : OsError}
    (he : e.cause = .alreadyThere) : v.Answers (.makeDir text) (.error (.os e)) v :=
  ⟨fun _ => ⟨rfl, e, rfl, he⟩, fun hfree => absurd (.inl h) hfree⟩

theorem answers_makeDir_new {text name : Text}
    (hdir : ∃ searchable, v.entry place = some (.directory searchable))
    (habsent : v.entry (place ++ [name]) = none) (hreach : v.reach text = none)
    (hslot : v.slot text = some (place ++ [name])) :
    v.Answers (.makeDir text) (.ok ()) (v.put place name (.directory true) hdir habsent) := by
  have hfree : ¬ v.Taken text := not_taken hreach fun found hfound => by
    obtain rfl := Option.some.inj (hslot.symm.trans hfound)
    exact habsent
  exact ⟨fun h => absurd h hfree, fun _ => .inr ⟨_, true, hslot, rfl, rfl, rfl⟩⟩

theorem along_detourTrace : emptyDirectory.Along detourTrace detourTaken := by
  refine ⟨emptyDirectory, ⟨rfl, ?_⟩, emptyDirectory, ?_, detourMade, ?_, detourMade, ?_, detourMade,
    ⟨rfl, ?_⟩, detourStaged, ?_, detourWritten, ?_, detourFilled, ?_, detourTaken, ?_, detourTaken,
    ?_, detourTaken, ⟨rfl, ?_⟩, rfl⟩
  · have hlook : emptyDirectory.lookUp detour.text = none := by decide +kernel
    rw [hlook]
    exact ⟨_, rfl⟩
  · have hfree : ¬ emptyDirectory.Taken detour.parent.text := by
      refine not_taken (by decide +kernel) fun place hplace => ?_
      have hslot : emptyDirectory.slot detour.parent.text = none := by decide +kernel
      simp [hslot] at hplace
    exact ⟨fun h => absurd h hfree, fun _ => .inl ⟨rfl, _, rfl⟩⟩
  · exact answers_makeDir_new ⟨true, rfl⟩ rfl (by decide +kernel) (by decide +kernel)
  · exact answers_makeDir_there (by decide +kernel) rfl
  · have hlook : detourMade.lookUp detour.parent.text = some (.directory true) := by decide +kernel
    rw [hlook]
  · exact .inr ⟨[], ".b-x", detourStaging, by decide +kernel, by decide, by decide, rfl, rfl,
      ⟨rfl, rfl⟩, by decide +kernel⟩
  · exact .inr ⟨[".b-x", "prelude"], _, true, by decide +kernel, rfl, ⟨rfl, rfl⟩, .inl ⟨rfl, rfl⟩⟩
  · exact answers_makeDir_new ⟨true, rfl⟩ rfl (by decide +kernel) (by decide +kernel)
  · refine .inr ⟨[".b-x"], ["b"], true, by decide +kernel, by decide +kernel, rfl,
      .inr ⟨⟨true, rfl⟩, fun name => ?_⟩, by decide, rfl, rfl, rfl⟩
    simp [detourFilled, detourWritten, detourStaged, detourMade, emptyDirectory, bare, put]
  · exact answers_makeDir_there (by decide +kernel) rfl
  · have hlook : detourTaken.lookUp (detour.child "dy-cache").text = some (.directory true) := by
      decide +kernel
    rw [hlook]

theorem preludeAt_detourTaken :
    detourTaken.PreludeAt (detour.below "prelude") Program.defaultPrelude := by
  refine ⟨Utf8.encode Program.defaultPrelude, Program.defaultPrelude, ?_, Utf8.decode_encode _,
    Program.trim_defaultPrelude_ne_nil, Program.unifyNewlines_defaultPrelude.symm⟩
  have hreach : detourTaken.reach (detour.below "prelude").text = some ["b".toList, "prelude"] := by
    decide +kernel
  rw [lookUp, hreach]
  rfl

/-- **An empty directory that was there before gives way to a cache**: a directory without a prelude
gets one. -/
theorem ensure_displaces : ∃ cache v', Calls detour emptyDirectory (.ok cache) v' ∧
    Displaces detour emptyDirectory v' ∧ ¬ OnlyAdds detour emptyDirectory v' := by
  have hproper : detour.Proper := ⟨.inl rfl, by simp [detour, Path.IsName, Path.isKept]⟩
  obtain ⟨t, result, v', hload, halong⟩ :=
    detourTaken.exists_runs (Cache.loadPrelude (detour.below "prelude")).run
  have hafter := (afterAction_loadPrelude (detour.below "prelude")).of_runs hload halong
  rcases result with failure | prelude
  · exact absurd preludeAt_detourTaken (hafter.2 _)
  obtain ⟨rfl, -⟩ := hafter
  rw [← Path.child_eq_below _ Path.isName_prelude] at hload
  have hcalls : Calls detour emptyDirectory (.ok (Cache.ofRoot detour prelude)) detourTaken :=
    ⟨_, runs_detourTrace hload, along_append.2 ⟨detourTaken, along_detourTrace, halong⟩⟩
  have hfind : detourTaken.find detour = some ["b".toList] := by decide +kernel
  have habsent : emptyDirectory.entry (["b".toList] ++ ["prelude".toList]) = none := rfl
  have hmore : ¬ OnlyAdds detour emptyDirectory detourTaken :=
    not_onlyAdds (by decide) habsent hfind rfl
  exact ⟨_, _, hcalls, (hcalls.promised hproper).keeps.frame.resolve_left hmore, hmore⟩

end Volume

end Oneshot
