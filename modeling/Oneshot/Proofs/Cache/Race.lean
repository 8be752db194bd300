import Mathlib.Logic.Hydra
import Oneshot.Proofs.Cache.Ensure
import Oneshot.Proofs.Cache.History

/-!
# Races for a Cache

Any number of calls build a cache at one place that is free at the start. Each is a tree of
requests, and a step of the race is one request of one of them, answered by a host that they share
and that refuses nothing without need. A competitor that is none of the calls may put a cache of its
own there, with one change to the volume.

What holds at all times is kept as an invariant of the volume and the calls (`Site.Orderly`): each
call is careful in its seat, no two of them have the same staging directory, and beside the cache
nothing is new except for these staging directories and directories on the way to the cache. A
request of one call preserves it, because its guarantee is what all others rely on; and so does the
change of the competitor.

* `Site.Orderly.step`, `Site.Orderly.publishes`: what a step preserves.
* `Race.cutExpand_of_step`: with each step, one call is replaced by a smaller one.
* `Race.inevitable_allDone`: however the calls take turns, all of them come to an end.
* `Race.ensure_atomic`: the cache is never there in part, all calls end with the same cache, and
  nothing else is left behind.
* `Race.ensure_detour`: making the directories above the cache may bring about a directory in its
  place. `Volume.Admits` excludes this, and a path without `..` does
  (`Volume.absent_of_plain`).
-/

namespace Oneshot

open Virtual (Place)

/-! ### Races -/

/-- Calls that share a volume. -/
structure Race where
  volume : Volume
  calls : List (Routine (Except Failure Cache))

namespace Race

/-- One of the calls makes its next request. -/
inductive Step : Race → Race → Prop
  | turn {v v' : Volume} {before after : List (Routine (Except Failure Cache))} {request : Request}
      {next : request.Reply → Routine (Except Failure Cache)} {reply : request.Reply}
      (h : v.Serves request reply v') :
      Step ⟨v, before ++ .ask request next :: after⟩ ⟨v', before ++ next reply :: after⟩

/-- One race comes from another by steps of the calls, in any order. -/
def Reaches : Race → Race → Prop :=
  Relation.ReflTransGen Step

/-- All calls have come to an end. -/
def AllDone (race : Race) : Prop :=
  ∀ call ∈ race.calls, ∃ x, call = .done x

/-- Whatever steps are made, the goal is reached: there is a step until it is reached, and no
infinite sequence of steps avoids it. -/
inductive Inevitable (goal : Race → Prop) : Race → Prop
  | reached {race : Race} (h : goal race) : Inevitable goal race
  | next {race : Race} (hlive : ∃ race', race.Step race')
      (hnext : ∀ race', race.Step race' → Inevitable goal race') : Inevitable goal race

/-- A race in which not all calls have come to an end goes on. -/
theorem exists_step {race : Race} (hnot : ¬ race.AllDone) : ∃ race', race.Step race' := by
  obtain ⟨v, calls⟩ := race
  simp only [AllDone, not_forall] at hnot
  obtain ⟨call, hcall, hgoing⟩ := hnot
  obtain ⟨before, after, rfl⟩ := List.append_of_mem hcall
  cases call with
  | done x => exact absurd ⟨x, rfl⟩ hgoing
  | ask request next =>
    obtain ⟨reply, v', hserves⟩ := v.exists_serves request
    exact ⟨_, .turn hserves⟩

end Race

namespace Volume

/-- A cache can be built at a path: the directories above it can be made, then nothing has its name,
and there are names for staging directories beside it. -/
structure Admits (start : Volume) (root : Path) (names : Finset Text) (ready : Volume)
    (top : Place) : Prop where
  proper : root.Proper
  roomy : Roomy root
  made : ∃ t, (Files.makeDirs root.parent).Runs t (.ok ()) ∧ start.Along t ready
  slot : ready.slot root.text = some top
  absent : ready.entry top = none
  spare : ∀ name ∈ names, ready.Spare top.dropLast (['.'] ++ root.name ++ ['-']) name ∧
    Roomy (root.parent.below name)

/-- A competitor puts a complete cache at a place that is still free, with the directories above it
that are missing. -/
structure Publishes (v ready : Volume) (top : Place) (content : Bytes) (v' : Volume) : Prop where
  absent : v.entry top = none
  kept : v ≤ v'
  prepared : ready ≤ v'
  cache : v'.HoldsCache top content
  elsewhere : ∀ place, ¬ top <+: place → ready.entry place = none →
    v'.entry place = v.entry place

/-- Apart from the cache and the directories above it, the volume is as it was at the start. -/
def CleanBeside (v start ready : Volume) (top : Place) : Prop :=
  ∀ place, ¬ top <+: place →
    v.entry place = start.entry place ∨ v.entry place = ready.entry place

theorem HoldsCache.content_eq {v : Volume} {top : Place} {content content' : Bytes}
    (h : v.HoldsCache top content) (h' : v.HoldsCache top content') : content = content' := by
  have hfile := h.prelude.symm.trans h'.prelude
  simpa using hfile

/-- **A path without `..` that leads nowhere does not come to lead anywhere** when the directories
above it are made. -/
theorem absent_of_plain {start ready : Volume} {root : Path} {top : Place} {t : Trace}
    (hroot : root.Proper) (hdots : ['.', '.'] ∉ root.parts) (hfree : ¬ start.Taken root.text)
    (hruns : (Files.makeDirs root.parent).Runs t (.ok ())) (halong : start.Along t ready)
    (hslot : ready.slot root.text = some top) : ready.entry top = none := by
  obtain ⟨-, hspot⟩ := slot_text hroot hslot
  obtain ⟨parent, name, rfl, hname⟩ := exists_of_spot hroot hspot
  obtain ⟨dir, hdir, hdirectory, -, rfl⟩ := (spot_below parent hname.2).1 hspot
  rw [Path.parent_below] at hruns
  have hproper := hroot.of_le (parent.le_below name)
  have hmade := (after_makeDirs hproper).of_runs hruns halong
  rcases hmade.fresh rfl fun hmem => hdots (List.mem_append_left _ hmem) with rfl | hfresh
  · by_contra hthere
    exact hfree (.inr ⟨_, hslot, hthere⟩)
  · obtain ⟨place, hplace, -, hempty⟩ := hfresh
    obtain rfl := Option.some.inj (hdir.symm.trans hplace)
    exact hempty name

/-- A competitor can put a cache wherever one can be built. -/
theorem exists_publishes {start ready : Volume} {dir : Place} {name : Text} (hle : start ≤ ready)
    (hdirectory : ready.entry dir = some (.directory true))
    (habsent : ready.entry (dir ++ [name]) = none) (content : Bytes) :
    ∃ v, start.Publishes ready (dir ++ [name]) content v := by
  let top := dir ++ [name]
  let v₁ := ready.put dir name (.directory true) ⟨true, hdirectory⟩ habsent
  have htop₁ : v₁.entry top = some (.directory true) := Function.update_self ..
  have hbelow₁ : ∀ part : Text, v₁.entry (top ++ [part]) = none := fun part =>
    (Function.update_of_ne (by simp [top]) _ _).trans
      (entry_eq_none habsent (List.prefix_append _ _))
  let v₂ := v₁.put top "prelude" (.file content true) ⟨true, htop₁⟩ (hbelow₁ _)
  have htop₂ : v₂.entry top = some (.directory true) :=
    (Function.update_of_ne (by simp) _ _).trans htop₁
  have hartifacts₂ : v₂.entry (top ++ ["dy-cache".toList]) = none :=
    (Function.update_of_ne (Site.prelude_ne_artifacts top).symm _ _).trans (hbelow₁ _)
  let v₃ := v₂.put top "dy-cache" (.directory true) ⟨true, htop₂⟩ hartifacts₂
  have helsewhere : ∀ place, ¬ top <+: place → v₃.entry place = ready.entry place :=
    fun place hplace => by
      have hne : ∀ rest, place ≠ top ++ rest := fun rest heq =>
        hplace (heq ▸ List.prefix_append _ _)
      calc v₃.entry place = v₂.entry place := Function.update_of_ne (hne _) _ _
        _ = v₁.entry place := Function.update_of_ne (hne _) _ _
        _ = ready.entry place := Function.update_of_ne (by simpa using hne []) _ _
  have hprepared : ready ≤ v₃ := ⟨rfl, fun place item hitem => by
    rw [helsewhere place fun hplace => ?_, hitem]
    rw [entry_eq_none habsent hplace] at hitem
    simp at hitem⟩
  refine ⟨v₃, ?_, hle.trans hprepared, hprepared, ⟨?_, ?_, Function.update_self ..⟩, ?_⟩
  · by_contra hthere
    exact (extends_of_le hle).entry_ne_none hthere habsent
  · exact (Function.update_of_ne (by simp [top]) _ _).trans htop₂
  · exact (Function.update_of_ne (Site.prelude_ne_artifacts top) _ _).trans
      (Function.update_self ..)
  · intro place hplace hready
    rw [helsewhere place hplace, hready]
    by_contra hthere
    exact (extends_of_le hle).entry_ne_none (Ne.symm hthere) hready

end Volume

namespace Site

variable {s : Site} {v v' : Volume} {own : Option Place} {place : Place}

/-- What holds at the start. -/
theorem shared_before (s : Site) : s.Shared s.before where
  kept := le_rfl
  lags := .of_le s.before_le_ready
  complete hthere := by
    obtain ⟨item, hitem⟩ := Option.ne_none_iff_exists'.1 hthere
    have hready := s.before_le_ready.2 _ item hitem
    rw [show s.ready.entry s.top = none from s.absent] at hready
    simp at hready

/-- The change of a competitor is one that every run may find. -/
theorem interferes_of_publishes {content : Bytes} (hshared : s.Shared v)
    (h : v.Publishes s.ready s.top content v') (hallowed : s.Allowed content)
    (hown : ∀ p, own = some p → s.IsStaging p) : s.Interferes own v v' where
  shared := {
    kept := hshared.kept.trans h.kept
    lags := .of_ge h.prepared
    complete := fun _ => ⟨h.prepared, content, hallowed, h.cache⟩ }
  lasting place item _ hitem := h.kept.2 place item hitem
  top hthere := absurd h.absent hthere
  own p hp other hle := h.elsewhere other ((hown p hp).not_below_top hle)
    ((hown p hp).ready_eq_none hle)

/-! ### The invariant -/

/-- How a call ends: with the cache that is there, and without a staging directory. -/
def Ends (s : Site) (x : Except Failure Cache) (own : Option Place) (v : Volume) : Prop :=
  ∃ cache, x = .ok cache ∧ own = none ∧ ∃ prelude, s.Loads prelude v ∧
    cache = Cache.ofRoot s.root prelude

theorem Ends.of_interferes {x : Except Failure Cache} (h : s.Ends x own v)
    (hv : s.Interferes own v v') : s.Ends x own v' := by
  obtain ⟨cache, rfl, rfl, prelude, ⟨content, text, hdecode, hcache, rfl⟩, rfl⟩ := h
  have hthere : v.entry s.top ≠ none := by simp [hcache.directory]
  exact ⟨_, rfl, rfl, _, ⟨content, text, hdecode, hcache.of_entry_eq (hv.top hthere), rfl⟩, rfl⟩

theorem Ends.top_ne_none {x : Except Failure Cache} (h : s.Ends x own v) :
    v.entry s.top ≠ none := by
  obtain ⟨-, -, -, -, ⟨content, text, -, hcache, -⟩, -⟩ := h
  simp [hcache.directory]

/-- What a call returns when the prelude of the cache that is there is known. -/
theorem Ends.eq {x : Except Failure Cache} {content : Bytes} {text : Text} (h : s.Ends x own v)
    (hcache : v.HoldsCache s.top content) (hdecode : Utf8.decode content = .ok text) :
    x = .ok (Cache.ofRoot s.root (Text.unifyNewlines text)) := by
  obtain ⟨cache, rfl, -, prelude, ⟨content', text', hdecode', hcache', rfl⟩, rfl⟩ := h
  obtain rfl := hcache.content_eq hcache'
  rw [hdecode] at hdecode'
  obtain rfl := Except.ok.inj hdecode'
  rfl

/-- A call of a race, and the staging directory that it has. -/
structure Seat where
  call : Routine (Except Failure Cache)
  own : Option Place

/-- Two calls have no staging directory in common. -/
def Seat.Apart (seat other : Seat) : Prop :=
  ∀ p, seat.own = some p → other.own ≠ some p

theorem Seat.Apart.symm {seat other : Seat} (h : seat.Apart other) : other.Apart seat :=
  fun p hp hp' => h p hp' hp

/-- What holds at all times of the volume and the calls. -/
structure Orderly (s : Site) (v : Volume) (seats : List Seat) : Prop where
  shared : s.Shared v
  careful : ∀ seat ∈ seats, s.Careful s.Ends seat.call seat.own v
  staging : ∀ seat ∈ seats, ∀ p, seat.own = some p →
    s.IsStaging p ∧ v.entry p = some (.directory true)
  apart : seats.Pairwise Seat.Apart
  beside : ∀ place, ¬ s.top <+: place → s.ready.entry place = none →
    v.entry place = none ∨ ∃ seat ∈ seats, ∃ p, seat.own = some p ∧ p <+: place
  crowd : seats.length ≤ s.names.card

/-- At the start no call has a staging directory. -/
theorem orderly_before {n : ℕ} (hn : n ≤ s.names.card) :
    s.Orderly s.before (List.replicate n ⟨(Cache.ensure s.root).run, none⟩) where
  shared := s.shared_before
  careful seat hseat := by
    rw [List.eq_of_mem_replicate hseat]
    exact carefulAction_ensure
  staging seat hseat p hp := by
    rw [List.eq_of_mem_replicate hseat] at hp
    simp at hp
  apart := by
    refine List.pairwise_replicate.2 (.inr fun p hp => ?_)
    simp at hp
  beside place _ hready := by
    refine .inl (by_contra fun hthere => ?_)
    exact (Volume.extends_of_le s.before_le_ready).entry_ne_none hthere hready
  crowd := by simpa using hn

section Turn

variable {before after : List Seat} {request : Request}
  {next : request.Reply → Routine (Except Failure Cache)} {reply : request.Reply}
  {call call' : Routine (Except Failure Cache)} {own' : Option Place}

private theorem mem_middle {seat seat' : Seat} :
    seat' ∈ before ++ seat :: after ↔ seat' = seat ∨ seat' ∈ before ++ after := by
  rw [List.perm_middle.mem_iff, List.mem_cons]

/-- A name that is left in the end and that no call has is left now. -/
theorem Orderly.spare {seats : List Seat} (h : s.Orderly v seats) {name : Text}
    (hname : name ∈ s.names) (hfree : ∀ seat ∈ seats, seat.own ≠ some (s.dir ++ [name])) :
    v.Spare s.dir s.label name := by
  obtain ⟨hlabel, hisName, hisStep, hnul, hlength, habsent⟩ := (s.spare name hname).1
  have hstaging : s.IsStaging (s.dir ++ [name]) := ⟨name, rfl, hlabel, habsent⟩
  refine ⟨hlabel, hisName, hisStep, hnul, hlength, ?_⟩
  refine (h.beside _ (hstaging.not_below_top (List.prefix_refl _)) habsent).resolve_right ?_
  rintro ⟨seat, hseat, p, hp, hle⟩
  obtain rfl := (h.staging seat hseat p hp).1.unique hstaging hle (List.prefix_refl _)
  exact hfree seat hseat hp

/-- **A call without a staging directory finds a name for one**: the others have fewer. -/
theorem Orderly.spared (h : s.Orderly v (before ++ ⟨call, none⟩ :: after)) : s.Spared v := by
  by_contra hnone
  have hclaimed : s.names.image (fun name => some (s.dir ++ [name])) ⊆
      ((before ++ after).map Seat.own).toFinset := by
    intro place hplace
    obtain ⟨name, hname, rfl⟩ := Finset.mem_image.1 hplace
    by_contra hfree
    refine hnone ⟨name, h.spare hname fun seat hseat hown => ?_,
      (s.spare name hname).2⟩
    rcases mem_middle.1 hseat with rfl | hother
    · simp at hown
    · exact hfree (List.mem_toFinset.2 (List.mem_map.2 ⟨seat, hother, hown⟩))
  have hcard := (Finset.card_le_card hclaimed).trans (List.toFinset_card_le _)
  rw [Finset.card_image_of_injective _ fun name name' heq => by simpa using heq, List.length_map,
    List.length_append] at hcard
  have hcrowd := h.crowd
  simp only [List.length_append, List.length_cons] at hcrowd
  omega

/-- What a call does within its guarantee is what any other call may find. -/
theorem Orderly.interferes (h : s.Orderly v (before ++ ⟨call, own⟩ :: after))
    (hg : s.Guarantees own v own' v') :
    ∀ other ∈ before ++ after, s.Interferes other.own v v' := by
  have hapart := List.pairwise_cons.1 ((List.pairwise_middle Seat.Apart.symm).1 h.apart)
  intro other hother
  refine hg.interferes (fun p hp => (h.staging _ (mem_middle.2 (.inl rfl)) p hp).1)
    (fun p hp => h.staging other (mem_middle.2 (.inr hother)) p hp)
    fun p hp hp' => hapart.1 other hother p hp' hp

theorem Orderly.staging_of_guarantees (h : s.Orderly v (before ++ ⟨call, own⟩ :: after))
    (hg : s.Guarantees own v own' v') :
    ∀ seat ∈ before ++ ⟨call', own'⟩ :: after, ∀ p, seat.own = some p →
      s.IsStaging p ∧ v'.entry p = some (.directory true) := by
  intro seat hseat p hp
  rcases mem_middle.1 hseat with rfl | hother
  · obtain ⟨hdirectory, hkept | ⟨-, hstaging, -⟩⟩ := hg.taken p hp
    · exact ⟨(h.staging _ (mem_middle.2 (.inl rfl)) p hkept).1, hdirectory⟩
    · exact ⟨hstaging, hdirectory⟩
  · obtain ⟨hstaging, hdirectory⟩ := h.staging seat (mem_middle.2 (.inr hother)) p hp
    exact ⟨hstaging,
      by rw [(h.interferes hg seat hother).own p hp p (List.prefix_refl _), hdirectory]⟩

theorem Orderly.apart_of_guarantees (h : s.Orderly v (before ++ ⟨call, own⟩ :: after))
    (hg : s.Guarantees own v own' v') :
    (before ++ ⟨call', own'⟩ :: after).Pairwise Seat.Apart := by
  have hapart := List.pairwise_cons.1 ((List.pairwise_middle Seat.Apart.symm).1 h.apart)
  refine (List.pairwise_middle Seat.Apart.symm).2 (List.pairwise_cons.2 ⟨?_, hapart.2⟩)
  intro other hother p hp hp'
  obtain ⟨-, hkept | ⟨-, -, habsent⟩⟩ := hg.taken p hp
  · exact hapart.1 other hother p hkept hp'
  · have hdirectory := (h.staging other (mem_middle.2 (.inr hother)) p hp').2
    simp [habsent] at hdirectory

theorem Orderly.beside_of_guarantees (h : s.Orderly v (before ++ ⟨call, own⟩ :: after))
    (hg : s.Guarantees own v own' v') (htop : ¬ s.top <+: place)
    (hready : s.ready.entry place = none) :
    v'.entry place = none ∨
      ∃ seat ∈ before ++ ⟨call', own'⟩ :: after, ∃ p, seat.own = some p ∧ p <+: place := by
  refine or_iff_not_imp_right.2 fun hfree => ?_
  push Not at hfree
  have hown' : ∀ p, own' = some p → ¬ p <+: place := hfree _ (mem_middle.2 (.inl rfl))
  by_cases hown : ∃ p, own = some p ∧ p <+: place
  · -- the call has given up its staging directory
    obtain ⟨p, hp, hle⟩ := hown
    exact (hg.given_up p hp fun hp' => hown' p hp' hle).2 place hle
  · push Not at hown
    rw [hg.elsewhere place htop hready fun p hp => hp.elim (hown p) (hown' p)]
    refine (h.beside place htop hready).resolve_right ?_
    rintro ⟨seat, hseat, p, hp, hle⟩
    rcases mem_middle.1 hseat with rfl | hother
    · exact hown p hp hle
    · exact hfree seat (mem_middle.2 (.inr hother)) p hp hle

/-- **A request of one call preserves the invariant**, and the call keeps its guarantee. -/
theorem Orderly.step (h : s.Orderly v (before ++ ⟨.ask request next, own⟩ :: after))
    (hserves : v.Serves request reply v') :
    ∃ own', s.Guarantees own v own' v' ∧
      s.Orderly v' (before ++ ⟨next reply, own'⟩ :: after) := by
  have hspared : own = none → s.Spared v := by
    rintro rfl
    exact h.spared
  obtain ⟨own', hguarantees, hrest⟩ :=
    h.careful _ (mem_middle.2 (.inl rfl)) v (.refl h.shared) hspared reply v' hserves
  refine ⟨own', hguarantees, hguarantees.shared, fun seat hseat => ?_,
    h.staging_of_guarantees hguarantees, h.apart_of_guarantees hguarantees,
    fun place => h.beside_of_guarantees hguarantees, by simpa using h.crowd⟩
  rcases mem_middle.1 hseat with rfl | hother
  · exact hrest
  · exact (h.careful seat (mem_middle.2 (.inr hother))).of_interferes
      (fun _ _ _ hv hx => hx.of_interferes hv) (h.interferes hguarantees seat hother)

end Turn

/-- The change of a competitor preserves the invariant. -/
theorem Orderly.publishes {seats : List Seat} {content : Bytes} (h : s.Orderly v seats)
    (hpublishes : v.Publishes s.ready s.top content v') (hallowed : s.Allowed content) :
    s.Orderly v' seats := by
  have hothers : ∀ seat ∈ seats, s.Interferes seat.own v v' := fun seat hseat =>
    interferes_of_publishes h.shared hpublishes hallowed fun p hp => (h.staging seat hseat p hp).1
  have hshared : s.Interferes none v v' :=
    interferes_of_publishes h.shared hpublishes hallowed fun p hp => by simp at hp
  refine ⟨hshared.shared, ?_, ?_, h.apart, ?_, h.crowd⟩
  · exact fun seat hseat => (h.careful seat hseat).of_interferes
      (fun _ _ _ hv hx => hx.of_interferes hv) (hothers seat hseat)
  · intro seat hseat p hp
    obtain ⟨hstaging, hdirectory⟩ := h.staging seat hseat p hp
    exact ⟨hstaging, by rw [(hothers seat hseat).own p hp p (List.prefix_refl _), hdirectory]⟩
  · intro place htop hready
    rw [hpublishes.elsewhere place htop hready]
    exact h.beside place htop hready

/-- The calls of a race can be seated so that the invariant holds. -/
def OrderlyRace (s : Site) (race : Race) : Prop :=
  ∃ seats, race.calls = seats.map Seat.call ∧ s.Orderly race.volume seats

/-- The seats of a race in which one call has a request to make. -/
theorem OrderlyRace.seats {before after : List (Routine (Except Failure Cache))}
    {request : Request} {next : request.Reply → Routine (Except Failure Cache)}
    (h : s.OrderlyRace ⟨v, before ++ .ask request next :: after⟩) :
    ∃ before' own after', before = before'.map Seat.call ∧ after = after'.map Seat.call ∧
      s.Orderly v (before' ++ ⟨.ask request next, own⟩ :: after') := by
  obtain ⟨seats, hcalls, horderly⟩ := h
  obtain ⟨before', rest, rfl, rfl, hrest⟩ := List.map_eq_append_iff.1 hcalls.symm
  obtain ⟨⟨call, own⟩, after', rfl, rfl, rfl⟩ := List.map_eq_cons_iff.1 hrest
  exact ⟨before', own, after', rfl, rfl, horderly⟩

variable {race race' : Race}

/-- **Each step of a race preserves the invariant**, and leaves a cache that is there alone. -/
theorem OrderlyRace.step (h : s.OrderlyRace race) (hstep : race.Step race') :
    s.OrderlyRace race' ∧ s.Keeps race.volume race'.volume := by
  obtain ⟨hserves⟩ := hstep
  obtain ⟨before, own, after, rfl, rfl, horderly⟩ := h.seats
  obtain ⟨own', hguarantees, horderly'⟩ := horderly.step hserves
  exact ⟨⟨_, by simp, horderly'⟩, hguarantees.toKeeps⟩

/-- What a step preserves, a whole race preserves. -/
theorem OrderlyRace.reaches (h : s.OrderlyRace race) (hreaches : race.Reaches race') :
    s.OrderlyRace race' ∧ s.Keeps race.volume race'.volume := by
  induction hreaches with
  | refl => exact ⟨h, .refl h.choose_spec.2.shared⟩
  | tail _ hstep ih =>
    obtain ⟨horderly, hkeeps⟩ := ih
    obtain ⟨horderly', hkeeps'⟩ := horderly.step hstep
    exact ⟨horderly', hkeeps.trans hkeeps'⟩

/-- A call that has come to an end has done so with the cache that is there. -/
theorem OrderlyRace.ends (h : s.OrderlyRace race) {x : Except Failure Cache}
    (hx : .done x ∈ race.calls) : s.Ends x none race.volume := by
  obtain ⟨seats, hcalls, horderly⟩ := h
  rw [hcalls] at hx
  obtain ⟨⟨call, own⟩, hseat, rfl⟩ := List.mem_map.1 hx
  have hends : s.Ends x own race.volume := horderly.careful _ hseat
  obtain rfl : own = none := hends.choose_spec.2.1
  exact hends

/-- Once all calls have come to an end, no staging directory is left. -/
theorem OrderlyRace.cleanBeside (h : s.OrderlyRace race) (hdone : race.AllDone) :
    race.volume.CleanBeside s.before s.ready s.top := by
  obtain ⟨seats, hcalls, horderly⟩ := h
  intro place htop
  cases hready : s.ready.entry place with
  | none =>
    refine .inr ((horderly.beside place htop hready).resolve_right ?_)
    rintro ⟨⟨call, own⟩, hseat, p, rfl, -⟩
    obtain ⟨x, rfl⟩ := hdone call (by rw [hcalls]; exact List.mem_map_of_mem hseat)
    obtain ⟨cache, -, hnone, -⟩ : s.Ends x (some p) race.volume := horderly.careful _ hseat
    simp at hnone
  | some item =>
    rcases horderly.shared.lags.entry place item hready with hthere | habsent
    · exact .inr hthere
    · refine .inl (habsent.trans (Option.eq_none_iff_forall_ne_some.2 fun item' hitem' => ?_).symm)
      rw [horderly.shared.kept.2 place item' hitem'] at habsent
      simp at habsent

/-- Where the cache is not there, nothing stands at its path. -/
theorem Shared.not_taken (h : s.Shared v) (habsent : v.entry s.top = none) :
    ¬ v.Taken s.root.text := by
  obtain ⟨hthere, -⟩ | ⟨-, hlacks⟩ := h.root_cases
  · exact absurd habsent hthere
  rintro (hreach | ⟨place, hslot, hthere⟩)
  · rw [Volume.reach_text s.proper_root, if_pos s.roomy_root.fits] at hreach
    exact hreach hlacks.find_eq_none
  · obtain ⟨-, hspot⟩ := Volume.slot_text s.proper_root hslot
    obtain ⟨dir, hdir, -, -, rfl⟩ := (Volume.spot_below s.parent s.isStep.2).1 hspot
    obtain ⟨dir', hfind, hfind_ready, -⟩ | hlacks' := h.find_above le_rfl
    · obtain rfl := Option.some.inj (s.find_parent.symm.trans hfind_ready)
      obtain rfl := Option.some.inj (hdir.symm.trans hfind)
      exact hthere habsent
    · simp [hlacks'.find_eq_none] at hdir

end Site

/-! ### The end of a race -/

namespace Routine

/-- What is left of a routine after a reply to its first request. -/
def IsRest {α : Type} : Routine α → Routine α → Prop
  | _, .done _ => False
  | rest, .ask _ next => ∃ reply, rest = next reply

theorem wellFounded_isRest {α : Type} : WellFounded (IsRest (α := α)) := by
  refine ⟨fun r => ?_⟩
  induction r with
  | done x => exact ⟨_, fun _ h => h.elim⟩
  | ask request next ih =>
    refine ⟨_, ?_⟩
    rintro _ ⟨reply, rfl⟩
    exact ih reply

end Routine

namespace Race

variable {race race' : Race}

/-- With each step, one call is replaced by what is left of it. -/
theorem cutExpand_of_step (h : race.Step race') :
    Relation.CutExpand Routine.IsRest (Multiset.ofList race'.calls) (.ofList race.calls) := by
  obtain @⟨v, v', before, after, request, next, reply, -⟩ := h
  have hmiddle : ∀ call : Routine (Except Failure Cache),
      Multiset.ofList (before ++ call :: after) = .ofList (before ++ after) + {call} := by
    intro call
    rw [← Multiset.coe_singleton, Multiset.coe_add, Multiset.coe_eq_coe]
    exact List.perm_middle.trans (List.perm_append_singleton call _).symm
  simp only [hmiddle]
  exact Relation.cutExpand_add_single _ ⟨reply, rfl⟩

/-- **All calls come to an end**, however they take turns. -/
theorem inevitable_allDone (race : Race) : race.Inevitable AllDone := by
  have hwf := Routine.wellFounded_isRest (α := Except Failure Cache) |>.cutExpand
  induction hcalls : Multiset.ofList race.calls using hwf.induction generalizing race with
  | h calls ih =>
    subst hcalls
    by_cases hdone : race.AllDone
    · exact .reached hdone
    · exact .next (exists_step hdone) fun race' hstep => ih _ (cutExpand_of_step hstep) race' rfl

/-! ### First use -/

/-- The place of a cache that can be built there, with a prelude that is the default one or another
that can be used. -/
theorem exists_site {root : Path} {start ready : Volume} {top : Place} {names : Finset Text}
    (h : start.Admits root names ready top) {content : Bytes} {text : Text}
    (hdecode : Utf8.decode content = .ok text) (hblank : Text.trim (Text.unifyNewlines text) ≠ []) :
    ∃ s : Site, s.root = root ∧ s.top = top ∧ s.before = start ∧ s.ready = ready ∧
      s.names = names ∧ s.Allowed = fun bytes =>
        bytes = Utf8.encode Program.defaultPrelude ∨ bytes = content := by
  obtain ⟨hproper, hroomy, ⟨t, hruns, halong⟩, hslot, habsent, hspare⟩ := h
  obtain ⟨-, hspot⟩ := Volume.slot_text hproper hslot
  obtain ⟨parent, name, rfl, hname⟩ := Volume.exists_of_spot hproper hspot
  obtain ⟨dir, hdir, hdirectory, hlength, rfl⟩ := (Volume.spot_below parent hname.2).1 hspot
  rw [Path.parent_below] at hruns
  rw [Path.parent_below, Path.name_below, List.dropLast_concat] at hspare
  have hpaves := (Volume.after_makeDirsWithin_paves parent.parts.length
    (hproper.of_le (parent.le_below name))).of_runs hruns halong rfl
  let s : Site := {
    parent, name, proper := hproper, isStep := hname, length := hlength, roomy := hroomy
    before := start, ready, dir, paves := hpaves, find_parent := hdir, directory := hdirectory
    absent := habsent, names, spare := hspare
    Allowed := fun bytes => bytes = Utf8.encode Program.defaultPrelude ∨ bytes = content
    default_allowed := .inl rfl
    readable := by
      rintro bytes (rfl | rfl)
      · exact ⟨_, Utf8.decode_encode _, Program.trim_defaultPrelude_ne_nil⟩
      · exact ⟨text, hdecode, hblank⟩ }
  exact ⟨s, rfl, rfl, rfl, rfl, rfl, rfl⟩

/-- **First use is atomic.** Let any number of calls build a cache at a path at which one can be
built. However they take turns, all of them come to an end; at each time nothing stands at the path
or the cache is complete; each call returns it; and at the end nothing else is left behind. Let a
competitor put another cache there while nothing stands there. Then each call returns that one and
leaves it as it is, and again nothing else is left behind. -/
theorem ensure_atomic {root : Path} {start ready : Volume} {top : Place} {names : Finset Text}
    {n : ℕ} (h : start.Admits root names ready top) (hn : n ≤ names.card) :
    let race₀ : Race := ⟨start, List.replicate n (Cache.ensure root).run⟩
    (race₀.Inevitable AllDone ∧ ∀ race, race₀.Reaches race →
      (¬ race.volume.Taken root.text ∨ race.volume.reach root.text = some top ∧
        race.volume.HoldsCache top (Utf8.encode Program.defaultPrelude)) ∧
      (∀ x, .done x ∈ race.calls → x = .ok (Cache.ofRoot root Program.defaultPrelude)) ∧
      (race.AllDone → race.volume.CleanBeside start ready top)) ∧
    ∀ race v content text, race₀.Reaches race → race.volume.Publishes ready top content v →
      Utf8.decode content = .ok text → Text.trim (Text.unifyNewlines text) ≠ [] →
      Inevitable AllDone ⟨v, race.calls⟩ ∧ ∀ race', Reaches ⟨v, race.calls⟩ race' →
        (∀ place, top <+: place → race'.volume.entry place = v.entry place) ∧
        (∀ x, .done x ∈ race'.calls →
          x = .ok (Cache.ofRoot root (Text.unifyNewlines text))) ∧
        (race'.AllDone → race'.volume.CleanBeside start ready top) := by
  intro race₀
  constructor
  · obtain ⟨s, rfl, rfl, rfl, rfl, rfl, hallowed⟩ :=
      exists_site h (Utf8.decode_encode Program.defaultPrelude) Program.trim_defaultPrelude_ne_nil
    have hbegin : s.OrderlyRace race₀ := ⟨_, by simp [race₀], Site.orderly_before hn⟩
    refine ⟨inevitable_allDone race₀, fun race hreaches => ?_⟩
    have horderly := (hbegin.reaches hreaches).1
    obtain ⟨seats, -, hseats⟩ := id horderly
    have hcomplete : race.volume.entry s.top ≠ none →
        race.volume.HoldsCache s.top (Utf8.encode Program.defaultPrelude) := fun hthere => by
      obtain ⟨-, content, hcontent, hcache⟩ := hseats.shared.complete hthere
      rw [hallowed, or_self] at hcontent
      rwa [hcontent] at hcache
    refine ⟨?_, fun x hx => ?_, horderly.cleanBeside⟩
    · obtain ⟨hthere, hfind⟩ | ⟨habsent, -⟩ := hseats.shared.root_cases
      · refine .inr ⟨?_, hcomplete hthere⟩
        rw [Volume.reach_text s.proper_root, if_pos s.roomy_root.fits, hfind]
      · exact .inl (hseats.shared.not_taken habsent)
    · have hends := horderly.ends hx
      rw [hends.eq (hcomplete hends.top_ne_none) (Utf8.decode_encode _),
        Program.unifyNewlines_defaultPrelude]
  · intro race v content text hreaches hpublishes hdecode hblank
    obtain ⟨s, rfl, rfl, rfl, rfl, rfl, hallowed⟩ := exists_site h hdecode hblank
    have hbegin : s.OrderlyRace race₀ := ⟨_, by simp [race₀], Site.orderly_before hn⟩
    obtain ⟨seats, hcalls, hseats⟩ := (hbegin.reaches hreaches).1
    have hpublished : s.OrderlyRace ⟨v, race.calls⟩ :=
      ⟨seats, hcalls, hseats.publishes hpublishes (by rw [hallowed]; exact .inr rfl)⟩
    refine ⟨inevitable_allDone _, fun race' hreaches' => ?_⟩
    obtain ⟨horderly, hkeeps⟩ := hpublished.reaches hreaches'
    have hfrozen := hkeeps.top (by simp [hpublishes.cache.directory])
    refine ⟨hfrozen, fun x hx => ?_, horderly.cleanBeside⟩
    exact (horderly.ends hx).eq (hpublishes.cache.of_entry_eq hfrozen) hdecode

theorem directory_bare : ∃ searchable, Volume.bare.entry [] = some (.directory searchable) :=
  ⟨true, rfl⟩

/-- The directory above a cache has been made. -/
def madeHome : Volume :=
  Volume.bare.put [] "home" (.directory true) directory_bare rfl

theorem admits_bare : Volume.bare.Admits ⟨['/'], ["home", "runner"]⟩
    {".runner-a".toList, ".runner-b".toList} madeHome ["home", "runner"] where
  proper := ⟨.inr (.inl rfl), by simp [Path.IsName, Path.isKept]⟩
  roomy := by decide +kernel
  made := by
    refine ⟨[⟨.makeDir (Path.parent ⟨['/'], ["home", "runner"]⟩).text, .ok ()⟩],
      ⟨_, _, rfl, rfl, rfl⟩, madeHome, ?_, rfl⟩
    exact Volume.answers_makeDir_new directory_bare rfl (by decide +kernel) (by decide +kernel)
  slot := by decide +kernel
  absent := rfl
  spare name hname := by
    rcases Finset.mem_insert.1 hname with rfl | hname
    · exact ⟨⟨by decide, ⟨by decide, by decide⟩, ⟨by decide, by decide⟩, by decide, by decide, rfl⟩,
        by decide +kernel⟩
    · obtain rfl := Finset.mem_singleton.1 hname
      exact ⟨⟨by decide, ⟨by decide, by decide⟩, ⟨by decide, by decide⟩, by decide, by decide, rfl⟩,
        by decide +kernel⟩

/-- On a volume with nothing in it, two calls, and a competitor before either of them. -/
theorem ensure_atomic_bare :
    let root : Path := ⟨['/'], ["home", "runner"]⟩
    let top : Place := ["home", "runner"]
    let race₀ : Race := ⟨.bare, List.replicate 2 (Cache.ensure root).run⟩
    (race₀.Inevitable AllDone ∧ ∀ race, race₀.Reaches race →
      (¬ race.volume.Taken root.text ∨ race.volume.reach root.text = some top ∧
        race.volume.HoldsCache top (Utf8.encode Program.defaultPrelude)) ∧
      (∀ x, .done x ∈ race.calls → x = .ok (Cache.ofRoot root Program.defaultPrelude)) ∧
      (race.AllDone → race.volume.CleanBeside .bare madeHome top)) ∧
    ∃ v, Volume.bare.Publishes madeHome top (Utf8.encode "use std::env;\n".toList) v ∧
      Inevitable AllDone ⟨v, race₀.calls⟩ ∧ ∀ race, Reaches ⟨v, race₀.calls⟩ race →
        ∀ x, .done x ∈ race.calls → x = .ok (Cache.ofRoot root "use std::env;\n".toList) := by
  intro root top race₀
  obtain ⟨hcalls, hcompetitor⟩ := @ensure_atomic _ _ _ _ _ 2 admits_bare (by decide)
  have hadds : Volume.bare.Adds ["home"] (.directory true) madeHome := ⟨rfl, rfl⟩
  obtain ⟨v, hpublishes⟩ := @Volume.exists_publishes .bare madeHome ["home"] "runner"
    (hadds.le rfl) rfl rfl (Utf8.encode "use std::env;\n".toList)
  obtain ⟨hend, hreached⟩ := hcompetitor race₀ v _ _ .refl hpublishes (Utf8.decode_encode _)
    (by decide +kernel)
  exact ⟨hcalls, v, hpublishes, hend, fun race hreaches => (hreached race hreaches).2.1⟩

/-- What passes between a host and a routine that makes the directories above the detour. -/
def detourWay : Trace :=
  [⟨.makeDir Volume.detour.parent.text, .error (.os ⟨.noEntry, none, none⟩)⟩,
    ⟨.makeDir Volume.detour.parent.parent.text, .ok ()⟩,
    ⟨.makeDir Volume.detour.parent.text, .error (.os ⟨.alreadyThere, none, none⟩)⟩,
    ⟨.kind Volume.detour.parent.text, .ok .directory⟩]

open Volume in
theorem serves_detour_kind :
    emptyDirectory.Serves (.kind detour.text) (.error (.os ⟨.noEntry, none, none⟩))
      emptyDirectory := by
  have hlook : emptyDirectory.lookUp detour.text = none := by decide +kernel
  refine ⟨⟨rfl, ?_⟩, fun _ _ => ⟨_, rfl, rfl⟩⟩
  rw [hlook]
  exact ⟨_, rfl⟩

open Volume in
theorem serves_detour_parent :
    emptyDirectory.Serves (.makeDir detour.parent.text) (.error (.os ⟨.noEntry, none, none⟩))
      emptyDirectory := by
  have hslot : emptyDirectory.slot detour.parent.text = none := by decide +kernel
  have hfree : ¬ emptyDirectory.Taken detour.parent.text :=
    not_taken (by decide +kernel) fun place hplace => by simp [hslot] at hplace
  refine ⟨⟨fun h => absurd h hfree, fun _ => .inl ⟨rfl, _, rfl⟩⟩, fun _ place hplace => ?_,
    fun _ _ => ⟨_, rfl, rfl⟩⟩
  simp [hslot] at hplace

open Volume in
theorem serves_detour_made :
    emptyDirectory.Serves (.makeDir detour.parent.parent.text) (.ok ()) detourMade := by
  refine ⟨answers_makeDir_new ⟨true, rfl⟩ rfl (by decide +kernel) (by decide +kernel),
    fun _ place hplace => ⟨rfl, ?_⟩, fun _ hlacks => ?_⟩
  · have hslot : emptyDirectory.slot detour.parent.parent.text = some ["a".toList] := by
      decide +kernel
    obtain rfl := Option.some.inj (hslot.symm.trans hplace)
    rfl
  · have hfind : emptyDirectory.find (Path.ofText detour.parent.parent.text).parent = some [] := by
      decide +kernel
    simp [hlacks.find_eq_none] at hfind

open Volume in
/-- **A path at which nothing stands may be taken as soon as the directories above it are made**: it
leads to a directory without a prelude then. -/
theorem ensure_detour : ¬ emptyDirectory.Taken detour.text ∧
    (∃ t v, (Files.makeDirs detour.parent).Runs t (.ok ()) ∧ emptyDirectory.Along t v) ∧
    ∃ race, Reaches ⟨emptyDirectory, [(Cache.ensure detour).run]⟩ race ∧
      ∃ place, race.volume.reach detour.text = some place ∧
        ∀ content, ¬ race.volume.HoldsCache place content := by
  refine ⟨not_taken (by decide +kernel) fun place hplace => ?_, ⟨detourWay, detourMade, ?_, ?_⟩, ?_⟩
  · have hslot : emptyDirectory.slot detour.text = none := by decide +kernel
    simp [hslot] at hplace
  · exact ⟨_, _, rfl, _, _, rfl, _, _, rfl, _, _, rfl, rfl, rfl⟩
  · have hlook : detourMade.lookUp detour.parent.text = some (.directory true) := by decide +kernel
    refine ⟨_, serves_detour_parent.answers, _, serves_detour_made.answers, detourMade,
      answers_makeDir_there (by decide +kernel) rfl, detourMade, ⟨rfl, ?_⟩, rfl⟩
    rw [hlook]
  · refine ⟨_, .head (@Step.turn _ _ [] [] _ _ _ serves_detour_kind)
      (.head (@Step.turn _ _ [] [] _ _ _ serves_detour_parent)
      (.single (@Step.turn _ _ [] [] _ _ _ serves_detour_made))), ["b"], by decide +kernel,
      fun content hcache => ?_⟩
    have hfile : detourMade.entry ["b".toList, "prelude".toList] = some _ := hcache.prelude
    rw [show detourMade.entry ["b".toList, "prelude".toList] = none from rfl] at hfile
    simp at hfile

end Race

end Oneshot
