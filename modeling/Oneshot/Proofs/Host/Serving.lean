import Oneshot.Proofs.Host.Volume

/-!
# Hosts that Refuse Nothing Without Need

A host may refuse a request for a cause of its own (`Volume.Answers`). Statements about what is
bound to succeed are made for hosts that do not (`Volume.Serves`): what can be carried out is
carried out, and where a name on the way is not there, the refusal says so (`Volume.Obliges`). Such
a host leaves no request without an answer either (`Volume.exists_serves`).

A volume that is being changed may be on its way to another one, with some of its items still
missing. A path that leads somewhere on the volume to come leads to the same place already, or a
name on its way is not there yet.

* `Volume.Lacks`: a way comes to a name that is not there.
* `Volume.Lags.find`: paths on a volume that lags behind another one.
* `Volume.Serves`, `Volume.exists_serves`: hosts that refuse nothing without need.
-/

namespace Oneshot

open Virtual (Place)

namespace Path

/-- The text of a name in a directory, as long as the path of the directory is not empty. -/
theorem length_text_below (p : Path) (name : Text) :
    (Utf8.encode (p.below name).text).length
      ≤ (Utf8.encode p.text).length + 1 + (Utf8.encode name).length := by
  have hlength : ∀ s t : Text, (Utf8.encode (s ++ t)).length
      = (Utf8.encode s).length + (Utf8.encode t).length := fun s t => by
    rw [Utf8.encode, List.flatMap_append, List.length_append]
    rfl
  have hjoin : ∀ parts : List Text, parts ≠ [] →
      Text.join ['/'] (parts ++ [name]) = Text.join ['/'] parts ++ ['/'] ++ name := by
    intro parts
    induction parts with
    | nil => exact fun h => absurd rfl h
    | cons part rest ih =>
      intro _
      cases rest with
      | nil => simp [Text.join]
      | cons next rest => simpa [Text.join] using ih (by simp)
  obtain ⟨anchor, parts⟩ := p
  have hbelow :
      (below ⟨anchor, parts⟩ name).text = anchor ++ Text.join ['/'] (parts ++ [name]) := by
    simp [below, text]
  rw [hbelow, hlength]
  by_cases hparts : parts = []
  · subst hparts
    have htext : (Utf8.encode anchor).length ≤ (Utf8.encode (text ⟨anchor, []⟩)).length := by
      rw [text]
      split
      · next h => simp_all [Utf8.encode]
      · simp [Text.join]
    simp only [List.nil_append, Text.join]
    omega
  · have htext : text ⟨anchor, parts⟩ = anchor ++ Text.join ['/'] parts := by simp [text, hparts]
    rw [htext, hjoin parts hparts, hlength, hlength, hlength]
    have hslash : (Utf8.encode ['/']).length = 1 := by decide
    omega

end Path

namespace Volume

variable {v v' v₁ : Volume} {place next : Place} {name : Text} {names rest : List Text}
  {links : Nat} {p : Path}

/-! ### Ways to something that is missing -/

/-- A way comes to a name that is not there, in a directory that can be entered. -/
inductive Lacks (v : Volume) : Nat → Place → List Text → Prop
  | here {links : Nat} {place : Place} {name : Text} {rest : List Text}
    (hdirectory : v.entry place = some (.directory true)) (hname : IsStep name)
    (hlength : (Utf8.encode name).length ≤ Virtual.Tree.nameLimit)
    (habsent : v.entry (place ++ [name]) = none) : Lacks v links place (name :: rest)
  | step {links : Nat} {place next : Place} {name : Text} {rest : List Text}
    (henter : v.enter place name = some next) (hlink : v.linkAt next = none)
    (h : Lacks v links next rest) : Lacks v links place (name :: rest)
  | link {links : Nat} {place next : Place} {name : Text} {rest : List Text} {target : Path}
    (henter : v.enter place name = some next) (hlink : v.linkAt next = some target)
    (h : Lacks v links (start target place) (target.parts ++ rest)) :
    Lacks v (links + 1) place (name :: rest)

theorem Lacks.walk_eq_none (h : v.Lacks links place names) : v.walk links place names = none := by
  induction h with
  | @here links place name rest hdirectory hname _ habsent =>
    refine walk_stuck (Option.eq_none_iff_forall_ne_some.2 fun next henter => ?_) links rest
    exact ((enter_eq_some_iff hname).1 henter).2.2.1 habsent
  | step henter hlink _ ih => rwa [walk_step henter hlink]
  | link henter hlink _ ih => rwa [walk_link henter hlink]

theorem Lacks.append (h : v.Lacks links place names) (rest : List Text) :
    v.Lacks links place (names ++ rest) := by
  induction h with
  | here hdirectory hname hlength habsent => exact .here hdirectory hname hlength habsent
  | step henter hlink _ ih => exact .step henter hlink ih
  | link henter hlink _ ih =>
    rw [List.append_assoc] at ih
    exact .link henter hlink ih

/-- A way in two parts, the second of which comes to a name that is not there. -/
theorem Lacks.of_walk {reached : Nat × Place} (hwalk : v.walk links place names = some reached)
    (h : v.Lacks reached.1 reached.2 rest) : v.Lacks links place (names ++ rest) := by
  induction links, place, names using v.way_induction with
  | nil links place =>
    rw [walk_nil] at hwalk
    obtain rfl := Option.some.inj hwalk
    exact h
  | stuck links place name names hnext => simp [walk_stuck hnext] at hwalk
  | step links place name names next hnext hlink ih =>
    rw [walk_step hnext hlink] at hwalk
    exact .step hnext hlink (ih hwalk)
  | loop place name names next target hnext hlink => simp [walk_link_zero hnext hlink] at hwalk
  | link links place name names next target hnext hlink ih =>
    rw [walk_link hnext hlink] at hwalk
    have hlacks := ih hwalk
    rw [List.append_assoc] at hlacks
    exact .link hnext hlink hlacks

/-- The way to a path comes to a name that is not there. -/
def LacksWay (v : Volume) (p : Path) : Prop :=
  v.Lacks Virtual.Tree.linkLimit (start p v.workDir) p.parts

theorem LacksWay.find_eq_none (h : v.LacksWay p) : v.find p = none := by
  rw [find, Lacks.walk_eq_none h, Option.map_none]

theorem LacksWay.mono {q : Path} (h : v.LacksWay p) (hle : p ≤ q) : v.LacksWay q := by
  obtain ⟨anchor, parts⟩ := p
  obtain ⟨anchor', parts'⟩ := q
  obtain rfl : anchor = anchor' := hle.1
  obtain ⟨rest, rfl⟩ := hle.2
  exact Lacks.append h rest

theorem LacksWay.below (h : v.LacksWay p) (name : Text) : v.LacksWay (p.below name) :=
  h.mono (p.le_below name)

theorem lacksWay_below (hfind : v.find p = some place)
    (hdirectory : v.entry place = some (.directory true)) (hname : IsStep name)
    (hlength : (Utf8.encode name).length ≤ Virtual.Tree.nameLimit)
    (habsent : v.entry (place ++ [name]) = none) : v.LacksWay (p.below name) := by
  obtain ⟨reached, hwalk, rfl⟩ := Option.map_eq_some_iff.1 hfind
  exact Lacks.of_walk hwalk (.here hdirectory hname hlength habsent)

/-! ### Volumes on their way -/

/-- A volume is on its way to another one: what stands there stands here too, or nothing stands here
yet. -/
structure Lags (v v₁ : Volume) : Prop where
  workDir : v₁.workDir = v.workDir
  entry : ∀ place item, v₁.entry place = some item →
    v.entry place = some item ∨ v.entry place = none

namespace Lags

theorem of_le (h : v ≤ v₁) : v.Lags v₁ where
  workDir := h.1
  entry place item hitem := by
    refine or_iff_not_imp_right.2 fun hthere => ?_
    obtain ⟨item', hitem'⟩ := Option.ne_none_iff_exists'.1 hthere
    rw [hitem', ← hitem, h.2 place item' hitem']

theorem of_ge (h : v₁ ≤ v) : v.Lags v₁ :=
  ⟨h.1.symm, fun place item hitem => .inl (h.2 place item hitem)⟩

theorem entry_eq (h : v.Lags v₁) (hplace : v.entry place ≠ none) (hplace₁ : v₁.entry place ≠ none) :
    v.entry place = v₁.entry place := by
  obtain ⟨item, hitem⟩ := Option.ne_none_iff_exists'.1 hplace₁
  rw [hitem]
  exact (h.entry place item hitem).resolve_right hplace

theorem linkAt (h : v.Lags v₁) (hplace : v.entry place ≠ none) (hplace₁ : v₁.entry place ≠ none) :
    v.linkAt place = v₁.linkAt place := by
  rw [Volume.linkAt, Volume.linkAt, h.entry_eq hplace hplace₁]

/-- A name leads to the same place, or it is not there yet. -/
theorem enter (h : v.Lags v₁) (hplace : v.entry place ≠ none)
    (hnext : v₁.enter place name = some next) :
    v.enter place name = some next ∧ v.entry next ≠ none ∨
      ∀ links rest, v.Lacks links place (name :: rest) := by
  have hdirectory₁ : v₁.entry place = some (.directory true) := by
    by_contra hnot
    rw [Volume.enter, if_pos hnot] at hnext
    simp at hnext
  have hdirectory : v.entry place = some (.directory true) := by
    rw [h.entry_eq hplace (by simp [hdirectory₁]), hdirectory₁]
  by_cases hstep : IsStep name
  · obtain ⟨-, hlength, -, rfl⟩ := (enter_eq_some_iff hstep).1 hnext
    by_cases hthere : v.entry (place ++ [name]) = none
    · exact .inr fun links rest => .here hdirectory hstep hlength hthere
    · exact .inl ⟨(enter_eq_some_iff hstep).2 ⟨hdirectory, hlength, hthere, rfl⟩, hthere⟩
  · -- neither `.` nor `..` can be missing
    have hsame : v.enter place name = v₁.enter place name := by
      rw [IsStep, not_and_or, not_not, not_not] at hstep
      rw [Volume.enter, Volume.enter, if_neg (not_not.2 hdirectory), if_neg (not_not.2 hdirectory₁)]
      rcases hstep with rfl | rfl
      · rw [if_pos rfl, if_pos rfl]
      · rw [if_neg (by decide), if_pos rfl, if_neg (by decide), if_pos rfl]
    have henter := hsame.trans hnext
    exact .inl ⟨henter, entry_ne_none_of_enter henter⟩

/-- **A way that leads to a place leads there already**, or a name on it is not there yet. -/
theorem walk (h : v.Lags v₁) {reached : Nat × Place} (hplace : v.entry place ≠ none)
    (hwalk : v₁.walk links place names = some reached) :
    v.walk links place names = some reached ∧ v.entry reached.2 ≠ none ∨
      v.Lacks links place names := by
  induction links, place, names using v₁.way_induction with
  | nil links place =>
    rw [walk_nil] at hwalk ⊢
    obtain rfl := Option.some.inj hwalk
    exact .inl ⟨rfl, hplace⟩
  | stuck links place name names hnext => simp [walk_stuck hnext] at hwalk
  | step links place name names next hnext hlink ih =>
    rw [walk_step hnext hlink] at hwalk
    obtain ⟨henter, hthere⟩ | hlacks := h.enter hplace hnext
    · rw [← h.linkAt hthere (entry_ne_none_of_enter hnext)] at hlink
      rw [walk_step henter hlink]
      exact (ih hthere hwalk).imp_right (.step henter hlink)
    · exact .inr (hlacks _ _)
  | loop place name names next target hnext hlink => simp [walk_link_zero hnext hlink] at hwalk
  | link links place name names next target hnext hlink ih =>
    rw [walk_link hnext hlink] at hwalk
    obtain ⟨henter, hthere⟩ | hlacks := h.enter hplace hnext
    · have hbegin : v.entry (start target place) ≠ none := by
        rw [start]
        split
        · by_cases hnil : place = []
          · rwa [← hnil]
          · obtain ⟨_, hroot⟩ := directory_of_prefix List.nil_prefix (Ne.symm hnil) hplace
            simp [hroot]
        · exact hplace
      rw [← h.linkAt hthere (entry_ne_none_of_enter hnext)] at hlink
      rw [walk_link henter hlink]
      exact (ih hbegin hwalk).imp_right (.link henter hlink)
    · exact .inr (hlacks _ _)

theorem find (h : v.Lags v₁) (hbegin : v.entry (start p v.workDir) ≠ none)
    (hfind : v₁.find p = some place) :
    v.find p = some place ∧ v.entry place ≠ none ∨ v.LacksWay p := by
  obtain ⟨reached, hwalk, rfl⟩ := Option.map_eq_some_iff.1 hfind
  rw [h.workDir] at hwalk
  refine (h.walk hbegin hwalk).imp_left fun ⟨hwalk, hthere⟩ => ⟨?_, hthere⟩
  rw [Volume.find, hwalk, Option.map_some]

end Lags

/-! ### Hosts that refuse nothing without need -/

/-- A request is refused because a name is not there. -/
def NoEntry {α : Type} (reply : Except Refusal α) : Prop :=
  ∃ e : OsError, reply = .error (.os e) ∧ e.cause = .noEntry

/-- How many bytes a short name has at most. -/
def shortName : Nat := 8

/-- A path that leaves room for a short name behind it. -/
def Roomy (p : Path) : Prop :=
  (Utf8.encode p.text).length + 1 + shortName < Virtual.Tree.pathLimit ∧ '\x00' ∉ p.text

instance (p : Path) : Decidable (Roomy p) :=
  inferInstanceAs (Decidable (_ ∧ _))

theorem Roomy.fits (h : Roomy p) : Fits p.text :=
  ⟨by have := h.1; omega, h.2⟩

theorem Roomy.fits_below (h : Roomy p) (hlength : (Utf8.encode name).length ≤ shortName)
    (hnul : '\x00' ∉ name) : Fits (p.below name).text := by
  refine ⟨?_, Path.nul_not_mem_text_below h.2 hnul⟩
  have htext := p.length_text_below name
  have hroom := h.1
  omega

/-- A name that begins with a label and that something new in the directory at a place can have. -/
structure Spare (v : Volume) (place : Place) (label name : Text) : Prop where
  label : label <+: name
  isName : Path.IsName name
  isStep : IsStep name
  nul : '\x00' ∉ name
  length : (Utf8.encode name).length ≤ Virtual.Tree.nameLimit
  absent : v.entry (place ++ [name]) = none

/-- A path leads to a directory whatever becomes of the names there that begin with a label. -/
def Steady (v : Volume) (place : Place) (label : Text) (p : Path) : Prop :=
  ∀ v₁ : Volume, v₁.workDir = v.workDir →
    (∀ other item, (∀ name, label <+: name → ¬ place ++ [name] <+: other) →
      v.entry other = some item → v₁.entry other = some item) → v₁.find p = some place

/-- What a host owes to a request if it refuses nothing without need. Everything new can be read or
searched. -/
def Obliges (v : Volume) : (request : Request) → request.Reply → Volume → Prop
  | .kind text, reply, _ => Fits text → v.LacksWay (Path.ofText text) → NoEntry reply
  | .makeDir text, reply, v' =>
    (¬ v.Taken text → ∀ place, v.slot text = some place →
      reply = .ok () ∧ v'.entry place = some (.directory true)) ∧
    (Fits text → v.LacksWay (Path.ofText text).parent → NoEntry reply)
  | .makeStaging parent label, reply, v' =>
    ∀ place, v.reach parent = some place → v.entry place = some (.directory true) →
      (∃ name, v.Spare place label name ∧ Roomy ((Path.ofText parent).below name)) →
      ∃ name text q, reply = .ok text ∧ v.Spare place label name ∧
        v.Adds (place ++ [name]) (.directory true) v' ∧
        -- the reply names the directory as it was named, or by another path that leads to it
        Path.ofText text = q.below name ∧ Roomy (q.below name) ∧
        (q = Path.ofText parent ∨ v.Steady place label q)
  | .create text content, reply, v' =>
    ∀ place, v.slot text = some place → v.entry place = none →
      reply = .ok () ∧ v'.entry place = some (.file content true)
  | .rename old new, reply, _ =>
    ∀ src dst searchable, v.slot old = some src → v.slot new = some dst →
      v.entry src = some (.directory searchable) → v.Vacant dst → ¬ src <+: dst → reply = .ok ()
  | _, _, _ => True

/-- One request as a step on a volume whose host refuses nothing without need. -/
structure Serves (v : Volume) (request : Request) (reply : request.Reply) (v' : Volume) : Prop where
  answers : v.Answers request reply v'
  obliges : v.Obliges request reply v'

theorem noEntry_refusal {α : Type} {text : Text} (h : Fits text) :
    NoEntry (.error (refusal text) : Except Refusal α) := by
  rw [refusal, if_neg h.2]
  exact ⟨_, rfl, rfl⟩

theorem not_taken_of_lacksWay {text : Text} (h : v.LacksWay (Path.ofText text).parent) :
    ¬ v.Taken text := by
  have hparts : (Path.ofText text).parts ≠ [] := fun hnil => by
    rw [LacksWay, Path.parent, hnil] at h
    cases h
  rintro (hreach | ⟨place, hslot, -⟩)
  · refine hreach ?_
    have hway := h.below (Path.ofText text).name
    rw [Path.below_parent_name hparts] at hway
    rw [reach, hway.find_eq_none, ite_self]
  · rw [slot, spot, h.find_eq_none] at hslot
    simp at hslot

theorem slot_eq_none_of_lacksWay {text : Text} (h : v.LacksWay (Path.ofText text).parent) :
    v.slot text = none := by
  rw [slot, spot, h.find_eq_none]
  simp

theorem exists_serves_kind (v : Volume) (text : Text) :
    ∃ reply v', v.Serves (.kind text) reply v' := by
  refine ⟨_, _, v.answers_sealed (.kind text), fun hfits hway => ?_⟩
  have hlook : v.lookUp text = none := by
    rw [lookUp, reach, hway.find_eq_none, ite_self, Option.bind_none]
  simp only [sealed, hlook]
  exact noEntry_refusal hfits

theorem exists_serves_makeDir (v : Volume) (text : Text) :
    ∃ reply v', v.Serves (.makeDir text) reply v' := by
  have hsealed := v.answers_sealed (.makeDir text)
  by_cases htaken : v.Taken text
  · exact ⟨_, _, hsealed, fun h => absurd htaken h,
      fun _ hway => absurd htaken (not_taken_of_lacksWay hway)⟩
  cases hslot : v.slot text with
  | none =>
    refine ⟨_, _, hsealed, fun _ place hplace => by simp [hslot] at hplace, fun hfits _ => ?_⟩
    simp only [sealed, if_neg htaken]
    exact noEntry_refusal hfits
  | some place =>
    obtain ⟨dir, name, hdirectory, rfl⟩ := exists_of_slot hslot
    have habsent : v.entry (dir ++ [name]) = none := by
      by_contra hentry
      exact htaken (.inr ⟨_, hslot, hentry⟩)
    refine ⟨.ok (), v.put dir name (.directory true) ⟨true, hdirectory⟩ habsent,
      ⟨fun h => absurd h htaken, fun _ => .inr ⟨_, true, hslot, rfl, rfl, rfl⟩⟩,
      fun _ place hplace => ?_, fun _ hway => ?_⟩
    · obtain rfl := Option.some.inj (hslot.symm.trans hplace)
      exact ⟨rfl, Function.update_self ..⟩
    · simp [slot_eq_none_of_lacksWay hway] at hslot

/-- A staging directory with a spare name is found by its path. -/
theorem Spare.slot_of_adds {parent label name : Text} (h : v.Spare place label name)
    (hreach : v.reach parent = some place) (hdirectory : v.entry place = some (.directory true))
    (hroomy : Roomy ((Path.ofText parent).below name))
    (hadds : v.Adds (place ++ [name]) (.directory true) v') :
    v'.slot ((Path.ofText parent).below name).text = some (place ++ [name]) := by
  have hproper := (Path.proper_ofText parent).below h.isName
  have hfind : v.find (Path.ofText parent) = some place := by
    rw [reach] at hreach
    split at hreach
    · exact hreach
    · simp at hreach
  have hextends := hadds.extends h.absent
  rw [slot, hproper.ofText_text, if_pos hroomy.fits]
  exact (spot_below _ h.isStep.2).2
    ⟨place, hextends.find hfind, hextends.searchable hdirectory, h.length, rfl⟩

theorem exists_serves_makeStaging (v : Volume) (parent label : Text) :
    ∃ reply v', v.Serves (.makeStaging parent label) reply v' := by
  by_cases hspare : ∃ place name, v.reach parent = some place ∧
      v.entry place = some (.directory true) ∧ v.Spare place label name ∧
      Roomy ((Path.ofText parent).below name)
  · obtain ⟨place, name, hreach, hdirectory, hname, hroomy⟩ := hspare
    have htext : Path.ofText ((Path.ofText parent).below name).text
        = (Path.ofText parent).below name :=
      ((Path.proper_ofText parent).below hname.isName).ofText_text
    have hadds : v.Adds (place ++ [name]) (.directory true)
        (v.put place name (.directory true) ⟨true, hdirectory⟩ hname.absent) := ⟨rfl, rfl⟩
    refine ⟨.ok ((Path.ofText parent).below name).text, _, .inr ⟨place, name, _, hreach,
      fun hnul => hname.nul (hname.label.subset hnul), hname.label, hname.absent, rfl, hadds, ?_⟩,
      fun place' hplace' _ _ => ?_⟩
    · rw [htext]
      exact hname.slot_of_adds hreach hdirectory hroomy hadds
    · obtain rfl := Option.some.inj (hreach.symm.trans hplace')
      exact ⟨name, _, _, rfl, hname, hadds, htext, hroomy, .inl rfl⟩
  · refine ⟨_, _, v.answers_sealed (.makeStaging parent label), fun place hreach hdirectory hname =>
      absurd ?_ hspare⟩
    obtain ⟨name, hname, hroomy⟩ := hname
    exact ⟨place, name, hreach, hdirectory, hname, hroomy⟩

theorem exists_serves_create (v : Volume) (text : Text) (content : Bytes) :
    ∃ reply v', v.Serves (.create text content) reply v' := by
  by_cases hfree : ∃ place, v.slot text = some place ∧ v.entry place = none
  · obtain ⟨place, hslot, habsent⟩ := hfree
    obtain ⟨dir, name, hdirectory, rfl⟩ := exists_of_slot hslot
    refine ⟨.ok (), v.put dir name (.file content true) ⟨true, hdirectory⟩ habsent,
      .inr ⟨_, content, true, hslot, habsent, ⟨rfl, rfl⟩, .inl ⟨rfl, rfl⟩⟩,
      fun place hplace _ => ?_⟩
    obtain rfl := Option.some.inj (hslot.symm.trans hplace)
    exact ⟨rfl, Function.update_self ..⟩
  · exact ⟨_, _, v.answers_sealed (.create text content), fun place hslot habsent =>
      absurd ⟨place, hslot, habsent⟩ hfree⟩

theorem exists_serves_rename (v : Volume) (old new : Text) :
    ∃ reply v', v.Serves (.rename old new) reply v' := by
  by_cases hfree : ∃ src dst searchable, v.slot old = some src ∧ v.slot new = some dst ∧
      v.entry src = some (.directory searchable) ∧ v.Vacant dst ∧ ¬ src <+: dst
  · obtain ⟨src, dst, searchable, hsrc, hdst, hentry, hvacant, hnot⟩ := hfree
    obtain ⟨dir, name, hdirectory, rfl⟩ := exists_of_slot hdst
    exact ⟨.ok (), v.move src dir name ⟨true, hdirectory⟩ hnot,
      .inr ⟨src, _, searchable, hsrc, hdst, hentry, hvacant, hnot, rfl, rfl, rfl⟩,
      fun _ _ _ _ _ _ _ _ => rfl⟩
  · exact ⟨_, _, v.answers_sealed (.rename old new),
      fun src dst searchable hsrc hdst hentry hvacant hnot =>
        absurd ⟨src, dst, searchable, hsrc, hdst, hentry, hvacant, hnot⟩ hfree⟩

/-- **No request is left unanswered.** -/
theorem exists_serves (v : Volume) (request : Request) :
    ∃ reply v', v.Serves request reply v' := by
  cases request with
  | kind text => exact v.exists_serves_kind text
  | makeDir text => exact v.exists_serves_makeDir text
  | makeStaging parent label => exact v.exists_serves_makeStaging parent label
  | create text content => exact v.exists_serves_create text content
  | rename old new => exact v.exists_serves_rename old new
  | read | write | discard | launch | isExecutable | isReadable | workDir | environment
  | accountHome | isTerminal | validatorText | print | announce =>
    exact ⟨_, _, v.answers_sealed _, trivial⟩

end Volume

end Oneshot
