import Oneshot.Proofs.CommandLine.ExitStatus
import Oneshot.Proofs.Pipeline.Escapes

/-!
# The Announcements of a Pipeline

A pipeline can announce its events to the host, each by the name of its stage and what the stage
says about it. The announcements of a run follow the stages: the analysis, each crate whose library
is missing, the scratch path, the command of the compiler, the executable if it is run, and the
outcome at the end. A run that fails stops somewhere on this way, in front of its end.

What is announced on the way depends on the analysis, on how the tests of the libraries have come
out, and on how far the run gets (`Story`).

* `Pipeline.runs_reportMissing`: the tests of the libraries and what is announced about them.
* `Pipeline.runs_building`, `Pipeline.announced_execute`: the stages of the compiler and of the
  artifact.
* `Pipeline.announced_run`: the announcements of a whole run.
-/

namespace Oneshot

open Action (Absorbs runs_bind runs_ask_bind)

/-! ### Announcements in a trace -/

/-- What an exchange announces: a stage and what it says. -/
def Exchange.announced? : Exchange → Option (Text × Text)
  | ⟨.announce stage detail, _⟩ => some (stage, detail)
  | _ => none

/-- The path that an exchange looks at, and whether a file stands there. -/
def Exchange.fileTest? : Exchange → Option (Text × Bool)
  | ⟨.kind path, .ok .file⟩ => some (path, true)
  | ⟨.kind path, _⟩ => some (path, false)
  | _ => none

namespace Trace

/-- What is announced, in order. -/
def announced (t : Trace) : List (Text × Text) :=
  t.filterMap Exchange.announced?

/-- The paths that are looked at, in order, with what stands there. -/
def fileTests (t : Trace) : List (Text × Bool) :=
  t.filterMap Exchange.fileTest?

@[simp] theorem announced_nil : announced [] = [] := rfl

@[simp] theorem announced_append (t t' : Trace) :
    announced (t ++ t') = announced t ++ announced t' :=
  List.filterMap_append

@[simp] theorem fileTests_append (t t' : Trace) :
    fileTests (t ++ t') = fileTests t ++ fileTests t' :=
  List.filterMap_append

@[simp] theorem announced_test (path : Text) (reply : Except Refusal FileKind) :
    announced [⟨.kind path, reply⟩] = [] := rfl

end Trace

/-- A routine that has no announcement among its topics announces nothing. -/
theorem Routine.Runs.announced_eq_nil {α : Type} {r : Routine α} {t : Trace} {x : α}
    {topics : List Topic} (h : r.Runs t x) (hr : r.Within topics) (hnot : .announce ∉ topics) :
    t.announced = [] := by
  refine Trace.filterMap_eq_nil_of_topic (h.topic_mem hr) hnot fun e htopic => ?_
  obtain ⟨request, reply⟩ := e
  cases request with
  | announce stage detail => exact absurd rfl htopic
  | _ => rfl

/-- An action that announces nothing, in front of another one. -/
theorem runs_silent_bind {α β : Type} {a : Action α} {f : α → Action β} {t : Trace}
    {y : Except Failure β} {topics : List Topic} (ha : a.Within topics) (hnot : .announce ∉ topics)
    (h : (a >>= f).run.Runs t y) :
    (∃ t₁ t₂ x, t = t₁ ++ t₂ ∧ t₁.announced = [] ∧ (f x).run.Runs t₂ y) ∨
      t.announced = [] ∧ ∃ failure, y = .error failure := by
  obtain ⟨t₁, t₂, x, rfl, hx, hy⟩ | ⟨failure, hx, rfl⟩ := runs_bind.1 h
  · exact .inl ⟨t₁, t₂, x, rfl, hx.announced_eq_nil ha hnot, hy⟩
  · exact .inr ⟨hx.announced_eq_nil ha hnot, failure, rfl⟩

/-- A test that comes to an end has found a file or not. -/
theorem fileTests_test {path : Text} {reply : Except Refusal FileKind} {found : Bool}
    (h : TestResult .file reply (.ok found)) :
    Trace.fileTests [⟨.kind path, reply⟩] = [(path, found)] := by
  have hfound := h.found_iff
  rcases reply with refusal | _ | _ | _ <;> cases found <;> simp at hfound <;> rfl

namespace Event

/-- The words in which an event is announced. -/
def words (event : Event) : Text × Text :=
  (event.stage, event.detail)

/-- Whether an event is the end of a pipeline. -/
def isDone : Event → Bool
  | .done .. => true
  | _ => false

/-- Only the end of a pipeline is announced as such. -/
theorem stage_ne_done {event : Event} (h : event.isDone = false) : event.stage ≠ "done".toList := by
  cases event with
  | analyzed => exact (by decide : "analyze".toList ≠ "done".toList)
  | missingLibrary => exact (by decide : "missing-dep".toList ≠ "done".toList)
  | scratch => exact (by decide : "scratch".toList ≠ "done".toList)
  | compiling => exact (by decide : "compile".toList ≠ "done".toList)
  | running => exact (by decide : "run".toList ≠ "done".toList)
  | done => simp [isDone] at h

end Event

namespace Pipeline

variable {p : Pipeline} {t : Trace} {script : Path} {arguments : List Text}

/-- Announces an event. -/
def announce (event : Event) : Action Unit :=
  Action.ask (.announce event.stage event.detail)

/-- An announcement in front of an action. -/
theorem runs_announce_bind {α : Type} {event : Event} {f : Unit → Action α} {x : Except Failure α}
    (h : (announce event >>= f).run.Runs t x) :
    ∃ t₁ t₂, t = t₁ ++ t₂ ∧ t₁.announced = [event.words] ∧ t₁.fileTests = [] ∧
      (f ()).run.Runs t₂ x := by
  obtain ⟨reply, rest, rfl, hrest⟩ := runs_ask_bind.1 h
  exact ⟨[_], rest, rfl, rfl, rfl, hrest⟩

/-! ### Missing libraries -/

/-- The text of the path of a crate's library. -/
def libraryText (p : Pipeline) (crate : Text) : Text :=
  (Toolchain.libraryOf p.cache p.platform crate).text

/-- The events of the crates whose libraries have not been found. -/
def missingEvents (p : Pipeline) (crates : List Text) (found : Text → Bool) : List Event :=
  (crates.filter fun crate => !found crate).map fun crate =>
    .missingLibrary crate (Toolchain.libraryOf p.cache p.platform crate)

theorem missingEvents_cons (crate : Text) (rest : List Text) (found : Text → Bool) :
    p.missingEvents (crate :: rest) found
      = p.missingEvents [crate] found ++ p.missingEvents rest found := by
  rw [missingEvents, missingEvents, missingEvents, ← List.map_append, ← List.filter_append,
    List.singleton_append]

/-- Only the crates of the list matter. -/
theorem missingEvents_congr {crates : List Text} {found found' : Text → Bool}
    (h : ∀ crate ∈ crates, found crate = found' crate) :
    p.missingEvents crates found = p.missingEvents crates found' := by
  rw [missingEvents, missingEvents, List.filter_congr fun crate hcrate => by rw [h crate hcrate]]

/-- Along the trace, the libraries of the crates are looked at, in order, each with the result
`found`. -/
def Tests (p : Pipeline) (crates : List Text) (found : Text → Bool) (t : Trace) : Prop :=
  t.fileTests = crates.map fun crate => (p.libraryText crate, found crate)

/-- Only the crates that are looked at matter. -/
theorem Tests.congr {crates : List Text} {found found' : Text → Bool} (h : p.Tests crates found t)
    (heq : ∀ crate ∈ crates, found crate = found' crate) : p.Tests crates found' t :=
  h.trans (List.map_congr_left fun crate hcrate => by rw [heq crate hcrate])

/-- What is done about one crate: its library is looked at and, if it is not a file, announced. A
test that is refused ends the tests. -/
theorem runs_reportMissing_cons (hreport : p.report = announce) {crate : Text} {rest : List Text}
    {x : Except Failure Unit} (h : (p.reportMissing (crate :: rest)).run.Runs t x) :
    (∃ result t₁ t₂, t = t₁ ++ t₂ ∧ t₁.fileTests = [(p.libraryText crate, result)] ∧
      t₁.announced = (p.missingEvents [crate] fun _ => result).map Event.words ∧
      (p.reportMissing rest).run.Runs t₂ x) ∨
    (∃ failure, x = .error failure) ∧ t.fileTests = [(p.libraryText crate, false)] ∧
      t.announced = [] := by
  rw [reportMissing] at h
  obtain ⟨t₁, t₂, result, rfl, htest, hnext⟩ | ⟨failure, htest, rfl⟩ := runs_bind.1 h
  · left
    obtain ⟨reply, rfl, hresult⟩ := Action.runs_test htest
    cases result with
    | true => exact ⟨true, [_], t₂, rfl, fileTests_test hresult, rfl, hnext⟩
    | false =>
      rw [hreport] at hnext
      obtain ⟨t₃, t₄, rfl, hannounced, htests, hrest⟩ := runs_announce_bind hnext
      refine ⟨false, _ :: t₃, t₄, rfl, ?_, hannounced, hrest⟩
      rw [← List.singleton_append, Trace.fileTests_append, fileTests_test hresult, htests]
      rfl
  · right
    obtain ⟨reply, rfl, hresult⟩ := Action.runs_test htest
    cases hresult with
    | refused => exact ⟨⟨_, rfl⟩, rfl, rfl⟩

/-- **The tests of the libraries.** The crates are looked at one after the other, and each one whose
library is not a file is announced; a test that is refused ends this. -/
theorem runs_reportMissing (hreport : p.report = announce) {crates : List Text}
    (hnodup : crates.Nodup) {x : Except Failure Unit}
    (h : (p.reportMissing crates).run.Runs t x) :
    ∃ found tested, tested <+: crates ∧ p.Tests tested found t ∧
      t.announced <+: (p.missingEvents crates found).map Event.words ∧
      (x = .ok () → tested = crates ∧
        t.announced = (p.missingEvents crates found).map Event.words) := by
  induction crates generalizing t with
  | nil =>
    obtain ⟨rfl, -⟩ := h
    exact ⟨fun _ => true, [], List.nil_prefix, rfl, List.nil_prefix, fun _ => ⟨rfl, rfl⟩⟩
  | cons crate rest ih =>
    obtain ⟨hcrate, hrest⟩ := List.nodup_cons.1 hnodup
    obtain ⟨result, t₁, t₂, rfl, htest, hannounced₁, hruns⟩ | ⟨⟨failure, rfl⟩, htest, hnone⟩ :=
      runs_reportMissing_cons hreport h
    · obtain ⟨found, tested, hfirst, htests, hannounced, hall⟩ := ih hrest hruns
      have hfound : ∀ c ∈ rest, found c = Function.update found crate result c := fun c hc =>
        (Function.update_of_ne (ne_of_mem_of_not_mem hc hcrate) ..).symm
      have hwords : (p.missingEvents (crate :: rest) (Function.update found crate result)).map
          Event.words = t₁.announced ++ (p.missingEvents rest found).map Event.words := by
        have hone : ∀ c ∈ [crate], result = Function.update found crate result c := fun c hc => by
          rw [List.mem_singleton.1 hc, Function.update_self]
        rw [missingEvents_cons, ← missingEvents_congr hone, ← missingEvents_congr hfound,
          hannounced₁, List.map_append]
      have htested := htests.congr fun c hc => hfound c (hfirst.subset hc)
      refine ⟨Function.update found crate result, crate :: tested,
        List.cons_prefix_cons.2 ⟨rfl, hfirst⟩, ?_, ?_, fun hx => ?_⟩
      · rw [Tests, Trace.fileTests_append, htest, htested, List.map_cons, Function.update_self]
        rfl
      · rw [hwords, Trace.announced_append]
        exact (List.prefix_append_right_inj _).2 hannounced
      · obtain ⟨rfl, hannounced⟩ := hall hx
        rw [hwords, Trace.announced_append, hannounced]
        exact ⟨rfl, rfl⟩
    · exact ⟨fun _ => false, [crate], by simp, htest, hnone ▸ List.nil_prefix, by simp⟩

/-! ### The stages -/

/-- The events of the compiler: the missing libraries, the scratch path and the command. -/
def buildEvents (p : Pipeline) (crates : List Text) (found : Text → Bool) (source : Path)
    (command : List Text) : List Event :=
  p.missingEvents (Text.firsts crates) found ++ [.scratch source, .compiling command]

/-- Building with the result `x` has announced its events along the trace, in accordance with the
tests of the libraries: all of them if it comes to an end, or else those in front of its failure. -/
structure Building (p : Pipeline) (crates : List Text) (t : Trace)
    (x : Except Failure (Except Outcome Artifact)) (found : Text → Bool) (source : Path)
    (command tested : List Text) : Prop where
  tested_first : tested <+: Text.firsts crates
  tests : ∃ looking, looking <:+: t ∧ p.Tests tested found looking
  announced : t.announced <+: (p.buildEvents crates found source command).map Event.words
  tested_eq : ∀ built, x = .ok built → tested = Text.firsts crates
  announced_eq : ∀ built, x = .ok built →
    t.announced = (p.buildEvents crates found source command).map Event.words

/-- Where nothing is announced in front of the tests, it does not matter what is done there. -/
theorem absorbs_building (p : Pipeline) (crates : List Text) (script : Path) :
    Absorbs (fun t => t.announced = []) fun t x =>
      ∃ found source command tested, p.Building crates t x found source command tested where
  of_error hsilent :=
    ⟨fun _ => true, script, [], [], List.nil_prefix, ⟨[], List.nil_infix, rfl⟩,
      by rw [hsilent]; exact List.nil_prefix, by simp, by simp⟩
  append_left := by
    rintro before t x hbefore ⟨found, source, command, tested, hfirst,
      ⟨looking, hlooking, htests⟩, hannounced, htested_eq, hannounced_eq⟩
    refine ⟨found, source, command, tested, hfirst, ⟨looking, ?_, htests⟩, ?_, htested_eq, ?_⟩
    · exact hlooking.trans (List.suffix_append before t).isInfix
    · rwa [Trace.announced_append, hbefore]
    · rwa [Trace.announced_append, hbefore]

/-- **The announcements of building.** -/
theorem runs_building (hreport : p.report = announce) {prepared : Prepared}
    {x : Except Failure (Except Outcome Artifact)} (h : (p.build prepared).run.Runs t x) :
    ∃ found source command tested,
      p.Building prepared.analysis.crates t x found source command tested := by
  have habsorbs := p.absorbs_building prepared.analysis.crates prepared.script
  rw [build_eq] at h
  refine habsorbs.bind h (fun h => h.announced_eq_nil within_base (by decide)) fun _ hat => ?_
  refine habsorbs.bind hat (fun h => h.announced_eq_nil (Toolchain.within_artifactFor ..)
    (by decide)) fun {planned} _ _ _ hplanned => ?_
  refine habsorbs.bind hplanned (fun h => h.announced_eq_nil (Toolchain.within_plannedCommand ..)
    (by decide)) fun {command} _ t _ hmissing => ?_
  have hnodup := Text.nodup_firsts prepared.analysis.crates
  obtain ⟨t₁, t₂, _, rfl, htests, hreports⟩ | ⟨failure, htests, rfl⟩ := runs_bind.1 hmissing
  · obtain ⟨found, tested, hfirst, htests, -, hall⟩ := runs_reportMissing hreport hnodup htests
    obtain ⟨rfl, hannounced⟩ := hall rfl
    rw [hreport] at hreports
    obtain ⟨t₂, rest, rfl, hscratch, -, hreports⟩ := runs_announce_bind hreports
    obtain ⟨t₃, t₄, rfl, hcompile, -, hbuild⟩ := runs_announce_bind hreports
    have hsilent : t₄.announced = [] :=
      hbuild.announced_eq_nil (within_orOutcome (Toolchain.within_buildProgram ..)) (by decide)
    have hevents : (t₁ ++ (t₂ ++ (t₃ ++ t₄))).announced
        = (p.buildEvents prepared.analysis.crates found planned.source command).map
          Event.words := by
      simp [hannounced, hscratch, hcompile, hsilent, buildEvents]
    exact ⟨found, planned.source, command, _, hfirst,
      ⟨t₁, (List.prefix_append t₁ _).isInfix, htests⟩, hevents ▸ List.prefix_refl _, fun _ _ => rfl,
      fun _ _ => hevents⟩
  · obtain ⟨found, tested, hfirst, htests, hannounced, -⟩ :=
      runs_reportMissing hreport hnodup htests
    refine ⟨found, planned.source, command, tested, hfirst, ⟨t, List.infix_refl t, htests⟩, ?_,
      by simp, by simp⟩
    rw [buildEvents, List.map_append]
    exact hannounced.trans (List.prefix_append _ _)

/-- The artifact is announced before it is run, whatever becomes of it. -/
theorem announced_execute (hreport : p.report = announce) {artifact : Artifact}
    {x : Except Failure Outcome} (h : (p.execute artifact arguments).run.Runs t x) :
    t.announced = [(Event.running artifact.executable).words] := by
  rw [execute, hreport] at h
  obtain ⟨t₁, t₂, rfl, hannounced, -, hlaunch⟩ := runs_announce_bind h
  have hsilent : t₂.announced = [] := by
    obtain ⟨t₃, t₄, result, rfl, hresult, hend⟩ | ⟨hresult, -⟩ :=
      runs_silent_bind (within_orOutcome (Toolchain.within_launchArtifact ..)) (by decide) hlaunch
    · cases result with
      | ok code =>
        obtain ⟨rfl, -⟩ := hend
        rwa [List.append_nil]
      | error outcome =>
        obtain ⟨rfl, -⟩ := hend
        rwa [List.append_nil]
    · exact hresult
  rw [Trace.announced_append, hannounced, hsilent, List.append_nil]

/-- Only a script that has been analysed is announced. -/
theorem announced_prepare (hreport : p.report = announce) {x : Except Failure Prepared}
    (h : (p.prepare script).run.Runs t x) :
    (∃ prepared, x = .ok prepared ∧ t.announced = [(Event.analyzed prepared.analysis).words]) ∨
      ∃ failure, x = .error failure ∧ t.announced = [] := by
  rw [prepare] at h
  split at h
  · obtain ⟨rfl, rfl⟩ := h
    exact .inr ⟨_, rfl, rfl⟩
  · obtain ⟨t₁, t₂, text, rfl, hsilent, hanalyze⟩ | ⟨hsilent, failure, rfl⟩ :=
      runs_silent_bind (Files.within_readText ..) (by decide) h
    swap
    · exact .inr ⟨failure, rfl, hsilent⟩
    split at hanalyze
    · obtain ⟨rfl, rfl⟩ := hanalyze
      exact .inr ⟨_, rfl, by simpa using hsilent⟩
    · rw [hreport] at hanalyze
      obtain ⟨t₂, t₃, rfl, hannounced, -, rfl, rfl⟩ := runs_announce_bind hanalyze
      refine .inl ⟨_, rfl, ?_⟩
      rw [Trace.announced_append, Trace.announced_append, hsilent, hannounced]
      rfl

theorem announced_prepared (hreport : p.report = announce) {prepared : Prepared}
    (h : (p.prepare script).run.Runs t (.ok prepared)) :
    t.announced = [(Event.analyzed prepared.analysis).words] := by
  obtain ⟨prepared', hx, hannounced⟩ | ⟨failure, hx, -⟩ := announced_prepare hreport h
  · rw [hannounced, Except.ok.inj hx]
  · simp at hx

/-- Running an artifact to its end announces it and, unless this fails, its outcome. -/
theorem announced_finish (hreport : p.report = announce) {artifact : Artifact}
    {x : Except Failure Outcome}
    (h : (do
      let outcome ← p.execute artifact arguments
      p.report (.done outcome true)
      return outcome : Action Outcome).run.Runs t x) :
    (∃ outcome running after, x = .ok outcome ∧ t = running ++ after ∧
      (p.execute artifact arguments).run.Runs running (.ok outcome) ∧
      t.announced = [(Event.running artifact.executable).words, (Event.done outcome true).words]) ∨
    ∃ failure, x = .error failure ∧ t.announced = [(Event.running artifact.executable).words] := by
  obtain ⟨t₁, t₂, outcome, rfl, hexecute, hdone⟩ | ⟨failure, hexecute, rfl⟩ := runs_bind.1 h
  · rw [hreport] at hdone
    obtain ⟨t₃, t₄, rfl, hannounced, -, rfl, rfl⟩ := runs_announce_bind hdone
    refine .inl ⟨outcome, t₁, _, rfl, rfl, hexecute, ?_⟩
    rw [Trace.announced_append, Trace.announced_append, announced_execute hreport hexecute,
      hannounced]
    rfl
  · exact .inr ⟨failure, rfl, announced_execute hreport hexecute⟩

/-! ### The whole run -/

/-- What the announcements of a pipeline depend on. -/
structure Story where
  analysis : Analysis
  /-- Whether the library of a crate is a file. -/
  found : Text → Bool
  source : Path
  command : List Text
  /-- The executable, if the outcome comes from running it. -/
  executable? : Option Path
  outcome : Outcome

namespace Story

/-- The events in front of the end. -/
def front (p : Pipeline) (s : Story) : List Event :=
  .analyzed s.analysis :: (p.buildEvents s.analysis.crates s.found s.source s.command
    ++ s.executable?.toList.map .running)

/-- The events of a pipeline that comes to an end. -/
def events (p : Pipeline) (s : Story) : List Event :=
  s.front p ++ [.done s.outcome s.executable?.isSome]

theorem isDone_of_mem_front {s : Story} {event : Event} (h : event ∈ s.front p) :
    event.isDone = false := by
  simp only [front, buildEvents, missingEvents, List.mem_cons, List.mem_append, List.mem_map,
    List.not_mem_nil, or_false] at h
  obtain rfl | (⟨crate, -, rfl⟩ | rfl | rfl) | ⟨executable, -, rfl⟩ := h <;> rfl

/-- What has been announced, if it is a part of the front, lacks the end. -/
theorem prefix_of_front {s : Story} {words : List (Text × Text)}
    (h : words <+: (s.front p).map Event.words) :
    words <+: (s.events p).map Event.words ∧ words ≠ (s.events p).map Event.words ∧
      ∀ w ∈ words, w.1 ≠ "done".toList := by
  have hnone : ∀ w ∈ words, w.1 ≠ "done".toList := by
    intro w hw
    obtain ⟨event, hevent, rfl⟩ := List.mem_map.1 (h.subset hw)
    exact Event.stage_ne_done (isDone_of_mem_front hevent)
  have hsplit : (s.events p).map Event.words = (s.front p).map Event.words
      ++ [(Event.done s.outcome s.executable?.isSome).words] := by
    rw [events, List.map_append]
    rfl
  refine ⟨hsplit ▸ h.trans (List.prefix_append _ _), ?_, hnone⟩
  rintro rfl
  exact hnone _ (hsplit ▸ List.mem_append_right _ List.mem_cons_self) rfl

/-- The story is that of a trace in which the pipeline comes to an end: its script is prepared, the
libraries of its crates are looked at, each once, and the outcome comes from building or from
running the executable that has been built. -/
structure EndsIn (p : Pipeline) (script : Path) (arguments : List Text) (s : Story)
    (t : Trace) : Prop where
  stages : ∃ prepared before building rest, t = before ++ (building ++ rest) ∧
    (p.prepare script).run.Runs before (.ok prepared) ∧ s.analysis = prepared.analysis ∧
    (∃ looking, looking <:+: building ∧
      p.Tests (Text.firsts s.analysis.crates) s.found looking) ∧
    match s.executable? with
    | none => (p.build prepared).run.Runs building (.ok (.error s.outcome))
    | some executable => ∃ artifact running after, artifact.executable = executable ∧
      (p.build prepared).run.Runs building (.ok (.ok artifact)) ∧ rest = running ++ after ∧
      (p.execute artifact arguments).run.Runs running (.ok s.outcome)

/-- The story is begun in a trace in which the pipeline fails: its script is prepared, and of the
libraries of its crates the first ones are looked at. -/
structure BeginsIn (p : Pipeline) (script : Path) (s : Story) (t : Trace) : Prop where
  stages : ∃ prepared before rest, t = before ++ rest ∧
    (p.prepare script).run.Runs before (.ok prepared) ∧ s.analysis = prepared.analysis ∧
    ∃ looking tested, looking <:+: rest ∧ tested <+: Text.firsts s.analysis.crates ∧
      p.Tests tested s.found looking

end Story

/-- **The announcements of a run.** A run that comes to an end has announced the analysis, each
crate whose library is not a file, once and in the order of the declarations, the scratch path, the
command of the compiler, the executable exactly if the outcome comes from running it, and at last
the outcome. A run that fails has announced a proper part of such a list, from its start on and
without the end; if the failure is one of preparing the script, it has announced nothing. -/
theorem announced_run (hreport : p.report = announce) {x : Except Failure Outcome}
    (h : (p.run script arguments).run.Runs t x) :
    (∃ s : Story, x = .ok s.outcome ∧ s.EndsIn p script arguments t ∧
        t.announced = (s.events p).map Event.words) ∨
      (∃ failure, x = .error failure ∧ (p.prepare script).run.Runs t (.error failure) ∧
        t.announced = []) ∨
      ∃ failure, ∃ s : Story, x = .error failure ∧ s.BeginsIn p script t ∧
        t.announced <+: (s.events p).map Event.words ∧
        t.announced ≠ (s.events p).map Event.words ∧ ∀ w ∈ t.announced, w.1 ≠ "done".toList := by
  rw [Pipeline.run] at h
  obtain ⟨before, t₁, prepared, rfl, hprepared, hbuilding⟩ | ⟨failure, hprepared, rfl⟩ :=
    runs_bind.1 h
  swap
  · obtain ⟨prepared, hx, -⟩ | ⟨failure', hx, hsilent⟩ := announced_prepare hreport hprepared
    · simp at hx
    · exact .inr (.inl ⟨failure, rfl, hprepared, hsilent⟩)
  have hanalyzed := announced_prepared hreport hprepared
  obtain ⟨t₂, t₃, built, rfl, hbuild, hrest⟩ | ⟨failure, hbuild, rfl⟩ := runs_bind.1 hbuilding
  swap
  · obtain ⟨found, source, command, tested, hbuilt⟩ := runs_building hreport hbuild
    obtain ⟨looking, hlooking, htests⟩ := hbuilt.tests
    let s : Story := ⟨prepared.analysis, found, source, command, none, .launchFailed []⟩
    have hfront : (before ++ t₁).announced <+: (s.front p).map Event.words := by
      rw [Trace.announced_append, hanalyzed]
      simpa [s, Story.front] using hbuilt.announced
    exact .inr (.inr ⟨failure, s, rfl,
      ⟨prepared, before, t₁, rfl, hprepared, rfl, looking, tested, hlooking, hbuilt.tested_first,
        htests⟩, Story.prefix_of_front hfront⟩)
  obtain ⟨found, source, command, tested, hbuilt⟩ := runs_building hreport hbuild
  obtain ⟨looking, hlooking, htests⟩ := hbuilt.tests
  obtain rfl := hbuilt.tested_eq built rfl
  have hevents := hbuilt.announced_eq built rfl
  cases built with
  | error outcome =>
    rw [hreport] at hrest
    obtain ⟨t₄, t₅, rfl, hdone, -, rfl, rfl⟩ := runs_announce_bind hrest
    let s : Story := ⟨prepared.analysis, found, source, command, none, outcome⟩
    refine .inl ⟨s, rfl, ⟨prepared, before, t₂, _, rfl, hprepared, rfl,
      ⟨looking, hlooking, htests⟩, hbuild⟩, ?_⟩
    simp [hanalyzed, hevents, hdone, s, Story.events, Story.front]
  | ok artifact =>
    obtain ⟨outcome, running, after, rfl, rfl, hexecute, hfinish⟩ | ⟨failure, rfl, hrunning⟩ :=
      announced_finish hreport hrest
    · let s : Story :=
        ⟨prepared.analysis, found, source, command, some artifact.executable, outcome⟩
      refine .inl ⟨s, rfl, ⟨prepared, before, t₂, _, rfl, hprepared, rfl,
        ⟨looking, hlooking, htests⟩, artifact, running, after, rfl, hbuild, rfl, hexecute⟩, ?_⟩
      rw [Trace.announced_append, Trace.announced_append, hanalyzed, hevents, hfinish]
      simp [s, Story.events, Story.front]
    · let s : Story :=
        ⟨prepared.analysis, found, source, command, some artifact.executable, .launchFailed []⟩
      have hfront : (before ++ (t₂ ++ t₃)).announced <+: (s.front p).map Event.words := by
        simp [hanalyzed, hevents, hrunning, s, Story.front]
      exact .inr (.inr ⟨failure, s, rfl, ⟨prepared, before, _, rfl, hprepared, rfl, looking, _,
        hlooking.trans (List.prefix_append t₂ t₃).isInfix, List.prefix_rfl, htests⟩,
        Story.prefix_of_front hfront⟩)

/-- A host that holds a script with a dependency whose library is missing. -/
def lackingHost : (request : Request) → request.Reply
  | .read _ => .ok (Utf8.encode "extern crate regex;\nextern crate regex;\n".toList)
  | .kind path =>
    if path = "/cache/dy-cache/libregex.so".toList then .error (.os ⟨.noEntry, some path, none⟩)
    else .ok .file
  | request => CommandLine.killingHost request

/-- The pipeline of `silent`, announcing its events. -/
def recorder : Pipeline :=
  { silent with report := announce }

/-- A missing library is announced once, and the run goes on. -/
theorem announced_run_missing :
    ∃ t, (recorder.run (Path.ofText "s.rs") []).run.Runs t (.ok (.completed 137)) ∧
      t.announced.map Prod.fst = ["analyze".toList, "missing-dep".toList, "scratch".toList,
        "compile".toList, "run".toList, "done".toList] ∧
      ∃ s : Story, s.EndsIn recorder (Path.ofText "s.rs") [] t ∧
        t.announced = (s.events recorder).map Event.words := by
  have hvalue : ((recorder.run (Path.ofText "s.rs") []).run.follow lackingHost).2
      = .ok (.completed 137) := by
    decide +kernel
  have hstages : ((recorder.run (Path.ofText "s.rs") []).run.follow lackingHost).1.announced.map
      Prod.fst = ["analyze".toList, "missing-dep".toList, "scratch".toList, "compile".toList,
        "run".toList, "done".toList] := by
    decide +kernel
  have hruns := Routine.runs_follow lackingHost (recorder.run (Path.ofText "s.rs") []).run
  rw [hvalue] at hruns
  obtain ⟨s, hx, hends, hevents⟩ | ⟨failure, hx, -⟩ | ⟨failure, s, hx, -⟩ :=
    announced_run rfl hruns
  · exact ⟨_, hruns, hstages, s, hends, hevents⟩
  · simp at hx
  · simp at hx

end Pipeline

end Oneshot
