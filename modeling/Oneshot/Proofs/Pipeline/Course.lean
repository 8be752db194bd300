import Mathlib.Data.List.Basic
import Oneshot.Proofs.Host.Idle

/-!
# The Course of a Run

Once there is a program, a run goes through four stages: the compiler is launched, the compiler is
asked for its runtime libraries, the executable is looked at, and the executable is launched. Each
stage is one exchange with the host, and between these exchanges nothing is launched.

A run that passes all of them ends with the status of the artifact (`Completes`). Any other one
breaks off: at a stage that it does not reach, or at one whose reply does not let it pass
(`Breaks`). Along the same trace a run cannot do both, since only a run that completes spawns an
artifact.

* `Completes`, `Breaks`: the two ways in which a run can go.
* `Completes.spawned`, `Breaks.spawned`: the artifacts that are spawned on the way.
* `Completes.launches`, `Breaks.launches`: what is launched on the way, in order.
-/

namespace Oneshot

/-! ### Launches in a trace -/

namespace Exchange

/-- The command of an exchange that launches one. -/
def command? : Exchange → Option Launch
  | ⟨.launch command, _⟩ => some command
  | _ => none

/-- What a launched command has left, if the launch was not refused. -/
def finished? : Exchange → Option Finished
  | ⟨.launch _, .ok finished⟩ => some finished
  | _ => none

/-- The status of an artifact: of a child that is spawned with the streams of the runner. -/
def artifactStatus? : Exchange → Option Int
  | ⟨.launch command, .ok finished⟩ => if command.captured then none else some finished.status
  | _ => none

/-- Only a launch leaves something. -/
theorem eq_of_finished? {e : Exchange} {finished : Finished} (h : e.finished? = some finished) :
    ∃ launch, e = ⟨.launch launch, .ok finished⟩ := by
  obtain ⟨request, reply⟩ := e
  cases request with
  | launch launch =>
    cases reply with
    | error refusal => simp [finished?] at h
    | ok other =>
      obtain rfl : other = finished := by simpa [finished?] using h
      exact ⟨launch, rfl⟩
  | _ => simp [finished?] at h

end Exchange

namespace Trace

/-- The commands that are launched, in order. -/
def launches (t : Trace) : List Launch :=
  t.filterMap Exchange.command?

/-- The statuses of the artifacts that are spawned, in order. -/
def artifactStatuses (t : Trace) : List Int :=
  t.filterMap Exchange.artifactStatus?

theorem artifactStatuses_append (t t' : Trace) :
    (t ++ t').artifactStatuses = t.artifactStatuses ++ t'.artifactStatuses :=
  List.filterMap_append

theorem artifactStatuses_cons_some {e : Exchange} {status : Int}
    (h : e.artifactStatus? = some status) (t : Trace) :
    artifactStatuses (e :: t) = status :: t.artifactStatuses :=
  List.filterMap_cons_some h

theorem artifactStatuses_cons_none {e : Exchange} (h : e.artifactStatus? = none) (t : Trace) :
    artifactStatuses (e :: t) = t.artifactStatuses :=
  List.filterMap_cons_none h

/-- Nothing is launched. -/
def Quiet (t : Trace) : Prop :=
  ∀ e ∈ t, e.command? = none

/-- No program is found where one is looked for. -/
def Unfound (t : Trace) : Prop :=
  ∀ place, ⟨.isExecutable place, true⟩ ∉ t

theorem quiet_nil : Quiet [] := by
  simp [Quiet]

theorem unfound_nil : Unfound [] := by
  simp [Unfound]

theorem Quiet.append {t t' : Trace} (h : Quiet t) (h' : Quiet t') : Quiet (t ++ t') :=
  fun e he => (List.mem_append.1 he).elim (h e) (h' e)

theorem Unfound.append {t t' : Trace} (h : Unfound t) (h' : Unfound t') : Unfound (t ++ t') :=
  fun place he => (List.mem_append.1 he).elim (h place) (h' place)

theorem Quiet.launches {t : Trace} (h : Quiet t) : t.launches = [] :=
  List.filterMap_eq_nil_iff.2 h

theorem Quiet.artifactStatuses {t : Trace} (h : Quiet t) : t.artifactStatuses = [] := by
  refine List.filterMap_eq_nil_iff.2 fun e he => ?_
  have hcommand := h e he
  obtain ⟨request, reply⟩ := e
  cases request <;> first | rfl | simp [Exchange.command?] at hcommand

end Trace

namespace Trace

/-- Nothing is launched and no program is looked for. -/
def Calm (t : Trace) : Prop :=
  ∀ e ∈ t, e.request.Idle

theorem calm_nil : Calm [] := by
  simp [Calm]

theorem Calm.append {t t' : Trace} (h : Calm t) (h' : Calm t') : Calm (t ++ t') :=
  fun e he => (List.mem_append.1 he).elim (h e) (h' e)

theorem Calm.quiet {t : Trace} (h : Calm t) : Quiet t := by
  intro e he
  have hidle := h e he
  obtain ⟨request, reply⟩ := e
  cases request <;> first | rfl | exact hidle.elim

theorem Calm.unfound {t : Trace} (h : Calm t) : Unfound t :=
  fun _ he => h _ he

end Trace

open Trace (Quiet Unfound Calm quiet_nil unfound_nil calm_nil)

/-- The trace of an idle routine is calm. -/
theorem Routine.Runs.calm {α : Type} {r : Routine α} {t : Trace} {x : α} (h : r.Runs t x)
    (hr : r.Idle) : Calm t :=
  h.every hr

/-! ### Stages -/

/-- What a run works towards: the commands of its stages. -/
structure Plan where
  cache : Cache
  toolchain : ToolchainSettings
  platform : Platform
  inColor : Bool
  crates : List Text
  artifact : Artifact
  /-- The executable as seen from the root. -/
  executable : Path
  arguments : List Text

namespace Plan

/-- The command that compiles the program. -/
def compile (p : Plan) : List Text :=
  Toolchain.compileCommand p.cache p.toolchain p.platform p.inColor p.crates p.artifact

/-- The command that asks the compiler for its runtime libraries. -/
def query (p : Plan) : List Text :=
  [p.toolchain.compiler, "--print".toList,
    if p.platform.runtimeSubdirectory.isNone then "target-libdir".toList else "sysroot".toList]

/-- The command that runs the artifact. -/
def start (p : Plan) : List Text :=
  p.executable.text :: p.arguments

end Plan

/-- A command is launched with its program at the place to which the name of the program leads. -/
def Launches (command : List Text) (launch : Launch) : Prop :=
  ∃ program place rest, command = program :: rest ∧ launch.arguments = place :: rest ∧
    ((Path.ofText program).isAbsolute = true → place = (Path.ofText program).text)

/-- The stages of a run, once there is a program. -/
inductive Stage where
  | compiling
  | querying
  | testing
  | starting
deriving DecidableEq, Repr

namespace Stage

/-- The stage behind a stage. -/
def next? : Stage → Option Stage
  | .compiling => some .querying
  | .querying => some .testing
  | .testing => some .starting
  | .starting => none

/-- What is asked at a stage. -/
def Asks (p : Plan) : Stage → Request → Prop
  | .compiling, .launch launch =>
    Launches p.compile launch ∧ launch.vars = none ∧ launch.captured = true
  | .querying, .launch launch =>
    Launches p.query launch ∧ launch.vars = none ∧ launch.captured = true
  | .testing, .kind path => path = p.executable.text
  | .starting, .launch launch =>
    Launches p.start launch ∧ launch.vars.isSome = true ∧ launch.captured = false
  | _, _ => False

/-- Whether a run gets past a stage: the compiler has ended with status zero, the query as well and
with an answer that is not blank, the executable is a file, the artifact has been spawned. -/
def Passes (stage : Stage) (e : Exchange) : Prop :=
  match stage with
  | .compiling => ∃ finished, e.finished? = some finished ∧ finished.status = 0
  | .querying => ∃ finished output, e.finished? = some finished ∧ finished.status = 0 ∧
      Utf8.decode finished.output = .ok output ∧ Text.trim (Text.unifyNewlines output) ≠ []
  | .testing => ∃ path, e = ⟨.kind path, .ok .file⟩
  | .starting => ∃ finished, e.finished? = some finished

end Stage

variable {p : Plan} {stage next : Stage} {t before after : Trace} {e : Exchange} {status : Int}

/-- The run passes the stage and all those behind it, and the artifact ends with the status. -/
inductive Completes (p : Plan) : Stage → Trace → Int → Prop
  | starting {before after : Trace} {e : Exchange} {finished : Finished} (hbefore : Quiet before)
      (hask : Stage.starting.Asks p e.request) (hfinished : e.finished? = some finished)
      (hafter : Quiet after) : Completes p .starting (before ++ e :: after) finished.status
  | pass {stage next : Stage} {before t : Trace} {e : Exchange} {status : Int}
      (hbefore : Quiet before) (hask : stage.Asks p e.request) (hpass : stage.Passes e)
      (hnext : stage.next? = some next) (rest : Completes p next t status) :
      Completes p stage (before ++ e :: t) status

/-- The run breaks off at the stage or at one behind it. -/
inductive Breaks (p : Plan) : Stage → Trace → Prop
  /-- Something ends the run in front of the compiler. -/
  | early {t : Trace} (h : Quiet t) : Breaks p .compiling t
  /-- The program to launch is not found. -/
  | unfound {stage : Stage} {t : Trace} (hstage : stage = .querying ∨ stage = .starting)
      (h : Quiet t) (hunfound : Unfound t) : Breaks p stage t
  /-- The reply does not let the run pass. -/
  | fail {stage : Stage} {before after : Trace} {e : Exchange} (hbefore : Quiet before)
      (hask : stage.Asks p e.request) (hfail : ¬ stage.Passes e) (hafter : Quiet after) :
      Breaks p stage (before ++ e :: after)
  | pass {stage next : Stage} {before t : Trace} {e : Exchange} (hbefore : Quiet before)
      (hask : stage.Asks p e.request) (hpass : stage.Passes e) (hnext : stage.next? = some next)
      (rest : Breaks p next t) : Breaks p stage (before ++ e :: t)

/-- The run passes the stage, and the trace ends there. -/
def PassesAt (p : Plan) (stage : Stage) (t : Trace) : Prop :=
  ∃ before e, t = before ++ [e] ∧ Quiet before ∧ stage.Asks p e.request ∧ stage.Passes e

/-! ### Around a course -/

theorem PassesAt.completes {t' : Trace} (h : PassesAt p stage t) (hnext : stage.next? = some next)
    (rest : Completes p next t' status) : Completes p stage (t ++ t') status := by
  obtain ⟨before, e, rfl, hbefore, hask, hpass⟩ := h
  rw [List.append_assoc, List.singleton_append]
  exact .pass hbefore hask hpass hnext rest

theorem PassesAt.breaks {t' : Trace} (h : PassesAt p stage t) (hnext : stage.next? = some next)
    (rest : Breaks p next t') : Breaks p stage (t ++ t') := by
  obtain ⟨before, e, rfl, hbefore, hask, hpass⟩ := h
  rw [List.append_assoc, List.singleton_append]
  exact .pass hbefore hask hpass hnext rest

theorem PassesAt.append_left (h : PassesAt p stage t) (hbefore : Quiet before) :
    PassesAt p stage (before ++ t) := by
  obtain ⟨before', e, rfl, hbefore', hask, hpass⟩ := h
  exact ⟨before ++ before', e, by simp, hbefore.append hbefore', hask, hpass⟩

theorem Completes.append_left (h : Completes p stage t status) (hbefore : Quiet before) :
    Completes p stage (before ++ t) status := by
  cases h with
  | starting hb hask hfinished hafter =>
    rw [← List.append_assoc]
    exact .starting (hbefore.append hb) hask hfinished hafter
  | pass hb hask hpass hnext rest =>
    rw [← List.append_assoc]
    exact .pass (hbefore.append hb) hask hpass hnext rest

theorem Completes.append_right (h : Completes p stage t status) (hafter : Quiet after) :
    Completes p stage (t ++ after) status := by
  induction h with
  | starting hb hask hfinished ha =>
    rw [List.append_assoc, List.cons_append]
    exact .starting hb hask hfinished (ha.append hafter)
  | pass hb hask hpass hnext rest ih =>
    rw [List.append_assoc, List.cons_append]
    exact .pass hb hask hpass hnext ih

theorem Breaks.append_left (h : Breaks p stage t) (hbefore : Calm before) :
    Breaks p stage (before ++ t) := by
  cases h with
  | early h => exact .early (hbefore.quiet.append h)
  | unfound hstage h hu =>
    exact .unfound hstage (hbefore.quiet.append h) (hbefore.unfound.append hu)
  | fail hb hask hfail ha =>
    rw [← List.append_assoc]
    exact .fail (hbefore.quiet.append hb) hask hfail ha
  | pass hb hask hpass hnext rest =>
    rw [← List.append_assoc]
    exact .pass (hbefore.quiet.append hb) hask hpass hnext rest

theorem Breaks.append_right (h : Breaks p stage t) (hafter : Calm after) :
    Breaks p stage (t ++ after) := by
  induction h with
  | early h => exact .early (h.append hafter.quiet)
  | unfound hstage h hu => exact .unfound hstage (h.append hafter.quiet) (hu.append hafter.unfound)
  | fail hb hask hfail ha =>
    rw [List.append_assoc, List.cons_append]
    exact .fail hb hask hfail (ha.append hafter.quiet)
  | pass hb hask hpass hnext rest ih =>
    rw [List.append_assoc, List.cons_append]
    exact .pass hb hask hpass hnext ih

/-! ### What is spawned on the way -/

/-- Only the last stage spawns an artifact, and only if the run passes it. -/
theorem artifactStatus?_of_asks (hask : stage.Asks p e.request)
    (h : stage = .starting → ¬ stage.Passes e) : e.artifactStatus? = none := by
  obtain ⟨request, reply⟩ := e
  cases request with
  | launch launch =>
    cases reply with
    | error refusal => rfl
    | ok finished =>
      cases stage with
      | compiling => simp [Exchange.artifactStatus?, hask.2.2]
      | querying => simp [Exchange.artifactStatus?, hask.2.2]
      | testing => exact hask.elim
      | starting => exact absurd ⟨finished, rfl⟩ (h rfl)
  | _ => rfl

/-- **A run that completes spawns one artifact.** -/
theorem Completes.spawned (h : Completes p stage t status) : t.artifactStatuses = [status] := by
  induction h with
  | @starting before after e finished hb hask hfinished ha =>
    obtain ⟨launch, rfl⟩ := Exchange.eq_of_finished? hfinished
    have hstatus :
        Exchange.artifactStatus? ⟨.launch launch, .ok finished⟩ = some finished.status := by
      simp [Exchange.artifactStatus?, hask.2.2]
    rw [Trace.artifactStatuses_append, hb.artifactStatuses,
      Trace.artifactStatuses_cons_some hstatus, ha.artifactStatuses, List.nil_append]
  | @pass stage next before t e status hb hask hpass hnext rest ih =>
    have hnone : e.artifactStatus? = none :=
      artifactStatus?_of_asks hask fun hstage => by simp [hstage, Stage.next?] at hnext
    rw [Trace.artifactStatuses_append, hb.artifactStatuses,
      Trace.artifactStatuses_cons_none hnone, ih, List.nil_append]

/-- **A run that breaks off spawns no artifact.** -/
theorem Breaks.spawned (h : Breaks p stage t) : t.artifactStatuses = [] := by
  induction h with
  | early h => exact h.artifactStatuses
  | unfound hstage h hu => exact h.artifactStatuses
  | @fail stage before after e hb hask hfail ha =>
    have hnone : e.artifactStatus? = none := artifactStatus?_of_asks hask fun _ => hfail
    rw [Trace.artifactStatuses_append, hb.artifactStatuses,
      Trace.artifactStatuses_cons_none hnone, ha.artifactStatuses, List.nil_append]
  | @pass stage next before t e hb hask hpass hnext rest ih =>
    have hnone : e.artifactStatus? = none :=
      artifactStatus?_of_asks hask fun hstage => by simp [hstage, Stage.next?] at hnext
    rw [Trace.artifactStatuses_append, hb.artifactStatuses,
      Trace.artifactStatuses_cons_none hnone, ih, List.nil_append]

/-! ### What is launched on the way -/

/-- The stages from the given one on that launch a command. -/
def Stage.launching : Stage → List Stage
  | .compiling => [.compiling, .querying, .starting]
  | .querying => [.querying, .starting]
  | .testing | .starting => [.starting]

/-- The commands are launched by stages of the list, by each of them once at most and in order. -/
def LaunchedBy (p : Plan) (stages : List Stage) (launches : List Launch) : Prop :=
  ∃ reached, reached <+: stages ∧
    List.Forall₂ (fun stage launch => stage.Asks p (.launch launch)) reached launches

theorem LaunchedBy.nil (stages : List Stage) : LaunchedBy p stages [] :=
  ⟨[], List.nil_prefix, .nil⟩

/-- The exchange of a stage in front of what the stages behind it launch. -/
theorem LaunchedBy.cons (hbefore : Quiet before) (hask : stage.Asks p e.request)
    (hnext : stage.next? = some next) (h : LaunchedBy p next.launching t.launches) :
    LaunchedBy p stage.launching (Trace.launches (before ++ e :: t)) := by
  have hquiet := hbefore.launches
  simp only [Trace.launches] at hquiet h ⊢
  rw [List.filterMap_append, hquiet, List.nil_append]
  obtain ⟨reached, hreached, hall⟩ := h
  obtain ⟨request, reply⟩ := e
  cases stage with
  | compiling =>
    obtain rfl : .querying = next := by simpa [Stage.next?] using hnext
    cases request with
    | launch launch =>
      exact ⟨.compiling :: reached, List.cons_prefix_cons.2 ⟨rfl, hreached⟩, .cons hask hall⟩
    | _ => exact hask.elim
  | querying =>
    obtain rfl : .testing = next := by simpa [Stage.next?] using hnext
    cases request with
    | launch launch =>
      exact ⟨.querying :: reached, List.cons_prefix_cons.2 ⟨rfl, hreached⟩, .cons hask hall⟩
    | _ => exact hask.elim
  | testing =>
    obtain rfl : .starting = next := by simpa [Stage.next?] using hnext
    cases request with
    | kind path => exact ⟨reached, hreached, hall⟩
    | _ => exact hask.elim
  | starting => simp [Stage.next?] at hnext

/-- The exchange of a stage, with nothing launched behind it. -/
theorem LaunchedBy.last (hbefore : Quiet before) (hask : stage.Asks p e.request)
    (hafter : Quiet after) :
    LaunchedBy p stage.launching (Trace.launches (before ++ e :: after)) := by
  have hquiet := hbefore.launches
  have hquiet' := hafter.launches
  simp only [Trace.launches] at hquiet hquiet' ⊢
  rw [List.filterMap_append, hquiet, List.nil_append]
  obtain ⟨request, reply⟩ := e
  have hlaunch : ∀ launch (reply : Except Refusal Finished), stage.Asks p (.launch launch) →
      stage ≠ .testing → LaunchedBy p stage.launching
        (List.filterMap Exchange.command? (⟨.launch launch, reply⟩ :: after)) := by
    intro launch reply hask hstage
    refine ⟨[stage], ?_, ?_⟩
    · cases stage <;> first | exact absurd rfl hstage | simp [Stage.launching]
    · show List.Forall₂ _ [stage] (launch :: List.filterMap Exchange.command? after)
      rw [hquiet']
      exact .cons hask .nil
  cases stage with
  | testing =>
    cases request with
    | kind path =>
      rw [List.filterMap_cons_none rfl, hquiet']
      exact .nil _
    | _ => exact hask.elim
  | compiling | querying | starting =>
    cases request with
    | launch launch => exact hlaunch launch reply hask (by simp)
    | _ => exact hask.elim

/-- **What is launched on the way**: at most one command for each stage, in the order of the
stages. -/
theorem Completes.launches (h : Completes p stage t status) :
    LaunchedBy p stage.launching t.launches := by
  induction h with
  | starting hb hask hfinished ha => exact .last hb hask ha
  | pass hb hask hpass hnext rest ih => exact ih.cons hb hask hnext

theorem Breaks.launches (h : Breaks p stage t) : LaunchedBy p stage.launching t.launches := by
  induction h with
  | early h => exact h.launches ▸ .nil _
  | unfound hstage h hu => exact h.launches ▸ .nil _
  | fail hb hask hfail ha => exact .last hb hask ha
  | pass hb hask hpass hnext rest ih => exact ih.cons hb hask hnext

end Oneshot
