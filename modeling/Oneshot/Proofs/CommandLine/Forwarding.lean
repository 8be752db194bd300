import Oneshot.CommandLine.App
import Oneshot.Proofs.CommandLine.ExitStatus
import Oneshot.Proofs.CommandLine.Stages
import Oneshot.Proofs.Pipeline.Starting

/-!
# Arguments That Are Handed On

The words of a run are its options, a script, and the arguments of the artifact. Whoever reads them
is taken as it comes, as long as the options end at the first argument, so that whatever stands
behind the script is an argument, also a word that looks like an option of the runner or like the
end of its options. The arguments reach the artifact as they are, and so does the environment,
except for the variable in which the loader looks for libraries.

* `EndsOptions`: a reading of the words whose options end at the first argument.
* `endsOptions_runSpec`: the options of a run are read so.
* `starts_pipelineOf`, `starts_runOn`: what the command starts.
* `starts_artifact`: what is started for the words of a run.
-/

namespace Oneshot

open Action (runs_bind_ok runs_lift_bind runs_ask_bind)

namespace CommandLine

/-! ### Options that end at the script -/

/-- How words of a command line are read; some are refused. -/
abbrev Reading :=
  List Text → Option Given

/-- Options end at the first argument. Where the words up to a script are accepted and the script is
all that is left of them, the words behind it are arguments, whatever they look like. -/
def EndsOptions (read : Reading) : Prop :=
  ∀ (options : List Text) (script : Text) (values : List (Flag × Text)), script.head? ≠ some '-' →
    read (options ++ [script]) = some ⟨values, [script]⟩ → ∀ arguments : List Text,
      read (options ++ script :: arguments) = some ⟨values, script :: arguments⟩

/-- A word that does not begin with a dash is no option. -/
theorem isOption_of_head? {word : Text} (h : word.head? ≠ some '-') :
    word ≠ "--".toList ∧ isOption word = false := by
  cases word with
  | nil => exact ⟨by decide, rfl⟩
  | cons c cs =>
    have hc : c ≠ '-' := by simpa using h
    exact ⟨fun heq => hc (List.cons.inj heq).1, by simp [isOption, hc.symm]⟩

theorem head?_of_isOption {word : Text} (h : isOption word = true) : word.head? = some '-' := by
  by_contra hhead
  rw [(isOption_of_head? hhead).2] at h
  exact Bool.false_ne_true h

namespace Spec

variable {spec : Spec} {before given : Given} {word : Text}

/-- What is read behind some arguments comes behind them. -/
theorem prefix_of_parseFrom {words : List Text}
    (h : spec.parseFrom before words = .ok given) : before.arguments <+: given.arguments := by
  induction before, words using Spec.parseFrom.induct spec with
  | case1 before =>
    rw [parseFrom] at h
    exact Except.ok.inj h ▸ List.prefix_rfl
  | case2 before rest =>
    rw [parseFrom, if_pos rfl] at h
    exact Except.ok.inj h ▸ List.prefix_append _ _
  | case3 before word rest hend hoption fault hfault =>
    rw [parseFrom, if_neg hend, if_pos hoption, hfault] at h
    simp at h
  | case4 before word rest hend hoption added hadded ih =>
    rw [parseFrom, if_neg hend, if_pos hoption, hadded] at h
    exact (List.prefix_append _ _).trans (ih h)
  | case5 before word hend hoption name flag hawaits =>
    rw [parseFrom, if_neg hend, if_pos hoption, hawaits] at h
    simp at h
  | case6 before word hend hoption name flag hawaits value rest ih =>
    rw [parseFrom, if_neg hend, if_pos hoption, hawaits] at h
    exact (List.prefix_append _ _).trans (ih h)
  | case7 before word rest hend hoption hstop =>
    rw [parseFrom, if_neg hend, if_neg hoption, if_pos hstop] at h
    exact Except.ok.inj h ▸ List.prefix_append _ _
  | case8 before word rest hend hoption hstop ih =>
    rw [parseFrom, if_neg hend, if_neg hoption, if_neg hstop] at h
    exact (List.prefix_append _ _).trans (ih h)

/-- An option that is taken for an argument begins with a dash. -/
theorem head?_of_option (hword : isOption word = true) (h : spec.option word = .ok (.given given))
    {argument : Text} (hmem : argument ∈ given.arguments) : argument.head? = some '-' := by
  rw [option] at h
  cases hlong : spec.longOption? word with
  | some result =>
    rw [hlong] at h
    obtain ⟨flag, -, hresult⟩ := Option.map_eq_some_iff.1 hlong
    subst h
    split at hresult <;> simp only [reduceCtorEq, Except.ok.injEq, Word.given.injEq] at hresult
    all_goals
      subst hresult
      simp at hmem
  | none =>
    simp only [hlong] at h
    split at h
    · split at h
      · obtain rfl := Word.given.inj (Except.ok.inj h)
        rw [List.mem_singleton.1 hmem]
        exact head?_of_isOption hword
      · simp at h
    · rw [shortOptions] at h
      split at h
      · simp at h
      · obtain rfl := Word.given.inj (Except.ok.inj h)
        simp only at hmem
        split at hmem
        · simp at hmem
        · rw [List.mem_singleton.1 hmem]
          rfl

/-- An option in front of a script brings no argument. -/
theorem arguments_eq_nil (hword : isOption word = true) (h : spec.option word = .ok (.given given))
    {script : Text} (hscript : script.head? ≠ some '-') {more : List Text}
    (hsplit : given.arguments ++ more = [script]) : given.arguments = [] := by
  cases harguments : given.arguments with
  | nil => rfl
  | cons argument others =>
    rw [harguments, List.cons_append] at hsplit
    obtain rfl := (List.cons.inj hsplit).1
    exact absurd (head?_of_option hword h (by simp [harguments])) hscript

/-- Where options end at the first argument, a script is followed by arguments. -/
theorem parseFrom_script (hstop : spec.stopsAtArgument = true) {script : Text}
    (hscript : script.head? ≠ some '-') (arguments : List Text) {values : List (Flag × Text)}
    {options : List Text}
    (h : spec.parseFrom before (options ++ [script])
      = .ok ⟨values, before.arguments ++ [script]⟩) :
    spec.parseFrom before (options ++ script :: arguments)
      = .ok ⟨values, before.arguments ++ script :: arguments⟩ := by
  obtain ⟨hend, hoption⟩ := isOption_of_head? hscript
  induction before, options using Spec.parseFrom.induct spec with
  | case1 before =>
    simp only [List.nil_append, parseFrom, if_neg hend, hoption, Bool.false_eq_true, if_false,
      if_pos hstop, Except.ok.injEq] at h ⊢
    obtain rfl := congrArg Given.options h
    rfl
  | case2 before rest =>
    simp only [List.cons_append, parseFrom, if_true, Except.ok.injEq] at h ⊢
    obtain rfl : before.options ++ [] = values := congrArg Given.options h
    have hrest : before.arguments ++ (rest ++ [script]) = before.arguments ++ [script] :=
      congrArg Given.arguments h
    obtain rfl : rest = [] := by simpa using hrest
    rfl
  | case3 before word rest hword hdash fault hfault =>
    simp only [List.cons_append, parseFrom, if_neg hword, if_pos hdash, hfault, reduceCtorEq] at h
  | case4 before word rest hword hdash added hadded ih =>
    simp only [List.cons_append, parseFrom, if_neg hword, if_pos hdash, hadded] at h ⊢
    have hnone : added.arguments = [] := by
      obtain ⟨more, hmore⟩ := prefix_of_parseFrom h
      exact arguments_eq_nil hdash hadded hscript (by simpa [Given.append] using hmore)
    have hsame : (before.append added).arguments = before.arguments := by
      simp [Given.append, hnone]
    rw [← hsame] at h ⊢
    exact ih h
  | case5 before word hword hdash name flag hawaits =>
    simp only [List.cons_append, List.nil_append, parseFrom, if_neg hword, if_pos hdash, hawaits,
      Except.ok.injEq] at h
    have hnone : before.arguments ++ [] = before.arguments ++ [script] :=
      congrArg Given.arguments h
    simp at hnone
  | case6 before word hword hdash name flag hawaits value rest ih =>
    simp only [List.cons_append, parseFrom, if_neg hword, if_pos hdash, hawaits] at h ⊢
    have hsame : (before.append ⟨[(flag, value)], []⟩).arguments = before.arguments := by
      simp [Given.append]
    rw [← hsame] at h ⊢
    exact ih h
  | case7 before word rest hword hdash _ =>
    simp only [List.cons_append, parseFrom, if_neg hword, if_neg hdash, if_pos hstop,
      Except.ok.injEq] at h
    have hmore : before.arguments ++ word :: (rest ++ [script]) = before.arguments ++ [script] :=
      congrArg Given.arguments h
    simp at hmore
  | case8 before word rest hword hdash hgoes ih => exact absurd hstop hgoes

end Spec

/-- **The options of a run end at the script.** -/
theorem endsOptions_runSpec : EndsOptions fun words => (runSpec.parse words).toOption := by
  intro options script values hscript h arguments
  change (runSpec.parse (options ++ [script])).toOption = some ⟨values, [script]⟩ at h
  change (runSpec.parse (options ++ script :: arguments)).toOption = _
  cases hparse : runSpec.parse (options ++ [script]) with
  | error misuse =>
    rw [hparse] at h
    exact absurd h (by simp [Except.toOption])
  | ok given =>
    rw [hparse] at h
    obtain rfl : given = ⟨values, [script]⟩ := Option.some.inj h
    have hread : runSpec.parse (options ++ script :: arguments)
        = .ok ⟨values, script :: arguments⟩ :=
      Spec.parseFrom_script rfl hscript arguments hparse
    rw [hread]
    rfl

/-! ### The command -/

/-- In a part of the trace, the action comes to its end with the value. -/
def Along {α : Type} (t : Trace) (a : Action α) (x : α) : Prop :=
  ∃ part, part <:+: t ∧ a.run.Runs part (.ok x)

theorem Along.of_infix {α : Type} {t t' : Trace} {a : Action α} {x : α} (h : Along t a x)
    (ht : t <:+: t') : Along t' a x := by
  obtain ⟨part, hpart, hx⟩ := h
  exact ⟨part, hpart.trans ht, hx⟩

/-- The artifact of a run: the executable of the script, below the working directory and with the
toolchain that is configured in the cache directory. -/
structure Serving (r : RunRequest) (platform : Platform) (t : Trace) (root : Path)
    (settings : Settings) (artifact : Artifact) : Prop where
  root_found : Along t (cacheRoot r.cacheDir) root
  settings_loaded : ∃ vars, Along t (Settings.load (some root) vars) settings
  artifact_eq : ∃ script workDir, r.script = some script ∧ Along t Toolchain.workDir workDir ∧
    Scratch.paths? script workDir settings.toolchain platform = some artifact

theorem eq_of_runs_complete {root : Path} {t : Trace} {cache : Cache}
    (h : (Cache.complete root).run.Runs t (.ok cache)) :
    ∃ prelude, cache = Cache.ofRoot root prelude := by
  obtain ⟨-, t₂, _, -, -, h⟩ := runs_bind_ok.1 h
  obtain ⟨-, t₃, prelude, -, -, h⟩ := runs_bind_ok.1 h
  obtain ⟨-, rfl⟩ := Action.runs_pure_ok.1 h
  exact ⟨prelude, rfl⟩

/-- A cache that is ready lies at the root that was asked for. -/
theorem eq_of_runs_openCache {root : Path} {logger : Logger} {t : Trace} {cache : Cache}
    (h : (openCache root logger).run.Runs t (.ok cache)) :
    ∃ prelude, cache = Cache.ofRoot root prelude := by
  rw [openCache] at h
  obtain ⟨t₁, t₂, ready, rfl, hready, h⟩ := runs_bind_ok.1 h
  obtain ⟨-, t₃, _, -, -, hend⟩ := runs_lift_bind.1 h
  obtain ⟨-, rfl⟩ := Action.runs_pure_ok.1 hend
  rw [Cache.ensure_eq] at hready
  obtain ⟨-, t₄, found, -, -, hready⟩ := runs_bind_ok.1 hready
  cases found with
  | true => exact eq_of_runs_complete hready
  | false =>
    obtain ⟨-, t₅, _, -, -, hready⟩ := runs_bind_ok.1 hready
    exact eq_of_runs_complete hready

/-- Behind an action whose errors are shown, what follows starts nothing. -/
theorem runs_reportingTo_unstarting {α β : Type} {logger : Logger} {raised : RunError → Bool}
    {action : Action α} {f : Except Int α → Action β} {t : Trace} {x : Except Failure β}
    {topics : List Topic} (hf : ∀ ended, (f ended).Within topics) (hnot : .start ∉ topics)
    (h : (reportingTo (pure logger) raised action >>= f).run.Runs t x) :
    ∃ t₁ t₂ y, t = t₁ ++ t₂ ∧ action.run.Runs t₁ y ∧ t₂.starts = [] := by
  obtain ⟨t₁, t₂, value, rfl, hvalue, hrest⟩ | ⟨t₁, t₂, failure, rfl, hfailure, hshown⟩ :=
    runs_reportingTo_bind h
  · exact ⟨t₁, t₂, _, rfl, hvalue, hrest.starts_eq_nil (hf _) hnot⟩
  · have hwithin : (showing (pure logger) raised failure >>= f).Within
        (.surroundings :: .print :: topics) :=
      Action.every_bind (within_showing Action.every_pure (by simp) (by simp) failure) fun ended =>
        (hf ended).mono fun _ hmem => .tail _ (.tail _ hmem)
    exact ⟨t₁, t₂, _, rfl, hfailure, hshown.starts_eq_nil hwithin (by simp [hnot])⟩

/-- The script and the settings of a run that gets as far as its cache. -/
theorem loads_script {r : RunRequest} {root : Path} {t : Trace} {script : Path}
    {settings : Settings}
    (h : (loading r.script root).run.Runs t (.ok (script, settings))) :
    r.script = some script ∧ ∃ vars, Along t (Settings.load (some root) vars) settings := by
  obtain ⟨vars, rest, rfl, hscript, -, hload⟩ := runs_loading h
  exact ⟨hscript, vars, rest, (List.suffix_cons _ rest).isInfix, hload⟩

/-- What a pipeline with a cache starts: nothing, or the executable of its script, below the working
directory. -/
theorem starts_pipelineOf {platform : Platform} {settings : Settings} {logger : Logger}
    {root script : Path} {arguments : List Text} {t : Trace} {x : Except Failure Outcome}
    (h : (do
      let cache ← openCache root logger
      (pipelineOf platform settings logger cache).run script arguments : Action Outcome).run.Runs
        t x) :
    t.starts = [] ∨ ∃ prelude workDir artifact, Along t Toolchain.workDir workDir ∧
      Scratch.paths? script workDir settings.toolchain platform = some artifact ∧
      Toolchain.StartsOnly (Cache.ofRoot root prelude) settings.toolchain.compiler platform
        artifact.executable arguments t := by
  obtain ⟨t₁, t₂, cache, rfl, hstarts, hcache, hrun⟩ | hnone :=
    runs_unstarting_bind (within_openCache ..) (by decide) h
  swap
  · exact .inl hnone
  obtain ⟨prelude, rfl⟩ := eq_of_runs_openCache hcache
  let pipeline := pipelineOf platform settings logger (Cache.ofRoot root prelude)
  have hreport : ∀ event, (pipeline.report event).Within
      [.look, .arrange, .write, .find, .surroundings, .collect, .print] := fun event =>
    Action.every_lift ((within_sayEvent ..).mono (by decide))
  obtain hnone | ⟨part, workDir, artifact, hpart, hworkDir, hpaths, honly⟩ :=
    Pipeline.starts_run hreport (by decide) (by decide) hrun
  · exact .inl (by rw [Trace.starts_append, hstarts, hnone]; rfl)
  · exact .inr ⟨prelude, workDir, artifact,
      ⟨part, hpart.trans (List.suffix_append t₁ t₂).isInfix, hworkDir⟩, hpaths,
      honly.append_left hstarts⟩

/-- **What the command starts**: nothing, or the artifact of the script. -/
theorem starts_runOn {platform : Platform} {r : RunRequest} {t : Trace} {x : Except Failure Int}
    (h : (runOn platform r).run.Runs t x) :
    t.starts = [] ∨ ∃ root settings artifact prelude, Serving r platform t root settings artifact ∧
      Toolchain.StartsOnly (Cache.ofRoot root prelude) settings.toolchain.compiler platform
        artifact.executable r.arguments t := by
  rw [runOn_eq] at h
  obtain ⟨t₁, rest, root, rfl, hstarts₁, hroot, hload⟩ | hnone :=
    runs_unstarting_bind (within_cacheRoot _) (by decide) h
  swap
  · exact .inl hnone
  have hwithin : (reportingTo Logger.plain (fun _ => false) (loading r.script root)).Within
      [.look, .surroundings, .print] :=
    within_reportingTo ((Logger.within_opened ..).mono (by decide))
      ((within_loading ..).mono (by decide)) (by decide) (by decide)
  obtain ⟨t₂, rest, loaded, rfl, hstarts₂, hloaded, hrest⟩ | hnone :=
    runs_unstarting_bind hwithin (by decide) hload
  swap
  · exact .inl (by simp [hstarts₁, hnone])
  rcases loaded with code | ⟨script, settings⟩
  · obtain ⟨rfl, -⟩ := Action.runs_pure.1 hrest
    exact .inl (by simp [hstarts₁, hstarts₂])
  obtain ⟨hscript, vars, part, hpart, hsettings⟩ := loads_script (runs_of_reportingTo hloaded)
  obtain ⟨t₃, rest, logger, rfl, hstarts₃, -, hended⟩ | hnone :=
    runs_unstarting_bind (Logger.within_opened ..) (by decide) hrest
  swap
  · exact .inl (by simp [hstarts₁, hstarts₂, hnone])
  obtain ⟨t₄, t₅, y, rfl, hpipeline, hstarts₅⟩ :=
    runs_reportingTo_unstarting (within_endRun logger _) (by decide) hended
  have hwhole : t₄ <:+: t₁ ++ (t₂ ++ (t₃ ++ (t₄ ++ t₅))) := ⟨t₁ ++ (t₂ ++ t₃), t₅, by simp⟩
  obtain hnone | ⟨prelude, workDir, artifact, hworkDir, hpaths, honly⟩ :=
    starts_pipelineOf hpipeline
  · exact .inl (by simp [hstarts₁, hstarts₂, hstarts₃, hstarts₅, hnone])
  · refine .inr ⟨root, settings, artifact, prelude, ⟨?_, ?_, ?_⟩, ?_⟩
    · exact ⟨t₁, (List.prefix_append _ _).isInfix, hroot⟩
    · exact ⟨vars, part, hpart.trans ⟨t₁, t₃ ++ (t₄ ++ t₅), by simp⟩, hsettings⟩
    · exact ⟨script, workDir, hscript, hworkDir.of_infix hwhole, hpaths⟩
    · exact (((honly.append_right hstarts₅).append_left hstarts₃).append_left
        hstarts₂).append_left hstarts₁

/-- The executable of a run has an absolute path if the working directory has one. -/
theorem Serving.rooted_executable {r : RunRequest} {platform : Platform} {t : Trace} {root : Path}
    {settings : Settings} {artifact : Artifact} (h : Serving r platform t root settings artifact)
    (hdir : ∀ text, ⟨.workDir, .ok text⟩ ∈ t → (Path.ofText text).isAbsolute = true) :
    artifact.executable.Rooted := by
  obtain ⟨vars, part, -, hload⟩ := h.settings_loaded
  obtain ⟨s, hscratch⟩ := Settings.exists_scratchDir hload
  obtain ⟨script, workDir, -, ⟨part', hpart', hworkDir⟩, hpaths⟩ := h.artifact_eq
  refine Scratch.rooted_executable hpaths ?_ hscratch
  obtain ⟨text, rfl, hx⟩ | ⟨refusal, e, -, -, hx⟩ := Toolchain.runs_workDir hworkDir
  · rw [Except.ok.inj hx]
    exact Path.rooted_ofText (hdir text (hpart'.subset List.mem_cons_self))
  · simp at hx

/-! ### The words of a run -/

/-- **The arguments and the environment reach the artifact.** The words of a run are read in any way
in which options end at the first argument, and the words up to the script are accepted. Then the
arguments behind the script are those of the run, and whatever the host replies, the run starts one
child with the streams of the runner at most. It is the executable of the script, with exactly these
arguments, and it has the environment of the runner except for the variable of the loader: that one
holds the directory of the runtime libraries and the directory of the cached ones, and behind them
what the search path for programs holds, where the loader uses that one. The executable is named by
its absolute path as soon as the working directory of the host has one. -/
theorem starts_artifact {read : Reading} (hread : EndsOptions read) {options : List Text}
    {script : Text} (hscript : script.head? ≠ some '-') {values : List (Flag × Text)}
    (hvalid : read (options ++ [script]) = some ⟨values, [script]⟩) (arguments : List Text)
    (platform : Platform) :
    ∃ r : RunRequest, (read (options ++ script :: arguments)).map runRequest = some r ∧
      r.script = some (Path.ofText script) ∧ r.arguments = arguments ∧
      ∀ {t : Trace} {x : Except Failure Int}, (runOn platform r).run.Runs t x →
        ∀ command ∈ t.starts, t.starts = [command] ∧ ∃ root settings artifact prelude,
          Serving r platform t root settings artifact ∧
          Toolchain.Starts (Cache.ofRoot root prelude) settings.toolchain.compiler platform
            artifact.executable arguments t command ∧
          ((∀ text, ⟨.workDir, .ok text⟩ ∈ t → (Path.ofText text).isAbsolute = true) →
            artifact.executable.Rooted) := by
  refine ⟨runRequest ⟨values, script :: arguments⟩, ?_, rfl, rfl, fun h command hmem => ?_⟩
  · rw [hread options script values hscript hvalid arguments]
    rfl
  obtain hnone |
      ⟨root, settings, artifact, prelude, hserving, hnone | ⟨started, hstarted, hstarts⟩⟩ :=
    starts_runOn h
  · simp [hnone] at hmem
  · simp [hnone] at hmem
  · obtain rfl : command = started := by simpa [hstarted] using hmem
    exact ⟨hstarted, root, settings, artifact, prelude, hserving, hstarts,
      hserving.rooted_executable⟩

/-- A host whose environment holds a search path and another variable. -/
def plainHost : (request : Request) → request.Reply
  | .environment => [("PATH".toList, "/bin".toList), ("LANG".toList, "C".toList)]
  | request => killingHost request

/-- The words behind the script of a command that starts an artifact. -/
def dashedArguments : List Text := ["--", "--help", "-v", []]

/-- Behind the script, options of the runner and the end of options are arguments. -/
theorem starts_artifact_dashes :
    EndsOptions (fun words => (runSpec.parse words).toOption) ∧
      ∃ r t, ((runSpec.parse ("-v" :: "--cache-dir" :: "/cache" :: "s.rs"
          :: dashedArguments)).toOption).map runRequest = some r ∧
        (runOn .windows r).run.Runs t (.ok 137) ∧
        (∀ text, ⟨.workDir, .ok text⟩ ∈ t → (Path.ofText text).isAbsolute = true) ∧
        ∃ command, t.starts = [command] ∧
          command.arguments = "/work/temp/s.exe".toList :: dashedArguments ∧
          command.vars = some [("PATH".toList, "/lib/bin;/cache/dy-cache;/bin".toList),
            ("LANG".toList, "C".toList)] ∧
          ∃ root settings artifact prelude, Serving r .windows t root settings artifact ∧
            Toolchain.Starts (Cache.ofRoot root prelude) settings.toolchain.compiler .windows
              artifact.executable dashedArguments t command ∧ artifact.executable.Rooted := by
  let read : Reading := fun words => (runSpec.parse words).toOption
  have hscript : "s.rs".toList.head? ≠ some '-' := by decide
  let options : List Text := ["-v", "--cache-dir", "/cache"]
  have hvalid : read (options ++ ["s.rs".toList])
      = some ⟨[(.verbose, []), (.cacheDir, "/cache")], ["s.rs"]⟩ := by
    decide +kernel
  have hends : EndsOptions read := endsOptions_runSpec
  obtain ⟨r, hr, -, -, hserved⟩ :=
    starts_artifact hends hscript hvalid dashedArguments .windows
  obtain rfl :
      runRequest ⟨[(.verbose, []), (.cacheDir, "/cache")], "s.rs" :: dashedArguments⟩ = r :=
    Option.some.inj ((by decide +kernel : _ = _).symm.trans hr)
  let started := (runOn .windows (runRequest
    ⟨[(.verbose, []), (.cacheDir, "/cache")], "s.rs" :: dashedArguments⟩)).run.follow plainHost
  let command : Launch := ⟨"/work/temp/s.exe".toList :: dashedArguments,
    some [("PATH".toList, "/lib/bin;/cache/dy-cache;/bin".toList), ("LANG".toList, "C".toList)],
    false⟩
  have hvalue : started.2 = .ok 137 := by
    decide +kernel
  have hstarts : started.1.starts = [command] := by
    decide +kernel
  have hruns := Routine.runs_follow plainHost (runOn .windows (runRequest
    ⟨[(.verbose, []), (.cacheDir, "/cache")], "s.rs" :: dashedArguments⟩)).run
  rw [hvalue] at hruns
  have hdir : ∀ text, ⟨.workDir, .ok text⟩ ∈ started.1 →
      (Path.ofText text).isAbsolute = true := by
    intro text htext
    obtain rfl : text = "/work".toList := Except.ok.inj (Routine.reply_of_mem_follow htext)
    decide
  obtain ⟨-, root, settings, artifact, prelude, hserving, hcommand, hrooted⟩ :=
    hserved hruns command (hstarts ▸ List.mem_singleton_self command)
  exact ⟨hends, _, _, hr, hruns, hdir, command, hstarts, rfl, rfl, root, settings,
    artifact, prelude, hserving, hcommand, hrooted hdir⟩

end CommandLine

end Oneshot
