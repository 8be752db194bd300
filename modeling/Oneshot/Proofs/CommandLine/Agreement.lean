import Oneshot.Proofs.CommandLine.ExitStatus
import Oneshot.Proofs.CommandLine.Footprint
import Oneshot.Proofs.Pipeline.Writing
import Oneshot.Proofs.Text.Spacing

/-!
# `expand` Shows What `run` Compiles

From the same state, both commands come to the same program, or to the same error. `expand` prints
the program with one line end behind it, and without control sequences unless standard output is a
terminal; apart from these it is the text that `run` writes for the compiler. An error that ends
`expand` ends `run` before it has written anything.

The two are compared before one host. Their stages are played one after the other, and where one
command asks more than the other, it asks quietly, so that the state stays the same for both.

* `Program.ShownAs`: what is printed of a program, and when it is the program itself.
* `CommandLine.Agrees`: what the ends of the two commands have in common.
* `CommandLine.agrees_loaded`, `CommandLine.agrees_expand`: behind the settings, and as a whole.
* `CommandLine.expand_agrees_run`: the agreement, and what `expand` leaves behind.
-/

namespace Oneshot

open Action (every_pure every_lift)

/-! ### What is printed -/

/-- The text of an exchange that prints on standard output. -/
def Exchange.printed? : Exchange → Option Text
  | ⟨.print .output text, _⟩ => some text
  | _ => none

/-- The reply of an exchange that asks whether standard output is a terminal. -/
def Exchange.outputTerminal? : Exchange → Option Bool
  | ⟨.isTerminal .output, reply⟩ => some reply
  | _ => none

namespace Trace

/-- The texts that are printed on standard output, in order. -/
def printed (t : Trace) : List Text :=
  t.filterMap Exchange.printed?

/-- The replies to whether standard output is a terminal, in order. -/
def outputTerminals (t : Trace) : List Bool :=
  t.filterMap Exchange.outputTerminal?

@[simp] theorem printed_append (t t' : Trace) : printed (t ++ t') = printed t ++ printed t' :=
  List.filterMap_append

@[simp] theorem outputTerminals_append (t t' : Trace) :
    outputTerminals (t ++ t') = outputTerminals t ++ outputTerminals t' :=
  List.filterMap_append

/-- Nothing is printed on standard output, and nobody asks whether it is a terminal. -/
structure Unprinted (t : Trace) : Prop where
  printed : t.printed = []
  outputTerminals : t.outputTerminals = []

/-- Only what is about printing prints. -/
theorem unprinted {t : Trace} {topics : List Topic}
    (h : ∀ e ∈ t, e.request.topic ∈ topics) (hnot : .print ∉ topics) : t.Unprinted := by
  constructor
  all_goals
    refine filterMap_eq_nil_of_topic h hnot fun e htopic => ?_
    obtain ⟨request, reply⟩ := e
    cases request with
    | print channel text => exact absurd rfl htopic
    | isTerminal channel =>
      cases channel with
      | output => exact absurd rfl htopic
      | errors => rfl
    | _ => rfl

end Trace

namespace Text

/-- Without its control sequences a text is no longer. -/
theorem length_withoutEscapes_le (s : Text) : (withoutEscapes s).length ≤ s.length := by
  have hfrom : ∀ (s : Text) (skip : Nat), (withoutEscapesFrom skip s).length ≤ s.length := by
    intro s
    induction s with
    | nil => intro skip; cases skip <;> simp [withoutEscapesFrom]
    | cons c s ih =>
      intro skip
      rw [List.length_cons]
      cases skip with
      | succ skip => exact (ih skip).trans (Nat.le_succ _)
      | zero =>
        rw [withoutEscapesFrom]
        split
        · exact (ih _).trans (Nat.le_succ _)
        · exact Nat.succ_le_succ (ih 0)
  exact hfrom s 0

end Text

namespace Program

/-- The text of a program without the line ends behind it. -/
def trimmed (program : Program) : Text :=
  Text.dropEndWhile (· == '\n') program.text

/-- What is printed of a program: its text, with one line end behind it, and without control
sequences unless it is printed on a terminal. On a terminal it is the text itself, and elsewhere it
is where that holds no control sequence, up to the line ends behind a program that is not
wrapped. -/
structure ShownAs (program : Program) (onTerminal : Bool) (printed : Text) : Prop where
  eq : printed
    = (if onTerminal then program.trimmed else Text.withoutEscapes program.trimmed) ++ ['\n']
  wrapped : program.wrapped = true → (printed = program.text ↔
    onTerminal = true ∨ Text.withoutEscapes program.trimmed = program.trimmed)
  upToLineEnds : Text.dropEndWhile (· == '\n') printed = program.trimmed ↔
    onTerminal = true ∨ Text.withoutEscapes program.trimmed = program.trimmed

/-- Line ends behind a text do not matter if they are dropped. -/
theorem dropEnd_append_newline (s : Text) :
    Text.dropEndWhile (· == '\n') (s ++ ['\n']) = Text.dropEndWhile (· == '\n') s := by
  rw [Text.dropEndWhile_eq_rdropWhile, Text.dropEndWhile_eq_rdropWhile,
    List.rdropWhile_concat_pos _ _ _ rfl]

/-- A wrapped program ends with one line end. -/
theorem trimmed_append_newline {policy : Policy} {analysis : Analysis} {prelude text : Text}
    (h : (ofSnippet policy analysis prelude text).wrapped = true) :
    (ofSnippet policy analysis prelude text).trimmed ++ ['\n']
      = (ofSnippet policy analysis prelude text).text := by
  have hentry : entryPoint = entryPoint.dropLast.dropLast ++ ['}'] ++ ['\n'] := by decide +kernel
  rw [ofSnippet] at h ⊢
  split at h
  · simp at h
  next hentryPoint =>
  rw [if_neg hentryPoint, trimmed]
  simp only
  rw [hentry, ← List.append_assoc, ← List.append_assoc, dropEnd_append_newline,
    Text.dropEndWhile_eq_rdropWhile, List.rdropWhile_concat_neg _ _ _ (by decide)]

theorem dropEnd_trimmed (program : Program) :
    Text.dropEndWhile (· == '\n') program.trimmed = program.trimmed := by
  rw [trimmed, Text.dropEndWhile_eq_rdropWhile, Text.dropEndWhile_eq_rdropWhile,
    List.rdropWhile_idempotent]

/-- Without control sequences and line ends, a program is the same only if it holds no control
sequence. -/
theorem dropEnd_withoutEscapes_eq_iff (program : Program) :
    Text.dropEndWhile (· == '\n') (Text.withoutEscapes program.trimmed) = program.trimmed ↔
      Text.withoutEscapes program.trimmed = program.trimmed := by
  constructor
  · intro hdropped
    -- nothing can have been dropped, for nothing is longer than the text it is taken from
    have hleading : program.trimmed <+: Text.withoutEscapes program.trimmed := by
      conv_lhs => rw [← hdropped, Text.dropEndWhile_eq_rdropWhile]
      exact List.rdropWhile_prefix _ _
    exact (hleading.eq_of_length_le (Text.length_withoutEscapes_le _)).symm
  · intro hsame
    rw [hsame, dropEnd_trimmed]

/-- A text is printed as it is exactly if it is printed on a terminal or if no control sequence is
taken out of it. -/
theorem shownAs {program : Program} (onTerminal : Bool)
    (h : program.wrapped = true → program.trimmed ++ ['\n'] = program.text) :
    program.ShownAs onTerminal
      ((if onTerminal then program.trimmed else Text.withoutEscapes program.trimmed) ++ ['\n'])
    where
  eq := rfl
  wrapped hwrapped := by
    rw [← h hwrapped, List.append_left_inj]
    cases onTerminal <;> simp
  upToLineEnds := by
    rw [dropEnd_append_newline]
    cases onTerminal with
    | true => simp [dropEnd_trimmed]
    | false => simpa using dropEnd_withoutEscapes_eq_iff program

end Program

/-! ### Both commands -/

namespace CommandLine

variable {σ : Type} {e : RunError} {expanded ran : Played σ (Except Failure Int)}

/-- A command fails with an error: it raises it, or it shows it and has its exit status. -/
inductive Fails (e : RunError) (p : Played σ (Except Failure Int)) : Prop
  | raised (hvalue : p.value = .error (.reported e))
  | shown (before shown : Trace) (logger : Logger) (hvalue : p.value = .ok e.exitCode)
    (htrace : p.trace = before ++ shown)
    (hreport : (logger.report e.diagnostic).Runs shown e.exitCode)

theorem Fails.behind {p : Played σ (Except Failure Int)} (h : Fails e p) (t : Trace) :
    Fails e (p.behind t) := by
  cases h with
  | raised hvalue => exact .raised hvalue
  | shown before shown logger hvalue htrace hreport =>
    refine .shown (t ++ before) shown logger hvalue ?_ hreport
    rw [Played.trace_behind, htrace, List.append_assoc]

/-- What is printed of a program is what is compiled, and both commands fail alike. -/
inductive Agrees (prepared : Except Failure Prepared)
    (expanded ran : Played σ (Except Failure Int)) : Prop
  /-- The program is printed, for what standard output is found to be, and nothing but the program
  is written. -/
  | program {p : Prepared} {onTerminal : Bool} {printed : Text} (hprepared : prepared = .ok p)
    (hvalue : expanded.value = .ok 0) (hterminal : expanded.trace.outputTerminals = [onTerminal])
    (hprinted : expanded.trace.printed = [printed])
    (hshown : p.program.ShownAs onTerminal printed)
    (hwritten : ∀ content ∈ ran.trace.written, content = Utf8.encode p.program.text)
  /-- Both fail with the error, and nothing is written. -/
  | failed {e : RunError} (hprepared : prepared = .error (.reported e))
    (hexpanded : Fails e expanded) (hran : Fails e ran) (hvalue : ran.value = expanded.value)
    (hwritten : ran.trace.written = [])
  /-- Both are ended by a condition that no stage expects, and nothing is written. -/
  | escaped {e e' : Escape} (hexpanded : expanded.value = .error (.escaped e))
    (hran : ran.value = .error (.escaped e')) (hwritten : ran.trace.written = [])

/-- What `expand` has asked before changes nothing if it has not printed. -/
theorem Agrees.behind_left {prepared : Except Failure Prepared} {t : Trace}
    (h : Agrees prepared expanded ran) (hunprinted : t.Unprinted) :
    Agrees prepared (expanded.behind t) ran := by
  cases h with
  | program hprepared hvalue hterminal hshow hshown hwritten =>
    refine .program hprepared hvalue ?_ ?_ hshown hwritten
    · rw [Played.trace_behind, Trace.outputTerminals_append, hunprinted.outputTerminals, hterminal]
      rfl
    · rw [Played.trace_behind, Trace.printed_append, hunprinted.printed, hshow]
      rfl
  | failed hprepared hexpanded hran hvalue hwritten =>
    exact .failed hprepared (hexpanded.behind t) hran hvalue hwritten
  | escaped hexpanded hran hwritten => exact .escaped hexpanded hran hwritten

/-- What `run` has asked before changes nothing if it has not written. -/
theorem Agrees.behind_right {prepared : Except Failure Prepared} {t : Trace}
    (h : Agrees prepared expanded ran) (hunwritten : t.written = []) :
    Agrees prepared expanded (ran.behind t) := by
  have hsame : (ran.behind t).trace.written = ran.trace.written := by
    rw [Played.trace_behind, Trace.written_append, hunwritten]
    rfl
  cases h with
  | program hprepared hvalue hterminal hprinted hshown hwritten =>
    exact .program hprepared hvalue hterminal hprinted hshown (hsame ▸ hwritten)
  | failed hprepared hexpanded hran hvalue hwritten =>
    exact .failed hprepared hexpanded (hran.behind t) hvalue (hsame.trans hwritten)
  | escaped hexpanded hran hwritten => exact .escaped hexpanded hran (hsame.trans hwritten)

variable {h : Host} {s s' : h.State} {t : Trace} {α : Type} {opening : Action Logger}
  {raised : RunError → Bool} {a : Action α}

/-- In the state, the action opens a logger. -/
structure Opens (h : Host) (opening : Action Logger) (s : h.State) : Prop where
  within : opening.Within [.surroundings, .print]
  opened : ∃ t logger, h.play opening.run s = ⟨t, .ok logger, s⟩

theorem opens_pure (logger : Logger) (s : h.State) : Opens h (pure logger) s :=
  ⟨every_pure, [], logger, rfl⟩

/-- **An error is shown, or it is raised.** -/
theorem fails_reportingTo_bind (raised : RunError → Bool) (f : Except Int α → Action Int)
    (hf : ∀ code, f (.error code) = pure code) (hopens : Opens h opening s')
    (ha : h.play a.run s = ⟨t, .error (.reported e), s'⟩) :
    ∃ rest value, h.play (reportingTo opening raised a >>= f).run s = ⟨t ++ rest, value, s'⟩ ∧
      Fails e (⟨t ++ rest, value, s'⟩ : Played h.State (Except Failure Int)) ∧
      (value = if raised e then .error (.reported e) else .ok e.exitCode) ∧
      ∀ x ∈ rest, x.request.topic ∈ [.surroundings, .print] := by
  have hreporting := Host.play_reportingTo_error opening raised ha
  cases hraised : raised e with
  | true =>
    rw [showing, if_pos hraised] at hreporting
    refine ⟨[], _, ?_, .raised rfl, rfl, by simp⟩
    rw [Host.play_bind_error hreporting]
    rfl
  | false =>
    obtain ⟨t', logger, hlogger⟩ := hopens.opened
    obtain ⟨shown, code, hplay, hshown⟩ :=
      Host.exists_play_lift (logger.within_report e.diagnostic) (by decide) s'
    have hruns := h.runs_play (ExceptT.lift (logger.report e.diagnostic) : Action Int).run s'
    rw [hplay] at hruns
    obtain ⟨code', hreport, hcode⟩ := Action.runs_lift.1 hruns
    obtain rfl := Except.ok.inj hcode
    obtain rfl := (runs_report hreport).2
    rw [showing, if_neg (by simp [hraised]), Host.play_bind_ok hlogger, Host.play_bind_ok hplay]
      at hreporting
    refine ⟨t' ++ shown, _, ?_, .shown (t ++ t') shown logger rfl (by simp) hreport, rfl,
      ?_⟩
    · rw [Host.play_bind_ok hreporting, hf]
      exact Played.ext (by simp [Host.play]) rfl rfl
    · intro x hx
      rcases List.mem_append.1 hx with hx | hx
      · exact Host.topic_mem hopens.within hlogger x hx
      · exact hshown x hx

/-- A condition that no stage expects is passed on. -/
theorem play_reportingTo_bind_escaped {e : Escape} {f : Except Int α → Action Int}
    (ha : h.play a.run s = ⟨t, .error (.escaped e), s'⟩) :
    h.play (reportingTo opening raised a >>= f).run s = ⟨t, .error (.escaped e), s'⟩ := by
  refine Host.play_bind_error ((Host.play_reportingTo_error opening raised ha).trans ?_)
  exact Played.ext (List.append_nil t) rfl rfl

/-- A logger is opened in every state of the surroundings, or in none. -/
theorem play_opened (h : Host) (s : h.State) :
    (∃ t e, ∀ emoji color debug, h.play (Logger.opened emoji color debug).run s
      = ⟨t, .error (.escaped e), s⟩) ∨
    ∃ t window, ∀ emoji color debug, h.play (Logger.opened emoji color debug).run s
      = ⟨t, .ok ⟨emoji, color, debug, window⟩, s⟩ := by
  obtain ⟨t, failure | window, hwindow, -⟩ :=
    Host.exists_play Console.Window.within_opened (by decide) s
  · have hopened : ∀ emoji color debug, h.play (Logger.opened emoji color debug).run s
        = ⟨t, .error failure, s⟩ := fun _ _ _ => Host.play_bind_error hwindow
    have hruns := h.runs_play (Logger.opened false false false).run s
    rw [hopened] at hruns
    obtain ⟨e, rfl⟩ :=
      Action.Unreported.exists_escape (Logger.unreported_opened false false false) hruns
    exact .inl ⟨t, e, hopened⟩
  · refine .inr ⟨t, window, fun emoji color debug => ?_⟩
    refine (Host.play_bind_ok hwindow).trans ?_
    exact Played.ext (List.append_nil t) rfl rfl

/-- What is said about a new cache is not written. -/
theorem play_openCache {root : Path} {cache : Cache} (logger : Logger)
    (hensure : h.play (Cache.ensure root).run s = ⟨t, .ok cache, s'⟩) :
    ∃ t', t'.written = [] ∧ h.play (openCache root logger).run s = ⟨t', .ok cache, s'⟩ := by
  have hnote (cache : Cache) := logger.within_note ("cache: root=".toList ++ cache.root.text
    ++ " artifacts=".toList ++ cache.artifactsDir.text)
  obtain ⟨t', hplay, htopic⟩ := Host.exists_play_remark hnote (by decide) hensure
  refine ⟨t ++ t', ?_, hplay⟩
  rw [Trace.written_append, Trace.written_eq_nil htopic (by decide),
    Trace.written_eq_nil (Host.topic_mem (Cache.within_ensure root) hensure) (by decide)]
  rfl

/-- What is said about a prepared program is not written. -/
theorem play_prepare {script : Path} {prepared : Prepared} (platform : Platform)
    (settings : Settings) (logger : Logger) (cache : Cache)
    (hmuted : h.play ((pipelineOf platform settings logger cache).muted.prepare script).run s
      = ⟨t, .ok prepared, s'⟩) :
    ∃ t', t'.written = [] ∧
      h.play ((pipelineOf platform settings logger cache).prepare script).run s
        = ⟨t', .ok prepared, s'⟩ := by
  have hsayEvent (prepared : Prepared) :=
    within_sayEvent logger settings.output.showExpanded (.analyzed prepared.analysis)
  obtain ⟨t', hplay, htopic⟩ := Host.exists_play_remark hsayEvent (by decide) hmuted
  refine ⟨t ++ t', ?_, (Pipeline.prepare_eq ..).symm ▸ hplay⟩
  rw [Trace.written_append, Trace.written_eq_nil htopic (by decide),
    Trace.written_eq_nil (Host.topic_mem (within_mutedPrepare ..) hmuted) (by decide)]
  rfl

/-- The pipeline of `run` fails as the preparation fails, before it has written anything, or it goes
on with the program of the preparation. -/
theorem play_pipelineOf (platform : Platform) (output : OutputSettings) (logger : Logger)
    (arguments : List Text) {settings : Settings} {root script : Path} {x : Except Failure Prepared}
    (hprepared : h.play (preparing root .linux (script, settings)).run s = ⟨t, x, s'⟩) :
    let p := pipelineOf platform { settings with output } logger
    let whole := openCache root logger >>= fun cache => (p cache).run script arguments
    ∃ t', t'.written = [] ∧
      ((∃ failure, x = .error failure ∧ h.play whole.run s = ⟨t', .error failure, s'⟩) ∨
        ∃ prepared cache, x = .ok prepared ∧ h.play whole.run s
          = (h.play ((p cache).finish arguments prepared).run s').behind t') := by
  intro p whole
  rcases hensure : h.play (Cache.ensure root).run s with ⟨t₁, failure | cache, s₁⟩
  · -- without a cache there is no program
    rw [preparing, Host.play_bind_error hensure] at hprepared
    obtain ⟨rfl, rfl, rfl⟩ := Played.mk.inj hprepared
    exact ⟨t₁, Trace.written_eq_nil (Host.topic_mem (Cache.within_ensure root) hensure) (by decide),
      .inl ⟨failure, rfl, Host.play_bind_error (Host.play_bind_error hensure)⟩⟩
  · obtain ⟨t₂, hopening, hopen⟩ := play_openCache logger hensure
    rcases hplain : h.play (Pipeline.prepare ⟨cache, settings, .linux, none, fun _ => pure ()⟩
      script).run s₁ with ⟨t₃, y, s₃⟩
    -- neither the platform nor the output settings matter before the program is there
    have hmuted : h.play ((p cache).muted.prepare script).run s₁ = ⟨t₃, y, s₃⟩ := hplain
    rw [preparing, Host.play_bind_ok hensure, hplain] at hprepared
    obtain ⟨rfl, rfl, rfl⟩ := Played.mk.inj hprepared
    rcases y with failure | prepared
    · have hread := Trace.written_eq_nil (Host.topic_mem (within_mutedPrepare ..) hplain)
        (by decide)
      refine ⟨t₂ ++ t₃, by simp [hopening, hread], .inl ⟨failure, rfl, ?_⟩⟩
      rw [Host.play_bind_ok hopen, Pipeline.run_eq, Pipeline.prepare_eq,
        Host.play_bind_error (Host.play_bind_error hmuted)]
      rfl
    · obtain ⟨t₄, hreported, hprepare⟩ := play_prepare _ _ logger cache hmuted
      refine ⟨t₂ ++ t₄, by simp [hopening, hreported], .inr ⟨prepared, cache, rfl, ?_⟩⟩
      rw [Host.play_bind_ok hopen, Pipeline.run_eq, Host.play_bind_ok hprepare,
        Played.behind_behind]

/-- The end of `run` writes nothing. -/
theorem written_endRun (logger : Logger) (raised : RunError → Bool) (a : Action Outcome)
    (s : h.State) :
    (h.play (reportingTo (pure logger) raised a >>= endRun logger raised).run s).trace.written
      = (h.play a.run s).trace.written := by
  obtain ⟨rest, htrace, htopic⟩ := Host.trace_play_reportingTo_bind raised a s
    (every_pure (x := logger)) (by decide) (by decide) (within_endRun logger raised)
  rw [htrace, Trace.written_append, Trace.written_eq_nil htopic (by decide), List.append_nil]

/-- `expand` prints the program, and nothing else. -/
theorem play_showProgram (settings : Settings) (prepared : Prepared) (s : h.State) :
    let shown := h.play (showProgram settings (.ok prepared)).run s
    let trimmed := prepared.program.trimmed
    shown.value = .ok 0 ∧ ∃ onTerminal, shown.trace.outputTerminals = [onTerminal] ∧
      shown.trace.printed
        = [(if onTerminal then trimmed else Text.withoutEscapes trimmed) ++ ['\n']] :=
  ⟨rfl, _, rfl, rfl⟩

/-- What is printed of a program that has been prepared. -/
theorem shownAs_of_preparing {root : Path} {platform : Platform} {loaded : Path × Settings}
    {prepared : Prepared} (h : (preparing root platform loaded).run.Runs t (.ok prepared))
    (onTerminal : Bool) : prepared.program.ShownAs onTerminal
      ((if onTerminal then prepared.program.trimmed
        else Text.withoutEscapes prepared.program.trimmed) ++ ['\n']) := by
  rw [preparing] at h
  obtain ⟨t₁, t₂, cache, -, -, hprepare⟩ := Action.runs_bind_ok.1 h
  have hprogram := Pipeline.program_of_prepare hprepare
  refine Program.shownAs onTerminal fun hwrapped => ?_
  rw [hprogram] at hwrapped ⊢
  exact Program.trimmed_append_newline hwrapped

/-- An error that both commands come upon ends both alike. -/
theorem agrees_failed {t' : Trace} {s'' : h.State} {β : Type} {b : Action β}
    {opening' : Action Logger} (raised : RunError → Bool) (f : Except Int α → Action Int)
    (g : Except Int β → Action Int) (hf : ∀ code, f (.error code) = pure code)
    (hg : ∀ code, g (.error code) = pure code) (hopens : Opens h opening s')
    (hopens' : Opens h opening' s'') (ha : h.play a.run s = ⟨t, .error (.reported e), s'⟩)
    (hb : h.play b.run s = ⟨t', .error (.reported e), s''⟩) (hwritten : t'.written = []) :
    Agrees (.error (.reported e)) (h.play (reportingTo opening raised a >>= f).run s)
      (h.play (reportingTo opening' raised b >>= g).run s) := by
  obtain ⟨rest, value, hplay, hfails, hvalue, -⟩ := fails_reportingTo_bind raised f hf hopens ha
  obtain ⟨rest', value', hplay', hfails', hvalue', htopic⟩ :=
    fails_reportingTo_bind raised g hg hopens' hb
  rw [hplay, hplay']
  refine .failed rfl hfails hfails' (hvalue'.trans hvalue.symm) ?_
  rw [Trace.written_append, hwritten, Trace.written_eq_nil htopic (by decide)]
  rfl

/-- **Behind the settings** both commands do the same up to the program. -/
theorem agrees_loaded (platform : Platform) (r : RunRequest) (root : Path)
    (loaded : Path × Settings) {logger : Logger} (hdebug : logger.debug = false)
    (hopened : ∃ t window, ∀ emoji color debug, h.play (Logger.opened emoji color debug).run s
      = ⟨t, .ok ⟨emoji, color, debug, window⟩, s⟩) :
    Agrees (h.play (preparing root .linux loaded).run s).value
      (h.play (expandLoaded root logger (.ok loaded)).run s)
      (h.play (runLoaded platform r root (.ok loaded)).run s) := by
  obtain ⟨script, settings⟩ := loaded
  obtain ⟨t₀, window, hopened⟩ := hopened
  let output := withRequest settings.output r
  let logger' : Logger := ⟨output.emoji, output.color, output.verbose, window⟩
  have hlogger : h.play (loggerOf output).run s = ⟨t₀, .ok logger', s⟩ := hopened ..
  have hopening := Trace.written_eq_nil
    (Host.topic_mem (Logger.within_opened output.emoji output.color output.verbose) hlogger)
    (by decide)
  let whole : Action Outcome := openCache root logger' >>= fun cache =>
    (pipelineOf platform { settings with output } logger' cache).run script r.arguments
  have hrun : h.play (runLoaded platform r root (.ok (script, settings))).run s
      = (h.play (reportingTo (pure logger') (fun _ => settings.raiseErrors) whole
          >>= endRun logger' fun _ => settings.raiseErrors).run s).behind t₀ :=
    Host.play_bind_ok hlogger
  rw [expandLoaded_eq hdebug, hrun]
  rcases hprepared : h.play (preparing root .linux (script, settings)).run s with ⟨t, x, s'⟩
  have hread := Trace.unprinted (Host.topic_mem (within_preparing ..) hprepared) (by decide)
  obtain ⟨t', hunwritten, hpipeline⟩ :=
    play_pipelineOf platform output logger' r.arguments hprepared
  refine Agrees.behind_right ?_ hopening
  obtain ⟨failure, rfl, hwhole⟩ | ⟨prepared, cache, rfl, hwhole⟩ := hpipeline
  · cases failure with
    | escaped e =>
      rw [play_reportingTo_bind_escaped hprepared, play_reportingTo_bind_escaped hwhole]
      exact .escaped rfl rfl hunwritten
    | reported e =>
      exact agrees_failed _ _ _ (fun _ => rfl) (fun _ => rfl) (opens_pure logger s')
        (opens_pure logger' s') hprepared hwhole hunwritten
  · rw [Host.play_bind_ok (Host.play_reportingTo_ok _ _ hprepared)]
    refine Agrees.behind_left ?_ hread
    obtain ⟨hvalue, onTerminal, hterminal, hprinted⟩ := play_showProgram settings prepared s'
    have hruns := h.runs_play (preparing root .linux (script, settings)).run s
    rw [hprepared] at hruns
    refine .program rfl hvalue hterminal hprinted (shownAs_of_preparing hruns onTerminal)
      fun content hmem => ?_
    rw [written_endRun, hwhole, Played.trace_behind, Trace.written_append, hunwritten,
      List.nil_append] at hmem
    have hfinish := Pipeline.writesOnly_finish (p := pipelineOf platform { settings with output }
      logger' cache) (fun event => every_lift (within_sayEvent ..)) (by decide) r.arguments prepared
    exact Trace.eq_of_mem_written ((h.runs_play _ s').every hfinish) hmem

/-- Where no logger can be opened, `run` comes to no better end than `expand`. -/
theorem play_run_of_no_logger (platform : Platform) (r : RunRequest) (root : Path) {e : Escape}
    (hopened : ∀ emoji color debug, h.play (Logger.opened emoji color debug).run s
      = ⟨t, .error (.escaped e), s⟩) :
    ∃ t e', t.written = [] ∧ h.play (reportingTo Logger.plain (fun _ => false)
        (loading r.script root) >>= runLoaded platform r root).run s
      = ⟨t, .error (.escaped e'), s⟩ := by
  have hopening : t.written = [] := Trace.written_eq_nil
    (Host.topic_mem (Logger.within_opened false true false) (hopened ..)) (by decide)
  have hplain : h.play Logger.plain.run s = ⟨t, .error (.escaped e), s⟩ := hopened ..
  obtain ⟨t', loaded, hloaded, htopic⟩ :=
    Host.exists_play (within_loading r.script root) (by decide) s
  have hloading := Trace.written_eq_nil htopic (by decide)
  rcases loaded with (e' | e') | ⟨script, settings⟩
  · have hreporting := Host.play_reportingTo_error Logger.plain (fun _ => false) hloaded
    rw [showing, if_neg Bool.false_ne_true, Host.play_bind_error hplain] at hreporting
    exact ⟨t' ++ t, e, by simp [hloading, hopening], Host.play_bind_error hreporting⟩
  · exact ⟨t', e', hloading, play_reportingTo_bind_escaped hloaded⟩
  · have hlogger : h.play (loggerOf (withRequest settings.output r)).run s
        = ⟨t, .error (.escaped e), s⟩ := hopened ..
    refine ⟨t' ++ t, e, by simp [hloading, hopening], ?_⟩
    rw [Host.play_bind_ok (Host.play_reportingTo_ok _ _ hloaded), runLoaded,
      Host.play_bind_error hlogger]
    rfl

/-- **What `expand` prints is what `run` compiles**, and both fail alike. -/
theorem agrees_expand (platform : Platform) (r : RunRequest) (s : h.State) :
    Agrees (h.play (preparation r.script r.cacheDir).run s).value
      (h.play (expand ⟨r.script, false, r.cacheDir⟩).run s) (h.play (runOn platform r).run s) := by
  rw [expand_eq, runOn_eq, preparation]
  obtain ⟨t₁, failure | root, hroot, htopic⟩ :=
    Host.exists_play (within_cacheRoot r.cacheDir) (by decide) s
  all_goals
    have hunwritten := Trace.written_eq_nil htopic (by decide)
    have hunprinted := Trace.unprinted htopic (by decide)
  · have hruns := h.runs_play (cacheRoot r.cacheDir).run s
    rw [hroot] at hruns
    obtain ⟨e, rfl⟩ := (unreported_cacheRoot r.cacheDir).exists_escape hruns
    rw [Host.play_bind_error hroot, Host.play_bind_error hroot, Host.play_bind_error hroot]
    exact .escaped rfl rfl hunwritten
  rw [Host.play_bind_ok hroot, Host.play_bind_ok hroot, Host.play_bind_ok hroot]
  refine Agrees.behind_left (Agrees.behind_right ?_ hunwritten) hunprinted
  -- `expand` opens its logger first, `run` opens one where it needs it
  obtain ⟨t₂, e, hopened⟩ | ⟨t₂, window, hopened⟩ := play_opened h s
  · have hplain : h.play Logger.plain.run s = ⟨t₂, .error (.escaped e), s⟩ := hopened ..
    obtain ⟨t₃, e', hwritten, hran⟩ := play_run_of_no_logger platform r root hopened
    rw [Host.play_bind_error hplain, hran]
    exact .escaped rfl rfl hwritten
  have hplain : h.play Logger.plain.run s = ⟨t₂, .ok ⟨false, true, false, window⟩, s⟩ :=
    hopened ..
  have hopening := Trace.unprinted
    (Host.topic_mem (Logger.within_opened false true false) hplain) (by decide)
  rw [Host.play_bind_ok hplain]
  refine Agrees.behind_left ?_ hopening
  obtain ⟨t₃, loaded, hloaded, htopic⟩ :=
    Host.exists_play (within_loading r.script root) (by decide) s
  have hunwritten := Trace.written_eq_nil htopic (by decide)
  have hunprinted := Trace.unprinted htopic (by decide)
  rcases loaded with (e | e) | loaded
  · rw [Host.play_bind_error hloaded]
    exact agrees_failed _ _ _ (fun _ => rfl) (fun _ => rfl) (opens_pure _ s)
      ⟨(Logger.within_opened ..).mono (by decide), t₂, _, hplain⟩ hloaded hloaded hunwritten
  · rw [play_reportingTo_bind_escaped hloaded, play_reportingTo_bind_escaped hloaded]
    exact .escaped rfl rfl hunwritten
  · rw [Host.play_bind_ok hloaded, Host.play_bind_ok (Host.play_reportingTo_ok _ _ hloaded),
      Host.play_bind_ok (Host.play_reportingTo_ok _ _ hloaded)]
    exact Agrees.behind_left (Agrees.behind_right
      (agrees_loaded platform r root loaded rfl ⟨t₂, window, hopened⟩) hunwritten) hunprinted

/-- **`expand` shows what `run` compiles.** Both begin in the same state and are given the same
script and the same place for the cache; the output options and the arguments of `run` may be any.
Then they come to the same program, which is printed and which is all that is written, or they fail
alike before anything is written. What is new on a volume behind `expand` lies in the cache, or is
one of the directories above it. -/
theorem expand_agrees_run {h : Host} (platform : Platform) (r : RunRequest)
    (hcache : ∀ root ∈ r.cacheDir, root.Proper) (s : h.State) :
    let prepared := (h.play (preparation r.script r.cacheDir).run s).value
    let expanded := h.play (expand ⟨r.script, false, r.cacheDir⟩).run s
    let ran := h.play (runOn platform r).run s
    Agrees prepared expanded ran ∧
      ∀ v v' : Volume, v.Along expanded.trace v' → v' = v ∨
        ∃ root, (h.play (cacheRoot r.cacheDir).run s).value = .ok root ∧ v.Confines root v' := by
  refine ⟨agrees_expand platform r s, fun v v' halong => ?_⟩
  rw [expand_eq] at halong
  obtain ⟨t, failure | root, hroot, htopic⟩ :=
    Host.exists_play (within_cacheRoot r.cacheDir) (by decide) s
  all_goals
    have hruns := h.runs_play (cacheRoot r.cacheDir).run s
    rw [hroot] at hruns
  · rw [Host.play_bind_error hroot] at halong
    have hquiet := Volume.after_quiet ((within_cacheRoot r.cacheDir).mono (by decide)) v
    exact .inl (hquiet.of_runs hruns halong)
  · rw [Host.play_bind_ok hroot] at halong
    obtain ⟨v₁, hbefore, hrest⟩ := Volume.along_append.1 halong
    have hquiet := Volume.after_quiet ((within_cacheRoot r.cacheDir).mono (by decide)) v
    obtain rfl := hquiet.of_runs hruns hbefore
    have hafter := Volume.after_expandFrom (proper_of_cacheRoot hcache hruns) r.script v₁
    exact .inr ⟨root, by rw [hroot], hafter.of_runs (h.runs_play _ s) hrest⟩

/-! ### A command with a script -/

/-- The host of a volume to which nothing can be added. -/
def sealedHost : Host where
  State := Volume
  answer request v := v.sealed request
  quiet request v hquiet := by
    cases request with
    | launch => rfl
    | discard => simp [Topic.quiet] at hquiet
    | _ => rfl

/-- What such a host replies is what its volumes answer. -/
theorem along_play_sealedHost {α : Type} (r : Routine α) (v : Volume) :
    v.Along (sealedHost.play r v).trace (sealedHost.play r v).state := by
  induction r generalizing v with
  | done x => rfl
  | ask request next ih => exact ⟨_, v.answers_sealed request, ih _ _⟩

/-- A cache, a scratch directory and a script. -/
def workspace (script : Text) : Volume :=
  (Volume.edited.put [] "temp" (.directory true) ⟨true, rfl⟩ rfl).put [] "a.rs"
    (.file (Utf8.encode script) true) ⟨true, rfl⟩ rfl

/-- A run of the script with debug lines and an argument. -/
def verboseRequest : RunRequest where
  script := some ⟨[], ["a.rs"]⟩
  arguments := ["-x"]
  verbose := true
  emoji := some true
  color := none
  showExpanded := true
  cacheDir := some ⟨[], ["b"]⟩

/-- The program of a script that holds no control sequence is printed as it is written. -/
theorem expand_agrees_run_plain :
    let v := workspace "let x = 1;\n"
    let r := verboseRequest
    let prepared := (sealedHost.play (preparation r.script r.cacheDir).run v).value
    let expanded := sealedHost.play (expand ⟨r.script, false, r.cacheDir⟩).run v
    let ran := sealedHost.play (runOn .linux r).run v
    (∀ root ∈ r.cacheDir, root.Proper) ∧ v.Along expanded.trace expanded.state ∧
      Agrees prepared expanded ran ∧ expanded.value = .ok 0 ∧
      ran.trace.written = expanded.trace.printed.map Utf8.encode := by
  intro v r prepared expanded ran
  have hcache : ∀ root ∈ r.cacheDir, root.Proper := by
    intro root hroot
    obtain rfl : (⟨[], ["b"]⟩ : Path) = root := Option.some.inj hroot
    exact ⟨.inl rfl, by simp [Path.IsName, Path.isKept]⟩
  have hagrees := (expand_agrees_run (h := sealedHost) .linux r hcache v).1
  have hends : expanded.value = .ok 0 ∧
      ran.trace.written = expanded.trace.printed.map Utf8.encode := by
    decide +kernel
  exact ⟨hcache, along_play_sealedHost _ v, hagrees, hends⟩

/-- **A control sequence in a script is not printed** where standard output is no terminal, but it
is written. -/
theorem expand_drops_escapes :
    let v := workspace "let s = \"\x1b[31mred\";\n"
    let r := verboseRequest
    let prepared := (sealedHost.play (preparation r.script r.cacheDir).run v).value
    let expanded := sealedHost.play (expand ⟨r.script, false, r.cacheDir⟩).run v
    let ran := sealedHost.play (runOn .linux r).run v
    prepared.map (·.program.wrapped) = .ok true ∧ expanded.value = .ok 0 ∧
      ∃ printed content, expanded.trace.printed = [printed] ∧ ran.trace.written = [content] ∧
        content ≠ Utf8.encode printed := by
  intro v r prepared expanded ran
  have hends : prepared.map (·.program.wrapped) = .ok true ∧ expanded.value = .ok 0 ∧
      expanded.trace.printed.length = 1 ∧ ran.trace.written.length = 1 ∧
      ran.trace.written ≠ expanded.trace.printed.map Utf8.encode := by
    decide +kernel
  obtain ⟨hwrapped, hvalue, hprinted, hwritten, hne⟩ := hends
  obtain ⟨printed, hprinted⟩ := List.length_eq_one_iff.1 hprinted
  obtain ⟨content, hwritten⟩ := List.length_eq_one_iff.1 hwritten
  refine ⟨hwrapped, hvalue, printed, content, hprinted, hwritten, fun hsame => hne ?_⟩
  rw [hprinted, hwritten, hsame]
  rfl

end CommandLine

end Oneshot
