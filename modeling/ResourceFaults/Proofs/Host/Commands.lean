import Mathlib
import ResourceFaults.Proofs.Host.Course

/-!
# The commands of a run

`Host.run_tells` follows the commands through a whole run of a host that targets
its own process.  A first command that is rejected ends the run before standard
input matters.  Otherwise, in whatever order the status loop, the reader and the
workers take their steps, the final report lists the commands that were carried
out, in the order in which they were given; the same commands have their lines on
standard output, and the rejected ones have theirs on standard error.

The banner, the summary and the closing lines repeat the command and the path of the
report as they stand on the command line.  Where one of these holds a line feed, what
follows it may look like the line for a command as well
(`Host.inject_lines_of_broken_command`); a command from standard input is one line.

What happens between the opening and the end of the loop is `Session.account_of_run`.
Here its two ends are added: `opening` puts the first command into the account, and
`finish` writes down what has been recorded.
-/

namespace ResourceFaults.Host

open Text (RawText)

variable {ε σ : Type}

/-! ## Printing -/

/-- Printing adds the lines to the two outputs, and nothing else. -/
theorem Result.print_eq (r : Result) (output : List Output) :
    r.print output =
      { r with
        out := r.out ++ printed output
        err := r.err ++ written (complained output) } := by
  induction output generalizing r with
  | nil =>
    show r = { r with out := r.out ++ [], err := r.err ++ "" }
    rw [List.append_nil, String.append_empty]
  | cons o output ih =>
    have hcons : r.print (o :: output) = (r.print [o]).print output := rfl
    rw [hcons, ih]
    cases o with
    | out line =>
      show Result.mk (r.out ++ [line] ++ printed output) _ _ _ =
        Result.mk (r.out ++ line :: printed output) _ _ _
      rw [List.append_assoc, List.singleton_append]
      rfl
    | err line =>
      show Result.mk _ (r.err ++ line ++ "\n" ++ written (complained output)) _ _ =
        Result.mk _ (r.err ++ written (line :: complained output)) _ _
      rw [written_cons, String.append_assoc, String.append_assoc, String.append_assoc]
      rfl

/-! ## The end of a run -/

section Finish

variable {v : Surroundings} {t : Task} {save : RawText → String → Except SystemFailure Unit}
  {s : Session ε σ}

/-- The report of a session, made after the last stop. -/
def finalReport (v : Surroundings) (t : Task) (s : Session ε σ) : SessionReport :=
  (s.stopFaults v t).report v

theorem finalReport_commands (h : v.Serves t) : (finalReport v t s).commands = s.commands := by
  rw [finalReport, Session.stopFaults_eq h]
  rfl

/-- What is said on standard error of a report that could not be saved. -/
def troubleOf (t : Task) (save : RawText → String → Except SystemFailure Unit)
    (report : SessionReport) : String :=
  match t.settings.reportFile with
  | none => ""
  | some path =>
    match save path report.save with
    | .ok () => ""
    | .error failure =>
      trace ("failed to write session report to " ++ RawText.shown path)
        ((ReportError.file failure).message :: (ReportError.file failure).causes)

/-- The report, if it is wanted and can be saved. -/
def savedReport (t : Task) (save : RawText → String → Except SystemFailure Unit)
    (report : SessionReport) : Option SessionReport :=
  t.settings.reportFile.bind fun path => (save path report.save).toOption.map fun _ => report

/-- A run ends with what its session has printed, the summary of its report and a
few closing texts, one of which may repeat where the report has been saved. -/
theorem finish_eq (h : v.Serves t) (save : RawText → String → Except SystemFailure Unit)
    (s : Session ε σ) :
    ∃ closing : List String,
      closing.flatMap injectLines =
        (if (savedReport t save (finalReport v t s)).isSome then pathEchoes t else []) ∧
      (finish v t save s).out =
        printed s.output ++ (finalReport v t s).summary ++ closing ∧
      (finish v t save s).err =
        written (complained s.output) ++ troubleOf t save (finalReport v t s) ∧
      (finish v t save s).report = savedReport t save (finalReport v t s) := by
  have houtput : (s.stopFaults v t).output = s.output := by rw [Session.stopFaults_eq h]
  have hempty : injectLines "" = [] := by decide
  have hdone : injectLines "Shutdown complete." = [] := by decide
  rw [finish, troubleOf, savedReport, pathEchoes]
  cases t.settings.reportFile with
  | none =>
    refine ⟨["", "Shutdown complete."], by simp [hempty, hdone], ?_⟩
    simp [Result.print_eq, houtput, finalReport, printed, complained, written]
  | some path =>
    have hsaved : injectLines ("Session report saved: " ++ RawText.shown path) =
        echoed (RawText.shown path) := by
      have hstart : IsForeign "Session report saved: " := by decide
      exact hstart.injectLines_append (by decide) _
    cases hsave : save path (finalReport v t s).save with
    | ok _ =>
      refine ⟨["", "Session report saved: " ++ RawText.shown path, "", "Shutdown complete."],
        by simp [hempty, hdone, hsaved, hsave, Except.toOption], ?_⟩
      rw [finalReport] at hsave
      simp [Result.print_eq, houtput, finalReport, hsave, printed, complained, written,
        Except.toOption]
    | error failure =>
      refine ⟨[], by simp [hsave, Except.toOption], ?_⟩
      rw [finalReport] at hsave
      simp [Result.print_eq, Result.fail, houtput, finalReport, hsave, written, Except.toOption]

/-- What a run leaves of the answers to its commands and of the line, if there was one,
that was not text. -/
structure Tells (v : Surroundings) (t : Task) (save : RawText → String → Except SystemFailure Unit)
    (s : Session ε σ) (command : String) (as : List Answer) (broken : List String) : Prop where
  /-- The report lists the commands that were carried out. -/
  commands_eq : (finalReport v t s).commands = carriedOut as
  /-- It is the report that is shown, and the one that is saved if any is. -/
  summary_shown : (finalReport v t s).summary <:+: (finish v t save s).out
  report_eq : (finish v t save s).report = savedReport t save (finalReport v t s)
  /-- Each command that was carried out has one line.  All other lines of this kind come
  from texts that repeat something of the command line. -/
  inject_eq : injectLines (written (finish v t save s).out) =
    echoed command ++ pathEchoes t ++ tellings as ++ echoed (" ; ".intercalate (carriedOut as)) ++
      if (savedReport t save (finalReport v t s)).isSome then pathEchoes t else []
  /-- There are none of those if the command and the path of the report on the command
  line are one line each. -/
  inject_eq_tellings : IsUnbroken command →
    (∀ path ∈ t.settings.reportFile, IsUnbroken path.shown) →
      injectLines (written (finish v t save s).out) = tellings as
  /-- Each rejected command has one message, and so has the line that was not text; only
  a report that cannot be saved adds to them. -/
  err_eq : (finish v t save s).err =
    written (complaints as ++ broken) ++ troubleOf t save (finalReport v t s)

theorem pathEchoes_of_unbroken (hpath : ∀ path ∈ t.settings.reportFile, IsUnbroken path.shown) :
    pathEchoes t = [] := by
  rw [pathEchoes, List.flatMap_eq_nil_iff]
  intro shown hshown
  obtain ⟨path, hmem, rfl⟩ := List.mem_map.1 hshown
  exact echoed_of_unbroken (hpath path (Option.mem_toList.1 hmem))

/-- At the end of a run its account is written down. -/
theorem tells_of_account (h : v.Serves t) {command : String} {as : List Answer}
    {broken : List String} (hunbroken : IsUnbroken command → ∀ c ∈ carriedOut as, IsUnbroken c)
    (haccount : s.account =
      ⟨carriedOut as, echoed command ++ pathEchoes t ++ tellings as, complaints as ++ broken⟩)
    (hfinished : s.reading = false) : Tells v t save s command as broken := by
  rw [Session.account_of_finished hfinished] at haccount
  injection haccount with hcommands hinjected herrors
  obtain ⟨closing, hclosing, hout, herr, hreport⟩ := finish_eq h save s
  have hlist : (finalReport v t s).commands = carriedOut as :=
    (finalReport_commands h).trans hcommands
  have hinject : injectLines (written (finish v t save s).out) =
      echoed command ++ pathEchoes t ++ tellings as ++
        echoed (" ; ".intercalate (carriedOut as)) ++
        if (savedReport t save (finalReport v t s)).isSome then pathEchoes t else [] := by
    rw [injectLines_written, hout, List.flatMap_append, List.flatMap_append,
      injectLines_summary, hclosing, hlist, ← hinjected, injected]
  exact
    { commands_eq := hlist
      summary_shown := ⟨printed s.output, closing, hout.symm⟩
      report_eq := hreport
      inject_eq := hinject
      inject_eq_tellings := by
        intro hcommand hpath
        have hlisted : IsUnbroken (" ; ".intercalate (carriedOut as)) :=
          isUnbroken_intercalate (by decide) (hunbroken hcommand)
        rw [hinject, pathEchoes_of_unbroken hpath, ite_self, echoed_of_unbroken hcommand,
          echoed_of_unbroken hlisted]
        simp
      err_eq := by rw [herr, herrors] }

end Finish

/-! ## The start of a run -/

section Start

variable {e : Engine ε σ} {v : Surroundings} {t : Task} {command : String} {input : List RawText}

/-- The command on the command line, if there is one. -/
def firstCommand (words : List String) : List String :=
  let command := " ".intercalate words
  if command.isEmpty then [] else [command]

/-- A session before its first command. -/
def fresh (t : Task) (command : String) (e : Engine ε σ) (input : List RawText) : Session ε σ :=
  { engine := e, reading := t.settings.follow, lines := input, output := banner t command }

theorem start_of_empty (h : command.isEmpty = true) :
    start v t command e input = (fresh t command e input, none) := by
  rw [start, if_pos h]
  rfl

theorem start_of_delivered (hsome : ¬ command.isEmpty = true) {s : Session ε σ}
    {outcome : Outcome}
    (hdeliver : (fresh t command e input).deliver v t command = (s, .ok outcome)) :
    start v t command e input = ({ s with engine := launchAll s.engine }, none) := by
  unfold fresh at hdeliver
  simp only [start, if_neg hsome, hdeliver]

theorem start_of_undelivered (hsome : ¬ command.isEmpty = true) {s : Session ε σ}
    {error : AttachError}
    (hdeliver : (fresh t command e input).deliver v t command = (s, .error error)) :
    start v t command e input = (s, some error) := by
  unfold fresh at hdeliver
  simp only [start, if_neg hsome, hdeliver]

theorem start_of_ok (h : v.Serves t) (hsome : command.isEmpty = false) {o : Outcome}
    (hreply : Request.replyTo e.shortages command = .ok o) :
    start v t command e input =
      ({ (fresh t command e input).accepted command o with
          engine := launchAll ((fresh t command e input).accepted command o).engine }, none) :=
  start_of_delivered (by simp [hsome]) (Session.deliver_of_ok h hreply)

theorem start_of_error (h : v.Serves t) (hsome : command.isEmpty = false) {error : FaultError}
    (hreply : Request.replyTo e.shortages command = .error error) :
    start v t command e input =
      ((fresh t command e input).rejected command, some (.delivery error)) :=
  start_of_undelivered (by simp [hsome]) (Session.deliver_of_error h hreply)

/-- The commands that a run is given: on the command line, and on standard input if
that is followed. -/
def givenCommands (settings : Settings) (words : List String) (input : List RawText) :
    List String :=
  firstCommand words ++ if settings.follow then commandsOn input else []

/-- The message for input that is not text, where input is followed. -/
def brokenInput (settings : Settings) (input : List RawText) : List String :=
  if settings.follow then brokenOn input else []

/-- What a session owes before its first command. -/
theorem accountWith_fresh (as : List Answer) (broken : List String) :
    (fresh t command e input).accountWith as broken =
      ⟨carriedOut as, echoed command ++ pathEchoes t ++ tellings as, complaints as ++ broken⟩ := by
  have hbanner : complained (banner t command) = [] := by rw [banner, complained_map_out]
  rw [Session.accountWith, fresh, injected_banner, hbanner, List.nil_append, List.nil_append]

/-- The account of a session that starts with a first command, or with none. -/
theorem account_of_start (h : v.Serves t) (words : List String) (input : List RawText)
    (haccepts : allCarriedOut (answers e.shortages (firstCommand words)) = true) :
    ∃ s : Session ε σ, start v t (" ".intercalate words) e input = (s, none) ∧ s.IsSteady ∧
      s.stage = .recording ∧
      s.account = (fresh t (" ".intercalate words) e input).accountWith
        (answers e.shortages (givenCommands t.settings words input))
        (brokenInput t.settings input) := by
  have hcoming : commandsOn (fresh t (" ".intercalate words) e input).coming =
      if t.settings.follow then commandsOn input else [] := by
    rw [Session.coming, fresh, apply_ite commandsOn, commandsOn_nil]
  have hbroken : brokenOn (fresh t (" ".intercalate words) e input).coming =
      brokenInput t.settings input := by
    rw [Session.coming, fresh, apply_ite brokenOn, brokenOn_nil, brokenInput]
  rw [givenCommands, ← hcoming, ← hbroken]
  generalize hcommand : " ".intercalate words = command at *
  rw [firstCommand, hcommand] at haccepts ⊢
  cases hempty : command.isEmpty with
  | true =>
    rw [if_pos rfl, List.nil_append]
    exact ⟨_, start_of_empty hempty, ⟨rfl, fun h => by cases h⟩, rfl, rfl⟩
  | false =>
    rw [hempty, if_neg Bool.false_ne_true] at haccepts
    rw [if_neg Bool.false_ne_true]
    cases hreply : Request.replyTo e.shortages command with
    | error error =>
      simp [answers, allCarriedOut, hreply, Except.isOk, Except.toBool] at haccepts
    | ok o =>
      refine ⟨_, start_of_ok h hempty hreply, ⟨rfl, fun h => by cases h⟩, rfl, ?_⟩
      have hshortages : (launchAll ((fresh t command e input).accepted command o).engine).shortages =
          Request.laterThan e.shortages command :=
        shortages_launchAll.trans Engine.dispatch_shortages
      rw [List.singleton_append, answers, hreply, ← Session.accountWith_accepted, ← hshortages]
      rfl

/-- A first command that is rejected keeps the session from starting, whatever the
input is. -/
theorem start_of_rejected (h : v.Serves t) {words : List String}
    (hrejects : allCarriedOut (answers e.shortages (firstCommand words)) = false) :
    ∃ error, ∀ input, ∃ s : Session ε σ,
      start v t (" ".intercalate words) e input = (s, some error) ∧
        s.output = banner t (" ".intercalate words) := by
  generalize hcommand : " ".intercalate words = command
  rw [firstCommand, hcommand] at hrejects
  cases hempty : command.isEmpty with
  | true => simp [hempty, answers, allCarriedOut] at hrejects
  | false =>
    cases hreply : Request.replyTo e.shortages command with
    | ok o =>
      simp [hempty, answers, allCarriedOut, hreply, Except.isOk, Except.toBool] at hrejects
    | error error =>
      exact ⟨_, fun input => ⟨_, start_of_error h hempty hreply, rfl⟩⟩

end Start

/-! ## The whole run -/

section Run

variable {a : Allocator ε σ} {e : Engine ε σ} {v : Surroundings} {t : Task}
  {arguments : List RawText} {words : List String}

/-- The opening of a run whose command line can be read. -/
theorem opening_eq (hparse : Settings.parse arguments = .ok (t.settings, words))
    (htarget : t.settings.pid.getD v.processes.self = t.target) (h : v.Serves t)
    (input : List RawText) :
    opening e v arguments input =
      match start v t (" ".intercalate words) e input with
      | (s, none) => .ok (t, s)
      | (s, some error) =>
        .error ((({} : Result).print s.output).fail "fault injection failed"
          (error.message :: error.causes)) := by
  have hprobe : v.processes.probe t.target = .ok () := by rw [h.target_eq, h.probe_eq]
  rw [opening, hparse]
  simp only [htarget]
  generalize v.processes.probe t.target = answer at hprobe ⊢
  subst hprobe
  rfl

/-- The commands that a run is given are one line each if the one on the command line
is. -/
theorem isUnbroken_of_mem_given {settings : Settings} {stays : Bool} {input : RawText} {c : String}
    (hcommand : IsUnbroken (" ".intercalate words))
    (hc : c ∈ givenCommands settings words (inputLines stays input)) : IsUnbroken c := by
  rw [givenCommands, firstCommand, List.mem_append] at hc
  rcases hc with hc | hc
  · split at hc
    · cases hc
    · rwa [List.mem_singleton.1 hc]
  · split at hc
    · exact isUnbroken_of_mem_commandsOn hc
    · cases hc

/-- A run whose first command is carried out, in whatever order the activities of its
session take their steps. -/
theorem session_tells (hparse : Settings.parse arguments = .ok (t.settings, words))
    (htarget : t.settings.pid.getD v.processes.self = t.target) (h : v.Serves t)
    (haccepts : allCarriedOut (answers e.shortages (firstCommand words)) = true)
    {i : Invocation} (hi : i.arguments = arguments) (hsignal : i.signal = none) :
    ∃ s : Session ε σ, opening e v arguments i.lines = .ok (t, s) ∧
      run a e v i = conclude v t i.save (course a v t none s) ∧
      ∀ s', s.Leads a v t s' →
        (s'.reading = false →
          Tells v t i.save s' (" ".intercalate words)
            (answers e.shortages (givenCommands t.settings words i.lines))
            (brokenInput t.settings i.lines)) ∧
        s'.IsSteady ∧ (s'.stage = .failed → Nanos.last < s'.engine.scene.now + Session.interval t) := by
  obtain ⟨s, hs, hsteady, hstage, haccount⟩ := account_of_start (e := e) h words i.lines haccepts
  have hopen : opening e v arguments i.lines = .ok (t, s) := by
    rw [opening_eq hparse htarget h, hs]
  refine ⟨s, hopen, by rw [run, hi, hopen, hsignal], ?_⟩
  rintro s' ⟨moves, hquiet, hrun⟩
  refine ⟨fun hfinished => tells_of_account h ?_ ?_ hfinished, hsteady.run hquiet hrun,
    Session.last_lt_of_failed hquiet hrun hstage⟩
  · exact fun hcommand c hc => isUnbroken_of_mem_given hcommand (mem_of_mem_carriedOut hc)
  · rw [Session.account_of_run h hquiet hrun, haccount, accountWith_fresh]

/-- The commands of a run of a host that serves its own process, when no signal
comes.  A first command that is rejected fails the run, whatever the input is.
Otherwise, in whatever order the activities of the session take their steps, each
command that is carried out is told once and reported once, in the order in which
they were given, and each that is rejected is complained of once.  The only runs of
which this says nothing are those in which the clock cannot hold the time of the next
turn. -/
theorem run_tells (hparse : Settings.parse arguments = .ok (t.settings, words))
    (htarget : t.settings.pid.getD v.processes.self = t.target) (h : v.Serves t) :
    (allCarriedOut (answers e.shortages (firstCommand words)) = false →
      ∃ r : Result, r.exit = 1 ∧ r.report = none ∧
        injectLines (written r.out) = echoed (" ".intercalate words) ++ pathEchoes t ∧
        ∀ i : Invocation, i.arguments = arguments → run a e v i = r) ∧
    (allCarriedOut (answers e.shortages (firstCommand words)) = true →
      ∀ i : Invocation, i.arguments = arguments → i.signal = none →
        let as := answers e.shortages (givenCommands t.settings words i.lines)
        let broken := brokenInput t.settings i.lines
        ∃ s, opening e v arguments i.lines = .ok (t, s) ∧
          (∀ moves s', Undisturbed moves → s.run a v t moves = some s' →
            (s'.stage = .over → Tells v t i.save s' (" ".intercalate words) as broken) ∧
            (s'.stage = .failed → Nanos.last < s'.engine.scene.now + Session.interval t)) ∧
          ∃ s' : Session ε σ, run a e v i = conclude v t i.save s' ∧
            (s'.stage ≠ .failed →
              run a e v i = finish v t i.save s' ∧
                Tells v t i.save s' (" ".intercalate words) as broken) ∧
            (s'.stage = .failed → Nanos.last < s'.engine.scene.now + Session.interval t)) := by
  constructor
  · intro hrejects
    obtain ⟨error, hstart⟩ := start_of_rejected (e := e) h hrejects
    refine ⟨(({} : Result).print (banner t (" ".intercalate words))).fail
      "fault injection failed" (error.message :: error.causes), rfl, ?_, ?_, ?_⟩
    · rw [Result.print_eq]
      rfl
    · rw [Result.print_eq, injectLines_written]
      exact injected_banner _ _
    · rintro i rfl
      obtain ⟨s, hs, houtput⟩ := hstart i.lines
      rw [run, opening_eq hparse htarget h, hs, ← houtput]
  · intro haccepts i hi hsignal as broken
    obtain ⟨s, hopen, hrun, htells⟩ :=
      session_tells (a := a) (e := e) hparse htarget h haccepts hi hsignal
    refine ⟨s, hopen, ?_, course a v t none s, hrun, ?_⟩
    · intro moves s' hquiet hmoves
      obtain ⟨htells, hsteady, hlast⟩ := htells s' ⟨moves, hquiet, hmoves⟩
      exact ⟨fun hover => htells (hsteady.finished_of_over hover), hlast⟩
    · obtain ⟨-, hsteady, -⟩ := htells s .refl
      obtain ⟨htells, -, hlast⟩ := htells _ Session.leads_course
      refine ⟨fun hfailed => ⟨?_, htells (Session.finished_of_course h hsteady hfailed)⟩, hlast⟩
      rw [hrun, conclude, if_neg hfailed]

/-- A first command, and on standard input a stop, blanks, a command that is rejected,
an unknown one, and a line that is not text, before which the loop has asked once. -/
theorem run_tells_of_mixed_lines :
    let v : Surroundings := ⟨⟨7, fun _ => .present⟩, fun _ => Time.Moment.epoch, fun _ => none⟩
    let t : Task := ⟨{ follow := true }, 7⟩
    let e := (ResourceFaults.Session.onBudget ⟨none, 0⟩).engine
    let i : Invocation :=
      { arguments := ["--follow", "cpu", "-d", "60"].map RawText.ofString
        input := RawText.ofString "stop\r\n \nmem -d x\n explode now \n" ++
          RawText.ofBytes [0xFF, 0x0A] ++ RawText.ofString "cpu"
        save := fun _ _ => .ok () }
    let moves : List SessionMove :=
      List.replicate 3 .loop ++ List.replicate 6 .read ++ List.replicate 3 (.engine (.work 0)) ++
        List.replicate 8 .loop
    ∃ s s' : Session (List JournalEntry) BudgetState,
      opening e v i.arguments i.lines = .ok (t, s) ∧
      s.run .budgeted v t moves = some s' ∧ s'.stage = .over ∧
      (finalReport v t s').commands = ["cpu -d 60", "stop", "explode now"] ∧
      injectLines (written (finish v t i.save s').out) =
        [ "[INJECT] cpu fault started: 1 worker(s) for 60s",
          "[INJECT] all faults stopped",
          "[INJECT] ignored unknown command \"explode\"" ] ∧
      (finish v t i.save s').err =
        "[ERROR] Fault invocation rejected: Invalid fault options: error: invalid value 'x' for " ++
          "'--duration <DURATION_SECS>': invalid digit found in string\n\n" ++
          "[ERROR] Failed to read command: stream did not contain valid UTF-8\n" := by
  intro v t e i moves
  have hparse : Settings.parse i.arguments = .ok (t.settings, ["cpu", "-d", "60"]) := by rfl
  obtain ⟨s, hopen, htells, -⟩ := (run_tells (a := .budgeted) (e := e) (v := v) hparse rfl
    ⟨rfl, rfl⟩).2 (by decide +kernel) i rfl rfl
  have hs : s = ((opening e v i.arguments i.lines).toOption.map Prod.snd).get
      (by decide +kernel) := by
    simp [hopen, Except.toOption]
  have hrun : (s.run .budgeted v t moves).map (·.stage) = some .over := by
    rw [hs]
    decide +kernel
  obtain ⟨s', hend, hover⟩ := Option.map_eq_some_iff.1 hrun
  have htells := (htells moves s' (by unfold Undisturbed; decide) hend).1 hover
  have htrouble : troubleOf t i.save (finalReport v t s') = "" := rfl
  refine ⟨s, s', hopen, hend, hover, ?_, ?_, ?_⟩
  · exact htells.commands_eq.trans (by decide +kernel)
  · exact (htells.inject_eq_tellings (by decide) (by simp [t])).trans (by decide +kernel)
  · rw [htells.err_eq, htrouble]
    decide +kernel

/-- A command of two lines is one command and is carried out once, and yet three lines on
standard output look as if one had been carried out. -/
theorem inject_lines_of_broken_command :
    let v : Surroundings := ⟨⟨7, fun _ => .present⟩, fun _ => Time.Moment.epoch, fun _ => none⟩
    let t : Task := ⟨{}, 7⟩
    let e := (ResourceFaults.Session.onBudget ⟨none, 0⟩).engine
    let i : Invocation :=
      { arguments := [RawText.ofString "x\n[INJECT] y"]
        save := fun _ _ => .ok () }
    ∃ s' : Session (List JournalEntry) BudgetState,
      run .budgeted e v i = finish v t i.save s' ∧
      (finalReport v t s').commands = ["x\n[INJECT] y"] ∧
      injectLines (written (run .budgeted e v i).out) =
        ["[INJECT] y", "[INJECT] ignored unknown command \"x\"", "[INJECT] y"] := by
  intro v t e i
  have hparse : Settings.parse i.arguments = .ok (t.settings, ["x\n[INJECT] y"]) := by rfl
  obtain ⟨s, hopen, hrun, htells⟩ := session_tells (a := .budgeted) (e := e) (v := v) hparse rfl
    ⟨rfl, rfl⟩ (by decide +kernel) (i := i) rfl rfl
  have hs : s = ((opening e v i.arguments i.lines).toOption.map Prod.snd).get
      (by decide +kernel) := by
    simp [hopen, Except.toOption]
  have hstage : (course .budgeted v t none s).stage = .over := by
    rw [hs]
    decide +kernel
  obtain ⟨htells, hsteady, -⟩ := htells _ Session.leads_course
  have htells := htells (hsteady.finished_of_over hstage)
  have hfinish : run .budgeted e v i = finish v t i.save (course .budgeted v t none s) := by
    rw [hrun, conclude, hstage, if_neg (by decide)]
  refine ⟨_, hfinish, htells.commands_eq.trans (by decide +kernel), ?_⟩
  have hunsaved : savedReport t i.save
      (finalReport v t (course .budgeted v t none s)) = none := rfl
  rw [hfinish, htells.inject_eq, hunsaved, Option.isSome_none, if_neg Bool.false_ne_true,
    List.append_nil]
  decide +kernel

end Run

end ResourceFaults.Host
