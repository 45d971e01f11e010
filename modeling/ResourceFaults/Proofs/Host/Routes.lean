import Mathlib
import ResourceFaults.Proofs.Host.Commands
import ResourceFaults.Proofs.Request.Words

/-!
# The routes of a request

A request comes to the host as words of its command line, which are joined by spaces,
or as a line of standard input, which is trimmed.  Each word of the command line may
itself be any text, quoted or not, with blanks in it or nothing at all.

Neither route changes the words of the request, and a request is read by its words
alone (`Request.isByWords`).  So both routes lead to the same request if they bring the
same words, however these are cut into texts, and so does a command that has been
recorded, when its text is given once more (`Host.delivered_by_words`).
-/

namespace ResourceFaults

open Text (RawText words)

variable {ε σ : Type}

/-! ## Deliveries -/

namespace Engine

variable {e : Engine ε σ} {processes : ProcessTable} {pid : UInt32} {text : String}

/-- A delivery that succeeds has carried out the request of its text. -/
theorem exists_request_of_attach {o : Outcome} (h : (e.attach processes pid text).2 = .ok o) :
    ∃ r, Request.parse text = .ok r ∧ (e.attach processes pid text).1 = (e.execute r).1 := by
  rcases attach_cases e processes pid text with ⟨error, heq⟩ | ⟨rfl, hprobe⟩
  · rw [heq] at h
    cases h
  · rw [attach_of_self hprobe] at h ⊢
    cases hparse : Request.parse text with
    | ok r => exact ⟨r, rfl, by rw [dispatch_of_ok hparse]⟩
    | error complaint =>
      rw [dispatch_of_error hparse] at h
      cases h

end Engine

namespace Host

namespace Session

variable {a : Allocator ε σ} {v : Surroundings} {t : Task} {s s' : Session ε σ}

/-- Whether a session differs from another in the engine and the record at most by one
command that is carried out and recorded. -/
def Records (s s' : Session ε σ) : Prop :=
  s'.commands = s.commands ∨
    ∃ command r, s'.commands = s.commands ++ [command] ∧ Request.parse command = .ok r ∧
      s'.engine = (s.engine.execute r).1

theorem records_deliver (s : Session ε σ) (v : Surroundings) (t : Task) (command : String) :
    s.Records (s.deliver v t command).1 := by
  have hrequest : ∀ o, (s.engine.attach v.processes t.target command).2 = .ok o →
      ∃ r, Request.parse command = .ok r ∧
        (s.engine.attach v.processes t.target command).1 = (s.engine.execute r).1 :=
    fun o => Engine.exists_request_of_attach
  unfold deliver
  generalize s.engine.attach v.processes t.target command = p at hrequest
  rcases p with ⟨engine, result⟩
  cases result with
  | error e => exact .inl rfl
  | ok o =>
    obtain ⟨r, hparse, hengine⟩ := hrequest o rfl
    exact .inr ⟨command, r, rfl, hparse, hengine⟩

theorem records_readLine (s : Session ε σ) (v : Surroundings) (t : Task) (line : RawText)
    (rest : List RawText) : s.Records (s.readLine v t line rest) := by
  unfold readLine
  split
  · exact .inl rfl
  · rename_i cs _
    by_cases hempty : (Text.trimChars cs).isEmpty = true
    · rw [if_pos hempty]
      exact .inl rfl
    · rw [if_neg hempty]
      have hrecords := records_deliver { s with lines := rest } v t
        (String.ofList (Text.trimChars cs))
      generalize deliver v t { s with lines := rest } (String.ofList (Text.trimChars cs)) = p at *
      rcases p with ⟨s', result⟩
      cases result <;> exact hrecords

/-- The last stop is not recorded. -/
theorem commands_stopFaults (s : Session ε σ) (v : Surroundings) (t : Task) :
    (s.stopFaults v t).commands = s.commands := by
  unfold stopFaults
  generalize s.engine.attach v.processes t.target "stop" = p
  rcases p with ⟨engine, result⟩
  cases result <;> rfl

/-- A step records nothing, or a command whose request it carries out. -/
theorem records_step {m : SessionMove} (hstep : s.step a v t m = some s') : s.Records s' := by
  cases m with
  | loop =>
    refine .inl ?_
    cases loopMoves_of_loopStep hstep <;> rfl
  | read =>
    have hread : s.readStep v t = some s' := hstep
    unfold readStep at hread
    split at hread
    · cases hread
    · split at hread
      · obtain rfl := Option.some.inj hread
        exact .inl rfl
      · obtain rfl := Option.some.inj hread
        exact records_readLine s v t _ _
  | signal number =>
    obtain rfl := Option.some.inj hstep
    exact .inl (commands_stopFaults _ v t)
  | engine tick =>
    obtain ⟨engine, -, rfl⟩ := Option.map_eq_some_iff.1 hstep
    exact .inl rfl

end Session

/-! ## The command line -/

section CommandLine

variable {e : Engine ε σ} {v : Surroundings} {t : Task} {arguments lines : List RawText}
  {texts : List String}

/-- A command line without a command starts a session in which nothing has happened. -/
theorem opening_of_empty (hparse : Settings.parse arguments = .ok (t.settings, texts))
    (htarget : t.settings.pid.getD v.processes.self = t.target) (h : v.Serves t)
    (hempty : " ".intercalate texts = "") :
    ∃ s, opening e v arguments lines = .ok (t, s) ∧ s.engine = e ∧ s.commands = [] := by
  refine ⟨fresh t "" e lines, ?_, rfl, rfl⟩
  rw [opening_eq hparse htarget h, hempty, start_of_empty (by decide)]

/-- The first request is that of the words of all arguments of the command. -/
theorem opening_of_request (hparse : Settings.parse arguments = .ok (t.settings, texts))
    (htarget : t.settings.pid.getD v.processes.self = t.target) (h : v.Serves t)
    (hsome : " ".intercalate texts ≠ "") {r : Request} {o : Outcome}
    (hr : Request.ofWords (texts.flatMap words) = .ok r) (ho : (e.execute r).2 = .ok o) :
    ∃ s, opening e v arguments lines = .ok (t, s) ∧ s.engine = launchAll (e.execute r).1 ∧
      s.commands = [" ".intercalate texts] := by
  have hcommand : Request.parse (" ".intercalate texts) = .ok r := by
    rw [Request.parse_intercalate, hr]
  have hdispatch := Engine.dispatch_of_ok (e := e) hcommand
  have hreply : Request.replyTo e.shortages (" ".intercalate texts) = .ok o := by
    rw [← Engine.dispatch_reply, hdispatch, ho]
  refine ⟨_, by rw [opening_eq hparse htarget h, start_of_ok h (by simpa using hsome) hreply], ?_,
    rfl⟩
  exact congrArg (fun p => launchAll p.1) hdispatch

/-- A first request that is rejected ends the run: because its options cannot be read,
or because threads run out. -/
theorem opening_of_rejected (hparse : Settings.parse arguments = .ok (t.settings, texts))
    (htarget : t.settings.pid.getD v.processes.self = t.target) (h : v.Serves t)
    (hsome : " ".intercalate texts ≠ "") {error : FaultError}
    (herror : (e.dispatch (" ".intercalate texts)).2 = .error error) :
    ∃ r, opening e v arguments lines = .error r ∧ r.exit = 1 ∧ r.report = none := by
  rw [Engine.dispatch_reply] at herror
  refine ⟨(({} : Result).print (banner t (" ".intercalate texts))).fail "fault injection failed"
    ((AttachError.delivery error).message :: (AttachError.delivery error).causes), ?_, rfl, ?_⟩
  · rw [opening_eq hparse htarget h, start_of_error h (by simpa using hsome) herror]
    rfl
  · rw [Result.print_eq]
    rfl

end CommandLine

/-! ## Standard input -/

section Lines

variable {line command : String}

/-- A line holds no command exactly if it has no words. -/
theorem commandOn?_eq_none_iff : commandOn? line = none ↔ words line = [] := by
  rw [← Text.trim_eq_empty_iff, commandOn?]
  simp

/-- The request on a line is that of the words of the line. -/
theorem parse_of_commandOn? (h : commandOn? line = some command) :
    Request.parse command = Request.ofWords (words line) := by
  rw [← trim_of_commandOn? h, Request.parse, Text.words_trim]

end Lines

/-! ## All routes together -/

/-- A request depends on the words of its text alone, and on every route to a host the
request is the one of the words that come along it.  On the command line these are the
words of each argument, one after the other, whatever blanks the arguments hold, and
what is carried out first, or ends the run, is their request; on standard input they
are the words of the line.  And the text under which a request is
recorded makes the same request again, in whatever pieces its words are given. -/
theorem delivered_by_words :
    (∀ text, Request.IsByWords text) ∧
    (∀ texts : List String,
      Request.parse (" ".intercalate texts) = Request.ofWords (texts.flatMap words)) ∧
    (∀ (e : Engine ε σ) (v : Surroundings) (t : Task) arguments texts lines,
      Settings.parse arguments = .ok (t.settings, texts) →
      t.settings.pid.getD v.processes.self = t.target → v.Serves t →
      (" ".intercalate texts = "" →
        ∃ s, opening e v arguments lines = .ok (t, s) ∧ s.engine = e ∧ s.commands = []) ∧
      (" ".intercalate texts ≠ "" → ∀ r, Request.ofWords (texts.flatMap words) = .ok r →
        (∀ o, (e.execute r).2 = .ok o →
          ∃ s, opening e v arguments lines = .ok (t, s) ∧ s.engine = launchAll (e.execute r).1 ∧
            s.commands = [" ".intercalate texts]) ∧
        (∀ error, (e.execute r).2 = .error error →
          ∃ res, opening e v arguments lines = .error res ∧ res.exit = 1 ∧ res.report = none)) ∧
      (" ".intercalate texts ≠ "" → ∀ c, Request.ofWords (texts.flatMap words) = .error c →
        ∃ r, opening e v arguments lines = .error r ∧ r.exit = 1 ∧ r.report = none)) ∧
    (∀ line, (commandOn? line = none ↔ words line = []) ∧
      ∀ command, commandOn? line = some command →
        Request.parse command = Request.ofWords (words line)) ∧
    (∀ (a : Allocator ε σ) (v : Surroundings) (t : Task) (s : Session ε σ) m s',
      s.step a v t m = some s' → s'.commands ≠ s.commands →
      ∃ command r, s'.commands = s.commands ++ [command] ∧ s'.engine = (s.engine.execute r).1 ∧
        ∀ texts : List String, texts.flatMap words = words command →
          Request.parse (" ".intercalate texts) = .ok r) := by
  refine ⟨Request.isByWords, Request.parse_intercalate, ?_,
    fun line => ⟨commandOn?_eq_none_iff, fun command => parse_of_commandOn?⟩, ?_⟩
  · intro e v t arguments texts lines hparse htarget h
    refine ⟨opening_of_empty hparse htarget h,
      fun hsome r hr => ⟨fun o => opening_of_request hparse htarget h hsome hr,
        fun error herror => ?_⟩, fun hsome c hc => ?_⟩
    · have hdispatch : (e.dispatch (" ".intercalate texts)).2 = .error error := by
        rw [Engine.dispatch_of_ok (by rw [Request.parse_intercalate, hr]), herror]
      exact opening_of_rejected hparse htarget h hsome hdispatch
    · have hdispatch : (e.dispatch (" ".intercalate texts)).2 = .error (.invalidOptions c) := by
        rw [Engine.dispatch_of_error (by rw [Request.parse_intercalate, hc])]
      exact opening_of_rejected hparse htarget h hsome hdispatch
  · intro a v t s m s' hstep hchanged
    rcases Session.records_step hstep with hsame | ⟨command, r, hcommands, hparse, hengine⟩
    · exact absurd hsame hchanged
    · refine ⟨command, r, hcommands, hengine, fun texts htexts => ?_⟩
      rw [Request.parse_intercalate, htexts]
      exact hparse

/-- A command in four arguments, one of them empty and two with blanks, and the same
command on a line and under its record. -/
theorem delivered_by_words_unevenly :
    let v : Surroundings := ⟨⟨7, fun _ => .present⟩, fun _ => Time.Moment.epoch, fun _ => none⟩
    let t : Task := ⟨{}, 7⟩
    let e : Engine (List JournalEntry) BudgetState :=
      (ResourceFaults.Session.onBudget ⟨none, 0⟩).engine
    let r : Request := .cpu { durationSecs := 5, threads := 2 }
    (∃ s, opening e v (["cpu", "", " -d\t5", "-t 2 "].map RawText.ofString) [] = .ok (t, s) ∧
      s.engine = launchAll (e.execute r).1 ∧ s.commands = ["cpu   -d\t5 -t 2 "]) ∧
    Request.parse (" ".intercalate ["cpu -d", "5 -t\n", "2"]) = .ok r ∧
    Request.parse "cpu\u00a0-d 5 -t 2" = .ok r := by
  intro v t e r
  have hr : Request.ofWords ["cpu", "-d", "5", "-t", "2"] = .ok r := by rfl
  have hfour : ["cpu", "", " -d\t5", "-t 2 "].flatMap words = ["cpu", "-d", "5", "-t", "2"] := by
    decide +kernel
  have hthree : ["cpu -d", "5 -t\n", "2"].flatMap words = ["cpu", "-d", "5", "-t", "2"] := by
    decide +kernel
  have hone : words " cpu\u00a0-d 5 -t 2" = ["cpu", "-d", "5", "-t", "2"] := by decide +kernel
  obtain ⟨-, hjoined, hopening, hlines, -⟩ :=
    delivered_by_words (ε := List JournalEntry) (σ := BudgetState)
  have hparse : Settings.parse (["cpu", "", " -d\t5", "-t 2 "].map RawText.ofString) =
      .ok (t.settings, ["cpu", "", " -d\t5", "-t 2 "]) := by rfl
  obtain ⟨-, hstart, -⟩ := hopening e v t _ _ [] hparse rfl ⟨rfl, rfl⟩
  have hline := (hlines " cpu\u00a0-d 5 -t 2").2 "cpu\u00a0-d 5 -t 2" (by decide +kernel)
  exact ⟨(hstart (by decide) r (by rw [hfour, hr])).1 _ rfl, by rw [hjoined, hthree, hr],
    by rw [hline, hone, hr]⟩

end Host

end ResourceFaults
