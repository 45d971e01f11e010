import Mathlib
import ResourceFaults.Host.Run
import ResourceFaults.Proofs.Engine.Runs
import ResourceFaults.Proofs.Host.Steps
import ResourceFaults.Proofs.Options.Values
import ResourceFaults.Proofs.Text.Tables

/-!
# The account of a host session

A session records the commands that it has carried out and prints a line for each
of them, and a message for each that it has rejected.  Part of this is done and part
is still to come, from the lines that the reader has not read yet.
`Session.account` is both parts together, and it is the same at every step of every
activity: what the reader takes from its lines it puts into the record
(`Session.account_of_readMoves`), and nobody else touches either.  What is still to
come depends on what the starts will meet, and only deliveries change that.

So at the end of a session, when the reader has finished, the record is what the
lines of standard input amounted to from the start.
-/

namespace ResourceFaults.Host

open Text (RawText)

variable {ε σ : Type}

/-! ## The commands on standard input -/

/-- The lines before the first that is not text. -/
def textLines (lines : List RawText) : List String :=
  ((lines.map RawText.text?).takeWhile Option.isSome).reduceOption

/-- The commands on the lines before the first that is not text. -/
def commandsOn (lines : List RawText) : List String :=
  (textLines lines).filterMap commandOn?

/-- The message for the first line that is not text, if there is one. -/
def brokenOn (lines : List RawText) : List String :=
  if lines.all fun line => line.text?.isSome then [] else [brokenLine]

@[simp] theorem commandsOn_nil : commandsOn [] = [] := rfl

@[simp] theorem brokenOn_nil : brokenOn [] = [] := rfl

section Lines

variable {line : RawText} {lines : List RawText} {text command : String}

theorem commandsOn_of_broken (h : line.text? = none) : commandsOn (line :: lines) = [] := by
  simp [commandsOn, textLines, h, List.reduceOption]

theorem commandsOn_of_blank (h : line.text? = some text) (hcommand : commandOn? text = none) :
    commandsOn (line :: lines) = commandsOn lines := by
  simp [commandsOn, textLines, h, hcommand, List.reduceOption_cons_of_some]

theorem commandsOn_of_command (h : line.text? = some text)
    (hcommand : commandOn? text = some command) :
    commandsOn (line :: lines) = command :: commandsOn lines := by
  simp [commandsOn, textLines, h, hcommand, List.reduceOption_cons_of_some]

theorem brokenOn_of_broken (h : line.text? = none) : brokenOn (line :: lines) = [brokenLine] := by
  simp [brokenOn, h]

theorem brokenOn_of_text (h : line.text? = some text) :
    brokenOn (line :: lines) = brokenOn lines := by
  simp [brokenOn, h]

theorem trim_of_commandOn? (h : commandOn? text = some command) : Text.trim text = command := by
  rw [commandOn?] at h
  by_cases hempty : (Text.trim text).isEmpty = true
  · simp [hempty] at h
  · simpa [hempty] using h

theorem isUnbroken_of_commandOn? (hunbroken : IsUnbroken text) (h : commandOn? text = some command) :
    IsUnbroken command := by
  have hsubset : Text.trimChars text.toList ⊆ text.toList := by
    intro c hc
    rw [Text.trimChars, List.mem_reverse] at hc
    have hc := (List.dropWhile_subset Text.isBlank) hc
    exact (List.dropWhile_subset Text.isBlank) (List.mem_reverse.1 hc)
  rw [← trim_of_commandOn? h, IsUnbroken, Text.trim, String.toList_ofList]
  exact fun hmem => hunbroken (hsubset hmem)

/-- A command on a line of standard input is a text of one line. -/
theorem isUnbroken_of_mem_commandsOn {stays : Bool} {input : RawText}
    (h : command ∈ commandsOn (inputLines stays input)) : IsUnbroken command := by
  obtain ⟨text, htext, hcommand⟩ := List.mem_filterMap.1 h
  refine isUnbroken_of_commandOn? ?_ hcommand
  rw [textLines, List.reduceOption_mem_iff] at htext
  obtain ⟨line, hline, hchars⟩ :=
    List.mem_map.1 ((List.takeWhile_prefix _).subset htext)
  obtain ⟨cs, hcs, rfl⟩ := Option.map_eq_some_iff.1 hchars
  rw [Text.RawText.chars?_eq_some_iff] at hcs
  have hfeed : Text.RawChar.char '\n' ∉ line := by
    rw [inputLines] at hline
    split at hline
    · exact Text.feed_not_mem_of_mem_lines (List.mem_of_mem_dropLast hline)
    · exact Text.feed_not_mem_of_mem_lines hline
  rw [IsUnbroken, String.toList_ofList]
  intro hmem
  exact hfeed (hcs ▸ List.mem_map_of_mem hmem)

end Lines

/-! ## The account -/

/-- The commands of a session, with the lines that are printed for them. -/
@[ext] structure Account where
  commands : List String
  injected : List String
  errors : List String

namespace Session

variable {a : Allocator ε σ} {v : Surroundings} {t : Task} {s s' : Session ε σ}

/-- The lines that are still to be read. -/
def coming (s : Session ε σ) : List RawText :=
  if s.reading then s.lines else []

/-- What a session has recorded and printed, and what answers and a broken line will
add. -/
def accountWith (s : Session ε σ) (as : List Answer) (broken : List String) : Account where
  commands := s.commands ++ carriedOut as
  injected := Host.injected s.output ++ tellings as
  errors := complained s.output ++ (complaints as ++ broken)

/-- What a session has recorded and printed, and what the lines that are still to be
read will add. -/
def account (s : Session ε σ) : Account :=
  s.accountWith (answers s.engine.shortages (commandsOn s.coming)) (brokenOn s.coming)

theorem account_of_reading (h : s.reading = true) :
    s.account =
      s.accountWith (answers s.engine.shortages (commandsOn s.lines)) (brokenOn s.lines) := by
  rw [account, coming, h, if_pos rfl]

theorem account_of_finished (h : s.reading = false) :
    s.account = ⟨s.commands, Host.injected s.output, complained s.output⟩ := by
  rw [account, coming, h, if_neg Bool.false_ne_true, commandsOn_nil, brokenOn_nil]
  simp [accountWith, answers, carriedOut, tellings, complaints]

/-- The status loop neither reads nor delivers, and what it prints are no lines
about commands. -/
theorem account_of_loopMoves (h : s.LoopMoves v t s') : s'.account = s.account := by
  cases h with
  | record hstage =>
    refine Account.ext rfl ?_ ?_
    · show Host.injected (s.output ++ _) ++ _ = Host.injected s.output ++ _
      rw [injected_append, injected, injected, printed_map_out, injectLines_statusLines,
        List.append_nil]
      rfl
    · show complained (s.output ++ _) ++ _ = complained s.output ++ _
      rw [complained_append, complained_map_out, List.append_nil]
      rfl
  | askRunning | askWorkers | askReader | await | wake => rfl

/-- A command that is carried out moves from what is to come to what is done. -/
theorem accountWith_accepted {command : String} {o : Outcome} {as : List Answer}
    {broken : List String} :
    (s.accepted command o).accountWith as broken =
      s.accountWith (⟨command, .ok o⟩ :: as) broken := by
  have hline : Host.injected [.out (injectLine o)] = [injectLine o] := by
    rw [Host.injected]
    show [injectLine o].flatMap injectLines = [injectLine o]
    rw [List.flatMap_singleton, injectLines_injectLine]
  refine Account.ext ?_ ?_ ?_
  · simp [accountWith, accepted]
  · simp [accountWith, accepted, hline]
  · simp [accountWith, accepted]

/-- So does a command that is rejected, with its message. -/
theorem accountWith_rejected {command : String} {error : FaultError} {as : List Answer}
    {broken : List String} {rest : List RawText} :
    accountWith
        { s.rejected command with lines := rest, output := s.output ++ [.err (errorLine error)] }
        as broken =
      s.accountWith (⟨command, .error error⟩ :: as) broken := by
  refine Account.ext ?_ ?_ ?_
  · simp [accountWith, rejected]
  · simp [accountWith]
  · simp [accountWith]

/-- The reader puts into the record what it takes from its lines. -/
theorem account_of_readMoves (hreading : s.reading = true) (h : s.ReadMoves s') :
    s'.account = s.account := by
  rw [account_of_reading hreading]
  cases h with
  | finish hlines =>
    rw [hlines]
    rfl
  | broken hlines htext =>
    rw [hlines, commandsOn_of_broken htext, brokenOn_of_broken htext,
      account_of_reading (by exact hreading)]
    refine Account.ext rfl ?_ ?_ <;> simp [accountWith, complaints, tellings, answers]
  | blank hlines htext hcommand =>
    rw [hlines, commandsOn_of_blank htext hcommand, brokenOn_of_text htext,
      account_of_reading (by exact hreading)]
    rfl
  | @accept line rest text command o hlines htext hcommand hreply =>
    have hshortages : (s.accepted command o).engine.shortages =
        Request.laterThan s.engine.shortages command := Engine.dispatch_shortages ..
    rw [hlines, commandsOn_of_command htext hcommand, brokenOn_of_text htext, answers, hreply,
      ← accountWith_accepted, ← hshortages, account_of_reading (by exact hreading)]
    rfl
  | @reject line rest text command error hlines htext hcommand hreply =>
    have hshortages : (s.rejected command).engine.shortages =
        Request.laterThan s.engine.shortages command := Engine.dispatch_shortages ..
    rw [hlines, commandsOn_of_command htext hcommand, brokenOn_of_text htext, answers, hreply,
      ← accountWith_rejected, ← hshortages, account_of_reading (by exact hreading)]

/-- Every step but a signal from outside keeps the account. -/
theorem account_of_step (h : v.Serves t) {m : SessionMove} (hquiet : m.isSignal = false)
    (hstep : s.step a v t m = some s') : s'.account = s.account := by
  cases m with
  | loop => exact account_of_loopMoves (loopMoves_of_loopStep hstep)
  | read =>
    obtain ⟨hreading, -, hmoves⟩ := readMoves_of_readStep h hstep
    exact account_of_readMoves hreading hmoves
  | signal n => cases hquiet
  | engine tick =>
    obtain ⟨engine, htick, rfl⟩ := Option.map_eq_some_iff.1 hstep
    have hshortages : engine.shortages = s.engine.shortages := Engine.shortages_of_tick htick
    rw [account, account, hshortages]
    rfl

theorem account_of_run (h : v.Serves t) {moves : List SessionMove} (hquiet : Undisturbed moves)
    (hrun : s.run a v t moves = some s') : s'.account = s.account := by
  refine run_keeps (P := fun s' => s'.account = s.account) ?_ hquiet hrun rfl
  intro s₁ m s₂ hm hsame hstep
  exact (account_of_step h hm hstep).trans hsame

/-! ## The end of the loop -/

/-- A session that nobody has stopped ends its loop only once the reader has
finished. -/
structure IsSteady (s : Session ε σ) : Prop where
  running : s.running = true
  finished_of_over : s.stage = .over → s.reading = false

theorem IsSteady.step (hsteady : s.IsSteady) {m : SessionMove}
    (hquiet : m.isSignal = false) (hstep : s.step a v t m = some s') : s'.IsSteady := by
  rcases hsteady with ⟨hrunning, hover⟩
  cases m with
  | loop =>
    cases loopMoves_of_loopStep hstep with
    | record hstage => exact ⟨hrunning, fun h => by cases h⟩
    | askRunning hstage => exact ⟨hrunning, fun h => by simp [hrunning] at h⟩
    | @askWorkers next hstage =>
      refine ⟨hrunning, fun h => ?_⟩
      simp only at h
      split at h
      · cases h
      · exact absurd h (whenNotOver_ne_over t _ next)
    | @askReader next hstage =>
      refine ⟨hrunning, fun h => ?_⟩
      cases hreading : s.reading with
      | false => rfl
      | true =>
        simp only [hreading, if_true] at h
        exact absurd h (whenNotOver_ne_over t _ next)
    | await hstage =>
      refine ⟨hrunning, fun h => ?_⟩
      simp only at h
      split at h <;> cases h
    | wake hstage => exact ⟨hrunning, fun h => by cases h⟩
  | read =>
    obtain ⟨hreading, -, hwithin⟩ := within_readStep hstep
    have hnot : s.stage ≠ .over := fun h => by simp [hover h] at hreading
    exact ⟨hwithin.running_eq.trans hrunning, fun h => absurd (hwithin.stage_eq ▸ h) hnot⟩
  | signal n => cases hquiet
  | engine tick =>
    obtain ⟨engine, -, rfl⟩ := Option.map_eq_some_iff.1 hstep
    exact ⟨hrunning, hover⟩

theorem IsSteady.run (hsteady : s.IsSteady) {moves : List SessionMove}
    (hquiet : Undisturbed moves) (hrun : s.run a v t moves = some s') : s'.IsSteady :=
  run_keeps (fun _ _ _ hm hsteady hstep => hsteady.step hm hstep) hquiet hrun hsteady

end Session

end ResourceFaults.Host
