import Mathlib
import ResourceFaults.Proofs.Options.Limit
import ResourceFaults.Proofs.Request.Words
import ResourceFaults.Proofs.Session.Berths

/-!
# Block sizes in a session

However a request for memory faults reaches an engine, the blocks that its worker asks
for are no larger than 2047 MiB.  `Session.LimitsBlocks` says this of the outcome of the
request and of every block that the worker asks for afterwards, whatever else happens in
the session.

A larger block size is no different from 2047 MiB.  `SessionStep.Limits` relates a step
to one whose block size is brought within the limit, in the options of a request or in
the text that is read as one, and two sessions that differ in such steps only take the
same course.
-/

namespace ResourceFaults

open Text (RawText)
open FaultOption (Item Opening Form IsCommandLine settingsOf)

variable {ε σ : Type}

/-- Whether a block is as large as some options say, within the limit. -/
def Options.HasBlockSize (o : Options) (bytes : UInt64) : Prop :=
  bytes.toNat = min o.blockMib.toNat 2047 * 2 ^ 20 ∧ bytes.toNat < 2 ^ 31

theorem Options.hasBlockSize_plan (o : Options) : o.HasBlockSize o.memoryPlan.blockBytes :=
  ⟨o.toNat_blockBytes, o.blockBytes_lt⟩

/-! ## Requests -/

namespace Request

/-- A request with the size of a block brought within the limit. -/
def limited : Request → Request
  | cpu o => cpu { o with blockMib := min o.blockMib 2047 }
  | mem o => mem { o with blockMib := min o.blockMib 2047 }
  | stop => stop
  | unrecognized command => unrecognized command

theorem execute_limited (e : Engine ε σ) (r : Request) : e.execute r.limited = e.execute r := by
  cases r with
  | cpu o | stop | unrecognized command => rfl
  | mem o =>
    have hplan := o.memoryPlan_clamped
    have hlimited : (mem o).limited = mem o.clamped := rfl
    rw [hlimited, Engine.execute, Engine.execute, hplan]
    rfl

/-! ## Texts -/

/-- Where the size of a block is written in a text: the command word, the arguments on
both sides, and how the option is written. -/
structure SizePlace where
  command : String
  before : List RawText
  after : List RawText
  opening : Opening
  form : Form

/-- Whether a text has the size of a block in some place, where `v` is the text of its
value and stands for `n`.  The options must not have ended before it. -/
structure SizePlace.Holds (p : SizePlace) (text : String) (v : List Char) (n : Nat) : Prop where
  words_eq : (Text.words text).map RawText.ofString = RawText.ofString p.command ::
    (p.before ++ ((Item.valued p.opening p.form .memory v n).tokens ++ p.after))
  proper : (Item.valued p.opening p.form .memory v n).IsProper
  not_ended : [.char '-', .char '-'] ∉ p.before

/-- Whether a text is another with the size of a block, wherever and however it is
written, brought within the limit. -/
def Limits (text text' : String) : Prop :=
  ∃ (p : SizePlace) (v v' : List Char) (n : Nat),
    p.Holds text v n ∧ p.Holds text' v' (min n 2047)

variable {text text' : String}

theorem ofString_injective : Function.Injective RawText.ofString := by
  intro s t h
  have htext := congrArg RawText.text? h
  rw [RawText.text?_ofString, RawText.text?_ofString] at htext
  exact Option.some.inj htext

/-- The words after the command word matter only as options. -/
theorem ofWords_congr {command : String} {ws ws' : List String}
    (h : Options.parse (ws.map RawText.ofString) = Options.parse (ws'.map RawText.ofString)) :
    ofWords (command :: ws) = ofWords (command :: ws') := by
  rw [ofWords, ofWords, h]

theorem SizePlace.Holds.parse_eq {p : SizePlace} {v : List Char} {n : Nat}
    (h : p.Holds text v n) :
    ∃ ws, parse text = ofWords (p.command :: ws) ∧ ws.map RawText.ofString =
      p.before ++ ((Item.valued p.opening p.form .memory v n).tokens ++ p.after) := by
  obtain ⟨command, ws, hwords, hcommand, hrest⟩ := List.map_eq_cons_iff.1 h.words_eq
  rw [ofString_injective hcommand] at hwords
  exact ⟨ws, by rw [parse, hwords], hrest⟩

theorem parse_limits (h : Limits text text') : parse text = parse text' := by
  obtain ⟨p, v, v', n, h, h'⟩ := h
  obtain ⟨ws, hparse, hws⟩ := h.parse_eq
  obtain ⟨ws', hparse', hws'⟩ := h'.parse_eq
  rw [hparse, hparse']
  apply ofWords_congr
  rw [hws, hws']
  exact Options.parse_limited h.proper h'.proper (by rw [min_assoc, min_self]) h.not_ended

/-- The block size of a request for memory faults is that of its text. -/
theorem blockMib_of_parse {o : Options} (h : parse text = .ok (.mem o)) :
    ∃ items arguments,
      (Text.words text).map RawText.ofString = RawText.ofString "mem" :: arguments ∧
      IsCommandLine items arguments ∧
      o.blockMib.toNat = min (((settingsOf items).lookup .memory).getD 1) 2047 := by
  rw [parse] at h
  rcases ofWords_cases (Text.words text) with
    ⟨rest, hws⟩ | ⟨rest, hws⟩ | ⟨rest, hws⟩ | ⟨-, -, -, hws⟩
  · rw [hws, ofWords_cpu, Arguments.map_eq_ok_iff] at h
    obtain ⟨_, -, h⟩ := h
    cases h
  · rw [hws, ofWords_mem, Arguments.map_eq_ok_iff] at h
    obtain ⟨made, hparse, hmade⟩ := h
    cases hmade
    obtain ⟨items, hitems, hsize⟩ := Options.exists_items_of_parse hparse
    exact ⟨items, _, by rw [hws, List.map_cons], hitems, hsize⟩
  · rw [hws, ofWords_stop] at h
    cases h
  · rw [hws] at h
    cases h

end Request

/-! ## Steps of a session -/

/-- Whether a step is another with the size of a block brought within the limit. -/
inductive SessionStep.Limits : SessionStep σ → SessionStep σ → Prop
  | same (step : SessionStep σ) : Limits step step
  | execute (handle : Nat) (r : Request) : Limits (.execute handle r) (.execute handle r.limited)
  | dispatch (handle : Nat) {text text' : String} (h : Request.Limits text text') :
      Limits (.dispatch handle text) (.dispatch handle text')
  | attach (pid : UInt32) {text text' : String} (h : Request.Limits text text') :
      Limits (.attach pid text) (.attach pid text')

/-- Whether an event is another with the size of a block brought within the limit. -/
inductive SessionEvent.Limits : SessionEvent σ → SessionEvent σ → Prop
  | step {step step' : SessionStep σ} (h : step.Limits step') : Limits (.step step) (.step step')
  | tick (t : Tick) : Limits (.tick t) (.tick t)

namespace Session

variable {a : Allocator ε σ} {processes : ProcessTable}

theorem perform_limits (s : Session ε σ) {step step' : SessionStep σ} (h : step.Limits step') :
    s.perform processes step = s.perform processes step' := by
  cases h with
  | same => rfl
  | execute handle r => rw [perform, perform, Request.execute_limited]
  | dispatch handle h => rw [perform, perform, Engine.dispatch, Engine.dispatch,
      Request.parse_limits h]
  | attach pid h => rw [perform, perform, Engine.attach, Engine.attach, Engine.dispatch,
      Engine.dispatch, Request.parse_limits h]

theorem play_limits (s : Session ε σ) {events events' : List (SessionEvent σ)}
    (h : List.Forall₂ SessionEvent.Limits events events') :
    s.play a processes events = s.play a processes events' := by
  induction h generalizing s with
  | nil => rfl
  | cons hevent _ ih =>
    cases hevent with
    | step hstep =>
      rw [play, play, perform_limits s hstep]
      exact ih _
    | tick t =>
      rw [play, play]
      cases s.engine.tick a t with
      | none => rfl
      | some engine => exact ih _

theorem run_limits (patience : σ → Nat) (s : Session ε σ) {steps steps' : List (SessionStep σ)}
    (h : List.Forall₂ SessionStep.Limits steps steps') :
    s.run a processes patience steps = s.run a processes patience steps' := by
  induction h generalizing s with
  | nil => rfl
  | cons hstep _ ih =>
    rw [run, run, step, step, perform_limits s hstep]
    dsimp only
    rw [ih]

end Session

/-! ## Blocks that a worker asks for -/

/-- The same allocator, whose state notes the size of each block that it is asked for. -/
def Allocator.noting (a : Allocator ε σ) : Allocator ε (σ × List UInt64) where
  request t environment state bytes :=
    let reply := a.request t environment state.1 bytes
    { granted := reply.granted
      stops := reply.stops
      environment := reply.environment
      state := (reply.state, state.2 ++ [bytes]) }

/-- Whether a worker follows a plan, and has asked for blocks of the size of the plan
only. -/
def Worker.Notes (plan : MemoryPlan) : Worker (σ × List UInt64) → Prop
  | .cpu _ => False
  | .memory w => w.plan = plan ∧ ∀ bytes ∈ w.allocator.2, bytes = plan.blockBytes

theorem Worker.Moves.notes {a : Allocator ε σ} {s s' : Scene ε} {plan : MemoryPlan}
    {w w' : Worker (σ × List UInt64)} (hmoves : w.Moves a.noting s s' w')
    (h : w.Notes plan) : w'.Notes plan := by
  cases hmoves with
  | cpu _ => exact h.elim
  | memory hmoves =>
    cases hmoves with
    | request hstage reply hreply =>
      subst hreply
      refine ⟨h.1, fun bytes hbytes => ?_⟩
      rcases List.mem_append.1 hbytes with hbytes | hbytes
      · exact h.2 bytes hbytes
      · rw [List.mem_singleton.1 hbytes, h.1]
    | _ => exact h

namespace Session

variable {a : Allocator ε σ} {processes : ProcessTable}

/-- How a session limits the size of blocks. -/
structure LimitsBlocks (a : Allocator ε σ) (processes : ProcessTable) : Prop where
  /-- A request for memory faults is answered with a plan of the limited size, by
  whichever step it comes, if there is a thread for its worker. -/
  outcome : ∀ (s : Session ε σ) (step : SessionStep σ) (o : Options),
    s.request? processes step = some (.mem o) →
      (s.engine.shortage? 1 = none →
        (s.perform processes step).2 = .outcome (.memStarted o.memoryPlan o.duration)) ∧
        o.HasBlockSize o.memoryPlan.blockBytes
  /-- No step is answered with a plan otherwise. -/
  outcome_of_request : ∀ (s : Session ε σ) (step : SessionStep σ) (plan : MemoryPlan)
    (duration : Nanos), (s.perform processes step).2 = .outcome (.memStarted plan duration) →
      ∃ o, s.request? processes step = some (.mem o) ∧ plan = o.memoryPlan
  /-- The options of a text have the block size that is written in it, within the limit. -/
  parsed : ∀ (text : String) (o : Options), Request.parse text = .ok (.mem o) →
    ∃ items arguments,
      (Text.words text).map RawText.ofString = RawText.ofString "mem" :: arguments ∧
      IsCommandLine items arguments ∧
      o.blockMib.toNat = min (((settingsOf items).lookup .memory).getD 1) 2047
  /-- The worker of a request for memory faults asks for blocks of the limited size only,
  whatever else happens in the session. -/
  requested : ∀ (s s' : Session ε (σ × List UInt64)) (step : SessionStep (σ × List UInt64))
    (o : Options) (events : List (SessionEvent (σ × List UInt64))),
    s.request? processes step = some (.mem o) → s.engine.template.2 = [] →
    (s.perform processes step).1.play a.noting processes events = some s' →
      ∃ w, s'.engine.at? ((s.perform processes step).1.track a.noting processes
          (.waiting s.engine.launching.length) events) = some (.memory w) ∧
        w.plan = o.memoryPlan ∧ ∀ bytes ∈ w.allocator.2, o.HasBlockSize bytes
  /-- A step with its block size brought within the limit is the same step. -/
  perform_eq : ∀ (s : Session ε σ) (step step' : SessionStep σ), step.Limits step' →
    s.perform processes step = s.perform processes step'
  play_eq : ∀ (s : Session ε σ) (events events' : List (SessionEvent σ)),
    List.Forall₂ SessionEvent.Limits events events' →
      s.play a processes events = s.play a processes events'
  run_eq : ∀ (patience : σ → Nat) (s : Session ε σ) (steps steps' : List (SessionStep σ)),
    List.Forall₂ SessionStep.Limits steps steps' →
      s.run a processes patience steps = s.run a processes patience steps'

/-- The worker of a request for memory faults waits behind all others, with a thread or
without one. -/
theorem at?_of_mem {s : Session ε σ} {step : SessionStep σ} {o : Options}
    (h : s.request? processes step = some (.mem o)) :
    ∃ w : MemoryWorker σ, w.plan = o.memoryPlan ∧ w.allocator = s.engine.template ∧
      (s.perform processes step).1.engine.at? (.waiting s.engine.launching.length) =
        some (.memory w) := by
  rw [(perform_of_request h).1, Engine.execute_eq, Engine.deed?]
  cases s.engine.shortage? 1 with
  | none => exact ⟨_, rfl, rfl, List.getElem?_concat_length⟩
  | some shortage => exact ⟨_, rfl, rfl, List.getElem?_concat_length⟩

/-- No block is larger than 2047 MiB, and a larger block size is no different from
2047 MiB. -/
theorem limitsBlocks (a : Allocator ε σ) (processes : ProcessTable) :
    LimitsBlocks a processes where
  outcome s step o h := by
    refine ⟨fun hthread => ((perform_of_request h).2 _).2 ?_, o.hasBlockSize_plan⟩
    rw [Engine.execute, Engine.start_reply, List.length_singleton, hthread]
    rfl
  outcome_of_request s step plan duration h := by
    cases hrequest : s.request? processes step with
    | none => exact absurd h ((perform_of_no_request hrequest).2 _)
    | some r =>
      have hanswer := ((perform_of_request hrequest).2 _).1 h
      rw [Engine.execute_reply] at hanswer
      have houtcome := Request.outcome_of_reply hanswer
      cases r with
      | mem o =>
        obtain ⟨rfl, -⟩ := Outcome.memStarted.inj houtcome
        exact ⟨o, rfl, rfl⟩
      | cpu o | stop | unrecognized command => cases houtcome
  parsed text o h := Request.blockMib_of_parse h
  requested s s' step o events hrequest htemplate hplay := by
    obtain ⟨launched, hplan, hallocator, hat⟩ := at?_of_mem hrequest
    have hstart : (Worker.memory launched).Notes o.memoryPlan := by
      refine ⟨hplan, fun bytes hbytes => ?_⟩
      rw [hallocator, htemplate] at hbytes
      cases hbytes
    obtain ⟨w, hw, hnotes⟩ := play_at (P := Worker.Notes o.memoryPlan)
      (fun _ _ _ _ hmoves => hmoves.notes) hplay hat hstart
    cases w with
    | cpu w => exact hnotes.elim
    | memory w =>
      refine ⟨w, hw, hnotes.1, fun bytes hbytes => ?_⟩
      rw [hnotes.2 bytes hbytes]
      exact o.hasBlockSize_plan
  perform_eq s _ _ h := perform_limits s h
  play_eq s _ _ h := play_limits s h
  run_eq patience s _ _ h := run_limits patience s h

/-- A session whose workers note the blocks that they ask for, and get them. -/
def noted : Session (List JournalEntry) (BudgetState × List UInt64) where
  engine := { scene := { environment := [] }, template := ({ budget := ⟨none, 0⟩ }, []) }

/-- Blocks as large as they may be, which are kept. -/
def largest : Options := { blockMib := 2047, keep := true }

/-- A worker for which 4000 MiB were written has asked for one block, of 2047 MiB, and the
session is as if these had been written. -/
theorem limitsBlocks_of_oversized :
    let processes : ProcessTable := ⟨7, fun _ => .present⟩
    let started := (noted.perform processes (.dispatch 0 "mem -km 4000")).1
    ∃ s' w bytes, started.play Allocator.budgeted.noting processes
        (.tick (.launch 0) :: List.replicate 3 (.tick (.work 0))) = some s' ∧
      s'.engine.at? (.entered 0) = some (.memory w) ∧ w.allocator.2 = [bytes] ∧
      bytes.toNat = 2047 * 2 ^ 20 ∧
      started = (noted.perform processes (.dispatch 0 "mem -km 2047")).1 := by
  intro processes started
  have hlimits : Request.Limits "mem -km 4000" "mem -km 2047" := by
    have hlarge : FaultOption.memory.Reads ['4', '0', '0', '0'] 4000 :=
      ⟨.inl ⟨['4', '0', '0', '0'], .inl rfl, by simp [Decimal.AreDigits], rfl⟩, by decide⟩
    have hlimit : FaultOption.memory.Reads ['2', '0', '4', '7'] 2047 :=
      ⟨.inl ⟨['2', '0', '4', '7'], .inl rfl, by simp [Decimal.AreDigits], rfl⟩, by decide⟩
    refine ⟨⟨"mem", [], [], .flagged, .apart⟩, ['4', '0', '0', '0'], ['2', '0', '4', '7'], 4000,
      ⟨by decide +kernel, ⟨hlarge, by simp, by simp⟩, by simp⟩,
      ⟨by decide +kernel, ⟨hlimit, by simp, by simp⟩, by simp⟩⟩
  have hparse : Request.parse "mem -km 4000" = .ok (.mem largest) := by
    have hwords : Text.words "mem -km 4000" = ["mem", "-km", "4000"] := by decide +kernel
    rw [Request.parse, hwords]
    rfl
  have hstarted : started = { noted with engine := (noted.engine.execute (.mem largest)).1 } := by
    have hperform := @perform_dispatch _ _ processes noted 0 "mem -km 4000" Nat.zero_lt_one
    rw [Engine.dispatch_of_ok hparse] at hperform
    exact congrArg Prod.fst hperform
  have hsame : started = (noted.perform processes (.dispatch 0 "mem -km 2047")).1 :=
    congrArg Prod.fst ((limitsBlocks Allocator.budgeted.noting processes).perform_eq noted _ _
      (.dispatch 0 hlimits))
  rw [← hsame, hstarted]
  exact ⟨_, _, _, rfl, rfl, rfl, largest.hasBlockSize_plan.1, rfl⟩

end Session

end ResourceFaults
