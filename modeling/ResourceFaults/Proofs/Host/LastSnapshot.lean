import Mathlib
import ResourceFaults.Proofs.Host.Ending

/-!
# What the last snapshot misses

The totals of a report are those of the last snapshot.  The loop takes a snapshot first
and asks whether the session is over after that, so a worker can record something and
end in between.

* `Worker.adds` is what the next step of a worker adds to the totals, and
  `Session.added` sums it up over a run.  `Session.totals_of_run` says that nothing else
  changes the totals.
* `Session.exists_last_record` cuts a run at its last snapshot.
* `Session.reported_of_run` puts these together.  What the report is short of is what
  the workers have recorded since the last snapshot.  That is nothing where the snapshot
  itself shows that no worker is active and the reader has finished, and so it is where
  the loop has taken the snapshot because its wait has found the session over.
* `Session.report_misses_block` is a run in which it is something: the session has no
  worker left when it ends, and the block that its worker got is in no total.
-/

namespace ResourceFaults

variable {ε σ : Type} {a : Allocator ε σ}

/-! ## Totals -/

/-- The totals that a report shows. -/
@[ext]
structure Totals where
  cpuIterations : UInt64 := 0
  allocAttempts : UInt64 := 0
  allocSuccesses : UInt64 := 0
  allocFailures : UInt64 := 0
  deriving DecidableEq

namespace Totals

instance : Zero Totals := ⟨{}⟩

instance : Add Totals where
  add x y :=
    { cpuIterations := x.cpuIterations + y.cpuIterations
      allocAttempts := x.allocAttempts + y.allocAttempts
      allocSuccesses := x.allocSuccesses + y.allocSuccesses
      allocFailures := x.allocFailures + y.allocFailures }

variable (x y z : Totals)

theorem zero_def : (0 : Totals) = {} := rfl

theorem add_def : x + y =
    { cpuIterations := x.cpuIterations + y.cpuIterations
      allocAttempts := x.allocAttempts + y.allocAttempts
      allocSuccesses := x.allocSuccesses + y.allocSuccesses
      allocFailures := x.allocFailures + y.allocFailures } := rfl

theorem add_zero : x + 0 = x := by
  simp [zero_def, add_def]

theorem add_assoc : x + y + z = x + (y + z) := by
  simp only [add_def, UInt64.add_assoc]

theorem eq_add_iff : x = x + y ↔ y = 0 := by
  simp [zero_def, add_def, Totals.ext_iff, eq_comm (a := x.cpuIterations),
    eq_comm (a := x.allocAttempts), eq_comm (a := x.allocSuccesses),
    eq_comm (a := x.allocFailures)]

end Totals

/-- The counters that the totals of a report come from. -/
def Telemetry.totals (t : Telemetry) : Totals :=
  ⟨t.cpuIterations, t.allocAttempts, t.allocSuccesses, t.allocFailures⟩

/-- The totals in the statistics of a report. -/
def Statistics.totals (s : Statistics) : Totals :=
  ⟨s.cpuIterations, s.allocAttempts, s.allocSuccesses, s.allocFailures⟩

theorem Statistics.totals_ofSnapshots (snapshots : List Snapshot) :
    (ofSnapshots snapshots).totals = ((snapshots.map Snapshot.telemetry).getLastD {}).totals := rfl

/-! ## What workers add -/

/-- What the next step of a worker adds to the totals. -/
def Worker.adds : Worker σ → Totals
  | .cpu w =>
    match w.stage with
    | .publishing | .closing => { cpuIterations := w.pending }
    | _ => 0
  | .memory w =>
    match w.stage with
    | .attempting => { allocAttempts := 1 }
    | .granted => { allocSuccesses := 1 }
    | .refused => { allocFailures := 1 }
    | _ => 0

theorem Worker.Moves.totals_eq {s s' : Scene ε} {w w' : Worker σ} (h : w.Moves a s s' w') :
    s'.telemetry.totals = s.telemetry.totals + w.adds := by
  have hsame : s.telemetry.totals = s.telemetry.totals + 0 := (Totals.add_zero _).symm
  cases h with
  | cpu h =>
    cases h with
    | goOn hstage | dismiss hstage | work hstage =>
      simpa only [adds, hstage] using hsame
    | publish hstage | announce hstage | close hstage | leave hstage =>
      simp [adds, hstage, Scene.record, Scene.leave, Telemetry.record, Telemetry.leave,
        Telemetry.totals, Totals.add_def, Totals.zero_def]
  | memory h =>
    cases h with
    | dismiss hstage | goOn hstage | idle hstage | request hstage | pause hstage
    | wake _ hstage => simpa only [adds, hstage] using hsame
    | attempt hstage | grant hstage | retain hstage | refuse hstage | release hstage
    | leave hstage =>
      simp [adds, hstage, Scene.record, Scene.leave, Telemetry.record, Telemetry.leave,
        Telemetry.totals, Totals.add_def, Totals.zero_def]

/-- A worker that has ended adds nothing. -/
theorem Worker.adds_of_isGone {w : Worker σ} (h : w.isGone = true) : w.adds = 0 := by
  cases w with
  | cpu w =>
    have hstage : w.stage = .gone := by simpa [isGone] using h
    rw [adds, hstage]
  | memory w =>
    have hstage : w.stage = .gone := by simpa [isGone] using h
    rw [adds, hstage]

namespace Host.Session

open Text (RawText)

variable {v : Surroundings} {t : Task} {s s' : Session ε σ}

/-- What a step adds to the totals. -/
def adds (s : Session ε σ) : SessionMove → Totals
  | .engine (.work i) => (s.engine.workers[i]?.map Worker.adds).getD 0
  | _ => 0

/-- What the workers add to the totals in a run. -/
def added (a : Allocator ε σ) (v : Surroundings) (t : Task) :
    Session ε σ → List SessionMove → Totals
  | _, [] => 0
  | s, m :: ms =>
    s.adds m +
      match s.step a v t m with
      | none => 0
      | some s => added a v t s ms

theorem added_cons {m : SessionMove} {ms : List SessionMove} (hstep : s.step a v t m = some s') :
    s.added a v t (m :: ms) = s.adds m + s'.added a v t ms := by
  rw [added, hstep]

theorem totals_of_step {m : SessionMove} (hquiet : m.isSignal = false)
    (hstep : s.step a v t m = some s') :
    s'.engine.scene.telemetry.totals = s.engine.scene.telemetry.totals + s.adds m := by
  have hsame : s.engine.scene.telemetry.totals = s.engine.scene.telemetry.totals + 0 :=
    (Totals.add_zero _).symm
  cases m with
  | loop =>
    cases loopMoves_of_loopStep hstep with
    | record | askRunning | askWorkers | askReader | await | wake => exact hsame
  | read =>
    obtain ⟨-, -, hwithin⟩ := within_readStep hstep
    rcases hwithin.engine_eq with hengine | ⟨-, r, hengine⟩
    · rw [hengine]
      exact hsame
    · rw [hengine, Engine.execute_telemetry]
      exact hsame
  | signal n => cases hquiet
  | engine tick =>
    obtain ⟨engine, htick, rfl⟩ := Option.map_eq_some_iff.1 hstep
    cases tick with
    | launch i =>
      obtain ⟨w, -, rfl⟩ := Engine.launch?_eq_some_iff.1 htick
      show (s.engine.scene.telemetry.enter w.kind).totals = _
      cases w.kind <;> exact hsame
    | work i =>
      obtain ⟨w, scene, w', hw, hmoves, rfl⟩ := Engine.work?_eq_some_iff.1 htick
      rw [adds, hw]
      exact hmoves.totals_eq
    | pass time =>
      obtain rfl : s.engine.pass time = engine := by simpa [Engine.tick] using htick
      exact hsame

/-- Only the workers change the totals. -/
theorem totals_of_run {moves : List SessionMove} (hquiet : Undisturbed moves)
    (hrun : s.run a v t moves = some s') :
    s'.engine.scene.telemetry.totals =
      s.engine.scene.telemetry.totals + s.added a v t moves := by
  induction moves generalizing s with
  | nil =>
    obtain rfl : s = s' := by simpa [run] using hrun
    exact (Totals.add_zero _).symm
  | cons m ms ih =>
    obtain ⟨s₁, hstep, hrest⟩ := run_cons_eq_some_iff.1 hrun
    rcases List.forall_mem_cons.1 hquiet with ⟨hm, hms⟩
    rw [ih hms hrest, totals_of_step hm hstep, added_cons hstep, Totals.add_assoc]

/-- Where all workers have ended and the reader has finished, nothing is added any more. -/
theorem added_of_deserted {moves : List SessionMove} (hquiet : Undisturbed moves)
    (hrun : s.run a v t moves = some s') (h : s.reading = false ∧ s.engine.IsDeserted) :
    s.added a v t moves = 0 := by
  induction moves generalizing s with
  | nil => rfl
  | cons m ms ih =>
    obtain ⟨s₁, hstep, hrest⟩ := run_cons_eq_some_iff.1 hrun
    rcases List.forall_mem_cons.1 hquiet with ⟨hm, hms⟩
    have hnone : s.adds m = 0 := by
      unfold adds
      split
      · rename_i i
        cases hw : s.engine.workers[i]? with
        | none => rfl
        | some w => exact Worker.adds_of_isGone (h.2.2 w (List.mem_of_getElem? hw))
      · rfl
    rw [added_cons hstep, hnone, ih hms hrest (deserted_of_step hm h hstep)]
    rfl

/-! ## The last snapshot -/

theorem snapshots_of_readLine (s : Session ε σ) (v : Surroundings) (t : Task)
    (line : RawText) (rest : List RawText) :
    (s.readLine v t line rest).snapshots = s.snapshots := by
  unfold readLine
  split
  · rfl
  · rename_i cs _
    by_cases hempty : (Text.trimChars cs).isEmpty = true
    · rw [if_pos hempty]
    · rw [if_neg hempty, deliver]
      generalize s.engine.attach v.processes t.target (String.ofList (Text.trimChars cs)) = p
      rcases p with ⟨engine, result⟩
      cases result <;> rfl

/-- Only a loop that records takes a snapshot. -/
theorem snapshots_of_step {m : SessionMove} (hquiet : m.isSignal = false)
    (hstep : s.step a v t m = some s') (hnot : m = .loop → s.stage ≠ .recording) :
    s'.snapshots = s.snapshots := by
  cases m with
  | loop =>
    cases loopMoves_of_loopStep hstep with
    | record hstage => exact absurd hstage (hnot rfl)
    | askRunning | askWorkers | askReader | await | wake => rfl
  | read =>
    have hread : s.readStep v t = some s' := hstep
    unfold readStep at hread
    split at hread
    · cases hread
    · split at hread
      · obtain rfl := Option.some.inj hread
        rfl
      · obtain rfl := Option.some.inj hread
        exact snapshots_of_readLine s v t _ _
  | signal n => cases hquiet
  | engine tick =>
    obtain ⟨engine, -, rfl⟩ := Option.map_eq_some_iff.1 hstep
    rfl

/-- A run is cut at its last snapshot. -/
theorem exists_last_record (hstart : s.stage = .recording) {moves : List SessionMove}
    (hquiet : Undisturbed moves) (hrun : s.run a v t moves = some s')
    (hstage : s'.stage ≠ .recording) :
    ∃ before rest s₁, moves = before ++ .loop :: rest ∧ s.run a v t before = some s₁ ∧
      s₁.stage = .recording ∧ s₁.run a v t (.loop :: rest) = some s' ∧
      s'.snapshots = (s₁.takeSnapshot v).snapshots := by
  induction moves using List.reverseRecOn generalizing s' with
  | nil =>
    obtain rfl : s = s' := by simpa [run] using hrun
    exact absurd hstart hstage
  | append_singleton ms m ih =>
    have hquiet₁ : Undisturbed ms := fun m hm => hquiet m (List.mem_append_left _ hm)
    have hm : m.isSignal = false := hquiet m (by simp)
    rw [run_append, Option.bind_eq_some_iff] at hrun
    obtain ⟨s₂, hrun₂, hlast⟩ := hrun
    obtain ⟨s₃, hstep, hnil⟩ := run_cons_eq_some_iff.1 hlast
    obtain rfl : s₃ = s' := by simpa [run] using hnil
    by_cases hrecording : s₂.stage = .recording
    · have hloop : m = .loop := by
        by_contra hnot
        exact hstage ((stage_of_run (by simpa using Ne.symm hnot) (by simpa [Undisturbed] using hm)
          hlast).trans hrecording)
      subst hloop
      refine ⟨ms, [], s₂, rfl, hrun₂, hrecording, hlast, ?_⟩
      cases loopMoves_of_loopStep hstep with
      | record => rfl
      | askRunning h | askWorkers h | askReader h | await h | wake h =>
        rw [hrecording] at h
        cases h
    · obtain ⟨before, rest, s₁, rfl, hbefore, hstage₁, hrest, hsnapshots⟩ :=
        ih hquiet₁ hrun₂ hrecording
      refine ⟨before, rest ++ [m], s₁, by simp, hbefore, hstage₁, ?_, ?_⟩
      · rw [← List.cons_append, run_append, hrest]
        exact hlast
      · rw [snapshots_of_step hm hstep fun _ => hrecording, hsnapshots]

/-- The totals in the report of a session. -/
def reported (s : Session ε σ) : Totals :=
  (Statistics.ofSnapshots s.snapshots).totals

/-- The report shows the totals as they stand when the last snapshot is taken. -/
theorem reported_of_snapshots {s₁ : Session ε σ}
    (h : s'.snapshots = (s₁.takeSnapshot v).snapshots) :
    s'.reported = s₁.engine.scene.telemetry.totals := by
  rw [reported, Statistics.totals_ofSnapshots, h, takeSnapshot, print, List.map_append,
    List.map_singleton, List.getLastD_concat]

/-! ## The end of the wait -/

/-- Whether the loop has come to its next snapshot because its wait has found the session
over, and the reader has made no step between the two questions of the wait. -/
def EndsWait (a : Allocator ε σ) (v : Surroundings) (t : Task) (s : Session ε σ)
    (moves : List SessionMove) : Prop :=
  ∃ earlier between later s₀ next,
    moves = earlier ++ .loop :: (between ++ .loop :: later) ∧
    .loop ∉ between ∧ .read ∉ between ∧ .loop ∉ later ∧
    s.run a v t earlier = some s₀ ∧ s₀.stage = .askingWorkers (some next) ∧
    s₀.engine.scene.telemetry.isIdle = true

/-- A session in order in which no worker is active and the reader has finished is
deserted. -/
theorem IsOrderly.deserted (h : s.IsOrderly) (hfew : s.engine.workers.length < 2 ^ 64)
    (hreading : s.reading = false) (hidle : s.engine.scene.telemetry.isIdle = true) :
    s.engine.IsDeserted :=
  ⟨h.launching_eq hreading, h.tallied.isGone_of_isIdle hfew hidle⟩

theorem deserted_of_endsWait (horderly : s.IsOrderly) {moves : List SessionMove}
    (hquiet : Undisturbed moves) (hrun : s.run a v t moves = some s')
    (hfew : s'.engine.workers.length < 2 ^ 64) (hrecording : s'.stage = .recording)
    (h : s.EndsWait a v t moves) : s'.reading = false ∧ s'.engine.IsDeserted := by
  obtain ⟨earlier, between, later, s₀, next, rfl, hbetween, hread, hlater, hearlier, hasking,
    hidle⟩ := h
  have hquiet₀ : Undisturbed earlier := fun m hm => hquiet m (by simp [hm])
  have hquiet₁ : Undisturbed (.loop :: (between ++ .loop :: later)) := fun m hm =>
    hquiet m (List.mem_append_right _ hm)
  have hquiet₂ : Undisturbed between := fun m hm => hquiet m (by simp [hm])
  have hquiet₃ : Undisturbed later := fun m hm => hquiet m (by simp [hm])
  rw [run_append, hearlier, Option.bind_some] at hrun
  have hfew₀ := Nat.lt_of_le_of_lt (length_workers_of_run hquiet₁ hrun) hfew
  have horderly₀ : s₀.IsOrderly :=
    run_keeps (fun _ _ _ hm h hstep => IsOrderly.step h hm hstep) hquiet₀ hearlier horderly
  obtain ⟨s₁, hfirst, hrest⟩ := run_cons_eq_some_iff.1 hrun
  rw [run_append, Option.bind_eq_some_iff] at hrest
  obtain ⟨s₂, hwithin, hrest⟩ := hrest
  obtain ⟨s₃, hsecond, hlast⟩ := run_cons_eq_some_iff.1 hrest
  -- the reader had finished at the second question, and so at the first
  have hfinished : s₂.reading = false := by
    have hstage₁ : s₁.stage = .askingReader (some next) := by
      cases loopMoves_of_loopStep hfirst with
      | askWorkers h =>
        obtain rfl := LoopStage.askingWorkers.inj (h.symm.trans hasking)
        simp [hidle]
      | record h | askRunning h | askReader h | await h | wake h =>
        rw [hasking] at h
        cases h
    have hstage₂ := (stage_of_run hbetween hquiet₂ hwithin).trans hstage₁
    have hstage₃ := (stage_of_run hlater hquiet₃ hlast).symm.trans hrecording
    cases loopMoves_of_loopStep hsecond with
    | askReader h =>
      obtain rfl := LoopStage.askingReader.inj (h.symm.trans hstage₂)
      cases hreading : s₂.reading with
      | false => rfl
      | true => simp [hreading, whenNotOver] at hstage₃
    | record h | askRunning h | askWorkers h | await h | wake h =>
      rw [hstage₂] at h
      cases h
  have hreading : s₀.reading = false := by
    have hrun₂ : s₀.run a v t (.loop :: between) = some s₂ :=
      run_cons_eq_some_iff.2 ⟨s₁, hfirst, hwithin⟩
    have hquiet₄ : Undisturbed (.loop :: between) := List.forall_mem_cons.2 ⟨rfl, hquiet₂⟩
    rw [← hfinished, reading_of_run (by simpa using hread) hquiet₄ hrun₂]
  exact run_keeps (fun _ _ _ hm h hstep => deserted_of_step hm h hstep) hquiet₁ hrun
    ⟨hreading, horderly₀.deserted hfew₀ hreading hidle⟩

/-! ## The report -/

/-- When the loop ends a session that no signal has stopped, the report shows the totals
as they stood at the last snapshot, and is short of the true totals by what the workers
have recorded since.  That is nothing if no worker was active at the snapshot and the
reader had finished, and if the loop has come to the snapshot from its wait, which has
found the session over. -/
theorem reported_of_run {now : Nanos} {environment : ε} {template : σ}
    {shortages : List (Option Shortage)} {arguments lines : List RawText}
    {moves : List SessionMove}
    (hopen : opening (Engine.atStart now environment template shortages) v arguments lines =
      .ok (t, s))
    (hquiet : Undisturbed moves) (hrun : s.run a v t moves = some s') (hover : s'.stage = .over)
    (hfew : s'.engine.workers.length < 2 ^ 64) :
    ∃ before rest s₁, moves = before ++ rest ∧ s.run a v t before = some s₁ ∧
      s₁.stage = .recording ∧ s'.snapshots = (s₁.takeSnapshot v).snapshots ∧
      s'.reported = s₁.engine.scene.telemetry.totals ∧
      s'.engine.scene.telemetry.totals = s'.reported + s₁.added a v t rest ∧
      (s'.reported = s'.engine.scene.telemetry.totals ↔ s₁.added a v t rest = 0) ∧
      (s₁.reading = false → s₁.engine.scene.telemetry.isIdle = true →
        s'.reported = s'.engine.scene.telemetry.totals) ∧
      (s.EndsWait a v t before → s'.reported = s'.engine.scene.telemetry.totals) := by
  obtain ⟨hstart, -, horderly⟩ := orderly_of_opening a hopen
  obtain ⟨before, rest, s₁, rfl, hbefore, hstage, hrest, hsnapshots⟩ :=
    exists_last_record hstart hquiet hrun (by rw [hover]; decide)
  have hquiet₀ : Undisturbed before := fun m hm => hquiet m (by simp [hm])
  have hquiet₁ : Undisturbed (.loop :: rest) := fun m hm =>
    hquiet m (List.mem_append_right _ hm)
  have horderly₁ : s₁.IsOrderly :=
    run_keeps (fun _ _ _ hm h hstep => IsOrderly.step h hm hstep) hquiet₀ hbefore horderly
  have hfew₁ := Nat.lt_of_le_of_lt (length_workers_of_run hquiet₁ hrest) hfew
  have hreported := reported_of_snapshots hsnapshots
  have htotals := totals_of_run hquiet₁ hrest
  rw [← hreported] at htotals
  have hiff : s'.reported = s'.engine.scene.telemetry.totals ↔
      s₁.added a v t (.loop :: rest) = 0 := by
    rw [htotals]
    exact Totals.eq_add_iff _ _
  have hdeserted : s₁.reading = false ∧ s₁.engine.IsDeserted →
      s'.reported = s'.engine.scene.telemetry.totals := fun h =>
    hiff.2 (added_of_deserted hquiet₁ hrest h)
  exact ⟨before, .loop :: rest, s₁, rfl, hbefore, hstage, hsnapshots, hreported, htotals, hiff,
    fun hreading hidle => hdeserted ⟨hreading, horderly₁.deserted hfew₁ hreading hidle⟩,
    fun hwait => hdeserted (deserted_of_endsWait horderly hquiet₀ hbefore hfew₁ hstage hwait)⟩

/-- A worker makes one step and is stopped while the loop waits.  The wait finds the
session over, and the step is in the report. -/
theorem reported_of_stopped_worker :
    let v : Surroundings := ⟨⟨7, fun _ => .present⟩, fun _ => Time.Moment.epoch, fun _ => none⟩
    let moves : List SessionMove :=
      [.read, .engine (.launch 0), .engine (.work 0), .engine (.work 0), .loop, .loop, .loop,
        .read, .read, .engine (.work 0), .engine (.work 0), .engine (.work 0)] ++
        List.replicate 8 .loop
    ∃ (t : Task) (s s' : Session (List JournalEntry) BudgetState),
      opening (Engine.atStart 0 [] { budget := ⟨none, 0⟩ }) v [RawText.ofString "--follow"]
          (inputLines false (RawText.ofString "cpu -d 60\nstop\n")) = .ok (t, s) ∧
      s.run .budgeted v t moves = some s' ∧ s'.stage = .over ∧ s'.engine.workers.length = 1 ∧
      s'.reported = { cpuIterations := 1 } ∧ s.EndsWait .budgeted v t (moves.take 16) ∧
      ∃ before rest s₁, moves = before ++ rest ∧ s.run .budgeted v t before = some s₁ ∧
        s'.engine.scene.telemetry.totals = s'.reported + s₁.added .budgeted v t rest ∧
        (s'.reported = s'.engine.scene.telemetry.totals ↔ s₁.added .budgeted v t rest = 0) := by
  intro v moves
  obtain ⟨t, s, s', hopen, hrun, hover, hone, hreported, hwait⟩ :
      ∃ (t : Task) (s s' : Session (List JournalEntry) BudgetState),
      opening (Engine.atStart 0 [] { budget := ⟨none, 0⟩ }) v [RawText.ofString "--follow"]
          (inputLines false (RawText.ofString "cpu -d 60\nstop\n")) = .ok (t, s) ∧
      s.run .budgeted v t moves = some s' ∧ s'.stage = .over ∧ s'.engine.workers.length = 1 ∧
      s'.reported = { cpuIterations := 1 } ∧ s.EndsWait .budgeted v t (moves.take 16) := by
    refine ⟨⟨{ follow := true }, 7⟩, _, _, rfl, (Option.some_get (by decide +kernel)).symm, ?_, ?_,
      ?_, moves.take 14, [], [], _, Nanos.ofSeconds 5, rfl, ?_, ?_, ?_,
      (Option.some_get (by decide +kernel)).symm, ?_, ?_⟩ <;> decide +kernel
  have hquiet : Undisturbed moves := by unfold Undisturbed; decide
  obtain ⟨before, rest, s₁, hmoves, hbefore, -, -, -, htotals, hiff, -, -⟩ :=
    reported_of_run hopen hquiet hrun hover (by rw [hone]; decide)
  exact ⟨t, s, s', hopen, hrun, hover, hone, hreported, hwait, before, rest, s₁, hmoves, hbefore,
    htotals, hiff⟩

/-- The snapshot is taken while a worker requests its block.  The worker gets it, finds
that it is stopped, and leaves before the loop asks for workers, so the loop ends at
once.  No worker is active at the end, and the block is in no total of the report. -/
theorem report_misses_block :
    let v : Surroundings := ⟨⟨7, fun _ => .present⟩, fun _ => Time.Moment.epoch, fun _ => none⟩
    let moves : List SessionMove :=
      [.read, .engine (.launch 0), .engine (.work 0), .engine (.work 0), .loop, .read, .read] ++
        List.replicate 6 (.engine (.work 0)) ++ [.loop, .loop, .loop]
    ∃ (t : Task) (s s' : Session (List JournalEntry) BudgetState),
      opening (Engine.atStart 0 [] { budget := ⟨none, 0⟩ }) v [RawText.ofString "--follow"]
          (inputLines false (RawText.ofString "mem -m 1 -s 0\nstop\n")) = .ok (t, s) ∧
      Undisturbed moves ∧ s.run .budgeted v t moves = some s' ∧ s'.stage = .over ∧
      s'.engine.scene.telemetry.isIdle = true ∧ (∀ w ∈ s'.engine.workers, w.isGone = true) ∧
      s'.reported = { allocAttempts := 1 } ∧
      s'.engine.scene.telemetry.totals = { allocAttempts := 1, allocSuccesses := 1 } := by
  intro v moves
  refine ⟨⟨{ follow := true }, 7⟩, _, _, rfl, by unfold Undisturbed; decide,
    (Option.some_get (by decide +kernel)).symm, ?_⟩
  decide +kernel

end Host.Session

end ResourceFaults
