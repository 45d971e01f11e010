import Mathlib
import ResourceFaults.Proofs.Engine.Balance
import ResourceFaults.Proofs.Host.Commands

/-!
# Who is left when a session ends

The status loop asks two questions before it ends a session: whether a worker is
active, and then whether the reader still reads.  The answers belong to two moments,
and the reader may deliver its last lines and finish in between.

* `Session.ending_of_run` says what is certain.  Every worker that had entered when
  the loop asked for workers is gone, so a worker that is left has come in after
  that.  If the reader makes no step between the two questions, none is left.
* `Session.stop_cuts_late_fault` is a run in which it does, and the last stop
  ends a fault long before its deadline.

Counters are words, so a counter at zero says that nobody is there only while there
are fewer workers than a word can count (`Engine.Tallied.isGone_of_isIdle`).
-/

namespace ResourceFaults

variable {ε σ : Type} {a : Allocator ε σ}

/-! ## Active workers -/

namespace Engine

variable {e e' : Engine ε σ}

/-- The books of an engine, as far as active workers are concerned. -/
structure Tallied (e : Engine ε σ) : Prop where
  cpuActive_eq : e.scene.telemetry.gauge .cpuActive = UInt64.ofNat (e.total .cpuActive)
  memActive_eq : e.scene.telemetry.gauge .memActive = UInt64.ofNat (e.total .memActive)
  sound : ∀ w ∈ e.workers, w.Sound
  fresh : ∀ w ∈ e.launching, w.IsFresh

theorem Tallied.step {m : Move} (h : e.Tallied) (hstep : e.step a m = some e') : e'.Tallied := by
  rcases h with ⟨hcpu, hmem, hsound, hfresh⟩
  obtain ⟨hsound', hfresh'⟩ := sound_of_step hsound hfresh hstep
  exact
    { cpuActive_eq := gauge_of_step .cpuActive hsound hfresh (fun h => by cases h) hcpu hstep
      memActive_eq := gauge_of_step .memActive hsound hfresh (fun h => by cases h) hmem hstep
      sound := hsound'
      fresh := hfresh' }

theorem Tallied.run {ms : List Move} (h : e.Tallied) (hrun : e.run a ms = some e') :
    e'.Tallied := by
  induction ms generalizing e with
  | nil =>
    obtain rfl : e = e' := by simpa [Engine.run] using hrun
    exact h
  | cons m ms ih =>
    obtain ⟨e₁, hstep, hrest⟩ := run_cons_eq_some_iff.1 hrun
    exact ih (h.step hstep) hrest

theorem tallied_atStart (now : Nanos) (environment : ε) (template : σ)
    (shortages : List (Option Shortage)) :
    (atStart now environment template shortages).Tallied :=
  have h := booked_atStart now environment template shortages
  ⟨h.gauge_eq .cpuActive, h.gauge_eq .memActive, h.sound, h.fresh⟩

/-- A counter of active workers that is at zero counts nobody. -/
theorem holdsGuard_eq_false {kind : WorkerKind} {g : Gauge}
    (hshare : ∀ w : Worker σ, w.share g = if w.holdsGuard kind then 1 else 0)
    (hgauge : e.scene.telemetry.gauge g = UInt64.ofNat (e.total g))
    (hfew : e.workers.length < 2 ^ 64) (hzero : e.scene.telemetry.gauge g = 0) :
    ∀ w ∈ e.workers, w.holdsGuard kind = false := by
  have htotal : e.total g = e.workers.countP (·.holdsGuard kind) := sum_map_eq_countP hshare
  have hlt : e.workers.countP (·.holdsGuard kind) < 2 ^ 64 :=
    Nat.lt_of_le_of_lt List.countP_le_length hfew
  have hcount : e.workers.countP (·.holdsGuard kind) = 0 := by
    have hnat := congrArg UInt64.toNat (hgauge.symm.trans hzero)
    rwa [htotal, UInt64.toNat_ofNat_of_lt' hlt] at hnat
  intro w hw
  simpa using List.countP_eq_zero.1 hcount w hw

/-- Where no worker is counted as active, all that have entered have ended. -/
theorem Tallied.isGone_of_isIdle (h : e.Tallied) (hfew : e.workers.length < 2 ^ 64)
    (hidle : e.scene.telemetry.isIdle = true) : ∀ w ∈ e.workers, w.isGone = true := by
  simp only [Telemetry.isIdle, Bool.and_eq_true, beq_iff_eq] at hidle
  have hcpu := holdsGuard_eq_false Worker.share_cpuActive h.cpuActive_eq hfew hidle.1
  have hmem := holdsGuard_eq_false Worker.share_memActive h.memActive_eq hfew hidle.2
  intro w hw
  have hnot : w.holdsGuard w.kind = false := by
    cases w.kind with
    | cpu => exact hcpu w hw
    | memory => exact hmem w hw
  simpa [Worker.holdsGuard] using hnot

/-- A worker that has ended stays as it is. -/
theorem getElem?_of_isGone {m : Move} (hstep : e.step a m = some e') {i : Nat} {w : Worker σ}
    (hw : e.workers[i]? = some w) (hgone : w.isGone = true) : e'.workers[i]? = some w := by
  rcases step_worker hstep hw with ⟨h, -⟩ | ⟨-, s, w', hmoves, -⟩
  · exact h
  · rw [hmoves.isGone_eq_false] at hgone
    cases hgone

/-- No worker leaves the list. -/
theorem length_workers_le {m : Move} (hstep : e.step a m = some e') :
    e.workers.length ≤ e'.workers.length := by
  by_contra hlt
  rw [Nat.not_le] at hlt
  have hw : e.workers[e'.workers.length]? = some e.workers[e'.workers.length] :=
    List.getElem?_eq_getElem hlt
  rcases step_worker hstep hw with ⟨h, -⟩ | ⟨-, s, w', -, h⟩ <;> simp at h

/-- Whether every worker that was ever launched has ended. -/
def IsDeserted (e : Engine ε σ) : Prop :=
  e.launching = [] ∧ ∀ w ∈ e.workers, w.isGone = true

theorem launching_of_tick {t : Tick} (hnone : e.launching = []) (htick : e.tick a t = some e') :
    e'.launching = [] := by
  cases t with
  | launch i =>
    obtain ⟨w, hw, -⟩ := launch?_eq_some_iff.1 htick
    simp [hnone] at hw
  | work i =>
    obtain ⟨w, s, w', -, -, rfl⟩ := work?_eq_some_iff.1 htick
    exact hnone
  | pass time =>
    obtain rfl : e.pass time = e' := by simpa [tick] using htick
    exact hnone

theorem IsDeserted.tick {t : Tick} (h : e.IsDeserted) (htick : e.tick a t = some e') :
    e'.IsDeserted := by
  refine ⟨launching_of_tick h.1 htick, ?_⟩
  cases t with
  | launch i =>
    obtain ⟨w, hw, -⟩ := launch?_eq_some_iff.1 htick
    simp [h.1] at hw
  | work i =>
    obtain ⟨w, s, w', hw, hmoves, -⟩ := work?_eq_some_iff.1 htick
    have hgone := h.2 w (List.mem_of_getElem? hw)
    rw [hmoves.isGone_eq_false] at hgone
    cases hgone
  | pass time =>
    obtain rfl : e.pass time = e' := by simpa [Engine.tick] using htick
    exact h.2

end Engine

namespace Host

open Text (RawText)

namespace Session

variable {v : Surroundings} {t : Task} {s s' : Session ε σ}

/-! ## The workers in a session -/

/-- A session whose engine keeps its books, and whose reader finishes only once all
workers that it has launched have entered. -/
structure IsOrderly (s : Session ε σ) : Prop where
  tallied : s.engine.Tallied
  launching_eq : s.reading = false → s.engine.launching = []

/-- What a step does to the engine: nothing, a request, or a tick. -/
theorem engine_of_step {m : SessionMove} (hquiet : m.isSignal = false)
    (hstep : s.step a v t m = some s') :
    s'.engine = s.engine ∨ ∃ move, s.engine.step a move = some s'.engine := by
  cases m with
  | loop =>
    cases loopMoves_of_loopStep hstep with
    | record | askRunning | askWorkers | askReader | await | wake => exact .inl rfl
  | read =>
    obtain ⟨-, -, hwithin⟩ := within_readStep hstep
    rcases hwithin.engine_eq with hsame | ⟨-, r, hr⟩
    · exact .inl hsame
    · exact .inr ⟨.deliver r, by rw [hr]; rfl⟩
  | signal n => cases hquiet
  | engine tick =>
    obtain ⟨engine, htick, rfl⟩ := Option.map_eq_some_iff.1 hstep
    exact .inr ⟨.tick tick, htick⟩

theorem IsOrderly.step (h : s.IsOrderly) {m : SessionMove} (hquiet : m.isSignal = false)
    (hstep : s.step a v t m = some s') : s'.IsOrderly := by
  constructor
  · rcases engine_of_step hquiet hstep with hsame | ⟨move, hmove⟩
    · rw [hsame]
      exact h.tallied
    · exact h.tallied.step hmove
  · cases m with
    | loop =>
      cases loopMoves_of_loopStep hstep with
      | record | askRunning | askWorkers | askReader | await | wake => exact h.launching_eq
    | read =>
      obtain ⟨hreading, hnone, hwithin⟩ := within_readStep hstep
      intro hfinished
      rcases hwithin.engine_eq with hsame | ⟨hkept, -⟩
      · rw [hsame, hnone]
      · rw [hkept, hreading] at hfinished
        cases hfinished
    | signal n => cases hquiet
    | engine tick =>
      obtain ⟨engine, htick, rfl⟩ := Option.map_eq_some_iff.1 hstep
      exact fun hfinished => Engine.launching_of_tick (h.launching_eq hfinished) htick

/-- A reader that has finished and workers that have all ended: nothing starts again. -/
theorem deserted_of_step {m : SessionMove} (hquiet : m.isSignal = false)
    (h : s.reading = false ∧ s.engine.IsDeserted) (hstep : s.step a v t m = some s') :
    s'.reading = false ∧ s'.engine.IsDeserted := by
  cases m with
  | loop =>
    cases loopMoves_of_loopStep hstep with
    | record | askRunning | askWorkers | askReader | await | wake => exact h
  | read =>
    obtain ⟨hreading, -, -⟩ := within_readStep hstep
    simp [h.1] at hreading
  | signal n => cases hquiet
  | engine tick =>
    obtain ⟨engine, htick, rfl⟩ := Option.map_eq_some_iff.1 hstep
    exact ⟨h.1, h.2.tick htick⟩

/-! ## The last questions -/

/-- Nothing but the loop changes where the loop stands. -/
theorem stage_of_run {moves : List SessionMove} (hloop : .loop ∉ moves)
    (hquiet : Undisturbed moves) (hrun : s.run a v t moves = some s') : s'.stage = s.stage := by
  refine run_keeps (P := fun s' => s'.stage = s.stage)
    (Q := fun m => m.isSignal = false ∧ m ≠ .loop) ?_
    (fun m hm => ⟨hquiet m hm, fun h => hloop (h ▸ hm)⟩) hrun rfl
  rintro s₁ m s₂ ⟨hsignal, hnot⟩ hsame hstep
  cases m with
  | loop => exact absurd rfl hnot
  | read =>
    obtain ⟨-, -, hwithin⟩ := within_readStep hstep
    exact hwithin.stage_eq.trans hsame
  | signal n => cases hsignal
  | engine tick =>
    obtain ⟨engine, -, rfl⟩ := Option.map_eq_some_iff.1 hstep
    exact hsame

/-- A stage that the loop has come to is where its last step has led. -/
theorem exists_last_loop {moves : List SessionMove} (hquiet : Undisturbed moves)
    (hrun : s.run a v t moves = some s') (hstage : s'.stage ≠ s.stage) :
    ∃ before after s₁ s₂, moves = before ++ .loop :: after ∧ .loop ∉ after ∧
      s.run a v t before = some s₁ ∧ s₁.loopStep v t = some s₂ ∧ s₂.stage = s'.stage ∧
      s₂.run a v t after = some s' := by
  have hmem : .loop ∈ moves.reverse := by
    rw [List.mem_reverse]
    by_contra hloop
    exact hstage (stage_of_run hloop hquiet hrun)
  obtain ⟨after, before, hmoves, hlast⟩ := List.eq_append_cons_of_mem hmem
  replace hmoves : moves = before.reverse ++ .loop :: after.reverse := by
    rw [← List.reverse_reverse moves, hmoves]
    simp
  have hlast' : .loop ∉ after.reverse := by rwa [List.mem_reverse]
  rw [hmoves, run_append, Option.bind_eq_some_iff] at hrun
  obtain ⟨s₁, hbefore, hrest⟩ := hrun
  obtain ⟨s₂, hstep, hafter⟩ := run_cons_eq_some_iff.1 hrest
  have hquiet' : Undisturbed after.reverse := fun m hm => hquiet m (by simp [hmoves, hm])
  exact ⟨before.reverse, after.reverse, s₁, s₂, hmoves, hlast', hbefore, hstep,
    (stage_of_run hlast' hquiet' hafter).symm, hafter⟩

/-- The last question before the end is whether the reader still reads. -/
theorem LoopMoves.of_over (h : s.LoopMoves v t s') (hrunning : s.running = true)
    (hover : s'.stage = .over) : s.stage = .askingReader none ∧ s.reading = false := by
  cases h with
  | record | wake => cases hover
  | askRunning => simp [hrunning] at hover
  | @askWorkers next =>
    simp only at hover
    split at hover
    · cases hover
    · exact absurd hover (whenNotOver_ne_over t _ next)
  | @askReader next hstage =>
    cases hreading : s.reading with
    | true =>
      simp only [hreading, if_true] at hover
      exact absurd hover (whenNotOver_ne_over t _ next)
    | false =>
      cases next with
      | none => exact ⟨hstage, rfl⟩
      | some next => simp [hreading, whenOver] at hover
  | await => split at hover <;> cases hover

/-- The question before that is whether a worker is active. -/
theorem LoopMoves.of_askingReader (h : s.LoopMoves v t s') {next : Option Nanos}
    (hasking : s'.stage = .askingReader next) :
    s.stage = .askingWorkers next ∧ s.engine.scene.telemetry.isIdle = true := by
  cases h with
  | record | wake => cases hasking
  | @askRunning next =>
    cases next <;> simp only [whenOver] at hasking <;> split at hasking <;> cases hasking
  | @askWorkers asked hstage =>
    cases hidle : s.engine.scene.telemetry.isIdle with
    | true =>
      simp only [hidle, if_true, LoopStage.askingReader.injEq] at hasking
      exact ⟨by rw [hstage, hasking], rfl⟩
    | false =>
      simp only [hidle, Bool.false_eq_true, if_false] at hasking
      exact absurd hasking (whenNotOver_ne_askingReader t _ asked)
  | @askReader asked =>
    simp only at hasking
    split at hasking
    · exact absurd hasking (whenNotOver_ne_askingReader t _ asked)
    · cases asked <;> cases hasking
  | await => split at hasking <;> cases hasking

/-- The loop ends a session that nobody has stopped after it has found no worker
active and, later, the reader finished. -/
theorem exists_last_questions (hsteady : s.IsSteady) (hstart : s.stage = .recording)
    {moves : List SessionMove} (hquiet : Undisturbed moves) (hrun : s.run a v t moves = some s')
    (hover : s'.stage = .over) :
    ∃ before between after s₁ s₂, moves = before ++ .loop :: (between ++ .loop :: after) ∧
      .loop ∉ between ∧ s.run a v t before = some s₁ ∧
      s₁.stage = .askingWorkers none ∧ s₁.engine.scene.telemetry.isIdle = true ∧
      s₁.run a v t (.loop :: between) = some s₂ ∧
      s₂.reading = false ∧ s₂.run a v t (.loop :: after) = some s' := by
  obtain ⟨first, after, s₂, s₃, hmoves, -, hfirst, hsecond, hstage, hafter⟩ :=
    exists_last_loop hquiet hrun (by rw [hover, hstart]; decide)
  have hquiet' : Undisturbed first := fun m hm => hquiet m (by simp [hmoves, hm])
  obtain ⟨hasking, hreading⟩ := (loopMoves_of_loopStep hsecond).of_over
    (hsteady.run hquiet' hfirst).running (hstage.trans hover)
  obtain ⟨before, between, s₁, s₁', hfirsts, hbetween, hbefore, hlook, hstage', hrest⟩ :=
    exists_last_loop hquiet' hfirst (by rw [hasking, hstart]; decide)
  obtain ⟨hlooking, hidle⟩ := (loopMoves_of_loopStep hlook).of_askingReader (hstage'.trans hasking)
  refine ⟨before, between, after, s₁, s₂, by simp [hmoves, hfirsts], hbetween, hbefore, hlooking,
    hidle, ?_, hreading, ?_⟩
  · exact run_cons_eq_some_iff.2 ⟨s₁', hlook, hrest⟩
  · exact run_cons_eq_some_iff.2 ⟨s₃, hsecond, hafter⟩

/-! ## The end -/

/-- Only the reader can say that it has finished. -/
theorem reading_of_run {moves : List SessionMove} (hread : .read ∉ moves)
    (hquiet : Undisturbed moves) (hrun : s.run a v t moves = some s') :
    s'.reading = s.reading := by
  refine run_keeps (P := fun s' => s'.reading = s.reading)
    (Q := fun m => m.isSignal = false ∧ m ≠ .read) ?_
    (fun m hm => ⟨hquiet m hm, fun h => hread (h ▸ hm)⟩) hrun rfl
  rintro s₁ m s₂ ⟨hsignal, hnot⟩ hsame hstep
  cases m with
  | loop =>
    cases loopMoves_of_loopStep hstep with
    | record | askRunning | askWorkers | askReader | await | wake => exact hsame
  | read => exact absurd rfl hnot
  | signal n => cases hsignal
  | engine tick =>
    obtain ⟨engine, -, rfl⟩ := Option.map_eq_some_iff.1 hstep
    exact hsame

/-- Workers that have ended stay where they are in the list. -/
theorem isGone_of_run {moves : List SessionMove} (hquiet : Undisturbed moves)
    (hrun : s.run a v t moves = some s') {i : Nat} {w : Worker σ}
    (hw : s.engine.workers[i]? = some w) (hgone : w.isGone = true) :
    s'.engine.workers[i]? = some w := by
  refine run_keeps (P := fun s' => s'.engine.workers[i]? = some w) ?_ hquiet hrun hw
  intro s₁ m s₂ hm hw hstep
  rcases engine_of_step hm hstep with hsame | ⟨move, hmove⟩
  · rw [hsame, hw]
  · exact Engine.getElem?_of_isGone hmove hw hgone

theorem length_workers_of_run {moves : List SessionMove} (hquiet : Undisturbed moves)
    (hrun : s.run a v t moves = some s') :
    s.engine.workers.length ≤ s'.engine.workers.length := by
  refine run_keeps (P := fun s' => s.engine.workers.length ≤ s'.engine.workers.length) ?_ hquiet
    hrun (Nat.le_refl _)
  intro s₁ m s₂ hm hle hstep
  rcases engine_of_step hm hstep with hsame | ⟨move, hmove⟩
  · rwa [hsame]
  · exact hle.trans (Engine.length_workers_le hmove)

/-- A session whose first command has been delivered is in order. -/
theorem orderly_of_start (a : Allocator ε σ) {e : Engine ε σ} (h : e.Tallied)
    (hnone : e.launching = []) {command : String} {input : List RawText}
    (hstart : start v t command e input = (s, none)) :
    s.stage = .recording ∧ s.IsSteady ∧ s.IsOrderly := by
  by_cases hempty : command.isEmpty = true
  · rw [start_of_empty hempty, Prod.mk.injEq] at hstart
    obtain rfl := hstart.1
    exact ⟨rfl, ⟨rfl, fun h => by cases h⟩, h, fun _ => hnone⟩
  · have hwithin := within_deliver (fresh t command e input) v t command
    rcases hdeliver : (fresh t command e input).deliver v t command with ⟨s₁, error | outcome⟩
    · rw [start_of_undelivered hempty hdeliver] at hstart
      cases hstart
    · rw [start_of_delivered hempty hdeliver] at hstart
      rw [hdeliver] at hwithin
      obtain rfl := (Prod.mk.inj hstart).1
      have htallied : s₁.engine.Tallied := by
        rcases hwithin.engine_eq with hsame | ⟨-, r, hr⟩
        · rw [hsame]
          exact h
        · exact h.step (a := a) (m := .deliver r) (by rw [hr]; rfl)
      obtain ⟨⟨ts, hts⟩, hlaunched⟩ := exists_ticks_launchAll (a := a) s₁.engine
      have hrecording : s₁.stage = .recording := hwithin.stage_eq
      refine ⟨hrecording, ⟨hwithin.running_eq, fun h => ?_⟩, htallied.run hts, fun _ => hlaunched⟩
      rw [hrecording] at h
      cases h

/-- What a session is when it starts on a new engine. -/
theorem orderly_of_opening (a : Allocator ε σ) {now : Nanos} {environment : ε} {template : σ}
    {shortages : List (Option Shortage)} {arguments lines : List RawText}
    (hopen : opening (Engine.atStart now environment template shortages) v arguments lines =
      .ok (t, s)) :
    s.stage = .recording ∧ s.IsSteady ∧ s.IsOrderly := by
  unfold opening at hopen
  split at hopen
  · cases hopen
  · cases hopen
  · dsimp only at hopen
    split at hopen
    · cases hopen
    · split at hopen
      · rename_i hstart
        cases hopen
        exact orderly_of_start a (Engine.tallied_atStart now environment template shortages) rfl
          hstart
      · cases hopen

/-- When the loop ends a session that no signal has stopped, the reader has finished,
and every worker that had entered when the loop last asked for workers is gone.  If
the reader made no step between that question and the next, which was the last, no
worker is left at all, and the stop that follows cuts nothing short. -/
theorem ending_of_run {now : Nanos} {environment : ε} {template : σ}
    {shortages : List (Option Shortage)} {arguments lines : List RawText}
    {moves : List SessionMove}
    (hopen : opening (Engine.atStart now environment template shortages) v arguments lines =
      .ok (t, s))
    (hquiet : Undisturbed moves) (hrun : s.run a v t moves = some s') (hover : s'.stage = .over)
    (hfew : s'.engine.workers.length < 2 ^ 64) :
    s'.reading = false ∧
      ∃ before between after s₁, moves = before ++ .loop :: (between ++ .loop :: after) ∧
        .loop ∉ between ∧ s.run a v t before = some s₁ ∧ s₁.stage = .askingWorkers none ∧
        (∀ w ∈ s₁.engine.workers, w.isGone = true) ∧
        (∀ i w, s'.engine.workers[i]? = some w → w.isGone = false →
          s₁.engine.workers.length ≤ i) ∧
        (.read ∉ between → s'.engine.IsDeserted) := by
  obtain ⟨hstart, hsteady, horderly⟩ := orderly_of_opening a hopen
  obtain ⟨before, between, after, s₁, s₂, hmoves, hbetween, hbefore, hasking, hidle, hlook,
    hfinished, hlast⟩ := exists_last_questions hsteady hstart hquiet hrun hover
  have hquiet₀ : Undisturbed before := fun m hm => hquiet m (by simp [hmoves, hm])
  have hquiet₁ : Undisturbed (.loop :: between) := fun m hm => hquiet m (by
    rw [hmoves]
    rcases List.mem_cons.1 hm with rfl | hm <;> simp [*])
  have hquiet₂ : Undisturbed (.loop :: between ++ .loop :: after) := fun m hm => hquiet m (by
    rw [hmoves]
    exact List.mem_append_right _ hm)
  have hrest : s₁.run a v t (.loop :: between ++ .loop :: after) = some s' := by
    rw [run_append, hlook]
    exact hlast
  have horderly₁ : s₁.IsOrderly :=
    run_keeps (fun _ _ _ hm h hstep => IsOrderly.step h hm hstep) hquiet₀ hbefore horderly
  have hgone : ∀ w ∈ s₁.engine.workers, w.isGone = true :=
    horderly₁.tallied.isGone_of_isIdle
      (Nat.lt_of_le_of_lt (length_workers_of_run hquiet₂ hrest) hfew) hidle
  refine ⟨(hsteady.run hquiet hrun).finished_of_over hover, before, between, after, s₁, hmoves,
    hbetween, hbefore, hasking, hgone, ?_, ?_⟩
  · intro i w hw hthere
    by_contra hlt
    rw [Nat.not_le] at hlt
    have hw₁ : s₁.engine.workers[i]? = some s₁.engine.workers[i] := List.getElem?_eq_getElem hlt
    have hgone₁ := hgone _ (List.getElem_mem hlt)
    obtain rfl := Option.some.inj ((isGone_of_run hquiet₂ hrest hw₁ hgone₁).symm.trans hw)
    rw [hgone₁] at hthere
    cases hthere
  · intro hread
    have hreading : s₁.reading = false := by
      rw [← reading_of_run (by simpa using hread) hquiet₁ hlook, hfinished]
    exact (run_keeps (fun _ _ _ hm h hstep => deserted_of_step hm h hstep) hquiet₂ hrest
      ⟨hreading, horderly₁.launching_eq hreading, hgone⟩).2

/-- A worker is launched and sent away while the loop waits, and the loop asks twice
more. -/
theorem ending_of_stopped_worker :
    let v : Surroundings := ⟨⟨7, fun _ => .present⟩, fun _ => Time.Moment.epoch, fun _ => none⟩
    let moves : List SessionMove :=
      [.loop, .loop, .read, .engine (.launch 0), .loop, .read, .read] ++
        List.replicate 3 (.engine (.work 0)) ++ List.replicate 8 .loop
    ∃ (t : Task) (s s' : Session (List JournalEntry) BudgetState),
      opening (Engine.atStart 0 [] { budget := ⟨none, 0⟩ }) v [RawText.ofString "--follow"]
          (inputLines false (RawText.ofString "cpu -d 60\nstop\n")) = .ok (t, s) ∧
      s.run .budgeted v t moves = some s' ∧ s'.stage = .over ∧ s'.engine.workers.length = 1 ∧
      s'.reading = false ∧
      ∃ before between after s₁, moves = before ++ .loop :: (between ++ .loop :: after) ∧
        .loop ∉ between ∧ s.run .budgeted v t before = some s₁ ∧
        s₁.stage = .askingWorkers none ∧ (∀ w ∈ s₁.engine.workers, w.isGone = true) ∧
        (∀ i w, s'.engine.workers[i]? = some w → w.isGone = false →
          s₁.engine.workers.length ≤ i) ∧
        (.read ∉ between → s'.engine.IsDeserted) := by
  intro v moves
  obtain ⟨t, s, s', hopen, hrun, hover, hone⟩ :
      ∃ (t : Task) (s s' : Session (List JournalEntry) BudgetState),
      opening (Engine.atStart 0 [] { budget := ⟨none, 0⟩ }) v [RawText.ofString "--follow"]
          (inputLines false (RawText.ofString "cpu -d 60\nstop\n")) = .ok (t, s) ∧
      s.run .budgeted v t moves = some s' ∧ s'.stage = .over ∧ s'.engine.workers.length = 1 := by
    refine ⟨⟨{ follow := true }, 7⟩, _, _, rfl, (Option.some_get (by decide +kernel)).symm, ?_, ?_⟩
      <;> decide +kernel
  have hquiet : Undisturbed moves := by unfold Undisturbed; decide
  exact ⟨t, s, s', hopen, hrun, hover, hone,
    ending_of_run hopen hquiet hrun hover (by rw [hone]; decide)⟩

/-- Between the two last questions of the loop the reader delivers a command and
finishes.  The loop ends with a worker at work, and the stop that follows sends it
away a minute before its deadline. -/
theorem stop_cuts_late_fault :
    let v : Surroundings := ⟨⟨7, fun _ => .present⟩, fun _ => Time.Moment.epoch, fun _ => none⟩
    ∃ (t : Task) (s s' : Session (List JournalEntry) BudgetState),
      opening (Engine.atStart 0 [] { budget := ⟨none, 0⟩ }) v [RawText.ofString "--follow"]
          (inputLines false (RawText.ofString "cpu -d 60\n")) = .ok (t, s) ∧
      t.settings.follow = true ∧
      s.run .budgeted v t [.loop, .loop, .loop, .read, .engine (.launch 0), .read, .loop] =
        some s' ∧
      s'.stage = .over ∧ s'.reading = false ∧ s'.engine.scene.telemetry.cpuActive = 1 ∧
      ∃ w ∈ s'.engine.workers, w.isGone = false ∧
        w.deadline.remaining s'.engine.scene.now = Nanos.ofSeconds 60 ∧
        s'.engine.scene.goesOn w.deadline = true ∧
        (s'.stopFaults v t).engine.scene.goesOn w.deadline = false := by
  intro v
  refine ⟨⟨{ follow := true }, 7⟩, _, _, rfl, rfl, (Option.some_get (by decide +kernel)).symm, ?_⟩
  rw [stopFaults_eq ⟨rfl, rfl⟩]
  decide +kernel

end Session

end Host

end ResourceFaults
