import Mathlib
import ResourceFaults.Host.Run
import ResourceFaults.Proofs.Engine.Settling
import ResourceFaults.Proofs.Host.Account

/-!
# The course of a session is one of its runs

`Host.course` takes a session to the end of its loop in one fixed order.
`Session.leads_course` says that this order is one of those that
`Session.run` allows, and `Session.finished_of_course` that the reader has
finished by the end of it, unless the loop has failed.  So what holds of every run
holds of the course.  A loop fails only where the next turn would lie beyond the last
instant of the clock (`Session.last_lt_of_failed`).
-/

namespace ResourceFaults.Host

variable {ε σ : Type} {a : Allocator ε σ}

/-! ## Ticks of an engine -/

/-- Launching what waits, one worker after the other, is a sequence of ticks; then
nothing waits. -/
theorem exists_ticks_launchAll (e : Engine ε σ) :
    (∃ ts : List Tick, e.run a (ts.map .tick) = some (launchAll e)) ∧
      (launchAll e).launching = [] := by
  suffices h : ∀ (ws : List (Worker σ)) (e : Engine ε σ), ws.length = e.launching.length →
      (∃ ts : List Tick, e.run a (ts.map .tick) =
        some (ws.foldl (fun e _ => (e.launch? 0).getD e) e)) ∧
      (ws.foldl (fun e _ => (e.launch? 0).getD e) e).launching = [] from
    h e.launching e rfl
  intro ws
  induction ws with
  | nil =>
    intro e hlength
    exact ⟨⟨[], rfl⟩, List.length_eq_zero_iff.1 hlength.symm⟩
  | cons w ws ih =>
    intro e hlength
    cases hlaunching : e.launching with
    | nil => simp [hlaunching] at hlength
    | cons w' ws' =>
      obtain ⟨e₁, hlaunch⟩ : ∃ e₁, e.launch? 0 = some e₁ := by
        simp [Engine.launch?, hlaunching]
      have hrest : e₁.launching = ws' := by
        obtain ⟨w'', -, rfl⟩ := Engine.launch?_eq_some_iff.1 hlaunch
        simp [hlaunching]
      obtain ⟨⟨ts, hts⟩, hnone⟩ := ih e₁ (by simpa [hlaunching, hrest] using hlength)
      rw [List.foldl_cons, hlaunch, Option.getD_some]
      exact ⟨⟨.launch 0 :: ts, Engine.run_cons_eq_some_iff.2 ⟨e₁, hlaunch, hts⟩⟩, hnone⟩

/-- Launching does not touch what starts will meet. -/
theorem shortages_launchAll {e : Engine ε σ} : (launchAll e).shortages = e.shortages := by
  rw [launchAll]
  generalize e.launching = ws
  induction ws generalizing e with
  | nil => rfl
  | cons w ws ih =>
    rw [List.foldl_cons, ih]
    cases hlaunch : e.launch? 0 with
    | none => rfl
    | some e₁ =>
      obtain ⟨w', -, rfl⟩ := Engine.launch?_eq_some_iff.1 hlaunch
      rfl

namespace Session

variable {v : Surroundings} {t : Task} {s s₁ s₂ : Session ε σ}

/-! ## From one state to another -/

/-- Whether some run without a signal goes from one state to another. -/
def Leads (a : Allocator ε σ) (v : Surroundings) (t : Task) (s s' : Session ε σ) : Prop :=
  ∃ moves, Undisturbed moves ∧ s.run a v t moves = some s'

theorem Leads.refl : Leads a v t s s :=
  ⟨[], List.forall_mem_nil _, rfl⟩

theorem Leads.trans (h₁ : Leads a v t s s₁) (h₂ : Leads a v t s₁ s₂) : Leads a v t s s₂ := by
  rcases h₁ with ⟨ms, hquiet, hrun⟩
  rcases h₂ with ⟨ns, hquiet', hrun'⟩
  refine ⟨ms ++ ns, fun m hm => ?_, by rw [run_append, hrun]; exact hrun'⟩
  rcases List.mem_append.1 hm with hm | hm
  · exact hquiet m hm
  · exact hquiet' m hm

theorem Leads.of_step {m : SessionMove} (hquiet : m.isSignal = false)
    (hstep : s.step a v t m = some s₁) : Leads a v t s s₁ :=
  ⟨[m], fun m' hm' => by rwa [List.mem_singleton.1 hm'],
    run_cons_eq_some_iff.2 ⟨s₁, hstep, rfl⟩⟩

/-- The ticks of the engine are steps of the session. -/
theorem Leads.of_ticks (ts : List Tick) {e' : Engine ε σ}
    (hrun : s.engine.run a (ts.map .tick) = some e') :
    Leads a v t s { s with engine := e' } := by
  induction ts generalizing s with
  | nil =>
    obtain rfl := Option.some.inj hrun
    exact .refl
  | cons tick ts ih =>
    obtain ⟨e₁, htick, hrest⟩ := Engine.run_cons_eq_some_iff.1 hrun
    have hstep : s.step a v t (.engine tick) = some { s with engine := e₁ } := by
      rw [step, Option.map_eq_some_iff]
      exact ⟨e₁, htick, rfl⟩
    exact (Leads.of_step rfl hstep).trans (ih (s := { s with engine := e₁ }) hrest)

theorem Leads.of_pass (time : Nanos) :
    Leads a v t s { s with engine := s.engine.pass time } :=
  .of_ticks [.pass time] rfl

/-! ## The parts of the course -/

theorem leads_turnLoop (fuel : Nat) : Leads a v t s (turnLoop v t fuel s) := by
  induction fuel generalizing s with
  | zero => exact .refl
  | succ fuel ih =>
    unfold turnLoop
    cases hstep : s.loopStep v t with
    | none => exact .refl
    | some s₁ => exact (Leads.of_step (m := .loop) rfl hstep).trans ih

theorem leads_launchAll : Leads a v t s { s with engine := launchAll s.engine } := by
  obtain ⟨⟨ts, hts⟩, -⟩ := exists_ticks_launchAll (a := a) s.engine
  exact .of_ticks ts hts

theorem leads_readAll (fuel : Nat) : Leads a v t s (readAll v t false fuel s) := by
  induction fuel generalizing s with
  | zero => exact .refl
  | succ fuel ih =>
    refine leads_launchAll.trans ?_
    simp only [readAll, Bool.false_and, Bool.false_eq_true, if_false]
    split
    · rename_i s₁ hstep
      exact (Leads.of_step (m := .read) rfl hstep).trans ih
    · exact .refl

theorem leads_endWorkers : Leads a v t s (endWorkers a s) := by
  obtain ⟨ts, hts⟩ := Engine.exists_ticks_settle (a := a)
    (e := s.engine.pass s.engine.untilLastDeadline)
    (ResourceFaults.Session.fuel 1 (s.engine.pass s.engine.untilLastDeadline))
  exact (Leads.of_pass _).trans (.of_ticks ts hts)

theorem leads_wakeLoop : Leads a v t s (wakeLoop s) := by
  unfold wakeLoop
  split
  · exact .of_pass _
  · exact .refl

/-- Whether the loop makes no more steps. -/
def HasStopped (s : Session ε σ) : Prop :=
  s.stage = .over ∨ s.stage = .failed

instance (s : Session ε σ) : Decidable s.HasStopped :=
  inferInstanceAs (Decidable (_ ∨ _))

theorem course_of_stopped (h : (turnLoop v t 16 s).HasStopped) :
    course a v t none s = turnLoop v t 16 s :=
  if_pos h

theorem course_of_not_stopped (h : ¬ (turnLoop v t 16 s).HasStopped) :
    course a v t none s =
      turnLoop v t 16 (wakeLoop (endWorkers a
        (readAll v t false ((turnLoop v t 16 s).lines.length + 2) (turnLoop v t 16 s)))) :=
  if_neg h

/-- The course of a session is one of its runs. -/
theorem leads_course : Leads a v t s (course a v t none s) := by
  refine (leads_turnLoop 16).trans ?_
  by_cases hstopped : (turnLoop v t 16 s).HasStopped
  · rw [course_of_stopped hstopped]
    exact .refl
  · rw [course_of_not_stopped hstopped]
    exact (leads_readAll _).trans
      (leads_endWorkers.trans (leads_wakeLoop.trans (leads_turnLoop 16)))

/-! ## A loop that fails -/

/-- A loop that has failed has found its next turn beyond the last instant. -/
theorem LoopMoves.last_lt_of_failed (h : s.LoopMoves v t s₁) (hfailed : s₁.stage = .failed) :
    Nanos.last < s₁.engine.scene.now + interval t := by
  have hcases : ∀ next, whenNotOver t s.engine.scene.now next = .failed →
      Nanos.last < s.engine.scene.now + interval t := by
    intro next hnext
    obtain ⟨_, hstage⟩ | ⟨_, _, hstage⟩ | ⟨-, hlast⟩ := whenNotOver_cases t s.engine.scene.now next
    · rw [hstage] at hnext
      cases hnext
    · rw [hstage] at hnext
      cases hnext
    · exact hlast
  cases h with
  | record | wake => cases hfailed
  | @askRunning next =>
    cases next <;> simp only [whenOver] at hfailed <;> split at hfailed <;> cases hfailed
  | @askWorkers next =>
    simp only at hfailed
    split at hfailed
    · cases hfailed
    · exact hcases next hfailed
  | @askReader next =>
    simp only at hfailed
    split at hfailed
    · exact hcases next hfailed
    · cases next <;> cases hfailed
  | await => split at hfailed <;> cases hfailed

theorem now_le_of_step {m : SessionMove} (hquiet : m.isSignal = false)
    (hstep : s.step a v t m = some s₁) : s.engine.scene.now ≤ s₁.engine.scene.now := by
  cases m with
  | loop =>
    cases loopMoves_of_loopStep hstep with
    | record | askRunning | askWorkers | askReader | await | wake => exact Nat.le_refl _
  | read =>
    obtain ⟨-, -, hwithin⟩ := within_readStep hstep
    rcases hwithin.engine_eq with hsame | ⟨-, r, hr⟩
    · rw [hsame]
    · exact Engine.now_le_of_step (a := a) (m := .deliver r) (by rw [hr]; rfl)
  | signal n => cases hquiet
  | engine tick =>
    obtain ⟨engine, htick, rfl⟩ := Option.map_eq_some_iff.1 hstep
    exact Engine.now_le_of_tick htick

/-- A session whose loop has failed is so near to the last instant that the clock
cannot hold another turn. -/
theorem last_lt_of_failed {moves : List SessionMove} (hquiet : Undisturbed moves)
    (hrun : s.run a v t moves = some s₁) (hstart : s.stage = .recording)
    (hfailed : s₁.stage = .failed) : Nanos.last < s₁.engine.scene.now + interval t := by
  refine run_keeps (P := fun s => s.stage = .failed → Nanos.last < s.engine.scene.now + interval t)
    ?_ hquiet hrun (fun h => absurd (hstart.symm.trans h) (by decide)) hfailed
  intro s m s' hm hlast hstep hfailed
  have hkept : s.stage = .failed → Nanos.last < s'.engine.scene.now + interval t := fun h =>
    Nat.lt_of_lt_of_le (hlast h) (Nat.add_le_add_right (now_le_of_step hm hstep) _)
  cases m with
  | loop => exact (loopMoves_of_loopStep hstep).last_lt_of_failed hfailed
  | read =>
    obtain ⟨-, -, hwithin⟩ := within_readStep hstep
    exact hkept (hwithin.stage_eq ▸ hfailed)
  | signal n => cases hm
  | engine tick =>
    obtain ⟨engine, htick, rfl⟩ := Option.map_eq_some_iff.1 hstep
    exact hkept hfailed

/-! ## The reader in the course -/

/-- The reader does not start again. -/
theorem Leads.finished (hleads : Leads a v t s s₁) (hfinished : s.reading = false) :
    s₁.reading = false := by
  rcases hleads with ⟨moves, hquiet, hrun⟩
  refine run_keeps (P := fun s => s.reading = false) ?_ hquiet hrun hfinished
  intro s m s' hm hfinished hstep
  cases m with
  | loop =>
    cases loopMoves_of_loopStep hstep with
    | record | askRunning | askWorkers | askReader | await | wake => exact hfinished
  | read =>
    obtain ⟨hreading, -, -⟩ := within_readStep hstep
    simp [hfinished] at hreading
  | signal n => cases hm
  | engine tick =>
    obtain ⟨engine, -, rfl⟩ := Option.map_eq_some_iff.1 hstep
    exact hfinished

/-- A reader that may take one step more than it has lines finishes. -/
theorem finished_of_readAll (a : Allocator ε σ) (h : v.Serves t) {fuel : Nat}
    (hfuel : s.lines.length < fuel) :
    (readAll v t false fuel s).reading = false := by
  induction fuel generalizing s with
  | zero => omega
  | succ fuel ih =>
    have hlaunched := (exists_ticks_launchAll (a := a) s.engine).2
    simp only [readAll, Bool.false_and, Bool.false_eq_true, if_false]
    split
    · rename_i s₁ hstep
      obtain ⟨-, -, hmoves⟩ := readMoves_of_readStep h hstep
      cases hmoves with
      | finish => exact (leads_readAll (a := a) fuel).finished rfl
      | @broken line rest hlines =>
        have hlength : s.lines = line :: rest := hlines
        rw [hlength, List.length_cons] at hfuel
        exact ih (by show 0 < fuel; omega)
      | @blank line rest text hlines | @accept line rest text command o hlines
      | @reject line rest text command error hlines =>
        have hlength : s.lines = line :: rest := hlines
        rw [hlength, List.length_cons] at hfuel
        exact ih (by show rest.length < fuel; omega)
    · rename_i hstuck
      by_contra hreading
      replace hreading : s.reading = true := by simpa using hreading
      cases hlines : s.lines with
      | nil => simp [readStep, hlaunched, hreading, hlines] at hstuck
      | cons line rest => simp [readStep, hlaunched, hreading, hlines] at hstuck

/-- By the end of its course a session has read all its lines, unless its loop has
failed. -/
theorem finished_of_course (h : v.Serves t) (hsteady : s.IsSteady)
    (hfailed : (course a v t none s).stage ≠ .failed) : (course a v t none s).reading = false := by
  obtain ⟨moves, hquiet, hrun⟩ := leads_turnLoop (a := a) (v := v) (t := t) (s := s) 16
  have hsteady' := hsteady.run hquiet hrun
  by_cases hstopped : (turnLoop v t 16 s).HasStopped
  · rw [course_of_stopped hstopped] at hfailed ⊢
    exact hsteady'.finished_of_over (hstopped.resolve_right hfailed)
  · rw [course_of_not_stopped hstopped]
    refine Leads.finished (leads_endWorkers.trans (leads_wakeLoop.trans (leads_turnLoop 16))) ?_
    exact finished_of_readAll a h (Nat.lt_add_of_pos_right Nat.two_pos)

end Session

end ResourceFaults.Host
