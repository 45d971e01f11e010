import Mathlib
import ResourceFaults.Proofs.Engine.Runs
import ResourceFaults.Session.Basic

/-!
# What a stop does to the workers that run

A stop lowers the signal, and a worker sees that only at its next look.  The
signal is one flag for all workers and every start raises it again, so what a
stop does to a worker is decided at the first look after it.

* `Engine.bodies` counts how often a worker begins its loop body in a run, and
  `Engine.firstLook?` finds its first look, with the moves before it.
* `Engine.bodies_eq_zero_iff` says that a worker begins no body exactly if its
  first look says no.  It is an induction over the run: before the look nothing
  is begun, and after a look that says no the worker is out of its loop.
* `Engine.exists_start_of_armed` says where a raised signal comes from.

`Engine.bodies_after_stop` puts these together.  A stop ends a worker unless a
start comes in between, and a worker that a start finds before its next look
goes on as if there had been no stop (`Engine.restart_revives_worker`).
-/

namespace ResourceFaults

/-- Whether a request raises the signal. -/
def Request.starts : Request → Bool
  | cpu _ | mem _ => true
  | stop | unrecognized _ => false

namespace Engine

variable {ε σ : Type} {a : Allocator ε σ} {e e' : Engine ε σ} {w : Worker σ} {i : Nat}

/-- Whether a move is a look of worker `i` at the signal and the clock. -/
def isLook (e : Engine ε σ) (i : Nat) : Move → Bool
  | .tick (.work j) => j == i && e.workers[i]?.any Worker.looks
  | _ => false

/-- Whether a move is a look of worker `i` that lets it begin its loop body. -/
def begins (e : Engine ε σ) (i : Nat) (m : Move) : Bool :=
  e.isLook i m && e.workers[i]?.any fun w => e.scene.goesOn w.deadline

/-- How often worker `i` begins its loop body in a run. -/
def bodies (a : Allocator ε σ) (i : Nat) : Engine ε σ → List Move → Nat
  | _, [] => 0
  | e, m :: ms =>
    (if e.begins i m then 1 else 0) +
      match e.step a m with
      | none => 0
      | some e => bodies a i e ms

/-- The first look of worker `i` in a run: the moves before it, and the engine at
which it is made. -/
def firstLook? (a : Allocator ε σ) (i : Nat) :
    Engine ε σ → List Move → Option (List Move × Engine ε σ)
  | _, [] => none
  | e, m :: ms =>
    if e.isLook i m then some ([], e)
    else
      match e.step a m with
      | none => none
      | some e => (firstLook? a i e ms).map fun (before, p) => (m :: before, p)

/-! ## Looks -/

theorem isLook_eq_true_iff {m : Move} (hw : e.workers[i]? = some w) :
    e.isLook i m = true ↔ m = .tick (.work i) ∧ w.looks = true := by
  unfold isLook
  split
  · simp [hw]
  · rename_i hne
    simp only [Bool.false_eq_true, false_iff, not_and]
    rintro rfl
    exact absurd rfl (hne i)

theorem begins_eq (m : Move) (hw : e.workers[i]? = some w) :
    e.begins i m = (e.isLook i m && e.scene.goesOn w.deadline) := by
  simp [begins, hw]

theorem bodies_cons {m : Move} {ms : List Move} {e₁ : Engine ε σ} (hw : e.workers[i]? = some w)
    (hstep : e.step a m = some e₁) :
    e.bodies a i (m :: ms) =
      (if e.isLook i m && e.scene.goesOn w.deadline then 1 else 0) + e₁.bodies a i ms := by
  rw [bodies, begins_eq m hw, hstep]

theorem firstLook?_cons_of_look {m : Move} {ms : List Move} (h : e.isLook i m = true) :
    e.firstLook? a i (m :: ms) = some ([], e) := by
  rw [firstLook?, if_pos h]

theorem firstLook?_cons_of_not_look {m : Move} {ms : List Move} {e₁ : Engine ε σ}
    (h : e.isLook i m = false) (hstep : e.step a m = some e₁) :
    e.firstLook? a i (m :: ms) =
      (e₁.firstLook? a i ms).map fun (before, p) => (m :: before, p) := by
  rw [firstLook?, h, hstep]
  rfl

/-- A move that is no look of worker `i` keeps its deadline and begins at most
the attempt that was due. -/
theorem worker_of_not_look {m : Move} (hstep : e.step a m = some e') (hw : e.workers[i]? = some w)
    (hlook : e.isLook i m = false) :
    ∃ w', e'.workers[i]? = some w' ∧ w'.deadline = w.deadline ∧
      (w.hasLeft = true → w'.hasLeft = true) ∧
      w'.attempts + (if w'.attempting then 1 else 0) ≤
        w.attempts + (if w.attempting then 1 else 0) := by
  rcases step_worker hstep hw with ⟨hsame, -⟩ | ⟨rfl, s, w', hmoves, hw'⟩
  · exact ⟨w, hsame, rfl, id, Nat.le_refl _⟩
  · have hlooks : w.looks = false := by
      rw [Bool.eq_false_iff, Ne, isLook_eq_true_iff hw] at hlook
      simpa using hlook
    refine ⟨w', hw', hmoves.deadline_eq, hmoves.hasLeft_of_hasLeft, ?_⟩
    rw [hmoves.attempts_eq, hmoves.attempting_eq_false hlooks]
    exact Nat.le_refl _

/-- A look of worker `i` that says no sends it out of its loop. -/
theorem worker_of_look {m : Move} (hstep : e.step a m = some e') (hw : e.workers[i]? = some w)
    (hlook : e.isLook i m = true) (hoff : e.scene.goesOn w.deadline = false) :
    ∃ w', e'.workers[i]? = some w' ∧ w'.hasLeft = true ∧ w'.attempts = w.attempts := by
  obtain ⟨rfl, hlooks⟩ := (isLook_eq_true_iff hw).1 hlook
  rcases step_worker hstep hw with ⟨-, hne⟩ | ⟨-, s, w', hmoves, hw'⟩
  · exact absurd rfl hne
  · refine ⟨w', hw', hmoves.hasLeft_of_looks hlooks hoff, ?_⟩
    have hattempting : w.attempting = false := by
      cases w <;> simp_all [Worker.looks, Worker.attempting]
    rw [hmoves.attempts_eq, hattempting]
    rfl

/-! ## Out of the loop -/

/-- A worker that has left its loop begins no body and no attempt any more. -/
theorem run_of_hasLeft {ms : List Move} (hw : e.workers[i]? = some w) (hleft : w.hasLeft = true)
    (hrun : e.run a ms = some e') :
    e.bodies a i ms = 0 ∧
      ∃ w', e'.workers[i]? = some w' ∧ w'.hasLeft = true ∧ w'.attempts ≤ w.attempts := by
  induction ms generalizing e w with
  | nil =>
    obtain rfl : e = e' := by simpa [run] using hrun
    exact ⟨rfl, w, hw, hleft, Nat.le_refl _⟩
  | cons m ms ih =>
    obtain ⟨e₁, hstep, hrest⟩ := run_cons_eq_some_iff.1 hrun
    have hlook : e.isLook i m = false := by
      rw [Bool.eq_false_iff, Ne, isLook_eq_true_iff hw, Worker.looks_eq_false hleft]
      simp
    obtain ⟨w₁, hw₁, -, hkeeps, hattempts⟩ := worker_of_not_look hstep hw hlook
    obtain ⟨hzero, w', hw', hleft', hle⟩ := ih hw₁ (hkeeps hleft) hrest
    refine ⟨by rw [bodies_cons hw hstep, hlook, hzero]; rfl, w', hw', hleft', ?_⟩
    rw [Worker.attempting_eq_false hleft] at hattempts
    simp only [Bool.false_eq_true, if_false, Nat.add_zero] at hattempts
    omega

/-! ## The first look decides -/

/-- A worker begins no body exactly if its first look says no, or it never
looks. -/
theorem bodies_eq_zero_iff {ms : List Move} (hw : e.workers[i]? = some w)
    (hrun : e.run a ms = some e') :
    e.bodies a i ms = 0 ↔
      ∀ before p, e.firstLook? a i ms = some (before, p) → p.scene.goesOn w.deadline = false := by
  induction ms generalizing e w with
  | nil => simp [bodies, firstLook?]
  | cons m ms ih =>
    obtain ⟨e₁, hstep, hrest⟩ := run_cons_eq_some_iff.1 hrun
    rw [bodies_cons hw hstep]
    cases hlook : e.isLook i m with
    | true =>
      rw [firstLook?_cons_of_look hlook]
      cases hon : e.scene.goesOn w.deadline with
      | true => simp [hon]
      | false =>
        obtain ⟨w₁, hw₁, hleft, -⟩ := worker_of_look hstep hw hlook hon
        simp [(run_of_hasLeft hw₁ hleft hrest).1, hon]
    | false =>
      obtain ⟨w₁, hw₁, hdeadline, -⟩ := worker_of_not_look hstep hw hlook
      rw [firstLook?_cons_of_not_look hlook hstep, Bool.false_and, if_neg (by simp), Nat.zero_add,
        ih hw₁ hrest, hdeadline]
      simp only [Option.map_eq_some_iff, Prod.exists, Prod.mk.injEq]
      constructor
      · rintro h _ p ⟨before, _, hfirst, rfl, rfl⟩
        exact h before _ hfirst
      · intro h before p hfirst
        exact h _ p ⟨before, p, hfirst, rfl, rfl⟩

/-- A worker that begins no body begins at most the attempt that was due, and is
out of its loop once it has looked. -/
theorem worker_of_bodies_eq_zero {ms : List Move} (hw : e.workers[i]? = some w)
    (hrun : e.run a ms = some e') (hzero : e.bodies a i ms = 0) :
    ∃ w', e'.workers[i]? = some w' ∧
      w'.attempts ≤ w.attempts + (if w.attempting then 1 else 0) ∧
      ((e.firstLook? a i ms).isSome → w'.hasLeft = true) := by
  induction ms generalizing e w with
  | nil =>
    obtain rfl : e = e' := by simpa [run] using hrun
    exact ⟨w, hw, Nat.le_add_right _ _, by simp [firstLook?]⟩
  | cons m ms ih =>
    obtain ⟨e₁, hstep, hrest⟩ := run_cons_eq_some_iff.1 hrun
    rw [bodies_cons hw hstep] at hzero
    cases hlook : e.isLook i m with
    | true =>
      have hoff : e.scene.goesOn w.deadline = false := by
        rw [hlook] at hzero
        cases hon : e.scene.goesOn w.deadline
        · rfl
        · simp [hon] at hzero
      obtain ⟨w₁, hw₁, hleft, hsame⟩ := worker_of_look hstep hw hlook hoff
      obtain ⟨-, w', hw', hleft', hle⟩ := run_of_hasLeft hw₁ hleft hrest
      exact ⟨w', hw', by omega, fun _ => hleft'⟩
    | false =>
      obtain ⟨w₁, hw₁, -, -, hattempts⟩ := worker_of_not_look hstep hw hlook
      obtain ⟨w', hw', hle, hleft⟩ := ih hw₁ hrest (by omega)
      refine ⟨w', hw', by omega, ?_⟩
      rw [firstLook?_cons_of_not_look hlook hstep, Option.isSome_map]
      exact hleft

/-- The first look is made after the moves before it. -/
theorem run_before_firstLook {ms before : List Move} {p : Engine ε σ}
    (h : e.firstLook? a i ms = some (before, p)) : e.run a before = some p := by
  induction ms generalizing e before with
  | nil => simp [firstLook?] at h
  | cons m ms ih =>
    rw [firstLook?] at h
    split at h
    · simp only [Option.some.injEq, Prod.mk.injEq] at h
      rcases h with ⟨rfl, rfl⟩
      rfl
    · split at h
      · cases h
      · rename_i e₁ hstep
        simp only [Option.map_eq_some_iff, Prod.exists, Prod.mk.injEq] at h
        rcases h with ⟨before, p, hfirst, rfl, rfl⟩
        exact run_cons_eq_some_iff.2 ⟨e₁, hstep, ih hfirst⟩

/-! ## Where a raised signal comes from -/

/-- A move after which the signal is up is a start, or it was up before and the
move is no stop. -/
theorem armed_of_step {m : Move} (hstep : e.step a m = some e') (harmed : e'.scene.armed = true) :
    (∃ r, m = .deliver r ∧ r.starts = true) ∨ e.scene.armed = true ∧ m ≠ .deliver .stop := by
  cases m with
  | deliver r =>
    obtain rfl : (e.execute r).1 = e' := by simpa [step] using hstep
    cases r with
    | cpu o => exact .inl ⟨_, rfl, rfl⟩
    | mem o => exact .inl ⟨_, rfl, rfl⟩
    | stop => simp [execute] at harmed
    | unrecognized c => exact .inr ⟨harmed, by simp⟩
  | tick t =>
    exact .inr ⟨armed_of_tick hstep harmed, by simp⟩

/-- A signal that is up after a run was raised in it, with no stop since, unless
it was up before. -/
theorem exists_start_of_armed {ms : List Move} (hrun : e.run a ms = some e')
    (hdown : e.scene.armed = false) (harmed : e'.scene.armed = true) :
    ∃ earlier r later, ms = earlier ++ .deliver r :: later ∧ r.starts = true ∧
      .deliver .stop ∉ later := by
  induction ms using List.reverseRecOn generalizing e' with
  | nil =>
    obtain rfl : e = e' := by simpa [run] using hrun
    simp [hdown] at harmed
  | append_singleton ms m ih =>
    rw [run_append, Option.bind_eq_some_iff] at hrun
    rcases hrun with ⟨e₁, hrun₁, hlast⟩
    obtain ⟨e₂, hstep, hnil⟩ := run_cons_eq_some_iff.1 hlast
    obtain rfl : e₂ = e' := by simpa [run] using hnil
    rcases armed_of_step hstep harmed with ⟨r, rfl, hr⟩ | ⟨harmed₁, hne⟩
    · exact ⟨ms, r, [], rfl, hr, by simp⟩
    · obtain ⟨earlier, r, later, rfl, hr, hlater⟩ := ih hrun₁ harmed₁
      refine ⟨earlier, r, later ++ [m], by simp, hr, ?_⟩
      simp [hlater, Ne.symm hne]

/-! ## After a stop -/

/-- What a stop comes to for a worker that has entered, in every run after it.
The worker begins a loop body after the stop exactly if its first look says yes.
As long as it begins none, it begins at most the one attempt that was due, and is
out of its loop once it has looked.  The signal that it finds at that look is up
only if a start was delivered after the stop, with no other stop since. -/
theorem bodies_after_stop {ms : List Move} (hw : e.workers[i]? = some w)
    (hrun : e.run a (.deliver .stop :: ms) = some e') :
    (e.disarm.bodies a i ms = 0 ↔
      ∀ before p, e.disarm.firstLook? a i ms = some (before, p) →
        p.scene.goesOn w.deadline = false) ∧
    (e.disarm.bodies a i ms = 0 →
      ∃ w', e'.workers[i]? = some w' ∧ w'.attempts ≤ w.attempts + 1 ∧
        ((e.disarm.firstLook? a i ms).isSome → w'.hasLeft = true)) ∧
    (∀ before p, e.disarm.firstLook? a i ms = some (before, p) → p.scene.armed = true →
      ∃ earlier r later, before = earlier ++ .deliver r :: later ∧ r.starts = true ∧
        .deliver .stop ∉ later) := by
  obtain ⟨e₁, hstep, hrest⟩ := run_cons_eq_some_iff.1 hrun
  obtain rfl : e.disarm = e₁ := by simpa [step, execute] using hstep
  have hw₁ : e.disarm.workers[i]? = some w := hw
  refine ⟨bodies_eq_zero_iff hw₁ hrest, fun hzero => ?_, fun before p hfirst harmed => ?_⟩
  · obtain ⟨w', hw', hle, hleft⟩ := worker_of_bodies_eq_zero hw₁ hrest hzero
    refine ⟨w', hw', Nat.le_trans hle ?_, hleft⟩
    split <;> omega
  · exact exists_start_of_armed (run_before_firstLook hfirst) rfl harmed

/-- An engine whose only worker takes blocks without a pause; it has just
entered. -/
def sleepless : Engine (List JournalEntry) BudgetState where
  scene := { armed := true, telemetry := { memActive := 1, memLaunched := 1 }, environment := [] }
  template := { budget := ⟨none, 0⟩ }
  workers :=
    [.memory
      { plan := ({ sleepMs := 0 } : Options).memoryPlan
        deadline := Deadline.after 0 ({} : Options).duration
        allocator := { budget := ⟨none, 0⟩ } }]

/-- After a stop the worker looks once, and is out of its loop. -/
theorem stop_ends_sleepless :
    ∃ e' w, sleepless.workers[0]? = some w ∧
      sleepless.run .budgeted [.deliver .stop, .tick (.work 0), .tick (.work 0)] = some e' ∧
      sleepless.disarm.bodies .budgeted 0 [.tick (.work 0), .tick (.work 0)] = 0 ∧
      ∃ w', e'.workers[0]? = some w' ∧ w'.attempts ≤ w.attempts + 1 ∧ w'.hasLeft = true := by
  have hrun := (Option.some_get (x := sleepless.run .budgeted
    [.deliver .stop, .tick (.work 0), .tick (.work 0)]) rfl).symm
  have hw := (Option.some_get (x := sleepless.workers[0]?) rfl).symm
  refine ⟨_, _, hw, hrun, rfl, ?_⟩
  obtain ⟨w', hw', hle, hleft⟩ := (bodies_after_stop hw hrun).2.1 rfl
  exact ⟨w', hw', hle, hleft rfl⟩

/-- A start that launches nobody, and seven steps of the first worker. -/
def revival : List Move :=
  .deliver (.cpu { threads := 0 }) :: List.replicate 7 (.tick (.work 0))

/-- A start revives a worker that was stopped before it: the worker begins two
more bodies, and two more attempts in them. -/
theorem restart_revives_worker :
    (Session.onBudget ⟨none, 0⟩).engine.run .budgeted
        [.deliver (.mem { sleepMs := 0 }), .tick (.launch 0)] = some sleepless ∧
      sleepless.disarm.bodies .budgeted 0 revival = 2 ∧
      ∃ (e' : Engine (List JournalEntry) BudgetState) (w w' : Worker BudgetState),
        sleepless.run .budgeted (.deliver .stop :: revival) = some e' ∧
        sleepless.workers[0]? = some w ∧ e'.workers[0]? = some w' ∧
        w'.attempts = w.attempts + 2 :=
  ⟨rfl, rfl, _, _, _, rfl, rfl, rfl, rfl⟩

end Engine

end ResourceFaults
