import Mathlib
import ResourceFaults.Proofs.Session.Rest

/-!
# A session in closed form

After any number of steps, with time to settle after each, the signal and the
counters are what `ClosedForm` makes of the deeds of the session: no trace is left
of the order in which the workers moved.

`Session.closed_form` says so for every course that a session can take, and that
the course which the session takes by itself is one of them.  A step sets the
engine on an errand (`Engine.Rests.onErrand`), and at the end of the errand the
engine rests again (`Engine.OnErrand.rests`).
-/

namespace ResourceFaults

/-! ## What a deed launches -/

/-- A duration of zero ends at once. -/
theorem Deadline.after_zero (now : Nanos) : Deadline.after now 0 = ⟨now⟩ := by
  rw [Deadline.after, Nat.add_zero]
  generalize Nanos.last = last, Nanos.farFuture = far
  by_cases hlast : now ≤ last
  · rw [if_pos hlast]
  · have hfar : ¬ now + far ≤ last := fun hle =>
      hlast (Nat.le_trans (Nat.le_add_right now far) hle)
    rw [if_neg hlast, if_neg hfar]

/-- What the deadlines of a deed are when it has just been carried out, as far as the
horizon is concerned. -/
def Deed.Due (horizon now : Nanos) : Deed BudgetState → Prop
  | cpu _ deadline | mem _ deadline _ => horizon < deadline.instant ∨ deadline.instant ≤ now
  | stop => True
  | cpuShort _ deadline _ instant =>
    (horizon < deadline.instant ∨ deadline.instant ≤ now) ∧ instant = now
  | memShort _ _ instant => instant = now

namespace Engine

variable {horizon : Nanos} {ds : List (Deed BudgetState)} {d : Deed BudgetState}
  {e e' : Engine (List JournalEntry) BudgetState} {n : Nat}

/-- A start without a duration is over at once. -/
theorem deadlineOf_of_zero {o : Options} (h : o.durationSecs = 0) :
    e.deadlineOf o = ⟨e.scene.now⟩ := by
  have hduration : o.duration = 0 := by simp [Options.duration, Nanos.ofSeconds, h]
  rw [deadlineOf, hduration, Deadline.after_zero]

/-- The workers of a fair start last exactly if it has a duration. -/
theorem lt_deadlineOf_iff {o : Options} (hnow : e.scene.now ≤ horizon)
    (hfair : o.durationSecs ≠ 0 → (e.deadlineOf o).hasPassed horizon = false) :
    horizon < (e.deadlineOf o).instant ↔ o.durationSecs ≠ 0 := by
  constructor
  · intro hlt hzero
    rw [deadlineOf_of_zero hzero] at hlt
    exact absurd hnow (Nat.not_le.2 hlt)
  · intro hduration
    simpa [Deadline.hasPassed] using hfair hduration

/-- A fair deed is proper. -/
theorem proper_of_fair {request : Request} (hdeed : e.deed? request = some d)
    (hfair : d.Fair horizon) (hnow : e.scene.now ≤ horizon) : d.Proper horizon := by
  rcases deed?_eq_some hdeed with ⟨o, rfl⟩ | ⟨o, rfl⟩ | rfl | ⟨o, threads, rfl⟩ | ⟨o, rfl⟩
  · exact lt_deadlineOf_iff hnow hfair
  · exact ⟨lt_deadlineOf_iff hnow fun hduration => (hfair.2 hduration).1, hfair.1⟩
  · trivial
  · exact ⟨lt_deadlineOf_iff hnow hfair, hnow⟩
  · exact ⟨hnow, hfair⟩

/-- The deadline of a worker of a fair start lies beyond the horizon or is now. -/
theorem due_of_start {o : Options} (hnow : e.scene.now ≤ horizon)
    (hfair : o.durationSecs ≠ 0 → (e.deadlineOf o).hasPassed horizon = false) :
    horizon < (e.deadlineOf o).instant ∨ (e.deadlineOf o).instant ≤ e.scene.now := by
  by_cases hzero : o.durationSecs = 0
  · rw [deadlineOf_of_zero hzero]
    exact .inr (Nat.le_refl _)
  · exact .inl ((lt_deadlineOf_iff hnow hfair).2 hzero)

/-- The deadlines of a fair deed lie beyond the horizon or are now. -/
theorem due_of_fair {request : Request} (hdeed : e.deed? request = some d)
    (hfair : d.Fair horizon) (hnow : e.scene.now ≤ horizon) : d.Due horizon e.scene.now := by
  rcases deed?_eq_some hdeed with ⟨o, rfl⟩ | ⟨o, rfl⟩ | rfl | ⟨o, threads, rfl⟩ | ⟨o, rfl⟩
  · exact due_of_start hnow hfair
  · exact due_of_start hnow fun hduration => (hfair.2 hduration).1
  · trivial
  · exact ⟨due_of_start hnow hfair, rfl⟩
  · rfl

end Engine

namespace Deed

variable {horizon now : Nanos} {d : Deed BudgetState} {w : Worker BudgetState}

/-- What a fair deed launches keeps to what holds of workers. -/
theorem minds_of_fair (hproper : d.Proper horizon) (hfair : d.Fair horizon)
    (hdue : d.Due horizon now) (hw : w ∈ d.workers) {s : Scene (List JournalEntry)}
    (hs : s.now = now) : w.Minds horizon s := by
  subst hs
  rcases mem_workers hw with ⟨deadline, rfl, hd⟩ | ⟨o, deadline, template, rfl, rfl⟩ |
    ⟨o, deadline, threads, now, rfl, rfl⟩ | ⟨o, template, now, rfl, rfl⟩
  · have hdue : horizon < deadline.instant ∨ deadline.instant ≤ s.now := by
      rcases hd with ⟨o, rfl⟩ | ⟨o, threads, now, rfl⟩
      · exact hdue
      · exact hdue.1
    exact ⟨hdue, fun _ _ => ⟨rfl, id⟩, trivial, fun m hm => by cases hm⟩
  · rcases hfair with ⟨hcalls, hbudget⟩
    have hbudget := fun hlt => hbudget (hproper.1.1 hlt)
    refine ⟨hdue, fun _ _ => ⟨rfl, ?_⟩, Worker.IsFresh.sound ⟨.inl rfl, rfl, rfl⟩, ?_⟩
    · intro h
      rcases h with ⟨hpos, hle⟩
      rw [hcalls] at hle
      exact absurd hpos (Nat.not_lt.2 hle)
    · rintro m hm
      obtain rfl := Worker.memory.inj hm
      exact MemoryWorker.onBudget_of_launch hcalls (fun hlt => (hbudget hlt).2.1)
        fun hlt => (hbudget hlt).2.2
  -- a worker without a thread does not last
  · exact ⟨.inr hdue.2.le, fun _ hlasts => absurd hproper.2 (Nat.not_le.2 hlasts), trivial,
      fun m hm => by cases hm⟩
  · refine ⟨.inr (Eq.le hdue), fun _ hlasts => absurd hproper.1 (Nat.not_le.2 hlasts),
      Worker.IsFresh.sound ⟨.inr rfl, rfl, rfl⟩, ?_⟩
    rintro m hm
    obtain rfl := Worker.memory.inj hm
    exact MemoryWorker.onBudget_of_short hfair hproper.1

theorem isFresh_of_mem (hw : w ∈ d.workers) : w.IsFresh := by
  rcases mem_workers hw with ⟨deadline, rfl, -⟩ | ⟨o, deadline, template, -, rfl⟩ |
    ⟨o, deadline, threads, now, -, rfl⟩ | ⟨o, template, now, -, rfl⟩
  · exact .inl rfl
  · exact ⟨.inl rfl, rfl, rfl⟩
  · exact .inr rfl
  · exact ⟨.inr rfl, rfl, rfl⟩

theorem requesting_of_mem (hw : w ∈ d.workers) : w.requesting = false := by
  rcases mem_workers hw with ⟨deadline, rfl, -⟩ | ⟨o, deadline, template, -, rfl⟩ |
    ⟨o, deadline, threads, now, -, rfl⟩ | ⟨o, template, now, -, rfl⟩ <;> rfl

/-- Only the worker of a `mem` that has a thread and lasts has debts. -/
theorem eq_mem_of_debt (hproper : d.Proper horizon) (hw : w ∈ d.workers)
    (hpos : 0 < w.debt horizon) :
    ∃ o deadline template, d = .mem o deadline template ∧
      w = .memory { plan := o.memoryPlan, deadline, allocator := template } ∧ d.lasts = true := by
  rcases mem_workers hw with ⟨deadline, rfl, -⟩ | ⟨o, deadline, template, rfl, rfl⟩ |
    ⟨o, deadline, threads, now, rfl, rfl⟩ | ⟨o, template, now, rfl, rfl⟩
  · cases hpos
  · refine ⟨o, deadline, template, rfl, rfl, ?_⟩
    by_contra hnot
    have hnot : ¬ horizon < deadline.instant := fun hlt =>
      hnot (by simpa [lasts] using hproper.1.1 hlt)
    simp [Worker.debt, hnot] at hpos
  · cases hpos
  · simp [Worker.debt, Nat.not_lt.2 hproper.1] at hpos

/-- The debts that a deed brings. -/
theorem sum_debt (hproper : d.Proper horizon) :
    (d.workers.map (·.debt horizon)).sum = if d.lasts then d.quota Budget.attempts else 0 := by
  cases d with
  | cpu o deadline => simp [workers, Worker.debt, quota]
  | mem o deadline template => simp [workers, Worker.debt, quota, lasts, hproper.1, hproper.2]
  | stop => rfl
  | cpuShort o deadline threads now =>
    simp [workers, Worker.debt, Worker.withoutThread, quota]
  | memShort o template now =>
    simp [workers, Worker.debt, lasts, Nat.not_lt.2 hproper.1]

/-- What the journal gains with a deed. -/
theorem replicate_debt (hproper : d.Proper horizon) (bytes : UInt64)
    (hbytes : ∀ o deadline template, d = .mem o deadline template → bytes = o.blockBytes) :
    List.replicate (d.workers.map (·.debt horizon)).sum bytes =
      ([d].filter Deed.lasts).flatMap Deed.sizes := by
  rw [sum_debt hproper]
  cases hlasts : d.lasts with
  | false => simp [hlasts]
  | true =>
    cases d with
    | mem o deadline template => simp [hlasts, sizes, quota, hbytes _ _ _ rfl]
    | cpu | stop | cpuShort | memShort => simp [hlasts, sizes, quota]

/-- The signal is left as the deed says. -/
theorem getLastD_signals (d : Deed BudgetState) (l : List Bool) :
    (l ++ d.signals).getLastD false = !d.isStop := by
  cases d with
  | mem o deadline template =>
    cases hstop : (mem o deadline template).isStop <;> simp [signals, hstop]
  | cpu | stop | cpuShort | memShort => simp [signals, isStop]

theorem sinceStop_append (ds : List (Deed BudgetState)) (d : Deed BudgetState) :
    sinceStop (ds ++ [d]) = if d.isStop then [] else sinceStop ds ++ [d] := by
  rw [sinceStop, List.rtakeWhile_concat]
  cases d.isStop <;> rfl

end Deed

/-! ## A step sets an engine on an errand -/

namespace Engine

/-- The errand of an engine that rests, with the first `n` workers over, when a
step comes that may be a deed. -/
def errand (horizon : Nanos) (e : Engine (List JournalEntry) BudgetState) (n : Nat)
    (deed : Option (Deed BudgetState)) : Errand where
  horizon
  old := e.workers.take n
  young := (e.workers.drop n ++ deed.toList.flatMap Deed.workers).map Worker.origin
  sizes := e.scene.sizes ++ (deed.toList.filter Deed.lasts).flatMap Deed.sizes
  bytes :=
    match deed with
    | some (.mem o _ _) => o.blockBytes
    | _ => 0
  lowers :=
    match deed with
    | some d => d.isStop
    | none => !e.scene.armed

namespace Rests

variable {horizon : Nanos} {ds : List (Deed BudgetState)} {d : Deed BudgetState}
  {e e' : Engine (List JournalEntry) BudgetState} {n : Nat} (h : e.Rests horizon ds n)

include h

/-- The debts after a deed are those of the worker that it launches. -/
theorem debts (hproper : d.Proper horizon) :
    ∀ w ∈ e.workers.drop n ++ d.workers, 0 < w.debt horizon →
      ∃ o deadline template, d = .mem o deadline template ∧
        w = .memory { plan := o.memoryPlan, deadline, allocator := template } ∧
        d.lasts = true := by
  intro w hw hpos
  rcases List.mem_append.1 hw with hw | hw
  · rw [h.debtless w hw] at hpos
    cases hpos
  · exact Deed.eq_mem_of_debt hproper hw hpos

/-- A deed sets an engine that rests on an errand. -/
theorem holds_carryOut (hproper : d.Proper horizon)
    (hminds : ∀ w ∈ d.workers, ∀ s : Scene (List JournalEntry), s.now = e.scene.now →
      w.Minds horizon s) :
    (e.errand horizon n (some d)).Holds (e.carryOut d).scene
      (e.workers.drop n ++ d.workers) := by
  have hdebts := h.debts hproper
  have htelemetry : (e.carryOut d).scene.telemetry = e.scene.telemetry := by cases d <;> rfl
  have hsizes : (e.carryOut d).scene.sizes = e.scene.sizes := by cases d <;> rfl
  have hnow : (e.carryOut d).scene.now = e.scene.now := by cases d <;> rfl
  have hzero : ((e.workers.drop n).map (·.debt horizon)).sum = 0 := by
    apply List.sum_eq_zero
    intro m hm
    obtain ⟨w, hw, rfl⟩ := List.mem_map.1 hm
    exact h.debtless w hw
  refine
    { origins := ?_
      minds := ?_
      owing := ?_
      single := ?_
      silent := ?_
      raised := ?_
      journal := ?_
      latest := ?_
      coming := ?_ }
  · simp [errand]
  · intro w hw
    rcases List.mem_append.1 hw with hw | hw
    · apply (h.minds w hw).mono hnow.ge
      intro _
      by_contra hdown
      rw [h.silent (by simpa using hdown), List.drop_length] at hw
      cases hw
    · exact hminds w hw _ hnow
  · intro w hw hpos
    obtain ⟨o, deadline, template, rfl, rfl, hlasts⟩ := hdebts w hw hpos
    have hlasts : (o.durationSecs != 0) = true := hlasts
    refine ⟨rfl, ?_⟩
    show template.budget.lowers = (o.durationSecs != 0 && template.budget.lowers)
    rw [hlasts, Bool.true_and]
  · rw [List.countP_append]
    have hnone : (e.workers.drop n).countP (fun w => 0 < w.debt horizon) = 0 :=
      List.countP_eq_zero.2 fun w hw => by simp [h.debtless w hw]
    have hone : d.workers.countP (fun w => 0 < w.debt horizon) ≤ 1 := by
      by_cases hmem : ∃ o deadline template, d = .mem o deadline template
      · obtain ⟨o, deadline, template, rfl⟩ := hmem
        exact List.countP_le_length
      · have hnone : d.workers.countP (fun w => 0 < w.debt horizon) = 0 := by
          refine List.countP_eq_zero.2 fun w hw hpos => hmem ?_
          obtain ⟨o, deadline, template, hd, -⟩ :=
            Deed.eq_mem_of_debt hproper hw (of_decide_eq_true hpos)
          exact ⟨o, deadline, template, hd⟩
        exact hnone.le.trans (Nat.zero_le 1)
    show (e.workers.drop n).countP (fun w => 0 < w.debt horizon) +
      d.workers.countP (fun w => 0 < w.debt horizon) ≤ 1
    omega
  · intro hdown w hw
    by_contra hne
    obtain ⟨o, deadline, template, rfl, -, -⟩ := hdebts w hw (Nat.pos_of_ne_zero hne)
    cases hdown
  · intro hnot
    cases d with
    | stop => cases hnot
    | _ => rfl
  · rw [List.map_append, List.sum_append, hsizes]
    show e.scene.sizes ++ List.replicate (((e.workers.drop n).map (·.debt horizon)).sum +
      (d.workers.map (·.debt horizon)).sum) (e.errand horizon n (some d)).bytes = _
    rw [hzero, Nat.zero_add, Deed.replicate_debt hproper]
    · rfl
    · rintro o deadline template rfl
      rfl
  · intro _
    rw [htelemetry, hsizes]
    exact h.latest
  · intro w hw hreq
    rcases List.mem_append.1 hw with hw | hw
    · rw [Worker.requesting_eq_false (h.rest.2 w (List.mem_of_mem_drop hw))] at hreq
      cases hreq
    · rw [Deed.requesting_of_mem hw] at hreq
      cases hreq

/-- Without a deed an engine that rests has nothing to do. -/
theorem holds_none : (e.errand horizon n none).Holds e.scene (e.workers.drop n) := by
  have hdebt : ∀ w ∈ e.workers.drop n, w.debt (e.errand horizon n none).horizon = 0 := h.debtless
  have hzero : ((e.workers.drop n).map (·.debt (e.errand horizon n none).horizon)).sum = 0 := by
    apply List.sum_eq_zero
    intro m hm
    obtain ⟨w, hw, rfl⟩ := List.mem_map.1 hm
    exact hdebt w hw
  refine
    { origins := ?_
      minds := h.minds
      owing := ?_
      single := ?_
      silent := fun _ => hdebt
      raised := ?_
      journal := ?_
      latest := fun _ => h.latest
      coming := ?_ }
  · simp [errand]
  · intro w hw hpos
    rw [hdebt w hw] at hpos
    cases hpos
  · rw [List.countP_eq_zero.2 fun w hw => by simp [hdebt w hw]]
    exact Nat.zero_le 1
  · intro hnot
    simpa [errand] using hnot
  · rw [hzero]
    simp [errand]
  · intro w hw hreq
    rw [Worker.requesting_eq_false (h.rest.2 w (List.mem_of_mem_drop hw))] at hreq
    cases hreq

/-- Every step sets an engine that rests on an errand. -/
theorem onErrand {deed : Option (Deed BudgetState)} (template : BudgetState)
    (hproper : ∀ d ∈ deed, d.Proper horizon)
    (hminds : ∀ d ∈ deed, ∀ w ∈ d.workers, ∀ s : Scene (List JournalEntry),
      s.now = e.scene.now → w.Minds horizon s) :
    ({ (deed.map e.carryOut).getD e with template } :
      Engine (List JournalEntry) BudgetState).OnErrand (e.errand horizon n deed) := by
  have hlength : (e.errand horizon n deed).old.length = n := by
    show (e.workers.take n).length = n
    rw [List.length_take, Nat.min_eq_left h.cut]
  obtain ⟨hgauge, hsound, -⟩ := h.booked
  cases deed with
  | none =>
    refine ⟨?_, h.past, ?_, ⟨hgauge, hsound, h.booked.fresh⟩⟩
    · rw [hlength]
      rfl
    · rw [hlength, since]
      show (e.errand horizon n none).Holds e.scene (e.workers.drop n ++ e.launching)
      rw [h.rest.1, List.append_nil]
      exact h.holds_none
  | some d =>
    have hworkers : (e.carryOut d).workers = e.workers := by cases d <;> rfl
    have hlaunching : (e.carryOut d).launching = d.workers := by
      cases d with
      | stop => exact h.rest.1
      | _ =>
        show e.launching ++ _ = _
        rw [h.rest.1, List.nil_append]
    have htelemetry : (e.carryOut d).scene.telemetry = e.scene.telemetry := by cases d <;> rfl
    refine ⟨?_, h.past, ?_, ⟨fun g => ?_, ?_, ?_⟩⟩
    · rw [hlength]
      show (e.carryOut d).workers.take n = e.workers.take n
      rw [hworkers]
    · rw [hlength, since]
      show (e.errand horizon n (some d)).Holds (e.carryOut d).scene
        ((e.carryOut d).workers.drop n ++ (e.carryOut d).launching)
      rw [hworkers, hlaunching]
      exact h.holds_carryOut (hproper d rfl) (hminds d rfl)
    · show (e.carryOut d).scene.telemetry.gauge g =
        UInt64.ofNat ((e.carryOut d).workers.map (·.share g)).sum
      rw [htelemetry, hworkers]
      exact hgauge g
    · show ∀ w ∈ (e.carryOut d).workers, w.Sound
      rw [hworkers]
      exact hsound
    · show ∀ w ∈ (e.carryOut d).launching, w.IsFresh
      rw [hlaunching]
      exact fun w hw => Deed.isFresh_of_mem hw

end Rests

/-! ## The end of an errand -/

section Settled

variable {horizon : Nanos} {ds : List (Deed BudgetState)} {n : Nat}
  {e e' : Engine (List JournalEntry) BudgetState}
  {deed : Option (Deed BudgetState)} {template : BudgetState} {ts : List Tick}
  (hproper : ∀ d ∈ deed, d.Proper horizon)
  (hticks : ({ (deed.map e.carryOut).getD e with template } :
    Engine (List JournalEntry) BudgetState).run .budgeted (ts.map .tick) = some e')
  (hon : e'.OnErrand (e.errand horizon n deed)) (hrest : e'.IsAtRest)

include hproper hticks hon hrest

/-- At the end of an errand the signal is as the errand has it. -/
theorem OnErrand.armed_eq : e'.scene.armed = !(e.errand horizon n deed).lowers := by
  cases hlowers : (e.errand horizon n deed).lowers with
  | false => exact hon.holds.raised hlowers
  | true =>
    by_contra hup
    have hup : e'.scene.armed = true := by simpa using hup
    have hbefore := armed_of_ticks hticks hup
    cases deed with
    | none =>
      have hdown : e.scene.armed = false := by simpa [errand] using hlowers
      have hup : e.scene.armed = true := hbefore
      rw [hdown] at hup
      cases hup
    | some d =>
      cases d with
      | cpu | cpuShort | memShort => cases hlowers
      | stop => cases hbefore
      | mem o deadline state =>
        have hlowers : (o.durationSecs != 0 && state.budget.lowers) = true := hlowers
        obtain ⟨hduration, hbudget⟩ := Bool.and_eq_true_iff.1 hlowers
        have hmem :
            (Worker.memory { plan := o.memoryPlan, deadline, allocator := state }).origin ∈
              (e.errand horizon n (some (.mem o deadline state))).young := by
          simp [errand, Deed.workers]
        have hlasts : horizon < deadline.instant :=
          (hproper _ rfl).1.2 (by simpa using hduration)
        -- the worker of the deed has made its last request, which lowered the signal
        obtain ⟨w, hw, horigin⟩ := List.mem_map.1 (hon.holds.origins.mem_iff.2 hmem)
        have hmind := hon.holds.minds w hw
        have hsettled : w.isSettled e'.scene = true := by
          rw [since, hrest.1, List.append_nil] at hw
          exact hrest.2 w (List.mem_of_mem_drop hw)
        have hdebt := hmind.debt_eq_zero hsettled hup
        cases w with
        | cpu w => cases horigin
        | memory w =>
          obtain ⟨-, hdeadline, hallocator, -⟩ :=
            MemoryWorker.mk.inj (Worker.memory.inj horigin)
          have hsame : w.allocator.budget = state.budget := (BudgetState.mk.inj hallocator).1
          have hlasts : horizon < w.deadline.instant := hdeadline ▸ hlasts
          have hnot := (hmind.heeds hup hlasts).2
          simp only [Budget.lowers, Bool.and_eq_true, decide_eq_true_eq, beq_iff_eq,
            ← hsame] at hbudget
          have hdebt : (if horizon < w.deadline.instant then
            w.allocator.budget.attempts - w.allocator.calls else 0) = 0 := hdebt
          rw [if_pos hlasts] at hdebt
          refine hnot ⟨hbudget.1, ?_⟩
          rw [hbudget.2]
          exact Nat.le_of_sub_eq_zero hdebt

/-- At the end of an errand the engine rests again. -/
theorem OnErrand.rests (h : e.Rests horizon ds n) :
    ∃ n', e'.Rests horizon (ds ++ deed.toList) n' := by
  have harmed := OnErrand.armed_eq hproper hticks hon hrest
  have hlength : (e.errand horizon n deed).old.length = n := by
    show (e.workers.take n).length = n
    rw [List.length_take, Nat.min_eq_left h.cut]
  rcases hon with ⟨hold, hended, hholds, hbooked⟩
  rw [hlength] at hold
  have hcut : n ≤ e'.workers.length := by
    have := congrArg List.length hold
    rw [List.length_take] at this
    omega
  have hsince : e'.since (e.errand horizon n deed).old.length = e'.workers.drop n := by
    rw [hlength, since, hrest.1, List.append_nil]
  rw [hsince] at hholds
  have hsettled : ∀ w ∈ e'.workers.drop n, w.isSettled e'.scene = true := fun w hw =>
    hrest.2 w (List.mem_of_mem_drop hw)
  have hdebt : ∀ w ∈ e'.workers.drop n, w.debt horizon = 0 := by
    intro w hw
    cases hup : e'.scene.armed with
    | true => exact (hholds.minds w hw).debt_eq_zero (hsettled w hw) hup
    | false => exact hholds.silent hup w hw
  have hproper' : ∀ d ∈ ds ++ deed.toList, d.Proper horizon := by
    intro d hd
    rcases List.mem_append.1 hd with hd | hd
    · exact h.proper d hd
    · exact hproper d (Option.mem_toList.1 hd)
  have horigins : (e'.workers.map Worker.origin).Perm
      (((ds ++ deed.toList).flatMap Deed.workers).map Worker.origin) := by
    rw [← List.take_append_drop n e'.workers, hold, List.map_append]
    apply (hholds.origins.append_left _).trans
    show (((e.workers.take n).map Worker.origin) ++ (e.workers.drop n ++
      deed.toList.flatMap Deed.workers).map Worker.origin).Perm _
    rw [← List.map_append, ← List.append_assoc, List.take_append_drop, List.flatMap_append,
      List.map_append, List.map_append]
    exact h.origins.append_right _
  have hsizes : e'.scene.sizes = ((ds ++ deed.toList).filter Deed.lasts).flatMap Deed.sizes := by
    have hjournal := hholds.journal
    have hzero : (e'.workers.drop n |>.map (·.debt horizon)).sum = 0 := by
      apply List.sum_eq_zero
      intro m hm
      obtain ⟨w, hw, rfl⟩ := List.mem_map.1 hm
      exact hdebt w hw
    rw [show ((e'.workers.drop n).map (·.debt (e.errand horizon n deed).horizon)).sum = 0
      from hzero, List.replicate_zero, List.append_nil] at hjournal
    rw [hjournal, List.filter_append, List.flatMap_append, ← h.sizes]
    rfl
  have hlatest : e'.scene.telemetry.lastBlockBytes = e'.scene.sizes.getLastD 0 :=
    hholds.latest fun w hw => Worker.requesting_eq_false (hsettled w hw)
  have hsignals : e'.scene.armed =
      ((ds ++ deed.toList).flatMap Deed.signals).getLastD false := by
    rw [harmed, List.flatMap_append]
    cases deed with
    | none =>
      have hbefore := h.armed
      simp only [errand, Option.toList_none, List.flatMap_nil, List.append_nil, Bool.not_not]
      exact hbefore
    | some d =>
      simp only [errand, Option.toList_some, List.flatMap_cons, List.flatMap_nil, List.append_nil]
      exact (Deed.getLastD_signals d _).symm
  cases hup : e'.scene.armed with
  | true =>
    refine ⟨n, hrest, hcut, ?_, hholds.minds, hdebt, hbooked, hproper', horigins, ?_,
      fun hdown => absurd hup (by simp [hdown]), hsignals, hsizes, hlatest⟩
    · rw [hold]
      exact h.past
    · apply hholds.origins.trans
      have hkeeps : Deed.sinceStop (ds ++ deed.toList) = Deed.sinceStop ds ++ deed.toList := by
        rw [hup] at harmed
        cases deed with
        | none => simp
        | some d =>
          have hnot : d.isStop = false := by simpa [errand] using harmed.symm
          rw [Option.toList_some, Deed.sinceStop_append, if_neg (by simp [hnot])]
      show ((e.workers.drop n ++ deed.toList.flatMap Deed.workers).map Worker.origin).Perm _
      rw [hkeeps, List.flatMap_append, List.map_append, List.map_append]
      exact h.young.append_right _
  | false =>
    refine ⟨e'.workers.length, hrest, Nat.le_refl _, ?_, ?_, ?_, hbooked, hproper', horigins, ?_,
      fun _ => rfl, hsignals, hsizes, hlatest⟩
    · rw [List.take_length, ← List.take_append_drop n e'.workers, hold]
      intro w hw
      rcases List.mem_append.1 hw with hw | hw
      · exact h.past w hw
      · exact (hholds.minds w hw).isOver (hsettled w hw) (hdebt w hw) hup
    · rw [List.drop_length]
      exact fun w hw => absurd hw List.not_mem_nil
    · rw [List.drop_length]
      exact fun w hw => absurd hw List.not_mem_nil
    · have hnone : (Deed.sinceStop (ds ++ deed.toList)).flatMap Deed.workers = [] := by
        rw [hup] at harmed
        cases deed with
        | none =>
          rw [Option.toList_none, List.append_nil]
          exact h.workers_sinceStop (by simpa [errand] using harmed.symm)
        | some d =>
          have hstop : d.isStop = true := by simpa [errand] using harmed
          rw [Option.toList_some, Deed.sinceStop_append, if_pos hstop]
          rfl
      rw [hnone, List.drop_length]

end Settled

end Engine

/-! ## Courses of a session -/

namespace Session

variable {processes : ProcessTable} {horizon : Nanos} {ds ds' : List (Deed BudgetState)} {n : Nat}
  {s s' : Session (List JournalEntry) BudgetState} {step : SessionStep BudgetState}
  {steps : List (SessionStep BudgetState)}

/-- A step sets an engine that rests on an errand. -/
theorem perform_onErrand (h : s.engine.Rests horizon ds n)
    (hfair : ∀ d ∈ s.deed? processes step, d.Fair horizon) (hnow : s.engine.scene.now ≤ horizon) :
    (∀ d ∈ s.deed? processes step, d.Proper horizon) ∧
      (s.perform processes step).1.engine.OnErrand
        (s.engine.errand horizon n (s.deed? processes step)) := by
  have hrequest : ∀ d ∈ s.deed? processes step, ∃ r, s.engine.deed? r = some d := by
    intro d hd
    obtain ⟨r, -, hr⟩ := Option.bind_eq_some_iff.1 hd
    exact ⟨r, hr⟩
  have hproper : ∀ d ∈ s.deed? processes step, d.Proper horizon := by
    intro d hd
    obtain ⟨r, hr⟩ := hrequest d hd
    exact Engine.proper_of_fair hr (hfair d hd) hnow
  refine ⟨hproper, ?_⟩
  rw [perform_engine]
  apply h.onErrand _ hproper
  intro d hd w hw s' hs'
  obtain ⟨r, hr⟩ := hrequest d hd
  exact Deed.minds_of_fair (hproper d hd) (hfair d hd)
    (Engine.due_of_fair hr (hfair d hd) hnow) hw hs'

/-- No course of a session goes back in time. -/
theorem now_le_perform : s.engine.scene.now ≤ (s.perform processes step).1.engine.scene.now := by
  rw [perform_engine]
  cases s.deed? processes step with
  | none => exact Nat.le_refl _
  | some d => cases d <;> exact Nat.le_refl _

theorem Unfolds.now_le (h : Unfolds .budgeted processes s steps ds s') :
    s.engine.scene.now ≤ s'.engine.scene.now := by
  induction h with
  | done => exact Nat.le_refl _
  | step hticks hrest hlater ih =>
    exact now_le_perform.trans ((Engine.now_le_of_ticks hticks).trans ih)

/-- After every course of a session the engine rests. -/
theorem Unfolds.rests (h : Unfolds .budgeted processes s steps ds' s')
    (hrests : s.engine.Rests horizon ds n) (hfair : ∀ d ∈ ds', d.Fair horizon)
    (hnow : s'.engine.scene.now ≤ horizon) : ∃ n', s'.engine.Rests horizon (ds ++ ds') n' := by
  induction h generalizing ds n with
  | done => exact ⟨n, by rwa [List.append_nil]⟩
  | @step s s' step steps ts e ds' hticks hrest hlater ih =>
    have hlast := hlater.now_le.trans hnow
    have hfirst := now_le_perform.trans ((Engine.now_le_of_ticks hticks).trans hlast)
    obtain ⟨hproper, hon⟩ := perform_onErrand hrests
      (fun d hd => hfair d (List.mem_append_left _ (Option.mem_toList.2 hd))) hfirst
    have hon := hon.ticks hticks hlast
    rw [perform_engine] at hticks
    obtain ⟨n', hrests'⟩ := Engine.OnErrand.rests hproper hticks hon hrest hrests
    obtain ⟨n'', hrests''⟩ := ih hrests' (fun d hd => hfair d (List.mem_append_right _ hd)) hnow
    exact ⟨n'', by rwa [List.append_assoc] at hrests''⟩

/-- A session on a budget rests at its start. -/
theorem rests_onBudget (budget : Budget) (shortages : List (Option Shortage)) :
    (onBudget budget shortages).engine.Rests horizon [] 0 where
  rest := ⟨rfl, fun _ hw => absurd hw List.not_mem_nil⟩
  cut := Nat.le_refl 0
  past _ hw := absurd hw List.not_mem_nil
  minds _ hw := absurd hw List.not_mem_nil
  debtless _ hw := absurd hw List.not_mem_nil
  booked :=
    ⟨fun g => by cases g <;> rfl, fun _ hw => absurd hw List.not_mem_nil,
      fun _ hw => absurd hw List.not_mem_nil⟩
  proper _ hd := absurd hd List.not_mem_nil
  origins := .refl _
  young := .refl _
  silent _ := rfl
  armed := rfl
  sizes := rfl
  latest := rfl

/-! ## The course that a session takes by itself -/

/-- No worker makes more requests than a session has patience for. -/
theorem attempts_le_patience (state : BudgetState) : state.budget.attempts ≤ state.patience := by
  unfold Budget.attempts BudgetState.patience
  cases state.budget.failAfter with
  | none => exact Nat.le_succ _
  | some limit =>
    show (if state.budget.stopAfter = 0 then limit + 1 else min state.budget.stopAfter (limit + 1))
      ≤ state.budget.stopAfter + limit + 1
    split <;> omega

/-- The fuel of a session is enough for an engine whose debts it has patience for. -/
theorem weight_le_fuel {e : Engine (List JournalEntry) BudgetState} {patience : Nat}
    (hworkers : ∀ w ∈ e.workers, w.weight horizon e.scene.now ≤ 8)
    (hdebt : (e.launching.map (·.debt horizon)).sum ≤ patience) :
    e.weight horizon ≤ fuel patience e := by
  have hentered : (e.workers.map (·.weight horizon e.scene.now)).sum ≤ e.workers.length * 8 := by
    have hsum := List.sum_le_sum hworkers
    rwa [List.map_const', List.sum_replicate, smul_eq_mul] at hsum
  have hone : ∀ w ∈ e.launching,
      w.weight horizon e.scene.now + 1 ≤ 8 * w.debt horizon + 9 := by
    intro w _
    have hstage := w.stageWeight_le e.scene.now
    have hweight : w.weight horizon e.scene.now ≤ _ := Worker.weight_le
    omega
  have hlaunching : (e.launching.map fun w => w.weight horizon e.scene.now + 1).sum ≤
      8 * (e.launching.map (·.debt horizon)).sum + e.launching.length * 9 := by
    apply (List.sum_le_sum hone).trans
    rw [List.sum_map_add, List.sum_map_mul_left, List.map_const', List.sum_replicate, smul_eq_mul]
  have hroom : (e.launching.length + e.workers.length) * 16 ≤
      (e.launching.length + e.workers.length) * (8 * patience + 16) :=
    Nat.mul_le_mul_left _ (Nat.le_add_left 16 _)
  unfold Engine.weight fuel
  calc
    _ ≤ 8 * (e.launching.map (·.debt horizon)).sum + e.launching.length * 9 +
        e.workers.length * 8 := Nat.add_le_add hlaunching hentered
    _ ≤ (e.launching.length + e.workers.length) * 16 + (8 * patience + 16) := by omega
    _ ≤ (e.launching.length + e.workers.length) * (8 * patience + 16) + (8 * patience + 16) :=
      Nat.add_le_add_right hroom _
    _ = (e.launching.length + e.workers.length + 1) * (8 * patience + 16) :=
      (Nat.succ_mul _ _).symm

variable {patience : BudgetState → Nat}

/-- A step that a session takes by itself ends with a sequence of ticks. -/
theorem exists_ticks_step (processes : ProcessTable) (s : Session (List JournalEntry) BudgetState)
    (step : SessionStep BudgetState) (patience : BudgetState → Nat) :
    ∃ ts : List Tick, (s.perform processes step).1.engine.run .budgeted (ts.map .tick) =
      some (s.step .budgeted processes patience step).1.engine :=
  Engine.exists_ticks_settle _

theorem step_eq :
    ({ (s.perform processes step).1 with
        engine := (s.step .budgeted processes patience step).1.engine } :
      Session (List JournalEntry) BudgetState) =
      (s.step .budgeted processes patience step).1 := rfl

theorem now_le_step :
    (s.perform processes step).1.engine.scene.now ≤
      (s.step .budgeted processes patience step).1.engine.scene.now := by
  obtain ⟨ts, hts⟩ := exists_ticks_step processes s step patience
  exact Engine.now_le_of_ticks hts

theorem run_cons :
    (s.run .budgeted processes patience (step :: steps)).1 =
      ((s.step .budgeted processes patience step).1.run .budgeted processes patience steps).1 :=
  rfl

theorem now_le_run :
    s.engine.scene.now ≤ (s.run .budgeted processes patience steps).1.engine.scene.now := by
  induction steps generalizing s with
  | nil => exact Nat.le_refl _
  | cons step steps ih => exact now_le_perform.trans (now_le_step.trans ih)

/-- A session has patience for what a deed brings. -/
theorem quota_le_patience {d : Deed BudgetState} (hd : d ∈ s.deed? processes step) :
    d.quota Budget.attempts ≤ (s.perform processes step).1.engine.template.patience := by
  obtain ⟨r, hrequest, hdeed⟩ := Option.bind_eq_some_iff.1 hd
  have htemplate : (s.engine.execute r).1.template = s.engine.template := by cases r <;> rfl
  rw [(perform_of_request hrequest).1, htemplate]
  rcases Engine.deed?_eq_some hdeed with ⟨o, rfl⟩ | ⟨o, rfl⟩ | rfl | ⟨o, threads, rfl⟩ | ⟨o, rfl⟩
  · exact Nat.zero_le _
  · exact attempts_le_patience s.engine.template
  · exact Nat.zero_le _
  · exact Nat.zero_le _
  · exact Nat.zero_le _

/-- A step that a session takes by itself brings the engine to rest. -/
theorem isAtRest_step (h : s.engine.Rests horizon ds n)
    (hfair : ∀ d ∈ s.deed? processes step, d.Fair horizon)
    (hnow : (s.step .budgeted processes BudgetState.patience step).1.engine.scene.now ≤ horizon) :
    (s.step .budgeted processes BudgetState.patience step).1.engine.IsAtRest := by
  have hbefore := now_le_perform.trans (now_le_step.trans hnow)
  obtain ⟨hproper, hon⟩ := perform_onErrand h hfair hbefore
  have hperform : (s.perform processes step).1.engine = _ := perform_engine
  have hlaunching : (s.perform processes step).1.engine.launching =
      (s.deed? processes step).toList.flatMap Deed.workers := by
    rw [hperform]
    cases s.deed? processes step with
    | none => exact h.rest.1
    | some d =>
      cases d with
      | stop => exact h.rest.1
      | _ =>
        show s.engine.launching ++ _ = _
        rw [h.rest.1, List.nil_append, Option.toList_some, List.flatMap_singleton]
  have hbrought : ((s.perform processes step).1.engine.launching.map (·.debt horizon)).sum ≤
      (s.perform processes step).1.engine.template.patience := by
    rw [hlaunching]
    cases hdeed : s.deed? processes step with
    | none => exact Nat.zero_le _
    | some d =>
      rw [Option.toList_some, List.flatMap_singleton, Deed.sum_debt (hproper d hdeed)]
      split
      · exact quota_le_patience hdeed
      · exact Nat.zero_le _
  have hworkers : (s.perform processes step).1.engine.workers = s.engine.workers := by
    rw [hperform]
    cases s.deed? processes step with
    | none => rfl
    | some d => cases d <;> rfl
  refine hon.isAtRest_settle (weight_le_fuel ?_ hbrought) hnow
  rw [hworkers, ← List.take_append_drop n s.engine.workers]
  intro w hw
  rcases List.mem_append.1 hw with hw | hw
  · rw [Worker.weight, if_pos (h.past w hw).1]
    exact Nat.zero_le 8
  · have hdebt : w.debt (s.engine.errand horizon n (s.deed? processes step)).horizon = 0 :=
      h.debtless w hw
    apply Worker.weight_le.trans
    rw [hdebt, Nat.mul_zero, Nat.zero_add]
    exact w.stageWeight_le _

/-- The course that a session takes by itself is one that it can take. -/
theorem unfolds_run (h : s.engine.Rests horizon ds n)
    (hfair : ∀ d ∈ s.deeds .budgeted processes BudgetState.patience steps, d.Fair horizon)
    (hnow : (s.run .budgeted processes BudgetState.patience steps).1.engine.scene.now ≤ horizon) :
    Unfolds .budgeted processes s steps
      (s.deeds .budgeted processes BudgetState.patience steps)
      (s.run .budgeted processes BudgetState.patience steps).1 := by
  induction steps generalizing s ds n with
  | nil => exact .done s
  | cons step steps ih =>
    rw [deeds] at hfair ⊢
    rw [run_cons] at hnow ⊢
    have hnow' : (s.step .budgeted processes BudgetState.patience step).1.engine.scene.now ≤
        horizon := now_le_run.trans hnow
    have hfair₁ : ∀ d ∈ s.deed? processes step, d.Fair horizon := fun d hd =>
      hfair d (List.mem_append_left _ (Option.mem_toList.2 hd))
    have hrest := isAtRest_step h hfair₁ hnow'
    obtain ⟨ts, hts⟩ := exists_ticks_step processes s step BudgetState.patience
    obtain ⟨hproper, hon⟩ :=
      perform_onErrand h hfair₁ (now_le_perform.trans (now_le_step.trans hnow'))
    have hon := hon.ticks hts hnow'
    have hlast := hts
    rw [perform_engine] at hlast
    obtain ⟨n', hrests⟩ := Engine.OnErrand.rests hproper hlast hon hrest h
    have hlater := ih hrests (fun d hd => hfair d (List.mem_append_right _ hd)) hnow
    rw [← step_eq] at hlater
    exact .step hts hrest hlater

/-- A session on a budget comes to its closed form, in whatever order its workers
enter and move, as long as its deeds are fair up to its end.  What the session does by
itself is such a course: its workers do settle.

A start that runs out of threads is answered with an error and is a deed all the same: it
leaves the signal up, and counts with the workers that it has launched.  Where there are
threads for every start there is no such deed, and the deeds are the requests that were
accepted. -/
theorem closed_form (processes : ProcessTable) (budget : Budget)
    (shortages : List (Option Shortage)) (steps : List (SessionStep BudgetState)) :
    (∀ ds s, Unfolds .budgeted processes (onBudget budget shortages) steps ds s →
      (∀ d ∈ ds, d.Fair s.engine.scene.now) →
      s.engine.IsAtRest ∧ ClosedForm ds s.engine ∧
        ((onBudget budget shortages).engine.HasThreads → ∀ d ∈ ds, d.isAccepted = true)) ∧
    ((∀ d ∈ (onBudget budget shortages).deeds .budgeted processes BudgetState.patience steps,
        d.Fair ((onBudget budget shortages).run .budgeted processes
          BudgetState.patience steps).1.engine.scene.now) →
      Unfolds .budgeted processes (onBudget budget shortages) steps
        ((onBudget budget shortages).deeds .budgeted processes BudgetState.patience steps)
        ((onBudget budget shortages).run .budgeted processes BudgetState.patience steps).1) := by
  have hstart : ∀ horizon, (onBudget budget shortages).engine.Rests horizon [] 0 := fun _ =>
    rests_onBudget budget shortages
  refine ⟨fun ds s hunfolds hfair => ?_, fun hfair => ?_⟩
  · obtain ⟨n, hrests⟩ := hunfolds.rests (hstart _) hfair (Nat.le_refl _)
    exact ⟨hrests.rest, hrests.closedForm, hunfolds.isAccepted⟩
  · exact unfolds_run (hstart _) hfair (Nat.le_refl _)

/-- A process that knows of itself only. -/
def alone : ProcessTable where
  self := 1
  presence _ := .absent

/-- Two CPU workers and a memory worker that keeps its blocks, until the allocator of
another memory worker lowers the signal. -/
def untilLowered : List (SessionStep BudgetState) :=
  [.execute 0 (.cpu { threads := 2 }), .execute 0 (.mem { sleepMs := 0, keep := true }),
    .replace { budget := ⟨none, 1⟩ }, .execute 0 (.mem {})]

/-- The last worker ends all of them with its only request. -/
theorem closed_form_untilLowered :
    ∃ ds s, Unfolds .budgeted alone (onBudget ⟨some 2, 0⟩) untilLowered ds s ∧
      (∀ d ∈ ds, d.isAccepted = true) ∧
      ClosedForm ds s.engine ∧ s.engine.scene.armed = false ∧
      s.engine.scene.telemetry.cpuLaunched = 2 ∧ s.engine.scene.telemetry.cpuActive = 0 ∧
      s.engine.scene.telemetry.allocAttempts = 4 ∧ s.engine.scene.telemetry.allocSuccesses = 3 ∧
      s.engine.scene.telemetry.retainedBlocks = 0 := by
  have hfair : ∀ d ∈ (onBudget ⟨some 2, 0⟩).deeds .budgeted alone BudgetState.patience
      untilLowered, d.Fair ((onBudget ⟨some 2, 0⟩).run .budgeted alone
        BudgetState.patience untilLowered).1.engine.scene.now := by
    decide +kernel
  obtain ⟨hall, hrun⟩ := closed_form alone ⟨some 2, 0⟩ [] untilLowered
  have hunfolds := hrun hfair
  obtain ⟨-, hform, haccepted⟩ := hall _ _ hunfolds hfair
  refine ⟨_, _, hunfolds, haccepted (fun _ hmem => nomatch hmem), hform, ?_⟩
  decide +kernel

/-- A start that gets one thread of three leaves the signal up and that one worker
running, and the worker after it has come and gone. -/
example :
    let s := ((onBudget ⟨none, 0⟩ [some ⟨1, .code 11⟩]).run .budgeted alone BudgetState.patience
      [.dispatch 0 "cpu -t 3"]).1
    s.engine.scene.armed = true ∧ s.engine.scene.telemetry.cpuLaunched = 2 ∧
      s.engine.scene.telemetry.cpuActive = 1 := by
  decide +kernel

end Session

end ResourceFaults
