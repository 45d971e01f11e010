import Mathlib
import ResourceFaults.Proofs.Worker.Horizon

/-!
# What one request has an engine do

Between two requests an engine is left to settle.  An `Errand` says what that is
to come to: which requests the journal is to hold in the end, and whether the
signal is to be down.  `Errand.Holds` is the invariant on the way there.  It
speaks of the workers that were not over when the errand began:

* at most one of them has debts, and all the blocks on the way are of its size;
* while the signal is down nobody has debts, and if the signal is to stay up, it
  is up;
* what the journal holds and what is left of the debts make up what the journal
  is to hold.

The order in which the workers enter and move plays no part: the invariant is
kept by every tick (`Engine.OnErrand.tick`).
-/

namespace ResourceFaults

/-- Whether the budget of a worker has it lower the signal. -/
def Worker.lowers : Worker BudgetState → Bool
  | .cpu _ => false
  | .memory w => w.allocator.budget.lowers

/-- The sizes of the requests in a journal. -/
def Scene.sizes (s : Scene (List JournalEntry)) : List UInt64 :=
  s.environment.map (·.bytes)

/-- What one request has an engine do. -/
structure Errand where
  horizon : Nanos
  /-- The workers that were over before. -/
  old : List (Worker BudgetState)
  /-- The other workers, as they were launched. -/
  young : List (Worker BudgetState)
  /-- What the journal is to hold. -/
  sizes : List UInt64
  /-- The size of the blocks of the worker with debts. -/
  bytes : UInt64
  /-- Whether the signal is to be down. -/
  lowers : Bool

/-- What holds of the scene and the young workers on the way. -/
structure Errand.Holds (r : Errand) (s : Scene (List JournalEntry))
    (ws : List (Worker BudgetState)) : Prop where
  origins : (ws.map Worker.origin).Perm r.young
  minds : ∀ w ∈ ws, w.Minds r.horizon s
  owing : ∀ w ∈ ws, 0 < w.debt r.horizon → w.blockBytes = r.bytes ∧ w.lowers = r.lowers
  single : ws.countP (fun w => 0 < w.debt r.horizon) ≤ 1
  silent : s.armed = false → ∀ w ∈ ws, w.debt r.horizon = 0
  raised : r.lowers = false → s.armed = true
  journal : s.sizes ++ List.replicate (ws.map (·.debt r.horizon)).sum r.bytes = r.sizes
  /-- The size of the latest attempt is that of the latest request, or that of the
  request to come. -/
  latest : (∀ w ∈ ws, w.requesting = false) →
    s.telemetry.lastBlockBytes = s.sizes.getLastD 0
  coming : ∀ w ∈ ws, w.requesting = true → s.telemetry.lastBlockBytes = r.bytes

/-! ## Lists in which at most one entry counts -/

section Lists

variable {α : Type} {l : List α} {f : α → Nat} {i : Nat} {x : α}

/-- If no other entry counts, the sum is what the entry counts. -/
theorem sum_map_set_of_single (hsingle : l.countP (fun y => 0 < f y) ≤ 1) (hx : l[i]? = some x)
    (hpos : 0 < f x) (y : α) : ((l.set i y).map f).sum = f y := by
  induction l generalizing i with
  | nil => simp at hx
  | cons head l ih =>
    rw [List.countP_cons] at hsingle
    cases i with
    | zero =>
      obtain rfl : head = x := by simpa using hx
      have hnone : l.countP (fun y => 0 < f y) = 0 := by
        simp only [hpos, decide_true, if_true] at hsingle
        omega
      have hzero : (l.map f).sum = 0 := by
        apply List.sum_eq_zero
        intro n hn
        obtain ⟨z, hz, rfl⟩ := List.mem_map.1 hn
        have := List.countP_eq_zero.1 hnone z hz
        simpa using this
      rw [List.set_cons_zero, List.map_cons, List.sum_cons, hzero, Nat.add_zero]
    | succ i =>
      have hx : l[i]? = some x := by simpa using hx
      have hcount : 0 < l.countP (fun y => 0 < f y) :=
        List.countP_pos_iff.2 ⟨x, List.mem_of_getElem? hx, by simpa using hpos⟩
      have hhead : f head = 0 := by
        by_contra hne
        rw [if_pos (by simpa using Nat.pos_of_ne_zero hne)] at hsingle
        omega
      have ih := ih (by omega) hx
      rw [List.set_cons_succ, List.map_cons, List.sum_cons, hhead, ih, Nat.zero_add]

/-- An entry that counts less than before counts no new one. -/
theorem countP_set_le (hx : l[i]? = some x) {y : α} (hle : f y ≤ f x) :
    (l.set i y).countP (fun z => 0 < f z) ≤ l.countP (fun z => 0 < f z) := by
  induction l generalizing i with
  | nil => simp at hx
  | cons head l ih =>
    cases i with
    | zero =>
      obtain rfl : head = x := by simpa using hx
      rw [List.set_cons_zero, List.countP_cons, List.countP_cons]
      have : (if decide (0 < f y) = true then 1 else 0) ≤
          if decide (0 < f head) = true then 1 else 0 := by
        by_cases hy : 0 < f y
        · have hhead : 0 < f head := Nat.lt_of_lt_of_le hy hle
          simp [hy, hhead]
        · simp [hy]
      omega
    | succ i =>
      rw [List.set_cons_succ, List.countP_cons, List.countP_cons]
      have := ih (by simpa using hx)
      omega

end Lists

/-! ## One tick -/

namespace Errand.Holds

variable {r : Errand} {s s' : Scene (List JournalEntry)} {ws ws' : List (Worker BudgetState)}
  {w w' : Worker BudgetState} {i : Nat}

/-- The order of the workers plays no part. -/
theorem perm (h : r.Holds s ws) (hperm : ws.Perm ws') : r.Holds s ws' where
  origins := (hperm.symm.map _).trans h.origins
  minds w hw := h.minds w (hperm.mem_iff.2 hw)
  owing w hw := h.owing w (hperm.mem_iff.2 hw)
  single := by
    rw [← hperm.countP_eq]
    exact h.single
  silent hdown w hw := h.silent hdown w (hperm.mem_iff.2 hw)
  raised := h.raised
  journal := by
    rw [← (hperm.map _).sum_eq]
    exact h.journal
  latest hnone := h.latest fun w hw => hnone w (hperm.mem_iff.1 hw)
  coming w hw := h.coming w (hperm.mem_iff.2 hw)

/-- A worker that is counted as it enters, or time that passes, changes nothing. -/
theorem frame (h : r.Holds s ws) (harmed : s'.armed = s.armed) (hnow : s.now ≤ s'.now)
    (henvironment : s'.environment = s.environment)
    (hlast : s'.telemetry.lastBlockBytes = s.telemetry.lastBlockBytes) : r.Holds s' ws where
  origins := h.origins
  minds w hw := (h.minds w hw).mono hnow fun hup => harmed ▸ hup
  owing := h.owing
  single := h.single
  silent hdown := h.silent (harmed ▸ hdown)
  raised hnot := harmed ▸ h.raised hnot
  journal := by
    rw [Scene.sizes, henvironment]
    exact h.journal
  latest hnone := by
    rw [hlast, Scene.sizes, henvironment]
    exact h.latest hnone
  coming w hw hreq := hlast ▸ h.coming w hw hreq

/-- What is fixed when a worker is launched survives its steps. -/
theorem fixed_eq (horigin : w'.origin = w.origin) :
    w'.blockBytes = w.blockBytes ∧ w'.lowers = w.lowers := by
  have hbytes : ∀ v : Worker BudgetState, v.blockBytes = v.origin.blockBytes := by
    intro v
    cases v <;> rfl
  have hlowers : ∀ v : Worker BudgetState, v.lowers = v.origin.lowers := by
    intro v
    cases v <;> rfl
  rw [hbytes w', hbytes w, hlowers w', hlowers w, horigin]
  exact ⟨rfl, rfl⟩

/-- An entry is the one that is replaced, or is still there afterwards. -/
theorem mem_or_mem_set {α : Type} {l : List α} {x y z : α} (hx : l[i]? = some x) (hz : z ∈ l) :
    z = x ∨ z ∈ l.set i y := by
  obtain ⟨j, hj⟩ := List.mem_iff_getElem?.1 hz
  by_cases hij : i = j
  · subst hij
    exact .inl (Option.some.inj (hj.symm.trans hx))
  · refine .inr (List.mem_iff_getElem?.2 ⟨j, ?_⟩)
    rw [List.getElem?_set_ne hij]
    exact hj

variable (h : r.Holds s ws) (hw : ws[i]? = some w) (hmoves : w.Moves .budgeted s s' w')

include h hw hmoves

/-- The new state of a worker has the origin and the debts of the old one, or less. -/
theorem of_mem_set (hle : w'.debt r.horizon ≤ w.debt r.horizon) {v : Worker BudgetState}
    (hv : v ∈ ws.set i w') (hpos : 0 < v.debt r.horizon) :
    v.blockBytes = r.bytes ∧ v.lowers = r.lowers := by
  rcases List.mem_or_eq_of_mem_set hv with hv | rfl
  · exact h.owing v hv hpos
  · obtain ⟨hbytes, hlowers⟩ := fixed_eq hmoves.origin_eq
    rw [hbytes, hlowers]
    exact h.owing w (List.mem_of_getElem? hw) (Nat.lt_of_lt_of_le hpos hle)

theorem origins_set : ((ws.set i w').map Worker.origin).Perm r.young := by
  have hsame : (ws.set i w').map Worker.origin = ws.map Worker.origin := by
    rw [List.map_set, hmoves.origin_eq]
    refine List.ext_getElem? fun j => ?_
    by_cases hij : i = j
    · subst hij
      rw [List.getElem?_set_self' , List.getElem?_map, hw]
      rfl
    · rw [List.getElem?_set_ne hij]
  rw [hsame]
  exact h.origins

theorem minds_set (hnow : s.now ≤ r.horizon) :
    ∀ v ∈ ws.set i w', v.Minds r.horizon s' := by
  intro v hv
  rcases List.mem_or_eq_of_mem_set hv with hv | rfl
  · exact (h.minds v hv).mono hmoves.now_eq.ge hmoves.armed_of_armed
  · exact hmoves.minds hnow (h.minds w (List.mem_of_getElem? hw))

/-- A step that makes no request. -/
theorem set_of_no_request (hnow : s.now ≤ r.horizon) (hreq : w.requesting = false) :
    r.Holds s' (ws.set i w') := by
  obtain ⟨harmed, henvironment, hdebt, -⟩ := hmoves.no_request hreq r.horizon
  have hmem := List.mem_of_getElem? hw
  have hmind := h.minds w hmem
  have hlast := hmoves.lastBlockBytes_eq
  have hsizes : s'.sizes = s.sizes := by rw [Scene.sizes, henvironment]; rfl
  refine
    { origins := h.origins_set hw hmoves
      minds := h.minds_set hw hmoves hnow
      owing := fun v hv hpos => h.of_mem_set hw hmoves hdebt.le hv hpos
      single := (countP_set_le hw hdebt.le).trans h.single
      silent := ?_
      raised := fun hnot => harmed ▸ h.raised hnot
      journal := ?_
      latest := ?_
      coming := ?_ }
  · intro hdown v hv
    rw [harmed] at hdown
    rcases List.mem_or_eq_of_mem_set hv with hv | rfl
    · exact h.silent hdown v hv
    · rw [hdebt]
      exact h.silent hdown w hmem
  · obtain ⟨n, hsum, hset⟩ := Engine.sum_map_set hw (·.debt r.horizon)
    rw [hset w', hdebt, ← hsum, hsizes]
    exact h.journal
  · intro hnone
    have hnot : w.attempting = false := by
      rw [← hmoves.requesting_eq]
      exact hnone w' (List.mem_set (List.getElem?_eq_some_iff.1 hw).1 w')
    rw [hlast, hnot, hsizes]
    apply h.latest
    intro v hv
    rcases mem_or_mem_set hw hv with rfl | hv
    · exact hreq
    · exact hnone v hv
  · intro v hv hcoming
    cases hattempting : w.attempting with
    | true =>
      rw [hlast, if_pos hattempting]
      exact (h.owing w hmem (hmind.debt_pos hattempting)).1
    | false =>
      rw [hlast, if_neg (by simp [hattempting])]
      rcases List.mem_or_eq_of_mem_set hv with hv | rfl
      · exact h.coming v hv hcoming
      · rw [hmoves.requesting_eq, hattempting] at hcoming
        cases hcoming

/-- A step that makes a request. -/
theorem set_of_request (hnow : s.now ≤ r.horizon) (hreq : w.requesting = true) :
    r.Holds s' (ws.set i w') := by
  have hmem := List.mem_of_getElem? hw
  have hmind := h.minds w hmem
  have hdebt := hmoves.debt_eq_succ hreq hmind
  have hpos : 0 < w.debt r.horizon := by omega
  have hown := h.owing w hmem hpos
  have hup : s.armed = true := by
    by_contra hdown
    have := h.silent (by simpa using hdown) w hmem
    omega
  have hlater := sum_map_set_of_single h.single hw hpos w'
  have hbefore : (ws.map (·.debt r.horizon)).sum = w'.debt r.horizon + 1 := by
    obtain ⟨n, hsum, hset⟩ := Engine.sum_map_set hw (·.debt r.horizon)
    rw [hset w'] at hlater
    rw [hsum]
    omega
  have hcoming := h.coming w hmem hreq
  have hle : w'.debt r.horizon ≤ w.debt r.horizon := by omega
  obtain ⟨m, m', rfl, rfl, hstage, hallocator, harmed, henvironment, htelemetry⟩ :=
    hmoves.request hreq
  have hsizes : s'.sizes = s.sizes ++ [r.bytes] := by
    rw [Scene.sizes, henvironment, List.map_append, ← hown.1]
    rfl
  -- the signal is lowered by the last request only
  have hlast : s'.armed = false → r.lowers = true ∧ (Worker.memory m').debt r.horizon = 0 := by
    intro hdown
    have hstop : m.allocator.budget.stopAfter = m.allocator.calls + 1 := by
      rw [harmed, hup, Bool.true_and, Bool.not_eq_false', beq_iff_eq] at hdown
      exact hdown.symm
    have hlt := (hmind.onBudget m rfl).calls_lt (.inr hstage)
    obtain ⟨hlowers, hattempts⟩ := Budget.lowers_of_stopAfter hstop hlt
    refine ⟨hown.2 ▸ hlowers, ?_⟩
    rw [Worker.debt, hallocator]
    show (if r.horizon < m'.deadline.instant then
      m.allocator.budget.attempts - (m.allocator.calls + 1) else 0) = 0
    rw [hattempts, Nat.sub_self, ite_self]
  refine
    { origins := h.origins_set hw hmoves
      minds := h.minds_set hw hmoves hnow
      owing := fun v hv hpos => h.of_mem_set hw hmoves hle hv hpos
      single := (countP_set_le hw hle).trans h.single
      silent := ?_
      raised := ?_
      journal := ?_
      latest := ?_
      coming := ?_ }
  · intro hdown v hv
    rw [(hlast hdown).2] at hlater
    exact List.sum_eq_zero_iff.1 hlater _ (List.mem_map_of_mem hv)
  · intro hnot
    by_contra hdown
    rw [(hlast (by simpa using hdown)).1] at hnot
    cases hnot
  · rw [hlater, hsizes, List.append_assoc, ← h.journal, hbefore, List.replicate_succ]
    rfl
  · intro _
    rw [htelemetry, hcoming, hsizes, List.getLastD_concat]
  · intro v _ _
    rw [htelemetry]
    exact hcoming

/-- A step of a worker keeps what holds on the way. -/
theorem set (hnow : s.now ≤ r.horizon) : r.Holds s' (ws.set i w') := by
  cases hreq : w.requesting with
  | false => exact h.set_of_no_request hw hmoves hnow hreq
  | true => exact h.set_of_request hw hmoves hnow hreq

end Errand.Holds

/-! ## Engines on an errand -/

namespace Engine

variable {r : Errand} {e e' : Engine (List JournalEntry) BudgetState} {t : Tick}

/-- The workers after the first `n`, with those that are yet to enter. -/
def since (e : Engine (List JournalEntry) BudgetState) (n : Nat) : List (Worker BudgetState) :=
  e.workers.drop n ++ e.launching

/-- An engine that is on an errand. -/
structure OnErrand (r : Errand) (e : Engine (List JournalEntry) BudgetState) : Prop where
  old : e.workers.take r.old.length = r.old
  ended : ∀ w ∈ r.old, w.IsOver r.horizon
  holds : r.Holds e.scene (e.since r.old.length)
  booked : e.Booked

namespace OnErrand

variable (h : e.OnErrand r)

include h

theorem length_old_le : r.old.length ≤ e.workers.length := by
  have hlength := congrArg List.length h.old
  rw [List.length_take] at hlength
  omega

/-- What a worker keeps fits into a word. -/
theorem retained_fits {w : Worker BudgetState} (hw : w ∈ e.workers) :
    w.share .retainedBytes < 2 ^ 64 := by
  rw [← List.take_append_drop r.old.length e.workers, List.mem_append, h.old] at hw
  rcases hw with hw | hw
  · rw [(h.ended w hw).2]
    cases w <;> exact Nat.two_pow_pos 64
  · have hmind := h.holds.minds w (List.mem_append_left _ hw)
    cases w with
    | cpu w => exact Nat.two_pow_pos 64
    | memory w => exact (hmind.onBudget w rfl).retained_fits hmind.sound

/-- A worker that enters is still one of the young. -/
theorem launch {i : Nat} (hstep : e.tick .budgeted (.launch i) = some e')
    (hbooked : e'.Booked) : e'.OnErrand r := by
  obtain ⟨w, hw, rfl⟩ := launch?_eq_some_iff.1 hstep
  have hle := h.length_old_le
  obtain ⟨hi, rfl⟩ := List.getElem?_eq_some_iff.1 hw
  refine ⟨?_, h.ended, ?_, hbooked⟩
  · show (e.workers ++ [e.launching[i]]).take r.old.length = r.old
    rw [List.take_append_of_le_length hle]
    exact h.old
  · have hperm : (e.since r.old.length).Perm
        ((e.workers ++ [e.launching[i]]).drop r.old.length ++ e.launching.eraseIdx i) := by
      rw [since, List.drop_append_of_le_length hle, List.append_assoc]
      exact (List.getElem_cons_eraseIdx_perm hi).symm.append_left _
    refine (h.holds.perm hperm).frame rfl (Nat.le_refl _) rfl ?_
    cases (e.launching[i]).kind <;> rfl

/-- Only the young workers move. -/
theorem work {i : Nat} (hstep : e.tick .budgeted (.work i) = some e')
    (hnow : e'.scene.now ≤ r.horizon) (hbooked : e'.Booked) : e'.OnErrand r := by
  have hbefore := (now_le_of_tick hstep).trans hnow
  obtain ⟨w, s, w', hw, hmoves, rfl⟩ := work?_eq_some_iff.1 hstep
  have hle : r.old.length ≤ i := by
    by_contra hlt
    have hmem : w ∈ r.old := by
      rw [← h.old, List.mem_take_iff_getElem]
      obtain ⟨hi, rfl⟩ := List.getElem?_eq_some_iff.1 hw
      exact ⟨i, by omega, rfl⟩
    have hgone := (h.ended w hmem).1
    rw [hmoves.isGone_eq_false] at hgone
    cases hgone
  have hi := (List.getElem?_eq_some_iff.1 hw).1
  refine ⟨?_, h.ended, ?_, hbooked⟩
  · show (e.workers.set i w').take r.old.length = r.old
    rw [List.take_set_of_le hle]
    exact h.old
  · have hsince : (e.workers.set i w').drop r.old.length ++ e.launching =
        (e.since r.old.length).set (i - r.old.length) w' := by
      rw [since, List.drop_set, if_neg (by omega), List.set_append_left]
      rw [List.length_drop]
      omega
    show r.Holds s ((e.workers.set i w').drop r.old.length ++ e.launching)
    rw [hsince]
    refine h.holds.set ?_ hmoves hbefore
    rw [since, List.getElem?_append_left (by rw [List.length_drop]; omega), List.getElem?_drop,
      Nat.add_sub_cancel' hle]
    exact hw

/-- Every tick up to the horizon keeps an engine on its errand. -/
theorem tick (hstep : e.tick .budgeted t = some e') (hnow : e'.scene.now ≤ r.horizon) :
    e'.OnErrand r := by
  have hbooked : e'.Booked :=
    h.booked.step (m := .tick t) (fun w hw => h.retained_fits hw) hstep
  cases t with
  | launch i => exact h.launch hstep hbooked
  | work i => exact h.work hstep hnow hbooked
  | pass d =>
    obtain rfl : e.pass d = e' := by simpa [Engine.tick] using hstep
    exact ⟨h.old, h.ended, h.holds.frame rfl (Nat.le_add_right _ _) rfl rfl, hbooked⟩

end OnErrand

/-- So does every sequence of ticks. -/
theorem OnErrand.ticks {ts : List Tick} (h : e.OnErrand r)
    (hrun : e.run .budgeted (ts.map .tick) = some e') (hnow : e'.scene.now ≤ r.horizon) :
    e'.OnErrand r := by
  induction ts generalizing e with
  | nil =>
    obtain rfl : e = e' := by simpa [run] using hrun
    exact h
  | cons t ts ih =>
    obtain ⟨e₁, hstep, hrest⟩ := run_cons_eq_some_iff.1 hrun
    exact ih (h.tick hstep ((now_le_of_ticks hrest).trans hnow)) hrest

end Engine

end ResourceFaults
