import ResourceFaults.Engine.Basic

/-!
# What a start launches

A start asks for some workers and launches those that get a thread.  Where threads
run out it launches the first few of them, and one more that only leaves
(`Shortage.cut`).  Every worker that comes to be is therefore one that was asked for,
with a thread or without one (`Engine.mem_enlist`).
-/

namespace ResourceFaults

variable {ε σ : Type}

namespace Shortage

variable {s : Shortage} {now : Nanos} {w : Worker σ} {ws : List (Worker σ)}

theorem mem_cut (h : w ∈ s.cut now ws) : w ∈ ws ∨ ∃ v ∈ ws, v.withoutThread now = w := by
  rcases List.mem_append.1 h with h | h
  · exact .inl (List.mem_of_mem_take h)
  · obtain ⟨v, hv, rfl⟩ := Option.map_eq_some_iff.1 (Option.mem_toList.1 h)
    exact .inr ⟨v, List.mem_of_getElem? hv, rfl⟩

/-- Of workers that are all alike it is their number that is cut. -/
theorem cut_replicate {n : Nat} (h : s.threads < n) :
    s.cut now (List.replicate n w) = List.replicate s.threads w ++ [w.withoutThread now] := by
  rw [cut, List.take_replicate, Nat.min_eq_left (Nat.le_of_lt h), List.getElem?_replicate,
    if_pos h]
  rfl

/-- If a start of one worker runs out of threads, the worker has none. -/
theorem cut_singleton (h : s.threads < 1) : s.cut now [w] = [w.withoutThread now] := by
  have hnone : s.threads = 0 := Nat.lt_one_iff.1 h
  rw [← List.replicate_one, cut_replicate h, hnone, List.replicate_zero, List.nil_append]

end Shortage

namespace Engine

variable {e : Engine ε σ} {w : Worker σ} {ws : List (Worker σ)}

theorem mem_enlist (h : w ∈ e.enlist ws) :
    w ∈ ws ∨ ∃ v ∈ ws, v.withoutThread e.scene.now = w := by
  unfold enlist at h
  split at h
  · exact .inl h
  · exact Shortage.mem_cut h

/-- A shortage that a start meets leaves it at least one worker short. -/
theorem threads_lt_of_shortage? {count : Nat} {s : Shortage} (h : e.shortage? count = some s) :
    s.threads < count := by
  rw [shortage?, Option.filter_eq_some_iff] at h
  exact of_decide_eq_true h.2

/-- What holds of the workers that a request asks for, with a thread or without one,
holds of the workers that wait to enter after it. -/
theorem launching_of_execute {P : Worker σ → Prop} {r : Request} (h : ∀ w ∈ e.launching, P w)
    (hcpu : ∀ o, r = .cpu o → ∀ w : CpuWorker, w = { deadline := e.deadlineOf o } →
      P (.cpu w) ∧ P ((Worker.cpu w).withoutThread e.scene.now))
    (hmem : ∀ o, r = .mem o → ∀ w : MemoryWorker σ,
      w = { plan := o.memoryPlan, deadline := e.deadlineOf o, allocator := e.template } →
      P (.memory w) ∧ P ((Worker.memory w).withoutThread e.scene.now)) :
    ∀ w ∈ (e.execute r).1.launching, P w := by
  intro w hw
  cases r with
  | cpu o =>
    rcases List.mem_append.1 hw with hw | hw
    · exact h w hw
    · rcases mem_enlist hw with hw | ⟨v, hv, rfl⟩
      · obtain rfl := List.eq_of_mem_replicate hw
        exact (hcpu o rfl _ rfl).1
      · obtain rfl := List.eq_of_mem_replicate hv
        exact (hcpu o rfl _ rfl).2
  | mem o =>
    rcases List.mem_append.1 hw with hw | hw
    · exact h w hw
    · rcases mem_enlist hw with hw | ⟨v, hv, rfl⟩
      · obtain rfl := List.mem_singleton.1 hw
        exact (hmem o rfl _ rfl).1
      · obtain rfl := List.mem_singleton.1 hv
        exact (hmem o rfl _ rfl).2
  | stop => exact h w hw
  | unrecognized c => exact h w hw

end Engine

end ResourceFaults
