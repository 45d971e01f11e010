import Mathlib
import ResourceFaults.Proofs.Memory.Calls
import ResourceFaults.Usage

/-!
# The headroom of a heap

A block is granted if it leaves the margin of the memory that is available.  The heap
adds the block and the margin as words, and a sum that no word can hold counts as the
greatest word.  So a heap that tells the greatest word of available memory lets every
block pass, and this is the only figure at which the sum makes a difference
(`Heap.hasRoom_eq`).

A memory worker asks once for each look that tells it to go on, and is told one figure
each time.  So it gets as many blocks as there are leading figures that let its block
pass, and after the first that does not it never asks again
(`MemoryWorker.Alone.reckonedOn`).
-/

namespace ResourceFaults

open MemoryWorker

variable {ε : Type}

/-! ## One block -/

namespace Heap

variable {reserves : UInt64 → Bool} {margin bytes : UInt64} {available : Option UInt64}

/-- The greatest word. -/
def greatest : UInt64 := UInt64.ofNat maxWord

/-- Whether a block leaves the margin, with the sum of the two as a natural number. -/
def leavesMargin (margin : UInt64) (available : Option UInt64) (bytes : UInt64) : Bool :=
  available.all fun available => bytes.toNat + margin.toNat ≤ available.toNat

/-- Whether a heap lets a block pass that it can reserve. -/
def passes (margin : UInt64) (available : Option UInt64) (bytes : UInt64) : Bool :=
  leavesMargin margin available bytes || available == some greatest

theorem toNat_greatest : greatest.toNat = maxWord := rfl

/-- A word that is not the greatest is smaller. -/
theorem toNat_lt_of_ne_greatest {w : UInt64} (h : w ≠ greatest) : w.toNat < maxWord := by
  have hlt := w.toNat_lt
  have hne : w.toNat ≠ maxWord := fun heq => h (UInt64.toNat_inj.1 heq)
  have hmax : maxWord = 2 ^ 64 - 1 := rfl
  omega

/-- The sum of words makes a difference only at the greatest figure. -/
theorem hasRoom_eq : hasRoom margin available bytes = passes margin available bytes := by
  cases available with
  | none => rfl
  | some figure =>
    rw [Bool.eq_iff_iff]
    simp only [hasRoom, passes, leavesMargin, saturatingAdd, Option.all_some, Bool.or_eq_true,
      decide_eq_true_eq, beq_iff_eq, Option.some.injEq, min_le_iff]
    refine or_congr_right ⟨fun hle => ?_, ?_⟩
    · by_contra hne
      have hlt := toNat_lt_of_ne_greatest hne
      omega
    · rintro rfl
      exact le_of_eq toNat_greatest.symm

theorem passes_eq_leavesMargin
    (h : available ≠ some greatest ∨ bytes.toNat + margin.toNat ≤ maxWord) :
    passes margin available bytes = leavesMargin margin available bytes := by
  rcases h with hne | hle
  · rw [passes, beq_eq_false_iff_ne.2 hne, Bool.or_false]
  · by_cases hgreatest : available = some greatest
    · subst hgreatest
      simp [passes, leavesMargin, toNat_greatest, hle]
    · rw [passes, beq_eq_false_iff_ne.2 hgreatest, Bool.or_false]

/-- What becomes of a request for a block. -/
theorem allocateFrom_eq :
    allocateFrom reserves margin available bytes =
      if passes margin available bytes && reserves bytes then .ok ⟨bytes, 0⟩
      else .error ⟨bytes⟩ := by
  rw [allocateFrom, hasRoom_eq]
  cases passes margin available bytes <;> cases reserves bytes <;> rfl

/-- How a heap answers a request for a block. -/
structure Answers (reserves : UInt64 → Bool) (margin : UInt64) (available : Option UInt64)
    (bytes : UInt64) (answer : Except AllocationFailed Block) : Prop where
  /-- A block that leaves the margin is granted if it can be reserved, and it is all
  zeros. -/
  granted : leavesMargin margin available bytes = true → reserves bytes = true →
    ∃ block, answer = .ok block ∧ block.bytes = List.replicate bytes.toNat 0
  /-- A block that does not leave the margin is refused, unless the figure is the greatest
  word. -/
  refused : leavesMargin margin available bytes = false → available ≠ some greatest →
    answer = .error ⟨bytes⟩
  /-- At the greatest word the margin is not looked at. -/
  granted_greatest : available = some greatest → reserves bytes = true →
    ∃ block, answer = .ok block ∧ block.bytes = List.replicate bytes.toNat 0
  not_reserved : reserves bytes = false → answer = .error ⟨bytes⟩
  /-- Every refusal carries the size of the request. -/
  error_bytes : ∀ failure, answer = .error failure → failure.bytes = bytes

theorem answers_allocateFrom (reserves : UInt64 → Bool) (margin : UInt64)
    (available : Option UInt64) (bytes : UInt64) :
    Answers reserves margin available bytes (allocateFrom reserves margin available bytes) where
  granted hleaves hreserves := ⟨⟨bytes, 0⟩, by simp [allocateFrom_eq, passes, *], rfl⟩
  refused hleaves hne := by simp [allocateFrom_eq, passes, *]
  granted_greatest hgreatest hreserves :=
    ⟨⟨bytes, 0⟩, by simp [allocateFrom_eq, passes, *], rfl⟩
  not_reserved hreserves := by simp [allocateFrom_eq, *]
  error_bytes failure h := by
    rw [allocateFrom_eq] at h
    split at h
    · cases h
    · cases h
      rfl

/-! ## One block after the other -/

theorem takeWhile_congr {α : Type} {p q : α → Bool} {l : List α} (h : ∀ x ∈ l, p x = q x) :
    l.takeWhile p = l.takeWhile q := by
  induction l with
  | nil => rfl
  | cons x l ih =>
    rw [List.takeWhile_cons, List.takeWhile_cons, h x List.mem_cons_self,
      ih fun y hy => h y (List.mem_cons_of_mem x hy)]

namespace Supply

variable {heap : Supply ε} {environment : ε}

/-- What a heap is after some requests. -/
def after (heap : Supply ε) (environment : ε) (k : Nat) : ε :=
  heap.next^[k] environment

/-- The figures that a heap tells at its first requests. -/
def readings (heap : Supply ε) (environment : ε) (n : Nat) : List (Option UInt64) :=
  (List.range n).map fun k => heap.available (heap.after environment k)

/-- Whether a heap grants a block at a request, when all requests are for blocks of this
size. -/
def grants (heap : Supply ε) (margin bytes : UInt64) (environment : ε) (k : Nat) : Bool :=
  passes margin (heap.available (heap.after environment k)) bytes &&
    heap.reserves (heap.after environment k) bytes

/-- How many blocks a heap grants at its first requests before it refuses one. -/
def leading (heap : Supply ε) (margin bytes : UInt64) (environment : ε) (n : Nat) : Nat :=
  ((List.range n).takeWhile (heap.grants margin bytes environment)).length

/-- Where every block can be reserved, and no figure is the greatest word or no sum of a
block and the margin exceeds it, the blocks that are granted are those that leave the
margin. -/
theorem leading_eq {margin bytes : UInt64} {n : Nat}
    (hreserves : ∀ k < n, heap.reserves (heap.after environment k) bytes = true)
    (hfigures : ∀ k < n, heap.available (heap.after environment k) ≠ some greatest ∨
      bytes.toNat + margin.toNat ≤ maxWord) :
    heap.leading margin bytes environment n =
      ((heap.readings environment n).takeWhile (leavesMargin margin · bytes)).length := by
  rw [leading, readings, List.takeWhile_map, List.length_map]
  refine congrArg List.length (takeWhile_congr fun k hk => ?_)
  have hlt := List.mem_range.1 hk
  rw [grants, hreserves k hlt, Bool.and_true, passes_eq_leavesMargin (hfigures k hlt)]
  rfl

end Supply

end Heap

/-! ## A worker over a heap -/

/-- The leading elements of a range with some property, by the first without it. -/
theorem length_takeWhile_range {p : Nat → Bool} {n g : Nat} (hle : g ≤ n)
    (hbefore : ∀ k < g, p k = true) (hend : g < n → p g = false) :
    ((List.range n).takeWhile p).length = g := by
  have hsplit : List.range n = List.range g ++ List.range' g (n - g) := by
    have happend := @List.range'_append_1 0 g (n - g)
    rw [Nat.zero_add, Nat.add_sub_cancel' hle] at happend
    rw [List.range_eq_range', List.range_eq_range', happend]
  rw [hsplit, List.takeWhile_append_of_pos fun k hk => hbefore k (List.mem_range.1 hk),
    List.length_append, List.length_range]
  rcases Nat.lt_or_eq_of_le hle with hlt | rfl
  · have hpos : n - g = (n - g - 1) + 1 := by omega
    rw [hpos, List.range'_succ, List.takeWhile_cons_of_neg (by simp [hend hlt])]
    rfl
  · simp

namespace Allocator

variable {heap : Heap.Supply ε} {margin : UInt64} {plan : MemoryPlan} {s : Scene ε}

/-- Each call leaves the heap as it is after one request more. -/
theorem before_heapOn (k : Nat) :
    (heapOn heap margin).before plan s () k = (heap.after s.environment k, ()) := by
  induction k with
  | zero => rfl
  | succ k ih =>
    rw [before, ih, Heap.Supply.after, Heap.Supply.after, Function.iterate_succ_apply']
    rfl

theorem granted_heapOn (k : Nat) :
    ((heapOn heap margin).reply plan s () k).granted =
      heap.grants margin plan.blockBytes s.environment k := by
  rw [reply, before_heapOn]
  show (Heap.allocateFrom _ _ _ _).isOk = _
  rw [Heap.allocateFrom_eq, Heap.Supply.grants]
  split <;> simp_all [Except.isOk, Except.toBool]

end Allocator

namespace MemoryWorker

variable {heap : Heap.Supply ε} {margin : UInt64} {plan : MemoryPlan} {deadline : Deadline}
  {s₀ s : Scene ε} {w : MemoryWorker Unit} {answers : List Bool}

/-- What a worker has got from a heap after `n` of its looks were told to go on. -/
structure ReckonedOn (heap : Heap.Supply ε) (margin : UInt64) (plan : MemoryPlan) (s₀ : Scene ε)
    (n : Nat) (s : Scene ε) (w : MemoryWorker Unit) : Prop where
  /-- It has got the blocks that the heap grants before it refuses one. -/
  allocated_eq : w.summary.allocated = heap.leading margin plan.blockBytes s₀.environment n
  /-- It has asked no more after the first refusal. -/
  attempts_eq : w.summary.attempts = min n (w.summary.allocated + 1)
  degraded_iff : w.summary.degraded = true ↔ w.summary.allocated < n
  /-- Nor has the heap told another figure. -/
  environment_eq : s.environment = heap.after s₀.environment w.summary.attempts

theorem Alone.reckonedOn
    (h : Alone (.heapOn heap margin) s₀ (launched plan deadline ()) answers s w)
    (hstage : w.stage = .polling ∨ w.stage = .gone) :
    ReckonedOn heap margin plan s₀ (answers.count true) s w := by
  obtain ⟨hkeeping, -⟩ := h.telemetry_eq
  obtain ⟨hgrants, hfailed, hcalling, hattempts⟩ := grants_eq hkeeping.sound hstage
  obtain ⟨hgranted, hrefused, hbefore, htold, hgt⟩ := h.calling
  rw [hfailed] at hrefused hbefore htold hgt
  rw [hgrants] at hgranted hrefused hbefore htold hgt
  rw [← hattempts, Allocator.before_heapOn] at hbefore
  simp only [Allocator.granted_heapOn] at hgranted hrefused
  have henvironment : s.environment = heap.after s₀.environment w.summary.attempts :=
    congrArg Prod.fst hbefore
  cases hdegraded : w.summary.degraded with
  | false =>
    have hn : answers.count true = w.summary.allocated := by simpa [hcalling] using htold hdegraded
    refine ⟨?_, ?_, ?_, henvironment⟩
    · exact (length_takeWhile_range hn.ge hgranted (by omega)).symm
    · rw [hattempts, hdegraded]
      simp [hn]
    · simp [hdegraded, hn]
  | true =>
    have hlt := hgt hdegraded
    refine ⟨?_, ?_, ?_, henvironment⟩
    · exact (length_takeWhile_range hlt.le hgranted fun _ => hrefused hdegraded).symm
    · rw [hattempts, hdegraded, if_pos rfl]
      omega
    · simp [hdegraded, hlt]

/-- What a heap with a margin grants, block by block and to a worker on its own.  A block
that leaves the margin is granted if it can be reserved, a block that does not is refused
unless the heap tells the greatest word, and a refusal carries the size of the request.  A
worker, whatever its looks are told, gets the blocks that are granted before the first
refusal, and asks for none after it.  Unless the heap tells the greatest word, and the block
and the margin exceed it, these are as many as there are leading figures that leave the
margin. -/
theorem headroom_kept (heap : Heap.Supply ε) (margin : UInt64) :
    (∀ reserves available bytes, Heap.Answers reserves margin available bytes
      (Heap.allocateFrom reserves margin available bytes)) ∧
    ∀ plan deadline s₀,
      let run := Alone (.heapOn heap margin) s₀ (launched plan deadline ())
      (∀ answers s w, run answers s w → false ∉ answers → ∀ more, ∃ s' w',
        run (answers ++ List.replicate more true ++ [false]) s' w' ∧ w'.stage = .gone) ∧
      ∀ answers s w, run answers s w → w.stage = .polling ∨ w.stage = .gone →
        let n := answers.count true
        ReckonedOn heap margin plan s₀ n s w ∧
        ((∀ k < n, heap.reserves (heap.after s₀.environment k) plan.blockBytes = true) →
          (∀ k < n, heap.available (heap.after s₀.environment k) ≠ some Heap.greatest ∨
            plan.blockBytes.toNat + margin.toNat ≤ maxWord) →
          w.summary.allocated = ((heap.readings s₀.environment n).takeWhile
            (Heap.leavesMargin margin · plan.blockBytes)).length) := by
  refine ⟨fun reserves available bytes =>
    Heap.answers_allocateFrom reserves margin available bytes, ?_⟩
  intro plan deadline s₀ run
  refine ⟨fun answers s w h hnever more => ?_, fun answers s w h hstage => ?_⟩
  · exact h.exists_gone (h.isPast_eq_false rfl hnever) more
  · have hreckoned := h.reckonedOn hstage
    refine ⟨hreckoned, fun hreserves hfigures => ?_⟩
    rw [hreckoned.allocated_eq]
    exact Heap.Supply.leading_eq hreserves hfigures

/-- Of four figures the third leaves too little, and the worker does not ask for the block
that the fourth would leave. -/
theorem headroom_kept_at_third :
    let heap := Heap.Readings.supply
    let s₀ : Scene Heap.Readings := { environment := [some 100, none, some 9, some 100] }
    let plan : MemoryPlan := ⟨6, 0, false⟩
    ∃ s w, Alone (.heapOn heap 4) s₀ (launched plan ⟨1⟩ ()) [true, true, true, true, false] s w ∧
      w.stage = .gone ∧ w.summary.allocated = 2 ∧ w.summary.attempts = 3 ∧
      w.summary.degraded = true ∧ s.environment = [some 100] := by
  intro heap s₀ plan
  obtain ⟨hends, hreckoned⟩ := (headroom_kept heap 4).2 plan ⟨1⟩ s₀
  obtain ⟨s, w, hrun, hgone⟩ := hends [] _ _ .start (by simp) 4
  obtain ⟨⟨-, hattempts, hdegraded, henvironment⟩, hallocated⟩ :=
    hreckoned _ s w hrun (.inr hgone)
  have hfour : ([] ++ List.replicate 4 true ++ [false]).count true = 4 := by decide
  have hgot : w.summary.allocated = 2 :=
    hallocated (by rw [hfour]; decide) (fun _ _ => .inr (by decide))
  rw [hgot, hfour] at hattempts
  rw [hgot, hfour] at hdegraded
  rw [hattempts] at henvironment
  exact ⟨s, w, hrun, hgone, hgot, hattempts, hdegraded.2 (by decide), henvironment⟩

/-- At the greatest word a block is granted that leaves less than the margin, and such a
figure can be read. -/
theorem headroom_eaten_at_greatest :
    availableMemory? "MemAvailable: 18014398509481984 kB" = some Heap.greatest ∧
      Heap.leavesMargin Heap.greatest (some Heap.greatest) 1 = false ∧
      Heap.allocate Heap.greatest (some Heap.greatest) 1 = .ok ⟨1, 0⟩ := by
  refine ⟨by decide +kernel, by decide, ?_⟩
  rw [Heap.allocate, Heap.allocateFrom_eq]
  rfl

end MemoryWorker

end ResourceFaults
