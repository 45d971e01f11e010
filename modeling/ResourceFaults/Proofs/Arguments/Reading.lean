import Mathlib
import ResourceFaults.Arguments.Parser

/-!
# How arguments are written

What an argument looks like, read backwards: for each shape, the arguments that have
it.  The same for the two places where a value may be attached to its option, after the
first `=` of a long name and after a letter.

The last section says when the reading of arguments goes well: the open option, if
there is one, is recorded first, and the rest is read as if it had never been open.
-/

namespace ResourceFaults

open Text (RawText RawChar)

/-! ## Attached values -/

namespace Text.RawText

variable {t name : RawText} {value : Option RawText}

/-- What is cut at an equals sign can be joined again. -/
theorem eq_of_cutAtEquals (h : cutAtEquals t = (name, value)) :
    t = name ++ value.elim [] (.char '=' :: ·) := by
  fun_induction cutAtEquals t generalizing name with
  | case1 =>
    cases h
    rfl
  | case2 rest =>
    cases h
    rfl
  | case3 u rest hne before after heq ih =>
    cases h
    exact congrArg (u :: ·) (ih heq)

/-- A name without an equals sign is cut off whole. -/
theorem cutAtEquals_joined (hname : RawChar.char '=' ∉ name) :
    cutAtEquals (name ++ value.elim [] (.char '=' :: ·)) = (name, value) := by
  induction name with
  | nil => cases value <;> rfl
  | cons u name ih =>
    rw [List.mem_cons, not_or] at hname
    have hrest := ih hname.2
    rw [List.cons_append, cutAtEquals]
    · rw [hrest]
    · intro hu
      exact hname.1 hu.symm

end Text.RawText

namespace Arguments

/-- What an option finds attached to its letter, if it finds anything. -/
theorem Progress.attachedRest_eq_some_iff {run value : RawText} :
    attachedRest run = some value ↔
      run = .char '=' :: value ∨ (run = value ∧ value ≠ [] ∧ value.head? ≠ some (.char '=')) := by
  fun_cases attachedRest run with
  | case1 =>
    constructor
    · intro h
      cases h
    · intro h
      rcases h with h | ⟨rfl, hne, -⟩
      · cases h
      · exact absurd rfl hne
  | case2 rest =>
    constructor
    · intro h
      cases h
      exact .inl rfl
    · intro h
      rcases h with h | ⟨rfl, -, hhead⟩
      · cases h
        rfl
      · exact absurd rfl hhead
  | case3 run hnil hequals =>
    rw [Option.some.injEq]
    constructor
    · rintro rfl
      refine .inr ⟨rfl, hnil, fun hhead => ?_⟩
      obtain ⟨rest, hrest⟩ := List.head?_eq_some_iff.1 hhead
      exact hequals rest hrest
    · intro h
      rcases h with h | ⟨h, -, -⟩
      · exact absurd h (hequals value)
      · exact h

theorem Progress.attachedRest_eq_none_iff {run : RawText} :
    attachedRest run = none ↔ run = [] := by
  fun_cases attachedRest run <;> simp_all

/-! ## Shapes -/

namespace Shape

variable {t : RawText}

theorem of_eq_escape_iff : of t = .escape ↔ t = [.char '-', .char '-'] := by
  fun_cases of t <;> simp_all

theorem of_eq_long_iff {name : RawText} {value : Option RawText} :
    of t = .long name value ↔
      ∃ rest, rest ≠ [] ∧ t = .char '-' :: .char '-' :: rest ∧
        RawText.cutAtEquals rest = (name, value) := by
  fun_cases of t <;> simp_all

theorem of_eq_letters_iff {run : RawText} :
    of t = .letters run ↔
      ∃ u rest, u ≠ .char '-' ∧ run = u :: rest ∧ t = .char '-' :: u :: rest := by
  fun_cases of t with
  | case1 => simp
  | case2 rest name value hne heq => simp
  | case3 u rest hescape hu =>
    rw [letters.injEq]
    constructor
    · rintro rfl
      exact ⟨u, rest, hu, rfl, rfl⟩
    · intro h
      rcases h with ⟨u', rest', -, rfl, ht⟩
      cases ht
      rfl
  | case4 t hescape hlong hletters =>
    constructor
    · intro h
      cases h
    · intro h
      rcases h with ⟨u, rest, -, -, ht⟩
      exact absurd ht (hletters u rest)

theorem of_eq_word_iff :
    of t = .word ↔ t.head? ≠ some (.char '-') ∨ t = [.char '-'] := by
  fun_cases of t with
  | case1 => simp
  | case2 rest name value hne heq => simp
  | case3 u rest hu => simp
  | case4 t hescape hlong hletters =>
    refine iff_of_true rfl (or_iff_not_imp_left.2 fun hhead => ?_)
    obtain ⟨rest, rfl⟩ := List.head?_eq_some_iff.1 (not_not.1 hhead)
    cases rest with
    | nil => rfl
    | cons u rest => exact absurd rfl (hletters u rest)

end Shape

/-! ## What good reading does -/

/-- A computation in two parts comes to a result when both parts do. -/
theorem bind_eq_ok_iff {ε α β : Type} {x : Except ε α} {f : α → Except ε β} {b : β} :
    (x >>= f) = .ok b ↔ ∃ a, x = .ok a ∧ f a = .ok b := by
  cases x <;> simp [bind, Except.bind]

theorem map_eq_ok_iff {ε α β : Type} {x : Except ε α} {f : α → β} {b : β} :
    x.map f = .ok b ↔ ∃ a, x = .ok a ∧ f a = b := by
  cases x <;> simp [Except.map]

/-- What a computation does first, it still does first with something after it. -/
theorem bind_eq_ok_iff_first {ε α β γ : Type} {first : Except ε γ} {x : Except ε α}
    {y : γ → Except ε α} {f : α → Except ε β} {b : β}
    (h : ∀ a, x = .ok a ↔ ∃ q, first = .ok q ∧ y q = .ok a) :
    (x >>= f) = .ok b ↔ ∃ q, first = .ok q ∧ (y q >>= f) = .ok b := by
  simp only [bind_eq_ok_iff, h]
  constructor
  · intro h
    rcases h with ⟨a, ⟨q, hfirst, hy⟩, hf⟩
    exact ⟨q, hfirst, a, hy, hf⟩
  · intro h
    rcases h with ⟨q, hfirst, a, hy, hf⟩
    exact ⟨a, ⟨q, hfirst, hy⟩, hf⟩

namespace Progress

variable {κ σ ι : Type} [DecidableEq κ] {g : Grammar κ σ ι} {p q r : Progress κ σ}

theorem record_eq_ok_iff {k : κ} {value : Option RawText} :
    p.record g k value = .ok q ↔
      k ∉ p.recorded ∧ ∃ update, g.read k value = .ok (.change update) ∧
        q = { p with settings := update p.settings, recorded := p.recorded ++ [k] } := by
  unfold record
  split
  case isTrue hmem => simp [hmem]
  case isFalse hmem =>
    split
    case h_1 fault hread => simp [hread]
    case h_2 i hread => simp [hread]
    case h_3 update hread => simp [hread, hmem, eq_comm]

/-- Nothing is open once the open option is recorded. -/
theorem pending_of_close (h : p.close g = .ok q) : q.pending = none := by
  unfold close at h
  split at h
  case h_1 hnone =>
    cases h
    exact hnone
  case h_2 => cases h
  case h_3 k value hsome =>
    unfold record at h
    split at h
    · cases h
    · split at h
      · cases h
      · cases h
      · cases h
        rfl

/-- An option cannot be recorded while it waits for its value. -/
theorem close_ne_ok (h : p.isWaiting = true) : p.close g ≠ .ok q := by
  intro hclose
  unfold isWaiting at h
  split at h
  case h_1 k hpending =>
    rw [close, hpending] at hclose
    cases hclose
  case h_2 => cases h

/-- With nothing open there is nothing to record. -/
theorem close_eq_self (h : p.pending = none) : p.close g = .ok p := by
  rw [close, h]

/-- Nothing waits for a value once the open option is recorded. -/
theorem isWaiting_of_close (h : p.close g = .ok q) : q.isWaiting = false := by
  rw [isWaiting, pending_of_close h]

/-- Recording the open option once more changes nothing. -/
theorem close_eq_ok_iff : p.close g = .ok r ↔ ∃ q, p.close g = .ok q ∧ q.close g = .ok r := by
  constructor
  · intro h
    exact ⟨r, h, close_eq_self (pending_of_close h)⟩
  · intro h
    rcases h with ⟨q, hclose, hq⟩
    rw [close_eq_self (pending_of_close hclose)] at hq
    rw [hclose, hq]

/-- An option that is met has the open one recorded first. -/
theorem meet_eq_ok_iff {k : κ} {attached : Option RawText} :
    p.meet g k attached = .ok r ↔ ∃ q, p.close g = .ok q ∧ q.meet g k attached = .ok r := by
  unfold meet
  split
  · split <;> exact bind_eq_ok_iff_first fun q => close_eq_ok_iff
  · split
    · simp
    · exact bind_eq_ok_iff_first fun q => close_eq_ok_iff

theorem meetLetters_eq_ok_iff {run : RawText} (hrun : run ≠ []) :
    p.meetLetters g run = .ok r ↔ ∃ q, p.close g = .ok q ∧ q.meetLetters g run = .ok r := by
  cases run with
  | nil => exact absurd rfl hrun
  | cons u rest =>
    cases u with
    | byte b => simp [meetLetters]
    | char c =>
      simp only [meetLetters]
      split
      · simp
      · split
        · exact meet_eq_ok_iff
        · exact bind_eq_ok_iff_first fun q => meet_eq_ok_iff

end Progress

namespace Grammar

variable {κ σ ι : Type} {g : Grammar κ σ ι}

/-- A grammar without words takes an argument for what it looks like. -/
theorem shape_eq (hwords : g.words = none) (t : RawText) : g.shape t = Shape.of t := by
  rw [shape, hwords]
  rfl

variable [DecidableEq κ] {p : Progress κ σ} {arguments : List RawText} {r : σ × List RawText}

theorem readWords_eq_ok_iff (hwords : g.words = none) :
    g.readWords p arguments = .ok r ↔
      arguments = [] ∧ ∃ q, p.close g = .ok q ∧ r = (q.settings, []) := by
  cases arguments with
  | nil =>
    rw [readWords]
    cases p.close g <;> simp [Except.map, eq_comm]
  | cons word words => simp [readWords, hwords]

/-- A grammar without words leaves none. -/
theorem words_eq_nil_of_readFrom (hwords : g.words = none) (h : g.readFrom p arguments = .ok r) :
    r.2 = [] := by
  have hend : ∀ p words, g.readWords p words = .ok r → r.2 = [] := by
    intro p words hread
    obtain ⟨-, q, -, rfl⟩ := (readWords_eq_ok_iff hwords).1 hread
    rfl
  induction arguments generalizing p with
  | nil => exact hend p [] h
  | cons t arguments ih =>
    rw [readFrom] at h
    split at h
    · exact hend p arguments h
    · split at h
      · obtain ⟨q, -, hq⟩ := bind_eq_ok_iff.1 h
        exact ih hq
      · cases h
    · obtain ⟨q, -, hq⟩ := bind_eq_ok_iff.1 h
      exact ih hq
    · split at h
      · exact ih h
      · exact hend p (t :: arguments) h

/-- Unless an option waits for a value, reading goes on as if nothing were open. -/
theorem readFrom_eq_ok_iff (hwords : g.words = none) (hwaiting : p.isWaiting = false) :
    g.readFrom p arguments = .ok r ↔
      ∃ q, p.close g = .ok q ∧ g.readFrom q arguments = .ok r := by
  have hend : ∀ words, g.readWords p words = .ok r ↔
      ∃ q, p.close g = .ok q ∧ g.readWords q words = .ok r := by
    intro words
    simp only [readWords_eq_ok_iff hwords]
    constructor
    · intro h
      rcases h with ⟨hnil, q, hclose, hr⟩
      exact ⟨q, hclose, hnil, q, Progress.close_eq_self (Progress.pending_of_close hclose), hr⟩
    · intro h
      rcases h with ⟨q, hclose, hnil, q', hclose', hr⟩
      exact ⟨hnil, q', Progress.close_eq_ok_iff.2 ⟨q, hclose, hclose'⟩, hr⟩
  cases arguments with
  | nil => exact hend []
  | cons t arguments =>
    simp only [readFrom]
    cases hshape : g.shape t with
    | escape => exact hend arguments
    | long name value =>
      dsimp only
      cases hlong : g.ofLong? name with
      | none => simp
      | some k => exact bind_eq_ok_iff_first fun q => Progress.meet_eq_ok_iff
    | letters run =>
      have hrun : run ≠ [] := by
        rw [shape_eq hwords] at hshape
        obtain ⟨u, rest, -, rfl, -⟩ := Shape.of_eq_letters_iff.1 hshape
        exact List.cons_ne_nil u rest
      exact bind_eq_ok_iff_first fun q => Progress.meetLetters_eq_ok_iff hrun
    | word =>
      have hnone : ∀ q : Progress κ σ, g.readWords q (t :: arguments) ≠ .ok r := by
        intro q h
        exact absurd (readWords_eq_ok_iff hwords |>.1 h).1 (List.cons_ne_nil t arguments)
      simp only [hwaiting, Bool.false_eq_true, if_false]
      apply iff_of_false (hnone p)
      intro h
      rcases h with ⟨q, hclose, hq⟩
      rw [Progress.isWaiting_of_close hclose] at hq
      exact hnone q hq

/-- An option that waits takes the next argument for its value, and this must not look
like an option. -/
theorem readFrom_waiting_eq_ok_iff (hwords : g.words = none) (hwaiting : p.isWaiting = true) :
    g.readFrom p arguments = .ok r ↔
      ∃ t rest, arguments = t :: rest ∧ Shape.of t = .word ∧
        g.readFrom (p.supply t) rest = .ok r := by
  have hopen : ∀ q, p.close g ≠ .ok q := fun q => Progress.close_ne_ok hwaiting
  have hend : ∀ words, g.readWords p words ≠ .ok r := by
    intro words h
    obtain ⟨-, q, hclose, -⟩ := (readWords_eq_ok_iff hwords).1 h
    exact hopen q hclose
  cases arguments with
  | nil =>
    apply iff_of_false (hend [])
    intro h
    rcases h with ⟨t, rest, h, -⟩
    cases h
  | cons t arguments =>
    constructor
    · intro h
      refine ⟨t, arguments, rfl, ?_⟩
      rw [readFrom, shape_eq hwords] at h
      cases hshape : Shape.of t with
      | word =>
        rw [hshape] at h
        dsimp only at h
        rw [if_pos hwaiting] at h
        exact ⟨rfl, h⟩
      | escape =>
        rw [hshape] at h
        exact absurd h (hend arguments)
      | long name value =>
        rw [hshape] at h
        dsimp only at h
        split at h
        · obtain ⟨q, hmeet, -⟩ := bind_eq_ok_iff.1 h
          obtain ⟨q', hclose, -⟩ := Progress.meet_eq_ok_iff.1 hmeet
          exact absurd hclose (hopen q')
        · cases h
      | letters run =>
        rw [hshape] at h
        obtain ⟨u, rest, -, rfl, -⟩ := Shape.of_eq_letters_iff.1 hshape
        obtain ⟨q, hmeet, -⟩ := bind_eq_ok_iff.1 h
        obtain ⟨q', hclose, -⟩ :=
          (Progress.meetLetters_eq_ok_iff (List.cons_ne_nil u rest)).1 hmeet
        exact absurd hclose (hopen q')
    · intro h
      rcases h with ⟨t', rest, heq, hshape, h⟩
      cases heq
      rw [readFrom, shape_eq hwords, hshape]
      dsimp only
      rw [if_pos hwaiting]
      exact h

end Grammar

end Arguments

end ResourceFaults
