import Mathlib
import ResourceFaults.Proofs.Arguments.Reading

/-!
# Options by their names, and the words after them

How the reading of arguments goes on after an option that is written by its name, in
any grammar: the option is recorded as soon as the next argument makes it certain, so
what has been read is compared through `Progress.close`.  With its value behind an
equals sign or without a value an option is recorded at once; with its value apart it
stays open.

In a grammar with words the first argument that does not look like an option ends the
options, and so does a lone `--`, which is dropped.  From there on every argument is a
word (`Grammar.readFrom_words`, `Grammar.readFrom_escape`).
-/

namespace ResourceFaults.Arguments

open Text (RawText RawChar)

/-- The argument that names an option, with the value that is attached to it. -/
def named (name : RawText) (attached : Option RawText) : RawText :=
  .char '-' :: .char '-' :: (name ++ attached.elim [] (.char '=' :: ·))

variable {κ σ ι : Type} {g : Grammar κ σ ι} {k : κ} {name : RawText}

/-! ## The open option -/

namespace Progress

variable [DecidableEq κ] {p q : Progress κ σ}

/-- An open option that has its value is recorded in the end. -/
theorem close_open {value : RawText} (hq : q.pending = none) :
    close g { q with pending := some (k, some value) } = q.record g k (some value) := by
  have heq : { q with pending := none } = q := by rw [← hq]
  rw [close]
  exact congrArg (fun q => record g q k (some value)) heq

/-- What can be recorded does not wait for its value. -/
theorem not_isWaiting_of_close (hclose : p.close g = .ok q) : p.isWaiting = false :=
  Bool.eq_false_iff.2 fun hwaiting => close_ne_ok hwaiting hclose

end Progress

namespace Grammar

/-- Whether an option goes by a name that an equals sign can follow. -/
structure IsNameOf (g : Grammar κ σ ι) (name : RawText) (k : κ) : Prop where
  ofLong?_eq : g.ofLong? name = some k
  ne_nil : name ≠ []
  equals_not_mem : RawChar.char '=' ∉ name

theorem shape_named (h : g.IsNameOf name k) (attached : Option RawText) :
    g.shape (named name attached) = .long name attached := by
  have hshape : Shape.of (named name attached) = .long name attached :=
    Shape.of_eq_long_iff.2 ⟨_, List.append_ne_nil_of_left_ne_nil h.ne_nil _, rfl,
      RawText.cutAtEquals_joined h.equals_not_mem⟩
  rw [shape, hshape]
  simp [h.ofLong?_eq]

/-- What looks like a word is one. -/
theorem shape_of_word {t : RawText} (h : Shape.of t = .word) : g.shape t = .word := by
  rw [shape, h]
  split <;> rfl

theorem shape_of_escape : g.shape [.char '-', .char '-'] = .escape := by
  rw [shape, Shape.of_eq_escape_iff.2 rfl]
  split <;> rfl

/-! ## Options -/

variable [DecidableEq κ] {p q r : Progress κ σ}

theorem readFrom_named (h : g.IsNameOf name k) (attached : Option RawText)
    (arguments : List RawText) :
    g.readFrom p (named name attached :: arguments) =
      (p.meet g k attached >>= fun q => g.readFrom q arguments) := by
  rw [readFrom, shape_named h]
  simp only [h.ofLong?_eq]

/-- A flag is recorded at once. -/
theorem readFrom_flag (h : g.IsNameOf name k) (hk : g.takesValue k = false)
    (hclose : p.close g = .ok q) (hrecord : q.record g k none = .ok r)
    (arguments : List RawText) :
    g.readFrom p (named name none :: arguments) = g.readFrom r arguments := by
  have hmeet : p.meet g k none = .ok r := by
    rw [Progress.meet, hk, hclose]
    exact hrecord
  rw [readFrom_named h, hmeet]
  rfl

/-- An option with its value behind an equals sign is recorded at once. -/
theorem readFrom_attached {value : RawText} (h : g.IsNameOf name k)
    (hk : g.takesValue k = true) (hclose : p.close g = .ok q)
    (hrecord : q.record g k (some value) = .ok r) (arguments : List RawText) :
    g.readFrom p (named name (some value) :: arguments) = g.readFrom r arguments := by
  have hmeet : p.meet g k (some value) = .ok r := by
    rw [Progress.meet, hk, hclose]
    exact hrecord
  rw [readFrom_named h, hmeet]
  rfl

/-- An option takes the next argument for its value and stays open. -/
theorem readFrom_apart {value : RawText} (h : g.IsNameOf name k)
    (hk : g.takesValue k = true) (hclose : p.close g = .ok q)
    (hvalue : Shape.of value = .word) (arguments : List RawText) :
    g.readFrom p (named name none :: value :: arguments) =
      g.readFrom { q with pending := some (k, some value) } arguments := by
  have hmeet : p.meet g k none = .ok { q with pending := some (k, none) } := by
    rw [Progress.meet, hk, hclose]
    rfl
  rw [readFrom_named h, hmeet]
  show g.readFrom { q with pending := some (k, none) } (value :: arguments) = _
  rw [readFrom, shape_of_word hvalue]
  rfl

/-! ## Words -/

variable {words : List RawText}

theorem readWords_eq_ok (hwords : g.words.isSome = true) (hclose : p.close g = .ok q)
    (words : List RawText) : g.readWords p words = .ok (q.settings, words) := by
  cases words with
  | nil =>
    rw [readWords, hclose]
    rfl
  | cons word words =>
    rw [readWords, if_pos hwords, hclose]
    rfl

/-- From the first word on every argument is a word, whatever it looks like. -/
theorem readFrom_words (hwords : g.words.isSome = true) (hclose : p.close g = .ok q)
    (hfirst : ∀ word ∈ words.head?, Shape.of word = .word) :
    g.readFrom p words = .ok (q.settings, words) := by
  cases words with
  | nil => exact readWords_eq_ok hwords hclose []
  | cons word words =>
    rw [readFrom, shape_of_word (hfirst word rfl)]
    simp only [Progress.not_isWaiting_of_close hclose, Bool.false_eq_true, if_false]
    exact readWords_eq_ok hwords hclose (word :: words)

/-- After a lone `--` every argument is a word, the first one too. -/
theorem readFrom_escape (hwords : g.words.isSome = true) (hclose : p.close g = .ok q) :
    g.readFrom p ([.char '-', .char '-'] :: words) = .ok (q.settings, words) := by
  rw [readFrom, shape_of_escape]
  exact readWords_eq_ok hwords hclose words

end Grammar

end ResourceFaults.Arguments
