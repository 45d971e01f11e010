import Mathlib
import ResourceFaults.Options.Parser
import ResourceFaults.Proofs.Arguments.Reading
import ResourceFaults.Proofs.Decimal.Reading

/-!
# Command lines of a fault

The options of a fault as a user may write them, without a parser.  A command line is
a list of items, and an item is one option with its value, or the flag.  Each item has
the arguments it is written as (`Item.tokens`) and the numbers it gives
(`Item.settings`).

`IsCommandLine` says which arguments write a list of items, and `Options.given` what
the items mean.  The meaning depends on neither the spelling of the items nor their
order.
-/

namespace ResourceFaults

open Text (RawText RawChar)

/-! ## Values -/

namespace FaultOption

/-- Whether a text is a value of an option, and stands for a number.  A half word is read
with a sign, so the zero of a block size may have a minus sign. -/
def Reads : FaultOption → List Char → Nat → Prop
  | memory, v, n =>
    (Decimal.IsNumeral v n ∨
      (n = 0 ∧ ∃ ds, v = '-' :: ds ∧ Decimal.AreDigits ds ∧ Decimal.continued 0 ds = 0)) ∧
      n ≤ Arguments.maxHalfWord
  | keep, _, _ => False
  | _, v, n => Decimal.IsNumeral v n ∧ n ≤ maxWord

/-- What an option does to the options with its number.  The flag has no use for one. -/
def put (k : FaultOption) (n : Nat) (o : Options) : Options :=
  match k with
  | duration => { o with durationSecs := UInt64.ofNat n }
  | threads => { o with threads := UInt64.ofNat n }
  | memory => { o with blockMib := UInt32.ofNat n }
  | sleep => { o with sleepMs := UInt64.ofNat n }
  | keep => { o with keep := true }

/-- The letter of an option. -/
def letter : FaultOption → Char
  | duration => 'd'
  | threads => 't'
  | memory => 'm'
  | sleep => 's'
  | keep => 'k'

/-- The long name of an option. -/
def longName (k : FaultOption) : RawText :=
  RawText.ofString k.spelling.long

/-! ## Items -/

/-- How an option that takes a value begins: with its letter, with its letter after
that of the flag, or with its name. -/
inductive Opening where
  | letter
  | flagged
  | name
  deriving DecidableEq

/-- How the value of an option follows: as the next argument, run together with the
letter, or after an equals sign. -/
inductive Form where
  | apart
  | joined
  | equals
  deriving DecidableEq

/-- An option as it is written, with the text of its value and the number that stands
for. -/
inductive Item where
  | flag (long : Bool)
  | valued (opening : Opening) (form : Form) (k : FaultOption) (v : List Char) (n : Nat)

/-- How an option begins. -/
def Opening.text (k : FaultOption) : Opening → RawText
  | letter => [.char '-', .char k.letter]
  | flagged => [.char '-', .char keep.letter, .char k.letter]
  | name => .char '-' :: .char '-' :: k.longName

/-- What follows the beginning of an option in the same argument. -/
def Form.tail (value : RawText) : Form → RawText
  | apart => []
  | joined => value
  | equals => .char '=' :: value

/-- The argument after the one with the option, if the value stands there. -/
def Form.next (value : RawText) : Form → List RawText
  | apart => [value]
  | joined => []
  | equals => []

namespace Item

/-- The arguments that an item is written as. -/
def tokens : Item → List RawText
  | flag false => [[.char '-', .char keep.letter]]
  | flag true => [.char '-' :: .char '-' :: keep.longName]
  | valued opening form k v _ =>
    (opening.text k ++ form.tail (v.map .char)) :: form.next (v.map .char)

/-- The options that an item gives, each with its number. -/
def settings : Item → List (FaultOption × Nat)
  | flag _ => [(.keep, 0)]
  | valued .flagged _ k _ n => [(.keep, 0), (k, n)]
  | valued _ _ k _ n => [(k, n)]

/-- Whether an item may be written.  The next argument is not taken for a value if it
begins with a hyphen, and a name cannot be told from a value that is run together
with it. -/
def IsProper : Item → Prop
  | flag _ => True
  | valued opening form k v n =>
    k.Reads v n ∧ (form = .apart → v.head? ≠ some '-') ∧ (form = .joined → opening ≠ .name)

end Item

/-- What the items of a command line give in all. -/
def settingsOf (items : List Item) : List (FaultOption × Nat) :=
  items.flatMap Item.settings

/-- The options among some settings. -/
abbrev optionsOf (l : List (FaultOption × Nat)) : List FaultOption :=
  l.map Prod.fst

/-- Whether some arguments are the items of a command line, each option once at most.
A last argument may end the options. -/
structure IsCommandLine (items : List Item) (tokens : List RawText) : Prop where
  written : tokens = items.flatMap Item.tokens ∨
    tokens = items.flatMap Item.tokens ++ [[.char '-', .char '-']]
  proper : ∀ i ∈ items, i.IsProper
  once : (optionsOf (settingsOf items)).Nodup

end FaultOption

open FaultOption

/-- What some settings mean: an option that is not given has its default, and the size
of a block its limit. -/
def Options.given (l : List (FaultOption × Nat)) : Options where
  durationSecs := (l.lookup .duration).elim ({} : Options).durationSecs UInt64.ofNat
  threads := (l.lookup .threads).elim ({} : Options).threads UInt64.ofNat
  blockMib := min ((l.lookup .memory).elim ({} : Options).blockMib UInt32.ofNat) maxBlockMib
  sleepMs := (l.lookup .sleep).elim ({} : Options).sleepMs UInt64.ofNat
  keep := (l.lookup .keep).isSome

/-! ## What settings mean -/

/-- The options after some settings, one after the other. -/
def Options.putAll (o : Options) (l : List (FaultOption × Nat)) : Options :=
  l.foldl (fun o s => s.1.put s.2 o) o

section Settings

variable {l l' : List (FaultOption × Nat)} {k : FaultOption} {n : Nat}

theorem FaultOption.mem_optionsOf (h : (k, n) ∈ l) : k ∈ optionsOf l :=
  List.mem_map.2 ⟨(k, n), h, rfl⟩

/-- Of an option that is given once, the number is the one it is given with. -/
theorem FaultOption.lookup_eq_some_iff_mem (h : (optionsOf l).Nodup) :
    l.lookup k = some n ↔ (k, n) ∈ l := by
  induction l with
  | nil => simp
  | cons s l ih =>
    rcases s with ⟨k', n'⟩
    rw [optionsOf, List.map_cons, List.nodup_cons] at h
    rw [List.lookup_cons, List.mem_cons]
    by_cases hk : k = k'
    · subst hk
      have hnot : (k, n) ∉ l := fun hmem => h.1 (mem_optionsOf hmem)
      simp [hnot, eq_comm]
    · have hbeq : (k == k') = false := beq_false_of_ne hk
      simp [hbeq, hk, ih h.2]

/-- Settings that are the same up to their order mean the same. -/
theorem Options.given_perm (hperm : l.Perm l') (h : (optionsOf l).Nodup) :
    given l = given l' := by
  have h' : (optionsOf l').Nodup := (hperm.map Prod.fst).nodup_iff.1 h
  have hlookup : ∀ k, l.lookup k = l'.lookup k := by
    intro k
    ext n
    rw [lookup_eq_some_iff_mem h, lookup_eq_some_iff_mem h', hperm.mem_iff]
  simp only [given, hlookup]

/-- A field that one option alone changes ends with the number of that option. -/
theorem FaultOption.field_putAll {α : Type} (field : Options → α) (k₀ : FaultOption)
    (value : Nat → α)
    (hput : ∀ k n o, field (k.put n o) = if k = k₀ then value n else field o)
    (h : (optionsOf l).Nodup) (o : Options) :
    field (o.putAll l) = (l.lookup k₀).elim (field o) value := by
  induction l generalizing o with
  | nil => rfl
  | cons s l ih =>
    rcases s with ⟨k, n⟩
    rw [optionsOf, List.map_cons, List.nodup_cons] at h
    have hrest := ih h.2 (k.put n o)
    rw [hput] at hrest
    rw [List.lookup_cons]
    by_cases hk : k = k₀
    · subst hk
      have hnone : l.lookup k = none := by
        rw [Option.eq_none_iff_forall_ne_some]
        intro m hm
        exact h.1 (mem_optionsOf ((lookup_eq_some_iff_mem h.2).1 hm))
      rw [hnone, if_pos rfl] at hrest
      rw [beq_self_eq_true]
      exact hrest
    · have hbeq : (k₀ == k) = false := beq_false_of_ne (Ne.symm hk)
      rw [if_neg hk] at hrest
      rw [hbeq]
      exact hrest

/-- Options that are set one after the other come to what the settings mean. -/
theorem Options.clamped_putAll (h : (optionsOf l).Nodup) :
    (putAll {} l).clamped = given l := by
  have hduration := field_putAll durationSecs .duration UInt64.ofNat
    (by intro k n o; cases k <;> rfl) h {}
  have hthreads := field_putAll threads .threads UInt64.ofNat
    (by intro k n o; cases k <;> rfl) h {}
  have hmemory := field_putAll blockMib .memory UInt32.ofNat
    (by intro k n o; cases k <;> rfl) h {}
  have hsleep := field_putAll sleepMs .sleep UInt64.ofNat
    (by intro k n o; cases k <;> rfl) h {}
  have hkeep := field_putAll keep .keep (fun _ => true)
    (by intro k n o; cases k <;> rfl) h {}
  have hflag : (l.lookup .keep).elim false (fun _ => true) =
      (l.lookup FaultOption.keep).isSome := by
    cases l.lookup FaultOption.keep <;> rfl
  rw [given, ← hduration, ← hthreads, ← hmemory, ← hsleep, ← hflag, ← hkeep]
  rfl

end Settings

end ResourceFaults
