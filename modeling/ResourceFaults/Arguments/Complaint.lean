import ResourceFaults.Arguments.Grammar
import ResourceFaults.Text.Similarity

/-!
# Complaints about arguments

A complaint says what is wrong with a command line.  Its message quotes what the
user wrote in the way of its grammar, and most messages end with a line on how
the program is used.
-/

namespace ResourceFaults.Arguments

open Text (RawText)

/-- What is wrong with a command line. -/
inductive Complaint (κ : Type) where
  | invalidValue (option : κ) (value : RawText) (fault : ValueFault)
  | missingValue (option : κ)
  | repeated (option : κ)
  | unneededValue (option : κ) (value : RawText) (first : Bool)
  | unexpected (argument : RawText)
  | unknownOption (name : RawText) (recorded : List κ)
  | brokenWord

/-- The sorts of complaint. -/
inductive ComplaintKind where
  | badValue
  | noValue
  | conflict
  | brokenText
  | tooManyValues
  | unknown
  deriving DecidableEq, Repr

/-- The wording of a number outside its range. -/
def outOfRangeMessage (i : Int) (limit : Nat) : String :=
  s!"{i} is not in 0..={limit}"

/-- The wording of a fault in a value; `none` if the complaint about it does not
quote the value. -/
def ValueFault.detail? : ValueFault → Option String
  | number fault => some fault.message
  | outOfRange i limit => some (outOfRangeMessage i limit)
  | notText | empty => none

namespace Complaint

variable {κ : Type}

/-- The sort of a complaint. -/
def kind : Complaint κ → ComplaintKind
  | invalidValue _ _ (.number _) | invalidValue _ _ (.outOfRange ..) => .badValue
  | invalidValue _ _ .notText | brokenWord => .brokenText
  | invalidValue _ _ .empty | missingValue _ => .noValue
  | repeated _ => .conflict
  | unneededValue .. => .tooManyValues
  | unexpected _ | unknownOption .. => .unknown

/-- The fault in a value, where that is what a complaint is about. -/
def detail? : Complaint κ → Option String
  | invalidValue _ _ fault => fault.detail?
  | _ => none

end Complaint

namespace Grammar

variable {κ σ ι : Type}

/-- What a message shows of a text that the user wrote. -/
def shown (g : Grammar κ σ ι) (t : RawText) : String :=
  g.display t.shown

/-- How words are shown in a line on usage. -/
def wordsUsage (g : Grammar κ σ ι) : String :=
  match g.words with
  | some name => s!" [{name}]..."
  | none => ""

/-- A line on usage, as the last lines of a message. -/
def usage (g : Grammar κ σ ι) (form : String) : String :=
  s!"\n\nUsage: {g.program} {form}\n"

/-- The general line on usage. -/
def generalUsage (g : Grammar κ σ ι) : String :=
  g.usage ("[OPTIONS]" ++ g.wordsUsage)

/-- The form of usage of a flag.  After other options these are listed as
alternatives, the flag among them if it is one of the group. -/
def flagForm (g : Grammar κ σ ι) (k : κ) (first : Bool) : String :=
  let names := (g.options.filter g.grouped).map g.name ++ g.words.toList
  let group := "<" ++ "|".intercalate names ++ ">"
  if first then g.name k ++ g.wordsUsage
  else if g.grouped k then group
  else g.name k ++ " " ++ group

/-- The option whose long name is most similar to a given one, and similar
enough to be meant.  Of two that are equally similar, the later is taken. -/
def suggestion? (g : Grammar κ σ ι) (name : RawText) : Option κ :=
  let better (best : Option (κ × Float)) (k : κ) : Option (κ × Float) :=
    let x := Text.similarity name.shownChars (g.spelling k).long.toList
    match best with
    | some (_, y) => if y ≤ x then some (k, x) else best
    | none => if 0.7 < x then some (k, x) else none
  (g.options.foldl better none).map (·.1)

/-- The wording of a complaint. -/
def message [DecidableEq κ] (g : Grammar κ σ ι) (complaint : Complaint κ) : String :=
  "error: " ++ body complaint ++ g.footer
where
  missing (k : κ) : String :=
    s!"a value is required for '{g.name k}' but none was supplied\n"
  refused (k : κ) (value : RawText) (reason : String) : String :=
    s!"invalid value '{g.shown value}' for '{g.name k}': {reason}\n"
  broken : String := "invalid UTF-8 was detected in one or more arguments" ++ g.generalUsage
  body : Complaint κ → String
    | .invalidValue k value fault =>
      match fault with
      | .number fault => refused k value fault.message
      | .outOfRange i limit => refused k value (outOfRangeMessage i limit)
      | .notText => broken
      | .empty => missing k
    | .brokenWord => broken
    | .missingValue k => missing k
    | .repeated k => s!"the argument '{g.name k}' cannot be used multiple times" ++ g.generalUsage
    | .unneededValue k value first =>
      s!"unexpected value '{g.shown value}' for '{g.name k}' found; no more were expected"
        ++ g.usage (g.flagForm k first)
    | .unexpected argument => s!"unexpected argument '{g.shown argument}' found" ++ g.generalUsage
    | .unknownOption name recorded =>
      let argument := RawText.ofString "--" ++ name
      let start := s!"unexpected argument '{g.shown argument}' found"
      match g.suggestion? name with
      | none =>
        start ++ (if recorded.isEmpty then g.generalUsage
          else g.usage (" ".intercalate (recorded.map g.name) ++ g.wordsUsage))
      | some k =>
        let listed := if k ∈ recorded then recorded else recorded ++ [k]
        start ++ s!"\n\n  tip: a similar argument exists: '--{(g.spelling k).long}'"
          ++ g.usage (" ".intercalate (listed.map g.name) ++ g.wordsUsage)

end Grammar

end ResourceFaults.Arguments
