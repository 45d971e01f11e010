import ResourceFaults.Arguments.Complaint

/-!
# Reading arguments

Arguments are read from left to right.  `Progress` is what has been read: the
settings so far, the options that have been recorded, and the option that is
still open.

An option without an attached value is open until the next option, the first word
or the end of the arguments.  While it has no value it waits for one; an argument
that looks like an option is not taken as that value.  `Progress.close` records
an open option, so a fault in its value is noticed only then.  A flag, and an
option with an attached value, are recorded at once.

Long options are `--name` and `--name=value`.  Letters may be run together after
one hyphen: flags continue the run, and an option that takes a value takes the
rest of the run, less one `=` in front.  After `--` there are no more options.
-/

namespace ResourceFaults.Arguments

open Text (RawText RawChar)

/-- Why reading stops before the end. -/
inductive Interruption (κ ι : Type) where
  | complaint (c : Complaint κ)
  | answer (i : ι)

/-- What has been read. -/
structure Progress (κ σ : Type) where
  settings : σ
  recorded : List κ
  pending : Option (κ × Option RawText)

/-- An argument by its shape. -/
inductive Shape where
  | escape
  | long (name : RawText) (value : Option RawText)
  | letters (run : RawText)
  | word
  deriving DecidableEq, Repr

/-- The shape of an argument.  A single hyphen is a word. -/
def Shape.of : RawText → Shape
  | [.char '-', .char '-'] => escape
  | .char '-' :: .char '-' :: rest =>
    let (name, value) := RawText.cutAtEquals rest
    long name value
  | .char '-' :: u :: run => letters (u :: run)
  | _ => word

namespace Progress

variable {κ σ ι : Type} [DecidableEq κ]

/-- Before the first argument. -/
def start (g : Grammar κ σ ι) : Progress κ σ := ⟨g.blank, [], none⟩

/-- Records an option; no option may come twice. -/
def record (g : Grammar κ σ ι) (p : Progress κ σ) (k : κ) (value : Option RawText) :
    Except (Interruption κ ι) (Progress κ σ) :=
  if k ∈ p.recorded then .error (.complaint (.repeated k))
  else
    match g.read k value with
    | .error fault => .error (.complaint (.invalidValue k (value.getD []) fault))
    | .ok (.answer i) => .error (.answer i)
    | .ok (.change update) =>
      .ok { p with settings := update p.settings, recorded := p.recorded ++ [k] }

/-- Records the open option. -/
def close (g : Grammar κ σ ι) (p : Progress κ σ) :
    Except (Interruption κ ι) (Progress κ σ) :=
  match p.pending with
  | none => .ok p
  | some (k, none) => .error (.complaint (.missingValue k))
  | some (k, some value) => record g { p with pending := none } k (some value)

/-- The options that count as recorded once the open one is closed, whether its
value is good or not.  One that comes a second time no longer counts. -/
def recordedAfterClose (p : Progress κ σ) : List κ :=
  match p.pending with
  | some (k, some _) => if k ∈ p.recorded then p.recorded.erase k else p.recorded ++ [k]
  | _ => p.recorded

/-- Whether an option waits for its value. -/
def isWaiting (p : Progress κ σ) : Bool :=
  match p.pending with
  | some (_, none) => true
  | _ => false

/-- Gives the open option its value. -/
def supply (p : Progress κ σ) (value : RawText) : Progress κ σ :=
  { p with pending := p.pending.map fun (k, _) => (k, some value) }

/-- An option or a flag with its attached value, if it has one. -/
def meet (g : Grammar κ σ ι) (p : Progress κ σ) (k : κ) (attached : Option RawText) :
    Except (Interruption κ ι) (Progress κ σ) :=
  if g.takesValue k then
    match attached with
    | some value => do
      let p ← close g p
      record g p k (some value)
    | none => do
      let p ← close g p
      .ok { p with pending := some (k, none) }
  else
    match attached with
    | some value => .error (.complaint (.unneededValue k value p.recorded.isEmpty))
    | none => do
      let p ← close g p
      record g p k none

/-- What a run of letters leaves for an option that takes a value. -/
def attachedRest : RawText → Option RawText
  | [] => none
  | .char '=' :: value => some value
  | value => some value

/-- A run of letters. -/
def meetLetters (g : Grammar κ σ ι) (p : Progress κ σ) :
    RawText → Except (Interruption κ ι) (Progress κ σ)
  | [] => .ok p
  | .byte b :: rest => .error (.complaint (.unexpected (.char '-' :: .byte b :: rest)))
  | .char c :: rest =>
    match g.ofShort? c with
    | none => .error (.complaint (.unexpected [.char '-', .char c]))
    | some k =>
      if g.takesValue k then meet g p k (attachedRest rest)
      else do
        let p ← meet g p k none
        meetLetters g p rest

end Progress

namespace Grammar

variable {κ σ ι : Type} [DecidableEq κ]

/-- Whether every unit of a run is the letter of an option. -/
def knowsLetters (g : Grammar κ σ ι) (run : RawText) : Bool :=
  run.all fun
    | .char c => (g.ofShort? c).isSome
    | .byte _ => false

/-- What an argument is to a grammar with words: what looks like an option but
is none counts as a word. -/
def shape (g : Grammar κ σ ι) (argument : RawText) : Shape :=
  let s := Shape.of argument
  if g.words.isSome then
    match s with
    | .long name _ => if (g.ofLong? name).isSome || (RawText.chars? name).isNone then s else .word
    | .letters run => if g.knowsLetters run then s else .word
    | s => s
  else s

/-- The end of the options: the words that follow are taken as they stand, and
a grammar without words has no place for any. -/
def readWords (g : Grammar κ σ ι) (p : Progress κ σ) (words : List RawText) :
    Except (Interruption κ ι) (σ × List RawText) :=
  match words with
  | word :: _ =>
    if g.words.isSome then (p.close g).map fun p => (p.settings, words)
    else .error (.complaint (.unexpected word))
  | [] => (p.close g).map fun p => (p.settings, [])

/-- Reads arguments: the settings they make, and the words after the
options. -/
def readFrom (g : Grammar κ σ ι) (p : Progress κ σ) :
    List RawText → Except (Interruption κ ι) (σ × List RawText)
  | [] => g.readWords p []
  | argument :: arguments =>
    match g.shape argument with
    | .escape => g.readWords p arguments
    | .long name value =>
      match g.ofLong? name with
      | some k => do
        let p ← p.meet g k value
        g.readFrom p arguments
      | none => .error (.complaint (.unknownOption name p.recordedAfterClose))
    | .letters run => do
      let p ← p.meetLetters g run
      g.readFrom p arguments
    | .word =>
      if p.isWaiting then g.readFrom (p.supply argument) arguments
      else g.readWords p (argument :: arguments)

/-- Reads a command line. -/
def parse (g : Grammar κ σ ι) (arguments : List RawText) :
    Except (Interruption κ ι) (σ × List RawText) :=
  g.readFrom (Progress.start g) arguments

end Grammar

end ResourceFaults.Arguments
