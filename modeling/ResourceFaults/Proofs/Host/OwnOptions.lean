import Mathlib
import ResourceFaults.Host.Settings
import ResourceFaults.Proofs.Arguments.Naming
import ResourceFaults.Proofs.Options.Values

/-!
# The host's own options and the words of a command

The options of the host as a user may write them, without a parser: a list of
`WrittenOption`s has the arguments it is written as (`WrittenOption.tokens`) and the
settings it gives (`Settings.given`).

`Settings.parse_own_options` says that these settings are read, and that the words after
the options are left as they stand, whatever they look like.  The reading is followed
option by option: `WrittenOption.progress l` is what has been read once the options `l`
are recorded, and each option in turn leads from one such point to the next
(`WrittenOption.Leads`).
-/

namespace ResourceFaults.Host

open Text (RawText RawChar)
open Arguments (Effect Grammar Progress Shape named)

/-! ## Options as they are written -/

/-- Where the value of an option stands: in an argument of its own, or behind an equals
sign. -/
inductive ValuePlace where
  | apart
  | attached
  deriving DecidableEq

/-- An option of the host as it is written, with the text of its value and what that
stands for. -/
inductive WrittenOption where
  | pid (place : ValuePlace) (text : List Char) (n : UInt32)
  | statusInterval (place : ValuePlace) (text : List Char) (n : UInt64)
  | follow
  | reportFile (place : ValuePlace) (path : RawText)

/-- The long name of an option. -/
def HostOption.longName (k : HostOption) : RawText :=
  RawText.ofString k.spelling.long

theorem HostOption.isNameOf (k : HostOption) : grammar.IsNameOf k.longName k := by
  cases k
  all_goals exact ⟨rfl, by decide, by decide⟩

namespace WrittenOption

/-- Which option it is. -/
def option : WrittenOption → HostOption
  | pid .. => .pid
  | statusInterval .. => .statusInterval
  | follow => .follow
  | reportFile .. => .reportFile

/-- The value with its place, if the option takes one. -/
def value : WrittenOption → Option (ValuePlace × RawText)
  | pid place text _ => some (place, text.map .char)
  | statusInterval place text _ => some (place, text.map .char)
  | follow => none
  | reportFile place path => some (place, path)

/-- The arguments that an option is written as. -/
def tokens (o : WrittenOption) : List RawText :=
  match o.value with
  | none => [named o.option.longName none]
  | some (.apart, v) => [named o.option.longName none, v]
  | some (.attached, v) => [named o.option.longName (some v)]

/-- Whether the text of a value stands for it.  The number of a process is read with a
sign, so its zero may have a minus sign. -/
def Stands : WrittenOption → Prop
  | pid _ text n => Decimal.IsNumeral text n.toNat ∨
      (n = 0 ∧ ∃ ds, text = '-' :: ds ∧ Decimal.AreDigits ds ∧ Decimal.continued 0 ds = 0)
  | statusInterval _ text n => Decimal.IsNumeral text n.toNat
  | follow => True
  | reportFile _ path => path ≠ []

/-- Whether an option may be written.  An argument that begins with a hyphen is not taken
for a value. -/
structure IsProper (o : WrittenOption) : Prop where
  stands : o.Stands
  apart : ∀ v, o.value = some (.apart, v) → v.head? ≠ some (.char '-')

/-- What an option does to the settings. -/
def put (s : Settings) : WrittenOption → Settings
  | pid _ _ n => { s with pid := some n }
  | statusInterval _ _ n => { s with statusInterval := n }
  | follow => { s with follow := true }
  | reportFile _ path => { s with reportFile := some path }

/-- The number of a process, if that is what is given. -/
def pid? : WrittenOption → Option UInt32
  | pid _ _ n => some n
  | _ => none

/-- The interval between status lines, if that is what is given. -/
def statusInterval? : WrittenOption → Option UInt64
  | statusInterval _ _ n => some n
  | _ => none

/-- Whether this is the flag. -/
def isFollow : WrittenOption → Bool
  | follow => true
  | _ => false

/-- The path of a report, if that is what is given. -/
def reportFile? : WrittenOption → Option RawText
  | reportFile _ path => some path
  | _ => none

end WrittenOption

/-- The settings that some options give; what is not given has its default. -/
def Settings.given (l : List WrittenOption) : Settings where
  pid := l.findSome? WrittenOption.pid?
  statusInterval := (l.findSome? WrittenOption.statusInterval?).getD ({} : Settings).statusInterval
  follow := l.any WrittenOption.isFollow
  reportFile := l.findSome? WrittenOption.reportFile?

namespace WrittenOption

variable {l : List WrittenOption} {o : WrittenOption}

/-! ## What options give -/

theorem findSome?_eq_none {α : Type} {part : WrittenOption → Option α} {k : HostOption}
    (hpart : ∀ o, o.option ≠ k → part o = none) (hnew : k ∉ l.map option) :
    l.findSome? part = none := by
  rw [List.findSome?_eq_none_iff]
  intro o ho
  exact hpart o fun hk => hnew (List.mem_map.2 ⟨o, ho, hk⟩)

/-- One option more changes the settings as it would on its own. -/
theorem given_concat (hnew : o.option ∉ l.map option) :
    Settings.given (l ++ [o]) = o.put (Settings.given l) := by
  cases o with
  | pid place text n =>
    have hnone : l.findSome? pid? = none :=
      findSome?_eq_none (fun o ho => by cases o <;> simp_all [option, pid?]) hnew
    simp [Settings.given, put, List.findSome?_append, hnone, pid?, statusInterval?, reportFile?,
      isFollow]
  | statusInterval place text n =>
    have hnone : l.findSome? statusInterval? = none :=
      findSome?_eq_none (fun o ho => by cases o <;> simp_all [option, statusInterval?]) hnew
    simp [Settings.given, put, List.findSome?_append, hnone, pid?, statusInterval?, reportFile?,
      isFollow]
  | follow =>
    simp [Settings.given, put, List.findSome?_append, pid?, statusInterval?, reportFile?,
      isFollow]
  | reportFile place path =>
    have hnone : l.findSome? reportFile? = none :=
      findSome?_eq_none (fun o ho => by cases o <;> simp_all [option, reportFile?]) hnew
    simp [Settings.given, put, List.findSome?_append, hnone, pid?, statusInterval?, reportFile?,
      isFollow]

/-! ## What the host makes of an option -/

theorem takesValue_eq (o : WrittenOption) :
    HostOption.grammar.takesValue o.option = o.value.isSome := by
  cases o <;> rfl

theorem toNat_halfWord_le (n : UInt32) : n.toNat ≤ Arguments.maxHalfWord :=
  Nat.le_sub_one_of_lt n.toNat_lt

/-- A value that stands for something is read as that. -/
theorem read_eq_ok (h : o.Stands) :
    HostOption.read o.option (o.value.map Prod.snd) = .ok (.change o.put) := by
  cases o with
  | pid place text n =>
    have hreads : FaultOption.memory.Reads text n.toNat := by
      refine ⟨h.imp_right ?_, toNat_halfWord_le n⟩
      rintro ⟨rfl, hzero⟩
      exact ⟨rfl, hzero⟩
    have hread : Arguments.readHalfWord (some (text.map .char)) = .ok n :=
      Arguments.readHalfWord_eq_ok_iff.2 ⟨text, n.toNat, rfl, hreads, UInt32.ofNat_toNat⟩
    show (Arguments.readHalfWord (some (text.map .char))).map _ = _
    rw [hread]
    rfl
  | statusInterval place text n =>
    have hle : n.toNat ≤ maxWord := Nat.le_sub_one_of_lt n.toNat_lt
    have hread : Arguments.readWord (some (text.map .char)) = .ok n :=
      Arguments.readWord_eq_ok_iff.2 ⟨text, n.toNat, rfl, ⟨h, hle⟩, UInt64.ofNat_toNat⟩
    show (Arguments.readWord (some (text.map .char))).map _ = _
    rw [hread]
    rfl
  | follow => rfl
  | reportFile place path =>
    cases path with
    | nil => exact absurd rfl h
    | cons u path => rfl

/-- What has been read once some options are recorded and nothing is open. -/
def progress (l : List WrittenOption) : Progress HostOption Settings :=
  ⟨Settings.given l, l.map option, none⟩

theorem record_progress (h : o.Stands) (hnew : o.option ∉ l.map option) :
    (progress l).record HostOption.grammar o.option (o.value.map Prod.snd) =
      .ok (progress (l ++ [o])) := by
  refine Progress.record_eq_ok_iff.2 ⟨hnew, o.put, read_eq_ok h, ?_⟩
  simp [progress, given_concat hnew]

/-! ## One option after the other -/

/-- Whether some arguments lead the reading on: whatever follows them is read from a point
at which the options `l` are recorded, the last of them maybe still open. -/
def Leads (p : Progress HostOption Settings) (tokens : List RawText) (l : List WrittenOption) :
    Prop :=
  ∃ q, q.close HostOption.grammar = .ok (progress l) ∧
    ∀ rest, HostOption.grammar.readFrom p (tokens ++ rest) = HostOption.grammar.readFrom q rest

theorem leads_option {p : Progress HostOption Settings} (h : o.IsProper)
    (hnew : o.option ∉ l.map option) (hclose : p.close HostOption.grammar = .ok (progress l)) :
    Leads p o.tokens (l ++ [o]) := by
  have hrecord := record_progress h.stands hnew
  have htakes := o.takesValue_eq
  unfold tokens
  cases hvalue : o.value with
  | none =>
    rw [hvalue] at hrecord htakes
    exact ⟨progress (l ++ [o]), Progress.close_eq_self rfl, fun rest =>
      Grammar.readFrom_flag o.option.isNameOf htakes hclose hrecord rest⟩
  | some placed =>
    rw [hvalue] at hrecord htakes
    rcases placed with ⟨place, v⟩
    cases place with
    | apart =>
      have hword : Shape.of v = .word := Shape.of_eq_word_iff.2 (.inl (h.apart v hvalue))
      refine ⟨{ progress l with pending := some (o.option, some v) }, ?_, fun rest =>
        Grammar.readFrom_apart o.option.isNameOf htakes hclose hword rest⟩
      rw [Progress.close_open rfl]
      exact hrecord
    | attached =>
      exact ⟨progress (l ++ [o]), Progress.close_eq_self rfl, fun rest =>
        Grammar.readFrom_attached o.option.isNameOf htakes hclose hrecord rest⟩

/-- Options that are written one after the other are recorded one after the other. -/
theorem leads_options {p : Progress HostOption Settings} {more : List WrittenOption}
    (hproper : ∀ o ∈ more, o.IsProper) (honce : ((l ++ more).map option).Nodup)
    (hclose : p.close HostOption.grammar = .ok (progress l)) :
    Leads p (more.flatMap tokens) (l ++ more) := by
  induction more generalizing l p with
  | nil => exact ⟨p, by rw [List.append_nil, hclose], fun rest => rfl⟩
  | cons o more ih =>
    have hsplit : l ++ o :: more = (l ++ [o]) ++ more := by rw [List.append_assoc]; rfl
    rw [hsplit] at honce ⊢
    have hnew : o.option ∉ l.map option := by
      have hfirst : ((l ++ [o]).map option).Nodup := by
        rw [List.map_append] at honce
        exact honce.of_append_left
      rw [List.map_append, List.map_singleton, ← List.concat_eq_append,
        List.nodup_concat] at hfirst
      exact hfirst.1
    obtain ⟨q, hq, hread⟩ := leads_option (hproper o List.mem_cons_self) hnew hclose
    obtain ⟨r, hr, hreads⟩ := ih (fun o ho => hproper o (List.mem_cons_of_mem _ ho)) honce hq
    refine ⟨r, hr, fun rest => ?_⟩
    rw [List.flatMap_cons, List.append_assoc, hread, hreads]

end WrittenOption

/-! ## Words -/

theorem wordTexts?_map_ofString (words : List String) :
    wordTexts? (words.map RawText.ofString) = some words := by
  induction words with
  | nil => rfl
  | cons w words ih => simp [wordTexts?, RawText.text?_ofString, ih]

/-- What looks like no option is a word. -/
theorem shape_ofString {w : String} (h : w.toList.head? ≠ some '-') :
    Shape.of (RawText.ofString w) = .word := by
  refine Shape.of_eq_word_iff.2 (.inl fun hhead => h ?_)
  rw [RawText.ofString, List.head?_map, Option.map_eq_some_iff] at hhead
  obtain ⟨c, hc, heq⟩ := hhead
  rw [hc, RawChar.char.inj heq]

/-- Own options are read in any order and spelling, each once at most, and give the
settings with their values and the defaults for the rest.  The words after them are left
as they stand, whatever they look like, if the first does not begin with a hyphen.  A
`--` in front of the words is dropped, and then the first may begin as it likes. -/
theorem Settings.parse_own_options (l : List WrittenOption) (words : List String)
    (hproper : ∀ o ∈ l, o.IsProper) (honce : (l.map WrittenOption.option).Nodup) :
    ((∀ w ∈ words.head?, w.toList.head? ≠ some '-') →
      parse (l.flatMap WrittenOption.tokens ++ words.map RawText.ofString) =
        .ok (given l, words)) ∧
    parse (l.flatMap WrittenOption.tokens ++ RawText.ofString "--" ::
        words.map RawText.ofString) = .ok (given l, words) := by
  have hstart : (Progress.start HostOption.grammar).close HostOption.grammar =
      .ok (WrittenOption.progress []) := rfl
  have hleads : WrittenOption.Leads (Progress.start HostOption.grammar)
      (l.flatMap WrittenOption.tokens) l :=
    WrittenOption.leads_options (l := []) hproper honce hstart
  obtain ⟨q, hclose, hread⟩ := hleads
  have hwords : HostOption.grammar.words.isSome = true := rfl
  have hend : ∀ rest, HostOption.grammar.readFrom q rest =
      .ok (given l, words.map RawText.ofString) →
        parse (l.flatMap WrittenOption.tokens ++ rest) = .ok (given l, words) := by
    intro rest hrest
    rw [parse, Grammar.parse, hread, hrest]
    simp only [wordTexts?_map_ofString]
  constructor
  · intro hfirst
    refine hend _ (Grammar.readFrom_words hwords hclose ?_)
    intro word hword
    rw [List.head?_map, Option.mem_def, Option.map_eq_some_iff] at hword
    obtain ⟨w, hw, rfl⟩ := hword
    exact shape_ofString (hfirst w hw)
  · exact hend _ (Grammar.readFrom_escape hwords hclose)

/-- What looks like an option of the host stays with the command, behind its first word or
behind `--`. -/
theorem Settings.parse_own_options_all_four :
    let own := ["--status-interval=07", "--report-file", "r", "--follow", "--pid", "+12"]
    let settings : Settings :=
      { pid := some 12, statusInterval := 7, follow := true
        reportFile := some (RawText.ofString "r") }
    parse ((own ++ ["cpu", "--", "--follow", "--pid", "-h"]).map RawText.ofString) =
        .ok (settings, ["cpu", "--", "--follow", "--pid", "-h"]) ∧
      parse ((own ++ ["--", "-h", "--", "x"]).map RawText.ofString) =
        .ok (settings, ["-h", "--", "x"]) := by
  intro own settings
  have hseven : Decimal.IsNumeral ['0', '7'] 7 :=
    ⟨['0', '7'], .inl rfl, by simp [Decimal.AreDigits], rfl⟩
  have htwelve : Decimal.IsNumeral ['+', '1', '2'] 12 :=
    ⟨['1', '2'], .inr rfl, by simp [Decimal.AreDigits], rfl⟩
  let l : List WrittenOption :=
    [.statusInterval .attached ['0', '7'] 7, .reportFile .apart (RawText.ofString "r"), .follow,
      .pid .apart ['+', '1', '2'] 12]
  have hproper : ∀ o ∈ l, o.IsProper := by
    simp only [l, List.forall_mem_cons, List.not_mem_nil, false_implies, implies_true, and_true]
    refine ⟨⟨hseven, nofun⟩, ⟨List.cons_ne_nil _ _, ?_⟩, ⟨trivial, nofun⟩, ⟨.inl htwelve, ?_⟩⟩
    · rintro v ⟨⟩
      decide
    · rintro v ⟨⟩
      decide
  have honce : (l.map WrittenOption.option).Nodup := by decide
  have hgiven : given l = settings := rfl
  have hcommand := (parse_own_options l ["cpu", "--", "--follow", "--pid", "-h"] hproper honce).1
    (by decide)
  have hescaped := (parse_own_options l ["-h", "--", "x"] hproper honce).2
  rw [hgiven] at hcommand hescaped
  exact ⟨hcommand, hescaped⟩

end ResourceFaults.Host
