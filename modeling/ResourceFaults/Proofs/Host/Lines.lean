import Mathlib
import ResourceFaults.Host.Run
import ResourceFaults.Proofs.Decimal.Writing

/-!
# The lines of what is printed

A host prints text after text and a line feed behind each.  What a reader sees are
lines, and a text that holds a line feed of its own is more than one of them.
`injectLines` cuts a text into its lines and keeps those that look as if a command had
been carried out; over texts that are printed one after the other it goes text by text
(`injectLines_written`).

Most texts that a host prints are made of fixed words and of numbers and are one line
each (`IsUnbroken`).  The others begin with fixed words and repeat a text from the
command line; of these it is the lines after the first that may look like anything
(`echoed`).
-/

namespace ResourceFaults.Host

open Text (RawText)

/-! ## Lines -/

/-- The lines of a text. -/
def linesOf (text : String) : List String :=
  (text.toList.splitOn '\n').map String.ofList

/-- Texts as they stand on an output, each with a line feed behind it. -/
def written (texts : List String) : String :=
  String.join (texts.map (· ++ "\n"))

/-- Whether a line says that a command has been carried out. -/
def isInjectLine (line : String) : Bool :=
  "[INJECT] ".toList.isPrefixOf line.toList

/-- The lines of a text that say that a command has been carried out. -/
def injectLines (text : String) : List String :=
  (linesOf text).filter isInjectLine

/-- The lines of a text that say so, apart from the first. -/
def echoed (text : String) : List String :=
  (linesOf text).tail.filter isInjectLine

/-- Whether a text holds no line feed. -/
def IsUnbroken (text : String) : Prop :=
  '\n' ∉ text.toList

instance (text : String) : Decidable (IsUnbroken text) :=
  inferInstanceAs (Decidable (_ ∉ _))

@[simp] theorem isUnbroken_append {s t : String} :
    IsUnbroken (s ++ t) ↔ IsUnbroken s ∧ IsUnbroken t := by
  rw [IsUnbroken, String.toList_append, List.mem_append, not_or, IsUnbroken, IsUnbroken]

/-- Unbroken texts joined by an unbroken text are unbroken. -/
theorem isUnbroken_intercalate {separator : String} (hseparator : IsUnbroken separator)
    {texts : List String} (h : ∀ s ∈ texts, IsUnbroken s) :
    IsUnbroken (separator.intercalate texts) := by
  induction texts with
  | nil => exact List.not_mem_nil
  | cons s texts ih =>
    rcases List.forall_mem_cons.1 h with ⟨hs, htexts⟩
    cases texts with
    | nil => rwa [String.intercalate_singleton]
    | cons s' texts =>
      rw [String.intercalate_cons_cons, isUnbroken_append, isUnbroken_append]
      exact ⟨⟨hs, hseparator⟩, ih htexts⟩

/-- Whether a text begins like no line that says that a command has been carried
out. -/
def IsForeign (text : String) : Prop :=
  ¬ "[INJECT] ".toList <+: text.toList ∧ ¬ text.toList <+: "[INJECT] ".toList

instance (text : String) : Decidable (IsForeign text) :=
  inferInstanceAs (Decidable (_ ∧ _))

variable {text before : String}

theorem written_cons (text : String) (texts : List String) :
    written (text :: texts) = text ++ "\n" ++ written texts := by
  rw [written, List.map_cons, String.join_cons, written]

theorem linesOf_feed (text rest : String) :
    linesOf (text ++ "\n" ++ rest) = linesOf text ++ linesOf rest := by
  have htext : (text ++ "\n" ++ rest).toList = text.toList ++ '\n' :: rest.toList := by
    rw [String.toList_append, String.toList_append, List.append_assoc]
    rfl
  rw [linesOf, htext, List.splitOn_append_cons_self, List.map_append, linesOf, linesOf]

/-- The lines on an output are those of one text after the other. -/
theorem injectLines_written (texts : List String) :
    injectLines (written texts) = texts.flatMap injectLines := by
  induction texts with
  | nil => decide
  | cons text texts ih =>
    rw [written_cons, List.flatMap_cons, ← ih, injectLines, linesOf_feed, List.filter_append]
    rfl

theorem linesOf_of_unbroken (h : IsUnbroken text) : linesOf text = [text] := by
  rw [linesOf, List.splitOn_eq_singleton h, List.map_singleton, String.ofList_toList]

/-- A text without a line feed has no line after the first. -/
theorem echoed_of_unbroken (h : IsUnbroken text) : echoed text = [] := by
  rw [echoed, linesOf_of_unbroken h]
  rfl

theorem injectLines_of_unbroken (h : IsUnbroken text) :
    injectLines text = if isInjectLine text then [text] else [] := by
  rw [injectLines, linesOf_of_unbroken h]
  cases hinject : isInjectLine text <;> simp [hinject]

/-- What comes later in a text does not matter. -/
theorem IsForeign.append (h : IsForeign before) (after : String) : IsForeign (before ++ after) := by
  rcases h with ⟨hbegins, hshort⟩
  rw [IsForeign, String.toList_append]
  refine ⟨fun hprefix => ?_, fun hprefix => hshort ((List.prefix_append _ _).trans hprefix)⟩
  rcases List.prefix_or_prefix_of_prefix hprefix (List.prefix_append _ _) with h | h
  · exact hbegins h
  · exact hshort h

theorem IsForeign.isInjectLine_eq (h : IsForeign text) : isInjectLine text = false := by
  rw [Bool.eq_false_iff, Ne, isInjectLine, List.isPrefixOf_iff_prefix]
  exact h.1

theorem IsForeign.injectLines_eq (h : IsForeign text) (hunbroken : IsUnbroken text) :
    injectLines text = [] := by
  rw [injectLines_of_unbroken hunbroken, h.isInjectLine_eq, if_neg Bool.false_ne_true]

/-- A text that holds a line feed is its first line and what follows. -/
theorem exists_of_not_isUnbroken (h : ¬ IsUnbroken text) :
    ∃ first rest, text = first ++ "\n" ++ rest ∧ IsUnbroken first := by
  obtain ⟨first, rest, htext, hnot⟩ := List.eq_append_cons_of_mem (not_not.1 h)
  refine ⟨String.ofList first, String.ofList rest, String.toList_inj.1 ?_, ?_⟩
  · simpa using htext
  · rwa [IsUnbroken, String.toList_ofList]

/-- A text that begins with foreign words adds only the lines after the first of what it
repeats. -/
theorem IsForeign.injectLines_append (h : IsForeign before) (hbefore : IsUnbroken before)
    (text : String) : injectLines (before ++ text) = echoed text := by
  by_cases hunbroken : IsUnbroken text
  · rw [echoed_of_unbroken hunbroken]
    exact (h.append text).injectLines_eq (isUnbroken_append.2 ⟨hbefore, hunbroken⟩)
  · obtain ⟨first, rest, rfl, hfirst⟩ := exists_of_not_isUnbroken hunbroken
    have hline : linesOf (before ++ first) = [before ++ first] :=
      linesOf_of_unbroken (isUnbroken_append.2 ⟨hbefore, hfirst⟩)
    have hforeign : isInjectLine (before ++ first) = false := (h.append first).isInjectLine_eq
    rw [injectLines, echoed, ← String.append_assoc, ← String.append_assoc, linesOf_feed,
      linesOf_feed, hline, linesOf_of_unbroken hfirst, List.singleton_append, List.singleton_append,
      List.tail_cons, List.filter_cons_of_neg (by simp [hforeign])]

/-! ## Texts of one line -/

section Unbroken

@[simp] theorem isUnbroken_toString (s : String) : IsUnbroken (toString s) ↔ IsUnbroken s := Iff.rfl

@[simp] theorem isUnbroken_nat (n : Nat) : IsUnbroken (toString n) := by
  intro h
  rw [Nat.toString_eq_repr, Nat.repr_eq_ofList_toDigits, String.toList_ofList] at h
  have hdigit := Nat.isDigit_of_mem_toDigits (by decide) (by decide) h
  exact absurd hdigit (by decide)

@[simp] theorem isUnbroken_uint64 (n : UInt64) : IsUnbroken (toString n) :=
  isUnbroken_nat n.toNat

@[simp] theorem isUnbroken_uint32 (n : UInt32) : IsUnbroken (toString n) :=
  isUnbroken_nat n.toNat

@[simp] theorem isUnbroken_int (i : Int) : IsUnbroken (toString i) := by
  cases i with
  | ofNat n => exact isUnbroken_nat n
  | negSucc n => exact isUnbroken_append.2 ⟨by decide, isUnbroken_nat (n + 1)⟩

theorem not_mem_digits (n : Nat) : '\n' ∉ Decimal.digits n := by
  intro h
  exact absurd ((Decimal.areDigits_digits n).2 _ h) (by decide)

@[simp] theorem isUnbroken_onePlace (x : Float) : IsUnbroken (Decimal.onePlace x) := by
  have hsign : ∀ (negative : Bool) (s : String), IsUnbroken s →
      IsUnbroken (if negative then "-" ++ s else s) := by
    intro negative s hs
    cases negative with
    | false => exact hs
    | true => exact isUnbroken_append.2 ⟨by decide, hs⟩
  unfold Decimal.onePlace
  cases Decimal.Binary.ofFloat x with
  | nan => decide
  | infinite negative => exact hsign negative _ (by decide)
  | finite negative m q =>
    refine hsign negative _ ?_
    rw [IsUnbroken, String.toList_ofList]
    intro h
    rcases List.mem_append.1 h with h | h
    · exact not_mem_digits _ h
    · simp only [List.mem_cons, List.not_mem_nil, or_false] at h
      rcases h with h | h
      · exact absurd h (by decide)
      · have hdigit := Decimal.isDigit_digitChar (Decimal.tenths m q)
        rw [← h] at hdigit
        exact absurd hdigit (by decide)

theorem not_mem_hexDigits (n : Nat) : '\n' ∉ Text.hexDigits n := by
  induction n using Nat.strong_induction_on with
  | _ n ih =>
    have hdigit : ∀ m < 16, '\n' ≠ Text.hexDigit m := by decide
    rw [Text.hexDigits]
    by_cases h : n < 16
    · rw [if_pos h, List.mem_singleton]
      exact hdigit n h
    · rw [if_neg h, List.mem_append, List.mem_singleton, not_or]
      exact ⟨ih _ (by omega), hdigit _ (Nat.mod_lt n (by decide))⟩

theorem not_mem_escape (c : Char) : '\n' ∉ Text.escape c := by
  unfold Text.escape
  split
  case h_7 hfeed _ _ _ =>
    split
    · simp [not_mem_hexDigits]
    · simpa [eq_comm] using hfeed
  all_goals decide

/-- A quoted text shows a line feed as two characters of its own. -/
@[simp] theorem isUnbroken_quoted (s : String) : IsUnbroken (Text.quoted s) := by
  rw [IsUnbroken, Text.quoted, String.toList_ofList]
  simp [not_mem_escape]

end Unbroken

/-! ## What a host prints -/

/-- The texts on standard output. -/
def printed (output : List Output) : List String :=
  output.filterMap fun
    | .out line => some line
    | .err _ => none

/-- The texts on standard error. -/
def complained (output : List Output) : List String :=
  output.filterMap fun
    | .out _ => none
    | .err line => some line

/-- The lines on standard output that say that a command has been carried out. -/
def injected (output : List Output) : List String :=
  (printed output).flatMap injectLines

@[simp] theorem printed_append (o₁ o₂ : List Output) :
    printed (o₁ ++ o₂) = printed o₁ ++ printed o₂ := List.filterMap_append

@[simp] theorem complained_append (o₁ o₂ : List Output) :
    complained (o₁ ++ o₂) = complained o₁ ++ complained o₂ := List.filterMap_append

@[simp] theorem injected_append (o₁ o₂ : List Output) :
    injected (o₁ ++ o₂) = injected o₁ ++ injected o₂ := by
  rw [injected, printed_append, List.flatMap_append, injected, injected]

@[simp] theorem printed_map_out (lines : List String) : printed (lines.map .out) = lines := by
  induction lines with
  | nil => rfl
  | cons line lines ih => exact congrArg (line :: ·) ih

@[simp] theorem complained_map_out (lines : List String) : complained (lines.map .out) = [] := by
  induction lines with
  | nil => rfl
  | cons line lines ih => exact ih

@[simp] theorem injected_err (line : String) : injected [.err line] = [] := rfl

@[simp] theorem complained_out (line : String) : complained [.out line] = [] := rfl

@[simp] theorem complained_err (line : String) : complained [.err line] = [line] := rfl

/-- The line for a request that has been carried out. -/
def injectLine (o : Outcome) : String :=
  "[INJECT] " ++ o.message

theorem isUnbroken_message (o : Outcome) : IsUnbroken o.message := by
  cases o with
  | cpuStarted threads duration =>
    unfold Outcome.message
    simp only [isUnbroken_append, isUnbroken_uint64, isUnbroken_nat, and_true]
    decide
  | memStarted plan duration =>
    unfold Outcome.message
    simp only [isUnbroken_append, isUnbroken_uint64, isUnbroken_nat, and_true]
    cases plan.keep <;> decide
  | stopped => decide
  | ignored command =>
    unfold Outcome.message
    simp only [isUnbroken_append, isUnbroken_quoted, and_true]
    decide

/-- A command that has been carried out is told in one line. -/
theorem injectLines_injectLine (o : Outcome) : injectLines (injectLine o) = [injectLine o] := by
  have hunbroken : IsUnbroken (injectLine o) :=
    isUnbroken_append.2 ⟨by decide, isUnbroken_message o⟩
  have hinject : isInjectLine (injectLine o) = true := by
    rw [isInjectLine, injectLine, String.toList_append]
    exact List.isPrefixOf_iff_prefix.2 (List.prefix_append _ _)
  rw [injectLines_of_unbroken hunbroken, if_pos hinject]

@[simp] theorem isUnbroken_megabytes (bytes : UInt64) : IsUnbroken (megabytes bytes) :=
  isUnbroken_onePlace _

theorem isUnbroken_usageLine (u : ProcessUsage) : IsUnbroken (Snapshot.usageLine u) := by
  unfold Snapshot.usageLine
  simp only [isUnbroken_append, isUnbroken_toString, isUnbroken_uint64, isUnbroken_onePlace,
    and_true]
  decide

theorem isUnbroken_statusLine (snapshot : Snapshot) : IsUnbroken snapshot.statusLine := by
  have husage : IsUnbroken ((snapshot.usage.map Snapshot.usageLine).getD "") := by
    cases snapshot.usage with
    | none => exact List.not_mem_nil
    | some u => exact isUnbroken_usageLine u
  unfold Snapshot.statusLine
  simp only [isUnbroken_append, isUnbroken_toString, isUnbroken_uint64, isUnbroken_megabytes,
    husage, and_true]
  decide

/-- A status is told in one line or two, of which none could be taken for another. -/
theorem injectLines_statusLines (snapshot : Snapshot) :
    snapshot.statusLines.flatMap injectLines = [] := by
  rw [List.flatMap_eq_nil_iff]
  intro line hline
  rcases List.mem_cons.1 hline with rfl | hline
  · have hforeign : IsForeign snapshot.statusLine := by
      have hstart : IsForeign "[STATUS] cpu workers: " := by decide
      unfold Snapshot.statusLine
      repeat apply IsForeign.append
      exact hstart
    exact hforeign.injectLines_eq (isUnbroken_statusLine snapshot)
  · have hstart : IsForeign "  memory fault degraded after " := by decide
    split at hline
    · cases hline
    · obtain rfl := List.mem_singleton.1 hline
      refine ((hstart.append _).append _).injectLines_eq ?_
      simp only [isUnbroken_append, isUnbroken_toString, isUnbroken_uint64, and_true]
      decide

/-- What a text adds that repeats where the report goes. -/
def pathEchoes (t : Task) : List String :=
  (t.settings.reportFile.toList.map RawText.shown).flatMap echoed

/-- What the banner adds: the lines after the first of what it repeats of the command
line. -/
theorem injected_banner (t : Task) (command : String) :
    injected (banner t command) = echoed command ++ pathEchoes t := by
  have hempty : injectLines "" = [] := by decide
  have htitle : injectLines "=== FAULT INJECTOR ===" = [] := by decide
  have htarget : injectLines s!"[CONFIG] Target pid: {t.target}" = [] := by
    have hstart : IsForeign "[CONFIG] Target pid: " := by decide
    exact (hstart.append _).injectLines_eq
      (isUnbroken_append.2 ⟨by decide, isUnbroken_uint32 t.target⟩)
  have hcommand : injectLines ("[CONFIG] Command: " ++
      if command.isEmpty then "<none>" else command) = echoed command := by
    have hstart : IsForeign "[CONFIG] Command: " := by decide
    rw [hstart.injectLines_append (by decide)]
    cases hcommand : command.isEmpty with
    | false => rfl
    | true =>
      rw [String.isEmpty_iff.1 hcommand]
      decide
  have hinterval : injectLines
      s!"[CONFIG] Status interval: {t.settings.statusInterval} seconds" = [] := by
    have hstart : IsForeign "[CONFIG] Status interval: " := by decide
    refine ((hstart.append _).append _).injectLines_eq ?_
    simp only [isUnbroken_append, isUnbroken_uint64, and_true]
    decide
  have hfollow : injectLines s!"[CONFIG] Follow stdin: {t.settings.follow}" = [] := by
    cases t.settings.follow <;> decide
  have hfile : ∀ path : String, injectLines ("[CONFIG] Report file: " ++ path) = echoed path := by
    have hstart : IsForeign "[CONFIG] Report file: " := by decide
    exact hstart.injectLines_append (by decide)
  rw [injected, banner, printed_map_out, pathEchoes]
  cases t.settings.reportFile with
  | none =>
    simp only [List.flatMap_cons, List.flatMap_append, List.flatMap_nil, hempty, htitle, htarget,
      hcommand, hinterval, hfollow, Option.map_none, Option.toList_none, List.map_nil,
      List.nil_append, List.append_nil]
  | some path =>
    simp only [List.flatMap_cons, List.flatMap_append, List.flatMap_nil, hempty, htitle, htarget,
      hcommand, hinterval, hfollow, hfile, Option.map_some, Option.toList_some, List.map_cons,
      List.map_nil, List.nil_append, List.append_nil]

/-- The lines of a summary after the list of commands are fixed words and numbers. -/
theorem injectLines_numbers (r : SessionReport) :
    (r.summary.drop 3).flatMap injectLines = [] := by
  have hduration : IsForeign "Duration: " := by decide
  have htotal : IsForeign "Total Snapshots: " := by decide
  have hcpu : IsForeign "-- CPU:    peak workers " := by decide
  have hmemory : IsForeign "-- MEMORY: peak workers " := by decide
  have hprocess : IsForeign "-- PROCESS: cpu time " := by decide
  rw [List.flatMap_eq_nil_iff]
  intro line hline
  unfold SessionReport.summary at hline
  simp only [List.drop_succ_cons, List.drop_zero, List.mem_cons, List.not_mem_nil, or_false]
    at hline
  rcases hline with rfl | rfl | rfl | rfl | rfl
  · refine ((hduration.append _).append _).injectLines_eq ?_
    simp only [isUnbroken_append, isUnbroken_int, and_true]
    decide
  · exact (htotal.append _).injectLines_eq
      (isUnbroken_append.2 ⟨by decide, isUnbroken_uint64 _⟩)
  · refine (((hcpu.append _).append _).append _).injectLines_eq ?_
    simp only [isUnbroken_append, isUnbroken_uint64, and_true]
    decide
  · refine ((((hmemory.append _).append _).append _).append _).injectLines_eq ?_
    simp only [isUnbroken_append, isUnbroken_toString, isUnbroken_uint64, isUnbroken_megabytes,
      and_true]
    decide
  · refine ((((hprocess.append _).append _).append _).append _).injectLines_eq ?_
    simp only [isUnbroken_append, isUnbroken_toString, isUnbroken_uint64, isUnbroken_onePlace,
      and_true]
    decide

/-- What a summary adds: the lines after the first of the list of commands. -/
theorem injectLines_summary (r : SessionReport) :
    r.summary.flatMap injectLines = echoed (" ; ".intercalate r.commands) := by
  have hempty : injectLines "" = [] := by decide
  have htitle : injectLines "=== FAULT SESSION REPORT ===" = [] := by decide
  have hcommands : injectLines ("Commands: " ++ " ; ".intercalate r.commands) =
      echoed (" ; ".intercalate r.commands) := by
    have hstart : IsForeign "Commands: " := by decide
    exact hstart.injectLines_append (by decide) _
  have hcut : r.summary = ["", "=== FAULT SESSION REPORT ===",
      "Commands: " ++ " ; ".intercalate r.commands] ++ r.summary.drop 3 := rfl
  rw [hcut, List.flatMap_append, injectLines_numbers, List.append_nil]
  simp only [List.flatMap_cons, List.flatMap_nil, hempty, htitle, hcommands, List.nil_append,
    List.append_nil]

end ResourceFaults.Host
