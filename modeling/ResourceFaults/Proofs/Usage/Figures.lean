import Mathlib
import ResourceFaults.Proofs.Decimal.Writing
import ResourceFaults.Proofs.Text.Tables
import ResourceFaults.Usage

/-!
# Named figures in a table

A figure is looked up in a text with one named figure a line.  The first row that has a
figure of the name decides, even if its figure is no number; a row with the name alone has
none (`FirstFigure`).

`availableMemory_by_first_figure` puts together what that means for the memory that is
available.  It is stated for tables and not for texts, so blanks and endings of lines do
not come into it, and every text is a table.
-/

namespace ResourceFaults

open Text (IsTable isBlank wordChars)
open Decimal (IsNumeral digits)

/-! ## The row that decides -/

/-- Whether a row has a figure of a name: the name is its first field and the figure the
second. -/
def HasFigure (name : List Char) (row : List (List Char)) : Prop :=
  ∃ figure more, row = name :: figure :: more

/-- Whether the first row with a figure of a name has this one. -/
def FirstFigure (name : List Char) (rows : List (List (List Char))) (figure : List Char) : Prop :=
  ∃ before more after, rows = before ++ (name :: figure :: more) :: after ∧
    ∀ row ∈ before, ¬HasFigure name row

/-- What a row says of a figure: a number, or none if its figure is not one. -/
def figureInRow? (name : List Char) (row : List (List Char)) : Option (Option Nat) :=
  match row with
  | word :: figure :: _ =>
    if word == name then some (Decimal.readWord figure).toOption else none
  | _ => none

section Rows

variable {name figure : List Char} {row : List (List Char)} {rows rows' : List (List (List Char))}
  {answer : Option Nat}

theorem figureInRow?_eq_some_iff :
    figureInRow? name row = some answer ↔ ∃ figure more,
      row = name :: figure :: more ∧ (Decimal.readWord figure).toOption = answer := by
  unfold figureInRow?
  split
  case h_1 word figure more =>
    by_cases hword : word = name
    · simp [hword]
    · simp [hword]
  case h_2 hshort =>
    constructor
    · intro h
      cases h
    · rintro ⟨figure, more, rfl, -⟩
      exact absurd rfl (hshort name figure more)

theorem figureInRow?_eq_none_iff : figureInRow? name row = none ↔ ¬HasFigure name row := by
  rw [Option.eq_none_iff_forall_ne_some]
  constructor
  · rintro h ⟨figure, more, hrow⟩
    exact h _ (figureInRow?_eq_some_iff.2 ⟨figure, more, hrow, rfl⟩)
  · intro h answer hanswer
    obtain ⟨figure, more, hrow, -⟩ := figureInRow?_eq_some_iff.1 hanswer
    exact h ⟨figure, more, hrow⟩

theorem findSome?_figureInRow?_eq_some_iff :
    rows.findSome? (figureInRow? name) = some answer ↔
      ∃ figure, FirstFigure name rows figure ∧ (Decimal.readWord figure).toOption = answer := by
  simp only [List.findSome?_eq_some_iff, figureInRow?_eq_some_iff, figureInRow?_eq_none_iff]
  constructor
  · rintro ⟨before, row, after, hrows, ⟨figure, more, rfl, hanswer⟩, hbefore⟩
    exact ⟨figure, ⟨before, more, after, hrows, hbefore⟩, hanswer⟩
  · rintro ⟨figure, ⟨before, more, after, hrows, hbefore⟩, hanswer⟩
    exact ⟨before, _, after, hrows, ⟨figure, more, rfl, hanswer⟩, hbefore⟩

/-- A figure is what the first row says that has one. -/
theorem figure?_eq {name text : String} (h : IsTable rows text.toList) :
    figure? name text = (rows.findSome? (figureInRow? name.toList)).getD none := by
  have hlines := h.findSome?_lines (f := figureInRow? name.toList) rfl
  rw [← hlines]
  rfl

end Rows

/-! ## Numbers -/

theorem toOption_readWord_eq_some_iff {figure : List Char} {n : Nat} :
    (Decimal.readWord figure).toOption = some n ↔ IsNumeral figure n ∧ n ≤ maxWord := by
  rw [← Decimal.readNatural_eq_ok_iff]
  show (Decimal.readNatural maxWord figure).toOption = some n ↔ _
  cases Decimal.readNatural maxWord figure <;> simp [Except.toOption]

theorem isNumeral_digits (n : Nat) : IsNumeral (digits n) n :=
  ⟨digits n, .inl rfl, Decimal.areDigits_digits n, Decimal.continued_digits n⟩

/-! ## The memory that is available -/

/-- The name of the memory that is available. -/
def availableName : List Char :=
  "MemAvailable:".toList

/-- Whether a row goes by that name, with a figure or without. -/
def IsNamed (row : List (List Char)) : Bool :=
  row.head? == some availableName

/-- What the rows of a table say of the memory that is available, in bytes. -/
structure TellsMemory (rows : List (List (List Char))) (answer : Option UInt64) : Prop where
  /-- A number of KiB is scaled to bytes, up to the greatest word. -/
  number : ∀ figure n, FirstFigure availableName rows figure → IsNumeral figure n →
    n ≤ maxWord → ∃ bytes, answer = some bytes ∧ bytes.toNat = min (n * 1024) maxWord
  /-- Another figure decides too. -/
  no_number : ∀ figure, FirstFigure availableName rows figure →
    (∀ n, IsNumeral figure n → maxWord < n) → answer = none
  no_figure : (∀ figure, ¬FirstFigure availableName rows figure) → answer = none

section Tables

variable {rows rows' before after after' : List (List (List Char))} {text text' : String}
  {figure : List Char} {more more' : List (List Char)}

theorem availableMemory?_of_first (h : IsTable rows text.toList)
    (hfirst : FirstFigure availableName rows figure) :
    availableMemory? text = (Decimal.readWord figure).toOption.map fun kb =>
      UInt64.ofNat (saturatingMul kb 1024) := by
  have hfind := findSome?_figureInRow?_eq_some_iff.2 ⟨figure, hfirst, rfl⟩
  rw [availableMemory?, figure?_eq h]
  show Option.map _ ((rows.findSome? (figureInRow? availableName)).getD none) = _
  rw [hfind]
  rfl

theorem tellsMemory (h : IsTable rows text.toList) : TellsMemory rows (availableMemory? text) where
  number figure n hfirst hn hle := by
    have hread := toOption_readWord_eq_some_iff.2 ⟨hn, hle⟩
    have hlt : saturatingMul n 1024 < 2 ^ 64 :=
      (Nat.min_le_right (n * 1024) maxWord).trans_lt (by decide)
    refine ⟨UInt64.ofNat (saturatingMul n 1024), ?_, UInt64.toNat_ofNat_of_lt' hlt⟩
    rw [availableMemory?_of_first h hfirst, hread]
    rfl
  no_number figure hfirst hnone := by
    have hread : (Decimal.readWord figure).toOption = none := by
      rw [Option.eq_none_iff_forall_ne_some]
      intro n hn
      obtain ⟨hnumeral, hle⟩ := toOption_readWord_eq_some_iff.1 hn
      exact absurd (hnone n hnumeral) (Nat.not_lt.2 hle)
    rw [availableMemory?_of_first h hfirst, hread]
    rfl
  no_figure hnone := by
    have hfind : rows.findSome? (figureInRow? availableName) = none := by
      rw [Option.eq_none_iff_forall_ne_some]
      intro answer hanswer
      obtain ⟨figure, hfirst, -⟩ := findSome?_figureInRow?_eq_some_iff.1 hanswer
      exact hnone figure hfirst
    rw [availableMemory?, figure?_eq h]
    show Option.map _ ((rows.findSome? (figureInRow? availableName)).getD none) = _
    rw [hfind]
    rfl

/-- Rows that go by another name say nothing. -/
theorem findSome?_filter_isNamed (rows : List (List (List Char))) :
    (rows.filter IsNamed).findSome? (figureInRow? availableName) =
      rows.findSome? (figureInRow? availableName) := by
  induction rows with
  | nil => rfl
  | cons row rows ih =>
    by_cases hnamed : IsNamed row = true
    · rw [List.filter_cons_of_pos hnamed, List.findSome?_cons, List.findSome?_cons, ih]
    · have hnone : figureInRow? availableName row = none := by
        rw [figureInRow?_eq_none_iff]
        rintro ⟨figure, more, rfl⟩
        exact hnamed (by simp [IsNamed])
      rw [List.filter_cons_of_neg hnamed, List.findSome?_cons, hnone, ih]

theorem availableMemory?_congr (h : IsTable rows text.toList) (h' : IsTable rows' text'.toList)
    (hnamed : rows.filter IsNamed = rows'.filter IsNamed) :
    availableMemory? text = availableMemory? text' := by
  have hfind : rows.findSome? (figureInRow? availableName) =
      rows'.findSome? (figureInRow? availableName) := by
    rw [← findSome?_filter_isNamed rows, hnamed, findSome?_filter_isNamed]
  rw [availableMemory?, availableMemory?, figure?_eq h, figure?_eq h']
  exact congrArg (fun found => Option.map _ (Option.getD found none)) hfind

/-- A row decides if none before it has a figure. -/
theorem firstFigure_of_before (hbefore : ∀ row ∈ before, ¬HasFigure availableName row) :
    FirstFigure availableName (before ++ (availableName :: figure :: more) :: after) figure :=
  ⟨before, more, after, rfl, hbefore⟩

/-- A number of bytes is read from its figure in KiB. -/
theorem availableMemory?_of_digits {bytes : UInt64} (hbytes : 1024 ∣ bytes.toNat)
    (hbefore : ∀ row ∈ before, ¬HasFigure availableName row)
    (h : IsTable (before ++ (availableName :: digits (bytes.toNat / 1024) :: more) :: after)
      text.toList) :
    availableMemory? text = some bytes := by
  have hlt := bytes.toNat_lt
  have hmax : maxWord = 2 ^ 64 - 1 := rfl
  have hscale : bytes.toNat / 1024 * 1024 = bytes.toNat := Nat.div_mul_cancel hbytes
  obtain ⟨bytes', hanswer, hvalue⟩ := (tellsMemory h).number _ _ (firstFigure_of_before hbefore)
    (isNumeral_digits (bytes.toNat / 1024)) (by omega)
  rw [hscale, Nat.min_eq_left (by omega)] at hvalue
  rw [hanswer, UInt64.toNat_inj.1 hvalue]

end Tables

/-- The memory that is available is read from the first row that has a figure of its name,
and every text is a table of rows.  So it does not depend on the blanks and endings of the
lines, nor on the rows that go by another name, wherever they stand; nor on what follows
the figure in its row, nor on any row after that one.  A number of bytes that is a multiple
of 1024 is read back from its figure in KiB. -/
theorem availableMemory_by_first_figure :
    (∀ text : String, ∃ rows, IsTable rows text.toList) ∧
    (∀ (rows : List (List (List Char))) (text : String), IsTable rows text.toList →
      TellsMemory rows (availableMemory? text)) ∧
    (∀ (rows rows' : List (List (List Char))) (text text' : String),
      IsTable rows text.toList → IsTable rows' text'.toList →
      rows.filter IsNamed = rows'.filter IsNamed →
      availableMemory? text = availableMemory? text') ∧
    (∀ (before after after' : List (List (List Char))) (figure : List Char)
      (more more' : List (List Char)) (text text' : String),
      (∀ row ∈ before, ¬HasFigure availableName row) →
      IsTable (before ++ (availableName :: figure :: more) :: after) text.toList →
      IsTable (before ++ (availableName :: figure :: more') :: after') text'.toList →
      availableMemory? text = availableMemory? text') ∧
    ∀ (bytes : UInt64) (before after : List (List (List Char))) (more : List (List Char))
      (text : String), 1024 ∣ bytes.toNat → (∀ row ∈ before, ¬HasFigure availableName row) →
      IsTable (before ++ (availableName :: digits (bytes.toNat / 1024) :: more) :: after)
        text.toList →
      availableMemory? text = some bytes := by
  refine ⟨fun text => Text.exists_isTable text.toList, fun rows text h => tellsMemory h,
    fun rows rows' text text' h h' hnamed => availableMemory?_congr h h' hnamed, ?_,
    fun bytes before after more text hbytes hbefore h =>
      availableMemory?_of_digits hbytes hbefore h⟩
  intro before after after' figure more more' text text' hbefore h h'
  rw [availableMemory?_of_first h (firstFigure_of_before hbefore),
    availableMemory?_of_first h' (firstFigure_of_before hbefore)]

/-- A name without a figure in front, fields and rows behind, and other blanks and endings
make no difference. -/
theorem availableMemory_by_first_figure_amid_rows :
    let text := "MemTotal: 5 kB\r\n MemAvailable:\nMemAvailable:\t8 kB\r\nMemAvailable: x"
    let text' := "MemAvailable:\r\n  MemAvailable:  8  kB\nBuffers:\nMemAvailable: x"
    availableMemory? text = some 8192 ∧ availableMemory? text = availableMemory? text' := by
  intro text text'
  let field := String.toList
  have height : digits ((8192 : UInt64).toNat / 1024) = ['8'] := Decimal.digits_of_lt (by decide)
  have hspaced : ∀ {row line}, wordChars line = row → Text.Spaced row line := Text.spaced_iff.2
  have htext : text.toList = field "MemTotal: 5 kB" ++ (['\r', '\n'] ++ (field " MemAvailable:" ++
      (['\n'] ++ (field "MemAvailable:\t8 kB" ++ (['\r', '\n'] ++ field "MemAvailable: x"))))) := by
    decide +kernel
  have htext' : text'.toList = field "MemAvailable:" ++ (['\r', '\n'] ++
      (field "  MemAvailable:  8  kB" ++ (['\n'] ++ (field "Buffers:" ++
        (['\n'] ++ field "MemAvailable: x"))))) := by
    decide +kernel
  have h : IsTable ([[field "MemTotal:", field "5", field "kB"], [availableName]] ++
      (availableName :: ['8'] :: [field "kB"]) :: [[availableName, field "x"]]) text.toList := by
    rw [htext]
    exact .cons .returnFeed (by decide) (hspaced (by decide +kernel)) <|
      .cons .feed (by decide) (hspaced (by decide +kernel)) <|
      .cons .returnFeed (by decide) (hspaced (by decide +kernel)) <|
      .last (by decide) (hspaced (by decide +kernel))
  have h' : IsTable [[availableName], [availableName, ['8'], field "kB"], [field "Buffers:"],
      [availableName, field "x"]] text'.toList := by
    rw [htext']
    exact .cons .returnFeed (by decide) (hspaced (by decide +kernel)) <|
      .cons .feed (by decide) (hspaced (by decide +kernel)) <|
      .cons .feed (by decide) (hspaced (by decide +kernel)) <|
      .last (by decide) (hspaced (by decide +kernel))
  have hbefore : ∀ row ∈ [[field "MemTotal:", field "5", field "kB"], [availableName]],
      ¬HasFigure availableName row := by
    simp only [List.forall_mem_cons, ← figureInRow?_eq_none_iff]
    exact ⟨by decide, by decide, nofun⟩
  obtain ⟨-, -, hcongr, -, hdigits⟩ := availableMemory_by_first_figure
  have hbytes : availableMemory? text = some 8192 :=
    hdigits 8192 _ [[availableName, field "x"]] [field "kB"] text (by decide) hbefore
      (by rw [height]; exact h)
  exact ⟨hbytes, hcongr _ _ text text' h h' (by decide)⟩

end ResourceFaults
