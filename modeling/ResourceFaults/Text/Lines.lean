/-!
# Lines

A line ends at a line feed or at the end of the text.  One carriage return right
before the line feed belongs to the ending; a carriage return anywhere else
belongs to the line.  `lines` works on any unit type, so that text and raw text
are cut by one rule.
-/

namespace ResourceFaults.Text

variable {α : Type}

/-- The units before the first `feed`, and what follows it if there is one. -/
def cutLine [BEq α] (feed : α) : List α → List α × Option (List α)
  | [] => ([], none)
  | u :: rest =>
    if u == feed then ([], some rest)
    else
      let (line, after) := cutLine feed rest
      (u :: line, after)

theorem cutLine_after_length [BEq α] (feed : α) (us rest : List α)
    (h : (cutLine feed us).2 = some rest) : rest.length < us.length := by
  induction us with
  | nil => simp [cutLine] at h
  | cons u us ih =>
    rw [cutLine] at h
    split at h
    · simp_all
    · have := ih h
      simp only [List.length_cons]; omega

/-- Without one `mark` at the end. -/
def dropLast [BEq α] (mark : α) (us : List α) : List α :=
  match us.getLast? with
  | some u => if u == mark then us.dropLast else us
  | none => us

/-- The lines of a text, without their endings.  Nothing after the last line
feed is no line. -/
def lines [BEq α] (feed ret : α) : List α → List (List α)
  | [] => []
  | u :: us =>
    let line := (cutLine feed (u :: us)).1
    match _h : (cutLine feed (u :: us)).2 with
    | some rest => dropLast ret line :: lines feed ret rest
    | none => [line]
termination_by us => us.length
decreasing_by exact cutLine_after_length feed _ _ _h

end ResourceFaults.Text
