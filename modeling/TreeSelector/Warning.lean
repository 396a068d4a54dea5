import TreeSelector.Text.Styled

/-!
# Warnings, each given once

A warning is a message from a component. A log remembers the warnings that have
been given, each by one line of text (`Warning.key`), and prints a warning only
when its line is new. Clearing the log makes it forget all of them.

The remembered lines are kept in ascending order and without repetition
(`insertLine_pairwise`).
-/

set_option autoImplicit false

namespace TreeSelector

/-- A message from a component. -/
structure Warning where
  component : String
  message : String
  deriving DecidableEq, Repr

namespace Warning

/-- The line that a warning is remembered by. -/
def key (warning : Warning) : String :=
  "[" ++ warning.component ++ "] " ++ warning.message

/-- A warning as it is printed. -/
def printed (warning : Warning) : String :=
  Text.Style.yellow.apply ("[Thicket " ++ warning.component ++ "] ⚠ " ++ warning.message) ++ "\n"

end Warning

/-- A line comes into an ascending list of lines, unless it is there already. -/
def insertLine (line : String) : List String → List String
  | [] => [line]
  | first :: later =>
      if line < first then line :: first :: later
      else if line = first then first :: later
      else first :: insertLine line later

/-- The line comes in, and the lines that are there stay. -/
theorem mem_insertLine {line other : String} {lines : List String} :
    other ∈ insertLine line lines ↔ other = line ∨ other ∈ lines := by
  induction lines with
  | nil => simp [insertLine]
  | cons first later ih =>
      simp only [insertLine]
      split
      · simp
      · split
        · rename_i same
          subst same
          simp
        · simp only [List.mem_cons, ih]
          exact or_left_comm

/-- **The lines stay in ascending order**, each above the one before, so none is
there twice. -/
theorem insertLine_pairwise {line : String} {lines : List String}
    (ascending : lines.Pairwise (· < ·)) : (insertLine line lines).Pairwise (· < ·) := by
  induction lines with
  | nil => simp [insertLine]
  | cons first later ih =>
      obtain ⟨above, rest⟩ := List.pairwise_cons.mp ascending
      simp only [insertLine]
      split
      · rename_i below
        refine List.pairwise_cons.mpr ⟨fun other member => ?_, ascending⟩
        rcases List.mem_cons.mp member with rfl | member
        · exact below
        · exact String.lt_trans below (above other member)
      · rename_i notBelow
        split
        · exact ascending
        · rename_i differs
          refine List.pairwise_cons.mpr ⟨fun other member => ?_, ih rest⟩
          rcases mem_insertLine.mp member with rfl | member
          · rcases Std.le_iff_lt_or_eq.mp (String.not_lt.mp notBelow) with below | same
            · exact below
            · exact absurd same.symm differs
          · exact above other member

/-- The lines remembered, and the warnings printed so far. -/
structure WarningLog where
  remembered : List String
  printed : List Warning
  deriving DecidableEq, Repr

namespace WarningLog

/-- Nothing remembered and nothing printed. -/
def empty : WarningLog :=
  ⟨[], []⟩

/-- Gives a warning: it is printed and remembered, unless it is remembered
already. -/
def warnOnce (log : WarningLog) (warning : Warning) : WarningLog :=
  if log.remembered.contains warning.key then log
  else ⟨insertLine warning.key log.remembered, log.printed ++ [warning]⟩

/-- Gives warnings one after the other. -/
def warnAll (log : WarningLog) (warnings : List Warning) : WarningLog :=
  warnings.foldl warnOnce log

/-- Forgets the warnings given, so that they are printed again. -/
def clear (log : WarningLog) : WarningLog :=
  ⟨[], log.printed⟩

/-- The text printed so far. -/
def output (log : WarningLog) : String :=
  String.join (log.printed.map Warning.printed)

end WarningLog

/-- Computations that may give warnings. -/
abbrev Warned := StateM WarningLog

end TreeSelector
