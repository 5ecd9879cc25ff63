import SchemaCompiler.Settings.Value
import SchemaCompiler.Toml.Moment

/-!
# Marked moments

A moment may be given as a table whose first name is a mark, with the moment as a text under it.
Names after the mark do not count. A text may say a little more than a moment that is written as
such: a day may have an hour 24, and the distance from universal time is limited as a whole.
-/

namespace SchemaCompiler.Toml

/-- The name that marks a table as a moment. -/
def momentMark : String := "$__toml_private_datetime"

/-- The limits of a moment that is given as a text. -/
def ClockLimits.given : ClockLimits :=
  ⟨24, 99, 99⟩

/-- The moment that a value under the mark stands for. -/
def markedMoment? : Setting → Option Setting
  | .text s =>
    match moment? .given s.toList with
    | some (m, []) => some (.moment m)
    | _ => none
  | _ => none

/-- The value under the mark, if a table starts with it. -/
def underMark? : List (String × Setting) → Option Setting
  | (name, v) :: _ => if name == momentMark then some v else none
  | [] => none

mutual

/-- A value with moments in place of the tables that are marked so, unless one of those is no
good. -/
def unmark? : Setting → Option Setting
  | .table pairs =>
    match underMark? pairs with
    | some v => markedMoment? v
    | none => (unmarkPairs? pairs).map .table
  | .list items => (unmarkItems? items).map .list
  | v => some v

/-- Pairs with moments in place of the tables that are marked so. -/
def unmarkPairs? : List (String × Setting) → Option (List (String × Setting))
  | [] => some []
  | (name, v) :: rest =>
    match unmark? v, unmarkPairs? rest with
    | some v, some rest => some ((name, v) :: rest)
    | _, _ => none

/-- Items with moments in place of the tables that are marked so. -/
def unmarkItems? : List Setting → Option (List Setting)
  | [] => some []
  | v :: rest =>
    match unmark? v, unmarkItems? rest with
    | some v, some rest => some (v :: rest)
    | _, _ => none

end

end SchemaCompiler.Toml
