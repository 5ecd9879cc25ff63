/-!
# Edits

How one list of lines becomes another: stretches that are kept, deleted and inserted, in order. An
edit names the place in either list where it starts, and the number of lines that it spans.
-/

namespace SchemaCompiler.Difference

/-- What becomes of a stretch of lines. -/
inductive EditKind where
  /-- It is in both lists. -/
  | keep
  /-- It is in the old list only. -/
  | delete
  /-- It is in the new list only. -/
  | insert
deriving DecidableEq, Repr, Inhabited

/-- A stretch of lines. -/
structure Edit where
  /-- What becomes of it. -/
  kind : EditKind
  /-- The number of old lines before it. -/
  old : Nat
  /-- The number of new lines before it. -/
  new : Nat
  /-- The number of its lines. -/
  length : Nat
deriving DecidableEq, Repr, Inhabited

/-- The number of old lines in a stretch. -/
def Edit.oldLength (e : Edit) : Nat :=
  if e.kind == .insert then 0 else e.length

/-- The number of new lines in a stretch. -/
def Edit.newLength (e : Edit) : Nat :=
  if e.kind == .delete then 0 else e.length

/-- Two lists of lines. -/
structure Pair where
  /-- The old lines. -/
  old : Array String
  /-- The new lines. -/
  new : Array String

/-- Whether an old line equals a new one. -/
def Pair.agrees (p : Pair) (i j : Nat) : Bool :=
  match p.old[i]?, p.new[j]? with
  | some a, some b => a == b
  | _, _ => false

/-- The number of lines that agree from two places on, up to a limit. -/
def Pair.commonStart (p : Pair) (i j : Nat) : Nat → Nat
  | 0 => 0
  | limit + 1 => if p.agrees i j then 1 + p.commonStart (i + 1) (j + 1) limit else 0

/-- The number of lines that agree before two places, up to a limit. -/
def Pair.commonEnd (p : Pair) (i j : Nat) : Nat → Nat
  | 0 => 0
  | limit + 1 =>
    if 0 < i && 0 < j && p.agrees (i - 1) (j - 1) then 1 + p.commonEnd (i - 1) (j - 1) limit
    else 0

end SchemaCompiler.Difference
