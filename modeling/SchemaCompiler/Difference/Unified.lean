import SchemaCompiler.Decimal.Integer
import SchemaCompiler.Difference.Settled
import SchemaCompiler.Text.Lines

/-!
# Unified differences

The difference between two texts, told in hunks: lines that changed with three lines around them.
Each hunk says which lines of either text it covers. A line that has no end is marked.
-/

namespace SchemaCompiler.Difference

/-! ### Lines -/

/-- The lines of a text with their ends; `done` is the line so far, backwards. A carriage return
ends a line too. -/
def linesFrom (done : List Char) : List Char → List String
  | [] => if done.isEmpty then [] else [String.ofList done.reverse]
  | '\r' :: '\n' :: rest => String.ofList ('\n' :: '\r' :: done).reverse :: linesFrom [] rest
  | c :: rest =>
    if c == '\n' || c == '\r' then String.ofList (c :: done).reverse :: linesFrom [] rest
    else linesFrom (c :: done) rest

/-- The lines of a text with their ends. -/
def linesOf (s : String) : Array String :=
  (linesFrom [] s.toList).toArray

/-! ### Changes -/

/-- A stretch of both texts, the same in both or not. -/
structure Stretch where
  /-- Whether the stretch is the same in both texts. -/
  same : Bool
  /-- The first old line. -/
  oldStart : Nat
  /-- The line after the last old line. -/
  oldEnd : Nat
  /-- The first new line. -/
  newStart : Nat
  /-- The line after the last new line. -/
  newEnd : Nat

/-- The stretch of one edit. -/
def Edit.stretch (e : Edit) : Stretch :=
  ⟨e.kind == .keep, e.old, e.old + e.oldLength, e.new, e.new + e.newLength⟩

/-- Joins neighbours of the same sort. Among changes a deletion says where the old lines start and
an insertion where the new ones do. -/
def joinStretches : Bool → Bool → List Edit → List Stretch → List Stretch
  | _, _, [], done => done.reverse
  | deleted, inserted, e :: rest, done =>
    match done with
    | last :: earlier =>
      if e.kind == .keep then
        if last.same then
          joinStretches false false rest
            ({ last with oldEnd := last.oldEnd + e.length
                         newEnd := last.newEnd + e.length } :: earlier)
        else joinStretches false false rest (e.stretch :: done)
      else if last.same then
        joinStretches (e.kind == .delete) (e.kind == .insert) rest (e.stretch :: done)
      else if e.kind == .delete then
        let start := if deleted then last.oldStart else e.old
        let length := (if deleted then last.oldEnd - last.oldStart else 0) + e.length
        joinStretches true inserted rest
          ({ last with oldStart := start, oldEnd := start + length } :: earlier)
      else
        let start := if inserted then last.newStart else e.new
        let length := (if inserted then last.newEnd - last.newStart else 0) + e.length
        joinStretches deleted true rest
          ({ last with newStart := start, newEnd := start + length } :: earlier)
    | [] => joinStretches (e.kind == .delete) (e.kind == .insert) rest [e.stretch]

/-! ### Hunks -/

/-- The number of lines around a change. -/
def context : Nat := 3

/-- Cuts off all but the last lines of a stretch that is the same in both texts. -/
def Stretch.lastLines (s : Stretch) : Stretch :=
  let cut := (s.oldEnd - s.oldStart) - context
  if s.same then { s with oldStart := s.oldStart + cut, newStart := s.newStart + cut } else s

/-- Cuts off all but the first lines of a stretch that is the same in both texts. -/
def Stretch.firstLines (s : Stretch) : Stretch :=
  let cut := (s.oldEnd - s.oldStart) - context
  if s.same then { s with oldEnd := s.oldEnd - cut, newEnd := s.newEnd - cut } else s

/-- Cuts the ends of a list of stretches down to the lines around changes. -/
def trimEnds (stretches : List Stretch) : List Stretch :=
  let fromStart := match stretches with
    | first :: rest => first.lastLines :: rest
    | [] => []
  match fromStart.reverse with
  | last :: rest => (last.firstLines :: rest).reverse
  | [] => []

/-- Groups stretches into hunks: a long stretch that is the same in both texts ends one hunk and
starts another. The current hunk is kept backwards. -/
def hunksFrom (current : List Stretch) : List Stretch → List (List Stretch)
  | [] =>
    match current with
    | [] => []
    | [only] => if only.same then [] else [[only]]
    | _ => [current.reverse]
  | s :: rest =>
    if s.same && 2 * context < s.oldEnd - s.oldStart then
      (s.firstLines :: current).reverse :: hunksFrom [s.lastLines] rest
    else hunksFrom (s :: current) rest

/-- The hunks of a list of edits. -/
def hunks (edits : List Edit) : List (List Stretch) :=
  hunksFrom [] (trimEnds (joinStretches false false edits []))

/-! ### Text -/

/-- The lines that a hunk covers: the first of them and their number, which is left out if it is
one. If there are none the line before is named. -/
def range (start finish : Nat) : String :=
  if finish - start == 1 then Decimal.ofNat (start + 1)
  else
    Decimal.ofNat (if finish == start then start else start + 1) ++ "," ++
      Decimal.ofNat (finish - start)

/-- A line behind a sign. -/
def signedLine (sign : String) (line : String) : String :=
  sign ++ line ++
    (if Text.endsWith line "\n" || Text.endsWith line "\r" then ""
     else "\n\\ No newline at end of file\n")

/-- The lines of a stretch. -/
def stretchText (p : Pair) (s : Stretch) : String :=
  let old := (p.old.extract s.oldStart s.oldEnd).toList
  let new := (p.new.extract s.newStart s.newEnd).toList
  if s.same then String.join (old.map (signedLine " "))
  else String.join (old.map (signedLine "-")) ++ String.join (new.map (signedLine "+"))

/-- The text of a hunk. -/
def hunkText (p : Pair) (hunk : List Stretch) : String :=
  match hunk.head?, hunk.getLast? with
  | some first, some last =>
    "@@ -" ++ range first.oldStart last.oldEnd ++ " +" ++ range first.newStart last.newEnd ++
      " @@\n" ++ String.join (hunk.map (stretchText p))
  | _, _ => ""

/-- The difference from one text to another, with a name for each. It is empty if there is none. -/
def unified (oldName newName old new : String) : String :=
  let p : Pair := ⟨linesOf old, linesOf new⟩
  match hunks (settled p) with
  | [] => ""
  | found =>
    "--- " ++ oldName ++ "\n+++ " ++ newName ++ "\n" ++ String.join (found.map (hunkText p))

end SchemaCompiler.Difference
