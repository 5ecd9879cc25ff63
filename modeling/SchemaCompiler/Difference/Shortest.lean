import SchemaCompiler.Difference.Edit

/-!
# Shortest edit scripts

The edits between two lists are found by divide and conquer. What the lists have in common at their
start and end is kept. In the middle, paths of deletions and insertions are followed from both ends
at the same time, one edit further in each round; where they meet the lists are cut in two.

A path is known by its diagonal, the number of deletions less the number of insertions. For each
diagonal the furthest old line that a path has reached is kept.
-/

namespace SchemaCompiler.Difference

/-- The furthest old line reached on each diagonal. -/
structure Frontier where
  /-- The number of the middle diagonal in the array. -/
  centre : Nat
  /-- The old lines. -/
  reach : Array Nat

namespace Frontier

/-- Before the first round: a path that is about to enter the middle diagonal. -/
def start (size : Nat) : Frontier :=
  { centre := size + 1, reach := Array.replicate (2 * size + 3) 0 }

/-- The place of a diagonal in the array. -/
def slot (f : Frontier) (k : Int) : Nat :=
  ((f.centre : Int) + k).toNat

/-- The furthest old line on a diagonal. -/
def get (f : Frontier) (k : Int) : Nat :=
  f.reach.getD (f.slot k) 0

/-- Notes the furthest old line on a diagonal. -/
def set (f : Frontier) (k : Int) (x : Nat) : Frontier :=
  { f with reach := f.reach.setIfInBounds (f.slot k) x }

/-- Where a path enters a diagonal in round `d`: by an insertion from the diagonal above or by a
deletion from the one below, whichever leads further. -/
def enter (f : Frontier) (d k : Int) : Nat :=
  if k == -d || (k != d && f.get (k - 1) < f.get (k + 1)) then f.get (k + 1)
  else f.get (k - 1) + 1

end Frontier

/-- A stretch of either list. -/
structure Window where
  /-- The first old line. -/
  old : Nat
  /-- The number of old lines. -/
  oldLength : Nat
  /-- The first new line. -/
  new : Nat
  /-- The number of new lines. -/
  newLength : Nat

namespace Window

/-- The number of old lines less the number of new lines. -/
def delta (w : Window) : Int :=
  (w.oldLength : Int) - w.newLength

/-- Whether the two lengths differ by an odd number. -/
def isOdd (w : Window) : Bool :=
  w.delta % 2 != 0

/-- The diagonals of a round from diagonal `k` down, followed from the start. Returns the place of a
cut if a path meets one from the end. -/
def forward (p : Pair) (w : Window) (d : Nat) (back : Frontier) :
    Nat → Int → Frontier → (Nat × Nat) ⊕ Frontier
  | 0, _, f => .inr f
  | count + 1, k, f =>
    let x := f.enter d k
    let y := ((x : Int) - k).toNat
    let limit := min (w.oldLength - x) (w.newLength - y)
    let reached := x + p.commonStart (w.old + x) (w.new + y) limit
    let f := f.set k reached
    if w.isOdd && (k - w.delta).natAbs < d &&
        w.oldLength ≤ reached + back.get (w.delta - k) then .inl (x, y)
    else forward p w d back count (k - 2) f

/-- The diagonals of a round from diagonal `k` down, followed from the end. -/
def backward (p : Pair) (w : Window) (d : Nat) (front : Frontier) :
    Nat → Int → Frontier → (Nat × Nat) ⊕ Frontier
  | 0, _, f => .inr f
  | count + 1, k, f =>
    let x := f.enter d k
    let y := ((x : Int) - k).toNat
    let limit := min (w.oldLength - x) (w.newLength - y)
    let common :=
      p.commonEnd (w.old + w.oldLength - x) (w.new + w.newLength - y) limit
    let reached := x + common
    let f := f.set k reached
    if !w.isOdd && (k - w.delta).natAbs ≤ d &&
        w.oldLength ≤ reached + front.get (w.delta - k) then
      .inl (w.oldLength - reached, w.newLength - (y + common))
    else backward p w d front count (k - 2) f

/-- Round after round until two paths meet. -/
def search (p : Pair) (w : Window) : Nat → Nat → Frontier → Frontier → Option (Nat × Nat)
  | 0, _, _, _ => none
  | rounds + 1, d, front, back =>
    match forward p w d back (d + 1) d front with
    | .inl cut => some cut
    | .inr front =>
      match backward p w d front (d + 1) d back with
      | .inl cut => some cut
      | .inr back => search p w rounds (d + 1) front back

/-- The place where the lists are cut in two: a number of old and a number of new lines. -/
def cut? (p : Pair) (w : Window) : Option (Nat × Nat) :=
  let size := w.oldLength + w.newLength
  search p w ((size + 1) / 2 + 1) 0 (.start size) (.start size)

/-- A stretch that is kept, unless it is empty. -/
def kept (old new length : Nat) : List Edit :=
  if length == 0 then [] else [⟨.keep, old, new, length⟩]

/-- The edits of a window. -/
def edits (p : Pair) : Nat → Window → List Edit
  | 0, _ => []
  | fuel + 1, w =>
    let start := p.commonStart w.old w.new (min w.oldLength w.newLength)
    let old := w.old + start
    let new := w.new + start
    let oldLength := w.oldLength - start
    let newLength := w.newLength - start
    let finish := p.commonEnd (old + oldLength) (new + newLength) (min oldLength newLength)
    let inner : Window := ⟨old, oldLength - finish, new, newLength - finish⟩
    let deletion : Edit := ⟨.delete, old, new, inner.oldLength⟩
    let insertion : Edit := ⟨.insert, old, new, inner.newLength⟩
    let middle :=
      if inner.newLength == 0 then (if inner.oldLength == 0 then [] else [deletion])
      else if inner.oldLength == 0 then [insertion]
      else
        match cut? p inner with
        | none => [deletion, insertion]
        | some (x, y) =>
          edits p fuel ⟨old, x, new, y⟩ ++
            edits p fuel ⟨old + x, inner.oldLength - x, new + y, inner.newLength - y⟩
    kept w.old w.new start ++ middle ++
      kept (old + inner.oldLength) (new + inner.newLength) finish

end Window

/-- The edits that make the old lines the new ones. -/
def shortest (p : Pair) : List Edit :=
  Window.edits p (p.old.size + p.new.size + 1) ⟨0, p.old.size, 0, p.new.size⟩

end SchemaCompiler.Difference
