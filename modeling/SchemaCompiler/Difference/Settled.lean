import SchemaCompiler.Difference.Shortest

/-!
# Settled edit scripts

An insertion or deletion can often be moved over the lines beside it without a change of meaning.
Each is moved up as far as it goes, where it joins with others of its kind, and then down as far as
it goes, so that the same change is always told in the same way. Deletions come first.
-/

namespace SchemaCompiler.Difference

/-- An edit script with a mark at one of its edits: those before it, latest first, the edit, and
those after it. -/
structure Marked where
  /-- The edits before the mark, latest first. -/
  before : List Edit
  /-- The edit at the mark. -/
  edit : Edit
  /-- The edits after the mark. -/
  after : List Edit

namespace Marked

/-- Adds lines that are kept right after the mark, where the edit has left them behind. -/
def keepAfter (m : Marked) (old new length : Nat) : List Edit :=
  match m.after with
  | next :: rest =>
    if next.kind == .keep then
      { next with old := next.old - length, new := next.new - length
                  length := next.length + length } :: rest
    else ⟨.keep, old, new, length⟩ :: m.after
  | [] => [⟨.keep, old, new, length⟩]

/-- Moves the marked edit up as far as it goes. -/
def up (p : Pair) : Nat → Marked → Marked
  | 0, m => m
  | fuel + 1, m =>
    match m.before with
    | [] => m
    | prev :: earlier =>
      let e := m.edit
      if prev.kind == .keep then
        let shift := p.commonEnd (prev.old + prev.oldLength) (e.new + e.newLength)
          (min prev.oldLength e.newLength)
        if 0 < shift then
          let after := m.keepAfter (prev.old + prev.length - shift)
            (e.new + e.newLength - shift) shift
          let moved := { e with old := e.old - shift, new := e.new - shift }
          let rest := { prev with length := prev.length - shift }
          let before := if rest.length == 0 then earlier else rest :: earlier
          up p fuel ⟨before, moved, after⟩
        else if prev.length == 0 then up p fuel { m with before := earlier }
        else m
      else if prev.kind == e.kind then
        up p fuel ⟨earlier, { prev with length := prev.length + e.length }, m.after⟩
      else up p fuel ⟨earlier, e, prev :: m.after⟩

/-- Adds lines that are kept right before the mark, where the edit has passed them. -/
def keepBefore (m : Marked) (old new length : Nat) : List Edit :=
  match m.before with
  | prev :: earlier =>
    if prev.kind == .keep then { prev with length := prev.length + length } :: earlier
    else ⟨.keep, old, new, length⟩ :: m.before
  | [] => [⟨.keep, old, new, length⟩]

/-- Moves the marked edit down as far as it goes. -/
def down (p : Pair) : Nat → Marked → Marked
  | 0, m => m
  | fuel + 1, m =>
    match m.after with
    | [] => m
    | next :: later =>
      let e := m.edit
      if next.kind == .keep then
        let shift := p.commonStart next.old e.new (min next.oldLength e.newLength)
        if 0 < shift then
          let before := m.keepBefore next.old e.new shift
          let moved := { e with old := e.old + shift, new := e.new + shift }
          let rest := { next with
            old := next.old + shift, new := next.new + shift, length := next.length - shift }
          let after := if rest.length == 0 then later else rest :: later
          down p fuel ⟨before, moved, after⟩
        else if next.length == 0 then down p fuel { m with after := later }
        else m
      else if next.kind == e.kind then
        down p fuel ⟨m.before, { e with length := e.length + next.length }, later⟩
      else down p fuel ⟨next :: m.before, e, later⟩

end Marked

/-- Settles all edits of a kind from the mark on. -/
def settleFrom (p : Pair) (kind : EditKind) (bound : Nat) :
    Nat → List Edit → List Edit → List Edit
  | 0, before, after => before.reverse ++ after
  | _, before, [] => before.reverse
  | fuel + 1, before, e :: after =>
    if e.kind == kind then
      let m := Marked.down p bound (Marked.up p bound ⟨before, e, after⟩)
      settleFrom p kind bound fuel (m.edit :: m.before) m.after
    else settleFrom p kind bound fuel (e :: before) after

/-- Settles all edits of a kind. -/
def settle (p : Pair) (kind : EditKind) (edits : List Edit) : List Edit :=
  let bound := 4 * (edits.length + p.old.size + p.new.size) + 8
  settleFrom p kind bound bound [] edits

/-- The settled edits between two lists of lines. -/
def settled (p : Pair) : List Edit :=
  settle p .insert (settle p .delete (shortest p))

end SchemaCompiler.Difference
