import SchemaCompiler.Schema.Tree
import SchemaCompiler.Value.Field

/-!
# Held values

What a tree value holds for one child of its element type: a single value, a sequence, a map or a
multimap. Maps are lists of entries in increasing order of their keys. A map keeps the last value
that was put under a key, a multimap keeps all of them in order.
-/

namespace SchemaCompiler

/-- The values that are held for one child. -/
inductive Held (α : Type) where
  /-- One value. -/
  | single (value : α)
  /-- Values in order. -/
  | sequence (values : List α)
  /-- Values under their keys. -/
  | map (entries : List (FieldValue × α))
  /-- Lists of values under their keys. -/
  | multimap (entries : List (FieldValue × List α))
deriving Repr

namespace Held

/-- Changes what stands under a key of an ordered list of entries, or puts something there. -/
def alter {β : Type} (key : FieldValue) (change : Option β → β) :
    List (FieldValue × β) → List (FieldValue × β)
  | [] => [(key, change none)]
  | (k, v) :: rest =>
    match key.compareKeys k with
    | .lt => (key, change none) :: (k, v) :: rest
    | .eq => (k, change (some v)) :: rest
    | .gt => (k, v) :: alter key change rest

/-- What stands under a key. -/
def lookup? {β : Type} (key : FieldValue) (entries : List (FieldValue × β)) : Option β :=
  (entries.find? (fun entry => key.compareKeys entry.1 == .eq)).map Prod.snd

/-- The held values for a fresh child. -/
def empty {α : Type} (initial : α) : Container → Held α
  | .single => .single initial
  | .sequence => .sequence []
  | .map _ false => .map []
  | .map _ true => .multimap []

/-- Keeps one more value: at the end of a sequence, under its key in a map. A single value stays. -/
def keep {α : Type} (key : α → FieldValue) (held : Held α) (value : α) : Held α :=
  match held with
  | .single v => .single v
  | .sequence values => .sequence (values ++ [value])
  | .map entries => .map (alter (key value) (fun _ => value) entries)
  | .multimap entries =>
    .multimap (alter (key value) (fun group => group.getD [] ++ [value]) entries)

/-- The values in the order in which they are written. -/
def elements {α : Type} : Held α → List α
  | .single value => [value]
  | .sequence values => values
  | .map entries => entries.map Prod.snd
  | .multimap entries => entries.flatMap Prod.snd

/-- The number of values. -/
def count {α : Type} (held : Held α) : Nat :=
  held.elements.length

end Held

end SchemaCompiler
