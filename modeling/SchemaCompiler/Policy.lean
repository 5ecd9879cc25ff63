/-!
# Policies

A schema may hold members that cannot be used. The policy says what becomes of the rest: it is kept,
or the whole unit is refused.
-/

namespace SchemaCompiler

/-- What faults of single members mean for their unit. -/
inductive Policy where
  /-- A faulty member is reported and left out. -/
  | lenient
  /-- A unit with a faulty member is refused. -/
  | strict
deriving DecidableEq, Repr

/-- The name of a policy in settings. -/
def Policy.label : Policy → String
  | lenient => "lenient"
  | strict => "strict"

/-- All policies. -/
def Policy.all : List Policy :=
  [.lenient, .strict]

/-- The policy with a name. -/
def Policy.ofLabel? (label : String) : Option Policy :=
  Policy.all.find? (fun p => p.label == label)

end SchemaCompiler
