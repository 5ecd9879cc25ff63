import SchemaCompiler.Proofs.Value.Conforming
import SchemaCompiler.Proofs.Value.Display

/-!
# Well-formed tree values

Reading, writing and resetting go through an element type and a value side by side, and where the
two did not go together they would silently pass over the difference. They always go together.
Whatever is done to a tree value, it is well formed (`SchemaCompiler.TreeValue.WellFormed`): it
follows its element type at every depth, and its content and its attributes belong to their types
(`SchemaCompiler.FieldValue.Belongs`), with integers within their width and bounded texts within
their capacity. No type is left out, not even those whose values cannot be read back from a
document.

The values in question are all that can be had (`SchemaCompiler.TreeValue.Reachable`): by reading
any elements, by setting attributes, by resetting, by reading a value's own document into it, and
by taking out what a value holds for a child. What they have in common comes from
`SchemaCompiler.TreeValue.conforms_perform`, for the one standard that is met everywhere.
-/

namespace SchemaCompiler

/-! ### Values of a kind -/

namespace FieldValue

/-- The limits of a kind: integers lie within the width, and a bounded text has at most as many
bytes as its capacity. -/
def Bounded : FieldValue → Kind → Prop
  | .int n, .int bits true => -(Int.pow 2 (bits - 1)) ≤ n ∧ n < Int.pow 2 (bits - 1)
  | .uint n, .int bits false => n < Nat.pow 2 bits
  | .text s, .fixedText capacity => (Text.encode s).length ≤ capacity
  | _, _ => True

/-- **A value of a kind.** -/
structure Belongs (v : FieldValue) (kind : Kind) : Prop where
  /-- It fits the kind. -/
  fits : v.fits kind = true
  /-- It keeps to the limits of the kind. -/
  bounded : v.Bounded kind

/-- A signed integer that fits is within its width. -/
theorem bounded_of_fits_int {n : Int} {bits : Nat}
    (h : (FieldValue.int n).fits (.int bits true) = true) :
    (FieldValue.int n).Bounded (.int bits true) := by
  simpa [fits, Bounded] using h

/-- An unsigned integer that fits, and that is a word at all, is within its width. -/
theorem bounded_of_fits_uint {n bits : Nat} (h : (FieldValue.uint n).fits (.int bits false) = true)
    (hword : n ≤ Decimal.maxWord) : (FieldValue.uint n).Bounded (.int bits false) := by
  rw [fits, Bool.or_eq_true, decide_eq_true_eq, decide_eq_true_eq] at h
  rcases h with hwide | hwidth
  · have hpow : Nat.pow 2 64 ≤ Nat.pow 2 bits := Nat.pow_le_pow_right (by decide) hwide
    have hmax : Decimal.maxWord < Nat.pow 2 64 := by decide
    exact (hword.trans_lt hmax).trans_le hpow
  · exact hwidth

/-- **The initial value of a kind belongs to it.** -/
theorem belongs_initial (kind : Kind) : (initial kind).Belongs kind := by
  have hfits := fits_initial kind
  refine ⟨hfits, ?_⟩
  cases kind with
  | int bits signed =>
    cases signed with
    | true => exact bounded_of_fits_int hfits
    | false => exact bounded_of_fits_uint hfits (Nat.zero_le _)
  | fixedText capacity => exact Nat.zero_le _
  | _ => trivial

/-- **A value that was read belongs to its kind.** -/
theorem belongs_of_read? {kind : Kind} {raw : String} {v : FieldValue}
    (h : read? kind raw = some v) : v.Belongs kind := by
  obtain ⟨hany, hfits⟩ := read?_eq_some.mp h
  refine ⟨hfits, ?_⟩
  cases kind with
  | int bits signed =>
    cases signed with
    | true =>
      rw [readAny?, Option.map_eq_some_iff] at hany
      obtain ⟨n, -, rfl⟩ := hany
      exact bounded_of_fits_int hfits
    | false =>
      rw [readAny?, Option.map_eq_some_iff] at hany
      obtain ⟨n, hn, rfl⟩ := hany
      rw [Decimal.naturalUpTo?, Option.filter_eq_some_iff, decide_eq_true_eq] at hn
      exact bounded_of_fits_uint hfits hn.2
  | fixedText capacity =>
    obtain rfl : FieldValue.text (Text.truncate capacity raw) = v := Option.some.inj hany
    exact Text.length_encode_truncate capacity raw
  | float bits =>
    rw [readAny?, Option.map_eq_some_iff] at hany
    obtain ⟨x, -, rfl⟩ := hany
    trivial
  | bool =>
    rw [readAny?, Option.map_eq_some_iff] at hany
    obtain ⟨b, -, rfl⟩ := hany
    trivial
  | text =>
    obtain rfl : FieldValue.text raw = v := Option.some.inj hany
    trivial
  | bytes =>
    obtain rfl : FieldValue.bytes (Text.encode raw) = v := Option.some.inj hany
    trivial

end FieldValue

namespace TreeValue

/-! ### Well-formed values -/

/-- The standard of values that belong to their types. -/
def typedStandard : Standard where
  ofContent type v := v.Belongs type.kind
  ofAttribute type v := v.Belongs type.kind

/-- **A well-formed value**: it follows its element type at every depth, and its content and its
attributes belong to their types. -/
def WellFormed (t : ElementType) (v : TreeValue) : Prop :=
  Conforms typedStandard t v

/-- **Fresh values and values that were read belong to their types**, whatever these are. -/
theorem metAt_typedStandard (t : ElementType) : typedStandard.MetAt t where
  initialContent type _ := FieldValue.belongs_initial type.kind
  initialAttribute a _ := FieldValue.belongs_initial a.type.kind
  readContent _ _ _ _ hv := FieldValue.belongs_of_read? hv
  readAttribute _ _ _ _ hv := FieldValue.belongs_of_read? hv

/-! ### Values that can be had -/

/-- **The values that can be had of an element type.** -/
inductive Reachable : ElementType → TreeValue → Prop
  /-- A fresh value. -/
  | initial (t : ElementType) : Reachable t (initial t)
  /-- What an operation makes of a value. -/
  | perform {t : ElementType} {v : TreeValue} (h : Reachable t v) (operation : Operation) :
      Reachable t (perform t v operation)
  /-- What a value becomes when its own document is read into it. -/
  | reread {t : ElementType} {v : TreeValue} (h : Reachable t v) :
      Reachable t (read t v (toDocument t v))
  /-- What a value holds for a child. -/
  | element {t c : ElementType} {v w : TreeValue} {held : Held TreeValue} (h : Reachable t v)
      (hc : (c, held) ∈ t.children.zip v.children) (hw : w ∈ held.elements) : Reachable c w

/-- A conforming value holds conforming values for its children. -/
theorem Conforms.of_mem_elements {s : Standard} {t c : ElementType} {v w : TreeValue}
    {held : Held TreeValue} (h : Conforms s t v) (hc : (c, held) ∈ t.children.zip v.children)
    (hw : w ∈ held.elements) : Conforms s c w := by
  obtain ⟨-, -, hchildren⟩ := (conforms_iff t v).mp h
  have hkept : ChildConforms s c held := List.forall₂_zip hchildren hc
  exact hkept.good_of_mem_elements hw

/-- **Every value that can be had conforms to a standard** that is met at all element types. -/
theorem Reachable.conforms {s : Standard} (hs : ∀ n, s.MetAt n) {t : ElementType} {v : TreeValue}
    (h : Reachable t v) : Conforms s t v := by
  induction h with
  | initial t => exact conforms_initial fun n _ => hs n
  | perform _ operation ih => exact conforms_perform (fun n _ => hs n) ih operation
  | reread _ ih => exact conforms_read (fun n _ => hs n) ih _
  | element _ hc hw ih => exact ih.of_mem_elements hc hw

/-! ### A hall -/

/-- A hall with a rating and a code, a motto in verses, members by name and quests by level. -/
def hall : Element where
  tag := "Hall"
  attributes := [("rating", "double"), ("code", "char4")]
  children :=
    [{ tag := "Motto"
       text := some "char8"
       children := [{ tag := "Verse", attributes := [("cont_", "seq")], text := some "string" }] },
     { tag := "Member"
       attributes := [("cont_", "map"), ("key_", "name"), ("name", "char2"), ("rank", "uint8")] },
     { tag := "Quest"
       attributes := [("cont_", "multimap"), ("key_", "level"), ("level", "int8")] }]

/-- The element type of halls. -/
def hallType : ElementType :=
  (ElementType.ofElement hall).1

/-- A hall with a code that is too long, a number that is out of range, and two members whose names
are the same when they are cut. -/
def hallDocument : Element where
  tag := "Hall"
  attributes := [("rating", "nan"), ("code", "ééé")]
  children :=
    [{ tag := "Member", attributes := [("name", "abc"), ("rank", "300")] },
     { tag := "Quest", attributes := [("level", "5")] },
     { tag := "Motto", text := some " stay ", children := [{ tag := "Verse", text := some "I" }] },
     { tag := "Member", attributes := [("name", "ab"), ("rank", "7")] },
     { tag := "Quest", attributes := [("level", "-3")] },
     { tag := "Motto", text := some "go" },
     { tag := "Quest", attributes := [("level", "5")] }]

/-- The hall of the document, with another code. -/
def hallValue : TreeValue :=
  perform hallType (perform hallType (initial hallType) (.read (some hallDocument)))
    (.setAttribute "code" "aéé")

theorem reachable_hallValue : Reachable hallType hallValue :=
  .perform (.perform (.initial hallType) _) _

/-! ### Whatever is done to a value -/

/-- **Tree values stay well formed**, whatever is done to them. -/
theorem wellFormed_of_reachable {t : ElementType} {v : TreeValue} (h : Reachable t v) :
    WellFormed t v :=
  h.conforms metAt_typedStandard

/-- The hall holds one motto, one member and three quests, its code is cut to three bytes, and it
is well formed. -/
theorem wellFormed_hallValue :
    Reachable hallType hallValue ∧ hallValue.children.map Held.count = [1, 1, 3] ∧
      attribute? hallType hallValue "code" = some (.text "aé") ∧
      WellFormed hallType hallValue :=
  ⟨reachable_hallValue, by decide, by decide, wellFormed_of_reachable reachable_hallValue⟩

/-- **Resetting is complete.** Whatever was done to a value, resetting it gives the fresh value of
its type, at every depth. -/
theorem reset_of_reachable {t : ElementType} {v : TreeValue} (h : Reachable t v) :
    reset t v = initial t :=
  reset_eq_initial (h.conforms metAt_typedStandard)

/-- The hall holds each quest twice after its own document is read into it, and is fresh after it is
reset. -/
theorem reset_hallValue :
    Reachable hallType (read hallType hallValue (toDocument hallType hallValue)) ∧
      (read hallType hallValue (toDocument hallType hallValue)).children.map Held.count =
        [1, 1, 6] ∧
      reset hallType (read hallType hallValue (toDocument hallType hallValue)) =
        initial hallType :=
  ⟨reachable_hallValue.reread, by decide +kernel, reset_of_reachable reachable_hallValue.reread⟩

end TreeValue

end SchemaCompiler
