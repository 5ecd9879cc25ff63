import Mathlib.Data.List.Sort
import SchemaCompiler.Proofs.Value.Merging

/-!
# Reading an element twice

Reading updates a value in place: content, attributes, single children, and the children of these.
What stands there after a first reading is the same after a second one. A map is not updated in
place, since each of its elements is made anew, but it forgets what an element replaces and so ends
up the same too, whatever its elements hold. Only sequences and multimaps keep everything that
arrives. So reading an element twice is reading it once exactly if no such container is met on the
way in place (`SchemaCompiler.TreeValue.read_read_iff`); those inside the elements of a map do no
harm.

For one direction, what a map holds is known by looking up all keys
(`SchemaCompiler.Held.Ordered.ext`), and a second run of the same values adds nothing to that
(`Merged.eq_of_merged`). For the other, an element is made that leads to the container and has one
value for it (`exists_read_ne`).
-/

namespace SchemaCompiler

/-- Whether a container keeps everything that arrives. -/
def Container.accumulates : Container → Bool
  | .single => false
  | .sequence => true
  | .map _ multi => multi

/-- **The element types that are met in place**: children, and those that are met in place in single
children. -/
inductive ElementType.Inside (d : ElementType) : ElementType → Prop
  /-- A child. -/
  | child {t : ElementType} (h : d ∈ t.children) : Inside d t
  /-- What is met in a single child. -/
  | deeper {t c : ElementType} (hc : c ∈ t.children) (hsingle : c.container = .single)
      (h : Inside d c) : Inside d t

namespace Held

variable {α β : Type}

/-! ### Entries that are known by their keys -/

theorem compareKeys_self_ne_lt (k : FieldValue) : k.compareKeys k ≠ .lt := by
  have hself : k.compareKeys k = .eq := Std.ReflCmp.compare_self
  rw [hself]
  decide

/-- In ordered entries, an entry is what stands under its key. -/
theorem lookup?_eq_some_iff {entries : List (FieldValue × β)} (h : Ordered entries)
    {k : FieldValue} {b : β} : lookup? k entries = some b ↔ (k, b) ∈ entries := by
  refine ⟨mem_of_lookup?, fun hmem => ?_⟩
  induction entries with
  | nil => exact absurd hmem List.not_mem_nil
  | cons entry rest ih =>
    obtain ⟨hhead, htail⟩ := List.pairwise_cons.mp h
    rcases List.mem_cons.mp hmem with rfl | hrest
    · rw [lookup?_cons, if_pos rfl]
    · -- a later key is another one
      have hne : k ≠ entry.1 := by
        rintro rfl
        exact compareKeys_self_ne_lt _ (hhead (entry.1, b) hrest)
      rw [lookup?_cons, if_neg hne, ih htail hrest]

theorem Ordered.nodup {entries : List (FieldValue × β)} (h : Ordered entries) : entries.Nodup := by
  refine List.Pairwise.imp (fun {p q} hlt heq => ?_) h
  rw [heq] at hlt
  exact compareKeys_self_ne_lt _ hlt

/-- **Ordered entries with the same values under all keys are the same.** -/
theorem Ordered.ext {xs ys : List (FieldValue × β)} (hx : Ordered xs) (hy : Ordered ys)
    (h : ∀ k, lookup? k xs = lookup? k ys) : xs = ys := by
  have hperm : xs.Perm ys := by
    rw [List.perm_ext_iff_of_nodup hx.nodup hy.nodup]
    intro p
    rw [← lookup?_eq_some_iff hx, h, lookup?_eq_some_iff hy]
  refine hperm.eq_of_pairwise (fun p q _ _ hpq hqp => ?_) hx hy
  exact absurd (Std.TransCmp.lt_trans hpq hqp) (compareKeys_self_ne_lt p.1)

/-! ### Containers that grow -/

theorem length_flatMap_alter (key : FieldValue) (v : α) (entries : List (FieldValue × List α)) :
    ((alter key (fun group => group.getD [] ++ [v]) entries).flatMap Prod.snd).length =
      (entries.flatMap Prod.snd).length + 1 := by
  induction entries with
  | nil => rfl
  | cons entry rest ih =>
    obtain ⟨k, group⟩ := entry
    rw [alter]
    split
    · simp [List.length_append]
    · simp only [Option.getD_some, List.flatMap_cons, List.length_append, List.length_singleton]
      omega
    · simp only [List.flatMap_cons, List.length_append, ih]
      omega

/-- **A container that accumulates grows with each value.** -/
theorem count_keep {key : α → FieldValue} {good : α → Prop} {c : Container} {held : Held α}
    (hk : Kept key good c held) (hc : c.accumulates = true) (v : α) :
    (keep key held v).count = held.count + 1 := by
  cases hk with
  | single _ => cases hc
  | sequence _ => exact List.length_append
  | map _ _ => cases hc
  | multimap _ _ => exact length_flatMap_alter _ _ _

end Held

namespace TreeValue

/-! ### Once and twice -/

theorem readContent_readContent (type : Option Primitive) (content : Option FieldValue)
    (e : Element) :
    readContent type (readContent type content e) e = readContent type content e := by
  cases type with
  | none => rfl
  | some type =>
    cases content with
    | none => rfl
    | some old =>
      simp only [readContent]
      cases e.text.bind fun text => FieldValue.read? type.kind (Text.trim text) <;> rfl

theorem readAttribute_readAttribute (e : Element) (a : Attribute) (old : FieldValue) :
    readAttribute e a (readAttribute e a old) = readAttribute e a old := by
  rw [readAttribute, readAttribute]
  cases (e.attribute? a.name).bind (FieldValue.read? a.type.kind) <;> rfl

/-- A change place by place that is settled after the first time. -/
theorem zipWith_zipWith {α β : Type} {R : α → β → Prop} {f : α → β → β} {as : List α} {bs : List β}
    (h : List.Forall₂ R as bs) (hf : ∀ a ∈ as, ∀ b, R a b → f a (f a b) = f a b) :
    List.zipWith f as (List.zipWith f as bs) = List.zipWith f as bs := by
  induction h with
  | nil => rfl
  | cons hab _ ih =>
    rw [List.zipWith_cons_cons, List.zipWith_cons_cons, hf _ List.mem_cons_self _ hab,
      ih fun a ha => hf a (List.mem_cons_of_mem _ ha)]

/-- **Merging the same element once more changes nothing** for a child that does not accumulate, if
this holds of single values. -/
theorem Merged.eq_of_merged {c : ElementType} {e : Element} {held once twice : Held TreeValue}
    (h : Merged c e held once) (h' : Merged c e once twice)
    (hc : c.container.accumulates = false)
    (hsingle : c.container = .single → ∀ v, held = .single v → ∀ child,
      read c (read c v child) child = read c v child) :
    twice = once := by
  cases h with
  | @single v hcontainer =>
    cases h' with
    | single _ =>
      cases hfound : e.child? c.tag with
      | none => rfl
      | some child => exact congrArg Held.single (hsingle hcontainer v rfl child)
  | sequence hcontainer =>
    rw [hcontainer] at hc
    cases hc
  | map hcontainer hfound hordered _ =>
    cases h' with
    | map _ hfound' hordered' _ =>
      refine congrArg Held.map (hordered'.ext hordered fun k => ?_)
      -- the last value that arrives under a key is the same, and counts more than what stood there
      rw [hfound', hfound, ← Option.or_assoc, Option.or_self]
  | multimap hcontainer _ _ _ =>
    rw [hcontainer] at hc
    cases hc

/-- **Reading twice is reading once**, if nothing that accumulates is met in place. -/
theorem read_read {t : ElementType}
    (hplain : ∀ c : ElementType, c.Inside t → c.container.accumulates = false)
    {v : TreeValue} (h : WellFormed t v) (e : Element) :
    read t (read t v e) e = read t v e := by
  induction t using ElementType.induction generalizing v e with
  | step t ih =>
    have hkeeps : ∀ {n : ElementType} {w : TreeValue}, WellFormed n w → ∀ d,
        WellFormed n (read n w d) := fun hw d =>
      conforms_read (fun n _ => metAt_typedStandard n) hw d
    obtain ⟨-, hattributes, hchildren⟩ := (conforms_iff t v).mp h
    obtain ⟨-, -, hagain⟩ := (conforms_iff t _).mp (hkeeps h e)
    have hheld : ∀ c ∈ t.children, ∀ held, ChildConforms typedStandard c held →
        readHeld e c (readHeld e c held) = readHeld e c held := by
      intro c hc held hheld
      have hfresh : WellFormed c (initial c) := conforms_initial fun n _ => metAt_typedStandard n
      have honce := childConforms_readHeld hheld (fun w d hw => hkeeps hw d) hfresh e
      have htwice := childConforms_readHeld honce (fun w d hw => hkeeps hw d) hfresh e
      refine (merged_readHeld hheld honce).eq_of_merged (merged_readHeld honce htwice)
        (hplain c (.child hc)) ?_
      rintro hsingle w rfl child
      have hw : WellFormed c w := (Held.kept_single_iff.mp hheld).2
      exact ih c hc (fun d hd => hplain d (.deeper hc hsingle hd)) hw child
    rw [read_eq hagain.length_eq, read_eq hchildren.length_eq, readContent_readContent,
      zipWith_zipWith hattributes fun a _ old _ => readAttribute_readAttribute e a old,
      zipWith_zipWith hchildren hheld]

/-! ### Elements that keep adding -/

/-- A value that reading an element does not change holds for each child what reading the child
does not change. -/
theorem exists_readHeld_eq {t c : ElementType} {w : TreeValue} {e : Element} (hw : WellFormed t w)
    (h : read t w e = w) (hc : c ∈ t.children) :
    ∃ held, ChildConforms typedStandard c held ∧ readHeld e c held = held := by
  obtain ⟨-, -, hchildren⟩ := (conforms_iff t w).mp hw
  obtain ⟨i, hi, rfl⟩ := List.mem_iff_getElem.mp hc
  have hi' : i < w.children.length := hchildren.length_eq ▸ hi
  refine ⟨w.children[i], hchildren.get hi hi', ?_⟩
  have hsame : (List.zipWith (readHeld e) t.children w.children)[i]? = w.children[i]? := by
    rw [read_eq hchildren.length_eq] at h
    exact congrArg (fun x : TreeValue => x.children[i]?) h
  rw [List.getElem?_zipWith, List.getElem?_eq_getElem hi, List.getElem?_eq_getElem hi'] at hsame
  exact Option.some.inj hsame

/-- **An element that is never settled**: where a container accumulates in place, some element of
any tag changes every value that it is read into. -/
theorem exists_read_ne {t c : ElementType} (h : c.Inside t) (hc : c.container.accumulates = true)
    (tag : String) : ∃ e : Element, e.tag = tag ∧ ∀ w, WellFormed t w → read t w e ≠ w := by
  induction h generalizing tag with
  | child hmem =>
    refine ⟨{ tag := tag, children := [{ tag := c.tag }] }, rfl, fun w hw hsame => ?_⟩
    obtain ⟨held, hheld, hfixed⟩ := exists_readHeld_eq hw hsame hmem
    have hgrown := Held.count_keep hheld hc (read c (initial c) { tag := c.tag })
    have hone : Element.childrenNamed { tag := tag, children := [{ tag := c.tag }] } c.tag =
        [{ tag := c.tag }] := by
      simp [Element.childrenNamed]
    have hread : readHeld { tag := tag, children := [{ tag := c.tag }] } c held =
        held.keep (key c) (read c (initial c) { tag := c.tag }) := by
      cases held with
      | single v =>
        rw [(Held.kept_single_iff.mp hheld).1] at hc
        cases hc
      | sequence _ | map _ | multimap _ =>
        simp only [readHeld, hone, List.map_singleton, List.foldl_cons, List.foldl_nil]
    rw [← hread, hfixed] at hgrown
    omega
  | @deeper t d hmem hsingle _ ih =>
    -- what is never settled below stands as the child of a fresh element
    obtain ⟨inner, htag, hinner⟩ := ih d.tag
    refine ⟨{ tag := tag, children := [inner] }, rfl, fun w hw hsame => ?_⟩
    obtain ⟨held, hheld, hfixed⟩ := exists_readHeld_eq hw hsame hmem
    have hfound : Element.child? { tag := tag, children := [inner] } d.tag = some inner := by
      simp [Element.child?, htag]
    rw [ChildConforms, hsingle] at hheld
    cases hheld with
    | single hv =>
      rw [readHeld, hfound] at hfixed
      exact hinner _ hv (Held.single.inj hfixed)

/-- **Reading an element twice is reading it once**, for every value that can be had and every
element, exactly if no sequence and no multimap is met in place: as a child, or below single
children only. -/
theorem read_read_iff (t : ElementType) :
    (∀ v, Reachable t v → ∀ e, read t (read t v e) e = read t v e) ↔
      ∀ c : ElementType, c.Inside t → c.container.accumulates = false := by
  constructor
  · intro htwice c hc
    by_contra haccumulates
    obtain ⟨e, -, hne⟩ := exists_read_ne hc (by simpa using haccumulates) t.tag
    have hreachable : Reachable t (read t (initial t) e) :=
      (Reachable.initial t).perform (.read (some e))
    exact hne _ (hreachable.conforms metAt_typedStandard) (htwice _ (.initial t) e)
  · intro hplain v hv e
    exact read_read hplain (hv.conforms metAt_typedStandard) e

end TreeValue

end SchemaCompiler
