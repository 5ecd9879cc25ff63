import SchemaCompiler.Proofs.Value.WellFormed

/-!
# What containers make of an element

Reading an element into a value merges what the element has for a child with what the value holds
for it. A single value is read from the first element of its tag. Each container gets a fresh value
for every such element, in document order (`SchemaCompiler.TreeValue.arriving`), and merges these
in its own way: a sequence appends them, a map keeps the last one under each key, and a multimap
appends to the group of each key. `SchemaCompiler.TreeValue.Merged` says so by looking up keys, and
`SchemaCompiler.TreeValue.read_merges` proves it of every value that can be had.

Maps and multimaps change their entries by the same function, `SchemaCompiler.Held.alter`. What
stands under a key after one change is known (`lookup?_alter`), so what stands there after a whole
run depends on those changes only that are made under this key (`lookup?_foldl_alter`), and the two
containers differ in nothing but what these add up to (`foldl_last`, `foldl_group`).
-/

namespace SchemaCompiler

namespace Held

variable {α β : Type}

/-! ### Looking up keys -/

theorem compareKeys_eq_iff {k l : FieldValue} : (k.compareKeys l == .eq) = true ↔ k = l := by
  rw [beq_iff_eq, Std.LawfulEqCmp.compare_eq_iff_eq]

theorem lookup?_nil (k : FieldValue) : lookup? k ([] : List (FieldValue × β)) = none := rfl

theorem lookup?_cons (k l : FieldValue) (b : β) (rest : List (FieldValue × β)) :
    lookup? k ((l, b) :: rest) = if k = l then some b else lookup? k rest := by
  rw [lookup?, List.find?_cons]
  by_cases h : k = l
  · rw [compareKeys_eq_iff.mpr h, if_pos h, Option.map_some]
  · rw [Bool.eq_false_iff.mpr fun heq => h (compareKeys_eq_iff.mp heq), if_neg h, lookup?]

/-- What stands under a key is one of the entries. -/
theorem mem_of_lookup? {k : FieldValue} {entries : List (FieldValue × β)} {b : β}
    (h : lookup? k entries = some b) : (k, b) ∈ entries := by
  rw [lookup?, Option.map_eq_some_iff] at h
  obtain ⟨⟨l, c⟩, hfind, rfl⟩ := h
  have heq := List.find?_some hfind
  rw [compareKeys_eq_iff] at heq
  rw [heq]
  exact List.mem_of_find?_eq_some hfind

/-- Nothing stands under a key below all others. -/
theorem lookup?_of_forall_lt {k : FieldValue} {entries : List (FieldValue × β)}
    (h : ∀ p ∈ entries, k.compareKeys p.1 = .lt) : lookup? k entries = none := by
  rw [lookup?, Option.map_eq_none_iff, List.find?_eq_none]
  intro p hp heq
  rw [h p hp] at heq
  cases heq

/-- **What stands under a key after one change.** -/
theorem lookup?_alter {entries : List (FieldValue × β)} (h : Ordered entries) (key : FieldValue)
    (change : Option β → β) (k : FieldValue) :
    lookup? k (alter key change entries) =
      if k = key then some (change (lookup? key entries)) else lookup? k entries := by
  induction entries with
  | nil => rw [alter, lookup?_cons, lookup?_nil, lookup?_nil]
  | cons entry rest ih =>
    obtain ⟨l, b⟩ := entry
    obtain ⟨hhead, htail⟩ := List.pairwise_cons.mp h
    rw [alter]
    split
    · next hlt =>
      -- the key is below all others, so nothing stood under it
      have hnone : lookup? key ((l, b) :: rest) = none := by
        refine lookup?_of_forall_lt fun p hp => ?_
        rcases List.mem_cons.mp hp with rfl | hp
        · exact hlt
        · exact Std.TransCmp.lt_trans hlt (hhead p hp)
      rw [lookup?_cons, hnone]
    · next heq =>
      obtain rfl : key = l := Std.LawfulEqCmp.eq_of_compare heq
      rw [lookup?_cons, lookup?_cons, lookup?_cons, if_pos rfl]
      by_cases hk : k = key
      · rw [if_pos hk, if_pos hk]
      · rw [if_neg hk, if_neg hk, if_neg hk]
    · next hgt =>
      have hne : key ≠ l := by
        rintro rfl
        exact absurd (hgt.symm.trans Std.ReflCmp.compare_self) (by decide)
      rw [lookup?_cons, lookup?_cons, lookup?_cons, if_neg hne, ih htail]
      by_cases hk : k = l
      · rw [if_pos hk, if_neg (fun heq => hne (heq.symm.trans hk)), if_pos hk]
      · rw [if_neg hk, if_neg hk]

/-- **What stands under a key after a run of changes**: what those made under this key add up to,
in order. -/
theorem lookup?_foldl_alter {entries : List (FieldValue × β)} (h : Ordered entries)
    (key : α → FieldValue) (change : α → Option β → β) (ws : List α) (k : FieldValue) :
    lookup? k (ws.foldl (fun entries w => alter (key w) (change w) entries) entries) =
      (ws.filter (fun w => key w == k)).foldl (fun old w => some (change w old))
        (lookup? k entries) := by
  induction ws generalizing entries with
  | nil => rfl
  | cons w ws ih =>
    rw [List.foldl_cons, ih (ordered_alter h _ _), lookup?_alter h]
    by_cases hk : k = key w
    · subst hk
      rw [if_pos rfl, List.filter_cons_of_pos (by simp), List.foldl_cons]
    · rw [if_neg hk, List.filter_cons_of_neg (by simpa using Ne.symm hk)]

/-- Changes that forget what was there add up to the last one. -/
theorem foldl_last (ws : List α) (old : Option α) :
    ws.foldl (fun _ w => some w) old = ws.getLast?.or old := by
  induction ws generalizing old with
  | nil => rfl
  | cons w ws ih =>
    rw [List.foldl_cons, ih, List.getLast?_cons]
    cases ws.getLast? <;> rfl

/-- Changes that append add up to everything in order, if there is any. -/
theorem foldl_group (ws : List α) (old : Option (List α)) :
    ws.foldl (fun old w => some (old.getD [] ++ [w])) old =
      if ws.isEmpty then old else some (old.getD [] ++ ws) := by
  induction ws generalizing old with
  | nil => rfl
  | cons w ws ih =>
    rw [List.foldl_cons, ih, Option.getD_some, List.append_assoc, List.singleton_append]
    cases ws <;> rfl

variable {key : α → FieldValue}

/-- **Keeping values in a map**: under each key stands the last of them, or what stood there. -/
theorem foldl_keep_map_eq {entries : List (FieldValue × α)} (h : Ordered entries) (ws : List α) :
    ∃ new, ws.foldl (keep key) (.map entries) = .map new ∧
      ∀ k, lookup? k new = (ws.filter (fun w => key w == k)).getLast?.or (lookup? k entries) := by
  refine ⟨ws.foldl (fun entries w => alter (key w) (fun _ => w) entries) entries, ?_, fun k => ?_⟩
  · exact List.foldl_hom Held.map fun _ _ => rfl
  · rw [lookup?_foldl_alter h key (fun w _ => w), foldl_last]

/-- **Keeping values in a multimap** without empty groups: under each key stands what stood there
and then all of them, or nothing at all. -/
theorem foldl_keep_multimap_eq {entries : List (FieldValue × List α)} (h : Ordered entries)
    (hne : ∀ p ∈ entries, p.2 ≠ []) (ws : List α) :
    ∃ new, ws.foldl (keep key) (.multimap entries) = .multimap new ∧
      ∀ k, lookup? k new =
        let group := (lookup? k entries).getD [] ++ ws.filter (fun w => key w == k)
        if group.isEmpty then none else some group := by
  refine ⟨ws.foldl (fun entries w => alter (key w) (fun g => g.getD [] ++ [w]) entries) entries,
    ?_, fun k => ?_⟩
  · exact List.foldl_hom Held.multimap fun _ _ => rfl
  · rw [lookup?_foldl_alter h key (fun w g => g.getD [] ++ [w]), foldl_group]
    cases hfound : lookup? k entries with
    | none =>
      cases ws.filter (fun w => key w == k) <;> rfl
    | some group =>
      -- a group that is there is not empty, so it stays also if nothing is added
      obtain ⟨v, vs, rfl⟩ := List.exists_cons_of_ne_nil (hne _ (mem_of_lookup? hfound))
      cases ws.filter (fun w => key w == k) with
      | nil => simp
      | cons w ws => simp

end Held

namespace TreeValue

/-! ### Merging -/

/-- The values that an element has for a child of its type: a fresh one for each element of the
tag, in document order. -/
def arriving (c : ElementType) (e : Element) : List TreeValue :=
  (e.childrenNamed c.tag).map (fun child => read c (initial c) child)

/-- **What is held for a child before and after an element is read.** -/
inductive Merged (c : ElementType) (e : Element) : Held TreeValue → Held TreeValue → Prop
  /-- A single value is read from the first element of its tag, and stays if there is none. -/
  | single {v : TreeValue} (hc : c.container = .single) :
      Merged c e (.single v) (.single (((e.child? c.tag).map (fun child => read c v child)).getD v))
  /-- A sequence goes on with the values that arrive. -/
  | sequence {vs : List TreeValue} (hc : c.container = .sequence) :
      Merged c e (.sequence vs) (.sequence (vs ++ arriving c e))
  /-- A map has the last value that arrives under a key, and what stood there if none does. Its
  elements are written in the order of its entries, which is the order of their keys. -/
  | map {name : String} {old new : List (FieldValue × TreeValue)}
      (hc : c.container = .map name false)
      (hfound : ∀ k, Held.lookup? k new =
        ((arriving c e).filter (fun w => key c w == k)).getLast?.or (Held.lookup? k old))
      (hordered : Held.Ordered new)
      (hwritten : (Held.map new).elements.map (key c) = new.map Prod.fst) :
      Merged c e (.map old) (.map new)
  /-- A multimap has what stood under a key and then what arrives, if that is anything. Its elements
  are written group by group in the order of its entries, which is the order of their keys. -/
  | multimap {name : String} {old new : List (FieldValue × List TreeValue)}
      (hc : c.container = .map name true)
      (hfound : ∀ k, Held.lookup? k new =
        let group := (Held.lookup? k old).getD [] ++ (arriving c e).filter (fun w => key c w == k)
        if group.isEmpty then none else some group)
      (hordered : Held.Ordered new)
      (hwritten : (Held.multimap new).elements.map (key c) =
        new.flatMap (fun entry => entry.2.map (fun _ => entry.1))) :
      Merged c e (.multimap old) (.multimap new)

/-- The elements of a map are written under the keys of its entries. -/
theorem map_key_elements_map {good : TreeValue → Prop} {c : ElementType}
    {entries : List (FieldValue × TreeValue)} {container : Container}
    (h : Held.Kept (key c) good container (.map entries)) :
    (Held.map entries).elements.map (key c) = entries.map Prod.fst := by
  cases h with
  | map ho hall =>
    rw [Held.elements, List.map_map]
    exact List.map_congr_left fun entry hentry => (hall entry hentry).2

/-- The elements of a multimap are written under the keys of their groups. -/
theorem map_key_elements_multimap {good : TreeValue → Prop} {c : ElementType}
    {entries : List (FieldValue × List TreeValue)} {container : Container}
    (h : Held.Kept (key c) good container (.multimap entries)) :
    (Held.multimap entries).elements.map (key c) =
      entries.flatMap (fun entry => entry.2.map (fun _ => entry.1)) := by
  cases h with
  | multimap ho hall =>
    rw [Held.elements, List.map_flatMap]
    refine List.flatMap_congr fun entry hentry => ?_
    exact List.map_congr_left fun v hv => ((hall entry hentry).2 v hv).2

/-- **Reading an element merges what it has for a child with what is held for it.** -/
theorem merged_readHeld {s : Standard} {c : ElementType} {held : Held TreeValue} {e : Element}
    (h : ChildConforms s c held) (hread : ChildConforms s c (readHeld e c held)) :
    Merged c e held (readHeld e c held) := by
  rw [ChildConforms] at h hread
  generalize hc : c.container = container at h hread
  cases h with
  | @single v hv =>
    have hsame : readHeld e c (.single v) =
        .single (((e.child? c.tag).map (fun child => read c v child)).getD v) := by
      rw [readHeld]
      cases e.child? c.tag <;> rfl
    rw [hsame]
    exact .single hc
  | @sequence vs hvs =>
    have hsame : readHeld e c (.sequence vs) = .sequence (vs ++ arriving c e) :=
      Held.foldl_keep_sequence vs (arriving c e)
    rw [hsame]
    exact .sequence hc
  | @map name old ho hall =>
    obtain ⟨new, hnew, hfound⟩ := @Held.foldl_keep_map_eq _ (key c) old ho (arriving c e)
    have hsame : readHeld e c (.map old) = .map new := hnew
    rw [hsame] at hread ⊢
    refine .map hc hfound ?_ (map_key_elements_map hread)
    cases hread with
    | map hordered _ => exact hordered
  | @multimap name old ho hall =>
    obtain ⟨new, hnew, hfound⟩ := @Held.foldl_keep_multimap_eq _ (key c) old ho
      (fun p hp => (hall p hp).1) (arriving c e)
    have hsame : readHeld e c (.multimap old) = .multimap new := hnew
    rw [hsame] at hread ⊢
    refine .multimap hc hfound ?_ (map_key_elements_multimap hread)
    cases hread with
    | multimap hordered _ => exact hordered

/-! ### What counts of an element -/

/-- **What is held for a child depends on the elements of its tag only.** -/
theorem readHeld_congr {c : ElementType} {e e' : Element}
    (h : e'.childrenNamed c.tag = e.childrenNamed c.tag) (held : Held TreeValue) :
    readHeld e' c held = readHeld e c held := by
  have hfirst : e'.child? c.tag = e.child? c.tag := by
    rw [Element.child?, Element.child?, ← List.head?_filter, ← List.head?_filter]
    exact congrArg List.head? h
  cases held with
  | single v => rw [readHeld, readHeld, hfirst]
  | sequence vs => simp only [readHeld, h]
  | map entries => simp only [readHeld, h]
  | multimap entries => simp only [readHeld, h]

/-- **Of the children of an element, those count only whose tags the type has**, and only in their
order for each tag. -/
theorem read_congr {t : ElementType} {v : TreeValue}
    (hlen : t.children.length = v.children.length) {e : Element} {others : List Element}
    (h : ∀ c ∈ t.children,
      others.filter (fun d => d.tag == c.tag) = e.childrenNamed c.tag) :
    read t v { e with children := others } = read t v e := by
  have hchildren : List.zipWith (readHeld { e with children := others }) t.children v.children =
      List.zipWith (readHeld e) t.children v.children := by
    rw [← List.map_uncurry_zip_eq_zipWith, ← List.map_uncurry_zip_eq_zipWith]
    refine List.map_congr_left fun p hp => ?_
    have hsame : Element.childrenNamed { e with children := others } p.1.tag =
        e.childrenNamed p.1.tag := h p.1 (List.of_mem_zip hp).1
    exact readHeld_congr hsame p.2
  rw [read_eq hlen, read_eq hlen, hchildren]
  rfl

/-! ### Every value that can be had -/

/-- **Reading an element into a value.** For each child of the type, what is held for it is merged
with what the element has for it, by the kind of its container. Of the children of the element,
only those count whose tags the type has, and only in their order for each tag. -/
theorem read_merges {t : ElementType} {v : TreeValue} (h : Reachable t v) (e : Element) :
    (∀ (i : Nat) (c : ElementType), t.children[i]? = some c → ∃ held held',
      v.children[i]? = some held ∧ (read t v e).children[i]? = some held' ∧
      Merged c e held held') ∧
    ∀ others : List Element,
      (∀ c ∈ t.children, others.filter (fun d => d.tag == c.tag) = e.childrenNamed c.tag) →
      read t v { e with children := others } = read t v e := by
  have hconforms := h.conforms metAt_typedStandard
  have hafter := conforms_read (fun n _ => metAt_typedStandard n) hconforms e
  obtain ⟨-, -, hchildren⟩ := (conforms_iff t v).mp hconforms
  obtain ⟨-, -, hmerged⟩ := (conforms_iff t _).mp hafter
  have hlen := hchildren.length_eq
  refine ⟨fun i c hc => ?_, fun others => read_congr hlen⟩
  rw [read_eq hlen] at hmerged ⊢
  obtain ⟨hi, rfl⟩ := List.getElem?_eq_some_iff.mp hc
  have hi' : i < v.children.length := hlen ▸ hi
  refine ⟨v.children[i], readHeld e t.children[i] v.children[i], List.getElem?_eq_getElem hi', ?_,
    ?_⟩
  · rw [List.getElem?_zipWith, hc, List.getElem?_eq_getElem hi']
  · have hchild := hmerged.get hi (by rw [List.length_zipWith]; omega)
    rw [List.get_eq_getElem, List.get_eq_getElem, List.getElem_zipWith] at hchild
    exact merged_readHeld (hchildren.get hi hi') hchild

/-- A hall with a quest of a level that is there already, a guest, a new member, an old one again
and another verse. -/
def hallChange : Element where
  tag := "Hall"
  children :=
    [{ tag := "Quest", attributes := [("level", "+5")] }, { tag := "Guest" },
     { tag := "Member", attributes := [("name", "zoe"), ("rank", "1")] },
     { tag := "Member", attributes := [("name", "abel"), ("rank", "9")] },
     { tag := "Motto", children := [{ tag := "Verse", text := some "II" }] }]

/-- The change leaves the hall with two members and four quests, each child is merged, and the guest
does not count. -/
theorem read_merges_hallValue :
    Reachable hallType hallValue ∧
      (read hallType hallValue hallChange).children.map Held.count = [1, 2, 4] ∧
      (∀ (i : Nat) (c : ElementType), hallType.children[i]? = some c → ∃ held held',
        hallValue.children[i]? = some held ∧
        (read hallType hallValue hallChange).children[i]? = some held' ∧
        Merged c hallChange held held') ∧
      read hallType hallValue
          { hallChange with children := hallChange.children.filter (fun d => d.tag != "Guest") } =
        read hallType hallValue hallChange := by
  obtain ⟨hmerged, hcounts⟩ := read_merges reachable_hallValue hallChange
  refine ⟨reachable_hallValue, by decide +kernel, hmerged, hcounts _ fun c hc => ?_⟩
  have htag : c.tag ≠ "Guest" := (by decide : ∀ c ∈ hallType.children, c.tag ≠ "Guest") c hc
  rw [List.filter_filter, Element.childrenNamed]
  refine List.filter_congr fun d _ => ?_
  by_cases hd : d.tag = c.tag
  · simp [hd, htag]
  · simp [hd]

end TreeValue

end SchemaCompiler
