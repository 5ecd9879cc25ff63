import SchemaCompiler.Proofs.Value.KeyOrder

/-!
# What a container keeps

`SchemaCompiler.Held.Kept` says what the held values of a child look like, whatever was kept in them
before: a container of the declared kind, all of whose values are good, with the entries of a map in
order and every value under its own key. Keeping one more value preserves it (`kept_keep`), and so
does keeping many (`kept_foldl_keep`).

The other half is that nothing is lost. Values that are taken out in the order in which they are
written, and kept again in an empty container, give the container back (`foldl_keep_elements`).
For a map this is where the order of the entries counts: each key is above those before it, so its
value goes to the end. For a multimap a group must not be empty, or it would leave no trace.
-/

namespace SchemaCompiler.Held

variable {α : Type} {key : α → FieldValue} {good : α → Prop}

/-- **The held values of a child** whose values are good and whose keys are given. -/
inductive Kept (key : α → FieldValue) (good : α → Prop) : Container → Held α → Prop
  /-- A single value is good. -/
  | single {v : α} (h : good v) : Kept key good .single (.single v)
  /-- All values of a sequence are good. -/
  | sequence {vs : List α} (h : ∀ v ∈ vs, good v) : Kept key good .sequence (.sequence vs)
  /-- The entries of a map are in order, and every value is good and stands under its key. -/
  | map {name : String} {entries : List (FieldValue × α)} (ho : Ordered entries)
      (h : ∀ p ∈ entries, good p.2 ∧ key p.2 = p.1) : Kept key good (.map name false) (.map entries)
  /-- The groups of a multimap are in order, none is empty, and every value is good and stands under
  its key. -/
  | multimap {name : String} {entries : List (FieldValue × List α)} (ho : Ordered entries)
      (h : ∀ p ∈ entries, p.2 ≠ [] ∧ ∀ v ∈ p.2, good v ∧ key v = p.1) :
      Kept key good (.map name true) (.multimap entries)

theorem kept_single_iff {c : Container} {v : α} :
    Kept key good c (.single v) ↔ c = .single ∧ good v := by
  refine ⟨fun h => ?_, ?_⟩
  · cases h with
    | single hv => exact ⟨rfl, hv⟩
  · rintro ⟨rfl, hv⟩
    exact .single hv

/-! ### Keeping values -/

/-- A fresh child holds good values if its initial value is good. -/
theorem kept_empty {initial : α} (h : good initial) (c : Container) :
    Kept key good c (empty initial c) := by
  cases c with
  | single => exact .single h
  | sequence => exact .sequence fun v hv => absurd hv List.not_mem_nil
  | map name multi =>
    cases multi with
    | false => exact .map ordered_nil fun p hp => absurd hp List.not_mem_nil
    | true => exact .multimap ordered_nil fun p hp => absurd hp List.not_mem_nil

/-- **Keeping one more good value**: everything that is held stays good, in order and under its
key. -/
theorem kept_keep {c : Container} {held : Held α} (hk : Kept key good c held) {v : α}
    (hv : good v) : Kept key good c (keep key held v) := by
  cases hk with
  | single h => exact .single h
  | sequence h =>
    refine .sequence fun w hw => ?_
    rcases List.mem_append.mp hw with hold | hnew
    · exact h w hold
    · exact List.mem_singleton.mp hnew ▸ hv
  | map ho h =>
    refine .map (ordered_alter ho _ _) fun p hp => ?_
    rcases mem_alter hp with hold | rfl | ⟨old, -, rfl⟩
    · exact h p hold
    · exact ⟨hv, rfl⟩
    · exact ⟨hv, rfl⟩
  | multimap ho h =>
    refine .multimap (ordered_alter ho _ _) fun p hp => ?_
    rcases mem_alter hp with hold | rfl | ⟨old, hmem, rfl⟩
    · exact h p hold
    · refine ⟨by simp, fun w hw => ?_⟩
      obtain rfl : w = v := by simpa using hw
      exact ⟨hv, rfl⟩
    · refine ⟨by simp, fun w hw => ?_⟩
      rcases List.mem_append.mp hw with hin | hnew
      · exact (h _ hmem).2 w hin
      · obtain rfl : w = v := List.mem_singleton.mp hnew
        exact ⟨hv, rfl⟩

/-- **Keeping any number of good values.** -/
theorem kept_foldl_keep {c : Container} {held : Held α} (hk : Kept key good c held) {vs : List α}
    (hvs : ∀ v ∈ vs, good v) : Kept key good c (vs.foldl (keep key) held) := by
  induction vs generalizing held with
  | nil => exact hk
  | cons v vs ih =>
    rw [List.foldl_cons]
    exact ih (kept_keep hk (hvs v List.mem_cons_self))
      fun w hw => hvs w (List.mem_cons_of_mem _ hw)

/-- All values that are written are good. -/
theorem Kept.good_of_mem_elements {c : Container} {held : Held α} (hk : Kept key good c held)
    {v : α} (hv : v ∈ held.elements) : good v := by
  cases hk with
  | single h => exact List.mem_singleton.mp hv ▸ h
  | sequence h => exact h v hv
  | map ho h =>
    obtain ⟨p, hp, rfl⟩ := List.mem_map.mp hv
    exact (h p hp).1
  | multimap ho h =>
    obtain ⟨p, hp, hin⟩ := List.mem_flatMap.mp hv
    exact ((h p hp).2 v hin).1

/-! ### Keeping them again -/

/-- Keeping values in a sequence appends them. -/
theorem foldl_keep_sequence (vs ws : List α) :
    ws.foldl (keep key) (.sequence vs) = .sequence (vs ++ ws) := by
  induction ws generalizing vs with
  | nil => rw [List.foldl_nil, List.append_nil]
  | cons w ws ih => rw [List.foldl_cons, keep, ih, List.append_assoc, List.singleton_append]

/-- Keeping the values of ordered entries behind smaller ones appends the entries. -/
theorem foldl_keep_map {entries rest : List (FieldValue × α)} (ho : Ordered (entries ++ rest))
    (h : ∀ p ∈ rest, key p.2 = p.1) :
    (rest.map Prod.snd).foldl (keep key) (.map entries) = .map (entries ++ rest) := by
  induction rest generalizing entries with
  | nil => rw [List.map_nil, List.foldl_nil, List.append_nil]
  | cons p rest ih =>
    have hput : alter (key p.2) (fun _ => p.2) entries = entries ++ [p] := by
      have hend := alter_of_forall_lt ho.lt_of_append (fun _ => p.2) []
      rw [List.append_nil] at hend
      rw [h p List.mem_cons_self, hend, alter]
    have ho' : Ordered (entries ++ [p] ++ rest) := by rwa [← List.append_cons]
    rw [List.map_cons, List.foldl_cons, keep, hput,
      ih ho' fun q hq => h q (List.mem_cons_of_mem _ hq), ← List.append_cons]

/-- Keeping the values of one group behind smaller keys extends the group of that key. -/
theorem foldl_keep_group {entries : List (FieldValue × List α)} {k : FieldValue}
    (hlt : ∀ p ∈ entries, p.1.compareKeys k = .lt) {vs : List α} (hvs : ∀ v ∈ vs, key v = k)
    (group : List α) :
    vs.foldl (keep key) (.multimap (entries ++ [(k, group)])) =
      .multimap (entries ++ [(k, group ++ vs)]) := by
  induction vs generalizing group with
  | nil => rw [List.foldl_nil, List.append_nil]
  | cons v vs ih =>
    rw [List.foldl_cons, keep, hvs v List.mem_cons_self, alter_of_forall_lt hlt, alter_self,
      Option.getD_some, ih fun w hw => hvs w (List.mem_cons_of_mem _ hw), List.append_assoc,
      List.singleton_append]

/-- Keeping the values of ordered groups behind smaller ones appends the groups. -/
theorem foldl_keep_multimap {entries rest : List (FieldValue × List α)}
    (ho : Ordered (entries ++ rest)) (h : ∀ p ∈ rest, p.2 ≠ [] ∧ ∀ v ∈ p.2, key v = p.1) :
    (rest.flatMap Prod.snd).foldl (keep key) (.multimap entries) = .multimap (entries ++ rest) := by
  induction rest generalizing entries with
  | nil => rw [List.flatMap_nil, List.foldl_nil, List.append_nil]
  | cons p rest ih =>
    obtain ⟨k, group⟩ := p
    obtain ⟨hne, hkeys⟩ := h _ List.mem_cons_self
    have hlt := ho.lt_of_append
    -- the first value of the group makes its entry, the others extend it
    obtain ⟨v, vs, rfl⟩ := List.exists_cons_of_ne_nil hne
    have hfirst : alter (key v) (fun g => g.getD [] ++ [v]) entries = entries ++ [(k, [v])] := by
      have hend := alter_of_forall_lt hlt (fun g => g.getD [] ++ [v]) []
      rw [List.append_nil] at hend
      rw [hkeys v List.mem_cons_self, hend, alter, Option.getD_none, List.nil_append]
    have ho' : Ordered (entries ++ [(k, v :: vs)] ++ rest) := by rwa [← List.append_cons]
    rw [List.flatMap_cons, List.foldl_append, List.foldl_cons, keep, hfirst,
      foldl_keep_group hlt fun w hw => hkeys w (List.mem_cons_of_mem _ hw), List.singleton_append,
      ih ho' fun q hq => h q (List.mem_cons_of_mem _ hq), ← List.append_cons]

/-- **Nothing is lost**: keeping the values of a container again, in the order in which they are
written, gives the container back. -/
theorem foldl_keep_elements {c : Container} {held : Held α} (hk : Kept key good c held)
    (hc : c ≠ .single) (initial : α) :
    held.elements.foldl (keep key) (empty initial c) = held := by
  cases hk with
  | single h => exact absurd rfl hc
  | sequence h => exact foldl_keep_sequence [] _
  | map ho h => exact @foldl_keep_map α key [] _ ho fun p hp => (h p hp).2
  | multimap ho h =>
    exact @foldl_keep_multimap α key [] _ ho fun p hp =>
      ⟨(h p hp).1, fun v hv => ((h p hp).2 v hv).2⟩

end SchemaCompiler.Held
