import SchemaCompiler.Markup.Reading
import SchemaCompiler.Proofs.Schema.Nodes

/-!
# Documents and their events

One document can be written as events in many ways: an element without content is one event or two,
text comes in pieces around the children, and comments stand anywhere. Which sequences of events
are sequences of a document is said here by a grammar: `SchemaCompiler.Markup.ElementEvents` for
one element, `SchemaCompiler.Markup.Inside` for what stands between its tags, and
`SchemaCompiler.Markup.DocumentEvents` for a document with what stands around it. Assembling accepts
exactly these sequences and returns the document (`SchemaCompiler.Markup.ofEvents_eq_ok_iff`).

* *A sequence of the grammar is accepted.* What stands inside an element is added to the innermost
  open element, whatever is open around it and whatever follows (`Inside.run_append`).
* *What is accepted is of the grammar.* The events taken in so far are those before the outermost
  open element, then its start and what stands inside it so far, and so on inwards
  (`SchemaCompiler.Markup.Read`); every event that is not refused keeps this so (`Read.step`).

All other sequences are refused. Three faults are told by counting, since a document has none of
them (`DocumentEvents.shape_eq`): no element at all, two elements outside all others, and an element
that is open at the end (`SchemaCompiler.Markup.Shape`).
-/

namespace SchemaCompiler

/-! ### Elements that grow -/

namespace Element

/-- An element with more children and more pieces of text, both at the end. -/
def extend (e : Element) (children : List Element) (pieces : List String) : Element :=
  { e with
    children := e.children ++ children
    text := if pieces.isEmpty then e.text else some (e.text.getD "" ++ String.join pieces) }

theorem extend_nil (e : Element) : e.extend [] [] = e := by
  cases e
  simp [extend]

theorem extend_extend (e : Element) (children others : List Element) (pieces more : List String) :
    (e.extend children pieces).extend others more =
      e.extend (children ++ others) (pieces ++ more) := by
  cases pieces with
  | nil => simp [extend]
  | cons piece pieces => cases more <;> simp [extend, String.join_append, String.append_assoc]

theorem addChild_eq_extend (e child : Element) : e.addChild child = e.extend [child] [] := by
  simp [addChild, extend]

theorem appendText_eq_extend (e : Element) (piece : String) :
    e.appendText piece = e.extend [] [piece] := by
  simp [appendText, extend]

end Element

namespace Markup

/-! ### The grammar -/

/-- The text of an element that holds the given pieces of text. No piece is no text, and an empty
piece is an empty text. -/
def joined (pieces : List String) : Option String :=
  if pieces.isEmpty then none else some (String.join pieces)

mutual

/-- **The events of an element.** The end of an element need not repeat its tag here; that it does
is seen to where the events are made. -/
inductive ElementEvents : List Event → Element → Prop where
  /-- An element without content, as one event. -/
  | empty (tag : String) (attributes : List (String × String)) :
      ElementEvents [.empty tag attributes] { tag, attributes }
  /-- An element between its tags. -/
  | tags {inside : List Event} {children : List Element} {pieces : List String} (tag : String)
      (attributes : List (String × String)) (closing : String)
      (hinside : Inside inside children pieces) :
      ElementEvents (.start tag attributes :: (inside ++ [.finish closing]))
        ⟨tag, attributes, children, joined pieces⟩

/-- **The events inside an element**, with the children and the pieces of text that they give. -/
inductive Inside : List Event → List Element → List String → Prop where
  /-- Nothing. -/
  | nil : Inside [] [] []
  /-- A comment, declaration or instruction. -/
  | other {events : List Event} {children : List Element} {pieces : List String}
      (h : Inside events children pieces) : Inside (.other :: events) children pieces
  /-- A piece of text, with escapes. -/
  | text {events : List Event} {children : List Element} {pieces : List String} {raw piece : String}
      (hraw : unescape? raw.toList = some piece) (h : Inside events children pieces) :
      Inside (.text raw :: events) children (piece :: pieces)
  /-- A piece of literal text. -/
  | literal {events : List Event} {children : List Element} {pieces : List String} (piece : String)
      (h : Inside events children pieces) :
      Inside (.literal piece :: events) children (piece :: pieces)
  /-- A child. -/
  | child {element events : List Event} {child : Element} {children : List Element}
      {pieces : List String} (hchild : ElementEvents element child)
      (h : Inside events children pieces) :
      Inside (element ++ events) (child :: children) pieces

end

/-- An event that says nothing where no element is open. -/
def Event.IsAside : Event → Prop
  | .text _ | .literal _ | .other => True
  | _ => False

/-- **The events of a document**: those of its outermost element, with nothing but text and events
that say nothing before and after them. -/
inductive DocumentEvents : List Event → Element → Prop where
  /-- An element and what stands around it. -/
  | around {before element after : List Event} {d : Element} (hbefore : ∀ e ∈ before, e.IsAside)
      (helement : ElementEvents element d) (hafter : ∀ e ∈ after, e.IsAside) :
      DocumentEvents (before ++ (element ++ after)) d

theorem Inside.append {events others : List Event} {children siblings : List Element}
    {pieces more : List String} (h : Inside events children pieces)
    (hothers : Inside others siblings more) :
    Inside (events ++ others) (children ++ siblings) (pieces ++ more) := by
  match h with
  | .nil => exact hothers
  | .other h => exact .other (h.append hothers)
  | .text hraw h => exact .text hraw (h.append hothers)
  | .literal piece h => exact .literal piece (h.append hothers)
  | .child hchild h =>
    rw [List.append_assoc]
    exact .child hchild (h.append hothers)

theorem Inside.single_child {element : List Event} {child : Element}
    (h : ElementEvents element child) : Inside element [child] [] := by
  have hchild := Inside.child h .nil
  rwa [List.append_nil] at hchild

/-- A fresh element with the content that is read between its tags. -/
theorem extend_fresh (tag : String) (attributes : List (String × String)) (children : List Element)
    (pieces : List String) :
    Element.extend { tag, attributes } children pieces =
      ⟨tag, attributes, children, joined pieces⟩ := by
  simp [Element.extend, joined]

/-! ### Sequences of the grammar are accepted -/

namespace Assembly

section

variable (e : Element) (outer : List Element) (root : Option Element)

/-- Inside an element, a finished element becomes a child of it. -/
theorem attach_inside (d : Element) :
    attach ⟨e :: outer, root⟩ d = .ok ⟨e.extend [d] [] :: outer, root⟩ := by
  rw [← Element.addChild_eq_extend]
  rfl

theorem step_literal_inside (piece : String) :
    step ⟨e :: outer, root⟩ (.literal piece) = .ok ⟨e.extend [] [piece] :: outer, root⟩ := by
  rw [← Element.appendText_eq_extend]
  rfl

/-- Inside an element, text is added to it if its escapes are good. -/
theorem step_text_inside {raw piece : String} (hraw : unescape? raw.toList = some piece) :
    step ⟨e :: outer, root⟩ (.text raw) = .ok ⟨e.extend [] [piece] :: outer, root⟩ := by
  rw [step, List.isEmpty_cons, if_neg Bool.false_ne_true, hraw, ← step_literal_inside, step]

theorem step_finish_inside (closing : String) :
    step ⟨e :: outer, root⟩ (.finish closing) = attach ⟨outer, root⟩ e := rfl

end

theorem run_cons {a next : Assembly} {event : Event} (h : a.step event = .ok next)
    (rest : List Event) : a.run (event :: rest) = next.run rest := by
  rw [run, h]

/-- Where no element is open, text and events that say nothing change nothing. -/
theorem step_of_isAside {a : Assembly} {event : Event} (ha : a.openElements = [])
    (h : event.IsAside) : a.step event = .ok a := by
  cases event with
  | text raw => rw [step, ha, List.isEmpty_nil, if_pos rfl]
  | literal text => rw [step, addText, ha]
  | other => rfl
  | start tag attributes => cases h
  | empty tag attributes => cases h
  | finish tag => cases h
  | malformed => cases h

theorem run_asides {a : Assembly} {events : List Event} (ha : a.openElements = [])
    (h : ∀ e ∈ events, e.IsAside) (rest : List Event) : a.run (events ++ rest) = a.run rest := by
  induction events with
  | nil => rfl
  | cons event events ih =>
    rw [List.cons_append, run_cons (step_of_isAside ha (h event List.mem_cons_self)),
      ih fun e he => h e (List.mem_cons_of_mem _ he)]

end Assembly

mutual

/-- **The events of an element add it where it belongs.** -/
theorem ElementEvents.run_append {events : List Event} {d : Element} (h : ElementEvents events d)
    {a next : Assembly} (hattach : a.attach d = .ok next) (rest : List Event) :
    a.run (events ++ rest) = next.run rest := by
  match h with
  | .empty tag attributes =>
    have hstep : a.step (.empty tag attributes) = .ok next := hattach
    rw [List.singleton_append, Assembly.run_cons hstep]
  | .tags tag attributes closing hinside =>
    have hstart : a.step (.start tag attributes) =
        .ok ⟨{ tag, attributes } :: a.openElements, a.root⟩ := rfl
    have hfinish := (Assembly.step_finish_inside _ _ _ closing).trans hattach
    rw [List.cons_append, List.append_assoc, Assembly.run_cons hstart, hinside.run_append,
      extend_fresh, List.singleton_append, Assembly.run_cons hfinish]

/-- **The events inside an element go to it**, whatever is open around it. -/
theorem Inside.run_append {events : List Event} {children : List Element} {pieces : List String}
    (h : Inside events children pieces) (e : Element) (outer : List Element) (root : Option Element)
    (rest : List Event) :
    Assembly.run ⟨e :: outer, root⟩ (events ++ rest) =
      Assembly.run ⟨e.extend children pieces :: outer, root⟩ rest := by
  match h with
  | .nil => rw [Element.extend_nil, List.nil_append]
  | .other h => rw [List.cons_append, Assembly.run_cons rfl, h.run_append]
  | .text hraw h =>
    rw [List.cons_append, Assembly.run_cons (Assembly.step_text_inside e outer root hraw),
      h.run_append, Element.extend_extend, List.nil_append, List.singleton_append]
  | .literal piece h =>
    rw [List.cons_append, Assembly.run_cons (Assembly.step_literal_inside e outer root piece),
      h.run_append, Element.extend_extend, List.nil_append, List.singleton_append]
  | .child hchild h =>
    rw [List.append_assoc, hchild.run_append (Assembly.attach_inside e outer root _), h.run_append,
      Element.extend_extend, List.singleton_append, List.nil_append]

end

/-! ### What is accepted is of the grammar -/

/-- **The events that lead to an assembly**: those before the outermost open element, and then, from
the outermost to the innermost, the start of each open element and what stands inside it so far. -/
inductive Read : List Event → Assembly → Prop where
  /-- No element has started. -/
  | before {events : List Event} (h : ∀ e ∈ events, e.IsAside) : Read events {}
  /-- The outermost element has ended. -/
  | after {events : List Event} {d : Element} (h : DocumentEvents events d) :
      Read events ⟨[], some d⟩
  /-- An element is open. -/
  | inside {outer inner : List Event} {a : Assembly} {children : List Element}
      {pieces : List String} (tag : String) (attributes : List (String × String))
      (houter : Read outer a) (hinner : Inside inner children pieces) :
      Read (outer ++ .start tag attributes :: inner)
        ⟨Element.extend { tag, attributes } children pieces :: a.openElements, a.root⟩

namespace Read

variable {events : List Event}

/-- More content of the innermost open element. -/
theorem append_inside {more : List Event} {e : Element} {outer : List Element}
    {root : Option Element} {children : List Element} {pieces : List String}
    (h : Read events ⟨e :: outer, root⟩) (hmore : Inside more children pieces) :
    Read (events ++ more) ⟨e.extend children pieces :: outer, root⟩ := by
  cases h with
  | inside tag attributes houter hinner =>
    rw [Element.extend_extend, List.append_assoc, List.cons_append]
    exact inside tag attributes houter (hinner.append hmore)

/-- Where no element is open, events that say nothing. -/
theorem step_aside {event : Event} {root : Option Element} {next : Assembly}
    (h : Read events ⟨[], root⟩) (hevent : event.IsAside)
    (hstep : Assembly.step ⟨[], root⟩ event = .ok next) : Read (events ++ [event]) next := by
  rw [Assembly.step_of_isAside rfl hevent] at hstep
  cases hstep
  have hlast : ∀ others : List Event, (∀ e ∈ others, e.IsAside) →
      ∀ e ∈ others ++ [event], e.IsAside := by
    intro others hothers
    exact List.forall_mem_append.mpr ⟨hothers, List.forall_mem_singleton.mpr hevent⟩
  cases h with
  | before hevents => exact before (hlast _ hevents)
  | after hdocument =>
    obtain ⟨hbefore, helement, hafter⟩ := hdocument
    rw [List.append_assoc, List.append_assoc]
    exact after (.around hbefore helement (hlast _ hafter))

/-- **A finished element is attached where its events stand.** -/
theorem attach {element : List Event} {d : Element} {a next : Assembly} (h : Read events a)
    (helement : ElementEvents element d) (hattach : a.attach d = .ok next) :
    Read (events ++ element) next := by
  cases h with
  | before hevents =>
    cases hattach
    have hdocument := DocumentEvents.around hevents helement (List.forall_mem_nil _)
    rw [List.append_nil] at hdocument
    exact after hdocument
  | after hdocument => cases hattach
  | inside tag attributes houter hinner =>
    rw [Assembly.attach_inside] at hattach
    cases hattach
    exact (inside tag attributes houter hinner).append_inside (.single_child helement)

/-- **Every event that is not refused keeps the events together.** -/
theorem step {event : Event} {a next : Assembly} (h : Read events a)
    (hstep : a.step event = .ok next) : Read (events ++ [event]) next := by
  cases event with
  | start tag attributes =>
    cases hstep
    have hinside := inside tag attributes h .nil
    rwa [Element.extend_nil] at hinside
  | empty tag attributes => exact h.attach (.empty tag attributes) hstep
  | finish closing =>
    cases h with
    | before hevents => cases hstep
    | after hdocument => cases hstep
    | inside tag attributes houter hinner =>
      -- the element that ends was the innermost open one, and goes to the one around it
      rw [Assembly.step_finish_inside, extend_fresh] at hstep
      rw [List.append_assoc, List.cons_append]
      exact houter.attach (.tags tag attributes closing hinner) hstep
  | text raw =>
    obtain ⟨openElements, root⟩ := a
    cases openElements with
    | nil => exact h.step_aside trivial hstep
    | cons e outer =>
      cases hraw : unescape? raw.toList with
      | none =>
        rw [Assembly.step, List.isEmpty_cons, if_neg Bool.false_ne_true, hraw] at hstep
        cases hstep
      | some piece =>
        rw [Assembly.step_text_inside e outer root hraw] at hstep
        cases hstep
        exact h.append_inside (.text hraw .nil)
  | literal piece =>
    obtain ⟨openElements, root⟩ := a
    cases openElements with
    | nil => exact h.step_aside trivial hstep
    | cons e outer =>
      rw [Assembly.step_literal_inside] at hstep
      cases hstep
      exact h.append_inside (.literal piece .nil)
  | other =>
    obtain ⟨openElements, root⟩ := a
    cases openElements with
    | nil => exact h.step_aside trivial hstep
    | cons e outer =>
      cases hstep
      have hinside := h.append_inside (.other .nil)
      rwa [Element.extend_nil] at hinside
  | malformed => cases hstep

theorem run {more : List Event} {a last : Assembly} (h : Read events a)
    (hrun : a.run more = .ok last) : Read (events ++ more) last := by
  induction more generalizing events a with
  | nil =>
    cases hrun
    rwa [List.append_nil]
  | cons event more ih =>
    rw [Assembly.run] at hrun
    split at hrun
    · cases hrun
    · next next hstep =>
      have hrest := ih (h.step hstep) hrun
      rwa [List.append_assoc, List.singleton_append] at hrest

end Read

/-- A document is complete when its outermost element has ended. -/
theorem Assembly.finish_eq_ok_iff {a : Assembly} {d : Element} :
    a.finish = .ok d ↔ a = ⟨[], some d⟩ := by
  obtain ⟨openElements, root⟩ := a
  cases openElements <;> cases root <;> simp [Assembly.finish]

/-- **Assembling accepts the sequences of events of documents**, and returns the document. -/
theorem ofEvents_eq_ok_iff {events : List Event} {d : Element} :
    ofEvents events = .ok d ↔ DocumentEvents events d := by
  constructor
  · intro h
    rw [ofEvents] at h
    split at h
    · cases h
    · next last hrun =>
      have hread := (Read.before (List.forall_mem_nil _)).run hrun
      rw [Assembly.finish_eq_ok_iff.mp h] at hread
      cases hread with
      | after hdocument => exact hdocument
  · rintro ⟨hbefore, helement, hafter⟩
    have hrun := Assembly.run_asides (a := ⟨[], some d⟩) rfl hafter []
    rw [List.append_nil] at hrun
    rw [ofEvents, Assembly.run_asides rfl hbefore, helement.run_append rfl, hrun]
    rfl

/-- Every element has a sequence of events. -/
theorem exists_elementEvents (d : Element) : ∃ events, ElementEvents events d := by
  induction d using Element.induction with
  | step d ih =>
    have hchildren : ∀ children : List Element, (∀ c ∈ children, ∃ events, ElementEvents events c) →
        ∃ events, Inside events children [] := by
      intro children
      induction children with
      | nil => exact fun _ => ⟨[], .nil⟩
      | cons c children ihchildren =>
        intro h
        obtain ⟨first, hfirst⟩ := h c List.mem_cons_self
        obtain ⟨rest, hrest⟩ := ihchildren fun c hc => h c (List.mem_cons_of_mem _ hc)
        exact ⟨first ++ rest, .child hfirst hrest⟩
    obtain ⟨inside, hinside⟩ := hchildren d.children ih
    obtain ⟨tag, attributes, children, text⟩ := d
    cases text with
    | none => exact ⟨_, .tags tag attributes tag hinside⟩
    | some text =>
      have htags := ElementEvents.tags tag attributes tag (.literal text hinside)
      have hjoined : joined [text] = some text := by
        rw [joined, List.isEmpty_cons, if_neg Bool.false_ne_true, String.join_cons,
          String.join_nil, String.append_empty]
      rw [hjoined] at htags
      exact ⟨_, htags⟩

/-! ### Sequences that are refused -/

/-- An event that starts an element. -/
def Event.IsElement : Event → Prop
  | .start _ _ | .empty _ _ => True
  | _ => False

/-- What counting tells of a sequence of events. -/
structure Shape where
  /-- The number of elements that are open at its end. -/
  opened : Nat := 0
  /-- The number of elements that start where no other one is open. -/
  outermost : Nat := 0

namespace Shape

/-- Counts an element that starts. -/
def count (s : Shape) : Shape :=
  { s with outermost := if s.opened = 0 then s.outermost + 1 else s.outermost }

/-- Counts an event. -/
def after (s : Shape) : Event → Shape
  | .start _ _ => { s.count with opened := s.opened + 1 }
  | .empty _ _ => s.count
  | .finish _ => { s with opened := s.opened - 1 }
  | _ => s

theorem count_of_pos {s : Shape} (h : 0 < s.opened) : s.count = s := by
  rw [count, if_neg (Nat.ne_of_gt h)]

theorem after_of_isAside {s : Shape} {event : Event} (h : event.IsAside) : s.after event = s := by
  cases event with
  | text | literal | other => rfl
  | start | empty | finish | malformed => cases h

theorem foldl_after_asides {events : List Event} (h : ∀ e ∈ events, e.IsAside) (s : Shape) :
    events.foldl after s = s := by
  induction events with
  | nil => rfl
  | cons event events ih =>
    rw [List.foldl_cons, after_of_isAside (h event List.mem_cons_self),
      ih fun e he => h e (List.mem_cons_of_mem _ he)]

/-- Only an event that starts an element adds to the outermost ones. -/
theorem outermost_foldl_after {events : List Event} (h : ∀ e ∈ events, ¬e.IsElement) (s : Shape) :
    (events.foldl after s).outermost = s.outermost := by
  induction events generalizing s with
  | nil => rfl
  | cons event events ih =>
    have hevent : (s.after event).outermost = s.outermost := by
      cases event with
      | start | empty => exact absurd trivial (h _ List.mem_cons_self)
      | finish | text | literal | other | malformed => rfl
    rw [List.foldl_cons, ih fun e he => h e (List.mem_cons_of_mem _ he), hevent]

end Shape

/-- The shape of a sequence of events. -/
def shape (events : List Event) : Shape :=
  events.foldl Shape.after {}

/-- Whether an event can be read where a number of elements are open: it is no malformed part, and
no text inside an element with an escape that is no good. Text outside all elements is not looked
at. -/
def Event.isReadable (opened : Nat) : Event → Bool
  | .text raw => opened == 0 || (unescape? raw.toList).isSome
  | .malformed => false
  | _ => true

/-- Whether all events can be read, behind others of the given shape. -/
def readableFrom (s : Shape) : List Event → Bool
  | [] => true
  | event :: rest => event.isReadable s.opened && readableFrom (s.after event) rest

mutual

/-- An element counts as one, and leaves nothing open. -/
theorem ElementEvents.foldl_after {events : List Event} {d : Element} (h : ElementEvents events d)
    (s : Shape) : events.foldl Shape.after s = s.count := by
  match h with
  | .empty tag attributes => rfl
  | .tags tag attributes closing hinside =>
    have hpos : 0 < (s.after (.start tag attributes)).opened := Nat.succ_pos _
    rw [List.foldl_cons, List.foldl_append, hinside.foldl_after hpos]
    rfl

/-- What stands inside an element does not change the shape. -/
theorem Inside.foldl_after {events : List Event} {children : List Element} {pieces : List String}
    (h : Inside events children pieces) {s : Shape} (hs : 0 < s.opened) :
    events.foldl Shape.after s = s := by
  match h with
  | .nil => rfl
  | .other h => exact h.foldl_after hs
  | .text _ h => exact h.foldl_after hs
  | .literal _ h => exact h.foldl_after hs
  | .child hchild h =>
    rw [List.foldl_append, hchild.foldl_after, Shape.count_of_pos hs, h.foldl_after hs]

end

/-- **The shape of a document**: one outermost element, and none is open at the end. -/
theorem DocumentEvents.shape_eq {events : List Event} {d : Element} (h : DocumentEvents events d) :
    shape events = ⟨0, 1⟩ := by
  obtain ⟨hbefore, helement, hafter⟩ := h
  rw [shape, List.foldl_append, List.foldl_append, Shape.foldl_after_asides hbefore,
    helement.foldl_after, Shape.foldl_after_asides hafter]
  rfl

namespace Assembly

theorem eq_document_of_attach {a : Assembly} {d : Element} {e : SourceError}
    (h : a.attach d = .error e) : ∃ reason, e = .document reason := by
  obtain ⟨openElements, root⟩ := a
  cases openElements with
  | nil =>
    cases root with
    | none => cases h
    | some earlier =>
      cases h
      exact ⟨_, rfl⟩
  | cons parent outer => cases h

/-- An event that can be read is refused only because it makes no document. -/
theorem eq_document_of_step {a : Assembly} {event : Event} {e : SourceError}
    (hevent : event.isReadable a.openElements.length = true) (h : a.step event = .error e) :
    ∃ reason, e = .document reason := by
  obtain ⟨openElements, root⟩ := a
  cases event with
  | start | literal | other => cases h
  | empty tag attributes => exact eq_document_of_attach h
  | finish closing =>
    cases openElements with
    | nil =>
      cases h
      exact ⟨_, rfl⟩
    | cons innermost outer => exact eq_document_of_attach h
  | text raw =>
    cases openElements with
    | nil => cases h
    | cons innermost outer =>
      obtain ⟨piece, hraw⟩ := Option.isSome_iff_exists.mp hevent
      rw [step_text_inside innermost outer root hraw] at h
      cases h
  | malformed => cases hevent

theorem length_openElements_attach {a next : Assembly} {d : Element} (h : a.attach d = .ok next) :
    next.openElements.length = a.openElements.length := by
  obtain ⟨openElements, root⟩ := a
  cases openElements with
  | nil =>
    cases root with
    | none =>
      cases h
      rfl
    | some earlier => cases h
  | cons parent outer =>
    cases h
    rfl

theorem length_openElements_addText (a : Assembly) (piece : String) :
    (a.addText piece).openElements.length = a.openElements.length := by
  obtain ⟨openElements, root⟩ := a
  cases openElements <;> rfl

/-- **As many elements are open as counting says**, after every event that is not refused. -/
theorem length_openElements_step {a next : Assembly} {event : Event} {s : Shape}
    (hs : a.openElements.length = s.opened) (h : a.step event = .ok next) :
    next.openElements.length = (s.after event).opened := by
  cases event with
  | start tag attributes =>
    cases h
    exact congrArg (· + 1) hs
  | empty tag attributes => exact (length_openElements_attach h).trans hs
  | finish closing =>
    obtain ⟨openElements, root⟩ := a
    cases openElements with
    | nil => cases h
    | cons innermost outer =>
      rw [step_finish_inside] at h
      exact (length_openElements_attach h).trans (congrArg (· - 1) hs)
  | text raw =>
    rw [step] at h
    split at h
    · -- outside all elements the text is passed over
      cases h
      exact hs
    · split at h
      · cases h
        exact (length_openElements_addText a _).trans hs
      · cases h
  | literal piece =>
    cases h
    exact (length_openElements_addText a piece).trans hs
  | other =>
    cases h
    exact hs
  | malformed => cases h

theorem eq_document_of_run {a : Assembly} {s : Shape} {events : List Event} {e : SourceError}
    (hs : a.openElements.length = s.opened) (hevents : readableFrom s events = true)
    (h : a.run events = .error e) : ∃ reason, e = .document reason := by
  -- that as many elements are open as were counted is carried from event to event
  induction events generalizing a s with
  | nil => cases h
  | cons event events ih =>
    rw [readableFrom, Bool.and_eq_true_iff] at hevents
    rw [run] at h
    split at h
    · next hstep =>
      cases h
      exact eq_document_of_step (hs ▸ hevents.1) hstep
    · next next hstep => exact ih (length_openElements_step hs hstep) hevents.2 h

theorem eq_document_of_finish {a : Assembly} {e : SourceError} (h : a.finish = .error e) :
    ∃ reason, e = .document reason := by
  obtain ⟨openElements, root⟩ := a
  cases openElements with
  | nil =>
    cases root with
    | none =>
      cases h
      exact ⟨_, rfl⟩
    | some d => cases h
  | cons innermost outer =>
    cases h
    exact ⟨_, rfl⟩

end Assembly

/-- **Events that can be read are refused only because they make no document.** -/
theorem eq_document_of_ofEvents {events : List Event} {e : SourceError}
    (hevents : readableFrom {} events = true) (h : ofEvents events = .error e) :
    ∃ reason, e = .document reason := by
  rw [ofEvents] at h
  split at h
  · next hrun =>
    cases h
    exact Assembly.eq_document_of_run rfl hevents hrun
  · exact Assembly.eq_document_of_finish h

/-- A sequence of another shape than that of a document is refused. -/
theorem exists_error_of_shape_ne {events : List Event} (h : shape events ≠ ⟨0, 1⟩) :
    ∃ e, ofEvents events = .error e := by
  cases hof : ofEvents events with
  | error e => exact ⟨e, rfl⟩
  | ok d => exact absurd (ofEvents_eq_ok_iff.mp hof).shape_eq h

/-- **Assembling rebuilds documents and refuses all else.** The sequences of events that are
accepted are those of documents, each of which has some, and the document is returned. A sequence
without an element, with two outermost ones, or with one that is open at the end is refused; if its
events can be read, it is refused as no document. -/
theorem ofEvents_accepts_exactly_documents :
    (∀ (events : List Event) (d : Element), ofEvents events = .ok d ↔ DocumentEvents events d) ∧
      (∀ d : Element, ∃ events, DocumentEvents events d) ∧
      ∀ events : List Event,
        (∀ event ∈ events, ¬event.IsElement) ∨ 1 < (shape events).outermost ∨
          0 < (shape events).opened →
        ∃ e, ofEvents events = .error e ∧
          (readableFrom {} events = true → ∃ reason, e = .document reason) := by
  refine ⟨fun events d => ofEvents_eq_ok_iff, fun d => ?_, fun events hshape => ?_⟩
  · obtain ⟨element, helement⟩ := exists_elementEvents d
    exact ⟨_, .around (List.forall_mem_nil _) helement (List.forall_mem_nil _)⟩
  · have hne : shape events ≠ ⟨0, 1⟩ := by
      intro heq
      rcases hshape with hnone | hmany | hopen
      · have houtermost : (shape events).outermost = 0 := Shape.outermost_foldl_after hnone {}
        rw [heq] at houtermost
        cases houtermost
      · rw [heq] at hmany
        exact absurd hmany (Nat.lt_irrefl 1)
      · rw [heq] at hopen
        exact absurd hopen (Nat.lt_irrefl 0)
    obtain ⟨e, he⟩ := exists_error_of_shape_ne hne
    exact ⟨e, he, fun hevents => eq_document_of_ofEvents hevents he⟩

/-- A guild whose text stands in three pieces around its children. -/
def guild : Element where
  tag := "Guild"
  attributes := [("name", "string")]
  children := [{ tag := "Member", attributes := [("rank", "uint8")] }, { tag := "Note" }]
  text := some "a < b & c"

/-- The events of the guild, with comments before and inside it. The text behind it has an escape
that is no good, but nobody reads it. -/
def guildEvents : List Event :=
  [.other, .text "\n", .start "Guild" [("name", "string")], .text "a &lt; ",
    .empty "Member" [("rank", "uint8")], .other, .literal "b & ", .start "Note" [],
    .finish "Note", .text "c", .finish "Guild", .text "&nothing"]

/-- The guild is rebuilt from its events. Without its end, twice, and without any tag, the events
are refused as no document. -/
theorem ofEvents_guild :
    (DocumentEvents guildEvents guild ∧ ofEvents guildEvents = .ok guild) ∧
      (∃ reason, ofEvents (guildEvents.take 10) = .error (.document reason)) ∧
      (∃ reason, ofEvents (guildEvents ++ guildEvents) = .error (.document reason)) ∧
      ∃ reason, ofEvents (guildEvents.take 2) = .error (.document reason) := by
  obtain ⟨haccepts, -, hrefuses⟩ := ofEvents_accepts_exactly_documents
  have hinside := Inside.text (show unescape? "a &lt; ".toList = some "a < " by decide)
    (.child (.empty "Member" [("rank", "uint8")]) (.other (.literal "b & "
      (.child (.tags "Note" [] "Note" .nil)
        (.text (show unescape? "c".toList = some "c" by decide) .nil)))))
  have hguild : ElementEvents ((guildEvents.take 11).drop 2) guild :=
    .tags "Guild" [("name", "string")] "Guild" hinside
  have haside : ∀ event ∈ guildEvents.take 2, event.IsAside :=
    List.forall_mem_cons.mpr ⟨trivial, List.forall_mem_cons.mpr ⟨trivial, List.forall_mem_nil _⟩⟩
  have hbehind : ∀ event ∈ guildEvents.drop 11, event.IsAside :=
    List.forall_mem_cons.mpr ⟨trivial, List.forall_mem_nil _⟩
  have hdocument : DocumentEvents guildEvents guild := .around haside hguild hbehind
  refine ⟨⟨hdocument, (haccepts _ _).mpr hdocument⟩, ?_, ?_, ?_⟩
  · obtain ⟨e, he, hreason⟩ := hrefuses (guildEvents.take 10) (Or.inr (Or.inr (by decide)))
    obtain ⟨reason, rfl⟩ := hreason (by decide)
    exact ⟨reason, he⟩
  · obtain ⟨e, he, hreason⟩ := hrefuses (guildEvents ++ guildEvents) (Or.inr (Or.inl (by decide)))
    obtain ⟨reason, rfl⟩ := hreason (by decide)
    exact ⟨reason, he⟩
  · have hnone : ∀ event ∈ guildEvents.take 2, ¬event.IsElement :=
      List.forall_mem_cons.mpr ⟨id, List.forall_mem_cons.mpr ⟨id, List.forall_mem_nil _⟩⟩
    obtain ⟨e, he, hreason⟩ := hrefuses (guildEvents.take 2) (Or.inl hnone)
    obtain ⟨reason, rfl⟩ := hreason (by decide)
    exact ⟨reason, he⟩

end Markup

end SchemaCompiler
