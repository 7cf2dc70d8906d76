import AgentConsole.Proofs.CommonMark.Contents
import AgentConsole.Transcript.Segment
import Mathlib.Data.List.TakeWhile

/-!
# Tidy spans

A span collects its text apart from the segments, and so the text of a document comes out
in order if its spans are tidy (`IsTidy`, `IsOrderly`).  Of any other document at least
the characters are kept, apart from spaces (`HasAll`).  Parts of an orderly document are
orderly.
-/

namespace AgentConsole.Transcript

open CommonMark

/-! ### The text of segments -/

/-- The text of a segment. -/
def Segment.content : Segment → Text
  | .text content | .code content | .codeBlock _ content | .heading _ content | .bold content
  | .italic content | .strike content | .link content _ => content
  | _ => []

/-- The text of segments, from first to last. -/
def Segment.contents (segments : List Segment) : Text := segments.flatMap Segment.content

theorem Span.content_segment (span : Span) (t : Text) : (span.segment t).content = t := by
  cases span <;> rfl

/-- What begins a span ends it. -/
theorem Span.endsWith_of_ofTag {tag : Tag} {span : Span} (h : Span.ofTag? tag = some span) :
    span.endsWith tag = true := by
  cases tag <;> cases h <;> rfl

theorem isSome_ofTag (tag : Tag) : (Span.ofTag? tag).isSome = tag.joinsLines := by
  cases tag <;> rfl

/-- The span that an event begins. -/
def Span.ofEvent? : Event → Option Span
  | .opening tag => Span.ofTag? tag
  | _ => none

/-- Is this the span that the event ends? -/
def Span.endsAt (event : Event) (span : Span) : Bool :=
  match event with
  | .closing tag => span.endsWith tag
  | _ => false

/-- Does the text between the ends of a span come out in order?  HTML would stand before
what the span has collected.  What ends a span of the same kind ends this one as well,
and line ends after that would be no spaces. -/
structure IsTidy (span : Span) (inner : List Event) : Prop where
  html : ∀ event ∈ inner, ¬ event.isHtml
  line : ∀ event ∈ inner.dropWhile (!span.endsAt ·), ¬ event.isBreak

instance (span : Span) (inner : List Event) : Decidable (IsTidy span inner) :=
  decidable_of_iff ((∀ event ∈ inner, ¬ event.isHtml) ∧
      ∀ event ∈ inner.dropWhile (!span.endsAt ·), ¬ event.isBreak)
    ⟨fun h => ⟨h.1, h.2⟩, fun h => ⟨h.html, h.line⟩⟩

/-- Is every span that begins in the events tidy? -/
def IsOrderly : List Event → Prop
  | [] => True
  | event :: rest => (∀ span ∈ Span.ofEvent? event, IsTidy span (inside 0 rest)) ∧ IsOrderly rest

instance IsOrderly.decidable : (events : List Event) → Decidable (IsOrderly events)
  | [] => inferInstanceAs (Decidable True)
  | event :: rest =>
    have := IsOrderly.decidable rest
    inferInstanceAs (Decidable ((∀ span ∈ Span.ofEvent? event, IsTidy span (inside 0 rest)) ∧ _))

/-- Has the text all characters of `whole`, in some order, apart from spaces? -/
def HasAll (t whole : Text) : Prop := ∃ lost, whole.Perm (t ++ Text.spaces lost)

/-! ### Tidy spans -/

/-- What follows the first of some elements stays, whatever is put around. -/
theorem mem_dropWhile_append {α : Type} {p : α → Bool} {a : α} {xs : List α}
    (h : a ∈ xs.dropWhile p) (front back : List α) : a ∈ (front ++ xs ++ back).dropWhile p := by
  have hback : a ∈ (xs ++ back).dropWhile p := by
    rw [List.dropWhile_append, if_neg (by simpa using List.ne_nil_of_mem h)]
    exact List.mem_append_left _ h
  rw [List.append_assoc, List.dropWhile_append]
  split
  · exact hback
  · exact List.mem_append_right _ ((List.dropWhile_suffix p).subset hback)

/-- A part of what a tidy span holds would be tidy. -/
theorem IsTidy.of_isInfix {span : Span} {xs ys : List Event} (h : IsTidy span ys)
    (hpart : xs <:+: ys) : IsTidy span xs := by
  obtain ⟨front, back, rfl⟩ := hpart
  refine ⟨fun event hevent => h.html event (by simp [hevent]), fun event hevent => ?_⟩
  exact h.line event (mem_dropWhile_append hevent front back)

namespace IsOrderly

/-- What comes first in orderly events is orderly. -/
theorem append_left {xs ys : List Event} (h : IsOrderly (xs ++ ys)) : IsOrderly xs := by
  induction xs with
  | nil => trivial
  | cons event rest ih =>
    refine ⟨fun span hspan => ?_, ih h.2⟩
    exact (h.1 span hspan).of_isInfix (inside_isPrefix rest ys 0).isInfix

theorem append_right {xs ys : List Event} (h : IsOrderly (xs ++ ys)) : IsOrderly ys := by
  induction xs with
  | nil => exact h
  | cons event rest ih => exact ih h.2

theorem of_within {tag : Tag} {events : List Event} (h : IsOrderly (Event.within tag events)) :
    IsOrderly events := append_left h.2

/-- A span in orderly events is tidy. -/
theorem isTidy {tag : Tag} {events : List Event} (h : IsOrderly (Event.within tag events))
    (hevents : IsInline events) {span : Span} (hof : Span.ofTag? tag = some span) :
    IsTidy span events := by
  rw [← inside_within hevents tag]
  exact h.1 span hof

end IsOrderly

namespace HasAll

variable {t u v : Text}

theorem of_perm (h : u.Perm t) : HasAll t u := ⟨0, by simpa [Text.spaces] using h⟩

theorem refl (t : Text) : HasAll t t := of_perm (List.Perm.refl t)

theorem trans (h : HasAll t u) (hu : HasAll u v) : HasAll t v := by
  obtain ⟨m, hm⟩ := h
  obtain ⟨n, hn⟩ := hu
  have hspaces : Text.spaces m ++ Text.spaces n = Text.spaces (m + n) :=
    List.replicate_append_replicate
  refine ⟨m + n, hn.trans ?_⟩
  rw [← hspaces, ← List.append_assoc]
  exact hm.append_right _

theorem append_right (h : HasAll t u) (v : Text) : HasAll (t ++ v) (u ++ v) := by
  obtain ⟨n, hn⟩ := h
  refine ⟨n, (hn.append_right v).trans ?_⟩
  rw [List.append_assoc, List.append_assoc]
  exact List.perm_append_comm.append_left t

end HasAll

/-- Outside of a span a line end has no text, inside it is a space. -/
theorem hasAll_content (t : Text) (event : Event) {inner outer : Bool} (h : inner → outer) :
    HasAll (t ++ event.content inner) (t ++ event.content outer) := by
  -- only a line end is written in two ways, and what is missing then is a space
  by_cases hbreak : event.isBreak
  · cases inner
    · have hempty : event.content false = [] := by
        cases event with
        | softBreak | hardBreak => rfl
        | _ => cases hbreak
      rw [hempty, List.append_nil]
      cases outer
      · rw [hempty, List.append_nil]
        exact .refl t
      · have hspace : event.content true = Text.spaces 1 := by
          cases event with
          | softBreak | hardBreak => rfl
          | _ => cases hbreak
        rw [hspace]
        exact ⟨1, List.Perm.refl _⟩
    · rw [h rfl]
      exact .refl _
  · rw [event.content_of_not_isBreak hbreak inner outer]
    exact .refl _

end AgentConsole.Transcript
