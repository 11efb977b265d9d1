import Mathlib.Data.List.Forall2

namespace WebVPN.Library

/-!
# Library — a list seen through a filter

To compare two runs of a program in which one party is present or absent, one compares two lists:
the one holds everything, the other only what concerns the observer.  `Overlay same hidden l m` says
that `l` is `m`, element by element up to `same`, with some `hidden` elements in between.

* `Overlay.map` — an update on both sides;
* `Overlay.filter` — a test that no hidden element passes selects the same elements on both sides;
  `Overlay.find?`, `Overlay.countP`, `Overlay.any`, `Overlay.filter_eq` — and so for what reads one
  element, counts, asks or lists.
-/

variable {α β γ δ : Type}

/-- The list `l` is `m` up to `same`, with some `hidden` elements in between. -/
inductive Overlay (same : α → β → Prop) (hidden : α → Prop) : List α → List β → Prop
  | nil : Overlay same hidden [] []
  | shared {a : α} {b : β} {l : List α} {m : List β} :
      same a b → Overlay same hidden l m → Overlay same hidden (a :: l) (b :: m)
  | extra {a : α} {l : List α} {m : List β} :
      hidden a → Overlay same hidden l m → Overlay same hidden (a :: l) m

namespace Overlay

variable {same : α → β → Prop} {hidden : α → Prop} {l : List α} {m : List β}

/-- An update on both sides. -/
theorem map {same' : γ → δ → Prop} {hidden' : γ → Prop} {f : α → γ} {g : β → δ}
    (h : Overlay same hidden l m) (hsame : ∀ a b, same a b → same' (f a) (g b))
    (hhidden : ∀ a, hidden a → hidden' (f a)) : Overlay same' hidden' (l.map f) (m.map g) := by
  induction h with
  | nil => exact .nil
  | shared hab _ ih => exact .shared (hsame _ _ hab) ih
  | extra ha _ ih => exact .extra (hhidden _ ha) ih

/-- An update on the side that holds everything. -/
theorem map_left {same' : γ → β → Prop} {hidden' : γ → Prop} {f : α → γ}
    (h : Overlay same hidden l m) (hsame : ∀ a b, same a b → same' (f a) b)
    (hhidden : ∀ a, hidden a → hidden' (f a)) : Overlay same' hidden' (l.map f) m := by
  have hmap := h.map (g := fun b => b) hsame hhidden
  rwa [List.map_id'] at hmap

/-- An update on the side of the observer. -/
theorem map_right {same' : α → δ → Prop} {g : β → δ} (h : Overlay same hidden l m)
    (hsame : ∀ a b, same a b → same' a (g b)) : Overlay same' hidden l (m.map g) := by
  have hmap := h.map (f := fun a => a) (g := g) hsame (fun _ ha => ha)
  rwa [List.map_id'] at hmap

theorem imp {same' : α → β → Prop} (h : Overlay same hidden l m)
    (hsame : ∀ a b, same a b → same' a b) : Overlay same' hidden l m := by
  induction h with
  | nil => exact .nil
  | shared hab _ ih => exact .shared (hsame _ _ hab) ih
  | extra ha _ ih => exact .extra ha ih

section Tests

variable {p : α → Bool} {q : β → Bool} (h : Overlay same hidden l m)
  (hsame : ∀ a b, same a b → p a = q b) (hhidden : ∀ a, hidden a → p a = false)
include h hsame hhidden

/-- **A test that no hidden element passes selects the same elements.** -/
theorem filter : List.Forall₂ same (l.filter p) (m.filter q) := by
  induction h with
  | nil => exact .nil
  | @shared a b l m hab _ ih =>
    rw [List.filter_cons, List.filter_cons, hsame a b hab]
    split
    · exact .cons hab ih
    · exact ih
  | @extra a l m ha _ ih =>
    rw [List.filter_cons, hhidden a ha]
    exact ih

/-- The first element that passes the test. -/
theorem find? : (l.find? p = none ∧ m.find? q = none) ∨
    ∃ a b, l.find? p = some a ∧ m.find? q = some b ∧ same a b := by
  rw [← List.head?_filter, ← List.head?_filter]
  have hfilter := h.filter hsame hhidden
  generalize l.filter p = selected at hfilter
  generalize m.filter q = selected' at hfilter
  cases hfilter with
  | nil => exact .inl ⟨rfl, rfl⟩
  | cons hab _ => exact .inr ⟨_, _, rfl, rfl, hab⟩

theorem countP : l.countP p = m.countP q := by
  rw [List.countP_eq_length_filter, List.countP_eq_length_filter]
  exact (h.filter hsame hhidden).length_eq

theorem any : l.any p = m.any q := by
  rw [Bool.eq_iff_iff, List.any_eq_true, List.any_eq_true, ← List.countP_pos_iff,
    ← List.countP_pos_iff, h.countP hsame hhidden]

end Tests

/-- Where `same` is equality on what passes the test, the selected lists are equal. -/
theorem filter_eq {same : α → α → Prop} {l m : List α} {p : α → Bool}
    (h : Overlay same hidden l m) (hsame : ∀ a b, same a b → p a = p b)
    (heq : ∀ a b, same a b → p a = true → a = b) (hhidden : ∀ a, hidden a → p a = false) :
    l.filter p = m.filter p := by
  induction h with
  | nil => rfl
  | @shared a b l m hab _ ih =>
    rw [List.filter_cons, List.filter_cons, ← hsame a b hab, ih]
    split
    · rename_i hp
      rw [heq a b hab hp]
    · rfl
  | @extra a l m ha _ ih =>
    rw [List.filter_cons, hhidden a ha]
    exact ih

end Overlay

end WebVPN.Library
