import Mathlib.Data.List.Basic

namespace WebVPN.Library

/-!
# Library — executable transition systems and their runs

A component with several threads of control is modelled as a `System`: an initial state
and a *partial* step function that takes the action of one thread and returns the next
state together with what an observer sees.  The step function is executable, so that a
concrete schedule can be replayed (`System.exec`), and every statement about "each
reachable state" is a statement about `System.Run`.

* `System.Run h s` — the schedule recorded in `h` leads from the initial state to `s`.
  The history is kept latest transition first, and every transition remembers the state
  it was taken in, so that "the latest earlier …" is the head of a filtered history and
  a condition on steps is a condition on the members of the history.
* `System.Run.invariant` / `System.Run.invariant_under` — the induction rules: an
  invariant of every step (of every step that meets a condition) holds in every state
  reached (in every state reached by steps that meet the condition).
* `System.Run.history_invariant` — the same rule for a relation between history and state.
* `System.Run.since`, `System.Run.established`, `System.Run.stable` — what no step undoes;
  `System.order` — which of two transitions came first; `System.After` — something has happened, and
  something else before it.
* `System.Run.project` — a run of a system projects to a run of one of its components.
* `System.collect` — what the steps of a run contribute, in the order of the run.
* `System.exists_run_of_exec` — replaying a schedule yields a run; the way to exhibit a
  state that is reached, and with `System.latest` the steps that led there.
-/

variable {σ α ε : Type}

/-- A labelled transition system with an executable step function.  `step s a = none`
    means that the action `a` is not enabled in `s`. -/
structure System (σ α ε : Type) where
  init : σ
  step : σ → α → Option (σ × ε)

/-- One step of a run: the state it was taken in, the action and what was observed. -/
structure Transition (σ α ε : Type) where
  before : σ
  action : α
  event : ε

namespace System

/-- `S.Run h s`: the history `h` (latest transition first) leads from `S.init` to `s`. -/
inductive Run (S : System σ α ε) : List (Transition σ α ε) → σ → Prop
  | init : Run S [] S.init
  | step {h : List (Transition σ α ε)} {s s' : σ} {a : α} {e : ε} :
      Run S h s → S.step s a = some (s', e) → Run S (⟨s, a, e⟩ :: h) s'

/-- The states a run passes through, the last one first. -/
def visited (h : List (Transition σ α ε)) (s : σ) : List σ := s :: h.map Transition.before

variable {S : System σ α ε} {h h₁ h₂ : List (Transition σ α ε)} {s : σ} {t : Transition σ α ε}
  {P : σ → Prop}

/-- Inversion of a nonempty run: its latest transition and the run before it. -/
theorem Run.cons_inv (hr : S.Run (t :: h) s) :
    S.Run h t.before ∧ S.step t.before t.action = some (s, t.event) := by
  cases hr with
  | step hr hs => exact ⟨hr, hs⟩

/-- **Invariant rule.**  What holds initially and is kept by every step holds in every
    state reached. -/
theorem Run.invariant (hr : S.Run h s) (hinit : P S.init)
    (hstep : ∀ s a s' e, P s → S.step s a = some (s', e) → P s') : P s := by
  induction hr with
  | init => exact hinit
  | step _ hs ih => exact hstep _ _ _ _ ih hs

/-- **Invariant rule under a condition on steps.**  What holds initially and is kept by
    every step that meets `ok` holds in every state that a run of such steps passes through. -/
theorem Run.invariant_under {ok : Transition σ α ε → Prop} (hr : S.Run h s)
    (hok : ∀ t ∈ h, ok t) (hinit : P S.init)
    (hstep : ∀ t s', ok t → P t.before → S.step t.before t.action = some (s', t.event) → P s') :
    ∀ s' ∈ visited h s, P s' := by
  induction hr with
  | init => simpa [visited] using hinit
  | @step h s s' a e _ hs ih =>
    have hih := ih (fun t ht => hok t (List.mem_cons_of_mem _ ht))
    have hlast := hstep ⟨s, a, e⟩ s' (hok _ List.mem_cons_self) (hih s List.mem_cons_self) hs
    exact List.forall_mem_cons.mpr ⟨hlast, hih⟩

/-- **History invariant rule.**  A relation between history and state that holds of the
    empty run and is kept by every further step holds of every run. -/
theorem Run.history_invariant {P : List (Transition σ α ε) → σ → Prop} (hr : S.Run h s)
    (hinit : P [] S.init)
    (hstep : ∀ h s a s' e, S.Run h s → P h s → S.step s a = some (s', e) →
      P (⟨s, a, e⟩ :: h) s') : P h s := by
  induction hr with
  | init => exact hinit
  | step hr hs ih => exact hstep _ _ _ _ _ hr ih hs

/-- Every transition of a run was taken at the end of a shorter run, whose history is
    the part of the history before that transition. -/
theorem Run.split (hr : S.Run (h₁ ++ t :: h₂) s) :
    S.Run h₂ t.before ∧ ∃ s', S.step t.before t.action = some (s', t.event) := by
  induction h₁ generalizing s with
  | nil => exact ⟨(Run.cons_inv hr).1, _, (Run.cons_inv hr).2⟩
  | cons u h₁ ih => exact ih (Run.cons_inv hr).1

/-- A run up to and including one of its transitions. -/
theorem Run.upto (hr : S.Run (h₁ ++ t :: h₂) s) : ∃ s', S.Run (t :: h₂) s' := by
  obtain ⟨hr', s', hs⟩ := Run.split hr
  exact ⟨s', .step hr' hs⟩

/-- **The rule for the time since a step.**  A relation between the history since a step and the state that
    the step brings about and every step keeps holds at the end. -/
theorem Run.since {P : List (Transition σ α ε) → σ → Prop} (hr : S.Run (h₁ ++ t :: h₂) s)
    (ht : ∀ s', S.step t.before t.action = some (s', t.event) → P [] s')
    (hstep : ∀ h s a s' e, P h s → S.step s a = some (s', e) → P (⟨s, a, e⟩ :: h) s') : P h₁ s := by
  induction h₁ generalizing s with
  | nil => exact ht s (Run.cons_inv hr).2
  | cons u h₁ ih =>
    obtain ⟨hr', hs⟩ := Run.cons_inv hr
    exact hstep _ _ _ _ _ (ih hr') hs

/-- **Stability rule.**  What a step brings about and every step keeps holds at the end. -/
theorem Run.established
    (hr : S.Run (h₁ ++ t :: h₂) s) (hstep : ∀ s a s' e, P s → S.step s a = some (s', e) → P s')
    (ht : ∀ s', S.step t.before t.action = some (s', t.event) → P s') : P s :=
  hr.since (P := fun _ s => P s) ht (fun _ s a s' e hs => hstep s a s' e hs)

/-- What held when a step was taken and every step keeps holds at the end. -/
theorem Run.stable
    (hr : S.Run (h₁ ++ t :: h₂) s) (hstep : ∀ s a s' e, P s → S.step s a = some (s', e) → P s')
    (ht : P t.before) : P s :=
  hr.established hstep (fun s' hs => hstep _ _ s' _ ht hs)

/-- `P` has happened, and what came before it satisfies `Q`. -/
def After (P : Transition σ α ε → Prop) (Q : List (Transition σ α ε) → Prop)
    (h : List (Transition σ α ε)) : Prop :=
  ∃ later t earlier, h = later ++ t :: earlier ∧ P t ∧ Q earlier

section After

variable {P : Transition σ α ε → Prop} {Q : List (Transition σ α ε) → Prop} {t : Transition σ α ε}

theorem After.now (ht : P t) (hQ : Q h) : After P Q (t :: h) := ⟨[], t, h, rfl, ht, hQ⟩

theorem After.later (hafter : After P Q h) : After P Q (t :: h) := by
  obtain ⟨later, u, earlier, rfl, hu⟩ := hafter
  exact ⟨t :: later, u, earlier, rfl, hu⟩

end After

/-- Of two transitions of a history one comes before the other, or they are the same one. -/
theorem order {h₁ h₂ h₁' h₂' : List (Transition σ α ε)} {t t' : Transition σ α ε}
    (h : h₁ ++ t :: h₂ = h₁' ++ t' :: h₂') :
    (∃ m, h₂ = m ++ t' :: h₂') ∨ (t = t' ∧ h₂ = h₂') ∨ ∃ m, h₂' = m ++ t :: h₂ := by
  rcases List.append_eq_append_iff.mp h with ⟨m, -, hm⟩ | ⟨m, -, hm⟩
  · cases m with
    | nil =>
      obtain ⟨rfl, rfl⟩ := List.cons.inj hm
      exact .inr (.inl ⟨rfl, rfl⟩)
    | cons u m => exact .inl ⟨m, (List.cons.inj hm).2⟩
  · cases m with
    | nil =>
      obtain ⟨rfl, rfl⟩ := List.cons.inj hm
      exact .inr (.inl ⟨rfl, rfl⟩)
    | cons u m => exact .inr (.inr ⟨m, (List.cons.inj hm).2⟩)

/-- **Projection rule.**  If every step either leaves a component alone or is a step of it, then
    the steps of the component, taken out of a run, are a run of the component. -/
theorem Run.project {τ β δ : Type} {T : System τ β δ} (component : σ → τ)
    (part : Transition σ α ε → Option (Transition τ β δ)) (hr : S.Run h s)
    (hinit : component S.init = T.init)
    (hnone : ∀ t s', S.step t.before t.action = some (s', t.event) → part t = none →
      component s' = component t.before)
    (hsome : ∀ t s' u, S.step t.before t.action = some (s', t.event) → part t = some u →
      u.before = component t.before ∧ T.step u.before u.action = some (component s', u.event)) :
    T.Run (h.filterMap part) (component s) := by
  induction hr with
  | init =>
    rw [hinit]
    exact .init
  | @step h s s' a e hr hs ih =>
    cases hpart : part ⟨s, a, e⟩ with
    | none =>
      rw [List.filterMap_cons_none hpart, hnone ⟨s, a, e⟩ s' hs hpart]
      exact ih
    | some u =>
      obtain ⟨hbefore, hstep⟩ := hsome ⟨s, a, e⟩ s' u hs hpart
      rw [List.filterMap_cons_some hpart]
      obtain ⟨before, action, event⟩ := u
      subst hbefore
      exact .step ih hstep

/-- What the transitions of a history contribute, the earliest first. -/
def collect {β : Type} (f : Transition σ α ε → List β) (h : List (Transition σ α ε)) : List β :=
  h.reverse.flatMap f

@[simp] theorem collect_cons {β : Type} (f : Transition σ α ε → List β) (t : Transition σ α ε)
    (h : List (Transition σ α ε)) : collect f (t :: h) = collect f h ++ f t := by
  simp [collect]

/-- Run a schedule from a given state, recording the history. -/
def execFrom (S : System σ α ε) :
    List (Transition σ α ε) → σ → List α → Option (List (Transition σ α ε) × σ)
  | h, s, [] => some (h, s)
  | h, s, a :: rest =>
    match S.step s a with
    | none => none
    | some (s', e) => execFrom S (⟨s, a, e⟩ :: h) s' rest

/-- Run a schedule from the initial state. -/
def exec (S : System σ α ε) (schedule : List α) : Option (List (Transition σ α ε) × σ) :=
  execFrom S [] S.init schedule

theorem execFrom_run {h h' : List (Transition σ α ε)} {s s' : σ} {schedule : List α}
    (hr : S.Run h s) (he : S.execFrom h s schedule = some (h', s')) : S.Run h' s' := by
  induction schedule generalizing h s with
  | nil =>
    simp only [execFrom, Option.some.injEq, Prod.mk.injEq] at he
    obtain ⟨rfl, rfl⟩ := he
    exact hr
  | cons a rest ih =>
    simp only [execFrom] at he
    split at he
    · cases he
    · rename_i s₁ e hs
      exact ih (Run.step hr hs) he

/-- Replaying a schedule yields a run. -/
theorem exec_run {h : List (Transition σ α ε)} {s : σ} {schedule : List α}
    (he : S.exec schedule = some (h, s)) : S.Run h s :=
  execFrom_run Run.init he

/-- A schedule whose replay passes a check exhibits a run that passes it. -/
theorem exists_run_of_exec {P : List (Transition σ α ε) → σ → Bool} (schedule : List α)
    (hc : (S.exec schedule).any (fun r => P r.1 r.2) = true) :
    ∃ h s, S.Run h s ∧ P h s = true := by
  cases he : S.exec schedule with
  | none => simp [he] at hc
  | some r =>
    rw [he] at hc
    exact ⟨r.1, r.2, exec_run he, by simpa using hc⟩

/-- A check of the latest transition and of what came before it. -/
def latest (P : Transition σ α ε → List (Transition σ α ε) → Bool) : List (Transition σ α ε) → Bool
  | [] => false
  | t :: h => P t h

theorem exists_of_latest {P : Transition σ α ε → List (Transition σ α ε) → Bool}
    (hc : latest P h = true) : ∃ t earlier, h = t :: earlier ∧ P t earlier = true := by
  cases h with
  | nil => cases hc
  | cons t earlier => exact ⟨t, earlier, rfl, hc⟩

end System

/-- The threads of a list after one of them was replaced. -/
theorem getElem?_set_cases {α : Type} {l : List α} {i j : Nat} {y z : α} (h : (l.set i y)[j]? = some z) :
    (j = i ∧ z = y) ∨ (j ≠ i ∧ l[j]? = some z) := by
  rw [List.getElem?_set] at h
  split at h
  · rename_i hij
    split at h
    · exact .inl ⟨hij.symm, (Option.some.inj h).symm⟩
    · cases h
  · rename_i hij
    exact .inr ⟨Ne.symm hij, h⟩

end WebVPN.Library
