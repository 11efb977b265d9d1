import WebVPN.Library.System

namespace WebVPN.Library

/-!
# Library — programs that share a state

A function that talks to a shared state only through *statements* is a `Program`: the statement it
makes next, and how it goes on with the response.  The same program can be run to the end at once
(`Program.run`), which is the sequential meaning of the function, or as a thread of a `Machine`,
whose steps are single statements of any thread in any order.

* `Program.run_bind` — running a program made of two;
* `Program.Trace` — the statements a program has made, with the responses it got;
* `Program.Only` — which statements a program may make;
* `Machine.system` — the interleavings.  A thread may also fail at any statement, which then has
  taken effect or not, and the environment may change the shared state on its own;
* `Machine.run_trace` — what a thread has executed in a run is a trace of its program;
* `Machine.run_only`, `Machine.run_origin` — what a statement comes from, and what comes from one;
* `Machine.run_stable`, `Machine.run_established` — what no statement undoes.
-/

/-- A program over the statements `S`, where `R s` is the type of the responses to `s`. -/
inductive Program {S : Type} (R : S → Type) (α : Type) : Type
  | ret (a : α)
  | call (s : S) (next : R s → Program R α)

namespace Program

variable {S : Type} {R : S → Type} {α β σ : Type} {l : List ((s : S) × R s)} {p : Program R α}

/-- One program after another. -/
protected def bind : Program R α → (α → Program R β) → Program R β
  | .ret a, f => f a
  | .call s next, f => .call s fun r => (next r).bind f

instance : Monad (Program R) where
  pure := .ret
  bind := Program.bind

/-- Make one statement. -/
def perform (s : S) : Program R (R s) := .call s .ret

/-- Run a program to the end, with nothing in between. -/
def run (exec : (s : S) → σ → σ × R s) : Program R α → σ → σ × α
  | .ret a, x => (x, a)
  | .call s next, x => (next (exec s x).2).run exec (exec s x).1

@[simp] theorem run_pure (exec : (s : S) → σ → σ × R s) (a : α) (x : σ) :
    (pure a : Program R α).run exec x = (x, a) := rfl

@[simp] theorem run_perform (exec : (s : S) → σ → σ × R s) (s : S) (x : σ) :
    (perform s : Program R (R s)).run exec x = exec s x := rfl

@[simp] theorem run_bind (exec : (s : S) → σ → σ × R s) (p : Program R α) (f : α → Program R β)
    (x : σ) : (p >>= f).run exec x = (f (p.run exec x).2).run exec (p.run exec x).1 := by
  induction p generalizing x with
  | ret a => rfl
  | call s next ih => exact ih (exec s x).2 (exec s x).1

/-- The program `p` has made some statements, the earliest first, and goes on as `q`. -/
inductive Trace : Program R α → List ((s : S) × R s) → Program R α → Prop
  | refl (p : Program R α) : Trace p [] p
  | call {s : S} {next : R s → Program R α} (r : R s) {l : List ((s : S) × R s)}
      {q : Program R α} : Trace (next r) l q → Trace (.call s next) (⟨s, r⟩ :: l) q

theorem Trace.snoc {s : S} {next : R s → Program R α} (h : Trace p l (.call s next)) (r : R s) :
    Trace p (l ++ [⟨s, r⟩]) (next r) := by
  generalize hq : Program.call s next = q at h
  induction h with
  | refl p =>
    subst hq
    exact .call r (.refl _)
  | call r' _ ih => exact .call r' (ih hq)

theorem Trace.of_ret {a : α} {q : Program R α} (h : Trace (.ret a) l q) : l = [] ∧ q = .ret a := by
  cases h with
  | refl => exact ⟨rfl, rfl⟩

/-- A program that has come to its end has made its first statement. -/
theorem Trace.of_call {s : S} {next : R s → Program R α} {b : α}
    (h : Trace (.call s next) l (.ret b)) : ∃ r l', l = ⟨s, r⟩ :: l' ∧ Trace (next r) l' (.ret b) := by
  cases h with
  | call r h => exact ⟨r, _, rfl, h⟩

/-- A program that has come to a statement is at its first one, or has made it. -/
theorem Trace.to_call {s s' : S} {next : R s → Program R α} {next' : R s' → Program R α}
    (h : Trace (.call s next) l (.call s' next')) :
    (l = [] ∧ s = s') ∨ ∃ r l', l = ⟨s, r⟩ :: l' ∧ Trace (next r) l' (.call s' next') := by
  generalize hq : Program.call s' next' = q at h
  cases h with
  | refl =>
    cases hq
    exact .inl ⟨rfl, rfl⟩
  | call r h =>
    exact .inr ⟨r, _, rfl, h⟩

/-- A program that has ended comes to no further statement. -/
theorem Trace.not_to_call {a : α} {s : S} {next : R s → Program R α} :
    ¬ Trace (.ret a) l (.call s next) := by
  intro h
  cases (Trace.of_ret h).2

/-- A program made of two has come to its end: so has the first one, and then the second. -/
theorem Trace.of_bind {f : α → Program R β} {b : β} (h : Trace (p >>= f) l (.ret b)) :
    ∃ l₁ l₂ a, l = l₁ ++ l₂ ∧ Trace p l₁ (.ret a) ∧ Trace (f a) l₂ (.ret b) := by
  induction p generalizing l with
  | ret a => exact ⟨[], l, a, rfl, .refl _, h⟩
  | call s next ih =>
    obtain ⟨r, l', rfl, h'⟩ := Trace.of_call h
    obtain ⟨l₁, l₂, a, rfl, h₁, h₂⟩ := ih r h'
    exact ⟨⟨s, r⟩ :: l₁, l₂, a, rfl, .call r h₁, h₂⟩

/-- Every statement that the program may make has the property. -/
inductive Only (P : S → Prop) : Program R α → Prop
  | ret (a : α) : Only P (.ret a)
  | call {s : S} {next : R s → Program R α} : P s → (∀ r, Only P (next r)) → Only P (.call s next)

theorem Only.bind {P : S → Prop} {f : α → Program R β} (hp : p.Only P)
    (hf : ∀ a, (f a).Only P) : (p >>= f).Only P := by
  induction hp with
  | ret a => exact hf a
  | call hs _ ih => exact .call hs ih

/-- The statement that a program has come to. -/
theorem Only.of_trace {P : S → Prop} {s : S}
    {next : R s → Program R α} (hp : p.Only P) (h : Trace p l (.call s next)) : P s := by
  generalize hq : Program.call s next = q at h
  induction h with
  | refl p =>
    subst hq
    cases hp with
    | call hs _ => exact hs
  | call r _ ih =>
    cases hp with
    | call _ hnext => exact ih (hnext r) hq

end Program

/-! ### Threads -/

/-- A call and what is left of it; `none` when it has failed at a statement. -/
structure Thread {S : Type} (R : S → Type) (C A : Type) where
  call : C
  remaining : Option (Program R A)

/-- The shared state and the threads, in the order in which they were started. -/
structure Pool {S : Type} (R : S → Type) (C A σ : Type) where
  shared : σ
  threads : List (Thread R C A)

/-- What the statements do, what the calls are, and what happens besides. -/
structure Machine {S : Type} (R : S → Type) (C A E σ : Type) where
  exec : (s : S) → σ → σ × R s
  program : C → Program R A
  drift : E → σ → σ

namespace Machine

/-- A call starts, a thread goes on, a statement fails, or the state drifts. -/
inductive Action (C E : Type)
  | start (call : C)
  | step (index : Nat)
  | fault (index : Nat) (applied : Bool)
  | drift (e : E)
deriving DecidableEq

variable {S : Type} {R : S → Type} {C A E σ : Type} (m : Machine R C A E σ)

/-- One step: the observer sees which thread executed which statement, with which response. -/
def step (pool : Pool R C A σ) :
    Action C E → Option (Pool R C A σ × Option (Nat × ((s : S) × R s)))
  | .start call =>
    some ({ pool with threads := pool.threads ++ [⟨call, some (m.program call)⟩] }, none)
  | .step i =>
    match pool.threads[i]? with
    | some ⟨call, some (.call s next)⟩ =>
      some (⟨(m.exec s pool.shared).1,
          pool.threads.set i ⟨call, some (next (m.exec s pool.shared).2)⟩⟩,
        some (i, ⟨s, (m.exec s pool.shared).2⟩))
    | _ => none
  | .fault i applied =>
    match pool.threads[i]? with
    | some ⟨call, some (.call s _)⟩ =>
      if applied then
        some (⟨(m.exec s pool.shared).1, pool.threads.set i ⟨call, none⟩⟩,
          some (i, ⟨s, (m.exec s pool.shared).2⟩))
      else some (⟨pool.shared, pool.threads.set i ⟨call, none⟩⟩, none)
    | _ => none
  | .drift e => some ({ pool with shared := m.drift e pool.shared }, none)

/-- The interleavings of any number of calls. -/
def system (init : σ) :
    System (Pool R C A σ) (Action C E) (Option (Nat × ((s : S) × R s))) where
  init := ⟨init, []⟩
  step := m.step

/-- A recorded step of a machine. -/
abbrev Taken (R : S → Type) (C A E σ : Type) :=
  Transition (Pool R C A σ) (Action C E) (Option (Nat × ((s : S) × R s)))

/-- The recorded steps, the latest first. -/
abbrev History (R : S → Type) (C A E σ : Type) := List (Taken R C A E σ)

/-- The ways in which a machine can take a step. -/
inductive Step (pool : Pool R C A σ) :
    Action C E → Pool R C A σ → Option (Nat × ((s : S) × R s)) → Prop
  | started (call : C) :
      Step pool (.start call)
        { pool with threads := pool.threads ++ [⟨call, some (m.program call)⟩] } none
  | stepped (i : Nat) (call : C) (s : S) (next : R s → Program R A)
      (hi : pool.threads[i]? = some ⟨call, some (.call s next)⟩) :
      Step pool (.step i)
        ⟨(m.exec s pool.shared).1, pool.threads.set i ⟨call, some (next (m.exec s pool.shared).2)⟩⟩
        (some (i, ⟨s, (m.exec s pool.shared).2⟩))
  | faulted (i : Nat) (call : C) (s : S) (next : R s → Program R A)
      (hi : pool.threads[i]? = some ⟨call, some (.call s next)⟩) :
      Step pool (.fault i false) ⟨pool.shared, pool.threads.set i ⟨call, none⟩⟩ none
  | lost (i : Nat) (call : C) (s : S) (next : R s → Program R A)
      (hi : pool.threads[i]? = some ⟨call, some (.call s next)⟩) :
      Step pool (.fault i true) ⟨(m.exec s pool.shared).1, pool.threads.set i ⟨call, none⟩⟩
        (some (i, ⟨s, (m.exec s pool.shared).2⟩))
  | drifted (e : E) : Step pool (.drift e) { pool with shared := m.drift e pool.shared } none

variable {m} {later earlier h : History R C A E σ} {t : Taken R C A E σ} {pool pool' : Pool R C A σ}
  {i : Nat} {init : σ} {e : (s : S) × R s} {a : Action C E}

/-- **Inversion.**  Every step of a machine is one of the listed ones. -/
theorem step_cases {e : Option (Nat × ((s : S) × R s))} (h : m.step pool a = some (pool', e)) :
    m.Step pool a pool' e := by
  cases a with
  | start call =>
    cases h
    exact .started call
  | step i =>
    simp only [step] at h
    split at h
    · rename_i call s next hi
      cases h
      exact .stepped i call s next hi
    · cases h
  | fault i applied =>
    simp only [step] at h
    split at h
    · rename_i call s next hi
      cases applied with
      | true =>
        cases h
        exact .lost i call s next hi
      | false =>
        cases h
        exact .faulted i call s next hi
    · cases h
  | drift e =>
    cases h
    exact .drifted e

/-- What a step does to the shared state: a statement, or something of the environment. -/
theorem step_shared {e : Option (Nat × ((s : S) × R s))} (h : m.step pool a = some (pool', e)) :
    (∃ i s, e = some (i, ⟨s, (m.exec s pool.shared).2⟩) ∧
        pool'.shared = (m.exec s pool.shared).1) ∨
      (e = none ∧ (pool'.shared = pool.shared ∨ ∃ d, pool'.shared = m.drift d pool.shared)) := by
  cases step_cases h with
  | started call => exact .inr ⟨rfl, .inl rfl⟩
  | stepped i call s next hi => exact .inl ⟨i, s, rfl, rfl⟩
  | faulted i call s next hi => exact .inr ⟨rfl, .inl rfl⟩
  | lost i call s next hi => exact .inl ⟨i, s, rfl, rfl⟩
  | drifted e => exact .inr ⟨rfl, .inr ⟨e, rfl⟩⟩

/-! ### What a thread has executed -/

/-- The statements of a thread among those of one step. -/
def executedIn (i : Nat)
    (t : Taken R C A E σ) :
    List ((s : S) × R s) :=
  match t.event with
  | some (j, e) => if j = i then [e] else []
  | none => []

theorem executedIn_self (ht : t.event = some (i, e)) : executedIn i t = [e] := by
  rw [executedIn, ht]
  exact if_pos rfl

/-- The statements that a thread has executed, with their responses, in order. -/
def executed (h : History R C A E σ) (i : Nat) : List ((s : S) × R s) :=
  System.collect (executedIn i) h

/-- A statement that a thread has executed was executed in some step. -/
theorem mem_executed (he : e ∈ executed h i) :
    ∃ later t earlier, h = later ++ t :: earlier ∧ t.event = some (i, e) := by
  obtain ⟨t, ht, hmem⟩ := List.mem_flatMap.mp he
  obtain ⟨later, earlier, rfl⟩ := List.append_of_mem (List.mem_reverse.mp ht)
  refine ⟨later, t, earlier, rfl, ?_⟩
  unfold executedIn at hmem
  split at hmem
  · rename_i j e' hevent
    split at hmem
    · rename_i heq
      rw [hevent, heq, List.mem_singleton.mp hmem]
    · cases hmem
  · cases hmem

/-- A thread has executed the statement of each of its steps. -/
theorem executed_mem (ht : t.event = some (i, e)) : e ∈ executed (later ++ t :: earlier) i := by
  refine List.mem_flatMap.mpr ⟨t, by simp, ?_⟩
  rw [executedIn_self ht]
  exact List.mem_singleton_self e

/-- The step of the last statement that a thread has executed, and what it had executed before. -/
theorem executed_last {l : List ((s : S) × R s)} (he : executed h i = l ++ [e]) :
    ∃ later t earlier, h = later ++ t :: earlier ∧ t.event = some (i, e) ∧ executed earlier i = l := by
  induction h with
  | nil => exact absurd he.symm (List.append_ne_nil_of_right_ne_nil l (List.cons_ne_nil e []))
  | cons t h ih =>
    rw [executed, System.collect_cons] at he
    by_cases hmine : ∃ e', t.event = some (i, e')
    · obtain ⟨e', ht⟩ := hmine
      rw [executedIn_self ht] at he
      obtain ⟨hl, hlast⟩ := List.append_inj' he rfl
      cases hlast
      exact ⟨[], t, h, rfl, ht, hl⟩
    · have hnone : executedIn i t = [] := by
        unfold executedIn
        split
        · rename_i j e' ht
          refine if_neg ?_
          rintro rfl
          exact hmine ⟨e', ht⟩
        · rfl
      rw [hnone, List.append_nil] at he
      obtain ⟨later, t', earlier, rfl, ht', hl⟩ := ih he
      exact ⟨t :: later, t', earlier, rfl, ht', hl⟩

/-- A thread that has not failed has executed a trace of its program, and one that has not been
    started has executed nothing. -/
def Follows (m : Machine R C A E σ) (h : History R C A E σ) (pool : Pool R C A σ) (i : Nat) :
    Prop :=
  match pool.threads[i]? with
  | none => executed h i = []
  | some ⟨_, none⟩ => True
  | some ⟨call, some p⟩ => Program.Trace (m.program call) (executed h i) p

/-- A step of another thread. -/
theorem Follows.frame (hfollows : m.Follows h pool i)
    (hget : pool'.threads[i]? = pool.threads[i]?) (ht : executedIn i t = []) :
    m.Follows (t :: h) pool' i := by
  have hexecuted : executed (t :: h) i = executed h i := by
    rw [executed, System.collect_cons, ht, List.append_nil]
    rfl
  rw [Follows, hget, hexecuted]
  exact hfollows

/-- **A thread follows its program.** -/
theorem run_follows (hr : (m.system init).Run h pool) (i : Nat) : m.Follows h pool i := by
  refine hr.history_invariant (P := fun h pool => m.Follows h pool i) rfl ?_
  intro h pool a pool' e _ ih hs
  have hlt : ∀ {j : Nat} {thread : Thread R C A}, pool.threads[j]? = some thread →
      j < pool.threads.length := fun hj => (List.getElem?_eq_some_iff.mp hj).1
  cases step_cases hs with
  | started call =>
    by_cases hi : i < pool.threads.length
    · exact ih.frame (List.getElem?_append_left hi) rfl
    · have hnone : pool.threads[i]? = none := List.getElem?_eq_none (by omega)
      have hempty : executed h i = [] := by
        rw [Follows, hnone] at ih
        exact ih
      have hexecuted : executed (⟨pool, .start call, none⟩ :: h) i = [] := by
        rw [executed, System.collect_cons]
        exact List.append_eq_nil_iff.mpr ⟨hempty, rfl⟩
      unfold Follows
      rw [hexecuted, List.getElem?_append_right (Nat.le_of_not_lt hi), List.getElem?_singleton]
      split
      · rfl
      · rename_i hget
        split at hget <;> cases hget
      · rename_i hget
        split at hget <;> cases hget
        exact .refl _
  | stepped j call s next hj =>
    by_cases hji : j = i
    · subst hji
      have htrace : Program.Trace (m.program call) (executed h j) (.call s next) := by
        rw [Follows, hj] at ih
        exact ih
      rw [Follows, List.getElem?_set_self (hlt hj), executed, System.collect_cons]
      rw [executedIn_self rfl]
      exact htrace.snoc _
    · exact ih.frame (List.getElem?_set_ne hji) (if_neg hji)
  | faulted j call s next hj =>
    by_cases hji : j = i
    · subst hji
      rw [Follows, List.getElem?_set_self (hlt hj)]
      trivial
    · exact ih.frame (List.getElem?_set_ne hji) rfl
  | lost j call s next hj =>
    by_cases hji : j = i
    · subst hji
      rw [Follows, List.getElem?_set_self (hlt hj)]
      trivial
    · exact ih.frame (List.getElem?_set_ne hji) (if_neg hji)
  | drifted d => exact ih.frame rfl rfl

theorem run_trace (hr : (m.system init).Run h pool) {call : C} {p : Program R A}
    (hi : pool.threads[i]? = some ⟨call, some p⟩) :
    Program.Trace (m.program call) (executed h i) p := by
  have hfollows := run_follows hr i
  rw [Follows, hi] at hfollows
  exact hfollows

/-- What a statement that was executed in a run got as its response, and what it did. -/
theorem step_executed {s : S} {r : R s} (h : m.step pool a = some (pool', some (i, ⟨s, r⟩))) :
    (m.exec s pool.shared).2 = r ∧ pool'.shared = (m.exec s pool.shared).1 := by
  rcases step_shared h with ⟨j, s', he, hshared⟩ | ⟨he, -⟩
  · cases he
    exact ⟨rfl, hshared⟩
  · cases he

theorem run_executed {s : S} {r : R s} (hr : (m.system init).Run (later ++ t :: earlier) pool)
    (ht : t.event = some (i, ⟨s, r⟩)) : (m.exec s t.before.shared).2 = r := by
  obtain ⟨-, pool', hs⟩ := System.Run.split hr
  rw [ht] at hs
  exact (step_executed hs).1

/-- A statement is executed by a thread that has come to it. -/
theorem run_statement {s : S} {r : R s} (hr : (m.system init).Run (later ++ t :: earlier) pool)
    (ht : t.event = some (i, ⟨s, r⟩)) :
    ∃ call next, t.before.threads[i]? = some ⟨call, some (.call s next)⟩ ∧
      Program.Trace (m.program call) (executed earlier i) (.call s next) := by
  obtain ⟨hr', pool', hs⟩ := System.Run.split hr
  rw [ht] at hs
  generalize haction : t.action = action at hs
  cases step_cases hs with
  | stepped _ call _ next hi => exact ⟨call, next, hi, run_trace hr' hi⟩
  | lost _ call _ next hi => exact ⟨call, next, hi, run_trace hr' hi⟩

/-- A thread keeps its call. -/
theorem run_call {thread : Thread R C A} (hr : (m.system init).Run (later ++ t :: earlier) pool)
    (hi : t.before.threads[i]? = some thread) :
    ∃ thread', pool.threads[i]? = some thread' ∧ thread'.call = thread.call := by
  refine hr.stable (P := fun pool => ∃ thread', pool.threads[i]? = some thread' ∧
    thread'.call = thread.call) ?_ ⟨thread, hi, rfl⟩
  rintro pool a pool' e ⟨thread', hthread, hcall⟩ hs
  have hlt : i < pool.threads.length := (List.getElem?_eq_some_iff.mp hthread).1
  -- a step that replaces a thread leaves its call alone
  have hset : ∀ {j : Nat} {old new : Thread R C A}, pool.threads[j]? = some old →
      new.call = old.call → ∃ thread', (pool.threads.set j new)[i]? = some thread' ∧
        thread'.call = thread.call := by
    intro j old new hold hsame
    by_cases hji : j = i
    · subst hji
      cases hthread.symm.trans hold
      exact ⟨new, List.getElem?_set_self hlt, hsame.trans hcall⟩
    · exact ⟨thread', (List.getElem?_set_ne hji).trans hthread, hcall⟩
  cases step_cases hs with
  | started call => exact ⟨thread', (List.getElem?_append_left hlt).trans hthread, hcall⟩
  | stepped j call s next hj => exact hset hj rfl
  | faulted j call s next hj => exact hset hj rfl
  | lost j call s next hj => exact hset hj rfl
  | drifted d => exact ⟨thread', hthread, hcall⟩

/-- A thread executes statements that its call may make. -/
theorem run_only {x : (s : S) × R s} {call : C} {rest : Option (Program R A)} {P : C → S → Prop}
    (honly : ∀ call, (m.program call).Only (P call))
    (hr : (m.system init).Run (later ++ t :: earlier) pool) (ht : t.event = some (i, x))
    (hi : pool.threads[i]? = some ⟨call, rest⟩) : P call x.1 := by
  obtain ⟨call', next, hi', htrace⟩ := run_statement (s := x.1) (r := x.2) hr ht
  obtain ⟨thread, hthread, hcall⟩ := run_call hr hi'
  cases hi.symm.trans hthread
  have hsame : call = call' := hcall
  rw [hsame]
  exact (honly call').of_trace htrace

/-- **Origin rule.**  What did not hold at first, and no drift brings about, was brought about by a
    statement. -/
theorem run_origin {P : σ → Prop}
    {Q : (s : S) × R s → Prop} (hr : (m.system init).Run h pool) (hinit : ¬ P init)
    (hexec : ∀ s x, P (m.exec s x).1 → P x ∨ Q ⟨s, (m.exec s x).2⟩)
    (hdrift : ∀ d x, P (m.drift d x) → P x) (hP : P pool.shared) :
    ∃ later t earlier i e, h = later ++ t :: earlier ∧ t.event = some (i, e) ∧ Q e := by
  refine hr.history_invariant (P := fun h pool => P pool.shared →
    ∃ later t earlier i e, h = later ++ t :: earlier ∧ t.event = some (i, e) ∧ Q e)
    (fun hP => absurd hP hinit) ?_ hP
  intro h pool a pool' e _ ih hs hP'
  have hbefore : P pool.shared → ∃ later t earlier i e', ⟨pool, a, e⟩ :: h = later ++ t :: earlier ∧
      t.event = some (i, e') ∧ Q e' := by
    intro hP
    obtain ⟨later, t, earlier, i, e', rfl, ht, horigin⟩ := ih hP
    exact ⟨_ :: later, t, earlier, i, e', rfl, ht, horigin⟩
  rcases step_shared hs with ⟨i, s, rfl, hshared⟩ | ⟨-, hshared | ⟨d, hshared⟩⟩
  · rw [hshared] at hP'
    rcases hexec s pool.shared hP' with hP | horigin
    · exact hbefore hP
    · exact ⟨[], _, h, i, _, rfl, rfl, horigin⟩
  · rw [hshared] at hP'
    exact hbefore hP'
  · rw [hshared] at hP'
    exact hbefore (hdrift d pool.shared hP')

/-! ### What no statement undoes -/

section Stable

variable {P : σ → Prop} (hexec : ∀ s x, P x → P (m.exec s x).1)
  (hdrift : ∀ d x, P x → P (m.drift d x))
include hexec hdrift

theorem step_keeps {pool pool' : Pool R C A σ} {a : Action C E}
    {e : Option (Nat × ((s : S) × R s))} (hP : P pool.shared)
    (h : m.step pool a = some (pool', e)) : P pool'.shared := by
  rcases step_shared h with ⟨i, s, -, hshared⟩ | ⟨-, hshared | ⟨d, hshared⟩⟩
  · rw [hshared]
    exact hexec s pool.shared hP
  · rw [hshared]
    exact hP
  · rw [hshared]
    exact hdrift d pool.shared hP

/-- What held when a step was taken and no statement undoes holds at the end. -/
theorem run_stable {init : σ} {pool : Pool R C A σ} {later earlier : History R C A E σ}
    {t : Taken R C A E σ}
    (hr : (m.system init).Run (later ++ t :: earlier) pool) (hP : P t.before.shared) :
    P pool.shared :=
  hr.stable (P := fun pool => P pool.shared) (fun _ _ _ _ => step_keeps hexec hdrift) hP

/-- What a statement brings about and no statement undoes holds at the end. -/
theorem run_established {init : σ} {pool : Pool R C A σ} {later earlier : History R C A E σ}
    {t : Taken R C A E σ} {i : Nat} {s : S}
    {r : R s} (hr : (m.system init).Run (later ++ t :: earlier) pool)
    (ht : t.event = some (i, ⟨s, r⟩)) (hP : P (m.exec s t.before.shared).1) : P pool.shared := by
  refine hr.established (P := fun pool => P pool.shared)
    (fun _ _ _ _ => step_keeps hexec hdrift) ?_
  intro pool' hs
  rw [ht] at hs
  rw [(step_executed hs).2]
  exact hP

end Stable

end Machine

end WebVPN.Library
