import Mathlib.Data.List.Pairwise
import WebVPN.Session.TemporaryLease
import WebVPN.Session.View

namespace WebVPN.Session

open WebVPN.Library WebVPN.Catalog WebVPN.Storage WebVPN.Storage.Store

/-!
# Session — login sessions do not interfere

A run of the store is compared with the run in which the operations of all other login sessions are
left out.

* `Action.without` — an operation of another login session is replaced by the time it takes;
* `State.step_sees` — one operation keeps the view of `u`, and returns the same if it is not left out;
* `run_noninterference` — the results of `u` are the same in both runs;
* `run_interferes` — which needs that no persistent service is given the slug of a temporary service
  of another login session: slugs are unique, so its creation would fail in one of the runs.
-/

/-! ### Leaving out the others -/

namespace Action

/-- The login session that makes an operation. -/
def digest? : Action → Option Digest
  | .createTemporary owner _ _ _ => some owner
  | .authorizedService _ owner => some owner
  | .temporaryServiceBySlug _ owner => some owner
  | .revokeTemporaryServices owner => some owner
  | .create userDigest _ _ _ _ => some userDigest
  | .lookup _ userDigest _ => some userDigest
  | .revoke _ userDigest => some userDigest
  | .revokeAll userDigest => some userDigest
  | .advance _ => none
  | .createService _ _ => none
  | .listServices => none

/-- The operation is made by another login session. -/
def ofOther (u : Digest) (a : Action) : Bool := a.digest?.any (fun v => v ≠ u)

/-- Leave an operation of another login session out; its time passes all the same. -/
def without (u : Digest) (a : Action) : Action :=
  if a.ofOther u then .advance a.elapsed else a

/-- What an operation draws at random. -/
def drawn (sha256 : List UInt8 → Digest) : Action → List Drawn
  | .createService _ raw => [.serviceID (randomID raw)]
  | .createTemporary _ _ raw rawSlug =>
    [.serviceID (randomID raw), .slug (randomTemporarySlug rawSlug)]
  | .create _ _ raw rawToken _ => [.sessionID (randomID raw), .token (newToken sha256 rawToken).2]
  | _ => []

end Action

section Steps

variable (sha256 : List UInt8 → Digest) (u : Digest) (foreign : Drawn → Prop)

/-- The others draw from `foreign`, and nobody else does; nor is it the slug of a persistent
    service. -/
structure Fits (a : Action) : Prop where
  other : a.ofOther u = true → ∀ d ∈ a.drawn sha256, foreign d
  own : a.ofOther u = false → ∀ d ∈ a.drawn sha256, ¬ foreign d
  slug : ∀ request raw, a = .createService request raw → ¬ foreign (.slug request.slug)

/-- The state `t` is what `u` sees of the state `s`. -/
def Sees (s t : State) : Prop := s.clock = t.clock ∧ View u foreign s.clock s.store t.store

variable {sha256 u foreign} {s t : State} {a : Action}

theorem step_clock_eq (s : State) (a : Action) :
    (s.step sha256 a).1.clock = s.clock + a.elapsed :=
  State.step_clock Prod.mk.eta.symm

/-- An operation that is left out. -/
theorem Sees.step_other (h : Sees u foreign s t) (hother : a.ofOther u = true)
    (hfits : Fits sha256 u foreign a) :
    Sees u foreign (s.step sha256 a).1 (t.step sha256 (.advance a.elapsed)).1 := by
  obtain ⟨hclock, hview⟩ := h
  have hdrawn := hfits.other hother
  obtain ⟨v, hdigest, hne⟩ := (Option.any_eq_true _ _).mp hother
  have hv : v ≠ u := of_decide_eq_true hne
  refine ⟨?_, ?_⟩
  · rw [step_clock_eq, step_clock_eq, hclock]
    rfl
  cases a with
  | createTemporary owner request raw rawSlug =>
    cases hdigest
    exact hview.createTemporaryOther hv request raw rawSlug (hdrawn _ (by simp [Action.drawn]))
      (hdrawn _ (by simp [Action.drawn]))
  | authorizedService serviceID owner =>
    cases hdigest
    exact hview.authorizedOther hv serviceID
  | temporaryServiceBySlug slug owner =>
    cases hdigest
    exact hview.bySlugOther hv slug
  | revokeTemporaryServices owner =>
    cases hdigest
    exact hview.revokeServicesOther hv
  | create userDigest serviceID raw rawToken delay =>
    cases hdigest
    have hcreated := hview.createOther hv sha256 serviceID raw rawToken (s.clock + delay)
      (hdrawn _ (by simp [Action.drawn])) (hdrawn _ (by simp [Action.drawn]))
    have hlater : s.clock ≤ s.clock + delay := by omega
    exact hcreated.mono hlater
  | lookup id userDigest token =>
    cases hdigest
    exact hview.lookupOther hv sha256 id token
  | revoke id userDigest =>
    cases hdigest
    exact hview.revokeSessionOther hv id s.clock
  | revokeAll userDigest =>
    cases hdigest
    exact hview.revokeSessionsOther hv s.clock
  | advance duration => cases hdigest
  | createService request raw => cases hdigest
  | listServices => cases hdigest

/-- An operation that is not left out. -/
theorem Sees.step_own (h : Sees u foreign s t) (hown : a.ofOther u = false)
    (hfits : Fits sha256 u foreign a) :
    (t.step sha256 a).2 = (s.step sha256 a).2 ∧
      Sees u foreign (s.step sha256 a).1 (t.step sha256 a).1 := by
  obtain ⟨hclock, hview⟩ := h
  have hdrawn := hfits.own hown
  have hclock' : (s.step sha256 a).1.clock = (t.step sha256 a).1.clock := by
    rw [step_clock_eq, step_clock_eq, hclock]
  have hmine : ∀ v, a.digest? = some v → v = u := by
    intro v hv
    rw [Action.ofOther, hv, Option.any_some, decide_eq_false_iff_not, not_not] at hown
    exact hown
  obtain ⟨clock, store⟩ := t
  subst hclock
  suffices hstep : (State.step sha256 ⟨s.clock, store⟩ a).2 = (s.step sha256 a).2 ∧
      View u foreign (s.step sha256 a).1.clock (s.step sha256 a).1.store
        (State.step sha256 ⟨s.clock, store⟩ a).1.store from ⟨hstep.1, hclock', hstep.2⟩
  cases a with
  | advance duration => exact ⟨rfl, hview.mono (by simp only [State.step]; omega)⟩
  | createService request raw =>
    obtain ⟨houtcome, hview'⟩ := hview.createService request raw
      (hdrawn _ (by simp [Action.drawn])) (hfits.slug request raw rfl)
    simp only [State.step, State.after, houtcome, true_and]
    exact hview'
  | createTemporary owner request raw rawSlug =>
    obtain rfl := hmine owner rfl
    obtain ⟨houtcome, hview'⟩ := hview.createTemporary request raw rawSlug
      (hdrawn _ (by simp [Action.drawn])) (hdrawn _ (by simp [Action.drawn]))
    simp only [State.step, State.after, houtcome, true_and]
    exact hview'
  | authorizedService serviceID owner =>
    obtain rfl := hmine owner rfl
    have houtcome := hview.authorized_outcome serviceID
    simp only [State.step, State.after, houtcome, true_and]
    exact hview.authorized serviceID
  | temporaryServiceBySlug slug owner =>
    obtain rfl := hmine owner rfl
    obtain ⟨houtcome, hview'⟩ := hview.bySlug slug
    simp only [State.step, State.after, houtcome, true_and]
    exact hview'
  | revokeTemporaryServices owner =>
    obtain rfl := hmine owner rfl
    exact ⟨rfl, hview.revokeServices⟩
  | listServices =>
    simp only [State.step, State.after, hview.listServices_eq, true_and]
    exact hview
  | create userDigest serviceID raw rawToken delay =>
    obtain rfl := hmine userDigest rfl
    obtain ⟨houtcome, hview'⟩ := hview.create sha256 serviceID raw rawToken (s.clock + delay)
      (hdrawn _ (by simp [Action.drawn])) (hdrawn _ (by simp [Action.drawn]))
    have haccess := hview.authorized_outcome serviceID
    have hlater : s.clock ≤ s.clock + delay := by omega
    simp only [State.step, State.after, houtcome, haccess, true_and]
    exact hview'.mono hlater
  | lookup id userDigest token =>
    obtain rfl := hmine userDigest rfl
    obtain ⟨houtcome, haccess, hview'⟩ := hview.lookup sha256 id token
    simp only [State.step, State.after, houtcome, haccess, true_and]
    exact hview'
  | revoke id userDigest =>
    obtain rfl := hmine userDigest rfl
    obtain ⟨houtcome, hview'⟩ := hview.revokeSession id s.clock
    simp only [State.step, State.after, houtcome, true_and]
    exact hview'
  | revokeAll userDigest =>
    obtain rfl := hmine userDigest rfl
    exact ⟨rfl, hview.revokeSessions s.clock⟩

/-- **One operation**, made in the one run and made or left out in the other. -/
theorem State.step_sees (h : Sees u foreign s t) (hfits : Fits sha256 u foreign a) :
    (a.ofOther u = false → (t.step sha256 (a.without u)).2 = (s.step sha256 a).2) ∧
      Sees u foreign (s.step sha256 a).1 (t.step sha256 (a.without u)).1 := by
  cases hother : a.ofOther u with
  | true =>
    rw [Action.without, if_pos hother]
    exact ⟨nofun, h.step_other hother hfits⟩
  | false =>
    have hown := h.step_own hother hfits
    rw [Action.without, if_neg (by rw [hother]; exact nofun)]
    exact ⟨fun _ => hown.1, hown.2⟩

end Steps

/-! ### Runs -/

section Runs

variable {sha256 : List UInt8 → Digest} {agents : Table AgentRow.id} {start : Int} {u : Digest}
  {h : List (Transition State Action Event)} {s : State}

/-- The two runs side by side. -/
theorem run_sees {foreign : Drawn → Prop} (hr : (storeSystem sha256 agents start).Run h s)
    (hfits : ∀ t ∈ h, Fits sha256 u foreign t.action) :
    ∃ h' s', (storeSystem sha256 agents start).Run h' s' ∧
      List.Forall₂ (fun t t' => t'.action = t.action.without u ∧
        (t.action.ofOther u = false → t'.event = t.event)) h h' ∧ Sees u foreign s s' := by
  induction hr with
  | init =>
    refine ⟨[], (storeSystem sha256 agents start).init, .init, .nil, rfl, rfl, ?_, ?_⟩
    · exact .nil
    · exact .nil
  | @step h s s₁ a e hr hs ih =>
    obtain ⟨h', s', hr', hsame, hsees⟩ := ih (fun t ht => hfits t (List.mem_cons_of_mem _ ht))
    obtain ⟨hevent, hsees'⟩ := State.step_sees hsees (hfits _ List.mem_cons_self)
    rw [storeSystem_step hs] at hevent hsees'
    refine ⟨⟨s', a.without u, (s'.step sha256 (a.without u)).2⟩ :: h',
      (s'.step sha256 (a.without u)).1, .step hr' rfl, .cons ⟨rfl, hevent⟩ hsame, hsees'⟩

/-- The random values of a run are all different. -/
def Distinct (sha256 : List UInt8 → Digest) (actions : List Action) : Prop :=
  (actions.flatMap (Action.drawn sha256)).Nodup

/-- No persistent service asks for the slug that was drawn for a temporary service of another login
    session. -/
def SlugsApart (u : Digest) (actions : List Action) : Prop :=
  ∀ request raw, Action.createService request raw ∈ actions →
    ∀ v request' raw' rawSlug, Action.createTemporary v request' raw' rawSlug ∈ actions → v ≠ u →
      request.slug ≠ randomTemporarySlug rawSlug

/-- What the others draw in a run. -/
def drawnByOthers (sha256 : List UInt8 → Digest) (u : Digest) (actions : List Action) (d : Drawn) :
    Prop :=
  ∃ a ∈ actions, a.ofOther u = true ∧ d ∈ a.drawn sha256

theorem fits_of_distinct {actions : List Action} (hdistinct : Distinct sha256 actions)
    (hslugs : SlugsApart u actions) {a : Action} (ha : a ∈ actions) :
    Fits sha256 u (drawnByOthers sha256 u actions) a := by
  obtain ⟨-, hpairwise⟩ := List.nodup_flatMap.mp hdistinct
  refine ⟨fun hother d hd => ⟨a, ha, hother, hd⟩, ?_, ?_⟩
  · rintro hown d hd ⟨b, hb, hother, hd'⟩
    have hne : a ≠ b := by
      rintro rfl
      rw [hown] at hother
      cases hother
    have hsymm : Std.Symm (Function.onFun List.Disjoint (Action.drawn sha256)) :=
      ⟨fun _ _ hdisjoint _ hd hd' => hdisjoint hd' hd⟩
    exact hpairwise.forall ha hb hne hd hd'
  · rintro request raw rfl ⟨b, hb, hother, hd⟩
    cases b with
    | createTemporary v request' raw' rawSlug =>
      have hv : v ≠ u := by simpa [Action.ofOther, Action.digest?] using hother
      have hslug : request.slug = randomTemporarySlug rawSlug := by
        simpa [Action.drawn] using hd
      exact hslugs request raw ha v request' raw' rawSlug hb hv hslug
    | createService request' raw' => simp [Action.drawn] at hd
    | create userDigest serviceID raw' rawToken delay => simp [Action.drawn] at hd
    | _ => cases hd

/-- **Login sessions do not interfere.**  Leaving the operations of all other login sessions out of a
    run changes the result of none of the operations that remain, provided that the random values
    are different and that no persistent service takes the slug of a temporary service of another
    login session. -/
theorem run_noninterference (u : Digest) (hr : (storeSystem sha256 agents start).Run h s)
    (hdistinct : Distinct sha256 (h.map Transition.action))
    (hslugs : SlugsApart u (h.map Transition.action)) :
    ∃ h' s', (storeSystem sha256 agents start).Run h' s' ∧
      List.Forall₂ (fun t t' => t'.action = t.action.without u ∧
        (t.action.ofOther u = false → t'.event = t.event)) h h' := by
  obtain ⟨h', s', hr', hsame, -⟩ := run_sees (u := u) hr
    (fun t ht => fits_of_distinct hdistinct hslugs (List.mem_map_of_mem ht))
  exact ⟨h', s', hr', hsame⟩

end Runs

/-! ### Two users at work

One user has a temporary service and a session, the other opens a session for a persistent one. -/

/-- Another user. -/
def otherOwner : Digest := Vector.replicate 32 2

/-- Two users open a session each, one of them for a service with this slug. -/
def twoUsers (slug : String) : List Action :=
  [.createTemporary sampleOwner ⟨sampleService.agentID, "lab", "http"⟩ (Vector.replicate 16 1)
      (Vector.replicate 16 2),
    .createService ⟨sampleService.agentID, slug, "wiki", "http", "wiki"⟩ (Vector.replicate 16 3),
    .create sampleOwner sampleService.id (Vector.replicate 16 4) (Vector.replicate 32 0) 0,
    .create otherOwner (randomID (Vector.replicate 16 3)) (Vector.replicate 16 5)
      (Vector.replicate 32 255) 0]

theorem run_noninterference_of_twoUsers :
    ∃ h s h' s', (storeSystem sampleHash sampleAgents 0).Run h s ∧
    h.map Transition.action = (twoUsers "wiki").reverse ∧
    (storeSystem sampleHash sampleAgents 0).Run h' s' ∧
      List.Forall₂ (fun t t' => t'.action = t.action.without otherOwner ∧
        (t.action.ofOther otherOwner = false → t'.event = t.event)) h h' := by
  obtain ⟨h, s, hr, hc⟩ := System.exists_run_of_exec (S := storeSystem sampleHash sampleAgents 0)
    (P := fun h _ => decide (h.map Transition.action = (twoUsers "wiki").reverse)) (twoUsers "wiki")
    (by decide +kernel)
  have hactions := of_decide_eq_true hc
  have hdistinct : Distinct sampleHash (twoUsers "wiki").reverse := by
    unfold Distinct
    decide +kernel
  have hslugs : SlugsApart otherOwner (twoUsers "wiki").reverse := by
    intro request raw hmem v request' raw' rawSlug hmem' _
    simp only [twoUsers, List.mem_reverse, List.mem_cons, Action.createService.injEq, reduceCtorEq,
      List.not_mem_nil, or_false, false_or, Action.createTemporary.injEq] at hmem hmem'
    rw [hmem.1, hmem'.2.2.2]
    decide +kernel
  obtain ⟨h', s', hr', hsame⟩ :=
    run_noninterference otherOwner hr (hactions ▸ hdistinct) (hactions ▸ hslugs)
  exact ⟨h, s, h', s', hr, hactions, hr', hsame⟩

/-- Without the condition on slugs there is interference: the slug of the persistent service is that
    of a temporary service of somebody else, so it is created only if that user is left out. -/
theorem run_interferes :
    ∃ h s h' s', (storeSystem sampleHash sampleAgents 0).Run h s ∧
    Distinct sampleHash (h.map Transition.action) ∧
    (storeSystem sampleHash sampleAgents 0).Run h' s' ∧
    h'.map Transition.action = h.map (fun t => t.action.without otherOwner) ∧
    ∃ t t', h.head? = some t ∧ h'.head? = some t' ∧ t.action.digest? = some otherOwner ∧
      t'.event ≠ t.event := by
  -- the last operation is that of the user: it fails in one run and succeeds in the other
  obtain ⟨h, s, hr, hc⟩ := System.exists_run_of_exec (S := storeSystem sampleHash sampleAgents 0)
    (P := fun h _ => decide (h.map Transition.action = (twoUsers sampleService.slug).reverse) &&
      h.head?.any (fun t => (t.event.session?).isNone))
    (twoUsers sampleService.slug) (by decide +kernel)
  obtain ⟨h', s', hr', hc'⟩ := System.exists_run_of_exec
    (S := storeSystem sampleHash sampleAgents 0)
    (P := fun h _ => decide (h.map Transition.action =
        ((twoUsers sampleService.slug).map (Action.without otherOwner)).reverse) &&
      h.head?.any (fun t => (t.event.session?).isSome))
    ((twoUsers sampleService.slug).map (Action.without otherOwner)) (by decide +kernel)
  rw [Bool.and_eq_true, decide_eq_true_eq] at hc hc'
  obtain ⟨hactions, hhead⟩ := hc
  obtain ⟨hactions', hhead'⟩ := hc'
  obtain ⟨t, ht, hfailed⟩ := (Option.any_eq_true _ _).mp hhead
  obtain ⟨t', ht', hcreated⟩ := (Option.any_eq_true _ _).mp hhead'
  refine ⟨h, s, h', s', hr, ?_, hr', ?_, t, t', ht, ht', ?_, ?_⟩
  · rw [hactions]
    unfold Distinct
    decide +kernel
  · rw [hactions', ← List.map_reverse, ← hactions, List.map_map]
    rfl
  · have hlast : (h.map Transition.action).head? = some t.action := by
      rw [List.head?_map, ht]
      rfl
    rw [hactions] at hlast
    rw [← Option.some.inj hlast]
    rfl
  · intro heq
    rw [heq] at hcreated
    rw [Option.isNone_iff_eq_none.mp hfailed] at hcreated
    cases hcreated

end WebVPN.Session
