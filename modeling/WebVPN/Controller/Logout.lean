import WebVPN.Controller.Restart

namespace WebVPN.Controller

open WebVPN.Library WebVPN.Storage WebVPN.Storage.Store

/-!
# Controller — what a logout leaves behind

A logout revokes the browser sessions and the temporary services in the store.  The offers
that wait in the broker stay where they are: an Agent that asks for its next offer gets them
until they expire.

* `BeginsLogout`, `EndsLogout` — the two steps of a logout;
* `run_logout` — if all offers of the browser have been handed out or have expired when the
  logout returns, none of them is handed out afterwards;
* `offered_after_logout` — otherwise one may be.
-/

/-- The step in which logout `i` begins, for a session digest. -/
def BeginsLogout (t : Transition Server Action Event) (i : Nat) (sessionDigest : Digest) : Prop :=
  t.action = .logout sessionDigest ∧ t.before.logouts.length = i

/-- The step in which logout `i` returns with success. -/
def EndsLogout (t : Transition Server Action Event) (i : Nat) : Prop :=
  t.action = .finishLogout i ∧ t.event.response = some .noContent

/-- In the history `since`, after which the clock shows `now`: every offer that was created for
    the browser in `before` has been handed out or has expired. -/
def Withdrawn (before since : History) (sessionDigest : Digest) (now : Int) : Prop :=
  ∀ request id created, .created request id created ∈ signals before →
    request.userDigest = sessionDigest →
    (signals since).any (Signaling.Event.offers id) = true ∨ created + Signaling.sessionTTL ≤ now

section Logout

variable {u : Unicode} {sha256 : List UInt8 → Digest} {agents : Table AgentRow.id} {start : Int}
  {h earlier : History} {c : Server} {t : Transition Server Action Event}

/-- What the broker did first stays what it did first. -/
theorem signals_suffix (hsuffix : earlier <:+ h) : signals earlier <:+ signals h :=
  (hsuffix.filterMap brokerPart).map Transition.event

/-- The clock never goes back. -/
theorem run_clock_le {later earlier : History}
    (hr : (controllerSystem u sha256 agents start).Run (later ++ t :: earlier) c) :
    t.before.broker.clock ≤ c.broker.clock := by
  have hstep : ∀ {c c' : Server} {a : Action} {e : Event},
      (controllerSystem u sha256 agents start).step c a = some (c', e) →
      c.broker.clock ≤ c'.broker.clock := by
    intro c c' a e h
    cases Server.step_move h with
    | response _ hbroker _ => rw [hbroker]
    | session hstep _ _ => exact Session.State.step_clock_le hstep
    | signal _ _ hclock _ _ => exact hclock.ge
  induction later generalizing c with
  | nil => exact hstep (System.Run.cons_inv hr).2
  | cons v later ih =>
    obtain ⟨hr', hs⟩ := System.Run.cons_inv hr
    exact (ih hr').trans (hstep hs)

/-- What is known of the broker at the end of a run, from what it did. -/
theorem run_accounted (hr : (controllerSystem u sha256 agents start).Run h c)
    (hids : ((signals h).filterMap Signaling.Event.drawnID).Nodup) :
    Signaling.Accounted u (signals h) c.broker :=
  Signaling.run_accounted (run_broker hr) hids

/-- IDs that are distinct in a run are distinct in its beginning. -/
theorem drawnID_nodup_of_suffix (hsuffix : earlier <:+ h)
    (hids : ((signals h).filterMap Signaling.Event.drawnID).Nodup) :
    ((signals earlier).filterMap Signaling.Event.drawnID).Nodup :=
  hids.sublist ((signals_suffix hsuffix).sublist.filterMap _)

/-- When the broker hands out an offer, that offer is alive and has not been handed out before. -/
theorem run_offered {operation : Signaling.Action} {agentID : String} {offer : Signaling.Offer}
    {now : Int} (hr : (controllerSystem u sha256 agents start).Run (t :: earlier) c)
    (hids : ((signals (t :: earlier)).filterMap Signaling.Event.drawnID).Nodup)
    (hsignal : t.event.signal = some (operation, .offered agentID offer now)) :
    now = t.before.broker.clock ∧ (signals earlier).any (Signaling.Event.offers offer.id) = false ∧
      ∀ request created, .created request offer.id created ∈ signals earlier →
        now < created + Signaling.sessionTTL := by
  obtain ⟨hr', hstep⟩ := System.Run.cons_inv hr
  have haccounted := run_accounted hr' (drawnID_nodup_of_suffix (List.suffix_cons t earlier) hids)
  have heffect := (Signaling.Broker.step_effect
    ((Server.step_move hstep).signal_step hsignal)).1
  obtain ⟨-, hnew, request, created, hlive, -⟩ := heffect.routed haccounted
  refine ⟨?_, hnew, ?_⟩
  · generalize c.broker.sessions = sessions, c.broker.creating = creating at heffect
    cases heffect with
    | silent hnow => cases hnow
    | offered => rfl
  · intro request' created' hcreated
    obtain ⟨-, rfl⟩ := haccounted.created_unique _ _ _ _ _ hcreated hlive.1.mem
    exact hlive.2

/-- **A logout with nothing left to withdraw.**  If every offer that was created for the browser
    before its logout began has been handed out or has expired when the logout returns, then no
    such offer is handed out afterwards.  This holds of any step that begins and any later one
    that ends a period: the broker does not know of logouts. -/
theorem run_logout {later between earlier : History} {begins ends : Transition Server Action Event}
    {sessionDigest : Digest}
    (hr : (controllerSystem u sha256 agents start).Run
      (later ++ ends :: (between ++ begins :: earlier)) c)
    (hids : ((signals (later ++ ends :: (between ++ begins :: earlier))).filterMap
      Signaling.Event.drawnID).Nodup)
    (hwithdrawn : Withdrawn earlier (between ++ begins :: earlier) sessionDigest
      ends.before.broker.clock) :
    ∀ t ∈ later, ∀ operation agentID offer now,
      t.event.signal = some (operation, .offered agentID offer now) →
      ∀ request created, .created request offer.id created ∈ signals earlier →
        request.userDigest ≠ sessionDigest := by
  intro t ht operation agentID offer now hsignal request created hcreated huser
  obtain ⟨after, before, rfl⟩ := List.append_of_mem ht
  rw [List.append_assoc, List.cons_append] at hr hids
  obtain ⟨c', hr'⟩ := System.Run.upto hr
  obtain ⟨rfl, hnew, hlive⟩ :=
    run_offered hr' (drawnID_nodup_of_suffix (List.suffix_append _ _) hids) hsignal
  have hsuffix : between ++ begins :: earlier <:+
      before ++ ends :: (between ++ begins :: earlier) :=
    (List.suffix_cons _ _).trans (List.suffix_append _ _)
  have hsuffix' : earlier <:+ between ++ begins :: earlier :=
    (List.suffix_cons _ _).trans (List.suffix_append _ _)
  rcases hwithdrawn request offer.id created hcreated huser with hoffered | hexpired
  · -- an offer is handed out only once
    obtain ⟨e, he, hoffers⟩ := List.any_eq_true.mp hoffered
    have hany := List.any_eq_true.mpr ⟨e, (signals_suffix hsuffix).subset he, hoffers⟩
    rw [hnew] at hany
    cases hany
  · -- time has not gone back since the logout returned
    have hclock := run_clock_le (System.Run.cons_inv hr').1
    have hlt := hlive request created ((signals_suffix (hsuffix'.trans hsuffix)).subset hcreated)
    omega

end Logout

/-! ### Two logouts

A browser opens a connection and logs out; in the first run the Agent has fetched the offer
before, in the second one it comes after the logout.
-/

/-- The entry of the connection in the broker. -/
def sampleEntry : Signaling.Entry := samplePrevious.entry sampleConnectionID 0

/-- A user makes a temporary service and connects to it. -/
def openConnection : List Action :=
  [.session (.createTemporary Session.sampleOwner ⟨Session.sampleService.agentID, "lab", "http"⟩
      (Vector.replicate 16 1) (Vector.replicate 16 2)),
    .connect Session.sampleOwner sampleInput (Vector.replicate 16 4) (Vector.replicate 32 3) 0,
    .offer 0 (Vector.replicate 16 5), .commit 0 0 none]

/-- The Agent fetches the offer, and then the user logs out. -/
def fetchedBeforeLogout : List Action :=
  openConnection ++
    [.signal (.next Session.sampleService.agentID), .signal (.scan 0 [sampleEntry]),
      .logout Session.sampleOwner, .finishLogout 0]

/-- The user logs out, and then the Agent asks. -/
def fetchedAfterLogout : List Action :=
  openConnection ++
    [.logout Session.sampleOwner, .finishLogout 0, .signal (.next Session.sampleService.agentID),
      .signal (.scan 0 [sampleEntry])]

/-- No other offer was created. -/
def onlySample (e : Signaling.Event) : Bool :=
  match e with
  | .created _ id _ => id = sampleConnectionID
  | _ => true

instance (t : Transition Server Action Event) (i : Nat) (sessionDigest : Digest) :
    Decidable (BeginsLogout t i sessionDigest) :=
  inferInstanceAs (Decidable (_ ∧ _))

instance (t : Transition Server Action Event) (i : Nat) : Decidable (EndsLogout t i) :=
  inferInstanceAs (Decidable (_ ∧ _))

theorem run_logout_of_fetchedBefore : ∃ begins ends earlier c,
    sampleController.Run (ends :: begins :: earlier) c ∧
    BeginsLogout begins 0 Session.sampleOwner ∧ EndsLogout ends 0 ∧
    .created samplePrevious sampleConnectionID 0 ∈ signals earlier ∧
    ∀ later c', sampleController.Run (later ++ ends :: begins :: earlier) c' →
      ((signals (later ++ ends :: begins :: earlier)).filterMap Signaling.Event.drawnID).Nodup →
      ∀ t ∈ later, ∀ operation agentID offer now,
        t.event.signal = some (operation, .offered agentID offer now) →
        offer.id ≠ sampleConnectionID := by
  obtain ⟨h, c, hr, hc⟩ := System.exists_run_of_exec (S := sampleController)
    (P := fun h _ => System.latest (fun ends => System.latest (fun begins earlier =>
      decide (BeginsLogout begins 0 Session.sampleOwner ∧ EndsLogout ends 0 ∧
        .created samplePrevious sampleConnectionID 0 ∈ signals earlier ∧
        (signals earlier).all onlySample = true ∧
        (signals (begins :: earlier)).any (Signaling.Event.offers sampleConnectionID) = true))) h)
    fetchedBeforeLogout (by decide +kernel)
  obtain ⟨ends, _, rfl, hlast⟩ := System.exists_of_latest hc
  obtain ⟨begins, earlier, rfl, hlogout⟩ := System.exists_of_latest hlast
  obtain ⟨hbegins, hends, hcreated, honly, hoffered⟩ := of_decide_eq_true hlogout
  refine ⟨begins, ends, earlier, c, hr, hbegins, hends, hcreated, ?_⟩
  have hwithdrawn : Withdrawn earlier ([] ++ begins :: earlier) Session.sampleOwner
      ends.before.broker.clock := by
    intro request id created hmem _
    have hid : id = sampleConnectionID := of_decide_eq_true (List.all_eq_true.mp honly _ hmem)
    rw [hid]
    exact .inl hoffered
  intro later c' hr' hids t ht operation agentID offer now hsignal hid
  have hr'' : sampleController.Run (later ++ ends :: ([] ++ begins :: earlier)) c' := hr'
  rw [sampleController] at hr''
  exact run_logout hr'' hids hwithdrawn t ht operation agentID offer now hsignal
    samplePrevious 0 (hid ▸ hcreated) rfl

/-- **An offer is handed out after the logout.**  The browser has logged out with success, and the
    Agent gets the offer that the browser had made before. -/
theorem offered_after_logout : ∃ t between begins ends earlier c operation offer,
    sampleController.Run (t :: between :: ends :: begins :: earlier) c ∧
    ((signals (t :: between :: ends :: begins :: earlier)).filterMap
      Signaling.Event.drawnID).Nodup ∧
    BeginsLogout begins 0 Session.sampleOwner ∧ EndsLogout ends 0 ∧
    .created samplePrevious sampleConnectionID 0 ∈ signals earlier ∧
    samplePrevious.userDigest = Session.sampleOwner ∧
    t.event.signal = some (operation, .offered Session.sampleService.agentID offer 0) ∧
    offer.id = sampleConnectionID := by
  obtain ⟨h, c, hr, hc⟩ := System.exists_run_of_exec (S := sampleController)
    (P := fun h _ => System.latest (fun t => System.latest (fun _ => System.latest (fun ends =>
      System.latest (fun begins earlier =>
        decide (((signals h).filterMap Signaling.Event.drawnID).Nodup ∧
          BeginsLogout begins 0 Session.sampleOwner ∧ EndsLogout ends 0 ∧
          .created samplePrevious sampleConnectionID 0 ∈ signals earlier ∧
          t.event.signal = some (.scan 0 [sampleEntry],
            .offered Session.sampleService.agentID sampleEntry.toOffer 0)))))) h)
    fetchedAfterLogout (by decide +kernel)
  obtain ⟨t, _, rfl, ht⟩ := System.exists_of_latest hc
  obtain ⟨between, _, rfl, hbetween⟩ := System.exists_of_latest ht
  obtain ⟨ends, _, rfl, hlast⟩ := System.exists_of_latest hbetween
  obtain ⟨begins, earlier, rfl, hlogout⟩ := System.exists_of_latest hlast
  obtain ⟨hids, hbegins, hends, hcreated, hsignal⟩ := of_decide_eq_true hlogout
  exact ⟨t, between, begins, ends, earlier, c, _, _, hr, hids, hbegins, hends, hcreated, rfl,
    hsignal, rfl⟩

end WebVPN.Controller
