import WebVPN.Wisp.Server

namespace WebVPN.Wisp

open WebVPN.Library

/-!
# Wisp — the stream map and the streams

The invariant that ties the map of the server to the streams the goroutines hold:

* `Stream.Progress` — what a step of a goroutine can do to the parts of a stream that the
  rest of the server reads: the queue only drains, a closing stream stays closing, and
  the removal from the map happens once;
* `Server.Valid` — an entry of the map leads to a stream with that number, and a stream
  that has not executed its removal is in the map under its number.  So a stream never
  removes another stream of the same number;
* `Server.Step.lookup`, `Server.Step.free` — what a step does to one number in the map;
* `Server.step_valid` — every step keeps the invariant.
-/

/-! ### Progress of one stream -/

/-- The stream has not been removed from the map by its own `close`. -/
def Stream.Listed (st : Stream) : Prop :=
  ∀ c, st.closing = some c → c.stage = .cancelling ∨ c.stage = .deleting

theorem Stream.Open.listed {st : Stream} (h : st.Open) : st.Listed := by
  intro c hc
  rw [show st.closing = none from h] at hc
  cases hc

/-- What a step of a goroutine does to the number, the queue and the `closeOnce` of its
    stream. -/
structure Stream.Progress (st st' : Stream) (effect : Effect) : Prop where
  id : st'.id = st.id
  queue : st'.write.length ≤ st.write.length
  stays_closing : st'.Open → st.Open
  listed : st'.Listed → st.Listed ∧ effect.delete = false
  deletes : effect.delete = true → st.Listed

variable {st st' : Stream}

/-- A step that touches neither the queue nor the `closeOnce`. -/
theorem Stream.Progress.frame {effect : Effect} (hid : st'.id = st.id)
    (hq : st'.write.length ≤ st.write.length) (hc : st'.closing = st.closing)
    (he : effect.delete = false) : st.Progress st' effect where
  id := hid
  queue := hq
  stays_closing h := by rw [Stream.Open, ← hc]; exact h
  listed h := ⟨by intro c hcl; exact h c (hc ▸ hcl), he⟩
  deletes h := by rw [he] at h; cases h

/-- After a call of `close` the stream is no longer open. -/
theorem Stream.callClose_not_open (st : Stream) (notify : Bool) (reason : UInt8) :
    ¬ (st.callClose notify reason).Open := by
  unfold Stream.callClose Stream.Open
  split
  · simp
  · rename_i c hc
    rw [hc]; simp

/-- A call of `close` removes nothing from the map. -/
theorem Stream.callClose_listed {st : Stream} (notify : Bool) (reason : UInt8) :
    (st.callClose notify reason).Listed ↔ st.Listed := by
  unfold Stream.callClose Stream.Listed
  cases hc : st.closing with
  | none => simp
  | some c => simp [hc]

/-- A call of `close` as a step of a goroutine. -/
theorem Stream.Progress.callClose {notify : Bool} {reason : UInt8}
    (hid : st'.id = st.id) (hq : st'.write = st.write)
    (hc : st'.closing = (st.callClose notify reason).closing) :
    st.Progress st' .none where
  id := hid
  queue := by rw [hq]
  stays_closing h := by
    exfalso
    apply st.callClose_not_open notify reason
    rw [Stream.Open, ← hc]; exact h
  listed h := by
    refine ⟨(Stream.callClose_listed notify reason).mp ?_, rfl⟩
    intro c hcl
    exact h c (hc.trans hcl)
  deletes h := by cases h

/-- A step of a goroutine makes progress in the sense of `Stream.Progress`. -/
theorem Stream.step_progress {serverDone : Bool} {a : StreamAction}
    {effect : Effect} (hs : st.step serverDone a = some (st', effect)) :
    st.Progress st' effect := by
  cases Stream.step_cases hs with
  | published result hc => cases result <;> exact .frame rfl le_rfl rfl rfl
  | connectFailed | writeFailed | readFailed =>
    exact .callClose (Stream.callClose_id st _ _) (Stream.callClose_write st _ _) rfl
  | took connection consumed payload rest hw hq => exact .frame rfl (by simp [hq]) rfl rfl
  | closeCancelled notify reason hc | closeDeleted notify reason hc | closeNotified sent notify reason hc =>
    exact ⟨rfl, le_rfl, by simp [Stream.Open], by simp [Stream.Listed, hc, Effect.none, Effect.send],
      by simp [Stream.Listed, hc, Effect.none, Effect.send]⟩
  | closeClosed notify reason hc =>
    -- the next stage depends on whether the client is told
    refine ⟨rfl, le_rfl, by simp [Stream.Open], ?_, by simp [Effect.none]⟩
    cases notify <;> simp [Stream.Listed]
  | _ => exact .frame rfl le_rfl rfl rfl

/-! ### The invariant of the map -/

/-- The map leads to streams with the right number, every stream that has not executed its
    removal is in the map, and nothing is opened before the handshake. -/
structure Server.Valid (s : Server) : Prop where
  keys : ∀ id ref, s.lookup id = some ref → ∃ st, s.table[ref]? = some st ∧ st.id = id
  listed : ∀ ref st, s.table[ref]? = some st → st.Listed → s.lookup st.id = some ref
  handshake : s.handshaken = false → s.streams = []
  opening : ∀ packet, s.handler = .opening packet → s.handshaken = true

/-- Removing a number from the map. -/
theorem lookup_filter_ne (l : List (UInt32 × Nat)) (id id' : UInt32) :
    (l.filter (fun p => p.1 ≠ id)).lookup id' = if id' = id then none else l.lookup id' := by
  induction l with
  | nil => simp
  | cons p l ih =>
    obtain ⟨key, ref⟩ := p
    by_cases hkey : key = id
    · subst hkey
      rw [List.filter_cons_of_neg (by simp), ih]
      by_cases hid : id' = key
      · simp [hid]
      · have hne : (id' == key) = false := beq_eq_false_iff_ne.mpr hid
        rw [if_neg hid, if_neg hid, List.lookup_cons, hne]
    · rw [List.filter_cons_of_pos (by simpa using hkey), List.lookup_cons, List.lookup_cons, ih]
      by_cases hid : id' = id
      · subst hid
        have hne : (id' == key) = false := beq_eq_false_iff_ne.mpr (fun h => hkey h.symm)
        simp [hne]
      · simp [hid]

section Steps

variable {s s' : Server} {a : Action} {ref : Nat} {st st' : Stream}

/-- A stream keeps its number. -/
theorem Stream.Fate.id (h : Stream.Fate s a ref st st') : st'.id = st.id := by
  cases h with
  | same | enqueued => rfl
  | called | shut => exact Stream.callClose_id st _ _
  | stepped action effect _ hs => exact (Stream.step_progress hs).id

/-- A stream that has removed itself stays removed. -/
theorem Stream.Fate.listed (h : Stream.Fate s a ref st st') (hlisted : st'.Listed) : st.Listed := by
  cases h with
  | same | enqueued => exact hlisted
  | called | shut => exact (Stream.callClose_listed _ _).mp hlisted
  | stepped action effect _ hs => exact ((Stream.step_progress hs).listed hlisted).1

/-- A closing stream stays closing. -/
theorem Stream.Fate.stays_closing (h : Stream.Fate s a ref st st') (hopen : st'.Open) : st.Open := by
  cases h with
  | same | enqueued => exact hopen
  | called | shut => exact absurd hopen (Stream.callClose_not_open st _ _)
  | stepped action effect _ hs => exact (Stream.step_progress hs).stays_closing hopen

/-- An entry of the map is an entry from before the step, which the step has not removed, or it is the
    entry of the new stream. -/
theorem Server.Step.lookup (h : s.Step a s') {id : UInt32} (hlookup : s'.lookup id = some ref) :
    (s.lookup id = some ref ∧ ∀ ref' action st st' effect, a = .stream ref' action →
      s.table[ref']? = some st → st.step s.cancelled action = some (st', effect) →
      effect.delete = true → id ≠ st.id) ∨
    ((∃ sent, a = .handle sent) ∧
      ∃ hostname port, s'.table[ref]? = some (Stream.new id hostname port)) := by
  unfold Server.lookup at hlookup
  cases h.registers with
  | kept hmap _ hkept =>
    rw [hmap] at hlookup
    refine .inl ⟨hlookup, ?_⟩
    intro ref' action st st' effect ha hst hs hdelete
    rw [hkept ref' action st st' effect ha hst hs] at hdelete
    cases hdelete
  | inserted sent packet ha _ _ _ heq =>
    rw [heq, List.lookup_cons] at hlookup
    split at hlookup
    · rename_i hid
      obtain rfl := Option.some.inj hlookup
      obtain rfl : id = packet.streamID := beq_iff_eq.mp hid
      exact .inr ⟨⟨sent, ha⟩, _, _, by rw [heq]; exact List.getElem?_concat_length⟩
    · exact .inl ⟨hlookup, by simp [ha]⟩
  | removed ref₀ action st st' effect ha hst hs _ hmap _ =>
    rw [hmap, lookup_filter_ne] at hlookup
    split at hlookup
    · cases hlookup
    · rename_i hne
      refine .inl ⟨hlookup, ?_⟩
      rintro ref' action' st₁ st₁' effect' ha' hst₁ - -
      obtain ⟨rfl, -⟩ := Action.stream.inj (ha.symm.trans ha')
      obtain rfl : st = st₁ := Option.some.inj (hst.symm.trans hst₁)
      exact hne

/-- A number that is free stays free, unless its stream is opened. -/
theorem Server.Step.free (h : s.Step a s') {id : UInt32} (hfree : s.lookup id = none) :
    s'.lookup id = none ∨ ∃ sent packet, a = .handle sent ∧ s.handler = .opening packet ∧
      packet.streamID = id ∧ s'.handler = .idle := by
  cases hlookup : s'.lookup id with
  | none => exact .inl rfl
  | some ref =>
    cases h.registers with
    | kept hmap _ _ =>
      rw [Server.lookup, hmap, ← Server.lookup, hfree] at hlookup
      cases hlookup
    | inserted sent packet ha hh _ _ heq =>
      refine .inr ⟨sent, packet, ha, hh, ?_, heq ▸ rfl⟩
      by_contra hne
      have hne' : (id == packet.streamID) = false := beq_eq_false_iff_ne.mpr (Ne.symm hne)
      rw [heq, Server.lookup, List.lookup_cons, hne', ← Server.lookup, hfree] at hlookup
      cases hlookup
    | removed ref₀ action st st' effect _ _ _ _ hmap _ =>
      rw [Server.lookup, hmap, lookup_filter_ne, ← Server.lookup, hfree, ite_self] at hlookup
      cases hlookup

theorem Server.Valid.step_keys (hv : s.Valid) (h : s.Step a s') {id : UInt32}
    (hlookup : s'.lookup id = some ref) : ∃ st, s'.table[ref]? = some st ∧ st.id = id := by
  rcases h.lookup hlookup with ⟨hbefore, -⟩ | ⟨-, hostname, port, hnew⟩
  · obtain ⟨st, hst, hid⟩ := hv.keys id ref hbefore
    obtain ⟨st', hst', hfate⟩ := h.fate hst
    exact ⟨st', hst', hfate.id.trans hid⟩
  · exact ⟨_, hnew, rfl⟩

theorem Server.Valid.step_listed (hv : s.Valid) (h : s.Step a s') (hget : s'.table[ref]? = some st')
    (hlisted : st'.Listed) : s'.lookup st'.id = some ref := by
  have hlt' : ref < s'.table.length := (List.getElem?_eq_some_iff.mp hget).1
  unfold Server.lookup
  cases h.registers with
  | kept hmap hlength _ =>
    obtain ⟨st, hst, hfate⟩ := h.before (hlength ▸ hlt') hget
    rw [hmap, hfate.id]
    exact hv.listed ref st hst (hfate.listed hlisted)
  | inserted sent packet _ _ hfree _ heq =>
    rw [heq, List.lookup_cons]
    by_cases hlt : ref < s.table.length
    · obtain ⟨st, hst, hfate⟩ := h.before hlt hget
      have hbefore := hv.listed ref st hst (hfate.listed hlisted)
      have hne : (st'.id == packet.streamID) = false := by
        rw [hfate.id, beq_eq_false_iff_ne]
        intro hid
        rw [hid, hfree] at hbefore
        cases hbefore
      rw [hne, hfate.id]
      exact hbefore
    · -- the new stream is at the end of the table
      rw [heq, List.length_append, List.length_singleton] at hlt'
      obtain rfl : ref = s.table.length := by omega
      rw [heq] at hget
      simp only [List.getElem?_concat_length, Option.some.injEq] at hget
      simp [← hget, Stream.new]
  | removed ref₀ action st₀ st₀' effect ha hst₀ hs hdelete hmap hlength =>
    obtain ⟨st, hst, hfate⟩ := h.before (hlength ▸ hlt') hget
    have hbefore := hv.listed ref st hst (hfate.listed hlisted)
    have hown := hv.listed ref₀ st₀ hst₀ ((Stream.step_progress hs).deletes hdelete)
    -- another listed stream of the same number would share the entry of the map
    have hne : st.id ≠ st₀.id := by
      intro hid
      rw [hid, hown] at hbefore
      obtain rfl := Option.some.inj hbefore
      obtain rfl : st = st₀ := Option.some.inj (hst.symm.trans hst₀)
      subst ha
      obtain rfl := hfate.of_stream hs
      rw [((Stream.step_progress hs).listed hlisted).2] at hdelete
      cases hdelete
    rw [hmap, lookup_filter_ne, hfate.id, if_neg hne]
    exact hbefore

/-- **Step lemma.**  Every step keeps the map and the streams in agreement. -/
theorem Server.step_valid (hv : s.Valid) (hs : s.step a = some s') : s'.Valid := by
  have h := (Server.step_cases hs).2
  refine ⟨fun id ref => hv.step_keys h, fun ref st' => hv.step_listed h, ?_, ?_⟩
  · intro hflag'
    -- before the handshake there is nothing to keep
    have hflag : s.handshaken = false := by
      by_contra hflag
      rw [h.handshaken (by simpa using hflag)] at hflag'
      cases hflag'
    have hempty := hv.handshake hflag
    cases h.registers with
    | kept hmap _ _ => exact hmap.trans hempty
    | inserted sent packet _ hh _ _ _ =>
      rw [hv.opening packet hh] at hflag
      cases hflag
    | removed _ _ _ _ _ _ _ _ _ hmap _ =>
      rw [hmap, hempty]
      rfl
  · intro packet hh'
    rcases h.opening hh' with ⟨hh, hflag⟩ | ⟨-, hflag, -, rfl⟩
    · exact hflag.trans (hv.opening packet hh)
    · exact hflag

end Steps

/-- The server starts with an empty map. -/
theorem Server.new_valid : Server.new.Valid where
  keys id ref h := by cases h
  listed ref st h := by cases h
  handshake _ := rfl
  opening packet h := by cases h

end WebVPN.Wisp
