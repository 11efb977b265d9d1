import WebVPN.Library.Lines
import WebVPN.Signaling.Message
import Mathlib.Data.String.Basic

namespace WebVPN.Signaling

open WebVPN.Library

/-!
# Signaling — relay candidates

`ValidateDescription` splits a description at LF and looks for ` typ relay ` in every candidate line, with
single blanks.  Whoever reads the description takes CR as the end of a line too and any white space as the
end of a field.

* `NoRelay` — what the check is for, in the reader's terms: no candidate line names a relay, and there are
  at most 128 candidate lines;
* `Hides`, `Visible` — the check sees every relay candidate of the text, and overlooks no candidate line
  of a text that has too many;
* `validateDescription_noRelay` — an accepted description is free of relay candidates, and not flooded,
  exactly when the check sees what a reader sees;
* `noRelay_of_plain` — it does in text with CRLF or LF and single blanks;
* `hidden_candidates` — otherwise a relay candidate, or any number of candidates, may pass.
-/

/-! ### Candidate lines -/

/-- The line, without the white space around it, begins with `a=candidate:`, in capitals or not. -/
def isCandidate (u : Unicode) (line : List Char) : Bool :=
  "a=candidate:".toList.isPrefixOf ((trimSpace line).map u.lower)

/-- Among the fields of the line is `typ`, and after it `relay`. -/
def NamesRelay (u : Unicode) (line : List Char) : Prop :=
  ["typ".toList, "relay".toList] <:+: (fields (trimSpace line)).map (List.map u.lower)

instance (u : Unicode) (line : List Char) : Decidable (NamesRelay u line) :=
  inferInstanceAs (Decidable (_ <:+: _))

/-- The line has ` typ relay ` in it, as `ValidateDescription` looks for it. -/
def spellsRelay (u : Unicode) (line : List Char) : Bool :=
  containsText (' ' :: (trimSpace line).map u.lower ++ [' ']) " typ relay ".toList

/-- No candidate line names a relay, and there are not too many of them. -/
structure NoRelay (u : Unicode) (sdp : String) : Prop where
  relay : ∀ line ∈ splitLines sdp.toList, isCandidate u line = true →
    ¬ NamesRelay u line
  flood : (splitLines sdp.toList).countP (isCandidate u) ≤ maxCandidateLines

/-- Between two LF there are more candidate lines than the check counts: a second one, or one behind a CR
    where the text does not begin as a candidate line. -/
def Hides (u : Unicode) (rawLine : List Char) : Prop :=
  (isCandidate u rawLine).toNat < (splitChar '\r' rawLine).countP (isCandidate u)

instance (u : Unicode) (rawLine : List Char) : Decidable (Hides u rawLine) :=
  inferInstanceAs (Decidable (_ < _))

/-- What the check sees is what a reader sees: where there is a relay candidate between two LF, the
    text between them begins as a candidate line and spells the relay with single blanks; and where there
    are too many candidate lines, none is hidden. -/
structure Visible (u : Unicode) (sdp : String) : Prop where
  relay : ∀ rawLine ∈ splitChar '\n' sdp.toList, ∀ line ∈ splitChar '\r' rawLine,
    isCandidate u line = true → NamesRelay u line →
    isCandidate u rawLine = true ∧ spellsRelay u rawLine = true
  flood : maxCandidateLines < (splitLines sdp.toList).countP (isCandidate u) →
    ∀ rawLine ∈ splitChar '\n' sdp.toList, ¬ Hides u rawLine

section Candidates

variable {u : Unicode} {description : Description} {expectedType : String} {line text : List Char}

/-- The candidate lines are the candidate pieces between LF or CR. -/
theorem mem_splitLines_iff {sdp : String} (hcandidate : isCandidate u line = true) :
    line ∈ splitLines sdp.toList ↔
      ∃ rawLine ∈ splitChar '\n' sdp.toList, line ∈ splitChar '\r' rawLine := by
  have hfilter := filter_splitLines (p := isCandidate u) rfl sdp.toList
  have hiff : line ∈ (splitLines sdp.toList).filter (isCandidate u) ↔
      line ∈ ((splitChar '\n' sdp.toList).flatMap (splitChar '\r')).filter (isCandidate u) := by
    rw [hfilter]
  simpa [List.mem_filter, hcandidate, List.mem_flatMap] using hiff

/-- If none is hidden, a reader counts no more candidate lines than the check. -/
theorem countP_splitLines_le (h : ∀ rawLine ∈ splitChar '\n' text, ¬ Hides u rawLine) :
    (splitLines text).countP (isCandidate u) ≤ (splitChar '\n' text).countP (isCandidate u) := by
  have hfilter := congrArg List.length (filter_splitLines (p := isCandidate u) rfl text)
  rw [← List.countP_eq_length_filter, ← List.countP_eq_length_filter, List.countP_flatMap] at hfilter
  rw [hfilter]
  -- line by line
  generalize splitChar '\n' text = rawLines at h
  induction rawLines with
  | nil => exact le_rfl
  | cons rawLine rawLines ih =>
    obtain ⟨hline, hlines⟩ := List.forall_mem_cons.mp h
    rw [List.map_cons, List.sum_cons, List.countP_cons, Nat.add_comm]
    refine Nat.add_le_add (ih hlines) ?_
    rw [Hides, Nat.not_lt] at hline
    cases hcandidate : isCandidate u rawLine <;> simpa [hcandidate] using hline

/-! ### What the check accepts -/

/-- **The loop.**  It accepts when no line that begins as a candidate line spells a relay, and the
    candidate lines, with those before, are not too many. -/
theorem validateLines_eq_ok {candidates : Nat} {rawLines : List (List Char)}
    (hle : candidates ≤ maxCandidateLines) :
    validateLines u candidates rawLines = .ok () ↔
      (∀ rawLine ∈ rawLines, isCandidate u rawLine = true →
        spellsRelay u rawLine = false) ∧
      candidates + rawLines.countP (isCandidate u)
        ≤ maxCandidateLines := by
  induction rawLines generalizing candidates with
  | nil => simpa [validateLines] using hle
  | cons rawLine rawLines ih =>
    have hlower : (u.toLower (String.ofList (trimSpace rawLine))).toList
        = (trimSpace rawLine).map u.lower := by simp [Unicode.toLower]
    rw [validateLines, hlower]
    by_cases hcandidate : isCandidate u rawLine = true
    · -- one more candidate line
      have hbegins : ¬ "a=candidate:".toList.isPrefixOf ((trimSpace rawLine).map u.lower) = false := by
        rw [Bool.not_eq_false]
        exact hcandidate
      rw [if_neg hbegins, List.countP_cons_of_pos hcandidate, List.forall_mem_cons]
      simp only [then_eq_ok, reject_eq_ok, not_lt]
      constructor
      · rintro ⟨hcount, hspells, hrest⟩
        obtain ⟨hlines, hsum⟩ := (ih hcount).mp hrest
        refine ⟨⟨fun _ => ?_, hlines⟩, by omega⟩
        simpa [spellsRelay] using hspells
      · rintro ⟨⟨hspells, hlines⟩, hsum⟩
        have hcount : candidates + 1 ≤ maxCandidateLines := by omega
        refine ⟨hcount, ?_, (ih hcount).mpr ⟨hlines, by omega⟩⟩
        simpa [spellsRelay] using hspells hcandidate
    · have hbegins : "a=candidate:".toList.isPrefixOf ((trimSpace rawLine).map u.lower) = false := by
        rw [← Bool.not_eq_true]
        exact hcandidate
      rw [if_pos hbegins, List.countP_cons_of_neg hcandidate, List.forall_mem_cons, ih hle]
      simp [hcandidate]

/-- What an accepted description has been checked for. -/
theorem validateDescription_lines (h : validateDescription u description expectedType = .ok ()) :
    (∀ rawLine ∈ splitChar '\n' description.sdp.toList, isCandidate u rawLine = true →
      spellsRelay u rawLine = false) ∧
    (splitChar '\n' description.sdp.toList).countP (isCandidate u) ≤ maxCandidateLines := by
  simp only [validateDescription, then_eq_ok] at h
  have hlines := (validateLines_eq_ok (Nat.zero_le _)).mp h.2.2
  rw [Nat.zero_add] at hlines
  exact hlines

/-- What the check sees does not pass. -/
theorem Visible.noRelay (hvisible : Visible u description.sdp)
    (h : validateDescription u description expectedType = .ok ()) : NoRelay u description.sdp := by
  obtain ⟨hspells, hcount⟩ := validateDescription_lines h
  refine ⟨fun line hline hcandidate hnames => ?_, ?_⟩
  · -- the check would have refused the line
    obtain ⟨rawLine, hraw, hpiece⟩ := (mem_splitLines_iff hcandidate).mp hline
    obtain ⟨hseen, hspelled⟩ := hvisible.relay rawLine hraw line hpiece hcandidate hnames
    rw [hspells rawLine hraw hseen] at hspelled
    cases hspelled
  · -- it would have counted the lines
    by_contra hmany
    have hseen := countP_splitLines_le (hvisible.flood (Nat.lt_of_not_le hmany))
    exact hmany (hseen.trans hcount)

/-- **Relay candidates that are visible do not pass.**  An accepted description has no relay candidate and
    not too many candidates exactly when the check sees what a reader sees. -/
theorem validateDescription_noRelay {description : Description} {expectedType : String}
    (h : validateDescription u description expectedType = .ok ()) :
    NoRelay u description.sdp ↔ Visible u description.sdp := by
  refine ⟨fun ⟨hrelay, hflood⟩ => ⟨?_, ?_⟩, fun hvisible => hvisible.noRelay h⟩
  · intro rawLine hraw line hpiece hcandidate hnames
    exact absurd hnames (hrelay line ((mem_splitLines_iff hcandidate).mpr ⟨rawLine, hraw, hpiece⟩) hcandidate)
  · exact fun hmany => absurd hflood (Nat.not_le_of_lt hmany)

/-- A description with one candidate line. -/
def hostCandidate : Description where
  type := "offer"
  sdp := "v=0\r\na=candidate:1 1 UDP 1 192.0.2.1 5000 typ host\r\n"

theorem validateDescription_noRelay_of_host :
    validateDescription .ascii hostCandidate "offer" = .ok () ∧ NoRelay .ascii hostCandidate.sdp := by
  have hok : validateDescription .ascii hostCandidate "offer" = .ok () := by decide +kernel
  refine ⟨hok, (validateDescription_noRelay hok).mpr ⟨?_, fun _ => ?_⟩⟩
  · decide +kernel
  · decide +kernel

/-! ### Text with CRLF or LF and single blanks -/

/-- A line with single blanks, before LF or CRLF. -/
def Plain (rawLine : List Char) : Prop := ∃ line, (rawLine = line ∨ rawLine = line ++ ['\r']) ∧ Spaced line

theorem containsText_of_isInfix {pattern text : List Char} (h : pattern <:+: text) :
    containsText text pattern = true := by
  induction text with
  | nil => simpa [containsText] using List.infix_nil.mp h
  | cons c text ih =>
    rw [containsText, Bool.or_eq_true]
    rcases List.infix_cons_iff.mp h with hbegins | hwithin
    · exact .inl (List.isPrefixOf_iff_prefix.mpr hbegins)
    · exact .inr (ih hwithin)

/-- A relay that is named with single blanks is spelled the way the check looks for it. -/
theorem NamesRelay.spelled (h : NamesRelay u line) (hspaced : Spaced line) :
    spellsRelay u line = true := by
  -- the two fields, before they are put in lower case
  obtain ⟨pair, hpair, hlower⟩ := List.infix_map_iff.mp h
  obtain ⟨f, g, rfl, hf, hg⟩ : ∃ f g, pair = [f, g] ∧ "typ".toList = f.map u.lower ∧
      "relay".toList = g.map u.lower := by
    have hlen : pair.length = 2 := by simpa using (congrArg List.length hlower).symm
    obtain ⟨f, g, rfl⟩ := List.length_eq_two.mp hlen
    simp only [List.map_cons, List.map_nil, List.cons.injEq, and_true] at hlower
    exact ⟨f, g, rfl, hlower⟩
  have hwithin := (hspaced.of_isInfix (trimSpace_isInfix line)).fields_adjacent hpair
  have hblank : u.lower ' ' = ' ' := u.lower_ascii ' ' (by decide)
  have hmapped := hwithin.map u.lower
  simp only [List.cons_append, List.map_cons, List.map_append, List.map_nil, hblank, ← hf, ← hg] at hmapped
  exact containsText_of_isInfix hmapped

/-- A plain line is one piece with white space around it at most. -/
theorem Plain.pieces {rawLine : List Char} (h : Plain rawLine) :
    ∃ line, Spaced line ∧ isCandidate u rawLine = isCandidate u line ∧
      spellsRelay u rawLine = spellsRelay u line ∧
      (splitChar '\r' rawLine = [line] ∨ splitChar '\r' rawLine = [line, []]) := by
  obtain ⟨line, hraw, hspaced⟩ := h
  have hcr : '\r' ∉ line := fun hmem => absurd (hspaced.blank '\r' hmem (by decide)) (by decide)
  refine ⟨line, hspaced, ?_⟩
  rcases hraw with rfl | rfl
  · exact ⟨rfl, rfl, .inl (splitChar_of_not_mem hcr)⟩
  · have htrim := trimSpace_append_space line (c := '\r') (by decide)
    refine ⟨?_, ?_, .inr (splitChar_append_sep hcr)⟩
    · rw [isCandidate, htrim, isCandidate]
    · rw [spellsRelay, htrim, spellsRelay]

/-- The check sees what is in plain text. -/
theorem visible_of_plain {sdp : String} (hplain : ∀ rawLine ∈ splitChar '\n' sdp.toList, Plain rawLine) :
    Visible u sdp := by
  have hempty : isCandidate u [] = false := rfl
  refine ⟨fun rawLine hraw line hline hcandidate hnames => ?_, fun _ rawLine hraw => ?_⟩
  · obtain ⟨line', hspaced, hseen, hspelled, hpieces⟩ := (hplain rawLine hraw).pieces (u := u)
    -- the candidate line is the one piece with content
    obtain rfl : line = line' := by
      rcases hpieces with hpieces | hpieces <;> rw [hpieces] at hline
      · exact List.mem_singleton.mp hline
      · rcases List.mem_pair.mp hline with rfl | rfl
        · rfl
        · cases hcandidate
    exact ⟨hseen.trans hcandidate, hspelled.trans (hnames.spelled hspaced)⟩
  · obtain ⟨line, -, hseen, -, hpieces⟩ := (hplain rawLine hraw).pieces (u := u)
    rw [Hides, hseen, Nat.not_lt]
    rcases hpieces with hpieces | hpieces <;> rw [hpieces] <;>
      cases hcandidate : isCandidate u line <;> simp [hempty, hcandidate]

/-- **In plain text the check is enough.** -/
theorem noRelay_of_plain {description : Description} {expectedType : String}
    (h : validateDescription u description expectedType = .ok ())
    (hplain : ∀ rawLine ∈ splitChar '\n' description.sdp.toList, Plain rawLine) :
    NoRelay u description.sdp :=
  (visible_of_plain hplain).noRelay h

/-- A description of several lines, each before CRLF. -/
theorem noRelay_of_plain_of_host : NoRelay .ascii hostCandidate.sdp := by
  refine noRelay_of_plain (by decide +kernel :
    validateDescription .ascii hostCandidate "offer" = .ok ()) ?_
  have hlines : splitChar '\n' hostCandidate.sdp.toList = ["v=0".toList ++ ['\r'],
      "a=candidate:1 1 UDP 1 192.0.2.1 5000 typ host".toList ++ ['\r'], []] := by decide +kernel
  rw [hlines]
  simp only [List.forall_mem_cons]
  refine ⟨⟨_, .inr rfl, ?_⟩, ⟨_, .inr rfl, ?_⟩, ⟨[], .inl rfl, ?_⟩, nofun⟩
  · exact ⟨by decide +kernel, by decide +kernel⟩
  · exact ⟨by decide +kernel, by decide +kernel⟩
  · exact ⟨by decide +kernel, by decide +kernel⟩

/-! ### Text in which the check is not enough

The texts are in ASCII, and so the same with every table of lower case letters. -/

theorem map_lower_ascii (h : ∀ c ∈ text, c.toNat < 128) :
    text.map u.lower = text.map Unicode.ascii.lower :=
  List.map_congr_left (fun c hc => u.lower_ascii c (h c hc))

theorem map_lower_trimSpace (h : ∀ c ∈ line, c.toNat < 128) :
    (trimSpace line).map u.lower = (trimSpace line).map Unicode.ascii.lower :=
  map_lower_ascii (fun c hc => h c ((trimSpace_isInfix line).subset hc))

theorem isCandidate_ascii (h : ∀ c ∈ line, c.toNat < 128) :
    isCandidate u line = isCandidate .ascii line := by
  rw [isCandidate, map_lower_trimSpace h, ← isCandidate]

theorem validateDescription_ascii
    (h : ∀ rawLine ∈ splitChar '\n' description.sdp.toList, ∀ c ∈ rawLine, c.toNat < 128)
    (hok : validateDescription .ascii description expectedType = .ok ()) :
    validateDescription u description expectedType = .ok () := by
  simp only [validateDescription, then_eq_ok] at hok ⊢
  refine ⟨hok.1, hok.2.1, (validateLines_eq_ok (Nat.zero_le _)).mpr ?_⟩
  obtain ⟨hspells, hcount⟩ := (validateLines_eq_ok (Nat.zero_le _)).mp hok.2.2
  refine ⟨fun rawLine hraw hcandidate => ?_, ?_⟩
  · rw [isCandidate_ascii (h rawLine hraw)] at hcandidate
    rw [spellsRelay, map_lower_trimSpace (h rawLine hraw), ← spellsRelay]
    exact hspells rawLine hraw hcandidate
  · rw [List.countP_congr (fun rawLine hraw => by rw [isCandidate_ascii (h rawLine hraw)])]
    exact hcount

/-- A text without LF is one line, and one that begins with something else than an `a` is not a candidate
    line: nothing but its size is left to check. -/
theorem validateDescription_of_one_line {c : Char}
    (htype : description.type = expectedType) (hsdp : description.sdp.toList = c :: text)
    (hascii : c.toNat < 128) (hc : isSpace c = false ∧ asciiLower c ≠ 'a')
    (hline : '\n' ∉ description.sdp.toList) (hnul : '\x00' ∉ description.sdp.toList)
    (hsize : 0 < description.sdp.utf8ByteSize ∧ description.sdp.utf8ByteSize ≤ maxSDPSize) :
    validateDescription u description expectedType = .ok () := by
  have hcandidate : isCandidate u description.sdp.toList = false := by
    obtain ⟨rest, hrest⟩ := trimSpace_cons text hc.1
    have hprefix : "a=candidate:".toList = 'a' :: "=candidate:".toList := by decide
    rw [isCandidate, hsdp, hrest, List.map_cons, u.lower_ascii c hascii, hprefix, List.isPrefixOf_cons_cons,
      beq_false_of_ne hc.2.symm, Bool.false_and]
  simp only [validateDescription, then_eq_ok, reject_eq_ok]
  refine ⟨not_not.mpr htype, ?_, ?_⟩
  · rintro (hempty | hlarge | hmem)
    · omega
    · omega
    · exact hnul hmem
  · rw [splitChar_of_not_mem hline, validateLines_eq_ok (Nat.zero_le _)]
    simp [hcandidate]

/-- A relay candidate with a tab between the fields. -/
def tabbedRelay : Description where
  type := "offer"
  sdp := "v=0\r\na=candidate:1 1 UDP 1 203.0.113.1 5000 typ\trelay\r\n"

/-- A relay candidate on a line that begins after a CR. -/
def relayAfterCR : Description where
  type := "offer"
  sdp := "v=0\ra=candidate:1 1 UDP 1 203.0.113.1 5000 typ relay\r"

/-- A first line, and candidates with a CR before each. -/
def candidateFlood (n : Nat) : Description where
  type := "offer"
  sdp := String.ofList ("v=0".toList ++ (List.replicate n ('\r' :: "a=candidate:1".toList)).flatten)

theorem utf8ByteSize_candidateFlood (n : Nat) : (candidateFlood n).sdp.utf8ByteSize = 3 + 14 * n := by
  have hcopies : String.utf8Len (List.replicate n ('\r' :: "a=candidate:1".toList)).flatten = 14 * n := by
    induction n with
    | zero => rfl
    | succ n ih =>
      have hone : String.utf8Len ('\r' :: "a=candidate:1".toList) = 14 := by decide
      rw [List.replicate_succ, List.flatten_cons, String.utf8Len_append, ih, hone]
      omega
  have hfirst : String.utf8Len "v=0".toList = 3 := by decide
  rw [candidateFlood, String.utf8ByteSize_ofList, String.utf8Len_append, hcopies, hfirst]

/-- The check takes a flood behind CR for one line, which is not a candidate line. -/
theorem validateDescription_candidateFlood {n : Nat} (hn : 3 + 14 * n ≤ maxSDPSize) :
    validateDescription u (candidateFlood n) "offer" = .ok () := by
  have hmem : ∀ c ∈ (candidateFlood n).sdp.toList, c ∈ "v=0".toList ++ '\r' :: "a=candidate:1".toList := by
    intro c hc
    rw [candidateFlood, String.toList_ofList, List.mem_append] at hc
    rcases hc with hc | hc
    · exact List.mem_append_left _ hc
    · obtain ⟨line, hline, hc⟩ := List.mem_flatten.mp hc
      rw [List.eq_of_mem_replicate hline] at hc
      exact List.mem_append_right _ hc
  have hsdp : (candidateFlood n).sdp.toList
      = 'v' :: (['=', '0'] ++ (List.replicate n ('\r' :: "a=candidate:1".toList)).flatten) := by
    have hv : "v=0".toList = 'v' :: ['=', '0'] := by decide
    rw [candidateFlood, String.toList_ofList, hv, List.cons_append]
  refine validateDescription_of_one_line rfl hsdp (by decide) (by decide) ?_ ?_ ?_
  · exact fun h => absurd (hmem _ h) (by decide)
  · exact fun h => absurd (hmem _ h) (by decide)
  · rw [utf8ByteSize_candidateFlood]
    omega

/-- **Hidden candidates pass.**  The check does not see a relay candidate whose fields are a tab apart, nor
    one after a CR, nor how many candidates there are when they are a CR apart. -/
theorem hidden_candidates :
    (∀ (u : Unicode), ∀ description ∈ [tabbedRelay, relayAfterCR],
      validateDescription u description "offer" = .ok () ∧
      ∃ line ∈ splitLines description.sdp.toList, isCandidate u line = true ∧ NamesRelay u line) ∧
    ∀ (u : Unicode), validateDescription u (candidateFlood 129) "offer" = .ok () ∧
      (splitLines (candidateFlood 129).sdp.toList).countP (isCandidate u) = 129 := by
  have hrelay : ∀ description ∈ [tabbedRelay, relayAfterCR],
      (∀ rawLine ∈ splitChar '\n' description.sdp.toList, ∀ c ∈ rawLine, c.toNat < 128) ∧
      validateDescription .ascii description "offer" = .ok () ∧
      ∃ line ∈ splitLines description.sdp.toList, (∀ c ∈ line, c.toNat < 128) ∧
        (∀ f ∈ fields (trimSpace line), ∀ c ∈ f, c.toNat < 128) ∧
        isCandidate .ascii line = true ∧ NamesRelay .ascii line := by
    decide +kernel
  refine ⟨fun u description hmem => ?_, fun u => ⟨validateDescription_candidateFlood (by decide), ?_⟩⟩
  · obtain ⟨hascii, hok, line, hline, hlineAscii, hfields, hcandidate, hnames⟩ := hrelay description hmem
    refine ⟨validateDescription_ascii hascii hok, line, hline, ?_, ?_⟩
    · rw [isCandidate_ascii hlineAscii]
      exact hcandidate
    · rw [NamesRelay, List.map_congr_left (fun f hf => map_lower_ascii (hfields f hf))]
      exact hnames
  · have hone : isCandidate u "a=candidate:1".toList = true :=
      (isCandidate_ascii (by decide)).trans (by decide)
    have hfirst : isCandidate u "v=0".toList = false := (isCandidate_ascii (by decide)).trans (by decide)
    rw [candidateFlood, String.toList_ofList, splitLines_replicate (by decide) (by decide),
      List.countP_cons_of_neg (by rw [hfirst]; decide), List.countP_replicate, if_pos hone]

end Candidates

end WebVPN.Signaling
