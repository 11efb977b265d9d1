import WebVPN.Library.Text
import Mathlib.Data.List.Infix

namespace WebVPN.Library

/-!
# Library — the lines and fields of a text

* `splitLines` — the lines of a text where CR, LF and CRLF end a line; `filter_splitLines` — up to empty
  lines they are what splitting at LF and then at CR gives;
* `fields` — as `strings.Fields`; `fields_adjacent` — where two neighbouring fields stand in the text;
* `Spaced` — text with single blanks as its only white space; `Spaced.fields_adjacent` — there two
  neighbouring fields are one blank apart.
-/

/-! ### Splitting at one character -/

section Split

variable {sep c : Char} {cs part : List Char} {parts : List (List Char)}

theorem splitChar_cons_sep : splitChar sep (sep :: cs) = [] :: splitChar sep cs := by
  simp [splitChar]

theorem splitChar_cons_ne (hne : c ≠ sep) (hparts : splitChar sep cs = part :: parts) :
    splitChar sep (c :: cs) = (c :: part) :: parts := by
  simp [splitChar, hne, hparts]

theorem exists_splitChar (sep : Char) (cs : List Char) :
    ∃ part parts, splitChar sep cs = part :: parts := by
  induction cs with
  | nil => exact ⟨[], [], rfl⟩
  | cons c cs ih =>
    obtain ⟨part, parts, hparts⟩ := ih
    by_cases hc : c = sep
    · subst hc
      exact ⟨[], _, splitChar_cons_sep⟩
    · exact ⟨c :: part, parts, splitChar_cons_ne hc hparts⟩

/-- Text without the separator is one part. -/
theorem splitChar_of_not_mem (h : sep ∉ cs) : splitChar sep cs = [cs] := by
  induction cs with
  | nil => rfl
  | cons c cs ih =>
    obtain ⟨hne, hrest⟩ := List.ne_and_not_mem_of_not_mem_cons h
    exact splitChar_cons_ne (Ne.symm hne) (ih hrest)

/-- A character is the separator or stands in a part. -/
theorem mem_splitChar {d : Char} (sep : Char) (h : d ∈ cs) :
    d = sep ∨ ∃ part ∈ splitChar sep cs, d ∈ part := by
  induction cs with
  | nil => cases h
  | cons c cs ih =>
    obtain ⟨part, parts, hparts⟩ := exists_splitChar sep cs
    by_cases hc : c = sep
    · subst hc
      rw [splitChar_cons_sep]
      rcases List.mem_cons.mp h with rfl | h
      · exact .inl rfl
      · rcases ih h with rfl | ⟨part, hpart, hd⟩
        · exact .inl rfl
        · exact .inr ⟨part, List.mem_cons_of_mem _ hpart, hd⟩
    · rw [splitChar_cons_ne hc hparts]
      rcases List.mem_cons.mp h with rfl | h
      · exact .inr ⟨_, List.mem_cons_self, List.mem_cons_self⟩
      · rcases ih h with rfl | ⟨part', hpart, hd⟩
        · exact .inl rfl
        · rw [hparts] at hpart
          rcases List.mem_cons.mp hpart with rfl | hpart
          · exact .inr ⟨_, List.mem_cons_self, List.mem_cons_of_mem _ hd⟩
          · exact .inr ⟨part', List.mem_cons_of_mem _ hpart, hd⟩

/-- No part has the separator. -/
theorem not_mem_of_mem_splitChar (h : part ∈ splitChar sep cs) : sep ∉ part := by
  induction cs generalizing part with
  | nil =>
    rw [List.mem_singleton.mp h]
    exact List.not_mem_nil
  | cons c cs ih =>
    obtain ⟨first, parts, hparts⟩ := exists_splitChar sep cs
    by_cases hc : c = sep
    · subst hc
      rw [splitChar_cons_sep] at h
      rcases List.mem_cons.mp h with rfl | h
      · exact List.not_mem_nil
      · exact ih h
    · rw [splitChar_cons_ne hc hparts] at h
      rw [hparts] at ih
      rcases List.mem_cons.mp h with rfl | h
      · intro hmem
        rcases List.mem_cons.mp hmem with heq | hmem
        · exact hc heq.symm
        · exact ih List.mem_cons_self hmem
      · exact ih (List.mem_cons_of_mem _ h)

/-- The text starts with its first part; the separator or nothing follows. -/
theorem eq_append_of_splitChar (h : splitChar sep cs = part :: parts) :
    ∃ rest, cs = part ++ rest ∧ ∀ c ∈ rest.head?, c = sep := by
  induction cs generalizing part parts with
  | nil =>
    cases h
    exact ⟨[], rfl, by simp⟩
  | cons c cs ih =>
    obtain ⟨first, others, hcs⟩ := exists_splitChar sep cs
    by_cases hc : c = sep
    · subst hc
      rw [splitChar_cons_sep] at h
      cases h
      exact ⟨c :: cs, rfl, by simp⟩
    · rw [splitChar_cons_ne hc hcs] at h
      cases h
      obtain ⟨rest, rfl, hrest⟩ := ih hcs
      exact ⟨rest, rfl, hrest⟩

/-- A part, the separator, and the rest. -/
theorem splitChar_append_cons (h : sep ∉ part) (rest : List Char) :
    splitChar sep (part ++ sep :: rest) = part :: splitChar sep rest := by
  induction part with
  | nil => exact splitChar_cons_sep
  | cons c part ih =>
    obtain ⟨hne, hrest⟩ := List.ne_and_not_mem_of_not_mem_cons h
    exact splitChar_cons_ne (Ne.symm hne) (ih hrest)

/-- Text that has the separator only at its end. -/
theorem splitChar_append_sep (h : sep ∉ cs) : splitChar sep (cs ++ [sep]) = [cs, []] :=
  splitChar_append_cons h []

/-- Behind a separator at the end there is an empty part. -/
theorem exists_splitChar_append_sep (sep : Char) (cs : List Char) :
    ∃ part parts, splitChar sep (cs ++ [sep]) = part :: parts ∧ [] ∈ parts := by
  induction cs with
  | nil => exact ⟨[], [[]], by simp [splitChar], List.mem_cons_self⟩
  | cons c cs ih =>
    obtain ⟨part, parts, hparts, hmem⟩ := ih
    by_cases hc : c = sep
    · subst hc
      refine ⟨[], part :: parts, ?_, List.mem_cons_of_mem _ hmem⟩
      rw [List.cons_append, splitChar_cons_sep, hparts]
    · exact ⟨c :: part, parts, splitChar_cons_ne hc hparts, hmem⟩

/-- A separator makes two parts. -/
theorem two_le_length_splitChar (h : sep ∈ cs) : 2 ≤ (splitChar sep cs).length := by
  induction cs with
  | nil => cases h
  | cons c cs ih =>
    obtain ⟨part, parts, hparts⟩ := exists_splitChar sep cs
    by_cases hc : c = sep
    · subst hc
      rw [splitChar_cons_sep, hparts]
      simp
    · rw [splitChar_cons_ne hc hparts]
      rcases List.mem_cons.mp h with heq | hmem
      · exact absurd heq.symm hc
      · have hlen := ih hmem
        rw [hparts] at hlen
        exact hlen

/-- Parts that are joined are split again. -/
theorem splitChar_join (h : sep ∉ part) (hparts : ∀ q ∈ parts, sep ∉ q) :
    splitChar sep (part ++ parts.flatMap (fun q => sep :: q)) = part :: parts := by
  induction parts generalizing part with
  | nil =>
    rw [List.flatMap_nil, List.append_nil]
    exact splitChar_of_not_mem h
  | cons q parts ih =>
    rw [List.flatMap_cons, List.cons_append, splitChar_append_cons h,
      ih (hparts q List.mem_cons_self) (fun r hr => hparts r (List.mem_cons_of_mem _ hr))]

/-- The parts of a text, joined, are the text. -/
theorem join_splitChar (h : splitChar sep cs = part :: parts) :
    cs = part ++ parts.flatMap (fun q => sep :: q) := by
  induction cs generalizing part parts with
  | nil =>
    cases h
    rfl
  | cons c cs ih =>
    obtain ⟨first, others, hcs⟩ := exists_splitChar sep cs
    by_cases hc : c = sep
    · subst hc
      rw [splitChar_cons_sep, hcs] at h
      cases h
      rw [ih hcs]
      simp
    · rw [splitChar_cons_ne hc hcs] at h
      cases h
      rw [ih hcs]
      rfl

end Split

/-! ### Cutting at the first occurrence of a character -/

section Cut

variable {d : Char} {before : List Char}

theorem takeWhile_append_cons (h : d ∉ before) (rest : List Char) :
    (before ++ d :: rest).takeWhile (fun c => decide (c ≠ d)) = before := by
  rw [List.takeWhile_append_of_pos, List.takeWhile_cons_of_neg (by simp), List.append_nil]
  intro c hc
  exact decide_eq_true (fun heq => h (heq ▸ hc))

theorem dropWhile_append_cons (h : d ∉ before) (rest : List Char) :
    (before ++ d :: rest).dropWhile (fun c => decide (c ≠ d)) = d :: rest := by
  rw [List.dropWhile_append_of_pos, List.dropWhile_cons_of_neg (by simp)]
  intro c hc
  exact decide_eq_true (fun heq => h (heq ▸ hc))

variable {before' rest rest' : List Char}

/-- What stands before and after the first separator is determined. -/
theorem append_cons_inj (h : d ∉ before) (h' : d ∉ before')
    (heq : before ++ d :: rest = before' ++ d :: rest') : before = before' ∧ rest = rest' := by
  have hbefore : before = before' := by
    rw [← takeWhile_append_cons h rest, heq, takeWhile_append_cons h']
  subst hbefore
  exact ⟨rfl, by simpa using heq⟩

/-- What stands before and after the last separator is determined. -/
theorem append_cons_inj_last (h : d ∉ rest) (h' : d ∉ rest')
    (heq : before ++ d :: rest = before' ++ d :: rest') : before = before' ∧ rest = rest' := by
  have hreverse : rest.reverse ++ d :: before.reverse = rest'.reverse ++ d :: before'.reverse := by
    simpa using congrArg List.reverse heq
  obtain ⟨hrest, hbefore⟩ := append_cons_inj (by simpa using h) (by simpa using h') hreverse
  exact ⟨List.reverse_injective hbefore, List.reverse_injective hrest⟩

end Cut

/-! ### Lines -/

/-- The lines of a text; CR, LF and CRLF end a line. -/
def splitLines : List Char → List (List Char)
  | [] => [[]]
  | '\r' :: '\n' :: cs => [] :: splitLines cs
  | c :: cs =>
    if c = '\r' ∨ c = '\n' then [] :: splitLines cs
    else
      match splitLines cs with
      | [] => [[c]]
      | line :: lines => (c :: line) :: lines

/-- The lines of a text, and what splitting at LF and then at CR gives, begin with the same one; the
    others differ by empty lines. -/
theorem splitLines_nested {p : List Char → Bool} (hp : p [] = false) (cs : List Char) :
    ∃ line lines pieces, splitLines cs = line :: lines ∧
      (splitChar '\n' cs).flatMap (splitChar '\r') = line :: pieces ∧
      lines.filter p = pieces.filter p := by
  induction cs using splitLines.induct with
  | case1 => exact ⟨[], [], [], rfl, rfl, rfl⟩
  | case2 cs ih =>
    obtain ⟨line, lines, pieces, hlines, hpieces, heq⟩ := ih
    refine ⟨[], line :: lines, [] :: line :: pieces, by rw [splitLines, hlines], ?_, ?_⟩
    · rw [splitChar_cons_ne (by decide) splitChar_cons_sep, List.flatMap_cons, hpieces]
      rfl
    · rw [List.filter_cons_of_neg (a := []) (by rw [hp]; decide), List.filter_cons, List.filter_cons, heq]
  | case3 c cs hcrlf hend ih =>
    obtain ⟨line, lines, pieces, hlines, hpieces, heq⟩ := ih
    refine ⟨[], line :: lines, line :: pieces, ?_, ?_, by rw [List.filter_cons, List.filter_cons, heq]⟩
    · rw [splitLines.eq_3 _ _ hcrlf, if_pos hend, hlines]
    · rcases hend with rfl | rfl
      · -- a CR ends a piece and stays within its part
        obtain ⟨part, parts, hparts⟩ := exists_splitChar '\n' cs
        rw [hparts, List.flatMap_cons] at hpieces
        rw [splitChar_cons_ne (by decide) hparts, List.flatMap_cons, splitChar_cons_sep,
          List.cons_append, hpieces]
      · rw [splitChar_cons_sep, List.flatMap_cons, hpieces]
        rfl
  | case4 c cs hcrlf hend hnil ih =>
    obtain ⟨line, lines, pieces, hlines, -⟩ := ih
    rw [hnil] at hlines
    cases hlines
  | case5 c cs hcrlf hend line₁ lines₁ hlines₁ ih =>
    obtain ⟨line, lines, pieces, hlines, hpieces, heq⟩ := ih
    have hcr : c ≠ '\r' := fun h => hend (.inl h)
    have hlf : c ≠ '\n' := fun h => hend (.inr h)
    refine ⟨c :: line, lines, pieces, ?_, ?_, heq⟩
    · rw [splitLines.eq_3 _ _ hcrlf, if_neg hend, hlines]
    · obtain ⟨part, parts, hparts⟩ := exists_splitChar '\n' cs
      obtain ⟨piece, rest, hpiece⟩ := exists_splitChar '\r' part
      rw [hparts, List.flatMap_cons, hpiece, List.cons_append] at hpieces
      rw [splitChar_cons_ne hlf hparts, List.flatMap_cons, splitChar_cons_ne hcr hpiece,
        List.cons_append]
      obtain ⟨rfl, rfl⟩ := List.cons.inj hpieces
      rfl

/-- Up to lines that do not count, the lines are the pieces between LF and CR. -/
theorem filter_splitLines {p : List Char → Bool} (hp : p [] = false) (cs : List Char) :
    (splitLines cs).filter p = ((splitChar '\n' cs).flatMap (splitChar '\r')).filter p := by
  obtain ⟨line, lines, pieces, hlines, hpieces, heq⟩ := splitLines_nested hp cs
  rw [hlines, hpieces, List.filter_cons, List.filter_cons, heq]

/-- Text without CR and LF is one line. -/
theorem splitLines_of_no_break {line : List Char} (hline : ∀ c ∈ line, c ≠ '\r' ∧ c ≠ '\n') :
    splitLines line = [line] := by
  induction line with
  | nil => rfl
  | cons c line ih =>
    obtain ⟨⟨hcr, hlf⟩, hline⟩ := List.forall_mem_cons.mp hline
    rw [splitLines.eq_3 _ _ (fun cs hc _ => hcr hc), if_neg (by simp [hcr, hlf]), ih hline]

/-- A line before a CR. -/
theorem splitLines_append_cr {line rest : List Char} (hline : ∀ c ∈ line, c ≠ '\r' ∧ c ≠ '\n')
    (hrest : '\n' ∉ rest) : splitLines (line ++ '\r' :: rest) = line :: splitLines rest := by
  induction line with
  | nil =>
    have hcrlf : ∀ cs, '\r' = '\r' → rest = '\n' :: cs → False := by
      rintro cs - rfl
      exact hrest List.mem_cons_self
    rw [List.nil_append, splitLines.eq_3 _ _ hcrlf, if_pos (.inl rfl)]
  | cons c line ih =>
    obtain ⟨⟨hcr, hlf⟩, hline⟩ := List.forall_mem_cons.mp hline
    rw [List.cons_append, splitLines.eq_3 _ _ (fun cs hc _ => hcr hc), if_neg (by simp [hcr, hlf]),
      ih hline]

/-- Copies of a line, with a CR before each. -/
theorem splitLines_replicate {line copy : List Char} (hline : ∀ c ∈ line, c ≠ '\r' ∧ c ≠ '\n')
    (hcopy : ∀ c ∈ copy, c ≠ '\r' ∧ c ≠ '\n') (n : Nat) :
    splitLines (line ++ (List.replicate n ('\r' :: copy)).flatten) = line :: List.replicate n copy := by
  induction n generalizing line with
  | zero => simpa using splitLines_of_no_break hline
  | succ n ih =>
    have hrest : '\n' ∉ copy ++ (List.replicate n ('\r' :: copy)).flatten := by
      intro hmem
      rcases List.mem_append.mp hmem with hmem | hmem
      · exact (hcopy '\n' hmem).2 rfl
      · obtain ⟨line', hline', hmem⟩ := List.mem_flatten.mp hmem
        rw [List.eq_of_mem_replicate hline', List.mem_cons] at hmem
        rcases hmem with hmem | hmem
        · exact absurd hmem (by decide)
        · exact (hcopy '\n' hmem).2 rfl
    rw [List.replicate_succ, List.flatten_cons, List.cons_append, splitLines_append_cr hline hrest,
      ih hcopy, List.replicate_succ]

/-! ### Fields -/

/-- The fields of a text that continues the field `current`. -/
def fieldsFrom (current : List Char) : List Char → List (List Char)
  | [] => if current = [] then [] else [current]
  | c :: cs =>
    if isSpace c then
      if current = [] then fieldsFrom [] cs else current :: fieldsFrom [] cs
    else fieldsFrom (current ++ [c]) cs

/-- `strings.Fields`: the fields between runs of white space. -/
def fields (text : List Char) : List (List Char) := fieldsFrom [] text

/-- The text before a field. -/
def EndsInSpace (text : List Char) : Prop := text = [] ∨ ∃ text' c, text = text' ++ [c] ∧ isSpace c = true

/-- The text after a field. -/
def BeginsInSpace (text : List Char) : Prop := text = [] ∨ ∃ c text', text = c :: text' ∧ isSpace c = true

section Fields

variable {current text f g before gap after : List Char} {rest : List (List Char)} {c : Char}

theorem EndsInSpace.cons (h : EndsInSpace before) (hc : isSpace c = true) (prior : List Char) :
    EndsInSpace (prior ++ c :: before) := by
  rcases h with rfl | ⟨text', c', rfl, hc'⟩
  · exact .inr ⟨prior, c, rfl, hc⟩
  · exact .inr ⟨prior ++ c :: text', c', by simp, hc'⟩

/-- Where the first field stands. -/
theorem fieldsFrom_head (h : fieldsFrom current text = g :: rest) :
    ∃ gap after, current ++ text = gap ++ g ++ after ∧ (∀ c ∈ gap, isSpace c = true) ∧
      (current ≠ [] → gap = []) ∧ BeginsInSpace after := by
  induction text generalizing current with
  | nil =>
    unfold fieldsFrom at h
    split at h
    · cases h
    · obtain ⟨rfl, -⟩ := List.cons.inj h
      exact ⟨[], [], by simp, by simp, fun _ => rfl, .inl rfl⟩
  | cons c cs ih =>
    unfold fieldsFrom at h
    split at h
    case isTrue hc =>
      split at h
      case isTrue hcurrent =>
        -- white space before the field
        subst hcurrent
        obtain ⟨gap, after, htext, hgap, -, hafter⟩ := ih h
        refine ⟨c :: gap, after, ?_, ?_, fun hne => absurd rfl hne, hafter⟩
        · rw [List.nil_append] at htext ⊢
          rw [htext]
          rfl
        · exact List.forall_mem_cons.mpr ⟨hc, hgap⟩
      case isFalse hcurrent =>
        obtain ⟨rfl, -⟩ := List.cons.inj h
        exact ⟨[], c :: cs, by simp, by simp, fun _ => rfl, .inr ⟨c, cs, rfl, hc⟩⟩
    case isFalse hc =>
      obtain ⟨gap, after, htext, hgap, hnil, hafter⟩ := ih h
      obtain rfl := hnil (by simp)
      exact ⟨[], after, by simpa using htext, hgap, fun _ => rfl, hafter⟩

/-- Where two neighbouring fields stand, when `current` was read already. -/
theorem fieldsFrom_adjacent (h : [f, g] <:+: fieldsFrom current text) :
    ∃ before gap after, current ++ text = before ++ f ++ gap ++ g ++ after ∧ gap ≠ [] ∧
      (∀ c ∈ gap, isSpace c = true) ∧ EndsInSpace before ∧ BeginsInSpace after := by
  induction text generalizing current with
  | nil =>
    have hlen := h.length_le
    unfold fieldsFrom at hlen
    split at hlen <;> simp at hlen
  | cons c cs ih =>
    unfold fieldsFrom at h
    split at h
    case isTrue hc =>
      split at h
      case isTrue hcurrent =>
        subst hcurrent
        obtain ⟨before, gap, after, htext, hne, hgap, hbefore, hafter⟩ := ih h
        refine ⟨c :: before, gap, after, ?_, hne, hgap, hbefore.cons hc [], hafter⟩
        rw [List.nil_append] at htext ⊢
        rw [htext]
        rfl
      case isFalse hcurrent =>
        rcases List.infix_cons_iff.mp h with hhead | htail
        · -- the first field is `current`
          obtain ⟨rfl, hg⟩ := List.cons_prefix_cons.mp hhead
          obtain ⟨rest, hrest⟩ := hg
          obtain ⟨gap, after, htext, hgap, -, hafter⟩ := fieldsFrom_head hrest.symm
          refine ⟨[], c :: gap, after, ?_, by simp, List.forall_mem_cons.mpr ⟨hc, hgap⟩, .inl rfl, hafter⟩
          rw [List.nil_append] at htext
          rw [htext]
          simp
        · obtain ⟨before, gap, after, htext, hne, hgap, hbefore, hafter⟩ := ih htail
          refine ⟨current ++ c :: before, gap, after, ?_, hne, hgap, hbefore.cons hc current, hafter⟩
          rw [List.nil_append] at htext
          rw [htext]
          simp
    case isFalse hc =>
      obtain ⟨before, gap, after, htext, hrest⟩ := ih h
      exact ⟨before, gap, after, by simpa using htext, hrest⟩

/-- **Where two neighbouring fields stand.**  They are apart by white space, and there is white space or
    nothing on either side. -/
theorem fields_adjacent (h : [f, g] <:+: fields text) :
    ∃ before gap after, text = before ++ f ++ gap ++ g ++ after ∧ gap ≠ [] ∧
      (∀ c ∈ gap, isSpace c = true) ∧ EndsInSpace before ∧ BeginsInSpace after :=
  fieldsFrom_adjacent h

/-! ### Text with single blanks -/

/-- The only white space is single blanks. -/
structure Spaced (text : List Char) : Prop where
  blank : ∀ c ∈ text, isSpace c = true → c = ' '
  single : ¬ [' ', ' '] <:+: text

theorem Spaced.of_isInfix (h : Spaced text) (hwithin : f <:+: text) : Spaced f where
  blank c hc := h.blank c (hwithin.subset hc)
  single hdouble := h.single (hdouble.trans hwithin)

/-- **Neighbouring fields are one blank apart.** -/
theorem Spaced.fields_adjacent (h : Spaced text) (hfields : [f, g] <:+: fields text) :
    ' ' :: f ++ ' ' :: g ++ [' '] <:+: ' ' :: text ++ [' '] := by
  obtain ⟨before, gap, after, rfl, hne, hgap, hbefore, hafter⟩ := Library.fields_adjacent hfields
  have hmem : ∀ c, c ∈ before ∨ c ∈ gap ∨ c ∈ after → isSpace c = true → c = ' ' := by
    intro c hc
    apply h.blank
    simp only [List.mem_append]
    tauto
  -- the gap is one blank
  obtain rfl : gap = [' '] := by
    match gap, hne with
    | [c], _ => rw [hmem c (by simp) (hgap c (by simp))]
    | c :: c' :: gap', _ =>
      rw [hmem c (by simp) (hgap c (by simp)), hmem c' (by simp) (hgap c' (by simp))] at h
      refine absurd ?_ h.single
      exact ⟨before ++ f, gap' ++ g ++ after, by simp⟩
  -- before the first field there is a blank, if only the one in front of the text
  obtain ⟨left, hleft⟩ : ∃ left, ' ' :: before = left ++ [' '] := by
    rcases hbefore with rfl | ⟨before', c, rfl, hc⟩
    · exact ⟨[], rfl⟩
    · rw [hmem c (by simp) hc]
      exact ⟨' ' :: before', rfl⟩
  obtain ⟨right, hright⟩ : ∃ right, after ++ [' '] = ' ' :: right := by
    rcases hafter with rfl | ⟨c, after', rfl, hc⟩
    · exact ⟨[], rfl⟩
    · rw [hmem c (by simp) hc]
      exact ⟨after' ++ [' '], rfl⟩
  refine ⟨left, right, ?_⟩
  calc left ++ (' ' :: f ++ ' ' :: g ++ [' ']) ++ right
      = (left ++ [' ']) ++ f ++ [' '] ++ g ++ (' ' :: right) := by simp
    _ = (' ' :: before) ++ f ++ [' '] ++ g ++ (after ++ [' ']) := by rw [hleft, hright]
    _ = ' ' :: (before ++ f ++ [' '] ++ g ++ after) ++ [' '] := by simp

end Fields

/-! ### Trimming -/

/-- What begins with something else than white space still does. -/
theorem trimSpace_cons {c : Char} (text : List Char) (hc : isSpace c = false) :
    ∃ rest, trimSpace (c :: text) = c :: rest := by
  unfold trimSpace
  rw [List.dropWhile_cons_of_neg (by simp [hc]), List.reverse_cons, List.dropWhile_append]
  split
  · exact ⟨[], by simp [hc]⟩
  · exact ⟨(text.reverse.dropWhile isSpace).reverse, by simp⟩

/-- Text without white space is not trimmed. -/
theorem trimSpace_of_no_space {text : List Char} (h : ∀ c ∈ text, isSpace c = false) :
    trimSpace text = text := by
  have hself : ∀ text' : List Char, (∀ c ∈ text', isSpace c = false) → text'.dropWhile isSpace = text' := by
    intro text' h'
    cases text' with
    | nil => rfl
    | cons c rest => rw [List.dropWhile_cons_of_neg (by simp [h' c List.mem_cons_self])]
  unfold trimSpace
  rw [hself text h, hself _ (fun c hc => h c (List.mem_reverse.mp hc)), List.reverse_reverse]

theorem trimSpace_isInfix (text : List Char) : trimSpace text <:+: text := by
  have hbegins : trimSpace text <+: text.dropWhile isSpace := by
    conv_rhs => rw [← List.reverse_reverse (text.dropWhile isSpace)]
    exact List.reverse_prefix.mpr (List.dropWhile_suffix _)
  exact hbegins.isInfix.trans (List.dropWhile_suffix _).isInfix

/-- White space at the end is trimmed. -/
theorem trimSpace_append_space {c : Char} (text : List Char) (hc : isSpace c = true) :
    trimSpace (text ++ [c]) = trimSpace text := by
  unfold trimSpace
  rw [List.dropWhile_append]
  split
  case isTrue hnil =>
    have hnil' : text.dropWhile isSpace = [] := List.isEmpty_iff.mp hnil
    rw [hnil', List.dropWhile_cons_of_pos hc]
    rfl
  case isFalse hne =>
    rw [List.reverse_append]
    show ((c :: (text.dropWhile isSpace).reverse).dropWhile isSpace).reverse = _
    rw [List.dropWhile_cons_of_pos hc]

end WebVPN.Library
