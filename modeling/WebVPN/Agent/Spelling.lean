import WebVPN.Agent.Config
import WebVPN.Library.Lines
import WebVPN.Library.Utf8

namespace WebVPN.Agent

open WebVPN.Library

/-!
# Agent — numeric spellings of addresses

Many address parsers read one to four numbers with dots between them as an IPv4 address, each
number in decimal or in hexadecimal.  `validHostname` has to reject the spellings that
`net.ParseIP` does not know, because a resolver may read them as an address.  The check looks for
`0x` in front of the whole text, and for a text of decimal digits only.

* `NumericSpelling` — the texts of that form;
* `ambiguousIPAddress_iff` — what the check finds among them;
* `validHostname_numeric` — when a numeric spelling is rejected unless `net.ParseIP` accepts it;
* `accepts_hexadecimal` — a spelling that is accepted as a host name.
-/

/-! ### Spellings -/

/-- A number in decimal. -/
def isDecimal (part : List Char) : Bool := part ≠ [] && part.all (fun c => '0' ≤ c && c ≤ '9')

/-- A hexadecimal digit. -/
def isHexadecimal (c : Char) : Bool :=
  ('0' ≤ c && c ≤ '9') || ('a' ≤ c && c ≤ 'f') || ('A' ≤ c && c ≤ 'F')

/-- `0x`, in any case, and hexadecimal digits. -/
def isHex : List Char → Bool
  | c :: x :: digits => c == '0' && (x == 'x' || x == 'X') && digits.all isHexadecimal
  | _ => false

/-- One to four numbers with dots between them. -/
structure NumericSpelling (value : List Char) : Prop where
  count : (splitChar '.' value).length ≤ 4
  parts : ∀ part ∈ splitChar '.' value, isDecimal part = true ∨ isHex part = true

/-! ### Characters -/

theorem toNat_lt_of_labelCharacter {c : Char} (h : labelCharacter c = true) : c.toNat < 128 := by
  simp only [labelCharacter, Bool.or_eq_true, Bool.and_eq_true, decide_eq_true_eq, beq_iff_eq,
    Char.le_def, UInt32.le_iff_toNat_le] at h
  have hval : c.toNat = c.val.toNat := rfl
  have hZ : 'Z'.val.toNat = 90 := rfl
  have hz : 'z'.val.toNat = 122 := rfl
  have h9 : '9'.val.toNat = 57 := rfl
  rcases h with h | rfl
  · omega
  · decide

theorem toNat_lt_of_isHexadecimal {c : Char} (h : isHexadecimal c = true) : c.toNat < 128 := by
  simp only [isHexadecimal, Bool.or_eq_true, Bool.and_eq_true, decide_eq_true_eq, Char.le_def,
    UInt32.le_iff_toNat_le] at h
  have hval : c.toNat = c.val.toNat := rfl
  have hF : 'F'.val.toNat = 70 := rfl
  have hf : 'f'.val.toNat = 102 := rfl
  have h9 : '9'.val.toNat = 57 := rfl
  omega

/-! ### Numbers -/

section Parts

variable {part : List Char}

theorem ne_nil_of_numeric (h : isDecimal part = true ∨ isHex part = true) : part ≠ [] := by
  rintro rfl
  rcases h with h | h <;> revert h <;> decide

/-- The characters of a number: letters of a label, and no white space. -/
theorem of_mem_numeric (h : isDecimal part = true ∨ isHex part = true) {c : Char} (hc : c ∈ part) :
    c.toNat < 128 ∧ labelCharacter c = true ∧ c ≠ '-' := by
  have hchar : isHexadecimal c = true ∨ c = 'x' ∨ c = 'X' := by
    rcases h with h | h
    · simp only [isDecimal, Bool.and_eq_true, List.all_eq_true] at h
      have hdigit := h.2 c hc
      exact .inl (by simp [isHexadecimal, hdigit])
    · unfold isHex at h
      split at h
      · simp only [Bool.and_eq_true, Bool.or_eq_true, beq_iff_eq, List.all_eq_true] at h
        rcases List.mem_cons.mp hc with rfl | hc
        · rw [h.1.1]
          exact .inl (by decide)
        · rcases List.mem_cons.mp hc with rfl | hc
          · exact .inr h.1.2
          · exact .inl (h.2 c hc)
      · cases h
  have hlt : c.toNat < 128 := by
    rcases hchar with hchar | rfl | rfl
    · exact toNat_lt_of_isHexadecimal hchar
    · decide
    · decide
  have hascii : (isHexadecimal c = true ∨ c = 'x' ∨ c = 'X') → labelCharacter c = true ∧ c ≠ '-' :=
    forall_ascii (p := fun c => (isHexadecimal c = true ∨ c = 'x' ∨ c = 'X') →
      labelCharacter c = true ∧ c ≠ '-') (by decide +kernel) hlt
  exact ⟨hlt, hascii hchar⟩

/-- A number is a label unless it is too long. -/
theorem validLabel_of_numeric (h : isDecimal part = true ∨ isHex part = true) :
    validLabel part = true ↔ part.length ≤ 63 := by
  have hne := ne_nil_of_numeric h
  have hsize : byteLength part = part.length := by
    unfold byteLength
    rw [String.utf8ByteSize_ofList]
    exact utf8Len_of_ascii (fun c hc => (of_mem_numeric h hc).1)
  have hhead : part.head? ≠ some '-' :=
    fun heq => (of_mem_numeric h (List.mem_of_mem_head? heq)).2.2 rfl
  have hlast : part.getLast? ≠ some '-' :=
    fun heq => (of_mem_numeric h (List.mem_of_mem_getLast? heq)).2.2 rfl
  have hall : part.all labelCharacter = true :=
    List.all_eq_true.mpr (fun c hc => (of_mem_numeric h hc).2.1)
  simp [validLabel, hne, hsize, hhead, hlast, hall]

end Parts

/-! ### The check -/

section Check

variable {value : String}

/-- The loop finds the texts whose parts are all in decimal. -/
theorem ambiguousParts_iff {parts : List (List Char)} (h : ∀ part ∈ parts, part ≠ []) :
    ambiguousParts parts = true ↔ ∀ part ∈ parts, isDecimal part = true := by
  induction parts with
  | nil => simp [ambiguousParts]
  | cons part parts ih =>
    obtain ⟨hpart, hparts⟩ := List.forall_mem_cons.mp h
    have hdecimal : isDecimal part = !part.any (fun c => c < '0' || '9' < c) := by
      simp [isDecimal, hpart, List.not_any_eq_all_not, ← decide_not]
    rw [ambiguousParts, if_neg hpart, List.forall_mem_cons, ← ih hparts, hdecimal]
    cases part.any (fun c => c < '0' || '9' < c) with
    | true => simp
    | false => simp

/-- The characters of a numeric spelling. -/
theorem NumericSpelling.of_mem (h : NumericSpelling value.toList) {c : Char}
    (hc : c ∈ value.toList) : c.toNat < 128 ∧ (labelCharacter c = true ∨ c = '.') := by
  rcases mem_splitChar '.' hc with rfl | ⟨part, hpart, hmem⟩
  · exact ⟨by decide, .inr rfl⟩
  · obtain ⟨hlt, hlabel, -⟩ := of_mem_numeric (h.parts part hpart) hmem
    exact ⟨hlt, .inl hlabel⟩

/-- `0x` in front of the text is `0x` in front of its first part. -/
theorem isPrefixOf_toLower_iff (u : Unicode) (h : NumericSpelling value.toList) :
    "0x".toList.isPrefixOf (u.toLower value).toList = true ↔
      ∃ part parts, splitChar '.' value.toList = part :: parts ∧ isHex part = true := by
  obtain ⟨part, parts, hsplit⟩ := exists_splitChar '.' value.toList
  have hparts := h.parts
  rw [hsplit] at hparts
  have hfirst := hparts part List.mem_cons_self
  obtain ⟨rest, hvalue, hrest⟩ := eq_append_of_splitChar hsplit
  have htext : (u.toLower value).toList = (part ++ rest).map asciiLower := by
    unfold Unicode.toLower
    rw [String.toList_ofList, ← hvalue]
    exact List.map_congr_left (fun c hc => u.lower_ascii c (h.of_mem hc).1)
  have hpattern : "0x".toList = ['0', 'x'] := by decide
  rw [htext, hpattern]
  constructor
  · intro hbegins
    refine ⟨part, parts, hsplit, ?_⟩
    rcases hfirst with hdecimal | hhex
    · -- the second character of a decimal number, or what follows a single digit, is no letter
      exfalso
      have hdigit : ∀ c ∈ part, asciiLower c ≠ 'x' := by
        intro c hc
        simp only [isDecimal, Bool.and_eq_true, List.all_eq_true, decide_eq_true_eq] at hdecimal
        have hascii : '0' ≤ c ∧ c ≤ '9' → asciiLower c ≠ 'x' :=
          forall_ascii (p := fun c => '0' ≤ c ∧ c ≤ '9' → asciiLower c ≠ 'x') (by decide +kernel)
            (of_mem_numeric (hparts part List.mem_cons_self) hc).1
        exact hascii (hdecimal.2 c hc)
      have hsecond : ∀ c ∈ ((part ++ rest).drop 1).head?, asciiLower c ≠ 'x' := by
        intro c hc
        cases part with
        | nil => exact absurd hdecimal (by decide)
        | cons first part =>
          cases part with
          | nil =>
            rw [hrest c hc]
            decide
          | cons second part =>
            cases hc
            exact hdigit _ (by simp)
      cases htail : part ++ rest with
      | nil =>
        rw [htail] at hbegins
        cases hbegins
      | cons first tail =>
        rw [htail] at hbegins hsecond
        cases tail with
        | nil => simp [List.isPrefixOf] at hbegins
        | cons second tail =>
          have hne := hsecond second rfl
          simp [List.isPrefixOf, Ne.symm hne] at hbegins
    · exact hhex
  · rintro ⟨part', parts', hsplit', hhex⟩
    rw [hsplit] at hsplit'
    cases hsplit'
    unfold isHex at hhex
    split at hhex
    · rename_i c x digits
      simp only [Bool.and_eq_true, Bool.or_eq_true, beq_iff_eq] at hhex
      obtain ⟨⟨rfl, hx⟩, -⟩ := hhex
      have h0 : asciiLower '0' = '0' := by decide
      have hlower : asciiLower x = 'x' := by
        rcases hx with rfl | rfl <;> decide
      simp [List.isPrefixOf, h0, hlower]
    · cases hhex

/-- **What the check finds.**  A numeric spelling is ambiguous to it if its first part is hexadecimal
    or all its parts are decimal. -/
theorem ambiguousIPAddress_iff (platform : Platform) (h : NumericSpelling value.toList) :
    ambiguousIPAddress platform value = true ↔
      (∃ part parts, splitChar '.' value.toList = part :: parts ∧ isHex part = true) ∨
        ∀ part ∈ splitChar '.' value.toList, isDecimal part = true := by
  unfold ambiguousIPAddress
  rw [Bool.or_eq_true, isPrefixOf_toLower_iff _ h,
    ambiguousParts_iff (fun part hpart => ne_nil_of_numeric (h.parts part hpart))]

/-- The checks in front of the parser of addresses do not reject a numeric spelling. -/
theorem NumericSpelling.passes (h : NumericSpelling value.toList) :
    ¬ (value = "" ∨ trimSpace value.toList ≠ value.toList ∨ value.toList.getLast? = some '.' ∨
      containsAny value.toList ['\x00', '/', '@', '[', ']'] = true) := by
  have hchar : ∀ c ∈ value.toList, isSpace c = false ∧ c ∉ ['\x00', '/', '@', '[', ']'] := by
    intro c hc
    obtain ⟨hlt, hkind⟩ := h.of_mem hc
    have hascii : (labelCharacter c = true ∨ c = '.') →
        isSpace c = false ∧ c ∉ ['\x00', '/', '@', '[', ']'] :=
      forall_ascii (p := fun c => (labelCharacter c = true ∨ c = '.') →
        isSpace c = false ∧ c ∉ ['\x00', '/', '@', '[', ']']) (by decide +kernel) hlt
    exact hascii hkind
  rintro (hempty | htrim | hdot | hany)
  · rw [hempty] at h
    exact absurd (h.parts [] (by decide)) (by decide)
  · exact htrim (trimSpace_of_no_space (fun c hc => (hchar c hc).1))
  · -- the last part would be empty
    obtain ⟨text, htext⟩ := List.getLast?_eq_some_iff.mp hdot
    obtain ⟨part, parts, hsplit, hnil⟩ := exists_splitChar_append_sep '.' text
    rw [← htext] at hsplit
    exact ne_nil_of_numeric (h.parts [] (by rw [hsplit]; exact List.mem_cons_of_mem _ hnil)) rfl
  · obtain ⟨c, hc, hmem⟩ := List.any_eq_true.mp hany
    exact (hchar c hc).2 (of_decide_eq_true hmem)

end Check

/-- **Numeric spellings are not host names.**  A numeric spelling is accepted only if `net.ParseIP`
    accepts it, exactly if `net.ParseIP` accepts it, its first part is hexadecimal, all parts are
    decimal, or it is too long for a host name. -/
theorem validHostname_numeric (platform : Platform) (value : String)
    (h : NumericSpelling value.toList) :
    (validHostname platform value = true → (platform.parseIP value).isSome = true) ↔
      (platform.parseIP value).isSome = true ∨
      (∃ part parts, splitChar '.' value.toList = part :: parts ∧ isHex part = true) ∨
      (∀ part ∈ splitChar '.' value.toList, isDecimal part = true) ∨
      (∃ part ∈ splitChar '.' value.toList, 63 < part.length) ∨ 253 < value.length := by
  have hsize : value.utf8ByteSize = value.length := by
    conv_lhs => rw [← String.ofList_toList (s := value), String.utf8ByteSize_ofList]
    rw [utf8Len_of_ascii (fun c hc => (h.of_mem hc).1), String.length_toList]
  have hlabels : (splitChar '.' value.toList).all validLabel = true ↔
      ∀ part ∈ splitChar '.' value.toList, part.length ≤ 63 := by
    rw [List.all_eq_true]
    exact forall₂_congr (fun part hpart => validLabel_of_numeric (h.parts part hpart))
  unfold validHostname
  rw [if_neg h.passes]
  cases hip : platform.parseIP value with
  | some address => simp
  | none =>
    have hcheck := ambiguousIPAddress_iff platform h
    simp only [Option.isSome_none, Bool.false_eq_true, imp_false, false_or, hsize]
    by_cases hambiguous : ambiguousIPAddress platform value = true
    · rw [if_pos hambiguous]
      simp only [Bool.false_eq_true, not_false_eq_true, true_iff]
      rcases hcheck.mp hambiguous with hhex | hdecimal
      · exact .inl hhex
      · exact .inr (.inl hdecimal)
    · obtain ⟨hhex, hdecimal⟩ := not_or.mp (fun hor => hambiguous (hcheck.mpr hor))
      rw [if_neg hambiguous]
      by_cases hlong : 253 < value.length
      · simp [hlong]
      · rw [if_neg hlong, hlabels]
        simp only [hhex, hdecimal, hlong, false_or, or_false]
        simp only [not_forall, Nat.not_le, exists_prop]

/-! ### Runs -/

/-- A platform that knows three addresses. -/
def literalPlatform : Platform where
  unicode := .ascii
  quote text := "\"" ++ text ++ "\""
  parseURL _ := none
  isAbs _ := false
  parseIP text :=
    if text = "203.0.113.7" then some 0xffffcb007107#128
    else if text = "100.64.0.1" then some 0xffff64400001#128
    else if text = "2001:db8::7" then some 0x20010db8000000000000000000000007#128
    else none
  parseAddr _ := none
  parsePrefix _ := none
  splitHostPort text :=
    match splitChar ':' text.toList with
    | [host, port] => some (String.ofList host, String.ofList port)
    | _ => none

/-- A spelling with a hexadecimal number in front. -/
theorem validHostname_numeric_of_hexadecimal :
    NumericSpelling "0x7f.1".toList ∧
      (validHostname literalPlatform "0x7f.1" = true → (literalPlatform.parseIP "0x7f.1").isSome = true) :=
  ⟨⟨by decide, by decide⟩, (validHostname_numeric literalPlatform "0x7f.1" ⟨by decide, by decide⟩).mpr
    (.inr (.inl ⟨['0', 'x', '7', 'f'], [['1']], by decide, by decide⟩))⟩

/-- **A numeric spelling is accepted as a host name.**  The hexadecimal number does not stand first, so
    the check sees neither `0x` in front nor decimal digits only; `net.ParseIP` knows no such form. -/
theorem accepts_hexadecimal :
    NumericSpelling "10.0x1".toList ∧
      (∀ platform : Platform, platform.parseIP "10.0x1" = none →
        validHostname platform "10.0x1" = true) ∧
      literalPlatform.parseIP "10.0x1" = none := by
  refine ⟨⟨by decide, by decide⟩, ?_, by decide +kernel⟩
  intro platform hip
  have hspelling : NumericSpelling "10.0x1".toList := ⟨by decide, by decide⟩
  have hambiguous : ambiguousIPAddress platform "10.0x1" = false := by
    rw [← Bool.not_eq_true, ambiguousIPAddress_iff platform hspelling]
    rintro (⟨part, parts, hsplit, hhex⟩ | hdecimal)
    · have hparts : splitChar '.' "10.0x1".toList = [['1', '0'], ['0', 'x', '1']] := by decide
      cases hsplit
      revert hhex
      decide
    · revert hdecimal
      decide
  unfold validHostname
  rw [if_neg hspelling.passes, hip]
  simp only [hambiguous]
  decide +kernel

end WebVPN.Agent
