import WebVPN.Library.Netip
import WebVPN.Library.Text

namespace WebVPN.Library

/-!
# Library — how addresses are written

`Addr.String` of `net/netip`: dotted decimal for IPv4, groups of hexadecimal digits for IPv6 with the
first of the longest runs of zero groups left out, and the zone after a percent sign.

* `Addr.text` — the text of an address;
* `Addr.Plain` — an address with a family and without a zone, which is what a prefix contains;
* `Addr.Plain.length_text` — no plain address is longer than 39 characters;
* `Addr.Plain.addrChar` — and it consists of digits, the letters up to `f`, points and colons.
-/

/-! ### Writing -/

/-- The parts of a text with a separator between them. -/
def joinWith (separator : Char) (parts : List (List Char)) : List Char :=
  List.intercalate [separator] parts

theorem joinWith_cons_cons (separator : Char) (part next : List Char) (parts : List (List Char)) :
    joinWith separator (part :: next :: parts)
      = part ++ separator :: joinWith separator (next :: parts) := by
  simp [joinWith, List.intercalate, List.intersperse]

/-- Dotted decimal. -/
def v4Text (a : BitVec 32) : List Char :=
  joinWith '.' ([24, 16, 8, 0].map (fun shift => Nat.toDigits 10 ((a >>> shift).truncate 8 : BitVec 8).toNat))

/-- The eight groups of an IPv6 address. -/
def hextets (a : BitVec 128) : List (BitVec 16) :=
  [112, 96, 80, 64, 48, 32, 16, 0].map (fun shift => (a >>> shift).truncate 16)

/-- The number of zero groups from a position on. -/
def zeroRun (groups : List (BitVec 16)) (start : Nat) : Nat :=
  ((groups.drop start).takeWhile (fun group => group == 0)).length

/-- Start and length of the first of the longest runs of at least two zero groups. -/
def longestZeros (groups : List (BitVec 16)) : Nat × Nat :=
  (List.range groups.length).foldl (fun best start =>
    if 2 ≤ zeroRun groups start ∧ best.2 < zeroRun groups start then (start, zeroRun groups start)
    else best) (0, 0)

/-- Groups with colons in between. -/
def hextetsText (groups : List (BitVec 16)) : List Char :=
  joinWith ':' (groups.map (fun group => Nat.toDigits 16 group.toNat))

/-- An IPv6 address, its longest run of zeros left out. -/
def v6Text (a : BitVec 128) : List Char :=
  let groups := hextets a
  let zeros := longestZeros groups
  if zeros.2 = 0 then hextetsText groups
  else hextetsText (groups.take zeros.1) ++ ':' :: ':' :: hextetsText (groups.drop (zeros.1 + zeros.2))

/-- `Addr.String`. -/
def Addr.text : Addr → List Char
  | .zero => "invalid IP".toList
  | .v4 a => v4Text a
  | .v6 a zone =>
    (if a >>> 32 == 0xffff#128 then "::ffff:".toList ++ v4Text (a.truncate 32) else v6Text a) ++
      (if zone = "" then [] else '%' :: zone.toList)

example : (Addr.v6 0x20010db8000000000001000000000001#128 "").text = "2001:db8::1:0:0:1".toList := by
  decide +kernel

theorem Addr.text_v6 (a : BitVec 128) : (Addr.v6 a "").text
    = if a >>> 32 == 0xffff#128 then "::ffff:".toList ++ v4Text (a.truncate 32) else v6Text a :=
  List.append_nil _

/-- An address of one of the two families, without a zone. -/
def Addr.Plain : Addr → Prop
  | .zero => False
  | .v4 _ => True
  | .v6 _ zone => zone = ""

variable {address : Addr}

theorem Prefix.contains_plain {p : Prefix} (h : p.contains address = true) : address.Plain := by
  cases p <;> cases address
  case v6.v6 => exact beq_iff_eq.mp (Bool.and_eq_true_iff.mp h).1
  case v4.v4 => trivial
  all_goals cases h

/-! ### Length -/

section Lengths

variable {separator : Char} {parts : List (List Char)} {n : Nat}

/-- Every part but the first has a separator before it. -/
theorem length_joinWith_le (h : ∀ part ∈ parts, part.length ≤ n) :
    (joinWith separator parts).length ≤ (n + 1) * parts.length - 1 := by
  induction parts with
  | nil => simp [joinWith]
  | cons part parts ih =>
    have hpart := h part List.mem_cons_self
    have hparts := ih (fun p hp => h p (List.mem_cons_of_mem _ hp))
    cases parts with
    | nil => simpa [joinWith] using hpart
    | cons next parts =>
      rw [joinWith_cons_cons]
      simp only [List.length_append, List.length_cons] at hparts ⊢
      have hmul : (n + 1) * (parts.length + 1 + 1) = (n + 1) * (parts.length + 1) + (n + 1) := by
        rw [Nat.mul_succ]
      have hpos : 1 ≤ (n + 1) * (parts.length + 1) := Nat.mul_pos (by omega) (by omega)
      omega

theorem length_v4Text (a : BitVec 32) : (v4Text a).length ≤ 15 := by
  refine length_joinWith_le (n := 3) (fun part hpart => ?_)
  obtain ⟨shift, -, rfl⟩ := List.mem_map.mp hpart
  have hlt := ((a >>> shift).truncate 8 : BitVec 8).isLt
  exact (Nat.length_toDigits_le_iff (by decide) (by decide)).mpr (by omega)

theorem length_hextetsText (groups : List (BitVec 16)) :
    (hextetsText groups).length ≤ 5 * groups.length - 1 := by
  have hgroup : ∀ part ∈ groups.map (fun group => Nat.toDigits 16 group.toNat), part.length ≤ 4 := by
    intro part hpart
    obtain ⟨group, -, rfl⟩ := List.mem_map.mp hpart
    exact (Nat.length_toDigits_le_iff (by decide) (by decide)).mpr group.isLt
  have h : (hextetsText groups).length ≤ _ := length_joinWith_le hgroup
  rwa [List.length_map] at h

end Lengths

theorem zeroRun_le (groups : List (BitVec 16)) (start : Nat) :
    zeroRun groups start ≤ groups.length - start := by
  rw [← List.length_drop]
  exact (List.takeWhile_sublist _).length_le

/-- What is left out are at least two of the groups. -/
theorem longestZeros_cases (groups : List (BitVec 16)) : (longestZeros groups).2 = 0 ∨
    2 ≤ (longestZeros groups).2 ∧ (longestZeros groups).1 + (longestZeros groups).2 ≤ groups.length := by
  unfold longestZeros
  -- over the positions: every run that was taken has two groups
  generalize List.range groups.length = positions
  suffices h : ∀ best : Nat × Nat, best.2 = 0 ∨ 2 ≤ best.2 ∧ best.1 + best.2 ≤ groups.length →
      let found := positions.foldl (fun best start =>
        if 2 ≤ zeroRun groups start ∧ best.2 < zeroRun groups start then (start, zeroRun groups start)
        else best) best
      found.2 = 0 ∨ 2 ≤ found.2 ∧ found.1 + found.2 ≤ groups.length from h (0, 0) (.inl rfl)
  induction positions with
  | nil => exact fun _ hbest => hbest
  | cons start positions ih =>
    intro best hbest
    refine ih _ ?_
    simp only
    split
    · rename_i hrun
      have hle := zeroRun_le groups start
      exact .inr ⟨hrun.1, by omega⟩
    · exact hbest

theorem length_v6Text (a : BitVec 128) : (v6Text a).length ≤ 39 := by
  have hgroups : (hextets a).length = 8 := rfl
  unfold v6Text
  simp only
  split
  · have h := length_hextetsText (hextets a)
    rw [hgroups] at h
    exact h
  · rename_i hzeros
    obtain ⟨htwo, hend⟩ := (longestZeros_cases (hextets a)).resolve_left hzeros
    rw [hgroups] at hend
    have hbefore := length_hextetsText ((hextets a).take (longestZeros (hextets a)).1)
    have hafter := length_hextetsText
      ((hextets a).drop ((longestZeros (hextets a)).1 + (longestZeros (hextets a)).2))
    rw [List.length_take, hgroups] at hbefore
    rw [List.length_drop, hgroups] at hafter
    rw [List.length_append, List.length_cons, List.length_cons]
    omega

/-- **The longest address.** -/
theorem Addr.Plain.length_text (h : address.Plain) : address.text.length ≤ 39 := by
  cases address with
  | zero => exact h.elim
  | v4 a =>
    have hlength := length_v4Text a
    show (v4Text a).length ≤ 39
    omega
  | v6 a zone =>
    obtain rfl : zone = "" := h
    rw [Addr.text_v6]
    split
    · have hlength := length_v4Text (a.truncate 32)
      rw [List.length_append]
      show 7 + (v4Text (a.truncate 32)).length ≤ 39
      omega
    · exact length_v6Text a

/-! ### Characters -/

/-- The characters of an address without a zone. -/
def addrChar (c : Char) : Bool := c.isDigit || ('a' ≤ c && c ≤ 'f') || c == '.' || c == ':'

theorem addrChar_joinWith {separator : Char} {parts : List (List Char)} (hsep : addrChar separator = true)
    (h : ∀ part ∈ parts, ∀ c ∈ part, addrChar c = true) : ∀ c ∈ joinWith separator parts, addrChar c = true := by
  induction parts with
  | nil => simp [joinWith]
  | cons part parts ih =>
    have hpart := h part List.mem_cons_self
    have hparts := ih (fun p hp => h p (List.mem_cons_of_mem _ hp))
    cases parts with
    | nil => simpa [joinWith] using hpart
    | cons next parts =>
      intro c hc
      rw [joinWith_cons_cons] at hc
      rcases List.mem_append.mp hc with hc | hc
      · exact hpart c hc
      · rcases List.mem_cons.mp hc with rfl | hc
        · exact hsep
        · exact hparts c hc

/-- The digits of every base up to sixteen. -/
theorem addrChar_toDigits {b n : Nat} (hb : 1 < b) (hb' : b ≤ 16) :
    ∀ c ∈ Nat.toDigits b n, addrChar c = true := by
  have hdigit : ∀ d < 16, addrChar d.digitChar = true := by decide
  induction n using Nat.strong_induction_on with
  | _ n ih =>
    intro c hc
    by_cases hlt : n < b
    · rw [Nat.toDigits_of_lt_base hlt, List.mem_singleton] at hc
      rw [hc]
      exact hdigit n (by omega)
    · rw [Nat.toDigits_of_base_le hb (by omega), List.mem_append, List.mem_singleton] at hc
      rcases hc with hc | rfl
      · exact ih (n / b) (Nat.div_lt_self (by omega) hb) c hc
      · have := Nat.mod_lt n (show b > 0 by omega)
        exact hdigit (n % b) (by omega)

theorem addrChar_v4Text (a : BitVec 32) : ∀ c ∈ v4Text a, addrChar c = true := by
  refine addrChar_joinWith rfl (fun part hpart => ?_)
  obtain ⟨shift, -, rfl⟩ := List.mem_map.mp hpart
  exact addrChar_toDigits (by decide) (by decide)

theorem addrChar_hextetsText (groups : List (BitVec 16)) : ∀ c ∈ hextetsText groups, addrChar c = true := by
  refine addrChar_joinWith rfl (fun part hpart => ?_)
  obtain ⟨group, -, rfl⟩ := List.mem_map.mp hpart
  exact addrChar_toDigits (by decide) (by decide)

theorem Addr.Plain.addrChar (h : address.Plain) : ∀ c ∈ address.text, addrChar c = true := by
  cases address with
  | zero => exact h.elim
  | v4 a => exact addrChar_v4Text a
  | v6 a zone =>
    obtain rfl : zone = "" := h
    intro c hc
    rw [Addr.text_v6] at hc
    split at hc
    · rcases List.mem_append.mp hc with hc | hc
      · have hmapped : ∀ c ∈ "::ffff:".toList, Library.addrChar c = true := by decide
        exact hmapped c hc
      · exact addrChar_v4Text _ c hc
    · unfold v6Text at hc
      simp only at hc
      split at hc
      · exact addrChar_hextetsText _ c hc
      · simp only [List.mem_append, List.mem_cons] at hc
        rcases hc with hc | rfl | rfl | hc
        · exact addrChar_hextetsText _ c hc
        · rfl
        · rfl
        · exact addrChar_hextetsText _ c hc

end WebVPN.Library
