import Mathlib.Data.List.Nodup
import Mathlib.Tactic.Ring

namespace WebVPN.Library

/-!
# Library — bit strings, base64 and base32

The encodings of RFC 4648 as regroupings of one bit string: bytes are groups of 8 bits,
base64 digits groups of 6, base32 digits groups of 5, always most significant bit first.

* `bits` / `bitsValue` — a number as a bit string of given width, and back;
* `groups` — cut a bit string into groups, padding the last one with zeros;
* `fullGroups` — the same, dropping an incomplete last group;
* `decode64` — the bytes of a sequence of base64 digits.  Bits that are left over are not
  looked at, as decoders without a strict mode do, so different digits may decode alike;
* `decode64_encode64`, `rawDecode_writeDigits` — the round trip of base64;
* `encode32` — the base32 digits of a sequence of bytes, injective for a fixed number of
  bytes (`encode32_injective`).
-/

/-! ### Bit strings -/

/-- The `w` low bits of a number, most significant first. -/
def bits : Nat → Nat → List Bool
  | 0, _ => []
  | w + 1, n => n.testBit w :: bits w n

/-- The number a bit string stands for. -/
def bitsValue (bs : List Bool) : Nat := bs.foldl (fun n b => 2 * n + b.toNat) 0

@[simp] theorem length_bits (w n : Nat) : (bits w n).length = w := by
  induction w with
  | zero => rfl
  | succ w ih => simp [bits, ih]

theorem foldl_bitsValue (bs : List Bool) (n : Nat) :
    bs.foldl (fun n b => 2 * n + b.toNat) n = n * 2 ^ bs.length + bitsValue bs := by
  induction bs generalizing n with
  | nil => simp [bitsValue]
  | cons b bs ih =>
    rw [bitsValue, List.foldl_cons, List.foldl_cons, ih, ih]
    simp only [List.length_cons]
    ring

theorem bitsValue_append (as bs : List Bool) :
    bitsValue (as ++ bs) = bitsValue as * 2 ^ bs.length + bitsValue bs := by
  rw [bitsValue, List.foldl_append, foldl_bitsValue]
  rfl

theorem bitsValue_cons (b : Bool) (bs : List Bool) :
    bitsValue (b :: bs) = b.toNat * 2 ^ bs.length + bitsValue bs := by
  rw [← List.singleton_append, bitsValue_append]
  simp [bitsValue]

theorem bitsValue_lt (bs : List Bool) : bitsValue bs < 2 ^ bs.length := by
  induction bs with
  | nil => simp [bitsValue]
  | cons b bs ih =>
    rw [bitsValue_cons, List.length_cons, Nat.pow_succ]
    cases b <;> simp <;> omega

/-- Reading the `w` low bits back. -/
theorem bitsValue_bits (w n : Nat) : bitsValue (bits w n) = n % 2 ^ w := by
  induction w with
  | zero => simp [bits, bitsValue, Nat.mod_one]
  | succ w ih =>
    rw [bits, bitsValue_cons, ih, length_bits, Nat.mod_pow_succ, Nat.testBit_eq_decide_div_mod_eq]
    have hbit : n / 2 ^ w % 2 < 2 := Nat.mod_lt _ (by decide)
    rcases Nat.lt_succ_iff_lt_or_eq.mp hbit with h | h
    · have hzero : n / 2 ^ w % 2 = 0 := by omega
      simp [hzero]
    · simp [h, Nat.add_comm]

/-- Bit strings of one length with one value are equal. -/
theorem bitsValue_injective {as bs : List Bool} (hlen : as.length = bs.length)
    (h : bitsValue as = bitsValue bs) : as = bs := by
  induction as generalizing bs with
  | nil => exact (List.eq_nil_of_length_eq_zero hlen.symm).symm
  | cons a as ih =>
    cases bs with
    | nil => cases hlen
    | cons b bs =>
      rw [List.length_cons, List.length_cons, Nat.add_right_cancel_iff] at hlen
      rw [bitsValue_cons, bitsValue_cons, hlen] at h
      have ha := bitsValue_lt as
      have hb := bitsValue_lt bs
      -- the leading bits differ by a whole power of two, the rest by less
      have hhead : a = b := by
        cases a <;> cases b <;> simp_all
        omega
      subst hhead
      rw [ih hlen (by omega)]

/-- The bits of the value of a bit string. -/
theorem bits_bitsValue (bs : List Bool) : bits bs.length (bitsValue bs) = bs := by
  apply bitsValue_injective (length_bits _ _)
  rw [bitsValue_bits, Nat.mod_eq_of_lt (bitsValue_lt bs)]

/-! ### Groups -/

/-- Cut a bit string into groups of `w` bits, `pending` being the bits of a group that has
    been begun: the complete groups, and what is left. -/
def regroup (w : Nat) : List Bool → List Bool → List (List Bool) × List Bool
  | pending, [] => ([], pending)
  | pending, b :: bs =>
    if pending.length + 1 = w then
      ((pending ++ [b]) :: (regroup w [] bs).1, (regroup w [] bs).2)
    else regroup w (pending ++ [b]) bs

/-- The complete groups, as numbers. -/
def fullGroups (w : Nat) (bs : List Bool) : List Nat := (regroup w [] bs).1.map bitsValue

/-- All groups, as numbers, the last one filled up with zeros. -/
def groups (w : Nat) (bs : List Bool) : List Nat :=
  let rest := (regroup w [] bs).2
  fullGroups w bs ++
    if rest = [] then [] else [bitsValue (rest ++ List.replicate (w - rest.length) false)]

section Regroup

variable (w : Nat) (pending bs : List Bool)

/-- Regrouping loses nothing and reorders nothing. -/
theorem regroup_flatten : (regroup w pending bs).1.flatten ++ (regroup w pending bs).2 =
    pending ++ bs := by
  induction bs generalizing pending with
  | nil => simp [regroup]
  | cons b bs ih =>
    rw [regroup]
    split
    · have hrest := ih []
      simp only [List.flatten_cons, List.append_assoc, hrest]
      simp
    · rw [ih]
      simp

/-- Every group is complete. -/
theorem length_of_mem_regroup : ∀ g ∈ (regroup w pending bs).1, g.length = w := by
  induction bs generalizing pending with
  | nil => simp [regroup]
  | cons b bs ih =>
    intro g hg
    rw [regroup] at hg
    split at hg
    · rename_i hfull
      rcases List.mem_cons.mp hg with rfl | hg
      · simpa using hfull
      · exact ih [] g hg
    · exact ih _ g hg

/-- What is left is less than a group. -/
theorem length_regroup_rest (h : pending.length < w) : (regroup w pending bs).2.length < w := by
  induction bs generalizing pending with
  | nil => exact h
  | cons b bs ih =>
    rw [regroup]
    split
    · exact ih [] (by simp; omega)
    · exact ih _ (by simp; omega)

/-- The number of groups. -/
theorem length_regroup (h : 0 < w) : (regroup w [] bs).1.length = bs.length / w := by
  have hsum : ∀ gs : List (List Bool), (∀ g ∈ gs, g.length = w) →
      gs.flatten.length = gs.length * w := by
    intro gs hgs
    induction gs with
    | nil => simp
    | cons g gs ih =>
      rw [List.flatten_cons, List.length_append, hgs g List.mem_cons_self,
        ih (fun g' hg' => hgs g' (List.mem_cons_of_mem _ hg')), List.length_cons]
      ring
  have hflat := congrArg List.length (regroup_flatten w [] bs)
  have hrest := length_regroup_rest w [] bs h
  rw [List.length_append, hsum _ (length_of_mem_regroup w [] bs), List.nil_append] at hflat
  rw [← hflat, Nat.add_comm, Nat.add_mul_div_right _ _ h, Nat.div_eq_of_lt hrest, Nat.zero_add]

/-- Regrouping a string in two pieces. -/
theorem regroup_append (as : List Bool) :
    regroup w pending (as ++ bs) =
      ((regroup w pending as).1 ++ (regroup w (regroup w pending as).2 bs).1,
        (regroup w (regroup w pending as).2 bs).2) := by
  induction as generalizing pending with
  | nil => simp [regroup]
  | cons a as ih =>
    rw [List.cons_append, regroup, regroup]
    split
    · rw [ih]
      simp
    · rw [ih]

end Regroup

variable {w : Nat}

/-- A string that is less than a group. -/
theorem regroup_pending {pending : List Bool} (h : pending.length < w) :
    regroup w [] pending = ([], pending) := by
  have hstep : ∀ (rest acc : List Bool), acc.length + rest.length < w →
      regroup w acc rest = ([], acc ++ rest) := by
    intro rest
    induction rest with
    | nil => simp [regroup]
    | cons b rest ih =>
      intro acc hlen
      simp only [List.length_cons] at hlen
      rw [regroup, if_neg (by omega), ih (acc ++ [b]) (by simp; omega)]
      simp
  simpa using hstep pending [] (by simpa using h)

/-- The first group of a string that has one. -/
theorem regroup_group {g rest : List Bool} (hw : 0 < w) (hg : g.length = w) :
    regroup w [] (g ++ rest) = (g :: (regroup w [] rest).1, (regroup w [] rest).2) := by
  obtain ⟨init, b, rfl⟩ : ∃ init b, g = init ++ [b] :=
    ⟨g.dropLast, g.getLast (by rintro rfl; simp at hg; omega), (List.dropLast_append_getLast _).symm⟩
  have hinit : init.length + 1 = w := by simpa using hg
  rw [List.append_assoc, regroup_append, regroup_pending (by omega)]
  simp [regroup, hinit]

/-- Grouping a string in two pieces: what is left of the first is put before the second. -/
theorem groups_append (hw : 0 < w) (as bs : List Bool) : groups w (as ++ bs) =
      (regroup w [] as).1.map bitsValue ++ groups w ((regroup w [] as).2 ++ bs) := by
  have hrest : regroup w [] ((regroup w [] as).2 ++ bs) = regroup w (regroup w [] as).2 bs := by
    rw [regroup_append, regroup_pending (length_regroup_rest w [] as hw)]
    rfl
  unfold groups fullGroups
  rw [regroup_append, hrest, List.map_append, List.append_assoc]

/-- A group is a number of `w` bits. -/
theorem mem_groups_lt (hw : 0 < w) {bs : List Bool} {n : Nat} (h : n ∈ groups w bs) :
    n < 2 ^ w := by
  rcases List.mem_append.mp h with h | h
  · obtain ⟨g, hg, rfl⟩ := List.mem_map.mp h
    rw [← length_of_mem_regroup w [] bs g hg]
    exact bitsValue_lt g
  · split at h
    · cases h
    · rw [List.mem_singleton.mp h]
      have hrest := length_regroup_rest w [] bs hw
      have hlt := bitsValue_lt ((regroup w [] bs).2 ++
        List.replicate (w - (regroup w [] bs).2.length) false)
      rwa [List.length_append, List.length_replicate, Nat.add_sub_cancel' (Nat.le_of_lt hrest)]
        at hlt

/-- **The groups determine the string**: written out again they are the string and the
    zeros it was filled up with. -/
theorem groups_flatMap_bits (hw : 0 < w) (bs : List Bool) :
    ∃ k < w, (groups w bs).flatMap (bits w) = bs ++ List.replicate k false := by
  have hfull : ((fullGroups w bs).flatMap (bits w)) = (regroup w [] bs).1.flatten := by
    have hall := length_of_mem_regroup w [] bs
    unfold fullGroups
    generalize (regroup w [] bs).1 = gs at hall
    induction gs with
    | nil => rfl
    | cons g gs ih =>
      have hg : bits w (bitsValue g) = g := by
        have hb := bits_bitsValue g
        rwa [hall g List.mem_cons_self] at hb
      rw [List.map_cons, List.flatMap_cons, hg, List.flatten_cons,
        ih (fun g' hg' => hall g' (List.mem_cons_of_mem _ hg'))]
  have hflat := regroup_flatten w [] bs
  have hrest := length_regroup_rest w [] bs hw
  unfold groups
  simp only [List.flatMap_append, hfull]
  by_cases hnil : (regroup w [] bs).2 = []
  · refine ⟨0, hw, ?_⟩
    simpa [hnil] using hflat
  · have hpos := List.length_pos_iff.mpr hnil
    refine ⟨w - (regroup w [] bs).2.length, by omega, ?_⟩
    have hlen : ((regroup w [] bs).2 ++
        List.replicate (w - (regroup w [] bs).2.length) false).length = w := by
      simp only [List.length_append, List.length_replicate]
      omega
    have hlast := bits_bitsValue ((regroup w [] bs).2 ++
      List.replicate (w - (regroup w [] bs).2.length) false)
    rw [hlen] at hlast
    rw [if_neg hnil, List.flatMap_cons, List.flatMap_nil, List.append_nil, hlast,
      ← List.append_assoc, hflat, List.nil_append]

/-- Strings of one length with the same groups are equal. -/
theorem groups_injective (hw : 0 < w) {as bs : List Bool}
    (hlen : as.length = bs.length) (h : groups w as = groups w bs) : as = bs := by
  obtain ⟨k, -, hk⟩ := groups_flatMap_bits hw as
  obtain ⟨l, -, hl⟩ := groups_flatMap_bits hw bs
  rw [h, hl] at hk
  have htake := congrArg (List.take as.length) hk
  rw [hlen, List.take_left' rfl, ← hlen, List.take_left' rfl] at htake
  exact htake.symm

/-! ### Bytes and digits -/

/-- The bit string of a sequence of bytes. -/
def bytesBits (bytes : List UInt8) : List Bool := bytes.flatMap (fun b => bits 8 b.toNat)

/-- The bytes of a sequence of base64 digits; bits left over are dropped. -/
def decode64 (digits : List Nat) : List UInt8 :=
  (fullGroups 8 (digits.flatMap (bits 6))).map UInt8.ofNat

/-- The base64 digits of a sequence of bytes. -/
def encode64 (bytes : List UInt8) : List Nat := groups 6 (bytesBits bytes)

/-- The base32 digits of a sequence of bytes. -/
def encode32 (bytes : List UInt8) : List Nat := groups 5 (bytesBits bytes)

theorem length_flatMap_bits (w : Nat) (digits : List Nat) :
    (digits.flatMap (bits w)).length = w * digits.length := by
  induction digits with
  | nil => rfl
  | cons d digits ih =>
    rw [List.flatMap_cons, List.length_append, length_bits, ih, List.length_cons]
    ring

/-- `n` base64 digits stand for `6 * n / 8` bytes. -/
theorem length_decode64 (digits : List Nat) :
    (decode64 digits).length = 6 * digits.length / 8 := by
  rw [decode64, fullGroups, List.length_map, List.length_map, length_regroup 8 _ (by decide),
    length_flatMap_bits]

theorem length_bytesBits (bytes : List UInt8) : (bytesBits bytes).length = 8 * bytes.length := by
  induction bytes with
  | nil => rfl
  | cons b bytes ih =>
    rw [bytesBits, List.flatMap_cons, List.length_append, length_bits, ← bytesBits, ih,
      List.length_cons]
    ring

theorem bytesBits_injective {as bs : List UInt8} (h : bytesBits as = bytesBits bs) : as = bs := by
  have hlen : as.length = bs.length := by
    have := congrArg List.length h
    rw [length_bytesBits, length_bytesBits] at this
    omega
  induction as generalizing bs with
  | nil => exact (List.eq_nil_of_length_eq_zero hlen.symm).symm
  | cons a as ih =>
    cases bs with
    | nil => cases hlen
    | cons b bs =>
      obtain ⟨hhead, htail⟩ := List.append_inj h (by simp)
      have hab : a = b := by
        apply UInt8.toNat_inj.mp
        have hv := congrArg bitsValue hhead
        rwa [bitsValue_bits, bitsValue_bits, Nat.mod_eq_of_lt a.toNat_lt,
          Nat.mod_eq_of_lt b.toNat_lt] at hv
      rw [hab, ih htail (by simpa using hlen)]

/-- Byte sequences of one length have different base32 digits unless they are equal. -/
theorem encode32_injective {as bs : List UInt8} (hlen : as.length = bs.length)
    (h : encode32 as = encode32 bs) : as = bs := by
  apply bytesBits_injective
  apply groups_injective (by decide) _ h
  rw [length_bytesBits, length_bytesBits, hlen]

/-- Bytes are the groups of their bits. -/
theorem regroup_bytesBits (bytes : List UInt8) {rest : List Bool} (hrest : rest.length < 8) :
    (regroup 8 [] (bytesBits bytes ++ rest)).1 = bytes.map (fun b => bits 8 b.toNat) := by
  induction bytes with
  | nil =>
    rw [bytesBits, List.flatMap_nil, List.nil_append, regroup_pending hrest]
    rfl
  | cons b bytes ih =>
    rw [bytesBits, List.flatMap_cons, ← bytesBits, List.append_assoc,
      regroup_group (by decide) (length_bits _ _), ih, List.map_cons]

/-- **Round trip of base64.** -/
theorem decode64_encode64 (bytes : List UInt8) : decode64 (encode64 bytes) = bytes := by
  obtain ⟨k, hk, hbits⟩ := groups_flatMap_bits (w := 6) (by decide) (bytesBits bytes)
  have hbyte : ∀ b : UInt8, UInt8.ofNat (bitsValue (bits 8 b.toNat)) = b := by
    intro b
    rw [bitsValue_bits, Nat.mod_eq_of_lt b.toNat_lt, UInt8.ofNat_toNat]
  rw [decode64, encode64, hbits, fullGroups, regroup_bytesBits _ (by simp; omega), List.map_map,
    List.map_map]
  exact (List.map_congr_left (fun b _ => hbyte b)).trans (List.map_id bytes)

/-- One digit for each six bits, and one for what is left. -/
theorem length_encode64 (bytes : List UInt8) :
    (encode64 bytes).length = (8 * bytes.length + 5) / 6 := by
  obtain ⟨k, hk, hbits⟩ := groups_flatMap_bits (w := 6) (by decide) (bytesBits bytes)
  have hlen := congrArg List.length hbits
  rw [length_flatMap_bits, List.length_append, length_bytesBits, List.length_replicate,
    ← encode64] at hlen
  omega

/-- No sequence of bytes is written with a single digit in its last group of four. -/
theorem length_encode64_mod (bytes : List UInt8) : (encode64 bytes).length % 4 ≠ 1 := by
  rw [length_encode64]
  omega

/-! ### Alphabets -/

def upperLetters : List Char :=
  ['A', 'B', 'C', 'D', 'E', 'F', 'G', 'H', 'I', 'J', 'K', 'L', 'M', 'N', 'O', 'P', 'Q', 'R', 'S',
   'T', 'U', 'V', 'W', 'X', 'Y', 'Z']

def lowerLetters : List Char :=
  ['a', 'b', 'c', 'd', 'e', 'f', 'g', 'h', 'i', 'j', 'k', 'l', 'm', 'n', 'o', 'p', 'q', 'r', 's',
   't', 'u', 'v', 'w', 'x', 'y', 'z']

def decimalDigits : List Char := ['0', '1', '2', '3', '4', '5', '6', '7', '8', '9']

/-- The URL-safe base64 alphabet. -/
def urlAlphabet : List Char := upperLetters ++ lowerLetters ++ decimalDigits ++ ['-', '_']

/-- The standard base64 alphabet. -/
def stdAlphabet : List Char := upperLetters ++ lowerLetters ++ decimalDigits ++ ['+', '/']

/-- The base32 alphabet. -/
def base32Alphabet : List Char := upperLetters ++ ['2', '3', '4', '5', '6', '7']

/-- The digit values of a text, if all its characters are in the alphabet. -/
def readDigits (alphabet : List Char) : List Char → Option (List Nat)
  | [] => some []
  | c :: cs =>
    match alphabet.idxOf? c, readDigits alphabet cs with
    | some d, some ds => some (d :: ds)
    | _, _ => none

theorem readDigits_cons {alphabet cs : List Char} {c : Char} {ds : List Nat}
    (h : readDigits alphabet (c :: cs) = some ds) :
    ∃ d ds', alphabet.idxOf? c = some d ∧ readDigits alphabet cs = some ds' ∧ ds = d :: ds' := by
  rw [readDigits] at h
  split at h
  · rename_i d ds' hd hds
    cases h
    exact ⟨d, ds', hd, hds, rfl⟩
  · cases h

/-- The characters of a text with digit values are in the alphabet. -/
theorem mem_of_readDigits {alphabet text : List Char} {ds : List Nat}
    (h : readDigits alphabet text = some ds) :
    (∀ c ∈ text, c ∈ alphabet) ∧ text.length = ds.length := by
  induction text generalizing ds with
  | nil =>
    cases h
    simp
  | cons c cs ih =>
    obtain ⟨d, ds', hd, hds, rfl⟩ := readDigits_cons h
    obtain ⟨hmem, hlen⟩ := ih hds
    refine ⟨fun c' hc' => ?_, by simp [hlen]⟩
    rcases List.mem_cons.mp hc' with rfl | hc'
    · by_contra hnot
      rw [List.idxOf?_eq_none_iff.mpr hnot] at hd
      cases hd
    · exact hmem c' hc'

/-- Reading a text in another alphabet. -/
theorem readDigits_map {alphabet alphabet' text : List Char} {f : Char → Char}
    (hf : ∀ c ∈ text, alphabet'.idxOf? (f c) = alphabet.idxOf? c) :
    readDigits alphabet' (text.map f) = readDigits alphabet text := by
  induction text with
  | nil => rfl
  | cons c cs ih =>
    rw [List.map_cons, readDigits, readDigits, hf c List.mem_cons_self,
      ih (fun c' hc' => hf c' (List.mem_cons_of_mem _ hc'))]

/-- The text of a sequence of digits. -/
def writeDigits (alphabet : List Char) (digits : List Nat) : List Char :=
  digits.map (fun d => alphabet.getD d '=')

/-- Texts over characters that determine their digits determine the digits. -/
theorem map_injective_on {α β : Type} {f : α → β} {p : α → Prop}
    (hf : ∀ x, p x → ∀ y, p y → f x = f y → x = y) {xs ys : List α} (hx : ∀ x ∈ xs, p x)
    (hy : ∀ y ∈ ys, p y) (h : xs.map f = ys.map f) : xs = ys := by
  induction xs generalizing ys with
  | nil => simpa using h.symm
  | cons x xs ih =>
    cases ys with
    | nil => cases h
    | cons y ys =>
      rw [List.map_cons, List.map_cons, List.cons.injEq] at h
      have hxy := hf x (hx x List.mem_cons_self) y (hy y List.mem_cons_self) h.1
      have hrest := ih (fun z hz => hx z (List.mem_cons_of_mem _ hz))
        (fun z hz => hy z (List.mem_cons_of_mem _ hz)) h.2
      rw [hxy, hrest]

/-- Reading what was written. -/
theorem readDigits_writeDigits {alphabet : List Char} (halphabet : alphabet.Nodup)
    {digits : List Nat} (h : ∀ d ∈ digits, d < alphabet.length) :
    readDigits alphabet (writeDigits alphabet digits) = some digits := by
  induction digits with
  | nil => rfl
  | cons d digits ih =>
    have hd := h d List.mem_cons_self
    have hdigit : alphabet.idxOf? (alphabet.getD d '=') = some d := by
      rw [List.getD_eq_getElem?_getD, List.getElem?_eq_getElem hd, Option.getD_some,
        List.idxOf?_eq_some_iff]
      refine ⟨hd, rfl, fun j hj heq => ?_⟩
      exact absurd ((List.Nodup.getElem_inj_iff halphabet).mp heq) (Nat.ne_of_lt hj)
    have hrest := ih (fun d' hd' => h d' (List.mem_cons_of_mem _ hd'))
    rw [writeDigits] at hrest
    rw [writeDigits, List.map_cons, readDigits, hdigit, hrest]

/-- Unpadded base64: line breaks are skipped, a single last digit is an error, and bits left
    over are not looked at. -/
def rawDecode (alphabet : List Char) (text : List Char) : Option (List UInt8) :=
  match readDigits alphabet (text.filter (fun c => c ≠ '\r' ∧ c ≠ '\n')) with
  | none => none
  | some digits => if digits.length % 4 = 1 then none else some (decode64 digits)

/-- Padded base64: as `rawDecode`, with the digits and padding characters making whole groups
    of four. -/
def paddedDecode (alphabet : List Char) (text : List Char) : Option (List UInt8) :=
  let body := text.filter (fun c => c ≠ '\r' ∧ c ≠ '\n')
  let padding := (body.reverse.takeWhile (· = '=')).length
  if padding ≤ 2 ∧ body.length % 4 = 0 then rawDecode alphabet (body.take (body.length - padding))
  else none

/-- Decoding what was encoded, in any alphabet of 64 characters without line breaks. -/
theorem rawDecode_writeDigits {alphabet : List Char} (halphabet : alphabet.Nodup)
    (hlen : alphabet.length = 64) (hbreaks : '\r' ∉ alphabet ∧ '\n' ∉ alphabet)
    (bytes : List UInt8) :
    rawDecode alphabet (writeDigits alphabet (encode64 bytes)) = some bytes := by
  have hdigits : ∀ d ∈ encode64 bytes, d < alphabet.length := by
    intro d hd
    rw [hlen]
    exact mem_groups_lt (by decide) hd
  have hread := readDigits_writeDigits halphabet hdigits
  have hfilter : (writeDigits alphabet (encode64 bytes)).filter (fun c => c ≠ '\r' ∧ c ≠ '\n') =
      writeDigits alphabet (encode64 bytes) := by
    refine List.filter_eq_self.mpr (fun c hc => ?_)
    have hmem := (mem_of_readDigits hread).1 c hc
    refine decide_eq_true ⟨?_, ?_⟩
    · rintro rfl
      exact hbreaks.1 hmem
    · rintro rfl
      exact hbreaks.2 hmem
  rw [rawDecode, hfilter, hread]
  simp only [if_neg (length_encode64_mod bytes), decode64_encode64]

end WebVPN.Library
