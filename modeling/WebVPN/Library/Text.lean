import Mathlib.Data.List.Basic

namespace WebVPN.Library

/-!
# Library — text and its validation

The string functions of Go's `strings` package on lists of runes, and validators as
computations in `Except`.

* `trimSpace`, `containsAny`, `splitChar` — as `strings.TrimSpace`, `strings.ContainsAny` and
  `strings.Split` with a one-character separator;
* `Unicode` — the parts that depend on the Unicode tables (lower case, case folding) and the
  reading of bytes as runes, with what their documentation says about ASCII;
* `reject` / `checkAll` — one check of a validator, and a check of every member of a list;
  `reject_eq_ok`, `checkAll_eq_ok` and `then_eq_ok` say when a validator accepts.
-/

/-! ### Strings -/

/-- `unicode.IsSpace`: the characters with the White Space property. -/
def isSpace (c : Char) : Bool :=
  c.toNat ∈ [0x09, 0x0a, 0x0b, 0x0c, 0x0d, 0x20, 0x85, 0xa0, 0x1680, 0x2028, 0x2029, 0x202f,
    0x205f, 0x3000] || (0x2000 ≤ c.toNat && c.toNat ≤ 0x200a)

/-- `strings.TrimSpace`. -/
def trimSpace (text : List Char) : List Char :=
  ((text.dropWhile isSpace).reverse.dropWhile isSpace).reverse

/-- `strings.ContainsAny`. -/
def containsAny (text chars : List Char) : Bool := text.any (fun c => c ∈ chars)

/-- `strings.Split` at one character. -/
def splitChar (sep : Char) : List Char → List (List Char)
  | [] => [[]]
  | c :: cs =>
    if c = sep then [] :: splitChar sep cs
    else
      match splitChar sep cs with
      | [] => [[c]]
      | part :: parts => (c :: part) :: parts

/-- Lower case for ASCII letters. -/
def asciiLower (c : Char) : Char :=
  if 'A' ≤ c ∧ c ≤ 'Z' then Char.ofNat (c.toNat + 32) else c

/-- What holds of every character of a text is decided by going through the text. -/
instance (priority := 2000) decidableForallMemChar {p : Char → Prop} [DecidablePred p] (text : List Char) :
    Decidable (∀ c ∈ text, p c) :=
  List.decidableBAll p text

/-! ### Letters and digits -/

variable {c : Char}

theorem toNat_of_isLower (h : c.isLower = true) : 97 ≤ c.toNat ∧ c.toNat ≤ 122 := by
  have hbounds : (decide ('a'.val ≤ c.val) && decide (c.val ≤ 'z'.val)) = true := h
  simpa [UInt32.le_iff_toNat_le] using hbounds

theorem toNat_of_isUpper (h : c.isUpper = true) : 65 ≤ c.toNat ∧ c.toNat ≤ 90 := by
  have hbounds : 'A'.val ≤ c.val ∧ c.val ≤ 'Z'.val := of_decide_eq_true h
  simpa [UInt32.le_iff_toNat_le] using hbounds

theorem toNat_of_isDigit (h : c.isDigit = true) : 48 ≤ c.toNat ∧ c.toNat ≤ 57 := by
  have hbounds : (decide ('0'.val ≤ c.val) && decide (c.val ≤ '9'.val)) = true := h
  simpa [UInt32.le_iff_toNat_le] using hbounds

theorem isUpper_or_isLower_of_isAlpha (h : c.isAlpha = true) :
    c.isUpper = true ∨ c.isLower = true :=
  Bool.or_eq_true_iff.mp h

/-- What holds of the ASCII characters, one by one. -/
theorem forall_ascii {p : Char → Prop} (h : ∀ n < 128, p (Char.ofNat n))
    (hc : c.toNat < 128) : p c := by
  rw [← Char.ofNat_toNat c]
  exact h c.toNat hc

theorem toList_toString_ofNat (m : Nat) : (toString (Int.ofNat m)).toList = Nat.toDigits 10 m := by
  show (Nat.repr m).toList = _
  rw [Nat.repr_eq_ofList_toDigits, String.toList_ofList]

theorem toList_toString_negSucc (m : Nat) :
    (toString (Int.negSucc m)).toList = '-' :: Nat.toDigits 10 (m + 1) := by
  show ("-" ++ Nat.repr (m + 1)).toList = _
  rw [String.toList_append, Nat.repr_eq_ofList_toDigits]
  exact congrArg ('-' :: ·) String.toList_ofList

/-- What depends on the Unicode tables.  `runes` reads the bytes of a Go string as
    `range` does, with U+FFFD for what is not UTF-8; `lower` is `unicode.ToLower`, `fold` a
    representative of the case-folding orbit of a rune. -/
structure Unicode where
  runes : List UInt8 → String
  lower : Char → Char
  fold : Char → Char
  lower_ascii : ∀ c, c.toNat < 128 → lower c = asciiLower c

/-- Unicode without anything beyond ASCII. -/
def Unicode.ascii : Unicode where
  runes bytes := String.ofList (bytes.map (fun b => Char.ofNat b.toNat))
  lower := asciiLower
  fold := asciiLower
  lower_ascii _ _ := rfl

namespace Unicode

variable (u : Unicode)

/-- `strings.ToLower`. -/
def toLower (text : String) : String := String.ofList (text.toList.map u.lower)

/-- `strings.EqualFold`. -/
def equalFold (s t : String) : Bool := s.toList.map u.fold == t.toList.map u.fold

theorem equalFold_refl (s : String) : u.equalFold s s = true := by simp [equalFold]

/-- ASCII text without capitals is in lower case. -/
theorem toLower_of_ascii {text : String}
    (h : ∀ c ∈ text.toList, c.toNat < 128 ∧ asciiLower c = c) : u.toLower text = text := by
  have hmap : text.toList.map u.lower = text.toList := by
    conv_rhs => rw [← List.map_id text.toList]
    apply List.map_congr_left
    intro c hc
    rw [u.lower_ascii c (h c hc).1, (h c hc).2, id]
  rw [toLower, hmap, String.ofList_toList]

end Unicode

/-! ### Validators -/

section Validators

variable {ε α β : Type}

/-- Return the error if the value is bad. -/
def reject (bad : Prop) [Decidable bad] (e : ε) : Except ε Unit :=
  if bad then .error e else .ok ()

/-- Apply a check to every member of a list, in order. -/
def checkAll (check : α → Except ε Unit) : List α → Except ε Unit
  | [] => .ok ()
  | x :: xs => do
    check x
    checkAll check xs

@[simp] theorem reject_eq_ok {bad : Prop} [Decidable bad] {e : ε} {u : Unit} :
    reject bad e = .ok u ↔ ¬ bad := by
  unfold reject
  split <;> simp_all

theorem bind_eq_ok {x : Except ε α} {f : α → Except ε β} {b : β} :
    (x >>= f) = .ok b ↔ ∃ a, x = .ok a ∧ f a = .ok b := by
  cases x with
  | error e => exact ⟨fun h => (nomatch h), fun ⟨_, h, _⟩ => (nomatch h)⟩
  | ok a => exact ⟨fun h => ⟨a, rfl, h⟩, fun ⟨_, h, hf⟩ => by cases h; exact hf⟩

@[simp] theorem then_eq_ok {x : Except ε Unit} {y : Except ε β} {b : β} :
    (x >>= fun _ => y) = .ok b ↔ x = .ok () ∧ y = .ok b := by
  cases x with
  | error e => simp [bind, Except.bind]
  | ok u => simp [bind, Except.bind]

@[simp] theorem checkAll_eq_ok {check : α → Except ε Unit} {xs : List α} {u : Unit} :
    checkAll check xs = .ok u ↔ ∀ x ∈ xs, check x = .ok () := by
  induction xs with
  | nil => simp [checkAll]
  | cons x xs ih => simp [checkAll, ih]

end Validators

end WebVPN.Library
