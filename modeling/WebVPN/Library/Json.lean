import WebVPN.Library.Text
import WebVPN.Library.Utf8

namespace WebVPN.Library

/-!
# Library — JSON as `encoding/json` reads and writes it

The decoder works on runes: what is not UTF-8 has become U+FFFD before, which is no token and stands for
itself inside a string.

* `Reader`, `Reader.step` — the decoder as a machine that takes one character at a time, with the arrays and
  objects around it on a stack; `parseJSON` — a text with one value and nothing after it;
* `escapeChar`, `quote`, `objectText` — how strings and structs are written;
* `Reads` — a text that takes the machine over a value; `reads_quote`, `reads_true`, `reads_object`,
  `reads_texts`, `reads_object_int` — what is written is read back;
* `utf8Len_objectText`, `utf8Len_arrayText_le`, `escapedSize_of_isBare` — the size of what is written;
* `StructField`, `decodeStruct` — a struct as a list of fields, filled with `DisallowUnknownFields`.
-/

/-- A JSON value. -/
inductive Json
  | null
  | bool (value : Bool)
  | number (literal : String)
  | string (value : String)
  | array (items : List Json)
  | object (members : List (String × Json))

/-! ### Strings -/

/-- A hexadecimal digit. -/
def hexDigit (n : Nat) : Char := if n < 10 then Char.ofNat (48 + n) else Char.ofNat (87 + n)

/-- The value of a hexadecimal digit. -/
def hexValue (c : Char) : Option Nat :=
  if '0' ≤ c ∧ c ≤ '9' then some (c.toNat - 48)
  else if 'a' ≤ c ∧ c ≤ 'f' then some (c.toNat - 87)
  else if 'A' ≤ c ∧ c ≤ 'F' then some (c.toNat - 55)
  else none

/-- The code unit of four digits. -/
def hexUnit (a b c d : Char) : Option Nat :=
  match hexValue a, hexValue b, hexValue c, hexValue d with
  | some a, some b, some c, some d => some (((a * 16 + b) * 16 + c) * 16 + d)
  | _, _, _, _ => none

/-- A character of a string, or a UTF-16 unit that was written as an escape. -/
inductive Piece
  | char (c : Char)
  | unit (n : Nat)
deriving DecidableEq, Repr

/-- The character of a short escape. -/
def unescape (c : Char) : Option Char :=
  if c = '"' ∨ c = '\\' ∨ c = '/' then some c
  else if c = 'b' then some '\x08'
  else if c = 'f' then some '\x0c'
  else if c = 'n' then some '\n'
  else if c = 'r' then some '\r'
  else if c = 't' then some '\t'
  else none

/-- A unit by itself; half of a pair becomes U+FFFD. -/
def unitChar (n : Nat) : Char := if 0xd800 ≤ n ∧ n < 0xe000 then '�' else Char.ofNat n

/-- The text of the pieces; two units that are a pair are one character. -/
def joinPieces : List Piece → List Char
  | [] => []
  | .char c :: pieces => c :: joinPieces pieces
  | .unit n :: .unit m :: pieces =>
    if 0xd800 ≤ n ∧ n < 0xdc00 ∧ 0xdc00 ≤ m ∧ m < 0xe000 then
      Char.ofNat (0x10000 + (n - 0xd800) * 0x400 + (m - 0xdc00)) :: joinPieces pieces
    else unitChar n :: joinPieces (.unit m :: pieces)
  | .unit n :: pieces => unitChar n :: joinPieces pieces

/-! ### The decoder, character by character -/

/-- How far a number has come: after the sign, a leading zero, digits, the point, digits of the fraction,
    the `e`, its sign, digits of the exponent. -/
inductive Phase
  | sign
  | zero
  | digits
  | point
  | fraction
  | mark
  | markSign
  | exponent
deriving DecidableEq, Repr

/-- The number may end here. -/
def Phase.final : Phase → Bool
  | .zero | .digits | .fraction | .exponent => true
  | _ => false

/-- One more character of a number, if it has one. -/
def Phase.next (phase : Phase) (c : Char) : Option Phase :=
  match phase with
  | .sign => if c = '0' then some .zero else if c.isDigit then some .digits else none
  | .zero => if c = '.' then some .point else if c = 'e' ∨ c = 'E' then some .mark else none
  | .digits =>
    if c.isDigit then some .digits else if c = '.' then some .point
    else if c = 'e' ∨ c = 'E' then some .mark else none
  | .point => if c.isDigit then some .fraction else none
  | .fraction =>
    if c.isDigit then some .fraction else if c = 'e' ∨ c = 'E' then some .mark else none
  | .mark =>
    if c = '+' ∨ c = '-' then some .markSign else if c.isDigit then some .exponent else none
  | .markSign => if c.isDigit then some .exponent else none
  | .exponent => if c.isDigit then some .exponent else none

/-- The members of an object. -/
abbrev Members := List (String × Json)

/-- An array or object around the value that is being read; members and items are latest first. -/
inductive Frame
  | array (items : List Json)
  | object (members : Members) (key : String)

/-- Where the decoder is.  A string is a value, or the key of the next member. -/
inductive Mode
  | value
  | firstItem
  | afterItem (items : List Json)
  | firstKey
  | nextKey (members : Members)
  | colon (members : Members) (key : String)
  | afterMember (members : Members)
  | text (key : Option Members) (pieces : List Piece)
  | escape (key : Option Members) (pieces : List Piece)
  | hex (key : Option Members) (pieces : List Piece) (digits : List Char)
  | literal (rest : List Char) (value : Json)
  | number (literal : List Char) (phase : Phase)
  | done (value : Json)

/-- The state of the reader. -/
structure Reader where
  mode : Mode
  stack : List Frame

/-- White space. -/
def isJsonSpace (c : Char) : Bool := c ∈ [' ', '\t', '\r', '\n']

/-- A value is complete. -/
def complete (value : Json) : List Frame → Reader
  | [] => ⟨.done value, []⟩
  | .array items :: stack => ⟨.afterItem (value :: items), stack⟩
  | .object members key :: stack => ⟨.afterMember ((key, value) :: members), stack⟩

/-- The first character of a value. -/
def beginValue (stack : List Frame) (c : Char) : Option Reader :=
  if isJsonSpace c then some ⟨.value, stack⟩
  else if c = '{' then some ⟨.firstKey, stack⟩
  else if c = '[' then some ⟨.firstItem, stack⟩
  else if c = '"' then some ⟨.text none [], stack⟩
  else if c = 't' then some ⟨.literal "rue".toList (.bool true), stack⟩
  else if c = 'f' then some ⟨.literal "alse".toList (.bool false), stack⟩
  else if c = 'n' then some ⟨.literal "ull".toList .null, stack⟩
  else if c = '-' then some ⟨.number [c] .sign, stack⟩
  else if c = '0' then some ⟨.number [c] .zero, stack⟩
  else if c.isDigit then some ⟨.number [c] .digits, stack⟩
  else none

/-- A character after a value. -/
def Reader.after (r : Reader) (c : Char) : Option Reader :=
  match r.mode with
  | .afterItem items =>
    if isJsonSpace c then some r
    else if c = ',' then some ⟨.value, .array items :: r.stack⟩
    else if c = ']' then some (complete (.array items.reverse) r.stack)
    else none
  | .afterMember members =>
    if isJsonSpace c then some r
    else if c = ',' then some ⟨.nextKey members, r.stack⟩
    else if c = '}' then some (complete (.object members.reverse) r.stack)
    else none
  | .done _ => if isJsonSpace c then some r else none
  | _ => none

/-- A string is complete. -/
def Reader.endText (r : Reader) (key : Option Members) (pieces : List Piece) : Reader :=
  let text := String.ofList (joinPieces pieces.reverse)
  match key with
  | none => complete (.string text) r.stack
  | some members => ⟨.colon members text, r.stack⟩

/-- One character. -/
def Reader.step (r : Reader) (c : Char) : Option Reader :=
  match r.mode with
  | .value => beginValue r.stack c
  | .firstItem =>
    if isJsonSpace c then some r
    else if c = ']' then some (complete (.array []) r.stack)
    else beginValue (.array [] :: r.stack) c
  | .firstKey =>
    if isJsonSpace c then some r
    else if c = '}' then some (complete (.object []) r.stack)
    else if c = '"' then some ⟨.text (some []) [], r.stack⟩
    else none
  | .nextKey members =>
    if isJsonSpace c then some r
    else if c = '"' then some ⟨.text (some members) [], r.stack⟩
    else none
  | .colon members key =>
    if isJsonSpace c then some r
    else if c = ':' then some ⟨.value, .object members key :: r.stack⟩
    else none
  | .text key pieces =>
    if c = '"' then some (r.endText key pieces)
    else if c = '\\' then some ⟨.escape key pieces, r.stack⟩
    else if c.toNat < 0x20 then none
    else some ⟨.text key (.char c :: pieces), r.stack⟩
  | .escape key pieces =>
    if c = 'u' then some ⟨.hex key pieces [], r.stack⟩
    else
      match unescape c with
      | none => none
      | some c' => some ⟨.text key (.char c' :: pieces), r.stack⟩
  | .hex key pieces [x, y, z] =>
    match hexUnit x y z c with
    | none => none
    | some n => some ⟨.text key (.unit n :: pieces), r.stack⟩
  | .hex key pieces digits => some ⟨.hex key pieces (digits ++ [c]), r.stack⟩
  | .literal [x] value => if c = x then some (complete value r.stack) else none
  | .literal (x :: rest) value => if c = x then some ⟨.literal rest value, r.stack⟩ else none
  | .literal [] _ => none
  | .number literal phase =>
    match phase.next c with
    | some phase' => some ⟨.number (literal ++ [c]) phase', r.stack⟩
    | none =>
      if phase.final then (complete (.number (String.ofList literal)) r.stack).after c else none
  | _ => r.after c

/-- The characters of a text, one after the other. -/
def Reader.run (r : Reader) (text : List Char) : Option Reader := text.foldlM Reader.step r

/-- What has been read at the end of the text. -/
def Reader.result (r : Reader) : Option Json :=
  match r.mode, r.stack with
  | .done value, _ => some value
  | .number literal phase, [] => if phase.final then some (.number (String.ofList literal)) else none
  | _, _ => none

/-- A text that is one value, with white space around it. -/
def parseJSON (text : List Char) : Option Json := (Reader.run ⟨.value, []⟩ text).bind Reader.result

/-! ### Writing

What is escaped beyond what JSON asks for is a parameter. -/

/-- The characters that are escaped as well; they fit into one UTF-16 unit. -/
structure Escapes where
  also : Char → Bool
  unit : ∀ c, also c = true → c.toNat < 0x10000

/-- `JSON.stringify` escapes nothing more. -/
def Escapes.browser : Escapes where
  also _ := false
  unit _ h := by cases h

/-- What `encoding/json` escapes by default. -/
def Escapes.go : Escapes where
  also c := c ∈ ['<', '>', '&', '\u2028', '\u2029']
  unit c h := by
    have hall : ∀ c ∈ ['<', '>', '&', '\u2028', '\u2029'], c.toNat < 0x10000 := by decide
    exact hall c (of_decide_eq_true h)

/-- The letter of a short escape. -/
def shortEscape (c : Char) : Option Char :=
  if c = '"' then some '"'
  else if c = '\\' then some '\\'
  else if c = '\x08' then some 'b'
  else if c = '\x0c' then some 'f'
  else if c = '\n' then some 'n'
  else if c = '\r' then some 'r'
  else if c = '\t' then some 't'
  else none

/-- The four digits of a code unit. -/
def unitDigits (n : Nat) : List Char :=
  [hexDigit (n / 4096), hexDigit (n / 256 % 16), hexDigit (n / 16 % 16), hexDigit (n % 16)]

/-- A character of a string. -/
def escapeChar (e : Escapes) (c : Char) : List Char :=
  match shortEscape c with
  | some letter => ['\\', letter]
  | none => if c.toNat < 0x20 ∨ e.also c then '\\' :: 'u' :: unitDigits c.toNat else [c]

/-- The characters of a string. -/
def escapeText (e : Escapes) (text : String) : List Char := text.toList.flatMap (escapeChar e)

/-- A string. -/
def quote (e : Escapes) (text : String) : List Char := '"' :: escapeText e text ++ ['"']

/-- A field of a struct whose value is written already. -/
def memberText (e : Escapes) (member : String × List Char) : List Char :=
  quote e member.1 ++ ':' :: member.2

/-- The members after the first. -/
def membersText (e : Escapes) (members : List (String × List Char)) : List Char :=
  members.flatMap (fun member => ',' :: memberText e member)

/-- An object. -/
def objectText (e : Escapes) : List (String × List Char) → List Char
  | [] => ['{', '}']
  | member :: members => '{' :: memberText e member ++ membersText e members ++ ['}']

/-- An array. -/
def arrayText : List (List Char) → List Char
  | [] => ['[', ']']
  | item :: items => '[' :: item ++ items.flatMap (fun item => ',' :: item) ++ [']']

/-! ### What is written is read back -/

section Strings

variable {c : Char} {key : Option Members} {pieces : List Piece} {stack : List Frame}

@[simp] theorem Reader.run_nil (r : Reader) : r.run [] = some r := rfl

theorem Reader.run_cons (r : Reader) (c : Char) (text : List Char) :
    r.run (c :: text) = (r.step c).bind (fun r' => r'.run text) := rfl

theorem Reader.run_append (r : Reader) (a b : List Char) :
    r.run (a ++ b) = (r.run a).bind (fun r' => r'.run b) := by
  unfold Reader.run
  rw [List.foldlM_append]
  rfl

theorem hexValue_hexDigit {n : Nat} (h : n < 16) : hexValue (hexDigit n) = some n := by
  revert n
  decide

theorem hexUnit_unitDigits {n : Nat} (h : n < 0x10000) :
    hexUnit (hexDigit (n / 4096)) (hexDigit (n / 256 % 16)) (hexDigit (n / 16 % 16)) (hexDigit (n % 16))
      = some n := by
  unfold hexUnit
  rw [hexValue_hexDigit (by omega), hexValue_hexDigit (by omega), hexValue_hexDigit (by omega),
    hexValue_hexDigit (by omega)]
  show some _ = some n
  congr 1
  omega

/-- How a character of a string is read. -/
def pieceOf (e : Escapes) (c : Char) : Piece :=
  match shortEscape c with
  | some _ => .char c
  | none => if c.toNat < 0x20 ∨ e.also c then .unit c.toNat else .char c

/-- A short escape is undone. -/
theorem unescape_shortEscape {letter : Char} (h : shortEscape c = some letter) :
    letter ≠ 'u' ∧ unescape letter = some c := by
  unfold shortEscape at h
  repeat' split at h
  all_goals cases h
  all_goals subst c
  all_goals decide

/-- **A character of a string is read back.** -/
theorem Reader.run_escapeChar (e : Escapes) (c : Char) :
    Reader.run ⟨.text key pieces, stack⟩ (escapeChar e c)
      = some ⟨.text key (pieceOf e c :: pieces), stack⟩ := by
  unfold escapeChar pieceOf
  cases hshort : shortEscape c with
  | some letter =>
    obtain ⟨hu, hunescape⟩ := unescape_shortEscape hshort
    simp [Reader.run_cons, Reader.step, hu, hunescape]
  | none =>
    have hquote : c ≠ '"' ∧ c ≠ '\\' := by
      constructor <;> rintro rfl <;> revert hshort <;> decide
    by_cases hescaped : c.toNat < 0x20 ∨ e.also c = true
    · -- a unit of four hexadecimal digits
      have hlt : c.toNat < 0x10000 := by
        rcases hescaped with hcontrol | halso
        · omega
        · exact e.unit c halso
      simp [hescaped, unitDigits, Reader.run_cons, Reader.step, hexUnit_unitDigits hlt]
    · have hcontrol : ¬ c.toNat < 0x20 := fun h => hescaped (.inl h)
      rw [if_neg hescaped, if_neg hescaped]
      simp [Reader.run_cons, Reader.step, hquote, hcontrol]

theorem Reader.run_escaped (e : Escapes) (text : List Char) :
    Reader.run ⟨.text key pieces, stack⟩ (text.flatMap (escapeChar e))
      = some ⟨.text key ((text.map (pieceOf e)).reverse ++ pieces), stack⟩ := by
  induction text generalizing pieces with
  | nil => rfl
  | cons c text ih =>
    rw [List.flatMap_cons, Reader.run_append, Reader.run_escapeChar, Option.bind_some, ih]
    simp

/-- A unit that is no half of a pair is a character by itself. -/
theorem joinPieces_unit {n : Nat} (hn : ¬ (0xd800 ≤ n ∧ n < 0xe000)) (pieces : List Piece) :
    joinPieces (.unit n :: pieces) = Char.ofNat n :: joinPieces pieces := by
  have hchar : unitChar n = Char.ofNat n := if_neg hn
  match pieces with
  | [] => simp [joinPieces, hchar]
  | .char c :: pieces => simp [joinPieces, hchar]
  | .unit m :: pieces => rw [joinPieces, if_neg (by omega), hchar]

theorem joinPieces_pieceOf (e : Escapes) (text : List Char) : joinPieces (text.map (pieceOf e)) = text := by
  induction text with
  | nil => rfl
  | cons c text ih =>
    have hvalid : ¬ (0xd800 ≤ c.toNat ∧ c.toNat < 0xe000) := by
      have := c.valid
      show ¬ (0xd800 ≤ c.val.toNat ∧ c.val.toNat < 0xe000)
      omega
    rw [List.map_cons]
    by_cases hunit : pieceOf e c = .unit c.toNat
    · rw [hunit, joinPieces_unit hvalid, ih, Char.ofNat_toNat]
    · have hchar : pieceOf e c = .char c := by
        unfold pieceOf at hunit ⊢
        split
        · rfl
        · rename_i hshort
          rw [hshort] at hunit
          by_cases hescaped : c.toNat < 0x20 ∨ e.also c = true
          · exact absurd (if_pos hescaped) hunit
          · exact if_neg hescaped
      rw [hchar, joinPieces, ih]

/-- **A string is read back.** -/
theorem Reader.run_text (e : Escapes) (text : String) :
    Reader.run ⟨.text key [], stack⟩ (escapeText e text ++ ['"'])
      = some (match key with
        | none => complete (.string text) stack
        | some members => ⟨.colon members text, stack⟩) := by
  rw [escapeText, Reader.run_append, Reader.run_escaped, Option.bind_some, Reader.run_cons]
  simp only [Reader.step, if_pos, Option.bind_some, Reader.run_nil, Reader.endText, List.append_nil,
    List.reverse_reverse, joinPieces_pieceOf, String.ofList_toList]

end Strings

/-! ### Structs are read back -/

/-- The text takes the decoder over a value. -/
def Reads (text : List Char) (value : Json) : Prop :=
  ∀ stack, Reader.run ⟨.value, stack⟩ text = some (complete value stack)

section Objects

variable {e : Escapes} {text : List Char} {value : Json} {stack : List Frame} {members : Members}

theorem reads_quote (e : Escapes) (text : String) : Reads (quote e text) (.string text) := by
  intro stack
  show Reader.run ⟨.text none [], stack⟩ (escapeText e text ++ ['"']) = _
  rw [Reader.run_text]

theorem reads_true : Reads "true".toList (.bool true) := by
  intro stack
  simp [Reader.run_cons, Reader.step, beginValue, isJsonSpace]

/-- A field, when its name is expected. -/
theorem Reader.run_memberText {mode : Mode} {name : String}
    (hquote : Reader.step ⟨mode, stack⟩ '"' = some ⟨.text (some members) [], stack⟩) (h : Reads text value) :
    Reader.run ⟨mode, stack⟩ (memberText e (name, text))
      = some ⟨.afterMember ((name, value) :: members), stack⟩ := by
  show Reader.run ⟨mode, stack⟩ ('"' :: (escapeText e name ++ ['"']) ++ ':' :: text) = _
  rw [List.cons_append, Reader.run_cons, hquote, Option.bind_some, Reader.run_append, Reader.run_text,
    Option.bind_some]
  show Reader.run ⟨.value, .object members name :: stack⟩ text = _
  rw [h]
  rfl

/-- A field with the value that is written for it. -/
structure Member where
  name : String
  text : List Char
  value : Json
  reads : Reads text value

/-- The member as it is written. -/
def Member.written (m : Member) : String × List Char := (m.name, m.text)

/-- The member as it is read. -/
def Member.read (m : Member) : String × Json := (m.name, m.value)

/-- A field with a string, as it is written. -/
def textMember (e : Escapes) (name text : String) : Member where
  name := name
  text := quote e text
  value := .string text
  reads := reads_quote e text

theorem Reader.run_membersText (fields : List Member) :
    Reader.run ⟨.afterMember members, stack⟩ (membersText e (fields.map Member.written))
      = some ⟨.afterMember ((fields.map Member.read).reverse ++ members), stack⟩ := by
  induction fields generalizing members with
  | nil => rfl
  | cons m fields ih =>
    show Reader.run ⟨.afterMember members, stack⟩
      (',' :: (memberText e m.written ++ membersText e (fields.map Member.written))) = _
    show Reader.run ⟨.nextKey members, stack⟩ _ = _
    rw [Reader.run_append, Member.written, Reader.run_memberText rfl m.reads, Option.bind_some, ih]
    simp [Member.read]

/-- **A struct is read back.** -/
theorem reads_object (e : Escapes) (fields : List Member) :
    Reads (objectText e (fields.map Member.written)) (.object (fields.map Member.read)) := by
  intro stack
  match fields with
  | [] => rfl
  | m :: fields =>
    show Reader.run ⟨.firstKey, stack⟩
      (memberText e m.written ++ membersText e (fields.map Member.written) ++ ['}']) = _
    rw [Reader.run_append, Reader.run_append, Member.written, Reader.run_memberText rfl m.reads,
      Option.bind_some, Reader.run_membersText, Option.bind_some]
    show some (complete (.object ((fields.map Member.read).reverse ++ [m.read]).reverse) stack) = _
    rw [List.reverse_append, List.reverse_reverse]
    rfl

/-- A value by itself, and with a line end after it. -/
theorem Reads.parseJSON (h : Reads text value) :
    parseJSON text = some value ∧ parseJSON (text ++ ['\n']) = some value := by
  constructor
  · rw [Library.parseJSON, h]
    rfl
  · rw [Library.parseJSON, Reader.run_append, h]
    rfl

/-- The strings of an array after the first one. -/
theorem Reader.run_items (texts : List String) (items : List Json) :
    Reader.run ⟨.afterItem items, stack⟩ ((texts.map (quote e)).flatMap (fun item => ',' :: item))
      = some ⟨.afterItem ((texts.map Json.string).reverse ++ items), stack⟩ := by
  induction texts generalizing items with
  | nil => rfl
  | cons text texts ih =>
    show Reader.run ⟨.value, .array items :: stack⟩
      (quote e text ++ (texts.map (quote e)).flatMap (fun item => ',' :: item)) = _
    rw [Reader.run_append, reads_quote, Option.bind_some]
    show Reader.run ⟨.afterItem (.string text :: items), stack⟩ _ = _
    rw [ih]
    simp

/-- **An array of strings is read back.** -/
theorem reads_texts (e : Escapes) (texts : List String) :
    Reads (arrayText (texts.map (quote e))) (.array (texts.map Json.string)) := by
  intro stack
  match texts with
  | [] => rfl
  | text :: texts =>
    -- the quotation mark of the first string is read as that of any value
    show Reader.run ⟨.value, .array [] :: stack⟩
      (quote e text ++ (texts.map (quote e)).flatMap (fun item => ',' :: item) ++ [']']) = _
    rw [Reader.run_append, Reader.run_append, reads_quote, Option.bind_some]
    show (Reader.run ⟨.afterItem [Json.string text], stack⟩ _).bind _ = _
    rw [Reader.run_items, Option.bind_some]
    show some (complete (.array ((texts.map Json.string).reverse ++ [Json.string text]).reverse) stack) = _
    rw [List.reverse_append, List.reverse_reverse]
    rfl

/-! A number has no end of its own: it is complete with the character after it. -/

/-- The digits of a number, when the first one is expected. -/
theorem Reader.run_toDigits {r : Reader} (literal : List Char)
    (hfirst : ∀ d < 10, 0 < d → r.step d.digitChar = some ⟨.number (literal ++ [d.digitChar]) .digits, stack⟩)
    {n : Nat} (hn : 0 < n) :
    r.run (Nat.toDigits 10 n) = some ⟨.number (literal ++ Nat.toDigits 10 n) .digits, stack⟩ := by
  induction n using Nat.strong_induction_on with
  | _ n ih =>
    by_cases hlt : n < 10
    · rw [Nat.toDigits_of_lt_base hlt, Reader.run_cons, hfirst n hlt hn]
      rfl
    · rw [Nat.toDigits_of_base_le (by decide) (by omega), Reader.run_append,
        ih (n / 10) (Nat.div_lt_self hn (by decide)) (by omega), Option.bind_some, Reader.run_cons]
      have hnext : ∀ d < 10, Phase.next .digits d.digitChar = some .digits := by decide
      simp only [Reader.step, hnext (n % 10) (Nat.mod_lt n (by decide)), ← List.append_assoc]
      rfl

/-- An integer is read up to the character after it. -/
theorem Reader.run_int (stack : List Frame) (z : Int) : ∃ phase : Phase, phase.final = true ∧ phase.next ',' = none ∧
    Reader.run ⟨.value, stack⟩ (toString z).toList = some ⟨.number (toString z).toList phase, stack⟩ := by
  have hdigit : ∀ d, d < 10 → 0 < d → d = 1 ∨ d = 2 ∨ d = 3 ∨ d = 4 ∨ d = 5 ∨ d = 6 ∨ d = 7 ∨ d = 8 ∨ d = 9 := by
    omega
  have hfirst : ∀ d < 10, 0 < d →
      Reader.step ⟨.value, stack⟩ d.digitChar = some ⟨.number [d.digitChar] .digits, stack⟩ := by
    intro d hd hpos
    rcases hdigit d hd hpos with rfl | rfl | rfl | rfl | rfl | rfl | rfl | rfl | rfl <;> rfl
  have hsigned : ∀ d < 10, 0 < d → Reader.step ⟨.number ['-'] .sign, stack⟩ d.digitChar
      = some ⟨.number ['-', d.digitChar] .digits, stack⟩ := by
    intro d hd hpos
    rcases hdigit d hd hpos with rfl | rfl | rfl | rfl | rfl | rfl | rfl | rfl | rfl <;> rfl
  cases z with
  | ofNat m =>
    rw [toList_toString_ofNat]
    rcases Nat.eq_zero_or_pos m with rfl | hpos
    · exact ⟨.zero, rfl, rfl, rfl⟩
    · refine ⟨.digits, rfl, rfl, ?_⟩
      exact Reader.run_toDigits [] hfirst hpos
  | negSucc m =>
    rw [toList_toString_negSucc]
    refine ⟨.digits, rfl, rfl, ?_⟩
    show Reader.run ⟨.number ['-'] .sign, stack⟩ (Nat.toDigits 10 (m + 1)) = _
    exact Reader.run_toDigits ['-'] hsigned (Nat.succ_pos m)

/-- A field with an integer, when there is another one after it. -/
theorem Reader.run_intMember (name : String) (z : Int) (rest : List Char) :
    Reader.run ⟨.afterMember members, stack⟩ (',' :: memberText e (name, (toString z).toList) ++ ',' :: rest)
      = Reader.run ⟨.afterMember ((name, .number (toString z)) :: members), stack⟩ (',' :: rest) := by
  obtain ⟨phase, hfinal, hnext, hrun⟩ := Reader.run_int (.object members name :: stack) z
  show Reader.run ⟨.nextKey members, stack⟩
    ('"' :: (escapeText e name ++ ['"']) ++ ':' :: (toString z).toList ++ ',' :: rest) = _
  rw [List.append_assoc, List.cons_append, Reader.run_cons]
  show Reader.run ⟨.text (some members) [], stack⟩ _ = _
  rw [Reader.run_append, Reader.run_text, Option.bind_some]
  show Reader.run ⟨.value, .object members name :: stack⟩ ((toString z).toList ++ ',' :: rest) = _
  rw [Reader.run_append, hrun, Option.bind_some, Reader.run_cons]
  simp only [Reader.step, hnext, hfinal, if_true, String.ofList_toList]
  rfl

/-- **A struct with an integer before its last fields is read back.** -/
theorem reads_object_int (e : Escapes) (first : Member) (before : List Member) (name : String) (z : Int)
    (next : Member) (after : List Member) :
    Reads (objectText e ((first :: before).map Member.written
        ++ (name, (toString z).toList) :: (next :: after).map Member.written))
      (.object ((first :: before).map Member.read
        ++ (name, .number (toString z)) :: (next :: after).map Member.read)) := by
  intro stack
  show Reader.run ⟨.firstKey, stack⟩ (memberText e first.written
    ++ membersText e (before.map Member.written
      ++ (name, (toString z).toList) :: (next :: after).map Member.written) ++ ['}']) = _
  have hsplit : membersText e (before.map Member.written
      ++ (name, (toString z).toList) :: (next :: after).map Member.written)
      = membersText e (before.map Member.written) ++ ((',' :: memberText e (name, (toString z).toList))
        ++ membersText e ((next :: after).map Member.written)) := by
    rw [membersText, List.flatMap_append, List.flatMap_cons]
    rfl
  rw [hsplit, List.append_assoc, Reader.run_append, Member.written, Reader.run_memberText rfl first.reads,
    Option.bind_some, List.append_assoc, Reader.run_append, Reader.run_membersText, Option.bind_some]
  -- the comma before the next field ends the number
  show Reader.run _ ((',' :: memberText e (name, (toString z).toList)) ++
    (',' :: (memberText e next.written ++ membersText e (after.map Member.written))) ++ ['}']) = _
  rw [List.append_assoc]
  show Reader.run _ ((',' :: memberText e (name, (toString z).toList)) ++
    ',' :: (memberText e next.written ++ membersText e (after.map Member.written) ++ ['}'])) = _
  rw [Reader.run_intMember]
  show Reader.run _ (membersText e ((next :: after).map Member.written) ++ ['}']) = _
  rw [Reader.run_append, Reader.run_membersText, Option.bind_some]
  show some (complete (.object _) stack) = _
  simp [Member.read]

end Objects

/-! ### Sizes -/

/-- The size of a string as it is written. -/
def escapedSize (e : Escapes) (text : String) : Nat := String.utf8Len (escapeText e text)

section Sizes

variable {e : Escapes}

theorem utf8Len_quote (text : String) : String.utf8Len (quote e text) = escapedSize e text + 2 := by
  show String.utf8Len ('"' :: (escapeText e text ++ ['"'])) = _
  rw [String.utf8Len_cons, String.utf8Len_append]
  show String.utf8Len (escapeText e text) + 1 + 1 = _
  rfl

theorem utf8Len_memberText (member : String × List Char) : String.utf8Len (memberText e member)
    = escapedSize e member.1 + String.utf8Len member.2 + 3 := by
  rw [memberText, String.utf8Len_append, utf8Len_quote, String.utf8Len_cons]
  show escapedSize e member.1 + 2 + (String.utf8Len member.2 + 1) = _
  omega

/-- A struct with at least one field has a brace or a comma before each, and a brace at the end. -/
theorem utf8Len_objectText {members : List (String × List Char)} (hne : members ≠ []) :
    String.utf8Len (objectText e members)
      = (members.map (fun member => escapedSize e member.1 + String.utf8Len member.2 + 4)).sum + 1 := by
  have hmembers : ∀ members, String.utf8Len (membersText e members)
      = (members.map (fun member => escapedSize e member.1 + String.utf8Len member.2 + 4)).sum := by
    intro members
    induction members with
    | nil => rfl
    | cons member members ih =>
      show String.utf8Len (',' :: (memberText e member ++ membersText e members)) = _
      rw [String.utf8Len_cons, String.utf8Len_append, utf8Len_memberText, ih, List.map_cons, List.sum_cons]
      show _ + 1 = _
      omega
  match members with
  | member :: members =>
    show String.utf8Len ('{' :: (memberText e member ++ membersText e members ++ ['}'])) = _
    rw [String.utf8Len_cons, String.utf8Len_append, String.utf8Len_append, utf8Len_memberText, hmembers,
      List.map_cons, List.sum_cons]
    show _ + 1 + 1 = _
    omega

/-- An array has a bracket or a comma before each item, and a bracket at the end. -/
theorem utf8Len_arrayText_le {items : List (List Char)} {n : Nat} (h : ∀ item ∈ items, String.utf8Len item ≤ n) :
    String.utf8Len (arrayText items) ≤ (n + 1) * items.length + 2 := by
  have hitems : ∀ items : List (List Char), (∀ item ∈ items, String.utf8Len item ≤ n) →
      String.utf8Len (items.flatMap (fun item => ',' :: item)) ≤ (n + 1) * items.length := by
    intro items h
    induction items with
    | nil => exact Nat.le_refl _
    | cons item items ih =>
      have hitem := h item List.mem_cons_self
      have hrest := ih (fun i hi => h i (List.mem_cons_of_mem _ hi))
      rw [List.flatMap_cons, String.utf8Len_append, String.utf8Len_cons, List.length_cons, Nat.mul_succ]
      show String.utf8Len item + 1 + _ ≤ _
      omega
  match items with
  | [] => exact Nat.le_refl _
  | item :: items =>
    have hitem := h item List.mem_cons_self
    have hrest := hitems items (fun i hi => h i (List.mem_cons_of_mem _ hi))
    show String.utf8Len ('[' :: (item ++ items.flatMap (fun item => ',' :: item) ++ [']'])) ≤ _
    rw [String.utf8Len_cons, String.utf8Len_append, String.utf8Len_append, List.length_cons, Nat.mul_succ]
    show _ + 1 + 1 ≤ _
    omega

/-- Characters that are written as they are. -/
def isBare (c : Char) : Bool :=
  c.isDigit || ('a' ≤ c && c ≤ 'z') || ('A' ≤ c && c ≤ 'Z') || c ∈ ['-', '_', '.', ':']

theorem toNat_lt_of_isBare {c : Char} (h : isBare c = true) : c.toNat < 128 := by
  simp only [isBare, Char.isDigit, Bool.or_eq_true, Bool.and_eq_true, decide_eq_true_eq, List.mem_cons,
    List.not_mem_nil, or_false] at h
  rcases h with ((h | h) | h) | rfl | rfl | rfl | rfl
  · exact Nat.lt_of_le_of_lt h.2 (by decide)
  · exact Nat.lt_of_le_of_lt h.2 (by decide)
  · exact Nat.lt_of_le_of_lt h.2 (by decide)
  all_goals decide

theorem escapeChar_of_isBare {c : Char} (h : isBare c = true) : escapeChar .go c = [c] := by
  have hall : ∀ n < 128, isBare (Char.ofNat n) = true → escapeChar .go (Char.ofNat n) = [Char.ofNat n] := by
    decide
  exact forall_ascii (p := fun c => isBare c = true → escapeChar .go c = [c]) hall (toNat_lt_of_isBare h) h

theorem escapedSize_of_isBare {text : String} (h : ∀ c ∈ text.toList, isBare c = true) :
    escapedSize .go text = text.toList.length := by
  have htext : escapeText .go text = text.toList := by
    rw [escapeText, List.flatMap_congr (fun c hc => escapeChar_of_isBare (h c hc)), List.flatMap_singleton']
  rw [escapedSize, htext]
  exact utf8Len_of_ascii (fun c hc => toNat_lt_of_isBare (h c hc))

end Sizes

/-! ### Filling structs -/

/-- A field of a struct, with what a value does to it. -/
structure StructField (α : Type) where
  name : String
  set : Json → α → Option α

/-- The field of a key: the one with this name, or else one with this name up to case. -/
def findField {α : Type} (u : Unicode) (fields : List (StructField α)) (key : String) : Option (StructField α) :=
  match fields.find? (fun field => field.name = key) with
  | some field => some field
  | none => fields.find? (fun field => u.equalFold field.name key)

/-- Fill a struct, with `DisallowUnknownFields`.  `null` changes nothing. -/
def decodeStruct {α : Type} (u : Unicode) (fields : List (StructField α)) : Json → α → Option α
  | .null, x => some x
  | .object members, x =>
    members.foldlM (fun x member => (findField u fields member.1).bind (fun field => field.set member.2 x)) x
  | _, _ => none

/-- Fill a string field. -/
def decodeString : Json → String → Option String
  | .null, text => some text
  | .string text, _ => some text
  | _, _ => none

/-- Fill a boolean field. -/
def decodeBool : Json → Bool → Option Bool
  | .null, value => some value
  | .bool value, _ => some value
  | _, _ => none

/-- Fill an unsigned field of sixteen bits. -/
def decodeUInt16 : Json → UInt16 → Option UInt16
  | .null, n => some n
  | .number literal, _ =>
    let value := Nat.ofDigitChars 10 literal.toList 0
    if literal.toList.all Char.isDigit ∧ value < 2 ^ 16 then some (UInt16.ofNat value) else none
  | _, _ => none

/-- A field that is a string. -/
def stringField {α : Type} (name : String) (get : α → String) (put : String → α → α) : StructField α where
  name := name
  set value x := (decodeString value (get x)).map (fun text => put text x)

end WebVPN.Library
