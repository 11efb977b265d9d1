import Mathlib.Data.List.DropRight
import WebVPN.Library.Lines

namespace WebVPN.Library

/-!
# Library — URLs

The URL record, its serializer and the basic URL parser of the WHATWG URL standard, without
state override.  Each state of the parser is a function on the code points that are left: the
end of the input is the empty list, and to decrease the pointer is to hand the same list on.
A state that may fail returns an `Option`.

* `Hosts` — the parsers for domains and IPv6 addresses, with what the standard says about
  their results; `Hosts.parse` is the host parser;
* `percentEncode` and the percent-encode sets;
* `pathState`, `queryState`, `fragmentState`, … — the states, in the reverse of the order in
  which an input meets them;
* `parse`, `pathname`, `search`, `hash`, `href`.

`Keeps` says what the states after the authority leave alone (`Keeps.pathState`, …).
-/

/-! ### Percent-encoding -/

/-- An upper-case hexadecimal digit. -/
def percentDigit (n : Nat) : Char := (Nat.digitChar n).toUpper

/-- A byte as a percent sign and two digits. -/
def percentByte (byte : UInt8) : List Char :=
  ['%', percentDigit (byte.toNat / 16), percentDigit (byte.toNat % 16)]

/-- UTF-8 percent-encode a code point with a percent-encode set. -/
def percentEncode (set : Char → Bool) (c : Char) : List Char :=
  if set c then (String.utf8EncodeChar c).flatMap percentByte else [c]

/-- The C0 control percent-encode set. -/
def controlSet (c : Char) : Bool := c.toNat ≤ 0x1f || 0x7e < c.toNat

/-- The fragment percent-encode set. -/
def fragmentSet (c : Char) : Bool := controlSet c || c ∈ [' ', '\x22', '<', '>', '\x60']

/-- The query percent-encode set; a special URL adds the apostrophe. -/
def querySet (special : Bool) (c : Char) : Bool :=
  controlSet c || c ∈ [' ', '\x22', '#', '<', '>'] || (special && c == '\x27')

/-- The path percent-encode set. -/
def pathSet (c : Char) : Bool := querySet false c || c ∈ ['?', '^', '\x60', '\x7b', '\x7d']

/-- The userinfo percent-encode set. -/
def userinfoSet (c : Char) : Bool :=
  pathSet c || c ∈ ['/', ':', ';', '=', '@', '[', '\\', ']', '|']

/-! ### Hosts -/

/-- The forbidden host code points. -/
def isForbiddenHost (c : Char) : Bool :=
  c ∈ ['\x00', '\t', '\n', '\r', ' ', '#', '/', ':', '<', '>', '?', '@', '[', '\\', ']', '^', '|']

/-- The forbidden domain code points. -/
def isForbiddenDomain (c : Char) : Bool :=
  isForbiddenHost c || c.toNat ≤ 0x1f || c == '%' || c == '\x7f'

/-- Lower-case letters, with single dots between them. -/
def IsPlainName (name : List Char) : Prop :=
  ∀ label ∈ splitChar '.' name, label ≠ [] ∧ ∀ c ∈ label, c.isLower = true

instance (name : List Char) : Decidable (IsPlainName name) :=
  inferInstanceAs (Decidable (∀ label ∈ splitChar '.' name, label ≠ [] ∧ ∀ c ∈ label, c.isLower = true))

/-- The parts of the host parser that depend on the Unicode tables or on the syntax of IPv6
    addresses; each gives the serialized host.  `domain` percent-decodes, maps to ASCII and
    reads a name that ends in a number as an IPv4 address; it fails on an empty name. -/
structure Hosts where
  domain : List Char → Option (List Char)
  address6 : List Char → Option (List Char)
  domain_plain : ∀ name, IsPlainName name → domain name = some name
  domain_ne_nil : ∀ text host, domain text = some host → host ≠ []
  domain_allowed : ∀ text host, domain text = some host → ∀ c ∈ host, isForbiddenDomain c = false
  domain_serialized : ∀ text host, domain text = some host → domain host = some host
  address6_digits : ∀ text host, address6 text = some host →
    ∀ c ∈ host, c.isDigit = true ∨ c.isLower = true ∨ c = ':'
  address6_serialized : ∀ text host, address6 text = some host → address6 host = some host

/-- Lower-case letters, digits, dots and hyphens. -/
def isPlainChar (c : Char) : Bool := c.isLower || c.isDigit || c == '.' || c == '-'

/-- A name of such characters, and nothing else. -/
def plainDomain (name : List Char) : Option (List Char) :=
  if name ≠ [] ∧ ∀ c ∈ name, isPlainChar c = true then some name else none

section PlainDomain

variable (text host : List Char)

theorem plainDomain_eq_some (h : plainDomain text = some host) :
    text = host ∧ host ≠ [] ∧ ∀ c ∈ host, isPlainChar c = true := by
  unfold plainDomain at h
  split at h
  · rename_i hname
    cases h
    exact ⟨rfl, hname⟩
  · cases h

theorem plainDomain_plain (h : IsPlainName text) : plainDomain text = some text := by
  rw [plainDomain, if_pos]
  constructor
  · rintro rfl
    exact (h [] (by simp [splitChar])).1 rfl
  · intro c hc
    rcases mem_splitChar '.' hc with rfl | ⟨label, hlabel, hmem⟩
    · decide
    · simp [isPlainChar, (h label hlabel).2 c hmem]

theorem plainDomain_ne_nil (h : plainDomain text = some host) : host ≠ [] :=
  (plainDomain_eq_some text host h).2.1

theorem plainDomain_allowed (h : plainDomain text = some host) :
    ∀ c ∈ host, isForbiddenDomain c = false := by
  intro c hc
  have hplain := (plainDomain_eq_some text host h).2.2 c hc
  have hlt : c.toNat < 128 := by
    simp only [isPlainChar, Bool.or_eq_true, beq_iff_eq] at hplain
    rcases hplain with ((hlower | hdigit) | rfl) | rfl
    · have hletter := toNat_of_isLower hlower
      omega
    · have hbounds := toNat_of_isDigit hdigit
      omega
    all_goals decide
  have hall : ∀ n < 128, isPlainChar (Char.ofNat n) = true → isForbiddenDomain (Char.ofNat n) = false := by
    decide +kernel
  exact forall_ascii (p := fun c => isPlainChar c = true → isForbiddenDomain c = false) hall hlt hplain

theorem plainDomain_serialized (h : plainDomain text = some host) : plainDomain host = some host := by
  obtain ⟨-, hname⟩ := plainDomain_eq_some text host h
  exact if_pos hname

/-- No text is read as an address. -/
theorem none_ne_host {p : Prop} (h : (none : Option (List Char)) = some host) : p := by
  cases h

end PlainDomain

/-- Hosts that are such names. -/
def Hosts.plain : Hosts where
  domain := plainDomain
  address6 _ := none
  domain_plain := plainDomain_plain
  domain_ne_nil := plainDomain_ne_nil
  domain_allowed := plainDomain_allowed
  domain_serialized := plainDomain_serialized
  address6_digits _ host h := none_ne_host host h
  address6_serialized _ host h := none_ne_host host h

/-- The host parser. -/
def Hosts.parse (hosts : Hosts) (special : Bool) (text : List Char) : Option (List Char) :=
  match text with
  | '[' :: inner =>
    if inner.getLast? = some ']' then
      (hosts.address6 inner.dropLast).map (fun address => '[' :: address ++ [']'])
    else none
  | _ =>
    if special then hosts.domain text
    -- the opaque-host parser
    else if text.any isForbiddenHost then none
    else some (text.flatMap (percentEncode controlSet))

/-! ### The record -/

/-- An opaque path, or a list of segments. -/
inductive Path
  | text (chars : List Char)
  | list (segments : List (List Char))
deriving DecidableEq, Repr

/-- A URL record. -/
structure URL where
  scheme : List Char
  username : List Char
  password : List Char
  host : Option (List Char)
  port : Option Nat
  path : Path
  query : Option (List Char)
  fragment : Option (List Char)
deriving DecidableEq, Repr

namespace URL

def http : List Char := ['h', 't', 't', 'p']
def https : List Char := ['h', 't', 't', 'p', 's']
def file : List Char := ['f', 'i', 'l', 'e']

/-- The special schemes with their default ports. -/
def specialSchemes : List (List Char × Option Nat) :=
  [(['f', 't', 'p'], some 21), (file, none), (http, some 80), (https, some 443),
    (['w', 's'], some 80), (['w', 's', 's'], some 443)]

/-- Special schemes. -/
def isSpecialScheme (scheme : List Char) : Bool := specialSchemes.any (fun p => p.1 == scheme)

/-- The default port of a scheme. -/
def defaultPort (scheme : List Char) : Option Nat :=
  (specialSchemes.find? (fun p => p.1 == scheme)).bind (fun p => p.2)

/-- A URL is special if its scheme is. -/
def isSpecial (u : URL) : Bool := isSpecialScheme u.scheme

/-- The record that the parser starts from, once it knows the scheme. -/
def blank (scheme : List Char) : URL := ⟨scheme, [], [], none, none, .list [], none, none⟩

/-! ### Segments -/

/-- A Windows drive letter. -/
def isDrive : List Char → Bool
  | [letter, c] => letter.isAlpha && (c == ':' || c == '|')
  | _ => false

/-- A normalized Windows drive letter. -/
def isNormalizedDrive : List Char → Bool
  | [letter, c] => letter.isAlpha && c == ':'
  | _ => false

/-- A text that starts with a Windows drive letter. -/
def startsWithDrive (text : List Char) : Bool :=
  isDrive (text.take 2) &&
    match text.drop 2 with
    | [] => true
    | c :: _ => c ∈ ['/', '\\', '?', '#']

/-- A single-dot URL path segment. -/
def isSingleDot (segment : List Char) : Bool :=
  segment.map asciiLower ∈ [['.'], ['%', '2', 'e']]

/-- A double-dot URL path segment. -/
def isDoubleDot (segment : List Char) : Bool :=
  segment.map asciiLower ∈
    [['.', '.'], ['.', '%', '2', 'e'], ['%', '2', 'e', '.'], ['%', '2', 'e', '%', '2', 'e']]

/-- Shorten a path: the last segment goes, unless it is the drive letter of a file URL. -/
def shorten (scheme : List Char) (segments : List (List Char)) : List (List Char) :=
  match segments with
  | [segment] => if scheme = file ∧ isNormalizedDrive segment then segments else []
  | _ => segments.dropLast

/-- The segments of a path that is not opaque. -/
def segments (u : URL) : List (List Char) :=
  match u.path with
  | .text _ => []
  | .list segments => segments

/-- A segment of a path ends; `more` if a separator ended it. -/
def endSegment (u : URL) (buffer : List Char) (more : Bool) : URL :=
  if isDoubleDot buffer then
    let segments := shorten u.scheme u.segments
    { u with path := .list (if more then segments else segments ++ [[]]) }
  else if isSingleDot buffer then
    { u with path := .list (if more then u.segments else u.segments ++ [[]]) }
  else
    -- the bar of a drive letter becomes a colon
    let segment :=
      if u.scheme = file ∧ u.segments = [] ∧ isDrive buffer then buffer.take 1 ++ [':']
      else buffer
    { u with path := .list (u.segments ++ [segment]) }

/-! ### The states after the authority -/

/-- Fragment state. -/
def fragmentState (u : URL) (text : List Char) : URL :=
  { u with fragment := some (text.flatMap (percentEncode fragmentSet)) }

/-- Query state. -/
def queryState (u : URL) (text : List Char) : URL :=
  let query := text.takeWhile (fun c => c ≠ '#')
  let u' := { u with query := some (query.flatMap (percentEncode (querySet u.isSpecial))) }
  match text.dropWhile (fun c => c ≠ '#') with
  | [] => u'
  | _ :: rest => fragmentState u' rest

/-- Opaque path state, with the path so far. -/
def textState (u : URL) (path : List Char) : List Char → URL
  | [] => { u with path := .text path }
  | c :: rest =>
    if c = '?' then queryState { u with path := .text path } rest
    else if c = '#' then fragmentState { u with path := .text path } rest
    else if c = ' ' then
      -- only a space before the query or the fragment is encoded
      textState u (path ++ if rest.head? ∈ [some '?', some '#'] then ['%', '2', '0'] else [' ']) rest
    else textState u (path ++ percentEncode controlSet c) rest

/-- The separators of segments: a backslash counts in a special URL. -/
def isSlash (special : Bool) (c : Char) : Bool := c == '/' || (special && c == '\\')

/-- Path state, with the segment so far. -/
def pathState (u : URL) (buffer : List Char) : List Char → URL
  | [] => u.endSegment buffer false
  | c :: rest =>
    if isSlash u.isSpecial c then pathState (u.endSegment buffer true) [] rest
    else if c = '?' then queryState (u.endSegment buffer false) rest
    else if c = '#' then fragmentState (u.endSegment buffer false) rest
    else pathState u (buffer ++ percentEncode pathSet c) rest

/-- Path start state. -/
def pathStartState (u : URL) (text : List Char) : URL :=
  match text with
  | [] => if u.isSpecial then pathState u [] [] else u
  | c :: rest =>
    if isSlash u.isSpecial c then pathState u [] rest
    else if u.isSpecial then pathState u [] text
    else if c = '?' then queryState u rest
    else if c = '#' then fragmentState u rest
    else pathState u [] text

/-! ### The authority -/

/-- The characters that end an authority. -/
def endsAuthority (special : Bool) (c : Char) : Bool := isSlash special c || c == '?' || c == '#'

/-- The end of a port: it is stored unless it is the default, and the path follows. -/
def endPort (u : URL) (digits text : List Char) : Option URL :=
  if digits = [] then some (pathStartState u text)
  else
    let port := Nat.ofDigitChars 10 digits 0
    if 65535 < port then none
    else
      let port' := if some port = defaultPort u.scheme then none else some port
      some (pathStartState { u with port := port' } text)

/-- Port state, with the digits so far. -/
def portState (u : URL) (digits : List Char) : List Char → Option URL
  | [] => endPort u digits []
  | c :: rest =>
    if c.isDigit then portState u (digits ++ [c]) rest
    else if endsAuthority u.isSpecial c then endPort u digits (c :: rest)
    else none

/-- The end of a host without a port. -/
def endHost (hosts : Hosts) (u : URL) (buffer text : List Char) : Option URL :=
  if u.isSpecial ∧ buffer = [] then none
  else
    (hosts.parse u.isSpecial buffer).map
      (fun host => pathStartState { u with host := some host } text)

/-- Host state, with the host so far. -/
def hostState (hosts : Hosts) (u : URL) (brackets : Bool) (buffer : List Char) :
    List Char → Option URL
  | [] => endHost hosts u buffer []
  | c :: rest =>
    if c = ':' ∧ ¬ brackets then
      if buffer = [] then none
      else
        (hosts.parse u.isSpecial buffer).bind
          (fun host => portState { u with host := some host } [] rest)
    else if endsAuthority u.isSpecial c then endHost hosts u buffer (c :: rest)
    else
      hostState hosts u (if c = '[' then true else if c = ']' then false else brackets)
        (buffer ++ [c]) rest

/-- A character of the credentials; the second component says whether the password began. -/
def addCredential (state : URL × Bool) (c : Char) : URL × Bool :=
  if c = ':' ∧ ¬ state.2 then (state.1, true)
  else if state.2 then
    ({ state.1 with password := state.1.password ++ percentEncode userinfoSet c }, true)
  else ({ state.1 with username := state.1.username ++ percentEncode userinfoSet c }, false)

/-- The end of an authority: back to where the host begins. -/
def endAuthority (hosts : Hosts) (u : URL) (atSeen : Bool) (buffer text : List Char) : Option URL :=
  if atSeen ∧ buffer = [] then none else hostState hosts u false [] (buffer ++ text)

/-- Authority state. -/
def authorityState (hosts : Hosts) (u : URL) (atSeen passwordSeen : Bool) (buffer : List Char) :
    List Char → Option URL
  | [] => endAuthority hosts u atSeen buffer []
  | c :: rest =>
    if c = '@' then
      -- an earlier at sign belongs to the credentials
      let credentials := if atSeen then ['%', '4', '0'] ++ buffer else buffer
      let state := credentials.foldl addCredential (u, passwordSeen)
      authorityState hosts state.1 true state.2 [] rest
    else if endsAuthority u.isSpecial c then endAuthority hosts u atSeen buffer (c :: rest)
    else authorityState hosts u atSeen passwordSeen (buffer ++ [c]) rest

/-- Special authority ignore slashes state. -/
def ignoreSlashesState (hosts : Hosts) (u : URL) (text : List Char) : Option URL :=
  authorityState hosts u false false [] (text.dropWhile (isSlash true))

/-- Special authority slashes state. -/
def authoritySlashesState (hosts : Hosts) (u : URL) : List Char → Option URL
  | '/' :: '/' :: rest => ignoreSlashesState hosts u rest
  | text => ignoreSlashesState hosts u text

/-- Path or authority state. -/
def pathOrAuthorityState (hosts : Hosts) (u : URL) : List Char → Option URL
  | '/' :: rest => authorityState hosts u false false [] rest
  | text => some (pathState u [] text)

/-! ### File URLs -/

/-- The end of the host of a file URL.  A drive letter is not a host: it stays in the buffer as
    the first segment. -/
def endFileHost (hosts : Hosts) (u : URL) (buffer text : List Char) : Option URL :=
  if isDrive buffer then some (pathState u buffer text)
  else if buffer = [] then some (pathStartState { u with host := some [] } text)
  else
    (hosts.parse u.isSpecial buffer).map (fun host =>
      let host' := if host = ['l', 'o', 'c', 'a', 'l', 'h', 'o', 's', 't'] then [] else host
      pathStartState { u with host := some host' } text)

/-- File host state, with the host so far. -/
def fileHostState (hosts : Hosts) (u : URL) (buffer : List Char) : List Char → Option URL
  | [] => endFileHost hosts u buffer []
  | c :: rest =>
    if endsAuthority true c then endFileHost hosts u buffer (c :: rest)
    else fileHostState hosts u (buffer ++ [c]) rest

/-- Without a host of its own, a file URL takes host and drive letter of a file URL. -/
def inheritDrive (base : Option URL) (u : URL) (text : List Char) : URL :=
  match base with
  | none => u
  | some b =>
    if b.scheme = file then
      let drive := b.segments.take 1
      { u with
        host := b.host
        path := .list (u.segments ++
          if ¬ startsWithDrive text ∧ drive.any isNormalizedDrive then drive else []) }
    else u

/-- File slash state. -/
def fileSlashState (hosts : Hosts) (base : Option URL) (u : URL) (text : List Char) : Option URL :=
  match text with
  | [] => some (pathState (inheritDrive base u text) [] [])
  | c :: rest =>
    if isSlash true c then fileHostState hosts u [] rest
    else some (pathState (inheritDrive base u text) [] text)

/-- A file URL relative to a file URL. -/
def fileRelative (u base : URL) (text : List Char) : URL :=
  let u' := { u with host := base.host, path := base.path, query := base.query }
  match text with
  | [] => u'
  | c :: rest =>
    if c = '?' then queryState u' rest
    else if c = '#' then fragmentState u' rest
    else
      pathState { u' with
        query := none
        path := .list (if startsWithDrive text then [] else shorten file base.segments) } [] text

/-- A file URL that does not start with a slash. -/
def filePath (base : Option URL) (u : URL) (text : List Char) : URL :=
  match base with
  | none => pathState u [] text
  | some b => if b.scheme = file then fileRelative u b text else pathState u [] text

/-- File state. -/
def fileState (hosts : Hosts) (base : Option URL) (text : List Char) : Option URL :=
  let u : URL := { blank file with host := some [] }
  match text with
  | [] => some (filePath base u [])
  | c :: rest =>
    if isSlash true c then fileSlashState hosts base u rest else some (filePath base u text)

/-! ### The parser -/

/-- Relative slash state. -/
def relativeSlashState (hosts : Hosts) (base u : URL) (text : List Char) : Option URL :=
  let inherited : URL :=
    { u with
      username := base.username, password := base.password
      host := base.host, port := base.port }
  match text with
  | [] => some (pathState inherited [] [])
  | c :: rest =>
    if u.isSpecial ∧ isSlash true c then ignoreSlashesState hosts u rest
    else if c = '/' then authorityState hosts u false false [] rest
    else some (pathState inherited [] text)

/-- Relative state. -/
def relativeState (hosts : Hosts) (base : URL) (text : List Char) : Option URL :=
  let u := blank base.scheme
  let inherited : URL := { base with fragment := none }
  match text with
  | [] => some inherited
  | c :: rest =>
    if isSlash u.isSpecial c then relativeSlashState hosts base u rest
    else if c = '?' then some (queryState inherited rest)
    else if c = '#' then some (fragmentState inherited rest)
    else
      some (pathState { inherited with
        query := none
        path := .list (shorten base.scheme base.segments) } [] text)

/-- Special relative or authority state. -/
def relativeOrAuthorityState (hosts : Hosts) (base u : URL) : List Char → Option URL
  | '/' :: '/' :: rest => ignoreSlashesState hosts u rest
  | text => relativeState hosts base text

/-- No scheme state. -/
def noSchemeState (hosts : Hosts) (base : Option URL) (text : List Char) : Option URL :=
  match base with
  | none => none
  | some b =>
    match b.path, text with
    | .text _, '#' :: rest =>
      some (fragmentState { blank b.scheme with path := b.path, query := b.query } rest)
    | .text _, _ => none
    | .list _, _ => if b.scheme = file then fileState hosts base text else relativeState hosts b text

/-- What follows a scheme. -/
def afterScheme (hosts : Hosts) (base : Option URL) (scheme text : List Char) : Option URL :=
  let u := blank scheme
  if scheme = file then fileState hosts base text
  else if isSpecialScheme scheme then
    match base with
    | none => authoritySlashesState hosts u text
    | some b =>
      if b.scheme = scheme then relativeOrAuthorityState hosts b u text
      else authoritySlashesState hosts u text
  else
    match text with
    | '/' :: rest => pathOrAuthorityState hosts u rest
    | _ => some (textState u [] text)

/-- The characters of a scheme after its first. -/
def isSchemeChar (c : Char) : Bool := c.isAlphanum || c ∈ ['+', '-', '.']

/-- Scheme state, with the scheme so far: the scheme and what follows its colon. -/
def schemeState (buffer : List Char) : List Char → Option (List Char × List Char)
  | [] => none
  | c :: rest =>
    if isSchemeChar c then schemeState (buffer ++ [asciiLower c]) rest
    else if c = ':' then some (buffer, rest)
    else none

/-- Scheme start state. -/
def splitScheme : List Char → Option (List Char × List Char)
  | [] => none
  | c :: rest => if c.isAlpha then schemeState [asciiLower c] rest else none

/-- C0 controls and space. -/
def isControl (c : Char) : Bool := c.toNat ≤ 0x20

/-- The input without C0 controls and spaces around it, and without tabs and newlines. -/
def preprocess (text : List Char) : List Char :=
  ((text.dropWhile isControl).rdropWhile isControl).filter
    (fun c => c ∉ ['\t', '\n', '\r'])

/-- The basic URL parser. -/
def parse (hosts : Hosts) (base : Option URL) (input : List Char) : Option URL :=
  let text := preprocess input
  match splitScheme text with
  | some (scheme, rest) => afterScheme hosts base scheme rest
  | none => noSchemeState hosts base text

/-! ### The serializer and the getters -/

/-- `pathname`: the URL path serializer. -/
def pathname (u : URL) : List Char :=
  match u.path with
  | .text chars => chars
  | .list segments => segments.flatMap (fun segment => '/' :: segment)

/-- An optional part behind its delimiter; the getters leave out an empty one. -/
def delimited (delimiter : Char) : Option (List Char) → List Char
  | none => []
  | some part => delimiter :: part

/-- `search`. -/
def search (u : URL) : List Char := if u.query = some [] then [] else delimited '?' u.query

/-- `hash`. -/
def hash (u : URL) : List Char := if u.fragment = some [] then [] else delimited '#' u.fragment

/-- The credentials in a serialized URL. -/
def credentials (u : URL) : List Char :=
  if u.username = [] ∧ u.password = [] then []
  else u.username ++ (if u.password = [] then [] else ':' :: u.password) ++ ['@']

/-- The authority of a serialized URL, or what keeps a path from being read as one. -/
def authority (u : URL) : List Char :=
  match u.host with
  | some host =>
    ['/', '/'] ++ u.credentials ++ host ++ delimited ':' (u.port.map (Nat.toDigits 10))
  | none =>
    match u.path with
    | .list ([] :: _ :: _) => ['/', '.']
    | _ => []

/-- `href`: the URL serializer. -/
def href (u : URL) : List Char :=
  u.scheme ++ [':'] ++ u.authority ++ u.pathname ++ delimited '?' u.query ++ delimited '#' u.fragment

/-! ### What the states after the authority keep -/

/-- A URL whose path is a list of segments. -/
def Hierarchical (u : URL) : Prop := ∃ segments, u.path = .list segments

/-- Everything up to the path is kept, and the path stays a list. -/
structure Keeps (u v : URL) : Prop where
  scheme : v.scheme = u.scheme
  username : v.username = u.username
  password : v.password = u.password
  host : v.host = u.host
  port : v.port = u.port
  path : u.Hierarchical → v.Hierarchical

variable {u v w : URL}

theorem Keeps.trans (h : u.Keeps v) (h' : v.Keeps w) : u.Keeps w where
  scheme := h'.scheme.trans h.scheme
  username := h'.username.trans h.username
  password := h'.password.trans h.password
  host := h'.host.trans h.host
  port := h'.port.trans h.port
  path hu := h'.path (h.path hu)

theorem Keeps.fragmentState (u : URL) (text : List Char) : u.Keeps (u.fragmentState text) :=
  ⟨rfl, rfl, rfl, rfl, rfl, id⟩

theorem Keeps.queryState (u : URL) (text : List Char) : u.Keeps (u.queryState text) := by
  unfold URL.queryState
  split
  · exact ⟨rfl, rfl, rfl, rfl, rfl, id⟩
  · exact ⟨rfl, rfl, rfl, rfl, rfl, id⟩

theorem Keeps.endSegment (u : URL) (buffer : List Char) (more : Bool) :
    u.Keeps (u.endSegment buffer more) := by
  unfold URL.endSegment
  split
  · exact ⟨rfl, rfl, rfl, rfl, rfl, fun _ => ⟨_, rfl⟩⟩
  · split
    · exact ⟨rfl, rfl, rfl, rfl, rfl, fun _ => ⟨_, rfl⟩⟩
    · exact ⟨rfl, rfl, rfl, rfl, rfl, fun _ => ⟨_, rfl⟩⟩

theorem Keeps.pathState (u : URL) (buffer text : List Char) : u.Keeps (u.pathState buffer text) := by
  -- along the text; a separator starts a new segment with a changed path
  induction text generalizing u buffer with
  | nil => exact Keeps.endSegment u buffer false
  | cons c rest ih =>
    rw [URL.pathState]
    split
    · exact (Keeps.endSegment u buffer true).trans (ih _ _)
    · split
      · exact (Keeps.endSegment u buffer false).trans (Keeps.queryState _ _)
      · split
        · exact (Keeps.endSegment u buffer false).trans (Keeps.fragmentState _ _)
        · exact ih _ _

theorem Keeps.pathStartState (u : URL) (text : List Char) : u.Keeps (u.pathStartState text) := by
  unfold URL.pathStartState
  cases text with
  | nil =>
    show u.Keeps (if u.isSpecial then u.pathState [] [] else u)
    split
    · exact Keeps.pathState u [] []
    · exact ⟨rfl, rfl, rfl, rfl, rfl, id⟩
  | cons c rest =>
    simp only
    split
    · exact Keeps.pathState u [] rest
    · split
      · exact Keeps.pathState u [] _
      · split
        · exact Keeps.queryState u rest
        · split
          · exact Keeps.fragmentState u rest
          · exact Keeps.pathState u [] _

/-- An opaque path keeps everything before it as well. -/
theorem textState_scheme (u : URL) (path text : List Char) :
    (u.textState path text).scheme = u.scheme := by
  induction text generalizing path with
  | nil => rfl
  | cons c rest ih =>
    rw [textState]
    split
    · exact (Keeps.queryState _ _).scheme
    · split
      · exact (Keeps.fragmentState _ _).scheme
      · split
        · exact ih _
        · exact ih _

end URL

end WebVPN.Library
