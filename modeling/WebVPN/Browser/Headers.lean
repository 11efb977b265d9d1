import Mathlib.Data.List.Forall2
import WebVPN.Library.Serialized

namespace WebVPN.Browser

open WebVPN.Library

/-!
# Browser — headers of an upstream response

`sanitizeUpstreamHeaders` of `web/src/transport-policy.ts`, on the list of headers that
`web/src/compat.ts` hands it.  A call that throws returns `none`.

* `Platform` — the parts of the JavaScript platform: hosts in URLs, and lower case;
* `sanitizeUpstreamHeaders`, with `nominated`, `isKept` and `rewriteHeader` for its three steps;
* `sanitizeUpstreamHeaders_eq_some` — the headers it returns, one for each header it keeps.
-/

/-! ### The platform -/

/-- What the rewriting takes from the platform. -/
structure Platform where
  hosts : Hosts
  toLowerCase : String → String
  lower_ascii : ∀ text : String, (∀ c ∈ text.toList, c.toNat < 128) →
    toLowerCase text = String.ofList (text.toList.map asciiLower)

/-- White space and line terminators, as `trim` and the class `\s` of regular expressions have
    them. -/
def isJsSpace (c : Char) : Bool :=
  c.toNat ∈ [0x09, 0x0a, 0x0b, 0x0c, 0x0d, 0x20, 0xa0, 0x1680, 0x2028, 0x2029, 0x202f, 0x205f,
    0x3000, 0xfeff] || (0x2000 ≤ c.toNat && c.toNat ≤ 0x200a)

/-- `trim`. -/
def jsTrim (text : List Char) : List Char := (text.dropWhile isJsSpace).rdropWhile isJsSpace

/-- `new URL(value, remote)`; the base goes through its serialization. -/
def newURL (p : Platform) (value : List Char) (remote : URL) : Option URL :=
  (URL.parse p.hosts none remote.href).bind (fun base => URL.parse p.hosts (some base) value)

/-! ### The rewriting -/

/-- A header: name and value. -/
abbrev Header := String × String

/-- `hopByHop`. -/
def hopByHop : List String :=
  ["connection", "keep-alive", "proxy-authenticate", "proxy-authorization", "proxy-connection", "te",
    "trailer", "transfer-encoding", "upgrade"]

/-- The header names that the Connection headers nominate. -/
def nominated (p : Platform) (headers : List Header) : List String :=
  (headers.filter (fun h => p.toLowerCase h.1 = "connection")).flatMap (fun h =>
    (splitChar ',' h.2.toList).map (fun name => p.toLowerCase (String.ofList (jsTrim name))))

/-- The headers that are not dropped. -/
def isKept (p : Platform) (headers : List Header) (h : Header) : Bool :=
  p.toLowerCase h.1 ∉ hopByHop && p.toLowerCase h.1 ∉ nominated p headers

/-- Does the text after a semicolon match `\s*domain=`, in any case? -/
def startsDomain (text : List Char) : Bool :=
  "domain=".toList.isPrefixOf ((text.dropWhile isJsSpace).map asciiLower)

/-- `value.replace(/;\s*domain=[^;]*/gi, '')`; `skipping` within a match. -/
def stripDomain (skipping : Bool) : List Char → List Char
  | [] => []
  | c :: rest =>
    if c = ';' then
      if startsDomain rest then stripDomain true rest else ';' :: stripDomain false rest
    else if skipping then stripDomain true rest
    else c :: stripDomain false rest

/-- The URL a Location header is rewritten to: path, query and fragment of its target, read once
    more as a reference. -/
def rewriteLocation (p : Platform) (remote : URL) (value : List Char) : Option URL :=
  (newURL p value remote).bind (fun target =>
    newURL p (target.pathname ++ target.search ++ target.hash) remote)

/-- The rewriting of one header. -/
def rewriteHeader (p : Platform) (remote : URL) (h : Header) : Option Header :=
  let lower := p.toLowerCase h.1
  if lower = "location" then
    (rewriteLocation p remote h.2.toList).map (fun url => (h.1, String.ofList url.href))
  else if lower = "set-cookie" then some (h.1, String.ofList (stripDomain false h.2.toList))
  else some h

/-- `sanitizeUpstreamHeaders`. -/
def sanitizeUpstreamHeaders (p : Platform) (headers : List Header) (remote : URL) :
    Option (List Header) :=
  (headers.filter (isKept p headers)).mapM (rewriteHeader p remote)

/-! ### What is returned -/

section Returned

variable {p : Platform} {headers out : List Header} {remote : URL}

/-- The headers that are returned, one for each header that is kept. -/
theorem sanitizeUpstreamHeaders_eq_some :
    sanitizeUpstreamHeaders p headers remote = some out ↔
      List.Forall₂ (fun h h' => rewriteHeader p remote h = some h')
        (headers.filter (isKept p headers)) out := by
  unfold sanitizeUpstreamHeaders
  generalize headers.filter (isKept p headers) = kept
  induction kept generalizing out with
  | nil => simp
  | cons h kept ih =>
    rw [List.mapM_cons, List.forall₂_cons_left_iff]
    cases hh : rewriteHeader p remote h with
    | none => simp
    | some h' =>
      simp only [Option.bind_eq_bind, Option.bind_some, Option.bind_eq_some_iff, Option.pure_def,
        Option.some.injEq]
      constructor
      · rintro ⟨out', hout', rfl⟩
        exact ⟨h', out', rfl, ih.mp hout', rfl⟩
      · rintro ⟨h'', out', rfl, hout', rfl⟩
        exact ⟨out', ih.mpr hout', rfl⟩

/-- All headers are rewritten, and to headers with a property, exactly if each of them is. -/
theorem exists_sanitizeUpstreamHeaders {P : Header → Prop} :
    (∃ out, sanitizeUpstreamHeaders p headers remote = some out ∧ ∀ h' ∈ out, P h') ↔
      ∀ h ∈ headers, isKept p headers h = true → ∃ h', rewriteHeader p remote h = some h' ∧ P h' := by
  have hforall : ∀ kept : List Header,
      (∃ out, List.Forall₂ (fun h h' => rewriteHeader p remote h = some h') kept out ∧
        ∀ h' ∈ out, P h') ↔
      ∀ h ∈ kept, ∃ h', rewriteHeader p remote h = some h' ∧ P h' := by
    intro kept
    induction kept with
    | nil => simp
    | cons h kept ih =>
      rw [List.forall_mem_cons, ← ih]
      constructor
      · rintro ⟨out, hout, hP⟩
        obtain ⟨h', out', hh', hout', rfl⟩ := List.forall₂_cons_left_iff.mp hout
        obtain ⟨hfirst, hrest⟩ := List.forall_mem_cons.mp hP
        exact ⟨⟨h', hh', hfirst⟩, out', hout', hrest⟩
      · rintro ⟨⟨h', hh', hfirst⟩, out', hout', hrest⟩
        exact ⟨h' :: out', .cons hh' hout', List.forall_mem_cons.mpr ⟨hfirst, hrest⟩⟩
  simp only [sanitizeUpstreamHeaders_eq_some, hforall, List.mem_filter, and_imp]

/-- A single header that is not hop-by-hop is kept: only a Connection header nominates. -/
theorem sanitizeUpstreamHeaders_singleton {h : Header} (hname : p.toLowerCase h.1 ∉ hopByHop) :
    sanitizeUpstreamHeaders p [h] remote = (rewriteHeader p remote h).map (fun h' => [h']) := by
  have hne : p.toLowerCase h.1 ≠ "connection" := by
    intro heq
    rw [heq] at hname
    exact hname (by decide)
  have hkept : isKept p [h] h = true := by simp [isKept, nominated, hname, hne]
  unfold sanitizeUpstreamHeaders
  rw [List.filter_cons_of_pos hkept, List.filter_nil, List.mapM_cons]
  cases rewriteHeader p remote h with
  | none => rfl
  | some h' => rfl

end Returned

end WebVPN.Browser
