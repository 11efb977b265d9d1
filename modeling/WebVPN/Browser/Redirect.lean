import WebVPN.Browser.Headers

namespace WebVPN.Browser

open WebVPN.Library

/-!
# Browser — redirects

Where the Location headers lead that `sanitizeUpstreamHeaders` returns.  The path, query and
fragment of the target are read once more as a reference, so they stay on the synthetic origin
only if that text does not start like an authority or another URL.

* `OnOrigin` — a value that is a URL with the origin of the remote URL;
* `sanitizeUpstreamHeaders_onOrigin` — all Location headers are on the origin exactly if the
  text that is read again is confined;
* `leaves_origin` — redirects to other hosts and schemes.
-/

/-- The value is a URL with scheme, host and port of the remote one. -/
def OnOrigin (p : Platform) (remote : URL) (value : List Char) : Prop :=
  ∃ url, URL.parse p.hosts none value = some url ∧ url.SameOrigin remote

section Redirect

variable {p : Platform} {remote : URL}

/-- The base of the two calls: the remote URL, serialized and read again. -/
theorem exists_newURL_base (hremote : URL.Networked p.hosts remote) :
    ∃ base, base.SameOrigin remote ∧ URL.Networked p.hosts base ∧
      ∀ value, newURL p value remote = URL.parse p.hosts (some base) value := by
  obtain ⟨base, hbase, hsame, hnet⟩ := URL.exists_parse_href hremote
  refine ⟨base, hsame, hnet, fun value => ?_⟩
  rw [newURL, hbase, Option.bind_some]

/-- The text of a URL that was read relative to a base is on its origin exactly if the URL is. -/
theorem onOrigin_href {base url : URL} {value : List Char} (hbase : URL.Networked p.hosts base)
    (hurl : URL.parse p.hosts (some base) value = some url) :
    OnOrigin p base url.href ↔ url.SameOrigin base := by
  obtain ⟨hscheme, hnet⟩ := URL.parse_cases hbase hurl
  constructor
  · rintro ⟨v, hv, hsame⟩
    have heq : url.scheme = base.scheme := by
      rw [← URL.parse_href_scheme hscheme hv]
      exact hsame.scheme
    obtain ⟨v', hv', hsame', -⟩ := URL.exists_parse_href (hnet heq)
    rw [hv] at hv'
    cases hv'
    exact ⟨heq, hsame'.host.symm.trans hsame.host, hsame'.port.symm.trans hsame.port⟩
  · intro hsame
    obtain ⟨v, hv, hsame', -⟩ := URL.exists_parse_href (hnet hsame.scheme)
    exact ⟨v, hv, hsame'.scheme.trans hsame.scheme, hsame'.host.trans hsame.host,
      hsame'.port.trans hsame.port⟩

/-- Which texts are on the origin depends on the origin only. -/
theorem onOrigin_congr {base : URL} (h : base.SameOrigin remote) (value : List Char) :
    OnOrigin p base value ↔ OnOrigin p remote value := by
  unfold OnOrigin
  constructor
  · rintro ⟨url, hurl, hsame⟩
    exact ⟨url, hurl, hsame.scheme.trans h.scheme, hsame.host.trans h.host, hsame.port.trans h.port⟩
  · rintro ⟨url, hurl, hsame⟩
    exact ⟨url, hurl, hsame.scheme.trans h.scheme.symm, hsame.host.trans h.host.symm,
      hsame.port.trans h.port.symm⟩

/-- A Location value is rewritten to a URL on the origin exactly if the text that is read again is
    confined. -/
theorem rewriteLocation_onOrigin (hremote : URL.Networked p.hosts remote) {value : List Char}
    {target : URL} (htarget : newURL p value remote = some target) :
    (∃ url, rewriteLocation p remote value = some url ∧ OnOrigin p remote url.href) ↔
      URL.Confined p.hosts remote (target.pathname ++ target.search ++ target.hash) := by
  obtain ⟨base, hsame, hnet, hnew⟩ := exists_newURL_base hremote
  rw [← URL.confined_congr hsame, ← URL.exists_parse_sameOrigin hnet]
  unfold rewriteLocation
  rw [htarget, Option.bind_some, hnew]
  constructor
  · rintro ⟨url, hurl, hon⟩
    rw [← onOrigin_congr hsame, onOrigin_href hnet hurl] at hon
    exact ⟨url, hurl, hon⟩
  · rintro ⟨url, hurl, hon⟩
    refine ⟨url, hurl, ?_⟩
    rw [← onOrigin_congr hsame, onOrigin_href hnet hurl]
    exact hon

end Redirect

/-- **Redirects on the synthetic origin.**  Where every Location value can be parsed, the headers
    are returned with every Location on the origin of the remote URL exactly if, for each Location
    that is kept, path, query and fragment of its target are confined to that origin. -/
theorem sanitizeUpstreamHeaders_onOrigin (p : Platform) (remote : URL)
    (hremote : URL.Networked p.hosts remote) (headers : List Header)
    (hparse : ∀ h ∈ headers, p.toLowerCase h.1 = "location" →
      (newURL p h.2.toList remote).isSome = true) :
    (∃ out, sanitizeUpstreamHeaders p headers remote = some out ∧
      ∀ h ∈ out, p.toLowerCase h.1 = "location" → OnOrigin p remote h.2.toList) ↔
    ∀ h ∈ headers, isKept p headers h = true → p.toLowerCase h.1 = "location" →
      ∀ target, newURL p h.2.toList remote = some target →
        URL.Confined p.hosts remote (target.pathname ++ target.search ++ target.hash) := by
  rw [exists_sanitizeUpstreamHeaders]
  apply forall_congr'
  intro h
  apply forall_congr'
  intro hmem
  apply forall_congr'
  intro _
  by_cases hloc : p.toLowerCase h.1 = "location"
  · obtain ⟨target, htarget⟩ := Option.isSome_iff_exists.mp (hparse h hmem hloc)
    have hiff := rewriteLocation_onOrigin hremote htarget
    simp only [rewriteHeader, hloc, if_true, Option.map_eq_some_iff, htarget, Option.some.injEq,
      forall_const, forall_eq']
    rw [← hiff]
    constructor
    · rintro ⟨h', ⟨url, hurl, rfl⟩, hon⟩
      refine ⟨url, hurl, ?_⟩
      simpa using hon hloc
    · rintro ⟨url, hurl, hon⟩
      refine ⟨_, ⟨url, hurl, rfl⟩, fun _ => ?_⟩
      simpa using hon
  · -- another header keeps its name
    have hname : ∃ h', rewriteHeader p remote h = some h' ∧ h'.1 = h.1 := by
      simp only [rewriteHeader, hloc, if_false]
      split
      · exact ⟨_, rfl, rfl⟩
      · exact ⟨_, rfl, rfl⟩
    obtain ⟨h', hh', hname⟩ := hname
    simp [hh', hname, hloc]

/-! ### Runs -/

/-- ASCII names only. -/
def Platform.plain : Platform where
  hosts := .plain
  toLowerCase text := String.ofList (text.toList.map asciiLower)
  lower_ascii _ _ := rfl

/-- The remote URL of the runs, `https://service.webvpn.invalid/start`. -/
def remoteURL : URL :=
  { URL.blank URL.https with
    host := some "service.webvpn.invalid".toList, path := .list ["start".toList] }

theorem networked_remoteURL (p : Platform) : URL.Networked p.hosts remoteURL where
  special := by decide
  notFile := by decide
  host := ⟨_, rfl, p.hosts.domain_plain _ (by decide +kernel)⟩
  port := by rintro port ⟨⟩
  encoded := by decide
  path := ⟨_, rfl⟩

/-- An ordinary redirect of a device, with another scheme and host. -/
theorem sanitizeUpstreamHeaders_onOrigin_of_login :
    ∃ out, sanitizeUpstreamHeaders .plain [("Location", "http://router.lan/login?next=a#top")]
        remoteURL = some out ∧
      ∀ h ∈ out, Platform.plain.toLowerCase h.1 = "location" → OnOrigin .plain remoteURL h.2.toList := by
  refine (sanitizeUpstreamHeaders_onOrigin .plain remoteURL (networked_remoteURL _)
    [("Location", "http://router.lan/login?next=a#top")] (by decide +kernel)).mpr ?_
  intro h hmem _ _ target htarget
  have hh : h = ("Location", "http://router.lan/login?next=a#top") := List.mem_singleton.mp hmem
  have hnew : newURL .plain "http://router.lan/login?next=a#top".toList remoteURL =
      some { URL.blank URL.http with
        host := some "router.lan".toList, path := .list ["login".toList]
        query := some "next=a".toList, fragment := some "top".toList } := by decide +kernel
  rw [hh, hnew] at htarget
  cases htarget
  exact URL.confined_of_slash (c := 'l') _ _ (by decide) (by decide) _

/-- One Location header is kept and rewritten. -/
theorem sanitizeUpstreamHeaders_location (p : Platform) (remote : URL) (value : String) :
    sanitizeUpstreamHeaders p [("Location", value)] remote =
      (rewriteLocation p remote value.toList).map (fun url => [("Location", String.ofList url.href)]) := by
  have hlower : p.toLowerCase "Location" = "location" := by
    rw [p.lower_ascii "Location" (by decide)]
    decide
  rw [sanitizeUpstreamHeaders_singleton (by rw [hlower]; decide)]
  simp only [rewriteHeader, hlower, if_true, Option.map_map]
  rfl

/-- **Redirects that leave the origin.**  Whatever the platform does with hosts, a redirect of a device
    to a path that starts with two slashes leads to the host that the path names, and a redirect to
    an opaque path can lead to another scheme. -/
theorem leaves_origin : remoteURL.scheme = URL.https ∧ ∀ p : Platform, URL.Networked p.hosts remoteURL ∧
    ((newURL p "http://router.lan//attacker.example/".toList remoteURL).isSome = true ∧
      sanitizeUpstreamHeaders p [("Location", "http://router.lan//attacker.example/")] remoteURL =
        some [("Location", "https://attacker.example/")] ∧
      ¬ OnOrigin p remoteURL "https://attacker.example/".toList) ∧
    ((newURL p "x:javascript:alert(1)".toList remoteURL).isSome = true ∧
      sanitizeUpstreamHeaders p [("Location", "x:javascript:alert(1)")] remoteURL =
        some [("Location", "javascript:alert(1)")] ∧
      ¬ OnOrigin p remoteURL "javascript:alert(1)".toList) := by
  refine ⟨rfl, fun p => ?_⟩
  have hdomain : ∀ name : List Char, IsPlainName name → p.hosts.domain name = some name :=
    p.hosts.domain_plain
  have hbase : URL.parse p.hosts none remoteURL.href = some remoteURL := by
    have hread : URL.parse p.hosts none remoteURL.href =
        (p.hosts.domain "service.webvpn.invalid".toList).map (fun host =>
          URL.pathStartState { URL.blank URL.https with host := some host } "/start".toList) := rfl
    rw [hread, hdomain _ (by decide +kernel)]
    rfl
  have hnew : ∀ value, newURL p value remoteURL = URL.parse p.hosts (some remoteURL) value := by
    intro value
    rw [newURL, hbase, Option.bind_some]
  -- the device names its own host, the path names another one
  have hdevice : newURL p "http://router.lan//attacker.example/".toList remoteURL =
      some { URL.blank URL.http with
        host := some "router.lan".toList
        path := .list [[], "attacker.example".toList, []] } := by
    have hread : URL.parse p.hosts (some remoteURL) "http://router.lan//attacker.example/".toList =
        (p.hosts.domain "router.lan".toList).map (fun host =>
          URL.pathStartState { URL.blank URL.http with host := some host }
            "//attacker.example/".toList) := rfl
    rw [hnew, hread, hdomain _ (by decide +kernel)]
    rfl
  have hattacker : newURL p "//attacker.example/".toList remoteURL =
      some { URL.blank URL.https with
        host := some "attacker.example".toList, path := .list [[]] } := by
    have hread : URL.parse p.hosts (some remoteURL) "//attacker.example/".toList =
        (p.hosts.domain "attacker.example".toList).map (fun host =>
          URL.pathStartState { URL.blank URL.https with host := some host } ['/']) := rfl
    rw [hnew, hread, hdomain _ (by decide +kernel)]
    rfl
  have hhref : URL.parse p.hosts none "https://attacker.example/".toList =
      some { URL.blank URL.https with
        host := some "attacker.example".toList, path := .list [[]] } := by
    have hread : URL.parse p.hosts none "https://attacker.example/".toList =
        (p.hosts.domain "attacker.example".toList).map (fun host =>
          URL.pathStartState { URL.blank URL.https with host := some host } ['/']) := rfl
    rw [hread, hdomain _ (by decide +kernel)]
    rfl
  -- an opaque path that is a URL itself; no host is parsed
  have hnested : newURL p "x:javascript:alert(1)".toList remoteURL =
      some { URL.blank ['x'] with path := .text "javascript:alert(1)".toList } := by
    rw [hnew]
    rfl
  have hscript : ∀ base, URL.parse p.hosts base "javascript:alert(1)".toList =
      some { URL.blank "javascript".toList with path := .text "alert(1)".toList } := fun _ => rfl
  refine ⟨networked_remoteURL p, ⟨by rw [hdevice]; rfl, ?_, ?_⟩, by rw [hnested]; rfl, ?_, ?_⟩
  · rw [sanitizeUpstreamHeaders_location, rewriteLocation, hdevice, Option.bind_some]
    show Option.map _ (newURL p "//attacker.example/".toList remoteURL) = _
    rw [hattacker]
    rfl
  · rintro ⟨url, hurl, hsame⟩
    rw [hhref] at hurl
    cases hurl
    exact absurd hsame.host (by decide)
  · rw [sanitizeUpstreamHeaders_location, rewriteLocation, hnested, Option.bind_some]
    show Option.map _ (newURL p "javascript:alert(1)".toList remoteURL) = _
    rw [hnew, hscript]
    rfl
  · rintro ⟨url, hurl, hsame⟩
    rw [hscript] at hurl
    cases hurl
    exact absurd hsame.scheme (by decide)

end WebVPN.Browser
