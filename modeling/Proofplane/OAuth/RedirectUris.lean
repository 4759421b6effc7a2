import Proofplane.Authentication.ClientRegistration
import Proofplane.OAuth.Service

/-!
# Redirect URIs

A native client listens on a loopback address, at a port that it does not know when it registers.  Three
predicates decide what a loopback redirect is: one admits a URI at registration, one takes its port out of
the client id, one compares it when a flow begins.

* `ParsedUrl`                  a URL with all its components, `ReadsUrls` what the library does with them;
* `validRedirectUri`           what registration admits;
* `redirectUriMatches_iff`     when two URIs match, `redirectUriMatches_trans`;
* `loopback_predicates_agree_iff`   **the three agree on a URI, and it can be used as it was registered, exactly
                             when its host is not `[::1]`**;
* `redirect_match_sound_iff`   **URIs that match differ in nothing but the port, exactly when they do not differ
                             in user, password or fragment alone**.
-/

namespace Proofplane
open Base ClientRegistration

/-- a parsed URL -/
structure ParsedUrl where
  scheme : String
  username : String
  password : Option String
  host : Option String
  port : Option UInt16
  path : String
  query : Option String
  fragment : Option String
  deriving DecidableEq, Repr

/-- the components that the comparison reads -/
def ParsedUrl.parts (url : ParsedUrl) : Url := ⟨url.scheme, url.host, url.path, url.query⟩

/-- the reader of URLs as the flows use it -/
def urlParts (parse : String → Option ParsedUrl) (uri : String) : Option Url :=
  (parse uri).map ParsedUrl.parts

/-- the library on URLs: its accessors, and a URL without its port, which is read back as it was written -/
structure ReadsUrls (L : Libraries ParsedUrl) : Prop where
  scheme : ∀ url, L.scheme url = url.scheme
  hostStr : ∀ url, L.hostStr url = url.host
  setPort : ∀ url, url.scheme = "http" → url.host.isSome = true → L.setPort url none = { url with port := none }
  parse_toText : ∀ uri url, L.parse uri = some url → url.scheme = "http" → url.host.isSome = true →
    L.parse (L.toText { url with port := none }) = some { url with port := none }

/-! ## Loopback hosts -/

/-- what registration admits: every `https` URI, and `http` to a loopback host -/
def validRedirectUri (parse : String → Option ParsedUrl) (uri : String) : Bool :=
  match parse uri with
  | none => false
  | some url =>
    if url.scheme = "https" then true
    else if url.scheme = "http" then
      url.host.any fun host =>
        decide (host = "127.0.0.1") || decide (host = "localhost") || decide (host = "::1")
    else false

/-- the hosts that all three predicates know -/
def LoopbackHost (host : String) : Prop := host = "127.0.0.1" ∨ host = "localhost" ∨ host = "::1"

theorem isLoopbackRedirect_iff {url : Url} :
    isLoopbackRedirect url = true ↔
      url.scheme = "http" ∧ ∃ host, url.host = some host ∧ (LoopbackHost host ∨ host = "[::1]") := by
  unfold isLoopbackRedirect LoopbackHost
  rw [Bool.and_eq_true, decide_eq_true_eq, Option.any_eq_true]
  simp only [Bool.or_eq_true, decide_eq_true_eq, or_assoc]

theorem isLoopbackHttp_iff {L : Libraries ParsedUrl} (hL : ReadsUrls L) {url : ParsedUrl} :
    isLoopbackHttp L url = true ↔ isLoopbackRedirect url.parts = true := by
  unfold isLoopbackHttp isLoopbackRedirect
  rw [hL.scheme, hL.hostStr]
  rfl

theorem validRedirectUri_iff {parse : String → Option ParsedUrl} {uri : String} {url : ParsedUrl}
    (hparse : parse uri = some url) (hhttp : url.scheme = "http") :
    validRedirectUri parse uri = true ↔ ∃ host, url.host = some host ∧ LoopbackHost host := by
  have hhttps : ¬ url.scheme = "https" := by
    rw [hhttp]
    decide
  unfold validRedirectUri LoopbackHost
  rw [hparse]
  dsimp only
  rw [if_neg hhttps, if_pos hhttp, Option.any_eq_true]
  simp only [Bool.or_eq_true, decide_eq_true_eq, or_assoc]

/-! ## Matching -/

section
variable {parse : String → Option Url} {a b c : String}

theorem redirectUriMatches_iff :
    redirectUriMatches parse a b = true ↔
      a = b ∨ ∃ d r, parse a = some d ∧ parse b = some r ∧ isLoopbackRedirect d = true ∧ d = r := by
  unfold redirectUriMatches
  by_cases hab : a = b
  · rw [if_pos hab]
    exact iff_of_true rfl (.inl hab)
  · rw [if_neg hab]
    cases ha : parse a with
    | none => simp [hab]
    | some d =>
      cases hb : parse b with
      | none => simp [hab]
      | some r =>
        dsimp only
        simp only [Bool.and_eq_true, decide_eq_true_eq]
        constructor
        · rintro ⟨⟨⟨⟨⟨hd, -⟩, hscheme⟩, hhost⟩, hpath⟩, hquery⟩
          refine .inr ⟨d, r, rfl, rfl, hd, ?_⟩
          obtain ⟨scheme, host, path, query⟩ := d
          obtain ⟨scheme', host', path', query'⟩ := r
          rw [Url.mk.injEq]
          exact ⟨hscheme, hhost, hpath, hquery⟩
        · rintro (heq | ⟨d', r', hd', hr', hd, rfl⟩)
          · exact absurd heq hab
          · obtain rfl := Option.some.inj hd'
            obtain rfl := Option.some.inj hr'
            exact ⟨⟨⟨⟨⟨hd, hd⟩, rfl⟩, rfl⟩, rfl⟩, rfl⟩

theorem redirectUriMatches_self (parse : String → Option Url) (a : String) :
    redirectUriMatches parse a a = true := redirectUriMatches_iff.mpr (.inl rfl)

theorem redirectUriMatches_symm (h : redirectUriMatches parse a b = true) :
    redirectUriMatches parse b a = true := by
  rcases redirectUriMatches_iff.mp h with rfl | ⟨d, r, ha, hb, hd, rfl⟩
  · exact redirectUriMatches_self parse a
  · exact redirectUriMatches_iff.mpr (.inr ⟨d, d, hb, ha, hd, rfl⟩)

theorem redirectUriMatches_trans (h : redirectUriMatches parse a b = true)
    (h' : redirectUriMatches parse b c = true) : redirectUriMatches parse a c = true := by
  rcases redirectUriMatches_iff.mp h with rfl | ⟨d, r, ha, hb, hd, rfl⟩
  · exact h'
  · rcases redirectUriMatches_iff.mp h' with rfl | ⟨d', r', hb', hc, -, rfl⟩
    · exact h
    · obtain rfl := Option.some.inj (hb.symm.trans hb')
      exact redirectUriMatches_iff.mpr (.inr ⟨d, d, ha, hc, hd, rfl⟩)

end

/-! ## What registration admits and what is compared -/

section
variable {L : Libraries ParsedUrl} {uri : String} {url : ParsedUrl}

theorem normalizeRedirectUri_matches (hL : ReadsUrls L) (uri : String) :
    redirectUriMatches (urlParts L.parse) (normalizeRedirectUri L uri) uri = true := by
  cases hparse : L.parse uri with
  | none =>
    have hself : normalizeRedirectUri L uri = uri := by
      unfold normalizeRedirectUri
      rw [hparse]
    rw [hself]
    exact redirectUriMatches_self _ uri
  | some url =>
    by_cases hloopback : isLoopbackHttp L url = true
    · have hredirect := (isLoopbackHttp_iff hL).mp hloopback
      obtain ⟨hhttp, host, hhost, -⟩ := isLoopbackRedirect_iff.mp hredirect
      have hsome : url.host.isSome = true := Option.isSome_iff_exists.mpr ⟨host, hhost⟩
      have hback := hL.parse_toText uri url hparse hhttp hsome
      rw [normalizeRedirectUri_loopback hparse hloopback, hL.setPort url hhttp hsome]
      refine redirectUriMatches_iff.mpr (.inr ⟨url.parts, url.parts, ?_, ?_, hredirect, rfl⟩)
      · exact congrArg (Option.map ParsedUrl.parts) hback
      · exact congrArg (Option.map ParsedUrl.parts) hparse
    · have hself : normalizeRedirectUri L uri = uri := by
        unfold normalizeRedirectUri
        rw [hparse]
        exact if_neg hloopback
      rw [hself]
      exact redirectUriMatches_self _ uri

/-- another port of a loopback redirect matches it -/
theorem redirectUriMatches_port {uri' : String} {port : Option UInt16} (hparse : L.parse uri = some url)
    (hloopback : isLoopbackRedirect url.parts = true) (hparse' : L.parse uri' = some { url with port }) :
    redirectUriMatches (urlParts L.parse) uri uri' = true :=
  redirectUriMatches_iff.mpr (.inr ⟨url.parts, url.parts, congrArg (Option.map ParsedUrl.parts) hparse,
    congrArg (Option.map ParsedUrl.parts) hparse', hloopback, rfl⟩)

/-- the two that read a URL agree with the one that reads a text, unless the host is `[::1]` -/
theorem valid_iff_loopback (hL : ReadsUrls L) (hparse : L.parse uri = some url) (hhttp : url.scheme = "http") :
    (validRedirectUri L.parse uri = true ↔
        isLoopbackRedirect url.parts = true ∧ isLoopbackHttp L url = true) ↔
      url.host ≠ some "[::1]" := by
  rw [isLoopbackHttp_iff hL, and_self, validRedirectUri_iff hparse hhttp, isLoopbackRedirect_iff]
  constructor
  · intro h hhost
    obtain ⟨host, hhost', hloopback⟩ := h.mpr ⟨hhttp, "[::1]", hhost, .inr rfl⟩
    obtain rfl := Option.some.inj (hhost.symm.trans hhost')
    rcases hloopback with h | h | h
    · exact absurd h (by decide)
    · exact absurd h (by decide)
    · exact absurd h (by decide)
  · intro hne
    constructor
    · rintro ⟨host, hhost, hloopback⟩
      exact ⟨hhttp, host, hhost, .inl hloopback⟩
    · rintro ⟨-, host, hhost, hloopback | rfl⟩
      · exact ⟨host, hhost, hloopback⟩
      · exact absurd hhost hne

end

/-! ## URLs of one table -/

/-- `http` redirects to `/callback` -/
def callbackUrl (username host : String) (port : Option UInt16) : ParsedUrl :=
  ⟨"http", username, none, some host, port, "/callback", none, none⟩

def sampleUrls : List (String × ParsedUrl) :=
  [("http://localhost:8080/callback", callbackUrl "" "localhost" (some 8080)),
   ("http://localhost:9090/callback", callbackUrl "" "localhost" (some 9090)),
   ("http://localhost/callback", callbackUrl "" "localhost" none),
   ("http://[::1]:8080/callback", callbackUrl "" "[::1]" (some 8080)),
   ("http://[::1]/callback", callbackUrl "" "[::1]" none),
   ("http://127.0.0.1/callback", callbackUrl "" "127.0.0.1" none),
   ("http://user@127.0.0.1/callback", callbackUrl "user" "127.0.0.1" none)]

def sampleParse (uri : String) : Option ParsedUrl :=
  (sampleUrls.find? fun entry => entry.1 = uri).map Prod.snd

def sampleToText (url : ParsedUrl) : String :=
  ((sampleUrls.find? fun entry => entry.2 = url).map Prod.fst).getD ""

def sampleLibraries : Libraries ParsedUrl where
  sha256 := id
  hmacSha256 key message := key ++ message
  base64Encode _ := ""
  base64Decode _ := none
  toVec _ := []
  fromSlice _ := none
  parse := sampleParse
  scheme := ParsedUrl.scheme
  hostStr := ParsedUrl.host
  setPort url port := { url with port }
  toText := sampleToText

theorem sampleLibraries_readsUrls : ReadsUrls sampleLibraries where
  scheme _ := rfl
  hostStr _ := rfl
  setPort _ _ _ := rfl
  parse_toText uri url hparse _ _ := by
    have hall : ∀ entry ∈ sampleUrls,
        sampleParse (sampleToText { entry.2 with port := none }) = some { entry.2 with port := none } := by
      decide
    obtain ⟨entry, hfind, rfl⟩ := Option.map_eq_some_iff.mp hparse
    exact hall entry (List.mem_of_find?_eq_some hfind)

/-- **On every text: the predicates agree where it is an `http` URL, and what is registered of it matches it
at every port of a loopback host, if and only if it is no `http` URL of the host `[::1]`.** -/
theorem loopback_predicates_agree_iff {L : Libraries ParsedUrl} (hL : ReadsUrls L) (uri : String) :
    ((∀ url, L.parse uri = some url → url.scheme = "http" →
        (validRedirectUri L.parse uri = true ↔
          isLoopbackRedirect url.parts = true ∧ isLoopbackHttp L url = true)) ∧
      redirectUriMatches (urlParts L.parse) (normalizeRedirectUri L uri) uri = true ∧
      ∀ url uri' port, L.parse uri = some url → isLoopbackHttp L url = true →
        L.parse uri' = some { url with port } →
        redirectUriMatches (urlParts L.parse) (normalizeRedirectUri L uri) uri' = true) ↔
    ∀ url, L.parse uri = some url → url.scheme = "http" → url.host ≠ some "[::1]" := by
  constructor
  · rintro ⟨hagree, -, -⟩ url hparse hhttp
    exact (valid_iff_loopback hL hparse hhttp).mp (hagree url hparse hhttp)
  · intro h
    refine ⟨fun url hparse hhttp => (valid_iff_loopback hL hparse hhttp).mpr (h url hparse hhttp),
      normalizeRedirectUri_matches hL uri, ?_⟩
    intro url uri' port hparse hloopback hparse'
    exact redirectUriMatches_trans (normalizeRedirectUri_matches hL uri)
      (redirectUriMatches_port hparse ((isLoopbackHttp_iff hL).mp hloopback) hparse')

theorem loopback_predicates_agree_iff_localhost :
    redirectUriMatches (urlParts sampleParse)
      (normalizeRedirectUri sampleLibraries "http://localhost:8080/callback")
      "http://localhost:9090/callback" = true := by
  have hlocal : sampleParse "http://localhost:8080/callback" = some (callbackUrl "" "localhost" (some 8080)) := by
    decide
  have hagree := (loopback_predicates_agree_iff sampleLibraries_readsUrls "http://localhost:8080/callback").mpr (by
    intro url hparse _
    obtain rfl := Option.some.inj (hlocal.symm.trans hparse)
    decide)
  exact hagree.2.2 (callbackUrl "" "localhost" (some 8080)) "http://localhost:9090/callback" (some 9090)
    hlocal (by decide) (by decide)

/-- a loopback redirect that registration refuses, though it could be used once registered -/
theorem ipv6_loopback_not_registered :
    ∃ url, sampleParse "http://[::1]:8080/callback" = some url ∧ url.scheme = "http" ∧
      isLoopbackRedirect url.parts = true ∧ isLoopbackHttp sampleLibraries url = true ∧
      validRedirectUri sampleParse "http://[::1]:8080/callback" = false :=
  ⟨callbackUrl "" "[::1]" (some 8080), by decide, rfl, by decide, by decide, by decide⟩

/-! ## What the comparison leaves out -/

section
variable (parse : String → Option ParsedUrl) (declared requested : String)

/-- texts that match are the same, or loopback redirects that differ in nothing but the port -/
def MatchSound : Prop :=
  redirectUriMatches (urlParts parse) declared requested = true →
    declared = requested ∨ ∃ d r : ParsedUrl, parse declared = some d ∧ parse requested = some r ∧
      isLoopbackRedirect d.parts = true ∧ isLoopbackRedirect r.parts = true ∧
      { d with port := r.port } = r

/-- loopback redirects to one place that differ in user, password or fragment -/
def DifferUnseen : Prop :=
  ∃ d r : ParsedUrl, parse declared = some d ∧ parse requested = some r ∧
    isLoopbackRedirect d.parts = true ∧ d.scheme = r.scheme ∧ d.host = r.host ∧ d.path = r.path ∧
    d.query = r.query ∧ ¬ (d.username = r.username ∧ d.password = r.password ∧ d.fragment = r.fragment)

end

theorem urlParts_eq {parse : String → Option ParsedUrl} {uri : String} {url : Url}
    (h : urlParts parse uri = some url) : ∃ d, parse uri = some d ∧ d.parts = url :=
  Option.map_eq_some_iff.mp h

theorem matchSound_iff {parse : String → Option ParsedUrl} {declared requested : String} :
    MatchSound parse declared requested ↔ ¬ DifferUnseen parse declared requested := by
  constructor
  · rintro hsound ⟨d, r, hd, hr, hloopback, hscheme, hhost, hpath, hquery, hdiffer⟩
    have hparts : d.parts = r.parts := by
      unfold ParsedUrl.parts
      rw [hscheme, hhost, hpath, hquery]
    have hmatches : redirectUriMatches (urlParts parse) declared requested = true :=
      redirectUriMatches_iff.mpr (.inr ⟨d.parts, r.parts, congrArg (Option.map ParsedUrl.parts) hd,
        congrArg (Option.map ParsedUrl.parts) hr, hloopback, hparts⟩)
    rcases hsound hmatches with rfl | ⟨d', r', hd', hr', -, -, hsame⟩
    · obtain rfl := Option.some.inj (hd.symm.trans hr)
      exact hdiffer ⟨rfl, rfl, rfl⟩
    · obtain rfl := Option.some.inj (hd.symm.trans hd')
      obtain rfl := Option.some.inj (hr.symm.trans hr')
      have husername : { d with port := r.port }.username = r.username := by rw [hsame]
      have hpassword : { d with port := r.port }.password = r.password := by rw [hsame]
      have hfragment : { d with port := r.port }.fragment = r.fragment := by rw [hsame]
      exact hdiffer ⟨husername, hpassword, hfragment⟩
  · intro hseen hmatches
    rcases redirectUriMatches_iff.mp hmatches with heq | ⟨u, v, hu, hv, hloopback, rfl⟩
    · exact .inl heq
    · obtain ⟨d, hd, rfl⟩ := urlParts_eq hu
      obtain ⟨r, hr, hparts⟩ := urlParts_eq hv
      obtain ⟨hscheme, hhost, hpath, hquery⟩ := Url.mk.inj hparts
      have hrest : d.username = r.username ∧ d.password = r.password ∧ d.fragment = r.fragment := by
        by_contra hdiffer
        exact hseen ⟨d, r, hd, hr, hloopback, hscheme.symm, hhost.symm, hpath.symm, hquery.symm, hdiffer⟩
      refine .inr ⟨d, r, hd, hr, hloopback, hparts ▸ hloopback, ?_⟩
      obtain ⟨husername, hpassword, hfragment⟩ := hrest
      obtain ⟨scheme, username, password, host, port, path, query, fragment⟩ := d
      obtain ⟨scheme', username', password', host', port', path', query', fragment'⟩ := r
      rw [ParsedUrl.mk.injEq]
      exact ⟨hscheme.symm, husername, hpassword, hhost.symm, rfl, hpath.symm, hquery.symm, hfragment⟩

/-- **URIs that match are the same but for the port of a loopback redirect, if and only if they do not
differ in user, password or fragment alone; matching is symmetric, and an equivalence of all texts.** -/
theorem redirect_match_sound_iff (parse : String → Option ParsedUrl) :
    (∀ declared requested,
      MatchSound parse declared requested ↔ ¬ DifferUnseen parse declared requested) ∧
    (∀ a b, redirectUriMatches (urlParts parse) a b = redirectUriMatches (urlParts parse) b a) ∧
    Equivalence fun a b => redirectUriMatches (urlParts parse) a b = true := by
  refine ⟨fun _ _ => matchSound_iff, ?_, ⟨redirectUriMatches_self _, redirectUriMatches_symm,
    redirectUriMatches_trans⟩⟩
  intro a b
  exact Bool.eq_iff_iff.mpr ⟨redirectUriMatches_symm, redirectUriMatches_symm⟩

/-- a redirect that names a user is taken for the one that was declared -/
theorem redirect_match_ignores_user :
    ¬ MatchSound sampleParse "http://127.0.0.1/callback" "http://user@127.0.0.1/callback" := by
  rw [matchSound_iff, not_not]
  exact ⟨callbackUrl "" "127.0.0.1" none, callbackUrl "user" "127.0.0.1" none, by decide,
    by decide, by decide, rfl, rfl, rfl, rfl, by decide⟩

end Proofplane
