import SurfaceBridge.Proofs.Server.Paths
import SurfaceBridge.Proofs.Url.Authority

set_option autoImplicit false

/-! # Where a connection leads

The URL of a service is put together as a text, and the only check is that the text is some URL. So
it leads to the host and the port of the page if the host is one by itself, and the path of the page
and the service hold neither a question mark nor a number sign (`reached_of_socketUrl`). A host that
is none is rejected, unless it holds a separator. With one, the connection may go to another port or
another place without anybody being told (`not_rejected_slash`).
-/

namespace SurfaceBridge

namespace Server

open Url (Host endsPath isSeparator portText)

/-- A URL that leads to a host and a port, with nobody's name in front of them. -/
structure Reaches (isSecure : Bool) (host : Host) (port : UInt16) (url : Url) : Prop where
  scheme : url.scheme = if isSecure then "wss" else "ws"
  host : url.host = some host
  port : url.effectivePort = some port.toNat
  user : url.user = ""
  password : url.password = none

/-! ## The text of a URL -/

/-- Only slashes are left out. -/
theorem mem_collapseSlashes {c : Char} (other : c ≠ '/') (s : List Char) :
    c ∈ collapseSlashes s ↔ c ∈ s := by
  induction s with
  | nil => rfl
  | cons d s ih =>
      rw [collapseSlashes]
      split
      · rename_i h
        rw [ih, List.mem_cons, h.1]
        exact ⟨Or.inr, fun hc => hc.resolve_left other⟩
      · rw [List.mem_cons, List.mem_cons, ih]

theorem ne_slash_of_endsPath {c : Char} (h : endsPath c = true) : c ≠ '/' := by
  rintro rfl
  cases h

namespace PageLocation

/-- The text of a URL in its parts. -/
theorem socketText_eq (location : PageLocation) (port : UInt16) (service : String) :
    ∃ path, location.socketText port service = socketScheme location.isSecure ++ "://"
        ++ String.ofList (location.host.toList ++ ':' :: portText port ++ '/' :: path)
      ∧ ((∀ c ∈ path, endsPath c = false)
        ↔ ∀ c ∈ location.path.toList ++ service.toList, endsPath c = false) := by
  generalize htail : location.path.toList ++ '/' :: service.toList = tail
  obtain ⟨path, hpath⟩ := exists_collapseSlashes tail
  have hmem : ∀ c, endsPath c = true →
      (c ∈ path ↔ c ∈ location.path.toList ++ service.toList) := by
    intro c hc
    have hne := ne_slash_of_endsPath hc
    have hcollapse := mem_collapseSlashes hne ('/' :: tail)
    rw [hpath, ← htail] at hcollapse
    simpa [hne] using hcollapse
  refine ⟨path, ?_, ?_⟩
  · rw [← String.toList_inj]
    have hnormal : (location.path ++ "/" ++ service).toList = tail := by
      rw [← htail]
      simp
    unfold socketText normalizePath
    rw [hnormal, hpath]
    simp [portText]
  · exact ⟨Url.not_endsPath_of_subset fun c hends => (hmem c hends).2,
      Url.not_endsPath_of_subset fun c hends => (hmem c hends).1⟩

theorem socketScheme_cases (isSecure : Bool) :
    socketScheme isSecure = "ws" ∨ socketScheme isSecure = "wss" := by
  cases isSecure
  · exact Or.inl rfl
  · exact Or.inr rfl

/-! ## What is reached -/

/-- With a host that is one by itself, the URL of a service leads to it, at the port, and the path
is all that follows if and only if neither the path of the page nor the service holds a question mark
or a number sign. What is no host is rejected if it holds no separator. -/
theorem reached_of_socketUrl (location : PageLocation) (port : UInt16) (service : String) :
    (∀ host, Host.parse location.host.toList = .ok host →
      ∃ url, location.socketUrl port service = .ok (location.socketText port service)
        ∧ Url.parse (location.socketText port service) = .ok url
        ∧ Reaches location.isSecure host port url
        ∧ ((url.query = none ∧ url.fragment = none)
          ↔ ∀ c ∈ location.path.toList ++ service.toList, endsPath c = false))
      ∧ ∀ reason, Host.parse location.host.toList = .error reason →
        (∀ c ∈ location.host.toList, isSeparator c = false) →
        ∃ reason, location.socketUrl port service
          = .error ⟨location.socketText port service, reason⟩ := by
  obtain ⟨path, htext, hpath⟩ := location.socketText_eq port service
  have hsocket := socketScheme_cases location.isSecure
  unfold socketUrl parseUrl
  constructor
  · intro host ok
    obtain ⟨url, hurl, hscheme, hhost, hport, huser, hpassword, hquery⟩ :=
      Url.parse_of_host hsocket ok port path
    rw [← htext] at hurl
    refine ⟨url, ?_, hurl, ⟨hscheme, hhost, ?_, huser, hpassword⟩, hquery.trans hpath⟩
    · rw [hurl]
      rfl
    · unfold Url.effectivePort
      rw [hport, hscheme]
      split
      · rename_i hdefault
        rw [hdefault]
        rfl
      · rfl
  · intro reason failed separators
    obtain ⟨err, herr⟩ := Url.exists_error_parse hsocket failed separators port path
    rw [← htext] at herr
    refine ⟨err, ?_⟩
    rw [herr]
    rfl

/-- A page that is reached, with no query behind it, and one on a host that is none. -/
theorem reached_of_socketUrl_nested :
    Host.parse "lang.example.org".toList = .ok (.name "lang.example.org")
      ∧ (∃ url, Url.parse ((⟨true, "lang.example.org", "/editor/"⟩ : PageLocation).socketText 443
            "ovLanguage") = .ok url
          ∧ Reaches true (.name "lang.example.org") 443 url
          ∧ url.query = none ∧ url.fragment = none)
      ∧ (Host.parse "bad host".toList = .error .invalidDomainName
        ∧ ∀ c ∈ "bad host".toList, isSeparator c = false)
      ∧ ∃ reason, (⟨false, "bad host", "/"⟩ : PageLocation).socketUrl 3010 "ovLanguage"
        = .error ⟨(⟨false, "bad host", "/"⟩ : PageLocation).socketText 3010 "ovLanguage", reason⟩ := by
  have hok : Host.parse "lang.example.org".toList = .ok (.name "lang.example.org") := by
    decide +kernel
  have hfailed : Host.parse "bad host".toList = .error .invalidDomainName := by
    decide +kernel
  have hhost : "bad host".toList.all (fun c => !isSeparator c) = true := by decide +kernel
  have hseparators : ∀ c ∈ "bad host".toList, isSeparator c = false :=
    fun c hc => by simpa using List.all_eq_true.1 hhost c hc
  have hpath : ("/editor/".toList ++ "ovLanguage".toList).all (fun c => !endsPath c) = true := by
    decide +kernel
  obtain ⟨url, -, hurl, hreaches, hquery⟩ :=
    (reached_of_socketUrl ⟨true, "lang.example.org", "/editor/"⟩ 443 "ovLanguage").1 _ hok
  have hrejected :=
    (reached_of_socketUrl ⟨false, "bad host", "/"⟩ 3010 "ovLanguage").2 _ hfailed hseparators
  have hbehind := hquery.2 fun c hc => by simpa using List.all_eq_true.1 hpath c hc
  exact ⟨hok, ⟨url, hurl, hreaches, hbehind⟩, ⟨hfailed, hseparators⟩, hrejected⟩

/-- A host that ends in a slash is none, and yet it is not rejected. The port becomes a part of the
path, so that the connection goes to another port. -/
theorem not_rejected_slash :
    (∀ host, Host.parse "lang.example.org/".toList ≠ .ok host)
      ∧ (⟨false, "lang.example.org/", "/"⟩ : PageLocation).socketUrl 3010 "ovLanguage"
        = .ok "ws://lang.example.org/:3010/ovLanguage"
      ∧ ∃ url, Url.parse "ws://lang.example.org/:3010/ovLanguage" = .ok url
        ∧ url.effectivePort = some 80 ∧ ∀ host, ¬ Reaches false host 3010 url := by
  have hnone : Host.parse "lang.example.org/".toList = .error .invalidDomainName := by
    decide +kernel
  have htext : (⟨false, "lang.example.org/", "/"⟩ : PageLocation).socketUrl 3010 "ovLanguage"
      = .ok "ws://lang.example.org/:3010/ovLanguage" := by
    decide +kernel
  have hport : (Url.parse "ws://lang.example.org/:3010/ovLanguage").toOption.bind Url.effectivePort
      = some 80 := by
    decide +kernel
  cases hurl : Url.parse "ws://lang.example.org/:3010/ovLanguage" with
  | error err =>
      rw [hurl] at hport
      cases hport
  | ok url =>
      rw [hurl] at hport
      have hport : url.effectivePort = some 80 := hport
      refine ⟨fun host h => ?_, htext, url, rfl, hport, fun host h => ?_⟩
      · rw [hnone] at h
        cases h
      · have h := h.port
        rw [hport] at h
        exact absurd h (by decide)

end PageLocation

end Server

end SurfaceBridge
