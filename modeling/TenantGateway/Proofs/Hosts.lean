import TenantGateway.Proofs.Issuers

/-! # Authorities at a host

Authorities whose URL is a scheme and a host, and no more than slashes after it. Such a URL says
nothing of a path, so the realms are looked for under `/auth`; but there is one host that is itself
taken for that path.
-/
namespace TenantGateway

open Text
open Issuer (SchemesApart Same)

structure IsHost (host : String) : Prop where
  ne_empty : host ≠ ""
  whole : '/' ∉ host.toList

theorem IsHost.auth_suffix_iff {scheme host : String} (h : IsHost host)
    (hs : '/' ∉ scheme.toList) :
    "/auth".toList <:+ (scheme ++ "://" ++ host).toList ↔ host = "auth" := by
  have hin : ¬ "/auth".toList <:+ host.toList := by
    intro ha
    exact h.whole (ha.subset List.mem_cons_self)
  have hcut : "/auth".toList <:+ scheme.toList ++ ':' :: '/' :: '/' :: host.toList ↔
      "/auth".toList <:+ ':' :: '/' :: '/' :: host.toList := cons_suffix_append_iff hs
  rw [String.append_assoc, String.toList_append, String.toList_append]
  change "/auth".toList <:+ scheme.toList ++ ':' :: '/' :: '/' :: host.toList ↔ _
  -- The suffix starts at one of the two slashes, and not at the first, which another one follows.
  rw [hcut, List.suffix_cons_iff, List.suffix_cons_iff, List.suffix_cons_iff, or_iff_left hin]
  constructor
  · intro hc
    rcases hc with hc | hc | hc
    · simp at hc
    · simp at hc
    · exact String.toList_inj.mp (List.cons.inj hc).2.symm
  · intro he
    rw [he]
    exact .inr (.inr rfl)

namespace Settings

def hostIssuer (scheme host realm : String) : String :=
  scheme ++ "://" ++ host ++ "/auth/realms/" ++ realm

theorem same_hostIssuer_iff {scheme : String} (hs : scheme = "http" ∨ scheme = "https")
    (host realm iss : String) :
    Same iss (hostIssuer scheme host realm) ↔
      iss = hostIssuer "http" host realm ∨ iss = hostIssuer "https" host realm := by
  have hapart : SchemesApart (hostIssuer "http" host realm) (hostIssuer "https" host realm) := by
    refine ⟨host ++ "/auth/realms/" ++ realm, .inl ⟨?_, ?_⟩⟩
    · simp only [hostIssuer, String.append_assoc]
      rfl
    · simp only [hostIssuer, String.append_assoc]
      rfl
  rcases hs with rfl | rfl
  · constructor
    · intro h
      rcases h with h | h
      · exact .inl h
      · exact .inr (h.symm.unique hapart)
    · intro h
      rcases h with h | h
      · exact .inl h
      · exact .inr (h ▸ hapart.symm)
  · constructor
    · intro h
      rcases h with h | h
      · exact .inr h
      · exact .inl (h.symm.unique hapart.symm)
    · intro h
      rcases h with h | h
      · exact .inr (h ▸ hapart)
      · exact .inl h

section Host

variable {scheme host : String} (hs : scheme = "http" ∨ scheme = "https") (n : Nat)
  (realm : String)
include hs

theorem realmUrl_of_host (hh : IsHost host) (hne : host ≠ "auth") :
    realmUrl (scheme ++ "://" ++ host ++ slashes n) realm = hostIssuer scheme host realm := by
  have hscheme : '/' ∉ scheme.toList := by
    rcases hs with rfl | rfl <;> decide
  have hends : ¬ ['/'] <:+ (scheme ++ "://" ++ host).toList := by
    rw [String.toList_append, mark_suffix_append_iff (mt String.toList_eq_nil_iff.mp hh.ne_empty)]
    intro hlast
    exact hh.whole (hlast.subset List.mem_cons_self)
  have hauth : ¬ "/auth".toList <:+ (scheme ++ "://" ++ host).toList :=
    (hh.auth_suffix_iff hscheme).not.mpr hne
  have hpath : ("/auth" : String) ++ "/realms/" = "/auth/realms/" := by decide
  rw [realmUrl_of_bare hends hauth, hostIssuer, ← hpath]
  simp only [String.append_assoc]

/-- The one host that is taken for a path. -/
theorem realmUrl_of_host_auth :
    realmUrl (scheme ++ "://auth" ++ slashes n) realm = scheme ++ "://auth/realms/" ++ realm := by
  rcases hs with rfl | rfl
  · exact realmUrl_of_auth "http:/" n realm
  · exact realmUrl_of_auth "https:/" n realm

end Host

/-- A URL counts as that of an authority at a host, be it the URL that the gateway itself uses or
the public one. -/
structure AtHost (s : Settings) (scheme host url : String) : Prop where
  issuer : ∀ known, (s.withAuthority url known).issuerUrl = hostIssuer scheme host s.realm
  keySet : ∀ known, (s.withAuthority url known).keySetUrl =
    hostIssuer scheme host s.realm ++ "/protocol/openid-connect/certs"
  known : ∀ own iss, iss ∈ (s.withAuthority own (some url)).allowedIssuers ↔
    iss ∈ (s.withAuthority own none).allowedIssuers ∨
      iss = hostIssuer "http" host s.realm ∨ iss = hostIssuer "https" host s.realm

theorem atHost_of_realmUrl {s : Settings} {scheme host url : String}
    (hs : scheme = "http" ∨ scheme = "https") (hurl : url ≠ "")
    (h : realmUrl url s.realm = hostIssuer scheme host s.realm) : s.AtHost scheme host url := by
  constructor
  · intro known
    exact h
  · intro known
    exact congrArg (· ++ "/protocol/openid-connect/certs") h
  · intro own iss
    rw [mem_known_allowedIssuers_iff, mem_own_allowedIssuers_iff, h, same_hostIssuer_iff hs]
    exact or_congr_right (and_iff_right hurl)

/-- No host is taken for a path but one. -/
theorem host_is_no_path (s : Settings) {scheme host : String}
    (hs : scheme = "http" ∨ scheme = "https") (hh : IsHost host) (n : Nat) :
    (s.AtHost scheme host (scheme ++ "://" ++ host ++ slashes n) ↔ host ≠ "auth") ∧
      (host = "auth" → ∀ known,
        (s.withAuthority (scheme ++ "://" ++ host ++ slashes n) known).issuerUrl =
          scheme ++ "://auth/realms/" ++ s.realm) := by
  have htaken : host = "auth" → realmUrl (scheme ++ "://" ++ host ++ slashes n) s.realm =
      scheme ++ "://auth/realms/" ++ s.realm := by
    intro he
    have hmark : scheme ++ "://" ++ host = scheme ++ "://auth" := by
      rw [he]
      exact String.append_assoc
    rw [hmark]
    exact realmUrl_of_host_auth hs n s.realm
  refine ⟨⟨?_, ?_⟩, fun he _ => htaken he⟩
  · intro h he
    have hi := congrArg String.length ((htaken he).symm.trans (h.issuer none))
    have hshort : "://auth/realms/".length < ("://" ++ "auth" ++ "/auth/realms/").length := by
      decide
    simp only [hostIssuer, he, String.length_append] at hi hshort
    omega
  · intro hne
    refine atHost_of_realmUrl hs ?_ (realmUrl_of_host hs n s.realm hh hne)
    simp

namespace Hosted

theorem isHost_service : IsHost "keycloak-service:8080" := ⟨by decide, by decide⟩

theorem service_at_host : IsHost "keycloak-service:8080" ∧
    usual.AtHost "https" "keycloak-service:8080" "https://keycloak-service:8080//" := by
  obtain ⟨hiff, -⟩ := host_is_no_path usual (.inr rfl) isHost_service 2
  exact ⟨isHost_service, hiff.mpr (by decide)⟩

theorem auth_taken_for_path : IsHost "auth" ∧
    (usual.withAuthority "http://auth" none).issuerUrl = "http://auth/realms/nekazari" ∧
    hostIssuer "http" "auth" "nekazari" = "http://auth/auth/realms/nekazari" ∧
    ¬ usual.AtHost "http" "auth" "http://auth" := by
  have hi : (usual.withAuthority "http://auth" none).issuerUrl = "http://auth/realms/nekazari" := by
    decide +kernel
  have ht : hostIssuer "http" "auth" "nekazari" = "http://auth/auth/realms/nekazari" := by decide
  refine ⟨⟨by decide, by decide⟩, hi, ht, ?_⟩
  intro h
  have hne := (hi.symm.trans (h.issuer none)).trans ht
  exact absurd hne (by decide)

end Hosted

end Settings

end TenantGateway
