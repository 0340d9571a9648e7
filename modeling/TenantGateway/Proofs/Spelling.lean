import TenantGateway.Proofs.Plan
import TenantGateway.Proofs.Text
import TenantGateway.Token.Authority
import TenantGateway.Token.KeySource

/-! # Spelling of URLs

How the URLs of the settings are written. Slashes at their ends do not count, nor does it, for the
URL of an authority, whether it says that paths start with `/auth`. Settings that differ in nothing
else make one gateway: it knows the same issuers, and whatever it is asked it does the same.
-/
namespace TenantGateway

open Text

def slashes (n : Nat) : String := String.ofList (List.replicate n '/')

def SlashesApart (a b : String) : Prop :=
  ∃ base m n, a = base ++ slashes m ∧ b = base ++ slashes n

theorem slashes_add (m n : Nat) : slashes (m + n) = slashes m ++ slashes n := by
  rw [slashes, slashes, slashes, ← String.ofList_append, List.replicate_append_replicate]

theorem dropTrailing_append_slashes (base : String) (n : Nat) :
    dropTrailing '/' (base ++ slashes n) = dropTrailing '/' base := by
  obtain ⟨⟨m, hm⟩, hends⟩ := trimmed_dropTrailing '/' base
  have ht : Trimmed '/' (base ++ slashes n) (dropTrailing '/' base) := by
    refine ⟨⟨m + n, ?_⟩, hends⟩
    have he : base ++ slashes n = dropTrailing '/' base ++ slashes m ++ slashes n :=
      congrArg (· ++ slashes n) hm
    rw [he, String.append_assoc, ← slashes_add]
    rfl
  exact ht.eq_dropTrailing.symm

theorem SlashesApart.dropTrailing_eq {a b : String} (h : SlashesApart a b) :
    dropTrailing '/' a = dropTrailing '/' b := by
  obtain ⟨base, m, n, rfl, rfl⟩ := h
  rw [dropTrailing_append_slashes, dropTrailing_append_slashes]

theorem dropTrailing_of_ends {base : String} (h : ¬ ['/'] <:+ base.toList) :
    dropTrailing '/' base = base := by
  have ht : Trimmed '/' base base := ⟨⟨0, by simp⟩, h⟩
  exact ht.eq_dropTrailing.symm

/-- URLs of one authority: they differ in slashes at the end, or in whether the start of all paths
is written out. -/
inductive SameAuthority : String → String → Prop where
  | slashes {a b} (h : SlashesApart a b) : SameAuthority a b
  | longer {base : String} {m n} (hs : ¬ ['/'] <:+ base.toList)
      (ha : ¬ "/auth".toList <:+ base.toList) :
      SameAuthority (base ++ slashes m) (base ++ "/auth" ++ slashes n)
  | shorter {base : String} {m n} (hs : ¬ ['/'] <:+ base.toList)
      (ha : ¬ "/auth".toList <:+ base.toList) :
      SameAuthority (base ++ "/auth" ++ slashes m) (base ++ slashes n)

namespace Settings

theorem realmUrl_congr {a b : String} (h : dropTrailing '/' a = dropTrailing '/' b)
    (realm : String) : realmUrl a realm = realmUrl b realm := by
  rw [realmUrl, realmUrl, h]

theorem realmUrl_of_bare {base : String} (hs : ¬ ['/'] <:+ base.toList)
    (ha : ¬ "/auth".toList <:+ base.toList) (n : Nat) (realm : String) :
    realmUrl (base ++ slashes n) realm = base ++ "/auth" ++ "/realms/" ++ realm := by
  have hsuffix : "/auth".toList.isSuffixOf base.toList = false := by
    rw [← Bool.not_eq_true, List.isSuffixOf_iff_suffix]
    exact ha
  rw [realmUrl, dropTrailing_append_slashes, dropTrailing_of_ends hs]
  simp only [hsuffix, Bool.false_eq_true, if_false]

theorem realmUrl_of_auth (base : String) (n : Nat) (realm : String) :
    realmUrl (base ++ "/auth" ++ slashes n) realm = base ++ "/auth" ++ "/realms/" ++ realm := by
  have hs : ¬ ['/'] <:+ (base ++ "/auth").toList := by
    rw [← List.reverse_prefix]
    simp
  have hsuffix : "/auth".toList.isSuffixOf (base ++ "/auth").toList = true := by
    rw [List.isSuffixOf_iff_suffix, String.toList_append]
    exact List.suffix_append _ _
  rw [realmUrl, dropTrailing_append_slashes, dropTrailing_of_ends hs]
  simp only [hsuffix, if_true]

end Settings

theorem SameAuthority.realmUrl_eq {a b : String} (h : SameAuthority a b) (realm : String) :
    Settings.realmUrl a realm = Settings.realmUrl b realm := by
  cases h with
  | slashes h => exact Settings.realmUrl_congr h.dropTrailing_eq realm
  | longer hs ha => rw [Settings.realmUrl_of_bare hs ha, Settings.realmUrl_of_auth]
  | shorter hs ha => rw [Settings.realmUrl_of_bare hs ha, Settings.realmUrl_of_auth]

/-- Settings that are one but for how their URLs are written. A public URL that is empty counts as
none, so it may be written otherwise only where it is not empty. -/
structure SpelledAlike (s t : Settings) : Prop where
  engineUrl : SlashesApart s.engineUrl t.engineUrl
  channelsUrl : SlashesApart s.channelsUrl t.channelsUrl
  authorityUrl : SameAuthority s.authorityUrl t.authorityUrl
  publicAuthorityUrl : s.publicAuthorityUrl = t.publicAuthorityUrl ∨
    ∃ a b, s.publicAuthorityUrl = some a ∧ t.publicAuthorityUrl = some b ∧ a ≠ "" ∧ b ≠ "" ∧
      SameAuthority a b
  rest : t = { s with
    engineUrl := t.engineUrl
    channelsUrl := t.channelsUrl
    authorityUrl := t.authorityUrl
    publicAuthorityUrl := t.publicAuthorityUrl }

section Alike

variable {s t : Settings} (h : SpelledAlike s t)
include h

theorem SpelledAlike.realm_eq : s.realm = t.realm := by
  rw [h.rest]

theorem SpelledAlike.timeout_eq : s.timeout = t.timeout := by
  rw [h.rest]

theorem SpelledAlike.issuerUrl_eq : s.issuerUrl = t.issuerUrl := by
  rw [Settings.issuerUrl, Settings.issuerUrl, h.realm_eq, h.authorityUrl.realmUrl_eq]

theorem SpelledAlike.keySetUrl_eq : s.keySetUrl = t.keySetUrl := by
  rw [Settings.keySetUrl, Settings.keySetUrl, h.issuerUrl_eq]

theorem SpelledAlike.allowedIssuers_eq : s.allowedIssuers = t.allowedIssuers := by
  rcases h.publicAuthorityUrl with hp | ⟨a, b, hs, ht, ha, hb, hab⟩
  · rw [Settings.allowedIssuers, Settings.allowedIssuers, hp, h.issuerUrl_eq, h.realm_eq]
  · have hurl := hab.realmUrl_eq t.realm
    simp only [Settings.allowedIssuers, hs, ht, ha, hb, if_false, h.issuerUrl_eq, h.realm_eq, hurl]

theorem SpelledAlike.keySource_eq : Token.keySource s = Token.keySource t := by
  unfold Token.keySource
  rw [h.keySetUrl_eq]

theorem SpelledAlike.claims_eq (a : Token.Authority) (token : String) :
    a.claims s token = a.claims t token := by
  rw [Token.Authority.claims, Token.Authority.claims, h.allowedIssuers_eq]

theorem SpelledAlike.identify_eq (a : Token.Authority) : a.identify s = a.identify t := by
  funext token
  rw [Token.Authority.identify, Token.Authority.identify, h.claims_eq]

theorem SpelledAlike.lookup_eq (send : String → Except Fault Response) :
    Channels.lookup s send = Channels.lookup t send := by
  funext id token
  have hurl : Channels.url s id = Channels.url t id := by
    rw [Channels.url, Channels.url, h.channelsUrl.dropTrailing_eq]
  rw [Channels.lookup, Channels.lookup, hurl, h.timeout_eq]

theorem SpelledAlike.request_eq (send : EngineRequest → Except Fault Response) :
    Engine.request s send = Engine.request t send := by
  funext request
  have hurl : Engine.url s request.path = Engine.url t request.path := by
    rw [Engine.url, Engine.url, h.engineUrl.dropTrailing_eq]
  rw [Engine.request, Engine.request, hurl, h.timeout_eq]

theorem SpelledAlike.overNetwork_eq (identify : String → Run Call Identity)
    (channels : String → Except Fault Response) (engine : EngineRequest → Except Fault Response) :
    Services.overNetwork s identify channels engine =
      Services.overNetwork t identify channels engine := by
  rw [Services.overNetwork, Services.overNetwork, h.lookup_eq, h.request_eq]

theorem SpelledAlike.plan_eq (user : String) (task : Task) :
    task.plan s user = task.plan t user := by
  have hformat : s.streamFormat = t.streamFormat := by
    rw [h.rest]
  have hkind : s.streamKind = t.streamKind := by
    rw [h.rest]
  cases task with
  | createStream | updateStream =>
    simp only [Task.plan, Services.declarationBody, hformat, hkind]
  | listStreams | viewStream | deleteStream | createRule => rfl

theorem SpelledAlike.perform_eq {κ : Type} (services : Services κ) (token : String)
    (task : Task) : services.perform s token task = services.perform t token task := by
  simp only [Services.perform_eq_follow, h.plan_eq]

end Alike

/-- What two gateways have in common. Their runs are alike in every call and in how they end,
whoever finds out about callers, and whatever channels and engine answer. -/
structure OneGateway (s t : Settings) : Prop where
  issuer : s.issuerUrl = t.issuerUrl
  keySet : s.keySetUrl = t.keySetUrl
  keySource : Token.keySource s = Token.keySource t
  issuers : s.allowedIssuers = t.allowedIssuers
  claims : ∀ (a : Token.Authority) token, a.claims s token = a.claims t token
  identify : ∀ (a : Token.Authority) token, a.identify s token = a.identify t token
  perform : ∀ identify channels engine token task,
    (Services.overNetwork s identify channels engine).perform s token task =
      (Services.overNetwork t identify channels engine).perform t token task
  vouched : ∀ (a : Token.Authority) channels engine token task,
    (Services.overNetwork s (a.identify s) channels engine).perform s token task =
      (Services.overNetwork t (a.identify t) channels engine).perform t token task
  info : ∀ identify channels engine,
    (Services.overNetwork s identify channels engine).info =
      (Services.overNetwork t identify channels engine).info

/-- How the URLs of the settings are written makes no difference. -/
theorem url_spelling_insensitivity {s t : Settings} (h : SpelledAlike s t) : OneGateway s t := by
  have hperform : ∀ identify channels engine token task,
      (Services.overNetwork s identify channels engine).perform s token task =
        (Services.overNetwork t identify channels engine).perform t token task := by
    intro identify channels engine token task
    rw [h.overNetwork_eq, h.perform_eq]
  constructor
  · exact h.issuerUrl_eq
  · exact h.keySetUrl_eq
  · exact h.keySource_eq
  · exact h.allowedIssuers_eq
  · exact h.claims_eq
  · intro a token
    rw [h.identify_eq]
  · exact hperform
  · intro a channels engine token task
    rw [h.identify_eq]
    exact hperform (a.identify t) channels engine token task
  · intro identify channels engine
    rw [h.overNetwork_eq]

namespace Respelled

def plain : Settings := { Settings.usual with publicAuthorityUrl := some "https://login/auth" }

def ornate : Settings :=
  { plain with
    engineUrl := "http://localhost:9081//"
    channelsUrl := "http://things:8182/"
    authorityUrl := "http://keycloak-service:8080/auth/"
    publicAuthorityUrl := some "https://login///" }

theorem spelledAlike : SpelledAlike plain ornate where
  engineUrl := ⟨"http://localhost:9081", 0, 2, rfl, rfl⟩
  channelsUrl := ⟨"http://things:8182", 0, 1, rfl, rfl⟩
  authorityUrl :=
    @SameAuthority.longer "http://keycloak-service:8080" 0 1 (by decide) (by decide)
  publicAuthorityUrl := .inr ⟨"https://login/auth", "https://login///", rfl, rfl, by decide,
    by decide, @SameAuthority.shorter "https://login" 0 3 (by decide) (by decide)⟩
  rest := rfl

def known (_ : String) : Run Call Identity := .ofOutcome (.ok ⟨"a-b", none⟩)

/-- Both accept the issuers of one realm, and have the engine asked at one URL. -/
theorem told_apart_by_nothing :
    SpelledAlike plain ornate ∧
      ornate.allowedIssuers =
        ["http://keycloak-service:8080/auth/realms/nekazari",
          "https://keycloak-service:8080/auth/realms/nekazari",
          "https://login/auth/realms/nekazari", "http://login/auth/realms/nekazari"] ∧
      ∀ channels engine,
        ((Services.overNetwork plain known channels engine).perform plain "t" .listStreams).calls =
          [.engine .get "http://localhost:9081/streams" none ornate.timeout] := by
  have h : OneGateway plain ornate := url_spelling_insensitivity spelledAlike
  refine ⟨spelledAlike, ?_, ?_⟩
  · rw [← h.issuers]
    decide +kernel
  · intro channels engine
    have hurl : Engine.url ornate "streams" = "http://localhost:9081/streams" := by decide +kernel
    have hcaller : ((Services.overNetwork ornate known channels engine).caller "t").outcome =
        .ok ⟨"a-b", none⟩ := rfl
    rw [h.perform, Services.perform, Run.calls_map, Services.listStreams, Run.bind_of_ok hcaller,
      Run.calls_bind_ofOutcome, ← hurl]
    rfl

end Respelled

end TenantGateway
