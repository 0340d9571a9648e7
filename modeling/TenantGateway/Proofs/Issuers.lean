import TenantGateway.Proofs.Spelling

/-! # Issuers

Whose tokens are accepted: those of an issuer that the settings name, and those of the same URL
under the other of the two schemes. A URL at which an authority is known to others adds an issuer
only if it is another URL.
-/
namespace TenantGateway

open Text

namespace Issuer

/-- Two URLs that differ in the scheme alone: it is http in one and https in the other. -/
def SchemesApart (a b : String) : Prop :=
  ∃ rest, a = "http://" ++ rest ∧ b = "https://" ++ rest ∨
    a = "https://" ++ rest ∧ b = "http://" ++ rest

def Same (a b : String) : Prop := a = b ∨ SchemesApart a b

theorem SchemesApart.symm {a b : String} (h : SchemesApart a b) : SchemesApart b a := by
  obtain ⟨rest, hr⟩ := h
  rcases hr with ⟨ha, hb⟩ | ⟨ha, hb⟩
  · exact ⟨rest, .inr ⟨hb, ha⟩⟩
  · exact ⟨rest, .inl ⟨hb, ha⟩⟩

theorem after?_eq_some_iff {start s rest : String} :
    after? start s = some rest ↔ s = start ++ rest := by
  rw [after?, Option.map_eq_some_iff, ← String.toList_inj, String.toList_append]
  constructor
  · rintro ⟨cs, hc, rfl⟩
    rw [String.toList_ofList]
    exact (List.isPrefixOf?_eq_some_iff_append_eq.mp hc).symm
  · intro h
    exact ⟨rest.toList, List.isPrefixOf?_eq_some_iff_append_eq.mpr h.symm, String.ofList_toList⟩

theorem https_ne_http (a b : String) : "https://" ++ a ≠ "http://" ++ b := by
  intro h
  have hc := congrArg String.toList h
  simp at hc

theorem otherScheme?_eq_some_iff {url other : String} :
    otherScheme? url = some other ↔ SchemesApart url other := by
  unfold otherScheme?
  constructor
  · intro h
    split at h
    · next rest hr =>
      cases h
      exact ⟨rest, .inl ⟨after?_eq_some_iff.mp hr, rfl⟩⟩
    · obtain ⟨rest, hr, rfl⟩ := Option.map_eq_some_iff.mp h
      exact ⟨rest, .inr ⟨after?_eq_some_iff.mp hr, rfl⟩⟩
  · intro h
    obtain ⟨rest, hr⟩ := h
    rcases hr with ⟨rfl, rfl⟩ | ⟨rfl, rfl⟩
    · rw [after?_eq_some_iff.mpr rfl]
    · -- The first scheme is looked for first, and no URL has both.
      have hn : after? "http://" ("https://" ++ rest) = none := by
        rw [Option.eq_none_iff_forall_ne_some]
        intro r hr
        exact https_ne_http rest r (after?_eq_some_iff.mp hr)
      rw [hn, after?_eq_some_iff.mpr rfl]
      rfl

theorem SchemesApart.unique {a b c : String} (hb : SchemesApart a b) (hc : SchemesApart a c) :
    b = c := by
  have h := otherScheme?_eq_some_iff.mpr hb
  rw [otherScheme?_eq_some_iff.mpr hc] at h
  exact (Option.some.inj h).symm

theorem same_equivalence : Equivalence Same := by
  constructor
  · intro a
    exact .inl rfl
  · intro a b h
    rcases h with rfl | h
    · exact .inl rfl
    · exact .inr h.symm
  · intro a b c hab hbc
    rcases hab with rfl | hab
    · exact hbc
    rcases hbc with rfl | hbc
    · exact .inr hab
    · -- Both ends are the middle URL under its other scheme.
      exact .inl (hab.symm.unique hbc)

theorem mem_variants_iff {issuer s : String} : s ∈ variants issuer ↔ Same s issuer := by
  rw [variants, List.mem_cons, Option.mem_toList, otherScheme?_eq_some_iff, Same]
  exact or_congr_right ⟨SchemesApart.symm, SchemesApart.symm⟩

theorem mem_union_iff {a b : List String} {s : String} : s ∈ union a b ↔ s ∈ a ∨ s ∈ b := by
  rw [union, List.mem_append, List.mem_filter]
  by_cases ha : s ∈ a
  · simp [ha]
  · simp [ha]

theorem mem_variants_congr {a b : String} (h : b ∈ variants a) (s : String) :
    s ∈ variants b ↔ s ∈ variants a := by
  have hab := mem_variants_iff.mp h
  rw [mem_variants_iff, mem_variants_iff]
  constructor
  · intro hs
    exact same_equivalence.trans hs hab
  · intro hs
    exact same_equivalence.trans hs (same_equivalence.symm hab)

end Issuer

open Issuer (SchemesApart Same same_equivalence)

namespace Settings

/-- The issuers that settings name. A public URL that is empty counts as none. -/
inductive NamesIssuer (s : Settings) : String → Prop where
  | own : s.NamesIssuer s.issuerUrl
  | known {url} (h : s.publicAuthorityUrl = some url) (hne : url ≠ "") :
    s.NamesIssuer (realmUrl url s.realm)

theorem mem_allowedIssuers_iff {s : Settings} {iss : String} :
    iss ∈ s.allowedIssuers ↔ ∃ c, s.NamesIssuer c ∧ Same iss c := by
  have hown : Same iss s.issuerUrl → ∃ c, s.NamesIssuer c ∧ Same iss c := fun h => ⟨_, .own, h⟩
  unfold allowedIssuers
  cases hp : s.publicAuthorityUrl with
  | none =>
    rw [Issuer.mem_variants_iff]
    refine ⟨hown, ?_⟩
    intro h
    obtain ⟨c, hc, hs⟩ := h
    cases hc with
    | own => exact hs
    | known h => cases h.symm.trans hp
  | some url =>
    by_cases hne : url = ""
    · simp only [hne, if_true, Issuer.mem_variants_iff]
      refine ⟨hown, ?_⟩
      intro h
      obtain ⟨c, hc, hs⟩ := h
      cases hc with
      | own => exact hs
      | known h hn => cases h.symm.trans hp; exact absurd hne hn
    · simp only [hne, if_false, Issuer.mem_union_iff, Issuer.mem_variants_iff]
      constructor
      · intro h
        rcases h with h | h
        · exact hown h
        · exact ⟨_, .known hp hne, h⟩
      · intro h
        obtain ⟨c, hc, hs⟩ := h
        cases hc with
        | own => exact .inl hs
        | known h => cases h.symm.trans hp; exact .inr hs

theorem realmUrl_append {front : String} (h : '/' ∉ front.toList) (rest realm : String) :
    realmUrl (front ++ rest) realm = front ++ realmUrl rest realm := by
  have hends : ¬ ['/'] <:+ (front ++ dropTrailing '/' rest).toList := by
    rw [String.toList_append, cons_suffix_append_iff h]
    exact (trimmed_dropTrailing '/' rest).ends
  have hauth : "/auth".toList.isSuffixOf (front ++ dropTrailing '/' rest).toList =
      "/auth".toList.isSuffixOf (dropTrailing '/' rest).toList := by
    rw [Bool.eq_iff_iff, List.isSuffixOf_iff_suffix, List.isSuffixOf_iff_suffix,
      String.toList_append]
    exact cons_suffix_append_iff h
  rw [realmUrl, realmUrl, dropTrailing_append hends]
  simp only [hauth]
  split <;> simp only [String.append_assoc]

theorem exists_realmUrl_eq (url realm : String) :
    ∃ path, realmUrl url realm = dropTrailing '/' url ++ path := by
  simp only [realmUrl]
  split
  · exact ⟨_, String.append_assoc⟩
  · exact ⟨_, (congrArg (· ++ realm) String.append_assoc).trans String.append_assoc⟩

theorem exists_realmUrl_of_scheme {c : Char} {rest : String} (hc : c ∈ rest.toList)
    (hm : c ≠ '/') (realm : String) : ∃ path, realmUrl ("://" ++ rest) realm = "://" ++ path := by
  have hne : dropTrailing '/' rest ≠ "" := dropTrailing_ne_empty hc hm
  have hends : ¬ ['/'] <:+ ("://" ++ dropTrailing '/' rest).toList := by
    rw [String.toList_append, mark_suffix_append_iff (mt String.toList_eq_nil_iff.mp hne)]
    exact (trimmed_dropTrailing '/' rest).ends
  obtain ⟨path, hp⟩ := exists_realmUrl_eq ("://" ++ rest) realm
  rw [dropTrailing_append hends, String.append_assoc] at hp
  exact ⟨_, hp⟩

theorem realmUrl_of_slashes (n : Nat) (realm : String) :
    realmUrl ("://" ++ slashes n) realm = ":/" ++ ("auth/realms/" ++ realm) := by
  have hn : "://" ++ slashes n = ":" ++ slashes (2 + n) := by
    rw [slashes_add, ← String.append_assoc]
    rfl
  have hpath : ":" ++ "/auth" ++ "/realms/" = ":/" ++ "auth/realms/" := by decide
  rw [hn, realmUrl_of_bare (by decide) (by decide), hpath, String.append_assoc]

theorem same_realmUrl_iff (rest realm : String) :
    Same (realmUrl ("https://" ++ rest) realm) (realmUrl ("http://" ++ rest) realm) ↔
      ∃ c ∈ rest.toList, c ≠ '/' := by
  have hplain : realmUrl ("http" ++ ("://" ++ rest)) realm =
      "http" ++ realmUrl ("://" ++ rest) realm := realmUrl_append (by decide) _ _
  have hsecure : realmUrl ("https" ++ ("://" ++ rest)) realm =
      "https" ++ realmUrl ("://" ++ rest) realm := realmUrl_append (by decide) _ _
  rw [← String.append_assoc] at hplain hsecure
  constructor
  · intro h
    by_contra hall
    have hr : rest = slashes rest.length := by
      rw [slashes, ← String.toList_inj, String.toList_ofList]
      refine List.eq_replicate_iff.mpr ⟨String.length_toList, ?_⟩
      intro c hc
      by_contra hm
      exact hall ⟨c, hc, hm⟩
    rw [hr, realmUrl_of_slashes] at hplain hsecure
    rw [hr] at h
    -- One slash is left after either scheme, so neither URL has the scheme any more.
    rcases h with he | ⟨r, ⟨hs, -⟩ | ⟨hs, -⟩⟩
    · have hc := congrArg String.toList (hsecure.symm.trans (he.trans hplain))
      simp at hc
    · have hc := congrArg String.toList (hsecure.symm.trans hs)
      simp at hc
    · have hc := congrArg String.toList (hsecure.symm.trans hs)
      simp at hc
  · intro h
    obtain ⟨c, hc, hm⟩ := h
    obtain ⟨path, hp⟩ := exists_realmUrl_of_scheme hc hm realm
    rw [hp, ← String.append_assoc] at hplain hsecure
    exact .inr ⟨path, .inr ⟨hsecure, hplain⟩⟩

def withAuthority (s : Settings) (url : String) (known : Option String) : Settings :=
  { s with authorityUrl := url, publicAuthorityUrl := known }

section Authority

variable {s : Settings} {url known : String}

theorem mem_own_allowedIssuers_iff {iss : String} :
    iss ∈ (s.withAuthority url none).allowedIssuers ↔ Same iss (realmUrl url s.realm) :=
  Issuer.mem_variants_iff

theorem mem_known_allowedIssuers_iff {iss : String} :
    iss ∈ (s.withAuthority url (some known)).allowedIssuers ↔
      Same iss (realmUrl url s.realm) ∨ known ≠ "" ∧ Same iss (realmUrl known s.realm) := by
  rw [mem_allowedIssuers_iff]
  constructor
  · intro h
    obtain ⟨c, hc, hs⟩ := h
    cases hc with
    | own => exact .inl hs
    | known hk hne =>
      cases hk
      exact .inr ⟨hne, hs⟩
  · intro h
    rcases h with h | ⟨hne, h⟩
    · exact ⟨_, .own, h⟩
    · exact ⟨_, .known rfl hne, h⟩

/-- A public URL makes no difference to the issuers. -/
def AddsNoIssuer (s : Settings) (url known : String) : Prop :=
  ∀ iss, iss ∈ (s.withAuthority url (some known)).allowedIssuers ↔
    iss ∈ (s.withAuthority url none).allowedIssuers

theorem addsNoIssuer_iff :
    s.AddsNoIssuer url known ↔
      known = "" ∨ Same (realmUrl known s.realm) (realmUrl url s.realm) := by
  simp only [AddsNoIssuer, mem_own_allowedIssuers_iff, mem_known_allowedIssuers_iff]
  constructor
  · intro h
    by_cases hne : known = ""
    · exact .inl hne
    · exact .inr ((h _).mp (.inr ⟨hne, same_equivalence.refl _⟩))
  · intro h iss
    constructor
    · intro hi
      rcases hi with hi | ⟨hne, hi⟩
      · exact hi
      · exact same_equivalence.trans hi (h.resolve_left hne)
    · intro hi
      exact .inl hi

end Authority

/-- An issuer is accepted if and only if it is a configured one, up to the scheme. What is one
issuer up to the scheme is settled by any URL of it; and a public URL adds none if it is the
authority's own, with the scheme it has there or, as long as that is not cut with the slashes at
the end, with the other one. -/
theorem issuer_acceptance (s : Settings) :
    (∀ iss, iss ∈ s.allowedIssuers ↔ ∃ c, s.NamesIssuer c ∧ (iss = c ∨ SchemesApart iss c)) ∧
    Equivalence (fun a b => b ∈ Issuer.variants a) ∧
    (∀ a b, b ∈ Issuer.variants a → ∀ iss, iss ∈ Issuer.variants b ↔ iss ∈ Issuer.variants a) ∧
    (∀ url, s.AddsNoIssuer url url) ∧
    ∀ rest, (s.AddsNoIssuer ("http://" ++ rest) ("https://" ++ rest) ↔
        ∃ c ∈ rest.toList, c ≠ '/') ∧
      (s.AddsNoIssuer ("https://" ++ rest) ("http://" ++ rest) ↔ ∃ c ∈ rest.toList, c ≠ '/') := by
  have hne : ∀ {start rest : String}, start ≠ "" → start ++ rest ≠ "" := by
    intro start rest hs he
    exact hs (String.append_eq_empty_iff.mp he).1
  refine ⟨fun iss => mem_allowedIssuers_iff, ?_, ?_, ?_, ?_⟩
  · simp only [Issuer.mem_variants_iff]
    constructor
    · exact same_equivalence.refl
    · exact same_equivalence.symm
    · intro a b c hab hbc
      exact same_equivalence.trans hbc hab
  · intro a b h
    exact Issuer.mem_variants_congr h
  · intro url
    exact addsNoIssuer_iff.mpr (.inr (same_equivalence.refl _))
  · intro rest
    rw [addsNoIssuer_iff, addsNoIssuer_iff, or_iff_right (hne (by decide)),
      or_iff_right (hne (by decide)), ← same_realmUrl_iff rest s.realm]
    exact ⟨Iff.rfl, same_equivalence.symm, same_equivalence.symm⟩

end Settings

end TenantGateway
