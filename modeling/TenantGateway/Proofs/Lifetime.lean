import TenantGateway.Proofs.Identification

/-! # Lifetimes of tokens

One token at several times. Only the last check of a token looks at the clock, so a token goes one
way: it is early, it counts, it has lapsed. Nothing else about it changes with time.
-/
namespace TenantGateway.Token

variable {claims : Json.Fields} {t₁ t₂ t₃ : Int}

def Begun (key : String) (now : Int) (claims : Json.Fields) : Prop :=
  ∀ v, claims.lookup key = some v → ∃ t, timeOf? v = some t ∧ t ≤ now

theorem Begun.later {key : String} (h : Begun key t₁ claims) (hle : t₁ ≤ t₂) :
    Begun key t₂ claims := by
  intro v hv
  obtain ⟨t, ht, hn⟩ := h v hv
  exact ⟨t, ht, hn.trans hle⟩

/-- The claims hold but for their expiry, which is past. -/
structure Lapsed (now : Int) (claims : Json.Fields) : Prop where
  issued : Begun "iat" now claims
  started : Begun "nbf" now claims
  past : ∃ v t, claims.lookup "exp" = some v ∧ timeOf? v = some t ∧ t ≤ now

theorem Lapsed.later (h : Lapsed t₁ claims) (hle : t₁ ≤ t₂) : Lapsed t₂ claims := by
  obtain ⟨v, t, hv, ht, hn⟩ := h.past
  exact ⟨h.issued.later hle, h.started.later hle, v, t, hv, ht, hn.trans hle⟩

theorem Lapsed.not_current (h : Lapsed t₁ claims) : ¬ Current t₁ claims := by
  intro hc
  obtain ⟨v, t, hv, ht, hn⟩ := h.past
  obtain ⟨u, hu, hlt⟩ := hc.unexpired v hv
  rw [ht] at hu
  cases hu
  omega

theorem Current.later (h : Current t₁ claims) (hle : t₁ ≤ t₂) :
    Current t₂ claims ∨ Lapsed t₂ claims := by
  have hi : Begun "iat" t₂ claims := Begun.later h.issued hle
  have hs : Begun "nbf" t₂ claims := Begun.later h.started hle
  by_cases hover : ∃ v t, claims.lookup "exp" = some v ∧ timeOf? v = some t ∧ t ≤ t₂
  · exact .inr ⟨hi, hs, hover⟩
  · refine .inl ⟨hi, hs, ?_, h.subject, h.identifier⟩
    intro v hv
    obtain ⟨t, ht, -⟩ := h.unexpired v hv
    refine ⟨t, ht, ?_⟩
    by_contra hn
    exact hover ⟨v, t, hv, ht, by omega⟩

theorem Current.between (h₁ : Current t₁ claims) (h₃ : Current t₃ claims) (h₁₂ : t₁ ≤ t₂)
    (h₂₃ : t₂ ≤ t₃) : Current t₂ claims := by
  rcases h₁.later h₁₂ with h | h
  · exact h
  · exact absurd h₃ (h.later h₂₃).not_current

theorem checkTime_eq_error_iff {claim : TimeClaim} {inTime : Int → Bool} {late p : Problem} :
    checkTime claim inTime late claims = .error p ↔
      ∃ v, claims.lookup claim.key = some v ∧
        (timeOf? v = none ∧ .time claim = p ∨
          ∃ t, timeOf? v = some t ∧ inTime t = false ∧ late = p) := by
  unfold checkTime
  cases claims.lookup claim.key with
  | none => simp
  | some v =>
    cases ht : timeOf? v with
    | none => simp [ht]
    | some t => cases hin : inTime t <;> simp [ht, hin]

theorem eq_of_checkText_eq_error {key : String} {wrong p : Problem}
    (h : checkText key wrong claims = .error p) : wrong = p := by
  unfold checkText at h
  split at h
  · cases h
  · cases h
  · exact Except.error.inj h

theorem checkTime_eq_ok_iff_begun {claim : TimeClaim} {late : Problem} :
    checkTime claim (· ≤ t₁) late claims = .ok () ↔ Begun claim.key t₁ claims := by
  simp only [checkTime_eq_ok_iff, decide_eq_true_eq, Begun]

theorem family_time (claim : TimeClaim) : (Problem.time claim).family ≠ .expired := by
  cases claim <;> decide

theorem checkTime_ne_error {claim : TimeClaim} {inTime : Int → Bool} {late p : Problem}
    (hp : p.family = .expired) (hl : late.family ≠ .expired) :
    checkTime claim inTime late claims ≠ .error p := by
  intro h
  obtain ⟨v, -, hv⟩ := checkTime_eq_error_iff.mp h
  rcases hv with ⟨-, rfl⟩ | ⟨t, -, -, rfl⟩
  · exact family_time claim hp
  · exact hl hp

theorem checkClaims_eq_error_iff {p : Problem} (hp : p.family = .expired) :
    checkClaims t₁ claims = .error p ↔ p = .expired ∧ Lapsed t₁ claims := by
  unfold checkClaims
  constructor
  · intro h
    rcases Except.bind_eq_error_iff.mp h with h | ⟨⟨⟩, hi, h⟩
    · exact absurd h (checkTime_ne_error hp (by decide))
    rcases Except.bind_eq_error_iff.mp h with h | ⟨⟨⟩, hn, h⟩
    · exact absurd h (checkTime_ne_error hp (by decide))
    rcases Except.bind_eq_error_iff.mp h with h | ⟨⟨⟩, -, h⟩
    · obtain ⟨v, hv, hlate⟩ := checkTime_eq_error_iff.mp h
      rcases hlate with ⟨-, rfl⟩ | ⟨t, ht, hlate, rfl⟩
      · exact absurd hp (family_time _)
      · have hover : t ≤ t₁ := by simpa using hlate
        exact ⟨rfl, checkTime_eq_ok_iff_begun.mp hi, checkTime_eq_ok_iff_begun.mp hn, v, t, hv, ht,
          hover⟩
    -- What is checked after the expiry does not hang on time.
    rcases Except.bind_eq_error_iff.mp h with h | ⟨⟨⟩, -, h⟩
    · cases eq_of_checkText_eq_error h
      cases hp
    · cases eq_of_checkText_eq_error h
      cases hp
  · intro h
    obtain ⟨rfl, hi, hs, v, t, hv, ht, hover⟩ := h
    have hexpiry : checkTime .expiry (t₁ < ·) .expired claims = .error .expired := by
      have hnot : decide (t₁ < t) = false := by simpa using hover
      exact checkTime_eq_error_iff.mpr ⟨v, hv, .inr ⟨t, ht, hnot, rfl⟩⟩
    have hissued : checkTime .issuedAt (· ≤ t₁) (.early .issuedAt) claims = .ok () :=
      checkTime_eq_ok_iff_begun.mpr hi
    have hstarted : checkTime .notBefore (· ≤ t₁) (.early .notBefore) claims = .ok () :=
      checkTime_eq_ok_iff_begun.mpr hs
    rw [hissued, hstarted, hexpiry]
    rfl

example : let claims := [("exp", Json.str "10"), ("nbf", .int 5)]
    checkClaims 4 claims = .error (.early .notBefore) ∧ checkClaims 9 claims = .ok () ∧
      checkClaims 10 claims = .error .expired :=
  ⟨rfl, rfl, rfl⟩

/-- The claims of a token that a key signs, whatever the time. -/
def signedClaims (key : RsaKey) (token : String) : Except Problem Json.Fields := do
  let t ← Compact.ofToken token
  t.check key
  readPayload t.payload

theorem verify_eq_bind (key : RsaKey) (now : Int) (token : String) :
    verify key now token =
      signedClaims key token >>= fun claims => checkClaims now claims >>= fun _ => .ok claims := by
  simp only [verify, signedClaims, bind_assoc]
  rfl

/-- What is left to do with signed claims: the one check that hangs on time, and the issuer's. -/
def accept (allowed : List String) (claims : Json.Fields) (now : Int) : Except Fault Json.Fields :=
  (checkClaims now claims).mapError tokenRefusal >>= fun _ =>
    checkIssuer allowed claims >>= fun _ => .ok claims

/-- How an outcome hangs on time: not at all, or as far as claims hold. -/
inductive Timeline (allowed : List String) (outcome : Int → Except Fault Json.Fields) : Prop where
  | steady {o} (h : ∀ now, outcome now = o) : Timeline allowed outcome
  | timed {fields} (h : ∀ now, outcome now = accept allowed fields now) : Timeline allowed outcome

theorem timeline (settings : Settings) (key : Except Fault RsaKey) (token : String) :
    Timeline settings.allowedIssuers fun now =>
      ((Authority.mk key now).claims settings token).outcome := by
  by_cases ht : token = ""
  · have hempty : ∀ now, ((Authority.mk key now).claims settings token).outcome =
        .error (.token .empty none) := by
      intro now
      rw [Authority.claims, if_pos ht]
      rfl
    exact .steady hempty
  have hclaims : ∀ now, ((Authority.mk key now).claims settings token).outcome =
      (key.mapError keyRefusal >>= fun k => (verify k now token).mapError tokenRefusal >>=
        fun claims => checkIssuer settings.allowedIssuers claims >>= fun _ => .ok claims) := by
    intro now
    simp only [Authority.claims, if_neg ht, Run.outcome_bind, Run.outcome_mapFault,
      Run.outcome_ask, Run.outcome_ofOutcome, Run.outcome_pure]
  cases key with
  | error f => exact .steady hclaims
  | ok k =>
    have hsigned : ∀ now, ((Authority.mk (.ok k) now).claims settings token).outcome =
        ((signedClaims k token >>= fun claims =>
            checkClaims now claims >>= fun _ => .ok claims).mapError tokenRefusal >>=
          fun claims => checkIssuer settings.allowedIssuers claims >>= fun _ => .ok claims) := by
      intro now
      rw [← verify_eq_bind]
      exact hclaims now
    -- All that comes before the check of the claims is the same at any time.
    cases hs : signedClaims k token with
    | error p =>
      have hrefused : ∀ now, ((Authority.mk (.ok k) now).claims settings token).outcome =
          .error (tokenRefusal p) := by
        intro now
        rw [hsigned, hs]
        rfl
      exact .steady hrefused
    | ok claims =>
      have hchecked : ∀ now, ((Authority.mk (.ok k) now).claims settings token).outcome =
          accept settings.allowedIssuers claims now := by
        intro now
        rw [hsigned, hs, accept]
        show (checkClaims now claims >>= fun _ => .ok claims).mapError tokenRefusal >>= _ = _
        cases checkClaims now claims <;> rfl
      exact .timed hchecked

def expiry : Fault := .token .expired (some (.signing .expired))

variable {allowed : List String} {outcome : Int → Except Fault Json.Fields} {cause : Option Fault}

theorem tokenRefusal_eq_expired_iff {p : Problem} :
    tokenRefusal p = .token .expired cause ↔
      p.family = .expired ∧ cause = some (.signing p) := by
  unfold tokenRefusal
  cases p.family <;> simp [eq_comm]

theorem checkIssuer_ne_expired :
    checkIssuer allowed claims ≠ .error (.token .expired cause) := by
  unfold checkIssuer
  intro h
  split at h
  · split at h <;> cases h
  all_goals cases h

theorem accept_eq_ok_iff {fields : Json.Fields} :
    accept allowed fields t₁ = .ok claims ↔
      Current t₁ fields ∧ checkIssuer allowed fields = .ok () ∧ fields = claims := by
  rw [accept, Except.check_bind_eq_ok_iff, Except.check_bind_eq_ok_iff, Except.mapError_eq_ok_iff,
    checkClaims_eq_ok_iff, Except.ok.injEq]

theorem accept_eq_expired_iff {fields : Json.Fields} :
    accept allowed fields t₁ = .error (.token .expired cause) ↔
      Lapsed t₁ fields ∧ cause = some (.signing .expired) := by
  rw [accept, Except.bind_eq_error_iff, Except.mapError_eq_error_iff]
  constructor
  · intro h
    rcases h with ⟨p, hp, ht⟩ | ⟨_, -, h⟩
    · obtain ⟨hf, rfl⟩ := tokenRefusal_eq_expired_iff.mp ht
      obtain ⟨rfl, hl⟩ := (checkClaims_eq_error_iff hf).mp hp
      exact ⟨hl, rfl⟩
    · rcases Except.bind_eq_error_iff.mp h with h | ⟨_, -, h⟩
      · exact absurd h checkIssuer_ne_expired
      · cases h
  · intro h
    obtain ⟨hl, rfl⟩ := h
    exact .inl ⟨.expired, (checkClaims_eq_error_iff rfl).mpr ⟨rfl, hl⟩, rfl⟩

namespace Timeline

variable (h : Timeline allowed outcome)
include h

theorem between {first last : Json.Fields} (h₁₂ : t₁ ≤ t₂) (h₂₃ : t₂ ≤ t₃)
    (h₁ : outcome t₁ = .ok first) (h₃ : outcome t₃ = .ok last) :
    outcome t₂ = .ok first ∧ last = first := by
  cases h with
  | steady h =>
    rw [h] at h₁ h₃
    rw [h, h₁]
    exact ⟨rfl, (Except.ok.inj (h₁.symm.trans h₃)).symm⟩
  | timed h =>
    rw [h] at h₁ h₃
    obtain ⟨hfirst, hi, rfl⟩ := accept_eq_ok_iff.mp h₁
    obtain ⟨hlast, -, rfl⟩ := accept_eq_ok_iff.mp h₃
    rw [h]
    exact ⟨accept_eq_ok_iff.mpr ⟨hfirst.between hlast h₁₂ h₂₃, hi, rfl⟩, rfl⟩

theorem ends (h₁₂ : t₁ ≤ t₂) (h₁ : outcome t₁ = .ok claims) :
    outcome t₂ = .ok claims ∨ outcome t₂ = .error expiry := by
  cases h with
  | steady h =>
    rw [h] at h₁
    exact .inl ((h t₂).trans h₁)
  | timed h =>
    rw [h] at h₁
    obtain ⟨hc, hi, rfl⟩ := accept_eq_ok_iff.mp h₁
    rw [h]
    rcases hc.later h₁₂ with hc | hl
    · exact .inl (accept_eq_ok_iff.mpr ⟨hc, hi, rfl⟩)
    · exact .inr (accept_eq_expired_iff.mpr ⟨hl, rfl⟩)

theorem final (h₁₂ : t₁ ≤ t₂) (h₁ : outcome t₁ = .error (.token .expired cause)) :
    outcome t₂ = .error (.token .expired cause) := by
  cases h with
  | steady h =>
    rw [h] at h₁
    exact (h t₂).trans h₁
  | timed h =>
    rw [h] at h₁
    obtain ⟨hl, hcause⟩ := accept_eq_expired_iff.mp h₁
    rw [h]
    exact accept_eq_expired_iff.mpr ⟨hl.later h₁₂, hcause⟩

end Timeline

theorem outcome_identify_eq_bind (a : Authority) (settings : Settings) (token : String) :
    (a.identify settings token).outcome =
      (a.claims settings token).outcome >>= identityOf := by
  rw [Authority.identify, Run.outcome_bind]
  rfl

/-- What times say about each other where one token has these claims and this identity in time. -/
structure Lifetime (decoded : Int → Except Fault Json.Fields)
    (identified : Int → Except Fault Identity) : Prop where
  interval : ∀ {t₁ t₂ t₃ first last}, t₁ ≤ t₂ → t₂ ≤ t₃ → identified t₁ = .ok first →
    identified t₃ = .ok last → identified t₂ = .ok first ∧ last = first
  ends : ∀ {t₁ t₂ identity}, t₁ ≤ t₂ → identified t₁ = .ok identity →
    (∀ other, identified t₂ ≠ .ok other) → identified t₂ = .error expiry
  final : ∀ {t₁ t₂ cause}, t₁ ≤ t₂ → decoded t₁ = .error (.token .expired cause) →
    decoded t₂ = .error (.token .expired cause) ∧ identified t₂ = .error (.token .expired cause)

/-- A token counts for an interval of time, which ends with its expiry, and expiry is final. -/
theorem token_lifetime (settings : Settings) (key : Except Fault RsaKey) (token : String) :
    expiry.message = "Token has expired" ∧
      Lifetime (fun now => ((Authority.mk key now).claims settings token).outcome)
        (fun now => ((Authority.mk key now).identify settings token).outcome) := by
  have htime := timeline settings key token
  refine ⟨rfl, ?_, ?_, ?_⟩
  · intro t₁ t₂ t₃ first last h₁₂ h₂₃ h₁ h₃
    simp only [outcome_identify_eq_bind] at h₁ h₃ ⊢
    obtain ⟨claims, hc₁, hi₁⟩ := Except.bind_eq_ok_iff.mp h₁
    obtain ⟨claims', hc₃, hi₃⟩ := Except.bind_eq_ok_iff.mp h₃
    obtain ⟨hc₂, rfl⟩ := htime.between h₁₂ h₂₃ hc₁ hc₃
    rw [hi₁] at hi₃
    exact ⟨Except.bind_eq_ok_iff.mpr ⟨_, hc₂, hi₁⟩, (Except.ok.inj hi₃).symm⟩
  · intro t₁ t₂ identity h₁₂ h₁ hnone
    simp only [outcome_identify_eq_bind] at h₁ hnone ⊢
    obtain ⟨claims, hc₁, hi⟩ := Except.bind_eq_ok_iff.mp h₁
    rcases htime.ends h₁₂ hc₁ with hc₂ | hx
    · exact absurd (Except.bind_eq_ok_iff.mpr ⟨_, hc₂, hi⟩) (hnone identity)
    · exact Except.bind_eq_error_iff.mpr (.inl hx)
  · intro t₁ t₂ cause h₁₂ h₁
    have h₂ := htime.final h₁₂ h₁
    refine ⟨h₂, ?_⟩
    simp only [outcome_identify_eq_bind]
    exact Except.bind_eq_error_iff.mpr (.inl h₂)

end TenantGateway.Token
