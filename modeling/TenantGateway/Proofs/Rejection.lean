import TenantGateway.Proofs.Identification

/-! # Rejection of tokens

How an identification ends that names nobody. It should end with a reason not to accept the token.
It does but where the service of the keys fails in an unusual way, and where a claim that is looked
at last is of a kind that nobody thought of.
-/
namespace TenantGateway

/-- A reason not to accept a token. -/
def Fault.IsRejection (f : Fault) : Prop := ∃ reason cause, f = .token reason cause

namespace Token

/-- The claims of a token that a key signs, which hold now. -/
def Vouched (key : RsaKey) (now : Int) (token : String) (claims : Json.Fields) : Prop :=
  ∃ t, Written token t ∧ Signed key t ∧ Json.parseBytes t.payload = .ok (.obj claims) ∧
    Current now claims

/-- The faults that an identification passes on, where `key` is what comes of asking for the key. -/
inductive Unforeseen (settings : Settings) (key : Except Problem RsaKey) (now : Int)
    (token : String) : Fault → Prop where
  /-- There is no key, and it is said neither that it could not be had nor that the token could not
  be taken apart. -/
  | key {p} (hk : key = .error p) (hs : p.family.isKeyService = false)
      (hf : p.family.isForm = false) : Unforeseen settings key now token (.signing p)
  | issuerList {k claims items} (hk : key = .ok k) (hv : Vouched k now token claims)
      (hi : claims.lookup "iss" = some (.arr items)) :
      Unforeseen settings key now token (.unhashable "list")
  | issuerObject {k claims fields} (hk : key = .ok k) (hv : Vouched k now token claims)
      (hi : claims.lookup "iss" = some (.obj fields)) :
      Unforeseen settings key now token (.unhashable "dict")
  | email {k claims issuer subject v} (hk : key = .ok k) (hv : Vouched k now token claims)
      (hi : claims.lookup "iss" = some (.str issuer)) (ha : issuer ∈ settings.allowedIssuers)
      (hs : claims.lookup "sub" = some (.str subject)) (hne : subject ≠ "")
      (he : claims.lookup "email" = some v) (hnull : v ≠ .null) (htext : ∀ s, v ≠ .str s) :
      Unforeseen settings key now token (.schema Identity.model [⟨.text, [.key "email"], v⟩])

variable {f : Fault} {claims : Json.Fields}

theorem isRejection_keyRefusal_iff (p : Problem) :
    (keyRefusal (.signing p)).IsRejection ↔
      p.family.isKeyService = true ∨ p.family.isForm = true := by
  rw [keyRefusal]
  by_cases hs : p.family.isKeyService
  · simp [hs, Fault.IsRejection]
  · by_cases hf : p.family.isForm <;> simp [hs, hf, Fault.IsRejection]

theorem keyRefusal_of_not_isRejection {p : Problem} (h : ¬ (keyRefusal (.signing p)).IsRejection) :
    keyRefusal (.signing p) = .signing p := by
  obtain ⟨hs, hf⟩ := not_or.mp ((isRejection_keyRefusal_iff p).not.mp h)
  rw [keyRefusal, if_neg hs, if_neg hf]

theorem isRejection_tokenRefusal (p : Problem) : (tokenRefusal p).IsRejection := by
  unfold tokenRefusal
  split <;> exact ⟨_, _, rfl⟩

theorem checkIssuer_eq_error_iff {allowed : List String} (hf : ¬ f.IsRejection) :
    checkIssuer allowed claims = .error f ↔
      (∃ items, claims.lookup "iss" = some (.arr items) ∧ .unhashable "list" = f) ∨
        ∃ fields, claims.lookup "iss" = some (.obj fields) ∧ .unhashable "dict" = f := by
  have hr : Fault.token .issuer none ≠ f := by
    rintro rfl
    exact hf ⟨_, _, rfl⟩
  unfold checkIssuer
  cases claims.lookup "iss" with
  | none => simp [hr]
  | some v =>
    cases v with
    | str issuer => by_cases ha : issuer ∈ allowed <;> simp [ha, hr]
    | _ => simp [hr]

theorem identityOf_eq_error_iff (hf : ¬ f.IsRejection) :
    identityOf claims = .error f ↔
      ∃ subject v, claims.lookup "sub" = some (.str subject) ∧ subject ≠ "" ∧
        claims.lookup "email" = some v ∧ v ≠ .null ∧ (∀ s, v ≠ .str s) ∧
        .schema Identity.model [⟨.text, [.key "email"], v⟩] = f := by
  have hr : Fault.token .noSubject none ≠ f := by
    rintro rfl
    exact hf ⟨_, _, rfl⟩
  unfold identityOf
  cases claims.lookup "sub" with
  | none => simp [hr]
  | some v =>
    cases v with
    | str subject =>
      by_cases hne : subject = ""
      · simp [hne, hr]
      · simp only [hne, if_false, readFields_of_subject]
        -- An email that is not there is read as null.
        cases claims.lookup "email" with
        | none => simp [Schema.textOrNull, Schema.Reading.under, Schema.Reading.map]
        | some email =>
          cases email <;>
            simp [Schema.textOrNull, Schema.complain, Schema.Reading.under, Schema.Reading.map,
              Schema.Problem.under, hne]
    | _ => simp [hr]

theorem outcome_identify (a : Authority) (settings : Settings) {token : String}
    (ht : token ≠ "") :
    (a.identify settings token).outcome =
      (a.key.mapError keyRefusal >>= fun k =>
        (verify k a.now token).mapError tokenRefusal >>= fun claims =>
          checkIssuer settings.allowedIssuers claims >>= fun _ => identityOf claims) := by
  simp only [Authority.identify, Authority.claims, if_neg ht, bind_assoc, pure_bind,
    Run.outcome_bind, Run.outcome_mapFault, Run.outcome_ask, Run.outcome_ofOutcome]

theorem outcome_identify_empty (a : Authority) (settings : Settings) :
    (a.identify settings "").outcome = .error (.token .empty none) := rfl

section Unforeseen

variable {settings : Settings} {key : Except Problem RsaKey} {now : Int} {token : String}

theorem Unforeseen.not_isRejection (h : Unforeseen settings key now token f) :
    ¬ f.IsRejection := by
  rintro ⟨reason, cause, rfl⟩
  cases h

theorem outcome_identify_of_vouched {k : RsaKey} (hk : key = .ok k)
    (hv : Vouched k now token claims) (ht : token ≠ "") :
    ((Authority.mk (key.mapError .signing) now).identify settings token).outcome =
      checkIssuer settings.allowedIssuers claims >>= fun _ => identityOf claims := by
  rw [outcome_identify _ _ ht, hk]
  show (verify k now token).mapError tokenRefusal >>= _ = _
  rw [verify_eq_ok_iff.mpr hv]
  rfl

theorem Unforeseen.outcome_identify (h : Unforeseen settings key now token f) (ht : token ≠ "") :
    ((Authority.mk (key.mapError .signing) now).identify settings token).outcome = .error f := by
  have hf := h.not_isRejection
  cases h with
  | @key p hk hs hform =>
    rw [Token.outcome_identify _ _ ht, hk]
    show Except.error (keyRefusal (.signing p)) = _
    rw [keyRefusal_of_not_isRejection]
    simp [isRejection_keyRefusal_iff, hs, hform]
  | @issuerList k claims items hk hv hi =>
    rw [outcome_identify_of_vouched hk hv ht,
      (checkIssuer_eq_error_iff hf).mpr (.inl ⟨items, hi, rfl⟩)]
    rfl
  | @issuerObject k claims fields hk hv hi =>
    rw [outcome_identify_of_vouched hk hv ht,
      (checkIssuer_eq_error_iff hf).mpr (.inr ⟨fields, hi, rfl⟩)]
    rfl
  | @email k claims issuer subject v hk hv hi ha hs hne he hnull htext =>
    rw [outcome_identify_of_vouched hk hv ht, checkIssuer_eq_ok_iff.mpr ⟨issuer, ha, hi⟩]
    exact (identityOf_eq_error_iff hf).mpr ⟨subject, v, hs, hne, he, hnull, htext, rfl⟩

theorem unforeseen_of_outcome (ht : token ≠ "") (hf : ¬ f.IsRejection)
    (ho : ((Authority.mk (key.mapError .signing) now).identify settings token).outcome = .error f) :
    Unforeseen settings key now token f := by
  rw [Token.outcome_identify _ _ ht] at ho
  rcases Except.bind_eq_error_iff.mp ho with ho | ⟨k, hk, ho⟩
  · obtain ⟨g, hg, rfl⟩ := Except.mapError_eq_error_iff.mp ho
    obtain ⟨p, hp, rfl⟩ := Except.mapError_eq_error_iff.mp hg
    obtain ⟨hs, hform⟩ := not_or.mp ((isRejection_keyRefusal_iff p).not.mp hf)
    rw [keyRefusal_of_not_isRejection hf]
    exact .key hp (eq_false_of_ne_true hs) (eq_false_of_ne_true hform)
  have hk : key = .ok k := Except.mapError_eq_ok_iff.mp (Except.mapError_eq_ok_iff.mp hk)
  rcases Except.bind_eq_error_iff.mp ho with ho | ⟨claims, hv, ho⟩
  · obtain ⟨p, -, rfl⟩ := Except.mapError_eq_error_iff.mp ho
    exact absurd (isRejection_tokenRefusal p) hf
  have hv : Vouched k now token claims := verify_eq_ok_iff.mp (Except.mapError_eq_ok_iff.mp hv)
  rcases Except.bind_eq_error_iff.mp ho with ho | ⟨⟨⟩, hi, ho⟩
  · rcases (checkIssuer_eq_error_iff hf).mp ho with ⟨items, hi, rfl⟩ | ⟨fields, hi, rfl⟩
    · exact .issuerList hk hv hi
    · exact .issuerObject hk hv hi
  · obtain ⟨issuer, ha, hi⟩ := checkIssuer_eq_ok_iff.mp hi
    obtain ⟨subject, v, hs, hne, he, hnull, htext, rfl⟩ := (identityOf_eq_error_iff hf).mp ho
    exact .email hk hv hi ha hs hne he hnull htext

end Unforeseen

/-- An identification ends with an identity or with a reason not to accept the token, but for the
faults that are listed, and all of these it passes on. -/
theorem rejection_containment (settings : Settings) (key : Except Problem RsaKey) (now : Int)
    (token : String) (f : Fault) :
    ((Authority.mk (key.mapError .signing) now).identify settings token).outcome = .error f ∧
        ¬ f.IsRejection ↔
      token ≠ "" ∧ Unforeseen settings key now token f := by
  by_cases ht : token = ""
  · subst ht
    refine iff_of_false ?_ fun h => h.1 rfl
    rw [outcome_identify_empty]
    rintro ⟨⟨⟩, hf⟩
    exact hf ⟨_, _, rfl⟩
  · constructor
    · rintro ⟨ho, hf⟩
      exact ⟨ht, unforeseen_of_outcome ht hf ho⟩
    · rintro ⟨-, hu⟩
      exact ⟨hu.outcome_identify ht, hu.not_isRejection⟩

theorem empty_key_set_passed_on :
    ((Authority.mk (.error (.signing (.reported .keySet "no keys"))) 0).identify .usual
        "t").outcome = .error (.signing (.reported .keySet "no keys")) ∧
      ¬ Fault.IsRejection (.signing (.reported .keySet "no keys")) := by
  refine ⟨rfl, ?_⟩
  rintro ⟨_, _, ⟨⟩⟩

end Token

end TenantGateway
