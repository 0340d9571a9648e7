import TenantGateway.Proofs.Token

/-! # Identification

Who a token is taken to belong to. A token has an identity if and only if a key signs it, its claims
hold now, and an accepted issuer names the identity in it. Whom it is meant for does not count.
-/
namespace TenantGateway.Token

structure Names (settings : Settings) (claims : Json.Fields) (identity : Identity) : Prop where
  issuer : ∃ issuer ∈ settings.allowedIssuers, claims.lookup "iss" = some (.str issuer)
  subject : claims.lookup "sub" = some (.str identity.id)
  subject_ne : identity.id ≠ ""
  email : (claims.lookup "email").getD .null = identity.email.elim .null .str

theorem checkIssuer_eq_ok_iff {allowed : List String} {claims : Json.Fields} :
    checkIssuer allowed claims = .ok () ↔
      ∃ issuer ∈ allowed, claims.lookup "iss" = some (.str issuer) := by
  unfold checkIssuer
  cases claims.lookup "iss" with
  | none => simp
  | some v => cases v <;> simp

theorem readFields_of_subject (subject : String) (email : Json) :
    Identity.readFields [("id", .str subject), ("email", email)] =
      ((Schema.textOrNull email).under (.key "email")).map (Identity.mk subject) := by
  show Schema.Reading.ap (.ok (Identity.mk subject)) ((Schema.textOrNull email).under _) = _
  cases (Schema.textOrNull email).under (.key "email") <;> rfl

theorem readFields_eq_ok_iff (subject : String) (email : Json) (identity : Identity) :
    Identity.readFields [("id", .str subject), ("email", email)] = .ok identity ↔
      identity.id = subject ∧ email = identity.email.elim .null .str := by
  obtain ⟨id, address⟩ := identity
  rw [readFields_of_subject]
  cases email with
  | null | str =>
    cases address <;>
      simp [Schema.textOrNull, Schema.Reading.under, Schema.Reading.map, eq_comm]
  | _ =>
    cases address <;>
      simp [Schema.textOrNull, Schema.complain, Schema.Reading.under, Schema.Reading.map]

theorem identityOf_eq_ok_iff {claims : Json.Fields} {identity : Identity} :
    identityOf claims = .ok identity ↔
      claims.lookup "sub" = some (.str identity.id) ∧ identity.id ≠ "" ∧
        (claims.lookup "email").getD .null = identity.email.elim .null .str := by
  unfold identityOf
  cases claims.lookup "sub" with
  | none => simp
  | some v =>
    cases v with
    | str subject =>
      by_cases hs : subject = ""
      · simp only [hs, if_true, reduceCtorEq, Option.some.injEq, Json.str.injEq, false_iff]
        rintro ⟨h, hne, -⟩
        exact hne h.symm
      · have hr := readFields_eq_ok_iff subject ((claims.lookup "email").getD .null) identity
        simp only [hs, if_false, Option.some.injEq, Json.str.injEq]
        cases hf : Identity.readFields
            [("id", .str subject), ("email", (claims.lookup "email").getD .null)] with
        | error ps =>
          rw [hf] at hr
          simp only [reduceCtorEq, false_iff, not_and] at hr ⊢
          intro h _
          exact hr h.symm
        | ok found =>
          rw [hf] at hr
          simp only [Schema.Reading.ok.injEq, Except.ok.injEq] at hr ⊢
          rw [hr]
          constructor
          · rintro ⟨rfl, he⟩
            exact ⟨rfl, hs, he⟩
          · rintro ⟨h, -, he⟩
            exact ⟨h.symm, he⟩
    | _ => simp

namespace Authority

variable (a : Authority) (settings : Settings)

theorem calls_claims (token : String) :
    (a.claims settings token).calls = if token = "" then [] else [.signingKey] := by
  unfold claims
  by_cases ht : token = ""
  · simp only [ht, if_true]
    rfl
  · simp only [ht, if_false]
    rw [Run.calls_bind]
    simp only [Run.calls_mapFault, Run.calls_ask, Run.calls_bind, Run.calls_ofOutcome,
      Run.calls_pure]
    split
    · split
      · split <;> rfl
      · rfl
    · rfl

/-- A signing key is asked for once, and only for a token that is not empty. -/
theorem calls_identify (token : String) :
    (a.identify settings token).calls = if token = "" then [] else [.signingKey] := by
  unfold identify
  rw [Run.calls_bind_ofOutcome, calls_claims]

variable {a settings}

theorem claims_eq_ok_iff {key : RsaKey} (hk : a.key = .ok key) {token : String}
    {fields : Json.Fields} :
    (a.claims settings token).outcome = .ok fields ↔
      token ≠ "" ∧ verify key a.now token = .ok fields ∧
        ∃ issuer ∈ settings.allowedIssuers, fields.lookup "iss" = some (.str issuer) := by
  unfold claims
  by_cases ht : token = ""
  · simp [ht, Run.fail]
  · simp only [ht, if_false, not_false_eq_true, true_and, ne_eq]
    rw [Run.outcome_bind]
    simp only [Run.outcome_mapFault, Run.outcome_ask, hk]
    show ((Run.ofOutcome _ >>= _ : Run Call _)).outcome = _ ↔ _
    rw [Run.outcome_bind, Run.outcome_ofOutcome, Except.bind_eq_ok_iff]
    simp only [Except.mapError_eq_ok_iff, Run.outcome_bind, Run.outcome_ofOutcome]
    constructor
    · rintro ⟨found, hv, h⟩
      obtain ⟨hi, h⟩ := Except.check_bind_eq_ok_iff.mp h
      cases h
      exact ⟨hv, checkIssuer_eq_ok_iff.mp hi⟩
    · rintro ⟨hv, hi⟩
      exact ⟨fields, hv, Except.check_bind_eq_ok_iff.mpr ⟨checkIssuer_eq_ok_iff.mpr hi, rfl⟩⟩

end Authority

theorem lookup_put_of_ne {key other : String} (h : other ≠ key) (value : Json)
    (fields : Json.Fields) : (Json.put key value fields).lookup other = fields.lookup other := by
  have hk : (other == key) = false := beq_false_of_ne h
  induction fields with
  | nil => simp [Json.put, List.lookup_cons, hk]
  | cons field rest ih =>
    obtain ⟨k, v⟩ := field
    by_cases he : k = key
    · subst he
      simp [Json.put, List.lookup_cons, hk]
    · simp only [Json.put, he, if_false, List.lookup_cons, ih]

variable {settings : Settings} {now : Int} {claims : Json.Fields} {identity : Identity}

theorem current_put_audience_iff (audience : Json) :
    Current now (Json.put "aud" audience claims) ↔ Current now claims := by
  constructor
  · rintro ⟨hi, hn, he, hs, hj⟩
    rw [lookup_put_of_ne (by decide)] at hi hn he hs hj
    exact ⟨hi, hn, he, hs, hj⟩
  · rintro ⟨hi, hn, he, hs, hj⟩
    rw [← @lookup_put_of_ne "aud" _ (by decide) audience] at hi hn he hs hj
    exact ⟨hi, hn, he, hs, hj⟩

theorem names_put_audience_iff (audience : Json) :
    Names settings (Json.put "aud" audience claims) identity ↔
      Names settings claims identity := by
  constructor
  · rintro ⟨hi, hs, hne, he⟩
    rw [lookup_put_of_ne (by decide)] at hi hs he
    exact ⟨hi, hs, hne, he⟩
  · rintro ⟨hi, hs, hne, he⟩
    rw [← @lookup_put_of_ne "aud" _ (by decide) audience] at hi hs he
    exact ⟨hi, hs, hne, he⟩

/-- A token is somebody's if and only if a key signs it, its claims hold now, and an accepted issuer
names that identity in them. Whatever is written as the audience makes no difference. -/
theorem identification_correctness (settings : Settings) (key : RsaKey) (now : Int)
    (token : String) :
    let run := (Authority.mk (.ok key) now).identify settings token
    (∀ identity, run.outcome = .ok identity ↔
      token ≠ "" ∧ ∃ t claims, Written token t ∧ Signed key t ∧
        Json.parseBytes t.payload = .ok (.obj claims) ∧ Current now claims ∧
        Names settings claims identity) ∧
      (∀ audience claims identity,
        Current now (Json.put "aud" audience claims) ∧
            Names settings (Json.put "aud" audience claims) identity ↔
          Current now claims ∧ Names settings claims identity) ∧
      run.calls = if token = "" then [] else [.signingKey] := by
  intro run
  refine ⟨fun identity => ?_, fun audience claims identity => ?_,
    Authority.calls_identify _ settings token⟩
  · show (Authority.claims _ settings token >>= _ : Run Call Identity).outcome = _ ↔ _
    rw [Run.outcome_bind, Except.bind_eq_ok_iff]
    have hv := fun claims =>
      @Authority.claims_eq_ok_iff ⟨.ok key, now⟩ settings key rfl token claims
    simp only [hv, Run.outcome_ofOutcome, identityOf_eq_ok_iff, verify_eq_ok_iff]
    constructor
    · rintro ⟨claims, ⟨ht, ⟨t, hw, hs, hp, hc⟩, hi⟩, hsub, hne, he⟩
      exact ⟨ht, t, claims, hw, hs, hp, hc, hi, hsub, hne, he⟩
    · rintro ⟨ht, t, claims, hw, hs, hp, hc, hi, hsub, hne, he⟩
      exact ⟨claims, ⟨ht, ⟨t, hw, hs, hp, hc⟩, hi⟩, hsub, hne, he⟩
  · rw [current_put_audience_iff, names_put_audience_iff]

end TenantGateway.Token
