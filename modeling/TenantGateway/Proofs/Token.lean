import TenantGateway.Proofs.Run
import TenantGateway.Proofs.Signature
import TenantGateway.Proofs.Text
import TenantGateway.Token.Authority

/-! # Laws of tokens

What the checks of a token come to. Each check is a step that may fail; next to it stands what
holds of a token that passes it, and nothing else stops one.
-/
namespace TenantGateway

theorem RsaAlgorithm.ofName?_eq_some_iff {name : String} {a : RsaAlgorithm} :
    RsaAlgorithm.ofName? name = some a ↔
      name = "RS256" ∧ a = .sha256 ∨ name = "RS512" ∧ a = .sha512 := by
  unfold RsaAlgorithm.ofName?
  split <;> simp_all [eq_comm]

namespace Token

open Text

theorem segments?_of_last {front last : List Char} (h : '.' ∉ last) :
    segments? (front ++ '.' :: last) =
      match front.dropWhile (· != '.') with
      | [] => none
      | _ :: middle => some (front.takeWhile (· != '.'), middle, last) := by
  have hr : (front ++ '.' :: last).reverse = last.reverse ++ '.' :: front.reverse := by simp
  have hl : '.' ∉ last.reverse := by simpa using h
  simp only [segments?, hr, takeWhile_of_mark hl, dropWhile_of_mark hl, List.reverse_cons,
    List.reverse_reverse, List.dropLast_concat]
  cases front <;> rfl

theorem segments?_of_notMem {cs : List Char} (h : '.' ∉ cs) : segments? cs = none := by
  have hr : ∀ c ∈ cs.reverse, (c != '.') = true := ne_of_notMem (by simpa using h)
  have hd : cs.reverse.dropWhile (· != '.') = [] := by
    rw [← List.append_nil cs.reverse, List.dropWhile_append_of_pos hr, List.dropWhile_nil]
  simp [segments?, hd]

/-- A text is divided at its first point and at its last. -/
theorem segments?_eq_some_iff {cs head middle last : List Char} :
    segments? cs = some (head, middle, last) ↔
      cs = head ++ '.' :: middle ++ '.' :: last ∧ '.' ∉ head ∧ '.' ∉ last := by
  constructor
  · intro h
    by_cases hm : '.' ∈ cs
    · obtain ⟨after, before, hr, ha⟩ :=
        List.eq_append_cons_of_mem (List.mem_reverse.mpr hm)
      have hc : cs = before.reverse ++ '.' :: after.reverse := by
        rw [← List.reverse_reverse cs, hr]
        simp
      have ha' : '.' ∉ after.reverse := by simpa using ha
      rw [hc, segments?_of_last ha'] at h
      cases hd : before.reverse.dropWhile (· != '.') with
      | nil =>
        rw [hd] at h
        cases h
      | cons point rest =>
        rw [hd] at h
        cases h
        refine ⟨?_, notMem_takeWhile _, ha'⟩
        rw [hc, ← eq_append_of_dropWhile hd]
    · rw [segments?_of_notMem hm] at h
      cases h
  · rintro ⟨rfl, hh, hl⟩
    rw [segments?_of_last hl, dropWhile_of_mark hh, takeWhile_of_mark hh]

theorem signedPart_of_last {token : String} {front last : List Char} (h : '.' ∉ last)
    (ht : token.toList = front ++ '.' :: last) :
    signedPart token = Utf8.encode (String.ofList front) := by
  have hl : '.' ∉ last.reverse := by simpa using h
  rw [signedPart, ht, List.reverse_append, List.reverse_cons, List.append_assoc,
    List.singleton_append, dropWhile_of_mark hl, List.reverse_cons, List.reverse_reverse,
    List.dropLast_concat]

theorem readHeader_eq_ok_iff {bs : Bytes} {fields : Json.Fields} :
    readHeader bs = .ok fields ↔ Json.parseBytes bs = .ok (.obj fields) := by
  unfold readHeader
  split <;> simp_all

theorem readPayload_eq_ok_iff {bs : Bytes} {fields : Json.Fields} :
    readPayload bs = .ok fields ↔ Json.parseBytes bs = .ok (.obj fields) := by
  unfold readPayload
  split <;> simp_all

/-- A token's text and its parts. What is signed is the text before the last point. -/
inductive Written : String → Compact → Prop where
  | mk {token : String} {head middle last : List Char} {header : Json.Fields}
      {text payload signature : Bytes}
      (token_eq : token.toList = head ++ '.' :: middle ++ '.' :: last)
      (head_whole : '.' ∉ head) (last_whole : '.' ∉ last)
      (header_text : Base64.decode? .url head = some text)
      (header_object : Json.parseBytes text = .ok (.obj header))
      (detached : isDetached header → middle = [])
      (payload_text : Base64.decode? .url middle = some payload)
      (signature_text : Base64.decode? .url last = some signature) :
      Written token
        ⟨header, payload, signature, Utf8.encode (String.ofList (head ++ '.' :: middle))⟩

theorem Compact.ofToken_eq_ok_iff {token : String} {t : Compact} :
    Compact.ofToken token = .ok t ↔ Written token t := by
  constructor
  · intro h
    unfold Compact.ofToken at h
    split at h
    · cases h
    rename_i head middle last hs
    split at h
    · cases h
    rename_i text ht
    split at h
    · cases h
    rename_i header hh
    split at h
    · cases h
    rename_i hd
    split at h
    · cases h
    rename_i payload hp
    split at h
    · cases h
    rename_i signature hg
    cases h
    obtain ⟨htoken, hhead, hlast⟩ := segments?_eq_some_iff.mp hs
    rw [signedPart_of_last hlast htoken]
    exact .mk htoken hhead hlast ht (readHeader_eq_ok_iff.mp hh) (by simpa using hd) hp hg
  · rintro ⟨htoken, hhead, hlast, ht, hh, hd, hp, hg⟩
    have hs := segments?_eq_some_iff.mpr ⟨htoken, hhead, hlast⟩
    rw [Compact.ofToken, hs]
    simp only [ht, readHeader_eq_ok_iff.mpr hh, hp, hg]
    rw [if_neg (by simpa using hd), signedPart_of_last hlast htoken]

/-- The header lists its extensions, if at all, in a list that is not empty, and they are known and
present. -/
def ListsExtensions (header : Json.Fields) : Prop :=
  ∀ v, header.lookup "crit" = some v →
    ∃ names, v = .arr names ∧ names ≠ [] ∧
      ∀ name ∈ names, name = .str "b64" ∧ (header.lookup "b64").isSome

theorem checkExtensions_eq_ok_iff {header : Json.Fields} {names : List Json} :
    checkExtensions header names = .ok () ↔
      ∀ name ∈ names, name = .str "b64" ∧ (header.lookup "b64").isSome := by
  induction names with
  | nil => simp [checkExtensions]
  | cons name rest ih =>
    cases name with
    | str s =>
      rw [checkExtensions, List.forall_mem_cons]
      by_cases hs : s = "b64"
      · subst hs
        cases hb : header.lookup "b64" with
        | none => simp
        | some v => simp [ih, hb]
      · simp [hs]
    | _ => simp [checkExtensions]

theorem checkCritical_eq_ok_iff {header : Json.Fields} :
    checkCritical header = .ok () ↔ ListsExtensions header := by
  unfold checkCritical ListsExtensions
  cases header.lookup "crit" with
  | none => simp
  | some v =>
    cases v with
    | arr names => cases names <;> simp [checkExtensions_eq_ok_iff]
    | _ => simp

theorem checkKeyId_eq_ok_iff {header : Json.Fields} :
    checkKeyId header = .ok () ↔ ∀ v, header.lookup "kid" = some v → ∃ s, v = .str s := by
  unfold checkKeyId
  cases header.lookup "kid" with
  | none => simp
  | some v => cases v <;> simp

theorem algorithm_eq_ok_iff {header : Json.Fields} {a : RsaAlgorithm} :
    algorithm header = .ok a ↔
      header.lookup "alg" = some (.str "RS256") ∧ a = .sha256 ∨
        header.lookup "alg" = some (.str "RS512") ∧ a = .sha512 := by
  unfold algorithm
  cases header.lookup "alg" with
  | none => simp
  | some v =>
    cases v with
    | str name =>
      have hn := @RsaAlgorithm.ofName?_eq_some_iff name a
      cases ha : RsaAlgorithm.ofName? name <;> simp_all
    | _ => simp

theorem isDetached_iff {header : Json.Fields} :
    isDetached header = true ↔ header.lookup "b64" = some (.bool false) := by
  unfold isDetached
  split <;> simp_all

structure Signed (key : RsaKey) (t : Compact) : Prop where
  key_id : ∀ v, t.header.lookup "kid" = some v → ∃ s, v = .str s
  extensions : ListsExtensions t.header
  attached : t.header.lookup "b64" ≠ some (.bool false)
  signature :
    t.header.lookup "alg" = some (.str "RS256") ∧ key.Signs .sha256 t.signed t.signature ∨
      t.header.lookup "alg" = some (.str "RS512") ∧ key.Signs .sha512 t.signed t.signature

theorem Compact.check_eq_ok_iff {key : RsaKey} {t : Compact} :
    t.check key = .ok () ↔ Signed key t := by
  unfold Compact.check
  rw [Except.check_bind_eq_ok_iff, Except.check_bind_eq_ok_iff, checkKeyId_eq_ok_iff,
    checkCritical_eq_ok_iff]
  by_cases hd : isDetached t.header
  · simp only [hd, if_true]
    constructor
    · rintro ⟨-, -, h⟩
      cases h
    · rintro ⟨-, -, ha, -⟩
      exact absurd (isDetached_iff.mp hd) ha
  · have ha : t.header.lookup "b64" ≠ some (.bool false) := fun h => hd (isDetached_iff.mpr h)
    simp only [hd]
    show _ ∧ _ ∧ (algorithm t.header >>= _) = .ok () ↔ _
    rw [Except.bind_eq_ok_iff]
    simp only [algorithm_eq_ok_iff]
    constructor
    · rintro ⟨hk, hc, a, hn, h⟩
      have hs : key.verifies a t.signed t.signature = true := by
        by_contra hv
        rw [if_neg hv] at h
        cases h
      rw [RsaKey.verifies_iff] at hs
      rcases hn with ⟨hn, rfl⟩ | ⟨hn, rfl⟩
      · exact ⟨hk, hc, ha, .inl ⟨hn, hs⟩⟩
      · exact ⟨hk, hc, ha, .inr ⟨hn, hs⟩⟩
    · rintro ⟨hk, hc, -, ⟨hn, hs⟩ | ⟨hn, hs⟩⟩
      · exact ⟨hk, hc, .sha256, .inl ⟨hn, rfl⟩, if_pos (RsaKey.verifies_iff.mpr hs)⟩
      · exact ⟨hk, hc, .sha512, .inr ⟨hn, rfl⟩, if_pos (RsaKey.verifies_iff.mpr hs)⟩

theorem checkTime_eq_ok_iff {claim : TimeClaim} {inTime : Int → Bool} {late : Problem}
    {claims : Json.Fields} :
    checkTime claim inTime late claims = .ok () ↔
      ∀ v, claims.lookup claim.key = some v → ∃ t, timeOf? v = some t ∧ inTime t = true := by
  unfold checkTime
  cases claims.lookup claim.key with
  | none => simp
  | some v =>
    simp only [Option.some.injEq, forall_eq']
    cases timeOf? v <;> simp

theorem checkText_eq_ok_iff {key : String} {wrong : Problem} {claims : Json.Fields} :
    checkText key wrong claims = .ok () ↔
      ∀ v, claims.lookup key = some v → ∃ s, v = .str s := by
  unfold checkText
  cases claims.lookup key with
  | none => simp
  | some v => cases v <;> simp

/-- The claims hold at a time, and are of the kinds that they have to be. What is not there is not
looked at. -/
structure Current (now : Int) (claims : Json.Fields) : Prop where
  issued : ∀ v, claims.lookup "iat" = some v → ∃ t, timeOf? v = some t ∧ t ≤ now
  started : ∀ v, claims.lookup "nbf" = some v → ∃ t, timeOf? v = some t ∧ t ≤ now
  unexpired : ∀ v, claims.lookup "exp" = some v → ∃ t, timeOf? v = some t ∧ now < t
  subject : ∀ v, claims.lookup "sub" = some v → ∃ s, v = .str s
  identifier : ∀ v, claims.lookup "jti" = some v → ∃ s, v = .str s

theorem checkClaims_eq_ok_iff {now : Int} {claims : Json.Fields} :
    checkClaims now claims = .ok () ↔ Current now claims := by
  unfold checkClaims
  rw [Except.check_bind_eq_ok_iff, Except.check_bind_eq_ok_iff, Except.check_bind_eq_ok_iff,
    Except.check_bind_eq_ok_iff]
  simp only [checkTime_eq_ok_iff, checkText_eq_ok_iff, decide_eq_true_eq]
  constructor
  · rintro ⟨hi, hn, he, hs, hj⟩
    exact ⟨hi, hn, he, hs, hj⟩
  · rintro ⟨hi, hn, he, hs, hj⟩
    exact ⟨hi, hn, he, hs, hj⟩

theorem verify_eq_ok_iff {key : RsaKey} {now : Int} {token : String} {claims : Json.Fields} :
    verify key now token = .ok claims ↔
      ∃ t, Written token t ∧ Signed key t ∧ Json.parseBytes t.payload = .ok (.obj claims) ∧
        Current now claims := by
  unfold verify
  rw [Except.bind_eq_ok_iff]
  refine exists_congr fun t => ?_
  rw [Compact.ofToken_eq_ok_iff, Except.check_bind_eq_ok_iff, Compact.check_eq_ok_iff,
    Except.bind_eq_ok_iff]
  constructor
  · rintro ⟨hw, hs, fields, hp, h⟩
    obtain ⟨hc, h⟩ := Except.check_bind_eq_ok_iff.mp h
    cases h
    exact ⟨hw, hs, readPayload_eq_ok_iff.mp hp, checkClaims_eq_ok_iff.mp hc⟩
  · rintro ⟨hw, hs, hp, hc⟩
    refine ⟨hw, hs, claims, readPayload_eq_ok_iff.mpr hp, ?_⟩
    exact Except.check_bind_eq_ok_iff.mpr ⟨checkClaims_eq_ok_iff.mpr hc, rfl⟩

end Token

end TenantGateway
