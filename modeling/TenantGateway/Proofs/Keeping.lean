import TenantGateway.Settings

/-! # Settings that are kept

The settings are looked at again and again, each time under the environment of that time. The
first that can be read are kept, and from then on the environment does not matter. What cannot be
read is not kept: the next look reads again.
-/
namespace TenantGateway.Settings

def firstOf? (envs : List Environment) : Option Settings :=
  envs.findSome? fun env => (read [] env).toOption

section First

variable {envs past : List Environment} {env : Environment} {s : Settings}

theorem toOption_eq_some_iff : (read [] env).toOption = some s ↔ read [] env = .ok s := by
  cases read [] env <;> simp [Except.toOption]

theorem toOption_eq_none_iff : (read [] env).toOption = none ↔ ∃ f, read [] env = .error f := by
  cases read [] env <;> simp [Except.toOption]

theorem firstOf?_append_of_some (h : firstOf? past = some s) (more : List Environment) :
    firstOf? (past ++ more) = some s := by
  rw [firstOf?, List.findSome?_append, ← firstOf?, h, Option.some_or]

theorem firstOf?_append_of_none (h : firstOf? past = none) (more : List Environment) :
    firstOf? (past ++ more) = firstOf? more := by
  rw [firstOf?, List.findSome?_append, ← firstOf?, h, Option.none_or, ← firstOf?]

theorem firstOf?_cons_of_ok (h : read [] env = .ok s) (more : List Environment) :
    firstOf? (env :: more) = some s := by
  rw [firstOf?, List.findSome?_cons, toOption_eq_some_iff.mpr h]

theorem firstOf?_cons_of_error {f : Fault} (h : read [] env = .error f)
    (more : List Environment) : firstOf? (env :: more) = firstOf? more := by
  rw [firstOf?, List.findSome?_cons, toOption_eq_none_iff.mpr ⟨f, h⟩, ← firstOf?]

theorem firstOf?_eq_none_iff :
    firstOf? envs = none ↔ ∀ env ∈ envs, ∃ f, read [] env = .error f := by
  simp only [firstOf?, List.findSome?_eq_none_iff, toOption_eq_none_iff]

end First

/-- What a look comes to after others: the settings kept from those, or else what the environment
gives. -/
def seenAfter (past : List Environment) (env : Environment) : Except Fault Settings :=
  match firstOf? past with
  | some s => .ok s
  | none => read [] env

theorem seenAfter_of_some {past : List Environment} {s : Settings} (h : firstOf? past = some s)
    (env : Environment) : seenAfter past env = .ok s := by
  rw [seenAfter, h]

theorem seenAfter_of_none {past : List Environment} (h : firstOf? past = none)
    (env : Environment) : seenAfter past env = read [] env := by
  rw [seenAfter, h]

/-- What is kept after any looks are the first settings that could be read. -/
theorem look_firstOf? (past : List Environment) (env : Environment) :
    look (firstOf? past) env = (seenAfter past env, firstOf? (past ++ [env])) := by
  cases hp : firstOf? past with
  | some s => rw [firstOf?_append_of_some hp, seenAfter_of_some hp, look]
  | none =>
    rw [firstOf?_append_of_none hp, seenAfter_of_none hp, look]
    cases hr : read [] env with
    | ok s => rw [firstOf?_cons_of_ok hr]
    | error f =>
      rw [firstOf?_cons_of_error hr]
      rfl

theorem length_lookAll (kept : Option Settings) (envs : List Environment) :
    (lookAll kept envs).length = envs.length := by
  induction envs generalizing kept with
  | nil => rfl
  | cons env rest ih => rw [lookAll, List.length_cons, List.length_cons, ih]

theorem getElem?_lookAll (past envs : List Environment) (i : Nat) :
    (lookAll (firstOf? past) envs)[i]? = envs[i]?.map (seenAfter (past ++ envs.take i)) := by
  -- Each step moves one environment from those to come to those of the past.
  induction envs generalizing past i with
  | nil => rfl
  | cons env rest ih =>
    rw [lookAll, look_firstOf?]
    cases i with
    | zero => simp
    | succ i =>
      have hpast : past ++ (env :: rest).take (i + 1) = past ++ [env] ++ rest.take i := by simp
      rw [hpast]
      exact ih (past ++ [env]) i

/-- The settings can be read for the first time under the environment at a place. -/
structure FirstReadAt (envs : List Environment) (k : Nat) (s : Settings) : Prop where
  there : ∃ env, envs[k]? = some env ∧ read [] env = .ok s
  before : ∀ i < k, ∀ env, envs[i]? = some env → ∃ f, read [] env = .error f

section Place

variable {envs : List Environment} {env : Environment} {k i : Nat} {s : Settings}

theorem getElem?_lookAll_none (h : envs[i]? = some env) :
    (lookAll none envs)[i]? = some (seenAfter (envs.take i) env) := by
  have hl := getElem?_lookAll [] envs i
  rw [h] at hl
  exact hl

theorem getElem?_lookAll_of_unread (h : envs[i]? = some env) (hpast : firstOf? (envs.take i) = none)
    (hf : ∃ f, read [] env = .error f) :
    ∃ f, read [] env = .error f ∧ (lookAll none envs)[i]? = some (.error f) := by
  obtain ⟨f, hf⟩ := hf
  refine ⟨f, hf, ?_⟩
  rw [getElem?_lookAll_none h, seenAfter_of_none hpast, hf]

theorem FirstReadAt.firstOf?_take_of_le (h : FirstReadAt envs k s) (hi : i ≤ k) :
    firstOf? (envs.take i) = none := by
  rw [firstOf?_eq_none_iff]
  intro env hm
  obtain ⟨j, hj⟩ := List.mem_iff_getElem?.mp hm
  rw [List.getElem?_take] at hj
  split at hj
  · exact h.before j (by omega) env hj
  · cases hj

theorem FirstReadAt.firstOf?_take_of_lt (h : FirstReadAt envs k s) (hi : k < i) :
    firstOf? (envs.take i) = some s := by
  obtain ⟨env, hk, hr⟩ := h.there
  have hnext : firstOf? (envs.take (k + 1)) = some s := by
    rw [List.take_add_one, hk, firstOf?_append_of_none (h.firstOf?_take_of_le (Nat.le_refl k))]
    exact firstOf?_cons_of_ok hr []
  obtain ⟨more, hm⟩ : envs.take (k + 1) <+: envs.take i := List.take_prefix_take_left hi
  rw [← hm]
  exact firstOf?_append_of_some hnext more

theorem FirstReadAt.getElem?_lookAll (hk : FirstReadAt envs k s) (hi : k ≤ i)
    (h : envs[i]? = some env) : (lookAll none envs)[i]? = some (.ok s) := by
  rw [getElem?_lookAll_none h]
  rcases Nat.lt_or_eq_of_le hi with hlt | rfl
  · rw [seenAfter_of_some (hk.firstOf?_take_of_lt hlt)]
  · obtain ⟨e, hthere, hr⟩ := hk.there
    cases hthere.symm.trans h
    rw [seenAfter_of_none (hk.firstOf?_take_of_le (Nat.le_refl _)), hr]

theorem exists_firstReadAt (h : firstOf? envs = some s) : ∃ k, FirstReadAt envs k s := by
  obtain ⟨before, env, after, rfl, hr, hb⟩ := List.findSome?_eq_some_iff.mp h
  refine ⟨before.length, ⟨env, ?_, toOption_eq_some_iff.mp hr⟩, ?_⟩
  · rw [List.getElem?_append_right (Nat.le_refl _), Nat.sub_self, List.getElem?_cons_zero]
  · intro i hi e he
    rw [List.getElem?_append_left hi] at he
    exact toOption_eq_none_iff.mp (hb e (List.mem_of_getElem? he))

end Place

/-- Looks fail, each for the reason that its own environment gives, until the settings can be read
for the first time. That look and every later one see these settings, whatever the environment. -/
theorem first_settings_kept (envs : List Environment) :
    (lookAll none envs).length = envs.length ∧
    (∀ k s, FirstReadAt envs k s → ∀ (i : Nat) (env : Environment), envs[i]? = some env →
      (i < k → ∃ f, read [] env = .error f ∧ (lookAll none envs)[i]? = some (.error f)) ∧
      (k ≤ i → (lookAll none envs)[i]? = some (.ok s))) ∧
    ((∀ k s, ¬ FirstReadAt envs k s) → ∀ (i : Nat) (env : Environment), envs[i]? = some env →
      ∃ f, read [] env = .error f ∧ (lookAll none envs)[i]? = some (.error f)) := by
  refine ⟨length_lookAll none envs, ?_, ?_⟩
  · intro k s hk i env he
    constructor
    · intro hi
      have hpast := hk.firstOf?_take_of_le (Nat.le_of_lt hi)
      exact getElem?_lookAll_of_unread he hpast (hk.before i hi env he)
    · intro hi
      exact hk.getElem?_lookAll hi he
  · intro hnever i env he
    have hnone : firstOf? envs = none := by
      cases hf : firstOf? envs with
      | none => rfl
      | some s =>
        obtain ⟨k, hk⟩ := exists_firstReadAt hf
        exact absurd hk (hnever k s)
    rw [firstOf?_eq_none_iff] at hnone
    refine getElem?_lookAll_of_unread he ?_ (hnone env (List.mem_of_getElem? he))
    rw [firstOf?_eq_none_iff]
    intro e hm
    exact hnone e (List.mem_of_mem_take hm)

namespace Relooked

def unparsed : Environment := [("RULES_GATEWAY_cors_origins", "x")]

def renamed : Environment := [("RULES_GATEWAY_APP_NAME", "later")]

theorem read_unparsed : read [] unparsed = .error (.environment "cors_origins") := by
  have hv : (Lookup.ofArguments []).valueIn? unparsed "cors_origins" = some "x" := by
    simp [Lookup.ofArguments, Lookup.valueIn?, Lookup.relevant, unparsed, Lookup.textOf?,
      Lookup.usual]
  have hp : Json.parse "x" = .error (.grammar ⟨.value, 0, 1, 1⟩) := rfl
  have hn : (Lookup.ofArguments []).nullText = none := rfl
  simp [read, fromEnvironment, hv, hp, hn]

theorem firstReadAt_second : FirstReadAt [unparsed, [], unparsed, renamed] 1 usual := by
  refine ⟨⟨[], rfl, read_nil⟩, ?_⟩
  intro i hi env he
  obtain rfl : i = 0 := by omega
  cases he
  exact ⟨_, read_unparsed⟩

theorem never_firstReadAt (k : Nat) (s : Settings) : ¬ FirstReadAt [unparsed, unparsed] k s := by
  intro h
  obtain ⟨env, he, hr⟩ := h.there
  obtain rfl : env = unparsed := by simpa using List.mem_of_getElem? he
  cases read_unparsed.symm.trans hr

theorem second_look_decides :
    FirstReadAt [unparsed, [], unparsed, renamed] 1 usual ∧
    lookAll none [unparsed, [], unparsed, renamed] =
      [.error (.environment "cors_origins"), .ok usual, .ok usual, .ok usual] ∧
    (∀ k s, ¬ FirstReadAt [unparsed, unparsed] k s) ∧
    (lookAll none [unparsed, unparsed])[1]? = some (.error (.environment "cors_origins")) := by
  obtain ⟨hlength, hkept, -⟩ := first_settings_kept [unparsed, [], unparsed, renamed]
  obtain ⟨-, -, hnever⟩ := first_settings_kept [unparsed, unparsed]
  have hlook := hkept 1 usual firstReadAt_second
  refine ⟨firstReadAt_second, List.ext_getElem? ?_, never_firstReadAt, ?_⟩
  · intro i
    match i with
    | 0 =>
      obtain ⟨f, hf, h⟩ := (hlook 0 unparsed rfl).1 (by decide)
      cases read_unparsed.symm.trans hf
      exact h
    | 1 => exact (hlook 1 [] rfl).2 (by decide)
    | 2 => exact (hlook 2 unparsed rfl).2 (by decide)
    | 3 => exact (hlook 3 renamed rfl).2 (by decide)
    | i + 4 =>
      apply List.getElem?_eq_none
      rw [hlength]
      exact Nat.le_add_left 4 i
  · obtain ⟨f, hf, h⟩ := hnever never_firstReadAt 1 unparsed rfl
    cases read_unparsed.symm.trans hf
    exact h

end Relooked

end TenantGateway.Settings
