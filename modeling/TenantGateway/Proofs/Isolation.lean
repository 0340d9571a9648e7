import Mathlib.Data.List.Flatten
import TenantGateway.Proofs.Authorization

/-! # Isolation of users

What the users of the gateway call their own. Identities of the usual form differ also without
their hyphens, so no name that the engine is sent for one of two such users is sent for the other.
-/
namespace TenantGateway

open Namespace

/-- Five groups of characters, joined by hyphens. -/
def Canonical (id : String) : Prop :=
  ∃ groups : List (List Char), groups.map List.length = [8, 4, 4, 4, 12] ∧
    (∀ group ∈ groups, '-' ∉ group ∧ '_' ∉ group) ∧ id.toList = ['-'].intercalate groups

theorem filter_intercalate {mark : Char} (groups : List (List Char))
    (h : ∀ group ∈ groups, mark ∉ group) :
    ([mark].intercalate groups).filter (· != mark) = groups.flatten := by
  induction groups with
  | nil => rfl
  | cons group rest ih =>
    have hg : group.filter (· != mark) = group := by
      rw [List.filter_eq_self]
      intro c hc
      have hne : c ≠ mark := fun e => h group List.mem_cons_self (e ▸ hc)
      simpa using hne
    have ih := ih fun g hm => h g (List.mem_cons_of_mem _ hm)
    cases rest with
    | nil => simp [hg]
    | cons next rest => simp [List.intercalate_cons_cons, hg, ih]

theorem Canonical.compact_eq {id : String} {groups : List (List Char)}
    (hg : ∀ group ∈ groups, '-' ∉ group ∧ '_' ∉ group)
    (hid : id.toList = ['-'].intercalate groups) : (compact id).toList = groups.flatten := by
  rw [toList_compact, hid, filter_intercalate groups fun group hm => (hg group hm).1]

theorem Canonical.notMem_compact {id : String} (h : Canonical id) : '_' ∉ (compact id).toList := by
  obtain ⟨groups, -, hg, hid⟩ := h
  rw [Canonical.compact_eq hg hid, List.mem_flatten]
  rintro ⟨group, hm, hc⟩
  exact (hg group hm).2 hc

theorem Canonical.compact_injective {u v : String} (hu : Canonical u) (hv : Canonical v)
    (h : compact u = compact v) : u = v := by
  obtain ⟨gs, hgl, hg, hgu⟩ := hu
  obtain ⟨hs, hhl, hh, hhv⟩ := hv
  have hf : gs.flatten = hs.flatten := by
    rw [← Canonical.compact_eq hg hgu, ← Canonical.compact_eq hh hhv, h]
  have he : gs = hs := List.eq_iff_flatten_eq.mpr ⟨hf, hgl.trans hhl.symm⟩
  rw [← String.toList_inj, hgu, hhv, he]

/-- A request to the engine with the names that stand in it: those of streams, in a path, in the
statement that declares a stream or as the source of a query, and those of rules. -/
inductive Spells (settings : Settings) : EngineRequest → List String → Prop where
  | declare (name topic row) :
      Spells settings
        ⟨.post, "streams", some (Services.declarationBody settings name topic row)⟩ [name]
  | redeclare (name topic row) :
      Spells settings
        ⟨.put, streamPath name, some (Services.declarationBody settings name topic row)⟩ [name]
  | list : Spells settings ⟨.get, "streams", none⟩ []
  | view (name) : Spells settings ⟨.get, streamPath name, none⟩ [name]
  | delete (name) : Spells settings ⟨.delete, streamPath name, none⟩ [name]
  | rule (id before source after actions) (h : "from" ∉ before) :
      Spells settings
        ⟨.post, "rules",
          some (Rule.toJson
            ⟨id, " ".intercalate (before ++ "from" :: source :: after), actions⟩)⟩
        [id, source]

def sourceOf? : List String → Option String
  | [] => none
  | word :: rest => if word = "from" then rest.head? else sourceOf? rest

theorem sourceOf?_append {before : List String} (h : "from" ∉ before) (rest : List String) :
    sourceOf? (before ++ "from" :: rest) = rest.head? := by
  induction before with
  | nil => rfl
  | cons word before ih =>
    have hw : word ≠ "from" := fun e => h (e ▸ List.mem_cons_self)
    rw [List.cons_append, sourceOf?, if_neg hw, ih fun hm => h (List.mem_cons_of_mem _ hm)]

/-- The names that a task puts into what the engine is sent for a user. -/
def Task.names (user : String) : Task → List String
  | .createStream name _ _ | .updateStream name _ _ | .viewStream name | .deleteStream name =>
    [qualify user name]
  | .listStreams => []
  | .createRule rule =>
    qualify user rule.id :: (sourceOf? (Text.words rule.sql)).toList.map (qualify user)

theorem Task.exists_of_mem_names {user name : String} {task : Task} (h : name ∈ task.names user) :
    ∃ n, name = qualify user n := by
  cases task with
  | createStream n | updateStream n | viewStream n | deleteStream n =>
    exact ⟨n, List.mem_singleton.mp h⟩
  | listStreams => cases h
  | createRule rule =>
    rcases List.mem_cons.mp h with h | h
    · exact ⟨rule.id, h⟩
    · obtain ⟨source, -, hs⟩ := List.mem_map.mp h
      exact ⟨source, hs.symm⟩

theorem Task.spells_request {settings : Settings} {user : String} {task : Task}
    {request : EngineRequest} (h : (task.plan settings user).request = .ok request) :
    Spells settings request (task.names user) := by
  cases task with
  | createStream name topic row =>
    cases h
    exact .declare _ topic row
  | updateStream name topic row =>
    cases h
    exact .redeclare _ topic row
  | listStreams =>
    cases h
    exact .list
  | viewStream name =>
    cases h
    exact .view _
  | deleteStream name =>
    cases h
    exact .delete _
  | createRule rule =>
    change ruleRequest user rule = .ok request at h
    rw [ruleRequest, qualifyQuery] at h
    cases hq : qualifySource user (Text.words rule.sql) with
    | error r =>
      rw [hq] at h
      cases h
    | ok out =>
      rw [hq] at h
      cases h
      obtain ⟨before, source, after, hw, hb, rfl⟩ := qualifySource_eq_ok_iff.mp hq
      have hs : sourceOf? (Text.words rule.sql) = some source := by
        rw [hw, sourceOf?_append hb, List.head?_cons]
      rw [Task.names, hs]
      exact .rule _ _ _ _ _ hb

theorem spells_of_engine_mem {b : Behaviour} {settings : Settings} {token : String} {task : Task}
    {user : Identity} {request : EngineRequest} (hu : b.identify token = .ok user)
    (hr : .engine request ∈ (b.services.perform settings token task).calls) :
    Spells settings request (task.names user.id) :=
  Task.spells_request ((perform_course b settings token task).plan_of_engine_mem hu hr)

theorem Task.names_disjoint {u v : String} (hu : Canonical u) (hv : Canonical v) (hne : u ≠ v)
    (task other : Task) : (task.names u).Disjoint (other.names v) := by
  intro name hn hm
  obtain ⟨n, rfl⟩ := Task.exists_of_mem_names hn
  obtain ⟨m, h⟩ := Task.exists_of_mem_names hm
  obtain ⟨hc, -⟩ := (qualify_eq_qualify_iff hu.notMem_compact hv.notMem_compact).mp h
  exact hne (hu.compact_injective hv hc)

/-- Two users share a name only where one tag leads into the other. Without underscores that means
one compact form, and a foreign name is not shown as an own one. No request for one of two users
with identities of the usual form has a name in common with one for the other. -/
theorem users_are_isolated (u v : String) :
    ((∃ n m, qualify u n = qualify v m) ↔
      (tag u).toList <+: (tag v).toList ∨ (tag v).toList <+: (tag u).toList) ∧
    ('_' ∉ (compact u).toList → '_' ∉ (compact v).toList →
      (∀ n m, qualify u n = qualify v m ↔ compact u = compact v ∧ n = m) ∧
      (compact u ≠ compact v → ∀ m, unqualify u (qualify v m) = qualify v m)) ∧
    (Canonical u → Canonical v → u ≠ v →
      ∀ (b c : Behaviour) (settings : Settings) (token other : String) (user foreign : Identity)
        (task deed : Task) (request sent : EngineRequest),
        b.identify token = .ok user → user.id = u →
        c.identify other = .ok foreign → foreign.id = v →
        .engine request ∈ (b.services.perform settings token task).calls →
        .engine sent ∈ (c.services.perform settings other deed).calls →
        Spells settings request (task.names u) ∧ Spells settings sent (deed.names v) ∧
          (task.names u).Disjoint (deed.names v)) := by
  refine ⟨exists_qualify_eq_iff, ?_, ?_⟩
  · intro hu hv
    exact ⟨fun n m => qualify_eq_qualify_iff hu hv, unqualify_foreign hu hv⟩
  · intro hu hv hne b c settings token other user foreign task deed request sent
    rintro hi rfl hj rfl hr hs
    exact ⟨spells_of_engine_mem hi hr, spells_of_engine_mem hj hs,
      Task.names_disjoint hu hv hne task deed⟩

def Behaviour.granting (user : Identity) : Behaviour where
  identify _ := .ok user
  channel _ _ := .ok .null
  engine _ := .ok ⟨200, "", .ok []⟩

namespace Neighbours

def first : Identity := ⟨"00000000-0000-4000-8000-00000000000a", none⟩

def second : Identity := ⟨"00000000-0000-4000-8000-00000000000b", none⟩

def removal : Task := .deleteStream "rain"

def alarm : Task := .createRule ⟨"alarm", "select * from rain", [⟨"", 0, "c", "", "", ""⟩]⟩

theorem canonical_first : Canonical first.id :=
  ⟨["00000000".toList, "0000".toList, "4000".toList, "8000".toList, "00000000000a".toList],
    rfl, by decide, rfl⟩

theorem canonical_second : Canonical second.id :=
  ⟨["00000000".toList, "0000".toList, "4000".toList, "8000".toList, "00000000000b".toList],
    rfl, by decide, rfl⟩

theorem isolated :
    '_' ∉ (compact first.id).toList ∧ '_' ∉ (compact second.id).toList ∧
      (∀ m, unqualify first.id (qualify second.id m) = qualify second.id m) ∧
      Canonical first.id ∧ Canonical second.id ∧ first.id ≠ second.id ∧
      ∃ request sent,
        .engine request ∈ ((Behaviour.granting first).services.perform .usual "t" removal).calls ∧
        .engine sent ∈ ((Behaviour.granting second).services.perform .usual "s" alarm).calls ∧
        Spells .usual request ["0000000000004000800000000000000a_rain"] ∧
        Spells .usual sent
          ["0000000000004000800000000000000b_alarm", "0000000000004000800000000000000b_rain"] ∧
        (removal.names first.id).Disjoint (alarm.names second.id) := by
  obtain ⟨-, hforeign, hapart⟩ := users_are_isolated first.id second.id
  have hu : '_' ∉ (compact first.id).toList := canonical_first.notMem_compact
  have hv : '_' ∉ (compact second.id).toList := canonical_second.notMem_compact
  have hne : first.id ≠ second.id := by decide
  have hc : compact first.id ≠ compact second.id := fun h =>
    hne (canonical_first.compact_injective canonical_second h)
  have hr : .engine ⟨.delete, streamPath (qualify first.id "rain"), none⟩ ∈
      ((Behaviour.granting first).services.perform .usual "t" removal).calls :=
    .tail _ (.head _)
  have hs : .engine ⟨.post, "rules", _⟩ ∈
      ((Behaviour.granting second).services.perform .usual "s" alarm).calls :=
    .tail _ (.tail _ (.head _))
  obtain ⟨hremoval, halarm, hdisjoint⟩ := hapart canonical_first canonical_second hne
    (.granting first) (.granting second) .usual "t" "s" first second removal alarm _ _
    rfl rfl rfl rfl hr hs
  exact ⟨hu, hv, (hforeign hu hv).2 hc, canonical_first, canonical_second, hne, _, _, hr, hs,
    hremoval, halarm, hdisjoint⟩

end Neighbours

end TenantGateway
