import Mathlib.Data.List.Induction
import LiveTemplate.Command.Builtin
import LiveTemplate.Proofs.Text.Lowercase

/-!
# How a registry is built

A registry is built by registering handlers and by overriding default modes, in any order. Whatever
the order, what it says about a name depends on the latest handler and on the latest override among
those whose names have the same lowercase form. An override counts before there is a handler, and it
still counts when the handler is replaced. The names that are listed are the lowercase forms of the
handlers' names, each once and in increasing order.
-/

/-! ## Maps of entries -/

namespace LiveTemplate.Keyed

variable {κ α : Type} [DecidableEq κ] {key : κ} {entries : List (κ × α)}

theorem ofEntries_concat (entries : List (κ × α)) (entry : κ × α) :
    ofEntries (entries ++ [entry]) = (ofEntries entries).put entry.1 entry.2 := by
  rw [ofEntries, List.foldl_append]
  rfl

/-- The latest entry of a key decides about its value. -/
theorem get?_ofEntries (key : κ) (entries : List (κ × α)) :
    (ofEntries entries).get? key =
      (entries.filter fun entry ↦ entry.1 = key).getLast?.map Prod.snd := by
  induction entries using List.reverseRecOn with
  | nil => rfl
  | append_singleton entries entry ih =>
    rw [ofEntries_concat, get?_put, ih, List.filter_append]
    by_cases h : entry.1 = key
    · simp [h]
    · simp [h, Ne.symm h]

theorem mem_keys_ofEntries : key ∈ (ofEntries entries).keys ↔ key ∈ entries.map Prod.fst := by
  induction entries using List.reverseRecOn with
  | nil => rfl
  | append_singleton entries entry ih =>
    rw [ofEntries_concat, mem_keys_put, ih, List.map_append, List.mem_append]
    simp [or_comm]

theorem nodup_keys_ofEntries (entries : List (κ × α)) : (ofEntries entries).keys.Nodup := by
  induction entries using List.reverseRecOn with
  | nil => exact List.nodup_nil
  | append_singleton entries entry ih =>
    rw [ofEntries_concat]
    exact nodup_keys_put ih entry.1 entry.2

end LiveTemplate.Keyed

namespace LiveTemplate.Command

open Text (lowercase lowercase_lowercase)

variable {σ : Type}

/-! ## Steps -/

/-- A step in the building of a registry. -/
inductive Step (σ : Type) where
  | register (handler : Handler σ)
  | override (name : String) (isAsync : Bool)

namespace Registry

def take (registry : Registry σ) : Step σ → Registry σ
  | .register handler => registry.register handler
  | .override name isAsync => registry.setDefaultAsync name isAsync

def build (registry : Registry σ) (steps : List (Step σ)) : Registry σ := steps.foldl take registry

end Registry

def Step.handler? : Step σ → Option (Handler σ)
  | .register handler => some handler
  | .override _ _ => none

def Step.mode? : Step σ → Option (String × Bool)
  | .register _ => none
  | .override name isAsync => some (name, isAsync)

def registered (steps : List (Step σ)) : List (Handler σ) := steps.filterMap Step.handler?

def overridden (steps : List (Step σ)) : List (String × Bool) := steps.filterMap Step.mode?

theorem registered_append (steps others : List (Step σ)) :
    registered (steps ++ others) = registered steps ++ registered others :=
  List.filterMap_append

theorem overridden_append (steps others : List (Step σ)) :
    overridden (steps ++ others) = overridden steps ++ overridden others :=
  List.filterMap_append

theorem overridden_map_register (handlers : List (Handler σ)) :
    overridden (handlers.map .register) = [] := by
  rw [overridden, List.filterMap_map]
  exact List.filterMap_eq_nil_iff.2 fun _ _ ↦ rfl

/-- The latest handler among those whose names have the same lowercase form. -/
def latestHandler? (name : String) (steps : List (Step σ)) : Option (Handler σ) :=
  ((registered steps).filter fun handler ↦ lowercase handler.name = lowercase name).getLast?

/-- The latest override among those of names with the same lowercase form. -/
def latestMode? (name : String) (steps : List (Step σ)) : Option Bool :=
  ((overridden steps).filter fun mode ↦ lowercase mode.1 = lowercase name).getLast?.map Prod.snd

/-! ## What a registry has learned -/

/-- The entries of a registry that has been built by some steps. -/
structure Registry.Knows (registry : Registry σ) (steps : List (Step σ)) : Prop where
  handlers : registry.handlers =
    Keyed.ofEntries ((registered steps).map fun handler ↦ (lowercase handler.name, handler))
  overrides : registry.overrides =
    Keyed.ofEntries ((overridden steps).map fun mode ↦ (lowercase mode.1, mode.2))

namespace Registry

variable {registry : Registry σ} {steps : List (Step σ)} {name : String} {handler : Handler σ}

theorem knows_empty : (empty : Registry σ).Knows [] := ⟨rfl, rfl⟩

/-- A step adds one entry, and leaves the other map as it is. -/
theorem Knows.take (h : registry.Knows steps) (step : Step σ) :
    (registry.take step).Knows (steps ++ [step]) := by
  obtain ⟨hhandlers, hoverrides⟩ := h
  cases step with
  | register handler =>
    constructor
    case handlers =>
      have hregistered : registered [Step.register handler] = [handler] := rfl
      rw [registered_append, hregistered, List.map_append, List.map_singleton,
        Keyed.ofEntries_concat, ← hhandlers]
      rfl
    case overrides =>
      have hoverridden : overridden [Step.register handler] = [] := rfl
      rw [overridden_append, hoverridden, List.append_nil, ← hoverrides]
      rfl
  | override name isAsync =>
    constructor
    case handlers =>
      have hregistered : registered [(Step.override name isAsync : Step σ)] = [] := rfl
      rw [registered_append, hregistered, List.append_nil, ← hhandlers]
      rfl
    case overrides =>
      have hoverridden : overridden [(Step.override name isAsync : Step σ)] = [(name, isAsync)] := rfl
      rw [overridden_append, hoverridden, List.map_append, List.map_singleton,
        Keyed.ofEntries_concat, ← hoverrides]
      rfl

theorem Knows.build (h : registry.Knows steps) (others : List (Step σ)) :
    (registry.build others).Knows (steps ++ others) := by
  induction others generalizing registry steps with
  | nil =>
    rw [List.append_nil]
    exact h
  | cons step others ih =>
    have hnext := ih (h.take step)
    rwa [List.append_assoc] at hnext

/-! ## Queries -/

theorem Knows.get?_handlers (h : registry.Knows steps) (name : String) :
    registry.handlers.get? (lowercase name) = latestHandler? name steps := by
  rw [h.handlers, Keyed.get?_ofEntries, List.filter_map, List.getLast?_map, Option.map_map]
  exact Option.map_id'

theorem Knows.get?_overrides (h : registry.Knows steps) (name : String) :
    registry.overrides.get? (lowercase name) = latestMode? name steps := by
  rw [h.overrides, Keyed.get?_ofEntries, List.filter_map, List.getLast?_map, Option.map_map]
  rfl

theorem Knows.resolve_some (h : registry.Knows steps)
    (hlatest : latestHandler? name steps = some handler) :
    registry.resolve name = .ok handler := by
  rw [resolve, h.get?_handlers, hlatest]

theorem Knows.resolve_none (h : registry.Knows steps) (hlatest : latestHandler? name steps = none) :
    registry.resolve name = .error (.notFound name) := by
  rw [resolve, h.get?_handlers, hlatest]

theorem Knows.defaultAsync_eq (h : registry.Knows steps) (name : String) :
    registry.defaultAsync name =
      ((latestMode? name steps).or
        ((latestHandler? name steps).map Handler.defaultAsync)).getD false := by
  rw [defaultAsync, h.get?_overrides, h.get?_handlers]
  cases latestMode? name steps <;> rfl

/-- An override does not look at the handlers. -/
theorem Knows.defaultAsync_of_mode (h : registry.Knows steps) {isAsync : Bool}
    (hmode : latestMode? name steps = some isAsync) : registry.defaultAsync name = isAsync := by
  rw [h.defaultAsync_eq, hmode]
  rfl

/-! ## Lists of names -/

theorem mem_list : name ∈ registry.list ↔ name ∈ registry.handlers.keys :=
  (List.mergeSort_perm _ _).mem_iff

theorem length_list (registry : Registry σ) : registry.list.length = registry.size := by
  rw [list, List.length_mergeSort, Keyed.keys, List.length_map, size]

theorem nodup_list (h : registry.handlers.keys.Nodup) : registry.list.Nodup :=
  (List.mergeSort_perm _ _).nodup_iff.2 h

theorem pairwise_list (h : registry.handlers.keys.Nodup) : registry.list.Pairwise (· < ·) := by
  have hsorted : registry.list.Pairwise fun a b ↦ decide (a ≤ b) = true := by
    apply List.pairwise_mergeSort
    · intro a b c hab hbc
      exact decide_eq_true (String.le_trans (of_decide_eq_true hab) (of_decide_eq_true hbc))
    · intro a b
      simpa using String.le_total a b
  refine (hsorted.and (nodup_list h)).imp fun hab ↦ ?_
  exact Std.lt_of_le_of_ne (of_decide_eq_true hab.1) hab.2

theorem Knows.nodup_keys (h : registry.Knows steps) : registry.handlers.keys.Nodup := by
  rw [h.handlers]
  exact Keyed.nodup_keys_ofEntries _

theorem Knows.mem_list_iff (h : registry.Knows steps) :
    name ∈ registry.list ↔ ∃ handler ∈ registered steps, lowercase handler.name = name := by
  rw [mem_list, h.handlers, Keyed.mem_keys_ofEntries, List.map_map, List.mem_map]
  rfl

/-- What is listed is in lowercase already, and so is found under the name by which it is listed. -/
theorem Knows.exists_resolve (h : registry.Knows steps) (hname : name ∈ registry.list) :
    ∃ handler, registry.resolve name = .ok handler := by
  obtain ⟨handler, hhandler, rfl⟩ := h.mem_list_iff.1 hname
  have hmem : handler ∈ (registered steps).filter fun other ↦
      lowercase other.name = lowercase (lowercase handler.name) := by
    rw [List.mem_filter, lowercase_lowercase]
    exact ⟨hhandler, decide_eq_true rfl⟩
  obtain ⟨latest, hlatest⟩ :=
    Option.isSome_iff_exists.1 (List.getLast?_isSome.2 (List.ne_nil_of_mem hmem))
  exact ⟨latest, h.resolve_some hlatest⟩

end Registry

/-! ## Where a registry comes from -/

/-- A registry before it is built up. -/
inductive Origin (σ : Type) where
  | empty
  | builtin (outside : Outside σ) (surroundings : Surroundings) (config : Config)

namespace Origin

def registry : Origin σ → Registry σ
  | .empty => .empty
  | .builtin outside surroundings config => .builtin outside surroundings config

def steps : Origin σ → List (Step σ)
  | .empty => []
  | .builtin outside surroundings config =>
    [.register (clockHandler outside),
      .register (shellHandler outside (config.resolveShell surroundings))] ++
        config.asyncDefaults.map fun mode ↦ .override mode.1 mode.2

theorem knows_registry (origin : Origin σ) : origin.registry.Knows origin.steps := by
  cases origin with
  | empty => exact Registry.knows_empty
  | builtin outside surroundings config =>
    have hbuilt := Registry.knows_empty.build (Origin.builtin outside surroundings config).steps
    have hregistry : Registry.empty.build (Origin.builtin outside surroundings config).steps =
        (Origin.builtin outside surroundings config).registry := by
      simp only [Registry.build, steps, List.foldl_append, List.foldl_map]
      rfl
    rwa [hregistry] at hbuilt

end Origin

/-- However a registry has been built, from nothing or from the built-in commands: a name stands for
the latest handler of its lowercase form, its mode is that of the latest override and else that of
the handler, and the names that are listed are the lowercase forms of the handlers' names. -/
theorem registry_knows_latest (origin : Origin σ) (steps : List (Step σ)) :
    let registry := origin.registry.build steps
    let taken := origin.steps ++ steps
    (∀ name handler, latestHandler? name taken = some handler →
      registry.resolve name = .ok handler ∧
        ∀ param, registry.bind name param = .call handler param) ∧
    (∀ name, latestHandler? name taken = none →
      registry.resolve name = .error (.notFound name) ∧
        ∀ param, registry.bind name param = .invalid name) ∧
    (∀ name, registry.defaultAsync name =
      ((latestMode? name taken).or
        ((latestHandler? name taken).map Handler.defaultAsync)).getD false) ∧
    (∀ name isAsync, latestMode? name taken = some isAsync →
      ∀ others : List (Handler σ),
        (registry.build (others.map .register)).defaultAsync name = isAsync) ∧
    registry.list.Pairwise (· < ·) ∧ registry.list.Nodup ∧
    registry.list.length = registry.size ∧
    (∀ name, name ∈ registry.list ↔
      ∃ handler ∈ registered taken, lowercase handler.name = name) ∧
    ∀ name ∈ registry.list, ∃ handler, registry.resolve name = .ok handler := by
  intro registry taken
  have hknows : registry.Knows taken := origin.knows_registry.build steps
  refine ⟨fun name handler hlatest ↦ ?_, fun name hlatest ↦ ?_, hknows.defaultAsync_eq, ?_,
    Registry.pairwise_list hknows.nodup_keys, Registry.nodup_list hknows.nodup_keys,
    Registry.length_list registry, fun name ↦ hknows.mem_list_iff,
    fun name ↦ hknows.exists_resolve⟩
  · have hresolve := hknows.resolve_some hlatest
    exact ⟨hresolve, fun param ↦ by rw [Registry.bind, hresolve]⟩
  · have hresolve := hknows.resolve_none hlatest
    exact ⟨hresolve, fun param ↦ by rw [Registry.bind, hresolve]⟩
  · intro name isAsync hmode others
    apply (hknows.build (others.map .register)).defaultAsync_of_mode
    rw [latestMode?, overridden_append, overridden_map_register, List.append_nil]
    exact hmode

/-- A handler of a given name that answers with its parameter. -/
def echoAs (name : String) : Handler Unit := .plain name fun param world ↦ (.text param, world)

/-- An override that precedes two handlers, whose names are two forms of one name. -/
def dotted : List (Step Unit) :=
  [.override "İ" true, .register (echoAs "i̇"), .register (echoAs "İ")]

/-- The second handler has replaced the first one, under both forms; the override still counts, also
when yet another handler comes. -/
theorem dotted_known :
    let registry := (Origin.empty : Origin Unit).registry.build dotted
    registry.resolve "i̇" = .ok (echoAs "İ") ∧
      registry.bind "İ" "x" = .call (echoAs "İ") "x" ∧
      registry.resolve "I" = .error (.notFound "I") ∧
      (registry.build ([echoAs "İ"].map .register)).defaultAsync "i̇" = true ∧
      "i̇" ∈ registry.list ∧ ∃ handler, registry.resolve "i̇" = .ok handler := by
  intro registry
  obtain ⟨hknown, hunknown, -, hmode, -, -, -, hlist, hlisted⟩ :=
    registry_knows_latest (Origin.empty : Origin Unit) dotted
  have hregistered : registered dotted = [echoAs "i̇", echoAs "İ"] := rfl
  have hoverridden : overridden dotted = [("İ", true)] := rfl
  have hname (name : String) : (echoAs name).name = name := rfl
  have hdotted : lowercase "İ" = "i̇" ∧ lowercase "i̇" = "i̇" := by decide +kernel
  have hplain : lowercase "I" = "i" := by decide +kernel
  have hlatest (name : String) (hname' : lowercase name = "i̇") :
      latestHandler? name dotted = some (echoAs "İ") := by
    simp [latestHandler?, hregistered, hname, hdotted, hname']
  have hnone : latestHandler? "I" dotted = none := by
    simp [latestHandler?, hregistered, hname, hdotted, hplain]
  have hlatestMode : latestMode? "i̇" dotted = some true := by
    simp [latestMode?, hoverridden, hdotted]
  have hmem : "i̇" ∈ registry.list :=
    (hlist "i̇").2 ⟨echoAs "İ", List.mem_cons_of_mem _ List.mem_cons_self, hdotted.1⟩
  exact ⟨(hknown "i̇" _ (hlatest "i̇" hdotted.2)).1, (hknown "İ" _ (hlatest "İ" hdotted.1)).2 "x",
    (hunknown "I" hnone).1, hmode "i̇" true hlatestMode _, hmem, hlisted "i̇" hmem⟩

end LiveTemplate.Command
