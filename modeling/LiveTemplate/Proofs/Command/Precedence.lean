import Mathlib.Data.List.Perm.Basic
import LiveTemplate.Proofs.Command.Building
import LiveTemplate.Refresh.Value

/-!
# Precedence among configured modes

The configuration names modes in a table, and a table has no order. Its entries are put into the
registry one after the other under the lowercase forms of their names, so that among entries with one
lowercase form the one that happens to come last decides. The order does not show if and only if such
entries agree; where they do not, each of them can be the one that decides.
-/

namespace LiveTemplate.Command

open Text (lowercase)

variable {σ : Type} {name : String} {modes others : List (String × Bool)}

/-! ## Entries for a name -/

/-- The entries for a name, in whichever form of it. -/
def entriesFor (name : String) (modes : List (String × Bool)) : List (String × Bool) :=
  modes.filter fun mode ↦ lowercase mode.1 = lowercase name

/-- Entries for the same name say the same. -/
def Config.IsConsistent (config : Config) : Prop :=
  ∀ first ∈ config.asyncDefaults, ∀ second ∈ config.asyncDefaults,
    lowercase first.1 = lowercase second.1 → first.2 = second.2

theorem mem_entriesFor {mode : String × Bool} :
    mode ∈ entriesFor name modes ↔ mode ∈ modes ∧ lowercase mode.1 = lowercase name := by
  rw [entriesFor, List.mem_filter, decide_eq_true_eq]

theorem perm_entriesFor (h : modes.Perm others) (name : String) :
    (entriesFor name modes).Perm (entriesFor name others) :=
  h.filter _

/-- The last of some values that are all equal does not depend on their order. -/
theorem map_getLast?_of_perm {α β : Type} {f : α → β} {items permuted : List α}
    (h : items.Perm permuted) (hequal : ∀ a ∈ items, ∀ b ∈ items, f a = f b) :
    items.getLast?.map f = permuted.getLast?.map f := by
  cases hitem : items.getLast? with
  | none =>
    obtain rfl := List.getLast?_eq_none_iff.1 hitem
    rw [h.nil_eq.symm]
    rfl
  | some a =>
    have ha : a ∈ items := List.mem_of_getLast? hitem
    have hne : permuted ≠ [] := List.ne_nil_of_mem (h.mem_iff.1 ha)
    obtain ⟨b, hlast⟩ := Option.isSome_iff_exists.1 (List.getLast?_isSome.2 hne)
    have hb : b ∈ items := h.mem_iff.2 (List.mem_of_getLast? hlast)
    rw [hlast, Option.map_some, Option.map_some, hequal a ha b hb]

/-- Every entry comes last in some order. -/
theorem exists_perm_concat {mode : String × Bool} (h : mode ∈ modes) :
    ∃ before, (before ++ [mode]).Perm modes := by
  obtain ⟨early, late, rfl⟩ := List.append_of_mem h
  refine ⟨early ++ late, ?_⟩
  rw [List.append_assoc]
  exact (List.perm_append_singleton mode late).append_left early

/-! ## The registry of a configuration -/

namespace Registry

variable {outside : Outside σ} {surroundings : Surroundings} {config : Config}

theorem handlers_setDefaults (registry : Registry σ) (modes : List (String × Bool)) :
    (registry.setDefaults modes).handlers = registry.handlers := by
  induction modes generalizing registry with
  | nil => rfl
  | cons mode modes ih => exact ih (registry.setDefaultAsync mode.1 mode.2)

/-- The modes have no part in which command a name stands for. -/
theorem handlers_builtin (modes others : List (String × Bool)) :
    (builtin outside surroundings { config with asyncDefaults := modes }).handlers =
      (builtin outside surroundings { config with asyncDefaults := others }).handlers := by
  rw [builtin, builtin, handlers_setDefaults, handlers_setDefaults]
  rfl

/-- The last entry for a name decides, and the handler's own mode if there is none. -/
theorem defaultAsync_builtin (name : String) :
    (builtin outside surroundings config).defaultAsync name =
      (((entriesFor name config.asyncDefaults).getLast?.map Prod.snd).or
        (((builtin outside surroundings config).handlers.get? (lowercase name)).map
          Handler.defaultAsync)).getD false := by
  let origin := Origin.builtin outside surroundings config
  have hknows : (builtin outside surroundings config).Knows origin.steps := origin.knows_registry
  have hoverridden : overridden origin.steps = config.asyncDefaults := by
    have hmodes : overridden (config.asyncDefaults.map fun mode ↦
        (Step.override mode.1 mode.2 : Step σ)) = config.asyncDefaults := by
      rw [overridden, List.filterMap_map]
      exact List.filterMap_some
    rw [← hmodes]
    rfl
  rw [hknows.defaultAsync_eq, ← hknows.get?_handlers, latestMode?, hoverridden]
  rfl

/-- Where the entries for a name agree, their order makes no difference to its mode. -/
theorem defaultAsync_builtin_of_perm (h : modes.Perm others)
    (hequal : ∀ first ∈ entriesFor name modes, ∀ second ∈ entriesFor name modes,
      first.2 = second.2) :
    (builtin outside surroundings { config with asyncDefaults := modes }).defaultAsync name =
      (builtin outside surroundings { config with asyncDefaults := others }).defaultAsync name := by
  rw [defaultAsync_builtin, defaultAsync_builtin, handlers_builtin modes others,
    map_getLast?_of_perm (perm_entriesFor h name) hequal]

/-- An entry that comes last decides about its name. -/
theorem defaultAsync_builtin_concat (before : List (String × Bool)) (mode : String × Bool) :
    (builtin outside surroundings { config with asyncDefaults := before ++ [mode] }).defaultAsync
      mode.1 = mode.2 := by
  have hlast : (entriesFor mode.1 (before ++ [mode])).getLast? = some mode := by
    simp [entriesFor]
  rw [defaultAsync_builtin, hlast]
  rfl

/-- What a directive comes to depends on the modes only by the mode of its name. -/
theorem resolve_builtin_congr (d : Directive.Descriptor) (floor : Duration)
    (h : (builtin outside surroundings { config with asyncDefaults := modes }).defaultAsync
        d.command =
      (builtin outside surroundings { config with asyncDefaults := others }).defaultAsync
        d.command) :
    Refresh.resolve (builtin outside surroundings { config with asyncDefaults := modes }) floor d =
      Refresh.resolve (builtin outside surroundings { config with asyncDefaults := others })
        floor d := by
  rw [Refresh.resolve, Refresh.resolve, h, bind, bind, Registry.resolve, Registry.resolve,
    handlers_builtin modes others]

end Registry

/-! ## The order of the entries -/

/-- The registry does not depend on the order in which the configured modes are gone through if and
only if the entries for one name agree; then neither does anything that a directive comes to. Of
entries that do not agree each one decides in some order. -/
theorem order_irrelevant_iff_consistent (outside : Outside σ)
    (surroundings : Surroundings) (config : Config) :
    let built (modes : List (String × Bool)) : Registry σ :=
      .builtin outside surroundings { config with asyncDefaults := modes }
    (config.IsConsistent ↔ ∀ modes others : List (String × Bool),
      modes.Perm config.asyncDefaults → others.Perm config.asyncDefaults →
      ∀ name, (built modes).defaultAsync name = (built others).defaultAsync name) ∧
    (config.IsConsistent → ∀ modes others : List (String × Bool),
      modes.Perm config.asyncDefaults → others.Perm config.asyncDefaults →
      ∀ floor d, Refresh.resolve (built modes) floor d = Refresh.resolve (built others) floor d) ∧
    ∀ mode ∈ config.asyncDefaults, ∃ modes, modes.Perm config.asyncDefaults ∧
      (built modes).defaultAsync mode.1 = mode.2 := by
  intro built
  have hdecides : ∀ mode ∈ config.asyncDefaults, ∃ modes, modes.Perm config.asyncDefaults ∧
      (built modes).defaultAsync mode.1 = mode.2 := by
    intro mode hmode
    obtain ⟨before, hperm⟩ := exists_perm_concat hmode
    exact ⟨_, hperm, Registry.defaultAsync_builtin_concat before mode⟩
  have hagrees (hconsistent : config.IsConsistent) (modes others : List (String × Bool))
      (hmodes : modes.Perm config.asyncDefaults) (hothers : others.Perm config.asyncDefaults)
      (name : String) : (built modes).defaultAsync name = (built others).defaultAsync name := by
    apply Registry.defaultAsync_builtin_of_perm (hmodes.trans hothers.symm)
    intro first hfirst second hsecond
    obtain ⟨hfirst, hname⟩ := mem_entriesFor.1 hfirst
    obtain ⟨hsecond, hname'⟩ := mem_entriesFor.1 hsecond
    exact hconsistent first (hmodes.mem_iff.1 hfirst) second (hmodes.mem_iff.1 hsecond)
      (hname.trans hname'.symm)
  refine ⟨⟨hagrees, ?_⟩, ?_, hdecides⟩
  · intro horders first hfirst second hsecond hname
    obtain ⟨modes, hmodes, hfirst⟩ := hdecides first hfirst
    obtain ⟨others, hothers, hsecond⟩ := hdecides second hsecond
    have hsame : (built others).defaultAsync first.1 = (built others).defaultAsync second.1 := by
      rw [Registry.defaultAsync, Registry.defaultAsync, hname]
    calc
      first.2 = (built modes).defaultAsync first.1 := hfirst.symm
      _ = (built others).defaultAsync first.1 := horders modes others hmodes hothers first.1
      _ = second.2 := by rw [hsame, hsecond]
  · intro hconsistent modes others hmodes hothers floor d
    apply Registry.resolve_builtin_congr
    exact hagrees hconsistent modes others hmodes hothers d.command

def nowhere : Surroundings := ⟨fun _ ↦ none, fun _ ↦ none, fun _ ↦ false⟩

/-- A clock that stands still, and no programs. -/
def epoch : Outside Unit where
  moment := fun _ ↦ ⟨0, 0, .universal⟩
  start := fun _ _ world ↦ (.error .notFound, world)

/-- A configuration in which two forms of one name agree, beside another name. -/
def agreed : Config := { asyncDefaults := [("SH", false), ("dt", true), ("sh", false)] }

/-- It says the same when it is read from its end. -/
theorem agreed_reversed :
    agreed.IsConsistent ∧
      (Registry.builtin epoch nowhere
        { agreed with asyncDefaults := agreed.asyncDefaults.reverse }).defaultAsync "Sh" =
        (Registry.builtin epoch nowhere agreed).defaultAsync "Sh" := by
  have hlower : lowercase "SH" = "sh" ∧ lowercase "dt" = "dt" ∧ lowercase "sh" = "sh" := by
    decide +kernel
  have hconsistent : agreed.IsConsistent := by
    simp [Config.IsConsistent, agreed, hlower]
  obtain ⟨hiff, -, -⟩ := order_irrelevant_iff_consistent epoch nowhere agreed
  exact ⟨hconsistent, hiff.1 hconsistent _ _ (List.reverse_perm _) (.refl _) "Sh"⟩

/-- Two entries with different keys and one lowercase form, which contradict each other. -/
def contested : List (String × Bool) := [("SH", true), ("sh", false)]

/-- Read in one order and in the other, they come to different modes. -/
theorem contested_depends_on_order :
    ¬ ∀ config : Config, config.asyncDefaults.keys.Nodup →
      ∀ modes others : List (String × Bool),
        modes.Perm config.asyncDefaults → others.Perm config.asyncDefaults →
        ∀ name, (Registry.builtin epoch nowhere
            { config with asyncDefaults := modes }).defaultAsync name =
          (Registry.builtin epoch nowhere
            { config with asyncDefaults := others }).defaultAsync name := by
  intro hall
  have hdistinct : (Keyed.keys contested).Nodup := by decide
  have hequal := hall { asyncDefaults := contested } hdistinct contested contested.reverse
    (.refl _) (List.reverse_perm _) "sh"
  have hlower : (Registry.builtin epoch nowhere { asyncDefaults := contested }).defaultAsync "sh" =
      false := by
    decide +kernel
  have hupper : (Registry.builtin epoch nowhere
      { asyncDefaults := contested.reverse }).defaultAsync "sh" = true := by
    decide +kernel
  rw [hlower, hupper] at hequal
  contradiction

end LiveTemplate.Command
