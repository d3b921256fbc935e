/-!
# Keyed lists

A finite map as a list of entries, each key at most once. Putting an entry replaces the entry of its
key; the order of entries carries no meaning.
-/

namespace LiveTemplate

/-- A finite map from keys to values. -/
abbrev Keyed (κ α : Type) := List (κ × α)

namespace Keyed

variable {κ α : Type} [DecidableEq κ]

def get? (entries : Keyed κ α) (key : κ) : Option α :=
  (entries.find? fun entry ↦ entry.1 = key).map Prod.snd

/-- Gives a key a value, in place of the one it had. -/
def put (entries : Keyed κ α) (key : κ) (value : α) : Keyed κ α :=
  (key, value) :: entries.filter fun entry ↦ entry.1 ≠ key

def keys (entries : Keyed κ α) : List κ := entries.map Prod.fst

/-- A map of the given entries, where a later entry of a key replaces an earlier one. -/
def ofEntries (entries : List (κ × α)) : Keyed κ α :=
  entries.foldl (fun map entry ↦ map.put entry.1 entry.2) []

@[simp] theorem get?_nil (key : κ) : get? ([] : Keyed κ α) key = none := rfl

theorem get?_put_self (entries : Keyed κ α) (key : κ) (value : α) :
    (entries.put key value).get? key = some value := by
  simp [get?, put]

theorem get?_put_of_ne (entries : Keyed κ α) {key other : κ} (value : α) (h : other ≠ key) :
    (entries.put key value).get? other = entries.get? other := by
  have hne : ¬(key = other) := fun e ↦ h e.symm
  simp only [get?, put, List.find?_cons, hne, decide_false]
  congr 1
  rw [List.find?_filter]
  congr 1
  funext entry
  by_cases he : entry.1 = other <;> simp_all

/-- The value of a key after an entry has been put. -/
theorem get?_put (entries : Keyed κ α) (key other : κ) (value : α) :
    (entries.put key value).get? other =
      if other = key then some value else entries.get? other := by
  split
  · next h => rw [h, get?_put_self]
  · next h => exact get?_put_of_ne entries value h

/-- The value of a key after all values have been mapped. -/
theorem get?_map {β : Type} (f : α → β) (entries : Keyed κ α) (key : κ) :
    get? (entries.map fun entry ↦ (entry.1, f entry.2)) key = (entries.get? key).map f := by
  simp only [get?, List.find?_map, Option.map_map]
  rfl

theorem mem_keys_put {entries : Keyed κ α} {key other : κ} {value : α} :
    other ∈ (entries.put key value).keys ↔ other = key ∨ other ∈ entries.keys := by
  by_cases h : other = key
  · simp [put, keys, h]
  · simp only [put, keys, List.map_cons, List.mem_cons, h, false_or, List.mem_map, List.mem_filter,
      decide_eq_true_eq, ne_eq]
    exact ⟨fun ⟨e, he, hk⟩ ↦ ⟨e, he.1, hk⟩, fun ⟨e, he, hk⟩ ↦ ⟨e, ⟨he, hk ▸ h⟩, hk⟩⟩

theorem nodup_keys_put {entries : Keyed κ α} (h : entries.keys.Nodup) (key : κ) (value : α) :
    (entries.put key value).keys.Nodup := by
  simp only [put, keys, List.map_cons, List.nodup_cons, List.mem_map, List.mem_filter,
    decide_eq_true_eq, ne_eq, not_exists, not_and]
  exact ⟨fun e he ↦ he.2, h.sublist ((List.filter_sublist (l := entries)).map Prod.fst)⟩

end Keyed

end LiveTemplate
