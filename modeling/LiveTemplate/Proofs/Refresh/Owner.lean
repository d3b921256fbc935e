import LiveTemplate.Proofs.Refresh.Layout

/-!
# What the owner does

The owner of a list performs one operation after the other. Tasks and workers take steps between
any two changes that an operation makes, and between two operations, and the clock goes on. An
operation returns after the last of its changes, unless the renderer panics on a text that the
operation itself has to show: then it gets no further than this text, and the owner may go on with
another operation. An owner that goes away clears the list before it does.
-/

namespace LiveTemplate.Refresh

variable {σ : Type}

/-- An operation that the owner begins, and whether it returns. -/
structure Deed (σ : Type) where
  operation : Operation σ
  returns : Bool

/-- An operation that returns. -/
def Deed.whole (operation : Operation σ) : Deed σ := ⟨operation, true⟩

/-- The changes that an operation makes when it is begun in a state. One that does not return ends
with a text without directives, at which the renderer panics. -/
def Deed.Makes (s : State σ) (deed : Deed σ) (made : List (Change σ)) : Prop :=
  if deed.returns = true then made = deed.operation.changes s
  else
    made <+: deed.operation.changes s ∧
      ∃ earlier index raw, made = earlier ++ [.place index raw] ∧ Directive.parse raw = []

/-- The states in which the owner has performed some operations and has begun no other. -/
inductive Performed (start : State σ) : List (Deed σ) → State σ → Prop
  | nothing : Performed start [] start
  | meanwhile {deeds : List (Deed σ)} {s : State σ} {label : Label σ}
      (before : Performed start deeds s) (other : label.change? = none) :
      Performed start deeds (s.step label)
  | deed {deeds : List (Deed σ)} {s : State σ} {deed : Deed σ} {labels : List (Label σ)}
      (before : Performed start deeds s) (makes : deed.Makes s (changesOf labels)) :
      Performed start (deeds ++ [deed]) (s.run labels)

variable {start s : State σ} {deeds : List (Deed σ)}

namespace Performed

/-- An operation may be performed without anything else happening meanwhile. -/
theorem operate (h : Performed start deeds s) (operation : Operation σ) :
    Performed start (deeds ++ [.whole operation]) (s.operate operation) := by
  have hmakes : (Deed.whole operation).Makes s
      (changesOf ((operation.changes s).map Label.change)) := by
    have hchange : Label.change? ∘ Label.change = (some : Change σ → Option (Change σ)) := by
      funext change
      rfl
    calc
      changesOf ((operation.changes s).map Label.change) =
          (operation.changes s).filterMap (Label.change? ∘ Label.change) := List.filterMap_map
      _ = operation.changes s := by rw [hchange, List.filterMap_some]
  rw [← State.run_changes]
  exact .deed h hmakes

/-- What the owner brings about, a run brings about. -/
theorem exists_run (h : Performed start deeds s) : ∃ labels, s = start.run labels := by
  induction h with
  | nothing => exact ⟨[], rfl⟩
  | @meanwhile deeds s label before other ih =>
    obtain ⟨labels, rfl⟩ := ih
    exact ⟨labels ++ [label], (State.run_append start labels [label]).symm⟩
  | @deed deeds s deed during before makes ih =>
    obtain ⟨labels, rfl⟩ := ih
    exact ⟨labels ++ during, (State.run_append start labels during).symm⟩

theorem kept (hstart : Kept start) (h : Performed start deeds s) : Kept s := by
  obtain ⟨labels, rfl⟩ := h.exists_run
  exact hstart.run labels

/-- Operations that return are carried out on the layout one after the other. -/
theorem layout (hstart : Kept start) (h : Performed start deeds s)
    (hreturns : ∀ deed ∈ deeds, deed.returns = true) :
    s.layout = (deeds.map Deed.operation).foldl Layout.operate start.layout := by
  induction h with
  | nothing => rfl
  | meanwhile before other ih => rw [State.layout_step _ other, ih hreturns]
  | @deed deeds s deed during before makes ih =>
    have hmade : changesOf during = deed.operation.changes s := by
      simpa [Deed.Makes, hreturns deed (by simp)] using makes
    have hbefore := ih fun earlier hearlier ↦ hreturns earlier (by simp [hearlier])
    calc
      (s.run during).layout = (changesOf during).foldl Layout.change s.layout :=
        State.layout_run (before.kept hstart) during
      _ = s.layout.operate deed.operation := by rw [hmade, State.foldl_changes]
      _ = ((deeds ++ [deed]).map Deed.operation).foldl Layout.operate start.layout := by
        rw [hbefore, List.map_append, List.foldl_append]
        rfl

end Performed

end LiveTemplate.Refresh
