import Mathlib.Data.List.Destutter
import LiveTemplate.Proofs.Display.LastLine

/-!
# Histories without stutters

When no flush fails, the lines on a terminal are a history of what has been shown: the calls in their
order, without those that have failed, and without those that repeat the text before them of the same
element. A call that has failed is left out as if it had not been made, so that the same text is
written when it comes again. Calls for other elements make no difference.
-/

namespace LiveTemplate.Display

/-! ## Calls that remain -/

/-- The text of the last call for an element. -/
def previous? (element : Nat) (kept : List Call) : Option String :=
  (kept.filter (·.element = element)).getLast?.map Call.text

/-- Adds a call to those that remain, unless it repeats the text before it of its element. -/
def keep (kept : List Call) (call : Call) : List Call :=
  if previous? call.element kept = some call.text then kept else kept ++ [call]

/-- The calls that remain when each is left out that repeats the text before it of its element, among
those that remain. -/
def stutterFree (calls : List Call) : List Call := calls.foldl keep []

/-- The calls in which a line can be written. -/
def succeeded (calls : List Call) : List Call := calls.filter (·.fault ≠ .write)

def textsFor (element : Nat) (calls : List Call) : List String :=
  (calls.filter (·.element = element)).map Call.text

variable {calls kept : List Call} {call : Call} {element : Nat}

theorem stutterFree_concat (calls : List Call) (call : Call) :
    stutterFree (calls ++ [call]) = keep (stutterFree calls) call :=
  List.foldl_append

theorem succeeded_concat (calls : List Call) (call : Call) :
    succeeded (calls ++ [call]) =
      succeeded calls ++ if call.fault = .write then [] else [call] := by
  by_cases h : call.fault = .write <;> simp [succeeded, h]

theorem textsFor_concat (element : Nat) (calls : List Call) (call : Call) :
    textsFor element (calls ++ [call]) =
      textsFor element calls ++ if call.element = element then [call.text] else [] := by
  by_cases h : call.element = element <;> simp [textsFor, h]

theorem previous?_eq_getLast? (element : Nat) (kept : List Call) :
    previous? element kept = (textsFor element kept).getLast? :=
  List.getLast?_map.symm

/-- Whether or not a call is kept, its text is the last one of its element afterwards. -/
theorem previous?_keep (element : Nat) (kept : List Call) (call : Call) :
    previous? element (keep kept call) =
      if call.element = element then some call.text else previous? element kept := by
  rw [keep]
  split
  case isTrue hrepeated =>
    split
    case isTrue helement => rw [← helement, hrepeated]
    case isFalse helement => rfl
  case isFalse hnew =>
    rw [previous?_eq_getLast?, previous?_eq_getLast?, textsFor_concat]
    split
    case isTrue helement => rw [List.getLast?_concat]
    case isFalse helement => rw [List.append_nil]

theorem stutterFree_sublist (calls : List Call) : (stutterFree calls).Sublist calls := by
  induction calls using List.reverseRecOn with
  | nil => exact List.Sublist.refl []
  | append_singleton calls call ih =>
    rw [stutterFree_concat, keep]
    split
    · exact ih.trans (List.sublist_append_left calls [call])
    · exact ih.append_right [call]

/-- A value at the end of a list stutters if it is the last one that is left of the others. -/
theorem destutter_concat {α : Type} [DecidableEq α] (l : List α) (a : α) :
    (l ++ [a]).destutter (· ≠ ·) =
      if (l.destutter (· ≠ ·)).getLast? = some a then l.destutter (· ≠ ·)
      else l.destutter (· ≠ ·) ++ [a] := by
  have hfrom (first : α) (l : List α) :
      (l ++ [a]).destutter' (· ≠ ·) first =
        if (l.destutter' (· ≠ ·) first).getLast? = some a then l.destutter' (· ≠ ·) first
        else l.destutter' (· ≠ ·) first ++ [a] := by
    induction l generalizing first with
    | nil => by_cases h : first = a <;> simp [h]
    | cons b l ih =>
      rw [List.cons_append, List.destutter'_cons, List.destutter'_cons]
      split
      · -- The list that is left is not empty, so that its last member is that of the whole.
        have hlast : (first :: l.destutter' (· ≠ ·) b).getLast? =
            (l.destutter' (· ≠ ·) b).getLast? := by
          have hne := l.destutter'_ne_nil (· ≠ ·) (a := b)
          rw [List.getLast?_cons, List.getLast?_eq_getLast_of_ne_nil hne]
          rfl
        rw [hlast, ih b, List.cons_append, apply_ite (List.cons first)]
      · exact ih first
  cases l with
  | nil => rfl
  | cons first l => exact hfrom first l

/-! ## What is written -/

namespace Terminal

def lines (calls : List Call) : List String := (displayAll {} calls).filterMap id

theorem lines_concat (calls : List Call) (call : Call) :
    lines (calls ++ [call]) = lines calls ++ ((ofCalls calls).written? call).toList := by
  rw [lines, displayAll_concat, List.filterMap_append]
  refine congrArg (lines calls ++ ·) ?_
  show [(ofCalls calls).written? call].filterMap id = _
  cases (ofCalls calls).written? call <;> rfl

theorem isRepeated_ofCalls (calls : List Call) (call : Call) :
    (ofCalls calls).isRepeated call = decide (remembered? call.element calls = some call.text) :=
  rfl

/-- When no flush fails, what is remembered of an element is its text among the calls that remain. -/
theorem remembered?_eq_previous? (element : Nat) (h : ∀ call ∈ calls, call.fault ≠ .flush) :
    remembered? element calls = previous? element (stutterFree (succeeded calls)) := by
  induction calls using List.reverseRecOn with
  | nil => rfl
  | append_singleton calls call ih =>
    obtain ⟨hcalls, hcall⟩ := List.forall_mem_append.1 h
    have hflush : call.fault ≠ .flush := hcall call List.mem_cons_self
    rw [remembered?_concat, succeeded_concat, ih hcalls]
    cases hfault : call.fault with
    | none =>
      have hsucceeded : Fault.none ≠ .write := by decide
      rw [if_neg hsucceeded, stutterFree_concat, previous?_keep]
      simp only [and_true]
    | write => simp
    | flush => contradiction

/-- When no flush fails, the lines are those of the calls that remain. -/
theorem lines_eq_map (h : ∀ call ∈ calls, call.fault ≠ .flush) :
    lines calls =
      (stutterFree (succeeded calls)).map fun call ↦ lineOf call.element call.text := by
  induction calls using List.reverseRecOn with
  | nil => rfl
  | append_singleton calls call ih =>
    obtain ⟨hcalls, hcall⟩ := List.forall_mem_append.1 h
    have hflush : call.fault ≠ .flush := hcall call List.mem_cons_self
    rw [lines_concat, ih hcalls, succeeded_concat, written?, isRepeated_ofCalls,
      remembered?_eq_previous? call.element hcalls]
    cases hfault : call.fault with
    | none =>
      have hsucceeded : Fault.none ≠ .write := by decide
      rw [if_neg hsucceeded, stutterFree_concat, keep]
      by_cases hprevious : previous? call.element (stutterFree (succeeded calls)) = some call.text
      · simp [hprevious]
      · simp [hprevious]
    | write => simp
    | flush => contradiction

end Terminal

/-- For each element alone, its texts that remain are its texts without stutters. -/
theorem textsFor_stutterFree (element : Nat) (calls : List Call) :
    textsFor element (stutterFree calls) = (textsFor element calls).destutter (· ≠ ·) := by
  induction calls using List.reverseRecOn with
  | nil => rfl
  | append_singleton calls call ih =>
    rw [stutterFree_concat, textsFor_concat, keep]
    by_cases helement : call.element = element
    · rw [if_pos helement, destutter_concat, ← ih, ← previous?_eq_getLast?, helement,
        apply_ite (textsFor element), textsFor_concat, if_pos helement]
    · rw [if_neg helement, List.append_nil, ← ih, apply_ite (textsFor element), textsFor_concat,
        if_neg helement, List.append_nil, ite_self]

namespace Terminal

/-- What is remembered of an element depends on the calls for it alone. -/
theorem remembered?_filter (element : Nat) (calls : List Call) :
    remembered? element (calls.filter (·.element = element)) = remembered? element calls := by
  induction calls using List.reverseRecOn with
  | nil => rfl
  | append_singleton calls call ih =>
    rw [List.filter_append, remembered?_concat]
    by_cases helement : call.element = element
    · have hcall : [call].filter (·.element = element) = [call] :=
        List.filter_cons_of_pos (decide_eq_true helement)
      rw [hcall, remembered?_concat, ih]
    · have hcall : [call].filter (·.element = element) = [] :=
        List.filter_cons_of_neg (by simpa using helement)
      rw [hcall, List.append_nil, ih, if_neg (fun h ↦ helement h.1)]

/-- What each call for an element writes depends on the calls for it alone. -/
theorem written_filter (element : Nat) (calls : List Call) :
    (calls.zip (displayAll {} calls)).filter (·.1.element = element) =
      (calls.filter (·.element = element)).zip
        (displayAll {} (calls.filter (·.element = element))) := by
  have hlength (calls : List Call) : calls.length = (displayAll {} calls).length :=
    (length_displayAll _ _).symm
  induction calls using List.reverseRecOn with
  | nil => rfl
  | append_singleton calls call ih =>
    rw [displayAll_concat, List.zip_append (hlength calls), List.filter_append, ih,
      List.filter_append]
    by_cases helement : call.element = element
    · have hcall : [call].filter (·.element = element) = [call] :=
        List.filter_cons_of_pos (decide_eq_true helement)
      have hsame : (ofCalls (calls.filter (·.element = element))).written? call =
          (ofCalls calls).written? call := by
        rw [written?, written?, isRepeated_ofCalls, isRepeated_ofCalls, helement,
          remembered?_filter]
      rw [hcall, displayAll_concat, List.zip_append (hlength _)]
      congr 1
      show [(call, (ofCalls calls).written? call)].filter _ = [(call, (ofCalls _).written? call)]
      rw [hsame]
      exact List.filter_cons_of_pos (decide_eq_true helement)
    · have hcall : [call].filter (·.element = element) = [] :=
        List.filter_cons_of_neg (by simpa using helement)
      rw [hcall, List.append_nil]
      convert List.append_nil _
      exact List.filter_cons_of_neg (by simpa using helement)

/-- When no flush fails, the lines are those of the calls that remain, in their order, when those that
have failed are left out, and then for each element those that repeat its text. What the calls for an
element write is what they would write alone. -/
theorem lines_stutterFree (calls : List Call) (h : ∀ call ∈ calls, call.fault ≠ .flush) :
    lines calls =
      (stutterFree (succeeded calls)).map (fun call ↦ lineOf call.element call.text) ∧
    (stutterFree (succeeded calls)).Sublist (succeeded calls) ∧
    ∀ element,
      textsFor element (stutterFree (succeeded calls)) =
        (textsFor element (succeeded calls)).destutter (· ≠ ·) ∧
      (calls.zip (displayAll {} calls)).filter (·.1.element = element) =
        (calls.filter (·.element = element)).zip
          (displayAll {} (calls.filter (·.element = element))) :=
  ⟨lines_eq_map h, stutterFree_sublist _,
    fun element ↦ ⟨textsFor_stutterFree element _, written_filter element calls⟩⟩

/-- A text cannot be written; the one before it comes again, and then it does. -/
def retried : List Call :=
  [⟨0, "a", .none⟩, ⟨1, "b", .none⟩, ⟨0, "b", .write⟩, ⟨0, "a", .none⟩, ⟨1, "b", .none⟩,
    ⟨0, "b", .none⟩, ⟨0, "b", .write⟩]

/-- Each text is written once. -/
theorem lines_retried :
    (∀ call ∈ retried, call.fault ≠ .flush) ∧
      lines retried = [lineOf 0 "a", lineOf 1 "b", lineOf 0 "b"] ∧
      (textsFor 0 (succeeded retried)).destutter (· ≠ ·) = ["a", "b"] := by
  have hflush : ∀ call ∈ retried, call.fault ≠ .flush := by decide
  obtain ⟨hlines, -, htexts⟩ := lines_stutterFree retried hflush
  refine ⟨hflush, hlines.trans ?_, (htexts 0).1.symm.trans ?_⟩
  · decide +kernel
  · decide +kernel

end Terminal

end LiveTemplate.Display
