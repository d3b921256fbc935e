import Mathlib.Data.List.Induction
import LiveTemplate.Display.Terminal

/-!
# The last line of an element

A display leaves out a text that it remembers as the last one of its element. What it remembers is
the text of the latest call for the element in which nothing has failed. A line that has been written
but not flushed is not remembered, although it is the last one. So when the remembered text comes
back after such a line, it is left out, and another text stays the last one. In all other cases the
last line of an element is that of the latest call in which nothing has failed.
-/

namespace LiveTemplate.Display

variable {calls : List Call} {call : Call} {element : Nat} {text : String}

theorem lineOf_inj {other : String} : lineOf element text = lineOf element other ↔ text = other := by
  simp [lineOf]

namespace Terminal

/-! ## Sequences of calls -/

def ofCalls (calls : List Call) : Terminal := calls.foldl display {}

/-- The lines that calls write for an element, the earliest first. -/
def linesFor (element : Nat) (calls : List Call) : List String :=
  (calls.zip (displayAll {} calls)).filterMap fun written ↦
    if written.1.element = element then written.2 else none

theorem ofCalls_concat (calls : List Call) (call : Call) :
    ofCalls (calls ++ [call]) = (ofCalls calls).display call :=
  List.foldl_append

theorem length_displayAll (terminal : Terminal) (calls : List Call) :
    (displayAll terminal calls).length = calls.length := by
  induction calls generalizing terminal with
  | nil => rfl
  | cons call rest ih => rw [displayAll, List.length_cons, ih, List.length_cons]

theorem displayAll_concat (terminal : Terminal) (calls : List Call) (call : Call) :
    displayAll terminal (calls ++ [call]) =
      displayAll terminal calls ++ [(calls.foldl display terminal).written? call] := by
  induction calls generalizing terminal with
  | nil => rfl
  | cons first rest ih =>
    rw [List.cons_append, displayAll, ih]
    rfl

theorem linesFor_concat (element : Nat) (calls : List Call) (call : Call) :
    linesFor element (calls ++ [call]) = linesFor element calls ++
      if call.element = element then ((ofCalls calls).written? call).toList else [] := by
  have hlength : calls.length = (displayAll {} calls).length := (length_displayAll _ _).symm
  rw [linesFor, displayAll_concat, List.zip_append hlength, List.filterMap_append]
  congr 1
  show [(call, (ofCalls calls).written? call)].filterMap _ = _
  by_cases h : call.element = element
  · cases hwritten : (ofCalls calls).written? call <;> simp [h]
  · simp [h]

def remembered? (element : Nat) (calls : List Call) : Option String :=
  (ofCalls calls).last.get? element

/-- The last line that calls have written for an element. -/
def lastLine? (element : Nat) (calls : List Call) : Option String :=
  (linesFor element calls).getLast?

/-- A call in which nothing fails is remembered, also if it is left out. -/
theorem remembered?_concat (element : Nat) (calls : List Call) (call : Call) :
    remembered? element (calls ++ [call]) =
      if call.element = element ∧ call.fault = .none then some call.text
      else remembered? element calls := by
  rw [remembered?, ofCalls_concat, display]
  by_cases helement : call.element = element
  · subst helement
    by_cases hrepeated : (ofCalls calls).isRepeated call = true
    · have hsame : remembered? call.element calls = some call.text := of_decide_eq_true hrepeated
      rw [hrepeated, Bool.true_or, if_pos rfl, ← remembered?, hsame, ite_self]
    · by_cases hfault : call.fault = .none
      · simp [hrepeated, hfault, Keyed.get?_put_self]
      · simp [hrepeated, hfault, remembered?]
  · have hne : element ≠ call.element := Ne.symm helement
    split
    · simp [helement, remembered?]
    · simp [helement, remembered?, Keyed.get?_put_of_ne _ _ hne]

/-- A line is written for a text that is not remembered, unless nothing can be written. -/
theorem lastLine?_concat (element : Nat) (calls : List Call) (call : Call) :
    lastLine? element (calls ++ [call]) =
      if call.element = element ∧ call.fault ≠ .write ∧
          remembered? element calls ≠ some call.text then
        some (lineOf element call.text)
      else lastLine? element calls := by
  rw [lastLine?, linesFor_concat]
  by_cases helement : call.element = element
  · subst helement
    by_cases hrepeated : remembered? call.element calls = some call.text
    · have hleft : (ofCalls calls).isRepeated call = true := decide_eq_true hrepeated
      simp [written?, hleft, hrepeated, lastLine?]
    · have hnew : (ofCalls calls).isRepeated call = false := decide_eq_false hrepeated
      by_cases hwrite : call.fault = .write
      · simp [written?, hnew, hwrite, lastLine?]
      · simp [written?, hnew, hrepeated, hwrite]
  · simp [helement, lastLine?]

end Terminal

/-! ## What has been shown and flushed -/

/-- In a call for an element nothing has failed, and the calls since then have either been for other
elements, or for the same text, or have failed. -/
def ShownUntil (calls : List Call) (element : Nat) (text : String) (since : List Call) : Prop :=
  (∃ earlier, calls = earlier ++ ⟨element, text, .none⟩ :: since) ∧
    ∀ call ∈ since, call.element = element → call.fault = .none → call.text = text

/-- Another text than the one that has been shown has been written, but not flushed. -/
def Unflushed (calls : List Call) (element : Nat) (text : String) : Prop :=
  ∃ since, ShownUntil calls element text since ∧
    ∃ call ∈ since, call.element = element ∧ call.fault = .flush ∧ call.text ≠ text

theorem shownUntil_concat_iff {since : List Call} :
    ShownUntil (calls ++ [call]) element text since ↔
      since = [] ∧ call = ⟨element, text, .none⟩ ∨
        ∃ before, since = before ++ [call] ∧ ShownUntil calls element text before ∧
          (call.element = element → call.fault = .none → call.text = text) := by
  constructor
  · rintro ⟨⟨earlier, hcalls⟩, hsince⟩
    rcases List.eq_nil_or_concat since with rfl | ⟨before, last, rfl⟩
    · obtain ⟨-, hcall⟩ := List.append_inj' hcalls rfl
      exact .inl ⟨rfl, List.singleton_inj.1 hcall⟩
    · rw [List.concat_eq_append] at hcalls hsince ⊢
      have hsplit : calls ++ [call] = (earlier ++ ⟨element, text, .none⟩ :: before) ++ [last] := by
        simpa using hcalls
      obtain ⟨hbefore, hlast⟩ := List.append_inj' hsplit rfl
      obtain rfl := List.singleton_inj.1 hlast
      exact .inr ⟨before, rfl,
        ⟨⟨earlier, hbefore⟩, fun other hother ↦ hsince other (List.mem_append_left _ hother)⟩,
        hsince call (List.mem_append_right _ List.mem_cons_self)⟩
  · rintro (⟨rfl, rfl⟩ | ⟨before, rfl, ⟨⟨earlier, rfl⟩, hbefore⟩, hcall⟩)
    · exact ⟨⟨calls, rfl⟩, fun other hother ↦ absurd hother List.not_mem_nil⟩
    · refine ⟨⟨earlier, by simp⟩, fun other hother ↦ ?_⟩
      rcases List.mem_append.1 hother with hother | hother
      · exact hbefore other hother
      · obtain rfl := List.mem_singleton.1 hother
        exact hcall

theorem unflushed_concat_iff :
    Unflushed (calls ++ [call]) element text ↔
      (call.element = element → call.fault = .none → call.text = text) ∧
        (Unflushed calls element text ∨
          (∃ since, ShownUntil calls element text since) ∧
            call.element = element ∧ call.fault = .flush ∧ call.text ≠ text) := by
  constructor
  · rintro ⟨since, hshown, failed, hfailed, hother⟩
    rcases shownUntil_concat_iff.1 hshown with ⟨rfl, -⟩ | ⟨before, rfl, hbefore, hcall⟩
    · contradiction
    · refine ⟨hcall, ?_⟩
      rcases List.mem_append.1 hfailed with hfailed | hfailed
      · exact .inl ⟨before, hbefore, failed, hfailed, hother⟩
      · obtain rfl := List.mem_singleton.1 hfailed
        exact .inr ⟨⟨before, hbefore⟩, hother⟩
  · rintro ⟨hcall, ⟨before, hbefore, failed, hfailed, hother⟩ | ⟨⟨before, hbefore⟩, hother⟩⟩
    · exact ⟨before ++ [call], shownUntil_concat_iff.2 (.inr ⟨before, rfl, hbefore, hcall⟩), failed,
        List.mem_append_left _ hfailed, hother⟩
    · exact ⟨before ++ [call], shownUntil_concat_iff.2 (.inr ⟨before, rfl, hbefore, hcall⟩), call,
        List.mem_append_right _ List.mem_cons_self, hother⟩

namespace Terminal

/-! ## What a display remembers and what it has written -/

/-- The remembered text is the latest one that has been shown. -/
theorem remembered?_eq_some_iff :
    remembered? element calls = some text ↔ ∃ since, ShownUntil calls element text since := by
  induction calls using List.reverseRecOn with
  | nil =>
    constructor
    · intro h
      contradiction
    · rintro ⟨since, ⟨earlier, hcalls⟩, -⟩
      exact absurd hcalls.symm (by simp)
  | append_singleton calls call ih =>
    rw [remembered?_concat]
    by_cases hcall : call.element = element ∧ call.fault = .none
    · obtain ⟨rfl, hfault⟩ := hcall
      rw [if_pos ⟨rfl, hfault⟩, Option.some.injEq]
      constructor
      · rintro rfl
        obtain ⟨number, shown, fault⟩ := call
        obtain rfl : fault = .none := hfault
        exact ⟨[], shownUntil_concat_iff.2 (.inl ⟨rfl, rfl⟩)⟩
      · rintro ⟨since, hshown⟩
        rcases shownUntil_concat_iff.1 hshown with ⟨-, hcall⟩ | ⟨before, -, -, hcall⟩
        · exact congrArg Call.text hcall
        · exact hcall rfl hfault
    · rw [if_neg hcall, ih]
      constructor
      · rintro ⟨since, hshown⟩
        exact ⟨since ++ [call], shownUntil_concat_iff.2 (.inr ⟨since, rfl, hshown,
          fun helement hfault ↦ absurd ⟨helement, hfault⟩ hcall⟩)⟩
      · rintro ⟨since, hshown⟩
        rcases shownUntil_concat_iff.1 hshown with ⟨-, rfl⟩ | ⟨before, -, hbefore, -⟩
        · exact absurd ⟨rfl, rfl⟩ hcall
        · exact ⟨before, hbefore⟩

/-- The last line is the remembered one, unless another text has been written but not flushed. -/
theorem lastLine?_eq_iff (h : remembered? element calls = some text) :
    lastLine? element calls = some (lineOf element text) ↔ ¬Unflushed calls element text := by
  induction calls using List.reverseRecOn generalizing text with
  | nil => contradiction
  | append_singleton calls call ih =>
    rw [remembered?_concat] at h
    rw [lastLine?_concat, unflushed_concat_iff]
    by_cases helement : call.element = element
    · cases hfault : call.fault with
      | none =>
        have htext : call.text = text := by simpa [helement, hfault] using h
        by_cases hremembered : remembered? element calls = some text
        · simpa [helement, htext, hremembered] using ih hremembered
        · have hnot : ¬Unflushed calls element text := by
            rintro ⟨since, hshown, -⟩
            exact hremembered (remembered?_eq_some_iff.2 ⟨since, hshown⟩)
          simp [helement, htext, hremembered, hnot]
      | write =>
        have hremembered : remembered? element calls = some text := by simpa [hfault] using h
        simpa [hremembered] using ih hremembered
      | flush =>
        have hremembered : remembered? element calls = some text := by simpa [hfault] using h
        by_cases htext : call.text = text
        · simpa [htext, hremembered] using ih hremembered
        · have hshown := remembered?_eq_some_iff.1 hremembered
          have hnew : text ≠ call.text := Ne.symm htext
          simp [helement, htext, hremembered, hnew, hshown, lineOf_inj]
    · have hremembered : remembered? element calls = some text := by simpa [helement] using h
      simpa [helement] using ih hremembered

/-- In a call in which nothing fails, a text is written or is left out as the remembered one. It is
the last line of its element afterwards, except when it is left out after another text has been
written but not flushed. -/
theorem lastLine?_iff_not_unflushed (calls : List Call) (call : Call)
    (h : call.fault = .none ∨ (ofCalls calls).isRepeated call = true) :
    lastLine? call.element (calls ++ [call]) = some (lineOf call.element call.text) ↔
      ¬Unflushed calls call.element call.text := by
  have hremembered : remembered? call.element (calls ++ [call]) = some call.text := by
    rw [remembered?_concat]
    rcases h with hfault | hrepeated
    · rw [if_pos ⟨rfl, hfault⟩]
    · have hsame : remembered? call.element calls = some call.text := of_decide_eq_true hrepeated
      rw [hsame, ite_self]
  rw [lastLine?_eq_iff hremembered, unflushed_concat_iff]
  simp

/-- A text is shown, and another one of the same element is written but not flushed. -/
def overwritten : List Call := [⟨0, "a", .none⟩, ⟨1, "a", .flush⟩, ⟨0, "b", .flush⟩]

/-- When the shown text comes back, it does not become the last line; the other one stays it. -/
theorem lastLine?_overwritten :
    Unflushed overwritten 0 "a" ∧
      lastLine? 0 (overwritten ++ [⟨0, "a", .none⟩]) ≠ some (lineOf 0 "a") ∧
      ¬Unflushed overwritten 0 "b" ∧
      lastLine? 0 (overwritten ++ [⟨0, "b", .none⟩]) = some (lineOf 0 "b") := by
  have hunflushed : Unflushed overwritten 0 "a" := by
    refine ⟨overwritten.tail, ⟨⟨[], rfl⟩, ?_⟩, ⟨0, "b", .flush⟩, ?_⟩ <;> decide
  have hback := lastLine?_iff_not_unflushed overwritten ⟨0, "a", .none⟩ (.inl rfl)
  have hlast : lastLine? 0 (overwritten ++ [⟨0, "b", .none⟩]) = some (lineOf 0 "b") := by
    decide +kernel
  exact ⟨hunflushed, fun heq ↦ hback.1 heq hunflushed,
    (lastLine?_iff_not_unflushed overwritten ⟨0, "b", .none⟩ (.inl rfl)).1 hlast, hlast⟩

/-- Nothing fails in a call, and the last line of its element is not its own. -/
theorem returning_text_left_out :
    let call : Call := ⟨0, "a", .none⟩
    call.fault = .none ∧
      lastLine? call.element ([⟨0, "a", .none⟩, ⟨0, "b", .flush⟩] ++ [call]) = some "[0] b\n" ∧
      "[0] b\n" ≠ lineOf call.element call.text := by
  decide +kernel

end Terminal

end LiveTemplate.Display
