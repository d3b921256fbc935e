import LiveTemplate.Proofs.Program.Loading
import LiveTemplate.Proofs.Text.Lines
import LiveTemplate.Proofs.Text.Utf8

/-!
# Template files

Templates that are written to a file, a line each, among any number of blank lines, are the templates
that the program reads from it. A line ends at a line feed or at a carriage return and a line feed,
each line in its own way, and the last one may end with the file. White space at the ends of a
template stays, and so do carriage returns within it.
-/

namespace LiveTemplate.Program

open CommandLine (Arguments)
open Text (isBlank isBlankText)

/-! ## Files that list templates -/

inductive Terminator where
  | feed
  | returnAndFeed

def Terminator.text : Terminator → List Char
  | .feed => ['\n']
  | .returnAndFeed => ['\r', '\n']

/-- A template that a line can carry. -/
structure FitsLine (template : String) : Prop where
  notBlank : isBlankText template = false
  noFeed : '\n' ∉ template.toList
  noReturnAtEnd : template.toList.getLast? ≠ some '\r'

structure IsBlankLine (line : List Char) : Prop where
  blank : line.all isBlank = true
  noFeed : '\n' ∉ line

/-- A text that lists templates, a line each, among blank lines. -/
inductive Lists : List String → List Char → Prop where
  | nothing : Lists [] []
  | blank {templates : List String} {line contents : List Char} (hline : IsBlankLine line)
      (ending : Terminator) (hrest : Lists templates contents) :
      Lists templates (line ++ ending.text ++ contents)
  | template {template : String} {templates : List String} {contents : List Char}
      (hfits : FitsLine template) (ending : Terminator) (hrest : Lists templates contents) :
      Lists (template :: templates) (template.toList ++ ending.text ++ contents)
  | lastBlank {line : List Char} (hline : IsBlankLine line) : Lists [] line
  | lastTemplate {template : String} (hfits : FitsLine template) : Lists [template] template.toList

/-- A list of templates can be written just when each of them fits on a line. -/
theorem exists_lists_iff {templates : List String} :
    (∃ contents, Lists templates contents) ↔ ∀ template ∈ templates, FitsLine template := by
  constructor
  · rintro ⟨contents, h⟩
    induction h with
    | nothing | lastBlank => exact fun _ hmem ↦ absurd hmem List.not_mem_nil
    | blank _ _ _ ih => exact ih
    | template hfits _ _ ih => exact List.forall_mem_cons.2 ⟨hfits, ih⟩
    | lastTemplate hfits => exact List.forall_mem_singleton.2 hfits
  · intro hfits
    induction templates with
    | nil => exact ⟨[], .nothing⟩
    | cons template rest ih =>
      obtain ⟨hfirst, hrest⟩ := List.forall_mem_cons.1 hfits
      obtain ⟨contents, hlists⟩ := ih hrest
      exact ⟨_, .template hfirst .feed hlists⟩

/-! ## Reading -/

section Reading

variable {template text : String} {templates : List String} {rows : List (List Char)}
  {contents line : List Char}

def shownOf (rows : List (List Char)) : List String :=
  (rows.filter fun row ↦ !row.all isBlank).map String.ofList

theorem templateLines_eq (text : String) : templateLines text = shownOf (Text.lines text.toList) := by
  have htest : (fun row ↦ !isBlankText row) ∘ String.ofList = fun row ↦ !row.all isBlank := by
    funext row
    simp only [Function.comp_apply, isBlankText, String.toList_ofList]
  rw [templateLines, Text.linesOf, List.filter_map, htest, shownOf]

theorem shownOf_cons_of_blank (h : line.all isBlank = true) :
    shownOf (line :: rows) = shownOf rows := by
  rw [shownOf, List.filter_cons_of_neg (by simp [h]), shownOf]

theorem shownOf_cons_of_fits (h : FitsLine template) :
    shownOf (template.toList :: rows) = template :: shownOf rows := by
  have hshown : (!template.toList.all isBlank) = true := by simpa [isBlankText] using h.notBlank
  simp only [shownOf, List.filter_cons, hshown, if_true, List.map_cons, String.ofList_toList]

/-- A line and its terminator make one line, whichever terminator it is. -/
theorem lines_terminated (h : '\n' ∉ line) (ending : Terminator) (contents : List Char) :
    ∃ row, (row = line ∨ row = Text.withoutReturn line) ∧
      Text.lines (line ++ ending.text ++ contents) = row :: Text.lines contents := by
  cases ending with
  | feed =>
    refine ⟨Text.withoutReturn line, .inr rfl, ?_⟩
    rw [Terminator.text, List.append_assoc]
    exact Text.lines_feed h contents
  | returnAndFeed =>
    have hreturned : '\n' ∉ line ++ ['\r'] := by simpa using h
    refine ⟨line, .inl rfl, ?_⟩
    have hsplit : line ++ ['\r', '\n'] ++ contents = (line ++ ['\r']) ++ '\n' :: contents := by simp
    rw [Terminator.text, hsplit, Text.lines_feed hreturned, Text.withoutReturn_append]

theorem FitsLine.lines_terminated (h : FitsLine template)
    (ending : Terminator) (contents : List Char) :
    Text.lines (template.toList ++ ending.text ++ contents) =
      template.toList :: Text.lines contents := by
  obtain ⟨row, hrow, hlines⟩ := Program.lines_terminated h.noFeed ending contents
  rw [Text.withoutReturn_of_getLast?_ne h.noReturnAtEnd, or_self] at hrow
  rw [hlines, hrow]

/-- The templates that a text lists are its lines that are not blank. -/
theorem shownOf_lines (h : Lists templates contents) : shownOf (Text.lines contents) = templates := by
  induction h with
  | nothing => rfl
  | @blank _ line contents hline ending _ ih =>
    obtain ⟨row, hrow, hlines⟩ := lines_terminated hline.noFeed ending contents
    have hsub : row ⊆ line := by
      rcases hrow with rfl | rfl
      · exact List.Subset.refl _
      · exact Text.withoutReturn_subset line
    have hblank : row.all isBlank = true :=
      List.all_eq_true.2 fun c hc ↦ List.all_eq_true.1 hline.blank c (hsub hc)
    rw [hlines, shownOf_cons_of_blank hblank, ih]
  | template hfits ending _ ih => rw [hfits.lines_terminated ending, shownOf_cons_of_fits hfits, ih]
  | @lastBlank line hline =>
    rcases eq_or_ne line [] with rfl | hne
    · rfl
    · rw [Text.lines_last hline.noFeed hne, shownOf_cons_of_blank hline.blank]
      rfl
  | @lastTemplate template hfits =>
    have hne : template.toList ≠ [] := fun h ↦ by simpa [isBlankText, h] using hfits.notBlank
    rw [Text.lines_last hfits.noFeed hne]
    exact shownOf_cons_of_fits hfits

theorem templateLines_of_lists (h : Lists templates text.toList) : templateLines text = templates := by
  rw [templateLines_eq, shownOf_lines h]

end Reading

/-! ## Loading -/

/-- A file that lists templates is read as these templates, and they are shown behind those of the
command line, all of them as they were written. The program has nothing to show exactly when neither
gives it any. -/
theorem template_file_read_back {files : FileReader} {arguments : Arguments} {path text : String}
    {templates : List String} (hfile : arguments.file = some path)
    (hread : files path = .ok (Text.encode text)) (hlists : Lists templates text.toList) :
    (¬ (arguments.templates = [] ∧ templates = []) →
      loadTemplates files arguments = .ok (arguments.templates ++ templates)) ∧
    (loadTemplates files arguments = .error .noTemplates ↔
      arguments.templates = [] ∧ templates = []) := by
  have hoffers : Offers files arguments (arguments.templates ++ templateLines text) :=
    .listed hfile ⟨_, hread, Text.decode?_encode text⟩
  have hload := loadTemplates_of_offers hoffers
  rw [templateLines_of_lists hlists] at hload
  simp only [hload, List.append_eq_nil_iff]
  by_cases hnone : arguments.templates = [] ∧ templates = []
  · simp [hnone]
  · simp [hnone]

/-- A template with white space at both ends and a carriage return in it, another one that the file
ends with, and blank lines before them and between them. -/
def mixedText : String := "\u00a0\r\n  first \rpart\t\r\n\nsecond"

/-- Neither the blank lines nor the terminators reach the templates. -/
theorem mixed_file_read_back :
    loadTemplates (fun _ ↦ .ok (Text.encode mixedText))
        { templates := ["given"], file := some "templates.txt" } =
      .ok ["given", "  first \rpart\t", "second"] := by
  have hblank : IsBlankLine "\u00a0".toList := ⟨by decide +kernel, by decide +kernel⟩
  have hempty : IsBlankLine [] := ⟨rfl, List.not_mem_nil⟩
  have hfirst : FitsLine "  first \rpart\t" :=
    ⟨by decide +kernel, by decide +kernel, by decide +kernel⟩
  have hsecond : FitsLine "second" := ⟨by decide +kernel, by decide +kernel, by decide +kernel⟩
  have htext : mixedText.toList =
      "\u00a0".toList ++ Terminator.returnAndFeed.text ++
        ("  first \rpart\t".toList ++ Terminator.returnAndFeed.text ++
          ([] ++ Terminator.feed.text ++ "second".toList)) := by decide +kernel
  have hlists : Lists ["  first \rpart\t", "second"] mixedText.toList := by
    rw [htext]
    exact .blank hblank _ (.template hfirst _ (.blank hempty _ (.lastTemplate hsecond)))
  exact (template_file_read_back rfl rfl hlists).1 (by decide)

end LiveTemplate.Program
