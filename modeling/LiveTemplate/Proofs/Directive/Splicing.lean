import LiveTemplate.Proofs.Directive.Outermost
import LiveTemplate.Refresh.Change

/-!
# Merging as splicing

Merging puts fragments where the directives stand that are found in a template, and leaves the rest
of the template as it is. The two walk over the template on their own, one with offsets and one with
a queue of fragments; here the offsets are shown to be the places where the fragments go. What stands
before a fragment and what stands behind it does not depend on the fragment, whatever it looks like.
-/

namespace LiveTemplate.Directive

open Text

/-! ## Slices -/

/-- The part of a text between two places, in octets. -/
def slice (text : String) (start stop : Nat) : String :=
  String.Pos.Raw.extract text ⟨start⟩ ⟨stop⟩

/-- The part of a text between two places, with fragments in place of the spans in it. A missing
fragment counts as empty. -/
def splice (text : String) (start stop : Nat) : List Descriptor → List String → String
  | [], _ => slice text start stop
  | span :: spans, fragments =>
    slice text start span.start ++
      (fragments.headD "" ++ splice text span.stop stop spans fragments.tail)

variable {template : String} {before middle after : List Char}

theorem slice_of_append (h : template.toList = before ++ (middle ++ after)) :
    slice template (octetLength before) (octetLength before + octetLength middle) =
      String.ofList middle := by
  have htemplate : template = String.ofList (before ++ middle ++ after) := by
    rw [List.append_assoc, ← h, String.ofList_toList]
  rw [slice, htemplate, octetLength_eq_utf8Len, octetLength_eq_utf8Len]
  exact String.extract_of_valid before middle after

theorem utf8ByteSize_of_append (h : template.toList = before ++ middle) :
    template.utf8ByteSize = octetLength before + octetLength middle := by
  rw [← octetLength_append, ← h, octetLength_eq_utf8Len, String.utf8Len_toList]

theorem slice_whole (template : String) : slice template 0 template.utf8ByteSize = template := by
  have htext : template.toList = [] ++ (template.toList ++ []) := by simp
  have hslice := slice_of_append htext
  rwa [octetLength, Nat.zero_add, octetLength_eq_utf8Len, String.utf8Len_toList,
    String.ofList_toList] at hslice

/-! ## Fragments at their places -/

variable {index start stop : Nat} {pieces : List Segment} {fragments : List String}

theorem fill_directive (fields : Fields) (source : List Char) (pieces : List Segment)
    (fragments : List String) :
    fill (.directive fields source :: pieces) fragments =
      (fragments.headD "").toList ++ fill pieces fragments.tail := by
  cases fragments <;> rfl

/-- Filling segments behind a gap is splicing at the places that are described. -/
theorem splice_describeFrom {gap : List Char} (index : Nat) (fragments : List String)
    (h : template.toList = before ++ (gap ++ pieces.flatMap Segment.source)) :
    splice template (octetLength before) template.utf8ByteSize
        (describeFrom (octetLength before + octetLength gap) index pieces) fragments =
      String.ofList (gap ++ fill pieces fragments) := by
  induction pieces generalizing before gap index fragments with
  | nil =>
    have hend : template.toList = before ++ (gap ++ []) := h
    rw [describeFrom, splice, utf8ByteSize_of_append h, List.flatMap_nil, List.append_nil,
      slice_of_append hend, fill, List.append_nil]
  | cons piece pieces ih =>
    rw [List.flatMap_cons] at h
    cases piece with
    | literal c =>
      have hnext : template.toList = before ++ ((gap ++ [c]) ++ pieces.flatMap Segment.source) := by
        rw [h, List.append_assoc]
        rfl
      have hspliced := ih index fragments hnext
      rw [octetLength_append, ← Nat.add_assoc] at hspliced
      rw [describeFrom, fill]
      simpa [octetLength] using hspliced
    | directive fields source =>
      have hnext : template.toList =
          (before ++ (gap ++ source)) ++ ([] ++ pieces.flatMap Segment.source) := by
        rw [h]
        simp [Segment.source]
      have hspliced := ih (index + 1) fragments.tail hnext
      simp only [octetLength_append, octetLength, Nat.add_zero, ← Nat.add_assoc,
        List.nil_append] at hspliced
      calc
        splice template (octetLength before) template.utf8ByteSize
            (describeFrom (octetLength before + octetLength gap) index
              (.directive fields source :: pieces)) fragments =
            slice template (octetLength before) (octetLength before + octetLength gap) ++
              (fragments.headD "" ++ splice template
                (octetLength before + octetLength gap + octetLength source) template.utf8ByteSize
                (describeFrom (octetLength before + octetLength gap + octetLength source)
                  (index + 1) pieces) fragments.tail) := rfl
        _ = String.ofList gap ++
              (fragments.headD "" ++ String.ofList (fill pieces fragments.tail)) := by
          rw [slice_of_append h, hspliced]
        _ = String.ofList (gap ++ fill (.directive fields source :: pieces) fragments) := by
          rw [fill_directive, String.ofList_append, String.ofList_append, String.ofList_toList]

theorem merge_eq_splice (template : String) (fragments : List String) :
    merge template fragments =
      splice template 0 template.utf8ByteSize (parse template) fragments := by
  have htext : template.toList =
      [] ++ ([] ++ (segments template.toList).flatMap Segment.source) := by
    rw [flatMap_segments]
    rfl
  exact (splice_describeFrom 0 fragments htext).symm

/-! ## What a fragment decides -/

theorem headD_eq_getD (fragments : List String) : fragments.headD "" = fragments.getD 0 "" := by
  cases fragments <;> rfl

theorem getD_tail (fragments : List String) (k : Nat) :
    fragments.tail.getD k "" = fragments.getD (k + 1) "" := by
  cases fragments <;> rfl

/-- Only as many fragments matter as there are spans, and a missing one is as good as an empty
one. -/
theorem splice_congr {spans : List Descriptor} {others : List String}
    (h : ∀ k < spans.length, others.getD k "" = fragments.getD k "") :
    splice template start stop spans others = splice template start stop spans fragments := by
  induction spans generalizing start fragments others with
  | nil => rfl
  | cons span spans ih =>
    have hhead : others.headD "" = fragments.headD "" := by
      rw [headD_eq_getD, headD_eq_getD, h 0 (Nat.succ_pos _)]
    have htail : ∀ k < spans.length, others.tail.getD k "" = fragments.tail.getD k "" := by
      intro k hk
      rw [getD_tail, getD_tail, h (k + 1) (Nat.succ_lt_succ hk)]
    rw [splice, splice, hhead, ih htail]

/-- A fragment stands between what is spliced before its span and what is spliced behind it. -/
theorem splice_append {early late : List Descriptor} {span : Descriptor} {first last : List String}
    {fragment : String} (h : first.length = early.length) :
    splice template start stop (early ++ span :: late) (first ++ fragment :: last) =
      splice template start span.start early first ++
        (fragment ++ splice template span.stop stop late last) := by
  induction early generalizing start first with
  | nil =>
    obtain rfl : first = [] := List.eq_nil_of_length_eq_zero h
    rfl
  | cons next early ih =>
    obtain ⟨head, first, rfl⟩ : ∃ head rest, first = head :: rest :=
      List.exists_cons_of_length_eq_add_one h
    have hlength : first.length = early.length := by simpa using h
    simp only [List.cons_append, splice, List.headD_cons, List.tail_cons, ih hlength,
      String.append_assoc]

/-- Merging with the sources of the directives changes nothing. -/
theorem fill_sources (index : Nat)
    (h : template.toList = before ++ pieces.flatMap Segment.source) :
    fill pieces ((describeFrom (octetLength before) index pieces).map fun span ↦
      slice template span.start span.stop) = pieces.flatMap Segment.source := by
  induction pieces generalizing before index with
  | nil => rfl
  | cons piece pieces ih =>
    rw [List.flatMap_cons] at h ⊢
    have hnext : template.toList = (before ++ piece.source) ++ pieces.flatMap Segment.source := by
      rw [h, List.append_assoc]
    cases piece with
    | literal c =>
      have hrest := ih index hnext
      simp only [octetLength_append, Segment.source, octetLength, Nat.add_zero] at hrest
      rw [describeFrom, fill, hrest]
      rfl
    | directive fields source =>
      have hrest := ih (index + 1) hnext
      rw [octetLength_append] at hrest
      have hslice : slice template (octetLength before) (octetLength before + octetLength source) =
          String.ofList source := slice_of_append h
      simp only [describeFrom, List.map_cons, fill, Fields.describe, Segment.source] at hrest ⊢
      rw [hrest, hslice, String.toList_ofList]

theorem merge_sources (template : String) :
    merge template ((parse template).map fun span ↦ slice template span.start span.stop) =
      template := by
  have htext : template.toList = [] ++ (segments template.toList).flatMap Segment.source := by
    rw [flatMap_segments]
    rfl
  calc
    merge template ((parse template).map fun span ↦ slice template span.start span.stop) =
        String.ofList ((segments template.toList).flatMap Segment.source) :=
      congrArg String.ofList (fill_sources 0 htext)
    _ = template := by rw [flatMap_segments, String.ofList_toList]

theorem merge_eq_self (h : parse template = []) (fragments : List String) :
    merge template fragments = template := by
  rw [merge_eq_splice, h, splice, slice_whole]

/-- A template without directives is shown as merging would show it. -/
theorem history_place {σ : Type} {s : Refresh.State σ} {element : Refresh.Element}
    (helement : s.elements[index]? = some element) (hvacant : element.stage = .vacant)
    (h : parse template = []) (fragments : List String) :
    (s.place index template).history =
      ⟨s.now, .rendered index (merge template fragments) none⟩ ::
        ⟨s.now, .installed index template none⟩ :: s.history := by
  rw [merge_eq_self h]
  simp [Refresh.State.place, helement, hvacant, h, Refresh.State.placeLiteral,
    Refresh.State.record]

/-- Merging replaces the spans that are found, each by the fragment of its position, and nothing
else. -/
theorem merge_splices (template : String) (fragments : List String) :
    merge template fragments =
      splice template 0 template.utf8ByteSize (parse template) fragments ∧
    (∀ others : List String, (∀ k < count template, others.getD k "" = fragments.getD k "") →
      merge template others = merge template fragments) ∧
    (∀ (first last : List String) (fragment : String) (span : Descriptor),
      (parse template)[first.length]? = some span →
      merge template (first ++ fragment :: last) =
        splice template 0 span.start ((parse template).take first.length) first ++
          (fragment ++ splice template span.stop template.utf8ByteSize
            ((parse template).drop (first.length + 1)) last)) ∧
    merge template ((parse template).map fun span ↦ slice template span.start span.stop) =
      template ∧
    (parse template = [] → merge template fragments = template ∧
      ∀ (σ : Type) (s : Refresh.State σ) (index : Nat) (element : Refresh.Element),
        s.elements[index]? = some element → element.stage = .vacant →
        (s.place index template).history =
          ⟨s.now, .rendered index (merge template fragments) none⟩ ::
            ⟨s.now, .installed index template none⟩ :: s.history) := by
  refine ⟨merge_eq_splice template fragments, ?_, ?_, merge_sources template, ?_⟩
  · intro others h
    rw [count_eq_length_parse] at h
    rw [merge_eq_splice, merge_eq_splice, splice_congr h]
  · intro first last fragment span hspan
    obtain ⟨hlength, hat⟩ := List.getElem?_eq_some_iff.1 hspan
    have hparse : parse template = (parse template).take first.length ++
        span :: (parse template).drop (first.length + 1) := by
      rw [← hat, List.getElem_cons_drop, List.take_append_drop]
    have htake : first.length = ((parse template).take first.length).length := by
      rw [List.length_take]
      omega
    rw [merge_eq_splice]
    conv_lhs => rw [hparse]
    exact splice_append htake
  · intro h
    exact ⟨merge_eq_self h fragments, fun σ s index element helement hvacant ↦
      history_place helement hvacant h fragments⟩

/-- A fragment that looks like a directive stays as it is, and the next one goes to its own place. A
text without directives is shown as it is. -/
theorem lookalike_spliced :
    let template := "é\x7bx()\x7db\x7by(1)\x7dc"
    merge template ["\x7by(2)\x7d", "z", "w"] = "é\x7by(2)\x7db" ++ ("z" ++ "c") ∧
      merge template ["\x7by(2)\x7d", "z", "w"] = merge template ["\x7by(2)\x7d", "z"] ∧
      ((Refresh.State.initial .empty ⟨0⟩ ()).append.place 0 "plain").history =
        [⟨0, .rendered 0 (merge "plain" ["w"]) none⟩, ⟨0, .installed 0 "plain" none⟩] := by
  intro template
  obtain ⟨-, hfirst, hplace, -, -⟩ := merge_splices template ["\x7by(2)\x7d", "z"]
  obtain ⟨-, -, -, -, hliteral⟩ := merge_splices "plain" ["w"]
  obtain ⟨-, hshown⟩ := hliteral (by decide +kernel)
  refine ⟨?_, hfirst _ (by decide +kernel), ?_⟩
  · let span : Descriptor := ⟨1, 8, 14, "y", "1", none, none⟩
    have hspan : (parse template)[["\x7by(2)\x7d"].length]? = some span := by decide +kernel
    refine (hplace ["\x7by(2)\x7d"] ["w"] "z" span hspan).trans ?_
    decide +kernel
  · exact hshown Unit (Refresh.State.initial .empty ⟨0⟩ ()).append 0 ⟨0, "", none, .vacant⟩ rfl rfl

end LiveTemplate.Directive
