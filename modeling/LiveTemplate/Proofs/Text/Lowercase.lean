import LiveTemplate.Text.Lowercase

/-!
# Lowercase texts

A text is lowercase when lowercasing has nothing to change in any of its characters. Lowercasing
yields such a text, and leaves such a text as it is, so that doing it twice is doing it once. This
depends on the tables: no lowercase form of a member of a run is a member of a run again.
-/

namespace LiveTemplate.Text

variable {run other : CaseRun} {code : Nat} {c d : Char} {text : List Char}

/-! ## Runs and their lowercase forms -/

namespace CaseRun

def image (run : CaseRun) : CaseRun where
  first := ((run.first : Int) + run.shift).toNat
  last := ((run.last : Int) + run.shift).toNat
  step := run.step
  shift := 0

/-- Whether two runs lie apart, or each between the members of the other. -/
def avoids (run other : CaseRun) : Bool :=
  run.last.blt other.first || other.last.blt run.first ||
    (run.first == run.last || run.step == 2) && other.step == 2 &&
      (run.first + other.first) % 2 == 1

theorem contains_iff : run.contains code = true ↔
    run.first ≤ code ∧ code ≤ run.last ∧ (code - run.first) % run.step = 0 := by
  simp [contains, and_assoc]

theorem contains_image (hshift : 0 ≤ (run.first : Int) + run.shift)
    (h : run.contains code = true) :
    run.image.contains ((code : Int) + run.shift).toNat = true := by
  obtain ⟨hfirst, hlast, hstep⟩ := contains_iff.1 h
  have hoffset : ((code : Int) + run.shift).toNat - ((run.first : Int) + run.shift).toNat =
      code - run.first := by omega
  refine contains_iff.2 ⟨?_, ?_, ?_⟩
  · simp only [image]
    omega
  · simp only [image]
    omega
  · simp only [image, hoffset]
    exact hstep

theorem contains_eq_false_of_avoids (h : run.avoids other = true)
    (hcode : run.contains code = true) : other.contains code = false := by
  obtain ⟨hfirst, hlast, hstep⟩ := contains_iff.1 hcode
  refine Bool.eq_false_iff.2 fun hother ↦ ?_
  obtain ⟨hfirst', hlast', hstep'⟩ := contains_iff.1 hother
  simp only [avoids, Bool.or_eq_true, Bool.and_eq_true, Nat.blt_eq, beq_iff_eq] at h
  rcases h with (hbelow | habove) | ⟨⟨hrun, htwo'⟩, hodd⟩
  · omega
  · omega
  · rw [htwo'] at hstep'
    rcases hrun with hsingle | htwo
    · omega
    · rw [htwo] at hstep
      omega

end CaseRun

/-- The run of the character that has two characters as its lowercase form. -/
def dottedRun : CaseRun := ⟨0x0130, 0x0130, 1, 0⟩

/-- No lowercase form of a member of a run is a member of a run. -/
theorem image_avoids_runs :
    (lowercaseRuns.all fun run ↦ decide (0 ≤ (run.first : Int) + run.shift) &&
      (dottedRun :: lowercaseRuns).all run.image.avoids) = true := by
  decide +kernel

/-! ## Lowercase characters -/

/-- Lowercasing has nothing to change in a character. -/
def IsLower (c : Char) : Prop :=
  ∀ run ∈ dottedRun :: lowercaseRuns, run.contains c.toNat = false

instance : DecidablePred IsLower := fun c ↦
  decidable_of_iff ((dottedRun :: lowercaseRuns).all fun run ↦ !run.contains c.toNat)
    (by simp only [IsLower, List.all_eq_true, Bool.not_eq_eq_eq_not, Bool.not_true])

/-- A code point is its own lowercase form, or the form of a member of a run. -/
theorem lowercaseCode_cases (code : Nat) :
    (∀ run ∈ lowercaseRuns, run.contains code = false) ∧ lowercaseCode code = code ∨
      ∃ run ∈ lowercaseRuns, run.contains code = true ∧
        lowercaseCode code = ((code : Int) + run.shift).toNat := by
  unfold lowercaseCode
  cases hfind : lowercaseRuns.find? (·.contains code) with
  | none =>
    refine .inl ⟨fun run hrun ↦ ?_, rfl⟩
    simpa using List.find?_eq_none.1 hfind run hrun
  | some run =>
    have hcontains := (List.find?_eq_some_iff_append.1 hfind).1
    exact .inr ⟨run, List.mem_of_find?_eq_some hfind, hcontains, rfl⟩

theorem IsLower.lowercaseCode_eq (h : IsLower c) : lowercaseCode c.toNat = c.toNat := by
  rcases lowercaseCode_cases c.toNat with ⟨-, hcode⟩ | ⟨run, hrun, hcontains, -⟩
  · exact hcode
  · rw [h run (List.mem_cons_of_mem dottedRun hrun)] at hcontains
    contradiction

theorem IsLower.lowercaseChar_eq (h : IsLower c) : lowercaseChar c = [c] := by
  have hdotted : c ≠ 'İ' := by
    rintro rfl
    have hout := h dottedRun List.mem_cons_self
    exact absurd hout (by decide)
  rw [lowercaseChar, if_neg hdotted, h.lowercaseCode_eq, Char.ofNat_toNat]

theorem IsLower.ne_sigma (h : IsLower c) : c ≠ 'Σ' := by
  rintro rfl
  exact absurd h.lowercaseCode_eq (by decide +kernel)

/-- What is not the code point of a character stands for the first one, which is lowercase too. -/
theorem isLower_ofNat (h : ∀ run ∈ dottedRun :: lowercaseRuns, run.contains code = false) :
    IsLower (Char.ofNat code) := by
  by_cases hvalid : code.isValidChar
  · have hcode : (Char.ofNat code).toNat = code := by
      rw [Char.ofNat, dif_pos hvalid]
      rfl
    unfold IsLower
    rw [hcode]
    exact h
  · have hzero : Char.ofNat code = Char.ofNat 0 := by
      rw [Char.ofNat, dif_neg hvalid]
      rfl
    rw [hzero]
    decide +kernel

theorem isLower_of_mem_lowercaseChar (h : d ∈ lowercaseChar c) : IsLower d := by
  unfold lowercaseChar at h
  split at h
  · have hi : IsLower 'i' := by decide +kernel
    have hdot : IsLower '\u0307' := by decide +kernel
    exact List.forall_mem_cons.2 ⟨hi, List.forall_mem_singleton.2 hdot⟩ d h
  · next hdotted =>
    obtain rfl := List.mem_singleton.1 h
    apply isLower_ofNat
    rcases lowercaseCode_cases c.toNat with ⟨houtside, hcode⟩ | ⟨run, hrun, hcontains, hcode⟩
    · have hnot : dottedRun.contains c.toNat = false := by
        refine Bool.eq_false_iff.2 fun hcontains ↦ hdotted ?_
        obtain ⟨hfirst, hlast, -⟩ := CaseRun.contains_iff.1 hcontains
        exact Char.toNat_inj.1 (Nat.le_antisymm hlast hfirst)
      rw [hcode]
      exact List.forall_mem_cons.2 ⟨hnot, houtside⟩
    · rw [hcode]
      have hchecked := List.all_eq_true.1 image_avoids_runs run hrun
      rw [Bool.and_eq_true, decide_eq_true_eq] at hchecked
      intro other hother
      exact CaseRun.contains_eq_false_of_avoids (List.all_eq_true.1 hchecked.2 other hother)
        (CaseRun.contains_image hchecked.1 hcontains)

theorem isLower_lowercaseSigma (before after : List Char) :
    IsLower (lowercaseSigma before after) := by
  have hfinal : IsLower 'ς' := by decide +kernel
  have hinner : IsLower 'σ' := by decide +kernel
  unfold lowercaseSigma
  split
  · exact hfinal
  · exact hinner

/-! ## Texts -/

theorem isLower_of_mem_lowercaseFrom (before : List Char) (h : d ∈ lowercaseFrom before text) :
    IsLower d := by
  induction text generalizing before with
  | nil => contradiction
  | cons c rest ih =>
    rcases List.mem_append.1 h with hfirst | hrest
    · split at hfirst
      · obtain rfl := List.mem_singleton.1 hfirst
        exact isLower_lowercaseSigma before rest
      · exact isLower_of_mem_lowercaseChar hfirst
    · exact ih (c :: before) hrest

theorem lowercaseFrom_of_isLower (before : List Char) (h : ∀ c ∈ text, IsLower c) :
    lowercaseFrom before text = text := by
  induction text generalizing before with
  | nil => rfl
  | cons c rest ih =>
    have hfirst : IsLower c := h c List.mem_cons_self
    have hrest := ih (c :: before) fun d hd ↦ h d (List.mem_cons_of_mem c hd)
    rw [lowercaseFrom, if_neg hfirst.ne_sigma, hfirst.lowercaseChar_eq, hrest]
    rfl

/-- The lowercase form of a text has itself as its lowercase form. -/
theorem lowercase_lowercase (text : String) : lowercase (lowercase text) = lowercase text := by
  have hlower : ∀ c ∈ lowercaseFrom [] text.toList, IsLower c :=
    fun c hc ↦ isLower_of_mem_lowercaseFrom [] hc
  unfold lowercase
  rw [String.toList_ofList, lowercaseFrom_of_isLower [] hlower]

/-- A final sigma and the two characters of a dotted capital letter stay what they are. -/
example : lowercase "ΟΔΟΣ İΣ" = "οδος i̇ς" ∧ lowercase "οδος i̇ς" = "οδος i̇ς" := by
  decide +kernel

end LiveTemplate.Text
