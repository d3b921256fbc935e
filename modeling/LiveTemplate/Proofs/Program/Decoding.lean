import LiveTemplate.Program.Settings

/-!
# Decoding settings

The settings read their own member and hand the others on to the configuration of the commands,
which reads its members one behind the other in turn. What comes out is the same as to look for
each of the three members by its name, in the whole document and independently of the two others.
-/

namespace LiveTemplate.Program

open Document (Value)

variable {α : Type} {read? : Value → Option α} {members members' : List (String × Value)}
  {name : String}

/-! ## Looking for a member -/

/-- What the members of a name say, if they say it only once. -/
def lookUp? (read? : Value → Option α) (name : String) (earlier? : Option α)
    (members : List (String × Value)) : Option (Option α) :=
  (members.filter fun member ↦ member.1 = name).foldlM
    (fun found? member ↦ once? read? found? member.2) earlier?

theorem lookUp?_cons_of_eq {member : String × Value} (h : member.1 = name) (earlier? : Option α) :
    lookUp? read? name earlier? (member :: members) =
      (once? read? earlier? member.2).bind (lookUp? read? name · members) := by
  rw [lookUp?, List.filter_cons_of_pos (by simpa using h), List.foldlM_cons]
  rfl

theorem lookUp?_cons_of_ne {member : String × Value} (h : member.1 ≠ name) (earlier? : Option α) :
    lookUp? read? name earlier? (member :: members) = lookUp? read? name earlier? members := by
  rw [lookUp?, List.filter_cons_of_neg (by simpa using h), lookUp?]

/-- A member that is given twice is refused, whatever its values are. -/
theorem foldlM_once?_of_two (member member' : String × Value) :
    (member :: member' :: members).foldlM (fun found? member ↦ once? read? found? member.2) none =
      none := by
  rw [List.foldlM_cons, once?]
  cases read? member.2 with
  | none => rfl
  | some said => rw [Option.map_some, Option.bind_eq_bind, Option.bind_some, List.foldlM_cons]; rfl

/-- The order of the members of a name does not show: a second one is refused wherever it is. -/
theorem lookUp?_eq_of_perm
    (h : (members.filter fun member ↦ member.1 = name).Perm
      (members'.filter fun member ↦ member.1 = name)) :
    lookUp? read? name none members = lookUp? read? name none members' := by
  unfold lookUp?
  generalize members.filter (fun member ↦ member.1 = name) = found at h
  generalize members'.filter (fun member ↦ member.1 = name) = found' at h
  match found, h with
  | [], h => rw [h.symm.eq_nil]
  | [member], h => rw [List.perm_singleton.1 h.symm]
  | _ :: _ :: _, h =>
    match found', h.length_eq with
    | _ :: _ :: _, _ => rw [foldlM_once?_of_two, foldlM_once?_of_two]

/-- What is found is what the only member of that name says, and nothing is found if there is
none. -/
theorem exists_of_lookUp? {found? : Option α} (h : lookUp? read? name none members = some found?) :
    ∃ value? : Option Value, (∀ value, (name, value) ∈ members ↔ value? = some value) ∧
      value?.mapM read? = some found? := by
  have hmem (value : Value) : (name, value) ∈ members ↔
      (name, value) ∈ members.filter fun member ↦ member.1 = name := by simp
  have hname : ∀ member ∈ members.filter fun member ↦ member.1 = name, member.1 = name := by simp
  simp only [hmem]
  unfold lookUp? at h
  generalize members.filter (fun member ↦ member.1 = name) = found at h hname
  match found, h, hname with
  | [], h, _ => exact ⟨none, by simp, h⟩
  | [member], h, hname =>
    refine ⟨some member.2, fun value ↦ ?_, ?_⟩
    · rw [List.mem_singleton, Prod.ext_iff, hname member List.mem_cons_self]
      simp [eq_comm]
    · have hone : once? read? none member.2 = some found? := by simpa using h
      exact hone
  | _ :: _ :: _, h, _ =>
    rw [foldlM_once?_of_two] at h
    contradiction

/-! ## The two decoders -/

theorem CommandMembers.foldlM_visit (found : CommandMembers) :
    members.foldlM CommandMembers.visit found =
      (lookUp? optionalText? "shell" found.shell? members).bind fun shell? ↦
        (lookUp? Program.modes? "async_defaults" found.modes? members).map fun modes? ↦
          ⟨shell?, modes?⟩ := by
  induction members generalizing found with
  | nil => rfl
  | cons member members ih =>
    rw [List.foldlM_cons, CommandMembers.visit]
    by_cases hshell : member.1 = "shell"
    · have hmodes : member.1 ≠ "async_defaults" := by simp [hshell]
      rw [if_pos hshell, lookUp?_cons_of_eq hshell, lookUp?_cons_of_ne hmodes]
      cases once? optionalText? found.shell? member.2 with
      | none => rfl
      | some shell? => exact ih _
    rw [if_neg hshell, lookUp?_cons_of_ne hshell]
    by_cases hmodes : member.1 = "async_defaults"
    · rw [if_pos hmodes, lookUp?_cons_of_eq hmodes]
      cases once? Program.modes? found.modes? member.2 with
      | none => cases lookUp? optionalText? "shell" found.shell? members <;> rfl
      | some modes? => exact ih _
    · rw [if_neg hmodes, lookUp?_cons_of_ne hmodes]
      exact ih _

theorem SettingsMembers.foldlM_visit (found : SettingsMembers) :
    members.foldlM SettingsMembers.visit found =
      (lookUp? optionalNumber? "min_interval_secs" found.minInterval? members).map
        fun minInterval? ↦ ⟨minInterval?, found.others ++
          members.filter fun member ↦ member.1 ≠ "min_interval_secs"⟩ := by
  induction members generalizing found with
  | nil => simp [lookUp?, List.foldlM]
  | cons member members ih =>
    rw [List.foldlM_cons, SettingsMembers.visit]
    by_cases hinterval : member.1 = "min_interval_secs"
    · rw [if_pos hinterval, lookUp?_cons_of_eq hinterval,
        List.filter_cons_of_neg (by simpa using hinterval)]
      cases once? optionalNumber? found.minInterval? member.2 with
      | none => rfl
      | some minInterval? => exact ih _
    · rw [if_neg hinterval, lookUp?_cons_of_ne hinterval,
        List.filter_cons_of_pos (by simpa using hinterval)]
      refine (ih _).trans ?_
      simp only [List.append_assoc, List.singleton_append]

/-- A member that is read before the others are handed on was none of them. -/
theorem lookUp?_filter_ne {read : String} (h : name ≠ read) (earlier? : Option α) :
    lookUp? read? name earlier? (members.filter fun member ↦ member.1 ≠ read) =
      lookUp? read? name earlier? members := by
  have hsame (member : String × Value) :
      (decide (member.1 = name) && decide (member.1 ≠ read)) = decide (member.1 = name) := by
    by_cases hname : member.1 = name
    · simp [hname, h]
    · simp [hname]
  rw [lookUp?, List.filter_filter, List.filter_congr fun member _ ↦ hsame member, lookUp?]

theorem configOf?_eq (members : List (String × Value)) :
    configOf? members = (lookUp? optionalText? "shell" none members).bind fun shell? ↦
      (lookUp? modes? "async_defaults" none members).map fun modes? ↦
        ⟨shell?.join, modes?.getD []⟩ := by
  rw [configOf?, CommandMembers.foldlM_visit]
  cases lookUp? optionalText? "shell" none members with
  | none => rfl
  | some shell? => cases lookUp? modes? "async_defaults" none members <;> rfl

/-- Settings are read by looking for three members, each in the whole document. -/
theorem Settings.ofDocument?_table (members : List (String × Value)) :
    ofDocument? (.table members) =
      (lookUp? optionalNumber? "min_interval_secs" none members).bind fun minInterval? ↦
        (lookUp? optionalText? "shell" none members).bind fun shell? ↦
          (lookUp? modes? "async_defaults" none members).map fun modes? ↦
            ⟨⟨shell?.join, modes?.getD []⟩, minInterval?.join⟩ := by
  have hshell : ("shell" : String) ≠ "min_interval_secs" := by decide
  have hmodes : ("async_defaults" : String) ≠ "min_interval_secs" := by decide
  rw [ofDocument?, SettingsMembers.foldlM_visit]
  cases lookUp? optionalNumber? "min_interval_secs" none members with
  | none => rfl
  | some minInterval? =>
    simp only [Option.map_some, Option.bind_eq_bind, Option.bind_some, List.nil_append,
      configOf?_eq, lookUp?_filter_ne hshell, lookUp?_filter_ne hmodes]
    cases lookUp? optionalText? "shell" none members with
    | none => rfl
    | some shell? => cases lookUp? modes? "async_defaults" none members <;> rfl

end LiveTemplate.Program
