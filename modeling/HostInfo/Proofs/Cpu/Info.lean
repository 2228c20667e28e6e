import HostInfo.Cpu.Info
import HostInfo.Proofs.Texts

/-!
# What the list of processors says

The number of cores is the number of model lines, and the model is that of the first of them. A
model fits on one line.
-/

namespace HostInfo.Cpu.Info

/-- The model on the first model line; empty where there is none. -/
def firstModel (lines : List (List Char)) : String :=
  match lines.find? isModelLine with
  | some line => String.ofList (value line)
  | none => ""

theorem cores_addLine (info : Info) (line : List Char) :
    (addLine info line).cores = info.cores + if isModelLine line then 1 else 0 := by
  unfold addLine
  by_cases hmodel : isModelLine line
  · by_cases hfirst : info.cores = 0
    · simp [hmodel, hfirst]
    · simp [hmodel, hfirst]
  · by_cases hspeed : isSpeedLine line ∧ info.cores = 1
    · rw [if_neg hmodel, if_pos hspeed, if_neg hmodel]
      cases Binary64.ofChars? (value line) <;> rfl
    · simp [hmodel, hspeed]

theorem model_addLine (info : Info) (line : List Char) :
    (addLine info line).model =
      if isModelLine line ∧ info.cores = 0 then String.ofList (value line) else info.model := by
  unfold addLine
  by_cases hmodel : isModelLine line
  · by_cases hfirst : info.cores = 0
    · simp [hmodel, hfirst]
    · simp [hmodel, hfirst]
  · by_cases hspeed : isSpeedLine line ∧ info.cores = 1
    · rw [if_neg hmodel, if_pos hspeed, if_neg fun h => hmodel h.1]
      cases Binary64.ofChars? (value line) <;> rfl
    · simp [hmodel, hspeed]

theorem cores_foldl (lines : List (List Char)) (info : Info) :
    (lines.foldl addLine info).cores = info.cores + lines.countP isModelLine := by
  induction lines generalizing info with
  | nil => rfl
  | cons line lines ih =>
      rw [List.foldl_cons, ih, cores_addLine, List.countP_cons]
      omega

/-- Once a model line was met the model stays. -/
theorem model_foldl_of_pos (lines : List (List Char)) {info : Info} (h : 0 < info.cores) :
    (lines.foldl addLine info).model = info.model := by
  induction lines generalizing info with
  | nil => rfl
  | cons line lines ih =>
      have hpos : 0 < (addLine info line).cores := by
        rw [cores_addLine]
        omega
      rw [List.foldl_cons, ih hpos, model_addLine, if_neg]
      omega

theorem cores_ofText (text : String) :
    (ofText text).cores = (Text.lines text.toList).countP isModelLine := by
  rw [ofText, cores_foldl]
  exact Nat.zero_add _

theorem model_ofText (text : String) :
    (ofText text).model = firstModel (Text.lines text.toList) := by
  -- up to the first model line nothing is known, and from there on the model stays
  have hfold : ∀ lines (info : Info), info.cores = 0 → info.model = "" →
      (lines.foldl addLine info).model = firstModel lines := by
    intro lines
    induction lines with
    | nil =>
        intro info _ hmodel
        exact hmodel
    | cons line lines ih =>
        intro info hcores hmodel
        rw [List.foldl_cons, firstModel, List.find?_cons]
        cases hline : isModelLine line with
        | true =>
            have hpos : 0 < (addLine info line).cores := by simp [cores_addLine, hline]
            rw [model_foldl_of_pos _ hpos, model_addLine, if_pos ⟨hline, hcores⟩]
        | false =>
            refine ih _ ?_ ?_
            · simp [cores_addLine, hline, hcores]
            · simp [model_addLine, hline, hmodel]
  exact hfold _ _ rfl rfl

theorem isLine_value {line : List Char} (h : '\n' ∉ line) : Text.IsLine (value line) := by
  unfold value
  cases hcut : Text.cutFirst? ':' line with
  | none => exact Text.isLine_nil
  | some parts =>
      obtain ⟨front, v⟩ := parts
      constructor
      · intro hmem
        rw [(Text.cutFirst_eq_some hcut).1] at h
        exact h (List.mem_append_right _ (List.mem_cons_of_mem _ (Text.mem_of_mem_trim hmem)))
      · intro hlast
        exact absurd (Text.isBlank_getLast_trim hlast) (by decide)

theorem isLine_firstModel (text : String) :
    Text.IsLine (firstModel (Text.lines text.toList)).toList := by
  unfold firstModel
  cases hfirst : (Text.lines text.toList).find? isModelLine with
  | none => exact Text.isLine_nil
  | some line =>
      rw [String.toList_ofList]
      exact isLine_value (Text.not_mem_of_mem_lines (List.mem_of_find?_eq_some hfirst))

end HostInfo.Cpu.Info
