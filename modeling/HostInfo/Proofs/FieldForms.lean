import HostInfo.Proofs.FieldScans
import HostInfo.Proofs.NumeralForms

/-!
# Formats of named fields

A positional format names its fields and gives each a form: one character, or a numeral of some
width. Fields are of the format if each of its names has a field of its form. Otherwise there is a
first name whose field is missing or not of its form, and that is what a scan over the columns of
the format complains of.
-/

namespace HostInfo.FieldScan

open Numeral

/-- What a field looks like. -/
inductive Form where
  | character
  | number (w : Width)
deriving DecidableEq, Repr

def Form.Accepts : Form → List Char → Prop
  | .character, field => ∃ c, field = [c]
  | .number w, field => ∃ i, w.Reads field i

/-- Names with the form of their fields, in order. -/
abbrev Format := List (String × Form)

/-- The first `n` names have fields of their form. -/
def FollowsUpTo (n : Nat) (format : Format) (fields : List (List Char)) : Prop :=
  ∀ (i : Nat) (name : String) (form : Form), i < n → format[i]? = some (name, form) →
    ∃ field, fields[i]? = some field ∧ form.Accepts field

/-- Every name has a field of its form. Further fields may follow. -/
def Follows (format : Format) (fields : List (List Char)) : Prop :=
  FollowsUpTo format.length format fields

/-- The complaint about the first name whose field is missing or not of its form. -/
inductive FirstFault (format : Format) (fields : List (List Char)) : String → Prop
  | missing {i : Nat} {name : String} {form : Form} (hname : format[i]? = some (name, form))
      (hbefore : FollowsUpTo i format fields) (h : fields[i]? = none) :
      FirstFault format fields ("missing field " ++ name)
  | bad {i : Nat} {name : String} {form : Form} {field : List Char}
      (hname : format[i]? = some (name, form)) (hbefore : FollowsUpTo i format fields)
      (hfield : fields[i]? = some field) (h : ¬ form.Accepts field) :
      FirstFault format fields ("invalid " ++ name ++ ": '" ++ String.ofList field ++ "'")

/-- The field of this name is a numeral of the width that the format says, and writes the number. -/
def Holds (format : Format) (fields : List (List Char)) (name : String) (value : Int) : Prop :=
  ∃ (i : Nat) (w : Width) (field : List Char),
    format[i]? = some (name, .number w) ∧ fields[i]? = some field ∧ w.Reads field value

/-! ## The first field, and the others -/

theorem followsUpTo_zero (format : Format) (fields : List (List Char)) :
    FollowsUpTo 0 format fields := by
  intro i name form hi
  exact absurd hi (Nat.not_lt_zero i)

theorem followsUpTo_succ_iff {n : Nat} {name : String} {form : Form} {format : Format}
    {field : List Char} {fields : List (List Char)} :
    FollowsUpTo (n + 1) ((name, form) :: format) (field :: fields) ↔
      form.Accepts field ∧ FollowsUpTo n format fields := by
  constructor
  · intro h
    constructor
    · obtain ⟨f, hf, haccepts⟩ := h 0 name form (Nat.succ_pos n) rfl
      cases hf
      exact haccepts
    · intro i name' form' hi hname
      exact h (i + 1) name' form' (Nat.succ_lt_succ hi) hname
  · rintro ⟨haccepts, hrest⟩ i name' form' hi hname
    cases i with
    | zero =>
        cases hname
        exact ⟨field, rfl, haccepts⟩
    | succ i => exact hrest i name' form' (Nat.lt_of_succ_lt_succ hi) hname

theorem firstFault_nil_iff {name : String} {form : Form} {format : Format} {m : String} :
    FirstFault ((name, form) :: format) [] m ↔ m = "missing field " ++ name := by
  constructor
  · intro h
    cases h with
    | @missing i _ _ hname hbefore _ =>
        cases i with
        | zero =>
            cases hname
            rfl
        | succ i =>
            obtain ⟨_, hfield, -⟩ := hbefore 0 name form (Nat.succ_pos i) rfl
            cases hfield
    | bad _ _ hfield _ => cases hfield
  · rintro rfl
    exact .missing (i := 0) rfl (followsUpTo_zero _ _) rfl

theorem firstFault_cons_iff {name : String} {form : Form} {format : Format} {field : List Char}
    {fields : List (List Char)} {m : String} (h : form.Accepts field) :
    FirstFault ((name, form) :: format) (field :: fields) m ↔ FirstFault format fields m := by
  constructor
  · intro hfault
    cases hfault with
    | @missing i _ _ hname hbefore hmissing =>
        cases i with
        | zero => cases hmissing
        | succ i => exact .missing (i := i) hname (followsUpTo_succ_iff.mp hbefore).2 hmissing
    | @bad i _ _ _ hname hbefore hfield hrefuses =>
        cases i with
        | zero =>
            cases hname
            cases hfield
            exact absurd h hrefuses
        | succ i => exact .bad (i := i) hname (followsUpTo_succ_iff.mp hbefore).2 hfield hrefuses
  · intro hfault
    cases hfault with
    | @missing i _ _ hname hbefore hmissing =>
        exact .missing (i := i + 1) hname (followsUpTo_succ_iff.mpr ⟨h, hbefore⟩) hmissing
    | @bad i _ _ _ hname hbefore hfield hrefuses =>
        exact .bad (i := i + 1) hname (followsUpTo_succ_iff.mpr ⟨h, hbefore⟩) hfield hrefuses

theorem firstFault_cons_iff_of_not {name : String} {form : Form} {format : Format}
    {field : List Char} {fields : List (List Char)} {m : String} (h : ¬ form.Accepts field) :
    FirstFault ((name, form) :: format) (field :: fields) m ↔
      m = "invalid " ++ name ++ ": '" ++ String.ofList field ++ "'" := by
  constructor
  · intro hfault
    cases hfault with
    | @missing i _ _ hname hbefore hmissing =>
        cases i with
        | zero => cases hmissing
        | succ i => exact absurd (followsUpTo_succ_iff.mp hbefore).1 h
    | @bad i _ _ _ hname hbefore hfield _ =>
        cases i with
        | zero =>
            cases hname
            cases hfield
            rfl
        | succ i => exact absurd (followsUpTo_succ_iff.mp hbefore).1 h
  · rintro rfl
    exact .bad (i := 0) rfl (followsUpTo_zero _ _) rfl h

/-! ## The columns of a format -/

def Form.column (name : String) : Form → Column
  | .character => ⟨name, fun field => field.length = 1⟩
  | .number w => ⟨name, w.isRead⟩

def Format.columns (format : Format) : List Column :=
  format.map fun (name, form) => form.column name

theorem Format.columns_cons (name : String) (form : Form) (format : Format) :
    columns ((name, form) :: format) = form.column name :: columns format := rfl

theorem Form.name_column (name : String) (form : Form) : (form.column name).name = name := by
  cases form <;> rfl

theorem Form.accepts_column_iff {name : String} {form : Form} {field : List Char} :
    (form.column name).accepts field = true ↔ form.Accepts field := by
  cases form with
  | character =>
      rw [column, decide_eq_true_iff, List.length_eq_one_iff]
      rfl
  | number w => exact Width.isRead_iff

theorem getElem?_columns_eq_some_iff {format : Format} {i : Nat} {c : Column} :
    format.columns[i]? = some c ↔
      ∃ name form, format[i]? = some (name, form) ∧ form.column name = c := by
  rw [Format.columns, List.getElem?_map, Option.map_eq_some_iff, Prod.exists]

/-- A scan over the columns of a format finds no fault in the fields that follow it, and only in
them. -/
theorem fault_columns_eq_none_iff {format : Format} {fields : List (List Char)} :
    fault? format.columns fields = none ↔ Follows format fields := by
  rw [fault_eq_none_iff]
  constructor
  · intro h i name form _ hname
    obtain ⟨field, hfield, haccepts⟩ :=
      h i (form.column name) (getElem?_columns_eq_some_iff.mpr ⟨name, form, hname, rfl⟩)
    exact ⟨field, hfield, Form.accepts_column_iff.mp haccepts⟩
  · intro h i c hc
    obtain ⟨name, form, hname, rfl⟩ := getElem?_columns_eq_some_iff.mp hc
    obtain ⟨hi, -⟩ := List.getElem?_eq_some_iff.mp hname
    obtain ⟨field, hfield, haccepts⟩ := h i name form hi hname
    exact ⟨field, hfield, Form.accepts_column_iff.mpr haccepts⟩

/-- Where there is a fault, the complaint is about the first name at fault. -/
theorem fault_columns_eq_some_iff {format : Format} {fields : List (List Char)} {m : String} :
    (∃ e, fault? format.columns fields = some e ∧ e.message = m) ↔
      FirstFault format fields m := by
  induction format generalizing fields with
  | nil =>
      constructor
      · rintro ⟨e, he, -⟩
        cases he
      · intro h
        cases h with
        | missing hname _ _ => cases hname
        | bad hname _ _ _ => cases hname
  | cons entry format ih =>
      obtain ⟨name, form⟩ := entry
      rw [Format.columns_cons]
      cases fields with
      | nil =>
          rw [firstFault_nil_iff, fault?, form.name_column]
          constructor
          · rintro ⟨e, he, rfl⟩
            cases he
            rfl
          · rintro rfl
            exact ⟨_, rfl, rfl⟩
      | cons field fields =>
          by_cases haccepts : form.Accepts field
          · rw [fault?, if_pos (Form.accepts_column_iff.mpr haccepts), ih,
              firstFault_cons_iff haccepts]
          · rw [fault?, if_neg (fun h => haccepts (Form.accepts_column_iff.mp h)),
              firstFault_cons_iff_of_not haccepts, form.name_column]
            constructor
            · rintro ⟨e, he, rfl⟩
              cases he
              rfl
            · rintro rfl
              exact ⟨_, rfl, rfl⟩

/-! ## Values by name -/

/-- A name that stands once in the format holds what its field writes. -/
theorem holds_iff {format : Format} {i : Nat} {name : String} {w : Width}
    (hnodup : (format.map Prod.fst).Nodup) (hname : format[i]? = some (name, .number w))
    {fields : List (List Char)} {value : Int} :
    Holds format fields name value ↔ ∃ field, fields[i]? = some field ∧ w.Reads field value := by
  constructor
  · rintro ⟨j, w', field, hname', hfield, hreads⟩
    have hi : (format.map Prod.fst)[i]? = some name := by rw [List.getElem?_map, hname]; rfl
    have hj : (format.map Prod.fst)[j]? = some name := by rw [List.getElem?_map, hname']; rfl
    obtain ⟨hlt, -⟩ := List.getElem?_eq_some_iff.mp hi
    obtain rfl : i = j := (List.getElem?_inj hlt hnodup).mp (hi.trans hj.symm)
    rw [hname] at hname'
    cases hname'
    exact ⟨field, hfield, hreads⟩
  · rintro ⟨field, hfield, hreads⟩
    exact ⟨i, w, field, hname, hfield, hreads⟩

/-- So its value is the one that the reader of the width takes from its place. -/
theorem holds_iff_bind {α : Type} {format : Format} {i : Nat} {name : String} {w : Width}
    {read? : List Char → Option α} {value : α → Int}
    (hread : ∀ s a, read? s = some a ↔ w.Reads s (value a))
    (hnodup : (format.map Prod.fst).Nodup) (hname : format[i]? = some (name, .number w))
    {fields : List (List Char)} {a : α} :
    Holds format fields name (value a) ↔ fields[i]?.bind read? = some a := by
  rw [holds_iff hnodup hname, Option.bind_eq_some_iff]
  simp only [hread]

end HostInfo.FieldScan
