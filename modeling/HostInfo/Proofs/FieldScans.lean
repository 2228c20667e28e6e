import HostInfo.FieldScan

/-!
# What a scan checks

A scan is described by its columns: the name of each field it takes and the texts it takes there.
A scan covers its columns if it fails with the first fault among them, and otherwise takes one
field for each and gives a value that stands in a known relation to the fields. A scan that is put
together from parts covers the columns of its parts, in their order.
-/

namespace HostInfo.FieldScan

structure Column where
  name : String
  accepts : List Char → Bool

/-- The column of a field that must read. -/
def column {α : Type} (name : String) (value? : List Char → Option α) : Column :=
  ⟨name, fun field => (value? field).isSome⟩

/-- The first column whose field is missing or not accepted. -/
def fault? : List Column → List (List Char) → Option FormatError
  | [], _ => none
  | c :: _, [] => some (.missingField c.name)
  | c :: columns, field :: fields =>
    if c.accepts field then fault? columns fields
    else some (.badField c.name (String.ofList field))

theorem fault_append (left right : List Column) (fields : List (List Char)) :
    fault? (left ++ right) fields =
      (fault? left fields).or (fault? right (fields.drop left.length)) := by
  induction left generalizing fields with
  | nil => rfl
  | cons c left ih =>
      cases fields with
      | nil => rfl
      | cons field fields =>
          simp only [List.cons_append, fault?, List.length_cons, List.drop_succ_cons]
          split
          · exact ih fields
          · rfl

/-- No fault means that every column has a field that it accepts. -/
theorem fault_eq_none_iff {columns : List Column} {fields : List (List Char)} :
    fault? columns fields = none ↔
      ∀ (i : Nat) (c : Column), columns[i]? = some c →
        ∃ field, fields[i]? = some field ∧ c.accepts field = true := by
  induction columns generalizing fields with
  | nil => simp [fault?]
  | cons c columns ih =>
      cases fields with
      | nil =>
          constructor
          · intro h
            cases h
          · intro h
            obtain ⟨_, hfield, _⟩ := h 0 c rfl
            cases hfield
      | cons field fields =>
          have hsplit : fault? (c :: columns) (field :: fields) = none ↔
              c.accepts field = true ∧ fault? columns fields = none := by
            rw [fault?]
            split <;> simp_all
          rw [hsplit, ih]
          constructor
          · rintro ⟨haccepts, hrest⟩ i d hd
            cases i with
            | zero =>
                cases hd
                exact ⟨field, rfl, haccepts⟩
            | succ i => exact hrest i d hd
          · intro h
            constructor
            · obtain ⟨_, hfield, haccepts⟩ := h 0 c rfl
              cases hfield
              exact haccepts
            · exact fun i d hd => h (i + 1) d hd

theorem accepts_of_bind {α : Type} {name : String} {value? : List Char → Option α}
    {fields : List (List Char)} {i : Nat} {a : α} (h : fields[i]?.bind value? = some a) :
    ∃ field, fields[i]? = some field ∧ (column name value?).accepts field = true := by
  obtain ⟨field, hfield, ha⟩ := Option.bind_eq_some_iff.mp h
  exact ⟨field, hfield, by simp [column, ha]⟩

/-- Only as many fields are looked at as there are columns. -/
theorem fault_take (columns : List Column) (fields : List (List Char)) :
    fault? columns (fields.take columns.length) = fault? columns fields := by
  induction columns generalizing fields with
  | nil => rfl
  | cons c columns ih =>
      cases fields with
      | nil => rfl
      | cons field fields => rw [List.length_cons, List.take_succ_cons, fault?, fault?, ih]

theorem getElem?_of_take {fields fields' : List (List Char)} {n i : Nat}
    (h : fields.take n = fields'.take n) (hi : i < n) : fields[i]? = fields'[i]? := by
  have htake := congrArg (·[i]?) h
  simpa only [List.getElem?_take_of_lt hi] using htake

variable {α β : Type}

/-- The scan fails with the first fault of its columns. Where there is none it takes their fields
and gives a value that `reads` relates to the fields. -/
def Covers (scan : FieldScan α) (columns : List Column)
    (reads : List (List Char) → α → Prop) : Prop :=
  ∀ fields,
    (∀ e, fault? columns fields = some e → scan fields = .error e) ∧
    (fault? columns fields = none →
      ∃ a, scan fields = .ok (a, fields.drop columns.length) ∧ reads fields a)

theorem Covers.imp {scan : FieldScan α} {columns : List Column}
    {reads reads' : List (List Char) → α → Prop} (h : Covers scan columns reads)
    (himp : ∀ fields a, reads fields a → reads' fields a) : Covers scan columns reads' := by
  intro fields
  refine ⟨(h fields).1, ?_⟩
  intro hnone
  obtain ⟨a, ha, hr⟩ := (h fields).2 hnone
  exact ⟨a, ha, himp fields a hr⟩

theorem covers_pure (a : α) : Covers (pure a) [] fun _ b => b = a := by
  intro fields
  constructor
  · intro e h
    cases h
  · intro _
    exact ⟨a, rfl, rfl⟩

theorem covers_read (name : String) (value? : List Char → Option α) :
    Covers (read name value?) [column name value?]
      fun fields a => fields.head?.bind value? = some a := by
  intro fields
  cases fields with
  | nil =>
      constructor
      · intro e h
        cases h
        rfl
      · intro h
        cases h
  | cons field fields =>
      cases hv : value? field with
      | none =>
          constructor
          · intro e h
            simp only [fault?, column, hv] at h
            cases h
            simp only [read, hv]
          · intro h
            simp [fault?, column, hv] at h
      | some a =>
          constructor
          · intro e h
            simp [fault?, column, hv] at h
          · intro _
            exact ⟨a, by simp only [read, hv]; rfl, hv⟩

theorem Covers.bind {x : FieldScan α} {f : α → FieldScan β} {left right : List Column}
    {reads : List (List Char) → α → Prop} {continues : α → List (List Char) → β → Prop}
    (hx : Covers x left reads) (hf : ∀ a, Covers (f a) right (continues a)) :
    Covers (x >>= f) (left ++ right)
      fun fields b => ∃ a, reads fields a ∧ continues a (fields.drop left.length) b := by
  intro fields
  have hbind : (x >>= f) fields = (x fields >>= fun p => f p.1 p.2) := rfl
  -- a fault among the columns of the first part comes first, whatever the second would say
  rw [fault_append, hbind]
  cases hl : fault? left fields with
  | some e =>
      rw [(hx fields).1 e hl]
      constructor
      · intro e' h
        cases h
        rfl
      · intro h
        cases h
  | none =>
      obtain ⟨a, ha, hr⟩ := (hx fields).2 hl
      rw [ha, Option.none_or, List.length_append, ← List.drop_drop]
      refine ⟨(hf a _).1, ?_⟩
      intro h
      obtain ⟨b, hb, hc⟩ := (hf a _).2 h
      exact ⟨b, hb, a, hr, hc⟩

theorem covers_skip (value? : List Char → Option α) (names : List String) :
    Covers (skip value? names) (names.map (column · value?)) fun _ _ => True := by
  induction names with
  | nil => exact (covers_pure ()).imp fun _ _ _ => trivial
  | cons name names ih =>
      exact ((covers_read name value?).bind fun _ => ih).imp fun _ _ _ => trivial

theorem single?_eq_some_iff {s : List Char} {c : Char} : single? s = some c ↔ s = [c] := by
  rcases s with _ | ⟨d, _ | ⟨e, rest⟩⟩
  · simp [single?]
  · simp [single?]
  · simp [single?]

theorem covers_character (name : String) :
    Covers (character name) [⟨name, fun field => field.length = 1⟩]
      fun fields c => fields.head? = some [c] := by
  have hcolumn : column name single? = ⟨name, fun field => field.length = 1⟩ := by
    rw [column]
    congr 1
    funext field
    rcases field with _ | ⟨c, _ | ⟨d, rest⟩⟩
    · rfl
    · rfl
    · simp [single?]
  rw [← hcolumn]
  refine (covers_read name single?).imp ?_
  intro fields c h
  obtain ⟨field, hfield, hc⟩ := Option.bind_eq_some_iff.mp h
  rw [hfield, single?_eq_some_iff.mp hc]

/-! ## Running a scan over a text -/

theorem next_bind_cons (name : String) (f : List Char → FieldScan α) (field : List Char)
    (fields : List (List Char)) : (next name >>= f) (field :: fields) = f field fields := rfl

theorem runOn_eq (scan : FieldScan α) (s : List Char) :
    scan.runOn s = (scan (Text.fields s)).map Prod.fst := rfl

section Outcome

variable {scan : FieldScan α} {columns : List Column} {reads : List (List Char) → α → Prop}

theorem Covers.value_eq_error_iff (h : Covers scan columns reads) {fields : List (List Char)}
    {e : FormatError} :
    (scan fields).map Prod.fst = .error e ↔ fault? columns fields = some e := by
  cases hfault : fault? columns fields with
  | some e' =>
      rw [(h fields).1 e' hfault]
      constructor
      · intro he
        cases he
        rfl
      · intro he
        cases he
        rfl
  | none =>
      obtain ⟨a, ha, -⟩ := (h fields).2 hfault
      rw [ha]
      constructor
      · intro he
        cases he
      · intro he
        cases he

theorem Covers.exists_value (h : Covers scan columns reads) {fields : List (List Char)}
    (hnone : fault? columns fields = none) :
    ∃ a, (scan fields).map Prod.fst = .ok a ∧ reads fields a := by
  obtain ⟨a, ha, hr⟩ := (h fields).2 hnone
  refine ⟨a, ?_, hr⟩
  rw [ha]
  rfl

/-- If the fields leave no choice of the value, the scan gives the one that is related to them. -/
theorem Covers.value_eq_ok_iff (h : Covers scan columns reads)
    (hunique : ∀ fields a b, reads fields a → reads fields b → a = b)
    {fields : List (List Char)} {a : α} :
    (scan fields).map Prod.fst = .ok a ↔ fault? columns fields = none ∧ reads fields a := by
  cases hfault : fault? columns fields with
  | some e =>
      rw [h.value_eq_error_iff.mpr hfault]
      constructor
      · intro ha
        cases ha
      · rintro ⟨ha, -⟩
        cases ha
  | none =>
      obtain ⟨b, hb, hr⟩ := h.exists_value hfault
      rw [hb]
      constructor
      · intro ha
        cases ha
        exact ⟨rfl, hr⟩
      · rintro ⟨-, ha⟩
        rw [hunique fields b a hr ha]

/-- Fields behind the last column make no difference. -/
theorem Covers.value_congr (h : Covers scan columns reads)
    (hunique : ∀ fields a b, reads fields a → reads fields b → a = b)
    (hlocal : ∀ fields fields' a, fields.take columns.length = fields'.take columns.length →
      reads fields a → reads fields' a)
    {fields fields' : List (List Char)}
    (htake : fields.take columns.length = fields'.take columns.length) :
    (scan fields).map Prod.fst = (scan fields').map Prod.fst := by
  have hfaults : fault? columns fields = fault? columns fields' := by
    rw [← fault_take columns fields, htake, fault_take]
  cases hfault : fault? columns fields with
  | some e =>
      rw [h.value_eq_error_iff.mpr hfault, h.value_eq_error_iff.mpr (hfaults ▸ hfault)]
  | none =>
      obtain ⟨a, ha, hr⟩ := h.exists_value hfault
      rw [ha]
      exact ((h.value_eq_ok_iff hunique).mpr
        ⟨hfaults ▸ hfault, hlocal fields fields' a htake hr⟩).symm

end Outcome

end HostInfo.FieldScan
