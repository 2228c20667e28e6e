import Mathlib.Data.List.Basic
import Mathlib.Data.List.Induction
import Mathlib.Data.List.Nodup
import HostInfo.Interface.Table

/-!
# Tables as groups of entries

Adding entries one after the other groups them: there is one row for each name, the rows stand in
the order in which the names are first met, and each row holds the entries of its name in their
order. Everything else about such tables is read off this one equation, `rows_ofList`.
-/

namespace HostInfo.Interface.Table

/-! ## First sight -/

theorem eraseDups_concat (names : List String) (name : String) :
    (names ++ [name]).eraseDups =
      if name ∈ names then names.eraseDups else names.eraseDups ++ [name] := by
  rw [List.eraseDups_append, List.removeAll]
  by_cases h : name ∈ names
  · rw [if_pos h, List.filter_cons_of_neg (by simpa using h)]
    exact List.append_nil _
  · rw [if_neg h, List.filter_cons_of_pos (by simpa using h)]
    rfl

theorem nodup_eraseDups (names : List String) : names.eraseDups.Nodup := by
  induction names using List.reverseRecOn with
  | nil => exact List.nodup_nil
  | append_singleton names name ih =>
      rw [eraseDups_concat]
      split
      · exact ih
      · next h =>
          rw [← List.concat_eq_append]
          exact List.Nodup.concat (mt List.mem_eraseDups.mp h) ih

/-! ## One more entry -/

/-- The entries under one name, in their order. -/
def entriesOf (name : String) (entries : List (String × Entry)) : List Entry :=
  (entries.filter (·.1 = name)).map Prod.snd

theorem entriesOf_append (name : String) (front back : List (String × Entry)) :
    entriesOf name (front ++ back) = entriesOf name front ++ entriesOf name back := by
  rw [entriesOf, List.filter_append, List.map_append]
  rfl

theorem entriesOf_eq_nil_iff {name : String} {entries : List (String × Entry)} :
    entriesOf name entries = [] ↔ name ∉ entries.map Prod.fst := by
  rw [entriesOf, List.map_eq_nil_iff, List.filter_eq_nil_iff, List.mem_map]
  constructor
  · rintro h ⟨e, he, rfl⟩
    exact h e he (decide_eq_true rfl)
  · intro h e he heq
    exact h ⟨e, he, of_decide_eq_true heq⟩

variable {f : String → List Entry} {names : List String} {name : String}

theorem pushRow_of_not_mem (h : name ∉ names) (entry : Entry) :
    pushRow name entry (names.map fun n => (n, f n)) =
      names.map (fun n => (n, f n)) ++ [(name, [entry])] := by
  induction names with
  | nil => rfl
  | cons n names ih =>
      rw [List.mem_cons, not_or] at h
      rw [List.map_cons, pushRow, if_neg (Ne.symm h.1), ih h.2]
      rfl

theorem pushRow_of_mem (h : name ∈ names) (hnodup : names.Nodup) (entry : Entry) :
    pushRow name entry (names.map fun n => (n, f n)) =
      names.map fun n => (n, if n = name then f n ++ [entry] else f n) := by
  induction names with
  | nil => cases h
  | cons n names ih =>
      obtain ⟨hn, hnames⟩ := List.nodup_cons.mp hnodup
      rw [List.map_cons, pushRow]
      by_cases heq : n = name
      · -- the row is here, and the name does not come again
        subst heq
        rw [if_pos rfl, List.map_cons, if_pos rfl]
        congr 1
        refine List.map_congr_left fun m hm => ?_
        rw [if_neg (ne_of_mem_of_not_mem hm hn)]
      · rw [if_neg heq, List.map_cons, if_neg heq]
        congr 1
        exact ih ((List.mem_cons.mp h).resolve_left (Ne.symm heq)) hnames

/-! ## All entries -/

theorem ofList_concat (entries : List (String × Entry)) (name : String) (entry : Entry) :
    ofList (entries ++ [(name, entry)]) = (ofList entries).push name entry := by
  rw [ofList, List.foldl_append]
  rfl

/-- The rows are the groups of the entries. -/
theorem rows_ofList (entries : List (String × Entry)) :
    (ofList entries).rows =
      (entries.map Prod.fst).eraseDups.map fun name => (name, entriesOf name entries) := by
  induction entries using List.reverseRecOn with
  | nil => rfl
  | append_singleton entries added ih =>
      obtain ⟨name, entry⟩ := added
      have hown : entriesOf name [(name, entry)] = [entry] := by simp [entriesOf]
      have hother : ∀ n, n ≠ name → entriesOf n [(name, entry)] = [] := by
        intro n hn
        rw [entriesOf_eq_nil_iff]
        simpa using hn
      rw [ofList_concat, List.map_append, List.map_singleton, eraseDups_concat]
      change pushRow name entry (ofList entries).rows = _
      rw [ih]
      by_cases h : name ∈ entries.map Prod.fst
      · rw [if_pos h, pushRow_of_mem (List.mem_eraseDups.mpr h) (nodup_eraseDups _)]
        refine List.map_congr_left fun n _ => ?_
        rw [entriesOf_append]
        by_cases hn : n = name
        · rw [if_pos hn, hn, hown]
        · rw [if_neg hn, hother n hn, List.append_nil]
      · rw [if_neg h, pushRow_of_not_mem (mt List.mem_eraseDups.mp h), List.map_append]
        congr 1
        · refine List.map_congr_left fun n hn => ?_
          have hne : n ≠ name := ne_of_mem_of_not_mem (List.mem_eraseDups.mp hn) h
          rw [entriesOf_append, hother n hne, List.append_nil]
        · rw [List.map_singleton, entriesOf_append, hown, entriesOf_eq_nil_iff.mpr h]
          rfl

theorem names_ofList (entries : List (String × Entry)) :
    (ofList entries).names = (entries.map Prod.fst).eraseDups := by
  rw [names, rows_ofList, List.map_map]
  exact List.map_id _

theorem nodup_names_ofList (entries : List (String × Entry)) : (ofList entries).names.Nodup := by
  rw [names_ofList]
  exact nodup_eraseDups _

theorem get?_ofList (entries : List (String × Entry)) (name : String) :
    (ofList entries).get? name =
      if name ∈ entries.map Prod.fst then some (entriesOf name entries) else none := by
  rw [get?, rows_ofList]
  by_cases h : name ∈ entries.map Prod.fst
  · rw [if_pos h]
    exact List.lookup_graph (entriesOf · entries) (List.mem_eraseDups.mpr h)
  · rw [if_neg h, List.lookup_eq_none_iff]
    rintro ⟨n, _⟩ hrow
    obtain ⟨m, hm, heq⟩ := List.mem_map.mp hrow
    cases heq
    simpa using (ne_of_mem_of_not_mem (List.mem_eraseDups.mp hm) h).symm

theorem ne_nil_of_mem_rows_ofList {entries : List (String × Entry)} {row : String × List Entry}
    (h : row ∈ (ofList entries).rows) : row.2 ≠ [] := by
  rw [rows_ofList] at h
  obtain ⟨name, hname, rfl⟩ := List.mem_map.mp h
  intro hnil
  exact entriesOf_eq_nil_iff.mp hnil (List.mem_eraseDups.mp hname)

end HostInfo.Interface.Table
