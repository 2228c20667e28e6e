import HostInfo.Proofs.Interface.Table
import HostInfo.Proofs.JsonText

/-!
# Tables as JSON

The JSON of a table loses nothing. No name comes twice in it, as adding an entry never opens a
second row for a name, so the members of the object are the rows of the table, in their order and
with all their entries. What is read from the text is the table again, so no two tables have the
same text.
-/

namespace HostInfo

namespace Json

/-- No object in the value has two members of one name. -/
inductive UniqueNames : Json → Prop
  | null : UniqueNames .null
  | bool (b : Bool) : UniqueNames (.bool b)
  | natural (n : Nat) : UniqueNames (.natural n)
  | number (x : Binary64) : UniqueNames (.number x)
  | string (s : String) : UniqueNames (.string s)
  | array {items : List Json} (h : ∀ item ∈ items, UniqueNames item) : UniqueNames (.array items)
  | object {members : List (String × Json)} (hnodup : (members.map Prod.fst).Nodup)
      (h : ∀ m ∈ members, UniqueNames m.2) : UniqueNames (.object members)

end Json

namespace Interface

theorem mapM_map_of_eq_some {α β : Type} {f : α → β} {g : β → Option α}
    (h : ∀ a, g (f a) = some a) (as : List α) : (as.map f).mapM g = some as := by
  have hcomp : g ∘ f = fun a => pure (id a) := funext h
  rw [List.mapM_map, hcomp, List.mapM_pure, List.map_id]
  rfl

/-! ## Entries -/

theorem Family.ofName_name (f : Family) : ofName? f.name = some f := by
  cases f <;> rfl

/-- An object that gives the entry: each of its parts stands under its own name. -/
structure Entry.GivenBy (e : Entry) (members : List (String × Json)) : Prop where
  address : members.lookup "address" = some (.string e.address)
  family : members.lookup "family" = some (.string e.family.name)
  internal : members.lookup "internal" = some (.bool e.internal)

theorem Entry.exists_givenBy (e : Entry) : ∃ members, e.toJson = .object members ∧
    e.GivenBy members :=
  ⟨_, rfl, rfl, rfl, rfl⟩

theorem Entry.ofJson_toJson (e : Entry) : ofJson? e.toJson = some e := by
  rw [toJson, ofJson?, Family.ofName_name]
  rfl

theorem Entry.numberFree_toJson (e : Entry) : e.toJson.NumberFree := by
  refine .object ?_
  intro m hm
  simp only [List.mem_cons, List.not_mem_nil, or_false] at hm
  rcases hm with rfl | rfl | rfl
  · exact .string e.address
  · exact .string e.family.name
  · exact .bool e.internal

theorem Entry.uniqueNames_toJson (e : Entry) : e.toJson.UniqueNames := by
  have hnodup : ["address", "family", "internal"].Nodup := by decide
  refine .object hnodup ?_
  intro m hm
  simp only [List.mem_cons, List.not_mem_nil, or_false] at hm
  rcases hm with rfl | rfl | rfl
  · exact .string e.address
  · exact .string e.family.name
  · exact .bool e.internal

/-! ## Tables -/

namespace Table

/-- The member of a row: its name, and an array that gives its entries one after the other. -/
def RowGivenBy (row : String × List Entry) (member : String × Json) : Prop :=
  member.1 = row.1 ∧ ∃ items, member.2 = .array items ∧
    List.Forall₂ (fun e item => ∃ members, item = .object members ∧ e.GivenBy members) row.2 items

/-- The members of the object of a table. -/
def members (table : Table) : List (String × Json) :=
  table.rows.map fun (name, entries) => (name, .array (entries.map Entry.toJson))

theorem toJson_eq (table : Table) : table.toJson = .object table.members := rfl

theorem map_fst_members (table : Table) : table.members.map Prod.fst = table.names := by
  rw [members, names, List.map_map]
  rfl

theorem forall₂_members (table : Table) : List.Forall₂ RowGivenBy table.rows table.members := by
  rw [members, List.forall₂_map_right_iff, List.forall₂_same]
  rintro ⟨name, entries⟩ -
  refine ⟨rfl, _, rfl, ?_⟩
  rw [List.forall₂_map_right_iff, List.forall₂_same]
  exact fun e _ => e.exists_givenBy

theorem numberFree_toJson (table : Table) : table.toJson.NumberFree := by
  refine .object ?_
  intro m hm
  obtain ⟨⟨name, entries⟩, -, rfl⟩ := List.mem_map.mp hm
  refine .array ?_
  intro item hitem
  obtain ⟨e, -, rfl⟩ := List.mem_map.mp hitem
  exact e.numberFree_toJson

theorem uniqueNames_toJson {table : Table} (h : table.names.Nodup) :
    table.toJson.UniqueNames := by
  refine .object ?_ ?_
  · rw [← map_fst_members] at h
    exact h
  · intro m hm
    obtain ⟨⟨name, entries⟩, -, rfl⟩ := List.mem_map.mp hm
    refine .array ?_
    intro item hitem
    obtain ⟨e, -, rfl⟩ := List.mem_map.mp hitem
    exact e.uniqueNames_toJson

theorem ofJson_toJson (table : Table) : ofJson? table.toJson = some table := by
  have hrow : ∀ row : String × List Entry,
      rowOfJson? (row.1, .array (row.2.map Entry.toJson)) = some row := by
    intro row
    rw [rowOfJson?, mapM_map_of_eq_some Entry.ofJson_toJson]
    rfl
  rw [toJson, ofJson?, mapM_map_of_eq_some hrow]
  rfl

theorem eq_of_text_eq {a b : Table} (h : a.toJson.text = b.toJson.text) : a = b := by
  have hread : some a.toJson = some b.toJson := by
    rw [← a.numberFree_toJson.ofText_text, ← b.numberFree_toJson.ofText_text, h]
  have hjson := congrArg (Option.bind · ofJson?) hread
  simp only [Option.bind_some, ofJson_toJson] at hjson
  exact Option.some_inj.mp hjson

/-- **The JSON of a table loses nothing.** Whatever is added under whatever names, the compact text
is read as an object in which no name comes twice. Its members are the rows of the table in their
order, each with its entries in theirs, and the table is made out of them again. So no other table
has this text. -/
theorem json_lossless (entries : List (String × Entry)) :
    (∃ members, Json.ofText? (ofList entries).toJson.text = some (.object members) ∧
      (Json.object members).UniqueNames ∧
      List.Forall₂ RowGivenBy (ofList entries).rows members ∧
      members.map Prod.fst = (ofList entries).names ∧
      ofJson? (.object members) = some (ofList entries)) ∧
    ∀ other : Table, other.toJson.text = (ofList entries).toJson.text → other = ofList entries := by
  constructor
  · refine ⟨(ofList entries).members, ?_, ?_, forall₂_members _, map_fst_members _, ?_⟩
    · rw [← toJson_eq]
      exact (numberFree_toJson _).ofText_text
    · rw [← toJson_eq]
      exact uniqueNames_toJson (nodup_names_ofList entries)
    · rw [← toJson_eq]
      exact ofJson_toJson _
  · intro other h
    exact eq_of_text_eq h

/-- Names and addresses with quotes, backslashes and control characters in them, the empty name
among them, added in two orders. -/
theorem json_lossless_escapes :
    let first : Entry := ⟨"\\\"\u0001", .unknown, true⟩
    let second : Entry := ⟨"", .ipv6, false⟩
    let table := ofList [("", first), ("a\"\\\n", second), ("", second)]
    let other := ofList [("", first), ("", second), ("a\"\\\n", second)]
    other.toJson.text = table.toJson.text ∧ other = table := by
  intro first second table other
  have htext : other.toJson.text = table.toJson.text := by decide +kernel
  exact ⟨htext, (json_lossless _).2 other htext⟩

end Table

end Interface

end HostInfo
