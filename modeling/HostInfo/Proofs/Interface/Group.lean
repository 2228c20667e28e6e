import Mathlib.Data.List.Forall2
import Mathlib.Data.Nat.Bitwise
import HostInfo.Interface.Group
import HostInfo.Proofs.Interface.Table

/-!
# Grouping as a filter

The table of a list of records is made of the records that are kept, and of nothing else: they are
filtered and then grouped by name, each giving one entry. What is dropped, what other bits the
flags have, and in which order the records of different names stand leaves no trace in the entries
of a name.
-/

namespace HostInfo.Interface

/-! ## Flags -/

theorem testBit_toNat {w m : UInt32} {i : Nat} (hm : m.toNat = 2 ^ i) :
    w.toNat.testBit i = decide (w &&& m ≠ 0) := by
  have hzero : w &&& m = 0 ↔ w.toNat &&& 2 ^ i = 0 := by
    rw [← UInt32.toNat_inj, UInt32.toNat_and, hm]
    rfl
  rw [Bool.eq_iff_iff, decide_eq_true_iff, ne_eq, hzero, Nat.and_two_pow]
  cases w.toNat.testBit i <;> simp

/-- The flags of a word by masks. -/
theorem Flags.ofWord_eq (w : UInt32) :
    ofWord w =
      ⟨decide (w &&& 0x1 ≠ 0), decide (w &&& 0x8 ≠ 0), decide (w &&& 0x40 ≠ 0)⟩ := by
  rw [ofWord, testBit_toNat (m := 0x1) rfl, testBit_toNat (m := 0x8) rfl,
    testBit_toNat (m := 0x40) rfl]

/-- Only the bits 0, 3 and 6 of a word count. -/
theorem Flags.ofWord_congr {w w' : UInt32} (h : w &&& 0x49 = w' &&& 0x49) :
    ofWord w = ofWord w' := by
  have hmask : ∀ m : UInt32, 0x49 &&& m = m → w &&& m = w' &&& m := by
    intro m hm
    calc w &&& m = w &&& 0x49 &&& m := by rw [UInt32.and_assoc, hm]
      _ = w' &&& 0x49 &&& m := by rw [h]
      _ = w' &&& m := by rw [UInt32.and_assoc, hm]
  rw [ofWord_eq, ofWord_eq, hmask 0x1 rfl, hmask 0x8 rfl, hmask 0x40 rfl]

/-! ## Records as they are listed -/

/-- A record with the whole word of its flags. -/
structure Listed where
  name : String
  word : UInt32
  address : Option Address

namespace Listed

def record (l : Listed) : Record := ⟨l.name, .ofWord l.word, l.address⟩

def table (listed : List Listed) : Table := group (listed.map record)

/-- Up (bit 0), running (bit 6), and with an address that is not one of the link layer. -/
def Kept (l : Listed) : Prop :=
  l.word &&& 0x1 ≠ 0 ∧ l.word &&& 0x40 ≠ 0 ∧ l.address ≠ none ∧ l.address ≠ some .link

instance : DecidablePred Kept := fun l =>
  inferInstanceAs (Decidable (l.word &&& 0x1 ≠ 0 ∧ l.word &&& 0x40 ≠ 0 ∧ _ ∧ _))

/-- The entry for a record that is kept. It is internal if the record is one of a loopback
interface (bit 3), whatever its family. -/
inductive Shows : Listed → Entry → Prop
  | v4 {name : String} {word : UInt32} {a : Ipv4} :
      Shows ⟨name, word, some (.v4 a)⟩ ⟨String.ofList a.chars, .ipv4, word &&& 0x8 ≠ 0⟩
  | v6 {name : String} {word : UInt32} {a : Ipv6} :
      Shows ⟨name, word, some (.v6 a)⟩ ⟨String.ofList a.chars, .ipv6, word &&& 0x8 ≠ 0⟩
  | other {name : String} {word : UInt32} {family : UInt16} :
      Shows ⟨name, word, some (.other family)⟩
        ⟨"<unknown sa family>", .unknown, word &&& 0x8 ≠ 0⟩

theorem entry?_of_not_kept {l : Listed} (h : ¬ l.Kept) : l.record.entry? = none := by
  rw [record, Record.entry?, Flags.ofWord_eq]
  split
  · next hflags =>
      obtain ⟨hup, hrunning⟩ := hflags
      have haddress : l.address = none ∨ l.address = some .link := by
        by_contra hneither
        rw [not_or] at hneither
        exact h ⟨of_decide_eq_true hup, of_decide_eq_true hrunning, hneither⟩
      rcases haddress with hnone | hlink
      · rw [hnone]
        rfl
      · rw [hlink]
        rfl
  · rfl

theorem entry?_of_kept {l : Listed} (h : l.Kept) :
    ∃ e, l.record.entry? = some (l.name, e) ∧ l.Shows e := by
  obtain ⟨name, word, address⟩ := l
  obtain ⟨hup, hrunning, hnone, hlink⟩ := h
  rw [record, Record.entry?, Flags.ofWord_eq,
    if_pos ⟨decide_eq_true hup, decide_eq_true hrunning⟩]
  cases address with
  | none => exact absurd rfl hnone
  | some a =>
      cases a with
      | v4 a => exact ⟨_, rfl, .v4⟩
      | v6 a => exact ⟨_, rfl, .v6⟩
      | link => exact absurd rfl hlink
      | other family => exact ⟨_, rfl, .other⟩

/-! ## The table -/

/-- The entries that are grouped, each with its name. -/
def entries (listed : List Listed) : List (String × Entry) :=
  (listed.map record).filterMap Record.entry?

theorem entries_append (front back : List Listed) :
    entries (front ++ back) = entries front ++ entries back := by
  rw [entries, List.map_append, List.filterMap_append]
  rfl

theorem entries_of_not_kept {dropped : List Listed} (h : ∀ l ∈ dropped, ¬ l.Kept) :
    entries dropped = [] := by
  rw [entries, List.filterMap_eq_nil_iff]
  intro r hr
  obtain ⟨l, hl, rfl⟩ := List.mem_map.mp hr
  exact entry?_of_not_kept (h l hl)

theorem forall₂_entries (listed : List Listed) :
    List.Forall₂ (fun l e => l.name = e.1 ∧ l.Shows e.2) (listed.filter (Kept ·))
      (entries listed) := by
  induction listed with
  | nil => exact .nil
  | cons l listed ih =>
      by_cases h : l.Kept
      · obtain ⟨e, hentry, hshows⟩ := entry?_of_kept h
        rw [List.filter_cons_of_pos (by simpa using h), entries, List.map_cons,
          List.filterMap_cons_some hentry]
        exact .cons ⟨rfl, hshows⟩ ih
      · rw [List.filter_cons_of_neg (by simpa using h), entries, List.map_cons,
          List.filterMap_cons_none (entry?_of_not_kept h)]
        exact ih

theorem map_fst_entries (listed : List Listed) :
    (entries listed).map Prod.fst = (listed.filter (Kept ·)).map name := by
  symm
  rw [← List.forall₂_eq_eq_eq, List.forall₂_map_left_iff, List.forall₂_map_right_iff]
  exact (forall₂_entries listed).imp fun _ _ h => h.1

theorem forall₂_entriesOf (listed : List Listed) (name : String) :
    List.Forall₂ Shows ((listed.filter (Kept ·)).filter (·.name = name))
      (Table.entriesOf name (entries listed)) := by
  rw [Table.entriesOf, List.forall₂_map_right_iff]
  have hfilter := List.rel_filter (p := (·.name = name)) (q := (·.1 = name))
    (fun l e h => by simp only [h.1]) (forall₂_entries listed)
  exact hfilter.imp fun _ _ h => h.2

/-- What the table of the kept records is. -/
structure GroupsOf (kept : List Listed) (table : Table) : Prop where
  /-- The names stand in the order in which they first appear, each once. -/
  names : table.names = (kept.map name).eraseDups
  nodup : table.names.Nodup
  /-- A name has one entry for each of its records, in their order. -/
  present : ∀ name ∈ kept.map Listed.name, ∃ entries, table.get? name = some entries ∧
    List.Forall₂ Shows (kept.filter (·.name = name)) entries
  absent : ∀ name ∉ kept.map Listed.name, table.get? name = none
  nonempty : ∀ row ∈ table.rows, row.2 ≠ []

theorem groupsOf_table (listed : List Listed) :
    GroupsOf (listed.filter (Kept ·)) (table listed) := by
  have htable : table listed = Table.ofList (entries listed) := rfl
  rw [htable]
  constructor
  · rw [Table.names_ofList, map_fst_entries]
  · exact Table.nodup_names_ofList _
  · intro name hname
    rw [← map_fst_entries] at hname
    refine ⟨Table.entriesOf name (entries listed), ?_, forall₂_entriesOf listed name⟩
    rw [Table.get?_ofList, if_pos hname]
  · intro name hname
    rw [← map_fst_entries] at hname
    rw [Table.get?_ofList, if_neg hname]
  · intro row hrow
    exact Table.ne_nil_of_mem_rows_ofList hrow

/-- The entries of a name come from its own records. -/
theorem get?_table_congr {front back : List Listed} {name : String}
    (h : Table.entriesOf name (entries front) = Table.entriesOf name (entries back)) :
    (table front).get? name = (table back).get? name := by
  change (Table.ofList (entries front)).get? name = (Table.ofList (entries back)).get? name
  have hmem : name ∈ (entries front).map Prod.fst ↔ name ∈ (entries back).map Prod.fst := by
    rw [← not_iff_not, ← Table.entriesOf_eq_nil_iff, ← Table.entriesOf_eq_nil_iff, h]
  rw [Table.get?_ofList, Table.get?_ofList, h]
  simp only [hmem]

theorem entriesOf_of_name_ne {l : Listed} {name : String} (h : l.name ≠ name) :
    Table.entriesOf name (entries [l]) = [] := by
  rw [Table.entriesOf_eq_nil_iff, map_fst_entries]
  intro hname
  obtain ⟨m, hm, heq⟩ := List.mem_map.mp hname
  obtain rfl := List.mem_singleton.mp (List.mem_filter.mp hm).1
  exact h heq

theorem get?_table_swap (before after : List Listed) {l m : Listed} (h : l.name ≠ m.name)
    (name : String) :
    (table (before ++ l :: m :: after)).get? name =
      (table (before ++ m :: l :: after)).get? name := by
  refine get?_table_congr ?_
  have hsplit : ∀ a b : Listed, before ++ a :: b :: after = before ++ ([a] ++ ([b] ++ after)) :=
    fun _ _ => rfl
  simp only [hsplit, entries_append, Table.entriesOf_append]
  -- one of the two records has another name, so that one of the middle parts is empty
  by_cases hl : l.name = name
  · rw [entriesOf_of_name_ne (l := m) (hl ▸ h.symm)]
    rfl
  · rw [entriesOf_of_name_ne hl]
    rfl

/-- **Grouping is a filter and then a grouping by name.** The table is the one of the kept records,
name by name in the order of their first appearance. Dropped records leave no trace, wherever they
stand, nor do the bits of a word other than 0, 3 and 6; and neighbours of different names can change
places without a change in what any name has. -/
theorem grouped_by_name :
    (∀ listed, GroupsOf (listed.filter (Kept ·)) (table listed)) ∧
    (∀ before dropped after : List Listed, (∀ l ∈ dropped, ¬ l.Kept) →
      table (before ++ dropped ++ after) = table (before ++ after)) ∧
    (∀ (before after : List Listed) (l : Listed) (word : UInt32),
      word &&& 0x49 = l.word &&& 0x49 →
      table (before ++ { l with word } :: after) = table (before ++ l :: after)) ∧
    (∀ (before after : List Listed) (l m : Listed), l.name ≠ m.name → ∀ name,
      (table (before ++ l :: m :: after)).get? name =
        (table (before ++ m :: l :: after)).get? name) := by
  refine ⟨groupsOf_table, ?_, ?_, ?_⟩
  · intro before dropped after h
    change Table.ofList (entries _) = Table.ofList (entries _)
    rw [entries_append, entries_append, entries_of_not_kept h, List.append_nil, ← entries_append]
  · intro before after l word h
    have hrecord : record { l with word } = record l := by
      rw [record, record, Flags.ofWord_congr h]
    rw [table, table, List.map_append, List.map_append, List.map_cons, List.map_cons, hrecord]
  · intro before after l m h name
    exact get?_table_swap before after h name

/-- A loopback and an Ethernet interface whose records are mixed; one of them is not running. -/
def mixed : List Listed :=
  [⟨"lo", 0x10049, some (.v4 ⟨.replicate 4 127⟩)⟩, ⟨"eth0", 0x1003, some (.other 17)⟩,
   ⟨"eth0", 0x1043, some (.other 29)⟩, ⟨"lo", 0x49, some (.v6 ⟨.replicate 8 0⟩)⟩]

theorem grouped_by_name_mixed :
    table mixed = table (mixed.eraseIdx 1) ∧
    (table mixed).names = ["lo", "eth0"] ∧
    (table [mixed[2], mixed[0], mixed[3]]).get? "lo" = (table (mixed.eraseIdx 1)).get? "lo" := by
  obtain ⟨hgroups, hdropped, -, hswap⟩ := grouped_by_name
  refine ⟨hdropped [mixed[0]] [mixed[1]] (mixed.drop 2) (by decide), ?_, ?_⟩
  · exact (hgroups mixed).names.trans (by decide)
  · exact hswap [] [mixed[3]] mixed[2] mixed[0] (by decide) "lo"

end Listed

end HostInfo.Interface
