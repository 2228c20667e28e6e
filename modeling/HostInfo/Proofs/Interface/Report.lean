import HostInfo.Proofs.Interface.Table
import HostInfo.Proofs.Numerals
import HostInfo.Proofs.SnapshotReport

/-!
# The report on interfaces read back

Each line of the report is either the name of an interface or one of its addresses. An address
starts with two spaces, its family follows, and no family's column starts another's. A name has no
blank in it and so starts with none, whatever else it looks like. Nothing that stands for an
address ends the way an internal address is marked. So the lines are told apart and taken apart
again, and no two tables have the same report.
-/

namespace HostInfo.Interface

/-! ## Addresses -/

theorem mem_joined {mark c : Char} {parts : List (List Char)} (h : c ∈ joined mark parts) :
    c = mark ∨ ∃ part ∈ parts, c ∈ part := by
  induction parts with
  | nil => cases h
  | cons part parts ih =>
      cases parts with
      | nil => exact .inr ⟨part, List.mem_cons_self .., h⟩
      | cons next parts =>
          rw [joined, List.mem_append, List.mem_cons] at h
          · rcases h with h | rfl | h
            · exact .inr ⟨part, List.mem_cons_self .., h⟩
            · exact .inl rfl
            · obtain h | ⟨other, hother, hc⟩ := ih h
              · exact .inl h
              · exact .inr ⟨other, List.mem_cons_of_mem _ hother, hc⟩
          · simp

theorem Ipv4.isBlank_eq_false_of_mem_chars {a : Ipv4} {c : Char} (h : c ∈ a.chars) :
    Text.isBlank c = false := by
  obtain rfl | ⟨part, hpart, hc⟩ := mem_joined h
  · decide
  · obtain ⟨b, -, rfl⟩ := List.mem_map.mp hpart
    exact Numeral.isBlank_eq_false_of_mem_digits hc

theorem Ipv6.isBlank_eq_false_of_mem_groupText {groups : List UInt16} {c : Char}
    (h : c ∈ groupText groups) : Text.isBlank c = false := by
  obtain rfl | ⟨part, hpart, hc⟩ := mem_joined h
  · decide
  · obtain ⟨g, -, rfl⟩ := List.mem_map.mp hpart
    exact Numeral.isBlank_eq_false_of_mem_hex hc

theorem Ipv6.isBlank_eq_false_of_mem_chars {a : Ipv6} {c : Char} (h : c ∈ a.chars) :
    Text.isBlank c = false := by
  unfold chars at h
  split at h
  · rcases List.mem_append.mp h with h | h
    · exact Text.no_blank_of_all (by decide) c h
    · exact Ipv4.isBlank_eq_false_of_mem_chars h
  · dsimp only at h
    split at h
    · exact isBlank_eq_false_of_mem_groupText h
    · rw [List.mem_append, List.mem_append] at h
      rcases h with (h | h) | h
      · exact isBlank_eq_false_of_mem_groupText h
      · exact Text.no_blank_of_all (by decide) c h
      · exact isBlank_eq_false_of_mem_groupText h

/-! ## Lines of addresses -/

/-- What stands behind an internal address. -/
def internalMark : List Char := " (internal)".toList

/-- A text that can be told from the mark behind it. -/
structure Readable (address : String) : Prop where
  isLine : Text.IsLine address.toList
  notMarked : ¬ internalMark <:+ address.toList

theorem readable_of_no_blank {s : List Char} (h : ∀ c ∈ s, Text.isBlank c = false) :
    Readable (String.ofList s) where
  isLine := by
    rw [String.toList_ofList]
    exact Text.isLine_of_no_blank h
  notMarked := by
    rw [String.toList_ofList]
    intro hmark
    have hspace : ' ' ∈ internalMark := by decide
    exact absurd (h ' ' (hmark.subset hspace)) (by decide)

theorem Address.readable_of_shown {a : Address} {text : String} {family : Family}
    (h : a.shown? = some (text, family)) : Readable text := by
  cases a with
  | v4 a =>
      cases h
      exact readable_of_no_blank fun _ => Ipv4.isBlank_eq_false_of_mem_chars
  | v6 a =>
      cases h
      exact readable_of_no_blank fun _ => Ipv6.isBlank_eq_false_of_mem_chars
  | link => cases h
  | other family =>
      cases h
      exact ⟨⟨by decide, by decide⟩, by decide⟩

/-- What stands in front of an address of the family. -/
def Family.column (f : Family) : List Char := ("  " ++ Text.padEnd 5 f.name ++ " ").toList

def Family.all : List Family := [.ipv4, .ipv6, .unknown]

/-- The address of which this is shown behind its family. -/
def Entry.ofShown (family : Family) (shown : List Char) : Entry :=
  if internalMark.isSuffixOf shown then
    ⟨String.ofList (shown.take (shown.length - internalMark.length)), family, true⟩
  else ⟨String.ofList shown, family, false⟩

/-- The address in a line of the report, if it is one of an address. -/
def Entry.ofLine? (line : List Char) : Option Entry :=
  Family.all.findSome? fun f => (Text.stripStart? f.column line).map (Entry.ofShown f)

theorem Family.eq_of_column_prefix {f g : Family} {shown : List Char}
    (h : f.column <+: g.column ++ shown) : f = g := by
  have hcolumns : ∀ f g : Family, f.column <+: g.column → f = g := by
    intro f g
    cases f <;> cases g <;> decide
  -- two columns in front of one line: the shorter one starts the longer one
  rcases List.prefix_or_prefix_of_prefix h (List.prefix_append g.column shown) with h | h
  · exact hcolumns f g h
  · exact (hcolumns g f h).symm

theorem toList_entryRow (e : Entry) :
    (Report.entryRow e).toList =
      e.family.column ++
        (e.address.toList ++ if e.internal then internalMark else []) := by
  unfold Report.entryRow Family.column internalMark
  cases e.internal with
  | true =>
      rw [if_pos rfl, if_pos rfl, String.toList_append, String.toList_append, List.append_assoc]
  | false =>
      rw [if_neg Bool.false_ne_true, if_neg Bool.false_ne_true, String.toList_append,
        String.toList_append, List.append_assoc]
      rfl

theorem Entry.ofShown_eq {e : Entry} (h : Readable e.address) :
    ofShown e.family (e.address.toList ++ if e.internal then internalMark else []) = e := by
  obtain ⟨address, family, internal⟩ := e
  cases internal with
  | true =>
      have hsuffix : internalMark.isSuffixOf (address.toList ++ internalMark) :=
        List.isSuffixOf_iff_suffix.mpr (List.suffix_append ..)
      rw [if_pos rfl, ofShown, if_pos hsuffix, List.length_append, Nat.add_sub_cancel,
        List.take_left, String.ofList_toList]
  | false =>
      have hsuffix : ¬ internalMark.isSuffixOf address.toList :=
        fun hmark => h.notMarked (List.isSuffixOf_iff_suffix.mp hmark)
      rw [if_neg Bool.false_ne_true, List.append_nil, ofShown, if_neg hsuffix, String.ofList_toList]

theorem Entry.ofLine?_entryRow {e : Entry} (h : Readable e.address) :
    ofLine? (Report.entryRow e).toList = some e := by
  have hcolumn : ∀ shown : List Char, ∀ f : Family,
      (Text.stripStart? f.column (e.family.column ++ shown)).map (ofShown f) =
        if f = e.family then some (ofShown e.family shown) else none := by
    intro shown f
    split
    · next hf => rw [hf, Text.stripStart_append, Option.map_some]
    · next hf =>
        have hnone : Text.stripStart? f.column (e.family.column ++ shown) = none :=
          Text.stripStart_eq_none_iff.mpr (mt Family.eq_of_column_prefix hf)
        rw [hnone]
        rfl
  have hread : ofLine? (Report.entryRow e).toList =
      some (ofShown e.family (e.address.toList ++ if e.internal then internalMark else [])) := by
    rw [toList_entryRow, ofLine?]
    simp only [hcolumn]
    cases e.family <;> rfl
  rw [hread, ofShown_eq h]

/-! ## Lines of names -/

theorem toList_header (name : String) : (name ++ ":").toList = name.toList ++ [':'] :=
  String.toList_append ..

theorem Entry.ofLine?_header {name : String} (h : ∀ c ∈ name.toList, Text.isBlank c = false) :
    ofLine? (name ++ ":").toList = none := by
  -- the name may look like a family, but every column has a space in it
  have hspace : ' ' ∉ name.toList ++ [':'] := by
    rw [List.mem_append, not_or]
    exact ⟨fun hmem => absurd (h ' ' hmem) (by decide), by decide⟩
  have hcolumn : ∀ f : Family, ' ' ∈ f.column := by
    intro f
    cases f <;> decide
  rw [toList_header, ofLine?, List.findSome?_eq_none_iff]
  intro f _
  have hnone : Text.stripStart? f.column (name.toList ++ [':']) = none :=
    Text.stripStart_eq_none_iff.mpr fun hstart => hspace (hstart.subset (hcolumn f))
  rw [hnone]
  rfl

/-! ## Tables -/

namespace Table

/-- One more line in front of the part of the report that was read: the addresses that have no name
in front of them yet, and the rows. -/
def addLine (line : List Char) (read : List Entry × List (String × List Entry)) :
    List Entry × List (String × List Entry) :=
  match Entry.ofLine? line with
  | some e => (e :: read.1, read.2)
  | none => ([], (String.ofList line.dropLast, read.1) :: read.2)

/-- The table of which this is the report, read from its end. -/
def ofReport (text : String) : Table := ⟨((Text.lines text.toList).foldr addLine ([], [])).2⟩

/-- No blank is in a name, and every address can be told from the mark behind it. -/
structure Legible (table : Table) : Prop where
  names : ∀ row ∈ table.rows, ∀ c ∈ row.1.toList, Text.isBlank c = false
  addresses : ∀ row ∈ table.rows, ∀ e ∈ row.2, Readable e.address

theorem foldr_entryRow {entries : List Entry} (h : ∀ e ∈ entries, Readable e.address)
    (rows : List (String × List Entry)) :
    (entries.map fun e => (Report.entryRow e).toList).foldr addLine ([], rows) =
      (entries, rows) := by
  induction entries with
  | nil => rfl
  | cons e entries ih =>
      have hentries := ih fun e' he' => h e' (List.mem_cons_of_mem _ he')
      rw [List.map_cons, List.foldr_cons, hentries, addLine,
        Entry.ofLine?_entryRow (h e (List.mem_cons_self ..))]

/-- Reading the lines of a row puts that row in front of the others. -/
theorem foldr_interfaceRows {row : String × List Entry}
    (hname : ∀ c ∈ row.1.toList, Text.isBlank c = false)
    (haddresses : ∀ e ∈ row.2, Readable e.address) (rows : List (String × List Entry)) :
    ((Report.interfaceRows row).map String.toList).foldr addLine ([], rows) =
      ([], row :: rows) := by
  rw [Report.interfaceRows, List.map_cons, List.map_map, List.foldr_cons]
  change addLine (row.1 ++ ":").toList
    ((row.2.map fun e => (Report.entryRow e).toList).foldr addLine ([], rows)) = _
  rw [foldr_entryRow haddresses, addLine, Entry.ofLine?_header hname, toList_header,
    List.dropLast_concat, String.ofList_toList]

/-- The lines of the report. -/
def reportLines (table : Table) : List (List Char) :=
  (table.rows.flatMap Report.interfaceRows).map String.toList

theorem foldr_reportLines {table : Table} (h : table.Legible) :
    table.reportLines.foldr addLine ([], []) = ([], table.rows) := by
  obtain ⟨rows⟩ := table
  obtain ⟨hnames, haddresses⟩ := h
  unfold reportLines
  induction rows with
  | nil => rfl
  | cons row rows ih =>
      rw [List.flatMap_cons, List.map_append, List.foldr_append,
        ih (fun r hr => hnames r (List.mem_cons_of_mem _ hr))
          (fun r hr => haddresses r (List.mem_cons_of_mem _ hr)),
        foldr_interfaceRows (hnames row (List.mem_cons_self ..))
          (haddresses row (List.mem_cons_self ..))]

theorem isLine_of_mem_reportLines {table : Table} (h : table.Legible) :
    ∀ line ∈ table.reportLines, Text.IsLine line := by
  intro line hline
  obtain ⟨text, htext, rfl⟩ := List.mem_map.mp hline
  obtain ⟨row, hrow, htext⟩ := List.mem_flatMap.mp htext
  rcases List.mem_cons.mp htext with rfl | htext
  · have hcolon : Text.IsLine [':'] := ⟨by decide, by decide⟩
    rw [toList_header]
    exact Text.isLine_append (Text.isLine_of_no_blank (h.names row hrow)) hcolon
  · obtain ⟨e, he, rfl⟩ := List.mem_map.mp htext
    have hcolumn : Text.IsLine e.family.column := by
      cases e.family <;> exact ⟨by decide, by decide⟩
    have hmark : Text.IsLine (if e.internal then internalMark else []) := by
      cases e.internal <;> exact ⟨by decide, by decide⟩
    rw [toList_entryRow]
    exact Text.isLine_append hcolumn
      (Text.isLine_append (h.addresses row hrow e he).isLine hmark)

theorem lines_interfaces {table : Table} (h : table.Legible) :
    Text.lines (Report.interfaces table).toList = table.reportLines := by
  rw [Report.interfaces_eq_unlines, Report.toList_unlines]
  exact Text.lines_flatMap (isLine_of_mem_reportLines h)

theorem Legible.ofReport_interfaces {table : Table} (h : table.Legible) :
    ofReport (Report.interfaces table) = table := by
  rw [ofReport, lines_interfaces h, foldr_reportLines h]

end Table

/-! ## Tables of records -/

/-- No blank is in the name of any of the interfaces. -/
def UnbrokenNames (records : List Record) : Prop :=
  ∀ r ∈ records, ∀ c ∈ r.name.toList, Text.isBlank c = false

instance (records : List Record) : Decidable (UnbrokenNames records) :=
  decidable_of_iff (records.all fun r => r.name.toList.all (!Text.isBlank ·))
    (by simp [UnbrokenNames])

theorem Record.entry?_eq_some {r : Record} {name : String} {e : Entry}
    (h : r.entry? = some (name, e)) : name = r.name ∧ Readable e.address := by
  unfold Record.entry? at h
  split at h
  · obtain ⟨⟨text, family⟩, hshown, hentry⟩ := Option.map_eq_some_iff.mp h
    obtain ⟨a, -, hshown⟩ := Option.bind_eq_some_iff.mp hshown
    cases hentry
    exact ⟨rfl, Address.readable_of_shown hshown⟩
  · cases h

theorem legible_group {records : List Record} (h : UnbrokenNames records) :
    (group records).Legible := by
  have hentries : ∀ entry ∈ records.filterMap Record.entry?,
      (∀ c ∈ entry.1.toList, Text.isBlank c = false) ∧ Readable entry.2.address := by
    rintro ⟨name, e⟩ hentry
    obtain ⟨r, hr, hsome⟩ := List.mem_filterMap.mp hentry
    obtain ⟨rfl, hreadable⟩ := Record.entry?_eq_some hsome
    exact ⟨h r hr, hreadable⟩
  constructor
  · intro row hrow
    rw [group, Table.rows_ofList] at hrow
    obtain ⟨name, hname, rfl⟩ := List.mem_map.mp hrow
    obtain ⟨entry, hentry, rfl⟩ := List.mem_map.mp (List.mem_eraseDups.mp hname)
    exact (hentries entry hentry).1
  · intro row hrow e he
    rw [group, Table.rows_ofList] at hrow
    obtain ⟨name, -, rfl⟩ := List.mem_map.mp hrow
    obtain ⟨entry, hentry, rfl⟩ := List.mem_map.mp he
    exact (hentries entry (List.mem_filter.mp hentry).1).2

/-- **The report on interfaces loses nothing.** Where no name has a blank in it, the table is read
back from the text: the names and their order, and under each name the addresses in their order,
each with its family and whether it is internal. So two tables with the same text are the same. -/
theorem report_lossless (records : List Record) (h : UnbrokenNames records) :
    Table.ofReport (Report.interfaces (group records)) = group records ∧
    ∀ others : List Record, UnbrokenNames others →
      Report.interfaces (group others) = Report.interfaces (group records) →
      group others = group records := by
  have hread : Table.ofReport (Report.interfaces (group records)) = group records :=
    (legible_group h).ofReport_interfaces
  refine ⟨hread, ?_⟩
  intro others hothers htext
  rw [← (legible_group hothers).ofReport_interfaces, htext, hread]

/-! ## Names that look like something else -/

/-- Names that look like a family, like an address or like nothing, with addresses of all
families, in the order of the report. -/
def lookalikes : List Record :=
  [⟨"IPv4", ⟨true, true, true⟩, some (.other 5)⟩,
   ⟨"IPv4", ⟨true, false, true⟩, some (.v4 ⟨.replicate 4 127⟩)⟩,
   ⟨"", ⟨true, true, true⟩, some (.v6 ⟨.replicate 8 0⟩)⟩,
   ⟨"::1:", ⟨true, false, true⟩, some (.other 17)⟩]

/-- The same in another order, and an interface that is down. -/
def shuffled : List Record :=
  [⟨"eth0", ⟨false, false, true⟩, some (.v4 ⟨.replicate 4 10⟩)⟩,
   ⟨"IPv4", ⟨true, true, true⟩, some (.other 6)⟩,
   ⟨"", ⟨true, true, true⟩, some (.v6 ⟨.replicate 8 0⟩)⟩,
   ⟨"::1:", ⟨true, false, true⟩, some (.other 17)⟩,
   ⟨"IPv4", ⟨true, false, true⟩, some (.v4 ⟨.replicate 4 127⟩)⟩]

theorem report_lossless_lookalikes :
    Table.ofReport
        ("IPv4:\n" ++ "  <unknown> <unknown sa family> (internal)\n" ++
          "  IPv4  127.127.127.127\n" ++
          ":\n" ++ "  IPv6  :: (internal)\n" ++
          "::1::\n" ++ "  <unknown> <unknown sa family>\n") = group lookalikes ∧
    group shuffled = group lookalikes := by
  have hnames : UnbrokenNames lookalikes := by decide
  have hnames' : UnbrokenNames shuffled := by decide
  obtain ⟨hread, hequal⟩ := report_lossless lookalikes hnames
  have htext : Report.interfaces (group shuffled) = Report.interfaces (group lookalikes) := by
    decide +kernel
  refine ⟨?_, hequal shuffled hnames' htext⟩
  rw [← hread]
  exact congrArg Table.ofReport (by decide +kernel)

end HostInfo.Interface
