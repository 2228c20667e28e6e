import HostInfo.Json.Printer
import HostInfo.Json.Reader
import HostInfo.Proofs.Texts

/-!
# Compact JSON text reads back

The text of a value that holds no number is read as that value, whatever follows it, so two such
values with the same text are one. Strings come first: each character is read back from its
escape. Arrays and objects follow by induction on the value, with the length of the text as the
fuel that is left.
-/

namespace HostInfo.Json

/-! ## Strings -/

theorem codeUnit_hexDigit : ∀ n < 32,
    codeUnit? '0' '0' (hexDigit (n / 16)) (hexDigit (n % 16)) = some n := by
  decide

theorem single_toNat (c : Char) : single? c.toNat = some c := by
  have hvalid : c.toNat.isValidChar := c.valid
  rw [single?, dif_pos hvalid]
  rfl

theorem characters_escape (c : Char) (s : List Char) :
    characters? (escape c ++ s) = characters?.follow (some c) (characters? s) := by
  unfold escape
  split_ifs with hquote hslash hb hf hn hr ht hlow
  · subst hquote; rfl
  · subst hslash; rfl
  · subst hb; rfl
  · subst hf; rfl
  · subst hn; rfl
  · subst hr; rfl
  · subst ht; rfl
  · have hlt : c.toNat < 32 := hlow
    have hunit := codeUnit_hexDigit c.toNat hlt
    have hfirst : isFirstHalf c.toNat = false := by
      simp [isFirstHalf]
      omega
    simp only [List.cons_append, List.nil_append, characters?, hunit, hfirst, single_toNat]
    rfl
  · -- a character that stands for itself is neither the quote nor the backslash nor a control
    have hplain : ¬ (c = '\\' ∨ c < ' ') := not_or.mpr ⟨hslash, hlow⟩
    rw [List.singleton_append, characters?]
    · rw [if_neg hplain]
    all_goals intros; simp_all

theorem characters_flatMap_escape (cs rest : List Char) :
    characters? (cs.flatMap escape ++ '"' :: rest) = some (cs, rest) := by
  induction cs with
  | nil => rfl
  | cons c cs ih =>
      rw [List.flatMap_cons, List.append_assoc, characters_escape, ih]
      rfl

theorem quote_append (s : String) (rest : List Char) :
    quote s ++ rest = '"' :: (s.toList.flatMap escape ++ '"' :: rest) := by
  simp [quote]

/-! ## Marks and names -/

theorem skipBlanks_cons {c : Char} (h : isBlank c = false) (s : List Char) :
    skipBlanks (c :: s) = c :: s :=
  List.dropWhile_cons_of_neg (by simp [h])

theorem skipMark_cons {c : Char} (h : isBlank c = false) (s : List Char) :
    skipMark? c (c :: s) = some s := by
  rw [skipMark?, skipBlanks_cons h]
  exact Text.stripStart_append [c] s

theorem skipMark_cons_of_ne {c d : Char} (h : isBlank d = false) (hne : c ≠ d) (s : List Char) :
    skipMark? c (d :: s) = none := by
  rw [skipMark?, skipBlanks_cons h, Text.stripStart?, if_neg]
  simp [hne]

theorem name_quote (name : String) (rest : List Char) :
    name? (quote name ++ ':' :: rest) = some (name, rest) := by
  rw [quote_append, name?, skipMark_cons (by decide)]
  simp only [Option.bind_eq_bind, Option.bind_some, characters_flatMap_escape]
  rw [skipMark_cons (by decide)]
  simp

/-! ## Values without numbers -/

inductive NumberFree : Json → Prop
  | null : NumberFree .null
  | bool (b : Bool) : NumberFree (.bool b)
  | string (s : String) : NumberFree (.string s)
  | array {items : List Json} (h : ∀ item ∈ items, NumberFree item) : NumberFree (.array items)
  | object {members : List (String × Json)} (h : ∀ m ∈ members, NumberFree m.2) :
      NumberFree (.object members)

/-- Whatever follows its text, the value is read and nothing more. -/
def ReadsBack (j : Json) : Prop :=
  ∀ (fuel : Nat) (rest : List Char), j.compact.length ≤ fuel →
    value? fuel (j.compact ++ rest) = some (j, rest)

/-- A value does not start the way an array ends. -/
theorem NumberFree.compact_eq {j : Json} (h : NumberFree j) :
    ∃ c s, j.compact = c :: s ∧ isBlank c = false ∧ ']' ≠ c := by
  cases h with
  | null => exact ⟨'n', _, rfl, by decide, by decide⟩
  | bool b =>
      cases b with
      | true => exact ⟨'t', _, rfl, by decide, by decide⟩
      | false => exact ⟨'f', _, rfl, by decide, by decide⟩
  | string s => exact ⟨'"', _, rfl, by decide, by decide⟩
  | array _ => exact ⟨'[', _, rfl, by decide, by decide⟩
  | object _ => exact ⟨'\x7b', _, rfl, by decide, by decide⟩

theorem NumberFree.exists_fuel {j : Json} (h : NumberFree j) {fuel : Nat}
    (hfuel : j.compact.length ≤ fuel) : ∃ k, fuel = k + 1 := by
  obtain ⟨c, s, hcompact, -⟩ := h.compact_eq
  rw [hcompact, List.length_cons] at hfuel
  exact ⟨fuel - 1, by omega⟩

theorem readsBack_string (s : String) : ReadsBack (.string s) := by
  intro fuel rest hfuel
  obtain ⟨fuel, rfl⟩ := (NumberFree.string s).exists_fuel hfuel
  rw [compact, quote_append]
  change (characters? _).map _ = _
  rw [characters_flatMap_escape, Option.map_some]
  simp only [String.ofList_toList]

/-! ### Arrays -/

theorem compactItems_cons_cons (item next : Json) (items : List Json) :
    compactItems (item :: next :: items) = item.compact ++ ',' :: compactItems (next :: items) :=
  rfl

theorem compactItems_eq {items : List Json} (hne : items ≠ [])
    (h : ∀ item ∈ items, NumberFree item) :
    ∃ c s, compactItems items = c :: s ∧ isBlank c = false ∧ ']' ≠ c := by
  obtain ⟨item, items, rfl⟩ := List.exists_cons_of_ne_nil hne
  obtain ⟨c, s, hcompact, hc⟩ := (h item (List.mem_cons_self ..)).compact_eq
  cases items with
  | nil => exact ⟨c, s, hcompact, hc⟩
  | cons next items =>
      refine ⟨c, s ++ ',' :: compactItems (next :: items), ?_, hc⟩
      rw [compactItems_cons_cons, hcompact]
      rfl

theorem items_compactItems {items : List Json} (hne : items ≠ [])
    (h : ∀ item ∈ items, ReadsBack item) {fuel : Nat} (rest : List Char)
    (hfuel : (compactItems items).length + 1 ≤ fuel) :
    items? fuel (compactItems items ++ ']' :: rest) = some (items, rest) := by
  induction items generalizing fuel with
  | nil => exact absurd rfl hne
  | cons item items ih =>
      obtain ⟨fuel, rfl⟩ : ∃ k, fuel = k + 1 := ⟨fuel - 1, by omega⟩
      have hitem := h item (List.mem_cons_self ..)
      cases items with
      | nil =>
          rw [compactItems] at hfuel ⊢
          rw [items?, hitem fuel _ (by omega)]
          simp only [Option.bind_eq_bind, Option.bind_some]
          rw [skipMark_cons_of_ne (by decide) (by decide), skipMark_cons (by decide)]
          rfl
      | cons next items =>
          rw [compactItems_cons_cons] at hfuel ⊢
          rw [List.length_append, List.length_cons] at hfuel
          have hlength : (compactItems (next :: items)).length + 1 ≤ fuel := by omega
          have hitems := ih (by simp) (fun i hi => h i (List.mem_cons_of_mem _ hi)) hlength
          rw [List.append_assoc, List.cons_append, items?, hitem fuel _ (by omega)]
          simp only [Option.bind_eq_bind, Option.bind_some]
          rw [skipMark_cons (by decide)]
          simp only [hitems]
          rfl

theorem value?_of_items {fuel : Nat} {s rest : List Char} {items : List Json}
    (hopen : skipMark? ']' s = none) (h : items? fuel s = some (items, rest)) :
    value? (fuel + 1) ('[' :: s) = some (.array items, rest) := by
  rw [value?, skipBlanks_cons (by decide)]
  simp only [hopen, h, Option.map_some]

theorem readsBack_array {items : List Json} (hfree : ∀ item ∈ items, NumberFree item)
    (h : ∀ item ∈ items, ReadsBack item) : ReadsBack (.array items) := by
  intro fuel rest hfuel
  obtain ⟨fuel, rfl⟩ := (NumberFree.array hfree).exists_fuel hfuel
  by_cases hne : items = []
  · subst hne
    rfl
  · obtain ⟨c, s, heq, hblank, hc⟩ := compactItems_eq hne hfree
    have hlength : (compactItems items).length + 1 ≤ fuel := by
      simp [compact] at hfuel
      omega
    have hopen : skipMark? ']' (compactItems items ++ ']' :: rest) = none := by
      rw [heq]
      exact skipMark_cons_of_ne hblank hc _
    have hitems := items_compactItems hne h rest hlength
    have htext : (Json.array items).compact ++ rest =
        '[' :: (compactItems items ++ ']' :: rest) := by
      simp [compact]
    rw [htext]
    exact value?_of_items hopen hitems

/-! ### Objects -/

theorem compactMembers_cons_cons (name : String) (item : Json) (next : String × Json)
    (members : List (String × Json)) :
    compactMembers ((name, item) :: next :: members) =
      quote name ++ ':' :: (item.compact ++ ',' :: compactMembers (next :: members)) := by
  rw [← List.cons_append, ← List.append_assoc]
  rfl

theorem compactMembers_eq {members : List (String × Json)} (hne : members ≠ []) :
    ∃ s, compactMembers members = '"' :: s := by
  obtain ⟨⟨name, item⟩, members, rfl⟩ := List.exists_cons_of_ne_nil hne
  cases members with
  | nil => exact ⟨_, rfl⟩
  | cons next members => exact ⟨_, rfl⟩

theorem members_compactMembers {members : List (String × Json)} (hne : members ≠ [])
    (h : ∀ m ∈ members, ReadsBack m.2) {fuel : Nat} (rest : List Char)
    (hfuel : (compactMembers members).length + 1 ≤ fuel) :
    members? fuel (compactMembers members ++ '\x7d' :: rest) = some (members, rest) := by
  induction members generalizing fuel with
  | nil => exact absurd rfl hne
  | cons member members ih =>
      obtain ⟨name, item⟩ := member
      obtain ⟨fuel, rfl⟩ : ∃ k, fuel = k + 1 := ⟨fuel - 1, by omega⟩
      have hitem : ReadsBack item := h (name, item) (List.mem_cons_self ..)
      cases members with
      | nil =>
          rw [compactMembers, List.length_append, List.length_cons] at hfuel
          rw [compactMembers, List.append_assoc, List.cons_append, members?, name_quote]
          simp only [Option.bind_eq_bind, Option.bind_some]
          rw [hitem fuel _ (by omega)]
          simp only [Option.bind_some]
          rw [skipMark_cons_of_ne (by decide) (by decide), skipMark_cons (by decide)]
          rfl
      | cons next members =>
          rw [compactMembers_cons_cons] at hfuel ⊢
          simp only [List.length_append, List.length_cons] at hfuel
          have hlength : (compactMembers (next :: members)).length + 1 ≤ fuel := by omega
          have hmembers := ih (by simp) (fun m hm => h m (List.mem_cons_of_mem _ hm)) hlength
          rw [List.append_assoc, List.cons_append, List.append_assoc, members?, name_quote]
          simp only [Option.bind_eq_bind, Option.bind_some]
          rw [hitem fuel _ (by omega)]
          simp only [Option.bind_some]
          rw [List.cons_append, skipMark_cons (by decide)]
          simp only [hmembers]
          rfl

theorem value?_of_members {fuel : Nat} {s rest : List Char} {members : List (String × Json)}
    (hopen : skipMark? '\x7d' s = none) (h : members? fuel s = some (members, rest)) :
    value? (fuel + 1) ('\x7b' :: s) = some (.object members, rest) := by
  rw [value?, skipBlanks_cons (by decide)]
  simp only [hopen, h, Option.map_some]

theorem readsBack_object {members : List (String × Json)}
    (hfree : ∀ m ∈ members, NumberFree m.2) (h : ∀ m ∈ members, ReadsBack m.2) :
    ReadsBack (.object members) := by
  intro fuel rest hfuel
  obtain ⟨fuel, rfl⟩ := (NumberFree.object hfree).exists_fuel hfuel
  by_cases hne : members = []
  · subst hne
    rfl
  · obtain ⟨s, heq⟩ := compactMembers_eq hne
    have hlength : (compactMembers members).length + 1 ≤ fuel := by
      simp [compact] at hfuel
      omega
    have hopen : skipMark? '\x7d' (compactMembers members ++ '\x7d' :: rest) = none := by
      rw [heq]
      exact skipMark_cons_of_ne (by decide) (by decide) _
    have hmembers := members_compactMembers hne h rest hlength
    have htext : (Json.object members).compact ++ rest =
        '\x7b' :: (compactMembers members ++ '\x7d' :: rest) := by
      simp [compact]
    rw [htext]
    exact value?_of_members hopen hmembers

/-! ### All of them -/

theorem NumberFree.readsBack {j : Json} (h : NumberFree j) : ReadsBack j := by
  induction h with
  | null =>
      intro fuel rest hfuel
      obtain ⟨fuel, rfl⟩ := NumberFree.null.exists_fuel hfuel
      rfl
  | bool b =>
      intro fuel rest hfuel
      obtain ⟨fuel, rfl⟩ := (NumberFree.bool b).exists_fuel hfuel
      cases b <;> rfl
  | string s => exact readsBack_string s
  | array hfree ih => exact readsBack_array hfree ih
  | object hfree ih => exact readsBack_object hfree ih

theorem NumberFree.ofText_text {j : Json} (h : NumberFree j) : ofText? j.text = some j := by
  have hread := h.readsBack j.compact.length [] le_rfl
  rw [List.append_nil] at hread
  rw [ofText?, text, String.toList_ofList, ofChars?, hread]
  rfl

/-- A string has the same text in both layouts. -/
theorem ofText_prettyText_string (s : String) :
    ofText? (Json.string s).prettyText = some (.string s) := by
  rw [prettyText, indented]
  exact (NumberFree.string s).ofText_text

end HostInfo.Json
