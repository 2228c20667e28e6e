import HostInfo.Files.Fixture

/-!
# Files of a fixture

The components of a path that was put together are those of its directory and those of the name
that was put behind it, whatever slashes stand between. A fixture tells paths apart by their
components alone, so adding or removing a file shows at the paths with its components and at no
others.
-/

namespace HostInfo

/-! ## Names between slashes -/

theorem head?_append_of_ne_nil {α : Type} {a : List α} (h : a ≠ []) (b : List α) :
    (a ++ b).head? = a.head? := by
  obtain ⟨c, rest, rfl⟩ := List.exists_cons_of_ne_nil h
  rfl

namespace Path

theorem names_append (a b : List UInt8) :
    names ⟨a ++ slash :: b⟩ = names ⟨a⟩ ++ names ⟨b⟩ := by
  have hsplit : (a ++ slash :: b).splitOn slash = a.splitOn slash ++ b.splitOn slash :=
    List.splitOnP_append_cons a b (by decide)
  rw [names, hsplit, List.filter_append]
  rfl

theorem names_of_not_mem {w : List UInt8} (hne : w ≠ []) (h : slash ∉ w) : names ⟨w⟩ = [w] := by
  rw [names, List.splitOn_eq_singleton h]
  simp [hne]

/-- Bytes that do not start with a slash start with the first name. -/
theorem names_ne_nil {bytes : List UInt8} (hne : bytes ≠ []) (h : bytes.head? ≠ some slash) :
    names ⟨bytes⟩ ≠ [] := by
  obtain ⟨b, rest, rfl⟩ := List.exists_cons_of_ne_nil hne
  obtain ⟨w, pieces, hs⟩ := List.exists_cons_of_ne_nil (List.splitOn_ne_nil slash rest)
  have hb : b ≠ slash := by simpa using h
  rw [names, List.splitOn_cons_eq_if_modifyHead, hs]
  simp [hb]

/-! ## Components of joined paths -/

/-- The text names something below whatever directory it is put behind: it neither starts with a
slash nor with the name of the directory itself. -/
structure IsBelow (relative : String) : Prop where
  notAbsolute : (ofString relative).isAbsolute = false
  notDot : (ofString relative).names.head? ≠ some [dot]

theorem components_ofString_of_isBelow {relative : String} (h : IsBelow relative) :
    (ofString relative).components = ((ofString relative).names.filter (· ≠ [dot])).map .name := by
  rw [components, if_neg (by simp [h.notAbsolute]), if_neg h.notDot]
  rfl

theorem components_of_names {p q : Path} {rest : List (List UInt8)} (hne : p.bytes ≠ [])
    (hhead : q.bytes.head? = p.bytes.head?) (hnames : q.names = p.names ++ rest) :
    q.components = p.components ++ (rest.filter (· ≠ [dot])).map .name := by
  have habsolute : q.isAbsolute = p.isAbsolute := by rw [isAbsolute, isAbsolute, hhead]
  -- a relative path has a name in front already, so what follows is not at its start
  have hstart : q.isAbsolute = false → q.names.head? = p.names.head? := by
    intro hrelative
    rw [hnames]
    refine head?_append_of_ne_nil (names_ne_nil hne ?_) _
    rw [← hhead]
    simpa [isAbsolute] using hrelative
  unfold components
  rw [hnames, List.filter_append, List.map_append, ← List.append_assoc, habsolute]
  rw [habsolute, hnames] at hstart
  cases h : p.isAbsolute with
  | true => rfl
  | false => rw [hstart h]

theorem components_join {relative : String} (h : IsBelow relative) (p : Path) :
    (p.join relative).components = p.components ++ (ofString relative).components := by
  by_cases hempty : p.bytes = []
  · have hp : p = ⟨[]⟩ := by
      cases p
      exact congrArg _ hempty
    subst hp
    rfl
  · rw [components_ofString_of_isBelow h]
    unfold join
    split
    · next hslash =>
        obtain ⟨front, hfront⟩ := List.getLast?_eq_some_iff.mp (hslash.resolve_left hempty)
        refine components_of_names hempty (head?_append_of_ne_nil hempty _) ?_
        have hnil : names ⟨[]⟩ = [] := rfl
        have hp : p.names = names ⟨front⟩ := by
          change names ⟨p.bytes⟩ = _
          rw [hfront, names_append, hnil, List.append_nil]
        rw [hp, hfront, List.append_assoc]
        exact names_append _ _
    · exact components_of_names hempty (head?_append_of_ne_nil hempty _) (names_append _ _)

/-- Joined paths end in the same component as the name that was put behind. -/
theorem getLast?_components_join {relative : String} (h : IsBelow relative) {last : Component}
    (hlast : (ofString relative).components.getLast? = some last) (p : Path) :
    (p.join relative).components.getLast? = some last := by
  rw [components_join h, List.getLast?_append, hlast]
  rfl

end Path

/-! ## What is read after a change -/

namespace Fixture

variable {α : Type} {entries : List (List Path.Component × α)} {key key' : List Path.Component}

theorem lookup_filter_self : (entries.filter (·.1 ≠ key)).lookup key = none := by
  rw [List.lookup_eq_none_iff]
  intro entry hentry
  have hne : entry.1 ≠ key := by simpa using (List.mem_filter.mp hentry).2
  simpa using hne.symm

theorem lookup_filter_of_ne (h : key' ≠ key) :
    (entries.filter (·.1 ≠ key)).lookup key' = entries.lookup key' := by
  induction entries with
  | nil => rfl
  | cons entry entries ih =>
      obtain ⟨k, a⟩ := entry
      by_cases hk : k = key
      · rw [List.filter_cons_of_neg (by simpa using hk), ih, List.lookup_cons, hk,
          beq_false_of_ne h]
      · rw [List.filter_cons_of_pos (by simpa using hk), List.lookup_cons, List.lookup_cons, ih]

variable (f : Fixture) {p q : Path}

theorem readText_addText (h : q.components = p.components) (text : String) :
    (f.addText p text).readText q = .ok text := by
  simp only [readText, addText, insert, h, List.lookup_cons_self]

theorem readText_addText_of_ne (h : q.components ≠ p.components) (text : String) :
    (f.addText p text).readText q = f.readText q := by
  simp only [readText, addText, insert, List.lookup_cons, beq_false_of_ne h,
    lookup_filter_of_ne h]

theorem readText_removeText (h : q.components = p.components) :
    (f.removeText p).readText q = .error (missing "file" q) := by
  simp only [readText, removeText, h, lookup_filter_self]

theorem readText_removeText_of_ne (h : q.components ≠ p.components) :
    (f.removeText p).readText q = f.readText q := by
  simp only [readText, removeText, lookup_filter_of_ne h]

end Fixture

end HostInfo
