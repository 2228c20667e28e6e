import HostInfo.Proofs.Fixture
import HostInfo.Proofs.Numerals
import HostInfo.Proofs.Cpu.Fallback

/-!
# The path of a frequency file

The path of a frequency file has the number of its core in it, in the name of a directory, so no
two cores share a file. It ends in a name that no other file looked at ends in.
-/

namespace HostInfo

theorem Utf8.encode_injective : Function.Injective encode := by
  intro s t h
  rw [← String.toByteArray_inj, ← String.utf8Encode_toList, ← String.utf8Encode_toList]
  exact congrArg List.toByteArray h

namespace Cpu

/-! ## The path of a frequency file -/

/-- The name of the directory of a core. -/
def directory (core : UInt32) : List UInt8 := Utf8.encode "cpu" ++ Utf8.encode (toString core)

theorem directory_injective : Function.Injective directory := by
  intro c d h
  have hstrings : toString c = toString d := Utf8.encode_injective (List.append_cancel_left h)
  have hdigits := congrArg String.toList hstrings
  rw [Numeral.toList_toString_uint32, Numeral.toList_toString_uint32] at hdigits
  exact UInt32.toNat_inj.mp (Numeral.digits_injective hdigits)

theorem slash_not_mem_encode_toString (n : UInt32) : Path.slash ∉ Utf8.encode (toString n) := by
  intro hmem
  rw [Utf8.encode, Numeral.toList_toString_uint32, List.mem_flatMap] at hmem
  obtain ⟨c, hc, hslash⟩ := hmem
  obtain ⟨hlow, hhigh⟩ := Numeral.isDigit_iff.mp (Numeral.isDigit_of_mem_digits hc)
  have hlow : 48 ≤ c.val.toNat := Char.le_def.mp hlow
  have hhigh : c.val.toNat ≤ 57 := Char.le_def.mp hhigh
  rw [String.utf8EncodeChar, if_pos (by omega), List.mem_singleton] at hslash
  have hvalue := congrArg UInt8.toNat hslash
  rw [UInt8.toNat_ofNat', Nat.mod_eq_of_lt (by omega)] at hvalue
  have hslash : Path.slash.toNat = 47 := rfl
  omega

theorem slash_not_mem_directory (core : UInt32) : Path.slash ∉ directory core := by
  rw [directory, List.mem_append, not_or]
  exact ⟨by decide, slash_not_mem_encode_toString core⟩

theorem head?_directory (core : UInt32) : (directory core).head? = some 99 := rfl

/-- What stands behind the root of the devices in the path of a frequency file. -/
def frequencyName (core : UInt32) : String :=
  "devices/system/cpu/cpu" ++ toString core ++ "/cpufreq/cpuinfo_max_freq"

theorem encode_frequencyName (core : UInt32) :
    Utf8.encode (frequencyName core) =
      Utf8.encode "devices/system/cpu" ++ Path.slash ::
        (directory core ++ Path.slash :: Utf8.encode "cpufreq/cpuinfo_max_freq") := by
  have hfront : Utf8.encode "devices/system/cpu/cpu" =
      Utf8.encode "devices/system/cpu" ++ Path.slash :: Utf8.encode "cpu" := by
    decide +kernel
  have hback : Utf8.encode "/cpufreq/cpuinfo_max_freq" =
      Path.slash :: Utf8.encode "cpufreq/cpuinfo_max_freq" := by
    decide +kernel
  unfold frequencyName directory
  rw [Utf8.encode_append, Utf8.encode_append, hfront, hback]
  simp only [List.append_assoc, List.cons_append]

theorem names_frequencyName (core : UInt32) :
    (Path.ofString (frequencyName core)).names =
      ["devices", "system", "cpu"].map Utf8.encode ++
        directory core :: ["cpufreq", "cpuinfo_max_freq"].map Utf8.encode := by
  have hne : directory core ≠ [] := by
    intro h
    have hhead := head?_directory core
    rw [h] at hhead
    cases hhead
  have hfront : Path.names ⟨Utf8.encode "devices/system/cpu"⟩ =
      ["devices", "system", "cpu"].map Utf8.encode := by
    decide +kernel
  have hback : Path.names ⟨Utf8.encode "cpufreq/cpuinfo_max_freq"⟩ =
      ["cpufreq", "cpuinfo_max_freq"].map Utf8.encode := by
    decide +kernel
  change Path.names ⟨Utf8.encode (frequencyName core)⟩ = _
  rw [encode_frequencyName, Path.names_append, Path.names_append, hfront, hback,
    Path.names_of_not_mem hne (slash_not_mem_directory core)]
  rfl

theorem isBelow_frequencyName (core : UInt32) : Path.IsBelow (frequencyName core) where
  notAbsolute := by
    have hhead : (Utf8.encode (frequencyName core)).head? = some 100 := by
      rw [encode_frequencyName]
      rfl
    simp [Path.isAbsolute, Path.ofString, hhead, Path.slash]
  notDot := by
    have hhead : (Path.ofString (frequencyName core)).names.head? =
        some (Utf8.encode "devices") := by
      rw [names_frequencyName]
      rfl
    rw [hhead]
    decide

theorem components_frequencyName (core : UInt32) :
    (Path.ofString (frequencyName core)).components =
      (["devices", "system", "cpu"].map Utf8.encode ++
        directory core :: ["cpufreq", "cpuinfo_max_freq"].map Utf8.encode).map .name := by
  have hdot : directory core ≠ [Path.dot] := by
    intro h
    have hhead := head?_directory core
    rw [h] at hhead
    exact absurd hhead (by decide)
  rw [Path.components_ofString_of_isBelow (isBelow_frequencyName core), names_frequencyName,
    List.filter_append, List.filter_cons_of_pos (by simpa using hdot)]
  rfl

theorem getLast?_components_frequencyName (core : UInt32) :
    (Path.ofString (frequencyName core)).components.getLast? =
      some (.name (Utf8.encode "cpuinfo_max_freq")) := by
  rw [components_frequencyName]
  rfl

section Paths

variable {roots : Roots}

theorem components_frequencyPath (core : UInt32) :
    (roots.frequencyPath core).components =
      roots.sys.components ++ (Path.ofString (frequencyName core)).components :=
  Path.components_join (isBelow_frequencyName core) roots.sys

theorem eq_of_components_frequencyPath {c d : UInt32}
    (h : (roots.frequencyPath c).components = (roots.frequencyPath d).components) : c = d := by
  rw [components_frequencyPath, components_frequencyPath, components_frequencyName,
    components_frequencyName] at h
  have hnames := List.map_injective_iff.mpr (fun _ _ => Path.Component.name.inj)
    (List.append_cancel_left h)
  exact directory_injective (List.cons.inj (List.append_cancel_left hnames)).1

theorem components_ne_frequencyPath {relative : String} (h : Path.IsBelow relative)
    {last : Path.Component} (hlast : (Path.ofString relative).components.getLast? = some last)
    (hne : last ≠ .name (Utf8.encode "cpuinfo_max_freq")) (p : Path) (core : UInt32) :
    (p.join relative).components ≠ (roots.frequencyPath core).components := by
  intro hsame
  have hfrequency : (roots.frequencyPath core).components.getLast? = some _ :=
    Path.getLast?_components_join (isBelow_frequencyName core)
      (getLast?_components_frequencyName core) roots.sys
  rw [← hsame, Path.getLast?_components_join h hlast p] at hfrequency
  exact hne (Option.some.inj hfrequency)

end Paths

end Cpu

end HostInfo
