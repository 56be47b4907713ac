import Boundary.Bindings
import Boundary.Demo.Declarations
import Boundary.Proofs.Naming.Word
import Boundary.Proofs.Schema.Accepted
import Boundary.Proofs.Text.Split

/-!
# Settings that can be used

* `Config.names_of_fault?`: the names in settings without a fault.
* `Config.schema_eq_ok_iff`: declarations have a schema if settings and declarations are accepted;
  `Config.accepted`: the accepted ones.
* `Demo.schema_eq_ok`: the settings and declarations of the small library are accepted.
* `Config.isWord_symbols`, `Config.mem_space_cases`: the signs in these names.
* `Config.HasPaths`: the paths in settings are paths.
-/

namespace Boundary

variable {c : Config}

/-- The names in settings without a fault. -/
theorem Config.names_of_fault? (h : c.fault? = none) :
    isSymbolPrefix c.symbols = true ∧ isNamespace c.space = true ∧
      Naming.isIdentifier c.facade = true := by
  unfold Config.fault? at h
  split at h
  · cases h
  split at h
  · cases h
  split at h
  · cases h
  split at h
  · cases h
  · simp_all

theorem Config.schema_eq_ok_iff {ds : List Declaration} {s : Schema} :
    c.schema ds = .ok s ↔ c.fault? = none ∧ Schema.build c.facade ds = .ok s := by
  unfold Config.schema
  split
  · simp_all
  · rename_i hfault
    cases Schema.build c.facade ds with
    | ok built =>
      show (Except.ok built : Except Rejection Schema) = .ok s ↔ _
      simp [hfault]
    | error problems =>
      show (Except.error _ : Except Rejection Schema) = .ok s ↔ _
      simp

theorem Config.accepted {ds : List Declaration} {s : Schema} (h : c.schema ds = .ok s) :
    Accepted c.facade ds s :=
  Schema.build_eq_ok_iff_accepted.mp (Config.schema_eq_ok_iff.mp h).2

/-- The small library is accepted under its name. -/
theorem Demo.schema_eq_ok :
    ({ libraryName := "demo" } : Config).schema Demo.declarations = .ok Demo.schema :=
  Config.schema_eq_ok_iff.mpr ⟨by decide +kernel, Demo.build_declarations⟩

theorem Config.isIdentifier_facade (h : c.fault? = none) :
    Naming.isIdentifier c.facade = true := (Config.names_of_fault? h).2.2

theorem Config.isIdentifier_symbols (h : c.fault? = none) :
    Naming.isIdentifier c.symbols = true := by
  have hstart := (Config.names_of_fault? h).1
  rw [isSymbolPrefix, Bool.and_eq_true] at hstart
  exact hstart.1

theorem Config.isWord_symbols (h : c.fault? = none) : Naming.IsWord c.symbols :=
  Naming.isWord_of_isIdentifier (Config.isIdentifier_symbols h)

/-- A namespace consists of words with points between them. -/
theorem Config.mem_space_cases (h : c.fault? = none) {d : Char} (hd : d ∈ c.space.toList) :
    d = '.' ∨ Naming.isWordChar d = true := by
  have hspace := (Config.names_of_fault? h).2.1
  have hparts : ∀ part ∈ Text.split '.' c.space, Naming.IsWord part :=
    fun part hpart => Naming.isWord_of_isIdentifier (List.all_eq_true.mp hspace part hpart)
  by_cases hpoint : d = '.'
  · exact .inl hpoint
  · obtain ⟨part, hpart, hmem⟩ := Text.exists_part_of_mem hd hpoint
    exact .inr (hparts part hpart d hmem)

theorem Config.notMem_space (h : c.fault? = none) {d : Char} (hpoint : d ≠ '.')
    (hd : Naming.isWordChar d = false) : d ∉ c.space.toList := by
  intro hmem
  obtain rfl | hword := Config.mem_space_cases h hmem
  · exact hpoint rfl
  · rw [hd] at hword
    cases hword

/-! ## Paths -/

/-- Whether a path in native source may have the character. -/
def isPathChar (d : Char) : Bool := Naming.isIdentPart d || d = ':' || d = '#' || !Text.isAscii d

/-- The settings name paths where paths are expected. A fault is not reported if they do not. -/
structure Config.HasPaths (c : Config) : Prop where
  native : ∀ d ∈ c.nativePath.toList, isPathChar d = true
  runtime : ∀ d ∈ c.runtimePath.toList, isPathChar d = true

instance (c : Config) : Decidable c.HasPaths :=
  decidable_of_iff ((∀ d ∈ c.nativePath.toList, isPathChar d = true) ∧
      ∀ d ∈ c.runtimePath.toList, isPathChar d = true)
    ⟨fun h => ⟨h.1, h.2⟩, fun h => ⟨h.native, h.runtime⟩⟩

end Boundary
