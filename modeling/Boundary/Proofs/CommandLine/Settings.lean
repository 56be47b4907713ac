import Mathlib.Control.Monad.Basic
import Boundary.CommandLine.Run
import Boundary.Files.Tree
import Boundary.Proofs.Fallible

/-!
# Settings from a file and from the command line

A setting on the command line wins over the same setting in a configuration file. The settings are
looked at twice: those of the file when it is read, and the merged ones. So a file has to be usable
by itself, even if what is wrong with it is replaced.

* `ConfigSettings.Merges`: settings of a file with those of the command line in their place.
* `ConfigSettings.merges_iff`: there is one way to merge them.
* `run_resolve_of_reads`: which configuration is in force, or which fault is reported.
* `resolves_merged_iff`: it is the merged one, if it has no fault and the file has none.
-/

namespace Boundary

open Fallible Json

/-! ## Merged settings -/

/-- What a setting is that is given on the command line, or else written in a file. -/
structure Wins {β : Type} (given : Option β) (written merged : β) : Prop where
  of_given : ∀ b, given = some b → merged = b
  of_not_given : given = none → merged = written

private theorem wins_iff {β : Type} {given : Option β} {written merged : β} :
    Wins given written merged ↔ merged = given.getD written := by
  cases given with
  | none => exact ⟨fun h => h.of_not_given rfl, fun h => ⟨nofun, fun _ => h⟩⟩
  | some b =>
    refine ⟨fun h => h.of_given b rfl, fun h => ⟨?_, nofun⟩⟩
    rintro b' ⟨⟩
    exact h

/-- The settings `d` are those of a file, `c`, with the ones on the command line in their place.
Where the files are written to is said by the file alone. -/
structure ConfigSettings.Merges (s : ConfigSettings) (c d : Config) : Prop where
  libraryName : Wins s.libraryName c.libraryName d.libraryName
  symbolPrefix : Wins (s.symbolPrefix.map some) c.symbolPrefix d.symbolPrefix
  managedNamespace : Wins (s.managedNamespace.map some) c.managedNamespace d.managedNamespace
  facade : Wins s.facade c.facade d.facade
  nativePath : Wins s.nativePath c.nativePath d.nativePath
  runtimePath : Wins s.runtimePath c.runtimePath d.runtimePath
  nativeFile : d.nativeFile = c.nativeFile
  managedFile : d.managedFile = c.managedFile

private theorem getD_map_some_eq_or {β : Type} (given written : Option β) :
    (given.map some).getD written = given.or written := by
  cases given <;> rfl

/-- There is one way to merge settings. -/
theorem ConfigSettings.merges_iff {s : ConfigSettings} {c d : Config} :
    s.Merges c d ↔ d = s.override c := by
  constructor
  · rintro ⟨hlibrary, hprefix, hspace, hfacade, hnative, hruntime, hfile, hfile'⟩
    rw [wins_iff] at hlibrary hprefix hspace hfacade hnative hruntime
    rw [getD_map_some_eq_or] at hprefix hspace
    obtain ⟨⟩ := d
    simp_all [override]
  · rintro rfl
    refine ⟨wins_iff.mpr rfl, wins_iff.mpr ?_, wins_iff.mpr ?_, wins_iff.mpr rfl, wins_iff.mpr rfl,
      wins_iff.mpr rfl, rfl, rfl⟩
    · exact (getD_map_some_eq_or _ _).symm
    · exact (getD_map_some_eq_or _ _).symm

/-! ## The two looks at the settings -/

theorem Config.checked_eq_ok_iff {c d : Config} : c.checked = .ok d ↔ d = c ∧ c.fault? = none := by
  unfold checked
  split
  · simp [*]
  · simp [*, eq_comm]

theorem Config.checked_eq_fault_iff {c : Config} {f : ConfigFault} :
    c.checked = .error (.fault f) ↔ c.fault? = some f := by
  unfold checked
  split <;> simp [*]

theorem run_liftExcept {ε σ α : Type} (x : Except ε α) (s : σ) :
    (liftM x : ExceptT ε (StateM σ) α).run s = (x, s) := rfl

section Runs

variable {t : FileTree} {s : ConfigSettings} {path : FilePath} {text : String} {c : Config}

theorem FileTree.run_read {bytes : List UInt8} (h : t.read path = .ok bytes) :
    t.run (FileAccess.read path) = (.ok bytes, t) := by
  refine run_bind_eq_ok_iff.mpr ⟨t, t, rfl, ?_⟩
  rw [h]
  rfl

/-- A file that is read and understood is looked at by itself. -/
theorem run_load_of_reads (hread : t.run (readText path) = (.ok text, t))
    (hdecode : Config.ofText text = .ok c) : t.run (Config.load path) = (c.checked, t) := by
  have hadapt : ((readText path).adapt (ConfigError.text path) :
      ExceptT ConfigError (StateM FileTree) String).run t = (.ok text, t) := run_adapt_of_ok hread _
  have hparse : Config.parse path text = c.checked := by
    rw [Config.parse, hdecode]
    generalize Config.checked = check
    rfl
  have hrun := run_bind ((readText path).adapt (ConfigError.text path))
    (fun text => (liftM (Config.parse path text) : ExceptT ConfigError (StateM FileTree) Config)) t
  rw [hadapt] at hrun
  simp only [run_liftExcept, hparse] at hrun
  exact hrun

/-- The settings of the file are looked at, and then the merged ones. -/
theorem run_resolve_of_reads (hfile : s.file = some path)
    (hread : t.run (readText path) = (.ok text, t)) (hdecode : Config.ofText text = .ok c) :
    t.run s.resolve = (c.checked >>= fun c => (s.override c).checked, t) := by
  have hload := run_load_of_reads hread hdecode
  have hrun := run_bind (Config.load path)
    (fun c => (liftM (s.override c).checked : ExceptT ConfigError (StateM FileTree) Config)) t
  rw [show (Config.load path : ExceptT ConfigError (StateM FileTree) Config).run t =
    (c.checked, t) from hload] at hrun
  have hresolve : t.run s.resolve = (Config.load path >>= fun c =>
      (liftM (s.override c).checked : ExceptT ConfigError (StateM FileTree) Config)).run t := by
    rw [ConfigSettings.resolve, hfile]
    rfl
  rw [hresolve, hrun]
  generalize Config.checked = check
  cases check c <;> rfl

/-- **Settings on the command line win over those of the file, which has to be usable by itself.**
For every file that is read and understood and every choice of settings on the command line, the
merged settings are in force exactly if neither they nor those of the file have a fault. Otherwise
the fault is reported, that of the file first, and in no case is a file changed. -/
theorem resolves_merged_iff (hfile : s.file = some path)
    (hread : t.run (readText path) = (.ok text, t)) (hdecode : Config.ofText text = .ok c) :
    ∃ d, s.Merges c d ∧
      (∀ r t', t.run s.resolve = (.ok r, t') ↔
        (r = d ∧ t' = t) ∧ c.fault? = none ∧ d.fault? = none) ∧
      (∀ f t', t.run s.resolve = (.error (.fault f), t') ↔
        t' = t ∧ (c.fault? = some f ∨ c.fault? = none ∧ d.fault? = some f)) := by
  refine ⟨s.override c, ConfigSettings.merges_iff.mpr rfl, ?_, ?_⟩
  · intro r t'
    rw [run_resolve_of_reads hfile hread hdecode, Prod.mk.injEq, bind_eq_ok_iff]
    simp only [Config.checked_eq_ok_iff]
    grind
  · intro f t'
    rw [run_resolve_of_reads hfile hread hdecode, Prod.mk.injEq, bind_eq_error_iff]
    simp only [Config.checked_eq_ok_iff, Config.checked_eq_fault_iff]
    grind

end Runs

/-! ### Files by themselves -/

/-- A directory with a configuration file of that text. -/
def configTree (text : String) : FileTree where
  entries := [(["work", "crossbind.json"], .file (Text.Utf8.encode text))]

/-- The file of these settings is found by its name. -/
theorem read_configTree (text : String) :
    (configTree text).read ⟨"crossbind.json"⟩ = .ok (Text.Utf8.encode text) := by
  have hplace : (configTree text).target true ⟨"crossbind.json"⟩ =
      .ok (.entry ["work"] "crossbind.json" false) := by
    have hsteps : (⟨"crossbind.json"⟩ : FilePath).steps = [.name "crossbind.json"] := by
      decide +kernel
    have hslash : "crossbind.json".endsWith "/" = false := by decide +kernel
    rw [FileTree.target, if_neg (by decide), hsteps, hslash]
    rfl
  rw [FileTree.read, FileTree.stat, hplace]
  rfl

/-- The text is read as it has been written. -/
theorem run_readText_configTree (text : String) :
    (configTree text).run (readText ⟨"crossbind.json"⟩) = (.ok text, configTree text) := by
  have hread := run_adapt_of_ok (FileTree.run_read (read_configTree text)) TextError.os
  refine run_bind_eq_ok_iff.mpr ⟨_, _, hread, ?_⟩
  rw [Text.Utf8.decode_encode]
  rfl

/-- A file that names the library and what symbols start with. -/
def prefixedText : String := "\x7b\"library_name\": \"demo\", \"symbol_prefix\": \"dm\"\x7d"

/-- Another name for the library takes the place of the one in the file. What symbols start with
stays, and the namespace is derived from the other name. -/
theorem resolves_merged_iff_renamed :
    let s : ConfigSettings := { file := some ⟨"crossbind.json"⟩, libraryName := some "my_lib" }
    let c : Config := { libraryName := "demo", symbolPrefix := some "dm" }
    let d : Config := { libraryName := "my_lib", symbolPrefix := some "dm" }
    (configTree prefixedText).run (readText ⟨"crossbind.json"⟩) =
        (.ok prefixedText, configTree prefixedText) ∧
      Config.ofText prefixedText = .ok c ∧
      (configTree prefixedText).run s.resolve = (.ok d, configTree prefixedText) ∧
      d.space = "MyLib" := by
  intro s c d
  have hread := run_readText_configTree prefixedText
  have hdecode : Config.ofText prefixedText = .ok c := by decide +kernel
  obtain ⟨d', hmerges, hok, -⟩ := resolves_merged_iff (s := s) rfl hread hdecode
  obtain rfl : d' = d := ConfigSettings.merges_iff.mp hmerges
  exact ⟨hread, hdecode, (hok _ _).mpr ⟨⟨rfl, rfl⟩, by decide +kernel, by decide +kernel⟩,
    by decide +kernel⟩

/-- A file that only names the library, by a name that nothing can be derived from. -/
def hyphenatedText : String := "\x7b\"library_name\": \"my-lib\"\x7d"

/-- A file with a fault is refused although the settings on the command line make up for it. -/
theorem not_resolves_hyphenated :
    let s : ConfigSettings :=
      { file := some ⟨"crossbind.json"⟩, symbolPrefix := some "my_lib",
        managedNamespace := some "MyLib" }
    let c : Config := { libraryName := "my-lib" }
    (configTree hyphenatedText).run (readText ⟨"crossbind.json"⟩) =
        (.ok hyphenatedText, configTree hyphenatedText) ∧
      Config.ofText hyphenatedText = .ok c ∧
      (∃ d, s.Merges c d ∧ d.fault? = none) ∧
      ∀ r t', (configTree hyphenatedText).run s.resolve ≠ (.ok r, t') := by
  intro s c
  have hread := run_readText_configTree hyphenatedText
  have hdecode : Config.ofText hyphenatedText = .ok c := by decide +kernel
  have hchecked : c.checked = .error (.fault (.symbolPrefix "my-lib")) :=
    Config.checked_eq_fault_iff.mpr (by decide +kernel)
  refine ⟨hread, hdecode, ⟨_, ConfigSettings.merges_iff.mpr rfl, by decide +kernel⟩, ?_⟩
  intro r t' hrun
  rw [run_resolve_of_reads (s := s) rfl hread hdecode, hchecked] at hrun
  cases hrun

end Boundary
