import Boundary.Demo.Declarations
import Boundary.Proofs.Managed.Served
import Boundary.Proofs.Native.Listing

/-!
# Both files agree

Native code and managed code are written apart from each other. What the native file defines for
callers outside and what the managed file imports are nevertheless the same entry points, and the
managed file calls each of them in one place.

* `Mark.isCall`, `Mark.calls`: calls among what a managed file says.
* `Served.countP_calls`, `filter_isCall_marks`: how often an entry point is called.
* `Agreement`: two files agree on entry points.
* `agreement_of_hasPaths`: the files of a schema agree on its entry points, unless the settings
  name something else where paths are expected.
-/

namespace Boundary

open Managed Source Text

/-! ## Calls among marks -/

/-- Whether a mark is a call of an imported function. -/
def Managed.Mark.isCall : Mark → Bool
  | .call _ => true
  | .entry _ | .declared _ => false

/-- Whether a mark calls the imported function `name`. -/
def Managed.Mark.calls (name : String) : Mark → Bool
  | .call a => a.name = name
  | .entry _ | .declared _ => false

theorem Managed.Mark.isCall_of_calls {name : String} {m : Mark} (h : m.calls name = true) :
    m.isCall = true := by
  cases m with
  | call a => rfl
  | entry symbol | declared i => cases h

section Served

variable {es : List EntryPoint} {ms : List Mark}

theorem Served.isCall (h : Served es ms) : ∀ m ∈ ms, m.isCall = true := by
  induction h with
  | nil => simp
  | cons hserves _ ih =>
    obtain ⟨a, rfl, -⟩ := hserves
    exact List.forall_mem_cons.mpr ⟨rfl, ih⟩

theorem Served.exists_calledBy (h : Served es ms) {a : Application} (ha : Mark.call a ∈ ms) :
    ∃ e ∈ es, e.CalledBy a := by
  induction h with
  | nil => cases ha
  | cons hserves _ ih =>
    obtain ⟨b, rfl, hb⟩ := hserves
    obtain heq | ha := List.mem_cons.mp ha
    · cases heq
      exact ⟨_, List.mem_cons_self, hb⟩
    · obtain ⟨e, he, hcalled⟩ := ih ha
      exact ⟨e, List.mem_cons_of_mem _ he, hcalled⟩

/-- There are as many calls of a symbol as entry points with it. -/
theorem Served.countP_calls (h : Served es ms)
    (hsymbols : ∀ e ∈ es, Naming.managedIdent e.symbol = e.symbol) (symbol : String) :
    ms.countP (·.calls symbol) = es.countP (·.symbol = symbol) := by
  induction h with
  | nil => rfl
  | @cons e m es ms hserves _ ih =>
    obtain ⟨hsymbol, hsymbols⟩ := List.forall_mem_cons.mp hsymbols
    obtain ⟨a, rfl, ha⟩ := hserves
    have hname : (Mark.call a).calls symbol = decide (e.symbol = symbol) := by
      rw [Mark.calls, ha.name, hsymbol]
    rw [List.countP_cons, List.countP_cons, ih hsymbols, hname]

end Served

/-! ## What a managed file says -/

/-- What has the property `p` stands around what does not have it. -/
theorem filter_around {β : Type} {p : β → Bool} {front middle back : List β}
    (haround : ∀ b ∈ front ++ back, p b = true) (hmiddle : ∀ b ∈ middle, p b = false) :
    (front ++ middle ++ back).filter p = front ++ back ∧
      (front ++ middle ++ back).filter (!p ·) = middle := by
  rw [List.forall_mem_append] at haround
  have hfront : front.filter (!p ·) = [] := by simpa using haround.1
  have hback : back.filter (!p ·) = [] := by simpa using haround.2
  have hnone : middle.filter p = [] := by simpa using hmiddle
  have hall : middle.filter (!p ·) = middle := by simpa using hmiddle
  simp only [List.filter_append, List.filter_eq_self.mpr haround.1,
    List.filter_eq_self.mpr haround.2, hfront, hback, hnone, hall, List.append_nil, List.nil_append,
    and_self]

section Schema

variable {c : Config} {s : Schema}

/-- **The calls of a managed file stand around its imports.** -/
theorem filter_isCall_marks :
    (s.managedFile c).marks.filter (·.isCall) = (s.managedFile c).calls ∧
      (s.managedFile c).marks.filter (!·.isCall) =
        (s.entryPoints c.symbols).flatMap EntryPoint.importMarks := by
  obtain ⟨front, back, hmarks, hcalls⟩ : ∃ front back, (s.managedFile c).marks =
      front ++ (s.entryPoints c.symbols).flatMap EntryPoint.importMarks ++ back ∧
        (s.managedFile c).calls = front ++ back := by
    refine ⟨[callOf (Naming.managedIdent (s.managedFile c).bufferFree) ["buffer"] "ref status"],
      (s.managedFile c).wrappers.flatMap (·.marks) ++ (s.managedFile c).enums.flatMap (·.marks)
        ++ (s.managedFile c).facade.marks, ?_, ?_⟩
    · simp only [File.marks, List.append_assoc, List.cons_append, List.nil_append]
      rfl
    · simp only [File.calls, List.append_assoc, List.cons_append, List.nil_append]
  have himports : ∀ m ∈ (s.entryPoints c.symbols).flatMap EntryPoint.importMarks,
      m.isCall = false := by
    intro m hm
    obtain ⟨e, -, hm⟩ := List.mem_flatMap.mp hm
    obtain rfl | rfl : m = .entry e.symbol ∨ m = .declared e.imported := by
      simpa [EntryPoint.importMarks] using hm
    all_goals rfl
  rw [hmarks, hcalls]
  exact filter_around (hcalls ▸ served_file.isCall) himports

end Schema

/-! ## Agreement -/

/-- A `native` file and a `managed` file agree on `entryPoints`. -/
structure Agreement (entryPoints : List EntryPoint) (native managed : String) : Prop where
  /-- The native file defines the entry points for callers outside, in their order, and nothing
  else. -/
  defined : linesRead Native.itemOfLine? native = entryPoints.map EntryPoint.item
  /-- The managed file imports the entry points, in their order, and nothing else. -/
  imported : (linesRead markOf? managed).filter (!·.isCall) =
    entryPoints.flatMap EntryPoint.importMarks
  /-- A call passes an entry point an argument for each parameter and the status. -/
  called : ∀ a, .call a ∈ linesRead markOf? managed →
    ∃ e ∈ entryPoints, a.name = e.symbol ∧ e.CalledBy a
  /-- Every entry point is called in one place. -/
  once : ∀ e ∈ entryPoints, (linesRead markOf? managed).countP (·.calls e.symbol) = 1

/-- **The files of the schema `s` agree on its entry points** if the settings have paths. -/
theorem agreement_of_hasPaths {c : Config} {ds : List Declaration} {s : Schema}
    (hschema : c.schema ds = .ok s) (hlibrary : OneLine c.libraryName) (hpaths : c.HasPaths) :
    Agreement (s.entryPoints c.symbols) (s.nativeSource c) (s.managedSource c) := by
  obtain ⟨hfault, hbuild⟩ := Config.schema_eq_ok_iff.mp hschema
  have h := Schema.build_eq_ok_iff_accepted.mp hbuild
  obtain ⟨hcalls, himports⟩ := filter_isCall_marks (c := c) (s := s)
  have hread := linesRead_managedSource hfault h hlibrary
  have hperm := called_perm h c.symbols
  have hsymbol : ∀ e ∈ s.called c.symbols, Naming.managedIdent e.symbol = e.symbol :=
    fun e he => managedIdent_symbol (hperm.mem_iff.mp he)
  refine ⟨linesRead_nativeSource hschema hlibrary hpaths, hread ▸ himports, ?_, ?_⟩
  · intro a ha
    have hmem : Mark.call a ∈ (s.managedFile c).calls :=
      hcalls ▸ List.mem_filter.mpr ⟨hread ▸ ha, rfl⟩
    obtain ⟨e, he, hcalled⟩ := served_file.exists_calledBy hmem
    exact ⟨e, hperm.mem_iff.mp he, hcalled.name.trans (hsymbol e he), hcalled⟩
  · intro e he
    have hcount : (s.managedFile c).marks.countP (·.calls e.symbol) =
        (s.managedFile c).calls.countP (·.calls e.symbol) := by
      rw [← hcalls, List.countP_filter]
      refine List.countP_congr fun m _ => ?_
      simpa using Mark.isCall_of_calls
    have hone : ((s.entryPoints c.symbols).map (·.symbol)).count e.symbol = 1 :=
      List.count_eq_one_of_mem (h.nodup_entrySymbols _) (List.mem_map_of_mem he)
    rw [hread, hcount, served_file.countP_calls hsymbol, hperm.countP_eq, ← hone, List.count,
      List.countP_map]
    rfl

/-- The files of the demo library agree. -/
theorem agreement_demo :
    ({ libraryName := "demo" } : Config).schema Demo.declarations = .ok Demo.schema ∧
      ({ libraryName := "demo" } : Config).HasPaths ∧ OneLine "demo" ∧
      Agreement (Demo.schema.entryPoints "demo")
        (Demo.schema.nativeSource { libraryName := "demo" })
        (Demo.schema.managedSource { libraryName := "demo" }) := by
  have hpaths : ({ libraryName := "demo" } : Config).HasPaths := by decide +kernel
  have hsymbols : ({ libraryName := "demo" } : Config).symbols = "demo" := by decide +kernel
  have hagreement := agreement_of_hasPaths Demo.schema_eq_ok (by decide) hpaths
  rw [hsymbols] at hagreement
  exact ⟨Demo.schema_eq_ok, hpaths, by decide, hagreement⟩

/-! ### Settings that do not name paths -/

/-- A function that no declaration asks for. -/
def strayFunction : String := "pub extern \"C\" fn stray() {}"

/-- Settings in which the path of the support library goes on with the function. -/
def strayRuntime : Config :=
  { runtimePath := "x as __rt;\n" ++ strayFunction ++ "\nuse x" }

/-- Settings in which the path of the declared items goes on with the function. -/
def strayNative : Config :=
  { nativePath := "u8> = __rt::HandleMap::new();\n" ++ strayFunction
      ++ "\nstatic OTHER: __rt::HandleMap<crate" }

/-- Settings in which the name of the library goes on with the function. -/
def strayLibrary : Config :=
  { libraryName := "demo\n" ++ strayFunction ++ "\n", symbolPrefix := some "demo",
    managedNamespace := some "Demo" }

/-- A struct alone. -/
def structDeclarations : List Declaration := [.struct ⟨"Person", [], Demo.at_ 1⟩]

/-- The settings are accepted, and the files of a struct alone do not agree. -/
def Config.LeadsAstray (c : Config) : Prop :=
  ∃ s, c.schema structDeclarations = .ok s ∧
    ¬ Agreement (s.entryPoints c.symbols) (s.nativeSource c) (s.managedSource c)

/-- A file with the function in a line of its own does not agree with any other. -/
theorem not_agreement_of_line {s : Schema} {c : Config} {before after : List Code}
    {text managed : String}
    (hsource : s.nativeSource c = Code.render (before ++ .line text :: after))
    (hbefore : Balanced before) (hline : strayFunction ∈ split '\n' text) :
    ¬ Agreement (s.entryPoints c.symbols) (s.nativeSource c) managed := by
  intro h
  obtain ⟨i, hread, hname⟩ : ∃ i, Native.itemOfLine? (trimStart strayFunction) = some i ∧
      i.name = "stray" := ⟨_, rfl, by decide +kernel⟩
  have hmem : i ∈ linesRead Native.itemOfLine? (s.nativeSource c) := by
    rw [hsource]
    exact mem_linesRead_of_mem_split hbefore hline hread
  rw [h.defined] at hmem
  obtain ⟨e, he, rfl⟩ := List.mem_map.mp hmem
  -- The symbols of entry points have parts.
  have hparts := underscore_mem_symbol he
  rw [show e.symbol = "stray" from hname] at hparts
  exact absurd hparts (by decide)

private theorem strayFunction_mem_split (front back : String) :
    strayFunction ∈ split '\n' (front ++ "\n" ++ strayFunction ++ "\n" ++ back) := by
  have hline : OneLine strayFunction := .ofList (by decide)
  rw [split_feed, split_feed, split_of_notMem hline]
  simp

/-- **Neither path is looked at, nor are line breaks in the name of the library.** Whichever of
them goes on with a function, the function is in the native file and nowhere else. -/
theorem leadsAstray_stray : strayRuntime.LeadsAstray ∧ strayNative.LeadsAstray ∧
    strayLibrary.LeadsAstray := by
  have hbuild : Schema.build defaultFacade structDeclarations = .ok
      (Surroundings.ofDeclarations defaultFacade structDeclarations).schema :=
    Schema.build_eq_ok_iff.mpr ⟨by decide +kernel, rfl⟩
  have htypes : (Surroundings.ofDeclarations defaultFacade structDeclarations).schema.typeNames =
      [(⟨0⟩, "Person")] := by decide +kernel
  have htable : tableName ((Surroundings.ofDeclarations defaultFacade
      structDeclarations).schema.typeName ⟨0⟩) = "PERSON_HANDLES" := by decide +kernel
  generalize (Surroundings.ofDeclarations defaultFacade structDeclarations).schema = s
    at hbuild htypes htable
  have hruntime : s!"use {strayRuntime.runtimePath} as {Native.support};" =
      "use x as __rt;" ++ "\n" ++ strayFunction ++ "\n" ++ "use x as __rt;" := by decide +kernel
  have hpath : (s.spelling strayNative).path "Person" = "u8> = __rt::HandleMap::new();\n"
      ++ strayFunction ++ "\nstatic OTHER: __rt::HandleMap<crate::Person" := by
    show strayNative.nativePath ++ "::" ++ Naming.nativeIdent "Person" = _
    decide +kernel
  have hnative : Native.tableCode (s.spelling strayNative) ⟨0⟩ "Person" =
      .line ("static PERSON_HANDLES: __rt::HandleMap<u8> = __rt::HandleMap::new();" ++ "\n"
        ++ strayFunction ++ "\n"
        ++ "static OTHER: __rt::HandleMap<crate::Person> = __rt::HandleMap::new();") := by
    show Code.line ("static " ++ tableName (s.typeName ⟨0⟩) ++ ": __rt::HandleMap<"
      ++ (s.spelling strayNative).path "Person" ++ "> = __rt::HandleMap::new();") = _
    rw [htable, hpath]
    exact congrArg Code.line (by decide +kernel)
  let above := ["// @generated by crossbind. Do not edit.", "//", "// Native shims for `demo"]
  let below := ["`. Exported types must be `Clone + Send + Sync`.",
    "// Include this file in the crate that defines them."]
  have hlibrary : lines ("// @generated by crossbind. Do not edit.\n//\n// Native shims for `"
      ++ strayLibrary.libraryName ++ "`. Exported types must be `Clone + Send + Sync`.\n"
      ++ "// Include this file in the crate that defines them.") =
        above ++ strayFunction :: below := by
    decide +kernel
  refine ⟨⟨s, ?_, ?runtime⟩, ⟨s, ?_, ?native⟩, ⟨s, ?_, ?library⟩⟩
  case runtime =>
    obtain ⟨after, hcode⟩ : ∃ after, s.nativeCode strayRuntime =
        (Native.heading strayRuntime).take 2
          ++ .line s!"use {strayRuntime.runtimePath} as {Native.support};" :: after :=
      ⟨_, by simp only [Schema.nativeCode, List.append_assoc]; rfl⟩
    have hbefore : Balanced ((Native.heading strayRuntime).take 2) := .lines _ (.blank .nil)
    rw [hruntime] at hcode
    exact not_agreement_of_line (congrArg Code.render hcode) hbefore (strayFunction_mem_split _ _)
  case native =>
    obtain ⟨after, hcode⟩ : ∃ after, s.nativeCode strayNative = Native.heading strayNative
        ++ Native.tableCode (s.spelling strayNative) ⟨0⟩ "Person" :: after :=
      ⟨_, by
        simp only [Schema.nativeCode, htypes, List.map_singleton, List.append_assoc]
        rfl⟩
    have hbefore : Balanced (Native.heading strayNative) :=
      .lines _ (.blank (.line _ (.blank .nil)))
    rw [hnative] at hcode
    exact not_agreement_of_line (congrArg Code.render hcode) hbefore (strayFunction_mem_split _ _)
  case library =>
    obtain ⟨after, hsource⟩ : ∃ after, s.nativeSource strayLibrary =
        Code.render (above.map Code.line ++ .line strayFunction :: after) :=
      ⟨_, by
        simp only [Schema.nativeSource, Schema.nativeCode, Native.heading, List.cons_append,
          Code.render, Code.writeAll_lines, hlibrary, List.map_append, List.map_cons,
          List.append_assoc]
        rfl⟩
    have hbefore : Balanced (above.map Code.line) := .map fun _ _ => .line _ .nil
    exact not_agreement_of_line hsource hbefore (by decide +kernel)
  · exact Config.schema_eq_ok_iff.mpr ⟨by decide +kernel, hbuild⟩
  · exact Config.schema_eq_ok_iff.mpr ⟨by decide +kernel, hbuild⟩
  · exact Config.schema_eq_ok_iff.mpr ⟨by decide +kernel, hbuild⟩

end Boundary
