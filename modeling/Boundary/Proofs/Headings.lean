import Boundary.Native.Source
import Boundary.Proofs.Config
import Boundary.Proofs.Managed.Levels
import Boundary.Proofs.Naming.Signs
import Boundary.Proofs.Source.Remarks

/-!
# The name of the library in remarks

Both generated files begin with remarks in which the name of the library is quoted, and the managed
file quotes it once more where the class of the free functions is described. It is quoted word for
word. A name that symbols or the namespace are derived from has to be fit for that, but both may be
given by themselves, and then the name may have line breaks. What stands behind a line break is
code, unless it is a comment of its own.

* `Native.Remarked`, `Managed.Remarked`: files with nothing but remarks in these places.
* `Native.remarked_iff_staysComment`, `Managed.remarked_iff_staysComment`: which names lead to them.
* `Config.staysComment_libraryName`: names that something is derived from have one line.
* `remarked_iff`: all of it for settings without a fault.
-/

namespace Boundary

open Source Text Naming

/-- Characters that end a line of managed source. -/
def isManagedEnd (c : Char) : Bool := ['\n', '\r', '\u0085', '\u2028', '\u2029'].contains c

/-! ## Native files -/

namespace Native

variable {c : Config}

/-- The line that a native file names the support library in. -/
def useLine (c : Config) : String := s!"use {c.runtimePath} as {support};"

/-- What a native file begins with, up to the line that names the support library. -/
def remarks (c : Config) : List Code := (heading c).dropLast.dropLast

/-- What a native file begins with are remarks. -/
def Remarked (s : Schema) (c : Config) : Prop :=
  ∃ rest, s.nativeSource c = Code.render (remarks c) ++ useLine c ++ "\n" ++ rest ∧
    Commented isFeed (Code.render (remarks c))

/-- `libraryName` is quoted in a text that is written line by line. -/
theorem remarks_eq (c : Config) : remarks c = [
    .lines ("// @generated by crossbind. Do not edit.\n//\n// Native shims for `"
      ++ c.libraryName ++ "`. Exported types must be `Clone + Send + Sync`.\n"
      ++ "// Include this file in the crate that defines them."), .blank] := rfl

private theorem heading_eq (c : Config) : heading c = remarks c ++ [.line (useLine c), .blank] := by
  simp [remarks, heading, useLine]

/-- The remarks stand in the file before the line that names the support library. -/
theorem nativeSource_eq_remarks (s : Schema) (c : Config) :
    ∃ rest, s.nativeSource c = Code.render (remarks c) ++ useLine c ++ "\n" ++ rest := by
  have hcode : ∃ after, s.nativeCode c = remarks c ++ .line (useLine c) :: after :=
    ⟨_, by
      simp only [Schema.nativeCode, heading_eq, List.append_assoc, List.cons_append]
      rfl⟩
  obtain ⟨after, hcode⟩ := hcode
  rw [Schema.nativeSource, hcode]
  exact Code.render_line (.lines _ (.blank .nil)) _ _

private theorem quotes_remarks : Quotes isFeed "// Native shims for `"
    "`. Exported types must be `Clone + Send + Sync`." :=
  .ofList (by decide) (by decide) (by decide) (by decide)

theorem commented_remarks_iff :
    Commented isFeed (Code.render (remarks c)) ↔ StaysComment isFeed c.libraryName := by
  let above := "// @generated by crossbind. Do not edit."
  let quoting := "// Native shims for `" ++ c.libraryName
    ++ "`. Exported types must be `Clone + Send + Sync`."
  let below := "// Include this file in the crate that defines them."
  have hfront : "// @generated by crossbind. Do not edit.\n//\n// Native shims for `" =
      above ++ "\n" ++ "//" ++ "\n" ++ "// Native shims for `" := rfl
  have hback : "`. Exported types must be `Clone + Send + Sync`.\n" =
      "`. Exported types must be `Clone + Send + Sync`." ++ "\n" := rfl
  have htext : "// @generated by crossbind. Do not edit.\n//\n// Native shims for `"
      ++ c.libraryName ++ "`. Exported types must be `Clone + Send + Sync`.\n" ++ below =
      above ++ "\n" ++ "//" ++ "\n" ++ quoting ++ "\n" ++ below := by
    rw [hfront, hback]
    simp only [quoting, String.append_assoc]
  have habove : Commented isFeed above := commented_ofList (by decide) (by decide)
  have hempty : Commented isFeed "//" := commented_ofList (by decide) (by decide)
  have hbelow : Commented isFeed below := commented_ofList (by decide) (by decide)
  rw [remarks_eq, commented_render_lines_iff, htext, commented_feed rfl, commented_feed rfl,
    commented_feed rfl, and_iff_right habove, and_iff_right hempty, and_iff_left hbelow,
    quotes_remarks.commented_iff]

/-- A native file begins with remarks exactly if `libraryName` may be quoted in a comment. -/
theorem remarked_iff_staysComment (s : Schema) :
    Remarked s c ↔ StaysComment isFeed c.libraryName := by
  obtain ⟨rest, hsource⟩ := nativeSource_eq_remarks s c
  rw [← commented_remarks_iff]
  exact ⟨fun ⟨_, _, hcommented⟩ => hcommented, fun hcommented => ⟨rest, hsource, hcommented⟩⟩

end Native

/-! ## Managed files -/

namespace Managed

variable {c : Config}

/-- What a managed file begins with, up to the line that turns on the checks for null. -/
def remarks (c : Config) : List Code := (heading c.libraryName c.space).take 3

/-- What is said about the class of the free functions. -/
def facadeRemark (c : Config) : String :=
  "/// <summary>Free functions of native library <c>" ++ c.libraryName ++ "</c>.</summary>"

/-- What a managed file begins with are remarks, and so is what stands, on lines of its own, before
the class of the free functions. -/
structure Remarked (s : Schema) (c : Config) : Prop where
  heading : ∃ rest, s.managedSource c =
    Code.render (remarks c) ++ "#nullable enable" ++ "\n" ++ rest ∧
      Commented isManagedEnd (Code.render (remarks c))
  facade : ∃ above below, (above = "" ∨ ∃ front, above = front ++ "\n") ∧
    s.managedSource c = above ++ facadeRemark c ++ "\n" ++ below ∧
      Commented isManagedEnd (facadeRemark c)

/-- The remarks stand in the file before the line that turns on the checks for null. -/
theorem managedSource_eq_remarks (s : Schema) (c : Config) : ∃ rest, s.managedSource c =
    Code.render (remarks c) ++ "#nullable enable" ++ "\n" ++ rest := by
  have hcode : ∃ after, (s.managedFile c).code (s.surface c) =
      remarks c ++ .line "#nullable enable" :: after :=
    ⟨_, by
      simp only [File.code, List.append_assoc]
      rfl⟩
  obtain ⟨after, hcode⟩ := hcode
  rw [Schema.managedSource, hcode]
  exact Code.render_line (.line _ (.line _ (.line _ .nil))) _ _

private theorem summary_eq_facadeRemark (c : Config) :
    summary s!"Free functions of native library <c>{c.libraryName}</c>." =
      .line (facadeRemark c) := by
  have hfront : "/// <summary>Free functions of native library <c>" =
      "/// <summary>" ++ "Free functions of native library <c>" := rfl
  have hback : "</c>.</summary>" = "</c>." ++ "</summary>" := rfl
  unfold summary facadeRemark
  rw [hfront, hback]
  simp only [String.append_assoc, toString]

/-- A managed file has a line about the class of the free functions. -/
theorem managedSource_eq_facade (s : Schema) (c : Config) : ∃ above below,
    (above = "" ∨ ∃ front, above = front ++ "\n") ∧
      s.managedSource c = above ++ facadeRemark c ++ "\n" ++ below := by
  let f := s.managedFile c
  let before := heading c.libraryName c.space ++ f.support ++ f.exported (s.surface c) ++ [.blank]
  have hbefore : Balanced before :=
    (((balanced_heading _ _).append f.balanced_support).append
      (f.balanced_exported _)).append (.blank .nil)
  let after := threadingRemarks :: declared s!"public static class {f.facade.name}"
    (interspaced (f.facade.methods.map (·.code (s.surface c))))
  have hcode : f.code (s.surface c) = before ++ .line (facadeRemark c) :: after := by
    rw [File.code_eq, Facade.code_eq, ← summary_eq_facadeRemark, spaced, List.flatMap_singleton]
    exact (List.append_assoc _ [Code.blank] _).symm
  obtain ⟨below, hsource⟩ := Code.render_line hbefore after (facadeRemark c)
  refine ⟨Code.render before, below, Code.finished_render before, ?_⟩
  rw [Schema.managedSource, hcode, hsource]

private theorem quotes_heading :
    Quotes isManagedEnd "// Generated by crossbind for native library `"
    "`. Do not edit." := .ofList (by decide) (by decide) (by decide) (by decide)

private theorem quotes_facade : Quotes isManagedEnd
    "/// <summary>Free functions of native library <c>" "</c>.</summary>" :=
  .ofList (by decide) (by decide) (by decide) (by decide)

theorem commented_remarks_iff :
    Commented isManagedEnd (Code.render (remarks c)) ↔
      StaysComment isManagedEnd c.libraryName := by
  have hflat : ∀ code ∈ remarks c, code.IsFlat := by
    simp [remarks, Managed.heading, Managed.lines]
  have hlines : Code.textsAll (remarks c) = ["// <auto-generated>",
      "// Generated by crossbind for native library `" ++ c.libraryName ++ "`. Do not edit.",
      "// </auto-generated>"] := rfl
  have habove : Commented isManagedEnd "// <auto-generated>" :=
    commented_ofList (by decide) (by decide)
  have hbelow : Commented isManagedEnd "// </auto-generated>" :=
    commented_ofList (by decide) (by decide)
  rw [commented_render_iff rfl hflat, hlines, List.forall_mem_cons, List.forall_mem_cons,
    List.forall_mem_singleton, and_iff_right habove, and_iff_left hbelow,
    quotes_heading.commented_iff]

private theorem commented_facadeRemark_iff :
    Commented isManagedEnd (facadeRemark c) ↔ StaysComment isManagedEnd c.libraryName :=
  quotes_facade.commented_iff c.libraryName

/-- A managed file has remarks in both places exactly if `libraryName` may be quoted in a comment.
-/
theorem remarked_iff_staysComment (s : Schema) :
    Remarked s c ↔ StaysComment isManagedEnd c.libraryName := by
  constructor
  · exact fun h => commented_facadeRemark_iff.mp h.facade.choose_spec.choose_spec.2.2
  · intro hstays
    obtain ⟨rest, hheading⟩ := managedSource_eq_remarks s c
    obtain ⟨above, below, habove, hfacade⟩ := managedSource_eq_facade s c
    exact ⟨⟨rest, hheading, commented_remarks_iff.mpr hstays⟩,
      ⟨above, below, habove, hfacade, commented_facadeRemark_iff.mpr hstays⟩⟩

end Managed

/-! ## Names of libraries -/

variable {c : Config}

/-- A sign in the name of the library is in what is derived from the name, where it is found. -/
theorem Config.notMem_libraryName (h : c.fault? = none)
    (hderived : c.symbolPrefix = none ∨ c.managedNamespace = none) {d : Char} (hd : IsSign d)
    (hpoint : d ≠ '.') : d ∉ c.libraryName.toList := by
  intro hmem
  obtain hderived | hderived := hderived
  · have hsymbols : c.symbols = snake c.libraryName := by rw [Config.symbols, hderived]; rfl
    refine (Config.isWord_symbols h).notMem hd.notWord ?_
    rw [hsymbols]
    exact hd.mem_snake hmem
  · have hspace : c.space = pascal c.libraryName := by rw [Config.space, hderived]; rfl
    refine Config.notMem_space h hpoint hd.notWord ?_
    rw [hspace]
    exact hd.mem_pascal hmem

/-- A name that something is derived from has no line breaks. -/
theorem Config.staysComment_libraryName (h : c.fault? = none)
    (hderived : c.symbolPrefix = none ∨ c.managedNamespace = none) :
    StaysComment isFeed c.libraryName ∧ StaysComment isManagedEnd c.libraryName := by
  have hends : ∀ d ∈ c.libraryName.toList, isManagedEnd d = false := by
    intro d hd
    by_contra hend
    have hsigns : ∀ d ∈ ['\n', '\r', '\u0085', '\u2028', '\u2029'], IsSign d ∧ d ≠ '.' := by
      decide +kernel
    obtain ⟨hsign, hpoint⟩ := hsigns d (List.contains_iff_mem.mp (Bool.of_not_eq_false hend))
    exact Config.notMem_libraryName h hderived hsign hpoint hd
  refine ⟨.of_notMem ?_, .of_notMem hends⟩
  intro d hd
  have hend := hends d hd
  rw [isFeed_eq_false_iff]
  rintro rfl
  exact absurd hend (by decide)

/-- **The name of the library is quoted in remarks if it goes on as a comment behind each of its
line breaks, and otherwise not.** Settings without a fault may have such a name only if they say by
themselves what symbols start with and what the namespace is: if one of the two is derived from the
name, the name has one line. -/
theorem remarked_iff (h : c.fault? = none) (s : Schema) :
    (Native.Remarked s c ↔ StaysComment isFeed c.libraryName) ∧
      (Managed.Remarked s c ↔ StaysComment isManagedEnd c.libraryName) ∧
      (c.symbolPrefix = none ∨ c.managedNamespace = none →
        Native.Remarked s c ∧ Managed.Remarked s c) := by
  refine ⟨Native.remarked_iff_staysComment s, Managed.remarked_iff_staysComment s, ?_⟩
  intro hderived
  rw [Native.remarked_iff_staysComment, Managed.remarked_iff_staysComment]
  exact Config.staysComment_libraryName h hderived

/-- A name of two lines, of which the second looks like a comment. -/
def twoLines : Config :=
  { libraryName := "demo\n// and more", symbolPrefix := some "demo",
    managedNamespace := some "Demo" }

theorem remarked_iff_twoLines : twoLines.fault? = none ∧ Native.Remarked Demo.schema twoLines ∧
    Managed.Remarked Demo.schema twoLines := by
  have hfault : twoLines.fault? = none := by decide +kernel
  obtain ⟨hnative, hmanaged, -⟩ := remarked_iff hfault Demo.schema
  exact ⟨hfault, hnative.mpr (by decide +kernel), hmanaged.mpr (by decide +kernel)⟩

/-- A name that closes the comment it is quoted in and opens another one. -/
def declaringName : Config :=
  { libraryName := "demo`\nstruct Stray \x7b\x7d\n// `", symbolPrefix := some "demo",
    managedNamespace := some "Demo" }

/-- The settings have no fault, and a line of the name is code in both files. -/
theorem not_remarked_declaringName : declaringName.schema Demo.declarations = .ok Demo.schema ∧
    ¬ Native.Remarked Demo.schema declaringName ∧
    ¬ Managed.Remarked Demo.schema declaringName := by
  refine ⟨Config.schema_eq_ok_iff.mpr ⟨by decide +kernel, Demo.build_declarations⟩, ?_, ?_⟩
  · rw [Native.remarked_iff_staysComment]
    decide +kernel
  · rw [Managed.remarked_iff_staysComment]
    decide +kernel

end Boundary
