import Boundary.Proofs.Config
import Boundary.Proofs.Managed.TypeNames
import Boundary.Proofs.Schema.Symbols
import Boundary.Proofs.Schema.TopLevel
import Boundary.Proofs.Schema.Words

/-!
# Managed files declare different types

The types that a managed file declares at the top level are different, but for the class of the
free functions: its name is taken from the settings, where support code is not looked at.

* `FlatType.suffix_injective`, `nodup_managed_optionTypes`: the structs of options.
* `typesOf_managedFile`, `typeNames_managedFile_perm`: the types of the file of a schema.
* `nodup_typesOf_iff`: when they are different; `not_nodup_typesOf_shadowing`: when they are not.
-/

namespace Boundary

open Managed

/-! ## Options by name -/

section Options

/-- The representations that are no options. -/
def FlatType.plain : List FlatType :=
  [.void, .handle, .strView, .buffer] ++ Primitive.all.map .scalar

theorem FlatType.mem_plain {t : FlatType} (h : t.isOption = false) : t ∈ plain := by
  cases t with
  | scalar p => exact List.mem_append_right _ (List.mem_map_of_mem p.mem_all)
  | option inner => cases h
  | _ => decide

theorem FlatType.suffix_plain : plain.map suffix =
    ["Void", "Handle", "Str", "Buffer", "Bool", "I8", "I16", "I32", "I64", "U8", "U16", "U32",
      "U64", "F32", "F64"] := by
  decide +kernel

theorem FlatType.suffix_ne_option {t inner : FlatType} (h : t.isOption = false) :
    t.suffix ≠ (FlatType.option inner).suffix := by
  have hall : ∀ name ∈ plain.map suffix, ¬ "Option".toList <+: name.toList := by
    rw [suffix_plain]
    decide
  intro heq
  refine hall t.suffix (List.mem_map_of_mem (mem_plain h)) ?_
  rw [heq, FlatType.suffix, String.toList_append]
  exact List.prefix_append _ _

theorem FlatType.suffix_injective : Function.Injective FlatType.suffix := by
  have hplain : (plain.map suffix).Nodup := by
    rw [suffix_plain]
    decide
  intro t
  induction t with
  | option inner ih =>
    intro u heq
    cases hu : u.isOption with
    | false => exact absurd heq.symm (suffix_ne_option hu)
    | true =>
      cases u with
      | option inner' => exact congrArg _ (ih (String.append_right_inj _ |>.mp heq))
      | _ => cases hu
  | _ =>
    intro u heq
    cases hu : u.isOption with
    | false => exact List.inj_on_of_nodup_map hplain (mem_plain rfl) (mem_plain hu) heq
    | true =>
      cases u with
      | option inner' => exact absurd heq (suffix_ne_option rfl)
      | _ => cases hu

theorem FlatType.managed_option_injective {t u : FlatType} (ht : t.isOption = true)
    (hu : u.isOption = true) (heq : t.managed = u.managed) : t = u := by
  cases t with
  | option inner =>
    cases u with
    | option inner' =>
      exact congrArg _ (suffix_injective (String.append_right_inj _ |>.mp heq))
    | _ => cases hu
  | _ => cases ht

theorem FlatType.startsWith_managed {t : FlatType} (ht : t.isOption = true) :
    t.managed.startsWith optionPrefix = true := by
  cases t with
  | option inner =>
    rw [String.startsWith_string_iff, FlatType.managed, String.toList_append]
    exact List.prefix_append _ _
  | _ => cases ht

/-- The options of entry points are different options. -/
theorem optionTypes_spec (entryPoints : List EntryPoint) :
    (optionTypes entryPoints).Nodup ∧ ∀ t ∈ optionTypes entryPoints, t.isOption = true := by
  unfold optionTypes
  refine List.foldlRecOn
    (motive := fun seen : List FlatType => seen.Nodup ∧ ∀ t ∈ seen, t.isOption = true) _ _
    ⟨List.nodup_nil, by simp⟩ ?_
  rintro seen ⟨hnodup, hoptions⟩ t -
  split
  · rename_i h
    simp only [Bool.and_eq_true, Bool.not_eq_true', List.contains_eq_mem,
      decide_eq_false_iff_not] at h
    refine ⟨List.nodup_append.mpr ⟨hnodup, List.nodup_singleton t, ?_⟩, ?_⟩
    · rintro u hu _ hmem rfl
      exact h.2 (List.mem_singleton.mp hmem ▸ hu)
    · intro u hu
      obtain hu | hu := List.mem_append.mp hu
      · exact hoptions u hu
      · exact List.mem_singleton.mp hu ▸ h.1
  · exact ⟨hnodup, hoptions⟩

/-- The structs of options have different names. -/
theorem nodup_managed_optionTypes (entryPoints : List EntryPoint) :
    ((optionTypes entryPoints).map FlatType.managed).Nodup := by
  obtain ⟨hnodup, hoptions⟩ := optionTypes_spec entryPoints
  refine hnodup.map_on ?_
  intro t ht u hu heq
  exact FlatType.managed_option_injective (hoptions t ht) (hoptions u hu) heq

end Options

/-! ## Different types -/

section Different

variable {c : Config} {ds : List Declaration} {s : Schema}

/-- The function that releases bytes has a name on one line. -/
theorem isLine_bufferFree (h : c.schema ds = .ok s) : IsLine (s.managedFile c).bufferFree :=
  isLine_of_isWord (Symbol.isWord_bufferFree
    (Config.isWord_symbols (Config.schema_eq_ok_iff.mp h).1))

/-- The types that the managed file of a schema declares. -/
theorem typesOf_managedFile (h : c.schema ds = .ok s) :
    typesOf ((s.managedFile c).code (s.surface c)) = (s.managedFile c).typeNames := by
  obtain ⟨hfault, hbuild⟩ := Config.schema_eq_ok_iff.mp h
  have haccepted := Schema.build_eq_ok_iff_accepted.mp hbuild
  refine typesOf_file (s.surface c) (isLine_bufferFree h) ?_ ?_ ?_
  · intro w hw
    obtain ⟨x, hx, rfl⟩ := List.mem_map.mp hw
    exact Naming.isWord_pascal (haccepted.isIdentifier_struct hx)
  · intro e he
    obtain ⟨x, hx, rfl⟩ := List.mem_map.mp he
    exact Naming.isWord_pascal (haccepted.isIdentifier_enum hx)
  · exact Naming.isWord_of_isIdentifier (Config.isIdentifier_facade hfault)

/-- They are those of support code, the options that entry points use, the exported types, and the
class of the free functions. -/
theorem typeNames_managedFile_perm (s : Schema) (c : Config) :
    (s.managedFile c).typeNames.Perm
      (reservedTypeNames ++ (optionTypes (s.entryPoints c.symbols)).map FlatType.managed ++
        s.managedTypeNames ++ [c.facade]) := by
  have hoptions : (s.managedFile c).options.filter FlatType.isOption =
      optionTypes (s.entryPoints c.symbols) :=
    List.filter_eq_self.mpr (optionTypes_spec _).2
  have hwrappers : (s.managedFile c).wrappers.map (·.name) =
      s.structs.map fun x => Naming.pascal x.name := List.map_map
  have henums : (s.managedFile c).enums.flatMap (fun e => [e.interface, e.name]) =
      s.enums.flatMap fun x => [interfaceName (Naming.pascal x.name), Naming.pascal x.name] :=
    List.flatMap_map _ _ _
  have hreserved : ("NativeMethods" :: supportNames).Perm reservedTypeNames := by decide
  rw [File.typeNames, hoptions, hwrappers, henums, Schema.managedTypeNames,
    ← List.append_assoc _ (List.map _ _)]
  refine List.Perm.append_right _ (.append_right _ (List.perm_middle.trans ?_))
  rw [List.append_assoc, List.append_assoc]
  exact hreserved.append_right _

/-- **The types of a managed file are different** exactly if the class of the free functions has a
name that neither support code nor an option of an entry point has. -/
theorem nodup_typesOf_iff (h : c.schema ds = .ok s) :
    (typesOf ((s.managedFile c).code (s.surface c))).Nodup ↔
      c.facade ∉ reservedTypeNames ∧
        ∀ t ∈ optionTypes (s.entryPoints c.symbols), t.managed ≠ c.facade := by
  have haccepted := Schema.build_eq_ok_iff_accepted.mp (Config.schema_eq_ok_iff.mp h).2
  have hreserved : ∀ name ∈ reservedTypeNames, name.startsWith optionPrefix = false := by
    decide +kernel
  have hoptions : ∀ name ∈ (optionTypes (s.entryPoints c.symbols)).map FlatType.managed,
      name.startsWith optionPrefix = true := by
    intro name hname
    obtain ⟨t, ht, rfl⟩ := List.mem_map.mp hname
    exact FlatType.startsWith_managed ((optionTypes_spec _).2 t ht)
  -- The class of the free functions apart, all types are different from each other.
  have hothers : (reservedTypeNames ++
      (optionTypes (s.entryPoints c.symbols)).map FlatType.managed ++
      s.managedTypeNames).Nodup := by
    refine List.nodup_append.mpr
      ⟨List.nodup_append.mpr ⟨by decide, nodup_managed_optionTypes _, ?_⟩,
        haccepted.nodup_managedTypeNames, ?_⟩
    · rintro name hname _ hoption rfl
      have hstart := hoptions name hoption
      rw [hreserved name hname] at hstart
      cases hstart
    · rintro name hname _ htype rfl
      obtain ⟨hsupport, -, hstart⟩ := haccepted.managedTypeNames_free name htype
      obtain hname | hname := List.mem_append.mp hname
      · exact hsupport hname
      · rw [hoptions name hname] at hstart
        cases hstart
  rw [typesOf_managedFile h, (typeNames_managedFile_perm s c).nodup_iff, List.nodup_append]
  simp only [hothers, List.nodup_singleton, List.mem_append, List.mem_map, List.mem_singleton,
    forall_eq, true_and]
  constructor
  · intro hfacade
    refine ⟨fun hname => hfacade c.facade (.inl (.inl hname)) rfl, ?_⟩
    exact fun t ht => hfacade t.managed (.inl (.inr ⟨t, ht, rfl⟩))
  · rintro ⟨hsupport, hoption⟩ name ((hname | ⟨t, ht, rfl⟩) | hname)
    · exact fun heq => hsupport (heq ▸ hname)
    · exact hoption t ht
    · exact (haccepted.managedTypeNames_free name hname).2.1

/-- The class of the free functions of the demo library is named like no other type. -/
theorem nodup_typesOf_iff_demo :
    ({ libraryName := "demo" } : Config).schema Demo.declarations = .ok Demo.schema ∧
      (typesOf ((Demo.schema.managedFile { libraryName := "demo" }).code
        (Demo.schema.surface { libraryName := "demo" }))).Nodup := by
  refine ⟨Demo.schema_eq_ok, (nodup_typesOf_iff Demo.schema_eq_ok).mpr ⟨by decide, ?_⟩⟩
  intro t ht heq
  have hstart := FlatType.startsWith_managed ((optionTypes_spec _).2 t ht)
  rw [heq] at hstart
  revert hstart
  decide +kernel

/-- Settings that name the class of the free functions like a type of support code. -/
def shadowing : Config := { facade := "RustBuffer" }

/-- A function is accepted with them, and then two types have that name. -/
theorem not_nodup_typesOf_shadowing :
    ∃ s, shadowing.schema [Demo.functionDecl "reset" [] .unit 1] = .ok s ∧
      ¬ (typesOf ((s.managedFile shadowing).code (s.surface shadowing))).Nodup := by
  obtain ⟨s, hschema⟩ : ∃ s, shadowing.schema [Demo.functionDecl "reset" [] .unit 1] = .ok s :=
    ⟨_, Config.schema_eq_ok_iff.mpr
      ⟨by decide +kernel, Schema.build_eq_ok_iff.mpr ⟨by decide +kernel, rfl⟩⟩⟩
  refine ⟨s, hschema, ?_⟩
  rw [typesOf_managedFile hschema, (typeNames_managedFile_perm s shadowing).nodup_iff]
  intro hnodup
  have hsupport : "RustBuffer" ∈ reservedTypeNames := by decide
  exact (List.nodup_append.mp hnodup).2.2 "RustBuffer" (by simp [hsupport]) shadowing.facade
    (List.mem_singleton_self _) rfl

end Different

end Boundary
