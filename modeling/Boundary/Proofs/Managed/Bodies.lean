import Boundary.Proofs.Config
import Boundary.Proofs.Managed.Members
import Boundary.Proofs.Schema.Members
import Boundary.Proofs.Schema.Symbols

/-!
# Bodies in managed files

What a managed file consists of behind support code and imported functions: the types with their
members.

* `Body`, `File.bodies`: the types by name with their members, fixed ones and declared ones.
* `File.classes`: their code, which is the end of the file.
* `Body.ReadAs`, `Holds`: some code is read as the bodies that it should have.
* `holds_wrapper`, `holds_enumClass`, `holds_facade`, `holds_classes`: the parts and the whole.
-/

namespace Boundary.Managed

open Source

/-! ## Bodies -/

/-- The members of a type by name. -/
structure Body where
  name : String
  /-- The members that types of this kind have anyway. -/
  fixed : List String
  /-- The members that come from declarations. -/
  declared : List String
deriving Repr, DecidableEq

/-- The body of the class of a struct. -/
def Wrapper.body (w : Wrapper) : Body :=
  ⟨w.name, ["_handle", "FromHandle", "RawHandle", "Forget", "Dispose", "Free"],
    w.properties.map (·.name) ++ w.methods.map (·.name)⟩

/-- The body of the record of a variant. -/
def VariantRecord.body (r : VariantRecord) : Body := ⟨r.name, [], r.fields.map (·.name)⟩

/-- The body of the class of an enum. -/
def EnumClass.body (e : EnumClass) : Body :=
  ⟨e.name, ["Decode", "Lower", "Free"], e.records.map (·.name) ++ e.methods.map (·.name)⟩

/-- The body of the class of the free functions. -/
def Facade.body (f : Facade) : Body := ⟨f.name, [], f.methods.map (·.name)⟩

/-- The bodies of a file behind support code and imported functions. The interface of an enum has
no members. -/
def File.bodies (f : File) : List Body :=
  f.wrappers.map (·.body)
    ++ f.enums.flatMap (fun e => ⟨e.interface, [], []⟩ :: e.body :: e.records.map (·.body))
    ++ [f.facade.body]

/-- The code of a file behind support code and imported functions. -/
def File.classes (s : Surface) (f : File) : List Code :=
  spaced (f.wrappers.map (·.code s) ++ f.enums.map (·.code s) ++ [f.facade.code s f.libraryName])

/-! ## Reading bodies -/

/-- What has been read of a type is its body. -/
structure Body.ReadAs (b : Body) (r : ReadBody) : Prop where
  name_eq : r.name = b.name
  members_perm : r.members.Perm (b.fixed ++ b.declared)

/-- Balanced code that is read as these bodies, whatever follows it. -/
structure Holds (code : List Code) (bodies : List Body) : Prop where
  balanced : Balanced code
  exists_reads : ∃ reads,
    (∀ rest, bodiesBehind "" (parts code ++ rest) = reads ++ bodiesBehind "" rest) ∧
      List.Forall₂ Body.ReadAs bodies reads

theorem holds_nil : Holds [] [] := ⟨.nil, [], fun _ => rfl, .nil⟩

theorem Holds.append {a b : List Code} {bodies bodies' : List Body} (ha : Holds a bodies)
    (hb : Holds b bodies') : Holds (a ++ b) (bodies ++ bodies') := by
  obtain ⟨hbalanced, reads, hreads, hall⟩ := ha
  obtain ⟨hbalanced', reads', hreads', hall'⟩ := hb
  refine ⟨hbalanced.append hbalanced', reads ++ reads', ?_, List.rel_append hall hall'⟩
  intro rest
  rw [parts_append hbalanced hbalanced', List.append_assoc, hreads, hreads', List.append_assoc]

theorem Holds.flatMap {α : Type} {f : α → List Code} {bodies : α → List Body} {as : List α}
    (h : ∀ a ∈ as, Holds (f a) (bodies a)) : Holds (as.flatMap f) (as.flatMap bodies) := by
  induction as with
  | nil => exact holds_nil
  | cons a rest ih => exact (h a (by simp)).append (ih fun b hb => h b (by simp [hb]))

theorem Holds.bodiesOf_eq {code : List Code} {bodies : List Body} (h : Holds code bodies) :
    List.Forall₂ Body.ReadAs bodies (bodiesOf code) := by
  obtain ⟨-, reads, hreads, hall⟩ := h
  have heq := hreads []
  rw [List.append_nil] at heq
  rw [bodiesOf, heq, bodiesBehind, List.append_nil]
  exact hall

theorem parts_lines_eq (texts : List String) : parts (lines texts) = texts.map Part.line := by
  induction texts with
  | nil => rfl
  | cons text rest ih =>
    show parts (.line text :: lines rest) = _
    rw [parts_line text (balanced_lines rest), ih, List.map_cons]

/-- Lines that are no brace have no bodies. -/
theorem exists_bodiesBehind_lines {texts : List String} (h : "\x7b" ∉ texts) (before : String)
    (rest : List Part) : ∃ header,
      bodiesBehind before (texts.map Part.line ++ rest) = bodiesBehind header rest := by
  induction texts generalizing before with
  | nil => exact ⟨before, rfl⟩
  | cons text others ih =>
    rw [List.mem_cons, not_or] at h
    obtain ⟨header, hheader⟩ := ih h.2 text
    refine ⟨header, ?_⟩
    rw [List.map_cons, List.cons_append, bodiesBehind, if_neg (Ne.symm h.1), List.nil_append,
      hheader]

/-- The bodies of a declaration behind some lines are those of its type. -/
theorem bodiesBehind_type {texts : List String} (htexts : "\x7b" ∉ texts) {header name : String}
    (hheader : typeOfLine? header = some name) {body : List Code} (h : Balanced body)
    (rest : List Part) : bodiesBehind "" (parts (lines texts ++ declared header body) ++ rest) =
      bodiesOfType name (parts body) ++ bodiesBehind "" rest := by
  have hopen : "\x7b" ∉ texts ++ [header] := by
    have hbrace : typeOfLine? "\x7b" = none := by decide
    rw [List.mem_append, List.mem_singleton, not_or]
    refine ⟨htexts, ?_⟩
    rintro rfl
    rw [hbrace] at hheader
    cases hheader
  have hparts : parts (lines texts ++ declared header body) ++ rest = texts.map Part.line ++
      .line header :: .block "\x7b" (parts body) "\x7d" :: rest := by
    rw [parts_append (balanced_lines _) (balanced_declared h), parts_lines_eq, declared,
      parts_line header h.level, parts_level _ _ h, List.append_assoc]
    rfl
  obtain ⟨before, hbefore⟩ := exists_bodiesBehind_lines htexts ""
    (.line header :: .block "\x7b" (parts body) "\x7d" :: rest)
  rw [hparts, hbefore, bodiesBehind, if_neg fun heq => hopen (by simp [heq]), List.nil_append,
    bodiesBehind, hheader, Option.toList_some, List.flatMap_singleton]

/-- A remark is no brace. -/
theorem notMem_remarks (text : String) : "\x7b" ∉ [s!"/// <summary>{text}</summary>",
    "/// <remarks>Not synchronized: confine each instance to one thread at a time or guard "
      ++ "it externally.</remarks>"] := by
  have hne {front : String} (hfront : front.toList.head? = some '/') (back : String) :
      "\x7b" ≠ front ++ back := by
    intro heq
    have hhead : some '\x7b' = (front ++ back).toList.head? := congrArg (·.toList.head?) heq
    rw [String.toList_append, List.head?_append, hfront] at hhead
    cases hhead
  have hsummary : "\x7b" ≠ s!"/// <summary>{text}</summary>" := by
    show "\x7b" ≠ "/// <summary>" ++ text ++ "</summary>"
    rw [String.append_assoc]
    exact hne rfl _
  rw [List.mem_pair, not_or]
  exact ⟨hsummary, hne rfl _⟩

variable {s : Surface}

theorem bodiesOfType_of_declares {body : List Code} {names : List String} (h : Declares body names)
    (name : String) : bodiesOfType name (parts body) = [⟨name, names⟩] := by
  have hnone : (membersOf (parts body)).filter (·.type = recordWord) = [] :=
    List.filter_eq_nil_iff.mpr fun m hm => by simpa using h.no_record m hm
  rw [bodiesOfType, h.names_eq, hnone]
  rfl

theorem holds_wrapper (hs : s.IsPlain) {w : Wrapper} (hname : Naming.IsWord w.name)
    (hfree : w.name ∉ noTypes) (hproperties : ∀ p ∈ w.properties, IsPlain p.name)
    (hmethods : ∀ m ∈ w.methods, IsPlain m.name) : Holds (w.code s) [w.body] := by
  have hdeclares := declares_wrapper hs (isPlain_of_isWord hname) hfree hproperties hmethods
  refine ⟨w.balanced_code s, [⟨w.name, ["_handle"] ++ (["FromHandle", "RawHandle", "Forget"] ++
    w.properties.map (·.name) ++ w.methods.map (·.name) ++ ["Dispose", "Free"])⟩], ?_,
    .cons ⟨rfl, ?_⟩ .nil⟩
  · intro rest
    rw [Wrapper.code_eq, ← bodiesOfType_of_declares hdeclares]
    exact bodiesBehind_type (notMem_remarks _)
      (typeOfLine?_sealedClass hname) hdeclares.balanced rest
  · -- The last two fixed members stand behind the declared ones.
    have hback : (w.properties.map (·.name) ++ w.methods.map (·.name) ++ ["Dispose", "Free"]).Perm
        (["Dispose", "Free"] ++ (w.properties.map (·.name) ++ w.methods.map (·.name))) :=
      List.perm_append_comm
    simpa [Wrapper.body] using hback

private theorem reads_records (s : Surface) (interface : String) {records : List VariantRecord}
    (h : ∀ r ∈ records, IsPlain r.name) :
    ReadsLines memberOfLine? (records.map (·.code s interface))
      (records.map (·.member s interface)) := by
  have hrecord : ∀ r ∈ records,
      ReadsLines memberOfLine? [r.code s interface] [r.member s interface] := fun r hr =>
    readsLines_line (congrArg Option.toList (memberOfLine?_record s interface (h r hr)))
  rw [List.map_eq_flatMap, List.map_eq_flatMap]
  exact .flatMap hrecord

/-- What is read of the class of an enum, with its records. -/
theorem bodiesOfType_enumClass (hs : s.IsPlain) (interface : String) {e : EnumClass}
    (hrecords : ∀ r ∈ e.records, IsPlain r.name ∧ ∀ f ∈ r.fields, IsPlain f.name)
    {rest : List Code} {names : List String} (h : Declares rest names) :
    bodiesOfType e.name (parts (e.records.map (·.code s interface) ++ rest)) =
      ⟨e.name, e.records.map (·.name) ++ names⟩ ::
        e.records.map fun r => ⟨r.name, r.fields.map (·.name)⟩ := by
  have hread := reads_records s interface fun r hr => (hrecords r hr).1
  have hmembers : membersOf (parts (e.records.map (·.code s interface) ++ rest)) =
      e.records.map (·.member s interface) ++ membersOf (parts rest) := by
    rw [parts_append hread.balanced h.balanced, ← hread.eq]
    exact List.filterMap_append
  have hnone : (membersOf (parts rest)).filter (·.type = recordWord) = [] :=
    List.filter_eq_nil_iff.mpr fun m hm => by simpa using h.no_record m hm
  have hall : (e.records.map (·.member s interface)).filter (·.type = recordWord) =
      e.records.map (·.member s interface) :=
    List.filter_eq_self.mpr fun m hm => by
      obtain ⟨r, -, rfl⟩ := List.mem_map.mp hm
      simp [VariantRecord.member]
  have hbodies : (e.records.map (·.member s interface)).map
      (fun m => (⟨m.name, parametersOf m.line⟩ : ReadBody)) =
        e.records.map fun r => ⟨r.name, r.fields.map (·.name)⟩ := by
    rw [List.map_map]
    refine List.map_congr_left fun r hr => ?_
    rw [Function.comp_apply, parametersOf_record hs interface (hrecords r hr).1 (hrecords r hr).2]
    rfl
  have hnames : (e.records.map (·.member s interface)).map (·.name) = e.records.map (·.name) :=
    List.map_map
  rw [bodiesOfType, hmembers, List.map_append, hnames, h.names_eq, List.filter_append, hnone, hall,
    List.append_nil, hbodies]

/-- The interface of an enum has nothing between its braces. -/
theorem bodiesBehind_enumClass (s : Surface) {e : EnumClass} (h : Naming.IsWord e.name)
    (rest : List Part) : bodiesBehind "" (parts (e.code s) ++ rest) =
      ⟨e.interface, []⟩ :: (bodiesOfType e.name (parts (e.members s)) ++ bodiesBehind "" rest) := by
  have hinterface : Naming.IsWord e.interface := .append (by decide) h
  let value := s!"A value of native enum <c>{e.native}</c>."
  let variants := s!"Variants of native enum <c>{e.native}</c>."
  let class_ := lines [s!"/// <summary>{variants}</summary>",
    "/// <remarks>Not synchronized: confine each instance to one thread at a time or guard "
      ++ "it externally.</remarks>"] ++ declared s!"public static class {e.name}" (e.members s)
  have hclass : Balanced class_ :=
    (balanced_lines _).append (balanced_declared (e.balanced_members s))
  have hcode : e.code s = lines [s!"/// <summary>{value}</summary>"]
      ++ lines [s!"public interface {e.interface}", "\x7b", "\x7d"] ++ .blank :: class_ := by
    rw [EnumClass.code_eq, List.append_assoc]
    rfl
  obtain ⟨before, hbefore⟩ := exists_bodiesBehind_lines
    (fun hmem => notMem_remarks value (List.mem_cons.mpr (.inl (List.mem_singleton.mp hmem)))) ""
    ([.line s!"public interface {e.interface}", .line "\x7b", .line "\x7d", .blank] ++
      (parts class_ ++ rest))
  have hheader : typeOfLine? s!"public interface {e.interface}" = some e.interface :=
    typeOfLine?_interface hinterface
  have hopen : s!"public interface {e.interface}" ≠ "\x7b" := by
    intro heq
    have hbrace : typeOfLine? "\x7b" = none := by decide
    rw [heq, hbrace] at hheader
    cases hheader
  have htype := bodiesBehind_type (notMem_remarks variants) (typeOfLine?_staticClass h)
    (e.balanced_members s) rest
  rw [hcode, parts_append ((balanced_lines _).append (balanced_lines _)) (.blank hclass),
    parts_append (balanced_lines _) (balanced_lines _), parts_lines_eq, parts_lines_eq,
    parts_blank hclass, List.append_assoc, List.append_assoc]
  refine hbefore.trans ?_
  simp only [List.cons_append, List.nil_append, bodiesBehind, if_neg hopen, hheader]
  exact congrArg (_ :: ·) htype

theorem holds_enumClass (hs : s.IsPlain) {e : EnumClass} (hname : Naming.IsWord e.name)
    (hrecords : ∀ r ∈ e.records, IsPlain r.name ∧ ∀ f ∈ r.fields, IsPlain f.name)
    (hmethods : ∀ m ∈ e.methods, IsPlain m.name) :
    Holds (e.code s) (⟨e.interface, [], []⟩ :: e.body :: e.records.map (·.body)) := by
  have hinterface : Naming.IsWord e.interface := .append (by decide) hname
  obtain ⟨others, hmembers, hdeclares⟩ := exists_enumClass_members hs
    (hs.qualified_plain _ (isPlain_of_isWord hinterface)) hmethods
  refine ⟨e.balanced_code s, ⟨e.interface, []⟩ :: ⟨e.name, e.records.map (·.name) ++
    (["Decode", "Lower", "Free"] ++ e.methods.map (·.name))⟩ ::
      e.records.map fun r => ⟨r.name, r.fields.map (·.name)⟩, ?_,
    .cons ⟨rfl, .nil⟩ (.cons ⟨rfl, ?_⟩ ?_)⟩
  · intro rest
    rw [bodiesBehind_enumClass s hname, hmembers, bodiesOfType_enumClass hs _ hrecords hdeclares]
    rfl
  · have hfront : (e.records.map (·.name) ++ ["Decode", "Lower", "Free"]).Perm
        (["Decode", "Lower", "Free"] ++ e.records.map (·.name)) := List.perm_append_comm
    simpa [EnumClass.body] using hfront.append_right (e.methods.map (·.name))
  · rw [List.forall₂_map_left_iff, List.forall₂_map_right_iff, List.forall₂_same]
    exact fun r _ => ⟨rfl, .refl _⟩

theorem holds_facade (hs : s.IsPlain) (libraryName : String) {f : Facade}
    (hname : Naming.IsWord f.name) (hmethods : ∀ m ∈ f.methods, IsPlain m.name) :
    Holds (f.code s libraryName) [f.body] := by
  have hdeclares : Declares (interspaced (f.methods.map (·.code s))) (f.methods.map (·.name)) :=
    declares_interspaced fun m hm => declares_method hs (hmethods m hm)
  refine ⟨f.balanced_code s libraryName, [⟨f.name, f.methods.map (·.name)⟩], fun rest => ?_,
    .cons ⟨rfl, .refl _⟩ .nil⟩
  rw [Facade.code_eq, ← bodiesOfType_of_declares hdeclares]
  exact bodiesBehind_type (notMem_remarks _) (typeOfLine?_staticClass hname) hdeclares.balanced rest

theorem Holds.blank {code : List Code} {bodies : List Body} (h : Holds code bodies) :
    Holds (.blank :: code) bodies := by
  obtain ⟨hbalanced, reads, hreads, hall⟩ := h
  refine ⟨.blank hbalanced, reads, fun rest => ?_, hall⟩
  rw [parts_blank hbalanced]
  exact hreads rest

/-- What is read of the classes of a file, if each of them is read as it should be. -/
theorem holds_classes {f : File} (hwrappers : ∀ w ∈ f.wrappers, Holds (w.code s) [w.body])
    (henums : ∀ e ∈ f.enums,
      Holds (e.code s) (⟨e.interface, [], []⟩ :: e.body :: e.records.map (·.body)))
    (hfacade : Holds (f.facade.code s f.libraryName) [f.facade.body]) :
    Holds (f.classes s) f.bodies := by
  have hcode : f.classes s = f.wrappers.flatMap (fun w => .blank :: w.code s) ++
      f.enums.flatMap (fun e => .blank :: e.code s) ++
        (.blank :: f.facade.code s f.libraryName) := by
    simp [File.classes, spaced, List.flatMap_map]
  rw [hcode, File.bodies, List.map_eq_flatMap]
  exact ((Holds.flatMap fun w hw => (hwrappers w hw).blank).append
    (Holds.flatMap fun e he => (henums e he).blank)).append hfacade.blank

end Boundary.Managed
