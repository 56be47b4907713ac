import Boundary.Native.Machine
import Boundary.Proofs.Naming.Local
import Boundary.Proofs.Schema.Distinct
import Boundary.Proofs.Schema.Members
import Boundary.Proofs.Source.Reading

/-!
# Numbers of variants in native files

Native code tells the variants of an enum apart in a match with one arm for each variant.

* `armOf?`, `armsOf`: the arms in some code, read off its lines.
* `armsOf_entryCode`: the arms of an entry point that reads a discriminant.
* `Accepted.nodup_patterns`: the arms have different patterns.
* `discriminant_variantArms`: the number that the arms give a value.
-/

namespace Boundary

namespace Native

open Source Text

/-! ## Reading -/

/-- What stands between a pattern and its number, backwards. -/
def arrowMark : List Char := [' ', '>', '=', ' ']

/-- The pattern and the number in the arm that a line consists of. It is read from the end, since a
pattern starts with a path from the settings. -/
def armOf? (line : String) : Option (String × String) := do
  let rest ← line.toList.reverse.dropPrefix? [',']
  let pattern ← (rest.dropWhile Char.isDigit).dropPrefix? arrowMark
  some (String.ofList pattern.reverse, String.ofList (rest.takeWhile Char.isDigit).reverse)

/-- The arms in some code. -/
def armsOf (code : List Code) : List (String × String) := (Code.textsAll code).filterMap armOf?

private theorem armOf?_arm (pattern : String) (n : Nat) :
    armOf? s!"{pattern} => {n}," = some (pattern, toString n) := by
  have hline : (s!"{pattern} => {n},").toList.reverse =
      [','] ++ ((toString n).toList.reverse ++ (arrowMark ++ pattern.toList.reverse)) := by
    show (pattern ++ " => " ++ toString n ++ ",").toList.reverse = _
    simp [arrowMark]
  have hdigits : ∀ c ∈ (toString n).toList.reverse, c.isDigit = true := fun c hc =>
    Naming.isDigit_of_mem_toString n (List.mem_reverse.mp hc)
  have hdrop : ((toString n).toList.reverse ++ (arrowMark ++ pattern.toList.reverse)).dropWhile
      Char.isDigit = arrowMark ++ pattern.toList.reverse := by
    rw [List.dropWhile_append_of_pos hdigits]
    exact List.dropWhile_cons_of_neg (by decide)
  have htake : ((toString n).toList.reverse ++ (arrowMark ++ pattern.toList.reverse)).takeWhile
      Char.isDigit = (toString n).toList.reverse := by
    rw [List.takeWhile_append_of_pos hdigits]
    show _ ++ List.takeWhile _ (' ' :: _) = _
    rw [List.takeWhile_cons_of_neg (by decide), List.append_nil]
  rw [armOf?, hline, List.dropPrefix?_append_of_beq _ (by decide)]
  dsimp only [Option.bind_eq_bind, Option.bind_some]
  rw [hdrop, htake, List.dropPrefix?_append_of_beq _ (by decide), List.reverse_reverse,
    String.ofList_toList]
  dsimp only [Option.bind_some]
  rw [List.reverse_reverse, String.ofList_toList]

/-- A line with another sign at its end is no arm. -/
theorem armOf?_append_eq_none (front : String) {back : String}
    (h : ∃ c ∈ back.toList.getLast?, c ≠ ',') : armOf? (front ++ back) = none := by
  obtain ⟨c, hc, hne⟩ := h
  obtain ⟨rest, hrest⟩ := List.getLast?_eq_some_iff.mp hc
  have hline : (front ++ back).toList.reverse = c :: (front.toList ++ rest).reverse := by
    rw [String.toList_append, hrest]
    simp
  have hnone : (c :: (front.toList ++ rest).reverse).dropPrefix? [','] = none := by
    simp [List.dropPrefix?, hne]
  rw [armOf?, hline, hnone]
  rfl

/-- **The arms of the entry point that reads a discriminant.** -/
theorem armsOf_entryCode (names : Spelling) (e : EntryPoint) (id : TypeId)
    (arms : List (VariantRef × Nat)) :
    armsOf (entryCode names e (some (.tag id arms))) =
      arms.map fun (v, n) => (v.pattern names, toString n) := by
  have hsignature : armOf? (signature e) = none :=
    armOf?_append_eq_none _ ⟨'\x7b', by decide, by decide⟩
  have hreceive : armOf? s!"let __this = {names.table id}.get({handleName})?;" = none :=
    armOf?_append_eq_none _ ⟨';', by decide, by decide⟩
  have hfixed : ∀ line ∈ ["#[unsafe(no_mangle)]", "__rt::rust_call(__out_status, move || \x7b",
      "Ok(match &*__this \x7b", "\x7d)", "\x7d"], armOf? line = none := by
    decide
  have harms : (Code.textsAll (arms.map fun (v, n) =>
      Code.line s!"{v.pattern names} => {n},")).filterMap armOf? =
        arms.map fun (v, n) => (v.pattern names, toString n) := by
    induction arms with
    | nil => rfl
    | cons arm rest ih =>
      rw [List.map_cons, Code.textsAll, Code.texts, List.singleton_append, List.filterMap_cons,
        armOf?_arm, ih, List.map_cons]
  simp only [List.forall_mem_cons] at hfixed
  obtain ⟨hattribute, hcall, hmatch, hclose, hend, -⟩ := hfixed
  simpa [armsOf, entryCode, Body.code, Step.line, Code.textsAll_append, Code.textsAll, Code.texts,
    hsignature, hreceive, hattribute, hcall, hmatch, hclose, hend] using harms

/-! ## Patterns -/

/-- What stands behind the path in the pattern of a variant. -/
def VariantShape.text : VariantShape → String
  | .unit => ""
  | .tuple => "(..)"
  | .struct => " \x7b .. \x7d"

theorem VariantRef.pattern_eq (names : Spelling) (v : VariantRef) :
    v.pattern names = names.path v.enum ++ "::" ++ (Naming.nativeIdent v.name ++ v.shape.text) := by
  unfold VariantRef.pattern VariantRef.path
  cases v.shape <;> simp [VariantShape.text, ← String.toList_inj, toString]

/-- A pattern tells the name of its variant. -/
theorem VariantRef.nativeIdent_eq_of_pattern_eq {names : Spelling} {v w : VariantRef}
    (henum : v.enum = w.enum) (hv : Naming.IsWord v.name) (hw : Naming.IsWord w.name)
    (h : v.pattern names = w.pattern names) :
    Naming.nativeIdent v.name = Naming.nativeIdent w.name := by
  have hshape (shape : VariantShape) : shape.text.toList.takeWhile Naming.isWordChar = [] := by
    cases shape <;> decide
  have hword {name : String} (hname : Naming.IsWord name) (shape : VariantShape) :
      (Naming.nativeIdent name ++ shape.text).toList.takeWhile Naming.isWordChar =
        (Naming.nativeIdent name).toList := by
    rw [String.toList_append, List.takeWhile_append_of_pos hname.nativeIdent, hshape,
      List.append_nil]
  rw [pattern_eq, pattern_eq, henum, String.append_right_inj] at h
  exact String.toList_injective (by rw [← hword hv v.shape, h, hword hw])

/-! ## Numbers -/

/-- The arms for the variants of an enum. -/
def variantArms (e : ExportedEnum) : List (VariantRef × Nat) :=
  e.variants.zipIdx.map fun (v, i) => (VariantRef.of e i v, v.discriminant)

/-- What is found at a place of a list with places. -/
theorem find?_zipIdx {α : Type} (as : List α) (k i : Nat) :
    (as.zipIdx k).find? (fun p => decide (p.2 = k + i)) = as[i]?.map fun a => (a, k + i) := by
  induction as generalizing k i with
  | nil => rfl
  | cons a rest ih =>
    rw [List.zipIdx_cons]
    cases i with
    | zero => simp
    | succ i =>
      have hlater := ih (k + 1) i
      rw [show k + 1 + i = k + (i + 1) by omega] at hlater
      rw [List.find?_cons_of_neg (by simp), hlater, List.getElem?_cons_succ]

/-- The arms give a variant the discriminant that it has in the schema. -/
theorem discriminant_variantArms {e : ExportedEnum} {i : Nat} {v : Variant}
    (hv : e.variants[i]? = some v) (fields : List NativeValue) :
    discriminant (variantArms e) (.variant i fields) = v.discriminant := by
  have hfound : e.variants.zipIdx.find? (fun p => decide (p.2 = i)) = some (v, i) := by
    have h := find?_zipIdx e.variants 0 i
    rw [hv, Nat.zero_add] at h
    exact h
  have hplace : ((fun a : VariantRef × Nat => decide (a.1.place = i)) ∘
      fun p : Variant × Nat => (VariantRef.of e p.2 p.1, p.1.discriminant)) =
        fun p => decide (p.2 = i) := rfl
  show ((List.find? _ (variantArms e)).map Prod.snd).getD 0 = _
  rw [variantArms, List.find?_map, hplace, hfound]
  rfl

end Native

open Native

variable {facade : String} {ds : List Declaration} {s : Schema}

/-- **The variants of an enum have different patterns.** -/
theorem Accepted.nodup_patterns (h : Accepted facade ds s) {x : ExportedEnum} (hx : x ∈ s.enums)
    (names : Spelling) :
    (x.variants.map fun v => (VariantRef.of x v.discriminant v).pattern names).Nodup := by
  have hnames := List.pairwise_map.mp (h.nodup_variantNames hx)
  refine List.pairwise_map.mpr (hnames.imp_of_mem fun {v w} hv hw hne heq => hne ?_)
  have hv' := h.isIdentifier_variant hx hv
  have hw' := h.isIdentifier_variant hx hw
  have hident : Naming.nativeIdent v.name = Naming.nativeIdent w.name :=
    VariantRef.nativeIdent_eq_of_pattern_eq (v := VariantRef.of x v.discriminant v)
      (w := VariantRef.of x w.discriminant w) rfl (Naming.isWord_of_isIdentifier hv')
      (Naming.isWord_of_isIdentifier hw') heq
  exact Naming.pascal_eq_of_bare_eq ((Naming.nativeIdent_eq_iff hv' hw').mp hident)

end Boundary
