import Boundary.Native.Source
import Boundary.Proofs.Source.Balance

/-!
# Levels in native files

The calls that write a native file open and close levels one by one. Put together differently, the
same calls are blocks with their bodies, so that every level is closed where it should be.

* `ErrorWrite.code_option`, `Answer.code_result`, `Body.code_tag`, `Body.code_variantField`,
  `entryCode_eq`: the parts of a file that have blocks, put together of them.
* `ErrorWrite.balanced_code`, `Body.balanced_code`: statements, by recursion over what is
  serialized.
* `balanced_nativeCode`: the calls that write a native file are balanced, whatever is in it.
-/

namespace Boundary

open Source

namespace Native

variable (names : Spelling)

/-! ## Blocks -/

theorem ErrorWrite.code_option (inner : ErrorWrite) (value : String) (depth : Nat) :
    (ErrorWrite.option inner).code names value depth = level s!"match {value} \x7b" "\x7d"
      (level s!"Some({boundName depth}) => \x7b" "\x7d"
        (.line "__writer.write_presence(true);" :: inner.code names (boundName depth) (depth + 1))
        ++ [.line "None => __writer.write_presence(false),"]) := by
  simp [ErrorWrite.code, level]

/-- The statements that hand the error `err` over. -/
def failureCode (err : Option ErrorWrite) : List Code :=
  match err with
  | none => [.line "let () = __error;", .line "return Err(__rt::CallError::native(Vec::new()));"]
  | some write =>
    .line "let mut __writer = __rt::WireWriter::new();" :: write.code names "__error" 0
      ++ [.line "return Err(__rt::CallError::native(__writer.finish()));"]

/-- The statements that return the value of a success, lowered by `ok`. -/
def successCode (ok : Option Lowering) : List Code :=
  match ok with
  | none => [.line "let () = __result;", .line "Ok(())"]
  | some lowering => [lowered names "__result" lowering]

theorem Answer.code_result (call : String) (ok : Option Lowering) (err : Option ErrorWrite) :
    (Answer.result ok err).code names call = level s!"let __result = match {call} \x7b" "\x7d;"
      (.line "Ok(__value) => __value," ::
        level "Err(__error) => \x7b" "\x7d" (failureCode names err)) ++ successCode names ok := by
  cases ok <;> cases err <;> simp [Answer.code, failureCode, successCode, level]

theorem Body.code_tag (id : TypeId) (arms : List (VariantRef × Nat)) :
    (Body.tag id arms).code names = (Step.receive .lend id).line names ::
      level "Ok(match &*__this \x7b" "\x7d)"
        (arms.map fun (v, n) => .line s!"{v.pattern names} => {n},") := by
  simp [Body.code, level]

theorem Body.code_variantField (id : TypeId) (v : VariantRef) (place : Nat) (name : FieldName)
    (isNumber : Bool) (lowering : Lowering) :
    let value := if isNumber then "*__field" else "__field.clone()"
    let expected := s!"{Text.quoted v.enum}, {Text.quoted v.name}"
    (Body.variantField id v place name isNumber lowering).code names =
      (Step.receive .lend id).line names :: level "match &*__this \x7b" "\x7d" (
        level s!"{v.binding names name} => \x7b" "\x7d"
          [.line s!"let __value = {value};", lowered names "__value" lowering]
        ++ [.line "#[allow(unreachable_patterns)]",
          .line s!"_ => Err(__rt::CallError::variant_mismatch({expected})),"]) := by
  simp [Body.code, level]

theorem entryCode_eq (entry : EntryPoint) (body : Option Body) :
    entryCode names entry body = [.blank, .line "#[unsafe(no_mangle)]"]
      ++ level (signature entry) "\x7d" (level "__rt::rust_call(__out_status, move || \x7b" "\x7d)"
        ((body.map (·.code names)).getD [])) := by
  simp [entryCode, level]

/-! ## Balance -/

/-- Each option of an error opens two levels and closes them. -/
@[simp] theorem ErrorWrite.balanced_code (w : ErrorWrite) (value : String) (depth : Nat) :
    Balanced (w.code names value depth) := by
  induction w generalizing value depth with
  | nothing => exact .nil
  | primitive _ | text | insert _ => exact .line _ .nil
  | option inner ih =>
    rw [ErrorWrite.code_option]
    exact .level (.append (.level (.line _ (ih _ _))) (.line _ .nil))

@[simp] theorem balanced_failureCode (err : Option ErrorWrite) :
    Balanced (failureCode names err) := by
  cases err with
  | none => exact .line _ (.line _ .nil)
  | some write => exact .append (.line _ (write.balanced_code names _ _)) (.line _ .nil)

@[simp] theorem balanced_successCode (ok : Option Lowering) : Balanced (successCode names ok) := by
  cases ok with
  | none => exact .line _ (.line _ .nil)
  | some lowering => exact .line _ .nil

@[simp] theorem Answer.balanced_code (a : Answer) (call : String) :
    Balanced (a.code names call) := by
  cases a with
  | nothing | value _ => exact .line _ (.line _ .nil)
  | result ok err =>
    rw [Answer.code_result]
    exact .append (.level (.line _ (.level (balanced_failureCode names err))))
      (balanced_successCode names ok)

theorem Step.balanced_line (step : Step) : Balanced [step.line names] := by
  cases step with
  | receive access _ => cases access <;> exact .line _ .nil
  | lift _ _ _ => exact .line _ .nil

@[simp] theorem balanced_steps (steps : List Step) : Balanced (steps.map (·.line names)) :=
  .map fun step _ => step.balanced_line names

@[simp] theorem Body.balanced_code (b : Body) : Balanced (b.code names) := by
  cases b with
  | freeBuffer | release _ => exact .line _ (.line _ .nil)
  | construct _ steps _ => exact (balanced_steps names steps).append (.line _ .nil)
  | field id _ _ _ _ =>
    exact ((Step.receive .lend id).balanced_line names).append (.line _ (.line _ .nil))
  | tag id arms =>
    rw [Body.code_tag]
    exact ((Step.receive .lend id).balanced_line names).append
      (.level (.map fun _ _ => .line _ .nil))
  | variantField id v _ _ _ _ =>
    rw [Body.code_variantField]
    exact ((Step.receive .lend id).balanced_line names).append
      (.level (.append (.level (.line _ (.line _ .nil))) (.line _ (.line _ .nil))))
  | call steps c answer =>
    exact (balanced_steps names steps).append (answer.balanced_code names _)

@[simp] theorem balanced_entryCode (entry : EntryPoint) (body : Option Body) :
    Balanced (entryCode names entry body) := by
  have hbody : Balanced ((body.map (·.code names)).getD []) := by
    cases body with
    | none => exact .nil
    | some b => exact b.balanced_code names
  rw [entryCode_eq]
  exact .append (.blank (.line _ .nil)) hbody.level.level

end Native

open Native

/-- **The calls of `nativeCode` are `Balanced`**, whatever is in the file. -/
theorem Schema.balanced_nativeCode (s : Schema) (c : Config) : Balanced (s.nativeCode c) := by
  have hheading : Balanced (heading c) := .lines _ (.blank (.line _ (.blank .nil)))
  have htables : Balanced
      (s.typeNames.map fun type => tableCode (s.spelling c) type.1 type.2) :=
    .map fun _ _ => .line _ .nil
  have hcheck (measure type : String) (expected : Nat) :
      Balanced (layoutCheck measure type expected) := .line _ (.line _ .nil)
  exact (((hheading.append htables).append (.blank .nil)).append
    (.flatMap fun _ _ => (hcheck ..).append (hcheck ..))).append
      (.flatMap fun _ _ => balanced_entryCode ..)

end Boundary
