import Mathlib.Data.List.Basic
import Boundary.Source.Writer

/-!
# Balanced calls

The writer is called once to open a level and once to close it, and the two calls are often far
apart. Calls are balanced if they can be put together of lines and of levels that are closed again.

* `level`: some calls between the two calls of a level.
* `Balanced`: the calls close every level that they open, and no other; `Balanced.append`,
  `Balanced.level`, `Balanced.flatMap`, `Balanced.map`: the ways to put such calls together.
* `Code.depth_writeAll`: balanced calls leave the depth as it was.
* `Part`, `parts`: what stands between the two calls of a level, as a tree.
* `parts_append`, `parts_level`: the tree of balanced calls, piece by piece.
-/

namespace Boundary.Source

/-! ## Balanced calls -/

/-- The calls `body` between the two calls `open_` and `close` of a level. -/
def level (header footer : String) (body : List Code) : List Code :=
  .open_ header :: body ++ [.close footer]

/-- Every `open_` has its `close` behind balanced calls, and there is no other `close`. -/
inductive Balanced : List Code → Prop
  | nil : Balanced []
  | line (text : String) {rest : List Code} (h : Balanced rest) : Balanced (.line text :: rest)
  | lines (text : String) {rest : List Code} (h : Balanced rest) : Balanced (.lines text :: rest)
  | blank {rest : List Code} (h : Balanced rest) : Balanced (.blank :: rest)
  | block (header footer : String) {body rest : List Code} (hbody : Balanced body)
    (hrest : Balanced rest) : Balanced (level header footer body ++ rest)

attribute [simp] Balanced.nil Balanced.line Balanced.lines Balanced.blank

@[simp] theorem Balanced.append {a b : List Code} (ha : Balanced a) (hb : Balanced b) :
    Balanced (a ++ b) := by
  induction ha with
  | nil => exact hb
  | line text _ ih => exact .line text ih
  | lines text _ ih => exact .lines text ih
  | blank _ ih => exact .blank ih
  | block header footer hbody _ _ ih =>
    rw [List.append_assoc]
    exact .block header footer hbody ih

@[simp] theorem Balanced.level {header footer : String} {body : List Code} (h : Balanced body) :
    Balanced (level header footer body) := by
  simpa using Balanced.block header footer h .nil

theorem Balanced.flatMap {α : Type} {f : α → List Code} {as : List α}
    (h : ∀ a ∈ as, Balanced (f a)) : Balanced (as.flatMap f) := by
  induction as with
  | nil => exact .nil
  | cons a rest ih =>
    rw [List.forall_mem_cons] at h
    exact h.1.append (ih h.2)

theorem Balanced.map {α : Type} {f : α → Code} {as : List α} (h : ∀ a ∈ as, Balanced [f a]) :
    Balanced (as.map f) := by
  rw [List.map_eq_flatMap]
  exact Balanced.flatMap h

/-- Calls that are `Balanced` leave the depth as it was. -/
theorem Code.depth_writeAll {code : List Code} (h : Balanced code) (w : Writer) :
    (Code.writeAll w code).depth = w.depth := by
  induction h generalizing w with
  | nil => rfl
  | line text _ ih => exact (ih _).trans (w.depth_line text)
  | lines text _ ih => exact (ih _).trans (w.depth_lines text)
  | blank _ ih => exact (ih _).trans w.depth_blank
  | block header footer _ _ ihbody ihrest =>
    have hbody := ihbody (w.open_ header)
    rw [writeAll] at hbody
    rw [writeAll, level, List.append_assoc, List.cons_append, List.foldl_cons, List.foldl_append]
    refine (ihrest _).trans ((Writer.depth_close _ footer).trans ?_)
    rw [write, hbody, Writer.depth_open]
    rfl

/-! ## Parts -/

/-- A line, or what stands between the two calls of a level, as `parts` finds it. -/
inductive Part
  | line (text : String)
  | blank
  | block (header : String) (body : List Part) (footer : String)

/-- The parts of calls behind the parts `done`, inside the levels of `stack`. Each of these has
its header and the parts before it. A level that is never closed counts for nothing. -/
def partsFrom (stack : List (String × List Part)) (done : List Part) : List Code → List Part
  | [] => done
  | .line text :: rest => partsFrom stack (done ++ [.line text]) rest
  | .lines text :: rest => partsFrom stack (done ++ (Text.lines text).map Part.line) rest
  | .blank :: rest => partsFrom stack (done ++ [.blank]) rest
  | .open_ header :: rest => partsFrom ((header, done) :: stack) [] rest
  | .close footer :: rest =>
    match stack with
    | [] => partsFrom [] (done ++ [.line footer]) rest
    | (header, before) :: stack => partsFrom stack (before ++ [.block header done footer]) rest

/-- What the calls `code` write, level by level. -/
def parts (code : List Code) : List Part := partsFrom [] [] code

/-- Calls that are `Balanced` add their parts to those before them, at whatever level. -/
private theorem exists_partsFrom_append {code : List Code} (h : Balanced code) :
    ∃ ps, ∀ stack done rest, partsFrom stack done (code ++ rest) =
      partsFrom stack (done ++ ps) rest := by
  induction h with
  | nil => exact ⟨[], fun stack done rest => by rw [List.append_nil, List.nil_append]⟩
  | line text _ ih =>
    obtain ⟨ps, hps⟩ := ih
    refine ⟨.line text :: ps, fun stack done rest => ?_⟩
    rw [List.cons_append, partsFrom, hps, List.append_assoc, List.singleton_append]
  | lines text _ ih =>
    obtain ⟨ps, hps⟩ := ih
    refine ⟨(Text.lines text).map Part.line ++ ps, fun stack done rest => ?_⟩
    rw [List.cons_append, partsFrom, hps, List.append_assoc]
  | blank _ ih =>
    obtain ⟨ps, hps⟩ := ih
    refine ⟨.blank :: ps, fun stack done rest => ?_⟩
    rw [List.cons_append, partsFrom, hps, List.append_assoc, List.singleton_append]
  | block header footer _ _ ihbody ihrest =>
    obtain ⟨body, hbody⟩ := ihbody
    obtain ⟨ps, hps⟩ := ihrest
    refine ⟨.block header body footer :: ps, fun stack done rest => ?_⟩
    rw [level, List.append_assoc, List.append_assoc, List.cons_append, partsFrom, hbody,
      List.nil_append, List.singleton_append, partsFrom, hps, List.append_assoc,
      List.singleton_append]

theorem Balanced.partsFrom_append {code : List Code} (h : Balanced code)
    (stack : List (String × List Part)) (done : List Part) (rest : List Code) :
    partsFrom stack done (code ++ rest) = partsFrom stack (done ++ parts code) rest := by
  obtain ⟨ps, hps⟩ := exists_partsFrom_append h
  have hparts : parts code = ps := by
    have hall := hps [] [] []
    rwa [List.append_nil, List.nil_append, partsFrom] at hall
  rw [hparts, hps]

@[simp] theorem parts_nil : parts [] = [] := rfl

@[simp] theorem parts_append {a b : List Code} (ha : Balanced a) (hb : Balanced b) :
    parts (a ++ b) = parts a ++ parts b := by
  rw [parts, ha.partsFrom_append, ← List.append_nil b, hb.partsFrom_append]
  simp [partsFrom]

@[simp] theorem parts_line (text : String) {rest : List Code} (h : Balanced rest) :
    parts (.line text :: rest) = .line text :: parts rest :=
  parts_append (.line text .nil) h

@[simp] theorem parts_lines (text : String) {rest : List Code} (h : Balanced rest) :
    parts (.lines text :: rest) = (Text.lines text).map Part.line ++ parts rest :=
  parts_append (.lines text .nil) h

@[simp] theorem parts_blank {rest : List Code} (h : Balanced rest) :
    parts (.blank :: rest) = .blank :: parts rest := parts_append (.blank .nil) h

@[simp] theorem parts_level (header footer : String) {body : List Code} (h : Balanced body) :
    parts (level header footer body) = [.block header (parts body) footer] := by
  rw [parts, level, List.cons_append, partsFrom, h.partsFrom_append]
  rfl

end Boundary.Source
