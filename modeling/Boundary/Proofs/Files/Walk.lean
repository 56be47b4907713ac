import Boundary.Files.Tree
import Boundary.Proofs.Files.Path

/-!
# Following paths

All steps of a path but the last one lead through directories and links to a directory, and this
does not depend on what the last step is or what is done there. So a path goes on to stand for the
same place as long as the directories and links on the way are there, whatever becomes of files.

* `FileTree.Enters`: steps lead to a directory.
* `Enters.walk`, `exists_enters_of_walk`: walking goes there first, and cannot succeed otherwise.
* `FileTree.Under`, `FileTree.SameWays`: how the directories and links of trees compare.
* `FileTree.place?`: the place that a path stands for.
* `Under.target`, `Under.place?`: it stays the same.
* `FileTree.Leads`: a path leads to a directory.
* `FileTree.there?`: what there is at a path, a link at its end included.
-/

namespace Boundary

/-- Whether an entry is a file. -/
def FileEntry.isFile : FileEntry → Bool
  | .file _ => true
  | _ => false

theorem FileEntry.any_isFile_iff {entry : Option FileEntry} :
    entry.any isFile = true ↔ ∃ bytes, entry = some (.file bytes) := by
  match entry with
  | none | some .directory | some (.file _) | some (.link _) => simp [isFile]

/-- Whether an entry is a symbolic link. -/
def FileEntry.isLink : FileEntry → Bool
  | .link _ => true
  | _ => false

theorem FileEntry.any_isLink_iff {entry : Option FileEntry} :
    entry.any isLink = true ↔ ∃ q, entry = some (.link q) := by
  match entry with
  | none | some .directory | some (.file _) | some (.link _) => simp [isLink]

namespace FileTree

open FilePath

variable {t t' t'' : FileTree} {follow slash : Bool} {n k : Nat} {way d w : Way} {s name : String}
  {p q : FilePath} {c : PathComponent} {cs rest : List PathComponent}

/-! ## Single steps -/

@[simp] theorem walk_nil : t.walk follow n slash way [] = .ok (.directory way) := by
  cases n <;> rfl

@[simp] theorem walk_root :
    t.walk follow n slash way (.root :: rest) = t.walk follow n slash [] rest := by
  cases n <;> rfl

@[simp] theorem walk_here :
    t.walk follow n slash way (.here :: rest) = t.walk follow n slash way rest := by
  cases n <;> rfl

@[simp] theorem walk_up :
    t.walk follow n slash way (.up :: rest) = t.walk follow n slash way.dropLast rest := by
  cases n <;> rfl

section Names

attribute [local simp] walk walkWith

theorem walk_directory (h : t.find? (way ++ [s]) = some .directory) (hrest : rest ≠ []) :
    t.walk follow n slash way (.name s :: rest) = t.walk follow n slash (way ++ [s]) rest := by
  obtain ⟨c, rest, rfl⟩ := List.exists_cons_of_ne_nil hrest
  cases n <;> simp [h]

theorem walk_link (h : t.find? (way ++ [s]) = some (.link p)) (hp : p.text ≠ "")
    (hrest : rest ≠ []) :
    t.walk follow (n + 1) slash way (.name s :: rest) =
      t.walk follow n slash way (p.steps ++ rest) := by
  obtain ⟨c, rest, rfl⟩ := List.exists_cons_of_ne_nil hrest
  simp [h, hp]

/-- A name leads `walk` on only if it is that of a directory, or of a link while there are links
left. -/
theorem exists_of_walk_name_eq_ok {goal : Target} (hrest : rest ≠ [])
    (h : t.walk follow n slash way (.name s :: rest) = .ok goal) :
    t.find? (way ++ [s]) = some .directory ∨
      ∃ p m, t.find? (way ++ [s]) = some (.link p) ∧ p.text ≠ "" ∧ n = m + 1 := by
  obtain ⟨c, rest, rfl⟩ := List.exists_cons_of_ne_nil hrest
  cases hfind : t.find? (way ++ [s]) with
  | none => cases n <;> simp [hfind] at h
  | some entry =>
    cases entry with
    | directory => exact .inl rfl
    | file bytes => cases n <;> simp [hfind] at h
    | link p =>
      cases n with
      | zero => simp [hfind] at h
      | succ m =>
        refine .inr ⟨p, m, rfl, ?_, rfl⟩
        rintro hp
        simp [hfind, hp] at h

@[simp] theorem walk_last_false :
    t.walk false n slash way [.name s] = .ok (.entry way s slash) := by
  cases n <;> rfl

/-- The last name of a path stands for itself in `walk` unless it is that of a link. -/
theorem walk_last (h : ∀ p, t.find? (way ++ [s]) ≠ some (.link p)) :
    t.walk follow n slash way [.name s] = .ok (.entry way s slash) := by
  cases follow with
  | false => exact walk_last_false
  | true =>
    cases hfind : t.find? (way ++ [s]) with
    | none => cases n <;> simp [hfind]
    | some entry =>
      cases entry with
      | link p => exact absurd hfind (h p)
      | directory => cases n <;> simp [hfind]
      | file bytes => cases n <;> simp [hfind]

end Names

/-! ## Through directories and links -/

/-- The steps lead from one directory to another one, as `walk` follows them, where the numbers say
how many links may be followed before and after. -/
inductive Enters (t : FileTree) : Nat → Way → List PathComponent → Way → Nat → Prop
  | nil {m : Nat} {w : Way} : Enters t m w [] w m
  | root {m j : Nat} {w e : Way} {steps : List PathComponent} (h : Enters t m [] steps e j) :
    Enters t m w (.root :: steps) e j
  | here {m j : Nat} {w e : Way} {steps : List PathComponent} (h : Enters t m w steps e j) :
    Enters t m w (.here :: steps) e j
  | up {m j : Nat} {w e : Way} {steps : List PathComponent} (h : Enters t m w.dropLast steps e j) :
    Enters t m w (.up :: steps) e j
  | directory {m j : Nat} {w e : Way} {s : String} {steps : List PathComponent}
    (hfind : t.find? (w ++ [s]) = some .directory) (h : Enters t m (w ++ [s]) steps e j) :
    Enters t m w (.name s :: steps) e j
  | link {m j : Nat} {w e : Way} {s : String} {p : FilePath} {steps : List PathComponent}
    (hfind : t.find? (w ++ [s]) = some (.link p)) (hp : p.text ≠ "")
    (h : Enters t m w (p.steps ++ steps) e j) : Enters t (m + 1) w (.name s :: steps) e j

/-- To `walk` on behind steps that `Enters` describes is to start from the directory that they lead
to. -/
theorem Enters.walk (h : t.Enters n way cs d k) (hrest : rest ≠ []) :
    t.walk follow n slash way (cs ++ rest) = t.walk follow k slash d rest := by
  induction h with
  | nil => rfl
  | root _ ih | here _ ih | up _ ih => simpa using ih
  | directory hfind _ ih => rw [List.cons_append, walk_directory hfind (by simp [hrest]), ih]
  | link hfind hp _ ih =>
    rw [List.cons_append, walk_link hfind hp (by simp [hrest]), ← List.append_assoc, ih]

/-- The steps `cs` before the last one lead to a directory, if `walk` succeeds. -/
theorem exists_enters_of_walk {goal : Target}
    (h : t.walk follow n slash way (cs ++ [c]) = .ok goal) : ∃ d k, t.Enters n way cs d k := by
  -- A link takes the place of its name, so that the steps get more while the links get fewer.
  induction n using Nat.strongRecOn generalizing way cs with
  | _ n ih =>
    induction cs generalizing way with
    | nil => exact ⟨way, n, .nil⟩
    | cons step cs ihSteps =>
      rw [List.cons_append] at h
      cases step with
      | root =>
        obtain ⟨d, k, hd⟩ := ihSteps (by simpa using h)
        exact ⟨d, k, .root hd⟩
      | here =>
        obtain ⟨d, k, hd⟩ := ihSteps (by simpa using h)
        exact ⟨d, k, .here hd⟩
      | up =>
        obtain ⟨d, k, hd⟩ := ihSteps (by simpa using h)
        exact ⟨d, k, .up hd⟩
      | name s =>
        have hrest : cs ++ [c] ≠ [] := by simp
        obtain hfind | ⟨p, m, hfind, hp, rfl⟩ := exists_of_walk_name_eq_ok hrest h
        · rw [walk_directory hfind hrest] at h
          obtain ⟨d, k, hd⟩ := ihSteps h
          exact ⟨d, k, .directory hfind hd⟩
        · rw [walk_link hfind hp hrest, ← List.append_assoc] at h
          obtain ⟨d, k, hd⟩ := ih m (Nat.lt_succ_self m) h
          exact ⟨d, k, .link hfind hp hd⟩

theorem Enters.points_append {points : List PathComponent}
    (hpoints : ∀ c ∈ points, ¬ decide (c ≠ .here) = true) (h : t.Enters n way cs d k) :
    t.Enters n way (points ++ cs) d k := by
  induction points with
  | nil => exact h
  | cons c points ih =>
    obtain rfl : c = .here := by simpa using hpoints c (by simp)
    exact .here (ih fun c hc => hpoints c (by simp [hc]))

/-- Points among the steps count for nothing. -/
theorem Enters.of_filter (h : t.Enters n way cs d k) {cs' : List PathComponent}
    (hcs : cs'.filter (· ≠ .here) = cs.filter (· ≠ .here)) : t.Enters n way cs' d k := by
  induction h generalizing cs' with
  | nil =>
    have hpoints := List.filter_eq_nil_iff.mp hcs
    simpa using Enters.nil.points_append hpoints
  | here _ ih => exact ih hcs
  | root _ ih =>
    obtain ⟨points, steps, rfl, hpoints, -, hsteps⟩ := List.filter_eq_cons_iff.mp hcs
    exact (Enters.root (ih hsteps)).points_append hpoints
  | up _ ih =>
    obtain ⟨points, steps, rfl, hpoints, -, hsteps⟩ := List.filter_eq_cons_iff.mp hcs
    exact (Enters.up (ih hsteps)).points_append hpoints
  | directory hfind _ ih =>
    obtain ⟨points, steps, rfl, hpoints, -, hsteps⟩ := List.filter_eq_cons_iff.mp hcs
    exact (Enters.directory hfind (ih hsteps)).points_append hpoints
  | link hfind hp _ ih =>
    obtain ⟨points, steps, rfl, hpoints, -, hsteps⟩ := List.filter_eq_cons_iff.mp hcs
    refine (Enters.link hfind hp (ih ?_)).points_append hpoints
    rw [List.filter_append, List.filter_append, hsteps]

/-! ## Trees with the same directories and links -/

/-- What is in `t`, but no file, is in `t'` as well. -/
structure Under (t t' : FileTree) : Prop where
  cwd : t'.cwd = t.cwd
  find? : ∀ way entry, t.find? way = some entry → entry.isFile = false → t'.find? way = some entry

theorem Under.refl (t : FileTree) : t.Under t := ⟨rfl, fun _ _ h _ => h⟩

theorem Under.trans (h : t.Under t') (h' : t'.Under t'') : t.Under t'' :=
  ⟨h'.cwd.trans h.cwd, fun way entry hentry hfile =>
    h'.find? way entry (h.find? way entry hentry hfile) hfile⟩

/-- The trees `t` and `t'` differ in their files only. -/
def SameWays (t t' : FileTree) : Prop := t.Under t' ∧ t'.Under t

theorem SameWays.refl (t : FileTree) : t.SameWays t := ⟨.refl t, .refl t⟩

theorem SameWays.trans (h : t.SameWays t') (h' : t'.SameWays t'') : t.SameWays t'' :=
  ⟨h.1.trans h'.1, h'.2.trans h.2⟩

theorem Enters.of_under (h : t.Enters n way cs d k) (ht : t.Under t') : t'.Enters n way cs d k := by
  induction h with
  | nil => exact .nil
  | root _ ih => exact .root ih
  | here _ ih => exact .here ih
  | up _ ih => exact .up ih
  | directory hfind _ ih => exact .directory (ht.find? _ _ hfind rfl) ih
  | link hfind hp _ ih => exact .link (ht.find? _ _ hfind rfl) hp ih

/-! ## The place that a path stands for -/

/-- A path whose `target` is a name ends in one, and the steps before it lead to the directory. -/
theorem exists_enters_of_target {b : Bool} (h : t.target follow p = .ok (.entry d s b)) :
    p.text ≠ "" ∧ ∃ cs name e k, p.steps = cs ++ [.name name] ∧
      t.Enters linksMax t.cwd cs e k ∧
      t.walk follow k (p.text.endsWith "/") e [.name name] = .ok (.entry d s b) := by
  unfold target at h
  split at h
  · cases h
  rename_i htext
  refine ⟨htext, ?_⟩
  obtain hnil | ⟨cs, c, hsteps⟩ := List.eq_nil_or_concat p.steps
  · simp [hnil] at h
  · rw [List.concat_eq_append] at hsteps
    rw [hsteps] at h
    obtain ⟨e, k, he⟩ := exists_enters_of_walk h
    rw [he.walk (by simp)] at h
    cases c with
    | root | here | up => simp at h
    | name name => exact ⟨cs, name, e, k, hsteps, he, h⟩

theorem target_false_eq_entry_iff {b : Bool} :
    t.target false p = .ok (.entry d s b) ↔ p.text ≠ "" ∧ p.text.endsWith "/" = b ∧
      ∃ cs k, p.steps = cs ++ [.name s] ∧ t.Enters linksMax t.cwd cs d k := by
  constructor
  · intro htarget
    obtain ⟨htext, cs, name, e, k, hsteps, he, hlast⟩ := exists_enters_of_target htarget
    rw [walk_last_false, Except.ok.injEq, Target.entry.injEq] at hlast
    obtain ⟨rfl, rfl, hslash⟩ := hlast
    exact ⟨htext, hslash, cs, k, hsteps, he⟩
  · rintro ⟨htext, hslash, cs, k, hsteps, hd⟩
    rw [target, if_neg htext, hsteps, hd.walk (by simp), walk_last_false, hslash]

/-- **What the end of a path stands for**, its `target`, stays the same as long as directories and
links are there. -/
theorem Under.target {b : Bool} (h : t.Under t') (hp : t.target false p = .ok (.entry d s b)) :
    t'.target false p = .ok (.entry d s b) := by
  rw [target_false_eq_entry_iff] at hp ⊢
  obtain ⟨htext, hslash, cs, k, hsteps, hd⟩ := hp
  exact ⟨htext, hslash, cs, k, hsteps, h.cwd ▸ hd.of_under h⟩

/-- Unless there is a link at its end, a path has the same `target` when links are followed. -/
theorem target_of_not_link {b : Bool} (h : t.target false p = .ok (.entry d s b))
    (hlink : ∀ q, t.find? (d ++ [s]) ≠ some (.link q)) :
    t.target follow p = .ok (.entry d s b) := by
  rw [target_false_eq_entry_iff] at h
  obtain ⟨htext, hslash, cs, k, hsteps, hd⟩ := h
  rw [target, if_neg htext, hsteps, hd.walk (by simp), walk_last hlink, hslash]

/-- The place that the path `p` stands for, if it ends in a name: the way of a name in a directory.
-/
def place? (t : FileTree) (p : FilePath) : Option Way :=
  match t.target false p with
  | .ok (.entry d name false) => some (d ++ [name])
  | _ => none

theorem place?_eq_some_iff :
    t.place? p = some w ↔
      ∃ d name, t.target false p = .ok (.entry d name false) ∧ w = d ++ [name] := by
  unfold place?
  split
  · rename_i d name htarget
    rw [htarget]
    constructor
    · intro h
      cases h
      exact ⟨d, name, rfl, rfl⟩
    · rintro ⟨_, _, h, rfl⟩
      cases h
      rfl
  · rename_i hother
    refine ⟨nofun, ?_⟩
    rintro ⟨d, name, h, -⟩
    exact absurd h (hother d name)

theorem Under.place? (h : t.Under t') (hp : t.place? p = some w) : t'.place? p = some w := by
  obtain ⟨d, name, htarget, rfl⟩ := place?_eq_some_iff.mp hp
  exact place?_eq_some_iff.mpr ⟨d, name, h.target htarget, rfl⟩

/-- **The place of a path** does not depend on the files. -/
theorem SameWays.place? (h : t.SameWays t') (p : FilePath) : t'.place? p = t.place? p :=
  Option.ext fun _ => ⟨h.2.place?, h.1.place?⟩

/-! ## Paths in a directory -/

/-- The path `q` leads to the directory `d`. -/
def Leads (t : FileTree) (q : FilePath) (d : Way) : Prop :=
  ∃ k, t.Enters linksMax t.cwd q.steps d k

/-- The path that is made of the components of `q` leads to the same directory as `q`. -/
theorem leads_ofComponents (h : t.Leads q d) : t.Leads (ofComponents q.components) d := by
  obtain ⟨k, hd⟩ := h
  refine ⟨k, hd.of_filter ?_⟩
  rw [filter_steps, filter_steps, components_ofComponents]

theorem Leads.place? (h : t.Leads q d) (hname : IsName name) :
    t.place? (q.join name) = some (d ++ [name]) := by
  obtain ⟨k, hd⟩ := h
  obtain ⟨htext, hslash⟩ := text_join q hname
  exact place?_eq_some_iff.mpr ⟨d, name, target_false_eq_entry_iff.mpr
    ⟨htext, hslash, q.steps, k, steps_join q hname, hd⟩, rfl⟩

/-- The place of `q.join name` is in the directory that `q` leads to. -/
theorem exists_leads_of_place? (hname : IsName name) (h : t.place? (q.join name) = some w) :
    ∃ d, t.Leads q d ∧ w = d ++ [name] := by
  obtain ⟨d, s, htarget, rfl⟩ := place?_eq_some_iff.mp h
  obtain ⟨-, -, cs, k, hsteps, hd⟩ := target_false_eq_entry_iff.mp htarget
  rw [steps_join q hname] at hsteps
  obtain ⟨rfl, hlast⟩ := List.append_inj' hsteps rfl
  cases hlast
  exact ⟨d, ⟨k, hd⟩, rfl⟩

/-- A path whose last part is one or two points has no name for its `target`. -/
theorem target_join_ne_entry (q : FilePath) {last : String} (h : last = "." ∨ last = "..") (d : Way)
    (s : String) (b : Bool) : t.target follow (q.join last) ≠ .ok (.entry d s b) := by
  intro htarget
  have habsolute : (FilePath.mk last).isAbsolute = false := by obtain rfl | rfl := h <;> decide
  have hsplit : Text.split '/' last = [last] := by obtain rfl | rfl := h <;> rfl
  obtain ⟨-, cs, name, -, -, hsteps, -⟩ := exists_enters_of_target htarget
  rw [steps_join_of_split q habsolute hsplit] at hsteps
  have hlast : (stepOf? last).toList = [.name name] := by
    obtain rfl | rfl := h
    all_goals exact (List.append_inj' hsteps rfl).2
  obtain rfl | rfl := h <;> cases hlast

/-! ## What there is at a path -/

/-- What there is at the path `p`. A link at its end is not followed. -/
def there? (t : FileTree) (p : FilePath) : Option FileEntry :=
  match t.target false p with
  | .ok (.directory _) => some .directory
  | .ok (.entry d s _) => t.find? (d ++ [s])
  | .error _ => none

/-- There is a file at the path `p`. -/
def HasFile (t : FileTree) (p : FilePath) : Prop := ∃ bytes, t.there? p = some (.file bytes)

/-- There is a symbolic link at the path `p`. -/
def HasLink (t : FileTree) (p : FilePath) : Prop := ∃ q, t.there? p = some (.link q)

instance (t : FileTree) (p : FilePath) : Decidable (t.HasFile p) :=
  decidable_of_iff _ FileEntry.any_isFile_iff

instance (t : FileTree) (p : FilePath) : Decidable (t.HasLink p) :=
  decidable_of_iff _ FileEntry.any_isLink_iff

theorem there?_of_place? (h : t.place? p = some w) : t.there? p = t.find? w := by
  obtain ⟨d, name, htarget, rfl⟩ := place?_eq_some_iff.mp h
  rw [there?, htarget]

theorem HasLink.of_under (h : t.HasLink p) (ht : t.Under t') : t'.HasLink p := by
  obtain ⟨q, hq⟩ := h
  refine ⟨q, ?_⟩
  unfold there? at hq ⊢
  split at hq
  · cases hq
  · rename_i htarget
    rw [ht.target htarget]
    exact ht.find? _ _ hq rfl
  · cases hq

end FileTree

end Boundary
