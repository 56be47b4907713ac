import Boundary.Files.Access

/-!
# A tree of files in memory

The directories, files and symbolic links of a system by the names that lead to them from the root.
A path is followed step by step, from the root or from the working directory, through directories
and through the links on the way. Who may do what is left out, as are hard links, devices and the
limits on the length of names.

* `FileTree`: what there is, and the working directory.
* `FileTree.walk`, `FileTree.target`: what the end of a path stands for.
* `FileTree.stat`, `FileTree.read`, `FileTree.write`, `FileTree.makeDirectory`, `FileTree.move`,
  `FileTree.remove`: the operations.
* `find?_put`, `find?_erase`: what is found after a change.
-/

namespace Boundary

/-- The names on the way from the root. -/
abbrev Way := List String

/-- A directory, a file with its bytes, or a symbolic link with the path that it stands for. -/
inductive FileEntry
  | directory
  | file (bytes : List UInt8)
  | link (path : FilePath)
deriving Repr, DecidableEq

/-- What there is at the ends of ways (`entries`), and the working directory `cwd`. This directory
and those that lead to it are there without being listed. -/
structure FileTree where
  entries : List (Way × FileEntry) := []
  cwd : Way := ["work"]
deriving Repr, DecidableEq, Inhabited

namespace FileTree

/-- What is found at the end of `way` from the root. -/
def find? (t : FileTree) (way : Way) : Option FileEntry :=
  if way.isPrefixOf t.cwd then some .directory else t.entries.lookup way

/-- What is found at the end of `way` from `cwd`. -/
def get? (t : FileTree) (way : Way) : Option FileEntry := t.find? (t.cwd ++ way)

/-- The tree without what is at the end of `way`. -/
def erase (t : FileTree) (way : Way) : FileTree :=
  { t with entries := t.entries.filter fun e => e.1 ≠ way }

/-- The tree with `entry` at the end of `way`. -/
def put (t : FileTree) (way : Way) (entry : FileEntry) : FileTree :=
  { t with entries := (t.erase way).entries ++ [(way, entry)] }

/-- The files below `cwd` with their ways from there. -/
def files (t : FileTree) : List (Way × List UInt8) :=
  t.entries.filterMap fun
    | (way, .file bytes) => (t.cwd.isPrefixOf? way).map (·, bytes)
    | (_, _) => none

/-- The names in the directory at the end of `way`. -/
def children (t : FileTree) (way : Way) : List String :=
  ((way.isPrefixOf? t.cwd).bind (·.head?)).toList ++ t.entries.filterMap fun e =>
    match e.1.getLast? with
    | some name => if e.1.dropLast = way then some name else none
    | none => none

/-! ## Lookup after a change -/

theorem lookup_filter_ne {way other : Way} (h : other ≠ way) (entries : List (Way × FileEntry)) :
    (entries.filter fun e => e.1 ≠ way).lookup other = entries.lookup other := by
  induction entries with
  | nil => rfl
  | cons e rest ih =>
    obtain ⟨k, v⟩ := e
    by_cases hk : k = way
    · have : (other == k) = false := beq_eq_false_iff_ne.2 fun he => h (he.trans hk)
      rw [List.lookup_cons, this]
      simpa [hk] using ih
    · by_cases ho : other = k
      · simp [hk, ho]
      · have : (other == k) = false := beq_eq_false_iff_ne.2 ho
        simp only [ne_eq, hk, not_false_eq_true, decide_true, List.filter_cons_of_pos,
          List.lookup_cons, this]
        simpa using ih

theorem lookup_filter_self (way : Way) (entries : List (Way × FileEntry)) :
    (entries.filter fun e => e.1 ≠ way).lookup way = none := by
  induction entries with
  | nil => rfl
  | cons e rest ih =>
    obtain ⟨k, v⟩ := e
    by_cases hk : k = way
    · simpa [hk] using ih
    · have : (way == k) = false := beq_eq_false_iff_ne.2 fun he => hk he.symm
      simp only [ne_eq, hk, not_false_eq_true, decide_true, List.filter_cons_of_pos,
        List.lookup_cons, this]
      simpa using ih

theorem lookup_append_single (way key : Way) (entry : FileEntry)
    (entries : List (Way × FileEntry)) :
    (entries ++ [(way, entry)]).lookup key
      = (entries.lookup key).or (if key = way then some entry else none) := by
  induction entries with
  | nil =>
    by_cases h : key = way
    · simp [h]
    · have : (key == way) = false := beq_eq_false_iff_ne.2 h
      simp [List.lookup_cons, this, h]
  | cons e rest ih =>
    obtain ⟨k, v⟩ := e
    cases hk : key == k <;> simp [List.lookup_cons, hk, ih]

/-- What `find?` finds after `erase`. -/
theorem find?_erase (t : FileTree) (way other : Way) :
    (t.erase way).find? other
      = if other.isPrefixOf t.cwd then some .directory
        else if other = way then none else t.find? other := by
  by_cases h0 : other.isPrefixOf t.cwd
  · simp [find?, h0, erase]
  · by_cases h : other = way
    · subst h
      simpa [find?, h0, erase] using lookup_filter_self other t.entries
    · simpa [find?, h0, h, erase] using lookup_filter_ne h t.entries

/-- What `find?` finds after `put`. -/
theorem find?_put (t : FileTree) (way other : Way) (entry : FileEntry) :
    (t.put way entry).find? other
      = if other.isPrefixOf t.cwd then some .directory
        else if other = way then some entry else t.find? other := by
  by_cases h0 : other.isPrefixOf t.cwd
  · simp [find?, h0, put]
  · by_cases h : other = way
    · subst h
      have e : (t.erase other).entries.lookup other = none := lookup_filter_self other t.entries
      simp [find?, h0, put, lookup_append_single, e]
    · have e : (t.erase way).entries.lookup other = t.entries.lookup other :=
        lookup_filter_ne h t.entries
      simp [find?, h0, h, put, lookup_append_single, e]

/-! ## Paths -/

/-- What the end of a path stands for: a directory, or a name in one. -/
inductive Target
  /-- A directory that is not named by the last step. -/
  | directory (way : Way)
  /-- A name in a directory; a slash behind it asks for a directory. -/
  | entry (directory : Way) (name : String) (slash : Bool)
deriving Repr, DecidableEq

/-- Follows the steps of a path from a directory, where `slash` says whether the path ends with a
slash. What is done at a link is `jump`; one at the end of the path is only followed if `follow`
says so. -/
def walkWith (t : FileTree) (follow : Bool)
    (jump : Bool → Way → FilePath → List PathComponent → Except OsError Target) (slash : Bool) :
    Way → List PathComponent → Except OsError Target
  | way, [] => .ok (.directory way)
  | _, .root :: rest => t.walkWith follow jump slash [] rest
  | way, .here :: rest => t.walkWith follow jump slash way rest
  | way, .up :: rest => t.walkWith follow jump slash way.dropLast rest
  | way, [.name s] =>
    match follow, t.find? (way ++ [s]) with
    | true, some (.link path) => jump (slash || path.text.endsWith "/") way path []
    | _, _ => .ok (.entry way s slash)
  | way, .name s :: next :: rest =>
    match t.find? (way ++ [s]) with
    | none => .error .notFound
    | some (.file _) => .error .notDirectory
    | some .directory => t.walkWith follow jump slash (way ++ [s]) (next :: rest)
    | some (.link path) => jump slash way path (next :: rest)

/-- Follows the steps of a path from a directory with `walkWith`, through no more than a number of
links. The path of a link starts in the directory of the link. -/
def walk (t : FileTree) (follow : Bool) :
    Nat → Bool → Way → List PathComponent → Except OsError Target
  | 0 => t.walkWith follow fun _ _ _ _ => .error .linkLoop
  | n + 1 => t.walkWith follow fun slash way path rest =>
    if path.text = "" then .error .notFound
    else t.walk follow n slash way (path.steps ++ rest)

/-- The number of links that a path may lead through. -/
def linksMax : Nat := 40

/-- What the end of the path `p` stands for. It is followed from `cwd` or from the root. -/
def target (t : FileTree) (follow : Bool) (p : FilePath) : Except OsError Target :=
  if p.text = "" then .error .notFound
  else t.walk follow linksMax (p.text.endsWith "/") t.cwd p.steps

/-- What is found at a `Target`. -/
def lookup (t : FileTree) : Target → Except OsError FileEntry
  | .directory _ => .ok .directory
  | .entry way name slash =>
    match t.find? (way ++ [name]) with
    | none => .error .notFound
    | some entry => if slash && entry ≠ .directory then .error .notDirectory else .ok entry

/-! ## Operations -/

/-- What the path `p` leads to; `follow` says whether a link at its end is followed. -/
def stat (t : FileTree) (follow : Bool) (p : FilePath) : Except OsError FileEntry := do
  t.lookup (← t.target follow p)

/-- The kind of what the path `p` leads to, be it through links. -/
def kind? (t : FileTree) (p : FilePath) : Option FileKind :=
  match t.stat true p with
  | .ok .directory => some .directory
  | .ok (.file _) => some .file
  | _ => none

/-- Whether there is anything at the path `p`, be it a link. -/
def isThere (t : FileTree) (p : FilePath) : Bool := (t.stat false p).isOk

/-- The way that a `Target` is at the end of. -/
def Target.way : Target → Way
  | .directory way => way
  | .entry way name _ => way ++ [name]

/-- The names in the directory that the path `p` leads to. -/
def names (t : FileTree) (p : FilePath) : List String :=
  match t.target true p with
  | .ok target => if t.find? target.way = some .directory then t.children target.way else []
  | .error _ => []

/-- The bytes of the file that the path `p` leads to. -/
def read (t : FileTree) (p : FilePath) : Except OsError (List UInt8) := do
  match ← t.stat true p with
  | .directory => .error .isDirectory
  | .file bytes => .ok bytes
  | .link _ => .error .linkLoop

/-- Gives the file that the path `p` leads to the `bytes`. A link that leads to no file makes one
where it leads. -/
def write (t : FileTree) (p : FilePath) (bytes : List UInt8) : Except OsError FileTree := do
  match ← t.target true p with
  | .directory _ => .error .isDirectory
  | .entry way name slash =>
    if slash then .error .isDirectory
    else
      match t.find? (way ++ [name]) with
      | some .directory => .error .isDirectory
      | some (.link _) => .error .linkLoop
      | some (.file _) | none => .ok (t.put (way ++ [name]) (.file bytes))

/-- Makes a directory at the path `p`. A link there is in the way. -/
def makeDirectory (t : FileTree) (p : FilePath) : Except OsError FileTree := do
  match ← t.target false p with
  | .directory _ => .error .alreadyExists
  | .entry way name _ =>
    match t.find? (way ++ [name]) with
    | some _ => .error .alreadyExists
    | none => .ok (t.put (way ++ [name]) .directory)

/-- Gives the file or the link at the path `p` the path `q` instead. Links at the ends are not
followed. Directories are not moved: nothing here does it, as a directory at a staging path makes
`write` fail, and one at a target is no file that is kept. -/
def move (t : FileTree) (p q : FilePath) : Except OsError FileTree := do
  match ← t.target false p, ← t.target false q with
  | .entry source name slash, .entry target name' slash' =>
    match t.find? (source ++ [name]) with
    | none => .error .notFound
    | some .directory => .error .isDirectory
    | some entry =>
      if slash || slash' then .error .notDirectory
      else if t.find? (target ++ [name']) = some .directory then .error .isDirectory
      else .ok ((t.erase (source ++ [name])).put (target ++ [name']) entry)
  | _, _ => .error .busy

/-- Removes the file or the link at the path `p`. -/
def remove (t : FileTree) (p : FilePath) : Except OsError FileTree := do
  let target ← t.target false p
  match ← t.lookup target with
  | .directory => .error .isDirectory
  | .file _ | .link _ => .ok (t.erase target.way)

/-- Applies `operation` to the current tree; one that fails leaves it as it is. -/
def change (operation : FileTree → Except OsError FileTree) :
    ExceptT OsError (StateM FileTree) Unit := do
  match operation (← get) with
  | .ok t => set t
  | .error e => throw e

/-- The operations on the current tree. -/
instance : FileAccess (StateM FileTree) where
  kind? p := do return (← get).kind? p
  isThere p := do return (← get).isThere p
  names p := do return (← get).names p
  read p := do
    match (← get).read p with
    | .ok bytes => pure bytes
    | .error e => throw e
  write p bytes := change (·.write p bytes)
  makeDirectory p := change (·.makeDirectory p)
  move p q := change (·.move p q)
  remove p := change (·.remove p)

/-- The outcome of `action` on the tree `t`, and the tree afterwards. -/
def run {ε α : Type} (t : FileTree) (action : ExceptT ε (StateM FileTree) α) :
    Except ε α × FileTree := StateT.run (ExceptT.run action) t

end FileTree

end Boundary
