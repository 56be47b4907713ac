import Boundary.Declaration.Reader
import Boundary.Files.Access
import Boundary.Query.Reader

/-!
# Declarations from files

* `LoadError`: why a file holds no declarations.
* `loadDocuments`: the documents of a file, which a query may change.
* `loadDeclarations`: the declarations of some files, one file after the other.
-/

namespace Boundary

open Json

/-- What is wrong with a file. -/
inductive LoadFault
  | text (error : TextError)
  | syntaxError (error : SyntaxError)
  | query (fault : QueryFault)
  | shape (error : Located)
deriving Repr, DecidableEq

/-- Why a file holds no declarations. -/
structure LoadError where
  path : FilePath
  fault : LoadFault
deriving Repr, DecidableEq

/-- The wording of an error, from the outside to the cause. -/
def LoadError.chain (e : LoadError) : List String :=
  let path := e.path.text
  match e.fault with
  | .text t => [s!"{path}: {t.message}", t.message]
  | .syntaxError s => [s!"{path}: not valid JSON: {s.message}", s.message]
  | .query q => [s!"{path}: {q.message}", q.message]
  | .shape l =>
    [s!"{path}: invalid declaration list {l.display}", l.display, l.message]

/-- The wording of an error. -/
def LoadError.message (e : LoadError) : String := e.chain.headD ""

variable {m : Type → Type} [Monad m] [FileAccess m]

/-- The documents of a file: the one that it holds, or those that a query makes of it. -/
def loadDocuments (query : Option String) (p : FilePath) : ExceptT LoadError m (List Value) := do
  let text ← (readText p).adapt fun e => LoadError.mk p (.text e)
  let document ← ((Value.ofText text).mapError fun e => LoadError.mk p (.syntaxError e))
  match query with
  | none => return [document]
  | some q => ((runQuery q document).mapError fun e => LoadError.mk p (.query e))

/-- The declarations of a file. -/
def loadFile (query : Option String) (p : FilePath) : ExceptT LoadError m (List Declaration) := do
  let documents ← loadDocuments query p
  let lists ← (documents.mapM readDeclarations).mapError fun e => LoadError.mk p (.shape e)
  return lists.flatten

/-- The declarations of some files. -/
def loadDeclarations (query : Option String) (paths : List FilePath) :
    ExceptT LoadError m (List Declaration) := do
  return (← paths.mapM (loadFile query)).flatten

end Boundary
