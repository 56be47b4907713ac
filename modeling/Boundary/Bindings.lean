import Boundary.Config
import Boundary.Managed.Source
import Boundary.Native.Source
import Boundary.Schema.Build

/-!
# Bindings

* `Rejection`: why no bindings are made.
* `Config.schema`: the schema of declarations under a configuration that can be used.
* `Bindings`, `Schema.bindings`: both generated sources.
-/

namespace Boundary

/-- Why no bindings are made. -/
inductive Rejection
  | config (fault : ConfigFault)
  | declarations (report : Report)
deriving Repr

/-- The wording of a `Rejection`. -/
def Rejection.message : Rejection → String
  | .config fault => fault.message
  | .declarations report => report.display

/-- The schema of the declarations `ds` under the settings `c`, if these can be used. -/
def Config.schema (c : Config) (ds : List Declaration) : Except Rejection Schema :=
  match c.fault? with
  | some fault => .error (.config fault)
  | none => (Schema.build c.facade ds).mapError .declarations

/-- Both generated sources. -/
structure Bindings where
  native : String
  managed : String
deriving Repr, DecidableEq

/-- Both sources of the schema `s`. -/
def Schema.bindings (s : Schema) (c : Config) : Bindings := ⟨s.nativeSource c, s.managedSource c⟩

end Boundary
