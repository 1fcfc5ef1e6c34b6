import FileQuery.Path

/-!
# The environment

The variables that the program is started with.
-/

namespace FileQuery

/-- Variables with their values. -/
abbrev Environment := List (String × String)

namespace Environment

/-- The value of a variable. -/
def get? (environment : Environment) (name : String) : Option String := environment.lookup name

/-- The home folder. Without a variable for it, it is that of the administrator. -/
def home (environment : Environment) : Path :=
  match environment.get? "HOME" with
  | some folder => if folder.isEmpty then ⟨"/root"⟩ else ⟨folder⟩
  | none => ⟨"/root"⟩

/-- The folders that programs are looked for in. -/
def searchPath (environment : Environment) : List Path :=
  (((environment.get? "PATH").getD "/bin:/usr/bin").splitOn ":").map fun folder =>
    if folder.isEmpty then ⟨"."⟩ else ⟨folder⟩

end Environment

end FileQuery
