import TestImpact.Path
import TestImpact.Text.Capital
import TestImpact.Text.Dotted

/-
  Where the settings are, and how much is logged, as the environment has it.

  The directory of the settings is named by a variable, or lies in the home
  directory. A path that begins with a tilde lies in the home directory too.
-/

namespace TestImpact.Settings

/-- The variables that are looked at. -/
structure Environment where
  settingsHome : Option String
  logLevel : Option String
  home : String

/-- Why the directory of the settings is not known. -/
inductive PlaceError where
  | noHome
  deriving DecidableEq, Repr

def PlaceError.message : PlaceError → String
  | noHome => "Could not determine home directory."

/-- The home directory: the variable's text, without slashes at its end. -/
def Environment.homePath (e : Environment) : Except PlaceError Path :=
  let bare := (e.home.toList.reverse.dropWhile (· == '/')).reverse
  match bare with
  | [] => .ok (Path.ofText "/")
  | '~' :: _ => .error .noHome
  | _ => .ok (Path.ofText (String.ofList bare))

/-- A path with the home directory in the place of a tilde. Homes of others are not known. -/
def Environment.expand (e : Environment) (p : Path) : Except PlaceError Path :=
  match p.isAbsolute, p.names with
  | false, name :: names =>
    if name = "~" then e.homePath.map fun home => { home with names := home.names ++ names }
    else if Text.startsWith name "~" then .error .noHome
    else .ok p
  | _, _ => .ok p

def Environment.directory (e : Environment) : Except PlaceError Path := do
  let standard := (← e.homePath).child ".testgraph"
  e.expand (Path.ofText (e.settingsHome.getD standard.text))

def fileIn (directory : Path) : Path := directory.child "config.toml"

/-- The least level that is logged if nothing else is said. -/
def standardLevel : String := "WARNING"

/-- The least level that is logged, in capitals. -/
def Environment.level (e : Environment) : String :=
  Text.toCapitals (e.logLevel.getD standardLevel)

end TestImpact.Settings
