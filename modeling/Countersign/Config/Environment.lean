import Countersign.Action
import Countersign.Config.Dotenv
import Countersign.Table
import Countersign.Text.Uppercase

/-!
# Environment variables

Keys are read from variables whose names are the keys in upper case with underscores for dots and
dashes.  A file of variables is taken over in one go: what the environment already has stays, even
if it is empty, and within the file the last binding of a name counts.  A variable that cannot be
set ends this, and what was set before it stays.  The environment itself can say that no file is to
be taken over.
-/

namespace Countersign

/-- The variables that are set. -/
abbrev Environment := Table String RawText

/-- What stands at a place in the file system. -/
inductive File where
  /-- A file with its bytes. -/
  | regular (bytes : List UInt8)
  /-- A directory. -/
  | directory

/-- The places in the file system at which something stands. -/
abbrev Files := Table String File

/-- What takes the file at a place over into the environment. -/
abbrev Loader := Files → Option String → Environment → Except Failure Unit × Environment

namespace Environment

/-- A key with underscores for its dots and dashes. -/
def underscored (key : String) : String :=
  String.ofList (key.toList.map fun char => if char = '.' ∨ char = '-' then '_' else char)

/-- The name of the variable that holds the value of a key, behind a fixed beginning. -/
def variableName (lead key : String) : String :=
  lead ++ Text.uppercase (underscored key)

/-- Sets a variable. -/
def set (name : String) (value : RawText) : Action Environment Unit :=
  match Variable.refusal? value, Variable.fault? name value with
  | some fault, _ => Action.fail (.unencodable fault)
  | none, some fault => Action.fail (.unsettable fault)
  | none, none => Action.change (·.insert name (Variable.kept value))

/-- Sets a variable unless it is set or has no value to be set to. -/
def supply (name : String) : Option String → Action Environment Unit
  | some value => do
      let environment ← Action.current
      if environment.contains name then pure () else set name (.ofText value)
  | none => pure ()

/-- Sets each variable that is not set and has a value to be set to, in order. -/
def supplyAll : List Dotenv.Binding → Action Environment Unit
  | [] => pure ()
  | binding :: bindings => do
      supply binding.1 binding.2
      supplyAll bindings

/-- One binding for each name that is bound, the last one, in the order of the first ones. -/
def settled (bindings : List Dotenv.Binding) : List Dotenv.Binding :=
  let last := Table.ofList bindings
  (bindings.map (·.1)).eraseDups.map fun name => (name, (last.find? name).join)

/-- Sets each variable that is not set and whose last binding gives it a value. -/
def adopt (bindings : List Dotenv.Binding) : Action Environment Unit :=
  supplyAll (settled bindings)

/-- The variable that can say that no file is to be taken over. -/
def switchName : String := "PYTHON_DOTENV_DISABLED"

/-- A character without the case that an affirmation may have. -/
def foldCase (char : Char) : Char :=
  if char = '\u017f' then 's' else char.toLower

/-- Whether a text says yes. -/
def isAffirmation (text : String) : Bool :=
  ["1", "true", "t", "yes", "y"].contains (String.ofList (text.toList.map foldCase))

/-- Whether no file is to be taken over. -/
def declinesFiles (environment : Environment) : Bool :=
  (environment.find? switchName).any fun value => value.isText && isAffirmation value.text

/-- The bindings of a file, of which there are none unless a regular file stands at the place. -/
def bindingsAt (files : Files) (place : Option String) : Except Failure (List Dotenv.Binding) :=
  match place.bind files.find? with
  | some (.regular bytes) =>
      match Utf8.decode bytes with
      | .ok text => .ok (Dotenv.parse text)
      | .error fault => .error (.undecodable fault)
  | some .directory | none => .ok []

/-- Takes a file over unless the environment declines files. -/
def load (files : Files) (place : Option String) : Action Environment Unit := do
  let environment ← Action.current
  if environment.declinesFiles then pure ()
  else do
    let bindings ← Action.ofResult (bindingsAt files place)
    adopt bindings

/-- What takes a file over unless the environment declines files. -/
def loader : Loader := fun files place environment =>
  let outcome := load files place environment
  (outcome.result, outcome.state)

end Environment
end Countersign
