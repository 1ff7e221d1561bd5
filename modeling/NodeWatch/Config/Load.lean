import NodeWatch.Config.Decode
import NodeWatch.Config.Error
import NodeWatch.Config.Validation
import NodeWatch.Notice
import NodeWatch.Text.Utf8
import NodeWatch.Toml.Statement

/-!
# Loading a configuration

A configuration is kept in a file of a fixed name, as a TOML document. It is read, decoded and
validated, so whatever is loaded is valid.
-/

namespace NodeWatch

/-- Why a file has no contents. -/
inductive FileFault
  | missing
  | isDirectory
  /-- Something on the way to it is not a directory. -/
  | notDirectory
  | other (reason : String)
  deriving DecidableEq, Repr

/-- The fault in words. -/
def FileFault.message : FileFault → String
  | missing => "No such file or directory (os error 2)"
  | isDirectory => "Is a directory (os error 21)"
  | notDirectory => "Not a directory (os error 20)"
  | other reason => reason

namespace Config

/-- A configuration that was read, if it is valid. -/
def accept (c : Config) : Except ConfigError Config :=
  match c.validate with
  | .ok () => .ok c
  | .error defect => .error (.invalidValue defect.field defect.reason)

/-- Reads a valid configuration from a document. -/
def ofDocument {α : Type} [Document α] (hostname : Option String) (document : α) :
    Except ConfigError Config :=
  match decode hostname document with
  | .ok c => c.accept
  | .error fault => .error (.parseFailed .content fault.message)

/-- Reads a valid configuration from its text. -/
def parse (hostname : Option String) (text : String) : Except ConfigError Config :=
  match Toml.parse? text with
  | some document => ofDocument hostname document
  | none => .error (.parseFailed .form "not a TOML document")

/-- The file in a directory. -/
def filePath (directory : String) : String :=
  if directory = "" ∨ directory.toList.getLast? = some '/' then directory ++ "main.toml"
  else directory ++ "/main.toml"

/-- Loads the configuration from a directory, given what is found in the place of its file. -/
def load (hostname : Option String) (directory : String) (found : Except FileFault (List UInt8)) :
    Except ConfigError Config :=
  match found with
  | .error fault => .error (.loadFailed (filePath directory) fault.message)
  | .ok bytes =>
    match Utf8.decode? bytes with
    | some text => parse hostname text
    | none => .error (.loadFailed (filePath directory) "stream did not contain valid UTF-8")

/-- What is told of a configuration that was loaded. -/
def loadedNotice (c : Config) : Notice :=
  .configLoaded c.nodeName c.endpoint c.pollInterval c.syncThreshold c.consul.isSome

end Config

end NodeWatch
