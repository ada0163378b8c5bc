import StoryEngine.App.Definition
import StoryEngine.Json.Text

/-!
# Release directories

A release directory holds the stories and the services of an application, which must be there, and
its environment, which need not. The directory is given by the paths of its files.
-/

namespace StoryEngine

/-- A node of a directory. -/
inductive FileNode where
  | file (bytes : ByteArray)
  | directory

/-- A directory: nodes by their paths within it. Directories on the way to a node need not be given.
-/
abbrev ReleaseDir := Table FileNode

/-- Why a file cannot be read. -/
inductive FileFault where
  | notFound
  | notADirectory
  | isADirectory
  | notText
  deriving DecidableEq, Repr

/-- The fault in the words of the operating system. -/
def FileFault.message : FileFault → String
  | notFound => "No such file or directory (os error 2)"
  | notADirectory => "Not a directory (os error 20)"
  | isADirectory => "Is a directory (os error 21)"
  | notText => "stream did not contain valid UTF-8"

namespace ReleaseDir

/-- The names on the way to a node. -/
def segments (path : String) : List String :=
  (path.toList.splitOn '/').map String.ofList

/-- Whether one path leads through another. -/
def leadsThrough (outer path : String) : Bool :=
  (segments outer).isPrefixOf (segments path) && outer ≠ path

/-- The node at a path, leaving aside the nodes on the way to it. -/
def nodeAt? (dir : ReleaseDir) (path : String) : Option FileNode :=
  match dir[path]? with
  | some node => some node
  | none => if dir.keys.any (leadsThrough path) then some .directory else none

/-- The paths on the way to a path, the outermost first. -/
def ancestors (path : String) : List String :=
  let names := segments path
  (List.range (names.length - 1)).map fun n => "/".intercalate (names.take (n + 1))

/-- Checks that paths are directories. -/
def checkDirectories (dir : ReleaseDir) : List String → Except FileFault Unit
  | [] => .ok ()
  | path :: rest =>
    match dir.nodeAt? path with
    | some .directory => checkDirectories dir rest
    | some (.file _) => .error .notADirectory
    | none => .error .notFound

/-- The node at a path. -/
def find (dir : ReleaseDir) (path : String) : Except FileFault FileNode := do
  dir.checkDirectories (ancestors path)
  match dir.nodeAt? path with
  | some node => pure node
  | none => throw .notFound

/-- Whether there is a node at a path. -/
def has (dir : ReleaseDir) (path : String) : Bool :=
  (dir.find path).isOk

/-- The text of a file. -/
def readText (dir : ReleaseDir) (path : String) : Except FileFault String := do
  match ← dir.find path with
  | .directory => throw .isADirectory
  | .file bytes =>
    match String.fromUTF8? bytes with
    | some text => pure text
    | none => throw .notText

end ReleaseDir

/-- Why a release cannot be loaded. -/
inductive LoadFault where
  | unreadable (path : String) (fault : FileFault)
  | undecodable (path : String) (fault : Json.DecodeFault)
  deriving DecidableEq, Repr

/-- The fault as an error of the engine. -/
def LoadFault.toError : LoadFault → EngineError
  | unreadable path fault => .inputOutput s!"{path}: {fault.message}"
  | undecodable path fault => .serialization s!"{path}: {fault.message}"

namespace ReleaseDir

/-- The file of the stories. -/
def storiesFile : String := "config/stories.json"

/-- The file of the services. -/
def servicesFile : String := "config/services.json"

/-- The file of the environment. -/
def environmentFile : String := "config/environment.json"

/-- Reads typed data from a file. -/
def readJson {α : Type} (dir : ReleaseDir) (path : String) (read : Json.Raw → Json.Decoded α) :
    Except LoadFault α := do
  let text ← (dir.readText path).mapError (.unreadable path)
  (Json.decodeText read text).mapError (.undecodable path)

/-- The environment of a release; without a file it is empty. -/
def readEnvironment (dir : ReleaseDir) : Except LoadFault (CaseMap Json) :=
  if dir.has environmentFile then
    dir.readJson environmentFile (CaseMap.ofRaw Json.Raw.json)
  else
    .ok .empty

/-- Loads the definition of an application. -/
def load (dir : ReleaseDir) (appId appDns : String) (version : UInt64) (ownerUuid : String) :
    Except LoadFault AppDefinition := do
  let stories ← dir.readJson storiesFile StoriesDocument.ofRaw
  let services ← dir.readJson servicesFile Catalog.servicesOfRaw
  let environment ← dir.readEnvironment
  pure {
    appId, appDns, version, ownerUuid, stories, environment
    catalog := { services := services } }

end ReleaseDir

end StoryEngine
