/-
The settings file: where it is looked for, and the tables it holds. A path that is not
absolute is tried in the working directory and in each directory above it, and a file that
is not there counts as empty.
-/

import PerpDeploy.FileTree
import PerpDeploy.Layers.Toml.Document

namespace PerpDeploy.Layers

def directoriesUp (directory : Location) : List Location :=
  (List.range (directory.length + 1)).map fun count => directory.take (directory.length - count)

def directoryPath (directory : Location) : Path := "/" ++ "/".intercalate directory

def settingsFile? (files : FileTree) (config : Path) : Option Path :=
  let places :=
    if config.isAbsolute then [config]
    else
      (directoriesUp files.workingDirectory).map fun directory =>
        (directoryPath directory).join config
  places.find? fun place => files.isFile place

/-- Every value of the file is a table, or else the file is of no use. -/
def tablesOf : Fields → Option Tables
  | [] => some []
  | (name, .table fields) :: rest => (tablesOf rest).map fun tables => (name, fields) :: tables
  | _ :: _ => none

def readTables (files : FileTree) (config : Path) : Option Tables :=
  match settingsFile? files config with
  | none => some []
  | some path =>
      match files.readText path with
      | .error _ => none
      | .ok text => (Toml.parse text).bind tablesOf

def sameIgnoringCase (left right : String) : Bool :=
  left.toList.map Char.toLower == right.toList.map Char.toLower

/-- The fields of the last table of that name, in any case. -/
def Tables.named (tables : Tables) (name : String) : Fields :=
  match tables.reverse.find? fun entry => sameIgnoringCase entry.1 name with
  | some (_, fields) => fields
  | none => []

end PerpDeploy.Layers
