/-!
# Faults of files

The causes for which a file operation fails, with the texts by which they are reported.
-/

namespace StaticSite

/-- Why a file operation failed. -/
inductive FileFault where
  /-- Nothing lies at the path. -/
  | missing
  /-- A part of the path that must be a directory is none. -/
  | notDirectory
  /-- A directory lies where a file must be. -/
  | isDirectory
  /-- Something lies already where a directory must be made. -/
  | alreadyExists
  /-- The bytes of the file are no text. -/
  | notText
  /-- A store of texts holds none under the name. -/
  | unknownEntity
  /-- Any other cause, with its text. -/
  | other (text : String)
  deriving DecidableEq, Repr

/-- The text of a fault. -/
def FileFault.message : FileFault → String
  | .missing => "No such file or directory (os error 2)"
  | .notDirectory => "Not a directory (os error 20)"
  | .isDirectory => "Is a directory (os error 21)"
  | .alreadyExists => "File exists (os error 17)"
  | .notText => "stream did not contain valid UTF-8"
  | .unknownEntity => "entity not found"
  | .other text => text

end StaticSite
