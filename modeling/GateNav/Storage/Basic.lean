/-!
# Where the settings file is kept

What the program needs of a file system, and what can go wrong there.
-/

namespace GateNav

/-- Why a path cannot be used. -/
inductive StorageFault where
  | missing
  | occupied
  | noFolder
  | folder
  /-- A name in the path, or all of it, is too long. -/
  | nameTooLong
  /-- The path holds the character zero. -/
  | zeroInName
  /-- Some other fault, given by its text. -/
  | other (text : String)
deriving DecidableEq, Repr

/-- The text of the fault, and its number if it has one. -/
def StorageFault.message : StorageFault → String
  | missing => "No such file or directory (os error 2)"
  | occupied => "File exists (os error 17)"
  | noFolder => "Not a directory (os error 20)"
  | folder => "Is a directory (os error 21)"
  | nameTooLong => "File name too long (os error 36)"
  | zeroInName => "file name contained an unexpected NUL byte"
  | other text => text

/-- File systems that are used from the monad `m`. -/
class Storage (m : Type → Type) where
  /-- There is something at the path. -/
  holds : String → m Bool
  /-- There is a folder at the path. -/
  holdsFolder : String → m Bool
  read : String → m (Except StorageFault String)
  /-- A folder is made at the path, where nothing may be. -/
  makeFolder : String → m (Except StorageFault Unit)
  /-- A file at the path gets the text in place of what it held. -/
  write : String → String → m (Except StorageFault Unit)

end GateNav
