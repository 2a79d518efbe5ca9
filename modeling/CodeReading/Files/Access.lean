import CodeReading.Files.Path

set_option autoImplicit false

namespace CodeReading.Files

inductive FileError where
  | notFound
  | notADirectory
  | isADirectory
  | tooManyLinks
  | nameTooLong
  | notUtf8
  | other (message : String)
  deriving DecidableEq, Repr

def FileError.message : FileError → String
  | .notFound => "No such file or directory (os error 2)"
  | .notADirectory => "Not a directory (os error 20)"
  | .isADirectory => "Is a directory (os error 21)"
  | .tooManyLinks => "Too many levels of symbolic links (os error 40)"
  | .nameTooLong => "File name too long (os error 36)"
  | .notUtf8 => "stream did not contain valid UTF-8"
  | .other message => message

structure Access (m : Type → Type) where
  readText : String → m (Except FileError String)
  /-- The place that a path leads to, if there is something. -/
  resolve : String → m (Option ResolvedPath)
  writeText : String → String → m (Except FileError Unit)

end CodeReading.Files
