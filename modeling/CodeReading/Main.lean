import CodeReading.Command.Run

set_option autoImplicit false

namespace CodeReading

open Files

/-- The failure with a system's error number, which may come negated. -/
def numberedError (code : UInt32) (details : String) : FileError :=
  match (if 0x80000000 ≤ code then 0 - code else code).toNat with
  | 2 => .notFound
  | 20 => .notADirectory
  | 21 => .isADirectory
  | 36 => .nameTooLong
  | 40 => .tooManyLinks
  | number => .other (details ++ " (os error " ++ number.repr ++ ")")

def fileError : IO.Error → FileError
  | .noFileOrDirectory _ code details => numberedError code details
  | .inappropriateType _ code details => numberedError code details
  | .invalidArgument _ code details => numberedError code details
  | .permissionDenied _ code details => numberedError code details
  | .resourceExhausted _ code details => numberedError code details
  | .otherError code details => numberedError code details
  | error => .other (toString error)

def readSystemText (path : String) : IO (Except FileError String) := do
  match ← (IO.FS.readBinFile path).toBaseIO with
  | .error error => return .error (fileError error)
  | .ok bytes =>
    match String.fromUTF8? bytes with
    | some text => return .ok text
    | none => return .error .notUtf8

def resolveSystemPath (path : String) : IO (Option ResolvedPath) := do
  match ← (IO.FS.realPath path).toBaseIO with
  | .ok place => return some (names place.toString)
  | .error _ => return none

def writeSystemText (path text : String) : IO (Except FileError Unit) := do
  match ← (IO.FS.writeFile path text).toBaseIO with
  | .ok () => return .ok ()
  | .error error => return .error (fileError error)

def systemFiles : Access IO where
  readText := readSystemText
  resolve := resolveSystemPath
  writeText := writeSystemText

end CodeReading

def main (arguments : List String) : IO UInt32 := do
  let outcome ← CodeReading.Command.run .stops CodeReading.systemFiles arguments
  IO.print outcome.stdout
  IO.eprint outcome.stderr
  return UInt32.ofNat outcome.status
