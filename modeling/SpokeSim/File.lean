/-!
# Files

Files are read by path.  What is at a path is given by a function, so that what the program makes of
its files can be looked at without any.
-/

namespace SpokeSim

/-- Why a file cannot be used. -/
inductive FileFault where
  | notFound
  | forbidden
  | notDirectory
  | isDirectory
  /-- The path or a name in it is too long. -/
  | tooLong
  /-- There is a zero character in the path. -/
  | zeroInPath
  /-- The file holds no text. -/
  | notText
  | other (text : String)
deriving DecidableEq, Repr, Inhabited

namespace FileFault

/-- The system's wording of a fault with its name and its number. -/
def numbered? : FileFault → Option (String × String × Nat)
  | notFound => some ("No such file or directory", "NotFound", 2)
  | forbidden => some ("Permission denied", "PermissionDenied", 13)
  | notDirectory => some ("Not a directory", "NotADirectory", 20)
  | isDirectory => some ("Is a directory", "IsADirectory", 21)
  | tooLong => some ("File name too long", "InvalidFilename", 36)
  | _ => none

/-- The wording of a fault. -/
def message (f : FileFault) : String :=
  match f, f.numbered? with
  | _, some (text, _, number) => text ++ " (os error " ++ toString number ++ ")"
  | zeroInPath, _ => "file name contained an unexpected NUL byte"
  | notText, _ => "stream did not contain valid UTF-8"
  | other text, _ => text
  | _, none => ""

end FileFault

/-- The texts of all files. -/
abbrev Files := String → Except FileFault String

end SpokeSim
