/-!
# Why a file or directory cannot be used
-/

namespace WorkItems

inductive FileError where
  | notFound
  | alreadyExists
  | notDirectory
  | isDirectory
  | nameTooLong
  /-- A path with a zero character names nothing. -/
  | zeroInName
  /-- The file holds bytes that are no text. -/
  | notText
deriving DecidableEq, Repr, Inhabited

namespace FileError

/-- The words of the operating system, with its number for the error. -/
def message : FileError → String
  | notFound => "No such file or directory (os error 2)"
  | alreadyExists => "File exists (os error 17)"
  | notDirectory => "Not a directory (os error 20)"
  | isDirectory => "Is a directory (os error 21)"
  | nameTooLong => "File name too long (os error 36)"
  | zeroInName => "file name contained an unexpected NUL byte"
  | notText => "stream did not contain valid UTF-8"

end FileError
end WorkItems
