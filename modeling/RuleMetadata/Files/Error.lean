/-! The ways in which work on files fails. -/

namespace RuleMetadata

/-- Why a file or directory could not be read, written or made. -/
inductive FileError where
  | notFound
  | alreadyExists
  | notDirectory
  | isDirectory
  | nameTooLong
  | nulInName
  | notText
  | refusedKey (key : String)
  | other (message : String)
  deriving DecidableEq, Repr

/-- The wording of a file error. -/
def FileError.message : FileError → String
  | .notFound => "No such file or directory (os error 2)"
  | .alreadyExists => "File exists (os error 17)"
  | .notDirectory => "Not a directory (os error 20)"
  | .isDirectory => "Is a directory (os error 21)"
  | .nameTooLong => "File name too long (os error 36)"
  | .nulInName => "file name contained an unexpected NUL byte"
  | .notText => "stream did not contain valid UTF-8"
  | .refusedKey key => s!"resource key `{key}` escapes the store root"
  -- Any other cause has been put into words where it arose.
  | .other message => message

end RuleMetadata
