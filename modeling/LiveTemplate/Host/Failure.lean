/-!
# Answers of the host

The host runs programs and reads files. It gives what a program has written, or refuses for a reason
that it has a wording for.
-/

namespace LiveTemplate.Host

inductive Failure where
  | notFound
  | permissionDenied
  | notDirectory
  | isDirectory
  | nulByte
  | malformedText
  | other (message : String)
  deriving DecidableEq, Repr

def Failure.message : Failure → String
  | .notFound => "No such file or directory (os error 2)"
  | .permissionDenied => "Permission denied (os error 13)"
  | .notDirectory => "Not a directory (os error 20)"
  | .isDirectory => "Is a directory (os error 21)"
  | .nulByte => "nul byte found in provided data"
  | .malformedText => "stream did not contain valid UTF-8"
  | .other message => message

/-- What a program has written, to its standard output and to its standard error. -/
structure Output where
  out : List UInt8
  err : List UInt8

end LiveTemplate.Host
