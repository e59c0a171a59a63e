import CaptureConfig.Text.Integer
import CaptureConfig.Text.Quoted

/-!
# Faults of a disk
-/

namespace CaptureConfig

/-- Why a disk refuses a request. A path with a null character is refused without being followed. -/
inductive DiskCause where
  | notFound
  | exists
  | notDirectory
  | isDirectory
  | nameTooLong
  | nullCharacter
deriving Repr, DecidableEq

namespace DiskCause

/-- The number of a cause, if it has one. -/
def number? : DiskCause → Option Nat
  | .notFound => some 2
  | .exists => some 17
  | .notDirectory => some 20
  | .isDirectory => some 21
  | .nameTooLong => some 36
  | .nullCharacter => none

/-- The wording of a cause. -/
def text : DiskCause → String
  | .notFound => "No such file or directory"
  | .exists => "File exists"
  | .notDirectory => "Not a directory"
  | .isDirectory => "Is a directory"
  | .nameTooLong => "File name too long"
  | .nullCharacter => "embedded null byte"

end DiskCause

/-- A request that a disk refuses. -/
structure DiskFault where
  cause : DiskCause
  /-- The path that the request names. -/
  path : String
deriving Repr, DecidableEq

/-- The wording of a fault, with the path only if the cause has a number. -/
def DiskFault.message (f : DiskFault) : String :=
  match f.cause.number? with
  | some n => "[Errno " ++ Text.showNat n ++ "] " ++ f.cause.text ++ ": " ++ Text.quoted f.path
  | none => f.cause.text

end CaptureConfig
