import TraversalSdk.Text.Utf8

namespace TraversalSdk

/-- Why an operation on files is refused. -/
inductive Obstacle
  | absent
  | occupied
  | notDirectory
  | isDirectory
  | invalid
  | nameTooLong
  | notEmpty
  | holdsNul
  | notText (fault : Text.Utf8Fault)
  | refused (reason : String)
  deriving DecidableEq

namespace Obstacle

def numbered (number : Nat) (reason : String) : String := "[Errno " ++ toString number ++ "] " ++ reason

def message : Obstacle → String
  | absent => numbered 2 "No such file or directory"
  | occupied => numbered 17 "File exists"
  | notDirectory => numbered 20 "Not a directory"
  | isDirectory => numbered 21 "Is a directory"
  | invalid => numbered 22 "Invalid argument"
  | nameTooLong => numbered 36 "File name too long"
  | notEmpty => numbered 39 "Directory not empty"
  | holdsNul => "embedded null byte"
  | notText fault => fault.message
  | refused reason => reason

/-- Whether the message goes on with the path. -/
def namesPath : Obstacle → Bool
  | holdsNul | notText _ | refused _ => false
  | _ => true

end Obstacle

end TraversalSdk
