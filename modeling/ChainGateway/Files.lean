import ChainGateway.Text.Utf8

/-!
# Files

Reading a file gives its contents or the reason why it cannot be read.  What is read is a
function of the path, so that everything that is decided from files can be stated without a
file system.
-/

namespace ChainGateway

open Text

/-- The contents of the file at a path, or the reason why there are none. -/
abbrev Files := String → Except String Octets

/-- The path of an entry of a directory. -/
def joinPath (directory name : String) : String :=
  if directory = "" ∨ directory.toList.getLast? = some '/' then directory ++ name
  else directory ++ "/" ++ name

end ChainGateway
