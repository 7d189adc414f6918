import ObjectGraph.Access.Error

/-!
# The log of path access

Every step along a path, every final write and every failed call leaves a record. A record keeps
what happened; `LogRecord.text` words it.
-/

namespace ObjectGraph

inductive LogLevel where
  | debug
  | trace
deriving DecidableEq, Repr, Inhabited

inductive LogRecord where
  /-- A token was read and gave a value of this sort. -/
  | step (token : Token) (found : Tag)
  /-- The final token is about to be written into a container of this sort. -/
  | write (token : Token) (container : Tag)
  /-- A call that reads a path has failed. -/
  | readFailed (path : String) (error : AccessError)
  /-- A call that writes a path has failed. -/
  | writeFailed (path : String) (error : AccessError)
deriving DecidableEq, Repr, Inhabited

namespace LogRecord

def level : LogRecord → LogLevel
  | .step .. | .write .. => .trace
  | .readFailed .. | .writeFailed .. => .debug

def text (typeName : TypeId → String) : LogRecord → String
  | .step token found => "`" ++ token.text ++ "` -> " ++ found.text
  | .write token container => "write `" ++ token.text ++ "` into " ++ container.text
  | .readFailed path error => "failed to read `" ++ path ++ "`: " ++ error.message typeName
  | .writeFailed path error => "failed to write `" ++ path ++ "`: " ++ error.message typeName

end LogRecord

end ObjectGraph
