import SourceOutline.Text.Utf8

/-!
# Failures

The reasons for which the outline of a file cannot be built. Each constructor is a cause;
`message` is the only place that puts a cause into words.
-/

namespace SourceOutline

inductive Failure where
  /-- A declaration node lacks a child under a required field. -/
  | missingField (nodeType : String) (line : Nat) (field : String)
  /-- An element was attached to an element that does not own it. -/
  | foreignOwner (kind name : String)
  /-- An accessibility modifier with an unknown word. -/
  | unknownAccessibility (word : String)
  /-- A node has no named child where one is taken by position. -/
  | noNamedChild
  /-- A namespace node without a name is bound. -/
  | unnamedNamespace
  /-- The clause that makes an import a require import is not among the named children. -/
  | anonymousRequireClause
  /-- The bytes of a node are not UTF-8. -/
  | undecodable (fault : Text.Utf8Fault)
  /-- A path with a null character cannot be opened. -/
  | nullInPath
  /-- A path with a name that is too long was asked for. -/
  | longName (path : String)
  deriving DecidableEq, Repr

namespace Failure

def message : Failure → String
  | missingField nodeType line field =>
    nodeType ++ " at line " ++ toString line ++ " has no '" ++ field ++ "'"
  | foreignOwner kind name => kind ++ " '" ++ name ++ "' belongs to another parent"
  | unknownAccessibility word => Text.literal word
  | noNamedChild => "list index out of range"
  | unnamedNamespace => "'NoneType' object has no attribute 'type'"
  | anonymousRequireClause => "coroutine raised StopIteration"
  | undecodable fault => fault.message
  | nullInPath => "embedded null byte"
  | longName path => "[Errno 36] File name too long: " ++ Text.literal path

end Failure

end SourceOutline
