namespace Reshape.Key

/-- What is wrong with a key or a path. -/
inductive Fault where
  /-- An at sign inside a key. -/
  | misplacedAt
  /-- A dollar sign inside a key. -/
  | misplacedDollar
  /-- A number sign inside a key. -/
  | misplacedHash
  /-- A bracket that does not enclose the segment. -/
  | misplacedBracket
  /-- References and wildcards in one key. -/
  | mixedTemplate
  /-- A number sign without a value. -/
  | emptyConstant
  /-- Brackets that are not one pair around the segment. -/
  | bracketShape
  /-- An index with a minus sign. -/
  | negativeIndex
  /-- An index that is not one. -/
  | badIndex (text : String)
  /-- A reference whose parenthesis is not closed. -/
  | openReference
  /-- A number of a reference with a minus sign. -/
  | negativeReference (text : String)
  /-- A number of a reference that is not one. -/
  | badReference (text : String)
  /-- A number of a reference that does not fit in 64 bits. -/
  | hugeReference (text : String)
  /-- A reference with more than two numbers; `token` is its first character. -/
  | longReference (token : Char) (text : String)
  /-- A lookup that does not start with an at sign. -/
  | notLookup
  /-- A lookup in a lookup. -/
  | nestedLookup
  /-- A wildcard in a lookup. -/
  | starInLookup
  /-- A lookup whose parentheses do not enclose it. -/
  | openLookup
  /-- A lookup with nothing in its parentheses. -/
  | emptyLookup
  /-- A lookup whose level is not a number. -/
  | badLevel
  /-- A lookup whose level does not fit in 64 bits. -/
  | hugeLevel
  /-- A lookup that would append to an array. -/
  | appendInLookup
  /-- A path with a lookup whose parenthesis is not closed. -/
  | openLookupInPath
  /-- A path with a point right after an at sign. -/
  | dotAfterAt
  /-- A segment that matches keys but stands for none. -/
  | notAStep (segment : String)
deriving DecidableEq, Repr

def Fault.message : Fault → String
  | misplacedAt => "'@' is only valid at the start of a key"
  | misplacedDollar => "'$' is only valid at the start of a key"
  | misplacedHash => "'#' is only valid at the start of a key"
  | misplacedBracket => "'[' and ']' are only valid around a whole segment"
  | mixedTemplate => "'&' and '*' can not be mixed in one key"
  | emptyConstant => "'#' needs a value, e.g. '#yes'"
  | bracketShape => "array index must be a single '[...]'"
  | negativeIndex => "negative array index"
  | badIndex text => "bad array index '" ++ text ++ "'"
  | openReference => "unbalanced '&(' reference"
  | negativeReference text => "negative reference index '" ++ text ++ "'"
  | badReference text => "reference index '" ++ text ++ "' is not a non-negative integer"
  | hugeReference text => "reference index '" ++ text ++ "' is too large"
  | longReference token text =>
    "reference '" ++ text ++ "' takes at most two numbers: (" ++ token.toString ++ "path,group)"
  | notLookup => "transpose must start with '@'"
  | nestedLookup => "'@' can not be nested inside a transpose"
  | starInLookup => "'*' is not allowed inside a transpose"
  | openLookup => "unbalanced parentheses"
  | emptyLookup => "'@()' needs a level or a path"
  | badLevel => "level must be a non-negative integer, e.g. '@(2,path)'"
  | hugeLevel => "level is too large"
  | appendInLookup => "'[]' is not allowed inside a transpose"
  | openLookupInPath => "unbalanced parentheses in '@(...)'"
  | dotAfterAt => "'@' may not be followed by '.'"
  | notAStep segment => "'" ++ segment ++ "' can not be used in a path that is written or read"

end Reshape.Key

namespace Reshape

/-- A key or path that breaks the grammar. -/
structure GrammarError where
  key : String
  fault : Key.Fault
deriving DecidableEq, Repr

def GrammarError.message (e : GrammarError) : String :=
  "invalid key '" ++ e.key ++ "': " ++ e.fault.message

end Reshape
