import Reshape.Json
import Reshape.Key.Fault
import Reshape.Pointer
import Reshape.Text.Quoted

/-! Everything that can go wrong: while a spec is compiled, with a pointer into the
spec, and while a compiled spec runs. Each cause has one wording and one stable code. -/

namespace Reshape

/-- The stable name of a kind of error. -/
inductive ErrorCode where
  | json
  | spec
  | unknownFunction
  | transform
  | referenceOutOfRange
  | recursionDepthExceeded
deriving DecidableEq, Repr

namespace ErrorCode

def all : List ErrorCode :=
  [.json, .spec, .unknownFunction, .transform, .referenceOutOfRange, .recursionDepthExceeded]

def text : ErrorCode → String
  | json => "json_parse_error"
  | spec => "spec_error"
  | unknownFunction => "unknown_function"
  | transform => "transform_error"
  | referenceOutOfRange => "reference_out_of_range"
  | recursionDepthExceeded => "recursion_depth_exceeded"

/-- Whether errors with a code are about the form of a spec or document alone. -/
def isSpec : ErrorCode → Bool
  | json | spec | unknownFunction => true
  | _ => false

end ErrorCode

/-- What stood where something else was expected, when a document is decoded. -/
inductive Unexpected where
  | null
  | bool (value : Bool)
  | number (value : Number)
  | text (value : String)
  | sequence
  | map
deriving DecidableEq

def Unexpected.describe : Unexpected → String
  | null => "null"
  | bool b => "boolean \x60" ++ (if b then "true" else "false") ++ "\x60"
  | number (.int n) => "integer \x60" ++ Decimal.intText n ++ "\x60"
  | number (.float x) => "floating point \x60" ++ Number.floatText x ++ "\x60"
  | text s => "string " ++ Text.quoted s
  | sequence => "sequence"
  | map => "map"

/-- What a document is, if something else was expected. -/
def Unexpected.ofJson : Json → Unexpected
  | .null => .null
  | .bool b => .bool b
  | .num n => .number n
  | .str s => .text s
  | .arr _ => .sequence
  | .obj _ => .map

/-- Why a document does not have the form of a setting. -/
inductive DecodeError where
  | invalidType (found : Unexpected) (expected : String)
  | invalidValue (found : Unexpected) (expected : String)
  | invalidLength (length : Nat) (expected : String)
  | unknownVariant (name : String) (variants : List String)
  | missingField (name : String)
deriving DecidableEq

/-- Names in a row, as messages list the possible ones. -/
def DecodeError.oneOf (names : List String) : String :=
  let ticked (name : String) : String := "\x60" ++ name ++ "\x60"
  match names with
  | [] => "there are no variants"
  | [a] => ticked a
  | [a, b] => ticked a ++ " or " ++ ticked b
  | _ => "one of " ++ String.intercalate ", " (names.map ticked)

def DecodeError.message : DecodeError → String
  | invalidType found expected =>
    "invalid type: " ++ found.describe ++ ", expected " ++ expected
  | invalidValue found expected =>
    "invalid value: " ++ found.describe ++ ", expected " ++ expected
  | invalidLength length expected =>
    "invalid length " ++ Decimal.natText length ++ ", expected " ++ expected
  | unknownVariant name variants =>
    let expected := if variants.isEmpty then oneOf variants else "expected " ++ oneOf variants
    "unknown variant \x60" ++ name ++ "\x60, " ++ expected
  | missingField name => "missing field \x60" ++ name ++ "\x60"

/-- Why a pattern can not be used. -/
inductive PatternError where
  /-- It is no regular expression. -/
  | grammar (reason : String)
  /-- Its automaton would be larger than this many bytes. -/
  | tooLarge (limit : Nat)
deriving DecidableEq

def PatternError.message : PatternError → String
  | grammar reason => "regex parse error: " ++ reason
  | tooLarge limit => "Compiled regex exceeds size limit of " ++ Decimal.natText limit ++ " bytes."

inductive SpecFault where
  /-- A key, path or lookup breaks the grammar. -/
  | grammar (error : GrammarError)
  /-- An object of the spec has no members. -/
  | empty (label : String)
  /-- Another kind of document stands where the spec needs an object. -/
  | notObject (label kind : String)
  /-- Two siblings are the same element. -/
  | duplicateKey (canonical : String)
  /-- An array position among the keys of a node. -/
  | indexKey
  /-- A constant or a captured key over an object. -/
  | keyOverObject
  /-- An entry of a list of output paths that is no text. -/
  | pathEntry
  /-- A value that a shift can not use. -/
  | shiftValue
  /-- A key of an array in a default spec that is no index. -/
  | arrayKey (text : String)
  /-- A key that a default spec can not use. -/
  | defaultKey
  /-- A key that declares an array over something else than an object. -/
  | arrayValue
  /-- A key that a remove spec can not use. -/
  | removeKey
  /-- A value that a remove spec can not use. -/
  | removeValue
  /-- A key that a cardinality spec can not use. -/
  | cardinalityKey
  /-- The current node over an object. -/
  | hereOverObject
  /-- A text that is no cardinality. -/
  | cardinalityText (text : String)
  /-- A value that a cardinality spec can not use. -/
  | cardinalityValue
  /-- Predicates at the top of a filter spec. -/
  | topPredicates
  /-- A filter value that is no object. -/
  | filterValue
  /-- A filter node with predicates and nested nodes. -/
  | mixedFilter
  /-- A key that a filter spec can not use. -/
  | filterKey
  /-- A pattern that is none. -/
  | pattern (source : String) (error : PatternError)
  /-- A key that a modify spec can not use. -/
  | modifyKey
  /-- A plain key next to indices. -/
  | keyAmongIndices
  /-- A call whose parentheses do not match. -/
  | openCall (text : String)
  /-- A call with a quote that is not closed. -/
  | openQuote (text : String)
  /-- A name that is no function name. -/
  | functionName (name : String)
  /-- An argument with no text. -/
  | emptyArgument
  /-- A call of a function that is not registered. -/
  | unknownFunction (name : String)
  /-- A spec nested deeper than allowed. -/
  | tooDeep (limit : Nat)
  /-- A chain spec that is no list of stages. -/
  | chainShape
  /-- A stage that does not have the form of one. -/
  | stage (error : DecodeError)
deriving DecidableEq

def SpecFault.message : SpecFault → String
  | grammar e => e.message
  | empty label => label ++ " spec can not be empty"
  | notObject label kind => label ++ " spec must be a JSON object, got " ++ kind
  | duplicateKey canonical => "duplicate key '" ++ canonical ++ "' among siblings"
  | indexKey => "array index keys are not valid here"
  | keyOverObject => "'#' and '$' keys must map to an output path, not an object"
  | pathEntry => "every entry of an output path list must be a string"
  | shiftValue =>
    "shift values must be an object, an output path, a list of output paths, or null"
  | arrayKey text => "key '" ++ text ++ "' under an array default must be an index"
  | defaultKey => "default keys must be literals or '*' wildcards"
  | arrayValue => "a '[]' key must map to an object of index keys"
  | removeKey => "remove keys must be literals or '*' wildcards"
  | removeValue => "remove values must be an object or the empty string"
  | cardinalityKey => "cardinality keys must be literals, wildcards, '&' references or '@'"
  | hereOverObject => "'@' must map to \"ONE\" or \"MANY\""
  | cardinalityText text =>
    "cardinality must be \"ONE\" or \"MANY\", got \"" ++ text ++ "\""
  | cardinalityValue => "cardinality values must be an object, \"ONE\" or \"MANY\""
  | topPredicates =>
    "the top level of a filter spec must describe where the elements are, not a predicate set"
  | filterValue => "filter values must be objects; predicates belong one level down"
  | mixedFilter => "a filter node can not mix predicates and nested nodes"
  | filterKey => "filter keys must be literals or '*' wildcards"
  | pattern source e => "invalid pattern '" ++ source ++ "': " ++ e.message
  | modifyKey => "modify keys must be literals, '*' wildcards or '[n]' indices"
  | keyAmongIndices =>
    "a node with '[n]' keys works on an array; use '[n]' or '*' for its other keys"
  | openCall text => "unbalanced parentheses in '=" ++ text ++ "'"
  | openQuote text => "unterminated quote in '=" ++ text ++ "'"
  | functionName name => "invalid function name '" ++ name ++ "'"
  | emptyArgument => "empty function argument"
  | unknownFunction name => "Unknown function '" ++ name ++ "'"
  | tooDeep limit => "(max: " ++ Decimal.natText limit ++ ")"
  | chainShape =>
    "a chain spec must be an array of \x7b\"operation\", \"spec\"\x7d objects"
  | stage e => e.message

/-- A fault of a spec and where it is. -/
structure BuildError where
  path : Pointer
  fault : SpecFault
deriving DecidableEq

namespace BuildError

def code (e : BuildError) : ErrorCode :=
  match e.fault with
  | .unknownFunction _ => .unknownFunction
  | .tooDeep _ => .recursionDepthExceeded
  | _ => .spec

def message (e : BuildError) : String :=
  let place := Pointer.text e.path
  match e.fault with
  | .unknownFunction _ => e.fault.message ++ " at " ++ place
  | .tooDeep _ => "Recursion depth exceeded at " ++ place ++ " " ++ e.fault.message
  | fault => "Spec error at " ++ place ++ ": " ++ fault.message

/-- The error of a spec that stands at `base` in a larger document. -/
def within (base : Pointer) (e : BuildError) : BuildError :=
  ⟨Pointer.within base e.path, e.fault⟩

end BuildError

/-- What goes wrong while a compiled spec runs. -/
inductive RunError where
  /-- A reference to a level or capture that is not there: the levels walked, and the
  captures of the level if it is there. -/
  | outOfRange (reference : String) (depth groups : Nat)
  /-- More levels walked than allowed. -/
  | tooDeep (path : Pointer) (limit : Nat)
  /-- A traversal with another number of keys than steps. -/
  | keyCount (steps : Nat) (keys : List String)
  /-- Defaults of an object for an array. -/
  | arrayRoot
  /-- Defaults for a scalar. -/
  | scalarRoot (kind : String)
  /-- A range that is none of the stages of a chain. -/
  | stageRange (first last length : Nat)
  /-- A sum of words that is no word. This is no error that is told to a caller: the program
  stops where it stands. -/
  | overflow
deriving DecidableEq

namespace RunError

/-- The code of a run error; none if the program stops. -/
def code? : RunError → Option ErrorCode
  | outOfRange .. => some .referenceOutOfRange
  | tooDeep .. => some .recursionDepthExceeded
  | overflow => none
  | _ => some .transform

/-- The place in the walk, where a run error has one. -/
def path? : RunError → Option Pointer
  | tooDeep path _ => some path
  | _ => none

def message : RunError → String
  | outOfRange reference depth groups =>
    "Reference " ++ reference ++ " out of range (walked depth " ++ Decimal.natText depth ++
      ", captured groups " ++ Decimal.natText groups ++ ")"
  | tooDeep path limit =>
    "Recursion depth exceeded at " ++ Pointer.text path ++
      " (max: " ++ Decimal.natText limit ++ ")"
  | keyCount steps keys =>
    "Transform error: traversal expects " ++ Decimal.natText steps ++ " keys but got " ++
      Decimal.natText keys.length ++ ": " ++ Text.quotedList keys
  | arrayRoot =>
    "Transform error: default spec can not be applied to a top-level array: " ++
      "its top-level keys are not all indices or wildcards"
  | scalarRoot kind => "Transform error: default can not be applied to a top-level " ++ kind
  | stageRange first last length =>
    "Transform error: invalid stage range " ++ Decimal.natText first ++ ".." ++
      Decimal.natText last ++ " for a chain of " ++ Decimal.natText length ++ " stages"
  | overflow => "attempt to add with overflow"

end RunError

end Reshape
