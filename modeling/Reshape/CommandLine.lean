import Reshape.Chain
import Reshape.CommandLine.Arguments
import Reshape.CommandLine.Program
import Reshape.Json.Reader
import Reshape.Json.Writer

namespace Reshape.CommandLine

def load (what path : String) : Program Json :=
  .read path fun
    | .missing => .fail (.opening what path)
    | .unreadable => .fail (.parsing what path)
    | .text content =>
      match Json.parse? content with
      | some doc => .done doc
      | none => .fail (.parsing what path)

/-- Compiles the chain spec in a file. -/
def loadChain (path : String) (maxDepth : Nat) : Program Chain := do
  let spec ← load "spec" path
  match Chain.build? ⟨maxDepth⟩ .builtins spec with
  | some (.ok chain) => .done chain
  | some (.error e) => .fail (.chain path e)
  | none => .fail .stopped

/-- Reads the input, from a file or from standard input. -/
def loadInput : Option String → Program Json
  | some path => load "input" path
  | none => .input fun
    | none => .fail .readingInput
    | some text =>
      match Json.parse? text with
      | some doc => .done doc
      | none => .fail .parsingInput

/-- Reads the context; without a file it is an empty object. -/
def loadContext : Option String → Program Json
  | some path => load "context" path
  | none => .done Json.emptyObject

def Layout.text : Layout → Json → String
  | pretty, doc => doc.pretty
  | compact, doc => doc.compact

/-- Writes a document and a line feed after it. -/
def print (layout : Layout) (doc : Json) : Program Unit :=
  .write .document (layout.text doc) (.write .newline "\n" (.flush (.done ())))

/-- Writes a document to a new file, or else to standard output. -/
def publish (output : Option String) (layout : Layout) (doc : Json) : Program Unit :=
  match output with
  | some path => .create path (print layout doc)
  | none => print layout doc

/-- Runs the stages that are asked for on the input. -/
def compute (r : TransformRequest) : Program Json := do
  let chain ← loadChain r.spec r.maxDepth
  let input ← loadInput r.input
  let context ← loadContext r.context
  match chain.runRange (r.first.getD 0) (r.last.getD chain.size) context input with
  | .ok result => .done result
  | .error .overflow => .fail .stopped
  | .error e => .fail (.run e)

def transform (r : TransformRequest) : Program Unit := do
  let result ← compute r
  publish r.output r.layout result

/-- What `check` tells about a chain that compiles. -/
def summary (chain : Chain) : Json :=
  .obj [("valid", .bool true),
    ("stages", .arr (chain.operations.map fun operation => .str operation.name))]

/-- Compiles a chain and tells its stages. -/
def check (spec : String) (maxDepth : Nat) : Program Unit := do
  let chain ← loadChain spec maxDepth
  publish none .compact (summary chain)

def Command.program : Command → Program Unit
  | .transform request => CommandLine.transform request
  | .check spec maxDepth => CommandLine.check spec maxDepth

/-- How a run of the program ends. -/
inductive Outcome where
  /-- The arguments are refused. -/
  | refused
  /-- A page was asked for and shown. -/
  | shown
  | failed (failure : Failure)
  | succeeded
deriving DecidableEq

def Outcome.code : Outcome → Nat
  | succeeded => 0
  | shown => 0
  | failed failure => failure.code
  | refused => 2

/-- Reads the arguments and runs the command: the outcome, and the world that is left. The text
of a page that is asked for is given. -/
def session (page : String) (fault : Option Fault) (args : List String) (before : World) :
    Outcome × World :=
  match parse args with
  | .error .refused => (.refused, before)
  | .error .page => (.shown, { before with stdout := page.toUTF8 })
  | .ok command =>
    match command.program.run fault before with
    | (.error failure, after) => (.failed failure, after)
    | (.ok (), after) => (.succeeded, after)

end Reshape.CommandLine
