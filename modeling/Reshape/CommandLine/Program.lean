import Reshape.CommandLine.Disk
import Reshape.Error

/-! Programs as data: what they ask of the system they run on, one step after the other,
and how they go on with the answer. A run in a world tells how a program ends and what it
leaves behind; what was done before a failure is not taken back. -/

namespace Reshape.CommandLine

/-- The steps in which a document is written. -/
inductive Part where
  | document
  | newline
  /-- What was written before goes where it belongs. -/
  | flush
deriving DecidableEq, Repr

/-- Why a command fails, with the error behind it where there is one. -/
inductive Failure where
  /-- A file that can not be opened. -/
  | opening (what path : String)
  /-- A file that holds no document. -/
  | parsing (what path : String)
  /-- Standard input that is no text. -/
  | readingInput
  /-- Standard input that is no document. -/
  | parsingInput
  | chain (path : String) (error : BuildError)
  | run (error : RunError)
  /-- A file that can not be written. -/
  | creating (path : String)
  /-- An output that takes no more. -/
  | writing (part : Part)
  /-- The program stops. -/
  | stopped
deriving DecidableEq

namespace Failure

/-- The first line that a failure is told with. -/
def headline : Failure → String
  | opening what path => "Failed to open " ++ what ++ " file: " ++ path
  | parsing what path => "Failed to parse " ++ what ++ " from: " ++ path
  | readingInput => "Failed to read input from stdin"
  | parsingInput => "Failed to parse input from stdin"
  | chain path _ => "Invalid chain spec: " ++ path
  | run _ => "Transform failed"
  | creating path => "Failed to create output file: " ++ path
  | writing .document => "Failed to write JSON"
  | writing .newline => "Failed to write trailing newline"
  | writing .flush => "Failed to flush output"
  | stopped => RunError.overflow.message

/-- The error of the chain behind a failure. -/
def cause? : Failure → Option String
  | chain _ e => some e.message
  | run e => some e.message
  | _ => none

def code : Failure → Nat
  | stopped => 101
  | _ => 1

end Failure

/-- A program that ends with a result or a failure. -/
inductive Program (α : Type) where
  | done (result : α)
  | fail (failure : Failure)
  /-- Opens the file under a path and reads it. -/
  | read (path : String) (next : Found → Program α)
  /-- Reads standard input to its end; there is no answer if it is no text. -/
  | input (next : Option String → Program α)
  /-- Opens an empty file under a path, for all that is written from there on. A file that is
  there loses its content. -/
  | create (path : String) (next : Program α)
  /-- Writes a text for the open file, or for standard output if there is none. -/
  | write (part : Part) (text : String) (next : Program α)
  /-- Sees to it that all that was written is where it belongs. -/
  | flush (next : Program α)

namespace Program

variable {α β : Type}

/-- Goes on with the result of a program, unless it fails. -/
def bind : Program α → (α → Program β) → Program β
  | done result, f => f result
  | fail failure, _ => fail failure
  | read path next, f => read path fun found => (next found).bind f
  | input next, f => input fun text => (next text).bind f
  | create path next, f => create path (next.bind f)
  | write part text next, f => write part text (next.bind f)
  | flush next, f => flush (next.bind f)

instance : Monad Program where
  pure := done
  bind := bind

end Program

/-- What a program finds and leaves: the files, what standard input still holds if it is a
text, what went to standard output, the place of the file that is open for writing, and what was
written so far. -/
structure World where
  disk : Disk
  stdin : Option String
  stdout : ByteArray
  target : Option Way
  written : ByteArray

namespace World

def start (disk : Disk) (stdin : Option String) : World :=
  ⟨disk, stdin, .empty, none, .empty⟩

/-- Opens an empty file under a path, if one can be there. -/
def create? (w : World) (path : String) : Option World :=
  (w.disk.target? path).map fun way =>
    { w with disk := w.disk.write way .empty, target := some way }

/-- Holds a text back until it goes where it belongs. -/
def write (w : World) (text : String) : World :=
  { w with written := w.written ++ text.toUTF8 }

/-- The open file, or standard output if there is none, holds these bytes. -/
def deliver (w : World) (bytes : ByteArray) : World :=
  match w.target with
  | some way => { w with disk := w.disk.write way bytes }
  | none => { w with stdout := bytes }

end World

/-- An output that takes no more in one of the steps, when so many bytes have come through. -/
structure Fault where
  part : Part
  kept : Nat
deriving DecidableEq, Repr

/-- How many bytes have come through if the output takes no more in a step. -/
def Fault.in? (fault : Option Fault) (part : Part) : Option Nat :=
  (fault.filter (·.part = part)).map Fault.kept

/-- Runs a program in a world: how it ends, and the world that it leaves. -/
def Program.run {α : Type} (fault : Option Fault) : Program α → World → Except Failure α × World
  | done result, w => (.ok result, w)
  | fail failure, w => (.error failure, w)
  | read path next, w => (next (w.disk.find path)).run fault w
  | input next, w => (next w.stdin).run fault { w with stdin := some "" }
  | create path next, w =>
    match w.create? path with
    | some created => next.run fault created
    | none => (.error (.creating path), w)
  | write part text next, w =>
    match Fault.in? fault part with
    | some kept =>
      (.error (.writing part), (w.write text).deliver ((w.write text).written.extract 0 kept))
    | none => next.run fault (w.write text)
  | flush next, w =>
    match Fault.in? fault .flush with
    | some kept => (.error (.writing .flush), w.deliver (w.written.extract 0 kept))
    | none => next.run fault (w.deliver w.written)

end Reshape.CommandLine
