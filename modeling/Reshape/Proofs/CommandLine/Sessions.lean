import Reshape.CommandLine
import Reshape.Proofs.CommandLine.Files
import Reshape.Proofs.CommandLine.Requests
import Reshape.Proofs.Json.Reading

/-! All or nothing. A command reads and computes before it opens a file, and then only the
output can still fail. So a session that fails leaves the files alone, or else it leaves the first
part of its text where the output has broken off; and one that succeeds leaves all of the text
where it was asked for. -/

namespace Reshape.CommandLine

namespace Program

variable {α β : Type} {fault : Option Fault} {w after : World} {failure : Failure}

/-- A run of two programs in a row is a run of the second one after the first, unless the
first one fails. -/
private theorem run_bind (p : Program α) (f : α → Program β) (w : World) :
    (p >>= f).run fault w = match p.run fault w with
      | (.ok result, after) => (f result).run fault after
      | (.error failure, after) => (.error failure, after) := by
  change (p.bind f).run fault w = _
  induction p generalizing w with
  | done result => rfl
  | fail failure => rfl
  | read path next ih => exact ih _ w
  | input next ih => exact ih _ _
  | create path next ih =>
    rw [bind, run, run]
    cases w.create? path with
    | none => rfl
    | some created => exact ih created
  | write part text next ih =>
    rw [bind, run, run]
    cases Fault.in? fault part with
    | none => exact ih _
    | some kept => rfl
  | flush next ih =>
    rw [bind, run, run]
    cases Fault.in? fault .flush with
    | none => exact ih _
    | some kept => rfl

theorem run_bind_eq_ok {p : Program α} {f : α → Program β} {result : β} :
    (p >>= f).run fault w = (.ok result, after) ↔
      ∃ first between, p.run fault w = (.ok first, between) ∧
        (f first).run fault between = (.ok result, after) := by
  rw [run_bind]
  rcases p.run fault w with ⟨failure | first, between⟩
  · simp
  · exact ⟨fun ran => ⟨first, between, rfl, ran⟩, fun ⟨_, _, same, ran⟩ => by cases same; exact ran⟩

theorem run_bind_eq_error {p : Program α} {f : α → Program β} :
    (p >>= f).run fault w = (.error failure, after) ↔
      p.run fault w = (.error failure, after) ∨
        ∃ first between, p.run fault w = (.ok first, between) ∧
          (f first).run fault between = (.error failure, after) := by
  rw [run_bind]
  rcases p.run fault w with ⟨failed | first, between⟩
  · simp
  · constructor
    · exact fun ran => .inr ⟨first, between, rfl, ran⟩
    · rintro (same | ⟨_, _, same, ran⟩)
      · cases same
      · cases same
        exact ran

/-- A program that only reads, until it is done or fails. -/
inductive Reads : Program α → Prop where
  | done (result : α) : Reads (.done result)
  | fail (failure : Failure) : Reads (.fail failure)
  | read (path : String) {next : Found → Program α} (later : ∀ found, Reads (next found)) :
    Reads (.read path next)
  | input {next : Option String → Program α} (later : ∀ text, Reads (next text)) :
    Reads (.input next)

theorem Reads.bind {p : Program α} {f : α → Program β} (reads : Reads p)
    (later : ∀ result, Reads (f result)) : Reads (p >>= f) := by
  change Reads (p.bind f)
  induction reads with
  | done result => exact later result
  | fail failure => exact .fail failure
  | read path _ ih => exact .read path ih
  | input _ ih => exact .input ih

/-- A program that only reads leaves the files alone, however it ends. -/
theorem Reads.run_disk {p : Program α} (reads : Reads p) {ended : Except Failure α}
    (ran : p.run fault w = (ended, after)) : after.disk = w.disk := by
  induction reads generalizing w with
  | done result =>
    cases ran
    rfl
  | fail failure =>
    cases ran
    rfl
  | read path _ ih => exact ih _ ran
  | @input next _ ih =>
    have kept := ih w.stdin (w := { w with stdin := some "" }) ran
    exact kept

end Program

open Program

theorem load_reads (what path : String) : Reads (load what path) := by
  refine .read path fun found => ?_
  cases found with
  | missing => exact .fail _
  | unreadable => exact .fail _
  | text content =>
    dsimp only
    split
    · exact .done _
    · exact .fail _

theorem loadChain_reads (path : String) (maxDepth : Nat) : Reads (loadChain path maxDepth) := by
  refine (load_reads "spec" path).bind fun spec => ?_
  split
  · exact .done _
  · exact .fail _
  · exact .fail _

private theorem loadInput_reads (source : Option String) : Reads (loadInput source) := by
  cases source with
  | some path => exact load_reads "input" path
  | none =>
    refine .input fun text => ?_
    cases text with
    | none => exact .fail _
    | some text =>
      dsimp only
      split
      · exact .done _
      · exact .fail _

private theorem loadContext_reads (source : Option String) : Reads (loadContext source) := by
  cases source with
  | some path => exact load_reads "context" path
  | none => exact .done _

/-- Nothing is written before there is a result. -/
theorem compute_reads (r : TransformRequest) : Reads (compute r) := by
  refine (loadChain_reads r.spec r.maxDepth).bind fun chain => ?_
  refine (loadInput_reads r.input).bind fun input => ?_
  refine (loadContext_reads r.context).bind fun context => ?_
  split
  · exact .done _
  · exact .fail _
  · exact .fail _

/-- A document stands in a file. -/
def Disk.Holds (d : Disk) (path : String) (doc : Json) : Prop :=
  ∃ content, d.find path = .text content ∧ Json.parse? content = some doc

/-- The input of a command: what a file holds, or else standard input. -/
def World.GivesInput (w : World) : Option String → Json → Prop
  | some path, doc => w.disk.Holds path doc
  | none, doc => ∃ text ∈ w.stdin, Json.parse? text = some doc

/-- The context of a command: what a file holds, or else an empty object. -/
def Disk.GivesContext (d : Disk) : Option String → Json → Prop
  | some path, doc => d.Holds path doc
  | none, doc => doc = .emptyObject

/-- What is left of standard input when a document was read from here. -/
def World.consume (w : World) : Option String → World
  | some _ => w
  | none => { w with stdin := some "" }

/-- The result that a request asks for: that of the stages in its range of the compiled chain,
on the input and the context. -/
def TransformRequest.Results (r : TransformRequest) (w : World) (result : Json) : Prop :=
  ∃ spec chain input context, w.disk.Holds r.spec spec ∧
    Chain.build? ⟨r.maxDepth⟩ .builtins spec = some (.ok chain) ∧
    w.GivesInput r.input input ∧ w.disk.GivesContext r.context context ∧
    chain.runRange (r.first.getD 0) (r.last.getD chain.size) context input = .ok result

variable {fault : Option Fault} {w after : World} {failure : Failure} {doc : Json}
variable {source output : Option String} {layout : Layout} {text : String}

@[simp]
theorem World.consume_disk : (w.consume source).disk = w.disk := by
  cases source <;> rfl

@[simp]
private theorem World.consume_stdout : (w.consume source).stdout = w.stdout := by
  cases source <;> rfl

private theorem load_run_eq_ok {what path : String} :
    (load what path).run fault w = (.ok doc, after) ↔ w.disk.Holds path doc ∧ after = w := by
  rw [load, run, Disk.Holds]
  cases w.disk.find path with
  | missing => simp [run]
  | unreadable => simp [run]
  | text content =>
    cases read : Json.parse? content with
    | none => simp [run, read]
    | some found => simp [run, read, eq_comm]

private theorem loadChain_run_eq_ok {path : String} {maxDepth : Nat} {chain : Chain} :
    (loadChain path maxDepth).run fault w = (.ok chain, after) ↔
      (∃ spec, w.disk.Holds path spec ∧
        Chain.build? ⟨maxDepth⟩ .builtins spec = some (.ok chain)) ∧ after = w := by
  simp only [loadChain, run_bind_eq_ok, load_run_eq_ok]
  constructor
  · rintro ⟨spec, between, ⟨held, rfl⟩, ran⟩
    split at ran
    · cases ran
      exact ⟨⟨spec, held, ‹_›⟩, rfl⟩
    · cases ran
    · cases ran
  · rintro ⟨⟨spec, held, compiled⟩, rfl⟩
    refine ⟨spec, after, ⟨held, rfl⟩, ?_⟩
    rw [compiled]
    rfl

private theorem loadInput_run_eq_ok :
    (loadInput source).run fault w = (.ok doc, after) ↔
      w.GivesInput source doc ∧ after = w.consume source := by
  cases source with
  | some path => exact load_run_eq_ok
  | none =>
    rw [loadInput, run, World.GivesInput, World.consume]
    cases w.stdin with
    | none => simp [run]
    | some text =>
      cases read : Json.parse? text with
      | none => simp [run, read]
      | some found => simp [run, read, eq_comm]

private theorem loadContext_run_eq_ok :
    (loadContext source).run fault w = (.ok doc, after) ↔
      w.disk.GivesContext source doc ∧ after = w := by
  cases source with
  | some path => exact load_run_eq_ok
  | none => simp [loadContext, run, Disk.GivesContext, eq_comm]

/-- What is computed is the result that is asked for. -/
theorem compute_run_eq_ok {r : TransformRequest} {result : Json} :
    (compute r).run fault w = (.ok result, after) ↔
      r.Results w result ∧ after = w.consume r.input := by
  simp only [compute, run_bind_eq_ok, loadChain_run_eq_ok, loadInput_run_eq_ok,
    loadContext_run_eq_ok]
  constructor
  · rintro ⟨chain, _, ⟨⟨spec, held, compiled⟩, rfl⟩, input, _, ⟨given, rfl⟩, context, _,
      ⟨provided, rfl⟩, computed⟩
    rw [World.consume_disk] at provided
    split at computed
    · cases computed
      exact ⟨⟨spec, chain, input, context, held, compiled, given, provided, ‹_›⟩, rfl⟩
    · cases computed
    · cases computed
  · rintro ⟨⟨spec, chain, input, context, held, compiled, given, provided, ran⟩, rfl⟩
    refine ⟨chain, w, ⟨⟨spec, held, compiled⟩, rfl⟩, input, _, ⟨given, rfl⟩, context, _,
      ⟨by rwa [World.consume_disk], rfl⟩, ?_⟩
    rw [ran]
    rfl

def Layout.spacing : Layout → Json.Spacing
  | pretty => .pretty
  | compact => .compact

/-- A text is a document in a layout with a line feed after it, and reads back as the document
if the numbers in it do. -/
structure Layout.Prints (layout : Layout) (doc : Json) (text : String) : Prop where
  spelled : text.toList = Json.spelled layout.spacing 0 doc ++ ['\n']
  reads : doc.Legible → doc.nesting ≤ Json.maxNesting → Json.parse? text = some doc

theorem Layout.text_prints (layout : Layout) (doc : Json) :
    layout.Prints doc (layout.text doc ++ "\n") := by
  have spelled :
      (layout.text doc ++ "\n").toList = Json.spelled layout.spacing 0 doc ++ ['\n'] := by
    cases layout with
    | pretty => simp [Layout.text, Layout.spacing, Json.toList_pretty]
    | compact => simp [Layout.text, Layout.spacing, Json.toList_compact]
  have blank : layout.spacing.Blank := by
    cases layout with
    | pretty => exact Json.Spacing.pretty_blank
    | compact => exact Json.Spacing.compact_blank
  exact ⟨spelled, fun legible nested => Json.parse?_of_spelled blank legible nested spelled⟩

/-- A text has gone where it was asked for. A file that a path leads to has it for its content,
and the path still leads to it, if there is no device in its place; and standard output has it if
no file is asked for. Nothing else has changed. -/
def World.Delivered (before after : World) (text : String) : Option String → Prop
  | some path => after.stdout = before.stdout ∧ ∃ way, before.disk.target? path = some way ∧
    after.disk = before.disk.write way text.toUTF8 ∧
    (before.disk.nodes.lookup way ≠ some .sink → after.disk.find path = .text text) ∧
    ∀ other ≠ way, after.disk.node? other = before.disk.node? other
  | none => after.disk = before.disk ∧ after.stdout = text.toUTF8

/-- The output of a text has broken off: the file that a path leads to has the first bytes of
it, and nothing else has changed. -/
def World.BrokenOff (before after : World) (text path : String) : Prop :=
  after.stdout = before.stdout ∧ ∃ way bytes rest, before.disk.target? path = some way ∧
    text.toUTF8 = bytes ++ rest ∧ after.disk = before.disk.write way bytes ∧
    ∀ other ≠ way, after.disk.node? other = before.disk.node? other

@[simp]
private theorem World.consume_delivered :
    (w.consume source).Delivered after text output ↔ w.Delivered after text output := by
  cases output <;> simp [World.Delivered]

@[simp]
private theorem World.consume_brokenOff {path : String} :
    (w.consume source).BrokenOff after text path ↔ w.BrokenOff after text path := by
  simp [World.BrokenOff]

/-- No file is open, and nothing was written yet. -/
structure World.Fresh (w : World) : Prop where
  unopened : w.target = none
  unwritten : w.written = .empty

theorem World.Fresh.consume (fresh : w.Fresh) (source : Option String) :
    (w.consume source).Fresh := by
  cases source with
  | none => exact ⟨fresh.unopened, fresh.unwritten⟩
  | some path => exact fresh

private theorem Fault.in?_eq_some {part : Part} {kept : Nat} :
    Fault.in? fault part = some kept ↔ fault = some ⟨part, kept⟩ := by
  cases fault with
  | none => simp [Fault.in?]
  | some f =>
    obtain ⟨broken, passed⟩ := f
    by_cases same : broken = part <;> simp [Fault.in?, Option.filter, same]

/-- Two texts are written as their concatenation is. -/
private theorem World.write_write (w : World) (first second : String) :
    (w.write first).write second = w.write (first ++ second) := by
  simp [World.write, ByteArray.append_assoc]

/-- What has come through of a text that is held back is the first part of all that is to be
written. -/
private theorem World.write_written_append (w : World) (held tail : String) (kept : Nat) :
    ∃ rest, (w.write (held ++ tail)).written = (w.write held).written.extract 0 kept ++ rest := by
  let bytes := (w.write held).written
  have whole : bytes.extract 0 (max kept bytes.size) = bytes :=
    ByteArray.ext (ByteArray.data_extract.trans (Array.extract_eq_self_of_le (Nat.le_max_right ..)))
  refine ⟨bytes.extract kept bytes.size ++ tail.toUTF8, ?_⟩
  calc (w.write (held ++ tail)).written
      = bytes ++ tail.toUTF8 := by rw [← World.write_write]; rfl
    _ = bytes.extract 0 kept ++ (bytes.extract kept bytes.size ++ tail.toUTF8) := by
      rw [← ByteArray.append_assoc, ByteArray.extract_append_extract, Nat.zero_min, whole]

/-- A print that is done has left its text where it belongs. -/
private theorem print_run_ok (ran : (print layout doc).run fault w = (.ok (), after)) :
    after = (w.write (layout.text doc ++ "\n")).deliver
      (w.write (layout.text doc ++ "\n")).written := by
  rw [← World.write_write]
  simp only [print, run] at ran
  split at ran
  · cases ran
  split at ran
  · cases ran
  split at ran
  · cases ran
  · cases ran
    rfl

/-- A print fails if the output takes no more, and then it has left the first part of its text. -/
private theorem print_run_error (ran : (print layout doc).run fault w = (.error failure, after)) :
    ∃ part kept held bytes rest, fault = some ⟨part, kept⟩ ∧ failure = .writing part ∧
      (w.write (layout.text doc ++ "\n")).written = bytes ++ rest ∧
      after = (w.write held).deliver bytes := by
  simp only [print, run, World.write_write] at ran
  split at ran
  case h_1 kept broken =>
    cases ran
    obtain ⟨rest, parted⟩ := w.write_written_append (layout.text doc) "\n" kept
    exact ⟨_, _, _, _, rest, Fault.in?_eq_some.mp broken, rfl, parted, rfl⟩
  have parted := w.write_written_append (layout.text doc ++ "\n") ""
  rw [String.append_empty] at parted
  split at ran
  case h_1 kept broken =>
    cases ran
    obtain ⟨rest, parted⟩ := parted kept
    exact ⟨_, _, _, _, rest, Fault.in?_eq_some.mp broken, rfl, parted, rfl⟩
  split at ran
  case h_1 kept broken =>
    cases ran
    obtain ⟨rest, parted⟩ := parted kept
    exact ⟨_, _, _, _, rest, Fault.in?_eq_some.mp broken, rfl, parted, rfl⟩
  · cases ran

variable (fresh : w.Fresh)
include fresh

/-- A print on standard output leaves the files alone, however it ends. -/
private theorem print_run_disk {ended : Except Failure Unit}
    (ran : (print layout doc).run fault w = (ended, after)) : after.disk = w.disk := by
  cases ended with
  | error failure =>
    obtain ⟨part, kept, held, bytes, rest, -, -, -, rfl⟩ := print_run_error ran
    simp [World.deliver, World.write, fresh.unopened]
  | ok done =>
    rw [print_run_ok ran]
    simp [World.deliver, World.write, fresh.unopened]

/-- What is published is delivered. -/
theorem publish_delivers (ran : (publish output layout doc).run fault w = (.ok (), after)) :
    ∃ text, layout.Prints doc text ∧ w.Delivered after text output := by
  refine ⟨_, layout.text_prints doc, ?_⟩
  cases output with
  | none =>
    rw [print_run_ok ran]
    simp [World.Delivered, World.deliver, World.write, fresh.unopened, fresh.unwritten]
  | some path =>
    rw [publish, run, World.create?] at ran
    cases creatable : w.disk.target? path with
    | none => simp [creatable] at ran
    | some way =>
      rw [creatable, Option.map_some] at ran
      rw [print_run_ok ran]
      simp only [World.Delivered, World.deliver, World.write, fresh.unwritten, Disk.write_write,
        ByteArray.empty_append]
      exact ⟨trivial, way, creatable, rfl, Disk.find_write creatable,
        fun _ => Disk.node?_write_of_ne creatable⟩

/-- A document that is not published leaves the files alone, or the output has broken off. -/
theorem publish_breaks_off
    (ran : (publish output layout doc).run fault w = (.error failure, after)) :
    after.disk = w.disk ∨ ∃ part kept text, ∃ path ∈ output, fault = some ⟨part, kept⟩ ∧
      failure = .writing part ∧ layout.Prints doc text ∧ w.BrokenOff after text path := by
  cases output with
  | none => exact .inl (print_run_disk fresh ran)
  | some path =>
    rw [publish, run, World.create?] at ran
    cases creatable : w.disk.target? path with
    | none =>
      rw [creatable] at ran
      cases ran
      exact .inl rfl
    | some way =>
      rw [creatable, Option.map_some] at ran
      obtain ⟨part, kept, held, bytes, rest, broken, told, parted, rfl⟩ := print_run_error ran
      refine .inr ⟨part, kept, _, path, rfl, broken, told, layout.text_prints doc, rfl, way, bytes,
        rest, creatable, ?_, ?_⟩
      · simpa [World.write, fresh.unwritten] using parted
      · simp only [World.deliver, World.write, Disk.write_write]
        exact ⟨trivial, fun _ => Disk.node?_write_of_ne creatable⟩

omit fresh in
/-- A document can be published if its file can be created and the output takes it. -/
theorem exists_publish_run (creatable : ∀ path ∈ output, (w.disk.target? path).isSome) :
    ∃ after, (publish output layout doc).run none w = (.ok (), after) := by
  cases output with
  | none => exact ⟨_, rfl⟩
  | some path =>
    obtain ⟨way, found⟩ := Option.isSome_iff_exists.mp (creatable path rfl)
    rw [publish, run, World.create?, found]
    exact ⟨_, rfl⟩

/-- A transform that is done has a result and has delivered it. -/
theorem transform_delivers {r : TransformRequest}
    (ran : (transform r).run fault w = (.ok (), after)) :
    ∃ result text, r.Results w result ∧ r.layout.Prints result text ∧
      w.Delivered after text r.output := by
  obtain ⟨result, between, computed, published⟩ := run_bind_eq_ok.mp ran
  obtain ⟨resulted, rfl⟩ := compute_run_eq_ok.mp computed
  obtain ⟨text, prints, delivered⟩ := publish_delivers (fresh.consume r.input) published
  exact ⟨result, text, resulted, prints, World.consume_delivered.mp delivered⟩

/-- A transform that fails leaves the files alone, or the output of its result has broken
off. -/
theorem transform_breaks_off {r : TransformRequest}
    (ran : (transform r).run fault w = (.error failure, after)) :
    after.disk = w.disk ∨ ∃ part kept result text, ∃ path ∈ r.output,
      fault = some ⟨part, kept⟩ ∧ failure = .writing part ∧ r.Results w result ∧
      r.layout.Prints result text ∧ w.BrokenOff after text path := by
  rcases run_bind_eq_error.mp ran with failed | ⟨result, between, computed, unpublished⟩
  · exact .inl ((compute_reads r).run_disk failed)
  · obtain ⟨resulted, rfl⟩ := compute_run_eq_ok.mp computed
    refine (publish_breaks_off (fresh.consume r.input) unpublished).imp ?_ ?_
    · exact fun kept => kept.trans World.consume_disk
    · rintro ⟨part, kept, text, path, asked, broken, told, prints, brokenOff⟩
      exact ⟨part, kept, result, text, path, asked, broken, told, resulted, prints,
        World.consume_brokenOff.mp brokenOff⟩

omit fresh in
/-- A transform with a result is done if its file can be created and the output takes it. -/
theorem exists_transform_run {r : TransformRequest} {result : Json}
    (resulted : r.Results w result)
    (creatable : ∀ path ∈ r.output, (w.disk.target? path).isSome) :
    ∃ after, (transform r).run none w = (.ok (), after) := by
  rw [← World.consume_disk] at creatable
  obtain ⟨after, published⟩ := exists_publish_run creatable
  exact ⟨after, run_bind_eq_ok.mpr ⟨result, _, compute_run_eq_ok.mpr ⟨resulted, rfl⟩, published⟩⟩

/-- A check leaves the files alone, however it ends. -/
theorem check_run_disk {spec : String} {maxDepth : Nat} {ended : Except Failure Unit}
    (ran : (check spec maxDepth).run fault w = (ended, after)) : after.disk = w.disk := by
  cases ended with
  | error failure =>
    rcases run_bind_eq_error.mp ran with failed | ⟨chain, between, loaded, unpublished⟩
    · exact (loadChain_reads spec maxDepth).run_disk failed
    · obtain ⟨-, rfl⟩ := loadChain_run_eq_ok.mp loaded
      exact print_run_disk fresh unpublished
  | ok done =>
    obtain ⟨chain, between, loaded, published⟩ := run_bind_eq_ok.mp ran
    obtain ⟨-, rfl⟩ := loadChain_run_eq_ok.mp loaded
    exact print_run_disk fresh published

omit fresh

variable {page : String} {args : List String} {command : Command}

theorem session_of_ok (parsed : parse args = .ok command)
    (ran : command.program.run fault w = (.ok (), after)) :
    session page fault args w = (.succeeded, after) := by
  simp only [session, parsed, ran]

theorem session_of_error (parsed : parse args = .ok command)
    (ran : command.program.run fault w = (.error failure, after)) :
    session page fault args w = (.failed failure, after) := by
  simp only [session, parsed, ran]

private theorem Failure.code_ne_zero (failure : Failure) : failure.code ≠ 0 := by
  cases failure <;> nofun

/-- A session with a command succeeds if the command is done. -/
theorem code_eq_zero_iff (parsed : parse args = .ok command) :
    (session page fault args w).1.code = 0 ↔
      ∃ after, command.program.run fault w = (.ok (), after) := by
  rcases ran : command.program.run fault w with ⟨failure | ⟨⟩, after⟩
  · rw [session_of_error parsed ran]
    simp [Outcome.code, failure.code_ne_zero]
  · rw [session_of_ok parsed ran]
    exact ⟨fun _ => ⟨after, rfl⟩, fun _ => rfl⟩

/-- A session that does not succeed leaves the files alone, or the output of its result has broken
off. -/
theorem session_breaks_off (fresh : w.Fresh)
    (stopped : (session page fault args w).1.code ≠ 0) :
    (session page fault args w).2.disk = w.disk ∨
      ∃ r part kept result text, ∃ path ∈ r.output, parse args = .ok (.transform r) ∧
        fault = some ⟨part, kept⟩ ∧
        (session page fault args w).1 = .failed (.writing part) ∧ r.Results w result ∧
        r.layout.Prints result text ∧
        w.BrokenOff (session page fault args w).2 text path := by
  cases parsed : parse args with
  | error answer =>
    refine .inl ?_
    cases answer <;> simp only [session, parsed]
  | ok command =>
    rcases ran : command.program.run fault w with ⟨failure | ⟨⟩, after⟩
    · rw [session_of_error parsed ran]
      cases command with
      | check spec maxDepth => exact .inl (check_run_disk fresh ran)
      | transform r =>
        refine (transform_breaks_off fresh ran).imp_right ?_
        rintro ⟨part, kept, result, text, path, asked, broken, rfl, brokenOff⟩
        exact ⟨r, part, kept, result, text, path, asked, rfl, broken, rfl, brokenOff⟩
    · exact absurd ((code_eq_zero_iff parsed).mpr ⟨after, ran⟩) stopped

/-- All or nothing. A session that does not succeed leaves the files alone, or else the output of
its result has broken off. One that transforms succeeds if there is a result, its file can be
created and the output takes it; and if it succeeds, the text of the result has gone where it was
asked for. One that checks, and one that has no command, leaves the files alone in any case. The
arguments in which a request is written ask for it. -/
theorem session_all_or_nothing (page : String) (fault : Option Fault) (disk : Disk)
    (args : List String) (stdin : Option String) :
    let before := World.start disk stdin
    let outcome := (session page fault args before).1
    let after := (session page fault args before).2
    (outcome.code ≠ 0 → after.disk = disk ∨
      ∃ r part kept result text, ∃ path ∈ r.output, parse args = .ok (.transform r) ∧
        fault = some ⟨part, kept⟩ ∧ outcome = .failed (.writing part) ∧
        r.Results before result ∧ r.layout.Prints result text ∧
        before.BrokenOff after text path) ∧
      (∀ r, parse args = .ok (.transform r) →
        (outcome.code = 0 → ∃ result text, r.Results before result ∧
          r.layout.Prints result text ∧ before.Delivered after text r.output) ∧
        ((∃ result, r.Results before result) →
          (∀ path ∈ r.output, (disk.target? path).isSome) → fault = none → outcome.code = 0)) ∧
      (∀ spec maxDepth, parse args = .ok (.check spec maxDepth) → after.disk = disk) ∧
      (∀ answer, parse args = .error answer →
        after.disk = disk ∧ (outcome.code = 0 ↔ answer = .page)) ∧
      ∀ r : TransformRequest, r.WellFormed → parse r.args = .ok (.transform r) := by
  intro before outcome after
  have fresh : before.Fresh := ⟨rfl, rfl⟩
  refine ⟨session_breaks_off fresh, fun r parsed => ⟨fun succeeded => ?_, ?_⟩, ?_, ?_,
    fun _ => TransformRequest.parse_args⟩
  · obtain ⟨left, ran⟩ := (code_eq_zero_iff parsed).mp succeeded
    obtain rfl : after = left := congrArg Prod.snd (session_of_ok parsed ran)
    exact transform_delivers fresh ran
  · rintro ⟨result, resulted⟩ creatable rfl
    exact (code_eq_zero_iff parsed).mpr (exists_transform_run resulted creatable)
  · intro spec maxDepth parsed
    rcases ran : (check spec maxDepth).run fault before with ⟨failure | ⟨⟩, left⟩
    · obtain rfl : after = left := congrArg Prod.snd (session_of_error parsed ran)
      exact check_run_disk fresh ran
    · obtain rfl : after = left := congrArg Prod.snd (session_of_ok parsed ran)
      exact check_run_disk fresh ran
  · intro answer parsed
    cases answer <;> simp [outcome, after, session, parsed, Outcome.code, before, World.start]

/-- A document is sorted in place; and with stages asked for that the chain does not have, it
is left as it is. -/
theorem session_all_or_nothing_in_place :
    let disk : Disk := ⟨["work"],
      [(["spec", "work"], .file "[\x7b\"operation\":\"sort\"\x7d]".toUTF8),
        (["doc", "work"], .file "\x7b\"b\":1,\"a\":2\x7d".toUTF8)]⟩
    let args := ["transform", "--spec=/work/spec", "--format=compact", "-o", "../work/doc", "doc"]
    let request : TransformRequest :=
      ⟨"/work/spec", some "doc", some "../work/doc", none, none, none, 64, .compact⟩
    (∃ result text, request.Results (.start disk none) result ∧ request.layout.Prints result text ∧
      (World.start disk none).Delivered (session "" none args (.start disk none)).2 text
        request.output) ∧
    (session "" none (args ++ ["--from", "2"]) (.start disk none)).2.disk = disk := by
  intro disk args request
  have asked : parse args = .ok (.transform request) := by decide +kernel
  have succeeded : (session "" none args (.start disk none)).1.code = 0 := by decide +kernel
  have failed : (session "" none (args ++ ["--from", "2"]) (.start disk none)).1.code ≠ 0 := by
    decide +kernel
  have transformed := (session_all_or_nothing "" none disk args none).2.1 request asked
  refine ⟨transformed.1 succeeded, ?_⟩
  rcases (session_all_or_nothing "" none disk (args ++ ["--from", "2"]) none).1 failed with
    unchanged | ⟨_, _, _, _, _, _, _, _, broken, _⟩
  · exact unchanged
  · cases broken

/-- An output that takes no more when it is flushed has emptied its file, a device keeps nothing
of what is written, and help ends with success in place of a result. -/
theorem session_breaks_off_at_flush :
    let disk : Disk := ⟨[],
      [(["spec"], .file "[\x7b\"operation\":\"sort\"\x7d]".toUTF8), (["out"], .file "old".toUTF8),
        (["null", "dev"], .sink)]⟩
    let start := World.start disk (some "\x7b\x7d")
    let full := session "" (some ⟨.flush, 0⟩) ["transform", "-s", "spec", "-o", "out"] start
    let device := session "" none ["transform", "-s", "spec", "-o", "/dev/null"] start
    let help := session "" none ["transform", "-s", "spec", "-o", "out", "--help"] start
    (full.1.code = 1 ∧ disk.find "out" = .text "old" ∧ full.2.disk.find "out" = .text "") ∧
      (device.1.code = 0 ∧ device.2.disk.find "/dev/null" = .text "") ∧
      help.1.code = 0 ∧ help.2.disk = disk := by
  decide +kernel

end Reshape.CommandLine
