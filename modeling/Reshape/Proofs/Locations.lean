import Reshape.Proofs.Transform.Locating

/-! Where the errors of compiling a chain point. The pointer of an error can be read back, and it
leads to the first entry that is no stage, or else into the spec of the first stage that does not
compile. What it leads to is there, but for the canonical form of an array position among the keys
of a shift. -/

namespace Reshape

open Decimal Key Spec Outcome

namespace StageSpec

variable {entries : List Json} {members : Members} {index : Nat} {stage : StageSpec}

theorem decodeAll_eq_error {e : BuildError} (failed : decodeAll index entries = .error e) :
    ∃ done entry later fault, entries = done ++ entry :: later ∧
      (∀ other ∈ done, ∃ stage, decode other = .ok stage) ∧ decode entry = .error fault ∧
      e = ⟨[natText (index + done.length)], .stage fault⟩ := by
  induction entries generalizing index with
  | nil => cases failed
  | cons entry rest ih =>
    rw [decodeAll] at failed
    split at failed
    · rename_i fault refused
      cases failed
      exact ⟨[], entry, rest, fault, rfl, nofun, refused, rfl⟩
    · rename_i stage read
      obtain ⟨done, other, later, fault, rfl, before, refused, rfl⟩ := ih (map_eq_error.mp failed)
      refine ⟨entry :: done, other, later, fault, rfl, ?_, refused, ?_⟩
      · exact List.forall_mem_cons.mpr ⟨⟨stage, read⟩, before⟩
      · rw [List.length_cons, Nat.add_right_comm, Nat.add_assoc]

theorem decodeAll_eq_ok {stages : List StageSpec} (read : decodeAll index entries = .ok stages) :
    List.Forall₂ (fun entry stage => decode entry = .ok stage) entries stages := by
  induction entries generalizing index stages with
  | nil =>
    cases read
    exact .nil
  | cons entry rest ih =>
    rw [decodeAll] at read
    split at read
    · cases read
    · rename_i stage first
      obtain ⟨more, later, rfl⟩ := map_eq_ok.mp read
      exact .cons first (ih later)

/-- The spec of a stage is what stands under its key. -/
theorem decodeMembers_spec {operation : Option Operation} {spec : Json}
    (distinct : (members.map (·.1)).Nodup)
    (read : decodeMembers operation spec members = .ok stage) :
    stage.spec = (Members.get? "spec" members).getD spec := by
  induction members generalizing operation spec with
  | nil =>
    cases operation with
    | none => cases read
    | some operation =>
      cases read
      rfl
  | cons member rest ih =>
    obtain ⟨key, value⟩ := member
    obtain ⟨absent, later⟩ := List.nodup_cons.mp distinct
    rw [decodeMembers] at read
    split at read
    · rename_i named
      obtain ⟨found, -, read⟩ := bind_eq_ok.mp read
      rw [ih later read, Members.get?, if_neg (by rw [named]; decide)]
    split at read
    · rename_i named
      have missing : Members.get? "spec" rest = none := by
        refine Option.not_isSome_iff_eq_none.mp fun held => absent ?_
        exact named ▸ Members.has_iff.mp held
      rw [ih later read, missing, Members.get?, if_pos named]
      rfl
    · rename_i other
      rw [ih later read, Members.get?, if_neg other]

end StageSpec

namespace Chain

variable {options : Options} {functions : Registry} {entries : List Json} {index : Nat}

private theorem compileStages_eq_error {stages : List StageSpec} {e : BuildError}
    (failed : compileStages options functions index stages = .error e) :
    ∃ done stage later inner, stages = done ++ stage :: later ∧
      (∀ other ∈ done, ∃ compiled,
        Stage.compile options functions other.operation other.spec = .ok compiled) ∧
      Stage.compile options functions stage.operation stage.spec = .error inner ∧
      e = inner.within (specPointer (index + done.length)) := by
  induction stages generalizing index with
  | nil => cases failed
  | cons stage rest ih =>
    rw [compileStages] at failed
    split at failed
    · rename_i inner refused
      cases failed
      exact ⟨[], stage, rest, inner, rfl, nofun, refused, rfl⟩
    · rename_i compiled made
      obtain ⟨done, other, later, inner, rfl, before, refused, rfl⟩ := ih (map_eq_error.mp failed)
      refine ⟨stage :: done, other, later, inner, rfl, ?_, refused, ?_⟩
      · exact List.forall_mem_cons.mpr ⟨⟨compiled, made⟩, before⟩
      · rw [List.length_cons, Nat.add_right_comm, Nat.add_assoc]

/-- The entry at an index is the first one of a chain that is no stage. -/
structure Undecoded (entries : List Json) (index : Nat) (fault : DecodeError) : Prop where
  refused : ∃ entry, entries[index]? = some entry ∧ StageSpec.decode entry = .error fault
  before : ∀ entry ∈ entries.take index, ∃ stage, StageSpec.decode entry = .ok stage

/-- All entries of a chain are stages, and the one at an index is the first that does not
compile. -/
structure Uncompiled (options : Options) (functions : Registry) (entries : List Json) (index : Nat)
    (stage : StageSpec) (e : BuildError) : Prop where
  found : ∃ entry, entries[index]? = some entry ∧ StageSpec.decode entry = .ok stage
  refused : Stage.compile options functions stage.operation stage.spec = .error e
  decoded : ∀ entry ∈ entries, ∃ stage, StageSpec.decode entry = .ok stage
  before : ∀ entry ∈ entries.take index, ∀ stage, StageSpec.decode entry = .ok stage →
    ∃ compiled, Stage.compile options functions stage.operation stage.spec = .ok compiled

/-- A chain that does not compile has a first entry that is no stage, or else a first stage that
does not compile. -/
theorem compile_eq_error {e : BuildError}
    (failed : compile options functions (.arr entries) = .error e) :
    (∃ index fault, Undecoded entries index fault ∧ e = ⟨[natText index], .stage fault⟩) ∨
      ∃ index stage inner, Uncompiled options functions entries index stage inner ∧
        e = inner.within (specPointer index) := by
  rcases bind_eq_error.mp failed with undecoded | ⟨stages, read, failed⟩
  · obtain ⟨done, entry, later, fault, rfl, before, refused, rfl⟩ :=
      StageSpec.decodeAll_eq_error undecoded
    refine .inl ⟨done.length, fault, ⟨⟨entry, ?_, refused⟩, ?_⟩, by rw [Nat.zero_add]⟩
    · rw [List.getElem?_append_right (Nat.le_refl _), Nat.sub_self]
      rfl
    · rwa [List.take_left]
  · have decoded := StageSpec.decodeAll_eq_ok read
    obtain ⟨done, stage, later, inner, rfl, before, refused, rfl⟩ :=
      compileStages_eq_error (map_eq_error.mp failed)
    have first := List.forall₂_take_append entries done (stage :: later) decoded
    have rest := List.forall₂_drop_append entries done (stage :: later) decoded
    obtain ⟨entry, more, own, -, split⟩ := List.forall₂_cons_right_iff.mp rest
    have found : entries[done.length]? = some entry := by
      rw [← Nat.add_zero done.length, ← List.getElem?_drop, split]
      rfl
    refine .inr ⟨done.length, stage, inner, ⟨⟨entry, found, own⟩, refused, ?_, ?_⟩, ?_⟩
    · exact fun entry present =>
        have ⟨stage, _, read⟩ := exists_of_forall₂ decoded.flip present
        ⟨stage, read⟩
    · intro entry present other read
      obtain ⟨same, member, also⟩ := exists_of_forall₂ first.flip present
      cases read.symm.trans also
      exact before other member
    · rw [Nat.zero_add]

/-- What stands in the spec of a stage stands in the chain below the pointer to the spec. -/
theorem at?_specPointer {members : Members} {stage : StageSpec}
    (keyed : (Json.obj members).Keyed) (found : entries[index]? = some (.obj members))
    (held : Members.has "spec" members = true)
    (read : StageSpec.decode (.obj members) = .ok stage) :
    stage.spec.Keyed ∧
      ∀ place, (Json.arr entries).at? (specPointer index ++ place) = stage.spec.at? place := by
  obtain ⟨spec, own⟩ := Option.isSome_iff_exists.mp held
  have same : stage.spec = spec := by
    rw [StageSpec.decodeMembers_spec keyed.hasDistinctKeys read, own, Option.getD_some]
  refine ⟨same ▸ keyed.entry (Members.mem_of_get? own), fun place => ?_⟩
  change (Json.arr entries).at? (natText index :: "spec" :: place) = _
  rw [Json.at?, Json.step?_item, found, Option.bind_some, at?_member own, same]

/-- The error of a chain of objects with specs has a pointer that can be read back. It leads to
the first entry that is no stage, or else into the spec of the first stage that does not compile.
There it leads to a node, unless it is about an array position among the keys of a shift: then it
leads from the node with such a key to the canonical form of the position, which is there if it is
a key itself. -/
theorem compile_pinpoints {e : BuildError} (keyed : (Json.arr entries).Keyed)
    (staged : ∀ entry ∈ entries, ∃ members, entry = .obj members ∧
      Members.has "spec" members = true)
    (failed : compile options functions (.arr entries) = .error e) :
    Pointer.read? (Pointer.text e.path) = some e.path ∧
      ((∃ index fault, Undecoded entries index fault ∧ e.path = [natText index] ∧
          ((Json.arr entries).at? e.path).isSome) ∨
        ∃ index stage inner, Uncompiled options functions entries index stage inner ∧
          e = inner.within (specPointer index) ∧
          (Json.arr entries).at? (specPointer index) = some stage.spec ∧
          (e.fault ≠ .indexKey → ((Json.arr entries).at? e.path).isSome) ∧
          (e.fault = .indexKey → stage.operation = .shift ∧ ∃ parent members key element,
            inner.path = parent ++ [element.canonical] ∧
              stage.spec.at? parent = some (.obj members) ∧ Members.has key members = true ∧
              HasAlternative key element ∧ element.role = .index ∧
              (((Json.arr entries).at? e.path).isSome ↔
                Members.has element.canonical members = true))) := by
  refine ⟨Pointer.read?_text e.path, ?_⟩
  rcases compile_eq_error failed with ⟨index, fault, first, rfl⟩ | ⟨index, stage, inner, first, rfl⟩
  · obtain ⟨entry, found, -⟩ := first.refused
    refine .inl ⟨index, fault, first, rfl, ?_⟩
    rw [Json.at?_singleton, Json.step?_item, found]
    rfl
  · obtain ⟨entry, found, read⟩ := first.found
    have present := List.mem_of_getElem? found
    obtain ⟨members, rfl, held⟩ := staged entry present
    have own : (Json.obj members).Keyed := by
      cases keyed with
      | scalar plain => cases plain
      | array each => exact each _ present
    obtain ⟨keyed, inside⟩ := at?_specPointer own found held read
    refine .inr ⟨index, stage, inner, first, rfl, inside [], ?_⟩
    change (inner.fault ≠ .indexKey →
        ((Json.arr entries).at? (specPointer index ++ inner.path)).isSome) ∧
      (inner.fault = .indexKey → _)
    rw [inside]
    rcases Stage.compile_points keyed first.refused with located | ⟨shift, index, found⟩
    · obtain ⟨other, place, same, present⟩ := located
      exact ⟨fun _ => same ▸ present, fun index => absurd index other⟩
    · obtain ⟨parent, members, key, element, same, node, held, spells, -, position⟩ := found
      refine ⟨fun other => absurd index other, fun _ => ⟨shift, parent, members, key, element, same,
        node, held, spells, position, ?_⟩⟩
      change ((Json.arr entries).at? (specPointer _ ++ inner.path)).isSome ↔ _
      rw [inside, same, List.nil_append, Json.at?_append, node, Option.bind_some,
        Json.at?_singleton]
      rfl

/-- The spec of a chain of a shift with an array position as a key. -/
def positioned : List Json :=
  [.obj [("operation", .str "shift"), ("spec", .obj [("[&]", .str "x")])]]

/-- The pointer of the error leads to the canonical form of the key, which is not there. -/
theorem compile_pinpoints_position :
    compile .initial .empty (.arr positioned) =
        .error ⟨["0", "spec", "[&(0,0)]"], .indexKey⟩ ∧
      ((Json.arr positioned).at? ["0", "spec", "[&(0,0)]"]).isSome = false ∧
      ∃ index stage inner, Uncompiled .initial .empty positioned index stage inner ∧
        stage.operation = .shift := by
  have failed : compile .initial .empty (.arr positioned) =
      .error ⟨["0", "spec", "[&(0,0)]"], .indexKey⟩ := rfl
  have inner : (Json.obj [("[&]", .str "x")]).Keyed :=
    .object (by decide) (List.forall_mem_singleton.mpr (.scalar rfl))
  have entry : (Json.obj [("operation", .str "shift"), ("spec", .obj [("[&]", .str "x")])]).Keyed :=
    .object (by decide) (List.forall_mem_cons.mpr
      ⟨.scalar rfl, List.forall_mem_singleton.mpr inner⟩)
  have keyed : (Json.arr positioned).Keyed := .array (List.forall_mem_singleton.mpr entry)
  have staged : ∀ entry ∈ positioned, ∃ members, entry = .obj members ∧
      Members.has "spec" members = true := List.forall_mem_singleton.mpr ⟨_, rfl, rfl⟩
  obtain ⟨-, points⟩ := compile_pinpoints keyed staged failed
  refine ⟨failed, rfl, ?_⟩
  rcases points with ⟨index, fault, -, same, -⟩ | ⟨index, stage, inner, first, -, -, -, position⟩
  · cases (List.cons.inj same).2
  · exact ⟨index, stage, inner, first, (position rfl).1⟩

end Chain

end Reshape
