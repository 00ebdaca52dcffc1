import Reshape.Proofs.Routes

/-! Writes that are skipped. A write changes the document on the way down, before it knows
whether the rest of the route can be taken. Once it has created a container everything below
it is new as well and takes the write, so that a write that is skipped created nothing. -/

namespace Reshape

namespace Route

/-- All keys of a route fit their steps. -/
def Fits (route : Route) : Prop :=
  ∀ step ∈ route, step.1.Fits step.2

/-- On the way along a route there is a value that is not null and not the container that the
next step goes through. A document that is null blocks a route at its start. -/
inductive Blocked : Route → Json → Prop where
  | start {kind : StepKind} {key : String} {rest : Route} {doc : Json}
      (refused : kind.accepts doc = false) : Blocked ((kind, key) :: rest) doc
  | further {kind : StepKind} {key : String} {rest : Route} {doc child : Json}
      (present : kind.child? key doc = some child) (held : child ≠ .null)
      (blocked : Blocked rest child) : Blocked ((kind, key) :: rest) doc

variable {policy : WritePolicy} {kind : StepKind} {key : String} {data doc : Json}
  {route : Route}

private theorem put_of_fits (accepted : kind.accepts doc = true) (fits : kind.Fits key)
    (data : Json) : (put kind key data doc).1 = true := by
  obtain ⟨out, written⟩ := StepKind.exists_putChild? accepted fits data
  rw [put, written]

theorem setLast_of_fits (accepted : kind.accepts doc = true) (fits : kind.Fits key) :
    (setLast policy kind key data doc).1 = true := by
  unfold setLast
  split
  · exact put_of_fits accepted fits data
  · exact put_of_fits accepted fits data
  · exact put_of_fits accepted fits data
  · rfl

private theorem setLast_refused (refused : kind.accepts doc = false) :
    setLast policy kind key data doc = (false, doc) := by
  have missing : kind.child? key doc = none := by
    by_contra found
    obtain ⟨value, present⟩ := Option.ne_none_iff_exists'.mp found
    exact absurd (StepKind.accepts_of_child? present) (Bool.not_eq_true _ ▸ refused)
  have unput : kind.putChild? key data doc = none := by
    cases kind <;> cases doc <;> first | rfl | cases refused
  cases policy <;> simp only [setLast, missing, put, unput]

/-- A container that is new takes the whole write. -/
theorem set_emptyContainer (kind : StepKind) (key : String) (rest : Route)
    (fits : Fits ((kind, key) :: rest)) :
    (set policy data ((kind, key) :: rest) kind.emptyContainer).1 = true := by
  have accepted := kind.emptyContainer_accepts
  obtain ⟨first, later⟩ := List.forall_mem_cons.mp fits
  induction rest generalizing kind key with
  | nil => exact setLast_of_fits accepted first
  | cons next rest ih =>
    rw [set_vacant_step policy data next rest (.inl (kind.child?_emptyContainer kind key))]
    obtain ⟨out, written⟩ := StepKind.exists_putChild? accepted first
      (set policy data (next :: rest) next.1.emptyContainer).2
    obtain ⟨second, further⟩ := List.forall_mem_cons.mp later
    rw [written]
    exact ih next.1 next.2 later next.1.emptyContainer_accepts second further

/-- A write is skipped at a value of the wrong kind alone, and leaves the document. -/
theorem set_skipped (fits : Fits route) (doc : Json)
    (skipped : (set policy data route doc).1 = false) :
    (set policy data route doc).2 = doc ∧ (route = [] ∨ Blocked route doc) := by
  induction route generalizing doc with
  | nil => exact ⟨rfl, .inl rfl⟩
  | cons step rest ih =>
    obtain ⟨kind, key⟩ := step
    obtain ⟨first, later⟩ := List.forall_mem_cons.mp fits
    cases rest with
    | nil =>
      cases accepted : kind.accepts doc with
      | true => exact absurd (setLast_of_fits accepted first) (Bool.eq_false_iff.mp skipped)
      | false =>
        have unchanged : set policy data [(kind, key)] doc = (false, doc) :=
          setLast_refused accepted
        exact ⟨congrArg Prod.snd unchanged, .inr (.start accepted)⟩
    | cons next rest =>
      rcases vacant_or_present kind key doc with vacant | ⟨child, present, held⟩
      · rw [set_vacant_step policy data next rest vacant] at skipped ⊢
        cases written : kind.putChild? key
            (set policy data (next :: rest) next.1.emptyContainer).2 doc with
        | some out =>
          rw [written] at skipped
          exact absurd (set_emptyContainer next.1 next.2 rest later) (Bool.eq_false_iff.mp skipped)
        | none =>
          refine ⟨rfl, .inr (.start (Bool.eq_false_iff.mpr fun accepted => ?_))⟩
          obtain ⟨out, found⟩ := StepKind.exists_putChild? accepted first
            (set policy data (next :: rest) next.1.emptyContainer).2
          exact nomatch found.symm.trans written
      · rw [set_present_step policy data next rest present held] at skipped ⊢
        obtain ⟨same, empty | blocked⟩ := ih later child skipped
        · cases empty
        · refine ⟨?_, .inr (.further present held blocked)⟩
          rw [same]
          exact StepKind.replaceChild_self present

end Route

namespace Traversal

variable {t : Traversal} {policy : WritePolicy} {keys : List String} {data doc out : Json}

private theorem fits_zip (fits : List.Forall₂ StepKind.Fits t keys) : Route.Fits (t.zip keys) := by
  intro step present
  exact (List.forall₂_iff_zip.mp fits).2 present

/-- A write that is skipped leaves no trace, whatever the policy: the document is what it was,
and what skipped the write is a value on the way that has the wrong kind. -/
theorem set_skipped_leaves (fits : List.Forall₂ StepKind.Fits t keys)
    (skipped : t.set policy keys data doc = .ok (false, out)) :
    out = doc ∧ (t = [] ∨ Route.Blocked (t.zip keys) doc) := by
  obtain ⟨route, taken, written⟩ := Outcome.map_eq_ok.mp skipped
  have count : keys.length = t.length := fits.length_eq.symm
  rw [Traversal.route, if_pos count] at taken
  cases taken
  obtain ⟨same, reason⟩ := Route.set_skipped (fits_zip fits) doc (congrArg Prod.fst written)
  refine ⟨(congrArg Prod.snd written).symm.trans same, reason.imp_left fun empty => ?_⟩
  rcases List.zip_eq_nil_iff.mp empty with none | none
  · exact none
  · exact List.length_eq_zero_iff.mp (count.symm.trans (congrArg List.length none))

/-- An object where an array is expected skips the write. -/
theorem set_skipped_leaves_object :
    let t : Traversal := [.member, .item]
    let doc : Json := .obj [("a", .obj [("not", .str "a list")])]
    List.Forall₂ StepKind.Fits t ["a", "0"] ∧
      t.set .collect ["a", "0"] .null doc = .ok (false, doc) ∧
      Route.Blocked (t.zip ["a", "0"]) doc := by
  intro t doc
  have fits : List.Forall₂ StepKind.Fits t ["a", "0"] :=
    .cons trivial (.cons ⟨0, Nat.zero_le _, rfl⟩ .nil)
  have skipped : t.set .collect ["a", "0"] .null doc = .ok (false, doc) := rfl
  exact ⟨fits, skipped, (set_skipped_leaves fits skipped).2.resolve_left nofun⟩

end Traversal

end Reshape
