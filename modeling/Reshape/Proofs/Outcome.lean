import Mathlib.Data.List.Forall2
import Mathlib.Data.List.ReduceOption

namespace Reshape.Outcome

variable {ε α β : Type}

@[simp]
theorem ok_bind (a : α) (f : α → Except ε β) : (Except.ok a >>= f) = f a := rfl

@[simp]
theorem error_bind (e : ε) (f : α → Except ε β) : (Except.error e >>= f) = .error e := rfl

theorem bind_eq_ok {x : Except ε α} {f : α → Except ε β} {b : β} :
    (x >>= f) = .ok b ↔ ∃ a, x = .ok a ∧ f a = .ok b := by
  cases x with
  | error e => simp
  | ok a => simp

theorem bind_eq_error {x : Except ε α} {f : α → Except ε β} {e : ε} :
    (x >>= f) = .error e ↔ x = .error e ∨ ∃ a, x = .ok a ∧ f a = .error e := by
  cases x with
  | error e => simp
  | ok a => simp

/-- Two ways to go on agree if they do so on the result. -/
theorem bind_congr_of_ok {x : Except ε α} {f g : α → Except ε β}
    (same : ∀ a, x = .ok a → f a = g a) : (x >>= f) = (x >>= g) := by
  cases x with
  | error e => rfl
  | ok a => exact same a rfl

theorem map_eq_ok {x : Except ε α} {f : α → β} {b : β} :
    x.map f = .ok b ↔ ∃ a, x = .ok a ∧ f a = b := by
  cases x with
  | error e => simp [Except.map]
  | ok a => simp [Except.map]

theorem map_eq_error {x : Except ε α} {f : α → β} {e : ε} :
    x.map f = .error e ↔ x = .error e := by
  cases x with
  | error e => simp [Except.map]
  | ok a => simp [Except.map]

theorem map_bind {γ : Type} (x : Except ε α) (f : α → β) (g : β → Except ε γ) :
    (x.map f >>= g) = x >>= fun a => g (f a) := by
  cases x with
  | error e => rfl
  | ok a => rfl

theorem mapM_eq_ok {f : α → Except ε β} {xs : List α} {ys : List β} :
    xs.mapM f = .ok ys ↔ List.Forall₂ (fun x y => f x = .ok y) xs ys := by
  induction xs generalizing ys with
  | nil =>
    cases ys with
    | nil => exact ⟨fun _ => .nil, fun _ => rfl⟩
    | cons y ys =>
      constructor
      · intro read
        cases read
      · intro related
        cases related
  | cons x xs ih =>
    rw [List.mapM_cons, bind_eq_ok]
    constructor
    · rintro ⟨y, first, read⟩
      obtain ⟨more, rest, read⟩ := bind_eq_ok.mp read
      cases read
      exact .cons first (ih.mp rest)
    · intro related
      cases related with
      | cons first rest => exact ⟨_, first, bind_eq_ok.mpr ⟨_, ih.mpr rest, rfl⟩⟩

theorem exists_of_forall₂ {related : α → β → Prop} {xs : List α} {ys : List β}
    (each : List.Forall₂ related xs ys) {y : β} (present : y ∈ ys) : ∃ x ∈ xs, related x y := by
  induction each with
  | nil => cases present
  | @cons x first xs ys found rest ih =>
    rcases List.mem_cons.mp present with rfl | later
    · exact ⟨x, List.mem_cons_self, found⟩
    · obtain ⟨source, member, found⟩ := ih later
      exact ⟨source, List.mem_cons_of_mem x member, found⟩

theorem exists_of_mapM {f : α → Except ε β} {xs : List α} {ys : List β}
    (read : xs.mapM f = .ok ys) {y : β} (member : y ∈ ys) : ∃ x ∈ xs, f x = .ok y :=
  exists_of_forall₂ (mapM_eq_ok.mp read) member

theorem exists_of_mapM_eq_error {f : α → Except ε β} {xs : List α} {e : ε}
    (failed : xs.mapM f = .error e) : ∃ x ∈ xs, f x = .error e := by
  induction xs with
  | nil => cases failed
  | cons x rest ih =>
    rw [List.mapM_cons] at failed
    rcases bind_eq_error.mp failed with first | ⟨y, -, failed⟩
    · exact ⟨x, List.mem_cons_self, first⟩
    · rcases bind_eq_error.mp failed with later | ⟨ys, -, built⟩
      · obtain ⟨other, present, failed⟩ := ih later
        exact ⟨other, List.mem_cons_of_mem x present, failed⟩
      · cases built

theorem exists_mapM {f : α → Except ε β} {xs : List α} (each : ∀ x ∈ xs, ∃ y, f x = .ok y) :
    ∃ ys, xs.mapM f = .ok ys := by
  induction xs with
  | nil => exact ⟨[], rfl⟩
  | cons x rest ih =>
    obtain ⟨⟨y, first⟩, later⟩ := List.forall_mem_cons.mp each
    obtain ⟨ys, ran⟩ := ih later
    exact ⟨y :: ys, by rw [List.mapM_cons, first, ok_bind, ran]; rfl⟩

/-- Going through what is left of some entries, where each of them is told from the entry it
was left of. -/
theorem filterMapM_filterMap {γ : Type} {left : α → Option β}
    {step : β → Except ε (Option γ)} {result : α → Option γ} {xs : List α}
    (absent : ∀ x ∈ xs, left x = none → result x = none)
    (each : ∀ x ∈ xs, ∀ y, left x = some y → step y = .ok (result x)) :
    (xs.filterMap left).filterMapM step = .ok (xs.filterMap result) := by
  induction xs with
  | nil => rfl
  | cons x rest ih =>
    obtain ⟨none, absent⟩ := List.forall_mem_cons.mp absent
    obtain ⟨some, each⟩ := List.forall_mem_cons.mp each
    rw [List.filterMap_cons, List.filterMap_cons]
    cases found : left x with
    | none => rw [none found]; exact ih absent each
    | some y =>
      rw [List.filterMapM_cons, some y found, ih absent each]
      cases result x <;> rfl

theorem filterMapM_eq {γ : Type} {step : α → Except ε (Option γ)} {result : α → Option γ}
    {xs : List α} (each : ∀ x ∈ xs, step x = .ok (result x)) :
    xs.filterMapM step = .ok (xs.filterMap result) := by
  have all : (xs.filterMap some).filterMapM step = .ok (xs.filterMap result) := by
    refine filterMapM_filterMap (fun _ _ absent => nomatch absent) fun x present y same => ?_
    cases same
    exact each x present
  rwa [List.filterMap_some] at all

/-- Going through items and dropping those without a result is going through all of them. -/
theorem filterMapM_eq_map (f : α → Except ε (Option β)) (xs : List α) :
    xs.filterMapM f = (xs.mapM f).map List.reduceOption := by
  induction xs with
  | nil => rfl
  | cons x rest ih =>
    rw [List.filterMapM_cons, List.mapM_cons, ih]
    cases f x with
    | error e => rfl
    | ok found =>
      cases rest.mapM f with
      | error e => cases found <;> rfl
      | ok more => cases found <;> rfl

theorem filterMapM_some (f : α → Except ε β) (xs : List α) :
    xs.filterMapM (fun x => (f x).map some) = xs.mapM f := by
  induction xs with
  | nil => rfl
  | cons x rest ih =>
    rw [List.filterMapM_cons, List.mapM_cons, ih]
    cases f x with
    | error e => rfl
    | ok y => rfl

/-- Both computations fail, or both succeed with related results. -/
inductive Both (related : α → β → Prop) : Except ε α → Except ε β → Prop where
  | failed (e other : ε) : Both related (.error e) (.error other)
  | done {a : α} {b : β} (same : related a b) : Both related (.ok a) (.ok b)

namespace Both

variable {γ δ : Type} {related : α → β → Prop} {other : γ → δ → Prop}

theorem of_eq {related : α → α → Prop} (refl : ∀ a, related a a) {x y : Except ε α}
    (same : x = y) : Both related x y := by
  subst same
  cases x with
  | error e => exact .failed e e
  | ok a => exact .done (refl a)

theorem trans {first : α → β → Prop} {second : β → γ → Prop} {both : α → γ → Prop}
    (compose : ∀ {a b c}, first a b → second b c → both a c) {x : Except ε α} {y : Except ε β}
    {z : Except ε γ} (one : Both first x y) (two : Both second y z) : Both both x z := by
  cases one with
  | failed e other =>
    cases two with
    | failed other last => exact .failed e last
  | done same =>
    cases two with
    | done also => exact .done (compose same also)

theorem bind_of_ok {x : Except ε α} {y : Except ε β} {f : α → Except ε γ} {g : β → Except ε δ}
    (first : Both related x y) (later : ∀ {a b}, x = .ok a → related a b → Both other (f a) (g b)) :
    Both other (x >>= f) (y >>= g) := by
  cases first with
  | failed e last => exact .failed e last
  | done same => exact later rfl same

theorem bind {x : Except ε α} {y : Except ε β} {f : α → Except ε γ} {g : β → Except ε δ}
    (first : Both related x y) (later : ∀ {a b}, related a b → Both other (f a) (g b)) :
    Both other (x >>= f) (y >>= g) :=
  first.bind_of_ok fun _ => later

/-- After the same first step the second steps tell whether both fail. -/
theorem bind_same {x : Except ε α} {f : α → Except ε γ} {g : α → Except ε δ}
    (later : ∀ a, x = .ok a → Both other (f a) (g a)) : Both other (x >>= f) (x >>= g) := by
  cases x with
  | error e => exact .failed e e
  | ok a => exact later a rfl

theorem map_of_ok {x : Except ε α} {y : Except ε β} {f : α → γ} {g : β → δ}
    (first : Both related x y) (later : ∀ {a b}, x = .ok a → related a b → other (f a) (g b)) :
    Both other (x.map f) (y.map g) := by
  cases first with
  | failed e last => exact .failed e last
  | done same => exact .done (later rfl same)

theorem map {x : Except ε α} {y : Except ε β} {f : α → γ} {g : β → δ} (first : Both related x y)
    (later : ∀ {a b}, related a b → other (f a) (g b)) : Both other (x.map f) (y.map g) :=
  first.map_of_ok fun _ => later

theorem of_map {x : Except ε α} {y : Except ε β} {f : α → γ} {g : β → δ}
    (mapped : Both other (x.map f) (y.map g)) : Both (fun a b => other (f a) (g b)) x y := by
  cases x with
  | error e =>
    cases y with
    | error last => exact .failed e last
    | ok b => cases mapped
  | ok a =>
    cases y with
    | error last => cases mapped
    | ok b =>
      cases mapped with
      | done same => exact .done same

theorem mapM {xs : List γ} {f : γ → Except ε α} {g : γ → Except ε β}
    (each : ∀ x ∈ xs, Both related (f x) (g x)) :
    Both (List.Forall₂ related) (xs.mapM f) (xs.mapM g) := by
  induction xs with
  | nil => exact .done .nil
  | cons x rest ih =>
    obtain ⟨first, later⟩ := List.forall_mem_cons.mp each
    rw [List.mapM_cons, List.mapM_cons]
    exact first.bind fun same => (ih later).bind fun more => .done (.cons same more)

/-- What is related item by item has results that are. -/
theorem mapM_forall₂ {xs : List γ} {ys : List δ} {f : γ → Except ε α} {g : δ → Except ε β}
    (each : List.Forall₂ (fun x y => Both related (f x) (g y)) xs ys) :
    Both (List.Forall₂ related) (xs.mapM f) (ys.mapM g) := by
  induction each with
  | nil => exact .done .nil
  | cons first _ ih =>
    rw [List.mapM_cons, List.mapM_cons]
    exact first.bind fun same => ih.bind fun more => .done (.cons same more)

theorem imp {other : α → β → Prop} {x : Except ε α} {y : Except ε β} (both : Both related x y)
    (weaken : ∀ {a b}, x = .ok a → y = .ok b → related a b → other a b) : Both other x y := by
  cases both with
  | failed e last => exact .failed e last
  | done same => exact .done (weaken rfl rfl same)

theorem symm {reversed : β → α → Prop} {x : Except ε α} {y : Except ε β}
    (both : Both related x y) (reverse : ∀ {a b}, related a b → reversed b a) :
    Both reversed y x := by
  cases both with
  | failed e last => exact .failed last e
  | done same => exact .done (reverse same)

/-- Two choices by one condition are related if their branches are. -/
theorem ite {c : Prop} [Decidable c] {x x' : Except ε α} {y y' : Except ε β}
    (yes : c → Both related x y) (no : ¬c → Both related x' y') :
    Both related (if c then x else x') (if c then y else y') := by
  by_cases chosen : c
  · rw [if_pos chosen, if_pos chosen]
    exact yes chosen
  · rw [if_neg chosen, if_neg chosen]
    exact no chosen

/-- In another order a computation for each item fails where it did, and else has the same
results in that order. -/
theorem mapM_perm {xs ys : List γ} (same : xs.Perm ys) (f : γ → Except ε α) :
    Both List.Perm (xs.mapM f) (ys.mapM f) := by
  induction same with
  | nil => exact .done .nil
  | cons x rest ih =>
    rw [List.mapM_cons, List.mapM_cons]
    cases f x with
    | error e => exact .failed e e
    | ok a => exact ih.bind fun more => .done (more.cons a)
  | swap x y rest =>
    simp only [List.mapM_cons]
    cases f x with
    | error e =>
      cases f y with
      | error other => exact .failed other e
      | ok b => exact .failed e e
    | ok a =>
      cases f y with
      | error other => exact .failed other other
      | ok b =>
        cases rest.mapM f with
        | error e => exact .failed e e
        | ok more => exact .done (.swap a b more)
  | trans _ _ one two => exact one.trans (fun first second => first.trans second) two

theorem eq_trans {x y : Except ε α} {z : Except ε β} (one : Both Eq x y)
    (other : Both related y z) : Both related x z :=
  one.trans (fun same later => same ▸ later) other

theorem trans_eq {x : Except ε α} {y z : Except ε β}
    (one : Both related x y) (other : Both Eq z y) : Both related x z := by
  cases one with
  | failed e last =>
    cases other with
    | failed first last => exact .failed e first
  | done same =>
    cases other with
    | done also => exact .done (also ▸ same)

theorem map_eq {x y : Except ε α} (same : Both Eq x y) (f : α → β) :
    Both Eq (x.map f) (y.map f) :=
  same.map fun equal => congrArg f equal

theorem eq_ok_iff {x y : Except ε α} (both : Both Eq x y) (a : α) : x = .ok a ↔ y = .ok a := by
  cases both with
  | failed e other => exact ⟨nofun, nofun⟩
  | done same => rw [same]

/-- Two steps for each item are made item by item or step by step. -/
theorem mapM_bind (first : α → Except ε β) (second : β → Except ε γ) (xs : List α) :
    Both Eq (xs.mapM first >>= List.mapM second) (xs.mapM fun x => first x >>= second) := by
  induction xs with
  | nil => exact .done rfl
  | cons x rest ih =>
    simp only [List.mapM_cons]
    cases first x with
    | error e => exact .failed e e
    | ok y =>
      simp only [ok_bind]
      cases found : rest.mapM first with
      | error e =>
        rw [found, error_bind] at ih
        generalize (rest.mapM fun x => first x >>= second) = later at ih
        cases ih with
        | failed _ other =>
          cases second y with
          | error first => exact .failed e first
          | ok z => exact .failed e other
      | ok ys =>
        rw [found, ok_bind] at ih
        simp only [ok_bind, pure, Except.pure, List.mapM_cons]
        exact bind_same fun z _ => ih.bind fun same => .done (congrArg (z :: ·) same)

/-- Items in groups are gone through group by group. -/
theorem mapM_flatMap (f : β → Except ε γ) (group : α → List β) (xs : List α) :
    (xs.flatMap group).mapM f = (xs.mapM fun x => (group x).mapM f).map List.flatten := by
  induction xs with
  | nil => rfl
  | cons x rest ih =>
    rw [List.flatMap_cons, List.mapM_append, ih, List.mapM_cons]
    cases (group x).mapM f with
    | error e => rfl
    | ok ys =>
      cases rest.mapM fun x => (group x).mapM f with
      | error e => rfl
      | ok more => rfl

/-- Steps that are related lead from related states to related states. -/
theorem foldlM_forall₂ {ι κ : Type} {xs : List ι} {ys : List κ} {f : α → ι → Except ε α}
    {g : β → κ → Except ε β}
    (each : List.Forall₂ (fun x y => ∀ a b, related a b → Both related (f a x) (g b y)) xs ys)
    {a : α} {b : β} (start : related a b) : Both related (xs.foldlM f a) (ys.foldlM g b) := by
  induction each generalizing a b with
  | nil => exact .done start
  | cons first _ ih =>
    rw [List.foldlM_cons, List.foldlM_cons]
    exact (first a b start).bind ih

/-- Steps that are apart lead in any order to related states, if two of them that follow one
another can change places. -/
theorem foldlM_perm {ι : Type} {related : α → α → Prop} {apart : ι → ι → Prop}
    {f : α → ι → Except ε α} (trans : ∀ {a b c}, related a b → related b c → related a c)
    (symm : ∀ {x y}, apart x y → apart y x) {xs ys : List ι} (same : xs.Perm ys)
    (keeps : ∀ x ∈ xs, ∀ a b, related a b → Both related (f a x) (f b x))
    (swap : ∀ x ∈ xs, ∀ y ∈ xs, apart x y → ∀ a, related a a →
      Both related (f a x >>= (f · y)) (f a y >>= (f · x)))
    (pairwise : xs.Pairwise apart) {a : α} (start : related a a) :
    Both related (xs.foldlM f a) (ys.foldlM f a) := by
  induction same generalizing a with
  | nil => exact .done start
  | cons x same ih =>
    obtain ⟨-, rest⟩ := List.pairwise_cons.mp pairwise
    rw [List.foldlM_cons, List.foldlM_cons]
    refine bind_same fun b taken => ?_
    refine ih (fun y present => keeps y (List.mem_cons_of_mem x present))
      (fun y present z also => swap y (List.mem_cons_of_mem x present) z
        (List.mem_cons_of_mem x also)) rest ?_
    have kept := keeps x List.mem_cons_self a a start
    rw [taken] at kept
    cases kept with
    | done same => exact same
  | swap x y rest =>
    obtain ⟨between, -⟩ := List.pairwise_cons.mp pairwise
    have first : y ∈ y :: x :: rest := List.mem_cons_self
    have second : x ∈ y :: x :: rest := List.mem_cons_of_mem y List.mem_cons_self
    have swapped := swap y first x second (between x List.mem_cons_self) a start
    have later : List.Forall₂ (fun x y => ∀ a b, related a b → Both related (f a x) (f b y))
        rest rest := List.forall₂_same.mpr fun z present =>
      keeps z (List.mem_cons_of_mem y (List.mem_cons_of_mem x present))
    have ran := swapped.bind fun same => foldlM_forall₂ later same
    simpa only [List.foldlM_cons, bind_assoc] using ran
  | @trans xs zs ys one _ ihOne ihTwo =>
    have here {x : ι} (present : x ∈ zs) : x ∈ xs := one.mem_iff.mpr present
    have middle := ihTwo (fun x present => keeps x (here present))
      (fun x present y also => swap x (here present) y (here also))
      (one.pairwise pairwise symm) start
    refine Both.trans ?_ (ihOne keeps swap pairwise start) middle
    exact trans

end Both

end Reshape.Outcome
