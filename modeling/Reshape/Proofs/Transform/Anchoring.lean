import Reshape.Proofs.Regex.Enclosed
import Reshape.Proofs.Regex.Semantics
import Reshape.Transform.Filter

namespace Reshape.Transform.Filter

open Regex Regex.Reader Outcome

theorem toList_anchored (source : String) :
    (anchored source).toList = '^' :: '(' :: '?' :: ':' :: (source.toList ++ closing) := by
  simp [anchored, closing]

/-- The group around the one for the expression, when that one is open: a match starts at the
start of the text. -/
def aroundSource : OpenGroup :=
  ⟨.initial, false, [], [⟨.look .textStart false, 0, true⟩]⟩

/-- The reader at the start of an expression. -/
def atSource : Reader :=
  ⟨⟨.initial, false, [], []⟩, [], []⟩

/-- The start of the whole expression leads to the expression of the spec. -/
theorem run_anchored (fuel : Nat) (cs : List Char) :
    run (fuel + 2) atSource ('^' :: '(' :: '?' :: ':' :: cs) =
      run fuel (atSource.within aroundSource) cs :=
  rfl

/-- The whole expression is deeper than what stands in its group. -/
theorem height_lt_body (g : OpenGroup) (last : Part) :
    g.body.height < ((aroundSource.add g.close).add last).body.height := by
  change g.body.height < 1 + max (max (max 0 0) (g.body.height + 1)) last.height
  omega

private theorem readExpression_anchored {source : String} {whole : Pattern}
    (done : readExpression (anchored source) = .ok whole) :
    readExpression source = .error .unopenedGroup ∨
      ∃ p q, readExpression source = .ok p ∧ (q = p ∨ q = .group p) ∧
        whole = sequence [.look .textStart false, q, .look .textEnd false] := by
  obtain ⟨part, parts, done⟩ := bind_eq_ok.mp done
  rw [toList_anchored] at parts
  change run ((source.toList ++ closing).length + 3 + 2) atSource _ = _ at parts
  rw [run_anchored] at parts
  have alone : readExpression source = run (source.toList.length + 1) atSource source.toList >>=
      fun part => if nestLimit < part.height then .error .nesting else .ok part.pattern := rfl
  rcases run_within (Nat.lt_succ_self source.toList.length) parts with unopened | ⟨g, read, rfl⟩
  · exact .inl (by rw [alone, unopened]; rfl)
  · split at done
    · cases done
    · rename_i shallow
      have deeper := height_lt_body g ⟨dollar aroundSource.flags, 0, true⟩
      cases done
      refine .inr ⟨g.body.pattern, g.close.pattern, ?_, ?_, rfl⟩
      · rw [alone, read, ok_bind, if_neg (by omega)]
      · rw [OpenGroup.close]
        dsimp only
        split
        · exact .inr rfl
        · exact .inl rfl

namespace Matcher

theorem compile_str_eq_ok {path : Pointer} {source : String} {m : Matcher} :
    compile path (.str source) = .ok m ↔
      ∃ whole, readExpression (anchored source) = .ok whole ∧
        Automaton.bytes whole ≤ sizeLimit ∧ m = .regex whole := by
  rw [compile, ofPattern, parse]
  cases readExpression (anchored source) with
  | error fault => simp
  | ok whole =>
    by_cases large : sizeLimit < Automaton.bytes whole
    · simp [large, Nat.not_le.mpr large]
    · simp [large, Nat.not_lt.mp large, eq_comm]

/-- An accepted expression is one on its own, and a text matches if the expression spans all of
it, exactly where no parenthesis of it closes the group that is put around it. -/
theorem compile_anchored {path : Pointer} {source : String} {m : Matcher}
    (accepted : compile path (.str source) = .ok m) :
    readExpression source ≠ .error .unopenedGroup ↔
      ∃ p, readExpression source = .ok p ∧
        ∀ text : String, m.accepts (.str text) = true ↔
          p.Spans text.toList.toArray 0 text.length := by
  obtain ⟨whole, read, -, rfl⟩ := compile_str_eq_ok.mp accepted
  rcases readExpression_anchored read with unopened | ⟨p, q, alone, same, rfl⟩
  · rw [unopened]
    simp
  · refine iff_of_true (by simp [alone]) ⟨p, alone, fun text => ?_⟩
    rw [accepts, show subject? (.str text) = some text from rfl]
    rcases same with rfl | rfl
    · exact q.isMatch_whole text
    · exact (Pattern.group p).isMatch_whole text

theorem compile_anchored_alternatives :
    ∃ m, compile [] (.str "a|bc") = .ok m ∧
      (readExpression "a|bc" ≠ .error .unopenedGroup ↔
        ∃ p, readExpression "a|bc" = .ok p ∧
          ∀ text : String, m.accepts (.str text) = true ↔
            p.Spans text.toList.toArray 0 text.length) :=
  have accepted := compile_str_eq_ok.mpr ⟨_, rfl, by decide +kernel, rfl⟩
  ⟨_, accepted, compile_anchored accepted⟩

end Matcher

end Reshape.Transform.Filter
