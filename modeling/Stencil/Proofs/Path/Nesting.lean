import Stencil.Proofs.Path.AsExpression
/-!
# Paths that nest too deeply

Every key in brackets takes a level of nesting, so a path with more levels than an expression may
have is refused as too deep. With what is read of the others this tells exactly which paths a
template takes: those whose levels fit.
-/

namespace Stencil

open Text

namespace Expr.Parser

open Lexeme Grammar

variable {source : Source} {rest : List Char}

/-- A root name with its steps fails where the steps do. -/
theorem readUnary_root_of_failure (root : RootName) (given : List SharedStep) {levels : Nat}
    {failure : Failure} (boundary : Boundary rest)
    (failed : steps (ofLevels source levels).pipeline (SharedStep.texts given ++ rest).length
      (SharedStep.texts given ++ rest) = .error failure) :
    readUnary source (inner source levels) (root.text ++ (SharedStep.texts given ++ rest)) =
      .error failure := by
  have stops : Stops continuesName (SharedStep.texts given ++ rest) :=
    SharedStep.texts_stops rfl rfl (boundary.stops (by decide)) given
  have name := name?_identifier root.toIdentifier stops
  have noCall := SharedStep.symbol?_bracket given boundary
  rw [pipeline_ofLevels] at failed
  refine readUnary_of_failure (root.text_stops _).dropWhile_eq_self
    (unaryOp?_identifier root.toIdentifier _) ?_
  rw [primary_identifier]
  simp only [named, require_of_some name, bind, Except.bind, if_neg root.notTrue,
    if_neg root.notFalse, if_neg root.notNull, noCall, failed]

mutual

/-- A key fails as too deep if its levels do not fit into those that are left. -/
theorem readUnary_tooDeep (source : Source) (key : SharedKey) (levels : Nat) {rest : List Char}
    (deep : levels + 1 < key.levels) (boundary : Boundary rest) : ∃ left,
      readUnary source (inner source levels) (key.text ++ rest) = .error (.tooDeep left) := by
  cases key with
  | position digits =>
      simp only [SharedKey.levels] at deep
      omega
  | quoted quoted =>
      simp only [SharedKey.levels] at deep
      omega
  | path root given =>
      simp only [SharedKey.levels] at deep
      have room : given.length ≤ (SharedStep.texts given ++ rest).length := by
        have least := SharedStep.length_texts given
        simp only [List.length_append]
        omega
      rcases steps_tooDeep source given levels _ (by omega) room boundary with ⟨left, failed⟩
      refine ⟨left, ?_⟩
      have read := readUnary_root_of_failure root given boundary failed
      simpa [SharedKey.text] using read

/-- Steps fail at the first of them whose levels do not fit. -/
theorem steps_tooDeep (source : Source) (given : List SharedStep) (levels fuel : Nat)
    {rest : List Char} (deep : levels < SharedStep.deepest given) (room : given.length ≤ fuel)
    (boundary : Boundary rest) : ∃ left,
      steps (ofLevels source levels).pipeline fuel (SharedStep.texts given ++ rest) =
        .error (.tooDeep left) := by
  cases given with
  | nil => cases deep
  | cons step others =>
      rcases Nat.exists_eq_add_one.mpr (Nat.zero_lt_of_lt room) with ⟨fuel, rfl⟩
      cases step with
      | property name =>
          have stops : Stops continuesName (SharedStep.texts others ++ rest) :=
            SharedStep.texts_stops rfl rfl (boundary.stops (by decide)) others
          have deepLater : levels < SharedStep.deepest others := by
            simpa [SharedStep.deepest, SharedStep.levels] using deep
          rcases steps_tooDeep source others levels fuel deepLater (by simpa using room) boundary
            with ⟨left, failed⟩
          have read := steps_property (ofLevels source levels).pipeline fuel name stops
            (SharedStep.symbol?_bracket others boundary)
          simp only [failed, bind, Except.bind] at read
          refine ⟨left, ?_⟩
          simpa [SharedStep.texts, SharedStep.text] using read
      | bracket before key after =>
          have closing : Boundary (after.text ++ ']' :: (SharedStep.texts others ++ rest)) :=
            .closing after _ (.inl rfl)
          have text : SharedStep.texts (.bracket before key after :: others) ++ rest =
              '[' :: (before.text ++ (key.text ++ (after.text ++ ']' ::
                (SharedStep.texts others ++ rest)))) := by
            simp [SharedStep.texts, SharedStep.text]
          have read := steps_bracket (ofLevels source levels).pipeline fuel (before.text ++
            (key.text ++ (after.text ++ ']' :: (SharedStep.texts others ++ rest))))
          rw [text]
          by_cases fits : key.levels ≤ levels
          · have deepLater : levels < SharedStep.deepest others := by
              simp only [SharedStep.deepest, SharedStep.levels] at deep
              omega
            rcases steps_tooDeep source others levels fuel deepLater (by simpa using room) boundary
              with ⟨left, failed⟩
            rcases Nat.exists_eq_add_one.mpr (Nat.lt_of_lt_of_le key.levels_pos fits) with
              ⟨fewer, rfl⟩
            rcases readUnary_key source key fewer fits closing with ⟨expr, inside, _⟩
            have closed : expect "]" (after.text ++ ']' :: (SharedStep.texts others ++ rest)) =
                .ok (SharedStep.texts others ++ rest) := expect_gap after rfl rfl
            simp only [pipeline_key before after key inside, closed, failed, bind,
              Except.bind] at read
            exact ⟨left, read⟩
          · cases levels with
            | zero =>
                simp only [pipeline_zero, bind, Except.bind] at read
                exact ⟨_, read⟩
            | succ fewer =>
                rcases readUnary_tooDeep source key fewer (by omega) closing with ⟨left, failed⟩
                simp only [pipeline_of_failure (key.trimStart_text before _) failed, bind,
                  Except.bind] at read
                exact ⟨left, read⟩

end

end Expr.Parser

/-- A path whose levels do not fit is refused as too deep, whatever filters follow it. -/
theorem parseExpression_shared_of_deep (query : SharedQuery) (origin : Position)
    (deep : Expr.maxLevels < query.path.levels) : ∃ span,
      parseExpression query.text origin = .error ⟨.expressionTooDeep Expr.maxLevels, span⟩ := by
  have boundary := SharedFilter.texts_boundary (.blank query.trailing) query.filters
  rcases Expr.Parser.readUnary_tooDeep (Expr.Parser.Source.ofText origin query.text.toList)
    query.path 63 deep boundary with ⟨left, failed⟩
  have whole := Expr.Parser.Grammar.pipeline_of_failure query.trimStart_text failed
  have nonempty : (trim query.text.toList).isEmpty = false := by
    rw [query.trim_text]
    rfl
  exact ⟨_, Expr.Parser.parse_of_failure nonempty whole⟩

end Stencil
