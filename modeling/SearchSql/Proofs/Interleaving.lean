import SearchSql.Proofs.DirectForm

/-!
# What a template asks for

The scanner of templates asks for a filling at each placeholder. Whoever answers may have effects,
look at the output so far, add any text and still leave the placeholder as it is. All the same a run
is no more than one question for each number below the number of placeholders, in order, with the
pieces of the template between the answers.
-/

namespace SearchSql.Template

/-- The output followed by pieces of a template with the texts of fillings between them. -/
def woven (pieces : List (List Char)) (output : String) (fillings : List Filling) : String :=
  output ++ String.ofList (interleave pieces (fillings.map Filling.text))

/-- A character before the first piece may as well be at the end of the output. -/
theorem woven_push (c : Char) (piece : List Char) (pieces : List (List Char)) (output : String)
    (fillings : List Filling) :
    woven (piece :: pieces) (output.push c) fillings =
      woven ((c :: piece) :: pieces) output fillings := by
  apply String.toList_inj.mp
  simp [woven, interleave_cons_cons]

/-- The first filling may as well be at the end of the output if there is no text before it. -/
theorem woven_append (piece : List Char) (pieces : List (List Char)) (output : String)
    (filling : Filling) (fillings : List Filling) :
    woven (piece :: pieces) (output ++ filling.text) fillings =
      woven ([] :: piece :: pieces) output (filling :: fillings) := by
  apply String.toList_inj.mp
  simp [woven, interleave]

section Asking

variable {m : Type → Type} [Monad m]

/-- Asking for the next filling. What is shown is the output up to its placeholder. -/
def askNext (fill : Nat → String → m Filling) (pieces : List (List Char)) (output : String)
    (fillings : List Filling) (index : Nat) : m (List Filling) := do
  let filling ← fill index (woven (pieces.take (fillings.length + 1)) output fillings)
  pure (fillings ++ [filling])

/-- A way to fill placeholders that keeps a note of the numbers it is asked for. -/
def noting (fill : Nat → String → m Filling) (index : Nat) (output : String) :
    StateT (List Nat) m Filling := do
  modify (· ++ [index])
  fill index output

variable (fill : Nat → String → m Filling)

/-- A character before the first piece is shown with every question. -/
theorem askNext_push (c : Char) (piece : List Char) (pieces : List (List Char))
    (output : String) :
    askNext fill (piece :: pieces) (output.push c) =
      askNext fill ((c :: piece) :: pieces) output := by
  funext fillings index
  unfold askNext
  rw [List.take_succ_cons, List.take_succ_cons, woven_push]

variable [LawfulMonad m]

/-- The first question is asked once the text before the first placeholder is there. -/
theorem askNext_nil (pieces : List (List Char)) (output : String) (index : Nat) :
    askNext fill ([] :: pieces) output [] index =
      (fun filling => [filling]) <$> fill index output := by
  have hshown : woven [[]] output [] = output := by simp [woven, interleave]
  unfold askNext
  rw [List.length_nil, List.take_succ_cons, List.take_zero, hshown]
  exact (map_eq_pure_bind _ _).symm

/-- Behind the first filling a question is one of the rest of the template. -/
theorem askNext_cons (piece : List Char) (pieces : List (List Char)) (output : String)
    (filling : Filling) (fillings : List Filling) (index : Nat) :
    askNext fill ([] :: piece :: pieces) output (filling :: fillings) index =
      (filling :: ·) <$>
        askNext fill (piece :: pieces) (output ++ filling.text) fillings index := by
  unfold askNext
  rw [List.length_cons, List.take_succ_cons, List.take_succ_cons, woven_append, map_bind]
  simp

/-- Behind the first filling all questions are those of the rest of the template. -/
theorem foldlM_askNext_cons (piece : List Char) (pieces : List (List Char)) (output : String)
    (filling : Filling) (fillings : List Filling) (indices : List Nat) :
    indices.foldlM (askNext fill ([] :: piece :: pieces) output) (filling :: fillings) =
      (filling :: ·) <$>
        indices.foldlM (askNext fill (piece :: pieces) (output ++ filling.text)) fillings := by
  induction indices generalizing fillings with
  | nil => simp
  | cons index indices ih =>
    rw [List.foldlM_cons, List.foldlM_cons, askNext_cons, bind_map_left, map_bind]
    exact bind_congr fun answered => ih answered

/-- Scanning asks for one filling for each placeholder in order and puts them between the pieces. -/
theorem fillChars_eq_woven (cs : List Char) (index : Nat) (output : String) :
    fillChars fill cs index output =
      woven (Text.split placeholder cs) output <$>
        (List.range' index (cs.count placeholder)).foldlM
          (askNext fill (Text.split placeholder cs) output) [] := by
  induction cs generalizing index output with
  | nil => simp [fillChars, woven, Text.split, interleave]
  | cons c rest ih =>
    obtain ⟨piece, pieces, hpieces⟩ :=
      List.exists_cons_of_ne_nil (Text.split_ne_nil placeholder rest)
    by_cases hc : c = placeholder
    · have hsplit : Text.split placeholder (c :: rest) = [] :: piece :: pieces := by
        rw [Text.split, if_pos hc, hpieces]
      rw [fillChars, if_pos hc, hsplit, hc, List.count_cons_self, List.range'_succ,
        List.foldlM_cons, askNext_nil, bind_map_left, map_bind]
      -- The answer goes to the end of the output, and the questions to come start from there.
      refine bind_congr fun filling => ?_
      rw [ih, hpieces, foldlM_askNext_cons, Functor.map_map]
      congr 1
      funext fillings
      exact woven_append piece pieces output filling fillings
    · have hsplit : Text.split placeholder (c :: rest) = (c :: piece) :: pieces := by
        rw [Text.split, if_neg hc, hpieces]
      rw [fillChars, if_neg hc, ih, hpieces, hsplit, List.count_cons_of_ne hc, askNext_push]
      congr 1
      funext fillings
      exact woven_push c piece pieces output fillings

/-- The notes taken during a scan are the numbers of the placeholders, whatever the answers are. -/
theorem run_fillChars_noting (cs : List Char) (index : Nat) (output : String) (asked : List Nat) :
    (fillChars (noting fill) cs index output).run asked =
      (fun text => (text, asked ++ List.range' index (cs.count placeholder))) <$>
        fillChars fill cs index output := by
  induction cs generalizing index output asked with
  | nil => simp [fillChars]
  | cons c rest ih =>
    by_cases hc : c = placeholder
    · have hnoted (filling : Filling) :
          (fillChars (noting fill) rest (index + 1) (output ++ filling.text)).run
              (asked ++ [index]) =
            (fun text => (text, asked ++ List.range' index ((c :: rest).count placeholder))) <$>
              fillChars fill rest (index + 1) (output ++ filling.text) := by
        rw [ih, hc, List.count_cons_self, List.range'_succ, List.append_assoc,
          List.singleton_append]
      rw [fillChars, if_pos hc, fillChars, if_pos hc, map_bind]
      simp [noting, hnoted]
    · rw [fillChars, if_neg hc, fillChars, if_neg hc, ih, List.count_cons_of_ne hc]

/-- A scan without any answer copies the template. -/
theorem fillChars_unanswered (cs : List Char) (index : Nat) (output : String) :
    fillChars (fun _ _ => pure (Filling.ofOption none)) cs index output =
      (pure (output ++ String.ofList cs) : m String) := by
  induction cs generalizing index output with
  | nil => simp [fillChars]
  | cons c rest ih =>
    have hnext : output.push c ++ String.ofList rest = output ++ String.ofList (c :: rest) := by
      apply String.toList_inj.mp
      simp
    by_cases hc : c = placeholder
    · have hkept : output ++ (Filling.ofOption none).text = output.push c := by
        rw [hc]
        rfl
      rw [fillChars, if_pos hc, pure_bind, ih, hkept, hnext]
    · rw [fillChars, if_neg hc, ih, hnext]

/-- Filling a template puts what is answered between its pieces and never looks at it again. There
is one question for each number below the number of placeholders, in order, and with each of them
the output up to its placeholder is shown. A question is asked exactly if there is a placeholder,
and without any answer the template comes out as it is. -/
theorem fillOnto_eq_woven (template output : String) :
    fillOnto fill template output =
        woven (pieces template) output <$>
          (List.range (count template)).foldlM (askNext fill (pieces template) output) [] ∧
      (fillOnto (noting fill) template output).run [] =
        (fun text => (text, List.range (count template))) <$> fillOnto fill template output ∧
      (hasPlaceholder template = true ↔ List.range (count template) ≠ []) ∧
      fillOnto (fun _ _ => pure (Filling.ofOption none)) template output =
        (pure (output ++ template) : m String) := by
  refine ⟨?_, ?_, ?_, ?_⟩
  · rw [List.range_eq_range']
    exact fillChars_eq_woven fill template.toList 0 output
  · rw [List.range_eq_range']
    exact run_fillChars_noting fill template.toList 0 output []
  · rw [hasPlaceholder_iff, Ne, List.range_eq_nil, Nat.pos_iff_ne_zero]
  · rw [fillOnto, fillChars_unanswered, String.ofList_toList]

end Asking

/-- Whoever answers here repeats the output with a question mark behind it, counts the questions,
and leaves the second placeholder where it is, behind a text. The last two stand together. -/
theorem fillOnto_eq_woven_partly :
    let fill (index : Nat) (output : String) : StateM Nat Filling := do
      modify (· + 1)
      pure (if index = 1 then ⟨"é", false⟩ else ⟨output ++ "?", true⟩)
    ((fillOnto (noting fill) "?= ?ß??" "a").run []).run 5 =
      (("aa?= é?ßaa?= é?ß?aa?= é?ßaa?= é?ß??", [0, 1, 2, 3]), 9) := by
  intro fill
  rw [(fillOnto_eq_woven fill "?= ?ß??" "a").2.1]
  rfl

end SearchSql.Template
