import SearchSql.Proofs.Accepted
import SearchSql.Proofs.Filling
import SearchSql.Proofs.Reading.Value

/-!
# Blank conditions

The checks of statements count conditions and do not look at their text. Whatever is written
between quotes, as a number, as an operator or between two conditions has a character that is not
blank. What remains is SQL that a caller gives as it is: a condition all of whose text comes from
there can be blank, and only if it stands alone.

The argument is the same for texts without any character, so it is made for every class of blank
characters.
-/

namespace SearchSql

/-- A quoted name begins with a character that is not blank, a backquote or the star that stands
for all columns. -/
theorem QuoteSettings.exists_mem_quoteIdentifier {settings : QuoteSettings}
    (hquote : settings.quoteIdentifiers = true) (name : String) :
    ∃ c ∈ (settings.quoteIdentifier name).toList, Text.isBlank c = false := by
  have hsegment (segment : List Char) :
      ∃ c ∈ quoteSegment segment, Text.isBlank c = false := by
    unfold quoteSegment
    split
    · exact ⟨'*', List.mem_cons_self, by decide⟩
    · exact ⟨'\x60', List.mem_cons_self, by decide⟩
  obtain ⟨first, segments, hsplit⟩ :=
    List.exists_cons_of_ne_nil (Text.split_ne_nil '.' name.toList)
  obtain ⟨c, hmem, hc⟩ := hsegment first
  refine ⟨c, ?_, hc⟩
  unfold quoteIdentifier
  rw [if_pos hquote, String.toList_ofList, hsplit]
  cases segments with
  | nil => exact hmem
  | cons second segments => exact List.mem_append_left _ hmem

/-- Every value is written with a character that is not blank. -/
theorem QuoteSettings.exists_mem_quoteValue (settings : QuoteSettings) (value : Value) :
    ∃ c ∈ (settings.quoter.quoteValue value none).toList, Text.isBlank c = false := by
  have hwrites : Reading.WritesValue settings value.normal
      (settings.quoter.quoteValue value none).toList := Reading.writesValue_untyped settings value
  generalize value.normal = left, (settings.quoter.quoteValue value none).toList = cs at hwrites
  cases hwrites with
  | null => exact ⟨'N', List.mem_cons_self, by decide⟩
  | number htext =>
    obtain ⟨c, hmem⟩ := List.exists_mem_of_ne_nil _ htext.ne_nil
    refine ⟨c, hmem, ?_⟩
    rcases htext.mem hmem with hdigit | rfl | rfl
    · exact Text.isBlank_eq_false_of_isDigit hdigit
    · decide
    · decide
  | text content => exact ⟨'\'', by simp [quoteString], by decide⟩
  | empty => exact ⟨'(', List.mem_cons_self, by decide⟩
  | list _ => exact ⟨'(', List.mem_cons_self, by decide⟩

/-! ## Text of one class of characters -/

section Class

variable {p : Char → Bool}

/-- A filled template has characters of a class only if what stands between its placeholders has,
and each placeholder is filled with such text. -/
theorem Template.all_filled_iff (hplaceholder : p placeholder = false)
    (texts : Nat → Option String) (cs : List Char) (index : Nat) :
    (filled texts cs index).all p = true ↔
      (∀ c ∈ cs, p c = true ∨ c = placeholder) ∧
        ∀ i < cs.count placeholder, ∃ text, texts (index + i) = some text ∧
          text.toList.all p = true := by
  induction cs generalizing index with
  | nil => simp [filled]
  | cons c rest ih =>
    rw [filled, List.forall_mem_cons]
    by_cases hc : c = placeholder
    · have hfilling : (Filling.ofOption (texts index)).text.toList.all p = true ↔
          ∃ text, texts index = some text ∧ text.toList.all p = true := by
        cases texts index with
        | none => simp [Filling.ofOption, Filling.text, hplaceholder]
        | some text => simp [Filling.ofOption, Filling.text]
      rw [if_pos hc, List.all_append, Bool.and_eq_true, hfilling, ih, hc, List.count_cons_self,
        Nat.forall_lt_succ_left]
      simp only [Nat.add_zero, Nat.add_comm, Nat.add_left_comm, or_true, true_and]
      tauto
    · rw [if_neg hc, List.all_cons, Bool.and_eq_true, ih, List.count_cons_of_ne (by simpa using hc)]
      simp only [hc, or_false, and_assoc]

variable (p) (settings : QuoteSettings)

/-- The parameter at an index is written as plain text, because the fragment bypasses quoting or
because it is a name and names are not quoted. -/
def Fragment.LeavesBare (fragment : Fragment) (index : Nat) : Prop :=
  fragment.bypassesQuoting = true ∨
    (settings.quoteIdentifiers = false ∧ fragment.kinds[index]? = some .identifier)

/-- The fragment writes nothing but characters of a class, and all of them are given by the
caller. -/
structure Fragment.WritesOnly (fragment : Fragment) : Prop where
  /-- The template has only such characters and the placeholders of parameters. -/
  template : ∀ c ∈ fragment.template.toList,
    p c = true ∨ (fragment.parameters ≠ [] ∧ c = Template.placeholder)
  /-- Each placeholder has a parameter that is written as plain text of such characters. -/
  parameters : fragment.parameters ≠ [] → ∀ index < Template.count fragment.template,
    ∃ value, fragment.parameters[index]? = some value ∧ fragment.LeavesBare settings index ∧
      value.plain.toList.all p = true

/-- The conjunction is one condition that writes nothing but characters of a class, all of them
given by the caller. -/
def Conjunction.IsVerbatim (conjunction : Conjunction) : Prop :=
  ∃ condition, conjunction.conditions = [condition] ∧
    condition.form ∈ [.raw, .literal, .extension] ∧ condition.fragment.WritesOnly p settings

variable {p} (hp : ∀ c, p c = true → Text.isBlank c = true)

include hp

/-- A character that is not blank is not in the class. -/
theorem Text.class_eq_false {c : Char} (hc : isBlank c = false) : p c = false :=
  Bool.eq_false_iff.mpr fun hclass => Bool.false_ne_true (hc.symm.trans (hp c hclass))

/-- A text with a character that is not blank is not of the class. -/
theorem Text.not_all_of_mem {cs : List Char} {c : Char} (hmem : c ∈ cs)
    (hc : isBlank c = false) : ¬cs.all p = true := by
  intro hall
  have hclass := List.all_eq_true.mp hall c hmem
  exact Bool.false_ne_true ((class_eq_false hp hc).symm.trans hclass)

/-- A parameter has characters of the class only if it is written as plain text. -/
theorem Fragment.all_parameterSql_iff (fragment : Fragment) (index : Nat) (value : Value) :
    (fragment.parameterSql settings.quoter index value).toList.all p = true ↔
      fragment.LeavesBare settings index ∧ value.plain.toList.all p = true := by
  unfold parameterSql LeavesBare
  by_cases hbypass : fragment.bypassesQuoting = true
  · simp [hbypass]
  · obtain ⟨c, hmem, hc⟩ := settings.exists_mem_quoteValue value
    have hvalue := Text.not_all_of_mem hp hmem hc
    rw [if_neg hbypass]
    match hkind : fragment.kinds[index]? with
    | none => simp [hbypass, hvalue]
    | some .value => simp [hbypass, hvalue]
    | some .identifier =>
      cases hquote : settings.quoteIdentifiers with
      | false =>
        have hplain : settings.quoter.quoteIdentifier value.plain = value.plain := by
          simp [QuoteSettings.quoter, QuoteSettings.quoteIdentifier, hquote]
        simp [hplain]
      | true =>
        obtain ⟨d, hmem, hd⟩ := QuoteSettings.exists_mem_quoteIdentifier hquote value.plain
        have hname : ¬(settings.quoter.quoteIdentifier value.plain).toList.all p = true :=
          Text.not_all_of_mem hp hmem hd
        simpa [hbypass] using hname

/-- The text of a fragment has only characters of the class exactly when all of it is given by the
caller and has. -/
theorem Fragment.all_sql_iff (fragment : Fragment) :
    (fragment.sql settings.quoter).toList.all p = true ↔ fragment.WritesOnly p settings := by
  have hplaceholder : p Template.placeholder = false := Text.class_eq_false hp (by decide)
  by_cases hparameters : fragment.parameters = []
  · have hsql : fragment.sql settings.quoter = fragment.template := by
      simp [sql, hparameters]
    rw [hsql, List.all_eq_true]
    constructor
    · intro h
      exact ⟨fun c hc => .inl (h c hc), fun hne => absurd hparameters hne⟩
    · intro h c hc
      exact (h.template c hc).resolve_right fun hright => hright.1 hparameters
  · rw [toList_sql _ hparameters, Template.all_filled_iff hplaceholder]
    have hfill (index : Nat) :
        (∃ text, (fragment.parameters[0 + index]?).map
            (fragment.parameterSql settings.quoter (0 + index)) = some text ∧
          text.toList.all p = true) ↔
        ∃ value, fragment.parameters[index]? = some value ∧
          fragment.LeavesBare settings index ∧ value.plain.toList.all p = true := by
      rw [Nat.zero_add]
      cases fragment.parameters[index]? with
      | none => simp
      | some value => simpa using fragment.all_parameterSql_iff settings hp index value
    simp only [hfill]
    constructor
    · rintro ⟨htemplate, hvalues⟩
      exact ⟨fun c hc => (htemplate c hc).imp_right fun heq => ⟨hparameters, heq⟩,
        fun _ => hvalues⟩
    · intro h
      exact ⟨fun c hc => (h.template c hc).imp_right And.right, h.parameters hparameters⟩

/-- Only templates, plain SQL and conditions of a caller's own can be without any character of
their own. -/
theorem Condition.form_of_writesOnly {condition : Condition}
    (h : condition.fragment.WritesOnly p settings) :
    condition.form ∈ [.raw, .literal, .extension] := by
  -- Each other form has a character in its template that is neither blank nor a placeholder.
  have hnot {c : Char} (hblank : Text.isBlank c = false) (hne : c ≠ Template.placeholder)
      (hmem : c ∈ condition.fragment.template.toList) : False := by
    rcases h.template c hmem with hc | ⟨_, hc⟩
    · exact Bool.false_ne_true ((Text.class_eq_false hp hblank).symm.trans hc)
    · exact hne hc
  cases condition with
  | raw _ _ _ | literal _ | extension _ => simp [form]
  | comparison left operator right leftKind rightKind =>
    exfalso
    obtain ⟨c, hmem, hblank, hne⟩ : ∃ c ∈ operator.symbol.toList,
        Text.isBlank c = false ∧ c ≠ Template.placeholder := by
      cases operator <;> exact ⟨_, List.mem_cons_self, by decide, by decide⟩
    exact hnot hblank hne (by simp [fragment, hmem])
  | between _ _ _ => exact (@hnot 'B' (by decide) (by decide) (by simp [fragment])).elim
  | member _ _ => exact (@hnot 'I' (by decide) (by decide) (by simp [fragment])).elim
  | notMember _ _ => exact (@hnot 'N' (by decide) (by decide) (by simp [fragment])).elim
  | fullText _ => exact (@hnot 'M' (by decide) (by decide) (by simp [fragment])).elim

/-- The text of a conjunction has only characters of the class exactly when there is no condition,
or a single one of which the caller gave all the text. -/
theorem Conjunction.all_sql_iff (conjunction : Conjunction) :
    (conjunction.sql settings.quoter).toList.all p = true ↔
      conjunction.conditions = [] ∨ conjunction.IsVerbatim p settings := by
  obtain ⟨conditions⟩ := conjunction
  unfold sql
  match conditions with
  | [] => simp
  | [condition] =>
    have hsql := condition.fragment.all_sql_iff settings hp
    constructor
    · intro h
      have honly := hsql.mp h
      exact .inr ⟨condition, rfl, Condition.form_of_writesOnly settings hp honly, honly⟩
    · rintro (hnil | ⟨given, heq, _, honly⟩)
      · cases hnil
      · obtain rfl := List.singleton_inj.mp heq
        exact hsql.mpr honly
  | first :: second :: rest =>
    have hmem : 'A' ∈ (separator.intercalate
        ((first :: second :: rest).map (Condition.sql settings.quoter))).toList := by
      simp [separator]
    constructor
    · intro h
      exact absurd h (Text.not_all_of_mem hp hmem (by decide))
    · rintro (hnil | ⟨condition, hsingle, _⟩)
      · cases hnil
      · cases hsingle

end Class

/-! ## Statements -/

/-- The part stands somewhere in the text. -/
def Text.Within (part text : String) : Prop :=
  ∃ before after, text = before ++ part ++ after

/-- A part stands at the end of what is written before it. -/
theorem Text.within_append (before part : String) : Within part (before ++ part) :=
  ⟨before, "", (String.append_empty).symm⟩

/-- A part stays where it is when more is written. -/
theorem Text.Within.append {part text : String} (h : Within part text) (more : String) :
    Within part (text ++ more) := by
  obtain ⟨before, after, rfl⟩ := h
  exact ⟨before, after ++ more, String.append_assoc⟩

namespace Statement

/-- The clauses that statements of a kind can have, each with its keyword. -/
def clauses : Statement → List (String × Clause)
  | .select given => [(" WHERE ", given.filter), (" HAVING ", given.having)]
  | .insert _ => []
  | .update given => [(" WHERE ", given.filter)]
  | .delete given => [(" WHERE ", given.filter)]

variable {statement : Statement} {keyword : String} {clause : Clause}

/-- Only a search passes its check without a condition. -/
theorem keyword_eq_select_of_isEmpty (hvalid : statement.validate = .ok ())
    (hclause : (keyword, clause) ∈ statement.clauses) (hempty : clause.isEmpty = true) :
    statement.keyword = .select := by
  have hnil : clause.conjunction.conditions = [] := List.isEmpty_iff.mp hempty
  cases statement with
  | select given => rfl
  | insert given => cases hclause
  | update given =>
    obtain ⟨_, rfl⟩ := Prod.mk.inj (List.mem_singleton.mp hclause)
    exact absurd hnil (Update.validate_eq_ok_iff.mp hvalid).2
  | delete given =>
    obtain ⟨_, rfl⟩ := Prod.mk.inj (List.mem_singleton.mp hclause)
    exact absurd hnil (Delete.validate_eq_ok_iff.mp hvalid)

/-- A clause of a statement that passes its check is written after its keyword, or not at all if
it has no condition. -/
theorem within_sql (quoter : Quoter) (hvalid : statement.validate = .ok ())
    (hclause : (keyword, clause) ∈ statement.clauses) :
    Text.Within (clause.sqlAfter keyword quoter) (statement.sql quoter) := by
  cases statement with
  | select given =>
    unfold sql Select.sql
    rcases List.mem_pair.mp hclause with heq | heq <;> obtain ⟨rfl, rfl⟩ := Prod.mk.inj heq
    · iterate 6 refine Text.Within.append ?_ _
      exact Text.within_append _ _
    · iterate 3 refine Text.Within.append ?_ _
      exact Text.within_append _ _
  | insert given => cases hclause
  | update given =>
    obtain ⟨rfl, rfl⟩ := Prod.mk.inj (List.mem_singleton.mp hclause)
    exact (Text.within_append _ _).append _
  | delete given =>
    -- The keyword is written without looking at the condition, but the check has looked at it.
    have hwritten : ¬clause.isEmpty = true := fun hempty => by
      cases keyword_eq_select_of_isEmpty hvalid hclause hempty
    obtain ⟨rfl, rfl⟩ := Prod.mk.inj (List.mem_singleton.mp hclause)
    change Text.Within _ (Delete.sql quoter given)
    unfold Delete.sql Clause.sqlAfter
    rw [if_neg hwritten, String.append_assoc]
    exact Text.within_append _ _

end Statement

/-- A condition that an accepted statement writes after WHERE or HAVING is blank exactly when it is
a single one that writes nothing but blanks, all of them given by the caller as they are; an
accepted change or removal has a condition. The text of a conjunction is empty exactly when it has
no condition, or a single one of which the caller gave no text. -/
theorem Statement.isBlankText_sql_iff_of_toSql_eq (settings : QuoteSettings) {statement : Statement}
    {text : String} (htext : statement.toSql settings.quoter = .ok text) :
    (∀ keyword clause, (keyword, clause) ∈ statement.clauses →
      Text.Within (clause.sqlAfter keyword settings.quoter) text ∧
      (clause.isEmpty = true → statement.keyword = .select) ∧
      (clause.isEmpty = false →
        (Text.isBlankText (clause.sql settings.quoter) = true ↔
          clause.conjunction.IsVerbatim Text.isBlank settings))) ∧
    ∀ conjunction : Conjunction, conjunction.sql settings.quoter = "" ↔
      conjunction.conditions = [] ∨ conjunction.IsVerbatim (fun _ => false) settings := by
  obtain ⟨_, hvalid, rfl⟩ := finishSql_eq_ok_iff.mp htext
  constructor
  · intro keyword clause hclause
    refine ⟨statement.within_sql _ hvalid hclause,
      Statement.keyword_eq_select_of_isEmpty hvalid hclause, fun hwritten => ?_⟩
    have hne : clause.conjunction.conditions ≠ [] := fun hnil => by
      simp [Clause.isEmpty, Conjunction.isEmpty, hnil] at hwritten
    exact (clause.conjunction.all_sql_iff settings fun _ => id).trans (or_iff_right hne)
  · intro conjunction
    rw [← conjunction.all_sql_iff settings (by simp)]
    simp [← String.toList_eq_nil_iff, List.eq_nil_iff_forall_not_mem]

/-- With names unquoted, a search can have a blank condition on groups, a template whose only
parameter is a blank name. A comparison of a name without a character is not blank. -/
theorem Statement.isBlankText_sql_iff_of_toSql_eq_name :
    Text.isBlankText
        (Clause.sql (QuoteSettings.quoter ⟨false, true⟩)
          ⟨⟨[.raw " ? " [.text "\t"] [.identifier]]⟩⟩) = true ∧
      ¬Text.isBlankText
        (Clause.sql (QuoteSettings.quoter ⟨false, true⟩)
          ⟨⟨[.compare "" .eq (.text "")]⟩⟩) = true := by
  have htext : (Statement.select ((Select.new "rt").applyAll
      [.filter (.request (.compare "" .eq (.text ""))),
        .having (.script [.request (.rawWithKinds " ? " [.text "\t"] ["identifier"])])])).toSql
      (QuoteSettings.quoter ⟨false, true⟩) =
      .ok "SELECT * FROM rt WHERE  = '' HAVING  \t " := rfl
  obtain ⟨hclauses, _⟩ := Statement.isBlankText_sql_iff_of_toSql_eq ⟨false, true⟩ htext
  obtain ⟨_, _, hfilter⟩ := hclauses _ _ List.mem_cons_self
  obtain ⟨_, _, hhaving⟩ := hclauses _ _ (List.mem_cons_of_mem _ List.mem_cons_self)
  constructor
  · refine (hhaving rfl).mpr ⟨_, rfl, by decide, fun c hc => ?_, fun _ index hindex => ?_⟩
    · rcases List.mem_cons.mp hc with rfl | hc
      · exact .inl rfl
      rcases List.mem_pair.mp hc with rfl | rfl
      · exact .inr ⟨List.cons_ne_nil _ _, rfl⟩
      · exact .inl rfl
    · obtain rfl : index = 0 := Nat.lt_one_iff.mp hindex
      exact ⟨_, rfl, .inr ⟨rfl, rfl⟩, rfl⟩
  · intro hblank
    obtain ⟨condition, hsingle, hform, _⟩ := (hfilter rfl).mp hblank
    obtain rfl := List.singleton_inj.mp hsingle
    exact absurd hform (by decide)

/-- A removal is accepted although its only condition is plain SQL without a character. -/
theorem Delete.toSql_literal_empty :
    ((Delete.new "products").applyAll [.request (.literal "")]).toSql
        (QuoteSettings.quoter ⟨true, true⟩) = .ok "DELETE FROM \x60products\x60 WHERE " ∧
      ((Delete.new "products").applyAll [.request (.literal "")]).filter.isEmpty = false ∧
      ((Delete.new "products").applyAll [.request (.literal "")]).filter.sql
        (QuoteSettings.quoter ⟨true, true⟩) = "" :=
  ⟨rfl, rfl, rfl⟩

end SearchSql
