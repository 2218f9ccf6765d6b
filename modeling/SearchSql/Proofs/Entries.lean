import SearchSql.Proofs.AllOrNothing

/-!
# Entries of mappings

One table says which entries of a mapping stand for a condition, and another one which stand for
none and what is wrong with them. A clause takes a mapping exactly if all its entries are in the
first table, and reports the first entry that is in the second one otherwise. Entries without a name
are numbered among themselves, whatever stands between them.
-/

namespace SearchSql

namespace Mapping

/-- A way to add an entry to a mapping. -/
inductive Addition where
  /-- A value under a name. -/
  | set (name : String) (value : Value)
  /-- A condition under a name. -/
  | setCondition (name : String) (condition : Condition)
  /-- A content without a name. -/
  | push (content : Content)

namespace Addition

/-- The mapping with one more entry. -/
def addTo (mapping : Mapping) : Addition → Mapping
  | .set name value => mapping.set name value
  | .setCondition name condition => mapping.setCondition name condition
  | .push content => mapping.push content

/-- Whether the entry has no name. -/
def isPush : Addition → Bool
  | .push _ => true
  | _ => false

/-- The entry, with the number it has if it has no name. -/
def entry (number : Nat) : Addition → Entry
  | .set name value => ⟨.name name, .value value⟩
  | .setCondition name condition => ⟨.name name, .condition condition⟩
  | .push content => ⟨.position number, content⟩

/-- The new entry goes last, with the next number. -/
theorem entries_addTo (mapping : Mapping) (addition : Addition) :
    (addition.addTo mapping).entries =
      mapping.entries ++ [addition.entry mapping.nextPosition] := by
  cases addition <;> rfl

/-- Only an entry without a name takes a number. -/
theorem nextPosition_addTo (mapping : Mapping) (addition : Addition) :
    (addition.addTo mapping).nextPosition =
      mapping.nextPosition + if addition.isPush then 1 else 0 := by
  unfold nextPosition
  rw [entries_addTo, List.countP_append, List.countP_singleton]
  cases addition <;> rfl

end Addition

/-- The mapping that additions in order make. -/
def ofAdditions (additions : List Addition) : Mapping :=
  additions.foldl Addition.addTo empty

/-- Additions to a mapping make entries in order. The number of each is the next one of the mapping
and one more for each addition without a name before it. -/
theorem entries_foldl_addTo (mapping : Mapping) (additions : List Addition) :
    (additions.foldl Addition.addTo mapping).entries =
      mapping.entries ++ additions.mapIdx fun index addition =>
        addition.entry (mapping.nextPosition + (additions.take index).countP Addition.isPush) := by
  induction additions generalizing mapping with
  | nil => simp
  | cons addition additions ih =>
    rw [List.foldl_cons, ih, Addition.entries_addTo, Addition.nextPosition_addTo,
      List.mapIdx_cons, List.append_assoc, List.singleton_append, List.take_zero, List.countP_nil,
      Nat.add_zero]
    congr 3
    funext index next
    rw [List.take_succ_cons, List.countP_cons]
    congr 1
    omega

/-- The entries of a mapping are its additions in order, each one without a name under the number of
those before it. -/
theorem entries_ofAdditions (additions : List Addition) :
    (ofAdditions additions).entries = additions.mapIdx fun index addition =>
      addition.entry ((additions.take index).countP Addition.isPush) := by
  unfold ofAdditions
  rw [entries_foldl_addTo]
  simp [empty, nextPosition]

/-- The fields of an object are set in order, the elements of an array are pushed in order, and no
other document is a mapping. -/
theorem ofDocument_eq (document : Document) :
    ofDocument document =
      match document with
      | .object fields =>
        .ok (ofAdditions (fields.map fun field => .set field.1 (Value.ofDocument field.2)))
      | .array items =>
        .ok (ofAdditions (items.map fun item => .push (.value (Value.ofDocument item))))
      | other => .error (.argument (.notAMapping other)) := by
  cases document with
  | object fields => simp [ofDocument, ofAdditions, List.foldl_map, Addition.addTo]
  | array items => simp [ofDocument, ofAdditions, List.foldl_map, Addition.addTo]
  | _ => rfl

namespace Entry

/-- The entries that stand for a condition. -/
inductive StandsFor : Entry → Condition → Prop
  /-- A condition without a name. -/
  | condition (number : Nat) (condition : Condition) :
      StandsFor ⟨.position number, .condition condition⟩ condition
  /-- A text without a name, which is plain SQL. -/
  | text (number : Nat) (sql : String) :
      StandsFor ⟨.position number, .value (.text sql)⟩ (.literal sql)
  /-- A template with a parameter for each placeholder. -/
  | template {name : String} {value : Value} (hname : Template.hasPlaceholder name = true)
      (hvalue : Template.count name = value.items.length) :
      StandsFor ⟨.name name, .value value⟩
        (.raw name value.items (List.replicate value.items.length .value))
  /-- A column with the values it may have. -/
  | membership {name : String} {values : List Value}
      (hname : Template.hasPlaceholder name = false) (hvalues : values ≠ []) :
      StandsFor ⟨.name name, .value (.list values)⟩ (.member name values)
  /-- A column with the value it has. -/
  | equality {name : String} {value : Value} (hname : Template.hasPlaceholder name = false)
      (hvalue : value.isList = false) :
      StandsFor ⟨.name name, .value value⟩ (.comparison (.text name) .eq value .identifier .value)

/-- The entries that stand for no condition, with what is wrong with them. -/
inductive Refused : Entry → QueryError → Prop
  /-- A value without a name that is no text. -/
  | value (number : Nat) {value : Value} (hvalue : ∀ sql, value ≠ .text sql) :
      Refused ⟨.position number, .value value⟩
        (.entry s!"position {Nat.repr number}" (.unusableValue value))
  /-- A condition under a name. -/
  | condition (name : String) (condition : Condition) :
      Refused ⟨.name name, .condition condition⟩ (.entry s!"key '{name}'" .namedCondition)
  /-- A template with more or fewer parameters than placeholders. -/
  | template {name : String} {value : Value} (hname : Template.hasPlaceholder name = true)
      (hvalue : Template.count name ≠ value.items.length) :
      Refused ⟨.name name, .value value⟩
        (.argument (.placeholderCount name (Template.count name) value.items.length))
  /-- A column with no value that it may have. -/
  | membership {name : String} (hname : Template.hasPlaceholder name = false) :
      Refused ⟨.name name, .value (.list [])⟩ (.argument (.emptyList "IN" name))

/-- Under a template a value gives the parameters. -/
theorem condition_template {name : String} (hname : Template.hasPlaceholder name = true)
    (value : Value) :
    condition ⟨.name name, .value value⟩ = Condition.ofValues name value.items := by
  simp [condition, hname]

/-- Under the name of a column a list means membership. -/
theorem condition_list {name : String} (hname : Template.hasPlaceholder name = false)
    (values : List Value) :
    condition ⟨.name name, .value (.list values)⟩ = Condition.isIn name values := by
  simp [condition, hname]

/-- Under the name of a column any other value means equality. -/
theorem condition_scalar {name : String} {value : Value}
    (hname : Template.hasPlaceholder name = false) (hvalue : value.isList = false) :
    condition ⟨.name name, .value value⟩ = .ok (.eq name value) := by
  cases value with
  | list values => cases hvalue
  | _ => simp [condition, hname]

/-- An entry of the first table stands for its condition. -/
theorem StandsFor.condition_eq {entry : Entry} {condition : Condition}
    (h : entry.StandsFor condition) : entry.condition = .ok condition := by
  cases h with
  | condition number => rfl
  | text number sql => rfl
  | @template name value hname hvalue =>
    have hmake : Fragment.make name value.items (value.items.map fun _ => .value) = .ok _ :=
      Fragment.make_eq_ok_iff.mpr ⟨hvalue, List.length_map .., rfl⟩
    rw [condition_template hname, Condition.ofValues, Condition.ofTemplate, hmake,
      ← List.map_const']
    rfl
  | membership hname hvalues =>
    rw [condition_list hname]
    exact Condition.isIn_eq_ok_iff.mpr ⟨hvalues, rfl⟩
  | equality hname hvalue => exact condition_scalar hname hvalue

/-- An entry of the second table has its error. -/
theorem Refused.condition_eq {entry : Entry} {e : QueryError} (h : entry.Refused e) :
    entry.condition = .error e := by
  cases h with
  | @value number value hvalue =>
    cases value with
    | text sql => exact absurd rfl (hvalue sql)
    | _ => rfl
  | condition name condition => rfl
  | @template name value hname hvalue =>
    rw [condition_template hname, Condition.ofValues, Condition.ofTemplate, Fragment.make,
      if_pos hvalue]
    rfl
  | membership hname =>
    rw [condition_list hname]
    rfl

/-- Every entry is in one of the tables. -/
theorem standsFor_or_refused (entry : Entry) :
    (∃ condition, entry.StandsFor condition) ∨ ∃ e, entry.Refused e := by
  obtain ⟨key, content⟩ := entry
  cases key with
  | position number =>
    cases content with
    | condition given => exact .inl ⟨_, .condition number given⟩
    | value given =>
      cases given with
      | text sql => exact .inl ⟨_, .text number sql⟩
      | _ => exact .inr ⟨_, .value number fun _ h => by cases h⟩
  | name name =>
    cases content with
    | condition given => exact .inr ⟨_, .condition name given⟩
    | value given =>
      cases hname : Template.hasPlaceholder name with
      | true =>
        by_cases hvalue : Template.count name = given.items.length
        · exact .inl ⟨_, .template hname hvalue⟩
        · exact .inr ⟨_, .template hname hvalue⟩
      | false =>
        cases given with
        | list values =>
          cases values with
          | nil => exact .inr ⟨_, .membership hname⟩
          | cons value values => exact .inl ⟨_, .membership hname (List.cons_ne_nil _ _)⟩
        | _ => exact .inl ⟨_, .equality hname rfl⟩

/-- An entry stands for a condition exactly if the first table says so. -/
theorem condition_eq_ok_iff {entry : Entry} {condition : Condition} :
    entry.condition = .ok condition ↔ entry.StandsFor condition := by
  refine ⟨fun h => ?_, StandsFor.condition_eq⟩
  obtain ⟨given, hgiven⟩ | ⟨e, he⟩ := entry.standsFor_or_refused
  · rw [hgiven.condition_eq] at h
    exact Except.ok.inj h ▸ hgiven
  · rw [he.condition_eq] at h
    cases h

/-- An entry has an error exactly if the second table says so. -/
theorem condition_eq_error_iff {entry : Entry} {e : QueryError} :
    entry.condition = .error e ↔ entry.Refused e := by
  refine ⟨fun h => ?_, Refused.condition_eq⟩
  obtain ⟨given, hgiven⟩ | ⟨fault, hfault⟩ := entry.standsFor_or_refused
  · rw [hgiven.condition_eq] at h
    cases h
  · rw [hfault.condition_eq] at h
    exact Except.error.inj h ▸ hfault

end Entry

/-- A mapping stands for the conditions of its entries. -/
theorem conditions_eq_ok_iff_forall₂ {mapping : Mapping} {conditions : List Condition} :
    mapping.conditions = .ok conditions ↔
      List.Forall₂ Entry.StandsFor mapping.entries conditions := by
  simp only [conditions_eq_ok_iff, Entry.condition_eq_ok_iff]

/-- A mapping has the error of its first entry that stands for no condition. -/
theorem conditions_eq_error_iff {mapping : Mapping} {e : QueryError} :
    mapping.conditions = .error e ↔
      ∃ before entry after, mapping.entries = before ++ entry :: after ∧
        (∀ each ∈ before, ∃ condition, each.StandsFor condition) ∧ entry.Refused e := by
  simp only [conditions, mapM_eq_error_iff, Entry.condition_eq_ok_iff, Entry.condition_eq_error_iff]

/-- A mapping stands for conditions exactly if each of its entries stands for one. -/
theorem exists_conditions_iff {mapping : Mapping} :
    (∃ conditions, mapping.conditions = .ok conditions) ↔
      ∀ entry ∈ mapping.entries, ∃ condition, entry.StandsFor condition := by
  constructor
  · rintro ⟨conditions, hconditions⟩
    have hentries := conditions_eq_ok_iff_forall₂.mp hconditions
    exact ((List.forall₂_and_left _ _).mp (hentries.imp fun _ _ h => ⟨⟨_, h⟩, h⟩)).1
  · intro h
    cases hconditions : mapping.conditions with
    | ok conditions => exact ⟨conditions, rfl⟩
    | error e =>
      obtain ⟨before, entry, after, hentries, _, hrefused⟩ := conditions_eq_error_iff.mp hconditions
      obtain ⟨condition, hcondition⟩ := h entry (by simp [hentries])
      cases hcondition.condition_eq.symm.trans hrefused.condition_eq

end Mapping

namespace Clause

variable {clause : Clause} {mapping : Mapping}

/-- What a clause is after it has taken a mapping. -/
theorem addMapping_eq_ok_iff {left : Clause} :
    clause.addMapping mapping = ⟨left, .ok ()⟩ ↔
      ∃ conditions, mapping.conditions = .ok conditions ∧
        left.conjunction.conditions = clause.conjunction.conditions ++ conditions := by
  obtain ⟨⟨leftConditions⟩⟩ := left
  unfold addMapping
  cases hconditions : mapping.conditions with
  | ok conditions => simp [Conjunction.append, eq_comm]
  | error e => simp

/-- What a clause is after it has refused a mapping. -/
theorem addMapping_eq_error_iff {left : Clause} {e : QueryError} :
    clause.addMapping mapping = ⟨left, .error e⟩ ↔
      left = clause ∧ mapping.conditions = .error e := by
  unfold addMapping
  cases hconditions : mapping.conditions with
  | ok conditions => simp
  | error fault => simp [eq_comm]

/-- Whether a clause takes a mapping is for the mapping to say. -/
theorem result_addMapping_eq_ok_iff :
    (clause.addMapping mapping).result = .ok () ↔
      ∃ conditions, mapping.conditions = .ok conditions := by
  unfold addMapping
  cases hconditions : mapping.conditions with
  | ok conditions => simp
  | error e => simp

end Clause

/-- A clause takes a mapping exactly if each entry stands for a condition. It then has these
conditions at the end in the order of the entries, and otherwise it stays and the error is that of
the first entry that stands for none. An entry without a name has the number of those before it,
however the mapping was made: by additions in order, or from an object or an array. -/
theorem Clause.addMapping_entries :
    (∀ additions : List Mapping.Addition,
      (Mapping.ofAdditions additions).entries = additions.mapIdx fun index addition =>
        addition.entry ((additions.take index).countP Mapping.Addition.isPush)) ∧
    (∀ document, Mapping.ofDocument document =
      match document with
      | .object fields =>
        .ok (.ofAdditions (fields.map fun field => .set field.1 (Value.ofDocument field.2)))
      | .array items =>
        .ok (.ofAdditions (items.map fun item => .push (.value (Value.ofDocument item))))
      | other => .error (.argument (.notAMapping other))) ∧
    ∀ (clause : Clause) (mapping : Mapping),
      ((clause.addMapping mapping).result = .ok () ↔
        ∀ entry ∈ mapping.entries, ∃ condition, entry.StandsFor condition) ∧
      (∀ left, clause.addMapping mapping = ⟨left, .ok ()⟩ ↔
        ∃ conditions, List.Forall₂ Mapping.Entry.StandsFor mapping.entries conditions ∧
          left.conjunction.conditions = clause.conjunction.conditions ++ conditions) ∧
      ∀ left e, clause.addMapping mapping = ⟨left, .error e⟩ ↔
        left = clause ∧ ∃ before entry after, mapping.entries = before ++ entry :: after ∧
          (∀ each ∈ before, ∃ condition, each.StandsFor condition) ∧ entry.Refused e := by
  refine ⟨Mapping.entries_ofAdditions, Mapping.ofDocument_eq, fun clause mapping =>
    ⟨?_, fun left => ?_, fun left e => ?_⟩⟩
  · rw [result_addMapping_eq_ok_iff, Mapping.exists_conditions_iff]
  · simp only [addMapping_eq_ok_iff, Mapping.conditions_eq_ok_iff_forall₂]
  · rw [addMapping_eq_error_iff, Mapping.conditions_eq_error_iff]

/-- Names between them do not count for the numbers of entries without one, and of three bad entries
the first one is reported. -/
example :
    (Clause.empty.addMapping (.ofAdditions
      [.push (.value (.text "a")), .set "b = ?" (.uint 1), .push (.value .null),
        .set "c" (.list []), .setCondition "d" (.literal "e")])).result =
      .error (.entry "position 1" (.unusableValue .null)) := by
  rfl

end SearchSql
