import Mathlib.Data.List.Basic
import Mathlib.Data.List.Induction
import SearchSql.Quoter.Settings
import SearchSql.Statement.Select
import SearchSql.Statement.Update

/-!
# Options in order

Options are set by name, one after another and any number of times, by themselves or among the other
calls on a statement. What comes of it is told by two simple views of the sets: the place of an
option is that of the first set of its name, and its content is that of the last.
-/

namespace SearchSql

namespace Keyed

variable {κ α : Type} [DecidableEq κ]

/-- The last set is made on what the others leave. -/
theorem ofSets_concat (sets : List (κ × α)) (given : κ × α) :
    ofSets (sets ++ [given]) = set given.1 given.2 (ofSets sets) :=
  List.foldl_concat _ _ _ _

/-- The keys stand in the order in which they were first set. -/
theorem keys_ofSets (sets : List (κ × α)) :
    (ofSets sets).map Prod.fst = (sets.map Prod.fst).eraseDups := by
  induction sets using List.reverseRecOn with
  | nil => rfl
  | append_singleton sets given ih =>
    rw [ofSets_concat, keys_set, ih, List.map_append, List.eraseDups_append, List.map_singleton]
    by_cases hmem : given.1 ∈ sets.map Prod.fst
    · have hknown : [given.1].removeAll (sets.map Prod.fst) = [] := by
        simp [List.removeAll, hmem]
      rw [if_pos (List.mem_eraseDups.mpr hmem), hknown, List.eraseDups_nil, List.append_nil]
    · have hnew : [given.1].removeAll (sets.map Prod.fst) = [given.1] := by
        simp [List.removeAll, hmem]
      rw [if_neg (mt List.mem_eraseDups.mp hmem), hnew]
      rfl

/-- There is no entry exactly if none was set. -/
theorem ofSets_eq_nil_iff (sets : List (κ × α)) : ofSets sets = [] ↔ sets = [] := by
  cases sets with
  | nil => exact Iff.rfl
  | cons given rest =>
    have hmem : given.1 ∈ (ofSets (given :: rest)).map Prod.fst := by
      rw [keys_ofSets, List.mem_eraseDups]
      exact List.mem_cons_self
    refine iff_of_false (fun hnone => ?_) (List.cons_ne_nil _ _)
    rw [hnone] at hmem
    exact List.not_mem_nil hmem

/-- The value found under a key is the one it was set to last. -/
theorem get?_ofSets (key : κ) (sets : List (κ × α)) :
    get? key (ofSets sets) = get? key sets.reverse := by
  induction sets using List.reverseRecOn with
  | nil => rfl
  | append_singleton sets given ih =>
    rw [ofSets_concat, List.reverse_concat, get?]
    by_cases hkey : given.1 = key
    · rw [if_pos hkey, ← hkey, get?_set_self]
    · rw [if_neg hkey, get?_set_of_ne (Ne.symm hkey), ih]

/-- Entries without a repeated key are told by their keys and by what is found under them. -/
theorem map_eq_filterMap_keys {β : Type} (f : κ × α → β) {entries : List (κ × α)}
    (h : (entries.map Prod.fst).Nodup) :
    entries.map f =
      (entries.map Prod.fst).filterMap fun key =>
        (get? key entries).map fun value => f (key, value) := by
  induction entries with
  | nil => rfl
  | cons entry rest ih =>
    obtain ⟨hfirst, hrest⟩ := List.nodup_cons.mp h
    have hbehind : ∀ key ∈ rest.map Prod.fst, get? key (entry :: rest) = get? key rest := by
      intro key hmem
      have hne : entry.1 ≠ key := fun heq => hfirst (heq ▸ hmem)
      rw [get?, if_neg hne]
    rw [List.map_cons, List.map_cons, ih hrest, List.filterMap_cons, get?, if_pos rfl]
    refine congrArg (f entry :: ·) (List.filterMap_congr fun key hmem => ?_)
    rw [hbehind key hmem]

end Keyed

namespace Options

/-- Options set one after another. -/
def setAll (options : Options) (sets : List (String × OptionValue)) : Options :=
  sets.foldl (fun options given => options.set given.1 given.2) options

/-- The entries of options that are set one after another are set one after another. -/
theorem entries_setAll_empty (sets : List (String × OptionValue)) :
    (empty.setAll sets).entries = Keyed.ofSets sets :=
  (List.foldl_hom Options.entries fun _ _ => rfl).symm

/-- The value that a name was set to last. -/
def lastSet? (sets : List (String × OptionValue)) (name : String) : Option OptionValue :=
  Keyed.get? name sets.reverse

/-- The options are an ordered map of what was set. The names stand in the order in which they were
first set, and each has the value it was set to last. -/
structure IsMapOf (options : Options) (sets : List (String × OptionValue)) : Prop where
  /-- No name occurs twice. -/
  nodup_names : (options.entries.map Prod.fst).Nodup
  /-- The names are those that were set, in the order of their first set. -/
  names_eq : options.entries.map Prod.fst = (sets.map Prod.fst).eraseDups
  /-- Under each name stands the value it was set to last. -/
  get?_eq : ∀ name, Keyed.get? name options.entries = lastSet? sets name
  /-- The text goes through the names and writes the last value of each. -/
  sql_eq : ∀ quoter, options.sql quoter =
    ", ".intercalate ((sets.map Prod.fst).eraseDups.filterMap fun name =>
      (lastSet? sets name).map fun value => name ++ " = " ++ value.sql quoter)
  /-- There is no option exactly if none was set. -/
  isEmpty_iff : options.isEmpty = true ↔ sets = []
  /-- The order does not matter in which two options that are present are set again. -/
  set_comm : ∀ {first second}, first ≠ second → first ∈ options.entries.map Prod.fst →
    second ∈ options.entries.map Prod.fst → ∀ value other,
      (options.set first value).set second other = (options.set second other).set first value

/-- Options that are set one after another are an ordered map of what was set. -/
theorem isMapOf_setAll (sets : List (String × OptionValue)) :
    (empty.setAll sets).IsMapOf sets where
  nodup_names := by
    rw [entries_setAll_empty]
    exact Keyed.nodup_keys_ofSets sets
  names_eq := by
    rw [entries_setAll_empty]
    exact Keyed.keys_ofSets sets
  get?_eq name := by
    rw [entries_setAll_empty]
    exact Keyed.get?_ofSets name sets
  sql_eq quoter := by
    unfold sql
    rw [entries_setAll_empty, Keyed.map_eq_filterMap_keys _ (Keyed.nodup_keys_ofSets sets),
      Keyed.keys_ofSets]
    simp only [Keyed.get?_ofSets, lastSet?]
  isEmpty_iff := by
    rw [isEmpty, entries_setAll_empty, List.isEmpty_iff]
    exact Keyed.ofSets_eq_nil_iff sets
  set_comm hne hfirst hsecond value other :=
    congrArg Options.mk (Keyed.set_comm hne hfirst hsecond value other)

/-- Calls that each set one option or none leave the options that they set one after another. -/
theorem foldl_eq_setAll {σ γ : Type} {options : σ → Options} {apply : σ → γ → σ}
    {option? : γ → Option (String × OptionValue)}
    (happly : ∀ state call,
      options (apply state call) = (options state).setAll (option? call).toList)
    (state : σ) (calls : List γ) :
    options (calls.foldl apply state) = (options state).setAll (calls.filterMap option?) := by
  induction calls generalizing state with
  | nil => rfl
  | cons call calls ih =>
    rw [List.foldl_cons, ih, happly, List.filterMap_cons]
    cases option? call <;> rfl

end Options

/-- The option that a call sets. -/
def Select.Call.option? : Call → Option (String × OptionValue)
  | .option name value => some (name, value)
  | _ => none

/-- The option that a call sets. -/
def Update.Call.option? : Call → Option (String × OptionValue)
  | .option name value => some (name, value)
  | _ => none

/-- Only a call that sets an option of a search changes its options. -/
theorem Select.options_apply (select : Select) (call : Call) :
    (select.apply call).options = select.options.setAll call.option?.toList := by
  cases call <;> rfl

/-- Only a call that sets an option of a change changes its options. -/
theorem Update.options_apply (update : Update) (call : Call) :
    (update.apply call).options = update.options.setAll call.option?.toList := by
  cases call <;> rfl

/-- Options are an ordered map of what was set, whether they are set by themselves or by calls on a
search or a change, and whatever other calls stand between. A value is written quoted and without a
type, a word as it is, and named values in parentheses in the order in which they are given. -/
theorem Options.isMapOf_of_sets :
    (∀ sets, (Options.empty.setAll sets).IsMapOf sets) ∧
      (∀ index calls, ((Select.new index).applyAll calls).options.IsMapOf
        (calls.filterMap Select.Call.option?)) ∧
      (∀ index calls, ((Update.new index).applyAll calls).options.IsMapOf
        (calls.filterMap Update.Call.option?)) ∧
      ∀ quoter : Quoter,
        (∀ value, (OptionValue.value value).sql quoter = quoter.quoteValue value none) ∧
        (∀ word, (OptionValue.word word).sql quoter = word) ∧
        ∀ pairs, (OptionValue.named pairs).sql quoter =
          "(" ++ ", ".intercalate (pairs.map fun pair =>
            pair.1 ++ " = " ++ quoter.quoteValue pair.2 none) ++ ")" := by
  refine ⟨isMapOf_setAll, fun index calls => ?_, fun index calls => ?_, fun quoter => ?_⟩
  · have hcalls : ((Select.new index).applyAll calls).options = empty.setAll _ :=
      foldl_eq_setAll Select.options_apply (.new index) calls
    exact hcalls ▸ isMapOf_setAll _
  · have hcalls : ((Update.new index).applyAll calls).options = empty.setAll _ :=
      foldl_eq_setAll Update.options_apply (.new index) calls
    exact hcalls ▸ isMapOf_setAll _
  · exact ⟨fun _ => rfl, fun _ => rfl, fun _ => rfl⟩

/-- An option that is set again keeps its place, also after a call that went wrong. -/
example :
    ((Select.new "rt").applyAll
        [.option "ranker" (.word "bm25"), .having (.mapping (Mapping.empty.set "n" (.list []))),
          .option "weights" (.named [("title", .int 10), ("body", .null)]),
          .option "ranker" (.value (.text "it's"))]).options.sql
        (QuoteSettings.quoter ⟨true, true⟩) =
      "ranker = 'it\\'s', weights = (title = 10, body = NULL)" :=
  rfl

end SearchSql
