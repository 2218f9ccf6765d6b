import SearchSql.Quoter
import SearchSql.Keyed

/-!
# Options

The OPTION clause of a statement holds named options in the order in which their names were
first given. Giving a name again changes the option in place.
-/

namespace SearchSql

/-- What an option is set to. -/
inductive OptionValue where
  /-- A value, which is quoted. -/
  | value (value : Value)
  /-- A word, which is written as it is. -/
  | word (word : String)
  /-- Named values, which are quoted one by one. -/
  | named (pairs : List (String × Value))

/-- What an option is set to, as SQL. -/
def OptionValue.sql (quoter : Quoter) : OptionValue → String
  | .value given => quoter.quoteValue given none
  | .word given => given
  | .named pairs =>
    Quoting.listed (pairs.map fun pair => pair.1 ++ " = " ++ quoter.quoteValue pair.2 none)

/-- The options of a statement. -/
structure Options where
  /-- The options by name, in order. -/
  entries : List (String × OptionValue)

namespace Options

/-- No option. -/
def empty : Options := ⟨[]⟩

/-- An option that is present is changed in place; a new one goes last. -/
def set (options : Options) (name : String) (value : OptionValue) : Options :=
  ⟨Keyed.set name value options.entries⟩

/-- Whether there is no option. -/
def isEmpty (options : Options) : Bool := options.entries.isEmpty

/-- The text that follows OPTION. -/
def sql (quoter : Quoter) (options : Options) : String :=
  ", ".intercalate (options.entries.map fun entry => entry.1 ++ " = " ++ entry.2.sql quoter)

end Options

end SearchSql
