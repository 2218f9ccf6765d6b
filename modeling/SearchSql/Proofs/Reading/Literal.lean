import SearchSql.Quoter.Settings

/-!
# Reading a text literal

A server reads a literal up to its closing quote. What stands for a quote inside differs: a
backslash may escape it, and it may be doubled. One reader takes these rules as an argument, and
reads back every text that the standard quoter writes under the same settings.
-/

namespace SearchSql.Reading

/-- How a server reads the content of a literal. -/
structure LiteralRules where
  /-- What a backslash before a character stands for together with it. Without an answer the
  backslash stands for itself. -/
  escaped : Char → Option Char
  /-- Whether two quotes stand for one. -/
  doubles : Bool

namespace LiteralRules

/-- The character that a backslash makes of another one: four letters and digits name control
characters, and every other character stands for itself. -/
def controlChar (c : Char) : Char :=
  match c with
  | '0' => '\x00'
  | 'n' => '\n'
  | 'r' => '\r'
  | 'Z' => '\x1a'
  | _ => c

/-- The rules of a server that fits the settings of the standard quoter. A quote can always be
doubled, and where backslashes do not escape they are ordinary characters. -/
def ofEscapes (escapes : Bool) : LiteralRules where
  escaped := fun c => if escapes then some (controlChar c) else none
  doubles := true

/-- Rules under which a backslash escapes itself and quotes of both kinds, and nothing else is
special. -/
def backslash : LiteralRules where
  escaped := fun c => if c = '\\' || c = '\'' || c = '"' then some c else none
  doubles := false

end LiteralRules

/-- Characters read before the rest of a literal. -/
def keep (cs : List Char) (read : Option (List Char × List Char)) :
    Option (List Char × List Char) :=
  read.map fun found => (cs ++ found.1, found.2)

/-- The content of a literal whose opening quote has been read, and the text behind its closing
quote. -/
def readLiteral (rules : LiteralRules) : List Char → Option (List Char × List Char)
  | [] => none
  | c :: rest =>
    if c = '\'' then
      match rest with
      | '\'' :: more =>
        if rules.doubles then keep ['\''] (readLiteral rules more) else some ([], '\'' :: more)
      | _ => some ([], rest)
    else if c = '\\' then
      match rest with
      | next :: more =>
        match rules.escaped next with
        | some meant => keep [meant] (readLiteral rules more)
        | none => keep ['\\'] (readLiteral rules (next :: more))
      | [] => none
    else keep [c] (readLiteral rules rest)

@[simp] theorem keep_nil (read : Option (List Char × List Char)) : keep [] read = read := by
  cases read <;> rfl

@[simp] theorem keep_none (cs : List Char) : keep cs none = none := rfl

@[simp] theorem keep_some (cs content tail : List Char) :
    keep cs (some (content, tail)) = some (cs ++ content, tail) := rfl

/-- What is read piece by piece is read as a whole. -/
@[simp] theorem keep_keep (front back : List Char) (read : Option (List Char × List Char)) :
    keep front (keep back read) = keep (front ++ back) read := by
  cases read <;> simp [keep]

/-- What is read with characters before it has been read without them. -/
theorem of_keep_eq_some {cs content tail : List Char} {read : Option (List Char × List Char)}
    (h : keep cs read = some (content, tail)) : ∃ rest, read = some (rest, tail) := by
  cases read with
  | none => cases h
  | some found => exact ⟨found.1, by simpa [Prod.ext_iff] using (Prod.mk.inj (Option.some.inj h)).2⟩

variable {rules : LiteralRules}

/-- An ordinary character is read as itself. -/
theorem readLiteral_cons {c : Char} (hquote : c ≠ '\'') (hbackslash : c ≠ '\\')
    (rest : List Char) : readLiteral rules (c :: rest) = keep [c] (readLiteral rules rest) := by
  rw [readLiteral.eq_def]
  simp only [if_neg hquote, if_neg hbackslash]

/-- A backslash with a character that it escapes is read as what both stand for. -/
theorem readLiteral_escape {c meant : Char} (hescaped : rules.escaped c = some meant)
    (rest : List Char) :
    readLiteral rules ('\\' :: c :: rest) = keep [meant] (readLiteral rules rest) := by
  rw [readLiteral.eq_def]
  simp [hescaped]

/-- A backslash that escapes nothing is read as itself. -/
theorem readLiteral_backslash (hescaped : ∀ c, rules.escaped c = none) (rest : List Char) :
    readLiteral rules ('\\' :: rest) = keep ['\\'] (readLiteral rules rest) := by
  rw [readLiteral.eq_def]
  cases rest with
  | nil => rfl
  | cons c rest => simp [hescaped]

/-- Two quotes are read as one where quotes are doubled. -/
theorem readLiteral_doubled (hdoubles : rules.doubles = true) (rest : List Char) :
    readLiteral rules ('\'' :: '\'' :: rest) = keep ['\''] (readLiteral rules rest) := by
  rw [readLiteral.eq_def]
  simp [hdoubles]

/-- A quote closes the literal when no other quote follows. -/
theorem readLiteral_quote {tail : List Char} (htail : tail.head? ≠ some '\'') :
    readLiteral rules ('\'' :: tail) = some ([], tail) := by
  rw [readLiteral.eq_def]
  cases tail with
  | nil => rfl
  | cons c rest =>
    have hc : c ≠ '\'' := by simpa using htail
    simp [hc]

/-- Where backslashes escape nothing, everything up to a quote is read as itself. -/
theorem readLiteral_append (hescaped : ∀ c, rules.escaped c = none) {cs : List Char}
    (hcs : '\'' ∉ cs) (rest : List Char) :
    readLiteral rules (cs ++ rest) = keep cs (readLiteral rules rest) := by
  induction cs with
  | nil => exact (keep_nil _).symm
  | cons c cs ih =>
    rw [List.mem_cons, not_or] at hcs
    have hfirst : readLiteral rules (c :: (cs ++ rest)) =
        keep [c] (readLiteral rules (cs ++ rest)) := by
      by_cases hc : c = '\\'
      · subst hc
        exact readLiteral_backslash hescaped _
      · exact readLiteral_cons (Ne.symm hcs.1) hc _
    rw [List.cons_append, hfirst, ih hcs.2, keep_keep, List.singleton_append]

/-- One character that the standard quoter writes is read back. -/
theorem readLiteral_escapedChar (settings : QuoteSettings) (c : Char) (rest : List Char) :
    readLiteral (.ofEscapes settings.escapeBackslashes) (settings.escapeChar c ++ rest) =
      keep [c] (readLiteral (.ofEscapes settings.escapeBackslashes) rest) := by
  unfold QuoteSettings.escapeChar
  cases settings.escapeBackslashes with
  | true =>
    rw [if_pos rfl]
    unfold QuoteSettings.escapeBackslashChar
    split
    case h_8 hbackslash hquote _ _ _ _ _ => exact readLiteral_cons hquote hbackslash rest
    all_goals exact readLiteral_escape rfl rest
  | false =>
    rw [if_neg Bool.false_ne_true]
    unfold QuoteSettings.doubleQuoteChar
    by_cases hquote : c = '\''
    · rw [if_pos hquote, hquote]
      exact readLiteral_doubled rfl rest
    · rw [if_neg hquote]
      exact readLiteral_append (fun _ => rfl) (by simpa using Ne.symm hquote) rest

/-- The content that the standard quoter writes is read back up to the closing quote, whatever
follows except for another quote. -/
theorem readLiteral_escape_append (settings : QuoteSettings) (cs : List Char) {tail : List Char}
    (htail : tail.head? ≠ some '\'') :
    readLiteral (.ofEscapes settings.escapeBackslashes) (settings.escape cs ++ '\'' :: tail) =
      some (cs, tail) := by
  induction cs with
  | nil => exact readLiteral_quote htail
  | cons c rest ih =>
    rw [QuoteSettings.escape_cons, List.append_assoc, readLiteral_escapedChar, ih, keep_some,
      List.singleton_append]

end SearchSql.Reading
