import SearchSql.Proofs.Numeral
import SearchSql.Quoter.Settings
import Mathlib.Data.List.Forall2

/-!
# The skeleton of a statement

The skeleton of a text is what is left when the content of its literals and quoted names is
erased. It is found by a scan from left to right that knows after each character whether it
stands in a literal, in a name or outside of both. Two texts are alike when the scan takes them to
the same skeleton and the same place from wherever it may stand between two tokens.
-/

namespace SearchSql

/-- Where a scan stands after some part of a text. -/
inductive Place where
  /-- Outside of literals and quoted names. -/
  | outside
  /-- Inside a literal. -/
  | literal
  /-- Inside a literal, after a backslash that takes the next character with it. -/
  | escape
  /-- After a quote that ends a literal, unless another one follows and both stand for one. -/
  | literalEnd
  /-- Inside a quoted name. -/
  | name
  /-- After a backquote that ends a name, unless another one follows and both stand for one. -/
  | nameEnd
deriving DecidableEq

namespace Place

/-- Between two tokens nothing is open: whatever was begun can end here. -/
def isClosed : Place → Bool
  | .outside | .literalEnd | .nameEnd => true
  | .literal | .escape | .name => false

/-- The ending quote that is still to be kept when no second one follows. -/
def pending : Place → List Char
  | .literalEnd => ['\'']
  | .nameEnd => ['\x60']
  | _ => []

/-- A character outside of literals and names is kept. A quote or backquote opens one. -/
def enter (c : Char) : List Char × Place :=
  ([c], if c = '\'' then .literal else if c = '\x60' then .name else .outside)

/-- What a scan keeps of one character, and where it stands afterwards. Only where backslashes
escape does a backslash in a literal take the next character with it. -/
def step (escapes : Bool) (place : Place) (c : Char) : List Char × Place :=
  match place with
  | .outside => enter c
  | .literal =>
    ([], if c = '\'' then .literalEnd else if escapes && c = '\\' then .escape else .literal)
  | .escape => ([], .literal)
  | .literalEnd =>
    if c = '\'' then ([], .literal) else ('\'' :: (enter c).1, (enter c).2)
  | .name => ([], if c = '\x60' then .nameEnd else .name)
  | .nameEnd =>
    if c = '\x60' then ([], .name) else ('\x60' :: (enter c).1, (enter c).2)

/-- What a scan keeps of a text, and where it stands at the end. -/
def scan (escapes : Bool) (place : Place) : List Char → List Char × Place
  | [] => ([], place)
  | c :: rest =>
    let first := step escapes place c
    let others := scan escapes first.2 rest
    (first.1 ++ others.1, others.2)

@[simp] theorem scan_nil (escapes : Bool) (place : Place) :
    scan escapes place [] = ([], place) := rfl

@[simp] theorem scan_cons (escapes : Bool) (place : Place) (c : Char) (rest : List Char) :
    scan escapes place (c :: rest) =
      ((step escapes place c).1 ++ (scan escapes (step escapes place c).2 rest).1,
        (scan escapes (step escapes place c).2 rest).2) := rfl

end Place

/-- The skeleton of a text. The quotes around literals and names belong to it. -/
def skeleton (escapes : Bool) (text : String) : String :=
  let scanned := Place.scan escapes .outside text.toList
  String.ofList (scanned.1 ++ scanned.2.pending)

/-- No literal and no quoted name is left open at the end of a text. -/
def EndsClosed (escapes : Bool) (text : String) : Prop :=
  (Place.scan escapes .outside text.toList).2.isClosed = true

/-- Two texts are alike when a scan that stands between two tokens keeps the same of both, and
stands at the same place between two tokens afterwards. -/
def Alike (escapes : Bool) (left right : List Char) : Prop :=
  ∀ place : Place, place.isClosed = true →
    Place.scan escapes place left = Place.scan escapes place right ∧
      (Place.scan escapes place left).2.isClosed = true

/-- The scan of a joined text goes on with its second part where the first one ends. -/
theorem Place.scan_append (escapes : Bool) (place : Place) (left right : List Char) :
    scan escapes place (left ++ right) =
      ((scan escapes place left).1 ++ (scan escapes (scan escapes place left).2 right).1,
        (scan escapes (scan escapes place left).2 right).2) := by
  induction left generalizing place with
  | nil => rfl
  | cons c rest ih => simp [ih]

/-- The escaped content of a literal keeps the scan inside of it, and nothing of it is kept. -/
theorem Place.scan_literal_escape (settings : QuoteSettings) (cs : List Char) :
    scan settings.escapeBackslashes .literal (settings.escape cs) = ([], .literal) := by
  have hchar (c : Char) :
      scan settings.escapeBackslashes .literal (settings.escapeChar c) = ([], .literal) := by
    unfold QuoteSettings.escapeChar
    cases settings.escapeBackslashes with
    | true =>
      rw [if_pos rfl]
      unfold QuoteSettings.escapeBackslashChar
      split <;> simp_all [step]
    | false =>
      rw [if_neg Bool.false_ne_true]
      unfold QuoteSettings.doubleQuoteChar
      split <;> simp_all [step]
  induction cs with
  | nil => rfl
  | cons c rest ih => rw [QuoteSettings.escape_cons, scan_append, hchar, ih, List.append_nil]

/-- The doubled content of a quoted name keeps the scan inside of it. -/
theorem Place.scan_name_doubled (escapes : Bool) (cs : List Char) :
    scan escapes .name (cs.flatMap fun c => if c = '\x60' then [c, c] else [c]) =
      ([], .name) := by
  induction cs with
  | nil => rfl
  | cons c rest ih =>
    rw [List.flatMap_cons, scan_append]
    by_cases hc : c = '\x60'
    · simp [step, hc, ih]
    · simp [step, hc, ih]

namespace Alike

variable {escapes : Bool}

/-- Joined texts are alike when their parts are. -/
theorem append {left left' right right' : List Char} (hleft : Alike escapes left left')
    (hright : Alike escapes right right') : Alike escapes (left ++ right) (left' ++ right') := by
  intro place hplace
  obtain ⟨hsame, hclosed⟩ := hleft place hplace
  obtain ⟨hsame', hclosed'⟩ := hright _ hclosed
  rw [Place.scan_append, Place.scan_append, ← hsame, ← hsame']
  exact ⟨rfl, hclosed'⟩

/-- A text is like itself when no character of it opens a literal or a name. -/
theorem of_forall {cs : List Char} (hcs : ∀ c ∈ cs, c ≠ '\'' ∧ c ≠ '\x60') :
    Alike escapes cs cs := by
  intro place hplace
  refine ⟨rfl, ?_⟩
  induction cs generalizing place with
  | nil => exact hplace
  | cons c rest ih =>
    obtain ⟨hquote, hbackquote⟩ := hcs c List.mem_cons_self
    have hnext : (Place.step escapes place c).2 = .outside := by
      cases place <;> simp_all [Place.step, Place.enter, Place.isClosed]
    rw [Place.scan_cons, hnext]
    exact ih (fun d hd => hcs d (List.mem_cons_of_mem c hd)) .outside rfl

/-- A numeral opens nothing. -/
theorem of_isNumeral {cs : List Char} (hcs : IsNumeral cs) : Alike escapes cs cs := by
  apply of_forall
  intro c hc
  rcases hcs.mem hc with hdigit | rfl | rfl
  · constructor <;> rintro rfl <;> exact absurd hdigit (by decide)
  · decide
  · decide

/-- Texts joined by a separator are alike when the separator is like itself and the texts are
alike one by one. -/
theorem intercalate {separator : List Char} {lefts rights : List (List Char)}
    (hseparator : Alike escapes separator separator)
    (h : List.Forall₂ (Alike escapes) lefts rights) :
    Alike escapes (separator.intercalate lefts) (separator.intercalate rights) := by
  induction h with
  | nil => exact of_forall (by simp)
  | @cons left right lefts rights hhead htail ih =>
    cases htail with
    | nil => simpa using hhead
    | cons hnext hrest =>
      rw [List.intercalate_cons_cons, List.intercalate_cons_cons]
      exact (hhead.append hseparator).append ih

/-- Any two literals are alike: only their content tells them apart. -/
theorem quoteString (settings : QuoteSettings) (left right : String) :
    Alike settings.escapeBackslashes (settings.quoteString left).toList
      (settings.quoteString right).toList := by
  have hscan (place : Place) (hplace : place.isClosed = true) (text : String) :
      Place.scan settings.escapeBackslashes place (settings.quoteString text).toList =
        ((Place.step settings.escapeBackslashes place '\'').1, .literalEnd) := by
    have hopen : (Place.step settings.escapeBackslashes place '\'').2 = .literal := by
      cases place <;> simp_all [Place.step, Place.enter, Place.isClosed]
    unfold QuoteSettings.quoteString
    rw [String.toList_ofList, Place.scan_cons, hopen, Place.scan_append,
      Place.scan_literal_escape]
    simp [Place.step]
  intro place hplace
  rw [hscan place hplace, hscan place hplace]
  exact ⟨rfl, rfl⟩

/-- A quoted segment of a name leaves nothing open. -/
theorem quoteSegment (segment : List Char) :
    Alike escapes (QuoteSettings.quoteSegment segment) (QuoteSettings.quoteSegment segment) := by
  unfold QuoteSettings.quoteSegment
  split
  · exact of_forall (by simp)
  · intro place hplace
    have hopen : (Place.step escapes place '\x60').2 = .name := by
      cases place <;> simp_all [Place.step, Place.enter, Place.isClosed]
    rw [Place.scan_cons, hopen, Place.scan_append, Place.scan_name_doubled]
    exact ⟨rfl, by simp [Place.step, Place.isClosed]⟩

/-- A name of quoted segments leaves nothing open. -/
theorem join_quoteSegment (segments : List (List Char)) :
    Alike escapes (Text.join '.' (segments.map QuoteSettings.quoteSegment))
      (Text.join '.' (segments.map QuoteSettings.quoteSegment)) := by
  induction segments with
  | nil => exact of_forall (by simp [Text.join])
  | cons segment rest ih =>
    cases rest with
    | nil => exact quoteSegment segment
    | cons next rest =>
      have hpoint : Alike escapes ['.'] ['.'] := of_forall (by simp)
      have hjoin : Text.join '.' ((segment :: next :: rest).map QuoteSettings.quoteSegment) =
          QuoteSettings.quoteSegment segment ++ (['.'] ++
            Text.join '.' ((next :: rest).map QuoteSettings.quoteSegment)) := rfl
      rw [hjoin]
      exact (quoteSegment segment).append (hpoint.append ih)

/-- A name leaves nothing open, provided that names are quoted. -/
theorem quoteIdentifier {settings : QuoteSettings} (hquote : settings.quoteIdentifiers = true)
    (name : String) :
    Alike settings.escapeBackslashes (settings.quoteIdentifier name).toList
      (settings.quoteIdentifier name).toList := by
  unfold QuoteSettings.quoteIdentifier
  rw [if_pos hquote, String.toList_ofList]
  exact join_quoteSegment _

end Alike

end SearchSql
