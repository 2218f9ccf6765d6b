import SearchSql.Proofs.Reading.Part
import SearchSql.Proofs.Skeleton

/-!
# Lists of names

A list of quoted names is read back name by name, whatever the names hold: commas, points and
backquotes inside of a segment stay between its backquotes. The skeleton of the list shows the same
from the outside. Of each segment it has the two backquotes or a lone star, and between the segments
and the names it has nothing but their separators.
-/

namespace SearchSql

/-- What stands of a quoted segment when its content is erased. Only a lone star is not quoted. -/
def segmentShape (segment : List Char) : List Char :=
  if segment = ['*'] then ['*'] else ['\x60', '\x60']

/-- What stands of a quoted name when the content of its segments is erased. -/
def nameShape (name : String) : String :=
  String.ofList (Text.join '.' ((Text.split '.' name.toList).map segmentShape))

/-- A scan that begins outside of literals and names keeps the shape of a text, and leaves nothing
open behind it. -/
structure LeavesShape (escapes : Bool) (text shape : List Char) : Prop where
  /-- Nothing is left open. -/
  isClosed : (Place.scan escapes .outside text).2.isClosed = true
  /-- What is kept, with the quote that may still be pending, is the shape. -/
  kept : (Place.scan escapes .outside text).1 ++ (Place.scan escapes .outside text).2.pending =
    shape

/-- Between two tokens a character that opens nothing is kept behind what is still pending. -/
theorem Place.step_of_isClosed (escapes : Bool) {place : Place} (hplace : place.isClosed = true)
    {c : Char} (hquote : c ≠ '\'') (hbackquote : c ≠ '\x60') :
    step escapes place c = (place.pending ++ [c], .outside) := by
  cases place <;> simp_all [step, enter, pending, isClosed]

namespace LeavesShape

variable {escapes : Bool}

/-- An empty text leaves nothing. -/
theorem nil : LeavesShape escapes [] [] := ⟨rfl, rfl⟩

/-- A separator keeps its place between two texts. -/
theorem append_cons {text shape rest restShape : List Char} {c : Char}
    (htext : LeavesShape escapes text shape) (hquote : c ≠ '\'') (hbackquote : c ≠ '\x60')
    (hrest : LeavesShape escapes rest restShape) :
    LeavesShape escapes (text ++ c :: rest) (shape ++ c :: restShape) := by
  have hstep := Place.step_of_isClosed escapes htext.isClosed hquote hbackquote
  constructor
  · rw [Place.scan_append, Place.scan_cons, hstep]
    exact hrest.isClosed
  · rw [Place.scan_append, Place.scan_cons, hstep, ← htext.kept, ← hrest.kept]
    simp only [List.append_assoc, List.cons_append, List.nil_append]

/-- Of a segment its backquotes are left, or a lone star. -/
theorem quoteSegment (segment : List Char) :
    LeavesShape escapes (QuoteSettings.quoteSegment segment) (segmentShape segment) := by
  unfold QuoteSettings.quoteSegment segmentShape
  by_cases hstar : segment = ['*']
  · rw [if_pos hstar, if_pos hstar]
    exact ⟨rfl, rfl⟩
  · have hscan : Place.scan escapes .outside
        ('\x60' :: ((segment.flatMap fun c => if c = '\x60' then [c, c] else [c]) ++ ['\x60'])) =
          (['\x60'], .nameEnd) := by
      have hopen : Place.step escapes .outside '\x60' = (['\x60'], .name) := rfl
      rw [Place.scan_cons, hopen, Place.scan_append, Place.scan_name_doubled]
      rfl
    rw [if_neg hstar, if_neg hstar]
    constructor
    · rw [hscan]
      rfl
    · rw [hscan]
      rfl

/-- Segments with points between them leave their shapes with points between them. -/
theorem join_quoteSegment (segments : List (List Char)) :
    LeavesShape escapes (Text.join '.' (segments.map QuoteSettings.quoteSegment))
      (Text.join '.' (segments.map segmentShape)) := by
  induction segments with
  | nil => exact nil
  | cons segment segments ih =>
    cases segments with
    | nil => exact quoteSegment segment
    | cons next segments => exact (quoteSegment segment).append_cons (by decide) (by decide) ih

/-- A quoted name leaves its shape. -/
theorem quoteIdentifier {settings : QuoteSettings} (hquote : settings.quoteIdentifiers = true)
    (name : String) :
    LeavesShape escapes (settings.quoteIdentifier name).toList (nameShape name).toList := by
  unfold QuoteSettings.quoteIdentifier nameShape
  rw [if_pos hquote, String.toList_ofList, String.toList_ofList]
  exact join_quoteSegment _

/-- Texts with a comma and a space between them leave their shapes, separated alike. -/
theorem intercalate {texts shapes : List (List Char)}
    (h : List.Forall₂ (LeavesShape escapes) texts shapes) :
    LeavesShape escapes (", ".toList.intercalate texts) (", ".toList.intercalate shapes) := by
  induction h with
  | nil => exact nil
  | cons hfirst hothers ih =>
    cases hothers with
    | nil => simpa using hfirst
    | cons hnext hrest =>
      have hspace := nil.append_cons (c := ' ') (by decide) (by decide) ih
      rw [List.intercalate_cons_cons, List.intercalate_cons_cons, List.append_assoc,
        List.append_assoc]
      exact hfirst.append_cons (c := ',') (by decide) (by decide) hspace

/-- The skeleton of a text is the shape that the text leaves. -/
theorem skeleton_eq {text shape : String} (h : LeavesShape escapes text.toList shape.toList) :
    skeleton escapes text = shape := by
  unfold skeleton
  exact (congrArg String.ofList h.kept).trans String.ofList_toList

end LeavesShape

namespace Reading

/-- Quoting a list of names can be undone, and nothing of the names stands outside of their quotes.
A reader takes exactly the list from the front of a text, whatever text stands behind it that goes
on neither with the last name nor with another one. The skeleton of the list is made of the shapes
of its names. -/
theorem takeSeparated_quoteIdentifierList {settings : QuoteSettings}
    (hquote : settings.quoteIdentifiers = true) {names : List String} (hne : names ≠ [])
    {tail : List Char} (htail : EndsName tail) (hcomma : tail.head? ≠ some ',') :
    takeSeparated readIdentifier
        ((settings.quoter.quoteIdentifierList names).toList ++ tail) = some (names, tail) ∧
      ∀ escapes, skeleton escapes (settings.quoter.quoteIdentifierList names) =
        ", ".intercalate (names.map nameShape) := by
  have hlist : settings.quoter.quoteIdentifierList names =
      ", ".intercalate (names.map settings.quoteIdentifier) := rfl
  have hread : List.Forall₂ (ReadsAs readIdentifier EndsName) names
      ((names.map settings.quoteIdentifier).map String.toList) := by
    rw [List.forall₂_map_right_iff, List.forall₂_map_right_iff, List.forall₂_same]
    exact fun name _ => readsAs_quotedName hquote name
  have hshapes (escapes : Bool) : List.Forall₂ (LeavesShape escapes)
      ((names.map settings.quoteIdentifier).map String.toList)
      ((names.map nameShape).map String.toList) := by
    simp only [List.forall₂_map_right_iff, List.forall₂_map_left_iff, List.forall₂_same]
    exact fun name _ => .quoteIdentifier hquote name
  constructor
  · rw [hlist, String.toList_intercalate]
    exact ReadsAs.separated hread hne (fun rest => ⟨by simp, by simp⟩) tail ⟨htail, hcomma⟩
  · intro escapes
    apply LeavesShape.skeleton_eq
    rw [hlist, String.toList_intercalate, String.toList_intercalate]
    exact .intercalate (hshapes escapes)

/-- Separators and backquotes inside of names are read as their content, an empty name is kept, and
the reading stops before a star that follows the list. -/
theorem takeSeparated_quoteIdentifierList_separators :
    let names := ["a\x60.\x60b", "", "t.*", "\x60, \x60", "*"]
    names ≠ [] ∧ EndsName ['*'] ∧ ['*'].head? ≠ some ',' ∧
      (QuoteSettings.quoter ⟨true, true⟩).quoteIdentifierList names =
        "\x60a\x60\x60\x60.\x60\x60\x60b\x60, \x60\x60, \x60t\x60.*, " ++
          "\x60\x60\x60, \x60\x60\x60, *" ∧
      takeSeparated readIdentifier
          (((QuoteSettings.quoter ⟨true, true⟩).quoteIdentifierList names).toList ++ ['*']) =
        some (names, ['*']) ∧
      skeleton true ((QuoteSettings.quoter ⟨true, true⟩).quoteIdentifierList names) =
        "\x60\x60.\x60\x60, \x60\x60, \x60\x60.*, \x60\x60, *" := by
  intro names
  have hne : names ≠ [] := List.cons_ne_nil _ _
  have htail : EndsName ['*'] := ⟨by decide, by decide⟩
  have hcomma : ['*'].head? ≠ some ',' := by decide
  have hquote : (⟨true, true⟩ : QuoteSettings).quoteIdentifiers = true := rfl
  obtain ⟨hread, hskeleton⟩ := takeSeparated_quoteIdentifierList hquote hne htail hcomma
  exact ⟨hne, htail, hcomma, rfl, hread, hskeleton true⟩

end Reading

end SearchSql
