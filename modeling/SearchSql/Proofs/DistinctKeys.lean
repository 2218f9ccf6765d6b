import Mathlib.Data.List.Perm.Subperm
import SearchSql.Document.Encode
import SearchSql.Proofs.Results

/-!
# Objects with distinct keys

JSON data has each key of an object once. Fields that are set one after another keep to this, and so
does all data that is written as a document. Equality of objects looks fields up by their keys and
pays no regard to their order. Where keys are distinct, this makes it an equivalence.
-/

namespace SearchSql

/-! ### Equality of numbers -/

/-- Equal doubles are numbers, and are the same or both zero. -/
theorem Binary64.equals_iff {x y : Binary64} :
    x.equals y = true ↔ (x.isNaN = false ∧ y.isNaN = false) ∧
      (x = y ∨ x.isZero = true ∧ y.isZero = true) := by
  obtain ⟨xbits⟩ := x
  obtain ⟨ybits⟩ := y
  simp [equals]

namespace Number

/-- A number equals itself, as its double is finite. -/
theorem equals_self (number : Number) : number.equals number = true := by
  cases number with
  | natural n => exact beq_self_eq_true n
  | negative n _ => exact beq_self_eq_true n
  | real x hfinite =>
    have hnumber := Binary64.isNaN_of_isFinite hfinite
    exact Binary64.equals_iff.mpr ⟨⟨hnumber, hnumber⟩, .inl rfl⟩

/-- Equality of numbers goes both ways. -/
theorem equals_symm : (m n : Number) → m.equals n = true → n.equals m = true
  | .natural _, .natural _, h => beq_iff_eq.mpr (beq_iff_eq.mp h).symm
  | .negative _ _, .negative _ _, h => beq_iff_eq.mpr (beq_iff_eq.mp h).symm
  | .real _ _, .real _ _, h => by
    obtain ⟨hnumbers, hsame⟩ := Binary64.equals_iff.mp h
    exact Binary64.equals_iff.mpr ⟨hnumbers.symm, hsame.imp Eq.symm And.symm⟩

/-- Equality of numbers passes on. -/
theorem equals_trans : (l m n : Number) → l.equals m = true → m.equals n = true →
    l.equals n = true
  | .natural _, .natural _, .natural _, hlm, hmn =>
    beq_iff_eq.mpr ((beq_iff_eq.mp hlm).trans (beq_iff_eq.mp hmn))
  | .negative _ _, .negative _ _, .negative _ _, hlm, hmn =>
    beq_iff_eq.mpr ((beq_iff_eq.mp hlm).trans (beq_iff_eq.mp hmn))
  | .real x _, .real _ _, .real z _, hlm, hmn => by
    obtain ⟨hnumbers, hsame⟩ := Binary64.equals_iff.mp hlm
    obtain ⟨hnumbers', hsame'⟩ := Binary64.equals_iff.mp hmn
    have hends : x = z ∨ x.isZero = true ∧ z.isZero = true := by
      rcases hsame with rfl | hzero
      · exact hsame'
      · rcases hsame' with rfl | hzero'
        · exact .inr hzero
        · exact .inr ⟨hzero.1, hzero'.2⟩
    exact Binary64.equals_iff.mpr ⟨⟨hnumbers.1, hnumbers'.2⟩, hends⟩

end Number

namespace Document

/-! ### Documents with distinct keys -/

/-- The values of fields are looked at one by one. -/
theorem fieldsHaveDistinctKeys_iff {fields : List (String × Document)} :
    FieldsHaveDistinctKeys fields ↔ ∀ field ∈ fields, field.2.HasDistinctKeys := by
  induction fields with
  | nil => exact iff_of_true trivial fun _ h => absurd h List.not_mem_nil
  | cons field rest ih => rw [List.forall_mem_cons, ← ih, FieldsHaveDistinctKeys]

/-- Fields set one after another give an object with distinct keys. -/
theorem hasDistinctKeys_ofFields {fields : List (String × Document)}
    (h : ∀ field ∈ fields, field.2.HasDistinctKeys) : (ofFields fields).HasDistinctKeys := by
  refine ⟨Keyed.nodup_keys_ofSets fields, fieldsHaveDistinctKeys_iff.mpr fun field hmem => ?_⟩
  exact h field (Keyed.mem_of_mem_ofSets field hmem)

/-- Each field of the first object has an equal one under its key in the second. -/
theorem fieldsWithin_iff {as bs : List (String × Document)} :
    fieldsWithin as bs = true ↔
      ∀ field ∈ as, ∃ other, Keyed.get? field.1 bs = some other ∧ field.2.equals other = true := by
  induction as with
  | nil => exact iff_of_true rfl fun _ h => absurd h List.not_mem_nil
  | cons field rest ih =>
    rw [fieldsWithin, Bool.and_eq_true, List.forall_mem_cons, ih]
    refine and_congr_left' ?_
    cases Keyed.get? field.1 bs with
    | none => simp
    | some other => simp

/-- Objects are equal if they are equally large and each field of one has an equal in the other. -/
theorem equals_object_iff {as bs : List (String × Document)} :
    (object as).equals (object bs) = true ↔ as.length = bs.length ∧
      ∀ field ∈ as, ∃ other, Keyed.get? field.1 bs = some other ∧ field.2.equals other = true := by
  rw [equals, Bool.and_eq_true, beq_iff_eq, fieldsWithin_iff]

mutual

/-- A document with distinct keys equals itself. -/
theorem equals_self : (document : Document) → document.HasDistinctKeys →
    document.equals document = true
  | .null, _ => rfl
  | .bool b, _ => beq_self_eq_true b
  | .number n, _ => n.equals_self
  | .string s, _ => beq_self_eq_true s
  | .array items, h => itemsEqual_self items h
  | .object fields, h => equals_object_iff.mpr ⟨rfl, fun field hmem =>
      ⟨field.2, Keyed.get?_eq_some_of_mem h.1 hmem, fields_equals_self fields h.2 field hmem⟩⟩

/-- Elements with distinct keys equal themselves. -/
theorem itemsEqual_self : (items : List Document) → ItemsHaveDistinctKeys items →
    itemsEqual items items = true
  | [], _ => rfl
  | item :: rest, h => by
    rw [itemsEqual, equals_self item h.1, itemsEqual_self rest h.2]
    rfl

/-- The values of fields with distinct keys equal themselves. -/
theorem fields_equals_self : (fields : List (String × Document)) →
    FieldsHaveDistinctKeys fields → ∀ field ∈ fields, field.2.equals field.2 = true
  | [], _ => fun _ h => absurd h List.not_mem_nil
  | (_, value) :: rest, h =>
    List.forall_mem_cons.mpr ⟨equals_self value h.1, fields_equals_self rest h.2⟩

end

/-- The second of two equal objects has no key of its own: those of the first are among its keys
and are as many. -/
theorem keys_subset_of_equals {as bs : List (String × Document)}
    (has : (as.map Prod.fst).Nodup) (h : (object as).equals (object bs) = true) :
    bs.map Prod.fst ⊆ as.map Prod.fst := by
  obtain ⟨hlength, hwithin⟩ := equals_object_iff.mp h
  have hsubset : as.map Prod.fst ⊆ bs.map Prod.fst := by
    intro key hkey
    obtain ⟨field, hfield, rfl⟩ := List.mem_map.mp hkey
    obtain ⟨other, hother, _⟩ := hwithin field hfield
    exact List.mem_map.mpr ⟨_, Keyed.mem_of_get?_eq_some hother, rfl⟩
  have hcount : (bs.map Prod.fst).length ≤ (as.map Prod.fst).length := by
    simp [hlength]
  exact ((List.subperm_of_subset has hsubset).perm_of_length_le hcount).symm.subset

mutual

/-- Equality of documents with distinct keys goes both ways. -/
theorem equals_symm : (a b : Document) → a.HasDistinctKeys → b.HasDistinctKeys →
    a.equals b = true → b.equals a = true
  | .null, .null, _, _, _ => rfl
  | .bool _, .bool _, _, _, h => beq_iff_eq.mpr (beq_iff_eq.mp h).symm
  | .number m, .number n, _, _, h => m.equals_symm n h
  | .string _, .string _, _, _, h => beq_iff_eq.mpr (beq_iff_eq.mp h).symm
  | .array as, .array bs, has, hbs, h => itemsEqual_symm as bs has hbs h
  | .object as, .object bs, has, hbs, h => by
    have hkeys := keys_subset_of_equals has.1 h
    obtain ⟨hlength, hwithin⟩ := equals_object_iff.mp h
    refine equals_object_iff.mpr ⟨hlength.symm, fun field hfield => ?_⟩
    -- The key stands in the first object too, where its value has the given one as its equal.
    obtain ⟨other, hother, hkey⟩ := List.mem_map.mp (hkeys (List.mem_map_of_mem hfield))
    obtain ⟨found, hfound, hequal⟩ := hwithin other hother
    rw [hkey, Keyed.get?_eq_some_of_mem hbs.1 hfield] at hfound
    obtain rfl := Option.some.inj hfound
    refine ⟨other.2, hkey ▸ Keyed.get?_eq_some_of_mem has.1 hother, ?_⟩
    exact fields_equals_symm as has.2 other hother field.2
      (fieldsHaveDistinctKeys_iff.mp hbs.2 field hfield) hequal

/-- Equality of elements with distinct keys goes both ways. -/
theorem itemsEqual_symm : (as bs : List Document) → ItemsHaveDistinctKeys as →
    ItemsHaveDistinctKeys bs → itemsEqual as bs = true → itemsEqual bs as = true
  | [], [], _, _, _ => rfl
  | a :: as, b :: bs, has, hbs, h => by
    rw [itemsEqual, Bool.and_eq_true] at h ⊢
    exact ⟨equals_symm a b has.1 hbs.1 h.1, itemsEqual_symm as bs has.2 hbs.2 h.2⟩

/-- Equality with the values of fields goes both ways. -/
theorem fields_equals_symm : (fields : List (String × Document)) →
    FieldsHaveDistinctKeys fields → ∀ field ∈ fields, ∀ other : Document,
      other.HasDistinctKeys → field.2.equals other = true → other.equals field.2 = true
  | [], _ => fun _ h => absurd h List.not_mem_nil
  | (_, value) :: rest, h => List.forall_mem_cons.mpr
      ⟨fun other hother hequal => equals_symm value other h.1 hother hequal,
        fields_equals_symm rest h.2⟩

end

mutual

/-- Equality of documents passes on. -/
theorem equals_trans : (a b c : Document) → a.equals b = true → b.equals c = true →
    a.equals c = true
  | .null, .null, .null, _, _ => rfl
  | .bool _, .bool _, .bool _, hab, hbc =>
    beq_iff_eq.mpr ((beq_iff_eq.mp hab).trans (beq_iff_eq.mp hbc))
  | .number l, .number m, .number n, hab, hbc => l.equals_trans m n hab hbc
  | .string _, .string _, .string _, hab, hbc =>
    beq_iff_eq.mpr ((beq_iff_eq.mp hab).trans (beq_iff_eq.mp hbc))
  | .array as, .array bs, .array cs, hab, hbc => itemsEqual_trans as bs cs hab hbc
  | .object as, .object bs, .object cs, hab, hbc => by
    obtain ⟨hlength, hwithin⟩ := equals_object_iff.mp hab
    obtain ⟨hlength', hwithin'⟩ := equals_object_iff.mp hbc
    refine equals_object_iff.mpr ⟨hlength.trans hlength', fun field hfield => ?_⟩
    obtain ⟨middle, hmiddle, hequal⟩ := hwithin field hfield
    obtain ⟨last, hlast, hequal'⟩ := hwithin' _ (Keyed.mem_of_get?_eq_some hmiddle)
    exact ⟨last, hlast, fields_equals_trans as field hfield middle last hequal hequal'⟩

/-- Equality of elements passes on. -/
theorem itemsEqual_trans : (as bs cs : List Document) → itemsEqual as bs = true →
    itemsEqual bs cs = true → itemsEqual as cs = true
  | [], [], [], _, _ => rfl
  | a :: as, b :: bs, c :: cs, hab, hbc => by
    rw [itemsEqual, Bool.and_eq_true] at hab hbc ⊢
    exact ⟨equals_trans a b c hab.1 hbc.1, itemsEqual_trans as bs cs hab.2 hbc.2⟩

/-- Equality with the values of fields passes on. -/
theorem fields_equals_trans : (fields : List (String × Document)) → ∀ field ∈ fields,
    ∀ middle last : Document, field.2.equals middle = true → middle.equals last = true →
      field.2.equals last = true
  | [] => fun _ h => absurd h List.not_mem_nil
  | (_, value) :: rest => List.forall_mem_cons.mpr
      ⟨fun middle last => equals_trans value middle last, fields_equals_trans rest⟩

end

/-- Equality is an equivalence between documents whose objects have each key once. -/
instance setoid : Setoid { document : Document // document.HasDistinctKeys } where
  r a b := a.1.equals b.1 = true
  iseqv :=
    { refl := fun a => equals_self a.1 a.2
      symm := fun {a b} h => equals_symm a.1 b.1 a.2 b.2 h
      trans := fun {a b c} hab hbc => equals_trans a.1 b.1 c.1 hab hbc }

/-- An object that has a key twice does not even equal itself. -/
example :
    let twice : Document := object [("k", .null), ("k", .bool true)]
    twice.equals twice = false :=
  rfl

/-- Objects whose fields differ in their order alone are equal. -/
theorem equals_of_perm {as bs : List (String × Document)} (has : (object as).HasDistinctKeys)
    (h : as.Perm bs) : (object as).equals (object bs) = true := by
  have hbs : (bs.map Prod.fst).Nodup := (h.map Prod.fst).nodup has.1
  refine equals_object_iff.mpr ⟨h.length_eq, fun field hfield => ⟨field.2, ?_, ?_⟩⟩
  · exact Keyed.get?_eq_some_of_mem hbs (h.subset hfield)
  · exact fields_equals_self as has.2 field hfield

end Document

/-! ### Data -/

/-- Data that is written with each key once in every object. -/
class LawfulToDocument (α : Type) [ToDocument α] : Prop where
  /-- No object of the document has a key twice. -/
  hasDistinctKeys : ∀ {data : α} {document : Document},
    ToDocument.toDocument data = .ok document → document.HasDistinctKeys

namespace ToDocument

instance : LawfulToDocument Binary64 where
  hasDistinctKeys {x document} h := by
    obtain rfl := Except.ok.inj h
    rw [Value.toDocument]
    cases Number.ofBinary64? x <;> trivial

instance : LawfulToDocument Int where
  hasDistinctKeys {i document} h := by
    change ofInt i = .ok document at h
    unfold ofInt at h
    split at h
    · exact Except.ok.inj h ▸ trivial
    · split at h
      · exact Except.ok.inj h ▸ trivial
      · cases h

instance : LawfulToDocument String where
  hasDistinctKeys h := Except.ok.inj h ▸ trivial

/-- The entries of a map make an object with distinct keys, also if two keys have the same text. -/
theorem hasDistinctKeys_ofEntries {κ α : Type} [ToDocumentKey κ] [ToDocument α]
    [LawfulToDocument α] {entries : List (κ × α)} {document : Document}
    (h : ofEntries entries = .ok document) : document.HasDistinctKeys := by
  obtain ⟨fields, hfields, h⟩ := exists_of_bind_eq_ok h
  obtain rfl := Except.ok.inj h
  refine Document.hasDistinctKeys_ofFields ?_
  rw [mapM_eq_ok_iff_forall₂] at hfields
  refine ((List.forall₂_and_left fields entries).mp
    (hfields.flip.imp fun field entry hentry => ⟨?_, hentry⟩)).1
  obtain ⟨key, _, hentry⟩ := exists_of_bind_eq_ok hentry
  obtain ⟨value, hvalue, hentry⟩ := exists_of_bind_eq_ok hentry
  obtain rfl := Except.ok.inj hentry
  exact LawfulToDocument.hasDistinctKeys hvalue

instance {κ α : Type} {cmp : κ → κ → Ordering} [ToDocumentKey κ] [ToDocument α]
    [LawfulToDocument α] : LawfulToDocument (Std.TreeMap κ α cmp) where
  hasDistinctKeys h := hasDistinctKeys_ofEntries h

end ToDocument

end SearchSql
