/-!
# Lists of entries by key

Fields of an object, options and attribute types are kept as a list of entries in the
order in which their keys were first given. Giving a key again changes its entry in
place. The lemmas say what this does to the keys and to the value found under each key.
-/

namespace SearchSql.Keyed

variable {κ α : Type} [DecidableEq κ]

/-- The entry of a key that is present gets the new value in place; a new key goes last. -/
def set (key : κ) (value : α) : List (κ × α) → List (κ × α)
  | [] => [(key, value)]
  | entry :: rest =>
    if entry.1 = key then (key, value) :: rest else entry :: set key value rest

/-- Entries set one after another. -/
def ofSets (sets : List (κ × α)) : List (κ × α) :=
  sets.foldl (fun entries given => set given.1 given.2 entries) []

/-- The value of the first entry with the given key. -/
def get? (key : κ) : List (κ × α) → Option α
  | [] => none
  | entry :: rest => if entry.1 = key then some entry.2 else get? key rest

/-- Setting leaves the keys as they are, or adds the new key at the end. -/
theorem keys_set (key : κ) (value : α) (entries : List (κ × α)) :
    (set key value entries).map Prod.fst =
      if key ∈ entries.map Prod.fst then entries.map Prod.fst
      else entries.map Prod.fst ++ [key] := by
  induction entries with
  | nil => rfl
  | cons entry rest ih =>
    unfold set
    by_cases h : entry.1 = key
    · simp [h]
    · have hne : ¬key = entry.1 := fun heq => h heq.symm
      rw [if_neg h, List.map_cons, List.map_cons, ih]
      by_cases hmem : key ∈ rest.map Prod.fst
      · simp only [List.mem_cons, hne, false_or, if_pos hmem]
      · simp only [List.mem_cons, hne, false_or, if_neg hmem, List.cons_append]

/-- No key occurs twice if none did before. -/
theorem nodup_keys_set (key : κ) (value : α) {entries : List (κ × α)}
    (h : (entries.map Prod.fst).Nodup) : ((set key value entries).map Prod.fst).Nodup := by
  rw [keys_set]
  split
  · exact h
  · next hmem =>
    rw [List.nodup_append]
    refine ⟨h, by simp, ?_⟩
    intro a ha b hb heq
    rw [List.mem_singleton] at hb
    exact hmem (hb ▸ heq ▸ ha)

/-- No key occurs twice, however often keys are set. -/
theorem nodup_keys_ofSets (sets : List (κ × α)) : ((ofSets sets).map Prod.fst).Nodup :=
  List.foldlRecOn (motive := fun entries : List (κ × α) => (entries.map Prod.fst).Nodup) sets _
    (by simp) fun _ hentries given _ => nodup_keys_set given.1 given.2 hentries

/-- An entry that is there after a set was there before, or is the new one. -/
theorem eq_or_mem_of_mem_set {key : κ} {value : α} {entries : List (κ × α)} {entry : κ × α}
    (h : entry ∈ set key value entries) : entry = (key, value) ∨ entry ∈ entries := by
  induction entries with
  | nil => exact .inl (List.mem_singleton.mp h)
  | cons first rest ih =>
    unfold set at h
    by_cases hkey : first.1 = key
    · rw [if_pos hkey, List.mem_cons] at h
      exact h.imp_right (List.mem_cons_of_mem first)
    · rw [if_neg hkey, List.mem_cons] at h
      rcases h with rfl | h
      · exact .inr List.mem_cons_self
      · exact (ih h).imp_right (List.mem_cons_of_mem first)

/-- Every entry was set. -/
theorem mem_of_mem_ofSets {sets : List (κ × α)} : ∀ entry ∈ ofSets sets, entry ∈ sets :=
  List.foldlRecOn (motive := fun entries : List (κ × α) => ∀ entry ∈ entries, entry ∈ sets) sets _
    (fun _ h => absurd h List.not_mem_nil) fun _ hentries given hgiven entry h =>
      (eq_or_mem_of_mem_set h).elim (fun heq => heq ▸ hgiven) (hentries entry)

/-- What is found under a key stands there. -/
theorem mem_of_get?_eq_some {key : κ} {value : α} {entries : List (κ × α)}
    (h : get? key entries = some value) : (key, value) ∈ entries := by
  induction entries with
  | nil => cases h
  | cons first rest ih =>
    unfold get? at h
    by_cases hkey : first.1 = key
    · rw [if_pos hkey] at h
      obtain rfl := Option.some.inj h
      exact hkey ▸ List.mem_cons_self
    · rw [if_neg hkey] at h
      exact List.mem_cons_of_mem first (ih h)

/-- If no key occurs twice, each entry is the one found under its key. -/
theorem get?_eq_some_of_mem {entries : List (κ × α)} (hnodup : (entries.map Prod.fst).Nodup)
    {entry : κ × α} (h : entry ∈ entries) : get? entry.1 entries = some entry.2 := by
  induction entries with
  | nil => exact absurd h List.not_mem_nil
  | cons first rest ih =>
    obtain ⟨hfirst, hrest⟩ := List.nodup_cons.mp hnodup
    rcases List.mem_cons.mp h with rfl | hmem
    · rw [get?, if_pos rfl]
    · have hne : first.1 ≠ entry.1 := fun heq => hfirst (heq ▸ List.mem_map_of_mem hmem)
      rw [get?, if_neg hne, ih hrest hmem]

/-- The value set last is the one found. -/
theorem get?_set_self (key : κ) (value : α) (entries : List (κ × α)) :
    get? key (set key value entries) = some value := by
  induction entries with
  | nil => simp [set, get?]
  | cons entry rest ih =>
    unfold set
    by_cases h : entry.1 = key
    · simp [h, get?]
    · simp [h, get?, ih]

/-- Setting one key changes nothing under another. -/
theorem get?_set_of_ne {key other : κ} (h : other ≠ key) (value : α)
    (entries : List (κ × α)) : get? other (set key value entries) = get? other entries := by
  induction entries with
  | nil => simp [set, get?, Ne.symm h]
  | cons entry rest ih =>
    unfold set
    by_cases hkey : entry.1 = key
    · simp [hkey, get?, Ne.symm h]
    · rw [if_neg hkey]
      simp only [get?, ih]

/-- It does not matter in which order two keys that are present get their new values. -/
theorem set_comm {key other : κ} (h : key ≠ other) {entries : List (κ × α)}
    (hkey : key ∈ entries.map Prod.fst) (hother : other ∈ entries.map Prod.fst)
    (value another : α) :
    set other another (set key value entries) = set key value (set other another entries) := by
  induction entries with
  | nil => exact absurd hkey List.not_mem_nil
  | cons entry rest ih =>
    by_cases hfirst : entry.1 = key
    · simp [set, hfirst, h]
    · by_cases hsecond : entry.1 = other
      · simp [set, hsecond, Ne.symm h]
      · -- Neither key is that of the first entry, so both are those of entries behind it.
        have hkeyRest : key ∈ rest.map Prod.fst :=
          (List.mem_cons.mp hkey).resolve_left (Ne.symm hfirst)
        have hotherRest : other ∈ rest.map Prod.fst :=
          (List.mem_cons.mp hother).resolve_left (Ne.symm hsecond)
        simp [set, hfirst, hsecond, ih hkeyRest hotherRest]

end SearchSql.Keyed
