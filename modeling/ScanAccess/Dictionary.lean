/-! # Dictionaries in order of insertion

A dictionary is a list of keys with their values. Putting a value under a key
that is present replaces the value and leaves the key in its place; a new key
goes to the end.
-/

namespace ScanAccess.Dictionary

variable {κ α β : Type} [BEq κ]

/-- Puts a value under a key. -/
def put (key : κ) (value : α) : List (κ × α) → List (κ × α)
  | [] => [(key, value)]
  | (k, v) :: rest => if k == key then (k, value) :: rest else (k, v) :: put key value rest

/-- Puts the entries of a list one after the other, so that the last value of a key stays. -/
def ofList (entries : List (κ × α)) : List (κ × α) :=
  entries.foldl (fun dict (key, value) => put key value dict) []

/-- The value under a key. -/
def get? (dict : List (κ × α)) (key : κ) : Option α :=
  (dict.find? fun entry => entry.1 == key).map Prod.snd

theorem get?_put [LawfulBEq κ] (dict : List (κ × α)) (key other : κ) (value : α) :
    get? (put key value dict) other = if key == other then some value else get? dict other := by
  induction dict with
  | nil => by_cases h : key == other <;> simp [put, get?, h]
  | cons entry rest ih =>
    obtain ⟨k, v⟩ := entry
    simp only [get?] at ih
    by_cases hk : k == key
    · have : k = key := by simpa using hk
      subst this
      by_cases h : k == other <;> simp [put, get?, h]
    · by_cases h : k == other
      · have : k = other := by simpa using h
        subst this
        have hne : (key == k) = false :=
          beq_eq_false_iff_ne.2 fun heq => hk (beq_iff_eq.2 heq.symm)
        simp [put, get?, hk, hne]
      · simp [put, get?, hk, h, ih]

section Keys

variable [LawfulBEq κ]

theorem put_of_not_mem {key : κ} {value : α} {dict : List (κ × α)}
    (h : key ∉ dict.map Prod.fst) : put key value dict = dict ++ [(key, value)] := by
  induction dict with
  | nil => rfl
  | cons entry rest ih =>
      rw [List.map_cons, List.mem_cons, not_or] at h
      have hkey : ¬ (entry.1 == key) = true := fun heq => h.1 (beq_iff_eq.mp heq).symm
      rw [put, if_neg hkey, ih h.2, List.cons_append]

theorem mem_keys_put {key other : κ} {value : α} {dict : List (κ × α)} :
    other ∈ (put key value dict).map Prod.fst ↔ other = key ∨ other ∈ dict.map Prod.fst := by
  induction dict with
  | nil => simp [put]
  | cons entry rest ih =>
      rw [put]
      split
      next hkey =>
        rw [List.map_cons, List.map_cons, List.mem_cons, beq_iff_eq.mp hkey]
        simp
      next =>
        rw [List.map_cons, List.map_cons, List.mem_cons, List.mem_cons, ih]
        exact or_left_comm

theorem mem_of_mem_put {key : κ} {value : α} {dict : List (κ × α)} {entry : κ × α}
    (h : entry ∈ put key value dict) : entry = (key, value) ∨ entry ∈ dict := by
  induction dict with
  | nil => exact Or.inl (List.mem_singleton.mp h)
  | cons first rest ih =>
      rw [put] at h
      split at h
      next hkey =>
        rw [beq_iff_eq.mp hkey, List.mem_cons] at h
        exact h.imp_right (List.mem_cons_of_mem first)
      next =>
        rcases List.mem_cons.mp h with rfl | h
        · exact Or.inr List.mem_cons_self
        · exact (ih h).imp_right (List.mem_cons_of_mem first)

theorem mem_of_mem_ofList {entries : List (κ × α)} {entry : κ × α} (h : entry ∈ ofList entries) :
    entry ∈ entries := by
  suffices hfold : ∀ dict : List (κ × α),
      entry ∈ entries.foldl (fun dict entry => put entry.1 entry.2 dict) dict →
        entry ∈ entries ∨ entry ∈ dict from
    (hfold [] h).resolve_right List.not_mem_nil
  clear h
  induction entries with
  | nil => exact fun dict hmem => Or.inr hmem
  | cons first rest ih =>
      intro dict hmem
      rcases ih _ hmem with hmem | hmem
      · exact Or.inl (List.mem_cons_of_mem first hmem)
      · rcases mem_of_mem_put hmem with rfl | hmem
        · exact Or.inl List.mem_cons_self
        · exact Or.inr hmem

theorem nodup_keys_put {key : κ} {value : α} {dict : List (κ × α)}
    (h : (dict.map Prod.fst).Nodup) : ((put key value dict).map Prod.fst).Nodup := by
  induction dict with
  | nil => simp [put]
  | cons entry rest ih =>
      obtain ⟨hentry, hrest⟩ := List.nodup_cons.mp h
      rw [put]
      split
      next => exact h
      next hkey =>
        refine List.nodup_cons.mpr ⟨fun hmem => ?_, ih hrest⟩
        rcases mem_keys_put.mp hmem with heq | hmem
        · exact hkey (beq_iff_eq.mpr heq)
        · exact hentry hmem

/-- A dictionary has each key once. -/
theorem nodup_keys_ofList (entries : List (κ × α)) : ((ofList entries).map Prod.fst).Nodup := by
  suffices h : ∀ dict : List (κ × α), (dict.map Prod.fst).Nodup →
      ((entries.foldl (fun dict entry => put entry.1 entry.2 dict) dict).map Prod.fst).Nodup from
    h [] List.nodup_nil
  induction entries with
  | nil => exact fun dict hdict => hdict
  | cons entry rest ih => exact fun dict hdict => ih _ (nodup_keys_put hdict)

/-- Entries with different keys are a dictionary as they are. -/
theorem ofList_of_nodup {entries : List (κ × α)} (h : (entries.map Prod.fst).Nodup) :
    ofList entries = entries := by
  suffices hfold : ∀ dict : List (κ × α), ((dict ++ entries).map Prod.fst).Nodup →
      entries.foldl (fun dict entry => put entry.1 entry.2 dict) dict = dict ++ entries from
    hfold [] h
  induction entries with
  | nil => simp
  | cons entry rest ih =>
      intro dict hdict
      have hsplit : (dict ++ [entry] ++ rest).map Prod.fst =
          (dict ++ entry :: rest).map Prod.fst := by
        rw [List.append_assoc, List.singleton_append]
      have hmem : entry.1 ∉ dict.map Prod.fst := by
        rw [List.map_append, List.map_cons] at hdict
        exact fun hmem => (List.nodup_append.mp hdict).2.2 _ hmem _ List.mem_cons_self rfl
      rw [List.foldl_cons, put_of_not_mem hmem, ih (List.nodup_cons.mp h).2 _ (hsplit ▸ hdict),
        List.append_assoc, List.singleton_append]

/-- Where each key stands once, its value is the one it stands with. -/
theorem get?_eq_some_iff {dict : List (κ × α)}
    (h : (dict.map Prod.fst).Nodup) {key : κ} {value : α} :
    get? dict key = some value ↔ (key, value) ∈ dict := by
  induction dict with
  | nil => simp [get?]
  | cons entry rest ih =>
      obtain ⟨hentry, hrest⟩ := List.nodup_cons.mp h
      rw [get?, List.find?_cons, List.mem_cons]
      cases hkey : entry.1 == key with
      | true =>
          have heq : entry.1 = key := beq_iff_eq.mp hkey
          have hnot : (key, value) ∉ rest :=
            fun hmem => hentry (heq ▸ List.mem_map_of_mem hmem)
          rw [or_iff_left hnot, ← heq]
          simp [Prod.ext_iff, eq_comm]
      | false =>
          have hne : (key, value) ≠ entry := by
            rintro rfl
            simp at hkey
          rw [or_iff_right hne]
          exact ih hrest

end Keys

section Map

variable [LawfulBEq κ]

theorem put_map (f : κ → α → β) (key : κ) (value : α) (dict : List (κ × α)) :
    put key (f key value) (dict.map fun entry => (entry.1, f entry.1 entry.2)) =
      (put key value dict).map fun entry => (entry.1, f entry.1 entry.2) := by
  induction dict with
  | nil => rfl
  | cons entry rest ih =>
      obtain ⟨k, v⟩ := entry
      by_cases hkey : k == key
      · have heq : k = key := beq_iff_eq.mp hkey
        simp [put, heq]
      · simp [put, hkey, ih]

theorem foldl_put_map (f : κ → α → β) (entries dict : List (κ × α)) :
    (entries.map fun entry => (entry.1, f entry.1 entry.2)).foldl
        (fun dict entry => put entry.1 entry.2 dict)
        (dict.map fun entry => (entry.1, f entry.1 entry.2)) =
      (entries.foldl (fun dict entry => put entry.1 entry.2 dict) dict).map
        fun entry => (entry.1, f entry.1 entry.2) := by
  induction entries generalizing dict with
  | nil => rfl
  | cons entry rest ih => rw [List.map_cons, List.foldl_cons, List.foldl_cons, put_map, ih]

/-- Values may be changed before or after a dictionary is made of them. -/
theorem ofList_map (f : κ → α → β) (entries : List (κ × α)) :
    ofList (entries.map fun entry => (entry.1, f entry.1 entry.2)) =
      (ofList entries).map fun entry => (entry.1, f entry.1 entry.2) :=
  foldl_put_map f entries []

theorem get?_map (f : κ → α → β) (dict : List (κ × α)) (key : κ) :
    get? (dict.map fun entry => (entry.1, f entry.1 entry.2)) key =
      (get? dict key).map (f key) := by
  induction dict with
  | nil => rfl
  | cons entry rest ih =>
      obtain ⟨k, v⟩ := entry
      rw [List.map_cons, get?, get?, List.find?_cons, List.find?_cons]
      cases hkey : k == key with
      | true =>
          have heq : k = key := beq_iff_eq.mp hkey
          simp [heq]
      | false => exact ih

end Map

end ScanAccess.Dictionary
