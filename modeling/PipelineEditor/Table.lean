/-!
Tables keyed by text.

A `Table` is a finite map from texts, kept as its list of entries in ascending key order with one
entry per key. Writing a key that is present replaces its entry, so of two writes the later wins,
and listing the entries lists them sorted. Keys compare character by character, by code point.
-/

namespace PipelineEditor

/-- A finite map from texts, as its entries in ascending key order, one per key. -/
structure Table (α : Type) where
  entries : List (String × α)
  /-- The keys ascend strictly, so no key has two entries. -/
  ascending : entries.Pairwise fun a b => a.1 < b.1

namespace Table

variable {α β : Type}

@[ext] theorem ext {t t' : Table α} (h : t.entries = t'.entries) : t = t' := by
  cases t
  cases t'
  cases h
  rfl

/-- The table without entries. -/
def empty : Table α := ⟨[], List.Pairwise.nil⟩

instance : EmptyCollection (Table α) := ⟨empty⟩

instance : Inhabited (Table α) := ⟨empty⟩

instance [BEq α] : BEq (Table α) := ⟨fun a b => a.entries == b.entries⟩

/-- Inserts an entry into a list sorted by key, replacing an entry of the same key. -/
def insertEntry (key : String) (value : α) : List (String × α) → List (String × α)
  | [] => [(key, value)]
  | (k, v) :: rest =>
    if key < k then (key, value) :: (k, v) :: rest
    else if key = k then (key, value) :: rest
    else (k, v) :: insertEntry key value rest

theorem mem_insertEntry {key : String} {value : α} {p : String × α} :
    ∀ {l : List (String × α)}, p ∈ insertEntry key value l → p = (key, value) ∨ p ∈ l
  | [], h => by simpa [insertEntry] using h
  | (k, v) :: rest, h => by
    simp only [insertEntry] at h
    split at h
    · simpa using h
    · split at h
      · rcases List.mem_cons.mp h with h | h
        · exact .inl h
        · exact .inr (List.mem_cons_of_mem _ h)
      · rcases List.mem_cons.mp h with h | h
        · exact .inr (h ▸ List.mem_cons_self)
        · rcases mem_insertEntry h with h | h
          · exact .inl h
          · exact .inr (List.mem_cons_of_mem _ h)

/-- Of two different keys, one is below the other. -/
theorem lt_of_not_lt_of_ne {a b : String} (hlt : ¬ a < b) (hne : a ≠ b) : b < a := by
  apply Classical.byContradiction
  intro hgt
  exact hne (String.le_antisymm (String.not_lt.mp hgt) (String.not_lt.mp hlt))

/-- Inserting into a list of ascending keys keeps the keys ascending. -/
theorem insertEntry_ascending (key : String) (value : α) :
    ∀ {l : List (String × α)}, l.Pairwise (fun a b => a.1 < b.1) →
      (insertEntry key value l).Pairwise fun a b => a.1 < b.1
  | [], _ => List.pairwise_singleton _ _
  | (k, v) :: rest, h => by
    obtain ⟨hhead, hrest⟩ := List.pairwise_cons.mp h
    simp only [insertEntry]
    split
    · -- the new key goes first: it is below `k`, and so below every later key
      rename_i hlt
      refine List.Pairwise.cons (fun p hp => ?_) h
      rcases List.mem_cons.mp hp with rfl | hp
      · exact hlt
      · exact String.lt_trans hlt (hhead p hp)
    · split
      · rename_i heq
        subst heq
        exact List.Pairwise.cons hhead hrest
      · -- the new key goes after `k`
        rename_i hlt hne
        refine List.Pairwise.cons (fun p hp => ?_) (insertEntry_ascending key value hrest)
        rcases mem_insertEntry hp with rfl | hp
        · exact lt_of_not_lt_of_ne hlt hne
        · exact hhead p hp

/-- The value stored under a key. -/
def get? (t : Table α) (key : String) : Option α := t.entries.lookup key

/-- Whether a key has an entry. -/
def contains (t : Table α) (key : String) : Bool := (t.get? key).isSome

/-- Stores a value under a key, replacing the value stored there before. -/
def insert (t : Table α) (key : String) (value : α) : Table α :=
  ⟨insertEntry key value t.entries, insertEntry_ascending key value t.ascending⟩

/-- Removes the entry of a key. -/
def erase (t : Table α) (key : String) : Table α :=
  ⟨t.entries.filter fun e => e.1 != key, t.ascending.filter _⟩

/-- Keeps the entries that satisfy a test. -/
def filter (t : Table α) (keep : String → α → Bool) : Table α :=
  ⟨t.entries.filter fun e => keep e.1 e.2, t.ascending.filter _⟩

/-- Applies a function to every value. -/
def map (t : Table α) (f : α → β) : Table β :=
  ⟨t.entries.map fun e => (e.1, f e.2), List.pairwise_map.mpr t.ascending⟩

/-- The table of a list of entries in any order; of two entries with one key the later wins. -/
def ofList (entries : List (String × α)) : Table α :=
  entries.foldl (fun t e => t.insert e.1 e.2) empty

/-- The keys, in ascending order. -/
def keys (t : Table α) : List String := t.entries.map Prod.fst

/-- The values, in ascending order of their keys. -/
def values (t : Table α) : List α := t.entries.map Prod.snd

/-- The number of entries. -/
def size (t : Table α) : Nat := t.entries.length

/-- Whether the table has no entries. -/
def isEmpty (t : Table α) : Bool := t.entries.isEmpty

/-- Changes the value under a key, if there is one. -/
def modify (t : Table α) (key : String) (f : α → α) : Table α :=
  ⟨t.entries.map fun e => if e.1 = key then (e.1, f e.2) else e,
    t.ascending.map _ fun _ _ h => by split <;> split <;> exact h⟩

@[simp] theorem get?_empty (key : String) : (empty : Table α).get? key = none := rfl

/-- Keeping the entries whose key passes a test keeps exactly the look-ups of those keys. -/
theorem get?_filter_key (t : Table α) (keep : String → Bool) (key : String) :
    (t.filter fun k _ => keep k).get? key = if keep key then t.get? key else none := by
  obtain ⟨entries, hasc⟩ := t
  simp only [filter, get?]
  clear hasc
  induction entries with
  | nil => simp
  | cons e rest ih =>
    obtain ⟨k, v⟩ := e
    simp only [List.filter_cons]
    by_cases hk : key = k
    · subst hk
      cases hkeep : keep key
      · simp [hkeep, ih]
      · simp
    · have hb : (key == k) = false := beq_eq_false_iff_ne.mpr hk
      cases keep k <;> simp [List.lookup_cons, hb, ih]

/-- Erasing a key forgets that key and keeps every other. -/
theorem get?_erase (t : Table α) (k key : String) :
    (t.erase k).get? key = if key = k then none else t.get? key := by
  have h : t.erase k = t.filter fun k' _ => k' != k := rfl
  rw [h, get?_filter_key]
  by_cases hk : key = k <;> simp [hk]

theorem lookup_cons_ne {k k' : String} (h : k ≠ k') (v : α) (l : List (String × α)) :
    ((k', v) :: l).lookup k = l.lookup k := by
  simp [List.lookup_cons, beq_eq_false_iff_ne.mpr h]

/-- Inserting into a sorted list answers the new value for its key and the old look-up for the
others, whatever order the list is in. -/
theorem lookup_insertEntry (key k : String) (value : α) (l : List (String × α)) :
    (insertEntry key value l).lookup k = if k = key then some value else l.lookup k := by
  induction l with
  | nil =>
    by_cases h : k = key
    · simp [insertEntry, h]
    · simp [insertEntry, h, lookup_cons_ne h]
  | cons e rest ih =>
    obtain ⟨k', v'⟩ := e
    simp only [insertEntry]
    by_cases hlt : key < k'
    · by_cases h : k = key
      · simp [hlt, h]
      · simp [hlt, h, lookup_cons_ne h]
    · by_cases heq : key = k'
      · subst heq
        by_cases h : k = key
        · simp [h]
        · simp [h, lookup_cons_ne h]
      · by_cases h : k = k'
        · subst h
          simp [hlt, heq, Ne.symm heq]
        · simp only [hlt, heq, if_false, lookup_cons_ne h, ih]

/-- Inserting an absent key adds it to the keys. -/
theorem insertEntry_keys_perm (key : String) (value : α) :
    ∀ l : List (String × α), (∀ p ∈ l, key ≠ p.1) →
      ((insertEntry key value l).map Prod.fst).Perm (key :: l.map Prod.fst)
  | [], _ => by simp [insertEntry]
  | (k', v') :: rest, absent => by
    have hne : key ≠ k' := absent (k', v') List.mem_cons_self
    simp only [insertEntry]
    by_cases hlt : key < k'
    · simp [hlt]
    · simp only [hlt, if_false, hne, List.map_cons]
      have rest_perm := insertEntry_keys_perm key value rest
        (fun p hp => absent p (List.mem_cons_of_mem _ hp))
      exact (rest_perm.cons k').trans (List.Perm.swap key k' _)

@[simp] theorem contains_eq_isSome (t : Table α) (key : String) :
    t.contains key = (t.get? key).isSome := rfl

@[simp] theorem get?_insert (t : Table α) (key k : String) (value : α) :
    (t.insert key value).get? k = if k = key then some value else t.get? k :=
  lookup_insertEntry key k value t.entries

@[simp] theorem get?_map (t : Table α) (f : α → β) (k : String) :
    (t.map f).get? k = (t.get? k).map f := by
  obtain ⟨entries, hasc⟩ := t
  simp only [map, get?]
  clear hasc
  induction entries with
  | nil => rfl
  | cons e rest ih =>
    obtain ⟨k', v'⟩ := e
    by_cases h : k = k'
    · subst h; simp
    · simp [lookup_cons_ne h, ih]

@[simp] theorem get?_modify (t : Table α) (key : String) (f : α → α) (k : String) :
    (t.modify key f).get? k = if k = key then (t.get? k).map f else t.get? k := by
  obtain ⟨entries, hasc⟩ := t
  simp only [modify, get?]
  clear hasc
  induction entries with
  | nil => simp
  | cons e rest ih =>
    obtain ⟨k', v'⟩ := e
    by_cases h : k = k'
    · subst h
      by_cases hk : k = key <;> simp [hk]
    · by_cases hk : k' = key
      · subst hk
        simp [h, lookup_cons_ne h, ih]
      · simp [hk, lookup_cons_ne h, ih]

theorem mem_entries_of_get? {t : Table α} {k : String} {v : α} (h : t.get? k = some v) :
    (k, v) ∈ t.entries := by
  obtain ⟨l₁, l₂, heq, -⟩ := List.lookup_eq_some_iff.mp h
  simp [heq]

/-- With one entry per key, an entry is what its key looks up. -/
theorem get?_of_mem_entries {t : Table α} {k : String} {v : α} (hnodup : t.keys.Nodup)
    (h : (k, v) ∈ t.entries) : t.get? k = some v := by
  obtain ⟨l₁, l₂, heq⟩ := List.append_of_mem h
  rw [get?, List.lookup_eq_some_iff]
  refine ⟨l₁, l₂, heq, fun p hp => ?_⟩
  -- no entry before `(k, v)` has key `k`, as the keys are distinct
  have hkeys : (l₁.map Prod.fst ++ k :: l₂.map Prod.fst).Nodup := by
    simpa [keys, heq] using hnodup
  have hne := (List.nodup_append.mp hkeys).2.2 p.1 (List.mem_map_of_mem hp) k List.mem_cons_self
  exact bne_iff_ne.mpr (Ne.symm hne)

theorem mem_entries_insert {t : Table α} {key : String} {value : α} {p : String × α}
    (h : p ∈ (t.insert key value).entries) : p = (key, value) ∨ p ∈ t.entries :=
  mem_insertEntry h

theorem mem_entries_foldl_insert {l : List (String × α)} {t : Table α} {p : String × α}
    (h : p ∈ (l.foldl (fun t e => t.insert e.1 e.2) t).entries) : p ∈ t.entries ∨ p ∈ l := by
  induction l generalizing t with
  | nil => exact .inl h
  | cons e rest ih =>
    rcases ih h with h | h
    · rcases mem_entries_insert h with rfl | h
      · exact .inr List.mem_cons_self
      · exact .inl h
    · exact .inr (List.mem_cons_of_mem _ h)

/-- Every entry of a table built from a list is an entry of the list. -/
theorem mem_entries_ofList {l : List (String × α)} {p : String × α} (h : p ∈ (ofList l).entries) :
    p ∈ l := by
  rcases mem_entries_foldl_insert h with h | h
  · cases h
  · exact h

theorem mem_keys_iff (t : Table α) (k : String) : k ∈ t.keys ↔ (t.get? k).isSome := by
  simp only [keys, get?, List.mem_map, List.lookup_isSome_iff, beq_iff_eq]
  exact ⟨fun ⟨p, hp, h⟩ => ⟨p, hp, h.symm⟩, fun ⟨p, hp, h⟩ => ⟨p, hp, h.symm⟩⟩

/-- A key that was absent joins the keys once. -/
theorem keys_insert_perm (t : Table α) (key : String) (value : α) (h : t.contains key = false) :
    (t.insert key value).keys.Perm (key :: t.keys) :=
  insertEntry_keys_perm key value t.entries (by simpa [get?] using h)

@[simp] theorem keys_map (t : Table α) (f : α → β) : (t.map f).keys = t.keys := by
  simp [map, keys]

@[simp] theorem keys_modify (t : Table α) (key : String) (f : α → α) :
    (t.modify key f).keys = t.keys := by
  simp only [modify, keys, List.map_map]
  congr 1
  funext e
  by_cases h : e.1 = key <;> simp [h]

theorem keys_erase (t : Table α) (key : String) :
    (t.erase key).keys = t.keys.filter (· != key) := by
  simp [erase, keys, List.filter_map]
  rfl

/-- Inserting the entries of a list that pass a test gives a key an entry exactly when it had one
or some entry passing the test has that key. -/
theorem isSome_get?_foldl_insert_if {β : Type} (l : List β) (test : β → Bool) (key : β → String)
    (value : β → α) (t : Table α) (k : String) :
    ((l.foldl (fun t x => if test x then t.insert (key x) (value x) else t) t).get? k).isSome ↔
      (t.get? k).isSome ∨ ∃ x ∈ l, test x = true ∧ k = key x := by
  induction l generalizing t with
  | nil => simp
  | cons x rest ih =>
    rw [List.foldl_cons, ih]
    by_cases hx : test x = true
    · by_cases hk : k = key x <;> simp [hx, hk]
    · simp only [hx, Bool.false_eq_true, if_false, List.mem_cons, exists_eq_or_imp, false_and,
        false_or]

/-- Inserting the entries of a list that pass a test gives a key the value those of its entries
agree on, or leaves its look-up when none has that key. -/
theorem get?_foldl_insert_if {β : Type} (l : List β) (test : β → Bool) (key : β → String)
    (value : β → α) (t : Table α) (k : String) (v : α)
    (hv : ∀ x ∈ l, test x = true → k = key x → value x = v) :
    (l.foldl (fun t x => if test x then t.insert (key x) (value x) else t) t).get? k =
      if ∃ x ∈ l, test x = true ∧ k = key x then some v else t.get? k := by
  induction l generalizing t with
  | nil => simp
  | cons x rest ih =>
    rw [List.foldl_cons, ih _ fun y hy => hv y (List.mem_cons_of_mem _ hy)]
    by_cases hx : test x = true
    · by_cases hk : k = key x
      · simp [hx, hk, hv x List.mem_cons_self hx hk]
      · simp [hx, hk]
    · simp [hx]

/-- Inserting the entries of a list gives a key an entry exactly when it had one or some entry
has that key. -/
theorem isSome_get?_foldl_insert {β : Type} (l : List β) (key : β → String) (value : β → α)
    (t : Table α) (k : String) :
    ((l.foldl (fun t x => t.insert (key x) (value x)) t).get? k).isSome ↔
      (t.get? k).isSome ∨ ∃ x ∈ l, k = key x := by
  have h := isSome_get?_foldl_insert_if l (fun _ => true) key value t k
  simpa using h

/-- In a list of ascending keys, a key names one entry. -/
theorem eq_of_mem_of_key_eq {l : List (String × α)} (hasc : l.Pairwise fun a b => a.1 < b.1)
    {p q : String × α} (hp : p ∈ l) (hq : q ∈ l) (hkey : p.1 = q.1) : p = q := by
  induction l with
  | nil => cases hp
  | cons e rest ih =>
    obtain ⟨hhead, hrest⟩ := List.pairwise_cons.mp hasc
    rcases List.mem_cons.mp hp with rfl | hp'
    · rcases List.mem_cons.mp hq with rfl | hq'
      · rfl
      · exact absurd (hkey ▸ hhead q hq') (String.lt_irrefl _)
    · rcases List.mem_cons.mp hq with rfl | hq'
      · exact absurd (hkey ▸ hhead p hp') (String.lt_irrefl _)
      · exact ih hrest hp' hq'

theorem keys_nodup (t : Table α) : t.keys.Nodup :=
  List.pairwise_map.mpr (t.ascending.imp fun h => String.ne_of_lt h)

/-- A key above every key of a list goes at its end. -/
theorem insertEntry_of_lt {key : String} {value : α} :
    ∀ {l : List (String × α)}, (∀ p ∈ l, p.1 < key) → insertEntry key value l = l ++ [(key, value)]
  | [], _ => rfl
  | (k, v) :: rest, h => by
    have hk : k < key := h (k, v) List.mem_cons_self
    have hrest : insertEntry key value rest = rest ++ [(key, value)] :=
      insertEntry_of_lt fun p hp => h p (List.mem_cons_of_mem _ hp)
    simp only [insertEntry, String.lt_asymm hk, (String.ne_of_lt hk).symm, if_false, hrest,
      List.cons_append]

/-- Inserting entries in ascending key order, each above every key already there, appends them. -/
theorem foldl_insert_of_ascending {t : Table α} {l : List (String × α)}
    (hasc : (t.entries ++ l).Pairwise fun a b => a.1 < b.1) :
    (l.foldl (fun t e => t.insert e.1 e.2) t).entries = t.entries ++ l := by
  induction l generalizing t with
  | nil => simp
  | cons e rest ih =>
    have habove : ∀ p ∈ t.entries, p.1 < e.1 :=
      fun p hp => (List.pairwise_append.mp hasc).2.2 p hp e List.mem_cons_self
    have hinsert : (t.insert e.1 e.2).entries = t.entries ++ [e] := insertEntry_of_lt habove
    rw [List.foldl_cons, ih (by rw [hinsert, List.append_assoc]; exact hasc), hinsert,
      List.append_assoc, List.singleton_append]

/-- A table built from a list of ascending keys lists exactly that list. -/
theorem ofList_entries_of_ascending {l : List (String × α)} (hasc : l.Pairwise fun a b => a.1 < b.1) :
    (ofList l).entries = l :=
  foldl_insert_of_ascending hasc

/-- A table rebuilt from its entries is the same table. -/
theorem ofList_entries (t : Table α) : ofList t.entries = t :=
  ext (ofList_entries_of_ascending t.ascending)

end Table

end PipelineEditor
