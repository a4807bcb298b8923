/-!
Association lists keyed by text, the one dictionary of this library. An object, a section map and
an error report all keep their entries in ascending key order, and `insert` maintains that order
without assuming it: a key that is present keeps its place, a new one goes before the first
greater key. Because no operation asks for a sorted list, the laws below hold for every list of
entries.
-/

namespace ContentForms.Assoc

variable {α : Type u}

def get? (key : String) : List (String × α) → Option α
  | [] => none
  | (k, v) :: rest => if k = key then some v else get? key rest

def contains (key : String) (entries : List (String × α)) : Bool :=
  (get? key entries).isSome

/-- Overwrites the first entry under a key and leaves its place alone. -/
def replace (key : String) (value : α) : List (String × α) → List (String × α)
  | [] => []
  | (k, v) :: rest => if k = key then (k, value) :: rest else (k, v) :: replace key value rest

/-- Puts a new entry before the first one with a greater key. -/
def place (key : String) (value : α) : List (String × α) → List (String × α)
  | [] => [(key, value)]
  | (k, v) :: rest =>
      if key < k then (key, value) :: (k, v) :: rest else (k, v) :: place key value rest

def insert (key : String) (value : α) (entries : List (String × α)) : List (String × α) :=
  if contains key entries then replace key value entries else place key value entries

def erase (key : String) (entries : List (String × α)) : List (String × α) :=
  entries.filter fun entry => !decide (entry.1 = key)

/-- The entries in ascending key order; of two under one key the later one stays. -/
def ofList (entries : List (String × α)) : List (String × α) :=
  entries.foldl (fun acc entry => insert entry.1 entry.2 acc) []

/-- The entries whose key no earlier entry has, in order. -/
def firsts (entries : List (String × α)) : List (String × α) :=
  entries.foldl (fun kept entry => if contains entry.1 kept then kept else kept ++ [entry]) []

def keys (entries : List (String × α)) : List String :=
  entries.map Prod.fst

@[simp] theorem get?_nil (key : String) : get? key ([] : List (String × α)) = none := rfl

theorem get?_replace_self (key : String) (value : α) (entries : List (String × α))
    (h : contains key entries) : get? key (replace key value entries) = some value := by
  induction entries with
  | nil => simp [contains] at h
  | cons entry rest ih =>
      obtain ⟨k, v⟩ := entry
      by_cases hk : k = key
      · simp [replace, get?, hk]
      · have hrest : contains key rest := by simpa [contains, get?, hk] using h
        simp [replace, get?, hk, ih hrest]

theorem get?_replace_of_ne {key other : String} (hne : other ≠ key) (value : α)
    (entries : List (String × α)) :
    get? other (replace key value entries) = get? other entries := by
  induction entries with
  | nil => rfl
  | cons entry rest ih =>
      obtain ⟨k, v⟩ := entry
      by_cases hk : k = key
      · subst hk
        simp [replace, get?, Ne.symm hne]
      · simp [replace, get?, hk, ih]

theorem get?_place_self (key : String) (value : α) (entries : List (String × α))
    (h : get? key entries = none) : get? key (place key value entries) = some value := by
  induction entries with
  | nil => simp [place, get?]
  | cons entry rest ih =>
      obtain ⟨k, v⟩ := entry
      have hk : k ≠ key := by
        intro heq
        simp [get?, heq] at h
      have hrest : get? key rest = none := by simpa [get?, hk] using h
      by_cases hlt : key < k
      · simp [place, get?, hlt]
      · simp [place, get?, hlt, hk, ih hrest]

theorem get?_place_of_ne {key other : String} (hne : other ≠ key) (value : α)
    (entries : List (String × α)) : get? other (place key value entries) = get? other entries := by
  induction entries with
  | nil => simp [place, get?, Ne.symm hne]
  | cons entry rest ih =>
      obtain ⟨k, v⟩ := entry
      by_cases hlt : key < k
      · simp [place, get?, hlt, Ne.symm hne]
      · simp [place, get?, hlt, ih]

@[simp] theorem get?_insert_self (key : String) (value : α) (entries : List (String × α)) :
    get? key (insert key value entries) = some value := by
  by_cases h : contains key entries
  · simp [insert, h, get?_replace_self]
  · have hnone : get? key entries = none := by simpa [contains] using h
    simp [insert, h, get?_place_self _ _ _ hnone]

theorem get?_insert_of_ne {key other : String} (hne : other ≠ key) (value : α)
    (entries : List (String × α)) : get? other (insert key value entries) = get? other entries := by
  unfold insert
  split
  · exact get?_replace_of_ne hne value entries
  · exact get?_place_of_ne hne value entries

theorem insert_of_get? {key : String} {value : α} {entries : List (String × α)}
    (h : get? key entries = some value) : insert key value entries = entries := by
  have hc : contains key entries := by simp [contains, h]
  simp only [insert, hc, if_true]
  clear hc
  induction entries with
  | nil => rfl
  | cons entry rest ih =>
      obtain ⟨k, v⟩ := entry
      by_cases hk : k = key
      · have hv : v = value := by simpa [get?, hk] using h
        simp [replace, hk, hv]
      · have hrest : get? key rest = some value := by simpa [get?, hk] using h
        simp [replace, hk, ih hrest]

@[simp] theorem get?_erase_self (key : String) (entries : List (String × α)) :
    get? key (erase key entries) = none := by
  induction entries with
  | nil => rfl
  | cons entry rest ih =>
      obtain ⟨k, v⟩ := entry
      by_cases hk : k = key
      · simpa [erase, hk] using ih
      · simpa [erase, get?, hk] using ih

theorem get?_erase_of_ne {key other : String} (hne : other ≠ key)
    (entries : List (String × α)) : get? other (erase key entries) = get? other entries := by
  induction entries with
  | nil => rfl
  | cons entry rest ih =>
      obtain ⟨k, v⟩ := entry
      by_cases hk : k = key
      · subst hk
        simpa [erase, get?, Ne.symm hne] using ih
      · have ih' : get? other (List.filter (fun e => !decide (e.1 = key)) rest) =
            get? other rest := by simpa [erase] using ih
        simp [erase, get?, hk, ih']

end ContentForms.Assoc
