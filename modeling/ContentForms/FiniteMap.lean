/-!
Finite maps over keys with decidable equality. The entries are a list in which no key occurs twice;
their order carries no meaning. Writing under a key changes what is found under that key and nothing
else.
-/

namespace ContentForms

structure FiniteMap (κ : Type u) (α : Type v) where
  entries : List (κ × α)
  nodup : (entries.map Prod.fst).Nodup

namespace FiniteMap

variable {κ : Type u} {α : Type v} [DecidableEq κ]

def empty : FiniteMap κ α :=
  ⟨[], .nil⟩

def get? (map : FiniteMap κ α) (key : κ) : Option α :=
  (map.entries.find? fun entry => entry.1 = key).map Prod.snd

def contains (map : FiniteMap κ α) (key : κ) : Bool :=
  (map.get? key).isSome

def filterKeys (map : FiniteMap κ α) (p : κ → Bool) : FiniteMap κ α where
  entries := map.entries.filter fun entry => p entry.1
  nodup := map.nodup.sublist (List.filter_sublist.map Prod.fst)

def erase (map : FiniteMap κ α) (key : κ) : FiniteMap κ α :=
  map.filterKeys fun k => k ≠ key

/-- Enters a value, in place of the one that its key has. -/
def insert (map : FiniteMap κ α) (key : κ) (value : α) : FiniteMap κ α where
  entries := (key, value) :: (map.erase key).entries
  nodup := by
    refine List.nodup_cons.mpr ⟨?_, (map.erase key).nodup⟩
    simp [erase, filterKeys]

def keys (map : FiniteMap κ α) : List κ :=
  map.entries.map Prod.fst

def size (map : FiniteMap κ α) : Nat :=
  map.entries.length

def isEmpty (map : FiniteMap κ α) : Bool :=
  map.entries.isEmpty

@[simp] theorem get?_empty (key : κ) : (empty : FiniteMap κ α).get? key = none := rfl

theorem get?_filterKeys (map : FiniteMap κ α) (p : κ → Bool) (key : κ) :
    (map.filterKeys p).get? key = if p key then map.get? key else none := by
  obtain ⟨entries, nodup⟩ := map
  simp only [get?, filterKeys]
  clear nodup
  induction entries with
  | nil => simp
  | cons entry rest ih =>
      by_cases hp : p entry.1
      · by_cases hk : entry.1 = key
        · subst hk
          simp [hp]
        · simpa [hp, hk] using ih
      · by_cases hk : entry.1 = key
        · subst hk
          simpa [hp] using ih
        · simpa [hp, hk] using ih

@[simp] theorem get?_erase_self (map : FiniteMap κ α) (key : κ) :
    (map.erase key).get? key = none := by
  simp [erase, get?_filterKeys]

theorem get?_erase_of_ne (map : FiniteMap κ α) {key other : κ} (h : other ≠ key) :
    (map.erase key).get? other = map.get? other := by
  simp [erase, get?_filterKeys, h]

@[simp] theorem get?_insert_self (map : FiniteMap κ α) (key : κ) (value : α) :
    (map.insert key value).get? key = some value := by
  simp [get?, insert]

theorem get?_insert_of_ne (map : FiniteMap κ α) {key other : κ} (h : other ≠ key) (value : α) :
    (map.insert key value).get? other = map.get? other := by
  have hne : ¬key = other := fun heq => h heq.symm
  rw [← get?_erase_of_ne map h]
  simp [get?, insert, hne]

theorem insert_insert (map : FiniteMap κ α) (key : κ) (first last : α) :
    (map.insert key first).insert key last = map.insert key last := by
  simp [insert, erase, filterKeys, List.filter_filter]

end FiniteMap

end ContentForms
