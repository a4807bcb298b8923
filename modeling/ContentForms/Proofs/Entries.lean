import ContentForms.Assoc

/-!
Association lists as finite maps. An entry is found exactly when no earlier one has its key, so on
a list without repeated keys looking up and membership say the same; `firsts` makes such a list
without changing what is found. Lists that `insert` has built are moreover in strictly ascending key
order, and then equal look-ups mean equal lists: that is what lets a theorem speak of an object
through its members alone.
-/

namespace ContentForms.Assoc

variable {α : Type u}

/-! ### Looking up and membership -/

theorem mem_keys_of_mem {key : String} {value : α} {entries : List (String × α)}
    (h : (key, value) ∈ entries) : key ∈ keys entries :=
  List.mem_map_of_mem h

theorem mem_of_get? {key : String} {value : α} {entries : List (String × α)}
    (h : get? key entries = some value) : (key, value) ∈ entries := by
  induction entries with
  | nil => simp at h
  | cons entry rest ih =>
      obtain ⟨k, v⟩ := entry
      by_cases hk : k = key
      · have hv : v = value := by simpa [get?, hk] using h
        simp [hk, hv]
      · exact List.mem_cons_of_mem _ (ih (by simpa [get?, hk] using h))

theorem get?_eq_none_iff {key : String} {entries : List (String × α)} :
    get? key entries = none ↔ key ∉ keys entries := by
  induction entries with
  | nil => simp [keys]
  | cons entry rest ih =>
      obtain ⟨k, v⟩ := entry
      by_cases hk : k = key
      · simp [get?, keys, hk]
      · simpa [get?, keys, hk, Ne.symm hk] using ih

theorem contains_iff {key : String} {entries : List (String × α)} :
    contains key entries ↔ key ∈ keys entries := by
  rw [contains, Option.isSome_iff_ne_none, ne_eq, get?_eq_none_iff, Decidable.not_not]

theorem get?_eq_some_iff {key : String} {value : α} {entries : List (String × α)}
    (h : (keys entries).Nodup) : get? key entries = some value ↔ (key, value) ∈ entries := by
  refine ⟨mem_of_get?, fun hmem => ?_⟩
  induction entries with
  | nil => simp at hmem
  | cons entry rest ih =>
      obtain ⟨k, v⟩ := entry
      obtain ⟨hk, hrest⟩ := List.nodup_cons.mp h
      rcases List.mem_cons.mp hmem with heq | hmem
      · simp [get?, Prod.mk.inj heq]
      · have hne : k ≠ key := by
          rintro rfl
          exact hk (mem_keys_of_mem hmem)
        simpa [get?, hne] using ih hrest hmem

theorem get?_append (key : String) (xs ys : List (String × α)) :
    get? key (xs ++ ys) = (get? key xs).or (get? key ys) := by
  induction xs with
  | nil => rfl
  | cons entry rest ih =>
      obtain ⟨k, v⟩ := entry
      by_cases hk : k = key <;> simp [get?, hk, ih]

theorem get?_map {β : Type v} (key : String) (f : String → α → β) (entries : List (String × α)) :
    get? key (entries.map fun entry => (entry.1, f entry.1 entry.2)) =
      (get? key entries).map (f key) := by
  induction entries with
  | nil => rfl
  | cons entry rest ih =>
      obtain ⟨k, v⟩ := entry
      by_cases hk : k = key
      · simp [get?, hk]
      · simpa [get?, hk] using ih

theorem erase_of_get?_eq_none {key : String} {entries : List (String × α)}
    (h : get? key entries = none) : erase key entries = entries := by
  rw [erase, List.filter_eq_self]
  rintro ⟨k, v⟩ hmem
  have hne : k ≠ key := by
    rintro rfl
    exact get?_eq_none_iff.mp h (mem_keys_of_mem hmem)
  simp [hne]

/-! ### The first entry of each key -/

def keepFirst (kept : List (String × α)) (entry : String × α) : List (String × α) :=
  if contains entry.1 kept then kept else kept ++ [entry]

theorem firsts_eq_foldl (entries : List (String × α)) :
    firsts entries = entries.foldl keepFirst [] := rfl

theorem get?_foldl_keepFirst (key : String) (entries kept : List (String × α)) :
    get? key (entries.foldl keepFirst kept) = (get? key kept).or (get? key entries) := by
  induction entries generalizing kept with
  | nil => simp
  | cons entry rest ih =>
      obtain ⟨k, v⟩ := entry
      rw [List.foldl_cons, ih]
      -- An entry whose key is kept already is dropped, and looking up would not have reached it.
      by_cases hc : contains k kept
      · by_cases hk : k = key
        · obtain ⟨w, hw⟩ := Option.isSome_iff_exists.mp hc
          simp [keepFirst, hc, get?, ← hk, hw]
        · simp [keepFirst, hc, get?, hk]
      · simp [keepFirst, hc, get?_append, get?, Option.or_assoc]
        by_cases hk : k = key <;> simp [hk]

@[simp] theorem get?_firsts (key : String) (entries : List (String × α)) :
    get? key (firsts entries) = get? key entries := by
  simp [firsts_eq_foldl, get?_foldl_keepFirst]

theorem nodup_keys_foldl_keepFirst (entries kept : List (String × α)) (h : (keys kept).Nodup) :
    (keys (entries.foldl keepFirst kept)).Nodup := by
  induction entries generalizing kept with
  | nil => exact h
  | cons entry rest ih =>
      apply ih
      by_cases hc : contains entry.1 kept
      · simpa [keepFirst, hc] using h
      · have hkeep : keepFirst kept entry = kept ++ [entry] := by simp [keepFirst, hc]
        have hnew : entry.1 ∉ keys kept := fun hmem => hc (contains_iff.mpr hmem)
        rw [hkeep, keys, List.map_append, List.nodup_append]
        refine ⟨h, by simp, ?_⟩
        rintro k hk l hl rfl
        have hkey : k = entry.1 := by simpa using hl
        exact hnew (hkey ▸ hk)

theorem nodup_keys_firsts (entries : List (String × α)) : (keys (firsts entries)).Nodup :=
  nodup_keys_foldl_keepFirst entries [] .nil

theorem mem_of_mem_firsts {entry : String × α} {entries : List (String × α)}
    (h : entry ∈ firsts entries) : entry ∈ entries := by
  apply mem_of_get?
  rw [← get?_firsts]
  exact (get?_eq_some_iff (nodup_keys_firsts entries)).mpr h

theorem contains_map_snd {β : Type v} (f : α → β) (key : String) (entries : List (String × α)) :
    contains key (entries.map fun entry => (entry.1, f entry.2)) = contains key entries := by
  rw [contains, get?_map key fun _ => f, Option.isSome_map, contains]

/-- Which entry is the first of its key does not depend on the values. -/
theorem firsts_map_snd {β : Type v} (f : α → β) (entries : List (String × α)) :
    firsts (entries.map fun entry => (entry.1, f entry.2)) =
      (firsts entries).map fun entry => (entry.1, f entry.2) := by
  have hfold (todo kept : List (String × α)) :
      (todo.map fun entry => (entry.1, f entry.2)).foldl keepFirst
          (kept.map fun entry => (entry.1, f entry.2)) =
        (todo.foldl keepFirst kept).map fun entry => (entry.1, f entry.2) := by
    induction todo generalizing kept with
    | nil => rfl
    | cons entry rest ih =>
        rw [List.map_cons, List.foldl_cons, List.foldl_cons, ← ih]
        congr 1
        rw [keepFirst, contains_map_snd, keepFirst]
        split
        · rfl
        · rw [List.map_append, List.map_singleton]
  exact hfold entries []

theorem firsts_of_nodup_keys {entries : List (String × α)} (h : (keys entries).Nodup) :
    firsts entries = entries := by
  have hfold (todo kept : List (String × α)) (h : (keys (kept ++ todo)).Nodup) :
      todo.foldl keepFirst kept = kept ++ todo := by
    induction todo generalizing kept with
    | nil => exact (List.append_nil kept).symm
    | cons entry rest ih =>
        rw [List.append_cons] at h ⊢
        have hnew : ¬contains entry.1 kept := by
          rw [contains_iff]
          intro hmem
          rw [keys, List.map_append, List.map_append] at h
          have hfirst := (List.nodup_append.mp (List.nodup_append.mp h).1).2.2
          exact hfirst _ hmem _ (List.mem_singleton_self _) rfl
        rw [List.foldl_cons, keepFirst, if_neg hnew]
        exact ih (kept ++ [entry]) h
  exact hfold entries [] h

/-! ### Ascending keys -/

/-- The keys ascend strictly, so none occurs twice. -/
def Ascending (entries : List (String × α)) : Prop :=
  entries.Pairwise fun a b => a.1 < b.1

instance (entries : List (String × α)) : Decidable (Ascending entries) :=
  inferInstanceAs (Decidable (entries.Pairwise fun a b => a.1 < b.1))

theorem Ascending.nodup_keys {entries : List (String × α)} (h : Ascending entries) :
    (keys entries).Nodup := by
  rw [keys, List.Nodup, List.pairwise_map]
  refine h.imp ?_
  rintro a b hlt heq
  exact String.lt_irrefl b.1 (heq ▸ hlt)

theorem nodup_of_nodup_keys {entries : List (String × α)} (h : (keys entries).Nodup) :
    entries.Nodup :=
  List.Pairwise.of_map Prod.fst (fun _ _ hne heq => hne (heq ▸ rfl)) h

/-- Without repeated keys, lists in which the same is found differ in order at most. -/
theorem perm_iff_get? {xs ys : List (String × α)} (hx : (keys xs).Nodup) (hy : (keys ys).Nodup) :
    xs.Perm ys ↔ ∀ key, get? key xs = get? key ys := by
  rw [List.perm_ext_iff_of_nodup (nodup_of_nodup_keys hx) (nodup_of_nodup_keys hy)]
  constructor
  · intro h key
    apply Option.ext
    intro value
    rw [get?_eq_some_iff hx, get?_eq_some_iff hy, h]
  · rintro h ⟨key, value⟩
    rw [← get?_eq_some_iff hx, ← get?_eq_some_iff hy, h]

theorem Ascending.ext {xs ys : List (String × α)} (hx : Ascending xs) (hy : Ascending ys)
    (h : ∀ key, get? key xs = get? key ys) : xs = ys := by
  have hperm : xs.Perm ys := (perm_iff_get? hx.nodup_keys hy.nodup_keys).mpr h
  apply List.Perm.eq_of_pairwise _ hx hy hperm
  intro a b _ _ hab hba
  exact absurd hba (String.lt_asymm hab)

theorem lt_of_not_lt {a b : String} (hne : a ≠ b) (h : ¬a < b) : b < a :=
  Decidable.not_not.mp fun hge =>
    hne (String.le_antisymm (String.not_lt.mp hge) (String.not_lt.mp h))

theorem mem_of_mem_replace {key : String} {value : α} {entries : List (String × α)}
    {entry : String × α} (h : entry ∈ replace key value entries) :
    entry = (key, value) ∨ entry ∈ entries := by
  induction entries with
  | nil => simp [replace] at h
  | cons first rest ih =>
      obtain ⟨k, v⟩ := first
      by_cases hk : k = key
      · subst hk
        have hcases : entry = (k, value) ∨ entry ∈ rest := by simpa [replace] using h
        exact hcases.imp_right (List.mem_cons_of_mem _)
      · have hcases : entry = (k, v) ∨ entry ∈ replace key value rest := by
          simpa [replace, hk] using h
        rcases hcases with rfl | hrest
        · simp
        · exact (ih hrest).imp_right (List.mem_cons_of_mem _)

theorem mem_place {key : String} {value : α} {entries : List (String × α)}
    {entry : String × α} :
    entry ∈ place key value entries ↔ entry = (key, value) ∨ entry ∈ entries := by
  induction entries with
  | nil => simp [place]
  | cons first rest ih =>
      obtain ⟨k, v⟩ := first
      by_cases hlt : key < k
      · simp [place, hlt]
      · simp only [place, hlt, if_false, List.mem_cons, ih]
        exact or_left_comm

theorem mem_of_mem_insert {key : String} {value : α} {entries : List (String × α)}
    {entry : String × α} (h : entry ∈ insert key value entries) :
    entry = (key, value) ∨ entry ∈ entries := by
  unfold insert at h
  split at h
  · exact mem_of_mem_replace h
  · exact mem_place.mp h

theorem keys_replace (key : String) (value : α) (entries : List (String × α)) :
    keys (replace key value entries) = keys entries := by
  induction entries with
  | nil => rfl
  | cons first rest ih =>
      obtain ⟨k, v⟩ := first
      have ih' : (replace key value rest).map Prod.fst = rest.map Prod.fst := ih
      by_cases hk : k = key <;> simp [replace, keys, hk, ih']

theorem ascending_iff_keys {entries : List (String × α)} :
    Ascending entries ↔ (keys entries).Pairwise (· < ·) := by
  rw [keys, List.pairwise_map, Ascending]

theorem Ascending.replace {entries : List (String × α)} (h : Ascending entries) (key : String)
    (value : α) : Ascending (replace key value entries) := by
  rw [ascending_iff_keys, keys_replace, ← ascending_iff_keys]
  exact h

theorem Ascending.place {entries : List (String × α)} (h : Ascending entries) {key : String}
    (value : α) (hkey : key ∉ keys entries) : Ascending (place key value entries) := by
  induction entries with
  | nil => exact List.pairwise_singleton _ _
  | cons first rest ih =>
      obtain ⟨k, v⟩ := first
      obtain ⟨hfirst, hrest⟩ := List.pairwise_cons.mp h
      have hkeys : key ≠ k ∧ key ∉ keys rest := by simpa [keys] using hkey
      by_cases hlt : key < k
      · simp only [Assoc.place, hlt, if_true]
        refine List.pairwise_cons.mpr ⟨?_, h⟩
        intro entry hmem
        rcases List.mem_cons.mp hmem with rfl | hmem
        · exact hlt
        · exact String.lt_trans hlt (hfirst entry hmem)
      · simp only [Assoc.place, hlt, if_false]
        refine List.pairwise_cons.mpr ⟨?_, ih hrest hkeys.2⟩
        intro entry hmem
        rcases mem_place.mp hmem with rfl | hmem
        · exact lt_of_not_lt hkeys.1 hlt
        · exact hfirst entry hmem

theorem Ascending.insert {entries : List (String × α)} (h : Ascending entries) (key : String)
    (value : α) : Ascending (insert key value entries) := by
  unfold Assoc.insert
  split
  · exact h.replace key value
  · next hnew => exact h.place value fun hmem => hnew (contains_iff.mpr hmem)

theorem Ascending.erase {entries : List (String × α)} (h : Ascending entries) (key : String) :
    Ascending (erase key entries) :=
  List.Pairwise.filter _ h

theorem ascending_foldl_insert (entries : List (String × α)) {acc : List (String × α)}
    (h : Ascending acc) :
    Ascending (entries.foldl (fun acc entry => insert entry.1 entry.2 acc) acc) := by
  induction entries generalizing acc with
  | nil => exact h
  | cons entry rest ih => exact ih (h.insert entry.1 entry.2)

theorem ascending_ofList (entries : List (String × α)) : Ascending (ofList entries) :=
  ascending_foldl_insert entries .nil

theorem mem_of_mem_ofList {entries : List (String × α)} {entry : String × α}
    (h : entry ∈ ofList entries) : entry ∈ entries := by
  have hfold : ∀ (todo acc : List (String × α)),
      entry ∈ todo.foldl (fun acc entry => insert entry.1 entry.2 acc) acc →
        entry ∈ acc ∨ entry ∈ todo := by
    intro todo
    induction todo with
    | nil => exact fun acc h => .inl h
    | cons first rest ih =>
        intro acc h
        rcases ih _ h with hacc | hrest
        · rcases mem_of_mem_insert hacc with heq | hmem
          · exact .inr (heq ▸ List.mem_cons_self)
          · exact .inl hmem
        · exact .inr (List.mem_cons_of_mem _ hrest)
  simpa using hfold entries [] h

/-! ### Lists that are entered one by one -/

theorem get?_insert (key other : String) (value : α) (entries : List (String × α)) :
    get? key (insert other value entries) = (get? key [(other, value)]).or (get? key entries) := by
  by_cases hkey : other = key
  · subst hkey
    simp [get?]
  · rw [get?_insert_of_ne (Ne.symm hkey)]
    simp [get?, hkey]

/-- What is found after entering is the entry that was entered last. -/
theorem get?_foldl_insert (key : String) (entries acc : List (String × α)) :
    get? key (entries.foldl (fun acc entry => insert entry.1 entry.2 acc) acc) =
      (get? key entries.reverse).or (get? key acc) := by
  induction entries generalizing acc with
  | nil => simp
  | cons entry rest ih =>
      rw [List.foldl_cons, ih, List.reverse_cons, get?_append, get?_insert, Option.or_assoc]

theorem get?_reverse {entries : List (String × α)} (h : (keys entries).Nodup) (key : String) :
    get? key entries.reverse = get? key entries := by
  have hreverse : (keys entries.reverse).Nodup := by
    rw [keys, List.map_reverse]
    exact List.pairwise_reverse.mpr (h.imp Ne.symm)
  apply Option.ext
  intro value
  rw [get?_eq_some_iff hreverse, get?_eq_some_iff h, List.mem_reverse]

theorem get?_ofList {entries : List (String × α)} (h : (keys entries).Nodup) (key : String) :
    get? key (ofList entries) = get? key entries := by
  rw [ofList, get?_foldl_insert, get?_reverse h, get?_nil, Option.or_none]

theorem perm_ofList {entries : List (String × α)} (h : (keys entries).Nodup) :
    (ofList entries).Perm entries :=
  (perm_iff_get? (ascending_ofList entries).nodup_keys h).mpr (get?_ofList h)

theorem ofList_of_ascending {entries : List (String × α)} (h : Ascending entries) :
    ofList entries = entries :=
  (ascending_ofList entries).ext h (get?_ofList h.nodup_keys)

theorem get?_filter (p : String → Bool) (key : String) (entries : List (String × α)) :
    get? key (entries.filter fun entry => p entry.1) =
      if p key then get? key entries else none := by
  induction entries with
  | nil => simp
  | cons entry rest ih =>
      obtain ⟨k, v⟩ := entry
      by_cases hkey : k = key
      · subst hkey
        by_cases hk : p k <;> simp [get?, hk, ih]
      · by_cases hk : p k <;> simp [get?, hk, hkey, ih]

theorem nodup_keys_filter {entries : List (String × α)} (h : (keys entries).Nodup)
    (p : String × α → Bool) : (keys (entries.filter p)).Nodup :=
  h.sublist (List.filter_sublist.map Prod.fst)

/-! ### Entering under different keys -/

theorem contains_replace (key other : String) (value : α) (entries : List (String × α)) :
    contains key (replace other value entries) = contains key entries := by
  rw [Bool.eq_iff_iff, contains_iff, contains_iff, keys_replace]

theorem contains_place {key other : String} (hne : key ≠ other) (value : α)
    (entries : List (String × α)) :
    contains key (place other value entries) = contains key entries := by
  rw [contains, get?_place_of_ne hne, contains]

theorem replace_comm {key other : String} (hne : key ≠ other) (value value' : α)
    (entries : List (String × α)) :
    replace key value (replace other value' entries) =
      replace other value' (replace key value entries) := by
  induction entries with
  | nil => rfl
  | cons entry rest ih =>
      obtain ⟨k, v⟩ := entry
      by_cases hkey : k = key
      · subst hkey
        simp [replace, hne]
      · by_cases hother : k = other <;> simp [replace, hkey, hother, ih, Ne.symm hne]

theorem replace_place_comm {key other : String} (hne : key ≠ other) (value value' : α)
    (entries : List (String × α)) :
    replace key value (place other value' entries) =
      place other value' (replace key value entries) := by
  induction entries with
  | nil => simp [place, replace, Ne.symm hne]
  | cons entry rest ih =>
      obtain ⟨k, v⟩ := entry
      by_cases hkey : k = key
      · subst hkey
        by_cases hlt : other < k <;> simp [place, replace, hlt, Ne.symm hne]
      · by_cases hlt : other < k <;> simp [place, replace, hlt, hkey, ih, Ne.symm hne]

theorem place_comm_of_lt {key other : String} (h : key < other) (value value' : α)
    (entries : List (String × α)) :
    place key value (place other value' entries) =
      place other value' (place key value entries) := by
  have hnot : ¬other < key := String.lt_asymm h
  induction entries with
  | nil => simp [place, h, hnot]
  | cons entry rest ih =>
      obtain ⟨k, v⟩ := entry
      by_cases hother : other < k
      · have hkey : key < k := String.lt_trans h hother
        simp [place, h, hnot, hother, hkey]
      · by_cases hkey : key < k <;> simp [place, hnot, hother, hkey, ih]

theorem place_comm {key other : String} (hne : key ≠ other) (value value' : α)
    (entries : List (String × α)) :
    place key value (place other value' entries) =
      place other value' (place key value entries) := by
  by_cases h : key < other
  · exact place_comm_of_lt h value value' entries
  · exact (place_comm_of_lt (lt_of_not_lt hne h) value' value entries).symm

theorem insert_comm {key other : String} (hne : key ≠ other) (value value' : α)
    (entries : List (String × α)) :
    insert key value (insert other value' entries) =
      insert other value' (insert key value entries) := by
  by_cases hkey : contains key entries <;> by_cases hother : contains other entries <;>
    simp [insert, hkey, hother, contains_replace, contains_place hne, contains_place hne.symm,
      replace_comm hne, replace_place_comm hne, replace_place_comm hne.symm, place_comm hne]

end ContentForms.Assoc
