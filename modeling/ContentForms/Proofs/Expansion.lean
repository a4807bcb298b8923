import ContentForms.Yaml.ToJson
import Mathlib.Data.List.Basic

/-!
Mappings in YAML values that are read. A mapping is put together entry by entry, and an entry is
refused whose key is equal to one before it. Since aliases stand for whole nodes, this is so
wherever a mapping comes to stand: no mapping in a value, at any depth, has two equal keys. The
proof follows the expansion of a tree, level by level; `Gives` says what an action on the budget
can give, whatever is left of it.
-/

namespace ContentForms.Yaml

/-! ### Mappings in a value -/

namespace Value

/-- A mapping in a value, at any depth. What stands in a key does not count. -/
inductive Holds : Value → List (Value × Value) → Prop
  | here {entries : List (Value × Value)} : Holds (.mapping entries) entries
  | item {items : List Value} {item : Value} {entries : List (Value × Value)}
      (mem : item ∈ items) (inside : Holds item entries) : Holds (.sequence items) entries
  | value {outer entries : List (Value × Value)} {entry : Value × Value}
      (mem : entry ∈ outer) (inside : Holds entry.2 entries) : Holds (.mapping outer) entries
  | tagged {tag : String} {value : Value} {entries : List (Value × Value)}
      (inside : Holds value entries) : Holds (.tagged tag value) entries

def KeysApart (entries : List (Value × Value)) : Prop :=
  entries.Pairwise fun entry later => entry.1.same later.1 = false

def Sound (value : Value) : Prop :=
  ∀ entries, value.Holds entries → KeysApart entries

def IsScalar : Value → Prop
  | .null | .bool _ | .num _ | .str _ => True
  | _ => False

theorem IsScalar.sound {value : Value} (h : value.IsScalar) : value.Sound := by
  intro entries hholds
  cases hholds <;> exact h.elim

theorem sound_sequence {items : List Value} (h : ∀ item ∈ items, item.Sound) :
    (Value.sequence items).Sound := by
  intro entries hholds
  cases hholds with
  | item mem inside => exact h _ mem entries inside

theorem sound_mapping {entries : List (Value × Value)} (hkeys : KeysApart entries)
    (h : ∀ entry ∈ entries, entry.2.Sound) : (Value.mapping entries).Sound := by
  intro inner hholds
  cases hholds with
  | here => exact hkeys
  | value mem inside => exact h _ mem inner inside

theorem sound_tagged {tag : String} {value : Value} (h : value.Sound) :
    (Value.tagged tag value).Sound := by
  intro entries hholds
  cases hholds with
  | tagged inside => exact h entries inside

theorem Sound.withTag {value : Value} (h : value.Sound) (tag : Option String) :
    (withTag tag value).Sound := by
  unfold Yaml.withTag
  split
  · exact sound_tagged h
  · exact h

end Value

/-! ### Scalars -/

namespace Scalar

theorem isScalar_storedInt? {i : Int} {value : Value} (h : storedInt? i = some value) :
    value.IsScalar := by
  unfold storedInt? at h
  split at h
  · cases h
    trivial
  · cases h

theorem isScalar_plain? {text : String} {value : Value} (h : plain? text = some value) :
    value.IsScalar := by
  unfold plain? at h
  dsimp only at h
  split at h
  · cases h
    trivial
  · split at h
    · cases h
      trivial
    · split at h
      · exact isScalar_storedInt? h
      · split at h <;> cases h <;> trivial

theorem isScalar_global? {tag text : String} {value : Value} (h : global? tag text = some value) :
    value.IsScalar := by
  unfold global? at h
  split at h
  · obtain ⟨b, -, rfl⟩ := Option.map_eq_some_iff.mp h
    trivial
  · split at h
    · obtain ⟨i, -, hstored⟩ := Option.bind_eq_some_iff.mp h
      exact isScalar_storedInt? hstored
    · split at h
      · obtain ⟨x, -, rfl⟩ := Option.map_eq_some_iff.mp h
        trivial
      · split at h
        · split at h
          · cases h
            trivial
          · cases h
        · cases h
          trivial

end Scalar

theorem sound_scalarValue? {tag : Option String} {plain : Bool} {text : String} {value : Value}
    (h : scalarValue? tag plain text = some value) : value.Sound := by
  unfold scalarValue? at h
  split at h
  · exact (Scalar.isScalar_global? h).sound
  · obtain ⟨bare, hbare, rfl⟩ := Option.map_eq_some_iff.mp h
    refine Value.Sound.withTag (Value.IsScalar.sound ?_) _
    split at hbare
    · exact Scalar.isScalar_plain? hbare
    · cases hbare
      trivial

/-! ### Actions on the budget -/

section Gives

variable {α β : Type} {P : α → Prop} {Q : β → Prop}

/-- Whatever the action gives has the property, with any budget. -/
def Gives (action : Budget α) (P : α → Prop) : Prop :=
  ∀ left a left', action.run left = some (a, left') → P a

theorem gives_pure {a : α} (h : P a) : Gives (pure a) P := by
  intro left a' left' hrun
  cases hrun
  exact h

theorem gives_failure : Gives (failure : Budget α) P := by
  intro left a left' hrun
  cases hrun

theorem gives_lift {found : Option α} (h : ∀ a, found = some a → P a) :
    Gives (StateT.lift found) P := by
  intro left a left' hrun
  obtain ⟨a', hfound, hpair⟩ := Option.bind_eq_some_iff.mp hrun
  cases hpair
  exact h a hfound

theorem gives_bind {action : Budget α} {next : α → Budget β} (haction : Gives action P)
    (hnext : ∀ a, P a → Gives (next a) Q) : Gives (action >>= next) Q := by
  intro left b left' hrun
  rw [StateT.run_bind] at hrun
  obtain ⟨⟨a, mid⟩, hmid, hrest⟩ := Option.bind_eq_some_iff.mp hrun
  exact hnext a (haction left a mid hmid) mid b left' hrest

theorem gives_any (action : Budget α) : Gives action fun _ => True :=
  fun _ _ _ _ => trivial

theorem gives_mapM {f : β → Budget α} {items : List β} (h : ∀ item ∈ items, Gives (f item) P) :
    Gives (items.mapM f) fun values => ∀ value ∈ values, P value := by
  induction items with
  | nil => exact gives_pure (by simp)
  | cons item rest ih =>
      obtain ⟨hitem, hrest⟩ := List.forall_mem_cons.mp h
      rw [List.mapM_cons]
      refine gives_bind hitem fun value hvalue => gives_bind (ih hrest) fun values hvalues => ?_
      exact gives_pure (List.forall_mem_cons.mpr ⟨hvalue, hvalues⟩)

theorem gives_foldlM {f : α → β → Budget α} {items : List β} {start : α} (hstart : P start)
    (h : ∀ acc, P acc → ∀ item ∈ items, Gives (f acc item) P) : Gives (items.foldlM f start) P := by
  induction items generalizing start with
  | nil => exact gives_pure hstart
  | cons item rest ih =>
      rw [List.foldlM_cons]
      refine gives_bind (h start hstart item List.mem_cons_self) fun acc hacc => ?_
      exact ih hacc fun acc hacc item hmem => h acc hacc item (List.mem_cons_of_mem _ hmem)

end Gives

/-! ### Expansion -/

/-- The entries of a mapping so far, the last one first. -/
structure Gathered (entries : List (Value × Value)) : Prop where
  apart : Value.KeysApart entries.reverse
  sound : ∀ entry ∈ entries, entry.2.Sound

theorem gathered_nil : Gathered [] :=
  ⟨List.Pairwise.nil, by simp⟩

theorem Gathered.withEntry {entries entries' : List (Value × Value)} {key value : Value}
    (h : Gathered entries) (hvalue : value.Sound)
    (hadd : withEntry entries key value = some entries') : Gathered entries' := by
  unfold Yaml.withEntry at hadd
  split at hadd
  · cases hadd
  · next hnew =>
      cases hadd
      refine ⟨?_, List.forall_mem_cons.mpr ⟨hvalue, h.sound⟩⟩
      rw [Value.KeysApart, List.reverse_cons, List.pairwise_append]
      refine ⟨h.apart, List.pairwise_singleton _ _, fun entry hentry last hlast => ?_⟩
      cases List.mem_singleton.mp hlast
      rw [Bool.eq_false_iff]
      intro hsame
      exact hnew (List.any_eq_true.mpr ⟨entry, List.mem_reverse.mp hentry, hsame⟩)

theorem Gathered.mapping {entries : List (Value × Value)} (h : Gathered entries) :
    (Value.mapping entries.reverse).Sound :=
  Value.sound_mapping h.apart fun entry hmem => h.sound entry (List.mem_reverse.mp hmem)

theorem gives_expand (anchored : List (Nat × Node)) (depth : Nat) (node : Node) :
    Gives (expand anchored depth node) Value.Sound := by
  induction depth generalizing node with
  | zero =>
      rw [expand]
      refine gives_bind (gives_any _) fun resolved _ => ?_
      match resolved with
      | .scalar props plain text => exact gives_lift fun value => sound_scalarValue?
      | .sequence _ _ | .mapping _ _ | .alias _ => exact gives_failure
  | succ depth ih =>
      rw [expand]
      refine gives_bind (gives_any _) fun resolved _ => ?_
      match resolved with
      | .scalar props plain text => exact gives_lift fun value => sound_scalarValue?
      | .sequence props items =>
          refine gives_bind (gives_mapM fun item _ => ih item) fun values hvalues => ?_
          exact gives_pure ((Value.sound_sequence hvalues).withTag _)
      | .mapping props entries =>
          refine gives_bind (gives_foldlM gathered_nil fun acc hacc entry _ => ?_)
            fun values hvalues => gives_pure (hvalues.mapping.withTag _)
          refine gives_bind (gives_any _) fun key _ => ?_
          refine gives_bind (ih entry.2) fun value hvalue => ?_
          exact gives_lift fun entries' => hacc.withEntry hvalue
      | .alias _ => exact gives_failure

theorem sound_of_read? {text : String} {value : Value} (h : read? text = some value) :
    value.Sound := by
  obtain ⟨tokens, -, htokens⟩ := Option.bind_eq_some_iff.mp h
  obtain ⟨root?, -, hroot⟩ := Option.bind_eq_some_iff.mp htokens
  cases root? with
  | none =>
      cases hroot
      exact Value.IsScalar.sound trivial
  | some root =>
      obtain ⟨⟨value', left⟩, hrun, rfl⟩ := Option.map_eq_some_iff.mp hroot
      exact gives_expand root.anchored maxDepth root _ _ _ hrun

end ContentForms.Yaml
