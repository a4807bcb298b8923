import ContentForms.Proofs.Disk
import ContentForms.Proofs.Entries
import ContentForms.Proofs.KeyTexts
import Mathlib.Data.List.Forall2

/-!
What becomes of a YAML value as JSON. A sequence becomes an array, item by item, and a mapping an
object, whose members have the texts of the keys for their keys. `Becomes` says this of all the
parts of a value and leaves open which entries the members stand for. The conversion lets the later
of two entries with one text stay (`LaterStays`); that nothing is lost means one member for each
entry (`EachOnce`). The two come to the same exactly where the keys of each mapping have different
texts, and in a value that has been read they have, unless a text among them spells another key.
-/

namespace ContentForms.Yaml

/-! ### Values and what they become -/

def Names (entry : Value × Value) (member : String × Json) : Prop :=
  entry.1.keyText = .ok member.1

/-- What a value becomes, if the members of an object are to the entries of its mapping, each under
the text of its key, as `Joins` says. Sequences become arrays and tags are dropped. -/
inductive Becomes (Joins : List (String × Json) → List (String × Json) → Prop) :
    Value → Json → Prop
  | null : Becomes Joins .null .null
  | bool (b : Bool) : Becomes Joins (.bool b) (.bool b)
  | int (i : Int) : Becomes Joins (.num (.int i)) (.num (.int i))
  | float (x : Binary64) : Becomes Joins (.num (.float x)) (.num (.float x))
  | str (s : String) : Becomes Joins (.str s) (.str s)
  | sequence {items : List Value} {values : List Json}
      (each : List.Forall₂ (Becomes Joins) items values) :
      Becomes Joins (.sequence items) (.arr values)
  | mapping {entries : List (Value × Value)} {named members : List (String × Json)}
      (keys : List.Forall₂ Names entries named)
      (each : List.Forall₂ (Becomes Joins) (entries.map Prod.snd) (named.map Prod.snd))
      (joins : Joins named members) : Becomes Joins (.mapping entries) (.obj members)
  | tagged {tag : String} {value : Value} {json : Json} (inside : Becomes Joins value json) :
      Becomes Joins (.tagged tag value) json

/-- The members are in ascending order of their keys, and of two entries under one key the later
one stays. -/
def LaterStays (named members : List (String × Json)) : Prop :=
  members = Assoc.ofList named

/-- There is one member for each entry, and no other. -/
def EachOnce (named members : List (String × Json)) : Prop :=
  members.Perm named ∧ (Assoc.keys members).Nodup

theorem Value.induction {P : Value → Prop} (null : P .null) (bool : ∀ b, P (.bool b))
    (num : ∀ n, P (.num n)) (str : ∀ s, P (.str s))
    (sequence : ∀ items, (∀ item ∈ items, P item) → P (.sequence items))
    (mapping : ∀ entries, (∀ value ∈ entries.map Prod.snd, P value) → P (.mapping entries))
    (tagged : ∀ tag value, P value → P (.tagged tag value)) (value : Value) : P value := by
  refine @Value.rec P (fun items => ∀ item ∈ items, P item)
    (fun entries => ∀ value ∈ entries.map Prod.snd, P value) (fun entry => P entry.2)
    null bool num str sequence mapping tagged ?_ ?_ ?_ ?_ ?_ value
  · simp
  · exact fun item rest hitem hrest => List.forall_mem_cons.mpr ⟨hitem, hrest⟩
  · simp
  · exact fun entry rest hentry hrest => List.forall_mem_cons.mpr ⟨hentry, hrest⟩
  · exact fun key value _ hvalue => hvalue

/-! ### The conversion -/

theorem itemsToJson_eq_ok_iff {items : List Value} {values : List Json} :
    Value.itemsToJson items = .ok values ↔
      List.Forall₂ (fun item value => item.toJson = .ok value) items values := by
  induction items generalizing values with
  | nil => simp [Value.itemsToJson, eq_comm]
  | cons item rest ih =>
      rw [Value.itemsToJson, bind_eq_ok_iff, List.forall₂_cons_left_iff]
      refine exists_congr fun value => ?_
      rw [bind_eq_ok_iff]
      simp only [ih, pure, Except.pure, Except.ok.injEq]
      constructor
      · rintro ⟨hvalue, values, hvalues, rfl⟩
        exact ⟨values, hvalue, hvalues, rfl⟩
      · rintro ⟨values, hvalue, hvalues, rfl⟩
        exact ⟨hvalue, values, hvalues, rfl⟩

theorem entriesToJson_eq_ok_iff {entries : List (Value × Value)}
    {members result : List (String × Json)} :
    Value.entriesToJson entries members = .ok result ↔
      ∃ named, List.Forall₂ Names entries named ∧
        List.Forall₂ (fun value json => value.toJson = .ok json) (entries.map Prod.snd)
          (named.map Prod.snd) ∧
        result = named.foldl (fun acc member => Assoc.insert member.1 member.2 acc) members := by
  induction entries generalizing members with
  | nil => simp [Value.entriesToJson, eq_comm]
  | cons entry rest ih =>
      obtain ⟨key, value⟩ := entry
      rw [Value.entriesToJson, bind_eq_ok_iff]
      simp only [bind_eq_ok_iff, ih]
      constructor
      · rintro ⟨name, hname, json, hjson, named, hkeys, heach, rfl⟩
        exact ⟨(name, json) :: named, .cons hname hkeys, .cons hjson heach, rfl⟩
      · rintro ⟨named, hkeys, heach, rfl⟩
        cases hkeys with
        | @cons _ member _ named hname hkeys =>
            obtain ⟨hjson, heach⟩ := List.forall₂_cons.mp heach
            exact ⟨member.1, hname, member.2, hjson, named, hkeys, heach, rfl⟩

theorem forall₂_of_mem {α β : Type} {R S : α → β → Prop} {xs : List α} {ys : List β}
    (hRS : ∀ x ∈ xs, ∀ y, R x y → S x y) (h : List.Forall₂ R xs ys) : List.Forall₂ S xs ys := by
  induction h with
  | nil => exact .nil
  | cons hxy _ ih =>
      obtain ⟨hx, hrest⟩ := List.forall_mem_cons.mp hRS
      exact .cons (hx _ hxy) (ih hrest)

theorem forall₂_congr_of_mem {α β : Type} {R S : α → β → Prop} {xs : List α} {ys : List β}
    (h : ∀ x ∈ xs, ∀ y, R x y ↔ S x y) : List.Forall₂ R xs ys ↔ List.Forall₂ S xs ys :=
  ⟨forall₂_of_mem fun x hx y => (h x hx y).mp, forall₂_of_mem fun x hx y => (h x hx y).mpr⟩

/-- A value has the JSON value that its parts make up, and no other. -/
theorem toJson_eq_ok_iff {value : Value} {json : Json} :
    value.toJson = .ok json ↔ Becomes LaterStays value json := by
  induction value using Value.induction generalizing json with
  | null | bool | str =>
      constructor
      · rintro ⟨⟩
        constructor
      · rintro ⟨⟩
        rfl
  | num n =>
      constructor
      · -- Only finite numbers have a JSON value.
        intro h
        cases n with
        | int i =>
            cases h
            exact .int i
        | float x =>
            cases h
            exact .float x
        | infinity | notANumber => cases h
      · rintro ⟨⟩ <;> rfl
  | sequence items ih =>
      rw [Value.toJson, map_eq_ok_iff]
      constructor
      · rintro ⟨values, hvalues, rfl⟩
        exact .sequence ((forall₂_congr_of_mem fun item hmem _ => ih item hmem).mp
          (itemsToJson_eq_ok_iff.mp hvalues))
      · intro h
        cases h with
        | @sequence _ values each =>
            exact ⟨values, itemsToJson_eq_ok_iff.mpr
              ((forall₂_congr_of_mem fun item hmem _ => ih item hmem).mpr each), rfl⟩
  | mapping entries ih =>
      rw [Value.toJson, map_eq_ok_iff]
      constructor
      · rintro ⟨members, hmembers, rfl⟩
        obtain ⟨named, hkeys, heach, hjoins⟩ := entriesToJson_eq_ok_iff.mp hmembers
        exact .mapping hkeys ((forall₂_congr_of_mem fun value hmem _ => ih value hmem).mp heach)
          hjoins
      · intro h
        cases h with
        | @mapping _ named members keys each joins =>
            exact ⟨members, entriesToJson_eq_ok_iff.mpr ⟨named, keys,
              (forall₂_congr_of_mem fun value hmem _ => ih value hmem).mpr each, joins⟩, rfl⟩
  | tagged tag value ih =>
      rw [Value.toJson, ih]
      constructor
      · exact .tagged
      · rintro ⟨⟩
        assumption

/-! ### Entries that are lost -/

section Entries

variable {entries : List (Value × Value)} {named members : List (String × Json)}

theorem map_keyText (h : List.Forall₂ Names entries named) :
    entries.map (·.1.keyText) = (Assoc.keys named).map .ok := by
  induction h with
  | nil => rfl
  | @cons entry member _ _ hname _ ih =>
      have htext : entry.1.keyText = .ok member.1 := hname
      rw [List.map_cons, htext, ih]
      rfl

theorem namesApart_iff_nodup (h : List.Forall₂ Names entries named) :
    Value.NamesApart entries ↔ (Assoc.keys named).Nodup := by
  have hpairwise : Value.NamesApart entries ↔ (entries.map (·.1.keyText)).Pairwise (· ≠ ·) :=
    List.pairwise_map.symm
  rw [hpairwise, map_keyText h, List.pairwise_map]
  simp [List.Nodup]

theorem EachOnce.nodup (h : EachOnce named members) : (Assoc.keys named).Nodup :=
  (h.1.map Prod.fst).nodup_iff.mp h.2

theorem LaterStays.eachOnce (h : LaterStays named members) (hnodup : (Assoc.keys named).Nodup) :
    EachOnce named members := by
  rw [LaterStays] at h
  subst h
  exact ⟨Assoc.perm_ofList hnodup, (Assoc.ascending_ofList named).nodup_keys⟩

end Entries

theorem exists_of_forall₂ {α β : Type} {R : α → β → Prop} {xs : List α} {ys : List β}
    (h : List.Forall₂ R xs ys) : ∀ x ∈ xs, ∃ y, R x y :=
  ((List.forall₂_and_left xs ys).mp (h.imp fun _ y hxy => ⟨⟨y, hxy⟩, hxy⟩)).1

theorem Becomes.of_holds {value : Value} {json : Json} {entries : List (Value × Value)}
    {Joins : List (String × Json) → List (String × Json) → Prop} (h : Becomes Joins value json)
    (hholds : value.Holds entries) :
    ∃ named members, List.Forall₂ Names entries named ∧ Joins named members := by
  induction hholds generalizing json with
  | here =>
      cases h with
      | @mapping _ named members keys _ joins => exact ⟨named, members, keys, joins⟩
  | item mem _ ih =>
      cases h with
      | sequence each =>
          obtain ⟨value, hvalue⟩ := exists_of_forall₂ each _ mem
          exact ih hvalue
  | value mem _ ih =>
      cases h with
      | mapping _ each _ =>
          obtain ⟨value, hvalue⟩ := exists_of_forall₂ each _ (List.mem_map_of_mem mem)
          exact ih hvalue
  | tagged _ ih =>
      cases h with
      | tagged inside => exact ih inside

/-- If nothing is lost, each mapping has a text of its own for every key. -/
theorem namesApart_of_eachOnce {value : Value} {json : Json} {entries : List (Value × Value)}
    (h : Becomes EachOnce value json) (hholds : value.Holds entries) :
    Value.NamesApart entries := by
  obtain ⟨named, members, hkeys, hjoins⟩ := h.of_holds hholds
  exact (namesApart_iff_nodup hkeys).mpr hjoins.nodup

theorem eachOnce_of_namesApart {value : Value} {json : Json} (h : Becomes LaterStays value json)
    (hapart : ∀ entries, value.Holds entries → Value.NamesApart entries) :
    Becomes EachOnce value json := by
  induction value using Value.induction generalizing json with
  | null | bool | str =>
      cases h
      constructor
  | num n => cases h <;> constructor
  | sequence items ih =>
      cases h with
      | sequence each =>
          refine .sequence (forall₂_of_mem (fun item hmem value hvalue => ?_) each)
          exact ih item hmem hvalue fun entries hin => hapart entries (.item hmem hin)
  | mapping entries ih =>
      cases h with
      | mapping keys each joins =>
          -- No entry takes the place of another one here, so the later ones are all of them.
          have hnodup := (namesApart_iff_nodup keys).mp (hapart entries .here)
          refine .mapping keys (forall₂_of_mem (fun value hmem json hjson => ?_) each)
            (joins.eachOnce hnodup)
          obtain ⟨entry, hentry, rfl⟩ := List.mem_map.mp hmem
          exact ih entry.2 hmem hjson fun inner hin => hapart inner (.value hentry hin)
  | tagged tag value ih =>
      cases h with
      | tagged inside => exact .tagged (ih inside fun entries hin => hapart entries (.tagged hin))

/-- A text that is read as YAML and has a JSON value becomes that value part by part. Nothing is
lost in it, so that each mapping at any depth has become an object with one member for each of its
entries, exactly if no mapping has a number or a truth value for a key and beside it, as a text, the
spelling of that key. Where a mapping has both, the later entry is the one that stays. -/
theorem entries_kept_iff {text : String} {value : Value} {json : Json}
    (hread : read? text = some value) (hjson : value.toJson = .ok json) :
    Becomes LaterStays value json ∧
      (Becomes EachOnce value json ↔ ∀ entries, value.Holds entries → ¬Value.Confuses entries) := by
  have hbecomes : Becomes LaterStays value json := toJson_eq_ok_iff.mp hjson
  have hapart (entries : List (Value × Value)) (hholds : value.Holds entries) :
      Value.NamesApart entries ↔ ¬Value.Confuses entries := by
    obtain ⟨named, members, hkeys, -⟩ := hbecomes.of_holds hholds
    refine Value.namesApart_iff (sound_of_read? hread entries hholds) fun entry hentry => ?_
    obtain ⟨member, hmember⟩ := exists_of_forall₂ hkeys entry hentry
    exact ⟨member.1, hmember⟩
  refine ⟨hbecomes, fun hkept entries hholds => ?_, fun hclear => ?_⟩
  · exact (hapart entries hholds).mp (namesApart_of_eachOnce hkept hholds)
  · exact eachOnce_of_namesApart hbecomes fun entries hholds =>
      (hapart entries hholds).mpr (hclear entries hholds)

def scalarKeys : Value :=
  .mapping [(.num (.int 1), .str "a"), (.bool true, .sequence [.str "b", .str "c"])]

theorem clear_scalarKeys {entries : List (Value × Value)} (h : scalarKeys.Holds entries) :
    ¬Value.Confuses entries := by
  cases h with
  | here =>
      rintro ⟨text, ⟨entry, hentry, hstr⟩, -⟩
      rcases List.mem_pair.mp hentry with rfl | rfl <;> cases hstr
  | value mem inside =>
      rcases List.mem_pair.mp mem with rfl | rfl
      · cases inside
      · cases inside with
        | item mem inside => rcases List.mem_pair.mp mem with rfl | rfl <;> cases inside

theorem entries_kept_iff_scalarKeys :
    let json := Json.obj [("1", .str "a"), ("true", .arr [.str "b", .str "c"])]
    read? "1: a\ntrue: [b, c]\n" = some scalarKeys ∧ scalarKeys.toJson = .ok json ∧
      Becomes EachOnce scalarKeys json := by
  intro json
  have hread : read? "1: a\ntrue: [b, c]\n" = some scalarKeys := by decide +kernel
  have hjson : scalarKeys.toJson = .ok json := rfl
  exact ⟨hread, hjson, (entries_kept_iff hread hjson).2.mpr fun _ => clear_scalarKeys⟩

def respelledKey : Value :=
  .mapping [(.num (.int 1), .str "a"), (.str "1", .str "b")]

/-- So an entry can be lost, and that is no error. -/
theorem entries_not_always_kept :
    ¬∀ (text : String) (value : Value) (json : Json), read? text = some value →
      value.toJson = .ok json → Becomes EachOnce value json := by
  intro hall
  have hread : read? "1: a\n\"1\": b\n" = some respelledKey := by decide +kernel
  have hjson : respelledKey.toJson = .ok (.obj [("1", .str "b")]) := rfl
  have hapart := namesApart_of_eachOnce (hall _ _ _ hread hjson) .here
  exact List.rel_of_pairwise_cons hapart (List.mem_singleton.mpr rfl) rfl

end ContentForms.Yaml
