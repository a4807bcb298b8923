import ContentForms.Json.Reader
import ContentForms.Proofs.Visits

/-!
Properties that a value shares with its parts. Such a property holds of what is put together from
values that have it: entering and erasing members of an object, or making a list of items, and this
is all that the reader and a check ever do. So whatever is read has it, if the numbers that can be
read have it. The invariant of the reader's machine is that everything it holds has the property, be
it in a frame of the stack or carried beside the stack until the next token.
-/

namespace ContentForms

namespace Json

/-- A property that a value has if its parts have it and passes on to them. Of a number it holds if
`N` does. -/
structure Hereditary (P : Json → Prop) (N : Number → Prop) : Prop where
  null : P .null
  bool : ∀ b, P (.bool b)
  num : ∀ {n}, N n → P (.num n)
  str : ∀ s, P (.str s)
  arr_iff : ∀ {items}, P (.arr items) ↔ ∀ item ∈ items, P item
  empty : P (.obj [])
  insert : ∀ {members} key {value}, P (.obj members) → P value →
    P (.obj (Assoc.insert key value members))
  erase : ∀ {members} key, P (.obj members) → P (.obj (Assoc.erase key members))
  get? : ∀ {members key value}, P (.obj members) → Assoc.get? key members = some value → P value

namespace Hereditary

variable {P : Json → Prop} {N : Number → Prop}

theorem cons (hP : Hereditary P N) {items : List Json} {item : Json} (h : P (.arr items))
    (hitem : P item) : P (.arr (item :: items)) :=
  hP.arr_iff.mpr (List.forall_mem_cons.mpr ⟨hitem, hP.arr_iff.mp h⟩)

theorem reverse (hP : Hereditary P N) {items : List Json} (h : P (.arr items)) :
    P (.arr items.reverse) :=
  hP.arr_iff.mpr fun item hmem => hP.arr_iff.mp h item (List.mem_reverse.mp hmem)

end Hereditary

theorem keeps_foldlM {σ α : Type} {f : σ → α → Option σ} {I : σ → Prop} {steps : List α}
    (hstep : ∀ a ∈ steps, ∀ {s s'}, I s → f s a = some s' → I s') {s s' : σ} (hs : I s)
    (h : steps.foldlM f s = some s') : I s' := by
  induction steps generalizing s with
  | nil =>
      cases h
      exact hs
  | cons a rest ih =>
      obtain ⟨next, hnext, hrest⟩ := Option.bind_eq_some_iff.mp h
      exact ih (fun a hmem => hstep a (List.mem_cons_of_mem _ hmem))
        (hstep a List.mem_cons_self hs hnext) hrest

/-! ### The reader -/

namespace Reader

variable {P : Json → Prop} {N : Number → Prop}

def Frame.Has (P : Json → Prop) : Frame → Prop
  | .array items => P (.arr items)
  | .object members _ => P (.obj members)

def Expected.Has (P : Json → Prop) : Expected → Prop
  | .key members => P (.obj members)
  | .separator complete => P complete
  | _ => True

structure State.Has (P : Json → Prop) (s : State) : Prop where
  stack : ∀ frame ∈ s.stack, frame.Has P
  expected : s.expected.Has P

theorem has_start : start.Has P :=
  ⟨by simp [start], trivial⟩

variable {stack : List Frame} {t : Token} {s s' : State}

theorem has_beginValue (hP : Hereditary P N) (hstack : ∀ frame ∈ stack, frame.Has P)
    (ht : ∀ n, t = .num n → N n) (h : beginValue stack t = some s') : s'.Has P := by
  unfold beginValue at h
  split at h
  case h_1 => cases h; exact ⟨hstack, hP.null⟩
  case h_2 b => cases h; exact ⟨hstack, hP.bool b⟩
  case h_3 n => cases h; exact ⟨hstack, hP.num (ht n rfl)⟩
  case h_4 text => cases h; exact ⟨hstack, hP.str text⟩
  case h_5 =>
    split at h
    · cases h
      exact ⟨List.forall_mem_cons.mpr ⟨hP.arr_iff.mpr (by simp), hstack⟩, trivial⟩
    · cases h
  case h_6 =>
    split at h
    · cases h
      exact ⟨hstack, trivial⟩
    · cases h
  case h_7 => cases h

theorem has_beginKey {members : List (String × Json)} (hstack : ∀ frame ∈ stack, frame.Has P)
    (hmembers : P (.obj members)) (h : beginKey stack members t = some s') : s'.Has P := by
  unfold beginKey at h
  split at h
  · cases h
    exact ⟨List.forall_mem_cons.mpr ⟨hmembers, hstack⟩, trivial⟩
  · cases h

/-- A value that ends goes into the innermost frame, and that frame may end with it. -/
theorem has_separate (hP : Hereditary P N) {value : Json} (hstack : ∀ frame ∈ stack, frame.Has P)
    (hvalue : P value) (h : separate stack value t = some s') : s'.Has P := by
  cases stack with
  | nil => cases t <;> cases h
  | cons frame rest =>
      obtain ⟨hframe, hrest⟩ := List.forall_mem_cons.mp hstack
      cases frame with
      | array items =>
          have hitems : P (.arr (value :: items)) := hP.cons hframe hvalue
          cases t <;> cases h
          case comma.refl => exact ⟨List.forall_mem_cons.mpr ⟨hitems, hrest⟩, trivial⟩
          case closeArray.refl => exact ⟨hrest, hP.reverse hitems⟩
      | object members key =>
          have hmembers : P (.obj (Assoc.insert key value members)) := hP.insert key hframe hvalue
          cases t <;> cases h
          case comma.refl => exact ⟨hrest, hmembers⟩
          case closeObject.refl => exact ⟨hrest, hmembers⟩

theorem has_step (hP : Hereditary P N) (hs : s.Has P) (ht : ∀ n, t = .num n → N n)
    (h : step s t = some s') : s'.Has P := by
  obtain ⟨stack, expected⟩ := s
  obtain ⟨hstack, hexpected⟩ := hs
  cases expected with
  | value => exact has_beginValue hP hstack ht h
  | firstItem =>
      simp only [step] at h
      split at h
      · cases h
        exact ⟨fun frame hmem => hstack frame (List.mem_of_mem_tail hmem),
          hP.arr_iff.mpr (by simp)⟩
      · exact has_beginValue hP hstack ht h
  | firstKey =>
      simp only [step] at h
      split at h
      · cases h
        exact ⟨hstack, hP.empty⟩
      · exact has_beginKey hstack hP.empty h
  | key members => exact has_beginKey hstack hexpected h
  | colon =>
      simp only [step] at h
      split at h
      · cases h
        exact ⟨hstack, trivial⟩
      · cases h
  | separator value => exact has_separate hP hstack hexpected h

theorem has_run (hP : Hereditary P N) {tokens : List Token} (hs : s.Has P)
    (htokens : ∀ n, Token.num n ∈ tokens → N n) (h : tokens.foldlM step s = some s') :
    s'.Has P := by
  refine keeps_foldlM ?_ hs h
  intro t hmem _ _ hs
  refine has_step hP hs ?_
  rintro n rfl
  exact htokens n hmem

end Reader

/-! ### Tokens -/

namespace Token

variable {N : Number → Prop}

def Scan.Has (N : Number → Prop) (s : Scan) : Prop :=
  ∀ n, Token.num n ∈ s.done → N n

theorem has_ofWord? (hN : ∀ cs n, Number.read? cs = some n → N n) {cs : List Char} {n : Number}
    (h : ofWord? cs = some (.num n)) : N n := by
  unfold ofWord? at h
  split at h
  · cases h
  · split at h
    · cases h
    · split at h
      · cases h
      · obtain ⟨m, hread, heq⟩ := Option.map_eq_some_iff.mp h
        cases heq
        exact hN _ _ hread

theorem has_begin {done : List Token} (hdone : ∀ n, Token.num n ∈ done → N n) {c : Char}
    {s : Scan} (h : Scan.begin done c = some s) : s.Has N := by
  unfold Scan.begin at h
  split at h
  · cases h
    exact hdone
  · split at h
    · cases h
      exact hdone
    · split at h
      · cases h
        exact hdone
      · obtain ⟨mark, hmark, rfl⟩ := Option.map_eq_some_iff.mp h
        intro n hmem
        rcases List.mem_cons.mp hmem with rfl | hmem
        · -- A mark is not a number.
          unfold ofMark? at hmark
          split at hmark <;> cases hmark
        · exact hdone n hmem

theorem has_word (hN : ∀ cs n, Number.read? cs = some n → N n) {cs : List Char} {t : Token}
    {done : List Token} (hdone : ∀ n, Token.num n ∈ done → N n) (h : ofWord? cs = some t)
    (n : Number) (hmem : Token.num n ∈ t :: done) : N n := by
  rcases List.mem_cons.mp hmem with rfl | hmem
  · exact has_ofWord? hN h
  · exact hdone n hmem

theorem has_scanStep (hN : ∀ cs n, Number.read? cs = some n → N n) {s s' : Scan} {c : Char}
    (hs : s.Has N) (h : s.step c = some s') : s'.Has N := by
  unfold Scan.step at h
  split at h
  case h_1 => exact has_begin hs h
  case h_2 read _ =>
    split at h
    · cases h
      exact hs
    · obtain ⟨t, hword, hbegin⟩ := Option.bind_eq_some_iff.mp h
      exact has_begin (has_word hN hs hword) hbegin
  case h_3 read _ =>
    split at h
    · cases h
      intro n hmem
      rcases List.mem_cons.mp hmem with heq | hmem
      · cases heq
      · exact hs n hmem
    · obtain ⟨next, -, rfl⟩ := Option.map_eq_some_iff.mp h
      exact hs
  case h_4 =>
    obtain ⟨next, -, rfl⟩ := Option.map_eq_some_iff.mp h
    exact hs

theorem has_scan? (hN : ∀ cs n, Number.read? cs = some n → N n) {cs : List Char}
    {tokens : List Token} (h : scan? cs = some tokens) {n : Number}
    (hmem : Token.num n ∈ tokens) : N n := by
  obtain ⟨s, hrun, hfinish⟩ := Option.bind_eq_some_iff.mp h
  have hs : s.Has N :=
    keeps_foldlM (fun _ _ _ _ => has_scanStep hN) (by simp [Scan.Has]) hrun
  unfold Scan.finish at hfinish
  split at hfinish
  · cases hfinish
    exact hs n (List.mem_reverse.mp hmem)
  · obtain ⟨t, hword, rfl⟩ := Option.map_eq_some_iff.mp hfinish
    exact has_word hN hs hword n (List.mem_reverse.mp hmem)
  · cases hfinish

end Token

/-- What is read from a text has every such property that the numbers have which can be read. -/
theorem has_of_read? {P : Json → Prop} {N : Number → Prop} (hP : Hereditary P N)
    (hN : ∀ cs n, Number.read? cs = some n → N n) {text : String} {value : Json}
    (h : read? text = some value) : P value := by
  obtain ⟨tokens, hscan, htokens⟩ := Option.bind_eq_some_iff.mp h
  obtain ⟨s, hrun, hfinish⟩ := Option.bind_eq_some_iff.mp htokens
  have hs := Reader.has_run hP Reader.has_start (fun n => Token.has_scan? hN hscan) hrun
  obtain ⟨stack, expected⟩ := s
  match stack, expected with
  | [], .separator _ =>
      cases hfinish
      exact hs.expected
  | [], .value | [], .firstItem | [], .firstKey | [], .key _ | [], .colon | _ :: _, _ =>
      cases hfinish

end Json

/-! ### A check -/

namespace Validation

variable {P : Json → Prop} {N : Number → Prop}

theorem has_store (hP : Json.Hereditary P N) {members : List (String × Json)}
    {outcome : String × Checked} (hmembers : P (.obj members))
    (houtcome : ∀ value, outcome.2.value = some value → P value) :
    P (.obj (store members outcome)) := by
  unfold store
  split
  · next value hvalue => exact hP.insert outcome.1 hmembers (houtcome value hvalue)
  · exact hP.erase outcome.1 hmembers

theorem has_checkedMembers (hP : Json.Hereditary P N) {members : List (String × Rule)}
    {values : List (String × Json)} (hvalues : P (.obj values))
    (heach : ∀ id rule, (id, rule) ∈ members →
      ∀ value, (check rule (Assoc.get? id values)).value = some value → P value) :
    P (.obj (checkedMembers members values)) := by
  rw [checkedMembers, checkMembers_eq_map]
  refine List.foldlRecOn (motive := fun stored => P (.obj stored)) _ store hvalues ?_
  intro stored hstored outcome hmem
  obtain ⟨entry, hentry, rfl⟩ := List.mem_map.mp hmem
  exact has_store hP hstored (heach entry.1 entry.2 hentry)

/-- The step of the induction below for the two rules of objects. -/
theorem has_checkObject (hP : Json.Hereditary P N) {label : String}
    {members : List (String × Rule)} {required : Bool} {input : Option Json}
    (hinput : ∀ value, input = some value → P value)
    (hgood : (checkObject label members required input).issues = [])
    (heach : ∀ values, input = some (.obj values) → ∀ id rule, (id, rule) ∈ members →
      (check rule (Assoc.get? id values)).issues = [] →
      ∀ value, (check rule (Assoc.get? id values)).value = some value → P value) :
    ∀ value, (checkObject label members required input).value = some value → P value := by
  rcases checkObject_issues_eq_nil_iff.mp hgood with ⟨rfl, hmissing⟩ | ⟨values, rfl, hchecked⟩
  · rwa [checkObject_of_missing hmissing]
  · rw [checkObject_obj, closeRecord_value]
    rintro _ ⟨⟩
    exact has_checkedMembers hP (hinput _ rfl) fun id rule hmem =>
      heach values rfl id rule hmem (hchecked id rule hmem)

theorem has_checkedItems (hP : Json.Hereditary P N) {element : Rule} {items : List Json}
    (hitems : P (.arr items))
    (heach : ∀ item ∈ items, ∀ value, (check element (some item)).value = some value → P value) :
    P (.arr (items.map fun item => (check element (some item)).value.getD item)) := by
  refine hP.arr_iff.mpr fun stored hmem => ?_
  obtain ⟨item, hitem, rfl⟩ := List.mem_map.mp hmem
  cases hvalue : (check element (some item)).value with
  | none => exact hP.arr_iff.mp hitems item hitem
  | some value => exact heach item hitem value hvalue

/-- What is accepted has the property that the input has, if the numbers have it for which a text
can stand. -/
theorem has_check (hP : Json.Hereditary P N) (hN : ∀ s n, coerceNumber? s = some n → N n)
    (rule : Rule) (input : Option Json) (hinput : ∀ value, input = some value → P value)
    (hgood : (check rule input).issues = []) :
    ∀ value, (check rule input).value = some value → P value := by
  induction rule, input using Rule.branchInduction with
  | step rule input ih =>
  -- Members are part of the input, so they have the property before they are checked.
  have hmember : ∀ values, input = some (.obj values) → ∀ id member, (id, member) ∈ rule.members →
      (check member (Assoc.get? id values)).issues = [] →
      ∀ value, (check member (Assoc.get? id values)).value = some value → P value :=
    fun values heq id member hmem => ih ⟨.key id, member, Assoc.get? id values⟩
      (Rule.mem_branches_iff.mpr (.inl ⟨values, id, member, heq, hmem, rfl⟩))
      fun _ hget => hP.get? (hinput _ heq) hget
  cases rule with
  | text label format required =>
      rw [check] at hgood ⊢
      rwa [checkText_of_issues hgood]
  | number label =>
      rw [check] at hgood ⊢
      rcases checkNumber_of_issues hgood with ⟨n, rfl, hcheck⟩ | ⟨s, n, rfl, hcoerce, hcheck⟩
      · rwa [hcheck]
      · rw [hcheck]
        rintro _ ⟨⟩
        exact hP.num (hN s n hcoerce)
  | choice label allowed multiple required => rwa [check_choice_of_issues hgood]
  | record label members required =>
      rw [check_record] at hgood ⊢
      exact has_checkObject hP hinput hgood hmember
  | media label members required minimal =>
      rw [check_media] at hgood ⊢
      exact has_checkObject hP hinput hgood hmember
  | list label element =>
      rcases check_list_issues_eq_nil_iff.mp hgood with hmissing | ⟨items, rfl, heach⟩
      · rw [check_list_of_missing label element hmissing]
        rintro _ ⟨⟩
        exact hP.arr_iff.mpr (by simp)
      · cases element with
        | none => rwa [check_anyItems_arr]
        | some element =>
            rw [check_items_arr, closeList_value]
            rintro _ ⟨⟩
            have hitems : P (.arr items) := hinput _ rfl
            refine has_checkedItems hP hitems fun item hitem => ?_
            obtain ⟨i, hi⟩ := List.mem_iff_getElem?.mp hitem
            refine ih ⟨.index i, element, some item⟩ (Rule.mem_branches_iff.mpr
              (.inr ⟨label, element, items, i, item, rfl, rfl, hi, rfl⟩)) ?_
              (heach element rfl item hitem)
            rintro _ ⟨⟩
            exact hP.arr_iff.mp hitems item hitem

end Validation

end ContentForms
