import ContentForms.Proofs.Ordered

/-!
How deep a value nests, and that no value which is read nests deeper than the limit of the reader.
The machine of the reader counts what is open: what a frame of its stack holds, together with the
height at which the frame lies, is always within the limit, and so is the value that it hands over.
-/

namespace ContentForms

namespace Json

/-! ### The depth of a container -/

@[simp] theorem depth_arr (items : List Json) : (arr items).depth = depthItems items + 1 := by
  rw [depth]

@[simp] theorem depth_obj (members : List (String × Json)) :
    (obj members).depth = depthMembers members + 1 := by
  rw [depth]

theorem depthItems_le_iff {items : List Json} {n : Nat} :
    depthItems items ≤ n ↔ ∀ item ∈ items, item.depth ≤ n := by
  induction items with
  | nil => simp [depthItems]
  | cons item rest ih => rw [depthItems, Nat.max_le, List.forall_mem_cons, ih]

theorem depthMembers_le_iff {members : List (String × Json)} {n : Nat} :
    depthMembers members ≤ n ↔ ∀ key value, (key, value) ∈ members → value.depth ≤ n := by
  induction members with
  | nil => simp [depthMembers]
  | cons member rest ih =>
      obtain ⟨key, value⟩ := member
      rw [depthMembers, Nat.max_le, ih]
      simp only [List.mem_cons, Prod.mk.injEq]
      constructor
      · rintro ⟨hvalue, hrest⟩ k v (⟨rfl, rfl⟩ | hmem)
        · exact hvalue
        · exact hrest k v hmem
      · intro h
        exact ⟨h key value (.inl ⟨rfl, rfl⟩), fun k v hmem => h k v (.inr hmem)⟩

/-- Of an object that is a map, what is found by its keys is all there is. -/
theorem depthMembers_le_iff_get? {members : List (String × Json)} (h : (obj members).Ordered)
    {n : Nat} :
    depthMembers members ≤ n ↔
      ∀ key value, Assoc.get? key members = some value → value.depth ≤ n := by
  rw [depthMembers_le_iff]
  simp only [Assoc.get?_eq_some_iff h.ascending.nodup_keys]

theorem depthMembers_insert_le {key : String} {value : Json} {members : List (String × Json)}
    {n : Nat} (hmembers : depthMembers members ≤ n) (hvalue : value.depth ≤ n) :
    depthMembers (Assoc.insert key value members) ≤ n := by
  refine depthMembers_le_iff.mpr fun k v hmem => ?_
  rcases Assoc.mem_of_mem_insert hmem with heq | hmem
  · cases heq
    exact hvalue
  · exact depthMembers_le_iff.mp hmembers k v hmem

namespace Reader

/-! ### What is read is within the limit -/

/-- What a frame holds is within the limit together with the frames below. -/
inductive Bounded : List Frame → Prop
  | nil : Bounded []
  | cons {frame : Frame} {below : List Frame}
      (contents : frame.Has fun value => value.depth + below.length ≤ maxDepth)
      (rest : Bounded below) : Bounded (frame :: below)

theorem Bounded.length_le {stack : List Frame} (h : Bounded stack) : stack.length ≤ maxDepth := by
  cases h with
  | nil => exact Nat.zero_le _
  | @cons frame below contents rest =>
      rw [List.length_cons]
      cases frame with
      | array items =>
          simp only [Frame.Has, depth_arr] at contents
          omega
      | object members key =>
          simp only [Frame.Has, depth_obj] at contents
          omega

/-- What the machine holds is within the limit, and so is the object whose first key comes next. -/
structure State.Bounded (s : State) : Prop where
  stack : Reader.Bounded s.stack
  expected : s.expected.Has fun value => value.depth + s.stack.length ≤ maxDepth
  opened : s.expected = .firstKey → s.stack.length < maxDepth

variable {stack : List Frame} {t : Token} {s s' : State}

theorem bounded_start : start.Bounded :=
  ⟨.nil, trivial, fun h => by cases h⟩

theorem bounded_separator {value : Json} (hstack : Bounded stack)
    (hvalue : value.depth + stack.length ≤ maxDepth) :
    State.Bounded ⟨stack, .separator value⟩ :=
  ⟨hstack, hvalue, fun h => by cases h⟩

theorem bounded_beginValue (hstack : Bounded stack) (h : beginValue stack t = some s') :
    s'.Bounded := by
  have hscalar {value : Json} (hdepth : value.depth = 0) :
      State.Bounded ⟨stack, .separator value⟩ :=
    bounded_separator hstack (by rw [hdepth, Nat.zero_add]; exact hstack.length_le)
  unfold beginValue at h
  split at h
  case h_1 | h_2 | h_3 | h_4 =>
    cases h
    exact hscalar (by rw [depth] <;> simp)
  case h_5 =>
    split at h
    · next hopen =>
        cases h
        refine ⟨.cons ?_ hstack, trivial, fun h => by cases h⟩
        simp only [Frame.Has, depth_arr, depthItems]
        omega
    · cases h
  case h_6 =>
    split at h
    · next hopen =>
        cases h
        exact ⟨hstack, trivial, fun _ => hopen⟩
    · cases h
  case h_7 => cases h

theorem bounded_beginKey {members : List (String × Json)} (hstack : Bounded stack)
    (hmembers : (obj members).depth + stack.length ≤ maxDepth)
    (h : beginKey stack members t = some s') : s'.Bounded := by
  unfold beginKey at h
  split at h
  · cases h
    exact ⟨.cons hmembers hstack, trivial, fun h => by cases h⟩
  · cases h

theorem bounded_separate {value : Json} (hstack : Bounded stack)
    (hvalue : value.depth + stack.length ≤ maxDepth) (h : separate stack value t = some s') :
    s'.Bounded := by
  cases hstack with
  | nil => cases t <;> cases h
  | @cons frame below contents rest =>
      rw [List.length_cons] at hvalue
      cases frame with
      | array items =>
          simp only [Frame.Has, depth_arr] at contents
          have hitems : depthItems (value :: items) + 1 + below.length ≤ maxDepth := by
            rw [depthItems]
            omega
          cases t <;> cases h
          case comma.refl =>
            refine ⟨.cons ?_ rest, trivial, fun h => by cases h⟩
            rwa [Frame.Has, depth_arr]
          case closeArray.refl =>
            have hreverse : depthItems (value :: items).reverse ≤ depthItems (value :: items) :=
              depthItems_le_iff.mpr fun item hmem =>
                depthItems_le_iff.mp (Nat.le_refl _) item (List.mem_reverse.mp hmem)
            refine bounded_separator rest ?_
            rw [depth_arr]
            omega
      | object members key =>
          simp only [Frame.Has, depth_obj] at contents
          have hinsert : depthMembers (Assoc.insert key value members) ≤
              maxDepth - 1 - below.length :=
            depthMembers_insert_le (by omega) (by omega)
          have hobject : (obj (Assoc.insert key value members)).depth + below.length ≤
              maxDepth := by
            rw [depth_obj]
            omega
          cases t <;> cases h
          case comma.refl => exact ⟨rest, hobject, fun h => by cases h⟩
          case closeObject.refl => exact bounded_separator rest hobject

theorem bounded_step (hs : s.Bounded) (h : step s t = some s') : s'.Bounded := by
  obtain ⟨stack, expected⟩ := s
  obtain ⟨hstack, hexpected, hopened⟩ := hs
  cases expected with
  | value => exact bounded_beginValue hstack h
  | firstItem =>
      simp only [step] at h
      split at h
      · cases h
        have hlength : stack.tail.length + 1 ≤ maxDepth := by
          have hbound : stack.length ≤ maxDepth := hstack.length_le
          rw [List.length_tail]
          have hmax : maxDepth = 127 := rfl
          omega
        refine bounded_separator ?_ (by rw [depth_arr, depthItems]; omega)
        cases hstack with
        | nil => exact .nil
        | cons _ rest => exact rest
      · exact bounded_beginValue hstack h
  | firstKey =>
      have hempty : (obj []).depth + stack.length ≤ maxDepth := by
        have hopen := hopened rfl
        rw [depth_obj, depthMembers]
        dsimp only at hopen
        omega
      simp only [step] at h
      split at h
      · cases h
        exact bounded_separator hstack hempty
      · exact bounded_beginKey hstack hempty h
  | key members => exact bounded_beginKey hstack hexpected h
  | colon =>
      simp only [step] at h
      split at h
      · cases h
        exact ⟨hstack, trivial, fun h => by cases h⟩
      · cases h
  | separator value => exact bounded_separate hstack hexpected h

end Reader

theorem depth_of_read? {text : String} {value : Json} (h : read? text = some value) :
    value.depth ≤ Reader.maxDepth := by
  obtain ⟨tokens, -, htokens⟩ := Option.bind_eq_some_iff.mp h
  obtain ⟨s, hrun, hfinish⟩ := Option.bind_eq_some_iff.mp htokens
  have hs : s.Bounded :=
    keeps_foldlM (fun _ _ _ _ => Reader.bounded_step) Reader.bounded_start hrun
  obtain ⟨stack, expected⟩ := s
  match stack, expected with
  | [], .separator _ =>
      cases hfinish
      exact hs.expected
  | [], .value | [], .firstItem | [], .firstKey | [], .key _ | [], .colon | _ :: _, _ =>
      cases hfinish

end Json

end ContentForms
