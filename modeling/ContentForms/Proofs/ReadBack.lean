import ContentForms.Proofs.Normalization
import ContentForms.Proofs.Spelling

/-!
Printed JSON reads back, but for floats that come back as a neighbour. The tokens of a value take
the machine of the reader from where a value may come to where one has ended, with that value and
whatever was open before. This works just as long as the height of the stack and the depth of the
value together are within the limit; beyond it the machine breaks off at the first array or object
that would be too deep. The members of an object come in key order, so each of them is entered
behind the others and the order of the value is that of the text.
-/

namespace ContentForms

/-- A key behind all others is entered at the end. -/
theorem Assoc.insert_of_ascending {α : Type u} {key : String} {value : α}
    {entries : List (String × α)} (h : Ascending (entries ++ [(key, value)])) :
    insert key value entries = entries ++ [(key, value)] := by
  obtain ⟨-, -, hless⟩ := List.pairwise_append.mp h
  have hlast : ∀ entry ∈ entries, entry.1 < key :=
    fun entry hmem => hless entry hmem _ (List.mem_singleton_self _)
  have hnew : ¬contains key entries := by
    rw [contains_iff]
    intro hmem
    obtain ⟨entry, hentry, rfl⟩ := List.mem_map.mp hmem
    exact absurd (hlast entry hentry) (String.lt_irrefl _)
  rw [insert, if_neg hnew]
  clear h hless hnew
  induction entries with
  | nil => rfl
  | cons entry rest ih =>
      obtain ⟨hentry, hrest⟩ := List.forall_mem_cons.mp hlast
      rw [place, if_neg (String.lt_asymm hentry), ih hrest]
      rfl

namespace Json

namespace Reader

variable {stack : List Frame}

theorem tokens_eq_cons (value : Json) :
    ∃ t rest, value.tokens = t :: rest ∧ t ≠ .closeArray := by
  match value with
  | .null | .bool _ | .num _ | .str _ | .arr [] | .arr (_ :: _) | .obj [] | .obj (_ :: _) =>
      exact ⟨_, _, by rw [tokens], by simp⟩

theorem foldlM_firstItem (value : Json) (rest : List Token) :
    (value.tokens ++ rest).foldlM step ⟨stack, .firstItem⟩ =
      (value.tokens ++ rest).foldlM step ⟨stack, .value⟩ := by
  obtain ⟨t, more, htokens, ht⟩ := tokens_eq_cons value
  have hstep : step ⟨stack, .firstItem⟩ t = step ⟨stack, .value⟩ t := by
    simp [step, ht]
  rw [htokens, List.cons_append, List.foldlM_cons, List.foldlM_cons, hstep]

mutual
/-- The tokens of a value are read as that value, wherever it stands, unless it goes too deep
there. -/
theorem foldlM_tokens (value : Json) (h : value.Ordered) (stack : List Frame)
    (hstack : stack.length ≤ maxDepth) (rest : List Token) :
    (value.tokens ++ rest).foldlM step ⟨stack, .value⟩ =
      if stack.length + value.depth ≤ maxDepth then rest.foldlM step ⟨stack, .separator value⟩
      else none := by
  match value with
  | .null | .bool _ | .num _ | .str _ =>
      rw [tokens, if_pos (by simpa [depth] using hstack)]
      rfl
  | .arr [] =>
      by_cases hopen : stack.length < maxDepth
      · simp [tokens, step, beginValue, depth, depthItems, hopen, Nat.succ_le_of_lt hopen]
      · simp [tokens, step, beginValue, depth, depthItems, hopen, mt Nat.lt_of_succ_le hopen]
  | .obj [] =>
      by_cases hopen : stack.length < maxDepth
      · simp [tokens, step, beginValue, depth, depthMembers, hopen, Nat.succ_le_of_lt hopen]
      · simp [tokens, step, beginValue, depth, depthMembers, hopen, mt Nat.lt_of_succ_le hopen]
  | .arr (x :: xs) =>
      have hx : x.Ordered := h.of_mem List.mem_cons_self
      have hxs : ∀ item ∈ xs, item.Ordered :=
        fun item hmem => h.of_mem (List.mem_cons_of_mem x hmem)
      rw [tokens, List.cons_append, List.foldlM_cons, depth, depthItems]
      by_cases hopen : stack.length < maxDepth
      · have hbegin : step ⟨stack, .value⟩ .openArray = some ⟨.array [] :: stack, .firstItem⟩ :=
          if_pos hopen
        rw [hbegin, List.append_assoc]
        show List.foldlM step ⟨.array [] :: stack, .firstItem⟩ _ = _
        rw [foldlM_firstItem, foldlM_tokens x hx (.array [] :: stack) hopen,
          foldlM_tokensItems xs hxs stack hopen, ← ite_and]
        refine if_congr ?_ rfl rfl
        rw [List.length_cons]
        omega
      · have hfull : step ⟨stack, .value⟩ .openArray = none := if_neg hopen
        rw [hfull, if_neg (by omega)]
        rfl
  | .obj ((key, v) :: members) =>
      cases h with
      | obj ascending each =>
          have hv := each key v List.mem_cons_self
          have hmembers : ∀ k w, (k, w) ∈ members → w.Ordered :=
            fun k w hmem => each k w (List.mem_cons_of_mem _ hmem)
          rw [tokens, List.cons_append, List.foldlM_cons, depth, depthMembers]
          by_cases hopen : stack.length < maxDepth
          · have hbegin : step ⟨stack, .value⟩ .openObject = some ⟨stack, .firstKey⟩ :=
              if_pos hopen
            rw [hbegin]
            show List.foldlM step ⟨.object [] key :: stack, .value⟩
              (v.tokens ++ tokensMembers members ++ rest) = _
            rw [List.append_assoc, foldlM_tokens v hv (.object [] key :: stack) hopen,
              foldlM_tokensMembers members hmembers stack hopen [] key v ascending, ← ite_and]
            refine if_congr ?_ rfl rfl
            rw [List.length_cons]
            omega
          · have hfull : step ⟨stack, .value⟩ .openObject = none := if_neg hopen
            rw [hfull, if_neg (by omega)]
            rfl

theorem foldlM_tokensItems (items : List Json) (h : ∀ item ∈ items, item.Ordered)
    (stack : List Frame) (hopen : stack.length < maxDepth) (before : List Json) (last : Json)
    (rest : List Token) :
    (tokensItems items ++ rest).foldlM step ⟨.array before :: stack, .separator last⟩ =
      if stack.length + 1 + depthItems items ≤ maxDepth then
        rest.foldlM step ⟨stack, .separator (.arr (before.reverse ++ last :: items))⟩
      else none := by
  match items with
  | [] => simp [tokensItems, step, separate, depthItems, Nat.succ_le_of_lt hopen]
  | x :: xs =>
      obtain ⟨hx, hxs⟩ := List.forall_mem_cons.mp h
      rw [tokensItems, List.cons_append, List.append_assoc, depthItems]
      show List.foldlM step ⟨.array (last :: before) :: stack, .value⟩ _ = _
      rw [foldlM_tokens x hx (.array (last :: before) :: stack) hopen,
        foldlM_tokensItems xs hxs stack hopen, List.reverse_cons, List.append_assoc, ← ite_and]
      refine if_congr ?_ rfl rfl
      rw [List.length_cons]
      omega

theorem foldlM_tokensMembers (members : List (String × Json))
    (h : ∀ key value, (key, value) ∈ members → value.Ordered) (stack : List Frame)
    (hopen : stack.length < maxDepth) (before : List (String × Json)) (key : String) (last : Json)
    (hascending : Assoc.Ascending (before ++ (key, last) :: members)) (rest : List Token) :
    (tokensMembers members ++ rest).foldlM step ⟨.object before key :: stack, .separator last⟩ =
      if stack.length + 1 + depthMembers members ≤ maxDepth then
        rest.foldlM step ⟨stack, .separator (.obj (before ++ (key, last) :: members))⟩
      else none := by
  match members with
  | [] =>
      have hinsert := Assoc.insert_of_ascending hascending
      simp [tokensMembers, step, separate, hinsert, depthMembers, Nat.succ_le_of_lt hopen]
  | (k, v) :: more =>
      have hv := h k v List.mem_cons_self
      have hmore : ∀ k' w, (k', w) ∈ more → w.Ordered :=
        fun k' w hmem => h k' w (List.mem_cons_of_mem _ hmem)
      rw [List.append_cons] at hascending
      have hinsert : Assoc.insert key last before = before ++ [(key, last)] :=
        Assoc.insert_of_ascending (hascending.sublist (List.sublist_append_left _ _))
      rw [tokensMembers, List.cons_append, depthMembers]
      show List.foldlM step ⟨.object (Assoc.insert key last before) k :: stack, .value⟩
        (v.tokens ++ tokensMembers more ++ rest) = _
      rw [hinsert, List.append_assoc,
        foldlM_tokens v hv (.object (before ++ [(key, last)]) k :: stack) hopen,
        foldlM_tokensMembers more hmore stack hopen _ k v hascending, List.append_assoc, ← ite_and]
      refine if_congr ?_ rfl rfl
      rw [List.length_cons]
      omega
end

end Reader

/-! ### Values that are reread -/

theorem keys_rereadMembers (members : List (String × Json)) :
    Assoc.keys (rereadMembers members) = Assoc.keys members := by
  induction members with
  | nil => rfl
  | cons entry rest ih => exact congrArg (entry.1 :: ·) ih

theorem exists_of_mem_rereadItems {items : List Json} {item : Json}
    (h : item ∈ rereadItems items) : ∃ item' ∈ items, item'.reread = item := by
  induction items with
  | nil => cases h
  | cons x xs ih =>
      rcases List.mem_cons.mp h with rfl | hmem
      · exact ⟨x, List.mem_cons_self, rfl⟩
      · obtain ⟨item', hmem', heq⟩ := ih hmem
        exact ⟨item', List.mem_cons_of_mem _ hmem', heq⟩

theorem exists_of_mem_rereadMembers {members : List (String × Json)} {key : String} {value : Json}
    (h : (key, value) ∈ rereadMembers members) :
    ∃ value', (key, value') ∈ members ∧ value'.reread = value := by
  induction members with
  | nil => cases h
  | cons entry rest ih =>
      rcases List.mem_cons.mp h with heq | hmem
      · cases heq
        exact ⟨entry.2, List.mem_cons_self, rfl⟩
      · obtain ⟨value', hmem', heq⟩ := ih hmem
        exact ⟨value', List.mem_cons_of_mem _ hmem', heq⟩

theorem ordered_reread {value : Json} (h : value.Ordered) : value.reread.Ordered := by
  induction h with
  | null => exact .null
  | bool b => exact .bool b
  | num n => exact .num n.reread
  | str s => exact .str s
  | arr each ih =>
      refine .arr fun item hmem => ?_
      obtain ⟨item', hmem', rfl⟩ := exists_of_mem_rereadItems hmem
      exact ih item' hmem'
  | @obj members ascending each ih =>
      refine .obj ?_ fun key value hmem => ?_
      · rw [Assoc.ascending_iff_keys] at ascending ⊢
        rwa [keys_rereadMembers]
      · obtain ⟨value', hmem', rfl⟩ := exists_of_mem_rereadMembers hmem
        exact ih key value' hmem'

mutual
theorem depth_reread (value : Json) : value.reread.depth = value.depth := by
  match value with
  | .null | .bool _ | .num _ | .str _ => simp [reread, depth]
  | .arr items => rw [reread, depth, depth, depthItems_reread]
  | .obj members => rw [reread, depth, depth, depthMembers_reread]

theorem depthItems_reread (items : List Json) :
    depthItems (rereadItems items) = depthItems items := by
  match items with
  | [] => rfl
  | x :: xs => rw [rereadItems, depthItems, depthItems, depth_reread, depthItems_reread]

theorem depthMembers_reread (members : List (String × Json)) :
    depthMembers (rereadMembers members) = depthMembers members := by
  match members with
  | [] => rfl
  | (k, v) :: rest =>
      rw [rereadMembers, depthMembers, depthMembers, depth_reread, depthMembers_reread]
end

/-- A value that is printed over several lines is read as what is reread of it, or refused for its
depth. -/
theorem read?_pretty {value : Json} (hordered : value.Ordered) (hnumbers : value.NumbersFit) :
    read? value.pretty = if value.depth ≤ Reader.maxDepth then some value.reread else none := by
  have hscan := (Token.spells_pretty 0 value hnumbers).scan?
  have hrun := Reader.foldlM_tokens value.reread (ordered_reread hordered) [] (Nat.zero_le _) []
  rw [List.append_nil, List.length_nil, Nat.zero_add, depth_reread] at hrun
  rw [read?, pretty, String.toList_ofList, hscan, Option.bind_some, ofTokens?, Reader.start, hrun]
  split <;> rfl

/-! ### Which values are read back -/

theorem hereditary_numbersFit : Hereditary NumbersFit Number.Fits where
  null := .null
  bool := .bool
  num := .num
  str := .str
  arr_iff := ⟨fun h => by cases h with | arr each => exact each, .arr⟩
  empty := .obj (by simp)
  insert := by
    rintro members key value ⟨⟩ hvalue
    next each =>
      refine .obj fun k v hmem => ?_
      rcases Assoc.mem_of_mem_insert hmem with heq | hmem
      · cases heq
        exact hvalue
      · exact each k v hmem
  erase := by
    rintro members key ⟨⟩
    next each => exact .obj fun k v hmem => each k v (List.mem_of_mem_filter hmem)
  get? := by
    rintro members key value ⟨⟩ hget
    next each => exact each key value (Assoc.mem_of_get? hget)

end Json

namespace Number

theorem fits_of_readUnsigned? {negative : Bool} {cs : List Char} {n : Number}
    (h : readUnsigned? negative cs = some n) : n.Fits := by
  unfold readUnsigned? at h
  dsimp only at h
  generalize (if negative then -(Text.ofDigits 10 (cs.takeWhile Char.isDigit) : Int)
    else Text.ofDigits 10 (cs.takeWhile Char.isDigit)) = i at h
  split at h
  · cases h
  · split at h
    · next hint =>
        cases h
        simp only [Bool.and_eq_true] at hint
        exact hint.1.2
    · obtain ⟨_, -, hrest⟩ := Option.bind_eq_some_iff.mp h
      obtain ⟨_, -, hdone⟩ := Option.bind_eq_some_iff.mp hrest
      cases hdone
      trivial

/-- An integer that is read fits into sixty-four bits, because otherwise it is not an integer. -/
theorem fits_of_read? {cs : List Char} {n : Number} (h : read? cs = some n) : n.Fits := by
  unfold read? at h
  split at h <;> exact fits_of_readUnsigned? h

end Number

namespace Validation

/-- The number that a text stands for is one that can be written and read. -/
theorem fits_of_coerceNumber? {s : String} {n : Number} (h : coerceNumber? s = some n) :
    n.Fits := by
  obtain ⟨value, -, hrest⟩ := Option.bind_eq_some_iff.mp h
  split at hrest
  · next i _ =>
      split at hrest
      · next hsmall =>
          cases hrest
          have hexact : greatestExact.natAbs = 2 ^ 53 := rfl
          have hleast : Number.leastInt = -2 ^ 63 := rfl
          have hgreatest : Number.greatestInt = 2 ^ 64 - 1 := rfl
          rw [hexact] at hsmall
          simp only [Number.Fits, Number.fits, hleast, hgreatest, Bool.and_eq_true,
            decide_eq_true_eq]
          omega
      · cases hrest
        trivial
  · cases hrest
    trivial

end Validation

namespace CompiledSchema

variable {schema : CompiledSchema} {text : String} {document data : Json}

/-- What reading a text ensures, a check keeps. -/
theorem has_of_accepted {P : Json → Prop} {N : Number → Prop} (hP : Json.Hereditary P N)
    (hread? : ∀ cs n, Number.read? cs = some n → N n)
    (hcoerced : ∀ s n, Validation.coerceNumber? s = some n → N n)
    (hread : Json.read? text = some document)
    (haccepted : schema.validate document = .accepted data) : P data := by
  obtain ⟨hissues, hvalue⟩ := check_root_of_accepted haccepted
  refine Validation.has_check hP hcoerced schema.root (some document) ?_ hissues data hvalue
  rintro _ ⟨⟩
  exact Json.has_of_read? hP hread? hread

theorem ordered_of_accepted (hread : Json.read? text = some document)
    (haccepted : schema.validate document = .accepted data) : data.Ordered :=
  has_of_accepted Json.hereditary_ordered (fun _ _ _ => trivial) (fun _ _ _ => trivial) hread
    haccepted

theorem numbersFit_of_accepted (hread : Json.read? text = some document)
    (haccepted : schema.validate document = .accepted data) : data.NumbersFit :=
  has_of_accepted Json.hereditary_numbersFit (fun _ _ => Number.fits_of_read?)
    (fun _ _ => Validation.fits_of_coerceNumber?) hread haccepted

theorem exists_read?_pretty_of_accepted (hread : Json.read? text = some document)
    (haccepted : schema.validate document = .accepted data)
    (hdepth : data.depth ≤ Json.Reader.maxDepth) :
    ∃ again, Json.read? data.pretty = some again := by
  refine ⟨data.reread, ?_⟩
  rw [Json.read?_pretty (ordered_of_accepted hread haccepted)
    (numbersFit_of_accepted hread haccepted), if_pos hdepth]

end CompiledSchema

end ContentForms
