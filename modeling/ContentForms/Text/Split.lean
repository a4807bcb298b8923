/-!
Cutting a text at a character. `splitFirst?` and `splitLast?` cut at one occurrence and give the two
sides without it; `pieces` cuts at all of them, so it has one piece more than there are occurrences.
-/

namespace ContentForms.Text

def splitFirst? (mark : Char) : List Char → Option (List Char × List Char)
  | [] => none
  | c :: rest =>
      if c = mark then some ([], rest)
      else (splitFirst? mark rest).map fun (before, after) => (c :: before, after)

def splitLast? (mark : Char) (cs : List Char) : Option (List Char × List Char) :=
  (splitFirst? mark cs.reverse).map fun (after, before) => (before.reverse, after.reverse)

/-- The pieces between the occurrences, empty ones included. -/
def pieces (mark : Char) : List Char → List (List Char)
  | [] => [[]]
  | c :: rest =>
      if c = mark then [] :: pieces mark rest
      else match pieces mark rest with
        | [] => [[c]]
        | piece :: more => (c :: piece) :: more

def dropEnd? (ending : String) (cs : List Char) : Option (List Char) :=
  List.isSuffixOf? ending.toList cs

def dropStart? (beginning : String) (cs : List Char) : Option (List Char) :=
  List.isPrefixOf? beginning.toList cs

theorem eq_of_splitFirst? {mark : Char} {cs before after : List Char}
    (h : splitFirst? mark cs = some (before, after)) :
    cs = before ++ mark :: after ∧ mark ∉ before := by
  induction cs generalizing before with
  | nil => simp [splitFirst?] at h
  | cons c rest ih =>
      by_cases hc : c = mark
      · have hpair : [] = before ∧ rest = after := by simpa [splitFirst?, hc] using h
        obtain ⟨rfl, rfl⟩ := hpair
        simp [hc]
      · simp only [splitFirst?, hc, if_false, Option.map_eq_some_iff, Prod.exists] at h
        obtain ⟨b, a, hrest, heq⟩ := h
        have hpair : c :: b = before ∧ a = after := by simpa using heq
        obtain ⟨rfl, rfl⟩ := hpair
        obtain ⟨hcut, hmem⟩ := ih hrest
        refine ⟨by simp [hcut], ?_⟩
        simp [hmem, Ne.symm hc]

theorem splitFirst?_eq_some_iff {mark : Char} {cs before after : List Char} :
    splitFirst? mark cs = some (before, after) ↔ cs = before ++ mark :: after ∧ mark ∉ before := by
  refine ⟨eq_of_splitFirst?, ?_⟩
  rintro ⟨rfl, hmark⟩
  induction before with
  | nil => simp [splitFirst?]
  | cons c rest ih =>
      obtain ⟨hc, hrest⟩ := List.ne_and_not_mem_of_not_mem_cons hmark
      rw [List.cons_append, splitFirst?, if_neg hc.symm, ih hrest]
      rfl

theorem splitFirst?_append {mark : Char} {cs ending : List Char} (hmark : mark ∉ ending) :
    splitFirst? mark (cs ++ ending) =
      (splitFirst? mark cs).map fun (before, after) => (before, after ++ ending) := by
  induction cs with
  | nil =>
      rw [List.nil_append]
      cases hcut : splitFirst? mark ending with
      | none => rfl
      | some sides =>
          obtain ⟨before, after⟩ := sides
          rw [(eq_of_splitFirst? hcut).1] at hmark
          simp at hmark
  | cons c rest ih =>
      rw [List.cons_append, splitFirst?, splitFirst?]
      split
      · rfl
      · rw [ih]
        cases splitFirst? mark rest <;> rfl

theorem splitLast?_append {mark : Char} {after : List Char} (hmark : mark ∉ after)
    (before : List Char) : splitLast? mark (before ++ mark :: after) = some (before, after) := by
  have hreverse : (before ++ mark :: after).reverse = after.reverse ++ mark :: before.reverse := by
    simp
  have hcut := splitFirst?_eq_some_iff.mpr ⟨hreverse, by simpa using hmark⟩
  rw [splitLast?, hcut]
  simp

end ContentForms.Text
