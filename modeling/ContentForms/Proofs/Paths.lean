import ContentForms.Store.Layout

/-!
Paths as texts and as lists of names. Joining a name to a directory adds one name to those that the
text of the directory has, whatever the spelling of the directory; so the path of a place below a
content root can be read back from its text, and two places have the same text only if they are the
same. This takes names that are names: without a slash, not empty and not a dot, as are all that
come from a content name or a slug.
-/

namespace ContentForms

namespace Text

theorem pieces_ne_nil (mark : Char) (cs : List Char) : pieces mark cs ≠ [] := by
  cases cs with
  | nil => simp [pieces]
  | cons c rest =>
      by_cases hc : c = mark
      · simp [pieces, hc]
      · cases hrest : pieces mark rest <;> simp [pieces, hc, hrest]

theorem pieces_of_not_mem {mark : Char} {cs : List Char} (h : mark ∉ cs) :
    pieces mark cs = [cs] := by
  induction cs with
  | nil => rfl
  | cons c rest ih =>
      obtain ⟨hc, hrest⟩ := List.ne_and_not_mem_of_not_mem_cons h
      simp [pieces, Ne.symm hc, ih hrest]

theorem pieces_append_mark (mark : Char) (xs ys : List Char) :
    pieces mark (xs ++ mark :: ys) = pieces mark xs ++ pieces mark ys := by
  induction xs with
  | nil => simp [pieces]
  | cons c rest ih =>
      by_cases hc : c = mark
      · simp [pieces, hc, ih]
      · obtain ⟨piece, more, hrest⟩ := List.exists_cons_of_ne_nil (pieces_ne_nil mark rest)
        simp [pieces, hc, ih, hrest]

end Text

namespace PathText

/-- The names that a path goes through; an empty name and a dot stay where they are. -/
def components (path : String) : List String :=
  (names path).filter fun name => name ≠ "" && name ≠ "."

structure IsComponent (name : String) : Prop where
  noSlash : '/' ∉ name.toList
  notEmpty : name ≠ ""
  notDot : name ≠ "."

theorem names_of_noSlash {name : String} (h : '/' ∉ name.toList) : names name = [name] := by
  simp [names, Text.pieces_of_not_mem h]

theorem names_slash (directory name : String) :
    names (directory ++ "/" ++ name) = names directory ++ names name := by
  have hlist : (directory ++ "/" ++ name).toList = directory.toList ++ '/' :: name.toList := by
    simp
  rw [names, hlist, Text.pieces_append_mark, List.map_append]
  rfl

theorem components_of_isComponent {name : String} (h : IsComponent name) :
    components name = [name] := by
  simp [components, names_of_noSlash h.noSlash, h.notEmpty, h.notDot]

theorem components_slash (directory name : String) :
    components (directory ++ "/" ++ name) = components directory ++ components name := by
  rw [components, names_slash, List.filter_append]
  rfl

theorem components_join (directory : String) {name : String} (h : IsComponent name) :
    components (join directory name) = components directory ++ [name] := by
  unfold join
  split
  · next hclosed =>
      rcases (Bool.or_eq_true _ _).mp hclosed with hempty | hlast
      · have hdirectory : directory = "" := by simpa using hempty
        rw [hdirectory, String.empty_append, components_of_isComponent h]
        rfl
      · -- The directory ends with a slash, so it is cut there and nothing else is.
        have hlast : directory.toList.getLast? = some '/' := by simpa using hlast
        obtain ⟨before, hbefore⟩ := List.getLast?_eq_some_iff.mp hlast
        have hdirectory : directory = String.ofList before ++ "/" ++ "" := by
          apply String.toList_inj.mp
          simpa using hbefore
        have hname : String.ofList before ++ "/" ++ "" ++ name =
            String.ofList before ++ "/" ++ name := by
          simp
        rw [hdirectory, hname, components_slash, components_slash, components_of_isComponent h]
        show _ = components _ ++ [] ++ [name]
        rw [List.append_nil]
  · rw [components_slash, components_of_isComponent h]

end PathText

namespace Layout

theorem components_pathText (root : String) {path : DiskPath}
    (h : ∀ name ∈ path, PathText.IsComponent name) :
    PathText.components (pathText root path) = PathText.components root ++ path := by
  induction path generalizing root with
  | nil => simp [pathText]
  | cons name rest ih =>
      obtain ⟨hname, hrest⟩ := List.forall_mem_cons.mp h
      -- The rest is joined to a longer root, which already ends with the first name.
      have hjoin := PathText.components_join root hname
      calc PathText.components (pathText (PathText.join root name) rest)
          = PathText.components (PathText.join root name) ++ rest := ih _ hrest
        _ = PathText.components root ++ name :: rest := by simp [hjoin]

end Layout

/-! ### Names of stored content -/

theorem notMem_of_isSafeName {s : String} (h : isSafeName s) {c : Char} (hc : ¬isNameChar c) :
    c ∉ s.toList := by
  intro hmem
  simp only [isSafeName, Bool.and_eq_true, List.all_eq_true] at h
  exact hc (h.2 c hmem)

theorem noSlash_of_isSafeName {s : String} (h : isSafeName s) : '/' ∉ s.toList :=
  notMem_of_isSafeName h (by decide)

theorem isComponent_of_isSafeName {s : String} (h : isSafeName s) : PathText.IsComponent s where
  noSlash := noSlash_of_isSafeName h
  notEmpty := by
    rintro rfl
    revert h
    decide
  notDot := by
    rintro rfl
    revert h
    decide

theorem isComponent_json {s : String} (h : isSafeName s) : PathText.IsComponent (s ++ ".json") where
  noSlash := by
    have hslash := noSlash_of_isSafeName h
    simpa using hslash
  notEmpty := by
    intro heq
    simpa using congrArg String.toList heq
  notDot := by
    intro heq
    have hlength := congrArg (fun text => text.toList.length) heq
    simp at hlength

end ContentForms
