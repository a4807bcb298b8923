import ContentForms.Proofs.Compiled
import ContentForms.Proofs.Checking
import ContentForms.Proofs.Digits
import Mathlib.Data.List.Nodup

/-!
The places that a check comes to. Below an object are its members that have rules, in the order of
the rules, and below a list are its items; `Rule.visits` lists all places from the top, each
followed by what is below it before its neighbours, and `Rule.Reaches` says what a place is without
an order. At each place the check either finds one fault of the value that stands there, and then
looks no further, or has only what it finds below. So the issues are those of the places, in their
order. No two places have the same location where rules are well formed, because the steps that lead
on from a place are all different, even as texts.
-/

namespace ContentForms

namespace Rule

/-- A place one step below another one: the step, the rule there and the value there, if any. -/
structure Branch where
  step : Step
  rule : Rule
  input : Option Json

def branches : Rule → Option Json → List Branch
  | .record _ members _, some (.obj values) | .media _ members _ _, some (.obj values) =>
      members.map fun entry => ⟨.key entry.1, entry.2, Assoc.get? entry.1 values⟩
  | .list _ (some rule), some (.arr items) =>
      items.zipIdx.map fun entry => ⟨.index entry.2, rule, some entry.1⟩
  | _, _ => []

theorem mem_branches_iff {rule : Rule} {input : Option Json} {branch : Branch} :
    branch ∈ rule.branches input ↔
      (∃ values id member, input = some (.obj values) ∧ (id, member) ∈ rule.members ∧
        branch = ⟨.key id, member, Assoc.get? id values⟩) ∨
      ∃ label element items i item, rule = .list label (some element) ∧
        input = some (.arr items) ∧ items[i]? = some item ∧
        branch = ⟨.index i, element, some item⟩ := by
  unfold branches
  split
  · simp [members, eq_comm]
  · simp [members, eq_comm]
  · next label element items =>
      simp only [List.mem_map, Prod.exists, List.mem_zipIdx_iff_getElem?]
      constructor
      · rintro ⟨item, i, hitem, rfl⟩
        exact .inr ⟨label, element, items, i, item, rfl, rfl, hitem, rfl⟩
      · rintro (⟨_, _, _, hobj, -⟩ | ⟨_, _, _, i, item, hrule, hinput, hitem, rfl⟩)
        · cases hobj
        · cases hrule
          cases hinput
          exact ⟨item, i, hitem, rfl⟩
  · next hrecord hmedia hlist =>
      simp only [List.not_mem_nil, false_iff]
      rintro (⟨values, id, member, rfl, hmem, -⟩ | ⟨_, _, _, _, _, rfl, rfl, -⟩)
      · cases rule with
        | record => exact hrecord _ _ _ _ rfl rfl
        | media => exact hmedia _ _ _ _ _ rfl rfl
        | _ => cases hmem
      · exact hlist _ _ _ rfl rfl

theorem sizeOf_branch {rule : Rule} {input : Option Json} {branch : Branch}
    (h : branch ∈ rule.branches input) : sizeOf branch.rule < sizeOf rule := by
  rcases mem_branches_iff.mp h with ⟨_, id, member, -, hmem, rfl⟩ | ⟨_, _, _, _, _, rfl, -, -, rfl⟩
  · have hentry := List.sizeOf_lt_of_mem hmem
    rw [Prod.mk.sizeOf_spec] at hentry
    cases rule with
    | record label members =>
        simp only [Rule.members, record.sizeOf_spec] at hentry ⊢
        omega
    | media label members =>
        simp only [Rule.members, media.sizeOf_spec] at hentry ⊢
        omega
    | _ => cases hmem
  · simp only [list.sizeOf_spec, Option.some.sizeOf_spec]
    omega

end Rule

/-- A place that a check comes to: its location, the rule there and the value there, if any. -/
structure Visit where
  location : Location
  rule : Rule
  input : Option Json

namespace Visit

def under (step : Step) (visit : Visit) : Visit :=
  { visit with location := step :: visit.location }

/-- What the rule of a place alone finds wrong with the value there as a whole, as an issue at that
place. -/
def issue? (visit : Visit) : Option Issue :=
  ((Validation.check visit.rule visit.input).issues.find? fun issue => issue.location.isRoot).map
    fun issue => ⟨visit.location, issue.message⟩

end Visit

namespace Rule

/-- The places that a check comes to: the one where it starts, and after it, branch by branch, all
that are below. -/
def visits (rule : Rule) (input : Option Json) : List Visit :=
  ⟨.root, rule, input⟩ :: (rule.branches input).attach.flatMap fun branch =>
    (branch.1.rule.visits branch.1.input).map (Visit.under branch.1.step)
termination_by sizeOf rule
decreasing_by exact sizeOf_branch branch.2

theorem visits_eq (rule : Rule) (input : Option Json) :
    rule.visits input = ⟨.root, rule, input⟩ :: (rule.branches input).flatMap fun branch =>
      (branch.rule.visits branch.input).map (Visit.under branch.step) := by
  rw [visits]
  congr 1
  conv => rhs; rw [← List.attach_map_subtype_val (rule.branches input), List.flatMap_map]

@[elab_as_elim]
theorem branchInduction {motive : Rule → Option Json → Prop}
    (step : ∀ rule input, (∀ branch ∈ rule.branches input, motive branch.rule branch.input) →
      motive rule input) (rule : Rule) (input : Option Json) : motive rule input :=
  step rule input fun branch _ => branchInduction step branch.rule branch.input
termination_by sizeOf rule
decreasing_by exact sizeOf_branch ‹_›

/-- From a rule for a value, steps lead to a rule for a value below: through objects and lists that
are there, to members that are declared and items that exist. -/
inductive Reaches : Rule → Option Json → Location → Rule → Option Json → Prop
  | here (rule : Rule) (input : Option Json) : Reaches rule input .root rule input
  | member {rule : Rule} {id : String} {member : Rule} (declared : (id, member) ∈ rule.members)
      {values : List (String × Json)} {location : Location} {last : Rule} {input : Option Json}
      (rest : Reaches member (Assoc.get? id values) location last input) :
      Reaches rule (some (.obj values)) (.key id :: location) last input
  | item (label : String) {element : Rule} {items : List Json} {i : Nat} {item : Json}
      (there : items[i]? = some item) {location : Location} {last : Rule} {input : Option Json}
      (rest : Reaches element (some item) location last input) :
      Reaches (.list label (some element)) (some (.arr items)) (.index i :: location) last input

theorem reaches_of_branch {rule : Rule} {input : Option Json} {branch : Branch}
    (hbranch : branch ∈ rule.branches input) {location : Location} {last : Rule}
    {input' : Option Json} (h : branch.rule.Reaches branch.input location last input') :
    rule.Reaches input (branch.step :: location) last input' := by
  rcases mem_branches_iff.mp hbranch with
    ⟨values, id, member, rfl, hmem, rfl⟩ | ⟨label, element, items, i, item, rfl, rfl, hitem, rfl⟩
  · exact .member hmem h
  · exact .item label hitem h

theorem mem_visits_of_branch {rule : Rule} {input : Option Json} {branch : Branch}
    (hbranch : branch ∈ rule.branches input) {location : Location} {last : Rule}
    {input' : Option Json} (h : ⟨location, last, input'⟩ ∈ branch.rule.visits branch.input) :
    ⟨branch.step :: location, last, input'⟩ ∈ rule.visits input := by
  rw [visits_eq]
  refine List.mem_cons_of_mem _ (List.mem_flatMap.mpr ⟨branch, hbranch, ?_⟩)
  exact List.mem_map.mpr ⟨_, h, rfl⟩

theorem mem_visits_iff {rule last : Rule} {input input' : Option Json} {location : Location} :
    ⟨location, last, input'⟩ ∈ rule.visits input ↔ rule.Reaches input location last input' := by
  constructor
  · intro h
    induction rule, input using branchInduction generalizing location with
    | step rule input ih =>
        rw [visits_eq, List.mem_cons, List.mem_flatMap] at h
        rcases h with hhere | ⟨branch, hbranch, hmem⟩
        · cases hhere
          exact .here _ _
        · obtain ⟨below, hbelow, hunder⟩ := List.mem_map.mp hmem
          cases hunder
          exact reaches_of_branch hbranch (ih branch hbranch hbelow)
  · intro h
    induction h with
    | here rule input =>
        rw [visits_eq]
        exact List.mem_cons_self
    | member declared _ ih =>
        exact mem_visits_of_branch (mem_branches_iff.mpr (.inl ⟨_, _, _, rfl, declared, rfl⟩)) ih
    | item label there _ ih =>
        exact mem_visits_of_branch
          (mem_branches_iff.mpr (.inr ⟨_, _, _, _, _, rfl, rfl, there, rfl⟩)) ih

/-! ### Locations -/

theorem WellFormed.branch {rule : Rule} (h : rule.WellFormed) {input : Option Json}
    {branch : Branch} (hbranch : branch ∈ rule.branches input) : branch.rule.WellFormed := by
  rcases mem_branches_iff.mp hbranch with
    ⟨_, id, member, -, hmem, rfl⟩ | ⟨_, _, _, _, _, rfl, -, -, rfl⟩
  · cases h with
    | record label required distinct each => exact each id member hmem
    | media label required minimal distinct each => exact each id member hmem
    | _ => cases hmem
  · cases h with
    | items label itemLabel item => exact item

/-- The steps from a place to those below are different texts. -/
theorem WellFormed.nodup_steps {rule : Rule} (h : rule.WellFormed) (input : Option Json) :
    ((rule.branches input).map fun branch => branch.step.text).Nodup := by
  unfold branches
  split
  · cases h with
    | record _ _ distinct _ => simpa [Assoc.keys, Function.comp_def, Step.text] using distinct
  · cases h with
    | media _ _ _ distinct _ => simpa [Assoc.keys, Function.comp_def, Step.text] using distinct
  · next label element items =>
      have hpositions : (items.zipIdx.map Prod.snd).Nodup := by
        rw [List.zipIdx_map_snd]
        exact List.nodup_range'
      have hspelled : Function.Injective fun i : Nat => (Step.index i).text := by
        intro i j htext
        exact Text.decimal_inj.mp (String.ofList_injective htext)
      have htexts := hpositions.map hspelled
      rw [List.map_map] at htexts ⊢
      exact htexts
  · exact .nil

theorem WellFormed.nodup_visits {rule : Rule} (h : rule.WellFormed) (input : Option Json) :
    ((rule.visits input).map fun visit => visit.location.map Step.text).Nodup := by
  induction rule, input using branchInduction with
  | step rule input ih =>
      have hbelow (branch : Branch) :
          ((branch.rule.visits branch.input).map (Visit.under branch.step)).map
            (fun visit => visit.location.map Step.text) =
          ((branch.rule.visits branch.input).map fun visit => visit.location.map Step.text).map
            (branch.step.text :: ·) := by
        simp [Visit.under, Function.comp_def]
      simp only [visits_eq rule, List.map_cons, List.map_flatMap, hbelow]
      rw [List.nodup_cons, List.nodup_flatMap]
      refine ⟨by simp [Location.root], ?_, ?_⟩
      · intro branch hbranch
        exact (ih branch hbranch (h.branch hbranch)).map (List.cons_injective)
      · -- Below different branches the locations differ in their first step.
        refine (List.pairwise_map.mp (h.nodup_steps input)).imp ?_
        intro a b hstep texts hleft hright
        obtain ⟨_, -, rfl⟩ := List.mem_map.mp hleft
        obtain ⟨_, -, heq⟩ := List.mem_map.mp hright
        exact hstep (List.cons.inj heq).1.symm

end Rule

/-! ### Issues -/

namespace Validation

/-- An outcome without issues, or with one of the value itself. -/
inductive Plain : Checked → Prop
  | good (value : Option Json) : Plain (.good value)
  | fault (label : String) (f : Fault) (value : Option Json) : Plain (.fault label f value)

theorem plain_checkMissing (label : String) (required : Bool) (input : Option Json) :
    Plain (checkMissing label required input) := by
  cases required with
  | true => exact .fault _ _ _
  | false => exact .good _

theorem plain_checkText (label : String) (format : TextFormat) (required : Bool)
    (input : Option Json) : Plain (checkText label format required input) := by
  unfold checkText
  split
  · exact plain_checkMissing _ _ _
  · split
    · split
      · split
        · exact .fault _ _ _
        · exact .good _
      · split
        · exact .good _
        · exact .fault _ _ _
    · exact .fault _ _ _

theorem plain_checkNumber (label : String) (input : Option Json) :
    Plain (checkNumber label input) := by
  unfold checkNumber
  split
  · exact plain_checkMissing _ _ _
  · split
    · exact .good _
    · split
      · exact .good _
      · exact .fault _ _ _
    · exact .fault _ _ _

theorem plain_checkOne (label : String) (allowed : List String) (required : Bool)
    (input : Option Json) : Plain (checkOne label allowed required input) := by
  unfold checkOne
  split
  · exact plain_checkMissing _ _ _
  · split
    · split
      · exact .good _
      · exact .fault _ _ _
    · exact .fault _ _ _

theorem plain_checkMany (label : String) (allowed : List String) (required : Bool)
    (input : Option Json) : Plain (checkMany label allowed required input) := by
  unfold checkMany
  split
  · split
    · exact .fault _ _ _
    · exact .good _
  · split
    · split
      · exact .fault _ _ _
      · dsimp only
        split
        · exact .good _
        · exact .fault _ _ _
    · exact .fault _ _ _

theorem plain_checkObject (label : String) (members : List (String × Rule)) (required : Bool)
    {input : Option Json} (h : ∀ values, input ≠ some (.obj values)) :
    Plain (checkObject label members required input) := by
  unfold checkObject
  split
  · exact plain_checkMissing _ _ _
  · split
    · exact absurd rfl (h _)
    · exact .fault _ _ _

theorem plain_anyItems (label : String) (input : Option Json) :
    Plain (check (.list label none) input) := by
  unfold check
  split
  · exact .good _
  · split
    · exact .good _
    · next heq _ => cases heq
    · exact .fault _ _ _

theorem plain_list_of_ne_arr (label : String) (rule : Rule) {input : Option Json}
    (h : ∀ items, input ≠ some (.arr items)) : Plain (check (.list label (some rule)) input) := by
  unfold check
  split
  · exact .good _
  · split
    · exact .good _
    · exact absurd rfl (h _)
    · exact .fault _ _ _

def issuesBelow (rule : Rule) (input : Option Json) : List Issue :=
  (rule.branches input).flatMap fun branch =>
    (check branch.rule branch.input).issues.map (Issue.under branch.step)

theorem issuesBelow_of_branches_eq_nil {rule : Rule} {input : Option Json}
    (h : rule.branches input = []) : issuesBelow rule input = [] := by
  rw [issuesBelow, h, List.flatMap_nil]

/-- A place from which a check goes no further. -/
theorem Plain.issues {rule : Rule} {input : Option Json} {outcome : Checked} (h : Plain outcome)
    (hend : rule.branches input = []) :
    outcome.issues = issuesBelow rule input ∨
      rule.branches input = [] ∧ ∃ message, outcome.issues = [⟨.root, message⟩] := by
  cases h with
  | good value => exact .inl (issuesBelow_of_branches_eq_nil hend).symm
  | fault label f value => exact .inr ⟨hend, _, rfl⟩

theorem closeRecord_issues (members : List (String × Rule)) (values : List (String × Json)) :
    (closeRecord values (checkMembers members values)).issues = members.flatMap fun entry =>
      (check entry.2 (Assoc.get? entry.1 values)).issues.map (Issue.under (.key entry.1)) := by
  rw [closeRecord, checkMembers_eq_map, List.flatMap_map]

theorem closeList_issues (rule : Rule) (items : List Json) :
    (closeList (items.map fun item => (item, check rule (some item)))).issues =
      items.zipIdx.flatMap fun entry =>
        (check rule (some entry.1)).issues.map (Issue.under (.index entry.2)) := by
  rw [closeList, List.zipIdx_map, List.flatMap_map]
  rfl

theorem checkObject_issues (rule : Rule) (hlist : ∀ label element, rule ≠ .list label element)
    (hbranches : ∀ values, rule.branches (some (.obj values)) =
      rule.members.map fun entry => ⟨.key entry.1, entry.2, Assoc.get? entry.1 values⟩)
    (label : String) (required : Bool) (input : Option Json) :
    (checkObject label rule.members required input).issues = issuesBelow rule input ∨
      rule.branches input = [] ∧
        ∃ message, (checkObject label rule.members required input).issues = [⟨.root, message⟩] := by
  by_cases hobj : ∃ values, input = some (.obj values)
  · obtain ⟨values, rfl⟩ := hobj
    refine .inl ?_
    rw [checkObject_obj, closeRecord_issues, issuesBelow, hbranches, List.flatMap_map]
  · have hne : ∀ values, input ≠ some (.obj values) := fun values heq => hobj ⟨values, heq⟩
    refine (plain_checkObject label rule.members required hne).issues ?_
    refine List.eq_nil_iff_forall_not_mem.mpr fun branch hmem => ?_
    rcases Rule.mem_branches_iff.mp hmem with ⟨values, _, _, heq, -⟩ | ⟨_, _, _, _, _, hrule, -⟩
    · exact hne values heq
    · exact hlist _ _ hrule

/-- A check finds one fault of the value that stands at its place and looks no further, or it finds
what is found below. -/
theorem check_issues (rule : Rule) (input : Option Json) :
    (check rule input).issues = issuesBelow rule input ∨
      rule.branches input = [] ∧ ∃ message, (check rule input).issues = [⟨.root, message⟩] := by
  cases rule with
  | text label format required =>
      rw [check]
      exact (plain_checkText _ _ _ _).issues rfl
  | number label =>
      rw [check]
      exact (plain_checkNumber _ _).issues rfl
  | choice label allowed multiple required =>
      rw [check]
      cases multiple with
      | true => exact (plain_checkMany _ _ _ _).issues rfl
      | false => exact (plain_checkOne _ _ _ _).issues rfl
  | record label members required =>
      rw [check_record]
      exact checkObject_issues (.record label members required) (by simp) (fun _ => rfl) _ _ _
  | media label members required minimal =>
      rw [check_media]
      exact checkObject_issues (.media label members required minimal) (by simp) (fun _ => rfl)
        _ _ _
  | list label element =>
      cases element with
      | none => exact (plain_anyItems label input).issues (by simp [Rule.branches])
      | some rule =>
          by_cases harr : ∃ items, input = some (.arr items)
          · obtain ⟨items, rfl⟩ := harr
            refine .inl ?_
            rw [check_items_arr, closeList_issues, issuesBelow, Rule.branches, List.flatMap_map]
          · have hne : ∀ items, input ≠ some (.arr items) := fun items heq => harr ⟨items, heq⟩
            refine (plain_list_of_ne_arr label rule hne).issues ?_
            refine List.eq_nil_iff_forall_not_mem.mpr fun branch hmem => ?_
            rcases Rule.mem_branches_iff.mp hmem with
              ⟨_, _, _, -, hmember, -⟩ | ⟨_, _, items, _, _, -, heq, -⟩
            · cases hmember
            · exact hne items heq

theorem location_ne_root_of_mem_issuesBelow {rule : Rule} {input : Option Json} {issue : Issue}
    (h : issue ∈ issuesBelow rule input) : issue.location ≠ .root := by
  obtain ⟨branch, -, hmem⟩ := List.mem_flatMap.mp h
  obtain ⟨below, -, rfl⟩ := List.mem_map.mp hmem
  simp [Issue.under, Location.root]

end Validation

namespace Visit

theorem issue?_under (step : Step) (visit : Visit) :
    (visit.under step).issue? = visit.issue?.map (Issue.under step) := by
  simp [issue?, under, Issue.under, Function.comp_def]

theorem issue?_eq_none {visit : Visit}
    (h : (Validation.check visit.rule visit.input).issues =
      Validation.issuesBelow visit.rule visit.input) : visit.issue? = none := by
  rw [issue?, Option.map_eq_none_iff, List.find?_eq_none]
  intro issue hmem
  have hroot := Validation.location_ne_root_of_mem_issuesBelow (h ▸ hmem)
  simpa [Location.isRoot, Location.root] using hroot

/-- The issue of a place is the one that its rule alone has with the value there. -/
theorem issue?_eq_some_iff {visit : Visit} {issue : Issue} :
    visit.issue? = some issue ↔ visit.location = issue.location ∧
      (Validation.check visit.rule visit.input).issues = [⟨.root, issue.message⟩] := by
  rcases Validation.check_issues visit.rule visit.input with hbelow | ⟨-, message, hhere⟩
  · rw [issue?_eq_none hbelow]
    simp only [reduceCtorEq, false_iff, not_and]
    intro _ hissues
    rw [hbelow] at hissues
    have hmem : ⟨.root, issue.message⟩ ∈ Validation.issuesBelow visit.rule visit.input :=
      hissues ▸ List.mem_singleton_self _
    exact Validation.location_ne_root_of_mem_issuesBelow hmem rfl
  · obtain ⟨location, message'⟩ := issue
    simp [issue?, hhere, Location.isRoot, Location.root]

end Visit

/-- The issues of a check are those of the places that it comes to, in their order. -/
theorem Validation.check_issues_eq_visits (rule : Rule) (input : Option Json) :
    (check rule input).issues = (rule.visits input).filterMap Visit.issue? := by
  induction rule, input using Rule.branchInduction with
  | step rule input ih =>
      rw [Rule.visits_eq, List.filterMap_cons]
      rcases check_issues rule input with hbelow | ⟨hend, message, hhere⟩
      · rw [Visit.issue?_eq_none hbelow, hbelow, issuesBelow, List.filterMap_flatMap]
        refine List.flatMap_congr fun branch hbranch => ?_
        rw [ih branch hbranch, List.map_filterMap, List.filterMap_map]
        refine List.filterMap_congr fun visit _ => ?_
        exact (Visit.issue?_under branch.step visit).symm
      · have hissue : Visit.issue? ⟨.root, rule, input⟩ = some ⟨.root, message⟩ :=
          Visit.issue?_eq_some_iff.mpr ⟨rfl, hhere⟩
        rw [hissue, hend, hhere]
        rfl

namespace Validation

/-- What is an issue: a fault that a rule alone finds, at a place that can be reached. -/
theorem mem_check_issues_iff {rule : Rule} {input : Option Json} {issue : Issue} :
    issue ∈ (check rule input).issues ↔ ∃ last input',
      rule.Reaches input issue.location last input' ∧
        (check last input').issues = [⟨.root, issue.message⟩] := by
  rw [check_issues_eq_visits, List.mem_filterMap]
  constructor
  · rintro ⟨visit, hvisit, hissue⟩
    obtain ⟨hlocation, hissues⟩ := Visit.issue?_eq_some_iff.mp hissue
    rw [← hlocation]
    exact ⟨_, _, Rule.mem_visits_iff.mp hvisit, hissues⟩
  · rintro ⟨last, input', hreaches, hissues⟩
    exact ⟨_, Rule.mem_visits_iff.mpr hreaches, Visit.issue?_eq_some_iff.mpr ⟨rfl, hissues⟩⟩

theorem sublist_locations (visits : List Visit) :
    ((visits.filterMap Visit.issue?).map Issue.location).Sublist
      (visits.map Visit.location) := by
  induction visits with
  | nil => exact .slnil
  | cons visit rest ih =>
      rw [List.filterMap_cons]
      cases hissue : visit.issue? with
      | none => exact ih.cons _
      | some issue =>
          obtain ⟨hlocation, -⟩ := Visit.issue?_eq_some_iff.mp hissue
          rw [List.map_cons, List.map_cons, ← hlocation]
          exact ih.cons_cons _

theorem nodup_issues {rule : Rule} (h : rule.WellFormed) (input : Option Json) :
    ((check rule input).issues.map fun issue => issue.location.map Step.text).Nodup := by
  have hvisits := h.nodup_visits input
  have hsublist := (sublist_locations (rule.visits input)).map (List.map Step.text)
  rw [← check_issues_eq_visits, List.map_map, List.map_map] at hsublist
  exact hvisits.sublist hsublist

end Validation

end ContentForms
