import ContentForms.Proofs.Compiled
import ContentForms.Proofs.Disk
import ContentForms.Schema.Loaded
import ContentForms.Schema.Cache
import ContentForms.Store.Documents

/-!
The schemas on a disk. What is read as a text depends on the content of one file, and so does the
schema of a key: as long as that file stays as it is, whatever else is written, the key has the same
schema. A cache gives back what was entered last under a key.
-/

namespace ContentForms

namespace Store

theorem text?_eq_some_iff {disk : Disk} {path : DiskPath} {text : String} :
    text? disk path = .ok (some text) ↔
      ∃ content, disk.content? path = some content ∧ textOf content = .ok text := by
  unfold text? Disk.readText Disk.lookup Disk.content?
  cases hnode : disk.node? path with
  | none => by_cases hany : (Disk.waysTo path).any disk.isFile <;> simp [hany]
  | some node =>
      cases node with
      | directory => simp
      | file content => cases htext : textOf content with
        | ok text => simp [htext]
        | error e => cases e <;> simp [htext]

/-- A text that is read in spite of faults is the one that is there. -/
theorem text?_of_faults {disk : Disk} {path : DiskPath} {faults : Faults} {text : String}
    (h : text? disk path faults = .ok (some text)) : text? disk path = .ok (some text) := by
  unfold text? at h ⊢
  split at h
  · next hread =>
      cases h
      rw [Faults.none_on, (Faults.on_eq_ok hread).2]
  · cases h
  · cases h

end Store

/-- The schema that the file of a key holds. -/
def LoadedSchema.IsAt (schema : LoadedSchema) (disk : Disk) (key : ContentKey) : Prop :=
  ∃ text, Store.schemaText? disk key = .ok (some text) ∧
    LoadedSchema.read text key.fileName = .ok schema

namespace LoadedSchema

variable {schema : LoadedSchema} {disk disk' : Disk} {key : ContentKey}

theorem IsAt.of_content? (h : schema.IsAt disk key)
    (hfile : disk'.content? (Layout.schemaFile key) = disk.content? (Layout.schemaFile key)) :
    schema.IsAt disk' key := by
  obtain ⟨text, htext, hread⟩ := h
  refine ⟨text, ?_, hread⟩
  obtain ⟨content, hcontent, hof⟩ := Store.text?_eq_some_iff.mp htext
  exact Store.text?_eq_some_iff.mpr ⟨content, hfile.trans hcontent, hof⟩

theorem IsAt.unique {schema' : LoadedSchema} (h : schema.IsAt disk key)
    (h' : schema'.IsAt disk key) : schema = schema' := by
  obtain ⟨text, htext, hread⟩ := h
  obtain ⟨text', htext', hread'⟩ := h'
  rw [htext] at htext'
  cases htext'
  rw [hread] at hread'
  cases hread'
  rfl

theorem IsAt.keyed (h : schema.IsAt disk key) : schema.document.Keyed := by
  obtain ⟨text, -, hread⟩ := h
  exact LoadedSchema.keyed_of_read hread

end LoadedSchema

namespace SchemaCache

@[simp] theorem get?_empty (key : ContentKey) : empty.get? key = none := rfl

@[simp] theorem get?_insert_self (cache : SchemaCache) (key : ContentKey) (schema : LoadedSchema) :
    (cache.insert key schema).get? key = some schema :=
  FiniteMap.get?_insert_self _ _ _

theorem get?_insert_of_ne (cache : SchemaCache) {key other : ContentKey} (h : other ≠ key)
    (schema : LoadedSchema) : (cache.insert key schema).get? other = cache.get? other :=
  FiniteMap.get?_insert_of_ne _ h _

@[simp] theorem get?_invalidate_self (cache : SchemaCache) (key : ContentKey) :
    (cache.invalidate key).get? key = none :=
  FiniteMap.get?_erase_self _ _

theorem get?_invalidate_of_ne (cache : SchemaCache) {key other : ContentKey} (h : other ≠ key) :
    (cache.invalidate key).get? other = cache.get? other :=
  FiniteMap.get?_erase_of_ne _ h

theorem get?_of_get?_invalidate {cache : SchemaCache} {key other : ContentKey}
    {schema : LoadedSchema} (h : (cache.invalidate key).get? other = some schema) :
    cache.get? other = some schema := by
  by_cases hother : other = key
  · rw [hother, get?_invalidate_self] at h
    cases h
  · rwa [get?_invalidate_of_ne cache hother] at h

end SchemaCache

end ContentForms
