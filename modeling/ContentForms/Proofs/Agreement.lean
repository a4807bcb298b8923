import ContentForms.Command.Validate
import ContentForms.Proofs.ReadAfterWrite

/-!
The command and the service run the same check. The command `validate` reads a schema and a document
from two files; a request that saves a page brings the document along and finds the schema in the
file of the page. Both come to the verdict on two texts: there is one if the first text is a schema
and the second one is JSON, and then it is that of the compiled schema. All that is left of either
side is how it tells the verdict, the command by an exit code and what it prints, and the service by
a status and a body.
-/

namespace ContentForms

/-! ### The verdict on two texts -/

def LoadedSchema.ofText? (text : String) : Option LoadedSchema :=
  (readSource text >>= ofSource).toOption

theorem LoadedSchema.toOption_read (text sourceName : String) :
    (LoadedSchema.read text sourceName).toOption = ofText? text := by
  rw [LoadedSchema.read, ofText?]
  cases readSource text >>= ofSource <;> rfl

/-- What a schema text says of a document text, if both can be read. -/
def verdict? (schemaText documentText : String) : Option Validation := do
  let schema ← LoadedSchema.ofText? schemaText
  let document ← Json.read? documentText
  pure (schema.compiled.validate document)

variable {schemaText documentText : String}

theorem verdict?_of_some {schema : LoadedSchema} {document : Json}
    (hschema : LoadedSchema.ofText? schemaText = some schema)
    (hdocument : Json.read? documentText = some document) :
    verdict? schemaText documentText = some (schema.compiled.validate document) := by
  rw [verdict?, hschema, hdocument]
  rfl

theorem verdict?_of_no_schema (h : LoadedSchema.ofText? schemaText = none) :
    verdict? schemaText documentText = none := by
  rw [verdict?, h]
  rfl

theorem verdict?_of_no_document (h : Json.read? documentText = none) :
    verdict? schemaText documentText = none := by
  rw [verdict?, h]
  cases LoadedSchema.ofText? schemaText <;> rfl

/-! ### The command -/

namespace Command

/-- How the command tells a verdict, or that there is none. -/
inductive Tells : Option Validation → Outcome → Prop
  | accepted (value : Json) : Tells (some (.accepted value)) (.finished 0 (value.pretty ++ "\n"))
  | rejected (issues : List Issue) :
      Tells (some (.rejected issues))
        (.finished 2 ((ErrorReport.ofIssues issues).toJson.pretty ++ "\n"))
  | unreadable (reasons : List String) : Tells none (.failed reasons)

variable {read : FileReader} {path schemaPath documentPath : String}

theorem toOption_loadSchema (h : read path = .ok schemaText) :
    (loadSchema read path).toOption = LoadedSchema.ofText? schemaText := by
  let name := (PathText.fileName? path).getD path
  have hload : loadSchema read path = (LoadedSchema.read schemaText name).mapError .schema := by
    rw [loadSchema, h]
    rfl
  rw [hload, ← LoadedSchema.toOption_read schemaText name]
  cases LoadedSchema.read schemaText name <;> rfl

theorem toOption_loadDocument (h : read path = .ok documentText) (hjson : formatOf path = .json) :
    (loadDocument read path).toOption = Json.read? documentText := by
  have hload : loadDocument read path =
      (DocumentFormat.json.read documentText).mapError .document := by
    rw [loadDocument, h, hjson]
    rfl
  rw [hload, DocumentFormat.read]
  cases Json.read? documentText <;> rfl

theorem formatOf_json {stem : String} (h : PathText.fileName? path = some (stem ++ ".json")) :
    formatOf path = .json := by
  have hsplit : Text.splitLast? '.' (stem ++ ".json").toList =
      some (stem.toList, "json".toList) := by
    simp [Text.splitLast?, Text.splitFirst?]
  rw [formatOf, h, Option.map_some, Option.getD_some, DocumentFormat.ofFileName, hsplit]
  simp

theorem tells_finished (validation : Validation) :
    Tells (some validation) (.finished (if validation.isAccepted then 0 else rejectedCode)
      (describe validation true ++ "\n")) := by
  cases validation with
  | accepted value => exact .accepted value
  | rejected issues => exact .rejected issues

theorem tells_validate (hschema : read schemaPath = .ok schemaText)
    (hdocument : read documentPath = .ok documentText) (hjson : formatOf documentPath = .json) :
    Tells (verdict? schemaText documentText) (validate read schemaPath documentPath true) := by
  have hload := toOption_loadSchema hschema
  have hread := toOption_loadDocument hdocument hjson
  rw [validate]
  cases hs : loadSchema read schemaPath with
  | error e =>
      rw [hs] at hload
      rw [verdict?_of_no_schema hload.symm]
      exact .unreadable _
  | ok schema =>
      rw [hs] at hload
      cases hd : loadDocument read documentPath with
      | error e =>
          rw [hd] at hread
          rw [verdict?_of_no_document hread.symm]
          exact .unreadable _
      | ok document =>
          rw [hd] at hread
          rw [verdict?_of_some hload.symm hread.symm]
          exact tells_finished _

end Command

/-! ### The service -/

namespace Service

open Site

/-- How the service tells a verdict, or that there is none. -/
inductive Tells : Option Validation → Except Failure Http.Response → Prop
  | accepted (value : Json) : Tells (some (.accepted value)) (.ok (saved value))
  | rejected (issues : List Issue) :
      Tells (some (.rejected issues)) (.error (.rejected (.ofIssues issues)))
  | unreadable {failure : Failure} (h : failure.status = 400 ∨ failure.status = 500) :
      Tells none (.error failure)

variable {config : Config} {now : Int} {request : Http.Request} {page : ContentName} {disk : Disk}

/-- A request that saves a page, with a document text for its body, to a service that has started
on a disk where the page has a schema text and can be written. -/
structure Sends (config : Config) (request : Http.Request) (page : ContentName)
    (documentText schemaText : String) (disk : Disk) : Prop where
  put : request.method = .put
  target : request.target = "/api/cms/page/" ++ page.text
  json : request.mediaType?.any Http.MediaType.isJson
  body : request.body = documentText.toUTF8
  within : request.body.size ≤ config.maxBodyBytes
  schemaFile : disk.content? (Layout.schemaFile ⟨.page, page⟩) = some schemaText.toUTF8
  writable : disk.Writable (Layout.document ⟨.page, page⟩)

theorem Sends.document (h : Sends config request page documentText schemaText disk) :
    request.document config.maxBodyBytes = match Json.read? documentText with
      | some document => .ok document
      | none => .error (.badRequest "Failed to parse the request body as JSON") := by
  have htext : String.fromUTF8? request.body = some documentText := by
    rw [h.body, String.toUTF8_eq_toByteArray, fromUTF8?_toByteArray]
  have hwithin : ¬config.maxBodyBytes < request.body.size := Nat.not_lt.mpr h.within
  rw [Http.Request.document, h.json, if_neg (by decide), if_neg hwithin, htext]
  rfl

theorem Sends.run_schema (h : Sends config request page documentText schemaText disk) :
    (Site.ofDisk disk).run (schema ⟨.page, page⟩) =
      match LoadedSchema.read schemaText (ContentKey.fileName ⟨.page, page⟩) with
      | .error e => (.error (.internal (.schema e)), .ofDisk disk)
      | .ok schema => (.ok schema, ⟨disk, SchemaCache.empty.insert ⟨.page, page⟩ schema⟩) := by
  have htext : Store.schemaText? disk ⟨.page, page⟩ = .ok (some schemaText) := by
    refine Store.text?_eq_some_iff.mpr ⟨_, h.schemaFile, ?_⟩
    rw [textOf, String.toUTF8_eq_toByteArray, fromUTF8?_toByteArray]
    rfl
  rw [Site.run_schema]
  cases hread : LoadedSchema.read schemaText (ContentKey.fileName ⟨.page, page⟩) <;>
    simp only [Site.ofDisk, SchemaCache.get?_empty, htext, hread]

theorem Sends.tells_save (h : Sends config request page documentText schemaText disk)
    {document : Json} (hdocument : Json.read? documentText = some document) :
    Tells (verdict? schemaText documentText)
      ((Site.ofDisk disk).run (do pure (saved (← save ⟨.page, page⟩ document)))).1 := by
  have hload := LoadedSchema.toOption_read schemaText (ContentKey.fileName ⟨.page, page⟩)
  rw [run_bind, save_eq_storing, run_storing, h.run_schema]
  cases hread : LoadedSchema.read schemaText (ContentKey.fileName ⟨.page, page⟩) with
  | error e =>
      rw [hread] at hload
      rw [verdict?_of_no_schema hload.symm]
      exact .unreadable (.inr rfl)
  | ok schema =>
      rw [hread] at hload
      rw [verdict?_of_some hload.symm hdocument]
      dsimp only
      cases schema.compiled.validate document with
      | rejected issues => exact .rejected issues
      | accepted value =>
          obtain ⟨disk', hwrite⟩ := h.writable.writeFile value.pretty.toUTF8
          simp only [Store.writeDocument, Store.writeContent_none, hwrite]
          exact .accepted value

theorem Sends.tells_perform (h : Sends config request page documentText schemaText disk)
    (now : Int) :
    Tells (verdict? schemaText documentText)
      ((Site.ofDisk disk).run (perform config now request (.document "page" page.text))).1 := by
  have hrun : (Site.ofDisk disk).run (perform config now request (.document "page" page.text)) =
      (Site.ofDisk disk).run (do
        let document ← check id (request.document config.maxBodyBytes)
        pure (saved (← save ⟨.page, page⟩ document))) := by
    refine (run_check_bind (ofTexts_page page) _).trans ?_
    rw [if_pos h.put]
  rw [hrun, run_bind, run_check, h.document]
  cases hread : Json.read? documentText with
  | none =>
      rw [verdict?_of_no_document hread]
      exact .unreadable (.inl rfl)
  | some document => exact h.tells_save hread

theorem body_finish (hput : request.method = .put) (endpoint : Option Endpoint)
    (response : Http.Response) :
    (finish config request endpoint response).body = response.body := by
  simp [finish, hput]

/-- A service that does not tell of an accepted document has left its disk alone. -/
theorem Sends.disk_of_error (h : Sends config request page documentText schemaText disk)
    {failure : Failure} {site : Site}
    (hrun : (Site.ofDisk disk).run (perform config now request (.document "page" page.text)) =
      (.error failure, site)) : site.disk = disk := by
  have hmethod : request.method ∈ (Endpoint.document "page" page.text).methods := by
    simp [Endpoint.methods, h.put]
  have heffect := hasEffect_perform config now request .none (.ofDisk disk) _ hmethod
  rw [HasEffect, hrun] at heffect
  cases heffect with
  | fails aborted => exact aborted.loaded_of_none.disk

end Service

/-! ### Agreement -/

def rejectedBody (report : ErrorReport) : Json :=
  .obj [("error", .obj [("code", .str "VALIDATION_ERROR"),
    ("message", .str "document failed schema validation"), ("details", report.toJson)])]

/-- What a command has done and what a service has answered both tell the same verdict: both accept
and give the same value, both reject and give the same report, or both fail. -/
inductive Agree (outcome : Command.Outcome) (response : Http.Response) : Option Validation → Prop
  | accepted (value : Json) (exit : outcome.exitCode = 0) (status : response.status = 200)
      (printed : outcome.output = value.pretty ++ "\n")
      (answered : response.body = (savedBody value).compact) :
      Agree outcome response (some (.accepted value))
  | rejected (issues : List Issue) (exit : outcome.exitCode = 2) (status : response.status = 422)
      (printed : outcome.output = (ErrorReport.ofIssues issues).toJson.pretty ++ "\n")
      (answered : response.body = (rejectedBody (.ofIssues issues)).compact) :
      Agree outcome response (some (.rejected issues))
  | failed (exit : outcome.exitCode = 1)
      (status : response.status = 400 ∨ response.status = 500) : Agree outcome response none

theorem agree_of_tells {verdict : Option Validation} {outcome : Command.Outcome}
    {result : Except Failure Http.Response} {response : Http.Response}
    (hcommand : Command.Tells verdict outcome) (hservice : Service.Tells verdict result)
    (hstatus : response.status = (Service.reply result).status)
    (hbody : response.body = (Service.reply result).body) : Agree outcome response verdict := by
  cases hcommand with
  | accepted value =>
      cases hservice
      exact .accepted value rfl hstatus rfl hbody
  | rejected issues =>
      cases hservice
      exact .rejected issues rfl hstatus rfl hbody
  | unreadable reasons =>
      cases hservice with
      | unreadable hfailure => exact .failed rfl (hstatus ▸ hfailure)

theorem exitCode_of_tells_ok {verdict : Option Validation} {outcome : Command.Outcome}
    {response : Http.Response} (hcommand : Command.Tells verdict outcome)
    (hservice : Service.Tells verdict (.ok response)) : outcome.exitCode = 0 := by
  cases hservice
  cases hcommand
  rfl

/-- The command that checks a document file by a schema file, and a service that has just started
and is asked to save the same document text for a page with the same schema text, tell the same
verdict. The command ends with 0 if and only if the status is 200, and then it prints the accepted
value, which is the data of the response; it ends with 2 if and only if the status is 422, and then
it prints the report of the issues, which the response has for its details; else it ends with 1, the
status is 400 or 500, and there is no verdict. Unless it ends with 0, the service writes nothing. -/
theorem validate_agrees_with_save {config : Config} {request : Http.Request} {page : ContentName}
    {schemaText documentText schemaPath documentPath stem : String} {disk : Disk}
    {read : Command.FileReader} (now : Int) (hschema : read schemaPath = .ok schemaText)
    (hdocument : read documentPath = .ok documentText)
    (hjson : PathText.fileName? documentPath = some (stem ++ ".json"))
    (hsends : Service.Sends config request page documentText schemaText disk) :
    let outcome := Command.validate read schemaPath documentPath true
    let answer := Service.handle config now request (.ofDisk disk)
    (outcome.exitCode = 0 ↔ answer.1.status = 200) ∧
      (outcome.exitCode = 2 ↔ answer.1.status = 422) ∧
      (outcome.exitCode = 1 ↔ answer.1.status = 400 ∨ answer.1.status = 500) ∧
      (outcome.exitCode = 0 → ∃ value,
        verdict? schemaText documentText = some (.accepted value) ∧
          outcome.output = value.pretty ++ "\n" ∧
          answer.1.body = (savedBody value).compact) ∧
      (outcome.exitCode = 2 → ∃ issues,
        verdict? schemaText documentText = some (.rejected issues) ∧
          outcome.output = (ErrorReport.ofIssues issues).toJson.pretty ++ "\n" ∧
          answer.1.body = (rejectedBody (.ofIssues issues)).compact) ∧
      (outcome.exitCode = 1 ∨ outcome.exitCode = 0 ∨ outcome.exitCode = 2) ∧
      (outcome.exitCode = 1 → verdict? schemaText documentText = none) ∧
      (outcome.exitCode ≠ 0 → answer.2.disk = disk) := by
  intro outcome answer
  have hmethod : request.method ∈ (Endpoint.document "page" page.text).methods := by
    simp [Endpoint.methods, hsends.put]
  have hanswer := Service.handle_eq config now (.ofDisk disk) .none
    (Http.Request.endpoint?_page hsends.target) hmethod
  have hcommand := Command.tells_validate hschema hdocument (Command.formatOf_json hjson)
  have hservice := hsends.tells_perform now
  rcases hrun : (Site.ofDisk disk).run
    (Service.perform config now request (.document "page" page.text)) with ⟨result, site⟩
  rw [hrun] at hanswer hservice
  have hagree : Agree outcome answer.1 (verdict? schemaText documentText) := by
    apply agree_of_tells hcommand hservice
    · rw [show answer = _ from hanswer, Service.status_finish]
    · rw [show answer = _ from hanswer, Service.body_finish hsends.put]
  have hkept : outcome.exitCode ≠ 0 → answer.2.disk = disk := by
    intro hexit
    rw [show answer = _ from hanswer]
    cases result with
    | error failure => exact hsends.disk_of_error hrun
    | ok response => exact absurd (exitCode_of_tells_ok hcommand hservice) hexit
  generalize verdict? schemaText documentText = verdict at hagree ⊢
  cases hagree with
  | accepted value exit status printed answered =>
      rw [exit, status]
      exact ⟨by decide, by decide, by decide, fun _ => ⟨value, rfl, printed, answered⟩,
        fun h => absurd h (by decide), by decide, fun h => absurd h (by decide),
        fun h => absurd rfl h⟩
  | rejected issues exit status printed answered =>
      rw [exit, status]
      exact ⟨by decide, by decide, by decide, fun h => absurd h (by decide),
        fun _ => ⟨issues, rfl, printed, answered⟩, by decide, fun h => absurd h (by decide),
        fun _ => hkept (by simp [exit])⟩
  | failed exit status =>
      rw [exit]
      refine ⟨?_, ?_, ?_, fun h => absurd h (by decide), fun h => absurd h (by decide), by decide,
        fun _ => rfl, fun _ => hkept (by simp [exit])⟩
      all_goals rcases status with status | status <;> simp [status]

/-! ### A page of prices -/

def shopSchema : String :=
  "[\x7bid: price, label: Precio, type: number\x7d]"

def shopFiles (documentText : String) : Command.FileReader := fun path =>
  if path = "shop/price.yaml" then .ok shopSchema
  else if path = "shop/price.json" then .ok documentText
  else .error .notFound

theorem sends_shop {documentText : String}
    (hwithin : documentText.toUTF8.size ≤ Config.default.maxBodyBytes) :
    Service.Sends .default (Service.putJson "/api/cms/page/news" documentText) StorageAddress.news
      documentText shopSchema Service.shopDisk where
  put := rfl
  target := rfl
  json := by
    have hheader : (Service.putJson "/api/cms/page/news" documentText).header? "content-type" =
        some "application/json" := by
      simp [Service.putJson, Http.Request.header?]
    rw [Http.Request.mediaType?, hheader]
    decide +kernel
  body := rfl
  within := hwithin
  schemaFile := Disk.content?_put_file (by simp [Layout.schemaFile]) _ _
  writable := ⟨by decide +kernel, by decide +kernel⟩

/-- A price in a text is accepted, a truth value is rejected, and half an object is no document. -/
theorem validate_agrees_with_save_shop :
    let outcome := fun documentText =>
      Command.validate (shopFiles documentText) "shop/price.yaml" "shop/price.json" true
    let answer := fun documentText => Service.handle .default 0
      (Service.putJson "/api/cms/page/news" documentText) (.ofDisk Service.shopDisk)
    let accepted := "\x7b\"price\": \" 12 \"\x7d"
    let rejected := "\x7b\"price\": true\x7d"
    let broken := "\x7b\"price\""
    (∃ value, (outcome accepted).exitCode = 0 ∧ (answer accepted).1.status = 200 ∧
      verdict? shopSchema accepted = some (.accepted value) ∧
      (outcome accepted).output = value.pretty ++ "\n" ∧
      (answer accepted).1.body = (savedBody value).compact) ∧
    (∃ issues, (outcome rejected).exitCode = 2 ∧ (answer rejected).1.status = 422 ∧
      verdict? shopSchema rejected = some (.rejected issues) ∧
      (outcome rejected).output = (ErrorReport.ofIssues issues).toJson.pretty ++ "\n" ∧
      (answer rejected).1.body = (rejectedBody (.ofIssues issues)).compact ∧
      (answer rejected).2.disk = Service.shopDisk) ∧
    (outcome broken).exitCode = 1 ∧ (answer broken).1.status = 400 ∧
      (answer broken).2.disk = Service.shopDisk := by
  intro outcome answer accepted rejected broken
  have hjson : PathText.fileName? "shop/price.json" = some ("price" ++ ".json") := by
    decide +kernel
  have hschema (documentText : String) :
      shopFiles documentText "shop/price.yaml" = .ok shopSchema := rfl
  have hdocument (documentText : String) :
      shopFiles documentText "shop/price.json" = .ok documentText := rfl
  have hagree (documentText : String)
      (hwithin : documentText.toUTF8.size ≤ Config.default.maxBodyBytes) :=
    validate_agrees_with_save 0 (hschema documentText) (hdocument documentText) hjson
      (sends_shop hwithin)
  refine ⟨?_, ?_, ?_⟩
  · have hexit : (outcome accepted).exitCode = 0 := by decide +kernel
    obtain ⟨haccepted, -, -, hvalue, -, -, -, -⟩ := hagree accepted (by decide +kernel)
    obtain ⟨value, hverdict, hprinted, hanswered⟩ := hvalue hexit
    exact ⟨value, hexit, haccepted.mp hexit, hverdict, hprinted, hanswered⟩
  · have hexit : (outcome rejected).exitCode = 2 := by decide +kernel
    obtain ⟨-, hrejected, -, -, hreport, -, -, hkept⟩ := hagree rejected (by decide +kernel)
    obtain ⟨issues, hverdict, hprinted, hanswered⟩ := hreport hexit
    exact ⟨issues, hexit, hrejected.mp hexit, hverdict, hprinted, hanswered,
      hkept (by simp [outcome, hexit])⟩
  · have hstatus : (answer broken).1.status = 400 := by decide +kernel
    obtain ⟨-, -, hfailed, -, -, -, -, hkept⟩ := hagree broken (by decide +kernel)
    have hexit : (outcome broken).exitCode = 1 := hfailed.mpr (.inl hstatus)
    exact ⟨hexit, hstatus, hkept (by simp [outcome, hexit])⟩

end ContentForms
