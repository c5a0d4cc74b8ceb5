import WorkflowLaunch.Http.Frontend
import WorkflowLaunch.Log.Logger

set_option autoImplicit false

/-!
The events of a request: it began, it was answered, and the body of the answer ended. They happen
inside a span that describes the request, if the filter lets the span through.
-/

namespace WorkflowLaunch.Http

open Log (Event Line Logger Span)

def traceTarget (part : String) : String := "tower_http::trace::" ++ part

def traceEvent (part message : String) (fields : List (String × Log.Datum))
    (hidden : List String) : Event :=
  ⟨.debug, traceTarget part, message, fields, hidden⟩

def spanName : String := "request"

def spanTarget : String := traceTarget "make_span"

def requestSpan (request : Request) : Span :=
  ⟨spanName, [("method", request.method), ("uri", (Target.ofText request.target).text),
    ("version", "HTTP/1.1")]⟩

/-- A head that tells the length of a body has none that could end. -/
def endsWithHead (request : Request) (response : Response) : Bool :=
  request.method = "HEAD" && response.headers.any (·.1 == "content-length")

/-- The times that were taken are not shown. -/
def traceEvents (request : Request) (response : Response) : List Event :=
  let ended :=
    if endsWithHead request response then []
    else [traceEvent "on_eos" "end of stream" [] ["stream_duration", "status"]]
  [traceEvent "on_request" "started processing request" [] [],
    traceEvent "on_response" "finished processing request" [("status", .count response.status)]
      ["latency", "response_headers"]] ++ ended

/-- What a logger writes about a request. -/
def trace (logger : Logger) (request : Request) (response : Response) : List Line :=
  let span := requestSpan request
  let shown := if logger.filter.enablesSpan .debug spanTarget span then [span] else []
  let written := (traceEvents request response).filter fun event =>
    logger.enables event || logger.filter.enablesInside event.level spanTarget span
  written.map (logger.lineInside shown)

end WorkflowLaunch.Http
