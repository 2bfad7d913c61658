import Cutroom.Job.Poll
import Cutroom.Web.Client

/-! When the requests of a run are sent. All are sent at once, except that a job is asked about only after a
    pause while the edit of a prompt is awaited. -/

namespace Cutroom.Command

/-- A request with what came of it. --/
structure Exchanged where
  request : Request
  response : Option Response

/-- A request that goes to a place of the given name. --/
def goesTo (r : Request) (name : String) : Bool := name.toList.isSuffixOf r.target.toList

namespace Exchanged

def isPrompt (e : Exchanged) : Bool := e.request.method = "POST" && goesTo e.request "/prompt"

/-- The status that the service has reported. --/
def report? (e : Exchanged) : Option StatusReport :=
  e.response.bind fun r =>
    ((Client.succeeded .poll (.ok r)).bind (Client.decoded .poll StatusReport.ofJson?)).toOption

/-- A question about a job that has not been answered. --/
def isFailedTurn (e : Exchanged) : Bool := e.request.method = "GET" && e.report?.isNone

end Exchanged

/-- A question about a job, rather than a request for its video. --/
def isTurn (r : Request) : Bool := r.method = "GET" && !goesTo r "/download"

/-- The pause before a request, longer when the questions before it have failed. --/
def pause (policy : PollPolicy) (past : List Exchanged) (next : Request) : Wait :=
  if isTurn next && past.any Exchanged.isPrompt then
    policy.delay (past.reverse.takeWhile Exchanged.isFailedTurn).length
  else 0

end Cutroom.Command
