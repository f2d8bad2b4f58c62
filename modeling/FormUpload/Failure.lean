import FormUpload.FileTree.SystemError
import FormUpload.Http.Status
import FormUpload.Response
import FormUpload.Url.Host

/-!
# Failures

Why no usable response was obtained.  Each kind of failure is a constructor that
keeps what is known about it; `Failure.message` has the wording.
-/

namespace FormUpload

open FormUpload.Text

/-! ## §1. Causes. -/

/-- Why a request has no usable answer. -/
inductive RequestFault where
  /-- It could not be put together; the URL is known if one was used. -/
  | notBuilt (url : Option String)
  /-- No whole response head was received. -/
  | notSent (url : String) (timedOut : Bool)
  /-- The body broke off or could not be unpacked. -/
  | notReceived (timedOut : Bool)
  /-- Redirects were followed too often. -/
  | tooManyRedirects (url : String)
deriving DecidableEq, Repr

/-- The wording of a request fault. -/
def RequestFault.message : RequestFault → String
  | .notBuilt none => "builder error"
  | .notBuilt (some url) => "builder error for url (" ++ url ++ ")"
  | .notSent url _ => "error sending request for url (" ++ url ++ ")"
  | .notReceived _ => "error decoding response body"
  | .tooManyRedirects url => "error following redirect for url (" ++ url ++ ")"

/-- Whether the time limit was the cause. -/
def RequestFault.timedOut : RequestFault → Bool
  | .notSent _ t => t
  | .notReceived t => t
  | _ => false

/-- Why a file could not be read. -/
inductive FileFault where
  /-- The operating system refused. -/
  | system (code : Int)
  /-- The path holds a NUL octet. -/
  | nulInPath
deriving DecidableEq, Repr

/-- The wording of a file fault. -/
def FileFault.message : FileFault → String
  | .system code =>
      FileTree.systemText code ++ " (os error " ++ String.ofList (decimalInt code) ++ ")"
  | .nulInPath => "file name contained an unexpected NUL byte"

/-! ## §2. Failures. -/

/-- Why no usable response was obtained. -/
inductive Failure where
  /-- The endpoint is blank. -/
  | emptyEndpoint
  /-- The endpoint is no URL. -/
  | invalidEndpoint (endpoint : String) (fault : Url.Fault)
  /-- The request went wrong. -/
  | request (fault : RequestFault)
  /-- The response has a status that is not accepted. -/
  | status (status : UInt16) (response : Response)
  /-- A part of the form has a content type that is none. -/
  | contentType (field contentType : String)
  /-- A file could not be read. -/
  | unreadable (path : Bytes) (fault : FileFault)
  /-- Anything else. -/
  | custom (message : String)
deriving Repr

namespace Failure

/-- What lies under a failure, if that has a wording of its own. -/
def cause? : Failure → Option String
  | .invalidEndpoint _ fault => some fault.message
  | .request fault => some fault.message
  | .contentType _ _ => some (RequestFault.notBuilt none).message
  | .unreadable _ fault => some fault.message
  | _ => none

/-- The wording of a failure. -/
def message : Failure → String
  | .emptyEndpoint => "endpoint must not be empty"
  | .invalidEndpoint endpoint fault =>
      "invalid endpoint `" ++ endpoint ++ "`: " ++ fault.message
  | .request fault => "request failed: " ++ fault.message
  | .status code _ => "server responded with status " ++ Http.statusText code
  | .contentType field text =>
      "invalid content type `" ++ text ++ "` for field `" ++ field ++ "`: "
        ++ (RequestFault.notBuilt none).message
  | .unreadable path fault =>
      "failed to read `" ++ stringLossy path ++ "`: " ++ fault.message
  | .custom message => message

/-- The response that came with the failure. -/
def response? : Failure → Option Response
  | .status _ response => some response
  | _ => none

/-- Whether the time limit was the cause. -/
def timedOut : Failure → Bool
  | .request fault => fault.timedOut
  | _ => false

end Failure

end FormUpload
