import LocalSwarm.Call
import LocalSwarm.Document.Values
import LocalSwarm.Download

/-! Failures in documents: their kind, their text and, where there is one, their cause. -/
namespace LocalSwarm.Document

def failureFields (kind message : String) : List (String × Document) :=
  [("error", text kind), ("message", text message)]

def failure (kind message : String) : Document := record (failureFields kind message)

def caused (kind message : String) (cause : Document) : Document :=
  record (failureFields kind message ++ [("cause", cause)])

def ofFault (fault : Fault) : Document :=
  record (("error", text "panic") :: (fault.message?.map fun m => ("message", text m)).toList)

def ofDecodeError (e : DecodeError) : Document :=
  let kind := match e with
    | .truncated => "Truncated"
    | .unknownOperation _ => "UnknownOpcode"
    | .nonAscii => "NonAscii"
    | .invalidFamily _ => "InvalidFamily"
    | .invalidTag _ => "InvalidTag"
    | .invalidRange .. => "InvalidRange"
    | .trailingBytes _ => "TrailingBytes"
  failure kind e.message

def ofDecoded {α : Type} (write : α → Document) : Except DecodeError α → Document
  | .ok a => write a
  | .error e => ofDecodeError e

def ofTransportError (e : TransportError) : Document :=
  match e with
  | .io => failure "Io" e.message
  | .timeout => failure "Timeout" e.message
  | .frameTooLarge _ => failure "FrameTooLarge" e.message
  | .decode cause => caused "Decode" e.message (ofDecodeError cause)
  | .closed => failure "Closed" e.message

def ofCallError (e : CallError) : Document :=
  match e with
  | .transport cause => caused "Transport" e.message (ofTransportError cause)
  | .remote _ => failure "Remote" e.message
  | .unexpected => failure "UnexpectedResponse" e.message
  | .versionMismatch _ => failure "VersionMismatch" e.message

def ofFileError (e : Files.FileError) : Document := failure "Io" e.message

def downloadErrorFields (e : DownloadError) : List (String × Document) :=
  match e with
  | .invalid _ => failureFields "InvalidArgument" e.message
  | .folderNotFound _ => failureFields "FolderNotFound" e.message
  | .alreadyExists _ => failureFields "AlreadyExists" e.message
  | .notFound => failureFields "NotFound" e.message
  | .incomplete _ => failureFields "PartiallyDownloaded" e.message
  | .cancelled => failureFields "Cancelled" e.message
  | .file cause => failureFields "Io" e.message ++ [("cause", text cause.message)]

end LocalSwarm.Document
