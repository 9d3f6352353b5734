import LocalSwarm.Document.Failures
import LocalSwarm.Document.Messages
import LocalSwarm.Lookup.Plan

/-! How calls, handshakes and lookups end, in documents. -/
namespace LocalSwarm.Document

def ofOutcome : Outcome → Document
  | .error e => ofCallError e
  | .ok reply =>
    match reply.response with
    | .acknowledge g => ofTexts g.buckets
    | .ping => text "ok"
    | .store stored => truth stored
    | .findNode ps => ofPeers ps
    | .findValue found => ofFound found
    | .checkFile s => ofFileStatus s
    | .download s data => ofFileData s data

def handshakeFields (h : Handshake) : List (String × Document) :=
  [("contact", ofPeer h.contact), ("buckets", ofTexts h.buckets)]

def ofHandshake : Except CallError Handshake → Document
  | .ok h => record (handshakeFields h)
  | .error e => ofCallError e

def ofState : BootstrapState → Document
  | .awaiting => text "AwaitContact"
  | .underway => text "Bootstrapping"
  | .complete => text "Bootstrapped"

def ofLookup : LookupOutcome → Document
  | .value b => record [("value", ofBytes b)]
  | .contacts ps => record [("contacts", ofIdentifiers ps)]

end LocalSwarm.Document
