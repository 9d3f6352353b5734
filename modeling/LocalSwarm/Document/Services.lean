import LocalSwarm.Document.Failures
import LocalSwarm.Service

/-! What services and their discovery show of themselves, in documents. -/
namespace LocalSwarm.Document

def ofStats (s : Discovery.Stats) : Document :=
  record [("sent", ofNat s.sent), ("received", ofNat s.received), ("duplicates", ofNat s.duplicates),
    ("malformed", ofNat s.malformed), ("ignored", ofNat s.ignored),
    ("acknowledged", ofNat s.acknowledged), ("restarts", ofNat s.restarts)]

def ofDiscovered (p : Discovery.DiscoveredPeer) : Document :=
  record [("addr", ofAddress p.address), ("machine_id", ofText p.machine),
    ("correlation_id", ofNat p.correlation.toNat)]

def ofReport (r : Service.Report) : Document :=
  record [("running", truth r.running), ("bootstrapped", truth r.bootstrapped),
    ("good", ofNat r.good), ("questionable", ofNat r.questionable), ("buckets", ofNat r.buckets),
    ("listeners", ofNat r.listeners.length), ("discovery", ofStats r.stats)]

def ofStartError (e : StartError) : Document :=
  match e with
  | .noFreePort .. => failure "NoFreePort" "no free TCP port in PORT..=PORT"
  | .discovery cause => caused "Discovery" e.message (text cause.message)

end LocalSwarm.Document
