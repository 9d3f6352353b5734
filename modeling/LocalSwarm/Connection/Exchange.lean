import LocalSwarm.Call
import LocalSwarm.Message.Encoding

/-! One request and its answer on a stream. Messages with other correlation numbers are left over
from requests that nobody waits for any more, and are passed over. -/
namespace LocalSwarm.Exchange

/-- The first message of a stream with the given number, and what follows it. -/
def await (correlation : UInt32) (stream : Bytes) : Except TransportError (Message × Bytes) :=
  match h : Frame.read stream with
  | .error e => .error e
  | .ok (body, rest) =>
    match Message.decode body with
    | .error e => .error (.decode e)
    | .ok m =>
      have := Frame.read_ok_length h
      if m.correlation = correlation then .ok (m, rest) else await correlation rest
termination_by stream.length

/-- Write a request and wait for its answer on a stream that ends with the given bytes. A request
that fits no frame is not written. -/
def exchange (request : Message) (stream : Bytes) : Except TransportError (Message × Bytes) :=
  match Frame.write request.encode with
  | .error e => .error e
  | .ok _ => await request.correlation stream

end LocalSwarm.Exchange
