import LocalSwarm.Message.Encoding
import LocalSwarm.Node

/-! The other end of a connection: frames come in, and every request among them is answered in its
turn. What cannot be decoded and what is no request gets no answer and ends nothing; a frame that
is too long or cut off ends the connection. -/
namespace LocalSwarm.Serving

variable {σ : Type}

/-- What is sent back for the body of a frame. An answer that fits no frame ends the connection. -/
def respond (react : σ → Message → σ × Option Message) (s : σ) (body : Bytes) :
    σ × Except TransportError Bytes :=
  match Message.decode body with
  | .error _ => (s, .ok [])
  | .ok m =>
    match react s m with
    | (s, none) => (s, .ok [])
    | (s, some reply) => (s, Frame.write reply.encode)

/-- All that is sent back on a stream that ends with the given bytes. -/
def serve (react : σ → Message → σ × Option Message) (s : σ) (stream : Bytes) : σ × Bytes :=
  match h : Frame.read stream with
  | .error _ => (s, [])
  | .ok (body, rest) =>
    match respond react s body with
    | (s, .error _) => (s, [])
    | (s, .ok sent) =>
      have := Frame.read_ok_length h
      let (s, more) := serve react s rest
      (s, sent ++ more)
termination_by stream.length

/-- A node that serves a connection from a host, whoever is to be observed being left for later. -/
def serveNode (files : Files.Tree) (now : Moment) (host : IpAddr) (n : Node) (stream : Bytes) :
    Node × Bytes :=
  serve (fun n m => ((n.react files now m host).1, (n.react files now m host).2.reply)) n stream

end LocalSwarm.Serving
