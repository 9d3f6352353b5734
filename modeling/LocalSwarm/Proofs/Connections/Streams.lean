import Mathlib.Data.List.Forall2
import LocalSwarm.Proofs.Connections.Answers

/-! What a node sends back on one connection, whatever bytes come in: the answers to the requests
among the complete frames, one after the other. Main statement: `requests_are_answered_in_turn`. -/
namespace LocalSwarm

-- Comparing lengths symbol by symbol would write out all digits of a number.
attribute [local irreducible] Bytes.ofNat

namespace Frame

variable {stream body tail : Bytes} {bodies : List Bytes} {cause : TransportError}

def framed (body : Bytes) : Bytes := Bytes.ofNat 4 body.length ++ body

/-- The length that a stream begins with. -/
def announced (stream : Bytes) : Nat := Bytes.toNat (stream.take 4)

/-- Why no frame can be read where a stream ends or goes on with one that is too long. -/
inductive Stuck (stream : Bytes) : TransportError → Prop
  | closed (short : stream.length < 4) : Stuck stream .closed
  | tooLarge (begun : 4 ≤ stream.length) (large : limit < announced stream) :
      Stuck stream (.frameTooLarge (announced stream))
  | cutOff (begun : 4 ≤ stream.length) (fits : announced stream ≤ limit)
      (short : stream.length < 4 + announced stream) : Stuck stream .io

theorem stuck_of_read (failed : read stream = .error cause) : Stuck stream cause := by
  simp only [read, List.splitAt_eq, List.length_take, List.length_drop] at failed
  split at failed
  · cases failed
    exact .closed (by omega)
  · split at failed
    · cases failed
      exact .tooLarge (by omega) ‹_›
    · rename_i begun fits
      rw [Nat.not_lt] at fits
      split at failed
      · rename_i short
        cases failed
        refine .cutOff (by omega) fits ?_
        rw [announced]
        omega
      · cases failed

/-- A stream is made of complete frames with the given bodies and of a rest that holds no further
one. -/
structure Cut (stream : Bytes) (bodies : List Bytes) (tail : Bytes) (cause : TransportError) :
    Prop where
  spelled : stream = bodies.flatMap framed ++ tail
  short : ∀ body ∈ bodies, body.length ≤ limit
  stuck : Stuck tail cause

theorem read_framed (short : body.length ≤ limit) (rest : Bytes) :
    read (framed body ++ rest) = .ok (body, rest) := by
  rw [read_eq_ok_iff, framed, List.append_assoc]
  exact ⟨short, rfl⟩

/-- Streams are done with frame by frame. -/
theorem stream_induction {P : Bytes → Prop}
    (stuck : ∀ stream cause, read stream = .error cause → P stream)
    (frame : ∀ body rest, body.length ≤ limit → P rest → P (framed body ++ rest))
    (stream : Bytes) : P stream := by
  induction size : stream.length using Nat.strong_induction_on generalizing stream with
  | _ size ih =>
    subst size
    cases first : read stream with
    | error cause => exact stuck stream cause first
    | ok found =>
      obtain ⟨body, rest⟩ := found
      obtain ⟨short, rfl⟩ := read_eq_ok_iff.1 first
      rw [← List.append_assoc] at first ih ⊢
      exact frame body rest short (ih rest.length (read_ok_length first) rest rfl)

theorem readAll_framed (short : body.length ≤ limit) (rest : Bytes) :
    readAll (framed body ++ rest) = (body :: (readAll rest).1, (readAll rest).2) := by
  have first := read_framed short rest
  rw [readAll]
  split
  · rename_i found
    obtain ⟨rfl, rfl⟩ := Prod.mk.inj (Except.ok.inj (found.symm.trans first))
    rfl
  · rename_i failed
    cases failed.symm.trans first

theorem readAll_of_error (failed : read stream = .error cause) : readAll stream = ([], cause) := by
  rw [readAll]
  split
  · rename_i found
    cases found.symm.trans failed
  · rename_i failed'
    obtain rfl := Except.error.inj (failed'.symm.trans failed)
    rfl

/-- Every stream is cut into what is read of it and the rest. -/
theorem exists_cut (stream : Bytes) :
    ∃ tail, Cut stream (readAll stream).1 tail (readAll stream).2 := by
  induction stream using stream_induction with
  | stuck stream cause failed =>
    rw [readAll_of_error failed]
    exact ⟨stream, rfl, nofun, stuck_of_read failed⟩
  | frame body rest short ih =>
    obtain ⟨tail, cut⟩ := ih
    rw [readAll_framed short]
    refine ⟨tail, ?_, List.forall_mem_cons.2 ⟨short, cut.short⟩, cut.stuck⟩
    rw [List.flatMap_cons, List.append_assoc, ← cut.spelled]

end Frame

namespace Serving

variable {σ : Type} {react : σ → Message → σ × Option Message} {s : σ} {stream body : Bytes}

/-- What can be decoded of the complete frames of a stream. -/
def messages (stream : Bytes) : List Message :=
  (Frame.readAll stream).1.filterMap fun body => (Message.decode body).toOption

theorem messages_of_error {cause : TransportError} (failed : Frame.read stream = .error cause) :
    messages stream = [] := by
  rw [messages, Frame.readAll_of_error failed, List.filterMap_nil]

theorem messages_framed (short : body.length ≤ Frame.limit) (rest : Bytes) :
    messages (Frame.framed body ++ rest) =
      (Message.decode body).toOption.toList ++ messages rest := by
  rw [messages, Frame.readAll_framed short, List.filterMap_cons]
  cases (Message.decode body).toOption <;> rfl

/-- Messages that are handled one after the other: what comes of it and what is answered. -/
def converse (react : σ → Message → σ × Option Message) : σ → List Message → σ × List Message
  | s, [] => (s, [])
  | s, m :: ms =>
    let (s, reply) := react s m
    let (s, replies) := converse react s ms
    (s, reply.toList ++ replies)

theorem serve_of_error {cause : TransportError} (failed : Frame.read stream = .error cause) :
    serve react s stream = (s, []) := by
  rw [serve]
  split
  · rfl
  · rename_i found
    cases found.symm.trans failed

/-- One frame is served and then the others. -/
theorem serve_framed (short : body.length ≤ Frame.limit) (rest : Bytes) :
    serve react s (Frame.framed body ++ rest) =
      match respond react s body with
      | (s', .error _) => (s', [])
      | (s', .ok sent) => ((serve react s' rest).1, sent ++ (serve react s' rest).2) := by
  have first := Frame.read_framed short rest
  rw [serve]
  split
  · rename_i failed
    cases failed.symm.trans first
  · rename_i found
    obtain ⟨rfl, rfl⟩ := Prod.mk.inj (Except.ok.inj (found.symm.trans first))
    rfl

theorem respond_of_error {cause : DecodeError} (failed : Message.decode body = .error cause) :
    respond react s body = (s, .ok []) := by
  rw [respond, failed]

theorem respond_of_ok {m : Message} (decoded : Message.decode body = .ok m)
    (fit : ∀ reply ∈ (react s m).2, reply.encode.length ≤ Frame.limit) :
    respond react s body = ((react s m).1,
      .ok ((react s m).2.toList.flatMap fun reply => Frame.framed reply.encode)) := by
  rw [respond, decoded]
  simp only
  rcases reaction : react s m with ⟨s', _ | reply⟩
  · rfl
  · rw [reaction] at fit
    have written := Frame.write_eq_ok_iff.2 ⟨fit reply rfl, rfl⟩
    simp only [written, Option.toList_some, List.flatMap_singleton, Frame.framed]

/-- To serve a stream is to handle its messages and to write the answers, as long as these fit. -/
theorem serve_eq_converse
    (fit : ∀ reply ∈ (converse react s (messages stream)).2, reply.encode.length ≤ Frame.limit) :
    serve react s stream = ((converse react s (messages stream)).1,
      (converse react s (messages stream)).2.flatMap fun reply => Frame.framed reply.encode) := by
  induction stream using Frame.stream_induction generalizing s with
  | stuck stream cause failed =>
    rw [serve_of_error failed, messages_of_error failed]
    rfl
  | frame body rest short ih =>
    rw [messages_framed short] at fit ⊢
    cases decoded : Message.decode body with
    | error cause =>
      rw [decoded] at fit
      rw [serve_framed short, respond_of_error decoded]
      exact ih fit
    | ok m =>
      rw [decoded] at fit
      have here : ∀ reply ∈ (react s m).2, reply.encode.length ≤ Frame.limit := fun reply member =>
        fit reply (List.mem_append_left _ (Option.mem_toList.2 member))
      have later : ∀ reply ∈ (converse react (react s m).1 (messages rest)).2,
          reply.encode.length ≤ Frame.limit := fun reply member =>
        fit reply (List.mem_append_right _ member)
      rw [serve_framed short, respond_of_ok decoded here]
      simp only [ih later, Except.toOption, Option.toList_some, List.singleton_append, converse,
        List.flatMap_append]

/-! ### The answers of a node -/

/-- A message is the answer to a request, under its number: a response or a failure. -/
structure Answers (self : Sender) (request reply : Message) : Prop where
  correlation : reply.correlation = request.correlation
  sender : reply.sender = self
  body : (∃ response, reply.body = .response response ∧
      response.operation = request.body.operation) ∨
    ∃ text, reply.body = .failure request.body.operation text

def isRequest (m : Message) : Bool :=
  match m.body with
  | .request _ => true
  | _ => false

/-- What a site makes of a message that comes over a connection from a host. Of the others that are
at work there, each message finds what they have done in the meantime; the number of messages that
came before is counted. -/
def amid (others : Nat → Site → Site) (host : IpAddr) (x : Nat × Site) (m : Message) :
    (Nat × Site) × Option Message :=
  let site := others x.1 x.2
  let (node, reaction) := site.node.react site.files site.now m host
  ((x.1 + 1, { site with node }), reaction.reply)

end Serving

namespace Node

variable {n : Node} {files : Files.Tree} {now : Moment} {requester : Peer} {m : Message}
  {host : IpAddr}

/-- What no message changes. -/
structure Steady (n n' : Node) : Prop where
  self : n'.self = n.self
  count : n'.count = n.count
  greeting : n'.greeting = n.greeting

theorem steady_respond (n : Node) (files : Files.Tree) (now : Moment) (requester : Peer)
    (r : Request) : Steady n (n.respond files now requester r).1 := by
  cases r with
  | findValue key count =>
    rw [respond]
    split <;> exact ⟨rfl, rfl, rfl⟩
  | _ => exact ⟨rfl, rfl, rfl⟩

theorem steady_react (n : Node) (files : Files.Tree) (now : Moment) (m : Message) (host : IpAddr) :
    Steady n (n.react files now m host).1 := by
  rw [react]
  split
  · exact steady_respond ..
  · exact ⟨rfl, rfl, rfl⟩

/-- Files that cannot be told of are answered with the text of a failure. -/
theorem operation_fileAnswer {α : Type} {response : α → Response} {operation : Operation}
    {found : Except Files.FileError α} {answer : Response}
    (same : ∀ a, (response a).operation = operation)
    (answered : fileAnswer response found = .ok answer) : answer.operation = operation := by
  cases found with
  | ok a =>
    obtain rfl := Except.ok.inj answered
    exact same a
  | error e => cases answered

theorem operation_respond {r : Request} {response : Response}
    (answered : (n.respond files now requester r).2 = .ok response) :
    response.operation = r.operation := by
  cases r with
  | findValue key count =>
    rw [respond] at answered
    split at answered
    all_goals
      obtain rfl := Except.ok.inj answered
      rfl
  | checkFile file => exact operation_fileAnswer (fun _ => rfl) answered
  | download file range => exact operation_fileAnswer (fun _ => rfl) answered
  | _ =>
    obtain rfl := Except.ok.inj answered
    rfl

/-- What is told of a request: a response or the text of a failure. -/
def answerBody (operation : Operation) : Except String Response → Body
  | .ok response => .response response
  | .error text => .failure operation text

theorem reply_react (k : UInt32) (sender : Sender) (r : Request) :
    (n.react files now ⟨k, sender, .request r⟩ host).2.reply =
      some ⟨k, n.self, answerBody r.operation
        (n.respond files now (sender.peerAt host) r).2⟩ := rfl

/-- Requests are answered. -/
theorem react_request (n : Node) (files : Files.Tree) (now : Moment) (host : IpAddr)
    (asks : Serving.isRequest m = true) :
    ∃ reply, (n.react files now m host).2.reply = some reply ∧
      Serving.Answers n.self m reply := by
  obtain ⟨k, sender, r | response | ⟨operation, text⟩⟩ := m
  · refine ⟨_, reply_react k sender r, rfl, rfl, ?_⟩
    cases answer : (n.respond files now (sender.peerAt host) r).2 with
    | ok response => exact .inl ⟨response, rfl, operation_respond answer⟩
    | error text => exact .inr ⟨text, rfl⟩
  · cases asks
  · cases asks

/-- Nothing but requests is answered or has any effect. -/
theorem react_other (other : Serving.isRequest m = false) :
    n.react files now m host = (n, ⟨none, none, none⟩) := by
  obtain ⟨correlation, sender, request | response | ⟨operation, text⟩⟩ := m
  · cases other
  · rfl
  · rfl

end Node

namespace Serving

variable {others : Nat → Site → Site} {host : IpAddr}

theorem answers_converse (keeps : ∀ n site, (others n site).node.self = site.node.self)
    (x : Nat × Site) (ms : List Message) :
    List.Forall₂ (Answers x.2.node.self) (ms.filter isRequest)
      (converse (amid others host) x ms).2 := by
  induction ms generalizing x with
  | nil => exact .nil
  | cons m ms ih =>
    have self : ((amid others host x m).1.2).node.self = x.2.node.self :=
      (Node.steady_react ..).self.trans (keeps x.1 x.2)
    have later := ih (amid others host x m).1
    rw [self] at later
    by_cases asks : isRequest m = true
    · obtain ⟨reply, answered, answers⟩ := (others x.1 x.2).node.react_request
        (others x.1 x.2).files (others x.1 x.2).now host asks
      rw [keeps] at answers
      have here : (amid others host x m).2 = some reply := answered
      rw [List.filter_cons_of_pos asks, converse]
      simp only [here, Option.toList_some, List.singleton_append]
      exact .cons answers later
    · have here : (amid others host x m).2 = none := by
        rw [amid, Node.react_other (Bool.eq_false_iff.2 asks)]
      rw [List.filter_cons_of_neg asks, converse]
      simp only [here, Option.toList_none, List.nil_append]
      exact later

/-- Without others at work, a site serves a connection as its node does. -/
theorem serveNode_eq_serve (site : Site) (stream : Bytes) (n : Nat) :
    serveNode site.files site.now host site.node stream =
      ((serve (amid (fun _ site => site) host) (n, site) stream).1.2.node,
        (serve (amid (fun _ site => site) host) (n, site) stream).2) := by
  unfold serveNode
  induction stream using Frame.stream_induction generalizing site n with
  | stuck stream cause failed =>
    rw [serve_of_error failed, serve_of_error failed]
  | frame body rest short ih =>
    cases decoded : Message.decode body with
    | error cause =>
      rw [serve_framed short, serve_framed short, respond_of_error decoded,
        respond_of_error decoded]
      simp only [ih site n]
    | ok m =>
      rw [serve_framed short, serve_framed short, respond, respond, decoded]
      simp only [amid]
      rcases site.node.react site.files site.now m host with ⟨node, _ | reply, observed, greeted⟩
      · simp only [ih { site with node } (n + 1)]
      · dsimp only
        cases Frame.write reply.encode with
        | error tooLarge => rfl
        | ok sent => simp only [ih { site with node } (n + 1)]

/-- What becomes of a site on a connection, and all answers. -/
def handled (others : Nat → Site → Site) (host : IpAddr) (site : Site) (stream : Bytes) :
    (Nat × Site) × List Message :=
  converse (amid others host) (0, site) (messages stream)

/-- What a connection brings is cut into complete frames and a rest that holds no further one. What
is sent back are the answers to the requests among the frames, each in a frame, in their order; and
nothing but the messages in these frames has been handled. -/
theorem requests_are_answered_in_turn (others : Nat → Site → Site)
    (keeps : ∀ n site, (others n site).node.self = site.node.self) (host : IpAddr) (site : Site)
    (stream : Bytes)
    (fit : ∀ reply ∈ (handled others host site stream).2, reply.encode.length ≤ Frame.limit) :
    ∃ bodies tail cause, Frame.Cut stream bodies tail cause ∧
      messages stream = bodies.filterMap (fun body => (Message.decode body).toOption) ∧
      serve (amid others host) (0, site) stream = ((handled others host site stream).1,
        (handled others host site stream).2.flatMap fun reply => Frame.framed reply.encode) ∧
      List.Forall₂ (Answers site.node.self) ((messages stream).filter isRequest)
        (handled others host site stream).2 := by
  obtain ⟨tail, cut⟩ := Frame.exists_cut stream
  exact ⟨_, tail, _, cut, rfl, serve_eq_converse fit, answers_converse keeps (0, site) _⟩

/-! A connection that brings two requests, a frame that cannot be decoded, an answer that nobody
has asked for, and the beginning of a frame. Time passes before each message. -/

namespace Calls

open Traffic.Polls

def stream : Bytes :=
  [(ping 7).encode, [255], (pong 7).encode, (ping 8).encode].flatMap Frame.framed ++ [0, 0]

def site : Site := ⟨studio, .empty, 0⟩

def caller : IpAddr := .v4 0x0a000005

def later (_ : Nat) (site : Site) : Site := { site with now := site.now + 1 }

theorem messages_stream : messages stream = [ping 7, pong 7, ping 8] := by
  have closed : Frame.read [0, 0] = .error .closed := by decide
  have garbled : Message.decode [255] = .error (.unknownOperation 255) := by decide
  simp only [stream, List.flatMap_cons, List.flatMap_nil, List.append_nil, List.append_assoc]
  rw [messages_framed ping_travels.1.short, messages_framed (by decide),
    messages_framed pong_travels.1.short, messages_framed ping_travels.2.short,
    messages_of_error closed, garbled, Message.decode_encode ping_travels.1.fits,
    Message.decode_encode ping_travels.2.fits, Message.decode_encode pong_travels.1.fits]
  rfl

theorem handled_stream :
    handled later caller site stream = ((3, { site with now := 3 }), [pong 7, pong 8]) := by
  rw [handled, messages_stream]
  rfl

theorem calls_are_answered :
    (∀ n site, (later n site).node.self = site.node.self) ∧
      (∃ bodies tail cause, Frame.Cut stream bodies tail cause) ∧
      serve (amid later caller) (0, site) stream = ((3, { site with now := 3 }),
        Frame.framed (pong 7).encode ++ Frame.framed (pong 8).encode) := by
  have fit : ∀ reply ∈ (handled later caller site stream).2,
      reply.encode.length ≤ Frame.limit := by
    rw [handled_stream]
    exact List.forall_mem_cons.2 ⟨pong_travels.1.short,
      List.forall_mem_singleton.2 pong_travels.2.short⟩
  obtain ⟨bodies, tail, cause, cut, -, sent, -⟩ :=
    requests_are_answered_in_turn later (fun _ _ => rfl) caller site stream fit
  refine ⟨fun _ _ => rfl, ⟨bodies, tail, cause, cut⟩, ?_⟩
  rw [sent, handled_stream]
  simp only [List.flatMap_cons, List.flatMap_nil, List.append_nil]

end Calls
end Serving
end LocalSwarm
