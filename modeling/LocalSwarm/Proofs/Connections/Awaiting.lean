import LocalSwarm.Proofs.Connections.Framing

/-! How an exchange ends on a stream, told of the frames that come in: which of them are passed
over, which one decides, and what is left on the stream. Main statement:
`exchanges_end_with_the_first_answer`. -/
namespace LocalSwarm.Exchange
open LocalSwarm.Frame (framed Stuck)

-- Comparing lengths symbol by symbol would write out all digits of a number.
attribute [local irreducible] Bytes.ofNat

/-- The body of a frame is a message, but not under the number that is awaited. -/
def isForeign (k : UInt32) (body : Bytes) : Bool :=
  match Message.decode body with
  | .ok m => m.correlation != k
  | .error _ => false

/-- How the wait for a number ends. In front of what decides stand frames of foreign messages only. -/
inductive Ends (k : UInt32) : Bytes → Except TransportError (Message × Bytes) → Prop
  | answered {skipped : List Bytes} {body : Bytes} {m : Message}
      (foreign : ∀ b ∈ skipped, b.length ≤ Frame.limit ∧ isForeign k b = true)
      (short : body.length ≤ Frame.limit) (decoded : Message.decode body = .ok m)
      (same : m.correlation = k) (rest : Bytes) :
      Ends k (skipped.flatMap framed ++ (framed body ++ rest)) (.ok (m, rest))
  | undecodable {skipped : List Bytes} {body : Bytes} {e : DecodeError}
      (foreign : ∀ b ∈ skipped, b.length ≤ Frame.limit ∧ isForeign k b = true)
      (short : body.length ≤ Frame.limit) (failed : Message.decode body = .error e)
      (rest : Bytes) :
      Ends k (skipped.flatMap framed ++ (framed body ++ rest)) (.error (.decode e))
  | stuck {skipped : List Bytes} {tail : Bytes} {cause : TransportError}
      (foreign : ∀ b ∈ skipped, b.length ≤ Frame.limit ∧ isForeign k b = true)
      (stuck : Stuck tail cause) : Ends k (skipped.flatMap framed ++ tail) (.error cause)

variable {k : UInt32} {stream tail body rest : Bytes} {skipped bodies : List Bytes} {m : Message}
  {cause : TransportError} {outcome : Except TransportError (Message × Bytes)}

theorem isForeign_of_ok (decoded : Message.decode body = .ok m) :
    isForeign k body = true ↔ m.correlation ≠ k := by
  rw [isForeign, decoded]
  exact bne_iff_ne

theorem exists_of_isForeign (foreign : isForeign k body = true) :
    ∃ m, Message.decode body = .ok m ∧ m.correlation ≠ k := by
  cases decoded : Message.decode body with
  | ok m => exact ⟨m, rfl, (isForeign_of_ok decoded).1 foreign⟩
  | error e =>
    rw [isForeign, decoded] at foreign
    cases foreign

/-! ### Frame by frame -/

theorem await_of_error (failed : Frame.read stream = .error cause) :
    await k stream = .error cause := by
  rw [await]
  split
  · rename_i failed'
    rw [Except.error.inj (failed'.symm.trans failed)]
  · rename_i found
    cases found.symm.trans failed

theorem await_framed (k : UInt32) (short : body.length ≤ Frame.limit) (rest : Bytes) :
    await k (framed body ++ rest) =
      match Message.decode body with
      | .error e => .error (.decode e)
      | .ok m => if m.correlation = k then .ok (m, rest) else await k rest := by
  have first := Frame.read_framed short rest
  rw [await]
  split
  · rename_i failed
    cases failed.symm.trans first
  · rename_i found
    obtain ⟨rfl, rfl⟩ := Prod.mk.inj (Except.ok.inj (found.symm.trans first))
    rfl

theorem await_foreign (short : body.length ≤ Frame.limit) (foreign : isForeign k body = true)
    (rest : Bytes) : await k (framed body ++ rest) = await k rest := by
  obtain ⟨m, decoded, other⟩ := exists_of_isForeign foreign
  rw [await_framed k short, decoded]
  exact if_neg other

theorem await_skipped
    (foreign : ∀ body ∈ skipped, body.length ≤ Frame.limit ∧ isForeign k body = true)
    (rest : Bytes) : await k (skipped.flatMap framed ++ rest) = await k rest := by
  induction skipped with
  | nil => rfl
  | cons body skipped ih =>
    obtain ⟨⟨short, first⟩, others⟩ := List.forall_mem_cons.1 foreign
    rw [List.flatMap_cons, List.append_assoc, await_foreign short first, ih others]

theorem Ends.await_eq (ends : Ends k stream outcome) : await k stream = outcome := by
  cases ends with
  | answered foreign short decoded same rest =>
    rw [await_skipped foreign, await_framed k short, decoded]
    exact if_pos same
  | undecodable foreign short failed rest =>
    rw [await_skipped foreign, await_framed k short, failed]
  | stuck foreign stuck => rw [await_skipped foreign, await_of_error (Frame.read_of_stuck stuck)]

/-- A foreign message may stand in front of everything. -/
theorem Ends.pass (short : body.length ≤ Frame.limit) (foreign : isForeign k body = true)
    (ends : Ends k stream outcome) : Ends k (framed body ++ stream) outcome := by
  have joined {others : List Bytes}
      (passed : ∀ body ∈ others, body.length ≤ Frame.limit ∧ isForeign k body = true) :
      ∀ b ∈ body :: others, b.length ≤ Frame.limit ∧ isForeign k b = true :=
    List.forall_mem_cons.2 ⟨⟨short, foreign⟩, passed⟩
  cases ends with
  | answered passed short decoded same rest =>
    rw [← List.append_assoc, ← List.flatMap_cons]
    exact .answered (joined passed) short decoded same rest
  | undecodable passed short failed rest =>
    rw [← List.append_assoc, ← List.flatMap_cons]
    exact .undecodable (joined passed) short failed rest
  | stuck passed stuck =>
    rw [← List.append_assoc, ← List.flatMap_cons]
    exact .stuck (joined passed) stuck

theorem ends_await (k : UInt32) (stream : Bytes) : Ends k stream (await k stream) := by
  have nothing : ∀ b ∈ ([] : List Bytes), b.length ≤ Frame.limit ∧ isForeign k b = true := nofun
  induction stream using Frame.stream_induction with
  | stuck stream cause failed =>
    rw [await_of_error failed]
    exact .stuck nothing (Frame.stuck_of_read failed)
  | frame body rest short ih =>
    cases decoded : Message.decode body with
    | error e =>
      rw [await_framed k short, decoded]
      exact .undecodable nothing short decoded rest
    | ok m =>
      by_cases same : m.correlation = k
      · rw [await_framed k short, decoded]
        dsimp only
        rw [if_pos same]
        exact .answered nothing short decoded same rest
      · have foreign := (isForeign_of_ok decoded).2 same
        rw [await_foreign short foreign]
        exact ih.pass short foreign

/-- Without the foreign messages the wait ends with the same message or the same error. -/
theorem await_withoutForeign (short : ∀ body ∈ bodies, body.length ≤ Frame.limit) (tail : Bytes) :
    (await k (bodies.flatMap framed ++ tail)).map Prod.fst =
      (await k ((bodies.filter (!isForeign k ·)).flatMap framed ++ tail)).map Prod.fst := by
  induction bodies with
  | nil => rfl
  | cons body bodies ih =>
    obtain ⟨first, others⟩ := List.forall_mem_cons.1 short
    rw [List.flatMap_cons, List.append_assoc]
    by_cases foreign : isForeign k body = true
    · rw [await_foreign first foreign, ih others, List.filter_cons_of_neg (by simpa using foreign)]
    · rw [List.filter_cons_of_pos (by simpa using foreign), List.flatMap_cons, List.append_assoc,
        await_framed k first, await_framed k first]
      cases decoded : Message.decode body with
      | error e => rfl
      | ok m =>
        have same : m.correlation = k := by
          by_contra other
          exact foreign ((isForeign_of_ok decoded).2 other)
        simp only [if_pos same, Except.map]

/-- An exchange ends with the first message under the number of its request, as long as all frames
before it are complete and can be decoded, and what follows that message is left on the stream.
Otherwise the first frame that cannot be decoded, is too long or incomplete says why it fails; that
the stream has ended counts as such a frame. Messages under other numbers make no difference. -/
theorem exchanges_end_with_the_first_answer {request : Message}
    (fits : request.encode.length ≤ Frame.limit) :
    (∀ stream outcome,
      exchange request stream = outcome ↔ Ends request.correlation stream outcome) ∧
    ∀ (bodies : List Bytes) (tail : Bytes), (∀ body ∈ bodies, body.length ≤ Frame.limit) →
      (exchange request (bodies.flatMap framed ++ tail)).map Prod.fst =
        (exchange request ((bodies.filter (!isForeign request.correlation ·)).flatMap framed
          ++ tail)).map Prod.fst := by
  have awaits (stream : Bytes) : exchange request stream = await request.correlation stream := by
    rw [exchange, Frame.write_eq_ok_iff.2 ⟨fits, rfl⟩]
  refine ⟨fun stream outcome => ?ends, fun bodies tail short => ?foreign⟩
  case ends =>
    rw [awaits]
    constructor
    · rintro rfl
      exact ends_await request.correlation stream
    · exact Ends.await_eq
  case foreign =>
    rw [awaits, awaits]
    exact await_withoutForeign short tail

/-! ### A late answer -/

def asked : Message := ⟨7, ⟨⟨5⟩, 4400, "studio"⟩, .request .ping⟩

def late : Message := ⟨6, ⟨⟨4⟩, 4400, "studio"⟩, .response .ping⟩

def answer : Message := ⟨7, ⟨⟨4⟩, 4400, "studio"⟩, .response .ping⟩

theorem decode_late : Message.decode late.encode = .ok late :=
  Message.decode_encode ⟨Wire.plain_studio, trivial⟩

theorem decode_answer : Message.decode answer.encode = .ok answer :=
  Message.decode_encode ⟨Wire.plain_studio, trivial⟩

theorem short_late : late.encode.length ≤ Frame.limit ∧ answer.encode.length ≤ Frame.limit := by
  decide +kernel

/-- The answer to an earlier request comes in first. Two bytes of another frame stay on the stream. -/
theorem late_answer_is_passed_over :
    asked.encode.length ≤ Frame.limit ∧
      exchange asked (framed late.encode ++ framed answer.encode ++ [0, 0]) =
        .ok (answer, [0, 0]) ∧
      (exchange asked (framed late.encode ++ [0, 0])).map Prod.fst =
        (exchange asked [0, 0]).map Prod.fst := by
  have fits : asked.encode.length ≤ Frame.limit := by decide +kernel
  have foreign : isForeign asked.correlation late.encode = true :=
    (isForeign_of_ok decode_late).2 (by decide)
  have passed : ∀ b ∈ [late.encode], b.length ≤ Frame.limit ∧ isForeign asked.correlation b = true :=
    List.forall_mem_singleton.2 ⟨short_late.1, foreign⟩
  obtain ⟨ends, passes⟩ := exchanges_end_with_the_first_answer fits
  refine ⟨fits, (ends _ _).2 ?_, ?_⟩
  · have decides := Ends.answered passed short_late.2 decode_answer rfl [0, 0]
    rwa [List.flatMap_singleton, ← List.append_assoc] at decides
  · have alike := passes [late.encode] [0, 0] (List.forall_mem_singleton.2 short_late.1)
    rwa [List.flatMap_singleton, List.filter_cons_of_neg (by rw [foreign]; decide)] at alike

end LocalSwarm.Exchange
