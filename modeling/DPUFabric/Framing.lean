import DPUFabric.Library.Exceptions
import DPUFabric.Transport

/-!
# Frames over a connection

`write_frame` hands a frame to `send`, which may accept any part of what it is
offered.  The peer gets the same bytes in segments of its own, and its probe may find
the socket idle before any call.  `recv_frame` reads the header in one or two parts
and then the payload, which together are exactly one frame, however the bytes are cut.
-/

namespace DPUFabric.Mp

open Exceptions
open DPUFabric.Proto
open DPUFabric.Wire

/-! ## Sending -/

/-- How many of the `n` bytes that it is offered the `i`-th `send` accepts: one at least. -/
structure Acceptance where
  accepts : Nat → Nat → Nat
  progress : ∀ i n, 0 < n → 0 < accepts i n
  within : ∀ i n, accepts i n ≤ n

/-- The calls of `send` so far, and what each of them accepted. -/
structure Outgoing where
  calls : Nat := 0
  accepted : List (List UInt8) := []

def Outgoing.bytes (o : Outgoing) : List UInt8 := o.accepted.flatten

abbrev SendM := EStateM Fault Outgoing

section Sending

variable (socket : Acceptance)

/-- `send(sock, buf, n, 0)`. -/
def send (buf : List UInt8) : SendM Nat := fun o =>
  let r := socket.accepts o.calls buf.length
  .ok r { calls := o.calls + 1, accepted := o.accepted ++ [buf.take r] }

/-- `send_n`: what is left is offered again. -/
def sendN (buf : List UInt8) : SendM Bool := do
  if _ : buf.length = 0 then return true
  else
    let r ← send socket buf
    if _ : r ≤ 0 then return false
    else sendN (buf.drop r)
termination_by buf.length
decreasing_by
  rw [List.length_drop]
  omega

/-- `write_frame`. -/
def writeFrame (type : FrameType) (payload : List UInt8) : SendM Bool := do
  match encode type payload with
  | .ok bytes => sendN socket bytes
  | .error fault => throw fault

/-- One `write_frame` after the other. -/
def writeFrames : List (FrameType × List UInt8) → SendM (List Bool)
  | [] => return []
  | (type, payload) :: more => do
      let sent ← writeFrame socket type payload
      let others ← writeFrames more
      return sent :: others

/-- What frames are written as. -/
def wireBytes (frames : List (FrameType × List UInt8)) : List UInt8 :=
  frames.flatMap fun frame => frameBytes frame.1 frame.2

/-- Every byte is accepted once, and in order. -/
theorem sendN_sends (buf : List UInt8) (o : Outgoing) :
    ∃ o', sendN socket buf o = .ok true o' ∧ o'.bytes = o.bytes ++ buf := by
  induction length : buf.length using Nat.strong_induction_on generalizing buf o with
  | _ n ih =>
      rw [sendN]
      by_cases done : buf.length = 0
      · rw [dif_pos done]
        refine ⟨o, rfl, ?_⟩
        rw [List.length_eq_zero_iff.mp done, List.append_nil]
      rw [dif_neg done]
      have progress := socket.progress o.calls buf.length (Nat.pos_of_ne_zero done)
      have sent : send socket buf o = .ok (socket.accepts o.calls buf.length)
          ⟨o.calls + 1, o.accepted ++ [buf.take (socket.accepts o.calls buf.length)]⟩ := rfl
      rw [bind_of_ok sent, dif_neg (by omega)]
      generalize socket.accepts o.calls buf.length = r at progress
      obtain ⟨o', rest_sent, bytes⟩ :=
        ih _ (by omega) (buf.drop r)
          ⟨o.calls + 1, o.accepted ++ [buf.take r]⟩ List.length_drop
      refine ⟨o', rest_sent, ?_⟩
      rw [bytes, Outgoing.bytes, Outgoing.bytes, List.flatten_append, List.flatten_singleton,
        List.append_assoc, List.take_append_drop]

theorem writeFrame_sends (type : FrameType) {payload : List UInt8}
    (bound : payload.length ≤ kMaxPayload) (o : Outgoing) :
    ∃ o', writeFrame socket type payload o = .ok true o' ∧
      o'.bytes = o.bytes ++ frameBytes type payload := by
  rw [writeFrame, encode_eq type bound]
  exact sendN_sends socket (frameBytes type payload) o

theorem writeFrames_sends {frames : List (FrameType × List UInt8)}
    (bounded : ∀ frame ∈ frames, frame.2.length ≤ kMaxPayload) (o : Outgoing) :
    ∃ o', writeFrames socket frames o = .ok (frames.map fun _ => true) o' ∧
      o'.bytes = o.bytes ++ wireBytes frames := by
  induction frames generalizing o with
  | nil => exact ⟨o, rfl, (List.append_nil o.bytes).symm⟩
  | cons frame more ih =>
      obtain ⟨bound, others_bounded⟩ := List.forall_mem_cons.mp bounded
      obtain ⟨o₁, sent, bytes₁⟩ := writeFrame_sends socket frame.1 bound o
      obtain ⟨o₂, others, bytes₂⟩ := ih others_bounded o₁
      refine ⟨o₂, ?_, ?_⟩
      · rw [writeFrames, bind_of_ok sent, bind_of_ok others]
        rfl
      · rw [bytes₂, bytes₁, List.append_assoc]
        rfl

end Sending

/-! ## Receiving -/

/-- Repeated `recv_frame` calls; each probe says whether something has arrived by then. -/
def recvFrames (s : Stream) : List Bool → Turn (List RecvResult × Stream)
  | [] => return ([], s)
  | arrived :: probes => do
      let (result, rest) ← recvFrame s arrived
      let (results, last) ← recvFrames rest probes
      return (result :: results, last)

def RecvResult.isTimeout : RecvResult → Bool
  | .timeout => true
  | _ => false

/-- The frame that is received for what was written. -/
def received (frame : FrameType × List UInt8) : Frame := ⟨frame.1, frame.2, crc32 frame.2⟩

theorem recvFrame_idle (s : Stream) : recvFrame s false = .returns (.timeout, s) :=
  rfl

theorem waitReadable_closed {s : Stream} (closed : s.ending = .closed) :
    waitReadable s true = true := by
  rw [waitReadable, closed]
  simp

/-- The two reads of a header and the read of a payload get exactly one frame. -/
theorem recvFrame_of_framed {s : Stream} {type : FrameType} {payload more : List UInt8}
    (next : Framed s.bytes type payload more) :
    ∃ rest, recvFrame s true = .returns (.ok (received (type, payload)), rest) ∧
      rest.bytes = more ∧ rest.ending = s.ending := by
  have decoded : decode (frameBytes type payload) = .ok (received (type, payload)) :=
    decode_eq_ok_iff.mpr ⟨next.bound, rfl, rfl⟩
  have readable : waitReadable s true = true := by
    have some : s.bytes ≠ [] := by
      intro nothing
      have length := next.length
      rw [nothing] at length
      have size : kHeaderSize = 16 := rfl
      rw [List.length_nil] at length
      omega
    simp [waitReadable, some]
  have outcome := recvFrame_outcome readable
  generalize recvFrame s true = turn at outcome ⊢
  cases outcome with
  | gone ended short lost => exact absurd short next.not_short
  | stuck silent short => exact absurd short next.not_short
  | tooLarge headed large =>
      have bound := next.bound
      rw [next.declares] at large
      omega
  | malformed advances complete refused =>
      rw [(next.split advances.bytes complete).1, decoded] at refused
      cases refused
  | @received frame data rest advances other =>
      obtain ⟨bound, -, rfl⟩ := decode_eq_ok_iff.mp other
      have begins : Framed s.bytes frame.type frame.payload rest.bytes := ⟨advances.bytes, bound⟩
      obtain ⟨same, behind⟩ :=
        next.split advances.bytes (by rw [length_frameBytes, begins.declares])
      rw [same, decoded] at other
      cases other
      exact ⟨rest, rfl, behind, advances.ending⟩

/-- A frame that is received is the first one of the stream. -/
theorem framed_of_recvFrame {s rest : Stream} {arrived : Bool} {frame : Frame}
    (returned : recvFrame s arrived = .returns (.ok frame, rest)) :
    Framed s.bytes frame.type frame.payload rest.bytes := by
  cases readable : waitReadable s arrived with
  | false =>
      rw [recvFrame, readable] at returned
      cases returned
  | true =>
      have outcome := recvFrame_outcome readable
      rw [returned] at outcome
      cases outcome with
      | gone ended short lost => rcases lost with lost | lost <;> cases lost
      | received advances decoded =>
          obtain ⟨bound, -, data⟩ := decode_eq_ok_iff.mp decoded
          exact ⟨data ▸ advances.bytes, bound⟩

/-- Behind the last byte the end is seen. -/
theorem recvFrame_closed {s : Stream} (behind : s.bytes = []) (closed : s.ending = .closed) :
    recvFrame s true = .returns (.closed, s) := by
  have eof : recv kHeaderSize s = .eof := by
    rcases recv_cases (by decide : 0 < kHeaderSize) s with
      ⟨data, rest, -, advances, some, -⟩ | ⟨-, nothing⟩
    · exfalso
      rw [advances.bytes, List.append_eq_nil_iff] at behind
      rw [behind.1] at some
      exact absurd some (lt_irrefl 0)
    · rw [nothing, closed]
      rfl
  rw [recvFrame, waitReadable_closed closed, eof]
  rfl

theorem timeout_consumes_nothing {s rest : Stream} {arrived : Bool}
    (returned : recvFrame s arrived = .returns (.timeout, rest)) : rest = s := by
  cases readable : waitReadable s arrived with
  | false =>
      rw [recvFrame, readable] at returned
      cases returned
      rfl
  | true =>
      have outcome := recvFrame_outcome readable
      rw [returned] at outcome
      cases outcome with
      | gone ended short lost => rcases lost with closed | err <;> contradiction

theorem recvFrames_cons {s middle last : Stream} {arrived : Bool} {probes : List Bool}
    {result : RecvResult} {results : List RecvResult}
    (first : recvFrame s arrived = .returns (result, middle))
    (others : recvFrames middle probes = .returns (results, last)) :
    recvFrames s (arrived :: probes) = .returns (result :: results, last) := by
  rw [recvFrames, first, Turn.returns_bind]
  simp only [others, Turn.returns_bind, Turn.pure_eq]

/-- What `k` calls return that find the socket readable: the frames, and then that it is closed. -/
def delivered (frames : List (FrameType × List UInt8)) (k : Nat) : List RecvResult :=
  (frames.map fun frame => .ok (received frame)).take k ++
    List.replicate (k - frames.length) .closed

theorem delivered_nil_succ (k : Nat) :
    delivered [] (k + 1) = .closed :: delivered [] k := by
  simp [delivered, List.replicate_succ]

theorem delivered_cons_succ (frame : FrameType × List UInt8)
    (more : List (FrameType × List UInt8)) (k : Nat) :
    delivered (frame :: more) (k + 1) = .ok (received frame) :: delivered more k := by
  simp [delivered]

/-- How the calls on a stream of frames end. -/
structure Delivers (frames : List (FrameType × List UInt8)) (probes : List Bool)
    (results : List RecvResult) (rest : Stream) : Prop where
  idle : results.map RecvResult.isTimeout = probes.map not
  others : results.filter (fun result => !result.isTimeout) = delivered frames (probes.count true)
  left : rest.bytes = wireBytes (frames.drop (probes.count true))

/-- The induction is on the calls: each takes one frame off the stream, or nothing. -/
theorem recvFrames_framed {frames : List (FrameType × List UInt8)}
    (bounded : ∀ frame ∈ frames, frame.2.length ≤ kMaxPayload) {s : Stream}
    (bytes : s.bytes = wireBytes frames) (closed : s.ending = .closed) (probes : List Bool) :
    ∃ results rest, recvFrames s probes = .returns (results, rest) ∧
      Delivers frames probes results rest := by
  induction probes generalizing frames s with
  | nil => exact ⟨[], s, rfl, rfl, by simp [delivered], bytes⟩
  | cons arrived probes ih =>
      cases arrived with
      | false =>
          obtain ⟨results, rest, returned, delivers⟩ := ih bounded bytes closed
          refine ⟨_, rest, recvFrames_cons (recvFrame_idle s) returned, ?_, ?_, ?_⟩
          · exact congrArg (true :: ·) delivers.idle
          · rw [List.count_cons_of_ne (by decide), ← delivers.others]
            rfl
          · rw [List.count_cons_of_ne (by decide), delivers.left]
      | true =>
          cases frames with
          | nil =>
              obtain ⟨results, rest, returned, delivers⟩ := ih bounded bytes closed
              have first := recvFrame_closed bytes closed
              refine ⟨_, rest, recvFrames_cons first returned, ?_, ?_, ?_⟩
              · exact congrArg (false :: ·) delivers.idle
              · rw [List.count_cons_self, delivered_nil_succ, ← delivers.others]
                rfl
              · rw [delivers.left, List.drop_nil, List.drop_nil]
          | cons frame more =>
              obtain ⟨bound, others_bounded⟩ := List.forall_mem_cons.mp bounded
              have next : Framed s.bytes frame.1 frame.2 (wireBytes more) := ⟨bytes, bound⟩
              obtain ⟨behind, first, bytes', ending⟩ := recvFrame_of_framed next
              obtain ⟨results, rest, returned, delivers⟩ :=
                ih others_bounded bytes' (ending.trans closed)
              refine ⟨_, rest, recvFrames_cons first returned, ?_, ?_, ?_⟩
              · exact congrArg (false :: ·) delivers.idle
              · rw [List.count_cons_self, delivered_cons_succ, ← delivers.others]
                rfl
              · rw [List.count_cons_self, delivers.left]
                rfl

/--
Frames survive any segmentation.  However much each `send` accepts, however the bytes
are cut on the way, and whenever a probe finds the socket idle, the calls return the
frames in order and then that the peer is closed.  Between them are only timeouts, and
these take nothing.
-/
theorem frames_survive (socket : Acceptance) (frames : List (FrameType × List UInt8))
    (bounded : ∀ frame ∈ frames, frame.2.length ≤ kMaxPayload) :
    (∃ sent, writeFrames socket frames {} = .ok (frames.map fun _ => true) sent ∧
      ∀ s : Stream, s.bytes = sent.bytes → s.ending = .closed → ∀ probes : List Bool,
        ∃ results rest, recvFrames s probes = .returns (results, rest) ∧
          results.map RecvResult.isTimeout = probes.map not ∧
          results.filter (fun result => !result.isTimeout) =
            (frames.map fun frame => .ok (received frame)).take (probes.count true) ++
              List.replicate (probes.count true - frames.length) .closed ∧
          rest.bytes = wireBytes (frames.drop (probes.count true))) ∧
    ∀ (s rest : Stream) (arrived : Bool),
      recvFrame s arrived = .returns (.timeout, rest) → rest = s := by
  refine ⟨?_, fun s rest arrived => timeout_consumes_nothing⟩
  obtain ⟨sent, written, bytes⟩ := writeFrames_sends socket bounded {}
  refine ⟨sent, written, fun s arrives closed probes => ?_⟩
  obtain ⟨results, rest, returned, delivers⟩ :=
    recvFrames_framed bounded (arrives.trans bytes) closed probes
  exact ⟨results, rest, returned, delivers.idle, delivers.others, delivers.left⟩

/-- A `send` that accepts one byte at a time. -/
def bytewise : Acceptance where
  accepts := fun _ n => min n 1
  progress := fun _ n some => by omega
  within := fun _ n => by omega

/-- A ping and a command, each sent byte by byte, with one idle probe between them. -/
theorem frames_survive_bytewise :
    ∃ sent, writeFrames bytewise [(.declared .ping, []), (.declared .command, [1, 2])] {} =
        .ok [true, true] sent ∧
      ∀ s : Stream, s.bytes = sent.bytes → s.ending = .closed →
        ∃ results rest, recvFrames s [true, false, true, true] = .returns (results, rest) ∧
          results.filter (fun result => !result.isTimeout) =
            [.ok (received (.declared .ping, [])), .ok (received (.declared .command, [1, 2])),
              .closed] := by
  obtain ⟨⟨sent, written, reads⟩, -⟩ :=
    frames_survive bytewise [(.declared .ping, []), (.declared .command, [1, 2])] (by decide)
  refine ⟨sent, written, fun s arrives closed => ?_⟩
  obtain ⟨results, rest, returned, -, others, -⟩ :=
    reads s arrives closed [true, false, true, true]
  exact ⟨results, rest, returned, others⟩

end DPUFabric.Mp
