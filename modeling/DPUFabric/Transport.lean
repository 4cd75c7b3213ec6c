import DPUFabric.Protocol

/-!
# Frames on a socket

The peer of a socket sends bytes, which arrive in segments of any size, and then
closes the connection, resets it, or stays silent.  `Stream` is what is still to
come.  A read may wait for bytes, so a call returns, throws, or blocks for ever.

What a read returns depends on the bytes and on how they end, not on the segments.

A write may fail, or wait for ever for a peer that does not read.  The sockets are
written to without `MSG_NOSIGNAL`, so that one to a peer that is gone may also raise
`SIGPIPE`, which ends the process.
-/

namespace DPUFabric.Mp

open Exceptions
open Grammar
open DPUFabric.Wire
open DPUFabric.Persistence
open DPUFabric.Proto

/-! ## Streams -/

/-- What a peer does after its last byte. -/
inductive Ending where
  | silent | closed | reset
deriving DecidableEq, Repr

/-- What is still to come from a peer. -/
structure Stream where
  segments : List (List UInt8)
  ending : Ending

def Stream.bytes (s : Stream) : List UInt8 := s.segments.flatten

/-- The first bytes of one stream are these, and the rest of it is another stream. -/
structure Stream.Advances (s : Stream) (data : List UInt8) (rest : Stream) : Prop where
  bytes : s.bytes = data ++ rest.bytes
  ending : rest.ending = s.ending

theorem Stream.Advances.refl (s : Stream) : s.Advances [] s :=
  ⟨rfl, rfl⟩

theorem Stream.Advances.trans {first second third : Stream} {data data' : List UInt8}
    (begun : first.Advances data second) (continued : second.Advances data' third) :
    first.Advances (data ++ data') third where
  bytes := by rw [begun.bytes, continued.bytes, List.append_assoc]
  ending := continued.ending.trans begun.ending

/-! ## Calls that may wait -/

/-- How a call ends that depends on a peer; a signal ends the process. -/
inductive Turn (α : Type) where
  | returns (value : α)
  | throws (fault : Fault)
  | blocks
  | signalled

namespace Turn

def bind {α β : Type} (turn : Turn α) (next : α → Turn β) : Turn β :=
  match turn with
  | returns value => next value
  | throws fault => throws fault
  | blocks => blocks
  | signalled => signalled

instance : Monad Turn where
  pure := returns
  bind := bind

@[simp]
theorem pure_eq {α : Type} (value : α) : (pure value : Turn α) = returns value :=
  rfl

@[simp]
theorem returns_bind {α β : Type} (value : α) (next : α → Turn β) :
    returns value >>= next = next value :=
  rfl

@[simp]
theorem throws_bind {α β : Type} (fault : Fault) (next : α → Turn β) :
    throws fault >>= next = throws fault :=
  rfl

@[simp]
theorem blocks_bind {α β : Type} (next : α → Turn β) : blocks >>= next = blocks :=
  rfl

@[simp]
theorem signalled_bind {α β : Type} (next : α → Turn β) : signalled >>= next = signalled :=
  rfl

/-- Two calls have returned if they have together. -/
theorem bind_eq_returns {α β : Type} {turn : Turn α} {next : α → Turn β} {value : β}
    (returned : turn >>= next = returns value) :
    ∃ middle, turn = returns middle ∧ next middle = returns value := by
  cases turn with
  | returns middle => exact ⟨middle, rfl, returned⟩
  | throws fault => cases returned
  | blocks => cases returned
  | signalled => cases returned

end Turn

/-! ## Reads -/

/-- How one `recv` ends: with some bytes, with 0, or with -1. -/
inductive Received where
  | bytes (data : List UInt8) (rest : Stream)
  | eof
  | failed
  | blocks

/-- A read behind the last byte. -/
def Ending.received : Ending → Received
  | silent => .blocks
  | closed => .eof
  | reset => .failed

/-- `recv(sock, buf, n, 0)`: as much of the next segment as fits. -/
def recvSegments (n : Nat) (ending : Ending) : List (List UInt8) → Received
  | [] => ending.received
  | [] :: more => recvSegments n ending more
  | (byte :: bytes) :: more =>
      .bytes ((byte :: bytes).take n) ⟨(byte :: bytes).drop n :: more, ending⟩

def recv (n : Nat) (s : Stream) : Received := recvSegments n s.ending s.segments

/-- A read gets between 1 and `n` of the next bytes, or there are none. -/
theorem recv_cases {n : Nat} (positive : 0 < n) (s : Stream) :
    (∃ data rest, recv n s = .bytes data rest ∧ s.Advances data rest ∧
        0 < data.length ∧ data.length ≤ n) ∨
      s.bytes = [] ∧ recv n s = s.ending.received := by
  obtain ⟨segments, ending⟩ := s
  induction segments with
  | nil => exact Or.inr ⟨rfl, rfl⟩
  | cons segment more ih =>
      cases segment with
      | nil =>
          rcases ih with ⟨data, rest, received, advances, some, few⟩ | ⟨nothing, received⟩
          · exact Or.inl ⟨data, rest, received, ⟨advances.bytes, advances.ending⟩, some, few⟩
          · exact Or.inr ⟨nothing, received⟩
      | cons byte bytes =>
          refine Or.inl ⟨_, _, rfl, ⟨?_, rfl⟩, ?_, ?_⟩
          · simp [Stream.bytes, ← List.append_assoc]
          · rw [List.length_take, List.length_cons]
            omega
          · rw [List.length_take]
            omega

theorem recv_bytes {n : Nat} (positive : 0 < n) {s rest : Stream} {data : List UInt8}
    (received : recv n s = .bytes data rest) :
    s.Advances data rest ∧ 0 < data.length ∧ data.length ≤ n := by
  rcases recv_cases positive s with ⟨data', rest', received', facts⟩ | ⟨-, nothing⟩
  · cases received.symm.trans received'
    exact facts
  · exfalso
    rw [received] at nothing
    cases ended : s.ending <;> rw [ended] at nothing <;> cases nothing

/-- A read that gets nothing is behind the last byte. -/
theorem recv_nothing {n : Nat} (positive : 0 < n) {s : Stream} (ending : Ending)
    (nothing : recv n s = ending.received) : s.bytes = [] ∧ s.ending = ending := by
  rcases recv_cases positive s with ⟨data, rest, received, -⟩ | ⟨behind, received⟩
  · rw [received] at nothing
    cases ending <;> cases nothing
  · rw [received] at nothing
    refine ⟨behind, ?_⟩
    cases was : s.ending <;> cases ending <;> rw [was] at nothing <;> first | rfl | cases nothing

/-- `recv_n` without a timeout: `none` for false, else the bytes. -/
def recvN (n : Nat) (s : Stream) : Turn (Option (List UInt8 × Stream)) :=
  if _ : n = 0 then return some ([], s)
  else
    match _ : recv n s with
    | .bytes data rest => do
        match ← recvN (n - data.length) rest with
        | some (more, last) => return some (data ++ more, last)
        | none => return none
    | .eof => return none
    | .failed => return none
    | .blocks => .blocks
termination_by n
decreasing_by
  rename_i enough received
  have progress := (recv_bytes (Nat.pos_of_ne_zero enough) received).2
  omega

theorem recvN_zero (s : Stream) : recvN 0 s = .returns (some ([], s)) := by
  rw [recvN]
  rfl

/-- How a read of `n` bytes ends. -/
inductive RecvNOutcome (n : Nat) (s : Stream) : Turn (Option (List UInt8 × Stream)) → Prop
  | full {data : List UInt8} {rest : Stream} (length : data.length = n)
      (advances : s.Advances data rest) : RecvNOutcome n s (.returns (some (data, rest)))
  | gone (short : s.bytes.length < n) (ended : s.ending ≠ .silent) :
      RecvNOutcome n s (.returns none)
  | stuck (short : s.bytes.length < n) (silent : s.ending = .silent) : RecvNOutcome n s .blocks

theorem recvN_outcome (n : Nat) (s : Stream) : RecvNOutcome n s (recvN n s) := by
  induction n using Nat.strong_induction_on generalizing s with
  | _ n ih =>
      rw [recvN]
      split_ifs with enough
      · exact .full enough.symm (.refl s)
      have positive := Nat.pos_of_ne_zero enough
      split
      · rename_i data rest received
        obtain ⟨advances, some, few⟩ := recv_bytes positive received
        have length : s.bytes.length = data.length + rest.bytes.length := by
          rw [advances.bytes, List.length_append]
        have later := ih (n - data.length) (by omega) rest
        generalize recvN (n - data.length) rest = turn at later
        cases later with
        | full more continued =>
            exact .full (by rw [List.length_append, more]; omega) (advances.trans continued)
        | gone short ended => exact .gone (by omega) (advances.ending ▸ ended)
        | stuck short silent => exact .stuck (by omega) (advances.ending ▸ silent)
      · rename_i received
        obtain ⟨behind, ended⟩ := recv_nothing positive .closed received
        exact .gone (by rw [behind]; exact positive) (by rw [ended]; decide)
      · rename_i received
        obtain ⟨behind, ended⟩ := recv_nothing positive .reset received
        exact .gone (by rw [behind]; exact positive) (by rw [ended]; decide)
      · rename_i received
        obtain ⟨behind, silent⟩ := recv_nothing positive .silent received
        exact .stuck (by rw [behind]; exact positive) silent

/-! ## Frames -/

/-- `wait_readable` without a timeout: a byte or the end has arrived by now. -/
def waitReadable (s : Stream) (arrived : Bool) : Bool :=
  arrived && !(s.bytes.isEmpty && s.ending == .silent)

inductive RecvResult where
  | ok (frame : Frame)
  | timeout | closed | err

/-- The payload length in the 16 bytes of a header. -/
def readPayloadLength : ReaderM UInt32 := do
  let _ ← u32
  let _ ← u16
  let _ ← u16
  let plen ← u32
  let _ ← u32
  return plen

/-- The second half of `recv_frame`, behind the header. -/
def recvPayload (hdr : List UInt8) (s : Stream) : Turn (RecvResult × Stream) :=
  match readPayloadLength hdr with
  | .error fault _ => .throws fault
  | .ok plen _ =>
      if plen.toNat > kMaxPayload then
        .throws (.error .frameTooLarge "frame payload over bound")
      else do
        match ← recvN plen.toNat s with
        | none => return (.closed, s)
        | some (payload, rest) =>
            match decode (hdr ++ payload) with
            | .error fault => .throws fault
            | .ok frame => return (.ok frame, rest)

/-- `recv_frame` without a timeout, and what it leaves of the stream. -/
def recvFrame (s : Stream) (arrived : Bool) : Turn (RecvResult × Stream) :=
  if !waitReadable s arrived then return (.timeout, s)
  else
    match recv kHeaderSize s with
    | .eof => return (.closed, s)
    | .failed => return (.err, s)
    | .blocks => .blocks
    | .bytes first rest => do
        -- A partial header: the remainder is read without a timeout.
        match ← recvN (kHeaderSize - first.length) rest with
        | none => return (.closed, rest)
        | some (remainder, rest) => recvPayload (first ++ remainder) rest

/-- The payload length that a header declares. -/
def declaredLength (bytes : List UInt8) : Nat := littleEndian ((bytes.drop 8).take 4)

/-- The bytes end before the frame that they begin. -/
def Short (bytes : List UInt8) : Prop :=
  bytes.length < kHeaderSize ∨
    declaredLength bytes ≤ kMaxPayload ∧ bytes.length < kHeaderSize + declaredLength bytes

theorem readPayloadLength_eq {hdr : List UInt8} (length : hdr.length = kHeaderSize) :
    ∃ plen rest, readPayloadLength hdr = .ok plen rest ∧ plen.toNat = declaredLength hdr := by
  match hdr, length with
  | [m₀, m₁, m₂, m₃, v₀, v₁, t₀, t₁, l₀, l₁, l₂, l₃, c₀, c₁, c₂, c₃], _ =>
      refine ⟨UInt32.ofNat (littleEndian [l₀, l₁, l₂, l₃]), [], ?_, toNat_littleEndian rfl⟩
      unfold readPayloadLength
      refine bind_eq_ok_iff.mpr ⟨_, _, u32_append [m₀, m₁, m₂, m₃] rfl, ?_⟩
      refine bind_eq_ok_iff.mpr ⟨_, _, u16_append [v₀, v₁] rfl, ?_⟩
      refine bind_eq_ok_iff.mpr ⟨_, _, u16_append [t₀, t₁] rfl, ?_⟩
      refine bind_eq_ok_iff.mpr ⟨_, _, u32_append [l₀, l₁, l₂, l₃] rfl, ?_⟩
      exact bind_eq_ok_iff.mpr ⟨_, _, u32_append [c₀, c₁, c₂, c₃] rfl, rfl⟩

/-- Only the header counts. -/
theorem declaredLength_append {hdr : List UInt8} (length : hdr.length = kHeaderSize)
    (more : List UInt8) : declaredLength (hdr ++ more) = declaredLength hdr := by
  have size : kHeaderSize = 16 := rfl
  unfold declaredLength
  rw [List.drop_append_of_le_length (by omega),
    List.take_append_of_le_length (by rw [List.length_drop]; omega)]

theorem declaredLength_frameBytes (type : FrameType) {payload : List UInt8}
    (bound : payload.length ≤ kMaxPayload) (rest : List UInt8) :
    declaredLength (frameBytes type payload ++ rest) = payload.length := by
  have limit : kMaxPayload < 2 ^ 32 := by decide
  rw [frameBytes, List.append_assoc, declaredLength_append (length_header type payload)]
  show littleEndian (le32 (UInt32.ofNat payload.length)) = payload.length
  rw [littleEndian_le32, UInt32.toNat_ofNat', Nat.mod_eq_of_lt (by omega)]

/-- The bytes begin with a frame. -/
structure Framed (bytes : List UInt8) (type : FrameType) (payload rest : List UInt8) : Prop where
  framed : bytes = frameBytes type payload ++ rest
  bound : payload.length ≤ kMaxPayload

namespace Framed

variable {bytes : List UInt8} {type : FrameType} {payload rest : List UInt8}

theorem declares (next : Framed bytes type payload rest) :
    declaredLength bytes = payload.length := by
  rw [next.framed, declaredLength_frameBytes type next.bound]

theorem length (next : Framed bytes type payload rest) :
    bytes.length = kHeaderSize + payload.length + rest.length := by
  rw [next.framed, List.length_append, length_frameBytes]

theorem not_short (next : Framed bytes type payload rest) : ¬ Short bytes := by
  have declares := next.declares
  have length := next.length
  rintro (headless | ⟨-, cut⟩)
  · omega
  · omega

/-- The bytes decide where the frame ends. -/
theorem split (next : Framed bytes type payload rest) {data more : List UInt8}
    (split : bytes = data ++ more)
    (complete : data.length = kHeaderSize + declaredLength bytes) :
    data = frameBytes type payload ∧ more = rest := by
  have framed := next.framed
  rw [split] at framed
  exact List.append_inj framed (by rw [complete, next.declares, length_frameBytes])

end Framed

/-- How a frame is received from a stream that is readable. -/
inductive FrameOutcome (s : Stream) : Turn (RecvResult × Stream) → Prop
  | gone {result : RecvResult} {rest : Stream} (ended : s.ending ≠ .silent)
      (short : Short s.bytes) (lost : result = .closed ∨ result = .err) :
      FrameOutcome s (.returns (result, rest))
  | stuck (silent : s.ending = .silent) (short : Short s.bytes) : FrameOutcome s .blocks
  | tooLarge (headed : kHeaderSize ≤ s.bytes.length)
      (large : kMaxPayload < declaredLength s.bytes) :
      FrameOutcome s (.throws (.error .frameTooLarge "frame payload over bound"))
  | malformed {fault : Fault} {data : List UInt8} {rest : Stream} (advances : s.Advances data rest)
      (complete : data.length = kHeaderSize + declaredLength s.bytes)
      (refused : decode data = .error fault) : FrameOutcome s (.throws fault)
  | received {frame : Frame} {data : List UInt8} {rest : Stream} (advances : s.Advances data rest)
      (decoded : decode data = .ok frame) : FrameOutcome s (.returns (.ok frame, rest))

theorem recvPayload_outcome {s begun : Stream} {hdr : List UInt8}
    (advances : s.Advances hdr begun) (length : hdr.length = kHeaderSize) :
    FrameOutcome s (recvPayload hdr begun) := by
  have declared : declaredLength s.bytes = declaredLength hdr := by
    rw [advances.bytes, declaredLength_append length]
  have counted : s.bytes.length = kHeaderSize + begun.bytes.length := by
    rw [advances.bytes, List.length_append, length]
  obtain ⟨plen, rest, read, width⟩ := readPayloadLength_eq length
  rw [recvPayload, read]
  simp only
  split_ifs with large
  · exact .tooLarge (by omega) (by omega)
  have outcome := recvN_outcome plen.toNat begun
  generalize recvN plen.toNat begun = turn at outcome ⊢
  cases outcome with
  | gone short ended =>
      exact .gone (advances.ending ▸ ended) (Or.inr ⟨by omega, by omega⟩) (Or.inl rfl)
  | stuck short silent =>
      exact .stuck (advances.ending ▸ silent) (Or.inr ⟨by omega, by omega⟩)
  | @full payload rest held continued =>
      have whole := advances.trans continued
      rw [Turn.returns_bind]
      simp only
      cases decoded : decode (hdr ++ payload) with
      | error fault =>
          exact .malformed whole (by rw [List.length_append]; omega) decoded
      | ok frame => exact .received whole decoded

theorem recvFrame_outcome {s : Stream} {arrived : Bool}
    (readable : waitReadable s arrived = true) : FrameOutcome s (recvFrame s arrived) := by
  have size : kHeaderSize = 16 := rfl
  rw [recvFrame, readable]
  simp only [Bool.not_true, Bool.false_eq_true, if_false]
  cases received : recv kHeaderSize s with
  | eof =>
      obtain ⟨behind, ended⟩ := recv_nothing (by decide) .closed received
      exact .gone (by rw [ended]; decide) (Or.inl (by rw [behind]; decide)) (Or.inl rfl)
  | failed =>
      obtain ⟨behind, ended⟩ := recv_nothing (by decide) .reset received
      exact .gone (by rw [ended]; decide) (Or.inl (by rw [behind]; decide)) (Or.inr rfl)
  | blocks =>
      obtain ⟨behind, silent⟩ := recv_nothing (by decide) .silent received
      exact .stuck silent (Or.inl (by rw [behind]; decide))
  | bytes first begun =>
      obtain ⟨advances, -, few⟩ := recv_bytes (by decide) received
      have counted : s.bytes.length = first.length + begun.bytes.length := by
        rw [advances.bytes, List.length_append]
      have outcome := recvN_outcome (kHeaderSize - first.length) begun
      simp only
      generalize recvN (kHeaderSize - first.length) begun = turn at outcome ⊢
      cases outcome with
      | gone short ended =>
          exact .gone (advances.ending ▸ ended) (Or.inl (by omega)) (Or.inl rfl)
      | stuck short silent => exact .stuck (advances.ending ▸ silent) (Or.inl (by omega))
      | @full remainder rest length continued =>
          exact recvPayload_outcome (advances.trans continued)
            (by rw [List.length_append, length]; omega)

/-! ## Writes -/

/-- How `send_n` ends: with true, with false, in `SIGPIPE`, or never. -/
inductive Sending where
  | sent | failed | signalled | stuck
deriving DecidableEq, Repr

def Sending.returns : Sending → Bool
  | sent => true
  | failed => true
  | signalled => false
  | stuck => false

/--
What is taken of frames that are written one after another, each in full unless the
list says otherwise.  A frame whose write has failed is lost: its peer is gone, and at
most a part of it is on the way.
-/
def transmit {α : Type} : List α → List Sending → Turn (List α)
  | [], _ => return []
  | frames, [] => return frames
  | frame :: frames, .sent :: sends => do return frame :: (← transmit frames sends)
  | _ :: frames, .failed :: sends => transmit frames sends
  | _ :: _, .signalled :: _ => .signalled
  | _ :: _, .stuck :: _ => .blocks

section Transmit

variable {α : Type}

@[simp]
theorem transmit_nil (frames : List α) : transmit frames [] = .returns frames := by
  cases frames <;> rfl

/-- The writes return together if each of them does. -/
theorem transmit_returns_iff (frames : List α) (sends : List Sending) :
    (∃ taken, transmit frames sends = .returns taken) ↔
      ∀ write ∈ frames.zip sends, write.2.returns = true := by
  induction frames generalizing sends with
  | nil => exact iff_of_true ⟨[], rfl⟩ (by simp)
  | cons frame frames ih =>
      cases sends with
      | nil => exact iff_of_true ⟨frame :: frames, rfl⟩ (by simp)
      | cons sending sends =>
          have others := ih sends
          rw [List.zip_cons_cons, List.forall_mem_cons]
          cases sending with
          | sent =>
              constructor
              · rintro ⟨taken, returned⟩
                obtain ⟨more, later, -⟩ := Turn.bind_eq_returns returned
                exact ⟨rfl, others.mp ⟨more, later⟩⟩
              · rintro ⟨-, all⟩
                obtain ⟨more, later⟩ := others.mpr all
                refine ⟨frame :: more, ?_⟩
                rw [transmit, later]
                rfl
          | failed =>
              rw [transmit, others]
              exact ⟨fun all => ⟨rfl, all⟩, fun all => all.2⟩
          | signalled =>
              refine iff_of_false ?_ fun all => by cases all.1
              rintro ⟨taken, returned⟩
              cases returned
          | stuck =>
              refine iff_of_false ?_ fun all => by cases all.1
              rintro ⟨taken, returned⟩
              cases returned

/-- Of the frames whose writes succeed none is lost. -/
theorem transmit_filter {keep : α → Bool} {frames taken : List α} {sends : List Sending}
    (succeed : ∀ write ∈ frames.zip sends, keep write.1 = true → write.2 = .sent)
    (returned : transmit frames sends = .returns taken) :
    taken.filter keep = frames.filter keep := by
  induction frames generalizing sends taken with
  | nil =>
      cases returned
      rfl
  | cons frame frames ih =>
      cases sends with
      | nil =>
          cases returned
          rfl
      | cons sending sends =>
          rw [List.zip_cons_cons, List.forall_mem_cons] at succeed
          obtain ⟨now, later⟩ := succeed
          cases sending with
          | sent =>
              obtain ⟨more, transmitted, same⟩ := Turn.bind_eq_returns returned
              cases same
              rw [List.filter_cons, List.filter_cons, ih later transmitted]
          | failed =>
              have dropped : ¬ keep frame = true := fun kept => by cases now kept
              rw [List.filter_cons_of_neg dropped]
              exact ih later returned
          | signalled => cases returned
          | stuck => cases returned

end Transmit

end DPUFabric.Mp
