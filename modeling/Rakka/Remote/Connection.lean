import Rakka.Foundation.Framing
import Rakka.Remote.Endpoint

/-! One inbound connection: frames on a stream of bytes, and the task that serves it. After the
handshake the task reads frame after frame and hands the envelopes to the endpoint. -/

namespace Rakka.Remote
open Foundation List
variable {bytes payload : List UInt8} {maxFrameBytes : ℕ} {kind : FrameKind}

inductive FrameKind where
  | handshake
  | envelope
  | close
  deriving DecidableEq, Repr

inductive TcpRemoteTransportError where
  | closedBeforeHandshake
  | invalidFrame (message : String)
  | invalidHandshake (message : String)
  | io (message : String)
  | envelope
  | endpoint (error : RemoteEndpointError)
  deriving DecidableEq, Repr

namespace FrameKind

def tag : FrameKind → UInt8
  | .handshake => 1
  | .envelope => 2
  | .close => 3

def fromTag (tag : UInt8) : Except TcpRemoteTransportError FrameKind :=
  if tag = 1 then .ok .handshake
  else if tag = 2 then .ok .envelope
  else if tag = 3 then .ok .close
  else .error (.invalidFrame s!"unknown frame kind {tag}")

def debugName : FrameKind → String
  | .handshake => "Handshake"
  | .envelope => "Envelope"
  | .close => "Close"

lemma fromTag_tag (kind : FrameKind) : fromTag kind.tag = .ok kind := by
  cases kind <;> rfl

end FrameKind

structure Frame where
  kind : FrameKind
  payload : List UInt8
  deriving DecidableEq, Repr

def writeFrame (kind : FrameKind) (payload : List UInt8) :
    Except TcpRemoteTransportError (List UInt8) :=
  if payload.length + 1 < 2 ^ 32 then .ok (lengthPrefixed (kind.tag :: payload))
  else .error (.invalidFrame "frame payload is too large")

inductive ReadOutcome where
  | blocked
  | ended
  | failed (error : TcpRemoteTransportError)
  | frame (frame : Frame) (rest : List UInt8)
  deriving DecidableEq, Repr

def readFrame (maxFrameBytes : ℕ) (closed : Bool) (bytes : List UInt8) : ReadOutcome :=
  match readLength bytes with
  | none => if closed then .ended else .blocked
  | some (len, rest) =>
    if len = 0 ∨ maxFrameBytes < len then
      .failed (.invalidFrame s!"frame length {len} exceeds allowed range 1..={maxFrameBytes}")
    else if rest.length < len then
      if closed then .failed (.io "early eof") else .blocked
    else
      match rest.take len with
      | [] => .blocked
      | tag :: payload =>
        match FrameKind.fromTag tag with
        | .error error => .failed error
        | .ok kind => .frame ⟨kind, payload⟩ (rest.drop len)

section
variable (hwrite : writeFrame kind payload = .ok bytes)
include hwrite

lemma of_writeFrame :
    (kind.tag :: payload).length < 2 ^ 32 ∧ lengthPrefixed (kind.tag :: payload) = bytes := by
  rw [writeFrame] at hwrite
  split_ifs at hwrite with hlength
  exact ⟨hlength, Except.ok.inj hwrite⟩

lemma readFrame_writeFrame (hsize : payload.length + 1 ≤ maxFrameBytes) (closed : Bool)
    (rest : List UInt8) :
    readFrame maxFrameBytes closed (bytes ++ rest) = .frame ⟨kind, payload⟩ rest := by
  obtain ⟨hshorter, rfl⟩ := of_writeFrame hwrite
  have hread := readLength_lengthPrefixed hshorter rest
  rw [readFrame, hread]
  dsimp only
  rw [if_neg (by simp only [length_cons]; omega),
    if_neg (by rw [length_append]; omega), take_left, drop_left]
  dsimp only
  rw [FrameKind.fromTag_tag]

lemma readFrame_cut {cut : List UInt8} (hcut : cut <+: bytes) (hproper : cut.length < bytes.length)
    (closed : Bool) :
    readFrame maxFrameBytes closed cut =
      if cut.length < 4 then if closed then .ended else .blocked
      else if maxFrameBytes < payload.length + 1 then .failed (.invalidFrame
        s!"frame length {payload.length + 1} exceeds allowed range 1..={maxFrameBytes}")
      else if closed then .failed (.io "early eof") else .blocked := by
  obtain ⟨hshorter, rfl⟩ := of_writeFrame hwrite
  rw [readFrame]
  rcases readLength_cut hshorter hcut hproper with ⟨hnone, hfew⟩ | ⟨rest, hrest, hshort, hmany⟩
  · rw [hnone, if_pos hfew]
  · rw [hrest, if_neg (Nat.not_lt.mpr hmany)]
    dsimp only
    rw [if_pos hshort]
    simp

lemma readFrame_oversized (hsize : maxFrameBytes < payload.length + 1) (closed : Bool)
    (rest : List UInt8) :
    ∃ error, readFrame maxFrameBytes closed (bytes ++ rest) = .failed error := by
  obtain ⟨hshorter, rfl⟩ := of_writeFrame hwrite
  rw [readFrame, readLength_lengthPrefixed hshorter rest]
  exact ⟨_, if_pos (.inr hsize)⟩

end

/-- The frames of a stream that ends, and what the last reading comes to. -/
def readFrames (maxFrameBytes : ℕ) : ℕ → List UInt8 → List Frame × ReadOutcome
  | 0, _ => ([], .blocked)
  | count + 1, bytes =>
    match readFrame maxFrameBytes true bytes with
    | .frame frame rest => (readFrames maxFrameBytes count rest).map (frame :: ·) id
    | outcome => ([], outcome)

inductive InboundPhase where
  | handshaking
  | serving
  | finished (result : Except TcpRemoteTransportError Unit)

structure InboundNode where
  maxFrameBytes : ℕ
  codec : EnvelopeCodec
  endpoint : RemoteEndpoint
  validatePeer : List UInt8 → Except TcpRemoteTransportError Unit

/-- An open connection: the bytes not yet read, where its task is, and the envelopes handed to the
endpoint. -/
structure Inbound where
  buffer : List UInt8
  phase : InboundPhase
  handed : List RemoteEnvelope

namespace Inbound

/-- One turn of `handle_inbound_connection`: the next frame is read and acted on. -/
def turn (node : InboundNode) (closed : Bool) (inbound : Inbound) : Inbound :=
  match inbound.phase with
  | .finished _ => inbound
  | .handshaking =>
    match readFrame node.maxFrameBytes closed inbound.buffer with
    | .blocked => inbound
    | .ended => { inbound with phase := .finished (.error .closedBeforeHandshake) }
    | .failed error => { inbound with phase := .finished (.error error) }
    | .frame frame rest =>
      if frame.kind = .handshake then
        match node.validatePeer frame.payload with
        | .ok () => { inbound with buffer := rest, phase := .serving }
        | .error error => { inbound with buffer := rest, phase := .finished (.error error) }
      else
        { inbound with
          buffer := rest
          phase := .finished (.error (.invalidFrame
            s!"expected handshake, got {frame.kind.debugName}")) }
  | .serving =>
    match readFrame node.maxFrameBytes closed inbound.buffer with
    | .blocked => inbound
    | .ended => { inbound with phase := .finished (.ok ()) }
    | .failed error => { inbound with phase := .finished (.error error) }
    | .frame frame rest =>
      match frame.kind with
      | .envelope =>
        let received := node.endpoint.receiveWire node.codec frame.payload
        { buffer := rest
          phase :=
            match received.2 with
            | .ok () => .serving
            | .error error => .finished (.error (.endpoint error))
          handed := inbound.handed ++ received.1.toList }
      | .close => { inbound with buffer := rest, phase := .finished (.ok ()) }
      | .handshake =>
        { inbound with
          buffer := rest
          phase := .finished
            (.error (.invalidFrame "unexpected handshake after connection setup")) }

def turns (node : InboundNode) (count : ℕ) (inbound : Inbound) : Inbound :=
  (turn node false)^[count] inbound

def accepted (bytes : List UInt8) : Inbound := ⟨bytes, .handshaking, []⟩

end Inbound

def envelopeFrame (codec : EnvelopeCodec) (envelope : RemoteEnvelope) :
    Except TcpRemoteTransportError (List UInt8) :=
  match codec.encode envelope with
  | none => .error .envelope
  | some wire => writeFrame .envelope wire

/-- A frame that the peer can write and this node accepts the size of. -/
structure WellFormed (node : InboundNode) (envelope : RemoteEnvelope) (bytes : List UInt8) :
    Prop where
  written : envelopeFrame node.codec envelope = .ok bytes
  fits : bytes.length ≤ node.maxFrameBytes + 4

lemma WellFormed.wire {node : InboundNode} {envelope : RemoteEnvelope}
    (h : WellFormed node envelope bytes) : ∃ wire, node.codec.encode envelope = some wire ∧
      writeFrame .envelope wire = .ok bytes ∧ wire.length + 1 ≤ node.maxFrameBytes := by
  have hwritten := h.written
  rw [envelopeFrame] at hwritten
  cases hencode : node.codec.encode envelope with
  | none =>
    rw [hencode] at hwritten
    cases hwritten
  | some wire =>
    rw [hencode] at hwritten
    refine ⟨wire, rfl, hwritten, ?_⟩
    have hfits := h.fits
    rw [← (of_writeFrame hwritten).2, length_lengthPrefixed, length_cons] at hfits
    omega

namespace Inbound
variable {node : InboundNode}

theorem turn_envelope {envelope : RemoteEnvelope}
    (h : WellFormed node envelope bytes) (closed : Bool) (rest : List UInt8)
    (handed : List RemoteEnvelope) :
    turn node closed ⟨bytes ++ rest, .serving, handed⟩ =
      ⟨rest, match node.endpoint.receiveEnvelope envelope with
        | .ok () => .serving
        | .error error => .finished (.error (.endpoint error)), handed ++ [envelope]⟩ := by
  obtain ⟨wire, hencode, hwrite, hsize⟩ := h.wire
  simp only [turn, readFrame_writeFrame hwrite hsize]
  have hreceive : node.endpoint.receiveWire node.codec wire =
      (some envelope, node.endpoint.receiveEnvelope envelope) := by
    rw [RemoteEndpoint.receiveWire, node.codec.decode_encode envelope wire hencode]
  rw [hreceive]
  rfl

def untilRejected (endpoint : RemoteEndpoint) : List RemoteEnvelope → List RemoteEnvelope
  | [] => []
  | envelope :: rest =>
    match endpoint.receiveEnvelope envelope with
    | .ok () => envelope :: untilRejected endpoint rest
    | .error _ => [envelope]

/-- The task hands over the envelopes up to the first that is rejected, in order. -/
theorem turns_serving {envelopes : List (RemoteEnvelope × List UInt8)}
    (hformed : ∀ envelope ∈ envelopes, WellFormed node envelope.1 envelope.2) {count : ℕ}
    (hcount : envelopes.length ≤ count) (handed : List RemoteEnvelope) :
    (turns node count ⟨(envelopes.map Prod.snd).flatten, .serving, handed⟩).handed =
      handed ++ untilRejected node.endpoint (envelopes.map Prod.fst) := by
  induction envelopes generalizing count handed with
  | nil =>
    have hblocked : turn node false ⟨[], .serving, handed⟩ = ⟨[], .serving, handed⟩ := rfl
    rw [turns, map_nil, flatten_nil, Function.iterate_fixed hblocked]
    exact (append_nil handed).symm
  | cons envelope envelopes ih =>
    obtain ⟨count, rfl⟩ : ∃ m, count = m + 1 :=
      ⟨count - 1, by rw [length_cons] at hcount; omega⟩
    have hfirst := hformed envelope mem_cons_self
    rw [turns, Function.iterate_succ_apply, map_cons, flatten_cons, turn_envelope hfirst false]
    cases hreceive : node.endpoint.receiveEnvelope envelope.1 with
    | ok u =>
      have hle : envelopes.length ≤ count := Nat.le_of_succ_le_succ hcount
      have hrest := ih (fun other hother => hformed other (mem_cons_of_mem envelope hother))
        hle (handed ++ [envelope.1])
      rw [turns, append_assoc] at hrest
      rw [map_cons, untilRejected, hreceive]
      exact hrest
    | error error =>
      rw [Function.iterate_fixed rfl, map_cons, untilRejected, hreceive]

lemma untilRejected_eq_self {endpoint : RemoteEndpoint} {envelopes : List RemoteEnvelope}
    (h : ∀ envelope ∈ envelopes.dropLast, endpoint.Accepts envelope) :
    untilRejected endpoint envelopes = envelopes := by
  induction envelopes with
  | nil => rfl
  | cons envelope rest ih =>
    rw [untilRejected]
    cases rest with
    | nil =>
      cases endpoint.receiveEnvelope envelope <;> rfl
    | cons next rest =>
      rw [dropLast_cons_cons] at h
      have hfirst : endpoint.receiveEnvelope envelope = .ok () := h envelope mem_cons_self
      rw [hfirst]
      dsimp only
      rw [ih (fun other hother => h other (mem_cons_of_mem envelope hother))]

/-- On a healthy connection whose handshake is accepted, every envelope is handed to the endpoint
once and in order, as long as none but the last is rejected. -/
theorem inbound_hands_over_all (node : InboundNode) {hello helloBytes : List UInt8}
    (hhello : writeFrame .handshake hello = .ok helloBytes)
    (hsize : hello.length + 1 ≤ node.maxFrameBytes) (hpeer : node.validatePeer hello = .ok ())
    {envelopes : List (RemoteEnvelope × List UInt8)}
    (hformed : ∀ envelope ∈ envelopes, WellFormed node envelope.1 envelope.2)
    (haccepts : ∀ envelope ∈ (envelopes.map Prod.fst).dropLast, node.endpoint.Accepts envelope)
    {count : ℕ} (hcount : envelopes.length < count) :
    (turns node count (accepted (helloBytes ++ (envelopes.map Prod.snd).flatten))).handed =
      envelopes.map Prod.fst := by
  obtain ⟨count, rfl⟩ : ∃ m, count = m + 1 := ⟨count - 1, by omega⟩
  have hshake : turn node false (accepted (helloBytes ++ (envelopes.map Prod.snd).flatten)) =
      ⟨(envelopes.map Prod.snd).flatten, .serving, []⟩ := by
    simp only [turn, accepted, readFrame_writeFrame hhello hsize, hpeer]
    rfl
  have hserved := turns_serving hformed (Nat.le_of_lt_succ hcount) []
  rw [turns, Function.iterate_succ_apply, hshake]
  rw [turns] at hserved
  rw [hserved, nil_append, untilRejected_eq_self haccepts]

def twoEntities : EnvelopeCodec where
  encode envelope :=
    if envelope = ⟨.entity "unknown" "1", []⟩ then some [10]
    else if envelope = ⟨.entity "cart" "1", []⟩ then some [11]
    else none
  decode bytes :=
    if bytes = [10] then some ⟨.entity "unknown" "1", []⟩
    else if bytes = [11] then some ⟨.entity "cart" "1", []⟩
    else none
  decode_encode := by
    intro envelope wire h
    split_ifs at h with hunknown hcart
    · cases h
      rw [hunknown]
      rfl
    · cases h
      rw [hcart]
      rfl

def cartNode : InboundNode where
  maxFrameBytes := 64
  codec := twoEntities
  endpoint := ⟨(∅ : BTreeMap String RemoteEnvelopeHandler).insert "cart" (fun _ => .ok ()), ∅, ∅,
    none⟩
  validatePeer _ := .ok ()

/-- An envelope without a handler ends the task: the one behind it, which the endpoint would
accept, is never handed over. -/
theorem rejection_loses_next_envelope :
    (turns cartNode 100 (accepted (lengthPrefixed [1] ++ lengthPrefixed [2, 10] ++
        lengthPrefixed [2, 11]))).handed = [⟨.entity "unknown" "1", []⟩] ∧
      cartNode.endpoint.receiveEnvelope ⟨.entity "cart" "1", []⟩ = .ok () ∧
      envelopeFrame cartNode.codec ⟨.entity "unknown" "1", []⟩ = .ok (lengthPrefixed [2, 10]) ∧
      envelopeFrame cartNode.codec ⟨.entity "cart" "1", []⟩ = .ok (lengthPrefixed [2, 11]) := by
  refine ⟨by decide +kernel, rfl, rfl, rfl⟩

theorem two_carts_handed_over :
    (turns cartNode 3 (accepted (lengthPrefixed [1] ++ ([(⟨.entity "cart" "1", []⟩,
        lengthPrefixed [2, 11]), (⟨.entity "cart" "1", []⟩, lengthPrefixed [2, 11])].map
          (Prod.snd : RemoteEnvelope × List UInt8 → List UInt8)).flatten))).handed =
      [⟨.entity "cart" "1", []⟩, ⟨.entity "cart" "1", []⟩] := by
  have hformed : WellFormed cartNode ⟨.entity "cart" "1", []⟩ (lengthPrefixed [2, 11]) :=
    ⟨rfl, by decide⟩
  have hhello : writeFrame .handshake [] = .ok (lengthPrefixed [1]) := rfl
  refine inbound_hands_over_all cartNode hhello (by decide) rfl
    (forall_mem_cons.mpr ⟨hformed, forall_mem_singleton.mpr hformed⟩) ?_ (by decide)
  exact forall_mem_singleton.mpr rfl

end Inbound
end Rakka.Remote
