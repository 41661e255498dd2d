import Rakka.Foundation.Counting
import Rakka.Foundation.Runs
import Rakka.Remote.Connection

/-! One peer of the transport: envelopes accepted for it are queued and written by a worker,
connection after connection, and read by one task of the receiving node for each connection. -/

namespace Rakka.Remote
open Foundation Inbound List Option

/-- The numbers of the envelopes written and not read yet, the receiving task with its unread bytes,
and whether the connection broke or was shut down. -/
structure Connection where
  frames : List (ℕ × List UInt8)
  inbound : Inbound
  broken : Bool
  shut : Bool

/-- The envelope the worker is sending: its number, its encoding and the attempt. -/
structure Sending where
  number : ℕ
  wire : List UInt8
  attempt : ℕ

/-- The worker for one peer, and that peer. Envelopes are numbered in the order `send` accepted
them. -/
structure Link where
  accepted : List RemoteEnvelope
  queue : List ℕ
  current : Option Sending
  stream : Option ℕ
  connections : List Connection
  handed : List (ℕ × RemoteEnvelope)

/-- A write transmits the whole frame, or fails after some of its bytes. -/
inductive LinkEvent where
  | send (envelope : RemoteEnvelope)
  | receiveCommand
  | connect (succeeds : Bool)
  | write (transmitted : Option ℕ)
  | idleTimeout
  | read (connection : ℕ)
  | lose (connection : ℕ)
  deriving DecidableEq, Repr

namespace Link
variable (node : InboundNode) (link : Link)

def new : Link := ⟨[], [], none, none, [], []⟩

/-- The worker takes the next command; an envelope that cannot be encoded is given up. -/
def receiveCommand : Option Link :=
  match link.current, link.queue with
  | none, number :: queue =>
    match link.accepted[number]? with
    | none => none
    | some envelope =>
      some { link with
        queue := queue
        current := (node.codec.encode envelope).map (fun wire => ⟨number, wire, 0⟩) }
  | _, _ => none

/-- A worker without a stream connects; a failure to connect gives the envelope up. -/
def connect (succeeds : Bool) : Option Link :=
  match link.current, link.stream with
  | some _, none =>
    if succeeds then
      some { link with
        stream := some link.connections.length
        connections := link.connections ++ [⟨[], ⟨[], .serving, []⟩, false, false⟩] }
    else some { link with current := none }
  | _, _ => none

def writeWhole (sending : Sending) (index : ℕ) (connection : Connection) (bytes : List UInt8) :
    Link :=
  { link with
    current := none
    connections := link.connections.set index { connection with
      frames := connection.frames ++ [(sending.number, bytes)]
      inbound := { connection.inbound with buffer := connection.inbound.buffer ++ bytes } } }

/-- The write fails after some bytes: first a reconnect follows; the second time the envelope is
given up and the stream kept. -/
def writeFails (sending : Sending) (index : ℕ) (connection : Connection) (transmitted : List UInt8)
    : Link :=
  { link with
    current := if sending.attempt = 0 then some { sending with attempt := 1 } else none
    stream := if sending.attempt = 0 then none else some index
    connections := link.connections.set index { connection with
      broken := true
      inbound := { connection.inbound with
        buffer := connection.inbound.buffer ++ transmitted } } }

def write (transmitted : Option ℕ) : Option Link :=
  match link.current, link.stream with
  | some sending, some index =>
    match link.connections[index]? with
    | none => none
    | some connection =>
      match writeFrame .envelope sending.wire, transmitted with
      | .ok bytes, none =>
        if connection.broken then none else some (link.writeWhole sending index connection bytes)
      | .ok bytes, some count =>
        if count < bytes.length ∧ (connection.broken = true → count = 0) then
          some (link.writeFails sending index connection (bytes.take count))
        else none
      | .error _, some _ => some (link.writeFails sending index connection [])
      | .error _, none => none
  | _, _ => none

def idleTimeout : Option Link :=
  match link.current, link.queue, link.stream with
  | none, [], some index =>
    match link.connections[index]? with
    | none => none
    | some connection =>
      some { link with
        stream := none
        connections := link.connections.set index { connection with shut := true } }
  | _, _, _ => none

/-- The receiving task takes a turn; an envelope it hands over is the first written on its
connection. -/
def read (index : ℕ) : Option Link :=
  match link.connections[index]? with
  | none => none
  | some connection =>
    let after := connection.inbound.turn node (connection.broken || connection.shut)
    match after.handed.drop connection.inbound.handed.length, connection.frames with
    | envelope :: _, (number, _) :: frames =>
      some { link with
        connections := link.connections.set index { connection with
          frames := frames
          inbound := after }
        handed := link.handed ++ [(number, envelope)] }
    | _, _ =>
      some { link with
        connections := link.connections.set index { connection with inbound := after } }

def lose (index : ℕ) : Option Link :=
  match link.connections[index]? with
  | none => none
  | some connection =>
    some { link with
      connections := link.connections.set index { connection with
        inbound := { connection.inbound with
          phase := .finished (.error (.io "connection reset")) } } }

def step : LinkEvent → Option Link
  | .send envelope =>
    some { link with
      accepted := link.accepted ++ [envelope]
      queue := link.queue ++ [link.accepted.length] }
  | .receiveCommand => link.receiveCommand node
  | .connect succeeds => link.connect succeeds
  | .write transmitted => link.write transmitted
  | .idleTimeout => link.idleTimeout
  | .read index => link.read node index
  | .lose index => link.lose index

end Link

namespace Connection
variable {node : InboundNode} {accepted : List RemoteEnvelope} {connection : Connection}

def isLive (connection : Connection) : Bool :=
  match connection.inbound.phase with
  | .finished _ => false
  | _ => true

def live (connection : Connection) : List ℕ :=
  if connection.isLive then connection.frames.map Prod.fst else []

/-- A serving task has before it the frames written whole, and possibly one cut off by a failed
write. -/
structure Intact (node : InboundNode) (accepted : List RemoteEnvelope) (connection : Connection) :
    Prop where
  written : ∀ frame ∈ connection.frames, ∃ envelope, accepted[frame.1]? = some envelope ∧
    envelopeFrame node.codec envelope = .ok frame.2
  phase : connection.isLive = true → connection.inbound.phase = .serving
  stream : connection.isLive = true → ∃ cut,
    connection.inbound.buffer = (connection.frames.map Prod.snd).flatten ++ cut ∧
      (cut = [] ∨ connection.broken = true ∧ ∃ payload bytes,
        writeFrame .envelope payload = .ok bytes ∧ cut <+: bytes ∧ cut.length < bytes.length)

lemma Intact.ended (h : connection.Intact node accepted) {after : Connection}
    (hframes : after.frames = connection.frames) (hended : after.isLive = false) :
    after.Intact node accepted := by
  refine ⟨by rw [hframes]; exact h.written, fun hlive => ?_, fun hlive => ?_⟩
  all_goals
    rw [hended] at hlive
    cases hlive

theorem Intact.turn (h : connection.Intact node accepted) (closed : Bool) :
    (∃ number bytes frames envelope, connection.frames = (number, bytes) :: frames ∧
      accepted[number]? = some envelope ∧ connection.isLive = true ∧
      (connection.inbound.turn node closed).handed = connection.inbound.handed ++ [envelope] ∧
      Intact node accepted { connection with
        frames := frames
        inbound := connection.inbound.turn node closed }) ∨
    ((connection.inbound.turn node closed).handed = connection.inbound.handed ∧
      Intact node accepted { connection with inbound := connection.inbound.turn node closed } ∧
      (connection.isLive = false →
        isLive { connection with inbound := connection.inbound.turn node closed } = false)) := by
  rcases connection with ⟨frames, ⟨buffer, phase, handed⟩, broken, shut⟩
  cases phase with
  | finished => exact .inr ⟨rfl, h, fun hdead => hdead⟩
  | handshaking => cases h.phase rfl
  | serving =>
    obtain ⟨cut, hbuffer, hcut⟩ := h.stream rfl
    dsimp only at hbuffer hcut ⊢
    subst hbuffer
    cases frames with
    | cons frame frames =>
      obtain ⟨number, bytes⟩ := frame
      obtain ⟨envelope, haccepted, hframe⟩ := h.written (number, bytes) mem_cons_self
      dsimp only at haccepted hframe
      rw [map_cons, flatten_cons, append_assoc]
      by_cases hfits : bytes.length ≤ node.maxFrameBytes + 4
      · left
        refine ⟨number, bytes, frames, envelope, rfl, haccepted, rfl, ?_, ?_⟩
        · rw [turn_envelope ⟨hframe, hfits⟩]
        · rw [turn_envelope ⟨hframe, hfits⟩]
          refine ⟨fun other hother => h.written other (mem_cons_of_mem _ hother),
            fun hlive => ?_, fun hlive => ⟨cut, rfl, hcut⟩⟩
          cases hreceive : node.endpoint.receiveEnvelope envelope with
          | ok => rfl
          | error =>
            rw [hreceive] at hlive
            cases hlive
      · right
        rw [envelopeFrame] at hframe
        cases hencode : node.codec.encode envelope with
        | none =>
          rw [hencode] at hframe
          cases hframe
        | some wire =>
          rw [hencode] at hframe
          have hlength : bytes.length = wire.length + 5 := by
            rw [← (of_writeFrame hframe).2, length_lengthPrefixed, length_cons]
          have hlarge : node.maxFrameBytes < wire.length + 1 := by omega
          obtain ⟨error, hread⟩ := readFrame_oversized hframe hlarge closed
            ((frames.map Prod.snd).flatten ++ cut)
          simp only [turn, hread]
          exact ⟨trivial, h.ended rfl rfl, fun _ => rfl⟩
    | nil =>
      right
      rw [map_nil, flatten_nil, nil_append]
      have hnone : ∀ frame rest, readFrame node.maxFrameBytes closed cut ≠ .frame frame rest := by
        intro frame rest
        rcases hcut with rfl | ⟨-, payload, bytes, hwrite, hprefix, hproper⟩
        · intro hread
          cases closed <;> cases hread
        · rw [readFrame_cut hwrite hprefix hproper]
          split_ifs <;> simp
      cases hread : readFrame node.maxFrameBytes closed cut with
      | blocked =>
        simp only [turn, hread]
        rw [map_nil, flatten_nil, nil_append] at h
        exact ⟨trivial, h, fun hdead => hdead⟩
      | ended | failed =>
        simp only [turn, hread]
        exact ⟨trivial, h.ended rfl rfl, fun _ => rfl⟩
      | frame _ rest => exact (hnone _ rest hread).elim

lemma Intact.accept (h : connection.Intact node accepted) (envelope : RemoteEnvelope) :
    connection.Intact node (accepted ++ [envelope]) := by
  refine ⟨fun frame hframe => ?_, h.phase, h.stream⟩
  obtain ⟨found, hfound, hbytes⟩ := h.written frame hframe
  exact ⟨found, by rw [List.getElem?_append_left (List.getElem?_eq_some_iff.mp hfound).1]; exact hfound,
    hbytes⟩

lemma intact_fresh (node : InboundNode) (accepted : List RemoteEnvelope) :
    Intact node accepted ⟨[], ⟨[], .serving, []⟩, false, false⟩ :=
  ⟨fun _ hframe => absurd hframe not_mem_nil, fun _ => rfl, fun _ => ⟨[], rfl, .inl rfl⟩⟩

end Connection

namespace Link
variable {node : InboundNode} {link after : Link}
variable {event : LinkEvent} {connection : Connection} {index : ℕ}

inductive Stepped (node : InboundNode) (link : Link) : LinkEvent → Link → Prop
  | sent (envelope : RemoteEnvelope) :
    Stepped node link (.send envelope) { link with
      accepted := link.accepted ++ [envelope]
      queue := link.queue ++ [link.accepted.length] }
  | taken {number : ℕ} {queue : List ℕ} {envelope : RemoteEnvelope} (hcurrent : link.current = none)
    (hqueue : link.queue = number :: queue) (haccepted : link.accepted[number]? = some envelope) :
    Stepped node link .receiveCommand { link with
      queue := queue
      current := (node.codec.encode envelope).map (fun wire => ⟨number, wire, 0⟩) }
  | connected : Stepped node link (.connect true) { link with
      stream := some link.connections.length
      connections := link.connections ++ [⟨[], ⟨[], .serving, []⟩, false, false⟩] }
  | gaveUp : Stepped node link (.connect false) { link with current := none }
  | wrote {sending : Sending} {index : ℕ} {connection : Connection} {bytes : List UInt8}
    (hcurrent : link.current = some sending) (hstream : link.stream = some index)
    (hconnection : link.connections[index]? = some connection) (hwhole : connection.broken = false)
    (hframe : writeFrame .envelope sending.wire = .ok bytes) :
    Stepped node link (.write none) (link.writeWhole sending index connection bytes)
  | failed {sending : Sending} {index : ℕ} {connection : Connection} {cut : List UInt8}
    (transmitted : ℕ) (hcurrent : link.current = some sending) (hstream : link.stream = some index)
    (hconnection : link.connections[index]? = some connection)
    (hcut : cut = [] ∨ connection.broken = false ∧ ∃ bytes,
      writeFrame .envelope sending.wire = .ok bytes ∧ cut <+: bytes ∧ cut.length < bytes.length) :
    Stepped node link (.write (some transmitted)) (link.writeFails sending index connection cut)
  | shut {index : ℕ} {connection : Connection}
    (hconnection : link.connections[index]? = some connection) :
    Stepped node link .idleTimeout { link with
      stream := none
      connections := link.connections.set index { connection with shut := true } }
  | turned {index : ℕ} {connection : Connection} {after : Link}
    (hconnection : link.connections[index]? = some connection)
    (hread : link.read node index = some after) : Stepped node link (.read index) after
  | lost {index : ℕ} {connection : Connection}
    (hconnection : link.connections[index]? = some connection) :
    Stepped node link (.lose index) { link with
      connections := link.connections.set index { connection with
        inbound := { connection.inbound with
          phase := .finished (.error (.io "connection reset")) } } }

lemma stepped_of_step (h : link.step node event = some after) : Stepped node link event after := by
  cases event with
  | send envelope =>
    cases h
    exact .sent envelope
  | receiveCommand =>
    simp only [step, receiveCommand] at h
    split at h
    · rename_i number queue hcurrent hqueue
      split at h
      · cases h
      · rename_i envelope haccepted
        cases h
        exact .taken hcurrent hqueue haccepted
    · cases h
  | connect succeeds =>
    simp only [step, connect] at h
    split at h
    · split_ifs at h with hsucceeds
      · cases h
        subst hsucceeds
        exact .connected
      · cases h
        obtain rfl : succeeds = false := Bool.eq_false_iff.mpr hsucceeds
        exact .gaveUp
    · cases h
  | write =>
    simp only [step, write] at h
    split at h
    · rename_i sending index hcurrent hstream
      split at h
      · cases h
      · rename_i connection hconnection
        split at h
        · rename_i bytes hframe
          split_ifs at h with hbroken
          cases h
          exact .wrote hcurrent hstream hconnection (Bool.eq_false_iff.mpr hbroken) hframe
        · rename_i bytes count hframe
          split_ifs at h with hcount
          cases h
          refine .failed count hcurrent hstream hconnection ?_
          cases hbroken : connection.broken with
          | true =>
            left
            rw [hcount.2 hbroken, take_zero]
          | false =>
            refine .inr ⟨rfl, bytes, hframe, take_prefix _ _, ?_⟩
            rw [length_take]
            omega
        · rename_i count _
          cases h
          exact .failed count hcurrent hstream hconnection (.inl rfl)
        · cases h
    · cases h
  | idleTimeout =>
    simp only [step, idleTimeout] at h
    split at h
    · split at h
      · cases h
      · rename_i connection hconnection
        cases h
        exact .shut hconnection
    · cases h
  | read index =>
    cases hconnection : link.connections[index]? with
    | none => simp only [step, read, hconnection, reduceCtorEq] at h
    | some => exact .turned hconnection h
  | lose =>
    simp only [step, lose] at h
    split at h
    · cases h
    · rename_i connection hconnection
      cases h
      exact .lost hconnection

def occurrences (link : Link) (number : ℕ) : ℕ :=
  (link.handed.map Prod.fst).count number +
    (link.connections.map (fun connection => (connection.frames.map Prod.fst).count number)).sum +
    (link.current.toList.map Sending.number).count number + link.queue.count number

/-- Nothing is handed over that was not accepted, and no envelope is in two places. -/
structure Sound (node : InboundNode) (link : Link) : Prop where
  sending : ∀ sending ∈ link.current, ∃ envelope, link.accepted[sending.number]? = some envelope ∧
    node.codec.encode envelope = some sending.wire
  intact : ∀ connection ∈ link.connections, connection.Intact node link.accepted
  genuine : ∀ handed ∈ link.handed, link.accepted[handed.1]? = some handed.2
  once : ∀ number, link.occurrences number ≤ if number < link.accepted.length then 1 else 0

lemma sound_new (node : InboundNode) : Sound node new :=
  ⟨fun _ h => absurd h (not_mem_none _), fun _ h => absurd h not_mem_nil,
    fun _ h => absurd h not_mem_nil, fun _ => Nat.zero_le _⟩

lemma Sound.read (h : Sound node link) (hconnection : link.connections[index]? = some connection)
    (hread : link.read node index = some after) :
    (∃ number bytes frames envelope inbound, connection.frames = (number, bytes) :: frames ∧
      link.accepted[number]? = some envelope ∧ connection.isLive = true ∧
      Connection.Intact node link.accepted ⟨frames, inbound, connection.broken, connection.shut⟩ ∧
      after = { link with
        connections := link.connections.set index
          ⟨frames, inbound, connection.broken, connection.shut⟩
        handed := link.handed ++ [(number, envelope)] }) ∨
    ∃ inbound, Connection.Intact node link.accepted { connection with inbound := inbound } ∧
      (connection.isLive = false →
        Connection.isLive { connection with inbound := inbound } = false) ∧
      after = { link with
        connections := link.connections.set index { connection with inbound := inbound } } := by
  rw [Link.read, hconnection] at hread
  dsimp only at hread
  rcases (h.intact _ (mem_of_getElem? hconnection)).turn
    (connection.broken || connection.shut) with
    ⟨number, bytes, frames, envelope, hframes, haccepted, hlive, hhanded, hintact⟩ |
    ⟨hhanded, hintact, hdead⟩
  · rw [hhanded, drop_left, hframes] at hread
    exact .inl ⟨number, bytes, frames, envelope, _, hframes, haccepted, hlive, hintact,
      (Option.some.inj hread).symm⟩
  · rw [hhanded, drop_length] at hread
    exact .inr ⟨_, hintact, hdead, (Option.some.inj hread).symm⟩

theorem Sound.set (h : Sound node link) {replaced : Connection}
    (hconnection : link.connections[index]? = some connection)
    (hintact : replaced.Intact node link.accepted) {current : Option Sending} {stream : Option ℕ}
    {handed : List (ℕ × RemoteEnvelope)} (hsending : ∀ sending ∈ current, ∃ envelope,
      link.accepted[sending.number]? = some envelope ∧
        node.codec.encode envelope = some sending.wire)
    (hgenuine : ∀ pair ∈ handed, link.accepted[pair.1]? = some pair.2)
    (hcount : ∀ number, (handed.map Prod.fst).count number +
        (replaced.frames.map Prod.fst).count number +
        (current.toList.map Sending.number).count number ≤
      (link.handed.map Prod.fst).count number + (connection.frames.map Prod.fst).count number +
        (link.current.toList.map Sending.number).count number) : Sound node { link with
      current := current
      stream := stream
      connections := link.connections.set index replaced
      handed := handed } := by
  refine ⟨hsending, fun other hother => ?_, hgenuine, fun number => ?_⟩
  · rcases mem_or_eq_of_mem_set hother with hmem | rfl
    · exact h.intact other hmem
    · exact hintact
  · have hsum := sum_map_set_add (fun connection : Connection =>
      (connection.frames.map Prod.fst).count number) replaced hconnection
    have honce := h.once number
    have hless := hcount number
    simp only [occurrences] at honce ⊢
    omega

lemma Sound.step (h : Sound node link) (hstep : link.step node event = some after) :
    Sound node after := by
  cases stepped_of_step hstep with
  | sent envelope =>
    have hgrow : ∀ {number : ℕ} {found}, link.accepted[number]? = some found →
        (link.accepted ++ [envelope])[number]? = some found := fun {number found} hfound => by
      rw [List.getElem?_append_left (List.getElem?_eq_some_iff.mp hfound).1]
      exact hfound
    refine ⟨fun sending hsending => ?_, fun connection hmem => (h.intact connection hmem).accept _,
      fun handed hmem => hgrow (h.genuine handed hmem), fun number => ?_⟩
    · obtain ⟨found, hfound, hwire⟩ := h.sending sending hsending
      exact ⟨found, hgrow hfound, hwire⟩
    · have honce := h.once number
      simp only [occurrences, length_append, length_singleton, count_append,
        count_singleton, beq_iff_eq] at honce ⊢
      split_ifs at honce ⊢ <;> omega
  | @taken number queue envelope hcurrent hqueue haccepted =>
    refine ⟨fun sending hsending => ?_, h.intact, h.genuine, fun other => ?_⟩
    · obtain ⟨wire, hwire, rfl⟩ := map_eq_some_iff.mp hsending
      exact ⟨envelope, haccepted, hwire⟩
    · refine le_trans ?_ (h.once other)
      simp only [occurrences, hcurrent, hqueue, count_cons]
      cases node.codec.encode envelope with
      | none =>
        simp only [map_none, toList_none, map_nil, count_nil]
        omega
      | some =>
        simp only [map_some, toList_some, toList_none, map_cons, map_nil, count_cons, count_nil]
        omega
  | connected =>
    refine ⟨h.sending, forall_mem_concat h.intact (Connection.intact_fresh node link.accepted),
      h.genuine, fun number => ?_⟩
    simpa [occurrences] using h.once number
  | gaveUp =>
    refine ⟨fun _ hnone => absurd hnone (not_mem_none _), h.intact, h.genuine,
      fun number => le_trans ?_ (h.once number)⟩
    simp only [occurrences, toList_none, map_nil, count_nil]
    omega
  | @wrote sending index connection bytes hcurrent hstream hconnection hwhole hframe =>
    have hintact := h.intact _ (mem_of_getElem? hconnection)
    obtain ⟨envelope, haccepted, hwire⟩ := h.sending sending hcurrent
    refine h.set hconnection ?_ (fun _ hnone => absurd hnone (not_mem_none _)) h.genuine
      (fun number => by simp [hcurrent, count_append, Nat.add_assoc])
    refine ⟨forall_mem_concat hintact.written ⟨envelope, haccepted, ?_⟩, hintact.phase,
      fun hlive => ?_⟩
    · rw [envelopeFrame, hwire]
      exact hframe
    · obtain ⟨cut, hbuffer, rfl | ⟨hbroken, -⟩⟩ := hintact.stream hlive
      · exact ⟨[], by simp [hbuffer], .inl rfl⟩
      · rw [hwhole] at hbroken
        cases hbroken
  | @failed sending index connection cut transmitted hcurrent hstream hconnection hcut =>
    have hintact := h.intact _ (mem_of_getElem? hconnection)
    refine h.set hconnection ?_ (fun next hnext => ?_) h.genuine (fun number => ?_)
    · refine ⟨hintact.written, hintact.phase, fun hlive => ?_⟩
      obtain ⟨before, hbuffer, hbefore⟩ := hintact.stream hlive
      rcases hcut with rfl | ⟨hwhole, bytes, hframe, hprefix, hproper⟩
      · exact ⟨before, by rw [← hbuffer]; exact append_nil _,
          hbefore.imp_right (fun hbroken => ⟨rfl, hbroken.2⟩)⟩
      · rcases hbefore with rfl | ⟨hbroken, -⟩
        · exact ⟨cut, by rw [hbuffer, append_nil],
            .inr ⟨rfl, _, bytes, hframe, hprefix, hproper⟩⟩
        · rw [hwhole] at hbroken
          cases hbroken
    · split_ifs at hnext
      · cases hnext
        exact h.sending sending hcurrent
      · cases hnext
    · rw [hcurrent]
      split_ifs <;> simp
  | shut hconnection =>
    have hintact := h.intact _ (mem_of_getElem? hconnection)
    refine h.set hconnection ?_ h.sending h.genuine (fun _ => le_rfl)
    exact ⟨hintact.written, hintact.phase, hintact.stream⟩
  | turned hconnection hread =>
    rcases h.read hconnection hread with
      ⟨number, bytes, frames, envelope, inbound, hframes, haccepted, -, hintact, rfl⟩ |
      ⟨inbound, hintact, -, rfl⟩
    · refine h.set hconnection hintact h.sending (forall_mem_concat h.genuine haccepted)
        (fun other => ?_)
      simp only [hframes, map_append, count_append, map_cons, map_nil, count_cons, count_nil]
      omega
    · exact h.set hconnection hintact h.sending h.genuine (fun _ => le_rfl)
  | lost hconnection =>
    have hintact := h.intact _ (mem_of_getElem? hconnection)
    exact h.set hconnection (hintact.ended (by rfl) (by rfl)) h.sending h.genuine (fun _ => le_rfl)

def newestLive (connections : List Connection) : List ℕ :=
  match connections.getLast? with
  | none => []
  | some connection => connection.live

def line (link : Link) : List ℕ :=
  link.handed.map Prod.fst ++ (newestLive link.connections ++
    (link.current.toList.map Sending.number ++ link.queue))

/-- Only the newest connection carries anything, and the numbers on the line increase. -/
structure Ordered (link : Link) : Prop where
  newest : ∀ (index : ℕ) (connection : Connection), link.connections[index]? = some connection →
    connection.live ≠ [] → index + 1 = link.connections.length
  stream : ∀ index, link.stream = some index → index + 1 = link.connections.length
  sorted : link.line.Pairwise (· < ·)
  bounded : ∀ number ∈ link.line, number < link.accepted.length

lemma ordered_new : Ordered new :=
  ⟨fun _ _ h => absurd h (by simp [new]), fun _ h => absurd h (by simp [new]), .nil,
    fun _ h => absurd h not_mem_nil⟩

/-- A connection is opened only once all that was written on the earlier ones was read or given up.
-/
def Patient (link : Link) (event : LinkEvent) : Prop :=
  event = .connect true → ∀ connection ∈ link.connections, connection.live = []

instance (link : Link) (event : LinkEvent) : Decidable (Patient link event) :=
  inferInstanceAs (Decidable (_ → _))

section Newest
variable {connections : List Connection} {replaced : Connection}

lemma newestLive_eq (h : connections[index]? = some connection)
    (hnewest : index + 1 = connections.length) : newestLive connections = connection.live := by
  rw [newestLive, List.getLast?_eq_getElem?, ← hnewest, Nat.add_sub_cancel, h]

lemma newestLive_set_of_ne (h : connections[index]? = some connection)
    (hnewest : index + 1 ≠ connections.length) :
    newestLive (connections.set index replaced) = newestLive connections := by
  rw [newestLive, newestLive, List.getLast?_eq_getElem?, List.getLast?_eq_getElem?,
    length_set, List.getElem?_set_ne]
  have hindex := (List.getElem?_eq_some_iff.mp h).1
  omega

theorem Ordered.set (h : Ordered link) (hconnection : link.connections[index]? = some connection)
    (hlive : replaced.live ≠ [] → index + 1 = link.connections.length) {current : Option Sending}
    {stream : Option ℕ} {handed : List (ℕ × RemoteEnvelope)}
    (hstream : ∀ other, stream = some other → link.stream = some other)
    (hline : index + 1 = link.connections.length → (handed.map Prod.fst ++ (replaced.live ++
        (current.toList.map Sending.number ++ link.queue))).Sublist
      (link.handed.map Prod.fst ++ (connection.live ++
        (link.current.toList.map Sending.number ++ link.queue))))
    (hother : index + 1 ≠ link.connections.length → handed = link.handed ∧
      (current.toList.map Sending.number).Sublist (link.current.toList.map Sending.number)) :
    Ordered { link with
      current := current
      stream := stream
      connections := link.connections.set index replaced
      handed := handed } := by
  have hset : (link.connections.set index replaced)[index]? = some replaced :=
    List.getElem?_set_self (List.getElem?_eq_some_iff.mp hconnection).1
  have hsublist : (line { link with
      current := current
      stream := stream
      connections := link.connections.set index replaced
      handed := handed }).Sublist link.line := by
    by_cases hnewest : index + 1 = link.connections.length
    · rw [line, line, newestLive_eq hset (by rw [length_set, hnewest]),
        newestLive_eq hconnection hnewest]
      exact hline hnewest
    · obtain ⟨rfl, hcurrent⟩ := hother hnewest
      rw [line, line, newestLive_set_of_ne hconnection hnewest]
      exact .append_left (.append_left (.append_right hcurrent _) _) _
  refine ⟨fun other found hfound hne => ?_, fun other hsome => ?_, h.sorted.sublist hsublist,
    fun number hmem => h.bounded number (hsublist.subset hmem)⟩
  · dsimp only at hfound ⊢
    rw [length_set]
    by_cases hsame : other = index
    · rw [hsame, hset] at hfound
      cases hfound
      rw [hsame]
      exact hlive hne
    · rw [List.getElem?_set_ne (fun heq => hsame heq.symm)] at hfound
      exact h.newest other found hfound hne
  · dsimp only
    rw [length_set]
    exact h.stream other (hstream other hsome)

end Newest

lemma Ordered.shrink (h : Ordered link) (current : Option Sending) (queue : List ℕ)
    (hline : (current.toList.map Sending.number ++ queue).Sublist
      (link.current.toList.map Sending.number ++ link.queue)) :
    Ordered { link with current := current, queue := queue } := by
  have hsublist : (line { link with current := current, queue := queue }).Sublist link.line :=
    .append_left (.append_left hline _) _
  exact ⟨h.newest, h.stream, h.sorted.sublist hsublist,
    fun number hmem => h.bounded number (hsublist.subset hmem)⟩

lemma live_of_dead (h : connection.isLive = false) : connection.live = [] := by
  rw [Connection.live, h]
  rfl

lemma Ordered.step (h : Ordered link) (hsound : Sound node link) (hpatient : Patient link event)
    (hstep : link.step node event = some after) : Ordered after := by
  cases stepped_of_step hstep with
  | sent envelope =>
    have hline : line { link with
        accepted := link.accepted ++ [envelope]
        queue := link.queue ++ [link.accepted.length] } = link.line ++ [link.accepted.length] := by
      simp only [line, append_assoc]
    refine ⟨h.newest, h.stream, ?_, ?_⟩
    · rw [hline]
      exact pairwise_concat h.sorted h.bounded
    · rw [hline, length_append]
      exact forall_mem_concat (fun number hmem => (h.bounded number hmem).trans_le
        (Nat.le_add_right _ _)) (Nat.lt_succ_self _)
  | @taken number queue envelope hcurrent hqueue haccepted =>
    refine h.shrink _ _ ?_
    rw [hcurrent, hqueue]
    cases node.codec.encode envelope with
    | none => exact sublist_cons_self _ _
    | some => exact .refl _
  | connected =>
    have hnone := hpatient rfl
    have hempty : newestLive (link.connections ++ [⟨[], ⟨[], .serving, []⟩, false, false⟩]) = [] := by
      rw [newestLive, List.getLast?_concat]
      rfl
    have hsublist : (line { link with
        stream := some link.connections.length
        connections := link.connections ++ [⟨[], ⟨[], .serving, []⟩, false, false⟩] }).Sublist
        link.line := by
      rw [line, line, hempty]
      exact .append_left (sublist_append_right _ _) _
    refine ⟨fun index connection hfound hne => ?_, fun index hindex => ?_,
      h.sorted.sublist hsublist, fun number hmem => h.bounded number (hsublist.subset hmem)⟩
    · rcases mem_append.mp (mem_of_getElem? hfound) with hmem | hmem
      · exact (hne (hnone connection hmem)).elim
      · rw [mem_singleton.mp hmem] at hne
        exact (hne rfl).elim
    · cases hindex
      rw [length_append]
      rfl
  | gaveUp => exact h.shrink none link.queue (sublist_append_right _ _)
  | @wrote sending index connection bytes hcurrent hstream hconnection hwhole hframe =>
    have hnewest := h.stream index hstream
    refine h.set hconnection (fun _ => hnewest) (fun _ => id) (fun _ => ?_)
      (fun hne => (hne hnewest).elim)
    rw [hcurrent]
    refine .append_left ?_ _
    show ((if connection.isLive then (connection.frames ++ [(sending.number, bytes)]).map Prod.fst
        else []) ++ link.queue).Sublist
      ((if connection.isLive then connection.frames.map Prod.fst else []) ++
        sending.number :: link.queue)
    split_ifs <;> simp
  | @failed sending index connection cut transmitted hcurrent hstream hconnection hcut =>
    have hnewest := h.stream index hstream
    refine h.set hconnection (fun _ => hnewest) (fun other hsome => ?_) (fun _ => ?_)
      (fun hne => (hne hnewest).elim)
    · split_ifs at hsome
      rw [hstream]
      exact hsome
    · rw [hcurrent]
      refine .append_left (.append_left (.append_right ?_ _) _) _
      split_ifs
      · exact .refl _
      · exact nil_sublist _
  | shut hconnection =>
    refine h.set hconnection (fun hne => ?_) (fun _ hnone => ?_) (fun _ => ?_)
      (fun _ => ⟨rfl, .refl _⟩)
    · exact h.newest _ _ hconnection hne
    · cases hnone
    · exact .refl _
  | @turned index connection after hconnection hread =>
    rcases hsound.read hconnection hread with
      ⟨number, bytes, frames, envelope, inbound, hframes, -, hlive, -, rfl⟩ |
      ⟨inbound, -, hdead, rfl⟩
    · have hcarried : connection.live = number :: frames.map Prod.fst := by
        rw [Connection.live, hlive, hframes]
        rfl
      have hnewest : index + 1 = link.connections.length :=
        h.newest index connection hconnection (by rw [hcarried]; exact cons_ne_nil _ _)
      refine h.set hconnection (fun _ => hnewest) (fun _ => id) (fun _ => ?_)
        (fun hne => (hne hnewest).elim)
      simp only [hcarried, map_append, append_assoc, map_cons, map_nil, cons_append, nil_append]
      refine .append_left (.cons_cons number (.append_right ?_ _)) _
      simp only [Connection.live]
      split_ifs
      · exact .refl _
      · exact nil_sublist _
    · have hless : (Connection.live { connection with inbound := inbound }).Sublist
          connection.live := by
        cases hlive : connection.isLive with
        | false => rw [live_of_dead (hdead hlive)]; exact nil_sublist _
        | true =>
          simp only [Connection.live, hlive, if_true]
          split_ifs
          · exact .refl _
          · exact nil_sublist _
      refine h.set hconnection (fun hne => h.newest index connection hconnection (fun hnil => ?_))
        (fun _ => id) (fun _ => .append_left (.append_right hless _) _)
        (fun _ => ⟨rfl, .refl _⟩)
      rw [hnil] at hless
      exact hne (sublist_nil.mp hless)
  | lost hconnection =>
    refine h.set hconnection (fun hne => (hne rfl).elim) (fun _ => id)
      (fun _ => .append_left ?_ _) (fun _ => ⟨rfl, .refl _⟩)
    exact sublist_append_right _ _

/-- Whatever fails, times out or is interleaved, every envelope handed over was accepted and is
handed over once. The order of acceptance is kept where a new connection waits until the
receiver is done with the earlier ones. -/
theorem link_hands_over_once (node : InboundNode) {events : List LinkEvent} {link : Link}
    (hrun : runFrom (step node) new events = some link) : (link.handed.map Prod.fst).Nodup ∧
    (∀ handed ∈ link.handed, link.accepted[handed.1]? = some handed.2) ∧
    (StepsMeet (step node) Patient new events → (link.handed.map Prod.fst).Pairwise (· < ·)) := by
  have hsound : Sound node link :=
    runFrom_invariant (step node) (fun _ _ _ h hstep => h.step hstep) (sound_new node) hrun
  refine ⟨nodup_iff_count_le_one.mpr (fun number => ?_), hsound.genuine, fun hpatient => ?_⟩
  · have honce := hsound.once number
    rw [occurrences] at honce
    split_ifs at honce <;> omega
  · have hstep : ∀ before event after, Sound node before ∧ Ordered before →
        Patient before event → step node before event = some after →
          Sound node after ∧ Ordered after :=
      fun _ _ _ h hmeets hstep => ⟨h.1.step hstep, h.2.step h.1 hmeets hstep⟩
    have hboth := runFrom_invariant_of_meets (step node) hstep ⟨sound_new node, ordered_new⟩
      hpatient hrun
    exact (pairwise_append.mp hboth.2.sorted).1

/-- One envelope is written before the idle timeout and one after it; the second connection is read
first. -/
def overtaken : List LinkEvent :=
  [.send ⟨.entity "unknown" "1", []⟩, .receiveCommand, .connect true, .write none, .idleTimeout,
    .send ⟨.entity "cart" "1", []⟩, .receiveCommand, .connect true, .write none, .read 1, .read 0]

/-- The second envelope is handed over before the first. -/
theorem idle_timeout_reorders :
    (runFrom (step cartNode) new overtaken).map (fun link => link.handed.map Prod.fst) =
      some [1, 0] := by
  decide +kernel

def unhurried : List LinkEvent :=
  [.send ⟨.entity "cart" "1", []⟩, .receiveCommand, .connect true, .write none, .idleTimeout,
    .read 0, .read 0, .send ⟨.entity "cart" "1", []⟩, .receiveCommand, .connect true, .write none,
    .read 1]

theorem unhurried_in_order : ∃ link, runFrom (step cartNode) new unhurried = some link ∧
    link.handed.length = 2 ∧ (link.handed.map Prod.fst).Pairwise (· < ·) := by
  have hpatient : StepsMeet (step cartNode) Patient new unhurried := by decide +kernel
  have hsome : ((runFrom (step cartNode) new unhurried).map
      (fun link => link.handed.length)) = some 2 := by decide +kernel
  obtain ⟨link, hrun, hlength⟩ := map_eq_some_iff.mp hsome
  exact ⟨link, hrun, hlength, (link_hands_over_once cartNode hrun).2.2 hpatient⟩

end Link
end Rakka.Remote
