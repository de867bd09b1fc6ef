/-
  What a receiver does with the datagrams that wait for it.

  A round takes the datagram at the front of the queue, and what comes in meanwhile goes behind the
  others (`ready_round`, `Ready.meanwhile`); so the datagrams are handled in the order in which they
  wait, whatever else happens (`ready_run`). The comparison of lengths is made with what came into
  the buffer, not with the datagram as it was sent.

  Main statement. `handled_of_waiting`: whatever a datagram is, either nothing but one failure is
  reported, or its frame is counted and handed on; and then the datagram is as long as its header
  announces, unless it is longer than the buffer and its first 512 octets are a frame of their own.
-/
import KnxIp.Network.Basic
import KnxIp.Network.Receiver
import KnxIp.Proofs.Channel.Dispatch
import KnxIp.Proofs.Frame.RoundTrip

namespace KnxIp

/-- A header is read from the front alone. -/
theorem Header.parse_append {bs : Bytes} {h : Header} (hh : parse bs = .ok h) (rest : Bytes) :
    parse (bs ++ rest) = .ok h := by
  unfold parse at hh
  split at hh
  · exact hh
  · cases hh

namespace Receiver

variable {r s : Receiver} {bytes : Bytes} {source : Endpoint}
  {inbound queue : List (Bytes × Endpoint)}

/-- The receiver's transport is open, its buffer takes 512 octets, and these datagrams wait before
all others. -/
structure Ready (r : Receiver) (queue : List (Bytes × Endpoint)) : Prop where
  isOpen : r.transport.closed = false
  room : r.buffer.length = maxFrameSize
  waiting : ∃ more, r.transport.inbound = queue ++ more

/-- What a datagram leads to. -/
def handled (r : Receiver) (source : Endpoint) (bytes : Bytes) : Handled :=
  r.context.dispatch r.role r.peers (fun _ => none) source (bytes.take maxFrameSize)

/-- The transport after a datagram was taken and the reply was sent. -/
def afterwards (r : Receiver) (inbound : List (Bytes × Endpoint)) :
    Option Datagram → MemoryTransport
  | none => { r.transport with inbound }
  | some d => { r.transport with inbound }.send d.bytes d.destination

/-- A round in which a datagram waits: 512 octets of it are handled. -/
theorem round_of_waiting (isOpen : r.transport.closed = false)
    (room : r.buffer.length = maxFrameSize)
    (waiting : r.transport.inbound = (bytes, source) :: inbound) :
    r.round = { r with
      context := (r.handled source bytes).context
      transport := r.afterwards inbound (r.handled source bytes).reply
      buffer := overlay (bytes.take maxFrameSize) r.buffer } := by
  have taken : r.transport.receive r.buffer =
      (some ((bytes.take maxFrameSize).length, overlay (bytes.take maxFrameSize) r.buffer, source),
        { r.transport with inbound }) := by
    simp only [MemoryTransport.receive, isOpen, waiting, room]
  have part : (overlay (bytes.take maxFrameSize) r.buffer).take (bytes.take maxFrameSize).length =
      bytes.take maxFrameSize := List.take_left
  rw [round, taken]
  simp only [part]
  rw [handled]
  split <;> rename_i reply <;> rw [reply] <;> rfl

/-! ## The queue -/

theorem closed_afterwards (r : Receiver) (reply : Option Datagram) :
    (r.afterwards inbound reply).closed = r.transport.closed := by
  cases reply <;> rfl

/-- What a reply brings in waits behind the others. -/
theorem inbound_afterwards (r : Receiver) (inbound : List (Bytes × Endpoint))
    (reply : Option Datagram) :
    ∃ more, (r.afterwards inbound reply).inbound = inbound ++ more := by
  cases reply with
  | none => exact ⟨[], (List.append_nil inbound).symm⟩
  | some d => exact ⟨_, rfl⟩

/-- One round takes the datagram that waits first. -/
theorem ready_round (h : r.Ready ((bytes, source) :: queue)) : r.round.Ready queue := by
  obtain ⟨more, waiting⟩ := h.waiting
  rw [round_of_waiting h.isOpen h.room waiting]
  constructor
  · exact (closed_afterwards r _).trans h.isOpen
  · refine (length_overlay ?_).trans h.room
    rw [List.length_take, h.room]
    exact Nat.min_le_left _ _
  · obtain ⟨later, behind⟩ := r.inbound_afterwards (queue ++ more) (r.handled source bytes).reply
    exact ⟨more ++ later, by rw [← List.append_assoc]; exact behind⟩

theorem Ready.meanwhile (h : r.Ready queue) (others : r.Meanwhile s) : s.Ready queue := by
  obtain ⟨more, waiting⟩ := h.waiting
  obtain ⟨later, inbound⟩ := others.inbound
  refine ⟨others.closed.trans h.isOpen, ?_, more ++ later, ?_⟩
  · rw [others.buffer, h.room]
  · rw [inbound, waiting, List.append_assoc]

/-- So many rounds take so many datagrams, in the order in which they wait. -/
theorem ready_run {n : Nat} (h : r.Ready queue) (run : r.Run n s) (most : n ≤ queue.length) :
    s.Ready (queue.drop n) := by
  induction run with
  | start others => exact h.meanwhile others
  | @round n s s' _ others ih =>
    have before := ih (Nat.le_of_succ_le most)
    rw [List.drop_eq_getElem_cons most] at before
    exact (ready_round before).meanwhile others

/-! ## One datagram -/

theorem length_take (bytes : Bytes) :
    (bytes.take maxFrameSize).length = min maxFrameSize bytes.length :=
  List.length_take

/-- What happens to the datagram that waits first: a failure is reported and nothing else, or the
frame at its front is counted and handed on. -/
theorem handled_first (h : r.Ready ((bytes, source) :: queue)) :
    (∃ f, Frame.decode (bytes.take maxFrameSize) = .error f ∧
      r.round.context = r.context.report (.fault f) ∧
      r.round.transport = { r.transport with inbound := r.transport.inbound.tail }) ∨
    ∃ frame, Frame.decode (bytes.take maxFrameSize) = .ok frame ∧
      r.round.context = ((r.context.received frame (min maxFrameSize bytes.length)).handleFrame
        r.role r.peers (fun _ => none) source frame.body).context := by
  obtain ⟨more, waiting⟩ := h.waiting
  rw [round_of_waiting h.isOpen h.room waiting]
  cases decoded : Frame.decode (bytes.take maxFrameSize) with
  | error f =>
    have dropped : r.handled source bytes = ⟨r.context.report (.fault f), none⟩ := by
      rw [handled, Context.dispatch, decoded]
    refine .inl ⟨f, rfl, ?_, ?_⟩
    · rw [dropped]
    · rw [dropped, waiting]
      rfl
  | ok frame =>
    have taken : r.handled source bytes =
        (r.context.received frame (min maxFrameSize bytes.length)).handleFrame r.role r.peers
          (fun _ => none) source frame.body := by
      rw [handled, Context.dispatch, decoded, ← length_take]
    exact .inr ⟨frame, rfl, by rw [taken]⟩

/-- The frame at the front of a datagram has the header of the datagram, and is as long as it
announces unless it ends where the buffer does and the datagram does not. -/
theorem header_of_decode_take {frame : Frame}
    (decoded : Frame.decode (bytes.take maxFrameSize) = .ok frame) :
    Header.parse bytes = .ok frame.header ∧
      frame.header.totalLength.toNat = min maxFrameSize bytes.length := by
  obtain ⟨header, total, -, -⟩ := Frame.decode_eq_ok_iff.mp decoded
  have whole := Header.parse_append header (bytes.drop maxFrameSize)
  rw [List.take_append_drop] at whole
  exact ⟨whole, total.trans (length_take bytes)⟩

/-- Of the datagrams that wait at an open transport, each is taken in its turn, whatever else
happens between the rounds. Either one failure is reported: it is counted and queued for the
observers, and all else is as it was. Or the frame that its first 512 octets are is counted, shown
to the observers and handed on. The total length in the header of that frame is the size of the
datagram exactly if this is not more than 512: of a longer one only the end of the buffer is
compared with it. -/
theorem handled_of_waiting {n : Nat} (h : r.Ready queue) (run : r.Run n s)
    (waits : queue[n]? = some (bytes, source)) :
    (∃ f, Frame.decode (bytes.take 512) = .error f ∧
      s.round.context = s.context.report (.fault f) ∧
      s.context.Reports (.fault f) s.round.context ∧
      s.round.context.connection = s.context.connection ∧
      s.round.transport = { s.transport with inbound := s.transport.inbound.tail }) ∨
    ∃ frame, Frame.decode (bytes.take 512) = .ok frame ∧
      s.round.context = ((s.context.received frame (min 512 bytes.length)).handleFrame
        s.role s.peers (fun _ => none) source frame.body).context ∧
      Header.parse bytes = .ok frame.header ∧
      (frame.header.totalLength.toNat = bytes.length ↔ bytes.length ≤ 512) := by
  obtain ⟨place, same⟩ := List.getElem?_eq_some_iff.mp waits
  have first := ready_run h run (Nat.le_of_lt place)
  rw [List.drop_eq_getElem_cons place, same] at first
  obtain ⟨f, unread, reported, transport⟩ | ⟨frame, decoded, taken⟩ := handled_first first
  · obtain ⟨reports, connection⟩ := s.context.reports_report (.fault f)
    rw [← reported] at reports connection
    exact .inl ⟨f, unread, reported, reports, connection, transport⟩
  · obtain ⟨header, total⟩ := header_of_decode_take decoded
    refine .inr ⟨frame, decoded, taken, header, ?_⟩
    rw [total, maxFrameSize]
    omega

/-- A socket of the network treats a datagram in the same way, where every reply can be sent. -/
theorem context_receive {n : Network} (w : World) (socket : Socket) (source : Endpoint)
    (bytes : Bytes) (transport : MemoryTransport) (buffer : Bytes)
    (sends : ∀ attempts sender address d, (n.react attempts sender address d).refusal = none) :
    (w.receive n socket (.datagram source bytes)).context =
      (handled ⟨socket.role, socket.peers, w.context, transport, buffer⟩ source bytes).context := by
  obtain ⟨same, -⟩ := w.context_and_journal_receive n socket source bytes
  rw [same]
  simp only [sends]
  rfl

/-! ## A datagram that is too long -/

theorem Meanwhile.refl (r : Receiver) : r.Meanwhile r := ⟨rfl, rfl, rfl, [], by simp⟩

/-- A block of the manufacturer with so many zeros. -/
def filler (n : Nat) : OtherBlock := ⟨0xFE, List.replicate n 0⟩

/-- A device without a name, no families, and two blocks of the manufacturer: 506 octets. -/
def longDescription : Description where
  device :=
    { medium := 0x20, status := 0, address := ⟨0x1100⟩, project := 0
      serial := ⟨0, 1, 2, 3, 4, 5⟩, multicast := ⟨0, 0, 0, 0⟩
      hardware := ⟨0, 0x24, 0x6D, 0, 0, 1⟩, name := "" }
  families := ⟨[], by decide⟩
  others := [filler 253, filler 193]

/-- The frame of this description has 512 octets. -/
def longFrame : Frame := .ofBody (.descriptionResponse longDescription)

/-- The frame, and one octet more. -/
def oneTooLong : Bytes := longFrame.header.bytes ++ longFrame.body.bytes ++ [0]

/-- A receiver for descriptions at which these datagrams wait, watched by one observer. -/
def watched (datagrams : List Bytes) : Receiver :=
  new .description ⟨MemoryTransport.defaultPeer, none⟩ (.new (.pool [.steady] 1))
    { MemoryTransport.new MemoryTransport.defaultAddress with
      inbound := datagrams.map fun bytes => (bytes, MemoryTransport.defaultPeer) }

theorem ready_watched (datagrams : List Bytes) : (watched datagrams).Ready
    (datagrams.map fun bytes => (bytes, MemoryTransport.defaultPeer)) :=
  ⟨rfl, List.length_replicate, [], (List.append_nil _).symm⟩

/-- Behind two octets that are no frame, the longer datagram waits in the second place. -/
theorem handled_of_waiting_second :
    let r := watched [[0x06, 0x10], oneTooLong]
    let s := r.round
    r.Ready [([0x06, 0x10], MemoryTransport.defaultPeer),
      (oneTooLong, MemoryTransport.defaultPeer)] ∧ r.Run 1 s ∧
    ((∃ f, Frame.decode (oneTooLong.take 512) = .error f ∧
        s.round.context = s.context.report (.fault f) ∧
        s.context.Reports (.fault f) s.round.context ∧
        s.round.context.connection = s.context.connection ∧
        s.round.transport = { s.transport with inbound := s.transport.inbound.tail }) ∨
      ∃ frame, Frame.decode (oneTooLong.take 512) = .ok frame ∧
        s.round.context = ((s.context.received frame (min 512 oneTooLong.length)).handleFrame
          s.role s.peers (fun _ => none) MemoryTransport.defaultPeer frame.body).context ∧
        Header.parse oneTooLong = .ok frame.header ∧
        (frame.header.totalLength.toNat = oneTooLong.length ↔ oneTooLong.length ≤ 512)) := by
  intro r s
  have ready := ready_watched [[0x06, 0x10], oneTooLong]
  have run : r.Run 1 s := .round (.start (Meanwhile.refl r)) (Meanwhile.refl s)
  exact ⟨ready, run, handled_of_waiting ready run rfl⟩

theorem encodedLength_filler (n : Nat) : (filler n).encodedLength = 2 + n := by
  rw [OtherBlock.encodedLength, filler, List.length_replicate]

theorem plain_filler {n : Nat} (h : n ≤ 253) : (filler n).Plain :=
  ⟨by show (0xFE : UInt8) ≠ _; decide, by show (0xFE : UInt8) ≠ _; decide,
    Nat.le_trans (Nat.le_of_eq List.length_replicate) h⟩

theorem encodedLength_longDescription : longDescription.encodedLength = 506 := by
  simp only [longDescription, Description.encodedLength, List.foldr_cons, List.foldr_nil,
    encodedLength_filler, Families.encodedLength, List.length_nil, DeviceInfo.size]

theorem representable_longDescription : longDescription.Representable := by
  have name : DeviceInfo.NameFits longDescription.device.name :=
    ⟨Nat.zero_le _, fun c none => absurd none List.not_mem_nil⟩
  refine ⟨name, fun b hb => ?_⟩
  rcases List.mem_cons.mp hb with rfl | hb
  · exact plain_filler (by decide)
  · obtain rfl := List.mem_singleton.mp hb
    exact plain_filler (by decide)

theorem header_longFrame : longFrame.header = ⟨.descriptionResponse, 512⟩ := by
  show Header.forBody .descriptionResponse longDescription.encodedLength.toUInt16 = _
  rw [encodedLength_longDescription]
  rfl

theorem length_longFrame : (longFrame.header.bytes ++ longFrame.body.bytes).length = 512 := by
  have body : longFrame.body.encodedLength = 506 := encodedLength_longDescription
  rw [List.length_append, Header.length_bytes, Body.length_bytes, body, Header.size]

theorem decode_longFrame : Frame.decode (oneTooLong.take maxFrameSize) = .ok longFrame := by
  have front : oneTooLong.take maxFrameSize = longFrame.header.bytes ++ longFrame.body.bytes :=
    List.take_left' length_longFrame
  rw [front]
  exact Frame.decode_bytes_ofBody representable_longDescription
    (Nat.le_of_eq encodedLength_longDescription)

/-- A datagram of 513 octets whose header announces 512 is counted and shown to the observers, and
no error is counted. -/
theorem hears_one_too_long :
    oneTooLong.length = 513 ∧ Header.parse oneTooLong = .ok ⟨.descriptionResponse, 512⟩ ∧
      (watched [oneTooLong]).round.context.statistics.framesIn = 1 ∧
      (watched [oneTooLong]).round.context.statistics.errors = 0 ∧
      (watched [oneTooLong]).round.context.observers.queue = [.incoming longFrame] := by
  have size : oneTooLong.length = 513 := by
    rw [oneTooLong, List.length_append, length_longFrame]
    rfl
  obtain ⟨header, -⟩ := header_of_decode_take decode_longFrame
  rw [header_longFrame] at header
  obtain ⟨f, refused, -⟩ | ⟨frame, decoded, taken⟩ := handled_first (ready_watched [oneTooLong])
  · rw [decode_longFrame] at refused
    cases refused
  · obtain rfl : longFrame = frame := Except.ok.inj (decode_longFrame.symm.trans decoded)
    rw [taken]
    exact ⟨size, header, rfl, rfl, rfl⟩

end Receiver
end KnxIp
