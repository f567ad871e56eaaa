import Pihpsdr.Lib.Packet
import Pihpsdr.Simulator.Impl.Ep6
import Pihpsdr.Simulator.Lemmas.Mirror
import Pihpsdr.OldProtocol.Lemmas.OzyDeliver
import Pihpsdr.OldProtocol.Lemmas.MetisRead

/-!
The samples on their way from the radio to the program: what `handler_ep6` sends, read by
`metis_read` and taken apart by `process_ozy_byte`.
-/

namespace Simulator

open OldProtocol

variable (board : Board) (anan10e : Bool)

-- a sample after it has been sent with 24 bits
def wrap24 (s : IqSample) : IqSample := (s.1.bmod (2 ^ 24), s.2.bmod (2 ^ 24))

def sampleBits (s : IqSample) : BitVec 24 × BitVec 24 := (BitVec.ofInt 24 s.1, BitVec.ofInt 24 s.2)

theorem iqValue_sampleBits (s : IqSample) : iqValue (sampleBits s) = wrap24 s := by
  simp only [iqValue, sampleBits, wrap24, BitVec.toInt_ofInt]

def blockGroup (n : Nat) (r : Registers) (s : SimSample) : OzyGroup where
  iq := (List.range n).map fun k => sampleBits (r.receiverSample board anan10e k s)
  mic := 0

-- what the program is to find in a block
def blockFrame (n : Nat) (offset : Nat) (r : Registers) (b : SimBlock) : OzyFrame n where
  control := controlBytes board r b.inputs offset
  groups := (List.range (504 / (n * 6 + 2))).map fun j => blockGroup board anan10e n r (b.samples j)
  length_groups := by simp
  length_iq := by simp [blockGroup]

variable {board anan10e} {n : Nat} {r : Registers}

theorem groupBytes_eq (hn : r.general.receivers = n) (s : SimSample)
    : groupBytes board anan10e r s = (blockGroup board anan10e n r s).bytes := by
  have hmic : micBytes 0 = [0, 0] := by decide
  unfold groupBytes OzyGroup.bytes blockGroup
  rw [hn, hmic, List.flatMap_map]
  rfl

theorem blockBytes_eq (hn : r.general.receivers = n) (hpos : 1 ≤ n) (offset : Nat) (b : SimBlock)
    : blockBytes board anan10e offset r b = (blockFrame board anan10e n offset r b).bytes := by
  have hper : samplesPerBlock r = 504 / (n * 6 + 2) := by
    unfold samplesPerBlock
    rw [hn, if_pos (by omega)]
    rfl
  have hgroups : (List.range (samplesPerBlock r)).flatMap
      (fun j => groupBytes board anan10e r (b.samples j))
        = (blockFrame board anan10e n offset r b).groups.flatMap OzyGroup.bytes := by
    rw [hper, blockFrame, List.flatMap_map]
    simp only [groupBytes_eq hn]
  have hlen : ((blockFrame board anan10e n offset r b).groups.flatMap OzyGroup.bytes).length =
      504 / (n * 6 + 2) * (n * 6 + 2) := by
    rw [length_groupBytes _ (blockFrame board anan10e n offset r b).length_iq,
      (blockFrame board anan10e n offset r b).length_groups]
  unfold blockBytes OzyFrame.bytes
  dsimp only
  rw [hgroups, hlen]
  rfl

-- the samples of a packet, in the order of time
def SimPacket.times (p : SimPacket) : List SimSample :=
  (List.range (samplesPerBlock p.registers)).map p.first.samples
    ++ (List.range (samplesPerBlock p.registers)).map p.second.samples

def packetFrames (board : Board) (anan10e : Bool) (n : Nat)
    : Ep6 → List SimPacket → List (OzyFrame n)
  | _, [] => []
  | s, p :: ps =>
    blockFrame board anan10e n s.headerOffset p.registers p.first
      :: blockFrame board anan10e n (nextOffset s.headerOffset) p.registers p.second
      :: packetFrames board anan10e n (s.send board anan10e p).1 ps

theorem drop_send (s : Ep6) (p : SimPacket)
    : (s.send board anan10e p).2.drop 8
        = blockBytes board anan10e s.headerOffset p.registers p.first
          ++ blockBytes board anan10e (nextOffset s.headerOffset) p.registers p.second := by
  simp [Ep6.send, sequenceBytes]

theorem flatMap_sendAll (s : Ep6) {ps : List SimPacket} (hpos : 1 ≤ n)
    (hn : ∀ p ∈ ps, p.registers.general.receivers = n)
    : (s.sendAll board anan10e ps).flatMap (List.drop 8)
        = (packetFrames board anan10e n s ps).flatMap OzyFrame.bytes := by
  induction ps generalizing s with
  | nil => rfl
  | cons p ps ih =>
    have hp := hn p List.mem_cons_self
    rw [Ep6.sendAll, packetFrames, List.flatMap_cons, List.flatMap_cons, List.flatMap_cons]
    rw [ih _ (fun p hp => hn p (List.mem_cons_of_mem _ hp)), drop_send, blockBytes_eq hp hpos,
      blockBytes_eq hp hpos, List.append_assoc]

-- Each group of the frames belongs to a time, with a sample for each receiver.
theorem filterMap_packetFrames {β : Type} (of : OzyGroup → Option β)
    (spec : Registers → SimSample → β)
    (hof : ∀ r s, of (blockGroup board anan10e n r s) = some (spec r s)) (hpos : 1 ≤ n) (s : Ep6)
    {ps : List SimPacket} (hn : ∀ p ∈ ps, p.registers.general.receivers = n)
    : (allGroups (packetFrames board anan10e n s ps)).filterMap of
        = ps.flatMap fun p => p.times.map (spec p.registers) := by
  induction ps generalizing s with
  | nil => rfl
  | cons p ps ih =>
    have hp := hn p List.mem_cons_self
    have hper : samplesPerBlock p.registers = 504 / (n * 6 + 2) := by
      unfold samplesPerBlock
      rw [hp, if_pos (by omega)]
      rfl
    have hblock : ∀ (offset : Nat) (b : SimBlock),
        (blockFrame board anan10e n offset p.registers b).groups.filterMap of
          = ((List.range (samplesPerBlock p.registers)).map b.samples).map (spec p.registers) := by
      intro offset b
      rw [blockFrame, List.filterMap_map, List.map_map, hper]
      have hsome : (of ∘ fun j => blockGroup board anan10e n p.registers (b.samples j))
          = fun j => some (spec p.registers (b.samples j)) := funext fun j => hof _ _
      rw [hsome, List.filterMap_eq_map']
      rfl
    have ih := ih (s.send board anan10e p).1 (fun p hp => hn p (List.mem_cons_of_mem _ hp))
    unfold allGroups at ih ⊢
    rw [packetFrames, List.flatMap_cons, List.flatMap_cons, List.flatMap_cons, List.filterMap_append,
      List.filterMap_append, hblock, hblock, ih, SimPacket.times, List.map_append, List.append_assoc]

-- the packets that `metis_read` reads, with the count of sequence errors
def receiveAll (passes : Nat) (q : MetisSequence)
    : List (List Byte) → MetisSequence × List (List Byte)
  | [] => (q, [])
  | datagram :: datagrams =>
    match metisRead passes (.udp (some datagram)) metisBufferSize q with
    | none => receiveAll passes q datagrams
    | some r =>
      let (q, buffers) := receiveAll passes r.sequence datagrams
      (q, if 0 ≤ r.ret then r.buffer :: buffers else buffers)

theorem length_send (board : Board) (anan10e : Bool) (s : Ep6) {p : SimPacket} (hpos : 1 ≤ n)
    (hn : p.registers.general.receivers = n)
    : (s.send board anan10e p).2.length = 1032 := by
  simp only [Ep6.send, blockBytes_eq hn hpos, List.length_append, OzyFrame.length_bytes]
  rfl

theorem metisRead_send (passes : Nat) (q : MetisSequence) (s : Ep6) {p : SimPacket} (hpos : 1 ≤ n)
    (hn : p.registers.general.receivers = n)
    : metisRead passes (.udp (some (s.send board anan10e p).2)) metisBufferSize q
        = some ⟨0, (s.send board anan10e p).2, q.check s.counter⟩ := by
  have hlen := length_send board anan10e s hpos hn
  have hsequence : metisSequence (s.send board anan10e p).2 = s.counter :=
    Packet.append_extract s.counter
  have hheader : iqHeader (s.send board anan10e p).2 = true := by
    simp [Ep6.send, iqHeader]
  unfold metisRead metisBytes
  dsimp only
  rw [List.take_of_length_le (by rw [hlen]; decide), hlen, hsequence, if_pos ⟨rfl, hheader⟩]

-- All packets are read, and no sequence error is found.
theorem receiveAll_sendAll (board : Board) (anan10e : Bool) (passes : Nat) (q : MetisSequence)
    (s : Ep6) {ps : List SimPacket}
    (hpos : 1 ≤ n) (hn : ∀ p ∈ ps, p.registers.general.receivers = n)
    (hs : s.counter = 0 ∨ s.counter = q.last + 1)
    : (receiveAll passes q (s.sendAll board anan10e ps)).1.errors = q.errors
        ∧ (receiveAll passes q (s.sendAll board anan10e ps)).2 = s.sendAll board anan10e ps := by
  induction ps generalizing q s with
  | nil => exact ⟨rfl, rfl⟩
  | cons p ps ih =>
    have herrors : (q.check s.counter).errors = q.errors := by
      unfold MetisSequence.check
      dsimp only
      rw [if_neg]
      rintro ⟨h0, h1⟩
      cases hs with
      | inl h => exact h0 h
      | inr h => exact h1 h
    have ⟨hq, hbuffers⟩ := ih (q.check s.counter) (s.send board anan10e p).1
      (fun p hp => hn p (List.mem_cons_of_mem _ hp)) (.inr rfl)
    rw [Ep6.sendAll]
    simp only [receiveAll, metisRead_send passes q s hpos (hn p List.mem_cons_self), hbuffers,
      Int.le_refl, if_true, hq, herrors, and_self]

theorem sample_blockGroup {k : Nat} (hk : k < n) (r : Registers) (s : SimSample)
    : (blockGroup board anan10e n r s).sample k
        = some (wrap24 (r.receiverSample board anan10e k s)) := by
  simp [OzyGroup.sample, blockGroup, hk, iqValue_sampleBits]

theorem pair_blockGroup {a b : Nat} (ha : a < n) (hb : b < n) (r : Registers) (s : SimSample)
    : (blockGroup board anan10e n r s).pair a b
        = some (wrap24 (r.receiverSample board anan10e a s),
          wrap24 (r.receiverSample board anan10e b s)) := by
  simp only [OzyGroup.pair, sample_blockGroup ha, sample_blockGroup hb]

theorem receivers_le_howManyReceivers (c : ReceiverSettings)
    : c.receivers ≤ howManyReceivers c ∧ (c.diversityEnabled = true → 2 ≤ howManyReceivers c) := by
  have hmem := c.receivers_eq
  unfold howManyReceivers
  cases c.puresignal with
  | true =>
    have hle : c.receivers ≤ 2 := by omega
    cases c.device <;> simp <;> try omega
    cases c.anan10E <;> simp <;> omega
  | false =>
    cases hdiv : c.diversityEnabled with
    | true => simp; omega
    | false =>
      simp only [Bool.false_eq_true, if_false, false_implies, and_true]
      split <;> omega

-- What the radio sends as the feedback of the transmitter is the signal of the DAC where the radio
-- and the program agree on its channel.
def feedbackPair (board : Board) (c : ReceiverSettings) (r : Registers) (s : SimSample)
    : IqSample × IqSample :=
  (wrap24 (if board = .hermesLite2 ∨ board = .g2e then
      r.adcSample (txFeedbackChannel c.device c.anan10E) s
    else
      s.dac),
    wrap24 (r.adcSample (rxFeedbackChannel c.device c.anan10E) s))

theorem receiverSample_feedback (board : Board) {c : ReceiverSettings} {r : Registers}
    (hboard : board.device = c.device) (hptt : r.ptt ≠ 0) (s : SimSample)
    : (wrap24 (r.receiverSample board c.anan10E (txFeedbackChannel c.device c.anan10E) s),
        wrap24 (r.receiverSample board c.anan10E (rxFeedbackChannel c.device c.anan10E) s))
      = feedbackPair board c r s := by
  unfold Registers.receiverSample feedbackPair
  rw [← hboard]
  cases board <;> cases c.anan10E <;>
    simp [Board.device, txFeedbackChannel, rxFeedbackChannel, txdac, hptt]

/--
What the radio sends while it runs with the number of receivers that the program expects is read
without a sequence error, and the samples arrive in order: while receiving, those of the first two
receivers; with diversity, the pairs of them; while transmitting with PureSignal, the pairs of the
two feedback channels.
-/
theorem receiveAll_delivers (board : Board) (c : ReceiverSettings) (hboard : board.device = c.device)
    (ps : List SimPacket) (hn : ∀ p ∈ ps, p.registers.general.receivers = howManyReceivers c)
    (passes : Nat) (q : MetisSequence) (env : Nat → OzyEnv) (henv : ∀ t, (env t).Loaded c)
    (p : OzyParser) (hp : p.state = .sync0)
    : let received := receiveAll passes q (Ep6.init.sendAll board c.anan10E ps)
      let run := processOzyBytes env 0 p (received.2.flatMap (List.drop 8))
      let sent := fun (k : Nat) (r : Registers) s => wrap24 (r.receiverSample board c.anan10E k s)
      received.1.errors = q.errors
        ∧ run.1.state = .sync0
        ∧ ((∀ t, (env t).Receiving ∧ (env t).receivers = c.receivers) →
            ∀ rx < c.receivers, run.2.filterMap (OzyOutput.iqOf rx) =
              ps.flatMap fun p => p.times.map (sent rx p.registers))
        ∧ (c.diversityEnabled = true → (∀ t, (env t).ReceivingDiversity) →
            run.2.filterMap OzyOutput.diversityOf =
              ps.flatMap fun p => p.times.map fun s => (sent 0 p.registers s, sent 1 p.registers s))
        ∧ (c.puresignal = true → (∀ t, (env t).TransmittingPuresignal) →
            (∀ p ∈ ps, p.registers.ptt ≠ 0) →
            run.2.filterMap OzyOutput.puresignalOf =
              ps.flatMap fun p => p.times.map (feedbackPair board c p.registers)) := by
  have hpos := howManyReceivers_pos c
  have ⟨hle, htwo⟩ := receivers_le_howManyReceivers c
  have ⟨herrors, hbuffers⟩ := receiveAll_sendAll board c.anan10E passes q .init hpos hn
    (.inl rfl)
  have ⟨p', hrun, hp', _⟩ :=
    processOzyBytes_frames env (fun t => (henv t).1) (howManyReceivers_le c) hpos 0 p
      (packetFrames board c.anan10E (howManyReceivers c) .init ps) hp
  intro received run sent
  have hframes : run = processOzyBytes env 0 p
      ((packetFrames board c.anan10E (howManyReceivers c) .init ps).flatMap OzyFrame.bytes) := by
    rw [← flatMap_sendAll .init hpos hn, ← hbuffers]
  rw [hframes, hrun]
  refine ⟨herrors, hp', ?_, ?_, ?_⟩
  . intro hmode rx hrx
    rw [iqOf_deliverFrames env rx (rx = 0 ∨ rx = 1 ∧ 1 < c.receivers)]
    . have : rx = 0 ∨ rx = 1 ∧ 1 < c.receivers := by
        have := c.receivers_eq
        omega
      rw [if_pos this]
      exact filterMap_packetFrames _ _ (sample_blockGroup (by omega)) hpos .init hn
    . intro t r s k
      rw [iqOf_deliverSample_receiving (hmode t).1, (hmode t).2]
  . intro hdiv hmode
    have hlt := htwo hdiv
    rw [diversityOf_deliverFrames env hmode]
    exact filterMap_packetFrames _ _ (pair_blockGroup (by omega) (by omega)) hpos .init hn
  . intro hps hmode hptt
    have htx := txFeedbackChannel_lt c hps
    have hrx := rxFeedbackChannel_lt_txFeedbackChannel c.device c.anan10E
    rw [puresignalOf_deliverFrames env hmode (fun t => (henv t).1) (fun t => (henv t).2.1)
      (fun t => (henv t).2.2) hrx htx,
      filterMap_packetFrames _ _ (pair_blockGroup htx (by omega)) hpos .init hn]
    apply List.flatMap_congr
    intro p hp
    apply List.map_congr_left
    intro s _
    exact receiverSample_feedback board hboard (hptt p hp) s

-- a packet while receiving with one receiver
def hermesPacket : SimPacket :=
  let inputs : SimInputs := ⟨false, false, false, true, true, true, true, 0, 0⟩
  let samples : Nat → SimSample := fun j => ⟨(j, -j), (0, 0), (0, 0)⟩
  { registers :=
      { Registers.init with
        general := { Registers.init.general with receivers := 1 }
        adcs := { Registers.init.adcs with rxAdc := fun _ => 0 } }
    first := ⟨inputs, samples⟩
    second := ⟨inputs, samples⟩ }

theorem receiveAll_delivers_hermes
    : (processOzyBytes (fun _ => singleReceiverEnv) 0 .init
          ((receiveAll 0 ⟨0, 0⟩ (Ep6.init.sendAll .hermes false [hermesPacket])).2.flatMap
            (List.drop 8))).2.filterMap (OzyOutput.iqOf 0)
        = [hermesPacket].flatMap fun p => p.times.map fun s =>
          wrap24 (p.registers.receiverSample .hermes false 0 s) :=
  (receiveAll_delivers .hermes singleReceiver rfl [hermesPacket]
    (by simp [hermesPacket, howManyReceivers, singleReceiver]) 0 ⟨0, 0⟩ (fun _ => singleReceiverEnv)
    (fun _ => ⟨rfl, rfl, rfl⟩) .init rfl).2.2.1 (fun _ => ⟨⟨.inl rfl, rfl⟩, rfl⟩) 0 (by decide)

end Simulator
