import Pihpsdr.Lib.Run
import Pihpsdr.ClientServer.Impl.MicStream
import Pihpsdr.ClientServer.Lemmas.Framing

/-!
The stream of microphone samples is a queue of the samples of the valid packets, as long as no packet
promises more than it has and no timeout finds a packet of compressed audio in the buffer.
-/

namespace ClientServer

theorem readCells_writeCells (mem : Nat → Byte) (bytes : List Byte) {i n : Nat}
    (h : i + n ≤ bytes.length)
    : readCells (writeCells mem 0 bytes) i n = (bytes.drop i).take n := by
  apply List.ext_getElem
  . rw [length_readCells, List.length_take, List.length_drop]
    omega
  . intro k hk _
    rw [length_readCells] at hk
    have hwithin : 0 ≤ i + k ∧ i + k < 0 + bytes.length := by omega
    rw [List.getElem_take, List.getElem_drop]
    simp only [readCells, List.getElem_map, List.getElem_range, writeCells, dif_pos hwithin,
      Nat.sub_zero]

theorem field16At_writeCells (mem : Nat → Byte) (bytes : List Byte) {i : Nat}
    (h : i + 2 ≤ bytes.length)
    : field16At (writeCells mem 0 bytes) i = field16At (MicQueue.packet bytes) i := by
  unfold field16At MicQueue.packet
  rw [readCells_writeCells mem bytes h, readCells_writeCells _ bytes h]

section Packet

variable {mem : Nat → Byte} {bytes : List Byte}

theorem packetType_writeCells (h : headerSize ≤ bytes.length)
    : packetType (writeCells mem 0 bytes) = packetType (MicQueue.packet bytes) := by
  unfold headerSize at h
  unfold packetType
  rw [field16At_writeCells mem bytes (by omega)]

theorem packetNum_writeCells (h : headerSize ≤ bytes.length)
    : packetNum (writeCells mem 0 bytes) = packetNum (MicQueue.packet bytes) := by
  unfold headerSize at h
  unfold packetNum
  rw [field16At_writeCells mem bytes (by omega)]

theorem txAudioSamples_writeCells {num : Nat} (h : headerSize + 2 * num ≤ bytes.length)
    : (List.range num).map (txAudioSample (writeCells mem 0 bytes))
        =
      (List.range num).map (txAudioSample (MicQueue.packet bytes)) := by
  apply List.map_congr_left
  intro i hi
  have := List.mem_range.mp hi
  unfold txAudioSample
  rw [field16At_writeCells mem bytes (by omega)]

end Packet

theorem toNat_ofInt_num {x : Int} (hlo : 0 ≤ x) (hhi : x < 2 ^ 32)
    : (BitVec.ofInt 32 x).toNat = x.toNat := by
  rw [BitVec.toNat_ofInt]
  omega

theorem MicQueue.step_timeout {σ : Type} (decode : σ → List Byte → σ × List Int)
    (audioCompression : Bool) (q : MicQueue σ)
    : q.step decode audioCompression (.recvfrom .timeout) = q := by
  unfold step
  dsimp only
  split
  . rfl
  . rfl

namespace MicStream

section

variable {σ : Type} {decode : σ → List Byte → σ × List Int} {audioCompression : Bool}
  {s : MicStream σ} {q : MicQueue σ}

theorem process_short {n : Nat} (h : n < headerSize)
    : s.process decode audioCompression n = s := by
  unfold headerSize at h
  unfold process
  rw [if_pos]
  rw [toNat_ofInt_num (by omega) (by omega)]
  unfold headerSize
  omega

theorem process_timeout
    (h : ¬ (packetType s.buffer = some .infoTxaudioOpus ∧ audioCompression = true))
    : s.process decode audioCompression (-1) = s := by
  have hlarge : ¬ (BitVec.ofInt 32 (-1)).toNat < headerSize := by
    simp [headerSize]
  unfold process
  rw [if_neg hlarge]
  have hnegative : (-1 : Int) ≠ txAudioSize := by
    unfold txAudioSize
    omega
  split
  next hopus =>
    split
    next hcompression =>
      exact absurd ⟨hopus, hcompression⟩ h
    next => rfl
  next =>
    split
    next hpcm => exact absurd hpcm.2 hnegative
    next => rfl

theorem process_packet {n : Nat} (hle : headerSize ≤ n) (hlt : n ≤ micPacketSize)
    : s.process decode audioCompression n
        =
      if packetType s.buffer = some .infoTxaudioOpus then
        if audioCompression then s.txAudioOpus decode else s
      else if packetType s.buffer = some .infoTxaudio ∧ n = txAudioSize then
        s.txAudio
      else
        s := by
  have hlong : ¬ (BitVec.ofInt 32 n).toNat < headerSize := by
    unfold micPacketSize headerSize at hlt
    rw [toNat_ofInt_num (by omega) (by omega)]
    omega
  unfold process
  rw [if_neg hlong]
  simp only [Nat.cast_inj]

theorem refines_initial (buffer : Nat → Byte) (decoder : σ) (micRingBuffer : Nat → ℚ)
    : (initial buffer decoder micRingBuffer).Refines (MicQueue.initial decoder) where
  running := rfl
  decoder := rfl
  samples := rfl
  ring := by
    have hpos : 0 < micRingBufferSize := by decide
    apply Ring.Holds.empty hpos
  isEmpty := rfl
  taken := rfl

namespace Refines

theorem waiting_iff (h : s.Refines q)
    : s.Waiting ↔ q.Waiting := by
  unfold Waiting MicQueue.Waiting
  rw [h.running, h.samples]

theorem store (h : s.Refines q)
    : s.store.Refines q.store := by
  unfold MicStream.store MicQueue.store
  rw [h.samples]
  cases hsamples : q.samples with
  | nil => exact h
  | cons sample samples =>
    have hfull := h.ring.full_iff
    have hlen := h.ring.length_lt
    dsimp only
    by_cases hroom : Ring.next micRingBufferSize s.micRingInpt = s.micRingOutpt
    . rw [if_neg (not_not.mpr hroom), if_neg (by omega)]
      exact { h with samples := rfl }
    . rw [if_pos hroom, if_pos (by omega)]
      exact { h with samples := rfl, ring := h.ring.push hroom sample }

theorem remoteGetMicSample (h : s.Refines q)
    : s.remoteGetMicSample.Refines q.take := by
  have hring := h.ring
  unfold MicStream.remoteGetMicSample MicQueue.take
  rw [hring.fill_eq, h.isEmpty, h.taken]
  dsimp only
  split
  next => exact { h with isEmpty := rfl, taken := rfl }
  next hfilled =>
    cases hqueue : q.queue with
    | nil =>
      rw [hqueue] at hfilled
      simp [micRingLow] at hfilled
    | cons x queue =>
      rw [hqueue] at hring
      rw [hring.head_eq]
      exact { h with isEmpty := rfl, taken := rfl, ring := hring.pop }

theorem receive_datagram (h : s.Refines q) (bytes : List Byte) (hwaiting : s.Waiting)
    (hclean : s.Clean audioCompression (.recvfrom (.datagram bytes)))
    : (s.recvfrom decode audioCompression (.datagram bytes)).Refines
        (q.receive decode audioCompression (.datagram bytes)) := by
  have hpacket := hclean hwaiting
  have hmax : (bytes.take micPacketSize).length ≤ micPacketSize := List.length_take_le _ _
  unfold MicStream.recvfrom MicQueue.receive
  dsimp only at hpacket ⊢
  generalize bytes.take micPacketSize = bytes at *
  by_cases hlen : headerSize ≤ bytes.length
  . have ⟨hopus, hpcm⟩ := hpacket hlen
    rw [process_packet hlen hmax]
    dsimp only
    rw [packetType_writeCells hlen] at hopus hpcm ⊢
    rw [packetNum_writeCells hlen] at hopus hpcm
    by_cases htype : packetType (MicQueue.packet bytes) = some .infoTxaudioOpus
    . have hnotPcm : ¬ MicQueue.ValidPcm bytes := by
        intro hvalid
        rw [hvalid.2.1] at htype
        contradiction
      rw [if_pos htype, if_neg hnotPcm]
      by_cases hcompression : audioCompression = true
      . have hnum := hopus htype hcompression
        rw [if_pos hcompression]
        unfold txAudioOpus
        dsimp only
        rw [packetNum_writeCells hlen]
        by_cases hneg : packetNum (MicQueue.packet bytes) < 0
        . have hnotOpus : ¬ (MicQueue.ValidOpus bytes ∧ audioCompression = true) := by
            intro hvalid
            have := hvalid.1.2.2.1
            omega
          rw [if_pos hneg, if_neg hnotOpus]
          exact { h with }
        . have hvalid : MicQueue.ValidOpus bytes := ⟨hlen, htype, by omega, hnum⟩
          rw [if_neg hneg, if_pos ⟨hvalid, hcompression⟩]
          rw [readCells_writeCells _ _ (by omega), h.decoder]
          exact { h with decoder := rfl, samples := rfl }
      . have hnotOpus : ¬ (MicQueue.ValidOpus bytes ∧ audioCompression = true) := by
          intro hvalid
          apply hcompression hvalid.2
        rw [if_neg hcompression, if_neg hnotOpus]
        exact { h with }
    . have hnotOpus : ¬ (MicQueue.ValidOpus bytes ∧ audioCompression = true) := by
        intro hvalid
        apply htype hvalid.1.2.1
      rw [if_neg htype, if_neg hnotOpus]
      by_cases hsize : packetType (MicQueue.packet bytes) = some .infoTxaudio
          ∧ bytes.length = txAudioSize
      . have ⟨hlo, hhi⟩ := hpcm hsize.1 hsize.2
        have hfits : headerSize + 2 * packetNum (MicQueue.packet bytes) ≤ bytes.length := by
          rw [hsize.2]
          unfold txAudioSize
          omega
        have hvalid : MicQueue.ValidPcm bytes := ⟨hsize.2, hsize.1, hlo, hfits⟩
        rw [if_pos hsize, if_pos hvalid]
        unfold txAudio
        dsimp only
        rw [packetNum_writeCells hlen, toNat_ofInt_num hlo (by omega)]
        rw [txAudioSamples_writeCells (by omega)]
        exact { h with samples := rfl }
      . have hnotPcm : ¬ MicQueue.ValidPcm bytes := by
          intro hvalid
          apply hsize ⟨hvalid.2.1, hvalid.1⟩
        rw [if_neg hsize, if_neg hnotPcm]
        exact { h with }
  . have hnotOpus : ¬ (MicQueue.ValidOpus bytes ∧ audioCompression = true) := by
      intro hvalid
      apply hlen hvalid.1.1
    have hnotPcm : ¬ MicQueue.ValidPcm bytes := by
      intro hvalid
      apply hlen
      rw [hvalid.1]
      decide
    rw [process_short (by omega), if_neg hnotOpus, if_neg hnotPcm]
    exact { h with }

theorem step (h : s.Refines q) {e : Event} (hclean : s.Clean audioCompression e)
    : (s.step decode audioCompression e).Refines (q.step decode audioCompression e) := by
  cases e with
  | store => apply h.store
  | remoteGetMicSample => apply h.remoteGetMicSample
  | recvfrom outcome =>
    unfold MicStream.step MicQueue.step
    by_cases hwaiting : s.Waiting
    . dsimp only
      rw [if_pos hwaiting, if_pos (h.waiting_iff.mp hwaiting)]
      cases outcome with
      | datagram bytes => apply h.receive_datagram bytes hwaiting hclean
      | timeout =>
        unfold MicStream.recvfrom MicQueue.receive
        dsimp only
        rw [process_timeout]
        . exact { h with }
        . apply hclean hwaiting
      | error => exact { h with running := rfl }
    . dsimp only
      rw [if_neg hwaiting, if_neg (fun hq => hwaiting (h.waiting_iff.mpr hq))]
      exact h

end Refines

theorem withinPacket_process {n : Nat} (hle : n ≤ micPacketSize) (hreceived : s.received = n)
    (hpayload : s.payloadRead = 0)
    (hopus : headerSize ≤ n → packetType s.buffer = some .infoTxaudioOpus → audioCompression = true →
      headerSize + packetNum s.buffer ≤ n)
    (hpcm : headerSize ≤ n → packetType s.buffer = some .infoTxaudio → n = txAudioSize →
      0 ≤ packetNum s.buffer ∧ packetNum s.buffer ≤ 512)
    : (s.process decode audioCompression n).WithinPacket := by
  by_cases hlen : headerSize ≤ n
  . rw [process_packet hlen hle]
    split
    next htype =>
      split
      next hcompression =>
        have hnum := hopus hlen htype hcompression
        unfold txAudioOpus
        split
        next => exact .inl hpayload
        next hneg =>
          refine .inr ?_
          dsimp only
          omega
      next => exact .inl hpayload
    next =>
      split
      next hsize =>
        have ⟨hlo, hhi⟩ := hpcm hlen hsize.1 hsize.2
        refine .inr ?_
        unfold txAudio
        dsimp only
        rw [toNat_ofInt_num hlo (by omega), hreceived, hsize.2]
        unfold txAudioSize
        omega
      next => exact .inl hpayload
  . rw [process_short (by omega)]
    exact .inl hpayload

theorem WithinPacket.step (h : s.WithinPacket) {e : Event} (hclean : s.Clean audioCompression e)
    : (s.step decode audioCompression e).WithinPacket := by
  cases e with
  | store =>
    unfold MicStream.step MicStream.store
    dsimp only
    split
    next => exact h
    next =>
      split
      next => exact h
      next => exact h
  | remoteGetMicSample =>
    unfold MicStream.step MicStream.remoteGetMicSample
    dsimp only
    split
    next => exact h
    next => exact h
  | recvfrom outcome =>
    unfold MicStream.step
    dsimp only
    split
    next hwaiting =>
      unfold MicStream.recvfrom
      cases outcome with
      | datagram bytes =>
        have hpacket := hclean hwaiting
        apply withinPacket_process
        . apply List.length_take_le
        . rfl
        . rfl
        . intro hlen
          apply (hpacket hlen).1
        . intro hlen
          apply (hpacket hlen).2
      | timeout =>
        dsimp only
        rw [process_timeout]
        . exact .inl rfl
        . apply hclean hwaiting
      | error => exact h
    next => exact h

theorem refines_of_clean_aux (events : List Event) (hrefines : s.Refines q) (hwithin : s.WithinPacket)
    (hclean : Run.Along (step decode audioCompression) (Clean audioCompression) s events)
    : (Run.exec (step decode audioCompression) s events).Refines
          (Run.exec (MicQueue.step decode audioCompression) q events)
        ∧ (Run.exec (step decode audioCompression) s events).WithinPacket := by
  induction events generalizing s q with
  | nil => exact ⟨hrefines, hwithin⟩
  | cons e events ih =>
    apply ih
    . apply hrefines.step hclean.1
    . apply hwithin.step hclean.1
    . exact hclean.2

end

theorem refines_of_clean {σ : Type} (decode : σ → List Byte → σ × List Int)
    (audioCompression : Bool) (buffer : Nat → Byte) (decoder : σ) (micRingBuffer : Nat → ℚ)
    (events : List Event)
    (hclean : Run.Along (step decode audioCompression) (Clean audioCompression)
      (initial buffer decoder micRingBuffer) events)
    : (Run.exec (step decode audioCompression) (initial buffer decoder micRingBuffer) events).Refines
          (Run.exec (MicQueue.step decode audioCompression) (MicQueue.initial decoder) events)
        ∧ (Run.exec (step decode audioCompression) (initial buffer decoder micRingBuffer)
            events).WithinPacket := by
  apply refines_of_clean_aux
  . apply refines_initial
  . exact .inl rfl
  . exact hclean

-- the thread stores all the samples of a packet before it goes on
theorem exec_store {σ : Type} (decode : σ → List Byte → σ × List Int) (audioCompression : Bool)
    (s : MicStream σ)
    : (Run.exec (step decode audioCompression) s (.replicate s.samples.length .store)).samples = []
        ∧ (Run.exec (step decode audioCompression) s
            (.replicate s.samples.length .store)).running = s.running
        ∧ (Run.exec (step decode audioCompression) s
            (.replicate s.samples.length .store)).buffer = s.buffer := by
  induction hsamples : s.samples generalizing s with
  | nil => exact ⟨hsamples, rfl, rfl⟩
  | cons sample samples ih =>
    have hstore : s.store.samples = samples ∧ s.store.running = s.running
        ∧ s.store.buffer = s.buffer := by
      unfold MicStream.store
      rw [hsamples]
      dsimp only
      split <;> exact ⟨rfl, rfl, rfl⟩
    have h := ih s.store hstore.1
    rw [hstore.2.1, hstore.2.2] at h
    exact h

-- a header of the given type with the number of bytes or samples in `s1`
def audioHeader (type : DataType) (num : Int) : List Byte :=
  syncBytes ++ bytes16 (to16 type.code) ++ [0, 0] ++ bytes16 (to16 num) ++ [0, 0]

-- a compressed frame of 20 ms without data, which a new decoder takes for silence
def silentPacket : List Byte :=
  audioHeader .infoTxaudioOpus 1 ++ [0xF8]

def decodeSilence (decoder : Unit) (_ : List Byte) : Unit × List Int :=
  (decoder, .replicate 960 0)

-- one sample more than the packet has
def longPacket : List Byte :=
  audioHeader .infoTxaudio 513 ++ .replicate 1024 0

theorem refines_of_clean_silence
    : (Run.exec (step decodeSilence true) (initial (fun _ => 0) () (fun _ => 0))
          [.recvfrom .timeout, .recvfrom (.datagram silentPacket)]).Refines
        (Run.exec (MicQueue.step decodeSilence true) (MicQueue.initial ())
          [.recvfrom .timeout, .recvfrom (.datagram silentPacket)])
      ∧ (Run.exec (step decodeSilence true) (initial (fun _ => 0) () (fun _ => 0))
          [.recvfrom .timeout, .recvfrom (.datagram silentPacket)]).WithinPacket := by
  apply refines_of_clean
  refine ⟨?_, ?_, trivial⟩
  . intro _
    decide
  . intro _ _
    decide

theorem along_store {σ : Type} (decode : σ → List Byte → σ × List Int) (audioCompression : Bool)
    (n : Nat) (s : MicStream σ)
    : Run.Along (step decode audioCompression) (Clean audioCompression) s (.replicate n .store) := by
  induction n generalizing s with
  | zero => exact trivial
  | succ n ih => exact ⟨trivial, ih _⟩

theorem samples_timeout {σ : Type} (decode : σ → List Byte → σ × List Int) {s : MicStream σ}
    (hwaiting : s.Waiting) (htype : packetType s.buffer = some .infoTxaudioOpus)
    (hnum : 0 ≤ packetNum s.buffer)
    : (s.step decode true (.recvfrom .timeout)).samples
        =
      (decode s.decoder
        (readCells s.buffer headerSize (packetNum s.buffer).toNat)).2.map micSample := by
  have hlarge : ¬ (BitVec.ofInt 32 (-1)).toNat < headerSize := by
    simp [headerSize]
  have hneg : ¬ packetNum s.buffer < 0 := by omega
  simp only [step, if_pos hwaiting, recvfrom, process, if_neg hlarge, if_pos htype, ↓reduceIte,
    txAudioOpus, if_neg hneg]

-- a silent packet of which all samples have been stored
def played : List Event :=
  .recvfrom (.datagram silentPacket) :: .replicate 960 .store

-- A timeout decodes the last packet again, and the count in a header is believed.
theorem not_refines_timeout
    : ¬ (Run.exec (step decodeSilence true) (initial (fun _ => 0) () (fun _ => 0))
            (played ++ [.recvfrom .timeout])).Refines
          (Run.exec (MicQueue.step decodeSilence true) (MicQueue.initial ())
            (played ++ [.recvfrom .timeout]))
        ∧ ¬ (Run.exec (step decodeSilence true) (initial (fun _ => 0) () (fun _ => 0))
            [.recvfrom (.datagram longPacket)]).WithinPacket := by
  constructor
  . intro h
    let s := (initial (fun _ => 0) () (fun _ => 0)).step decodeSilence true
      (.recvfrom (.datagram silentPacket))
    have hbuffer : s.buffer = writeCells (fun _ => 0) 0 silentPacket := rfl
    have hlen : s.samples.length = 960 := by
      have hsamples : s.samples = (List.replicate 960 0).map micSample := rfl
      rw [hsamples, List.length_map, List.length_replicate]
    have hrunning : s.running = true := rfl
    have ⟨hempty, hrun, hbuf⟩ := exec_store decodeSilence true s
    rw [hlen] at hempty hrun hbuf
    have hclean : Run.Along (step decodeSilence true) (Clean true)
        (initial (fun _ => 0) () (fun _ => 0)) played := by
      refine ⟨?_, along_store _ _ _ _⟩
      intro _ _
      decide
    have ⟨hplayed, _⟩ := refines_of_clean_aux played (refines_initial _ _ _) (.inl rfl) hclean
    have hsamples := h.samples
    rw [Run.exec_append, Run.exec_append, Run.exec_cons, Run.exec_cons, Run.exec_nil, Run.exec_nil]
      at hsamples
    rw [MicQueue.step_timeout, ← hplayed.samples] at hsamples
    unfold played at hsamples
    rw [Run.exec_cons, hempty] at hsamples
    rw [samples_timeout] at hsamples
    . have hlength := congrArg List.length hsamples
      rw [List.length_map, decodeSilence, List.length_replicate, List.length_nil] at hlength
      omega
    . exact ⟨hrun.trans hrunning, hempty⟩
    . rw [hbuf, hbuffer]
      decide
    . rw [hbuf, hbuffer]
      decide
  . unfold WithinPacket
    decide +kernel

end MicStream

end ClientServer
