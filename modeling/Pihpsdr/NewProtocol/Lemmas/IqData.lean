import Mathlib.Data.List.GetD
import Mathlib.Tactic.NormNum
import Pihpsdr.NewProtocol.Impl.RxRings
import Pihpsdr.NewProtocol.Lemmas.Ddc
import Pihpsdr.OldProtocol.Lemmas.OzyFrame

/-!
The decoders of IQ packets against the samples that are encoded in the datagram.
-/

namespace NewProtocol

/-! The samples of a datagram: 24 bits for I, 24 bits for Q, in network byte order. -/

namespace IqPacket

variable (datagram : List (BitVec 8))

def byte (i : Nat) : BitVec 8 :=
  datagram.getD i 0

def samplesPerFrame : Nat :=
  (byte datagram 14 ++ byte datagram 15).toNat

def value (i : Nat) : ℚ :=
  (byte datagram i ++ byte datagram (i + 1) ++ byte datagram (i + 2)).toInt / 2 ^ 23

def pair (i : Nat) : IqPair :=
  (value datagram i, value datagram (i + 3))

-- the samples every six bytes from index `b` on
def pairsFrom (f : Nat → IqPair) : Nat → Nat → List IqPair
  | 0, _ => []
  | n + 1, b => f b :: pairsFrom f n (b + 6)

def samples : List IqPair :=
  pairsFrom (pair datagram) (samplesPerFrame datagram) 16

end IqPacket

-- the samples of two synchronised DDCs take turns
def interleaved {α : Type} (f : α → α → List IqCall) : List α → List IqCall
  | s₀ :: s₁ :: rest => f s₀ s₁ ++ interleaved f rest
  | _ => []

def RxAction.paired (a : RxAction) : Bool :=
  a = .ps ∨ a = .div

def expectedCalls (s : DdcSettings) (samples : List IqPair) : RxAction → List IqCall
  | .skip => []
  | .rx1 => samples.map (.rxAddIqSamples 0)
  | .rx2 => samples.map (.rxAddIqSamples 1)
  | .ps => interleaved IqData.psCalls samples
  | .div => interleaved (IqData.divCalls s) samples

/-- Only bytes of the datagram are read, and all samples that it encodes are handed over, once. -/
def DecodesExactly (s : DdcSettings) (action : RxAction) (q : DdcSequence) (old : Packet)
    (datagram : List (BitVec 8)) : Prop :=
  let d := (iqThread s action q (receive old datagram)).2
  (∀ i ∈ d.reads, i < (received datagram).length)
  ∧ d.calls = expectedCalls s (IqPacket.samples datagram) action

theorem receive_eq_byte (old : Packet) {datagram : List (BitVec 8)} {i : Nat}
    (h : i < (received datagram).length)
    : receive old datagram i = IqPacket.byte datagram i := by
  unfold receive IqPacket.byte received
  unfold received at h
  rw [List.getD_eq_getElem _ _ h, List.getElem_take, List.getD_eq_getElem]

namespace IqData

theorem sampleLow_bytes (x₀ x₁ x₂ : BitVec 8)
    : OldProtocol.sampleLow (OldProtocol.sampleMid (OldProtocol.sampleHi x₀) x₁) x₂
        = (x₀ ++ x₁ ++ x₂).signExtend 32 := by
  have h := OldProtocol.sampleLow_sampleBytes (x₀ ++ x₁ ++ x₂)
  have h₂ : (x₀ ++ x₁ ++ x₂).extractLsb' 0 8 = x₂ := by
    rw [BitVec.extractLsb'_append_eq_of_add_le (by omega), BitVec.extractLsb'_eq_self]
  have h₁ : (x₀ ++ x₁ ++ x₂).extractLsb' 8 8 = x₁ := by
    rw [BitVec.extractLsb'_append_eq_of_le (by omega),
      BitVec.extractLsb'_append_eq_of_add_le (by omega), BitVec.extractLsb'_eq_self]
  have h₀ : (x₀ ++ x₁ ++ x₂).extractLsb' 16 8 = x₀ := by
    rw [BitVec.extractLsb'_append_eq_of_le (by omega),
      BitVec.extractLsb'_append_eq_of_le (by omega), BitVec.extractLsb'_eq_self]
  rw [h₀, h₁, h₂] at h
  exact h

theorem sampleDouble_eq_value (old : Packet) {datagram : List (BitVec 8)} {i : Nat}
    (h : i + 3 ≤ (received datagram).length)
    : sampleDouble (receive old datagram) i = IqPacket.value datagram i := by
  unfold sampleDouble IqPacket.value
  rw [receive_eq_byte old (by omega), receive_eq_byte old (by omega),
    receive_eq_byte old (by omega), sampleLow_bytes, OldProtocol.toInt_signExtend_sample]
  norm_num [div_eq_mul_inv]

theorem readPair_eq_pair (old : Packet) {datagram : List (BitVec 8)} {i : Nat}
    (h : i + 6 ≤ (received datagram).length)
    : readPair (receive old datagram) i = IqPacket.pair datagram i := by
  unfold readPair IqPacket.pair
  rw [sampleDouble_eq_value old (by omega), sampleDouble_eq_value old (by omega)]

theorem samplesPerFrame_receive (old : Packet) {datagram : List (BitVec 8)}
    (h : 16 ≤ (received datagram).length)
    : samplesPerFrame (receive old datagram) = IqPacket.samplesPerFrame datagram := by
  unfold samplesPerFrame IqPacket.samplesPerFrame
  rw [receive_eq_byte old (by omega), receive_eq_byte old (by omega), BitVec.toNat_append,
    Nat.shiftLeft_add_eq_or_of_lt (BitVec.isLt _)]

theorem pairsFrom_congr {f g : Nat → IqPair} {n b : Nat}
    (h : ∀ i, i + 6 ≤ b + 6 * n → f i = g i)
    : IqPacket.pairsFrom f n b = IqPacket.pairsFrom g n b := by
  induction n generalizing b with
  | zero => rfl
  | succ n ih =>
    unfold IqPacket.pairsFrom
    rw [h b (by omega), ih]
    intro i hi
    exact h i (by omega)

theorem loop_reads (buffer : Packet) (id : Fin 2) (left b : Nat)
    : (loop buffer id left b).reads = List.range' b (6 * left) := by
  induction left generalizing b with
  | zero => rfl
  | succ left ih =>
    have h : 6 * (left + 1) = 6 + 6 * left := by omega
    rw [loop, ih, List.range'_append_1, h]

theorem loop_calls (buffer : Packet) (id : Fin 2) (left b : Nat)
    : (loop buffer id left b).calls
        = (IqPacket.pairsFrom (readPair buffer) left b).map (.rxAddIqSamples id) := by
  induction left generalizing b with
  | zero => rfl
  | succ left ih => rw [loop, ih, IqPacket.pairsFrom, List.map_cons]

section Pairs

variable (add : IqPair → IqPair → List IqCall) (buffer : Packet)

-- An odd number of samples is rounded up.
theorem pairLoop_reads (left b : Nat)
    : (pairLoop add buffer left b).reads = List.range' b (12 * ((left + 1) / 2)) := by
  induction left, b using pairLoop.induct with
  | case1 => rfl
  | case2 => rfl
  | case3 left b ih =>
    have h : 12 * ((left + 2 + 1) / 2) = 12 + 12 * ((left + 1) / 2) := by omega
    rw [pairLoop, pairPass, ih, List.range'_append_1, ← h]

theorem pairLoop_calls (left b : Nat)
    : (pairLoop add buffer left b).calls
        = interleaved add (IqPacket.pairsFrom (readPair buffer) (2 * ((left + 1) / 2)) b) := by
  induction left, b using pairLoop.induct with
  | case1 => rfl
  | case2 => rfl
  | case3 left b ih =>
    have h : 2 * ((left + 2 + 1) / 2) = 2 * ((left + 1) / 2) + 1 + 1 := by omega
    rw [pairLoop, pairPass, ih, h, IqPacket.pairsFrom, IqPacket.pairsFrom, interleaved]

theorem length_interleaved {m : Nat} (hadd : ∀ s₀ s₁, (add s₀ s₁).length = m)
    (f : Nat → IqPair) (n b : Nat)
    : (interleaved add (IqPacket.pairsFrom f n b)).length = m * (n / 2) := by
  induction n using Nat.twoStepInduction generalizing b with
  | zero => rfl
  | one => rfl
  | more n ih _ =>
    rw [IqPacket.pairsFrom, IqPacket.pairsFrom, interleaved, List.length_append, hadd, ih]
    have : (n + 2) / 2 = n / 2 + 1 := by omega
    rw [this, Nat.mul_add, Nat.mul_one, Nat.add_comm]

end Pairs

theorem header_reads_iff (bytes n : Nat)
    : (∀ i ∈ 14 :: 15 :: List.range' 16 bytes, i < n) ↔ 16 + bytes ≤ n := by
  simp only [List.mem_cons, List.mem_range'_1]
  constructor
  . intro h
    cases bytes with
    | zero => exact h 15 (by simp)
    | succ bytes => exact h (16 + bytes) (by omega)
  . rintro h i (rfl | rfl | hi)
    all_goals omega

theorem processIqData_exact_iff (id : Fin 2) (old : Packet) (datagram : List (BitVec 8))
    : (∀ i ∈ (processIqData (receive old datagram) id).reads, i < (received datagram).length)
        ∧ (processIqData (receive old datagram) id).calls
          = (IqPacket.samples datagram).map (.rxAddIqSamples id)
      ↔ 16 + 6 * IqPacket.samplesPerFrame datagram ≤ (received datagram).length := by
  unfold processIqData header IqPacket.samples
  simp only [loop_reads, loop_calls]
  rw [header_reads_iff]
  constructor
  . rintro ⟨h, _⟩
    rw [← samplesPerFrame_receive old (by omega)]
    exact h
  . intro h
    rw [samplesPerFrame_receive old (by omega)]
    refine ⟨h, ?_⟩
    rw [pairsFrom_congr fun i hi => readPair_eq_pair old (by omega)]

theorem length_divCalls (s : DdcSettings)
    : ∃ m, 0 < m ∧ ∀ s₀ s₁, (divCalls s s₀ s₁).length = m := by
  unfold divCalls
  split
  . exact ⟨2, by decide, fun _ _ => rfl⟩
  . exact ⟨1, by decide, fun _ _ => rfl⟩

theorem pairLoop_exact_iff {add : IqPair → IqPair → List IqCall} {m : Nat} (hm : 0 < m)
    (hadd : ∀ s₀ s₁, (add s₀ s₁).length = m) (old : Packet) (datagram : List (BitVec 8))
    : (∀ i ∈ (header (pairLoop add (receive old datagram)
            (samplesPerFrame (receive old datagram)) 16)).reads, i < (received datagram).length)
        ∧ (header (pairLoop add (receive old datagram)
            (samplesPerFrame (receive old datagram)) 16)).calls
          = interleaved add (IqPacket.samples datagram)
      ↔ 16 + 6 * IqPacket.samplesPerFrame datagram ≤ (received datagram).length
        ∧ IqPacket.samplesPerFrame datagram % 2 = 0 := by
  unfold header IqPacket.samples
  simp only [pairLoop_reads, pairLoop_calls]
  rw [header_reads_iff]
  constructor
  . rintro ⟨h, hcalls⟩
    rw [samplesPerFrame_receive old (by omega)] at h hcalls
    have hlen := congrArg List.length hcalls
    rw [length_interleaved add hadd, length_interleaved add hadd] at hlen
    have hhalf := Nat.eq_of_mul_eq_mul_left hm hlen
    omega
  . rintro ⟨h, heven⟩
    rw [samplesPerFrame_receive old (by omega)]
    have hround : 2 * ((IqPacket.samplesPerFrame datagram + 1) / 2)
        = IqPacket.samplesPerFrame datagram := by omega
    refine ⟨by omega, ?_⟩
    rw [hround, pairsFrom_congr fun i hi => readPair_eq_pair old (by omega)]

end IqData

-- The decoders trust the number of samples in the packet.
theorem decodesExactly_iff (s : DdcSettings) (action : RxAction) (q : DdcSequence) (old : Packet)
    (datagram : List (BitVec 8))
    : DecodesExactly s action q old datagram
      ↔ action = .skip
        ∨ (16 + 6 * IqPacket.samplesPerFrame datagram ≤ (received datagram).length
          ∧ (action.paired = true → IqPacket.samplesPerFrame datagram % 2 = 0)) := by
  cases action with
  | skip => simp [DecodesExactly, iqThread, IqData.decode, expectedCalls]
  | rx1 =>
    exact (IqData.processIqData_exact_iff 0 old datagram).trans (by simp [RxAction.paired])
  | rx2 =>
    exact (IqData.processIqData_exact_iff 1 old datagram).trans (by simp [RxAction.paired])
  | ps =>
    have hadd (s₀ s₁ : IqPair) : (IqData.psCalls s₀ s₁).length = 1 := rfl
    exact (IqData.pairLoop_exact_iff Nat.one_pos hadd old datagram).trans
      (by simp [RxAction.paired])
  | div =>
    obtain ⟨m, hm, hadd⟩ := IqData.length_divCalls s
    exact (IqData.pairLoop_exact_iff hm hadd old datagram).trans (by simp [RxAction.paired])

-- a packet with its header only, which announces one sample
theorem not_decodesExactly_header
    : ¬ DecodesExactly .hermes .rx1 ⟨0, 0⟩ .zeros (List.replicate 15 0 ++ [1]) := by
  rintro ⟨hreads, _⟩
  have := hreads 16 (by decide)
  contradiction

end NewProtocol
