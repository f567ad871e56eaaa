import Pihpsdr.OldProtocol.Impl.OzyByte
import Mathlib.Tactic.SplitIfs
import Mathlib.Data.List.Flatten

/-!
De-framing: what `processOzyByte` makes of a sequence of well-formed frames. `OzyFrame.bytes` is the
format of the radio, `deliverFrames` what the program is to receive from it.

The radio may start to transmit, or change any other setting, between two bytes. The state of the
program is therefore a function of the number of bytes processed so far.
-/

namespace OldProtocol

-- the samples of all receivers at one time and the mic sample belonging to them
structure OzyGroup where
  iq : List (BitVec 24 × BitVec 24)
  mic : BitVec 16

/--
The content of a frame for `n` receivers.
-/
structure OzyFrame (n : Nat) where
  control : Vector Byte 5
  groups : List OzyGroup
  length_groups : groups.length = 504 / (n * 6 + 2)
  length_iq : ∀ g ∈ groups, g.iq.length = n

def sampleBytes (x : BitVec 24) : List Byte :=
  [x.extractLsb' 16 8, x.extractLsb' 8 8, x.extractLsb' 0 8]

def iqBytes (s : BitVec 24 × BitVec 24) : List Byte := sampleBytes s.1 ++ sampleBytes s.2

def micBytes (x : BitVec 16) : List Byte := [x.extractLsb' 8 8, x.extractLsb' 0 8]

def OzyGroup.bytes (g : OzyGroup) : List Byte := g.iq.flatMap iqBytes ++ micBytes g.mic

def OzyFrame.bytes {n : Nat} (f : OzyFrame n) : List Byte :=
  [sync, sync, sync] ++ f.control.toList ++ f.groups.flatMap OzyGroup.bytes
    ++ List.replicate (504 - 504 / (n * 6 + 2) * (n * 6 + 2)) 0

def iqValue (s : BitVec 24 × BitVec 24) : IqSample := (s.1.toInt, s.2.toInt)

variable (env : Nat → OzyEnv)

def processOzyBytes : Nat → OzyParser → List Byte → OzyParser × List OzyOutput
  | _, p, [] => (p, [])
  | t, p, b :: bs =>
    let (p, out) := processOzyByte (env t) p b
    let (p, outs) := processOzyBytes (t + 1) p bs
    (p, out ++ outs)

-- the samples `l` of receiver `r` and those behind it, the first byte being the `t`-th one
def deliverSamples : Nat → Nat → List (BitVec 24 × BitVec 24) → OzySink → OzySink × List OzyOutput
  | _, _, [], k => (k, [])
  | t, r, s :: l, k =>
    let (k, out) := deliverSample (env (t + 5)) r (iqValue s) k
    let (k, outs) := deliverSamples (t + 6) (r + 1) l k
    (k, out ++ outs)

def deliverGroups (n : Nat) : Nat → List OzyGroup → OzySink → OzySink × List OzyOutput
  | _, [], k => (k, [])
  | t, g :: gs, k =>
    let (k, out) := deliverSamples env t 0 g.iq k
    let (k, mic) := deliverMic (env (t + n * 6 + 1)) g.mic.toInt k
    let (k, outs) := deliverGroups n (t + (n * 6 + 2)) gs k
    (k, out ++ mic ++ outs)

def deliverFrames {n : Nat} : Nat → List (OzyFrame n) → OzySink → OzySink × List OzyOutput
  | _, [], k => (k, [])
  | t, f :: fs, k =>
    let (k, out) := deliverGroups env n (t + 8) f.groups k
    let (k, outs) := deliverFrames (t + 512) fs k
    (k, .control f.control :: out ++ outs)

theorem deliverGroups_cons (n t : Nat) (g : OzyGroup) (gs : List OzyGroup) (k : OzySink)
    : deliverGroups env n t (g :: gs) k =
        let samples := deliverSamples env t 0 g.iq k
        let mic := deliverMic (env (t + n * 6 + 1)) g.mic.toInt samples.1
        let groups := deliverGroups env n (t + (n * 6 + 2)) gs mic.1
        (groups.1, samples.2 ++ mic.2 ++ groups.2) :=
  rfl

theorem deliverFrames_cons {n : Nat} (t : Nat) (f : OzyFrame n) (fs : List (OzyFrame n))
    (k : OzySink)
    : deliverFrames env t (f :: fs) k =
        let groups := deliverGroups env n (t + 8) f.groups k
        let frames := deliverFrames env (t + 512) fs groups.1
        (frames.1, .control f.control :: groups.2 ++ frames.2) :=
  rfl

theorem length_iqBytes (l : List (BitVec 24 × BitVec 24))
    : (l.flatMap iqBytes).length = l.length * 6 := by
  induction l with
  | nil => rfl
  | cons s l ih =>
    simp only [List.flatMap_cons, List.length_append, ih, List.length_cons]
    simp only [iqBytes, sampleBytes, List.length_append, List.length_cons, List.length_nil]
    omega

theorem OzyGroup.length_bytes {n : Nat} {g : OzyGroup} (h : g.iq.length = n)
    : g.bytes.length = n * 6 + 2 := by
  rw [OzyGroup.bytes, List.length_append, length_iqBytes, h]
  rfl

theorem length_groupBytes {n : Nat} (gs : List OzyGroup) (h : ∀ g ∈ gs, g.iq.length = n)
    : (gs.flatMap OzyGroup.bytes).length = gs.length * (n * 6 + 2) := by
  induction gs with
  | nil => simp
  | cons g gs ih =>
    simp only [List.flatMap_cons, List.length_append, List.length_cons]
    rw [ih (fun g' hg' => h g' (List.mem_cons_of_mem _ hg'))]
    rw [OzyGroup.length_bytes (h g List.mem_cons_self)]
    rw [Nat.succ_mul, Nat.add_comm]

theorem OzyFrame.length_bytes {n : Nat} (f : OzyFrame n) : f.bytes.length = 512 := by
  have : 504 / (n * 6 + 2) * (n * 6 + 2) ≤ 504 := Nat.div_mul_le_self _ _
  simp only [OzyFrame.bytes, List.length_append, List.length_cons, List.length_nil,
    List.length_replicate, Vector.length_toList, length_groupBytes _ f.length_iq, f.length_groups]
  omega

theorem sampleLow_sampleBytes (x : BitVec 24)
    : sampleLow (sampleMid (sampleHi (x.extractLsb' 16 8)) (x.extractLsb' 8 8))
        (x.extractLsb' 0 8) = x.signExtend 32 := by
  apply BitVec.eq_of_getLsbD_eq
  intro i hi
  simp only [sampleLow, sampleMid, sampleHi, BitVec.getLsbD_or, BitVec.getLsbD_shiftLeft,
    BitVec.getLsbD_signExtend, BitVec.getLsbD_setWidth, BitVec.getLsbD_extractLsb',
    BitVec.msb_eq_getLsbD_last]
  cases Nat.lt_or_ge i 8 with
  | inl h =>
    have h16 : i < 16 := by omega
    have h24 : i < 24 := by omega
    simp [h, hi, h16, h24]
  | inr h8 =>
    cases Nat.lt_or_ge i 16 with
    | inl h =>
      obtain ⟨j, rfl⟩ := Nat.exists_eq_add_of_le h8
      have hge : ¬ 8 + j < 8 := by omega
      have h24 : 8 + j < 24 := by omega
      have hlt : j < 8 := by omega
      have h32 : j < 32 := by omega
      simp [h, hi, hge, h24, hlt, h32]
    | inr h16 =>
      cases Nat.lt_or_ge i 24 with
      | inl h =>
        obtain ⟨j, rfl⟩ := Nat.exists_eq_add_of_le h16
        have hge : ¬ 16 + j < 8 := by omega
        have hmid : ¬ 16 + j - 8 < 8 := by omega
        have hlt : j < 8 := by omega
        have h32 : j < 32 := by omega
        simp [h, hi, hge, hmid, hlt, h32]
      | inr h24 =>
        obtain ⟨j, rfl⟩ := Nat.exists_eq_add_of_le h24
        have hge : ¬ 24 + j < 8 := by omega
        have hge' : ¬ 24 + j < 16 := by omega
        have hmid : ¬ 24 + j - 8 < 8 := by omega
        have hhigh : ¬ 24 + j - 16 < 8 := by omega
        have h32 : 24 + j - 16 < 32 := by omega
        simp [hi, hge, hge', hmid, hhigh, h32]

theorem toInt_signExtend_sample (x : BitVec 24) : (x.signExtend 32).toInt = x.toInt :=
  BitVec.toInt_signExtend_of_le (by decide)

theorem micLow_micBytes (x : BitVec 16)
    : (x.extractLsb' 8 8).zeroExtend 16 <<< 8 ||| (x.extractLsb' 0 8).zeroExtend 16 = x := by
  apply BitVec.eq_of_getLsbD_eq
  intro i hi
  simp only [BitVec.getLsbD_or, BitVec.getLsbD_shiftLeft, BitVec.getLsbD_setWidth,
    BitVec.getLsbD_extractLsb', BitVec.truncate_eq_setWidth]
  cases Nat.lt_or_ge i 8 with
  | inl h => simp [h, hi]
  | inr h =>
    obtain ⟨j, rfl⟩ := Nat.exists_eq_add_of_le h
    have hge : ¬ 8 + j < 8 := by omega
    have hlt : j < 8 := by omega
    have h16 : j < 16 := by omega
    simp [hi, hge, hlt, h16]

theorem incr_of_lt {i : Nat} (h : i + 1 < 2 ^ 31) : incr i = (i + 1 : Nat) := by
  unfold incr
  rw [Int.bmod_eq_of_le] <;> omega

theorem processOzyBytes_append (t : Nat) (p : OzyParser) (bs cs : List Byte)
    : processOzyBytes env t p (bs ++ cs) =
        ((processOzyBytes env (t + bs.length) (processOzyBytes env t p bs).1 cs).1,
          (processOzyBytes env t p bs).2
            ++ (processOzyBytes env (t + bs.length) (processOzyBytes env t p bs).1 cs).2) := by
  induction bs generalizing t p with
  | nil => simp [processOzyBytes]
  | cons b bs ih =>
    simp only [List.cons_append, processOzyBytes, ih, List.length_cons, List.append_assoc]
    rw [Nat.add_right_comm, Nat.add_assoc]

theorem processOzyBytes_control (t : Nat) (p : OzyParser) (bytes : Vector Byte 5)
    (hp : p.state = .sync0)
    : processOzyBytes env t p ([sync, sync, sync] ++ bytes.toList) =
        ({ p with
            state := .leftSampleHi
            controlIn := bytes
            nreceiver := 0
            iqSamples := (504 / ((env (t + 7)).stNumHpsdrReceivers * 6 + 2) : Nat)
            nsamples := 0 },
          [.control bytes]) := by
  have hbytes : bytes.toList = [bytes[0], bytes[1], bytes[2], bytes[3], bytes[4]] := by
    apply List.ext_getElem
    . simp
    . intro i hlen hi
      obtain rfl | rfl | rfl | rfl | rfl : i = 0 ∨ i = 1 ∨ i = 2 ∨ i = 3 ∨ i = 4 := by
        simp only [Vector.length_toList] at hlen
        omega
      all_goals simp
  have hset : ((((p.controlIn.set 0 bytes[0]).set 1 bytes[1]).set 2 bytes[2]).set 3 bytes[3]).set 4
      bytes[4] = bytes := by
    apply Vector.ext
    intro i hi
    obtain rfl | rfl | rfl | rfl | rfl : i = 0 ∨ i = 1 ∨ i = 2 ∨ i = 3 ∨ i = 4 := by omega
    all_goals simp
  rw [hbytes]
  simp [processOzyBytes, processOzyByte, hp, hset]

theorem processOzyBytes_iqBytes (t : Nat) (p : OzyParser) (s : BitVec 24 × BitVec 24)
    (hp : p.state = .leftSampleHi)
    : processOzyBytes env t p (iqBytes s) =
        ({ p with
            leftSample := s.1.signExtend 32
            rightSample := s.2.signExtend 32
            sink := (deliverSample (env (t + 5)) p.nreceiver (iqValue s) p.sink).1
            nreceiver := incr p.nreceiver
            state :=
              if incr p.nreceiver = (env (t + 5)).stNumHpsdrReceivers then
                .micSampleHi
              else
                .leftSampleHi },
          (deliverSample (env (t + 5)) p.nreceiver (iqValue s) p.sink).2) := by
  simp only [iqBytes, sampleBytes, processOzyBytes, processOzyByte, hp, List.cons_append,
    List.nil_append, List.append_nil, sampleLow_sampleBytes, toInt_signExtend_sample, iqValue]

theorem processOzyBytes_micBytes (t : Nat) (p : OzyParser) (x : BitVec 16)
    (hp : p.state = .micSampleHi)
    : processOzyBytes env t p (micBytes x) =
        ({ p with
            nextMicSample := x
            sink := (deliverMic (env (t + 1)) x.toInt p.sink).1
            nsamples := incr p.nsamples
            nreceiver := if incr p.nsamples = p.iqSamples then p.nreceiver else 0
            state := if incr p.nsamples = p.iqSamples then .sync0 else .leftSampleHi },
          (deliverMic (env (t + 1)) x.toInt p.sink).2) := by
  simp only [micBytes, processOzyBytes, processOzyByte, hp, List.nil_append, micLow_micBytes]
  split
  . simp
  . simp

theorem processOzyBytes_padding (t m : Nat) (p : OzyParser) (hp : p.state = .sync0)
    : processOzyBytes env t p (List.replicate m 0) = (p, []) := by
  have hsync : ¬(0 : Byte) = sync := by decide
  induction m generalizing t with
  | zero => rfl
  | succ m ih =>
    simp only [List.replicate_succ, processOzyBytes, processOzyByte, hp, hsync, if_false, ih,
      List.append_nil]

section

variable {n : Nat} (henv : ∀ t, (env t).stNumHpsdrReceivers = n)

include henv

-- The machine leaves the samples of a group with the last one of the `n` receivers.
theorem processOzyBytes_samples (hn : n < 1000) (t r : Nat) (p : OzyParser)
    (l : List (BitVec 24 × BitVec 24)) (hr : r + l.length = n) (hp : p.nreceiver = r)
    (hstate : p.state = if r = n then .micSampleHi else .leftSampleHi)
    : ∃ p', processOzyBytes env t p (l.flatMap iqBytes)
          = (p', (deliverSamples env t r l p.sink).2)
        ∧ p'.state = .micSampleHi
        ∧ p'.nsamples = p.nsamples
        ∧ p'.iqSamples = p.iqSamples
        ∧ p'.sink = (deliverSamples env t r l p.sink).1 := by
  induction l generalizing t r p with
  | nil =>
    have hr : r = n := by simpa using hr
    refine ⟨p, rfl, ?_, rfl, rfl, rfl⟩
    rw [hstate, if_pos hr]
  | cons s l ih =>
    rw [List.length_cons] at hr
    rw [if_neg (by omega)] at hstate
    have hincr : incr p.nreceiver = (r + 1 : Nat) := by rw [hp, incr_of_lt (by omega)]
    rw [List.flatMap_cons, processOzyBytes_append, processOzyBytes_iqBytes env t p s hstate]
    simp only [hincr, henv, Int.natCast_inj]
    have ⟨p', hrun, hstate', hnsamples, hiqSamples, hsink⟩ :=
      ih (t + 6) (r + 1)
        { p with
          leftSample := s.1.signExtend 32
          rightSample := s.2.signExtend 32
          sink := (deliverSample (env (t + 5)) p.nreceiver (iqValue s) p.sink).1
          nreceiver := (r + 1 : Nat)
          state := if r + 1 = n then .micSampleHi else .leftSampleHi }
        (by omega) rfl rfl
    refine ⟨p', ?_, hstate', hnsamples, hiqSamples, ?_⟩
    . have : (iqBytes s).length = 6 := rfl
      rw [this, hrun, deliverSamples, hp]
    . rw [hsink, deliverSamples, hp]

theorem processOzyBytes_group (hn : n < 1000) (hpos : 1 ≤ n) (t : Nat) (p : OzyParser)
    (g : OzyGroup) (hg : g.iq.length = n) (hp : p.nreceiver = 0) (hstate : p.state = .leftSampleHi)
    : ∃ p', processOzyBytes env t p g.bytes
          = (p', (deliverSamples env t 0 g.iq p.sink).2
              ++ (deliverMic (env (t + n * 6 + 1)) g.mic.toInt
                  (deliverSamples env t 0 g.iq p.sink).1).2)
        ∧ p'.nsamples = incr p.nsamples
        ∧ p'.iqSamples = p.iqSamples
        ∧ p'.state = (if incr p.nsamples = p.iqSamples then .sync0 else .leftSampleHi)
        ∧ (incr p.nsamples ≠ p.iqSamples → p'.nreceiver = 0)
        ∧ p'.sink = (deliverMic (env (t + n * 6 + 1)) g.mic.toInt
            (deliverSamples env t 0 g.iq p.sink).1).1 := by
  have ⟨q, hrun, hq, hnsamples, hiqSamples, hsink⟩ :=
    processOzyBytes_samples env henv hn t 0 p g.iq (by omega) hp
      (by rw [hstate, if_neg (by omega)])
  rw [OzyGroup.bytes, processOzyBytes_append, hrun, length_iqBytes, hg]
  dsimp only
  rw [processOzyBytes_micBytes env _ q g.mic hq, hnsamples, hiqSamples, hsink]
  refine ⟨_, rfl, rfl, rfl, rfl, ?_, rfl⟩
  intro hne
  dsimp only
  rw [if_neg hne]

theorem processOzyBytes_groups (hn : n < 1000) (hpos : 1 ≤ n) (t j : Nat) (p : OzyParser)
    (gs : List OzyGroup) (hgs : ∀ g ∈ gs, g.iq.length = n) (hne : gs ≠ [])
    (hj : p.nsamples = j) (hiq : p.iqSamples = (j + gs.length : Nat)) (hlt : j + gs.length < 1000)
    (hp : p.nreceiver = 0) (hstate : p.state = .leftSampleHi)
    : ∃ p', processOzyBytes env t p (gs.flatMap OzyGroup.bytes)
          = (p', (deliverGroups env n t gs p.sink).2)
        ∧ p'.state = .sync0
        ∧ p'.sink = (deliverGroups env n t gs p.sink).1 := by
  induction gs generalizing t j p with
  | nil => contradiction
  | cons g gs ih =>
    have hg := hgs g List.mem_cons_self
    rw [List.length_cons] at hiq hlt
    have ⟨q, hrun, hq, hqiq, hqstate, hqn, hsink⟩ :=
      processOzyBytes_group env henv hn hpos t p g hg hp hstate
    have hincr : incr p.nsamples = (j + 1 : Nat) := by rw [hj, incr_of_lt (by omega)]
    rw [hincr] at hq hqstate hqn
    rw [List.flatMap_cons, processOzyBytes_append, hrun, OzyGroup.length_bytes hg]
    cases gs with
    | nil =>
      refine ⟨q, ?_, ?_, ?_⟩
      . simp [processOzyBytes, deliverGroups]
      . rw [hqstate, hiq]
        simp
      . simpa [deliverGroups] using hsink
    | cons g' gs' =>
      rw [List.length_cons] at hiq hlt
      have hmore : ((j + 1 : Nat) : Int) ≠ p.iqSamples := by omega
      have ⟨p', hrun', hstate', hsink'⟩ :=
        ih (t + (n * 6 + 2)) (j + 1) q (fun g hg => hgs g (List.mem_cons_of_mem _ hg)) (by simp)
          hq (by rw [hqiq, hiq, List.length_cons]; omega) (by rw [List.length_cons]; omega)
          (hqn hmore) (by rw [hqstate, if_neg hmore])
      refine ⟨p', ?_, hstate', ?_⟩
      . rw [hrun', deliverGroups_cons env n t g, hsink]
      . rw [hsink', deliverGroups_cons env n t g, hsink]

theorem processOzyBytes_frame (hn : n ≤ 5) (hpos : 1 ≤ n) (t : Nat) (p : OzyParser)
    (f : OzyFrame n) (hp : p.state = .sync0)
    : ∃ p', processOzyBytes env t p f.bytes
          = (p', .control f.control :: (deliverGroups env n (t + 8) f.groups p.sink).2)
        ∧ p'.state = .sync0
        ∧ p'.sink = (deliverGroups env n (t + 8) f.groups p.sink).1 := by
  have hle : 504 / (n * 6 + 2) ≤ 504 := Nat.div_le_self _ _
  have hne : f.groups ≠ [] := by
    have hlen := f.length_groups
    have : 0 < 504 / (n * 6 + 2) := Nat.div_pos (by omega) (by omega)
    intro h
    rw [h, List.length_nil] at hlen
    omega
  have hcontrol := processOzyBytes_control env t p f.control hp
  rw [henv] at hcontrol
  rw [OzyFrame.bytes, List.append_assoc, processOzyBytes_append, hcontrol]
  rw [processOzyBytes_append]
  have hlen : ([sync, sync, sync] ++ f.control.toList).length = 8 := by simp
  rw [hlen]
  dsimp only
  have ⟨q, hrun, hq, hsink⟩ :=
    processOzyBytes_groups env henv (by omega) hpos (t + 8) 0
      { p with
        state := .leftSampleHi
        controlIn := f.control
        nreceiver := 0
        iqSamples := (504 / (n * 6 + 2) : Nat)
        nsamples := 0 }
      f.groups f.length_iq hne rfl (by rw [f.length_groups, Nat.zero_add])
      (by rw [f.length_groups]; omega) rfl rfl
  rw [hrun, processOzyBytes_padding env _ _ q hq]
  refine ⟨q, ?_, hq, hsink⟩
  simp

theorem processOzyBytes_frames (hn : n ≤ 5) (hpos : 1 ≤ n) (t : Nat) (p : OzyParser)
    (fs : List (OzyFrame n)) (hp : p.state = .sync0)
    : ∃ p', processOzyBytes env t p (fs.flatMap OzyFrame.bytes)
          = (p', (deliverFrames env t fs p.sink).2)
        ∧ p'.state = .sync0
        ∧ p'.sink = (deliverFrames env t fs p.sink).1 := by
  induction fs generalizing t p with
  | nil => exact ⟨p, rfl, hp, rfl⟩
  | cons f fs ih =>
    have ⟨q, hrun, hq, hsink⟩ := processOzyBytes_frame env henv hn hpos t p f hp
    have ⟨p', hrun', hp', hsink'⟩ := ih (t + 512) q hq
    rw [List.flatMap_cons, processOzyBytes_append, hrun, OzyFrame.length_bytes]
    refine ⟨p', ?_, hp', ?_⟩
    . rw [hrun', deliverFrames, hsink]
    . rw [hsink', deliverFrames, hsink]

end

end OldProtocol
