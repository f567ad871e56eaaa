import Pihpsdr.Lib.Run
import Pihpsdr.OldProtocol.Lemmas.OzyFrame

/-!
Resynchronisation of the input thread. The parser leaves the samples of a group and those of a frame
upon equality of a counter with its limit, and the limit of `nreceiver` changes with the settings at
the beginning of an input buffer, which need not be the beginning of a frame. While no such change
lowers the limit to `nreceiver` or below it, the parser is back in `sync0` after at most 2023 bytes.
Otherwise it is stuck.
-/

namespace OldProtocol

namespace OzyState

def inIqSample : OzyState → Bool
  | .leftSampleHi | .leftSampleMid | .leftSampleLow => true
  | .rightSampleHi | .rightSampleMid | .rightSampleLow => true
  | _ => false

def inSample : OzyState → Bool
  | .micSampleHi | .micSampleLow => true
  | s => s.inIqSample

end OzyState

-- the part of the parser that decides which state is the next one
structure OzyCounters where
  state : OzyState
  nreceiver : Int
  nsamples : Int
  iqSamples : Int
  deriving DecidableEq

def OzyParser.counters (p : OzyParser) : OzyCounters :=
  ⟨p.state, p.nreceiver, p.nsamples, p.iqSamples⟩

namespace OzyCounters

def next (n : Nat) (b : Byte) (c : OzyCounters) : OzyCounters :=
  match c.state with
  | .sync0 => { c with state := if b = sync then .sync1 else .sync0 }
  | .sync1 => { c with state := if b = sync then .sync2 else .sync0 }
  | .sync2 => { c with state := if b = sync then .control0 else .sync0 }
  | .control0 => { c with state := .control1 }
  | .control1 => { c with state := .control2 }
  | .control2 => { c with state := .control3 }
  | .control3 => { c with state := .control4 }
  | .control4 => ⟨.leftSampleHi, 0, 0, (504 / (n * 6 + 2) : Nat)⟩
  | .leftSampleHi => { c with state := .leftSampleMid }
  | .leftSampleMid => { c with state := .leftSampleLow }
  | .leftSampleLow => { c with state := .rightSampleHi }
  | .rightSampleHi => { c with state := .rightSampleMid }
  | .rightSampleMid => { c with state := .rightSampleLow }
  | .rightSampleLow =>
    { c with
      nreceiver := incr c.nreceiver
      state := if incr c.nreceiver = n then .micSampleHi else .leftSampleHi }
  | .micSampleHi => { c with state := .micSampleLow }
  | .micSampleLow =>
    if incr c.nsamples = c.iqSamples then
      { c with nsamples := incr c.nsamples, state := .sync0 }
    else
      { c with nsamples := incr c.nsamples, nreceiver := 0, state := .leftSampleHi }
  | .skip => c

end OzyCounters

theorem counters_processOzyByte (e : OzyEnv) (p : OzyParser) (b : Byte)
    : (processOzyByte e p b).1.counters = p.counters.next e.stNumHpsdrReceivers b := by
  unfold processOzyByte OzyCounters.next OzyParser.counters
  cases h : p.state with
  | sync0 =>
    dsimp only
    split
    . rfl
    . rw [h]
  | micSampleLow =>
    dsimp only
    split
    . rfl
    . rfl
  | skip => simp [h]
  | _ => rfl

namespace OzyCounters

structure InBounds (n : Nat) (c : OzyCounters) : Prop where
  nreceiver : c.state.inIqSample → 0 ≤ c.nreceiver ∧ c.nreceiver < n
  nsamples : c.state.inSample → 0 ≤ c.nsamples ∧ c.nsamples < c.iqSamples

structure Inv (n : Nat) (c : OzyCounters) : Prop extends c.InBounds n where
  iqSamples : c.state.inSample → c.iqSamples ≤ 63
  skip : c.state ≠ .skip

variable {n : Nat} {c : OzyCounters} {b : Byte}

theorem incr_eq {i : Int} (h : 0 ≤ i) (hlt : i < 100) : incr i = i + 1 := by
  obtain ⟨n, rfl⟩ := Int.eq_ofNat_of_zero_le h
  rw [incr_of_lt (by omega)]
  rfl

theorem iqSamples_bounds (hpos : 1 ≤ n) (hle : n ≤ 5)
    : 0 < 504 / (n * 6 + 2) ∧ 504 / (n * 6 + 2) ≤ 63 := by
  constructor
  . apply Nat.div_pos
    . omega
    . omega
  . apply Nat.div_le_of_le_mul
    omega

theorem inv_of_not_inSample (h : c.state.inSample = false) (hskip : c.state ≠ .skip)
    : c.Inv n := by
  have hiq : c.state.inIqSample = false := by
    unfold OzyState.inSample at h
    split at h
    . contradiction
    . contradiction
    . exact h
  constructor
  . constructor
    . simp [hiq]
    . simp [h]
  . simp [h]
  . exact hskip

theorem inv_next (hpos : 1 ≤ n) (hle : n ≤ 5) (hinv : c.Inv n) : (c.next n b).Inv n := by
  have ⟨⟨hn, hs⟩, hiq, hskip⟩ := hinv
  have hnew := iqSamples_bounds hpos hle
  unfold next
  cases hstate : c.state with
  | rightSampleLow =>
    simp only [hstate, OzyState.inSample, OzyState.inIqSample, forall_const] at hn hs hiq
    rw [incr_eq hn.1 (by omega)]
    refine ⟨⟨?_, fun _ => hs⟩, fun _ => hiq, ?_⟩
    . dsimp only
      split
      . simp [OzyState.inIqSample]
      . omega
    . dsimp only
      split <;> simp
  | micSampleLow =>
    simp only [hstate, OzyState.inSample, forall_const] at hs hiq
    rw [incr_eq hs.1 (by omega)]
    dsimp only
    split
    . apply inv_of_not_inSample
      . rfl
      . simp
    . refine ⟨⟨fun _ => ?_, fun _ => ?_⟩, fun _ => hiq, by simp⟩
      . dsimp only
        omega
      . dsimp only
        omega
  | control4 =>
    refine ⟨⟨fun _ => ?_, fun _ => ?_⟩, fun _ => ?_, by simp⟩
    . dsimp only
      omega
    . dsimp only
      omega
    . dsimp only
      omega
  | skip => exact absurd hstate hskip
  | sync0 | sync1 | sync2 =>
    apply inv_of_not_inSample
    . dsimp only
      split <;> rfl
    . dsimp only
      split <;> simp
  | control0 | control1 | control2 | control3 =>
    apply inv_of_not_inSample
    . rfl
    . simp
  | micSampleHi =>
    simp only [hstate, OzyState.inSample, forall_const] at hs hiq
    exact ⟨⟨by simp [OzyState.inIqSample], fun _ => hs⟩, fun _ => hiq, by simp⟩
  | leftSampleHi | leftSampleMid | leftSampleLow | rightSampleHi | rightSampleMid =>
    simp only [hstate, OzyState.inSample, OzyState.inIqSample, forall_const] at hn hs hiq
    exact ⟨⟨fun _ => hn, fun _ => hs⟩, fun _ => hiq, by simp⟩

-- what is left of the groups of the frame, at most 32 bytes each
def groupsLeft (c : OzyCounters) : Int := 32 * (c.iqSamples - c.nsamples - 1)

-- what is left of the samples of the group, for at most 5 receivers, and the mic sample
def samplesLeft (c : OzyCounters) : Int := 6 * (5 - c.nreceiver) + 2

-- an upper bound for the number of bytes up to the end of the frame
def budget (c : OzyCounters) : Int :=
  match c.state with
  | .sync0 => 0
  | .sync1 => 2023
  | .sync2 => 2022
  | .control0 => 2021
  | .control1 => 2020
  | .control2 => 2019
  | .control3 => 2018
  | .control4 => 2017
  | .leftSampleHi => c.groupsLeft + c.samplesLeft
  | .leftSampleMid => c.groupsLeft + c.samplesLeft - 1
  | .leftSampleLow => c.groupsLeft + c.samplesLeft - 2
  | .rightSampleHi => c.groupsLeft + c.samplesLeft - 3
  | .rightSampleMid => c.groupsLeft + c.samplesLeft - 4
  | .rightSampleLow => c.groupsLeft + c.samplesLeft - 5
  | .micSampleHi => c.groupsLeft + 2
  | .micSampleLow => c.groupsLeft + 1
  | .skip => 0

theorem budget_bounds (hle : n ≤ 5) (hinv : c.Inv n) (hsync : c.state ≠ .sync0)
    : 0 < c.budget ∧ c.budget ≤ 2023 := by
  have ⟨⟨hn, hs⟩, hiq, hskip⟩ := hinv
  unfold budget
  cases hstate : c.state with
  | sync0 => contradiction
  | skip => contradiction
  | micSampleHi | micSampleLow =>
    simp only [hstate, OzyState.inSample, forall_const] at hs hiq
    simp only [groupsLeft]
    omega
  | leftSampleHi | leftSampleMid | leftSampleLow
  | rightSampleHi | rightSampleMid | rightSampleLow =>
    simp only [hstate, OzyState.inSample, OzyState.inIqSample, forall_const] at hn hs hiq
    simp only [groupsLeft, samplesLeft]
    omega
  | _ => simp

theorem budget_next (hpos : 1 ≤ n) (hle : n ≤ 5) (hinv : c.Inv n) (hsync : c.state ≠ .sync0)
    (hnext : (c.next n b).state ≠ .sync0)
    : (c.next n b).budget + 1 ≤ c.budget := by
  have ⟨⟨hn, hs⟩, hiq, hskip⟩ := hinv
  have hnew := iqSamples_bounds hpos hle
  unfold next at hnext ⊢
  cases hstate : c.state with
  | sync0 => contradiction
  | skip => contradiction
  | sync1 | sync2 =>
    simp only [hstate] at hnext ⊢
    split at hnext
    next h => simp [budget, hstate, h]
    next h => contradiction
  | control4 =>
    simp only [budget, groupsLeft, samplesLeft, hstate]
    omega
  | rightSampleLow =>
    simp only [hstate, OzyState.inSample, OzyState.inIqSample, forall_const] at hn hs hiq
    rw [incr_eq hn.1 (by omega)]
    dsimp only
    split
    . simp only [budget, groupsLeft, samplesLeft, hstate]
      omega
    . simp only [budget, groupsLeft, samplesLeft, hstate]
      omega
  | micSampleLow =>
    simp only [hstate, OzyState.inSample, forall_const] at hs hiq hnext
    rw [incr_eq hs.1 (by omega)] at hnext ⊢
    split at hnext
    . contradiction
    next h =>
      rw [if_neg h]
      simp only [budget, groupsLeft, samplesLeft, hstate]
      omega
  | _ =>
    simp only [budget, groupsLeft, samplesLeft, hstate]
    omega

structure Stuck (n : Nat) (c : OzyCounters) : Prop where
  state : c.state.inIqSample
  nreceiver : n ≤ c.nreceiver

theorem stuck_next (h : c.Stuck n) (hlt : c.nreceiver + 1 < 2 ^ 31)
    : (c.next n b).Stuck n ∧ (c.next n b).nreceiver ≤ c.nreceiver + 1 := by
  have ⟨hstate, hn⟩ := h
  have hnonneg : 0 ≤ c.nreceiver := by omega
  have ⟨m, hm⟩ := Int.eq_ofNat_of_zero_le hnonneg
  unfold next
  cases hs : c.state with
  | rightSampleLow =>
    have hincr : incr c.nreceiver = c.nreceiver + 1 := by
      rw [hm, incr_of_lt (by omega)]
      rfl
    dsimp only
    rw [hincr, if_neg (by omega)]
    refine ⟨⟨rfl, ?_⟩, by omega⟩
    dsimp only
    omega
  | leftSampleHi | leftSampleMid | leftSampleLow | rightSampleHi | rightSampleMid =>
    refine ⟨⟨rfl, hn⟩, ?_⟩
    dsimp only
    omega
  | _ => simp [hs, OzyState.inIqSample] at hstate

end OzyCounters

namespace OzyInput

def InBounds (y : OzyInput) : Prop := y.parser.counters.InBounds (howManyReceivers y.settings)

def Inv (y : OzyInput) : Prop := y.parser.counters.Inv (howManyReceivers y.settings)

-- A receiver count loaded amidst the samples of a group is above the number of the next receiver.
def SafeLoad (y : OzyInput) : OzyInputEvent → Prop
  | .load c => y.parser.state.inIqSample → y.parser.nreceiver < howManyReceivers c
  | .byte _ _ => True

instance (y : OzyInput) (e : OzyInputEvent) : Decidable (y.SafeLoad e) := by
  unfold SafeLoad
  split <;> infer_instance

theorem counters_step_byte (y : OzyInput) (e : OzyEnv) (b : Byte)
    : (y.step (.byte e b)).parser.counters =
        y.parser.counters.next (howManyReceivers y.settings) b :=
  counters_processOzyByte (y.env e) y.parser b

theorem parser_step_load (y : OzyInput) (c : ReceiverSettings)
    : (y.step (.load c)).parser = y.parser := rfl

theorem inv_init (c : ReceiverSettings) : (init c).Inv := by
  apply OzyCounters.inv_of_not_inSample
  . rfl
  . simp [init, OzyParser.init, OzyParser.counters]

theorem inv_step (y : OzyInput) (e : OzyInputEvent) (hinv : y.Inv) (hsafe : y.SafeLoad e)
    : (y.step e).Inv := by
  cases e with
  | load c =>
    have ⟨⟨hn, hs⟩, hiq, hskip⟩ := hinv
    exact ⟨⟨fun h => ⟨(hn h).1, hsafe h⟩, hs⟩, hiq, hskip⟩
  | byte e b =>
    unfold Inv
    rw [counters_step_byte]
    apply OzyCounters.inv_next
    . apply howManyReceivers_pos
    . apply howManyReceivers_le
    . exact hinv

theorem budget_step (y : OzyInput) (e : OzyInputEvent) (hinv : y.Inv)
    (hsync : y.parser.state ≠ .sync0) (hnext : (y.step e).parser.state ≠ .sync0)
    : (y.step e).parser.counters.budget.toNat + (if e.isByte then 1 else 0)
        ≤ y.parser.counters.budget.toNat := by
  cases e with
  | load c => apply Nat.le_refl
  | byte e b =>
    have hpos := OzyCounters.budget_bounds (howManyReceivers_le y.settings) hinv hsync
    have hle :=
      OzyCounters.budget_next (b := b) (howManyReceivers_pos y.settings)
        (howManyReceivers_le y.settings) hinv hsync
        (by rw [← counters_step_byte y e b]; exact hnext)
    rw [counters_step_byte]
    simp only [OzyInputEvent.isByte, if_true]
    omega

theorem returns_of_safeLoads {y : OzyInput} {es : List OzyInputEvent} (hinv : y.Inv)
    (hsafe : Run.Along step SafeLoad y es) (hlen : 2023 ≤ es.countP OzyInputEvent.isByte)
    : ∃ es', es' <+: es ∧ (Run.exec step y es').parser.state = .sync0 := by
  by_cases hsync : y.parser.state = .sync0
  . exact ⟨[], List.nil_prefix, hsync⟩
  . have hy := OzyCounters.budget_bounds (howManyReceivers_le y.settings) hinv hsync
    apply Run.exists_prefix_of_rank (fun y => y.parser.state = .sync0)
      (fun y => y.parser.counters.budget.toNat) OzyInputEvent.isByte inv_step
    . intro y hinv hsync
      have := OzyCounters.budget_bounds (howManyReceivers_le y.settings) hinv hsync
      omega
    . intro y e hinv _ hsync hnext
      apply budget_step y e hinv hsync hnext
    . exact hinv
    . exact hsafe
    . omega

theorem resync_of_safeLoads (c : ReceiverSettings) (es : List OzyInputEvent)
    (hsafe : Run.Along step SafeLoad (init c) es)
    : Run.Along step (fun y e => (y.step e).InBounds) (init c) es
        ∧ ∀ es₁ es₂, es = es₁ ++ es₂ → 2023 ≤ es₂.countP OzyInputEvent.isByte →
            ∃ es', es' <+: es₂
              ∧ (Run.exec step (Run.exec step (init c) es₁) es').parser.state = .sync0 := by
  constructor
  . apply Run.along_of_invariant inv_step _ (inv_init c) hsafe
    intro y e hinv he
    exact (inv_step y e hinv he).toInBounds
  . intro es₁ es₂ hes hlen
    rw [hes, Run.along_append] at hsafe
    apply returns_of_safeLoads _ hsafe.2 hlen
    apply Run.exec_invariant inv_step (inv_init c) hsafe.1

-- PureSignal with five receivers
def puresignalSettings : ReceiverSettings where
  device := .angelia
  anan10E := false
  receivers := 1
  diversityEnabled := false
  puresignal := true
  receivers_eq := receivers_one

def singleSettings : ReceiverSettings := { puresignalSettings with puresignal := false }

def radioEnv : OzyEnv where
  transmitting := false
  puresignal := false
  diversityEnabled := false
  duplex := false
  receivers := 1
  micSampleDivisor := 1
  stNumHpsdrReceivers := 0
  stRxfdbk := 0
  stTxfdbk := 0

def bytesOf (bs : List Byte) : List OzyInputEvent := bs.map (.byte radioEnv)

theorem resync_load_in_frame
    : let es := bytesOf [sync, sync, sync, 0, 0, 0, 0, 0, 1, 2, 3] ++ [.load puresignalSettings]
      Run.Along step (fun y e => (y.step e).InBounds) (init singleSettings) es :=
  (resync_of_safeLoads singleSettings _ (by decide +kernel)).1

-- A buffer that ends amidst a frame, after the samples of three receivers.
def splitFrame : List OzyInputEvent :=
  bytesOf (List.replicate 998 0 ++ [sync, sync, sync] ++ List.replicate 23 0)

theorem exec_splitFrame
    : (Run.exec step (init puresignalSettings) splitFrame).parser.counters
        = ⟨.leftSampleHi, 3, 0, 15⟩ := by
  decide +kernel

theorem not_sync0_of_stuck {y : OzyInput}
    (hy : y.parser.counters.Stuck (howManyReceivers y.settings)) (bs : List Byte)
    (hlen : y.parser.nreceiver + bs.length < 2 ^ 31)
    : (Run.exec step y (bytesOf bs)).parser.state ≠ .sync0 := by
  induction bs generalizing y with
  | nil =>
    intro h
    have hstate : y.parser.state.inIqSample := hy.state
    have h : y.parser.state = .sync0 := h
    simp [h, OzyState.inIqSample] at hstate
  | cons b bs ih =>
    rw [List.length_cons] at hlen
    have hlt : y.parser.counters.nreceiver + 1 < 2 ^ 31 := by
      simp only [OzyParser.counters]
      omega
    have ⟨hnext, hle⟩ := OzyCounters.stuck_next (b := b) hy hlt
    rw [← counters_step_byte y radioEnv b] at hnext hle
    simp only [OzyParser.counters] at hle
    apply ih hnext
    omega

theorem not_resync_of_count_lowered
    : (¬ ∀ c es, Run.Along step (fun y e => (y.step e).InBounds) (init c) es)
        ∧ ∀ bound, bound + 4 ≤ 2 ^ 31 →
            ¬ ∀ c es₁ es₂, bound ≤ es₂.countP OzyInputEvent.isByte →
              ∃ es', es' <+: es₂
                ∧ (Run.exec step (Run.exec step (init c) es₁) es').parser.state = .sync0 := by
  constructor
  . intro h
    have hbounds := (h puresignalSettings (splitFrame ++ .load singleSettings :: [])).at
    have hn := hbounds.nreceiver
    rw [parser_step_load, exec_splitFrame] at hn
    revert hn
    decide
  . intro bound hbound h
    have hbytes : ∀ k, bytesOf (List.replicate k 0) = List.replicate k (.byte radioEnv 0) := by
      intro k
      rw [bytesOf, List.map_replicate]
    have ⟨es', hpre, hsync⟩ :=
      h puresignalSettings (splitFrame ++ [.load singleSettings]) (bytesOf (List.replicate bound 0))
        (by rw [hbytes, List.countP_replicate]; exact Nat.le_refl _)
    rw [hbytes] at hpre
    have ⟨k, hk, hes'⟩ := List.sublist_replicate_iff.mp hpre.sublist
    rw [hes', ← hbytes, Run.exec_append] at hsync
    have hcounters : (Run.exec step (Run.exec step (init puresignalSettings) splitFrame)
        [.load singleSettings]).parser.counters = ⟨.leftSampleHi, 3, 0, 15⟩ := by
      rw [Run.exec_cons, Run.exec_nil, parser_step_load]
      exact exec_splitFrame
    apply not_sync0_of_stuck _ (List.replicate k 0) _ hsync
    . rw [hcounters]
      exact ⟨rfl, by decide⟩
    . have hn := congrArg OzyCounters.nreceiver hcounters
      simp only [OzyParser.counters] at hn
      rw [hn, List.length_replicate]
      omega

end OzyInput

end OldProtocol
