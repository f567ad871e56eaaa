import Pihpsdr.NewProtocol.Impl.Ddc

/-!
The DDCs that are programmed are those whose samples have a consumer, and they are programmed as it
needs them, but for a second receiver of the older devices in duplex with PureSignal.
-/

namespace NewProtocol

/--
What the packet "receive specific" says about the DDCs; the samples of `d` with `synced e d` are
sent in the packets of the DDC `e`.
-/
@[ext]
structure Programming where
  enabled : Ddc → Bool
  synced : Ddc → Ddc → Bool
  adc : Ddc → BitVec 8
  rate : Ddc → Nat

namespace Programming

def none : Programming :=
  ⟨fun _ => false, fun _ _ => false, fun _ => 0, fun _ => 0⟩

def program (g : Programming) (ddc : Ddc) (adc : Int) (kHz : Nat) : Programming :=
  { g with
    adc := Function.update g.adc ddc (BitVec.ofInt 8 adc)
    rate := Function.update g.rate ddc kHz }

def enable (g : Programming) (ddc : Ddc) : Programming :=
  { g with enabled := Function.update g.enabled ddc true }

-- the partner of DDC0
def sync (g : Programming) : Programming :=
  { g with synced := Function.update g.synced 0 fun d => d = 1 }

def enableOnly (g : Programming) : Programming :=
  { g with enabled := fun d => d = 0 }

end Programming

def programming (p : Packet) : Programming where
  enabled d := (p 7).getLsbD d
  synced e d := (p (1363 + e.val)).getLsbD d
  adc d := p (17 + 6 * d.val)
  rate d := 256 * (p (18 + 6 * d.val)).toNat + (p (19 + 6 * d.val)).toNat

section

variable (p : Packet)

theorem programming_eq {g : Programming} (henabled : ∀ d : Ddc, (p 7).getLsbD d = g.enabled d)
    (hsynced : ∀ e d : Ddc, (p (1363 + e.val)).getLsbD d = g.synced e d)
    (hadc : ∀ d : Ddc, p (17 + 6 * d.val) = g.adc d)
    (hrate : ∀ d : Ddc, 256 * (p (18 + 6 * d.val)).toNat + (p (19 + 6 * d.val)).toNat = g.rate d)
    : programming p = g := by
  apply Programming.ext
  . exact funext henabled
  . exact funext fun e => funext (hsynced e)
  . exact funext hadc
  . exact funext hrate

theorem programming_zeros : programming Packet.zeros = Programming.none := by
  apply programming_eq
  . intro d
    apply BitVec.getLsbD_zero
  . intro e d
    apply BitVec.getLsbD_zero
  . intro d
    rfl
  . intro d
    rfl

-- the other bytes of the packet
theorem programming_set {i : Nat} (h : i < 7 ∨ 17 ≤ i ∧ i < 1363 ∧ 3 ≤ (i - 17) % 6) (x : BitVec 8)
    : programming (p.set i x) = programming p := by
  have hset {j : Nat} (hj : j ≠ i) : p.set i x j = p j := Packet.set_of_ne p hj x
  apply programming_eq
  . intro d
    rw [hset (by omega)]
    rfl
  . intro e d
    rw [hset (by omega)]
    rfl
  . intro d
    rw [hset (by omega)]
    rfl
  . intro d
    rw [hset (by omega), hset (by omega)]
    rfl

theorem programming_programDdc (ddc : Ddc) (adc : Int) {kHz : Nat} (h : kHz < 65536)
    : programming (programDdc p ddc adc kHz) = (programming p).program ddc adc kHz := by
  have hother {j : Nat} (hj : j < 17 + 6 * ddc.val ∨ 19 + 6 * ddc.val < j)
      : programDdc p ddc adc kHz j = p j := by
    unfold programDdc
    rw [Packet.set_of_ne _ (by omega), Packet.set_of_ne _ (by omega),
      Packet.set_of_ne _ (by omega)]
  have hadc : programDdc p ddc adc kHz (17 + 6 * ddc.val) = BitVec.ofInt 8 adc := by
    unfold programDdc
    rw [Packet.set_of_ne _ (by omega), Packet.set_of_ne _ (by omega), Packet.set_self]
  have hmsb : programDdc p ddc adc kHz (18 + 6 * ddc.val) = BitVec.ofNat 8 (kHz / 256) := by
    unfold programDdc
    rw [Packet.set_of_ne _ (by omega), Packet.set_self]
  have hlsb : programDdc p ddc adc kHz (19 + 6 * ddc.val) = BitVec.ofNat 8 kHz :=
    Packet.set_self ..
  unfold Programming.program
  apply programming_eq
  . intro d
    rw [hother (by omega)]
    rfl
  . intro e d
    rw [hother (by omega)]
    rfl
  . intro d
    dsimp only
    by_cases hd : d = ddc
    . rw [hd, hadc, Function.update_self]
    . have hval : d.val ≠ ddc.val := fun h => hd (Fin.ext h)
      rw [hother (by omega), Function.update_of_ne hd]
      rfl
  . intro d
    dsimp only
    by_cases hd : d = ddc
    . rw [hd, hmsb, hlsb, Function.update_self, BitVec.toNat_ofNat, BitVec.toNat_ofNat]
      omega
    . have hval : d.val ≠ ddc.val := fun h => hd (Fin.ext h)
      rw [hother (by omega), hother (by omega), Function.update_of_ne hd]
      rfl

-- a byte of flags
theorem programming_set_flags (x : BitVec 8)
    : programming (p.set 7 x) = { programming p with enabled := fun d => x.getLsbD d } := by
  have hset {j : Nat} (hj : j ≠ 7) : p.set 7 x j = p j := Packet.set_of_ne p hj x
  apply programming_eq
  . intro d
    rw [Packet.set_self]
  . intro e d
    rw [hset (by omega)]
    rfl
  . intro d
    rw [hset (by omega)]
    rfl
  . intro d
    rw [hset (by omega), hset (by omega)]
    rfl

theorem getLsbD_bit : ∀ ddc d : Ddc, (1#8 <<< ddc.val).getLsbD d.val = decide (d = ddc) := by
  decide

theorem programming_enableDdc (ddc : Ddc)
    : programming (enableDdc p ddc) = (programming p).enable ddc := by
  have hflags : (fun d : Ddc => (p 7 ||| 1#8 <<< ddc.val).getLsbD d)
      = Function.update (programming p).enabled ddc true := by
    funext d
    rw [BitVec.getLsbD_or, getLsbD_bit]
    by_cases hd : d = ddc
    . simp [hd]
    . simp [hd, programming]
  rw [enableDdc, programming_set_flags, Programming.enable, hflags]

theorem programming_enableOnly : programming (p.set 7 1) = (programming p).enableOnly := by
  have hbits : ∀ d : Ddc, (1#8).getLsbD d.val = decide (d = 0) := by
    decide
  rw [Programming.enableOnly, ← funext hbits]
  apply programming_set_flags

theorem programming_sync : programming (p.set 1363 2) = (programming p).sync := by
  have hset {j : Nat} (hj : j ≠ 1363) : p.set 1363 2 j = p j := Packet.set_of_ne p hj 2
  unfold Programming.sync
  apply programming_eq
  . intro d
    rw [hset (by omega)]
    rfl
  . intro e d
    dsimp only
    by_cases he : e = 0
    . have hbits : ∀ d : Ddc, (2#8).getLsbD d = decide (d = 1) := by
        decide
      rw [he, Function.update_self, ← hbits]
      exact congrArg (BitVec.getLsbD · d.val) (Packet.set_self ..)
    . have hval : e.val ≠ 0 := fun h => he (Fin.ext h)
      rw [hset (by omega), Function.update_of_ne he]
      rfl
  . intro d
    rw [hset (by omega)]
    rfl
  . intro d
    rw [hset (by omega), hset (by omega)]
    rfl

end

namespace Programming

-- a DDC sends samples, in packets of its own or in those of the DDC it is synchronised with
def InUse (g : Programming) (d : Ddc) : Prop :=
  g.enabled d ∨ ∃ e, g.enabled e ∧ g.synced e d

-- the DDC in whose packets the samples come
def carrier (g : Programming) (d : Ddc) : Ddc :=
  if g.enabled d then
    d
  else
    ((List.finRange 4).find? fun e => g.enabled e && g.synced e d).getD d

instance (g : Programming) (d : Ddc) : Decidable (g.InUse d) := by
  unfold InUse
  infer_instance

end Programming

namespace DdcSettings

variable (s : DdcSettings)

-- the mixer for DIVERSITY and the feedback for PureSignal run, the receivers run
def diversity : Bool :=
  s.diversityEnabled && !s.xmit

def feedback : Bool :=
  s.puresignal && s.xmit

def receiving : Bool :=
  !s.xmit && !s.diversityEnabled || s.xmit && s.duplex

theorem sampleRate_eq (r : DdcReceiver) : 1000 * (r.sampleRate / 1000) = r.sampleRate := by
  have hmem := r.sampleRate_mem
  unfold sampleRates at hmem
  simp only [List.mem_cons, List.not_mem_nil, or_false] at hmem
  omega

theorem kHz_lt (r : DdcReceiver) : r.sampleRate / 1000 < 65536 := by
  have hmem := r.sampleRate_mem
  unfold sampleRates at hmem
  simp only [List.mem_cons, List.not_mem_nil, or_false] at hmem
  omega

-- the settings of receiver `i`
def addReceiver (g : Programming) (i : Fin 2) : Programming :=
  (if s.receiving then g.enable (s.ddcOf i) else g).program (s.ddcOf i) (s.receiver i).adc
    ((s.receiver i).sampleRate / 1000)

def addReceivers (g : Programming) : Programming :=
  if s.receivers > 1 then s.addReceiver (s.addReceiver g 0) 1 else s.addReceiver g 0

theorem programming_programReceiver (p : Packet) (i : Fin 2)
    : programming (s.programReceiver p i) = s.addReceiver (programming p) i := by
  have hsize : programming (s.programReceiver p i)
      = programming (programDdc
          (if s.receiving then enableDdc p (s.ddcOf i) else p) (s.ddcOf i) (s.receiver i).adc
          ((s.receiver i).sampleRate / 1000)) := by
    unfold programReceiver receiving
    dsimp only
    rw [programming_set _ (by omega)]
    cases s.xmit <;> cases s.diversityEnabled <;> cases s.duplex <;> rfl
  rw [hsize, programming_programDdc _ _ _ (kHz_lt _), addReceiver]
  split
  . rw [programming_enableDdc]
  . rfl

theorem programming_programReceivers (p : Packet)
    : programming (s.programReceivers p) = s.addReceivers (programming p) := by
  unfold programReceivers addReceivers
  dsimp only
  split
  . rw [programming_programReceiver, programming_programReceiver]
  . rw [programming_programReceiver]

def addPureSignal (g : Programming) : Programming :=
  (((g.program 0 s.psFeedbackAdc 192).program 1 s.nAdc 192).sync).enable 0

theorem programming_programPureSignal (p : Packet)
    : programming (s.programPureSignal p) = s.addPureSignal (programming p) := by
  unfold programPureSignal addPureSignal
  dsimp only
  rw [programming_enableDdc, programming_sync, programming_set _ (by omega),
    programming_programDdc _ _ _ (by omega), programming_set _ (by omega),
    programming_programDdc _ _ _ (by omega)]

def addDiversity (g : Programming) : Programming :=
  let rate := (s.receiver 0).sampleRate / 1000
  (((g.program 0 0 rate).program 1 1 rate).sync).enableOnly

theorem programming_programDiversity (p : Packet)
    : programming (s.programDiversity p) = s.addDiversity (programming p) := by
  have hrate := kHz_lt (s.receiver 0)
  unfold programDiversity addDiversity
  dsimp only
  rw [programming_enableOnly, programming_sync, programming_set _ (by omega),
    programming_programDdc _ _ _ hrate, programming_set _ (by omega),
    programming_programDdc _ _ _ hrate, programming_set _ (by omega), programming_set _ (by omega)]

def programmed : Programming :=
  let g := s.addReceivers .none
  let g := if s.feedback then s.addPureSignal g else g
  if s.diversity then s.addDiversity g else g

theorem programming_receiveSpecific (sequence : BitVec 32)
    : programming (s.newProtocolReceiveSpecific sequence) = s.programmed := by
  have hheader (p : Packet) (hp : programming p = .none)
      : programming
          (((p.set 4 (BitVec.ofInt 8 s.nAdc)).set 5
            ((s.adc 0).dither ||| (s.adc 1).dither <<< 1)).set 6
            ((s.adc 0).random ||| (s.adc 1).random <<< 1)) = .none := by
    rw [programming_set _ (by omega), programming_set _ (by omega), programming_set _ (by omega), hp]
  have hsequence : programming (Packet.zeros.putWord 0 sequence) = .none := by
    unfold Packet.putWord
    rw [programming_set _ (by omega), programming_set _ (by omega), programming_set _ (by omega),
      programming_set _ (by omega), programming_zeros]
  unfold newProtocolReceiveSpecific programmed
  dsimp only
  unfold feedback diversity
  split
  . rw [programming_programDiversity]
    split
    . rw [programming_programPureSignal, programming_programReceivers, hheader _ hsequence]
    . rw [programming_programReceivers, hheader _ hsequence]
  . split
    . rw [programming_programPureSignal, programming_programReceivers, hheader _ hsequence]
    . rw [programming_programReceivers, hheader _ hsequence]

-- the receiver that a DDC works for, if it is not part of a synchronised pair
def receiverOf (newdev two : Bool) (d : Ddc) : Option (Fin 2) :=
  let first : Ddc := if newdev then 2 else 0
  if d = first then some 0 else if two ∧ d = first + 1 then some 1 else none

def two : Bool :=
  s.receivers > 1

theorem receiverOf_eq_some {d : Ddc} {i : Fin 2} (h : receiverOf s.newdev s.two d = some i)
    : d = s.ddcOf i ∧ (i = 1 → s.two) := by
  unfold ddcOf
  revert h
  generalize s.newdev = newdev
  generalize s.two = two
  revert newdev two d i
  decide

theorem ddcOf_ne : s.ddcOf 0 ≠ s.ddcOf 1 := by
  unfold ddcOf
  cases s.newdev <;> decide

theorem isSome_receiverOf (d : Ddc)
    : (receiverOf s.newdev s.two d).isSome = (decide (d = s.ddcOf 0) || s.two && decide (d = s.ddcOf 1))
    := by
  unfold ddcOf
  generalize s.newdev = newdev
  generalize s.two = two
  revert newdev two d
  decide

theorem enabled_addReceiver (g : Programming) (i : Fin 2) (d : Ddc)
    : (s.addReceiver g i).enabled d = (s.receiving && decide (d = s.ddcOf i) || g.enabled d) := by
  unfold addReceiver Programming.program Programming.enable
  cases s.receiving with
  | false => simp
  | true =>
    simp only [if_true, Function.update_apply, Bool.true_and]
    split
    . next hd => simp [hd]
    . next hd => simp [hd]

theorem enabled_addReceivers (d : Ddc)
    : (s.addReceivers .none).enabled d
        =
      (s.receiving && (receiverOf s.newdev s.two d).isSome) := by
  have hnone : Programming.none.enabled d = false := rfl
  rw [isSome_receiverOf, addReceivers, two]
  split
  . next htwo =>
    rw [enabled_addReceiver, enabled_addReceiver, hnone, decide_eq_true htwo, Bool.or_false,
      Bool.true_and, Bool.and_or_distrib_left, Bool.or_comm]
  . next hone =>
    rw [enabled_addReceiver, hnone, decide_eq_false hone, Bool.false_and, Bool.or_false,
      Bool.or_false]

theorem synced_addReceivers : (s.addReceivers .none).synced = fun _ _ => false := by
  have hsynced (g : Programming) (i : Fin 2) : (s.addReceiver g i).synced = g.synced := by
    unfold addReceiver Programming.program
    dsimp only
    split <;> rfl
  unfold addReceivers
  split
  . rw [hsynced, hsynced]
    rfl
  . rw [hsynced]
    rfl

-- which DDCs are enabled and synchronised, and the action table, in terms of what runs
def selected (newdev two receiving feedback diversity : Bool) : Programming where
  enabled d :=
    if diversity then d = 0
    else receiving && (receiverOf newdev two d).isSome || feedback && d = 0
  synced e d := (feedback || diversity) && e = 0 && d = 1
  adc _ := 0
  rate _ := 0

def served (newdev two receiving feedback diversity : Bool) (d : Ddc) : Option Consumer :=
  if diversity then
    if d = 0 then some .diversity else none
  else if feedback && d = 0 then
    some .pureSignal
  else if receiving && !(feedback && !newdev) then
    (receiverOf newdev two d).map .receiver
  else
    none

def selection : Programming :=
  selected s.newdev s.two s.receiving s.feedback s.diversity

theorem enabled_programmed : s.programmed.enabled = s.selection.enabled := by
  have hreceivers := s.enabled_addReceivers
  funext d
  unfold programmed selection selected
  dsimp only
  cases s.diversity with
  | true => rfl
  | false =>
    cases s.feedback with
    | true =>
      have hd : (s.addPureSignal (s.addReceivers .none)).enabled d
          = Function.update (s.addReceivers .none).enabled 0 true d := rfl
      simp only [if_true, Bool.false_eq_true, if_false, hd, Function.update_apply, hreceivers]
      by_cases h : d = 0
      . simp [h]
      . simp [h]
    | false => simp [hreceivers]

theorem synced_programmed : s.programmed.synced = s.selection.synced := by
  have hsync (synced : Ddc → Ddc → Bool) (h : synced = fun _ _ => false)
      : (Function.update synced 0 fun d => decide (d = 1))
          = fun e d => decide (e = 0) && decide (d = 1) := by
    funext e d
    by_cases he : e = 0
    . simp [he]
    . simp [he, h]
  have hnone := s.synced_addReceivers
  have hexclusive : s.diversity = true → s.feedback = false := by
    unfold diversity feedback
    cases s.xmit <;> simp
  unfold programmed selection selected
  dsimp only
  cases hdiversity : s.diversity with
  | true =>
    rw [hexclusive hdiversity]
    exact (hsync _ hnone).trans (by simp)
  | false =>
    cases s.feedback with
    | true => exact (hsync _ hnone).trans (by simp)
    | false => simp [hnone]

theorem carrier_programmed (d : Ddc) : s.programmed.carrier d = s.selection.carrier d := by
  unfold Programming.carrier
  rw [enabled_programmed, synced_programmed]

theorem inUse_programmed (d : Ddc) : s.programmed.InUse d ↔ s.selection.InUse d := by
  unfold Programming.InUse
  rw [enabled_programmed, synced_programmed]

theorem consumer_receiverActions (rxcase : Ddc → RxAction) (newdev : Bool) (d : Ddc)
    : (s.receiverActions rxcase (if newdev then 2 else 0) d).consumer
        =
      ((receiverOf newdev s.two d).map .receiver).or (rxcase d).consumer := by
  have hne (first : Ddc) : first ≠ first + 1 := by
    revert first
    decide
  unfold receiverActions receiverOf two
  dsimp only
  generalize (if newdev then (2 : Ddc) else 0) = first
  by_cases hfirst : d = first
  . have hsecond : d ≠ first + 1 := by
      rw [hfirst]
      apply hne
    rw [if_pos hfirst]
    split
    . rw [Function.update_of_ne hsecond, hfirst, Function.update_self]
      rfl
    . rw [hfirst, Function.update_self]
      rfl
  . rw [if_neg hfirst]
    by_cases htwo : s.receivers > 1
    . rw [if_pos htwo]
      by_cases hsecond : d = first + 1
      . rw [hsecond, Function.update_self]
        simp [htwo, RxAction.consumer]
      . rw [Function.update_of_ne hsecond, Function.update_of_ne hfirst]
        simp [hsecond]
    . rw [if_neg htwo, Function.update_of_ne hfirst]
      simp [htwo]

@[simp]
theorem consumer_skip : RxAction.skip.consumer = none := rfl

@[simp]
theorem consumer_ps : RxAction.ps.consumer = some .pureSignal := rfl

@[simp]
theorem consumer_div : RxAction.div.consumer = some .diversity := rfl

theorem consumer_updateActionTable (d : Ddc)
    : (s.updateActionTable d).consumer
        =
      served s.newdev s.two s.receiving s.feedback s.diversity d := by
  have hold := fun rxcase => s.consumer_receiverActions rxcase false d
  have hnew := fun rxcase => s.consumer_receiverActions rxcase true d
  simp only [if_true, Bool.false_eq_true, if_false] at hold hnew
  have hpair (action : RxAction)
      : (Function.update (fun _ => RxAction.skip) (0 : Ddc) action d).consumer
        = if d = 0 then action.consumer else none := by
    rw [Function.update_apply]
    split <;> rfl
  have hfirst : receiverOf true s.two 0 = none := by
    cases s.two <;> rfl
  have hboth : ((receiverOf true s.two d).map Consumer.receiver).or
      (if d = 0 then some .pureSignal else none)
        = if d = 0 then some .pureSignal else (receiverOf true s.two d).map .receiver := by
    by_cases hd : d = 0
    . rw [hd, hfirst]
      rfl
    . simp [hd]
  -- twelve values of the flag
  unfold updateActionTable served receiving feedback diversity flag
  cases s.newdev <;> cases s.xmit <;> cases s.duplex <;> cases s.puresignal
    <;> cases s.diversityEnabled <;> simp [hold, hnew, hpair, hboth]

/--
What a consumer needs of a DDC; `phase` is the word for its frequency.
-/
structure Tuning where
  adc : BitVec 8
  sampleRate : Nat
  phase : BitVec 32

def wanted (phase : Int → BitVec 32) (d : Ddc) : Consumer → Tuning
  | .receiver id =>
    ⟨BitVec.ofInt 8 (s.receiver id).adc, (s.receiver id).sampleRate, phase (s.ddcFrequency id)⟩
  | .diversity => ⟨BitVec.ofNat 8 d.val, (s.receiver 0).sampleRate, phase (s.ddcFrequency 0)⟩
  | .pureSignal =>
    ⟨BitVec.ofInt 8 (if d = 0 then s.psFeedbackAdc else s.nAdc), 192000, phase s.ducFrequency⟩

def ddcWord (phase : Int → BitVec 32) (d : Ddc) : BitVec 32 :=
  (s.newProtocolHighPriority phase).word (9 + 4 * d.val)

def tuned (phase : Int → BitVec 32) (g : Programming) (d : Ddc) : Tuning :=
  ⟨g.adc d, 1000 * g.rate d, s.ddcWord phase d⟩

section

variable (phase : Int → BitVec 32) {d : Ddc}

-- the frequency of the transmitter, in both DDCs of the pair
theorem ddcWord_of_feedback (h : s.feedback) (hd : d = 0 ∨ d = 1)
    : s.ddcWord phase d = phase s.ducFrequency := by
  have hxmit : (s.xmit && s.puresignal) = true := by
    rw [Bool.and_comm]
    exact h
  unfold ddcWord newProtocolHighPriority
  dsimp only
  rw [if_pos hxmit, Packet.word_putWord_self]
  cases hd with
  | inl hd =>
    rw [hd]
    exact (Packet.word_putWord_of_disjoint _ (by decide) _).trans (Packet.word_putWord_self ..)
  | inr hd =>
    rw [hd]
    apply Packet.word_putWord_self

theorem ddcWord_of_diversity (h : s.diversity) (hd : d = 0 ∨ d = 1)
    : s.ddcWord phase d = phase (s.ddcFrequency 0) := by
  have hxmit : s.xmit = false := by
    unfold diversity at h
    revert h
    cases s.xmit <;> simp
  have hmixer : (s.diversityEnabled && !s.xmit) = true := h
  unfold ddcWord newProtocolHighPriority
  dsimp only
  rw [if_pos hmixer, hxmit, Bool.false_and, if_neg Bool.false_ne_true,
    Packet.word_putWord_of_disjoint _ (by omega)]
  cases hd with
  | inl hd =>
    rw [hd]
    exact (Packet.word_putWord_of_disjoint _ (by decide) _).trans (Packet.word_putWord_self ..)
  | inr hd =>
    rw [hd]
    apply Packet.word_putWord_self

-- the words for the receivers before those of a transmission
theorem ddcWord_of_receiver {i : Fin 2} (hdiversity : ¬s.diversity)
    (hfeedback : s.feedback → s.newdev) (hd : receiverOf s.newdev s.two d = some i)
    : s.ddcWord phase d = phase (s.ddcFrequency i) := by
  have hmixer : ¬(s.diversityEnabled && !s.xmit) = true := hdiversity
  have ⟨hd, htwo⟩ := s.receiverOf_eq_some hd
  have hsecond : i = 0 ∨ i = 1 ∧ s.receivers > 1 := by
    unfold two at htwo
    have hi : i = 0 ∨ i = 1 := by omega
    cases hi with
    | inl hi => exact .inl hi
    | inr hi => exact .inr ⟨hi, of_decide_eq_true (htwo hi)⟩
  unfold ddcWord newProtocolHighPriority
  dsimp only
  rw [if_neg hmixer, hd, ddcOf]
  cases hnew : s.newdev with
  | true =>
    simp only [if_true]
    obtain hi | ⟨hi, htwo⟩ := hsecond
    . rw [hi]
      change Packet.word _ 17 = _
      split <;> split <;> simp (disch := decide) [Packet.word_putWord_of_disjoint]
    . rw [hi, if_pos htwo]
      change Packet.word _ 21 = _
      split <;> simp (disch := decide) [Packet.word_putWord_of_disjoint]
  | false =>
    have hxmit : ¬(s.xmit && s.puresignal) = true := by
      intro h
      rw [Bool.and_comm] at h
      rw [hfeedback h] at hnew
      contradiction
    rw [if_neg hxmit]
    simp only [Bool.false_eq_true, if_false]
    obtain hi | ⟨hi, htwo⟩ := hsecond
    . rw [hi]
      split <;> simp (disch := decide) [Packet.word_putWord_of_disjoint]
    . rw [hi, if_pos htwo]
      simp (disch := decide) [Packet.word_putWord_of_disjoint]

end

theorem adc_rate_addReceivers {d : Ddc} {i : Fin 2} (g : Programming)
    (hd : receiverOf s.newdev s.two d = some i)
    : (s.addReceivers g).adc d = BitVec.ofInt 8 (s.receiver i).adc
        ∧ (s.addReceivers g).rate d = (s.receiver i).sampleRate / 1000 := by
  have hself (g : Programming) (i : Fin 2)
      : (s.addReceiver g i).adc (s.ddcOf i) = BitVec.ofInt 8 (s.receiver i).adc
        ∧ (s.addReceiver g i).rate (s.ddcOf i) = (s.receiver i).sampleRate / 1000 :=
    ⟨Function.update_self .., Function.update_self ..⟩
  have ⟨hd, htwo⟩ := s.receiverOf_eq_some hd
  unfold two at htwo
  rw [hd]
  unfold addReceivers
  split
  next =>
    have hi : i = 0 ∨ i = 1 := by omega
    cases hi with
    | inl hi =>
      have hadc : (s.addReceiver (s.addReceiver g 0) 1).adc (s.ddcOf 0)
          = (s.addReceiver g 0).adc (s.ddcOf 0) := by
        unfold addReceiver
        split <;> exact Function.update_of_ne s.ddcOf_ne ..
      have hrate : (s.addReceiver (s.addReceiver g 0) 1).rate (s.ddcOf 0)
          = (s.addReceiver g 0).rate (s.ddcOf 0) := by
        unfold addReceiver
        split <;> exact Function.update_of_ne s.ddcOf_ne ..
      rw [hi, hadc, hrate]
      apply hself
    | inr hi =>
      rw [hi]
      apply hself
  next hone =>
    have hi : i = 0 := by
      have hi : i = 0 ∨ i = 1 := by omega
      cases hi with
      | inl hi => exact hi
      | inr hi => exact absurd (of_decide_eq_true (htwo hi)) hone
    rw [hi]
    apply hself

-- the pair of PureSignal
theorem adc_rate_addPureSignal {d : Ddc} (g : Programming) (hd : d = 0 ∨ d = 1)
    : (s.addPureSignal g).adc d = BitVec.ofInt 8 (if d = 0 then s.psFeedbackAdc else s.nAdc)
        ∧ (s.addPureSignal g).rate d = 192 := by
  cases hd with
  | inl hd =>
    rw [hd]
    exact ⟨rfl, rfl⟩
  | inr hd =>
    rw [hd]
    exact ⟨rfl, rfl⟩

theorem adc_rate_addDiversity {d : Ddc} (g : Programming) (hd : d = 0 ∨ d = 1)
    : (s.addDiversity g).adc d = BitVec.ofNat 8 d.val
        ∧ (s.addDiversity g).rate d = (s.receiver 0).sampleRate / 1000 := by
  cases hd with
  | inl hd =>
    rw [hd]
    exact ⟨rfl, rfl⟩
  | inr hd =>
    rw [hd]
    exact ⟨rfl, rfl⟩

-- the receivers of a newer device keep their DDCs
theorem adc_rate_addPureSignal_of_receiver {d : Ddc} {i : Fin 2} (g : Programming)
    (hnew : s.newdev) (hd : receiverOf s.newdev s.two d = some i)
    : (s.addPureSignal g).adc d = g.adc d ∧ (s.addPureSignal g).rate d = g.rate d := by
  have hd : d ≠ 0 ∧ d ≠ 1 := by
    have hne : ∀ i : Fin 2,
        (2 : Ddc) + i.castLE (by decide) ≠ 0 ∧ (2 : Ddc) + i.castLE (by decide) ≠ 1 := by
      decide
    rw [(s.receiverOf_eq_some hd).1, ddcOf, if_pos hnew]
    exact hne i
  constructor
  . exact (Function.update_of_ne hd.2 ..).trans (Function.update_of_ne hd.1 ..)
  . exact (Function.update_of_ne hd.2 ..).trans (Function.update_of_ne hd.1 ..)

-- the consumer of the samples of a DDC
def consumerOf (g : Programming) (d : Ddc) : Option Consumer :=
  (s.updateActionTable (g.carrier d)).consumer

/--
The DDCs in use are those with a consumer, and they are programmed for it.
-/
structure Matched (phase : Int → BitVec 32) (g : Programming) : Prop where
  delivered : ∀ d, g.InUse d ↔ (s.consumerOf g d).isSome
  tuned : ∀ d c, g.InUse d → s.consumerOf g d = some c → s.tuned phase g d = s.wanted phase d c

-- the two bits of a pair are set for an older device only
theorem delivered_selected
    : ∀ newdev two receiving feedback diversity : Bool,
        (diversity → !feedback && !receiving) →
        ∀ d : Ddc,
          ((selected newdev two receiving feedback diversity).InUse d
            ↔ (served newdev two receiving feedback diversity
                ((selected newdev two receiving feedback diversity).carrier d)).isSome)
          ↔ ¬(d = 1 ∧ newdev = false ∧ two ∧ receiving ∧ feedback) := by
  decide

theorem served_selected
    : ∀ newdev two receiving feedback diversity : Bool, ∀ d : Ddc,
        (selected newdev two receiving feedback diversity).InUse d →
        let c := served newdev two receiving feedback diversity
          ((selected newdev two receiving feedback diversity).carrier d)
        (c = some .diversity → diversity ∧ (d = 0 ∨ d = 1))
          ∧ (c = some .pureSignal → diversity = false ∧ feedback ∧ (d = 0 ∨ d = 1))
          ∧ ∀ i, c = some (.receiver i) →
              diversity = false ∧ (feedback → newdev) ∧ receiverOf newdev two d = some i := by
  decide

theorem exclusive : s.diversity → !s.feedback && !s.receiving := by
  unfold diversity feedback receiving
  cases s.xmit <;> cases s.diversityEnabled <;> simp

theorem consumerOf_programmed (d : Ddc)
    : s.consumerOf s.programmed d
        =
      served s.newdev s.two s.receiving s.feedback s.diversity (s.selection.carrier d) := by
  rw [consumerOf, carrier_programmed, consumer_updateActionTable]

theorem tuned_programmed (phase : Int → BitVec 32) {d : Ddc} {c : Consumer}
    (hd : s.programmed.InUse d) (hc : s.consumerOf s.programmed d = some c)
    : s.tuned phase s.programmed d = s.wanted phase d c := by
  rw [inUse_programmed] at hd
  rw [consumerOf_programmed] at hc
  have ⟨hdiversity, hfeedback, hreceiver⟩ := served_selected _ _ _ _ _ d hd
  unfold tuned
  cases c with
  | diversity =>
    have ⟨hmixer, hpair⟩ := hdiversity hc
    have hprogrammed : ∃ g, s.programmed = s.addDiversity g := ⟨_, if_pos hmixer⟩
    obtain ⟨g, hg⟩ := hprogrammed
    have ⟨hadc, hrate⟩ := s.adc_rate_addDiversity g hpair
    rw [hg, hadc, hrate, sampleRate_eq, s.ddcWord_of_diversity phase hmixer hpair]
    rfl
  | pureSignal =>
    have ⟨hmixer, hpuresignal, hpair⟩ := hfeedback hc
    have hg : s.programmed = s.addPureSignal (s.addReceivers .none) := by
      unfold programmed
      simp [hmixer, hpuresignal]
    have ⟨hadc, hrate⟩ := s.adc_rate_addPureSignal (s.addReceivers .none) hpair
    rw [hg, hadc, hrate, s.ddcWord_of_feedback phase hpuresignal hpair]
    rfl
  | receiver i =>
    have ⟨hmixer, hnew, hi⟩ := hreceiver i hc
    have ⟨hadc, hrate⟩ := s.adc_rate_addReceivers .none hi
    have hword := s.ddcWord_of_receiver phase (by simp [hmixer]) hnew hi
    have hg : s.programmed.adc d = (s.addReceivers .none).adc d
        ∧ s.programmed.rate d = (s.addReceivers .none).rate d := by
      unfold programmed
      rw [hmixer, if_neg Bool.false_ne_true]
      cases hpuresignal : s.feedback with
      | true => exact s.adc_rate_addPureSignal_of_receiver _ (hnew hpuresignal) hi
      | false => exact ⟨rfl, rfl⟩
    rw [hg.1, hg.2, hadc, hrate, sampleRate_eq, hword]
    rfl

-- the older devices have no DDCs besides the pair
def SecondReceiverUnread : Prop :=
  s.newdev = false ∧ s.receivers > 1 ∧ s.xmit ∧ s.duplex ∧ s.puresignal

theorem matched_iff (s : DdcSettings) (phase : Int → BitVec 32) (sequence : BitVec 32)
    : s.Matched phase (programming (s.newProtocolReceiveSpecific sequence))
        ↔
      ¬s.SecondReceiverUnread := by
  have hflags : s.SecondReceiverUnread
      ↔ s.newdev = false ∧ s.two ∧ s.receiving ∧ s.feedback := by
    unfold SecondReceiverUnread two receiving feedback
    cases s.xmit <;> cases s.duplex <;> cases s.puresignal <;> simp
  have hdelivered := delivered_selected s.newdev s.two s.receiving s.feedback s.diversity s.exclusive
  rw [programming_receiveSpecific, hflags]
  constructor
  . intro h hbad
    have hsecond := h.delivered 1
    rw [inUse_programmed, consumerOf_programmed] at hsecond
    exact (hdelivered 1).mp hsecond ⟨rfl, hbad⟩
  . intro hgood
    constructor
    . intro d
      rw [inUse_programmed, consumerOf_programmed]
      apply (hdelivered d).mpr
      intro hbad
      exact hgood hbad.2
    . intro d c
      apply tuned_programmed

theorem fullRate_mem : 192000 ∈ sampleRates := by
  decide

-- a transceiver of the older kind on 20 m and 40 m
def hermes : DdcSettings where
  device := .newHermes
  nAdc := 1
  adc _ := ⟨0, 0⟩
  receivers := 2
  receivers_eq := receivers_two
  receiver _ := ⟨0, 192000, fullRate_mem⟩
  psFeedbackAdc := 0
  duplex := true
  puresignal := true
  diversityEnabled := false
  transmitting := true
  hpsdrPtt := false
  vfo id := ⟨0, .usb, if id = 0 then 14200000 else 7100000, false, 0, false, 0, 0⟩
  activeReceiver := 0
  split := false
  frequencyCalibration := 0

-- DDC1 is enabled, and `iq_thread` skips its packets
theorem hermes_unread
    : ¬hermes.Matched (fun _ => 0) (programming (hermes.newProtocolReceiveSpecific 0)) := by
  intro h
  have hused : (programming (hermes.newProtocolReceiveSpecific 0)).InUse 1 := .inl (by decide)
  exact absurd ((h.delivered 1).mp hused) (by decide)

end DdcSettings

end NewProtocol
