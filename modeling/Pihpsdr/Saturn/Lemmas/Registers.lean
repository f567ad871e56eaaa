import Pihpsdr.Saturn.Impl.Registers
import Pihpsdr.Saturn.Lemmas.RxThread
import Pihpsdr.Simulator.Lemmas.P2

/-!
However the threads of the program take turns, the registers of the FPGA have what the settings say once
all handlers are done, each in its own bits.
-/

namespace Saturn

open Mask

/-! What an operation does with a group of bits. -/

namespace Op

-- the bits of a copy that may be changed
def touched : Op → Option (Reg × BitVec 32)
  | .update r cs => some (r, (Change.effect cs).1)
  | .keyerParams _ cs => some (.keyerConfig, (Change.effect cs).1)
  | .writeP2DdcRateRegister => some (.ddcRates, BitVec.allOnes 32)
  | .activateCwKeyer => some (.keyerConfig, bit 31)
  | .resetDucMux => some (.txConfig, bit 29)
  | _ => none

-- the bits that are put there, if they are always the same
def put : Op → Option (Reg × BitVec 32 × BitVec 32)
  | .update r cs => some (r, Change.effect cs)
  | .keyerParams _ cs => some (.keyerConfig, Change.effect cs)
  | _ => none

end Op

namespace State

def field (r : Reg) (group : BitVec 32) (y : State) : BitVec 32 := y.copies r &&& group

theorem copies_update (y : State) (r : Reg) (register : BitVec 32)
    : (y.update r register).copies = Function.update y.copies r register := by
  unfold update
  split
  . rfl
  next h =>
    rw [ne_eq, not_not] at h
    rw [h, Function.update_eq_self]

theorem field_update_of_ne {r r' : Reg} (h : r ≠ r') (y : State) (register group : BitVec 32)
    : (y.update r' register).field r group = y.field r group := by
  rw [field, copies_update, Function.update_of_ne h]
  rfl

theorem field_update_self (y : State) (r : Reg) (register group : BitVec 32)
    : (y.update r register).field r group = register &&& group := by
  rw [field, copies_update, Function.update_self]

theorem field_change_of_apart {r r' : Reg} {cs : List (Change 32)} {group : BitVec 32}
    (h : r = r' → (Change.effect cs).1 &&& group = 0#32) (y : State)
    : (y.update r' (Change.runAll cs (y.copies r'))).field r group = y.field r group := by
  by_cases hr : r = r'
  . subst hr
    rw [field_update_self, Change.runAll_and_of_apart (h rfl)]
    rfl
  . exact field_update_of_ne hr _ _ _

theorem copies_keyerParams (k : Handler) (n : Option (BitVec 32)) (cs : List (Change 32)) (y : State)
    : (y.apply k (.keyerParams n cs)).copies
        = (y.update .keyerConfig (Change.runAll cs (y.copies .keyerConfig))).copies := by
  unfold apply
  cases n with
  | none => rfl
  | some n =>
    dsimp only
    rw [copies_update, copies_update]
    split <;> rfl

theorem field_apply_of_apart {op : Op} {r : Reg} {group : BitVec 32}
    (h : ∀ t ∈ op.touched, r = t.1 → t.2 &&& group = 0#32) (k : Handler) (y : State)
    : (y.apply k op).field r group = y.field r group := by
  cases op with
  | update r' cs => exact field_change_of_apart (h _ rfl) y
  | keyerParams n cs =>
    rw [field, copies_keyerParams]
    exact field_change_of_apart (h _ rfl) y
  | writeP2DdcRateRegister =>
    by_cases hr : r = .ddcRates
    . have hgroup := h _ rfl hr
      rw [BitVec.allOnes_and] at hgroup
      rw [field, field, hgroup, BitVec.and_zero, BitVec.and_zero]
    . exact field_update_of_ne hr _ _ _
  | activateCwKeyer =>
    refine field_change_of_apart (fun hr => ?_) y
    have hgroup := h _ rfl hr
    cases y.keyer k <;> exact hgroup
  | resetDucMux =>
    unfold field apply registerWrite
    dsimp only
    by_cases hr : r = .txConfig
    . have hgroup := h _ rfl hr
      subst hr
      rw [Function.update_self]
      exact Change.runAll_and_of_apart
        (show (Change.effect [.clear (bit 29)]).1 &&& group = 0#32 from hgroup) _
    . rw [Function.update_of_ne hr]
  | p2SampleRate | cwEnabled | breakinEnabled | wantKeyer | sdrActive => rfl

theorem field_apply_of_put {op : Op} {r : Reg} {group x : BitVec 32} (h : op.put = some (r, group, x))
    (k : Handler) (y : State)
    : (y.apply k op).field r group = x &&& group := by
  cases op with
  | update r' cs =>
    obtain ⟨rfl, heffect⟩ := Prod.mk.inj (Option.some.inj h)
    exact (field_update_self y _ _ _).trans (Change.runAll_and_of_eq heffect _)
  | keyerParams n cs =>
    obtain ⟨rfl, heffect⟩ := Prod.mk.inj (Option.some.inj h)
    rw [field, copies_keyerParams]
    exact (field_update_self y _ _ _).trans (Change.runAll_and_of_eq heffect _)
  | p2SampleRate | writeP2DdcRateRegister | cwEnabled | breakinEnabled | wantKeyer
    | activateCwKeyer | resetDucMux | sdrActive => contradiction

end State

/-! The bits that the operations of each handler may change. -/

-- bits of a register that an operation may change, if it changes any
abbrev Print := Option (Reg × BitVec 32)

def Op.Within (op : Op) (b : Print) : Prop :=
  ∀ t ∈ op.touched, ∃ g, b = some (t.1, g) ∧ t.2 &&& ~~~g = 0#32

theorem within_update {r : Reg} {cs : List (Change 32)} {g : BitVec 32}
    (h : ∀ c ∈ cs, c.mask &&& ~~~g = 0#32)
    : (Op.update r cs).Within (some (r, g)) := by
  rintro t ⟨⟩
  exact ⟨g, rfl, Change.effect_apart h⟩

theorem within_keyerParams {n : Option (BitVec 32)} {cs : List (Change 32)} {g : BitVec 32}
    (h : ∀ c ∈ cs, c.mask &&& ~~~g = 0#32)
    : (Op.keyerParams n cs).Within (some (.keyerConfig, g)) := by
  rintro t ⟨⟩
  exact ⟨g, rfl, Change.effect_apart h⟩

theorem within_none {op : Op} (h : op.touched = none) : op.Within none := by
  intro t ht
  rw [h] at ht
  contradiction

theorem within_whole (op : Op) {r : Reg} (h : ∀ t ∈ op.touched, t.1 = r)
    : op.Within (some (r, BitVec.allOnes 32)) := by
  intro t ht
  rw [← h t ht]
  exact ⟨_, rfl, by simp⟩

section Setters

theorem forall_mem_setIf {P : Change 32 → Prop} {on : Bool} {m : BitVec 32} (h : P (.set m))
    : ∀ c ∈ setIf on m, P c := by
  intro c hc
  unfold setIf at hc
  split at hc
  . exact List.mem_singleton.1 hc ▸ h
  . contradiction

theorem within_setBit (r : Reg) (n : Nat) (on : Bool)
    : (Op.update r (setBit n on)).Within (some (r, bit n)) := by
  apply within_update
  intro c hc
  cases on with
  | false => exact List.mem_singleton.1 hc ▸ BitVec.and_not_self (bit n)
  | true => exact List.mem_singleton.1 hc ▸ BitVec.and_not_self (bit n)

theorem within_setOpenCollectorOutputs (x : BitVec 8)
    : (setOpenCollectorOutputs (x >>> 1 &&& 0x7F)).Within (some (.rfGpio, 0x7F#32 <<< 16)) := by
  have hbits : ∀ x : BitVec 8,
      (x >>> 1 &&& 0x7F).setWidth 32 <<< 16 &&& ~~~(0x7F#32 <<< 16) = 0#32 := by
    decide +kernel
  apply within_update
  simp only [List.forall_mem_cons, List.not_mem_nil, false_imp_iff, implies_true, and_true]
  exact ⟨by decide, hbits x⟩

theorem within_setAdcOptions (dither1 random1 dither2 random2 : Bool)
    : (setAdcOptions false dither1 random1 false dither2 random2).Within
        (some (.rfGpio, 0x00003F00)) := by
  apply within_update
  simp only [List.forall_mem_append, List.forall_mem_cons, List.not_mem_nil, false_imp_iff,
    implies_true, and_true]
  refine ⟨⟨⟨⟨⟨⟨?_, ?_⟩, ?_⟩, ?_⟩, ?_⟩, ?_⟩, ?_⟩
  . decide
  all_goals exact forall_mem_setIf (by decide)

theorem within_setTxModulationSource (cw : Bool)
    : (setTxModulationSource (if cw then 3 else 0)).Within (some (.txConfig, 3)) := by
  apply within_update
  cases cw <;> decide

theorem within_hpf (on : Bool)
    : (Op.update .txConfig (.clear (bit 27) :: setIf on (bit 27))).Within
        (some (.txConfig, bit 27)) := by
  apply within_update
  cases on <;> decide

theorem within_alexManualRxFilters0 (bits : BitVec 16)
    : (alexManualRxFilters bits 0).Within (some (.alexRx, 0x0000FFFF)) := by
  have hbits := field_apart bits 0 (~~~0x0000FFFF : BitVec 32) (by decide)
  rw [BitVec.shiftLeft_zero] at hbits
  apply within_update
  simp only [List.forall_mem_cons, List.not_mem_nil, false_imp_iff, implies_true, and_true]
  exact ⟨by decide, hbits⟩

theorem within_alexManualRxFilters2 (bits : BitVec 16)
    : (alexManualRxFilters bits 2).Within (some (.alexRx, 0xFFFF0000)) := by
  apply within_update
  simp only [List.forall_mem_cons, List.not_mem_nil, false_imp_iff, implies_true, and_true]
  exact ⟨by decide, field_apart bits 16 _ (by decide)⟩

theorem within_setOrionMicOptions (micRing enableBias : Bool)
    : (setOrionMicOptions micRing enableBias).Within (some (.rfGpio, 0x0000000F)) := by
  apply within_update
  cases micRing <;> cases enableBias <;> decide

theorem within_setBalancedMicInput (balanced : Bool)
    : (setBalancedMicInput balanced).Within (some (.rfGpio, bit 5)) := by
  apply within_update
  cases balanced <;> decide

theorem within_rxAttenuator (x x' : BitVec 8)
    : (setAdcAttenuator (x &&& 0x1F) true false (x' &&& 0x1F) true false).Within
        (some (.adcCtrl, 0x00007C1F)) := by
  have h1 : ∀ x : BitVec 8,
      ((x &&& 0x1F).setWidth 32 &&& 0x1F) &&& ~~~0x00007C1F = 0#32 := by
    decide +kernel
  have h2 : ∀ x : BitVec 8,
      ((x &&& 0x1F).setWidth 32 &&& 0x1F) <<< 10 &&& ~~~0x00007C1F = 0#32 := by
    decide +kernel
  apply within_update
  simp only [if_true, Bool.false_eq_true, if_false, List.append_nil, List.cons_append,
    List.nil_append, List.forall_mem_cons, List.not_mem_nil, false_imp_iff, implies_true, and_true]
  exact ⟨by decide, h1 x, by decide, h2 x'⟩

theorem within_txAttenuator (x x' : BitVec 8)
    : (setAdcAttenuator (x &&& 0x1F) false true (x' &&& 0x1F) false true).Within
        (some (.adcCtrl, 0x000F83E0)) := by
  have h1 : ∀ x : BitVec 8,
      ((x &&& 0x1F).setWidth 32 &&& 0x1F) <<< 5 &&& ~~~0x000F83E0 = 0#32 := by
    decide +kernel
  have h2 : ∀ x : BitVec 8,
      ((x &&& 0x1F).setWidth 32 &&& 0x1F) <<< 15 &&& ~~~0x000F83E0 = 0#32 := by
    decide +kernel
  apply within_update
  simp only [if_true, Bool.false_eq_true, if_false, List.append_nil, List.cons_append,
    List.nil_append, List.forall_mem_cons, List.not_mem_nil, false_imp_iff, implies_true, and_true]
  exact ⟨by decide, h1 x, by decide, h2 x'⟩

theorem within_setCwIambicKeyer (speed weight : BitVec 8)
    (reverseKeys mode strictSpacing iambicEnabled breakin : Bool)
    : (setCwIambicKeyer speed weight reverseKeys mode strictSpacing iambicEnabled breakin).Within
        (some (.iambicConfig, 0x008FFFFF)) := by
  have hspeed := field_apart speed 0 (~~~0x008FFFFF : BitVec 32) (by decide)
  rw [BitVec.shiftLeft_zero] at hspeed
  apply within_update
  simp only [List.forall_mem_append, List.forall_mem_cons, List.not_mem_nil, false_imp_iff,
    implies_true, and_true]
  refine ⟨⟨⟨⟨⟨⟨by decide, hspeed, field_apart weight 8 _ (by decide)⟩, ?_⟩, ?_⟩, ?_⟩, ?_⟩, ?_⟩
  all_goals exact forall_mem_setIf (by decide)

theorem within_setDdcAdc (i : Fin 4) (byte : BitVec 8)
    : (setDdcAdc (channel i) (adcSelect byte)).Within
        (some (.ddcInSel, 3#32 <<< (2 * (channel i).val))) := by
  have hadc : ∀ (i : Fin 4) (j : Fin 4),
      (BitVec.ofNat 32 j.val &&& 3) <<< (2 * (channel i).val)
        &&& ~~~(3#32 <<< (2 * (channel i).val)) = 0#32 := by
    decide
  have hclear : ∀ i : Fin 4, (3#32 <<< (2 * (channel i).val)) &&& ~~~(3#32 <<< (2 * (channel i).val))
      = 0#32 := by
    decide
  apply within_update
  simp only [List.forall_mem_cons, List.not_mem_nil, false_imp_iff, implies_true, and_true]
  refine ⟨hclear i, ?_⟩
  unfold adcSelect
  split
  . exact hadc i 1
  . split
    . exact hadc i 3
    . exact hadc i 0

theorem within_setKeyerParams (b : Board) (delay : BitVec 8) (hangTime : BitVec 16) (ramp : BitVec 8)
    : (setKeyerParams b delay hangTime ramp).Within (some (.keyerConfig, 0x7FFFFFFF)) := by
  have hdelay := field_apart delay 0 (~~~0x7FFFFFFF : BitVec 32) (by decide)
  rw [BitVec.shiftLeft_zero] at hdelay
  have hhang : (hangTime.setWidth 32 &&& 0x3FF) <<< 8 &&& ~~~0x7FFFFFFF = 0#32 := by
    rw [BitVec.shiftLeft_and_distrib, BitVec.and_assoc]
    exact BitVec.and_zero
  have hend : cwRampEnd b (cwRampLength b ramp) &&& ~~~0x7FFFFFFF = 0#32 := by
    have hnew : ∀ ramp : BitVec 8,
        ((if (if ramp > 20 then 20 else ramp) < 5 then 5 else if ramp > 20 then 20 else ramp).setWidth 32
          * 192) <<< 18 &&& ~~~0x7FFFFFFF = 0#32 := by
      decide +kernel
    have hold : ∀ ramp : BitVec 8,
        ((if (if ramp > 10 then 10 else ramp) < 5 then 5 else if ramp > 10 then 10 else ramp).setWidth 32
          * 192) <<< 2 <<< 18 &&& ~~~0x7FFFFFFF = 0#32 := by
      decide +kernel
    unfold cwRampEnd cwRampLength
    by_cases hb : b.fpgaMinorVersion ≥ 14
    . simp only [if_pos hb]
      exact hnew ramp
    . simp only [if_neg hb]
      exact hold ramp
  unfold setKeyerParams
  dsimp only
  split
  . apply within_keyerParams
    simp only [List.cons_append, List.nil_append, List.forall_mem_cons, List.not_mem_nil,
      false_imp_iff, implies_true, and_true]
    exact ⟨by decide, hdelay, hhang, by decide, hend⟩
  . apply within_keyerParams
    simp only [List.forall_mem_cons, List.not_mem_nil, false_imp_iff, implies_true, and_true]
    exact ⟨by decide, hdelay, hhang⟩

end Setters

section Prints

def printsMox : List Print := [some (.rfGpio, bit 24), none, some (.keyerConfig, bit 31)]

def printsEnableCw : List Print :=
  [none, some (.txConfig, 3), none, none, some (.keyerConfig, bit 31)]

def printsRun (runBit : Bool) : List Print :=
  if runBit then
    [none, some (.rfGpio, bit 25)]
  else
    [none, some (.rfGpio, bit 25)] ++ printsMox ++ printsEnableCw

def printsDucFrequency (hpf : Bool) : List Print :=
  some (.txDuc, BitVec.allOnes 32) :: if hpf then [some (.txConfig, bit 27)] else []

def printsAlexTx (txAnt : Bool) : List Print :=
  (if txAnt then [some (.alexTxAnt, BitVec.allOnes 32)] else [])
    ++ [some (.alexTxFilt, BitVec.allOnes 32), some (.rfGpio, bit 27)]

-- what depends on the board, and the bit of the packet "high priority" that says if the radio runs
def prints (hpf txAnt runBit : Bool) : Handler → List Print
  | .general => [some (.rfGpio, bit 27)]
  | .highPriority =>
    (List.finRange 4).map (fun i => some (.ddc (channel i), BitVec.allOnes 32)) ++ printsRun runBit
      ++ printsMox ++ printsDucFrequency hpf
      ++ [some (.dacCtrl, BitVec.allOnes 32), some (.rfGpio, bit 30), some (.rfGpio, bit 4),
        some (.rfGpio, 0x7F#32 <<< 16)]
      ++ printsAlexTx txAnt
      ++ [some (.alexRx, 0xFFFF0000), some (.alexRx, 0x0000FFFF), some (.adcCtrl, 0x00007C1F)]
  | .ddcSpecific =>
    ([some (.rfGpio, 0x00003F00)] : List Print)
      ++ (List.finRange 4).flatMap
        (fun i => ([some (.ddcInSel, 3#32 <<< (2 * (channel i).val)), none] : List Print))
      ++ [some (.ddcRates, BitVec.allOnes 32)]
  | .ducSpecific =>
    some (.iambicConfig, 0x008FFFFF) :: some (.sideToneConfig, BitVec.allOnes 32) :: printsEnableCw
      ++ [some (.keyerConfig, 0x7FFFFFFF), some (.rfGpio, 0x0000000F), some (.rfGpio, bit 5),
        some (.adcCtrl, 0x000F83E0)]
  | .rxThread => [some (.ddcInSel, bit 30), some (.rfGpio, bit 26), some (.ddcInSel, bit 30)]

def Board.hpf (b : Board) : Bool := b.saturnPcbVersion ≥ 3

def Board.txAnt (b : Board) : Bool := b.fpgaMinorVersion ≥ 12

variable (b : Board)

theorem within_assign (r : Reg) (x : BitVec 32)
    : (Op.update r [.assign x]).Within (some (r, BitVec.allOnes 32)) :=
  within_whole _ fun t ht => by obtain ⟨⟩ := ht; rfl

theorem within_activateCwKeyer : Op.activateCwKeyer.Within (some (.keyerConfig, bit 31)) := by
  rintro t ⟨⟩
  exact ⟨bit 31, rfl, BitVec.and_not_self (bit 31)⟩

theorem forall₂_flatMap {l : List (Fin 4)} {f : Fin 4 → List Op} {g : Fin 4 → List Print}
    (h : ∀ i, List.Forall₂ Op.Within (f i) (g i))
    : List.Forall₂ Op.Within (l.flatMap f) (l.flatMap g) := by
  induction l with
  | nil => exact .nil
  | cons i l ih =>
    rw [List.flatMap_cons, List.flatMap_cons]
    exact List.rel_append (h i) ih

theorem within_setMox (mox : Bool) : List.Forall₂ Op.Within (setMox mox) printsMox :=
  .cons (within_setBit .rfGpio 24 mox) (.cons (within_none rfl) (.cons within_activateCwKeyer .nil))

theorem within_enableCw (enabled breakin : Bool)
    : List.Forall₂ Op.Within (enableCw enabled breakin) printsEnableCw :=
  .cons (within_none rfl) (.cons (within_setTxModulationSource enabled) (.cons (within_none rfl)
    (.cons (within_none rfl) (.cons within_activateCwKeyer .nil))))

theorem within_runOps (runBit : Bool) : List.Forall₂ Op.Within (runOps runBit) (printsRun runBit) := by
  have hrun (on : Bool) : List.Forall₂ Op.Within [.sdrActive on, setTxEnable on]
      [none, some (.rfGpio, bit 25)] :=
    .cons (within_none rfl) (.cons (within_setBit .rfGpio 25 on) .nil)
  cases runBit with
  | false =>
    exact List.rel_append (List.rel_append (hrun false) (within_setMox false))
      (within_enableCw false false)
  | true => exact hrun true

theorem within_setDucFrequency (phase : BitVec 32)
    : List.Forall₂ Op.Within (setDucFrequency b phase) (printsDucFrequency b.hpf) := by
  refine .cons (within_assign .txDuc phase) ?_
  by_cases hb : b.saturnPcbVersion ≥ 3
  . rw [if_pos hb, Board.hpf, if_pos (decide_eq_true hb)]
    exact .cons (within_hpf _) .nil
  . rw [if_neg hb, Board.hpf, decide_eq_false hb]
    exact .nil

theorem within_alexTx (p : Packet)
    : List.Forall₂ Op.Within (alexTx b p) (printsAlexTx b.txAnt) := by
  unfold alexTx printsAlexTx Board.txAnt
  by_cases hb : b.fpgaMinorVersion ≥ 12
  . rw [decide_eq_true hb]
    by_cases hp : p 1428 &&& 7 ≠ 0
    . rw [if_pos ⟨hb, hp⟩]
      exact .cons (within_assign .alexTxAnt _) (.cons (within_assign .alexTxFilt _)
        (.cons (within_setBit .rfGpio 27 _) .nil))
    . rw [if_neg fun h => hp h.2, if_pos hb]
      exact .cons (within_assign .alexTxAnt _) (.cons (within_assign .alexTxFilt _)
        (.cons (within_setBit .rfGpio 27 _) .nil))
  . rw [if_neg fun h => hb h.1, if_neg hb, decide_eq_false hb]
    exact .cons (within_assign .alexTxFilt _) (.cons (within_setBit .rfGpio 27 _) .nil)

theorem within_setCwSideTone (enabled : Bool) (volume : BitVec 8) (frequency : BitVec 16)
    : (setCwSideTone enabled volume frequency).Within
        (some (.sideToneConfig, BitVec.allOnes 32)) :=
  within_whole _ fun t ht => by obtain ⟨⟩ := ht; rfl

theorem within_program (h : Handler) (p : Packet)
    : List.Forall₂ Op.Within (program b h p) (prints b.hpf b.txAnt ((p 4).getLsbD 0) h) := by
  cases h with
  | general => exact .cons (within_setBit .rfGpio 27 _) .nil
  | highPriority =>
    refine List.rel_append (List.rel_append (List.rel_append (List.rel_append (List.rel_append
      (List.rel_append ?_ (within_runOps _)) (within_setMox _)) (within_setDucFrequency b _)) ?_)
      (within_alexTx b p)) ?_
    . rw [List.forall₂_map_left_iff, List.forall₂_map_right_iff, List.forall₂_same]
      exact fun i _ => within_assign (.ddc (channel i)) _
    . exact .cons (within_assign .dacCtrl _) (.cons (within_setBit .rfGpio 30 _)
        (.cons (within_setBit .rfGpio 4 _) (.cons (within_setOpenCollectorOutputs _) .nil)))
    . exact .cons (within_alexManualRxFilters2 _) (.cons (within_alexManualRxFilters0 _)
        (.cons (within_rxAttenuator _ _) .nil))
  | ddcSpecific =>
    refine List.rel_append (.cons (within_setAdcOptions _ _ _ _) (forall₂_flatMap fun i => ?_)) ?_
    . exact .cons (within_setDdcAdc i _) (.cons (within_none rfl) .nil)
    . exact .cons (within_whole _ fun t ht => by obtain ⟨⟩ := ht; rfl) .nil
  | ducSpecific =>
    refine .cons (within_setCwIambicKeyer _ _ _ _ _ _ _) (.cons (within_setCwSideTone _ _ _)
      (List.rel_append (within_enableCw _ _) ?_))
    exact .cons (within_setKeyerParams b _ _ _) (.cons (within_setOrionMicOptions _ _)
      (.cons (within_setBalancedMicInput _) (.cons (within_txAttenuator _ _) .nil)))
  | rxThread =>
    exact .cons (within_setBit .ddcInSel 30 false) (.cons (within_setBit .rfGpio 26 true)
      (.cons (within_setBit .ddcInSel 30 true) .nil))

end Prints

/-! Fields that one handler puts, apart from all other bits that are changed. -/

def Apart (x y : Print) : Prop := ∀ t ∈ x, ∀ t' ∈ y, t.1 = t'.1 → t.2 &&& t'.2 = 0#32

instance (x y : Print) : Decidable (Apart x y) :=
  inferInstanceAs (Decidable (∀ t ∈ x, ∀ t' ∈ y, t.1 = t'.1 → t.2 &&& t'.2 = 0#32))

theorem Apart.symm {x y : Print} (h : Apart x y) : Apart y x := by
  intro t ht t' ht' heq
  rw [BitVec.and_comm]
  exact h t' ht' t ht heq.symm

theorem and_eq_zero_of_within {x y z : BitVec 32} (hx : x &&& ~~~y = 0#32) (hy : y &&& z = 0#32)
    : x &&& z = 0#32 := by
  apply BitVec.eq_of_getLsbD_eq
  intro i hi
  have hxi := congrArg (BitVec.getLsbD · i) hx
  have hyi := congrArg (BitVec.getLsbD · i) hy
  simp only [BitVec.getLsbD_and, BitVec.getLsbD_not, hi, decide_true, Bool.true_and,
    BitVec.getLsbD_zero] at hxi hyi ⊢
  cases hx : x.getLsbD i <;> cases hy : y.getLsbD i <;> simp_all

theorem keeps_of_within {op : Op} {x : Print} (hop : op.Within x) {r : Reg} {group : BitVec 32}
    (h : Apart x (some (r, group))) (k : Handler)
    : Workers.Keeps State.apply (State.field r group) k op := by
  intro y
  apply State.field_apply_of_apart
  intro t ht hr
  obtain ⟨g, rfl, hg⟩ := hop t ht
  exact and_eq_zero_of_within hg (h _ rfl _ rfl hr.symm)

theorem puts_of_put {op : Op} {r : Reg} {g x group : BitVec 32} (h : op.put = some (r, g, x))
    (hgroup : group &&& ~~~g = 0#32) (k : Handler)
    : Workers.Puts State.apply (State.field r group) (x &&& group) k op := by
  have hsub : g &&& group = group := by
    apply BitVec.eq_of_getLsbD_eq
    intro i hi
    have hbit := congrArg (BitVec.getLsbD · i) hgroup
    simp only [BitVec.getLsbD_and, BitVec.getLsbD_not, hi, decide_true, Bool.true_and,
      BitVec.getLsbD_zero] at hbit ⊢
    cases hx : group.getLsbD i <;> cases hy : g.getLsbD i <;> simp_all
  intro y
  have hput := State.field_apply_of_put h k y
  unfold State.field at hput ⊢
  rw [← hsub, ← BitVec.and_assoc, hput, BitVec.and_assoc]

theorem within_trans {x y z : BitVec 32} (hxy : x &&& ~~~y = 0#32) (hyz : y &&& ~~~z = 0#32)
    : x &&& ~~~z = 0#32 :=
  and_eq_zero_of_within hxy hyz

theorem exists_print {ops : List Op} {bs : List Print} (h : List.Forall₂ Op.Within ops bs) {op : Op}
    (hop : op ∈ ops)
    : ∃ b ∈ bs, op.Within b := by
  induction h with
  | nil => contradiction
  | cons hab _ ih =>
    obtain rfl | hop := List.mem_cons.1 hop
    . exact ⟨_, List.mem_cons_self .., hab⟩
    . obtain ⟨b, hb, hwithin⟩ := ih hop
      exact ⟨b, List.mem_cons_of_mem _ hb, hwithin⟩

def handlers : List Handler := [.general, .highPriority, .ddcSpecific, .ducSpecific, .rxThread]

-- a field that only these handlers change
def Owned (owners : List Handler) (r : Reg) (group : BitVec 32) : Prop :=
  ∀ h ∈ handlers, h ∉ owners →
    ∀ hpf txAnt runBit : Bool, ∀ x ∈ prints hpf txAnt runBit h, Apart x (some (r, group))

instance (owners : List Handler) (r : Reg) (group : BitVec 32) : Decidable (Owned owners r group) :=
  inferInstanceAs (Decidable (∀ h ∈ handlers, h ∉ owners →
    ∀ hpf txAnt runBit : Bool, ∀ x ∈ prints hpf txAnt runBit h, Apart x (some (r, group))))

theorem Owned.keeps {owners : List Handler} {h : Handler} {r : Reg} {group : BitVec 32}
    (howned : Owned owners r group) (hne : h ∉ owners) (b : Board) (p : Packet)
    : ∀ op ∈ program b h p, Workers.Keeps State.apply (State.field r group) h op := by
  intro op hop
  obtain ⟨x, hx, hwithin⟩ := exists_print (within_program b h p) hop
  have hin : h ∈ handlers := by cases h <;> decide
  exact keeps_of_within hwithin (howned h hin hne _ _ _ x hx) h

-- a field that no handler changes
theorem field_exec {b : Board} {r : Reg} {group : BitVec 32} (howned : Owned [] r group)
    {y : Workers Handler State Op} (hy : y.Requested (program b))
    (evs : List (WorkerEvent Handler Packet))
    : (exec b y evs).shared.field r group = y.shared.field r group :=
  Workers.shared_invariant (I := fun z => z.field r group = y.shared.field r group)
    (fun _ p op hop z hz => (howned.keeps (List.not_mem_nil) b p op hop z).trans hz) hy rfl evs

end Saturn
