import Pihpsdr.Gpio.Impl.Controller

/-!
The switches on the I2C bus: what `i2c_interrupt` schedules against what the registers say, for all results of its
reads.
-/

namespace Gpio

-- the line, GPA0 to GPA7 and GPB0 to GPB7, that a switch is wired to
def i2cLine (i : Fin 16) : Fin 16 :=
  #v[15, 14, 13, 12, 3, 11, 10, 7, 6, 5, 4, 0, 2, 1, 9, 8].get i

-- what is read, unless the result is negative
def register (data : BitVec 32) : BitVec 16 :=
  data.setWidth 16

def switchAction (functions : Fin 16 → Int) {w : Nat} (flags ints : BitVec w) (i : Fin 16)
    : Option Effect :=
  if flags.getLsbD (i2cLine i) then
    some (.scheduleAction (functions i) (pressedOr (ints.getLsbD (i2cLine i))) 0)
  else
    none

-- one action for each flagged line
def switchActions (functions : Fin 16 → Int) (flags ints : BitVec 16) : List Effect :=
  (List.finRange 16).filterMap (switchAction functions flags ints)

/--
What the reads should lead to: a failed read schedules nothing and ends the loop, as does a read that finds no flag.
-/
def i2cActions (functions : Fin 16 → Int) : List (BitVec 32) → List Effect × Bool
  | [] => ([], false)
  | [flags] => ([], flags.msb || register flags = 0)
  | flags :: ints :: reads =>
    if flags.msb || register flags = 0 || ints.msb then
      ([], true)
    else
      let rest := i2cActions functions reads
      (switchActions functions (register flags) (register ints) ++ rest.1, rest.2)

/--
No read that the loop makes fails, but a read of the flags may fail with a number whose lower 16 bits are zero.
-/
def Harmless : List (BitVec 32) → Prop
  | [] => True
  | [flags] => flags.msb → register flags = 0
  | flags :: ints :: reads =>
    register flags = 0 ∨ flags.msb = false ∧ ints.msb = false ∧ Harmless reads

theorem i2cSw_eq (i : Fin 16) : i2cSw i = BitVec.twoPow 32 (i2cLine i) := by
  revert i
  decide

theorem i2cLine_injective : Function.Injective i2cLine := by
  unfold Function.Injective
  decide

-- Each line has its switch.
theorem exists_line (j : Fin 16) : ∃ i, i2cLine i = j := by
  revert j
  decide

theorem readWordData_eq (data : BitVec 32) : readWordData data = (register data).setWidth 32 := by
  have hmask : (0xFFFF : BitVec 32) = (BitVec.allOnes 16).setWidth 32 := rfl
  unfold readWordData register
  rw [hmask]
  ext j hj
  simp only [BitVec.getElem_and, BitVec.getElem_setWidth, BitVec.getLsbD_allOnes,
    BitVec.getLsbD_setWidth, BitVec.getLsbD_eq_getElem hj, Bool.and_comm]

theorem getLsbD_readWordData (data : BitVec 32) (j : Fin 16)
    : (readWordData data).getLsbD j = (register data).getLsbD j := by
  have hj := j.isLt
  rw [readWordData_eq, BitVec.getLsbD_setWidth, decide_eq_true (by omega), Bool.true_and]

theorem readWordData_eq_zero (data : BitVec 32) : readWordData data = 0 ↔ register data = 0 := by
  rw [readWordData_eq]
  constructor
  . intro h
    have hback := congrArg (BitVec.setWidth 16) h
    rwa [BitVec.setWidth_setWidth_of_le _ (by omega), BitVec.setWidth_eq] at hback
  . intro h
    rw [h]
    rfl

theorem i2cSw_and_ne_zero (i : Fin 16) (x : BitVec 32)
    : i2cSw i &&& x ≠ 0 ↔ x.getLsbD (i2cLine i) := by
  have hline := (i2cLine i).isLt
  have htwoPow : BitVec.twoPow 32 (i2cLine i) ≠ 0#32 := by
    intro h
    have hbit := congrArg (BitVec.getLsbD · (i2cLine i)) h
    simp only [BitVec.getLsbD_twoPow, BitVec.getLsbD_zero, decide_true, Bool.and_true,
      decide_eq_false_iff_not] at hbit
    omega
  rw [i2cSw_eq, BitVec.twoPow_and]
  split
  next h => exact iff_of_true htwoPow h
  next h => exact iff_of_false (not_not_intro rfl) h

-- Clearing the flag of one switch leaves those of the others.
theorem getLsbD_clear {i j : Fin 16} (h : i ≠ j) (flags : BitVec 32)
    : (flags &&& ~~~i2cSw i).getLsbD (i2cLine j) = flags.getLsbD (i2cLine j) := by
  have hne : (i2cLine i).val ≠ (i2cLine j).val :=
    fun heq => h (i2cLine_injective (Fin.ext heq))
  have hj := (i2cLine j).isLt
  rw [i2cSw_eq, BitVec.getLsbD_and, BitVec.getLsbD_not, BitVec.getLsbD_twoPow,
    decide_eq_false hne, Bool.and_false, Bool.not_false, decide_eq_true (by omega), Bool.and_true,
    Bool.and_true]

variable {functions : Fin 16 → Int}

theorem scheduleSwitches_eq (ints flags : BitVec 32) {is : List (Fin 16)} (h : is.Nodup)
    : scheduleSwitches functions ints flags is
        = is.filterMap (switchAction functions flags ints) := by
  induction is generalizing flags with
  | nil => rfl
  | cons i is ih =>
    obtain ⟨hmem, hnodup⟩ := List.nodup_cons.mp h
    rw [scheduleSwitches]
    by_cases hzero : flags = 0
    . rw [if_pos hzero, Eq.comm, List.filterMap_eq_nil_iff]
      intro j _
      rw [hzero]
      exact if_neg (by rw [BitVec.ofNat_eq_ofNat, BitVec.getLsbD_zero]; decide)
    . rw [if_neg hzero, List.filterMap_cons, switchAction]
      by_cases hflag : flags.getLsbD (i2cLine i)
      . have hclear : is.filterMap (switchAction functions (flags &&& ~~~i2cSw i) ints)
            = is.filterMap (switchAction functions flags ints) := by
          apply List.filterMap_congr
          intro j hj
          have hne : i ≠ j := fun heq => hmem (heq ▸ hj)
          rw [switchAction, getLsbD_clear hne, switchAction]
        have hvalue : decide (ints &&& i2cSw i ≠ 0) = ints.getLsbD (i2cLine i) := by
          rw [BitVec.and_comm, Bool.eq_iff_iff, decide_eq_true_iff, i2cSw_and_ne_zero]
        rw [if_pos ((i2cSw_and_ne_zero i flags).mpr hflag), ih _ hnodup, hclear, if_pos hflag,
          hvalue]
      . rw [if_neg (mt (i2cSw_and_ne_zero i flags).mp hflag), ih _ hnodup, if_neg hflag]

-- The loop over the switches starts one action for each flag.
theorem scheduleSwitches_registers (flags ints : BitVec 32)
    : scheduleSwitches functions (readWordData ints) (readWordData flags) (List.finRange 16)
        = switchActions functions (register flags) (register ints) := by
  rw [scheduleSwitches_eq _ _ (List.nodup_finRange 16)]
  unfold switchActions
  apply List.filterMap_congr
  intro i _
  rw [switchAction, getLsbD_readWordData, getLsbD_readWordData, switchAction]

theorem switchActions_ne_nil {flags : BitVec 16} (h : flags ≠ 0) (ints : BitVec 16)
    : switchActions functions flags ints ≠ [] := by
  intro hnil
  apply h
  rw [switchActions, List.filterMap_eq_nil_iff] at hnil
  apply BitVec.eq_of_getLsbD_eq
  intro j hj
  obtain ⟨i, hi⟩ := exists_line ⟨j, hj⟩
  have hnone := hnil i (List.mem_finRange i)
  rw [switchAction, hi] at hnone
  rw [BitVec.ofNat_eq_ofNat, BitVec.getLsbD_zero]
  by_contra hset
  rw [if_pos (Bool.not_eq_false _ ▸ hset)] at hnone
  exact absurd hnone (Option.some_ne_none _)

theorem i2cInterrupt_of_flags {flags ints : BitVec 32} (h : register flags ≠ 0)
    (reads : List (BitVec 32))
    : i2cInterrupt functions (flags :: ints :: reads)
        = (switchActions functions (register flags) (register ints)
            ++ (i2cInterrupt functions reads).1, (i2cInterrupt functions reads).2) := by
  rw [i2cInterrupt, if_neg (mt (readWordData_eq_zero flags).mp h), scheduleSwitches_registers]

-- An iteration that schedules something where nothing should happen.
theorem i2cInterrupt_ne {flags ints : BitVec 32} (h : register flags ≠ 0)
    (reads : List (BitVec 32))
    : i2cInterrupt functions (flags :: ints :: reads) ≠ ([], true) := by
  rw [i2cInterrupt_of_flags h]
  intro heq
  have hnil := (Prod.ext_iff.mp heq).1
  exact switchActions_ne_nil h _ (List.append_eq_nil_iff.mp hnil).1

theorem i2cActions_of_failure {flags ints : BitVec 32} (h : flags.msb ∨ ints.msb)
    (reads : List (BitVec 32))
    : i2cActions functions (flags :: ints :: reads) = ([], true) := by
  rw [i2cActions, if_pos]
  rcases h with h | h
  . rw [h, Bool.true_or, Bool.true_or]
  . rw [h, Bool.or_true]

/--
What `i2c_interrupt` schedules is what the registers say if and only if no read that it makes fails, but for
failures that look like a register without a flag.
-/
theorem i2cInterrupt_eq_iff (functions : Fin 16 → Int)
    : ∀ reads : List (BitVec 32),
        i2cInterrupt functions reads = i2cActions functions reads ↔ Harmless reads
  | [] => iff_of_true rfl trivial
  | [flags] => by
    rw [i2cInterrupt, i2cActions, Harmless]
    have hzero := readWordData_eq_zero flags
    by_cases hflags : register flags = 0
    . refine iff_of_true ?_ fun _ => hflags
      rw [decide_eq_true (hzero.mpr hflags), decide_eq_true hflags, Bool.or_true]
    . rw [decide_eq_false (mt hzero.mp hflags), decide_eq_false hflags, Bool.or_false]
      cases flags.msb with
      | false => exact iff_of_true rfl fun h => absurd h Bool.false_ne_true
      | true =>
        refine iff_of_false ?_ fun h => hflags (h rfl)
        intro h
        cases (Prod.ext_iff.mp h).2
  | flags :: ints :: reads => by
    have ih := i2cInterrupt_eq_iff functions reads
    rw [Harmless]
    by_cases hflags : register flags = 0
    . refine iff_of_true ?_ (.inl hflags)
      rw [i2cInterrupt, if_pos ((readWordData_eq_zero flags).mpr hflags), i2cActions,
        decide_eq_true hflags, Bool.or_true, Bool.true_or, if_pos rfl]
    . by_cases hfail : flags.msb ∨ ints.msb
      . rw [i2cActions_of_failure hfail]
        refine iff_of_false (i2cInterrupt_ne hflags reads) ?_
        rintro (h | ⟨hf, hi, _⟩)
        . exact hflags h
        . rcases hfail with h | h
          . exact absurd (hf.symm.trans h) Bool.false_ne_true
          . exact absurd (hi.symm.trans h) Bool.false_ne_true
      . rw [not_or, Bool.not_eq_true, Bool.not_eq_true] at hfail
        obtain ⟨hf, hi⟩ := hfail
        rw [i2cInterrupt_of_flags hflags, i2cActions, hf, hi, decide_eq_false hflags,
          Bool.or_false, Bool.or_false, if_neg Bool.false_ne_true, Prod.mk.injEq,
          List.append_cancel_left_eq, ← Prod.ext_iff, ih]
        simp only [hflags, false_or, true_and]

-- A bus that fails for two reads, with the number of `EREMOTEIO`, presses twelve switches.
theorem not_i2cInterrupt_eq
    : ¬ ∀ (functions : Fin 16 → Int) (reads : List (BitVec 32)),
        i2cInterrupt functions reads = i2cActions functions reads := by
  intro h
  have hfail := h (fun i => i) [-121, -121, 0]
  revert hfail
  decide

end Gpio
