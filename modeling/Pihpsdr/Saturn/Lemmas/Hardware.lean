import Pihpsdr.Saturn.Lemmas.Settings

/-!
The registers of the FPGA in whole runs: they follow the copies in the program, and whenever all handlers
are done with packets of the same settings, they have what these say; the sample rates depend on the one
handler that sets them.
-/

namespace Saturn

open Mask
open NewProtocol (RadioSettings phaseWord)

/-! The registers of the FPGA and the copies of them. -/

namespace State

theorem registerWrite_cases (y : State) (r' : Reg) (x : BitVec 32) (r : Reg)
    : (y.registerWrite r' x).registers r = (y.registerWrite r' x).copies r
      ∨ ((y.registerWrite r' x).registers r = y.registers r
        ∧ (y.registerWrite r' x).copies r = y.copies r) := by
  unfold registerWrite
  dsimp only
  by_cases hr : r = r'
  . subst hr
    rw [Function.update_self, Function.update_self]
    exact .inl rfl
  . rw [Function.update_of_ne hr, Function.update_of_ne hr]
    exact .inr ⟨rfl, rfl⟩

theorem update_cases (y : State) (r' : Reg) (x : BitVec 32) (r : Reg)
    : (y.update r' x).registers r = (y.update r' x).copies r
      ∨ ((y.update r' x).registers r = y.registers r ∧ (y.update r' x).copies r = y.copies r) := by
  unfold update
  split
  . exact registerWrite_cases y r' x r
  . exact .inr ⟨rfl, rfl⟩

-- a register is written with its copy, or both stay as they are
theorem apply_cases (k : Handler) (op : Op) (y : State) (r : Reg)
    : (y.apply k op).registers r = (y.apply k op).copies r
      ∨ ((y.apply k op).registers r = y.registers r ∧ (y.apply k op).copies r = y.copies r) := by
  cases op with
  | update r' cs => exact update_cases y r' _ r
  | keyerParams n cs =>
    have hram (y' : State) (hregisters : y'.registers = y.registers) (hcopies : y'.copies = y.copies)
        (x : BitVec 32)
        : (y'.update .keyerConfig x).registers r = (y'.update .keyerConfig x).copies r
          ∨ ((y'.update .keyerConfig x).registers r = y.registers r
            ∧ (y'.update .keyerConfig x).copies r = y.copies r) := by
      rw [← hregisters, ← hcopies]
      exact update_cases y' _ _ r
    cases n with
    | none => exact update_cases y _ _ r
    | some n =>
      unfold apply
      dsimp only
      split
      . exact hram { y with gcwKeyerRampLength := n, keyerRam := n } rfl rfl _
      . exact update_cases y _ _ r
  | writeP2DdcRateRegister => exact update_cases y _ _ r
  | activateCwKeyer => exact update_cases y _ _ r
  | resetDucMux => exact registerWrite_cases y _ _ r
  | p2SampleRate | cwEnabled | breakinEnabled | wantKeyer | sdrActive => exact .inr ⟨rfl, rfl⟩

/-- A register that has not been written yet is as it was found, with a copy that is zero. -/
def Coherent (initial : Reg → BitVec 32) (y : State) : Prop :=
  ∀ r, y.registers r = y.copies r ∨ (y.copies r = 0#32 ∧ y.registers r = initial r)

variable {initial : Reg → BitVec 32} {y : State}

theorem Coherent.apply (h : y.Coherent initial) (k : Handler) (op : Op)
    : (y.apply k op).Coherent initial := by
  intro r
  obtain heq | ⟨hregisters, hcopies⟩ := apply_cases k op y r
  . exact .inl heq
  . rw [hregisters, hcopies]
    exact h r

theorem same_apply {r : Reg} (h : y.registers r = y.copies r) (k : Handler) (op : Op)
    : (y.apply k op).registers r = (y.apply k op).copies r := by
  obtain heq | ⟨hregisters, hcopies⟩ := apply_cases k op y r
  . exact heq
  . rw [hregisters, hcopies]
    exact h

section Foldl

variable (k : Handler) (ops : List Op)

theorem Coherent.foldl (h : y.Coherent initial)
    : (ops.foldl (fun y op => y.apply k op) y).Coherent initial := by
  induction ops generalizing y with
  | nil => exact h
  | cons op ops ih => exact ih (h.apply k op)

theorem same_foldl {r : Reg} (h : y.registers r = y.copies r)
    : (ops.foldl (fun y op => y.apply k op) y).registers r
        = (ops.foldl (fun y op => y.apply k op) y).copies r := by
  induction ops generalizing y with
  | nil => exact h
  | cons op ops ih => exact ih (same_apply h k op)

variable {k ops}

-- a register with something in it that is not zero has been written
theorem same_of_put (h : y.Coherent initial) {op : Op} (hop : op ∈ ops) {r : Reg}
    {g x group : BitVec 32} (hput : op.put = some (r, g, x)) (hgroup : group &&& ~~~g = 0#32)
    (hne : x &&& group ≠ 0#32)
    : (ops.foldl (fun y op => y.apply k op) y).registers r
        = (ops.foldl (fun y op => y.apply k op) y).copies r := by
  obtain ⟨before, after, rfl⟩ := List.append_of_mem hop
  rw [List.foldl_append, List.foldl_cons]
  apply same_foldl
  have hafter := ((h.foldl k before).apply k op) r
  obtain heq | ⟨hzero, -⟩ := hafter
  . exact heq
  . have hfield := puts_of_put hput hgroup k (before.foldl (fun y op => y.apply k op) y)
    rw [field, hzero, BitVec.zero_and] at hfield
    exact absurd hfield.symm hne

end Foldl

end State

section Boot

variable (b : Board) (initial : Reg → BitVec 32)

-- the registers with settings from before the threads
def initialised : List Reg := [.keyerConfig, .sideToneConfig, .txConfig, .rfGpio]

theorem coherent_init : (State.init initial).Coherent initial := fun _ => .inr ⟨rfl, rfl⟩

theorem shared_boot
    : (boot b initial).shared
        = (saturnRegisterInit b ++ saturnInitDucIq).foldl (fun y op => y.apply .general op)
          (.init initial) := by
  rw [boot]

theorem coherent_boot : (boot b initial).shared.Coherent initial := by
  have hinit := coherent_init initial
  rw [shared_boot]
  generalize saturnRegisterInit b ++ saturnInitDucIq = ops
  exact hinit.foldl .general ops

theorem same_boot
    : ∀ r ∈ initialised, (boot b initial).shared.registers r = (boot b initial).shared.copies r := by
  have hspeaker : setSpkrMute true ∈ saturnRegisterInit b := by simp [saturnRegisterInit]
  have hkeyer : setKeyerParams b 30 500 9 ∈ saturnRegisterInit b := by simp [saturnRegisterInit]
  have htone : setCwSideTone true 50 800 ∈ saturnRegisterInit b := by simp [saturnRegisterInit]
  have hprotocol : setTxProtocol2 ∈ saturnRegisterInit b := by simp [saturnRegisterInit]
  rw [shared_boot]
  generalize saturnRegisterInit b = ops at *
  have hsame {op : Op} (hop : op ∈ ops) {r : Reg} {g x group : BitVec 32}
      (hput : op.put = some (r, g, x)) (hgroup : group &&& ~~~g = 0#32) (hne : x &&& group ≠ 0#32) :=
    State.same_of_put (k := .general) (coherent_init initial)
      (List.mem_append_left saturnInitDucIq hop) hput hgroup hne
  simp only [initialised, List.forall_mem_cons, List.not_mem_nil, false_imp_iff, implies_true, and_true]
  refine ⟨?_, ?_, ?_, ?_⟩
  . obtain ⟨g, x, hput, hgroup, hvalue, -⟩ := put_keyerParams b 30 500 9
    exact hsame hkeyer hput hgroup (ne_of_eq_of_ne hvalue (by decide))
  . obtain ⟨g, hput, hgroup⟩ := put_sideTone true 50 800
    exact hsame htone hput hgroup (by decide)
  . have hwithin : bit 3 &&& ~~~(0xF0000008 ||| bit 3) = 0#32 := by decide
    exact hsame hprotocol (put_clearSet _ _ _) hwithin (by decide)
  . exact hsame hspeaker (put_setBit .rfGpio 4 true) (bit_within 4) (by decide)

theorem idle_boot : (boot b initial).Idle := fun _ => rfl

-- what holds of the hardware, whatever packets there are
theorem hardware_exec (evs : List (WorkerEvent Handler Packet))
    : (exec b (boot b initial) evs).shared.Coherent initial
      ∧ ∀ r ∈ initialised, (exec b (boot b initial) evs).shared.registers r
          = (exec b (boot b initial) evs).shared.copies r :=
  Workers.shared_invariant
    (I := fun y : State => y.Coherent initial ∧ ∀ r ∈ initialised, y.registers r = y.copies r)
    (fun k _ op _ _ hy => ⟨hy.1.apply k op, fun r hr => State.same_apply (hy.2 r hr) k op⟩)
    (idle_boot b initial).requested ⟨coherent_boot b initial, same_boot b initial⟩ evs

end Boot

section Configuration

-- what an operation makes of a copy whose changes depend on nothing else
def Op.onCopy (r : Reg) (v : BitVec 32) : Op → BitVec 32
  | .update r' cs => if r' = r then Change.runAll cs v else v
  | .resetDucMux => if .txConfig = r then v &&& ~~~bit 29 else v
  | _ => v

variable {r : Reg}

theorem copies_apply (hkeyer : r ≠ .keyerConfig) (hrates : r ≠ .ddcRates) (k : Handler) (op : Op)
    (y : State)
    : (y.apply k op).copies r = op.onCopy r (y.copies r) := by
  have hother {r' : Reg} (hr : r ≠ r') (x : BitVec 32) : (y.update r' x).copies r = y.copies r := by
    rw [State.copies_update, Function.update_of_ne hr]
  cases op with
  | update r' cs =>
    show (y.update r' _).copies r = if r' = r then _ else _
    by_cases hr : r' = r
    . subst hr
      rw [if_pos rfl, State.copies_update, Function.update_self]
    . rw [if_neg hr, hother (Ne.symm hr)]
  | keyerParams n cs =>
    rw [State.copies_keyerParams]
    exact hother hkeyer _
  | writeP2DdcRateRegister => exact hother hrates _
  | activateCwKeyer => exact hother hkeyer _
  | resetDucMux =>
    show Function.update y.copies .txConfig _ r = if .txConfig = r then _ else _
    by_cases hr : Reg.txConfig = r
    . subst hr
      rw [if_pos rfl, Function.update_self]
    . rw [if_neg hr, Function.update_of_ne (Ne.symm hr)]
  | p2SampleRate | cwEnabled | breakinEnabled | wantKeyer | sdrActive => rfl

theorem copies_foldl (hkeyer : r ≠ .keyerConfig) (hrates : r ≠ .ddcRates) (k : Handler)
    (ops : List Op) (y : State)
    : (ops.foldl (fun y op => y.apply k op) y).copies r = ops.foldl (Op.onCopy r) (y.copies r) := by
  induction ops generalizing y with
  | nil => rfl
  | cons op ops ih => rw [List.foldl_cons, List.foldl_cons, ih, copies_apply hkeyer hrates]

def txAmplitude (b : Board) : BitVec 32 :=
  if b.saturnPcbVersion ≤ 2 then if b.fpgaMinorVersion < 13 then 0x0001FFFF else 0x0002000
  else 0x0002A00

-- protocol 2, no CW, samples that are not deinterleaved; bytes in the order of the network
theorem copies_boot (b : Board) (initial : Reg → BitVec 32)
    : (boot b initial).shared.copies .txConfig = bit 31 ||| txAmplitude b <<< 4 ||| bit 3
      ∧ (boot b initial).shared.copies .rfGpio = bit 26 := by
  have hzero (r : Reg) : (State.init initial).copies r = 0#32 := rfl
  have htx (v : BitVec 32) : Op.onCopy .txConfig v (setKeyerParams b 30 500 9) = v := rfl
  have hgpio (v : BitVec 32) : Op.onCopy .rfGpio v (setKeyerParams b 30 500 9) = v := rfl
  rw [shared_boot, copies_foldl (by decide) (by decide), copies_foldl (by decide) (by decide), hzero,
    hzero]
  unfold saturnRegisterInit txAmplitude
  generalize setKeyerParams b 30 500 9 = op at htx hgpio
  by_cases hpcb : b.saturnPcbVersion ≤ 2
  . by_cases hfpga : b.fpgaMinorVersion < 13
    . rw [if_pos hpcb, if_pos hfpga, if_pos hpcb, if_pos hfpga]
      simp only [List.cons_append, List.nil_append, List.foldl_cons, htx, hgpio]
      exact ⟨rfl, rfl⟩
    . rw [if_pos hpcb, if_neg hfpga, if_pos hpcb, if_neg hfpga]
      simp only [List.cons_append, List.nil_append, List.foldl_cons, htx, hgpio]
      exact ⟨rfl, rfl⟩
  . rw [if_neg hpcb, if_neg hpcb]
    simp only [List.cons_append, List.nil_append, List.foldl_cons, htx, hgpio]
    exact ⟨rfl, rfl⟩

-- the thread that receives samples asks for the same order of bytes
theorem byteSwapping_apply (b : Board) (h : Handler) (p : Packet)
    : ∀ op ∈ program b h p, ∀ y : State, y.field .rfGpio (bit 26) = bit 26 →
        (y.apply h op).field .rfGpio (bit 26) = bit 26 := by
  intro op hop y hy
  by_cases hne : h = .rxThread
  . subst hne
    have hrx (on : Bool) : (y.apply .rxThread (setRxDdcEnabled on)).field .rfGpio (bit 26) = bit 26 := by
      have hapart : Apart (some (.ddcInSel, bit 30)) (some (.rfGpio, bit 26)) := by decide
      exact (keeps_of_within (within_setBit .ddcInSel 30 on) hapart .rxThread y).trans hy
    simp only [program, rxThreadStart, List.mem_cons, List.not_mem_nil, or_false] at hop
    obtain rfl | rfl | rfl := hop
    . exact hrx false
    . exact (puts_of_put (put_setBit .rfGpio 26 true) (bit_within 26) .rxThread y).trans (by decide)
    . exact hrx true
  . have howned : Owned [.rxThread] .rfGpio (bit 26) := by decide +kernel
    exact (howned.keeps (by simpa using hne) b p op hop y).trans hy

/--
Whatever packets there are and in whatever order they are handled, a register that has been written is
that of its copy, and what has been set before the threads start stays as it is.
-/
theorem configuration_exec (b : Board) (initial : Reg → BitVec 32)
    (evs : List (WorkerEvent Handler Packet))
    : (exec b (boot b initial) evs).shared.Coherent initial
      ∧ (∀ r ∈ initialised, (exec b (boot b initial) evs).shared.registers r
          = (exec b (boot b initial) evs).shared.copies r)
      ∧ (exec b (boot b initial) evs).shared.registers .txConfig &&& ~~~(3 ||| bit 27)
          = bit 31 ||| txAmplitude b <<< 4 ||| bit 3
      ∧ (exec b (boot b initial) evs).shared.registers .rfGpio &&& bit 26 = bit 26 := by
  obtain ⟨hcoherent, hsame⟩ := hardware_exec b initial evs
  obtain ⟨htx, hgpio⟩ := copies_boot b initial
  have hrequested : (boot b initial).Requested (program b) := (idle_boot b initial).requested
  have howned : Owned [] .txConfig (~~~(3 ||| bit 27)) := by decide +kernel
  have hvalue : (bit 31 ||| txAmplitude b <<< 4 ||| bit 3) &&& ~~~(3 ||| bit 27)
      = bit 31 ||| txAmplitude b <<< 4 ||| bit 3 := by
    unfold txAmplitude
    split
    . split <;> decide
    . decide
  refine ⟨hcoherent, hsame, ?_, ?_⟩
  . rw [hsame .txConfig (by simp [initialised])]
    refine (field_exec howned hrequested evs).trans ?_
    rw [State.field, htx, hvalue]
  . rw [hsame .rfGpio (by simp [initialised])]
    refine Workers.shared_invariant (I := fun y : State => y.field .rfGpio (bit 26) = bit 26)
      (fun h p op hop y hy => byteSwapping_apply b h p op hop y hy) hrequested ?_ evs
    rw [State.field, hgpio]
    decide

end Configuration

section Main

variable {b : Board} {s : RadioSettings} {initial : Reg → BitVec 32}

/-- What is in the registers when the handlers have done what the settings say. -/
structure Settled (b : Board) (s : RadioSettings) (initial : Reg → BitVec 32) (y : State) : Prop where
  copies : ∀ row ∈ (wanted b s).flatMap Prod.snd, y.copies row.1 &&& row.2.1 = row.2.2 &&& row.2.1
  -- zero does not get into a register in which something else has been found, and that is never written
  registers : ∀ row ∈ (wanted b s).flatMap Prod.snd,
    row.1 ∈ initialised ∨ initial row.1 = 0#32 ∨ row.2.2 &&& row.2.1 ≠ 0#32 →
      y.registers row.1 &&& row.2.1 = row.2.2 &&& row.2.1

theorem requested_history (b : Board) (initial : Reg → BitVec 32)
    (history : List (WorkerEvent Handler Packet))
    : (exec b (boot b initial) history).Requested (program b) :=
  (idle_boot b initial).requested.exec history

def saturn : RadioSettings :=
  { RadioSettings.angelia with
    device := .newSaturn
    receivers := 2
    receivers_eq := NewProtocol.receivers_two }

-- the tables where there is no power
def saturnBoard : Board := ⟨18, 2, fun _ => 0, fun _ => 63⟩

def saturnRequests : List (WorkerEvent Handler Packet) :=
  [.request .general (saturn.general 0), .request .highPriority (saturn.highPriority 0 phaseWord),
    .request .ddcSpecific (saturn.newProtocolReceiveSpecific 0),
    .request .ducSpecific (saturn.transmitSpecific 0)]

-- one operation of each handler after the other
def inTurns (n : Nat) : List (WorkerEvent Handler Packet) :=
  (List.replicate n
    [.operation .ducSpecific, .operation .highPriority, .operation .ddcSpecific, .operation .general]).flatten

theorem mem_saturnRequests {h : Handler} {p : Packet} {n : Nat}
    (hmem : .request h p ∈ saturnRequests ++ inTurns n)
    : .request h p ∈ saturnRequests := by
  obtain hmem | hmem := List.mem_append.1 hmem
  . exact hmem
  . obtain ⟨turn, hturn, hmem⟩ := List.mem_flatten.1 hmem
    rw [List.eq_of_mem_replicate hturn] at hmem
    simp at hmem

end Main

/-! The sample rates, which only one of the handlers sets. -/

section Rates

-- what the packet says about a DDC: its rate, or that its samples come with those of the next one
def rateCode (p : Packet) (i : Fin 4) : BitVec 32 :=
  let enabled := (p 7).getLsbD i.val
  let synced := if i.val < 2 then p 1363 = 0b00000010 else p 1365 = 0b00001000
  let first := i.val % 2 = 0
  ddcRate (enabled || !first && synced) (p (18 + 6 * i.val) ++ p (19 + 6 * i.val)) (first && synced)

-- three bits for each of the DDCs from 6 on
def packed (r0 r1 r2 r3 : BitVec 32) : BitVec 32 :=
  r0 <<< 18 ||| r1 <<< 21 ||| r2 <<< 24 ||| r3 <<< 27

def packedChanges (r0 r1 r2 r3 : BitVec 32) : List (Change 32) :=
  [.clear (7#32 <<< 18), .set (r0 <<< 18), .clear (7#32 <<< 21), .set (r1 <<< 21),
    .clear (7#32 <<< 24), .set (r2 <<< 24), .clear (7#32 <<< 27), .set (r3 <<< 27)]

def ratesOf (p : Packet) : BitVec 32 :=
  packed (rateCode p 0) (rateCode p 1) (rateCode p 2) (rateCode p 3)

def rateChanges (p : Packet) : List (Change 32) :=
  packedChanges (rateCode p 0) (rateCode p 1) (rateCode p 2) (rateCode p 3)

-- the samples in a frame of two DDCs
def pairCounts (first second : BitVec 32) : List Nat :=
  if first = 7 then [2 * ddcSampleCount second.toNat, 0]
  else [ddcSampleCount first.toNat, ddcSampleCount second.toNat]

theorem ddcRate_lt (enabled : Bool) (sampleRate : BitVec 16)
    : ∃ k : Fin 7, ddcRate enabled sampleRate false = BitVec.ofNat 32 k := by
  cases enabled with
  | false => exact ⟨0, rfl⟩
  | true =>
    show ∃ k : Fin 7, eSampleRate sampleRate = BitVec.ofNat 32 k
    unfold eSampleRate
    split_ifs
    . exact ⟨2, rfl⟩
    . exact ⟨3, rfl⟩
    . exact ⟨4, rfl⟩
    . exact ⟨5, rfl⟩
    . exact ⟨6, rfl⟩
    . exact ⟨1, rfl⟩

theorem rateCode_second (p : Packet) {i : Fin 4} (hi : i.val % 2 ≠ 0)
    : ∃ k : Fin 7, rateCode p i = BitVec.ofNat 32 k := by
  unfold rateCode
  dsimp only
  rw [decide_eq_false hi, Bool.false_and]
  exact ddcRate_lt _ _

theorem rateCode_lt (p : Packet) (i : Fin 4) : ∃ k : Fin 8, rateCode p i = BitVec.ofNat 32 k := by
  unfold rateCode
  dsimp only
  generalize (p (18 + 6 * i.val) ++ p (19 + 6 * i.val)) = sampleRate
  generalize ((p 7).getLsbD i.val || _) = enabled
  cases (decide (i.val % 2 = 0) && _) with
  | false =>
    obtain ⟨k, hk⟩ := ddcRate_lt enabled sampleRate
    exact ⟨k.castSucc, hk⟩
  | true =>
    cases enabled with
    | false => exact ⟨0, rfl⟩
    | true => exact ⟨7, rfl⟩

theorem packed_codes : ∀ k0 k2 : Fin 8, ∀ k1 k3 : Fin 7,
    let r0 := BitVec.ofNat 32 k0.val
    let r1 := BitVec.ofNat 32 k1.val
    let r2 := BitVec.ofNat 32 k2.val
    let r3 := BitVec.ofNat 32 k3.val
    Change.effect (packedChanges r0 r1 r2 r3) = (0x3FFC0000, packed r0 r1 r2 r3)
      ∧ packed r0 r1 r2 r3 &&& 0x3FFC0000 = packed r0 r1 r2 r3
      ∧ (packed r0 r1 r2 r3).toNat
        = 8 * (8 * (8 * (8 * (8 * (8 * (k0.val + 8 * (k1.val + 8 * (k2.val + 8 * (k3.val + 8 * 0))))))))) := by
  decide +kernel

theorem analyse_none (n m : Nat)
    : analyseDdcHeader (n + 2) (8 * m) = 0 :: analyseDdcHeader (n + 1) m := by
  rw [analyseDdcHeader, if_pos (by omega), Nat.mul_mod_right, Nat.mul_div_cancel_left m (by decide)]
  rfl

theorem analyse_pair (n : Nat) (k0 : Fin 8) (k1 : Fin 7) (m : Nat)
    : analyseDdcHeader (n + 2) (k0.val + 8 * (k1.val + 8 * m))
        = pairCounts (BitVec.ofNat 32 k0.val) (BitVec.ofNat 32 k1.val) ++ analyseDdcHeader n m := by
  have h0 : (k0.val + 8 * (k1.val + 8 * m)) % 8 = k0.val := by omega
  have hrest : (k0.val + 8 * (k1.val + 8 * m)) / 8 = k1.val + 8 * m := by omega
  have hmore : (k0.val + 8 * (k1.val + 8 * m)) / 64 = m := by omega
  have h1 : (k1.val + 8 * m) % 8 = k1.val := by omega
  have hlast : (k1.val + 8 * m) / 8 = m := by omega
  have hne : k1.val ≠ 7 := by omega
  have hn0 : (BitVec.ofNat 32 k0.val).toNat = k0.val := Nat.mod_eq_of_lt (by omega)
  have hn1 : (BitVec.ofNat 32 k1.val).toNat = k1.val := Nat.mod_eq_of_lt (by omega)
  have hseven : ∀ k : Fin 8, BitVec.ofNat 32 k.val = 7 ↔ k.val = 7 := by decide
  rw [analyseDdcHeader, pairCounts, h0, hrest, hmore, h1, hn0, hn1]
  by_cases hk : k0.val = 7
  . rw [if_neg (not_not_intro hk), if_pos ((hseven k0).2 hk)]
    rfl
  . rw [if_pos hk, if_neg (mt (hseven k0).1 hk)]
    cases n with
    | zero =>
      have hlone : analyseDdcHeader 1 (k1.val + 8 * m) = [ddcSampleCount k1.val] := by
        rw [analyseDdcHeader, h1, if_pos hne]
      exact congrArg (ddcSampleCount k0.val :: ·) hlone
    | succ n =>
      have hfirst : analyseDdcHeader (n + 2) (k1.val + 8 * m)
          = ddcSampleCount k1.val :: analyseDdcHeader (n + 1) m := by
        rw [analyseDdcHeader, h1, if_pos hne, hlast]
      exact congrArg (ddcSampleCount k0.val :: ·) hfirst

theorem ratesOf_spec (p : Packet)
    : Change.effect (rateChanges p) = (0x3FFC0000, ratesOf p)
      ∧ ratesOf p &&& 0x3FFC0000 = ratesOf p
      ∧ analyseDdcHeader 10 (ratesOf p).toNat
        = List.replicate 6 0 ++ pairCounts (rateCode p 0) (rateCode p 1)
          ++ pairCounts (rateCode p 2) (rateCode p 3) := by
  obtain ⟨k0, h0⟩ := rateCode_lt p 0
  obtain ⟨k1, h1⟩ := rateCode_second p (show (1 : Fin 4).val % 2 ≠ 0 by decide)
  obtain ⟨k2, h2⟩ := rateCode_lt p 2
  obtain ⟨k3, h3⟩ := rateCode_second p (show (3 : Fin 4).val % 2 ≠ 0 by decide)
  rw [rateChanges, ratesOf, h0, h1, h2, h3]
  obtain ⟨heffect, hrates, hpacked⟩ := packed_codes k0 k2 k1 k3
  refine ⟨heffect, hrates, ?_⟩
  rw [hpacked, analyse_none, analyse_none, analyse_none, analyse_none, analyse_none, analyse_none,
    analyse_pair, analyse_pair, analyseDdcHeader, List.append_nil]
  rfl

theorem runAll_rateChanges (p : Packet) (v : BitVec 32)
    : Change.runAll (rateChanges p) v &&& 0x3FFC0000 = ratesOf p := by
  obtain ⟨heffect, hrates, -⟩ := ratesOf_spec p
  exact (Change.runAll_and_of_eq heffect v).trans hrates

theorem eq_of_rates {x r : BitVec 32} (hin : x &&& 0x3FFC0000 = r) (hout : x &&& ~~~0x3FFC0000 = 0#32)
    : x = r := by
  have hall : (0x3FFC0000 : BitVec 32) ||| ~~~0x3FFC0000 = BitVec.allOnes 32 := by decide
  calc x = x &&& (0x3FFC0000 ||| ~~~0x3FFC0000) := by rw [hall, BitVec.and_allOnes]
    _ = x &&& 0x3FFC0000 ||| x &&& ~~~0x3FFC0000 := BitVec.and_or_distrib_left
    _ = r := by rw [hin, hout, BitVec.or_zero]

/-! Nothing but the packets for the DDCs has to do with the rates. -/

-- the rates to be written, and those that have been written
def State.rates (y : State) : BitVec 32 × BitVec 32 := (y.ddcRateReg, y.copies .ddcRates)

def Op.onRates : Op → BitVec 32 × BitVec 32 → BitVec 32 × BitVec 32
  | .p2SampleRate cs, v => (Change.runAll cs v.1, v.2)
  | .writeP2DdcRateRegister, v => (v.1, v.1)
  | .update .ddcRates cs, v => (v.1, Change.runAll cs v.2)
  | _, v => v

theorem rates_update (y : State) {r : Reg} (hr : r ≠ .ddcRates) (x : BitVec 32)
    : (y.update r x).rates = y.rates := by
  unfold State.rates
  rw [State.copies_update, Function.update_of_ne (Ne.symm hr)]
  unfold State.update
  split <;> rfl

theorem rates_apply (k : Handler) (op : Op) (y : State)
    : (y.apply k op).rates = op.onRates y.rates := by
  cases op with
  | update r cs =>
    by_cases hr : r = .ddcRates
    . subst hr
      have hreg (x : BitVec 32) : (y.update .ddcRates x).ddcRateReg = y.ddcRateReg := by
        unfold State.update
        split <;> rfl
      show (State.ddcRateReg (y.update _ _), State.copies (y.update _ _) .ddcRates) = _
      rw [State.copies_update, hreg, Function.update_self]
      rfl
    . refine (rates_update y hr _).trans ?_
      cases r <;> first | rfl | contradiction
  | keyerParams n cs =>
    cases n with
    | none => exact rates_update y (by decide) _
    | some n =>
      unfold State.apply
      dsimp only
      split
      . exact rates_update _ (by decide) _
      . exact rates_update y (by decide) _
  | writeP2DdcRateRegister =>
    have hreg : (y.update .ddcRates y.ddcRateReg).ddcRateReg = y.ddcRateReg := by
      unfold State.update
      split <;> rfl
    show (State.ddcRateReg (y.update _ _), State.copies (y.update _ _) .ddcRates) = _
    rw [State.copies_update, hreg, Function.update_self]
    rfl
  | activateCwKeyer => exact rates_update y (by decide) _
  | resetDucMux => rfl
  | p2SampleRate | cwEnabled | breakinEnabled | wantKeyer | sdrActive => rfl

theorem rates_program (b : Board) (p : Packet) (v : BitVec 32 × BitVec 32)
    : (program b .ddcSpecific p).foldl (fun v op => op.onRates v) v
        = (Change.runAll (rateChanges p) v.1, Change.runAll (rateChanges p) v.1) := rfl

def Op.rateFree : Op → Bool
  | .p2SampleRate _ | .writeP2DdcRateRegister => false
  | .update r _ => r ≠ .ddcRates
  | _ => true

theorem onRates_of_rateFree {op : Op} (h : op.rateFree = true) (v : BitVec 32 × BitVec 32)
    : op.onRates v = v := by
  cases op with
  | update r cs => cases r <;> first | rfl | contradiction
  | p2SampleRate | writeP2DdcRateRegister => contradiction
  | keyerParams | cwEnabled | breakinEnabled | wantKeyer | activateCwKeyer | resetDucMux
    | sdrActive => rfl

theorem rateFree_setKeyerParams (b : Board) (delay : BitVec 8) (hangTime : BitVec 16) (ramp : BitVec 8)
    : (setKeyerParams b delay hangTime ramp).rateFree = true := by
  unfold setKeyerParams
  dsimp only
  split <;> rfl

theorem rateFree_program (b : Board) {h : Handler} (hne : h ≠ .ddcSpecific) (p : Packet)
    : (program b h p).all Op.rateFree = true := by
  cases h with
  | ddcSpecific => contradiction
  | general => rfl
  | highPriority =>
    have hrun : (runOps ((p 4).getLsbD 0)).all Op.rateFree = true := by
      unfold runOps
      split <;> rfl
    have hduc : (setDucFrequency b (p.word 329)).all Op.rateFree = true := by
      unfold setDucFrequency
      split <;> rfl
    have halex : (alexTx b p).all Op.rateFree = true := by
      unfold alexTx
      split
      . rfl
      . split <;> rfl
    unfold program saturnHandleHighPriority
    simp only [List.all_append, hrun, hduc, halex]
    rfl
  | ducSpecific =>
    unfold program saturnHandleDucSpecific
    simp only [List.all_append, List.all_cons, rateFree_setKeyerParams]
    rfl
  | rxThread => rfl

theorem rates_boot (b : Board) (initial : Reg → BitVec 32)
    : (boot b initial).shared.rates = (0, 0) := by
  have hinit : (saturnRegisterInit b ++ saturnInitDucIq).all Op.rateFree = true := by
    unfold saturnRegisterInit
    simp only [List.all_append, List.all_cons, rateFree_setKeyerParams]
    split_ifs <;> rfl
  have hfoldl (ops : List Op) (hops : ops.all Op.rateFree = true) (y : State)
      : (ops.foldl (fun y op => y.apply .general op) y).rates = y.rates := by
    induction ops generalizing y with
    | nil => rfl
    | cons op ops ih =>
      rw [List.all_cons, Bool.and_eq_true] at hops
      rw [List.foldl_cons, ih hops.2, rates_apply, onRates_of_rateFree hops.1]
  rw [shared_boot, hfoldl _ hinit]
  rfl

-- the other bits are always zero
def State.RatesOnly (y : State) : Prop :=
  y.rates.1 &&& ~~~0x3FFC0000 = 0#32 ∧ y.rates.2 &&& ~~~0x3FFC0000 = 0#32

theorem ratesOnly_apply (b : Board) (h : Handler) (p : Packet)
    : ∀ op ∈ program b h p, ∀ y : State, y.RatesOnly → (y.apply h op).RatesOnly := by
  intro op hop y hy
  unfold State.RatesOnly
  rw [rates_apply]
  by_cases hne : h ≠ .ddcSpecific
  . rw [onRates_of_rateFree (List.all_eq_true.1 (rateFree_program b hne p) op hop)]
    exact hy
  . rw [ne_eq, not_not] at hne
    subst hne
    simp only [program, saturnHandleDdcSpecific, ddcOps, List.cons_append, List.mem_cons,
      List.mem_append, List.mem_flatMap, List.not_mem_nil, or_false] at hop
    obtain rfl | ⟨i, -, rfl | rfl⟩ | rfl := hop
    . exact hy
    . exact hy
    . refine ⟨?_, hy.2⟩
      have hshift : ∀ i : Fin 4, ∀ k : Fin 8,
          (7#32 <<< (3 * (channel i).val)) &&& ~~~0x3FFC0000 = 0#32
            ∧ (BitVec.ofNat 32 k.val <<< (3 * (channel i).val)) &&& ~~~0x3FFC0000 = 0#32 := by
        decide
      obtain ⟨k, hk⟩ := rateCode_lt p i
      have hapart : ∀ c ∈ ([.clear (7#32 <<< (3 * (channel i).val)),
          .set (rateCode p i <<< (3 * (channel i).val))] : List (Change 32)),
          c.mask &&& ~~~0x3FFC0000 = 0#32 := by
        rw [hk]
        simpa [Change.mask] using hshift i k
      exact (Change.runAll_and_of_apart (Change.effect_apart hapart) _).trans hy.1
    . exact ⟨hy.1, hy.1⟩

/--
When the handler of the packets for the DDCs has begun with one of these, and is done, the rates of the
FPGA are those of the packets, whatever the other threads do, and the thread that receives the samples
counts them accordingly.
-/
theorem rates_settle (b : Board) (initial : Reg → BitVec 32)
    (history evs : List (WorkerEvent Handler Packet)) (p : Packet)
    (hsame : ∀ q, .request .ddcSpecific q ∈ evs → ∀ i, rateCode q i = rateCode p i)
    (hbegun : (exec b (boot b initial) history).begun .ddcSpecific
      < (exec b (boot b initial) (history ++ evs)).begun .ddcSpecific)
    (hidle : (exec b (boot b initial) (history ++ evs)).todo .ddcSpecific = [])
    : (exec b (boot b initial) (history ++ evs)).shared.copies .ddcRates = ratesOf p
      ∧ (initial .ddcRates = 0#32 ∨ ratesOf p ≠ 0#32 →
        (exec b (boot b initial) (history ++ evs)).shared.registers .ddcRates = ratesOf p)
      ∧ analyseDdcHeader 10 (ratesOf p).toNat
        = List.replicate 6 0 ++ pairCounts (rateCode p 0) (rateCode p 1)
          ++ pairCounts (rateCode p 2) (rateCode p 3) := by
  have hcoherent := (hardware_exec b initial (history ++ evs)).1 .ddcRates
  have hboot : (boot b initial).shared.RatesOnly := by
    unfold State.RatesOnly
    rw [rates_boot]
    decide
  have honly : (exec b (boot b initial) (history ++ evs)).shared.RatesOnly :=
    Workers.shared_invariant (ratesOnly_apply b) (idle_boot b initial).requested hboot _
  have hrates : (exec b (boot b initial) (history ++ evs)).shared.rates.2 &&& 0x3FFC0000
      = ratesOf p := by
    have happend : exec b (boot b initial) (history ++ evs)
        = exec b (exec b (boot b initial) history) evs := Run.exec_append ..
    rw [happend] at hbegun hidle ⊢
    refine @Workers.owned _ _ _ _ _ _ (program b) State.apply _ State.rates Op.onRates .ddcSpecific
      (fun v => v.2 &&& 0x3FFC0000 = ratesOf p) evs (rates_apply .ddcSpecific) ?_
      (requested_history b initial history) ?_ hbegun hidle
    . intro h hne q op hop y
      rw [rates_apply, onRates_of_rateFree (List.all_eq_true.1 (rateFree_program b hne q) op hop)]
    . intro q hq v
      have hcode := hsame q hq
      rw [rates_program]
      refine (runAll_rateChanges q v.1).trans ?_
      rw [ratesOf, ratesOf, hcode 0, hcode 1, hcode 2, hcode 3]
  have hcopy := eq_of_rates hrates honly.2
  refine ⟨hcopy, fun hwritten => ?_, (ratesOf_spec p).2.2⟩
  obtain heq | ⟨hzero, hregister⟩ := hcoherent
  . exact heq.trans hcopy
  . obtain hinitial | hne := hwritten
    . rw [hregister, hinitial, ← hzero]
      exact hcopy
    . exact absurd (hcopy.symm.trans hzero) hne

theorem rates_settle_saturn
    : (exec saturnBoard (boot saturnBoard fun _ => 0)
        ([] ++ (saturnRequests ++ inTurns 25))).shared.registers .ddcRates
      = ratesOf (saturn.newProtocolReceiveSpecific 0) := by
  refine (rates_settle saturnBoard (fun _ => 0) [] _ _ ?_ ?_ ?_).2.1 (.inl rfl)
  . intro q hq i
    have hq := mem_saturnRequests hq
    simp only [saturnRequests, List.mem_cons, WorkerEvent.request.injEq, reduceCtorEq, false_and,
      List.not_mem_nil, or_false, false_or, true_and] at hq
    rw [hq]
  . decide +kernel
  . rw [← List.isEmpty_iff]
    decide +kernel

end Rates

end Saturn
