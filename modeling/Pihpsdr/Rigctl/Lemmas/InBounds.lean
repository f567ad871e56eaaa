import Pihpsdr.Rigctl.Lemmas.Tables

/-!
The commands that use the tables inside of their bounds whatever their arguments are.
-/

namespace Rigctl

-- the memory around all tables that the commands use
structure Surroundings extends TableSurroundings where
  rx : Int → RigReceiver
  speedup : Int → Int
  ctcssFrequencies : Int → ℚ

def Rig.within (s : Rig) (o : Surroundings) : Rig :=
  { s with
    radio := s.radio.within o.toTableSurroundings
    rx := Table.within 2 s.rx o.rx
    speedup := Table.within 32 s.speedup o.speedup
    ctcssFrequencies := Table.within 38 s.ctcssFrequencies o.ctcssFrequencies }

/--
The outcomes `x` and `y` differ in the memory around the tables only, and all values of `x` exist.
-/
structure Agree (o : Surroundings) (x y : Outcome) : Prop where
  inRange : x.1.radio.InRange
  state : y.1 = x.1.within o
  reply : y.2 = x.2

-- what is done depends on the tables only, and changes nothing around them
def Safe (o : Surroundings) (f : Rig → Outcome) : Prop :=
  ∀ s : Rig, s.radio.InRange → Agree o (f s) (f (s.within o))

def CatBranch.Safe (o : Surroundings) (branch : CatBranch) : Prop :=
  ∀ args, Rigctl.Safe o (branch.run args)

structure CatCase.Safe (o : Surroundings) (c : CatCase) : Prop where
  branch : ∀ branch ∈ c.branches, branch.Safe o
  otherwise : Rigctl.Safe o c.otherwise

variable {o : Surroundings} {s : Rig}

theorem Agree.ite {c c' : Prop} [Decidable c] [Decidable c'] (hc : c' ↔ c) {x y x' y' : Outcome}
    (h : Agree o x y) (h' : Agree o x' y')
    : Agree o (if c then x else x') (if c' then y else y') := by
  by_cases hcond : c
  . rw [if_pos hcond, if_pos (hc.mpr hcond)]
    exact h
  . rw [if_neg hcond, if_neg (fun hcond' => hcond (hc.mp hcond'))]
    exact h'

theorem agree_answer (hs : s.radio.InRange) {cs cs' : List CChar} (heq : cs' = cs)
    : Agree o (s.answer cs) ((s.within o).answer cs') :=
  ⟨hs, rfl, by rw [heq]; rfl⟩

theorem safe_silent : Safe o Rig.silent :=
  fun _ hs => ⟨hs, rfl, rfl⟩

theorem safe_unimplemented : Safe o Rig.unimplemented :=
  fun _ hs => agree_answer hs rfl

theorem agree_setRadio {r r' : RadioState} (h : r.Alike o.toTableSurroundings r')
    : Agree o (s.setRadio r) ((s.within o).setRadio r') :=
  ⟨h.inRange, by rw [h.eq]; rfl, rfl⟩

theorem agree_call (hs : s.radio.InRange) {c c' : RigCall} (heq : c' = c)
    : Agree o (s.call c) ((s.within o).call c') :=
  ⟨hs, by rw [heq]; rfl, rfl⟩

-- a change outside of the radio
theorem agree_update (hs : s.radio.InRange) {s' t' : Rig} (hradio : s'.radio = s.radio)
    (heq : t' = s'.within o)
    : Agree o (s', none) (t', none) :=
  ⟨by rw [hradio]; exact hs, heq, rfl⟩

theorem rx_within {id : Int} (hid : Table.Has 2 id) : (s.within o).rx id = s.rx id :=
  Table.within_of_has hid _ _

theorem setRx_within {id : Int} (hid : Table.Has 2 id) (rx : RigReceiver)
    : (s.within o).setRx id rx = (s.setRx id rx).within o := by
  unfold Rig.setRx Rig.within
  dsimp only
  rw [Table.update_within hid]

theorem agree_setRx (hs : s.radio.InRange) {id : Int} (hid : Table.Has 2 id) {rx rx' : RigReceiver}
    (heq : rx' = rx)
    : Agree o (s.setRx id rx, none) ((s.within o).setRx id rx', none) := by
  rw [heq]
  exact agree_update hs rfl (setRx_within hid rx)

theorem agree_radioSetAfGain (hs : s.radio.InRange) {id : Int} (hid : Table.Has 2 id) (value : ℚ)
    : Agree o (s.radioSetAfGain id value, none) ((s.within o).radioSetAfGain id value, none) := by
  unfold Rig.radioSetAfGain
  by_cases hlarge : id ≥ s.receivers
  . have hlarge' : id ≥ (s.within o).receivers := hlarge
    rw [if_pos hlarge, if_pos hlarge']
    exact safe_silent s hs
  . have hlarge' : ¬ id ≥ (s.within o).receivers := hlarge
    rw [if_neg hlarge, if_neg hlarge']
    apply agree_setRx hs hid
    rw [rx_within hid]

theorem safe_of_one {c : CatCase} {branch : CatBranch} (hc : c.branches = [branch])
    (hbranch : branch.Safe o) (hotherwise : Safe o c.otherwise)
    : c.Safe o := by
  constructor
  . rw [hc]
    simpa using hbranch
  . exact hotherwise

theorem safe_of_two {c : CatCase} {first second : CatBranch} (hc : c.branches = [first, second])
    (hfirst : first.Safe o) (hsecond : second.Safe o) (hotherwise : Safe o c.otherwise)
    : c.Safe o := by
  constructor
  . rw [hc]
    simpa using ⟨hfirst, hsecond⟩
  . exact hotherwise

theorem safe_act {run : Rig → Outcome} (h : Safe o run) : (CatCase.act run).Safe o :=
  safe_of_one rfl (fun _ => h) safe_silent

theorem safe_actAt (i : Nat) {run : Rig → Outcome} (h : Safe o run) : (CatCase.actAt i run).Safe o :=
  safe_of_one rfl (fun _ => h) safe_silent

theorem safe_readSet (off stop : Nat) {read : Rig → Outcome} {set : Int → Rig → Outcome}
    (hread : Safe o read) (hset : ∀ x, Safe o (set x))
    : (CatCase.readSet off stop read set).Safe o :=
  safe_of_two rfl (fun _ => hread) (fun _ => hset _) safe_silent

theorem safe_readElse (off : Nat) {read : Rig → Outcome} {set : Int → Rig → Outcome}
    (hread : Safe o read) (hset : ∀ x, Safe o (set x))
    : (CatCase.readElse off read set).Safe o :=
  safe_of_two rfl (fun _ => hread) (fun _ => hset _) safe_silent

theorem safe_setAt (off stop : Nat) {set : Int → Rig → Outcome} (hset : ∀ x, Safe o (set x))
    : (CatCase.setAt off stop set).Safe o :=
  safe_of_one rfl (fun _ => hset _) safe_silent

theorem CatCase.Safe.guarded {c : CatCase} (h : c.Safe o) {guard : Rig → Bool}
    (hguard : ∀ s, guard (s.within o) = guard s) {refused : Rig → Outcome}
    (hrefused : Rigctl.Safe o refused)
    : (c.guarded guard refused).Safe o := by
  have hite {f : Rig → Outcome} (hf : Rigctl.Safe o f)
      : Rigctl.Safe o fun s => if guard s then f s else refused s := by
    intro s hs
    apply Agree.ite _ (hf s hs) (hrefused s hs)
    rw [hguard]
  constructor
  . intro branch hmem args
    have ⟨branch', hmem', heq⟩ := List.mem_map.mp hmem
    rw [← heq]
    exact hite (h.branch branch' hmem' args)
  . exact hite h.otherwise

theorem hasTransmitter_within (s : Rig) : (s.within o).hasTransmitter = s.hasTransmitter := rfl

theorem secondReceiver_within (s : Rig) : secondReceiver (s.within o) = secondReceiver s := rfl

-- a reply that does not depend on a table
theorem safe_answerInt (name : List Char) (width : Nat) (x : Rig → Int)
    (hx : ∀ s : Rig, s.radio.InRange → x (s.within o) = x s)
    : Safe o fun s => s.answerInt name width (x s) := by
  intro s hs
  apply agree_answer hs
  rw [hx s hs]

theorem has_setOne (c : CChar) : Table.Has 2 (setOne c) := by
  unfold setOne
  split <;> decide

theorem safe_catShutdown : catShutdown.Safe o :=
  safe_of_one rfl (fun _ _ hs => agree_call hs rfl) safe_unimplemented

theorem safe_catAg (lib : CLibrary) : (catAg lib).Safe o := by
  refine safe_of_two rfl ?_ ?_ safe_silent
  . intro args s hs
    apply Agree.ite Iff.rfl _ (safe_silent s hs)
    apply agree_answer hs
    rw [rx_within (has_setOne _)]
  . intro args s hs
    exact agree_radioSetAfGain hs (has_setOne _) _

theorem safe_setAutoReporting (c : CChar) : Safe o (setAutoReporting c) :=
  fun _ hs => agree_update hs rfl rfl

theorem safe_catAi : catAi.Safe o :=
  safe_of_two rfl (fun _ _ hs => agree_answer hs rfl) (fun _ => safe_setAutoReporting _) safe_silent

theorem safe_catBd : catBd.Safe o :=
  safe_act fun _ hs => agree_setRadio (hs.alike.bandMinus 0 _)

theorem safe_catBu : catBu.Safe o :=
  safe_act fun _ hs => agree_setRadio (hs.alike.bandPlus 0 _)

theorem safe_catDn : catDn.Safe o :=
  safe_act fun _ hs => agree_setRadio (hs.alike.vfoIdStep 0 _)

theorem safe_frequencyCase (name : List Char) (v : Fin 2) : (frequencyCase name v).Safe o :=
  safe_of_two rfl (fun _ _ hs => agree_answer hs rfl)
    (fun _ _ hs => agree_setRadio (hs.alike.vfoIdSetFrequency v _)) safe_silent

theorem safe_catFr : catFr.Safe o := by
  refine safe_of_two rfl (fun _ _ hs => agree_answer hs rfl) ?_ safe_silent
  intro args s hs
  exact Agree.ite Iff.rfl (agree_call hs rfl) (safe_silent s hs)

theorem safe_catFt : catFt.Safe o :=
  safe_of_two rfl (fun _ _ hs => agree_answer hs rfl)
    (fun _ _ hs => agree_setRadio (hs.alike.radioSetSplit _)) safe_silent

theorem agree_withTransmitter (hs : s.radio.InRange) {f f' : TransmitterState → Outcome}
    (hf : ∀ tx, s.radio.transmitter = some tx → Agree o (f tx) (f' tx))
    : Agree o (s.withTransmitter f) ((s.within o).withTransmitter f') := by
  have htransmitter : (s.within o).radio.transmitter = s.radio.transmitter := rfl
  unfold Rig.withTransmitter
  rw [htransmitter]
  cases htx : s.radio.transmitter with
  | none => exact safe_silent s hs
  | some tx => exact hf tx htx

-- the frequency of the tone is read from the table
theorem agree_txSetCtcss (hs : s.radio.InRange) {tx : TransmitterState} (htx : CtcssExists tx.ctcss)
    : Agree o (s.txSetCtcss tx) ((s.within o).txSetCtcss tx) := by
  have htone : (s.within o).ctcssFrequencies tx.ctcss = s.ctcssFrequencies tx.ctcss :=
    Table.within_of_has htx _ _
  have hset := hs.alike.setTransmitter (o := o.toTableSurroundings) htx rfl
  unfold Rig.txSetCtcss
  rw [htone]
  exact ⟨hset.inRange, rfl, rfl⟩

theorem safe_catCt : catCt.Safe o := by
  refine safe_of_two rfl ?_ ?_ safe_silent
  . intro args s hs
    apply agree_withTransmitter hs
    intro tx htx
    exact agree_answer hs rfl
  . intro args s hs
    apply agree_withTransmitter hs
    intro tx htx
    exact agree_txSetCtcss hs (hs.ctcss tx htx)

theorem filterOfVfoA_within (hs : s.radio.InRange)
    : filterOfVfoA (s.within o).radio = filterOfVfoA s.radio :=
  Table.within₂_of_has (hs.vfoInRange 0).mode (hs.vfoInRange 0).filter _ _

theorem safe_fwRead : Safe o fwRead := by
  intro s hs
  unfold fwRead
  rw [filterOfVfoA_within hs]
  apply Agree.ite Iff.rfl (agree_answer hs rfl)
  apply Agree.ite Iff.rfl (agree_answer hs rfl)
  apply Agree.ite Iff.rfl (agree_answer hs rfl)
  exact safe_unimplemented s hs

theorem safe_fwSet (x : Int) : Safe o (fwSet x) := by
  intro s hs
  have hradio := hs.alike.fwSet (o := o.toTableSurroundings) x
  have hstate : ({ s.within o with radio := (s.within o).radio.fwSet x } : Rig)
      = ({ s with radio := s.radio.fwSet x } : Rig).within o := by
    have heq : (s.within o).radio.fwSet x = (s.radio.fwSet x).within o.toTableSurroundings :=
      hradio.eq
    rw [heq]
    rfl
  dsimp only [fwSet]
  rw [hstate]
  apply Agree.ite Iff.rfl
  . exact safe_silent _ hradio.inRange
  . exact safe_unimplemented _ hradio.inRange

theorem safe_catFw : catFw.Safe o :=
  safe_readSet 2 6 safe_fwRead safe_fwSet

theorem safe_catId : catId.Safe o :=
  safe_act fun _ hs => agree_answer hs rfl

theorem safe_catIf : catIf.Safe o :=
  safe_act fun _ hs => agree_answer hs rfl

theorem safe_ksSet (x : Int) : Safe o (ksSet x) :=
  fun s hs => Agree.ite Iff.rfl (agree_update hs rfl rfl) (safe_silent s hs)

theorem safe_catKs : catKs.Safe o :=
  safe_readSet 2 5 (fun _ hs => agree_answer hs rfl) safe_ksSet

theorem queueCwChar_within (s : Rig) (c : CChar)
    : (s.within o).queueCwChar c = (s.queueCwChar c).within o
        ∧ (s.queueCwChar c).radio = s.radio := by
  dsimp only [Rig.queueCwChar]
  by_cases hc : c < 32
  . rw [if_pos hc, if_pos hc]
    exact ⟨rfl, rfl⟩
  . rw [if_neg hc, if_neg hc]
    by_cases hfull : Ring.next 512 s.cwBufIn ≠ s.cwBufOut
    . have hfull' : Ring.next 512 (s.within o).cwBufIn ≠ (s.within o).cwBufOut := hfull
      rw [if_pos hfull, if_pos hfull']
      exact ⟨rfl, rfl⟩
    . have hfull' : ¬ Ring.next 512 (s.within o).cwBufIn ≠ (s.within o).cwBufOut := hfull
      rw [if_neg hfull, if_neg hfull']
      exact ⟨rfl, rfl⟩

theorem agree_queueCwChars (hs : s.radio.InRange) (cs : List CChar)
    : Agree o (cs.foldl Rig.queueCwChar s, none) (cs.foldl Rig.queueCwChar (s.within o), none) := by
  induction cs generalizing s with
  | nil => exact safe_silent s hs
  | cons c cs ih =>
    have ⟨hwithin, hradio⟩ := queueCwChar_within (o := o) s c
    rw [List.foldl_cons, List.foldl_cons, hwithin]
    apply ih
    rw [hradio]
    exact hs

theorem safe_catKy : catKy.Safe o := by
  refine safe_of_two rfl (fun _ _ hs => agree_answer hs rfl) ?_ safe_silent
  intro args s hs
  exact agree_queueCwChars hs _

theorem safe_catLk : catLk.Safe o := by
  refine safe_readSet 2 4 (fun _ hs => agree_answer hs rfl) ?_
  intro x s hs
  refine ⟨⟨⟨hs.vfo, hs.current⟩, hs.vfoInRange, hs.stackInRange, hs.agc, hs.ctcss, hs.profileInRange,
    hs.receivers⟩,
    rfl, rfl⟩

theorem modeExists_wdspmode (x : Int) : ModeExists (wdspmode x) := by
  unfold wdspmode
  split_ifs
  all_goals decide

theorem safe_catMd : catMd.Safe o :=
  safe_readSet 2 3 (fun _ hs => agree_answer hs rfl)
    fun x _ hs => agree_setRadio (hs.alike.vfoIdModeChanged 0 (modeExists_wdspmode x))

theorem radioSetMicGain_within (s : Rig) (value : ℚ)
    : (s.within o).radioSetMicGain value = (s.radioSetMicGain value).within o
        ∧ (s.radioSetMicGain value).radio = s.radio := by
  unfold Rig.radioSetMicGain
  rw [hasTransmitter_within]
  split <;> exact ⟨rfl, rfl⟩

theorem agree_radioSetMicGain (hs : s.radio.InRange) (value : ℚ)
    : Agree o (s.radioSetMicGain value, none) ((s.within o).radioSetMicGain value, none) :=
  have ⟨hwithin, hradio⟩ := radioSetMicGain_within s value
  agree_update hs hradio hwithin

theorem safe_catMg : catMg.Safe o := by
  apply CatCase.Safe.guarded _ hasTransmitter_within safe_unimplemented
  exact safe_readSet 2 5 (fun _ hs => agree_answer hs rfl) fun _ _ hs => agree_radioSetMicGain hs _

theorem agree_setRx0 (hs : s.radio.InRange) {rx rx' : RigReceiver} (heq : rx' = rx)
    : Agree o (s.setRx0 rx) ((s.within o).setRx0 rx') :=
  agree_setRx hs (by decide) heq

theorem rx_zero_within (s : Rig) : (s.within o).rx 0 = s.rx 0 :=
  rx_within (by decide)

theorem rx_one_within (s : Rig) : (s.within o).rx 1 = s.rx 1 :=
  rx_within (by decide)

theorem safe_catNb : catNb.Safe o :=
  safe_readSet 2 3 (safe_answerInt _ _ _ fun s _ => by rw [rx_zero_within])
    fun _ s hs => agree_setRx0 hs (by rw [rx_zero_within])

theorem safe_catNr : catNr.Safe o :=
  safe_readSet 2 3 (safe_answerInt _ _ _ fun s _ => by rw [rx_zero_within])
    fun _ s hs => agree_setRx0 hs (by rw [rx_zero_within])

theorem safe_catNt : catNt.Safe o :=
  safe_readSet 2 3 (safe_answerInt _ _ _ fun s _ => by rw [rx_zero_within])
    fun _ s hs => agree_setRx0 hs (by rw [rx_zero_within])

theorem safe_catPa : catPa.Safe o :=
  safe_of_two rfl (fun _ _ hs => agree_answer hs rfl)
    (fun _ _ hs => agree_setRadio (hs.alike.setAdc rfl)) safe_silent

theorem radioSetDrive_within (s : Rig) (value : ℚ)
    : (s.within o).radioSetDrive value = (s.radioSetDrive value).within o
        ∧ (s.radioSetDrive value).radio = s.radio := by
  unfold Rig.radioSetDrive
  rw [hasTransmitter_within]
  split <;> exact ⟨rfl, rfl⟩

theorem safe_catPc : catPc.Safe o := by
  apply CatCase.Safe.guarded _ hasTransmitter_within safe_silent
  refine safe_readSet 2 5 (fun _ hs => agree_answer hs rfl) ?_
  intro x s hs
  have ⟨hwithin, hradio⟩ := radioSetDrive_within (o := o) s x
  exact agree_update hs hradio hwithin

theorem safe_catPl : catPl.Safe o := by
  apply CatCase.Safe.guarded _ hasTransmitter_within safe_silent
  exact safe_of_two rfl (fun _ _ hs => agree_answer hs rfl) (fun _ _ hs => agree_update hs rfl rfl)
    safe_silent

theorem safe_catPs : catPs.Safe o :=
  safe_readSet 2 3 (fun _ hs => agree_answer hs rfl)
    fun _ s hs => Agree.ite Iff.rfl (agree_call hs rfl) (safe_silent s hs)

theorem safe_raSet (x : Int) : Safe o (raSet x) := by
  intro s hs
  have hgain := hs.alike.radioSetRfGain (o := o.toTableSurroundings) 0
  have hatt {r r' : RadioState} (h : r.Alike o.toTableSurroundings r') (value : Int) :=
    h.radioSetAttenuation 0 value
  have hconfig : (s.within o).radio.config.haveRxGain = s.radio.config.haveRxGain
      ∧ (s.within o).radio.config.haveRxAtt = s.radio.config.haveRxAtt := ⟨rfl, rfl⟩
  unfold raSet
  rw [hconfig.1, hconfig.2]
  cases s.radio.config.haveRxGain with
  | false =>
    apply Agree.ite Iff.rfl
    . exact agree_setRadio (hatt hs.alike _)
    . exact agree_setRadio hs.alike
  | true =>
    apply Agree.ite Iff.rfl
    . exact agree_setRadio (hatt (hgain _) _)
    . exact agree_setRadio (hgain _)

theorem safe_catRa : catRa.Safe o :=
  safe_readSet 2 4 (fun _ hs => agree_answer hs rfl) safe_raSet

-- `RC`, `RD`, `RT` and `RU`
theorem agree_setVfoA (hs : s.radio.InRange) {v v' : VfoState} (hv : v.InRange)
    (hband : v.band = (s.radio.vfo 0).band) (hindex : v.bandstack = (s.radio.vfo 0).bandstack)
    (heq : v' = v)
    : Agree o (s.setVfoA v) ((s.within o).setVfoA v') :=
  agree_setRadio (hs.alike.setVfo_of_eq hv hband hindex heq)

theorem agree_setRit (hs : s.radio.InRange) (rit : Int)
    : Agree o (s.setVfoA { s.radio.vfo 0 with rit := rit })
        ((s.within o).setVfoA { s.radio.vfo 0 with rit := rit }) :=
  agree_setVfoA hs { hs.vfoInRange 0 with } rfl rfl rfl

theorem safe_catRc : catRc.Safe o :=
  safe_actAt 2 fun _ hs => agree_setRit hs 0

theorem safe_catRd : catRd.Safe o :=
  safe_readSet 2 7 (fun _ hs => agree_setRit hs _) fun _ _ hs => agree_setRit hs _

theorem safe_catRt : catRt.Safe o :=
  safe_readSet 2 3 (fun _ hs => agree_answer hs rfl)
    fun _ _ hs => agree_setVfoA hs { hs.vfoInRange 0 with } rfl rfl rfl

theorem safe_catRu : catRu.Safe o :=
  safe_readSet 2 7 (fun _ hs => agree_setRit hs _) fun _ _ hs => agree_setRit hs _

theorem safe_catRx : catRx.Safe o :=
  safe_actAt 2 fun _ hs => agree_call hs rfl

theorem agree_radioSetSatmode (hs : s.radio.InRange) (mode : Int)
    : Agree o (radioSetSatmode s mode) (radioSetSatmode (s.within o) mode) := by
  apply agree_setRadio
  exact hs.alike.of_same rfl (fun _ => rfl) (fun _ => rfl) (fun tx htx => ⟨tx, htx, rfl⟩) rfl rfl rfl

theorem safe_saSet (c2 c6 c7 : CChar) : Safe o (saSet c2 c6 c7) := by
  intro s hs
  apply Agree.ite Iff.rfl (agree_radioSetSatmode hs _)
  apply Agree.ite Iff.rfl _ (safe_silent s hs)
  apply Agree.ite Iff.rfl (agree_radioSetSatmode hs _)
  apply Agree.ite Iff.rfl (agree_radioSetSatmode hs _)
  exact Agree.ite Iff.rfl (agree_radioSetSatmode hs _) (safe_unimplemented s hs)

theorem safe_catSa : catSa.Safe o :=
  safe_of_two rfl (fun _ _ hs => agree_answer hs rfl) (fun _ => safe_saSet _ _ _) safe_unimplemented

theorem safe_catSd : catSd.Safe o :=
  safe_of_two rfl (fun _ _ hs => agree_answer hs rfl) (fun _ _ hs => agree_update hs rfl rfl)
    safe_unimplemented

theorem safe_shRead : Safe o shRead := by
  intro s hs
  unfold shRead
  rw [filterOfVfoA_within hs]
  apply Agree.ite Iff.rfl (agree_answer hs rfl)
  exact Agree.ite Iff.rfl (agree_answer hs rfl) (safe_unimplemented s hs)

theorem safe_shSet (i : Int) : Safe o (shSet i) := by
  intro s hs
  have hradio := hs.alike.shSet (o := o.toTableSurroundings) i
  have hstate : ({ s.within o with radio := (s.within o).radio.shSet i } : Rig)
      = ({ s with radio := s.radio.shSet i } : Rig).within o := by
    have heq : (s.within o).radio.shSet i = (s.radio.shSet i).within o.toTableSurroundings :=
      hradio.eq
    rw [heq]
    rfl
  dsimp only [shSet]
  rw [hstate]
  apply Agree.ite Iff.rfl
  . exact safe_silent _ hradio.inRange
  . exact safe_unimplemented _ hradio.inRange

theorem safe_catSh : catSh.Safe o :=
  safe_readSet 2 4 safe_shRead safe_shSet

theorem safe_slRead : Safe o slRead := by
  intro s hs
  unfold slRead
  rw [filterOfVfoA_within hs]
  exact agree_answer hs rfl

theorem safe_catSl : catSl.Safe o :=
  safe_readSet 2 4 safe_slRead fun _ _ hs => agree_setRadio (hs.alike.slSet _)

-- the number of the receiver has been checked
theorem agree_ofReceiver (hs : s.radio.InRange) (id : Int) (f : RigReceiver → List CChar)
    : Agree o (if 0 ≤ id ∧ id < s.receivers then s.answer (f (s.rx id)) else s.silent)
        (if 0 ≤ id ∧ id < (s.within o).receivers then (s.within o).answer (f ((s.within o).rx id))
        else (s.within o).silent) := by
  by_cases hid : 0 ≤ id ∧ id < s.receivers
  . have hhas : Table.Has 2 id := by
      refine ⟨hid.1, ?_⟩
      have hlt := hid.2
      have hreceivers := hs.receivers
      unfold Rig.receivers at hlt
      omega
    have hid' : 0 ≤ id ∧ id < (s.within o).receivers := hid
    rw [if_pos hid, if_pos hid', rx_within hhas]
    exact agree_answer hs rfl
  . have hid' : ¬ (0 ≤ id ∧ id < (s.within o).receivers) := hid
    rw [if_neg hid, if_neg hid']
    exact safe_silent s hs

theorem safe_catSm : catSm.Safe o :=
  safe_setAt 2 3 fun id _ hs => agree_ofReceiver hs id fun rx =>
    let val := truncate ((rx.rxlvl + 127) * (277778 / 1000000))
    codes ['S', 'M'] ++ Decimal.format false 0 id ++ Decimal.format false 4 (max 0 (min 30 val))

theorem safe_sqRead (id : Int) : Safe o (sqRead id) :=
  fun _ hs => agree_ofReceiver hs id fun rx =>
    codes ['S', 'Q'] ++ Decimal.format false 0 id
      ++ Decimal.format false 3 (truncate (rx.squelch / 100 * 255 + 1 / 2))

theorem safe_catTx : catTx.Safe o :=
  safe_actAt 2 fun _ hs => agree_call hs rfl

theorem safe_catTy : catTy.Safe o :=
  safe_actAt 2 fun _ hs => agree_answer hs rfl

theorem safe_catUp : catUp.Safe o :=
  safe_actAt 2 fun _ hs => agree_setRadio (hs.alike.vfoIdStep 0 _)

theorem safe_catVg (lib : CLibrary) : (catVg lib).Safe o :=
  safe_of_two rfl (fun _ _ hs => agree_answer hs rfl) (fun _ _ hs => agree_update hs rfl rfl)
    safe_silent

theorem safe_catVx : catVx.Safe o :=
  safe_readSet 2 3 (fun _ hs => agree_answer hs rfl) fun _ _ hs => agree_update hs rfl rfl

theorem safe_catXt : catXt.Safe o := by
  apply CatCase.Safe.guarded _ hasTransmitter_within safe_silent
  exact safe_readSet 2 3 (fun _ hs => agree_answer hs rfl)
    fun _ _ hs => agree_setRadio (hs.alike.vfoXitOnoff _)

theorem safe_afCase (lib : CLibrary) {read : Rig → Outcome} (hread : Safe o read) {id : Int}
    (hid : Table.Has 2 id)
    : (afCase lib read id).Safe o :=
  safe_readElse 4 hread fun _ _ hs => agree_radioSetAfGain hs hid _

theorem safe_moveCase (v : Fin 2) (sign : Int) : (moveCase v sign).Safe o :=
  safe_setAt 4 6 fun _ _ hs => agree_setRadio (hs.alike.vfoIdMove v _ false)

theorem safe_stepsCase (v : Fin 2) (sign : Int) : (stepsCase v sign).Safe o :=
  safe_setAt 4 6 fun _ _ hs => agree_setRadio (hs.alike.vfoIdStep v _)

theorem safe_oneStepCase (v : Fin 2) (step : Int) : (oneStepCase v step).Safe o :=
  safe_actAt 4 fun _ hs => agree_setRadio (hs.alike.vfoIdStep v _)

theorem safe_catZzac : catZzac.Safe o :=
  safe_readSet 4 6 (fun _ hs => agree_answer hs rfl)
    fun _ _ hs => agree_setRadio (hs.alike.vfoIdSetStepFromIndex 0 _)

theorem safe_catZzag (lib : CLibrary) : (catZzag lib).Safe o :=
  safe_afCase lib (safe_answerInt _ _ _ fun s _ => by rw [rx_zero_within]) (by decide)

theorem safe_catZzai : catZzai.Safe o :=
  safe_of_two rfl (fun _ _ hs => agree_answer hs rfl) (fun _ => safe_setAutoReporting _)
    safe_unimplemented

theorem safe_thresholdCase (name : List Char) (id : Fin 2) : (thresholdCase name id).Safe o :=
  safe_readElse 4 (fun _ hs => agree_answer hs rfl)
    fun _ _ hs => agree_setRadio (hs.alike.radioSetAgcGain id _)

theorem safe_catZzas : catZzas.Safe o :=
  (safe_thresholdCase _ 1).guarded secondReceiver_within safe_unimplemented

theorem safe_catZzba : catZzba.Safe o :=
  safe_actAt 4 fun s hs =>
    Agree.ite Iff.rfl (agree_setRadio (hs.alike.bandMinus 1 _)) (safe_unimplemented s hs)

theorem safe_catZzbb : catZzbb.Safe o :=
  safe_actAt 4 fun s hs =>
    Agree.ite Iff.rfl (agree_setRadio (hs.alike.bandPlus 1 _)) (safe_unimplemented s hs)

theorem safe_catZzbd : catZzbd.Safe o :=
  safe_actAt 4 fun _ hs => agree_setRadio (hs.alike.bandMinus 0 _)

theorem safe_catZzbu : catZzbu.Safe o :=
  safe_actAt 4 fun _ hs => agree_setRadio (hs.alike.bandPlus 0 _)

theorem safe_bandCase (name : List Char) (v : Fin 2) : (bandCase name v).Safe o :=
  safe_readSet 4 7 (fun _ hs => agree_answer hs rfl)
    fun _ _ hs => agree_setRadio (hs.alike.vfoIdBandChanged v _)

theorem safe_catZzby : catZzby.Safe o where
  branch _ hmem := absurd hmem List.not_mem_nil
  otherwise := safe_silent

theorem safe_ctunCase (name : List Char) (v : Fin 2) : (ctunCase name v).Safe o :=
  safe_readSet 4 5 (fun _ hs => agree_answer hs rfl)
    fun _ _ hs => agree_setRadio (hs.alike.vfoIdCtunUpdate v _)

theorem safe_catZzfh : catZzfh.Safe o :=
  safe_readSet 4 9 (fun _ hs => agree_answer hs rfl) fun _ _ hs => agree_setRadio (hs.alike.zzfhSet _)

theorem safe_catZzfl : catZzfl.Safe o :=
  safe_readSet 4 9 (fun _ hs => agree_answer hs rfl) fun _ _ hs => agree_setRadio (hs.alike.zzflSet _)

theorem safe_catZzla (lib : CLibrary) : (catZzla lib).Safe o :=
  safe_afCase lib (safe_answerInt _ _ _ fun s _ => by rw [rx_zero_within]) (by decide)

theorem safe_catZzlc (lib : CLibrary) : (catZzlc lib).Safe o :=
  (safe_afCase lib (safe_answerInt _ _ _ fun s _ => by rw [rx_one_within]) (by decide)).guarded
    secondReceiver_within safe_silent

theorem safe_catZzli : catZzli.Safe o := by
  apply CatCase.Safe.guarded _ hasTransmitter_within safe_silent
  exact safe_readElse 4 (fun _ hs => agree_answer hs rfl) fun _ _ hs => agree_call hs rfl

theorem safe_muteCase {id : Int} (hid : Table.Has 2 id)
    : (CatCase.readElse 4 (muteRead id) (muteSet id)).Safe o :=
  safe_readElse 4 (safe_answerInt _ _ _ fun s _ => by rw [rx_within hid])
    fun _ s hs => agree_setRx hs hid (by rw [rx_within hid])

theorem safe_catZzmb : catZzmb.Safe o :=
  (safe_muteCase (by decide)).guarded secondReceiver_within safe_silent

theorem safe_catZzmg : catZzmg.Safe o := by
  apply CatCase.Safe.guarded _ hasTransmitter_within safe_unimplemented
  exact safe_readSet 4 7 (fun _ hs => agree_answer hs rfl) fun _ _ hs => agree_radioSetMicGain hs _

theorem safe_catZztx : catZztx.Safe o :=
  safe_readSet 4 5 (fun _ hs => agree_answer hs rfl)
    fun _ _ hs => Agree.ite Iff.rfl (agree_call hs rfl) (agree_call hs rfl)

theorem safe_catZzuu : catZzuu.Safe o := by
  apply CatCase.Safe.guarded _ hasTransmitter_within safe_silent
  exact safe_readSet 4 5 (fun _ hs => agree_answer hs rfl) fun _ _ hs => agree_call hs rfl

theorem safe_catZzvs : catZzvs.Safe o := by
  refine safe_of_one rfl ?_ safe_silent
  intro args s hs
  apply Agree.ite Iff.rfl (agree_setRadio hs.alike.vfoAToB)
  exact Agree.ite Iff.rfl (agree_setRadio hs.alike.vfoBToA) (agree_setRadio hs.alike.vfoASwapB)

theorem safe_catZzxv : catZzxv.Safe o :=
  safe_actAt 4 fun _ hs => agree_answer hs rfl

theorem safe_catZzyr : catZzyr.Safe o :=
  safe_readSet 4 5 (fun _ hs => agree_answer hs rfl)
    fun _ s hs => Agree.ite Iff.rfl (agree_call hs rfl) (safe_unimplemented s hs)

theorem safe_catZzza : catZzza.Safe o :=
  safe_of_one rfl (fun _ => safe_silent) safe_unimplemented

theorem safe_catZzze : catZzze.Safe o := by
  refine safe_of_one rfl ?_ safe_unimplemented
  intro args s hs
  exact Agree.ite Iff.rfl (safe_silent s hs) (agree_call hs rfl)

theorem safe_catZzzp : catZzzp.Safe o := by
  refine safe_of_one rfl ?_ safe_unimplemented
  intro args s hs
  exact Agree.ite Iff.rfl (agree_call hs rfl) ⟨hs, rfl, rfl⟩

theorem safe_catZzzs : catZzzs.Safe o := by
  refine safe_of_one rfl ?_ safe_silent
  intro args s hs
  exact Agree.ite Iff.rfl ⟨hs, rfl, rfl⟩ ⟨hs, rfl, rfl⟩

end Rigctl
