import Pihpsdr.Properties.Impl.LoadProfile
import Mathlib.Tactic.NormNum

/-!
Loading a profile: what the receiver, the transmitter and the table are while its settings are assigned
and stored, and afterwards.
-/

namespace Profiles

open Assign

variable {table : Table} {mode : Fin modes}

-- the modes that share their settings have the same ones
def Table.Agreed (table : Table) (mode : Fin modes) : Prop :=
  ∀ i, (i.val : Int) ∈ sharedModes mode → table i = table (slot mode)

-- an entry stored for its mode and those that share it
def Table.spread (table : Table) (mode : Fin modes) (e : Entry) : Table :=
  profilesCopyRxtxprofile (Function.update table (slot mode) e) mode

theorem spread_slot (e : Entry) : table.spread mode e (slot mode) = e := by
  unfold Table.spread profilesCopyRxtxprofile
  split <;> rw [Function.update_self]

theorem spread_spread (e e' : Entry) : (table.spread mode e).spread mode e' = table.spread mode e' := by
  funext i
  unfold Table.spread profilesCopyRxtxprofile
  rw [Function.update_self, Function.update_self]
  by_cases hi : i = slot mode
  . subst hi
    rw [Function.update_self, Function.update_self]
  . rw [Function.update_of_ne hi, Function.update_of_ne hi]
    grind

-- the entry of the mode or of one that shares its settings
def Shares (i : Fin (modes + numProfiles)) (mode : Fin modes) : Prop :=
  i = slot mode ∨ (i.val : Int) ∈ sharedModes mode

instance (i : Fin (modes + numProfiles)) (mode : Fin modes) : Decidable (Shares i mode) :=
  inferInstanceAs (Decidable (_ ∨ _))

theorem spread_of_shares {i : Fin (modes + numProfiles)} (e : Entry) (hi : Shares i mode)
    : table.spread mode e i = e := by
  unfold Table.spread profilesCopyRxtxprofile
  rw [Function.update_self]
  rcases hi with rfl | hi
  . rw [Function.update_self, ite_self]
  . rw [if_pos hi]

theorem spread_of_not_shares {i : Fin (modes + numProfiles)} (e : Entry) (hi : ¬ Shares i mode)
    : table.spread mode e i = table i := by
  unfold Shares at hi
  rw [not_or] at hi
  unfold Table.spread profilesCopyRxtxprofile
  rw [if_neg hi.2, Function.update_of_ne hi.1]

theorem shares_iff : ∀ m n : Fin modes, Shares (slot m) n → ∀ i, Shares i m ↔ Shares i n := by
  decide +kernel

theorem shares_slot
    : ∀ (m n : Fin modes) (i : Fin (modes + numProfiles)),
        Shares i m → Shares i n → Shares (slot m) n := by
  decide +kernel

theorem spread_eq_iff (e : Entry)
    : table.spread mode e = table ↔ e = table (slot mode) ∧ table.Agreed mode := by
  constructor
  . intro h
    have he : e = table (slot mode) :=
      calc
        e = table.spread mode e (slot mode) := (spread_slot e).symm
        _ = table (slot mode) := by rw [h]
    refine ⟨he, ?_⟩
    intro i hi
    have hi' := congrFun h i
    unfold Table.spread profilesCopyRxtxprofile at hi'
    rw [if_pos hi, Function.update_self] at hi'
    rw [← hi', he]
  . intro ⟨he, hagreed⟩
    funext i
    unfold Table.spread profilesCopyRxtxprofile
    rw [he, Function.update_eq_self]
    split
    next hi => exact (hagreed i hi).symm
    next => rfl

theorem RxProfile.setAudio_of_not_mem {rx : RxProfile} {x : Int} {name : CString 128} {f : RxField}
    (hf : f ≠ .int .localAudio ∧ f ≠ .audioName)
    : RxProfile.setName (RxProfile.setInt rx .localAudio x) name f = rx f :=
  (Function.update_of_ne hf.2 ..).trans (Function.update_of_ne hf.1 ..)

theorem TxProfile.setAudio_of_not_mem {tx : TxProfile} {x : Int} {name : CString 128} {f : TxField}
    (hf : f ≠ .int .localAudio ∧ f ≠ .audioName)
    : TxProfile.setName (TxProfile.setInt tx .localAudio x) name f = tx f :=
  (Function.update_of_ne hf.2 ..).trans (Function.update_of_ne hf.1 ..)

theorem Entry.mk_eta (e : Entry) : Entry.mk e.rx e.tx = e := by
  funext c
  cases c <;> rfl

theorem spread_eq_of_shares {e : Entry} (h : ∀ i, Shares i mode → table i = e)
    : table.spread mode e = table := by
  funext i
  by_cases hi : Shares i mode
  . rw [spread_of_shares e hi, h i hi]
  . rw [spread_of_not_shares e hi]

/--
Where a receiver and then the transmitter have stored settings and nothing has changed, neither of them
has changed anything.
-/
theorem spread_spread_eq_iff (n : Fin modes) (rx : RxProfile) (tx : TxProfile)
    : (table.spread mode (Entry.mk rx (table (slot mode)).tx)).spread n
          (Entry.mk ((table.spread mode (Entry.mk rx (table (slot mode)).tx)) (slot n)).rx tx) =
        table ↔
      table.spread mode (Entry.mk rx (table (slot mode)).tx) = table ∧
        table.spread n (Entry.mk (table (slot n)).rx tx) = table := by
  constructor
  . intro h
    have hfirst : table.spread mode (Entry.mk rx (table (slot mode)).tx) = table := by
      by_cases hblock : Shares (slot mode) n
      . have hslot : Shares (slot n) mode := (shares_iff mode n hblock (slot n)).mpr (Or.inl rfl)
        rw [spread_of_shares (i := slot n) _ hslot] at h
        have hrx : (table (slot mode)).rx = rx := by
          rw [← h, spread_of_shares _ hblock]
          rfl
        have heta : Entry.mk rx (table (slot mode)).tx = table (slot mode) := by
          rw [← hrx]
          exact Entry.mk_eta _
        rw [heta]
        apply spread_eq_of_shares
        intro i hi
        have hall : ∀ i, Shares i n → table i = Entry.mk rx tx := by
          intro i hi
          rw [← h, spread_of_shares _ hi]
          rfl
        rw [hall i ((shares_iff mode n hblock i).mp hi), hall _ hblock]
      . have hkeep : ∀ i, Shares i mode → table i = Entry.mk rx (table (slot mode)).tx := by
          intro i hi
          have hout : ¬ Shares i n := fun hn => hblock (shares_slot mode n i hi hn)
          have hi' := congrFun h i
          rw [spread_of_not_shares _ hout, spread_of_shares _ hi] at hi'
          exact hi'.symm
        exact spread_eq_of_shares hkeep
    rw [hfirst] at h
    exact ⟨hfirst, h⟩
  . intro ⟨hfirst, hsecond⟩
    rw [hfirst, hsecond]

theorem Entry.mk_inj {rx rx' : RxProfile} {tx tx' : TxProfile}
    : Entry.mk rx tx = Entry.mk rx' tx' ↔ rx = rx' ∧ tx = tx' := by
  constructor
  . intro h
    constructor
    . exact congrArg Entry.rx h
    . exact congrArg Entry.tx h
  . intro ⟨hrx, htx⟩
    rw [hrx, htx]

namespace ModeRadio

variable {s : ModeRadio} {id : Fin 2} {e r : RxProfile} {fs : List RxField}

-- the entry of the mode of a receiver
def entry (s : ModeRadio) (id : Fin 2) : Entry :=
  s.table (slot (s.mode id))

/--
While the profile of a receiver is loaded: the receiver has the settings `r`, and the table those in
`e` for its mode.
-/
def staged (s : ModeRadio) (id : Fin 2) (e r : RxProfile) : ModeRadio :=
  { s with
    rx := Function.update s.rx id r
    table :=
      if id = 0 then s.table.spread (s.mode id) (Entry.mk e (s.entry id).tx) else s.table }

-- only the settings of the first receiver change the table
def Follows (s : ModeRadio) (id : Fin 2) (e : RxProfile) : Prop :=
  id ≠ 0 → e = (s.entry id).rx

theorem staged_entry (he : s.Follows id e)
    : (s.staged id e r).entry id = Entry.mk e (s.entry id).tx := by
  unfold staged entry
  dsimp only
  split
  . exact spread_slot _
  next hid =>
    rw [he hid]
    exact (Entry.mk_eta _).symm

theorem staged_rx : (s.staged id e r).rx id = r :=
  Function.update_self ..

theorem staged_setRx (r' : RxProfile) : (s.staged id e r).setRx id r' = s.staged id e r' := by
  unfold staged setRx
  dsimp only
  rw [Function.update_idem]

theorem staged_loadRx (he : s.Follows id e)
    : (s.staged id e r).loadRx id (slot (s.mode id)) fs = s.staged id e (assign fs e r) := by
  have hentry : (s.staged id e r).table (slot (s.mode id)) = Entry.mk e (s.entry id).tx :=
    staged_entry he
  unfold loadRx
  rw [staged_setRx, staged_rx, hentry]
  rfl

-- the settings in the table after the receiver has stored some
def storedRx (id : Fin 2) (fs : List RxField) (r e : RxProfile) : RxProfile :=
  if id = 0 then assign fs r e else e

theorem Follows.storedRx (he : s.Follows id e) : s.Follows id (storedRx id fs r e) := by
  intro hid
  unfold ModeRadio.storedRx
  rw [if_neg hid]
  exact he hid

theorem staged_storeRx (he : s.Follows id e)
    : (s.staged id e r).storeRx id fs = s.staged id (storedRx id fs r e) r := by
  have hentry : (s.staged id e r).table (slot (s.mode id)) = Entry.mk e (s.entry id).tx :=
    staged_entry he
  unfold storeRx storedRx
  split
  next hid =>
    have hmode : (s.staged id e r).mode id = s.mode id := rfl
    dsimp only
    rw [hmode, hentry, staged_rx]
    unfold setEntry staged
    dsimp only
    rw [if_pos hid, if_pos hid]
    congr 1
    exact spread_spread _ _
  next => rfl

theorem storeRx_eq_staged (r : RxProfile)
    : (s.setRx id r).storeRx id fs = s.staged id (storedRx id fs r (s.entry id).rx) r := by
  unfold storeRx storedRx
  split
  next hid =>
    unfold setEntry setRx staged
    dsimp only
    rw [if_pos hid, Function.update_self]
    rfl
  next hid =>
    unfold staged setRx
    rw [if_neg hid]

-- what has just been assigned from the table is stored without effect
theorem storedRx_self (h : ∀ f ∈ fs, r f = e f) : storedRx id fs r e = e := by
  unfold storedRx
  rw [assign_self h, ite_self]

def flag (squelch : ℚ) : Int :=
  if 1 / 2 < squelch then 1 else 0

-- the squelch of the first receiver is stored before it is loaded, so it stays what it was
def loadedSquelch (s : ModeRadio) (id : Fin 2) : ℚ :=
  RxProfile.getDouble (if id = 0 then s.rx id else (s.entry id).rx) .squelch

def rxAudioFields : List RxField :=
  [.int .audioChannel, .int .localAudio, .audioName]

-- the settings of a receiver before the local audio is loaded
def loadedRx (s : ModeRadio) (id : Fin 2) : RxProfile
  | .double .squelch => s.loadedSquelch id
  | .int .squelchEnable => flag (s.loadedSquelch id)
  | .int .audioChannel => s.rx id (.int .audioChannel)
  | .int .localAudio => s.rx id (.int .localAudio)
  | .audioName => s.rx id .audioName
  | f => (s.entry id).rx f

-- the settings of its mode in the table
def loadedEntry (s : ModeRadio) (id : Fin 2) : RxProfile :=
  storedRx id squelchFields (s.loadedRx id) (s.entry id).rx

theorem loadedEntry_follows : s.Follows id (s.loadedEntry id) :=
  Follows.storedRx fun _ => rfl

theorem mem_eqFields (f : RxArray) (j : Fin 11) : .array f j ∈ rxEqFields := by
  unfold rxEqFields
  cases f <;> simp

-- the settings of the receiver after each group of assignments
def loadingVfo (s : ModeRadio) (id : Fin 2) : RxProfile :=
  RxProfile.setDouble (assign vfoFields (s.entry id).rx (s.rx id)) .volume
    (RxProfile.getDouble (s.entry id).rx .volume)

def loadingNoise (s : ModeRadio) (id : Fin 2) : RxProfile :=
  RxProfile.setInt (assign noiseFields (s.entry id).rx (s.loadingVfo id)) .squelchEnable
    (RxProfile.getInt (s.entry id).rx .squelchEnable)

def loadingSquelch (s : ModeRadio) (id : Fin 2) : RxProfile :=
  RxProfile.setInt (RxProfile.setDouble (s.loadingNoise id) .squelch (s.loadedSquelch id))
    .squelchEnable (flag (s.loadedSquelch id))

theorem setRx_setRx (r r' : RxProfile) : (s.setRx id r).setRx id r' = s.setRx id r' := by
  unfold setRx
  dsimp only
  rw [Function.update_idem]

theorem radioSetAfGain_eq (hid : id.val < s.receivers) (value : ℚ)
    : (s.setRx id r).radioSetAfGain id value =
        s.staged id
          (storedRx id [.double .volume] (RxProfile.setDouble r .volume value) (s.entry id).rx)
          (RxProfile.setDouble r .volume value) := by
  unfold radioSetAfGain
  have hr : (s.setRx id r).rx id = r := Function.update_self ..
  rw [hr, setRx_setRx]
  refine (if_neg (Nat.not_le.mpr hid)).trans ?_
  exact storeRx_eq_staged _

theorem radioSetSquelchEnable_staged (he : s.Follows id e) (hid : id.val < s.receivers)
    (enable : Int)
    : (s.staged id e r).radioSetSquelchEnable id enable =
        s.staged id
          (storedRx id squelchFields (RxProfile.setInt r .squelchEnable enable) e)
          (RxProfile.setInt r .squelchEnable enable) := by
  unfold radioSetSquelchEnable
  rw [staged_rx, staged_setRx]
  refine (if_neg (Nat.not_le.mpr hid)).trans ?_
  exact staged_storeRx he

theorem radioSetSquelch_staged (he : s.Follows id e) (hid : id.val < s.receivers) (value : ℚ)
    : (s.staged id e r).radioSetSquelch id value =
        s.staged id
          (storedRx id squelchFields
            (RxProfile.setInt (RxProfile.setDouble r .squelch value) .squelchEnable (flag value)) e)
          (RxProfile.setInt (RxProfile.setDouble r .squelch value) .squelchEnable
            (flag value)) := by
  unfold radioSetSquelch
  rw [staged_rx]
  dsimp only
  rw [staged_setRx]
  refine (if_neg (Nat.not_le.mpr hid)).trans ?_
  exact staged_storeRx he

theorem storedRx_storedRx (r r' e : RxProfile)
    : storedRx id fs r' (storedRx id fs r e) = storedRx id fs r' e := by
  unfold storedRx
  split
  . funext f
    unfold assign
    grind
  . rfl

theorem storedRx_congr {r r' : RxProfile} (h : ∀ f ∈ fs, r f = r' f)
    : storedRx id fs r e = storedRx id fs r' e := by
  unfold storedRx
  split
  . funext f
    unfold assign
    grind
  . rfl

-- what the table holds of the squelch when it is loaded
theorem storedRx_squelch
    : RxProfile.getDouble (storedRx id squelchFields (s.loadingNoise id) (s.entry id).rx) .squelch =
        s.loadedSquelch id := by
  unfold storedRx loadedSquelch
  by_cases hid : id = 0
  . rw [if_pos hid, if_pos hid]
    rfl
  . rw [if_neg hid, if_neg hid]

theorem loadedRx_eq (f : RxField) (hsquelch : f ∉ squelchFields) (haudio : f ∉ rxAudioFields)
    : s.loadedRx id f = (s.entry id).rx f := by
  cases f with
  | int f =>
    cases f with
    | squelchEnable => exact absurd (by decide) hsquelch
    | audioChannel => exact absurd (by decide) haudio
    | localAudio => exact absurd (by decide) haudio
    | _ => rfl
  | double f =>
    cases f with
    | squelch => exact absurd (by decide) hsquelch
    | _ => rfl
  | array f j => rfl
  | audioName => exact absurd (by decide) haudio

theorem loadedEntry_eq (f : RxField) (hsquelch : f ∉ squelchFields)
    : s.loadedEntry id f = (s.entry id).rx f := by
  unfold loadedEntry storedRx
  split
  . exact assign_of_not_mem hsquelch
  . rfl

theorem loadingSquelch_of_not_mem (f : RxField)
    (hf : f ∉ notchFields ++ agcFields ++ limiterFields ++ rxEqFields)
    : s.loadingSquelch id f = s.loadedRx id f := by
  cases f with
  | int f => cases f <;> first | rfl | exact absurd (by decide) hf
  | double f => cases f <;> first | rfl | exact absurd (by decide) hf
  | array f j =>
    apply absurd _ hf
    rw [List.mem_append]
    exact Or.inr (mem_eqFields f j)
  | audioName => rfl

theorem assign_loadingSquelch
    : assign (notchFields ++ agcFields ++ limiterFields ++ rxEqFields) (s.loadedEntry id)
        (s.loadingSquelch id) = s.loadedRx id := by
  funext f
  by_cases hf : f ∈ notchFields ++ agcFields ++ limiterFields ++ rxEqFields
  . have hsquelch : f ∉ squelchFields := by
      intro hmem
      unfold squelchFields at hmem
      simp only [List.mem_cons, List.not_mem_nil, or_false] at hmem
      rcases hmem with rfl | rfl <;> revert hf <;> decide
    have haudio : f ∉ rxAudioFields := by
      intro hmem
      unfold rxAudioFields at hmem
      simp only [List.mem_cons, List.not_mem_nil, or_false] at hmem
      rcases hmem with rfl | rfl | rfl <;> revert hf <;> decide
    rw [assign_of_mem hf, loadedEntry_eq f hsquelch, loadedRx_eq f hsquelch haudio]
  . rw [assign_of_not_mem hf, loadingSquelch_of_not_mem f hf]

theorem entry_follows : s.Follows id (s.entry id).rx :=
  fun _ => rfl

theorem staged_read (he : s.Follows id e)
    : ((s.staged id e r).table (slot (s.mode id))).rx = e := by
  have hentry : (s.staged id e r).table (slot (s.mode id)) = Entry.mk e (s.entry id).tx :=
    staged_entry he
  rw [hentry]
  rfl

theorem loadVfo_staged (hid : id.val < s.receivers)
    : (s.loadRx id (slot (s.mode id)) vfoFields).radioSetAfGain id
        (RxProfile.getDouble ((s.loadRx id (slot (s.mode id)) vfoFields).table
          (slot (s.mode id))).rx .volume) =
        s.staged id (s.entry id).rx (s.loadingVfo id) := by
  unfold loadRx
  rw [radioSetAfGain_eq hid]
  refine congrArg (s.staged id · (s.loadingVfo id)) ?_
  apply storedRx_self
  intro f hf
  rw [List.mem_singleton.mp hf]
  rfl

theorem loadNoise_staged (hid : id.val < s.receivers)
    : ((s.staged id (s.entry id).rx (s.loadingVfo id)).loadRx id (slot (s.mode id))
          noiseFields).radioSetSquelchEnable id
            (RxProfile.getInt (((s.staged id (s.entry id).rx (s.loadingVfo id)).loadRx id
              (slot (s.mode id)) noiseFields).table (slot (s.mode id))).rx .squelchEnable) =
        s.staged id (storedRx id squelchFields (s.loadingNoise id) (s.entry id).rx)
          (s.loadingNoise id) := by
  rw [staged_loadRx entry_follows, staged_read entry_follows]
  exact radioSetSquelchEnable_staged entry_follows hid _

theorem loadSquelch_staged (hid : id.val < s.receivers)
    : (s.staged id (storedRx id squelchFields (s.loadingNoise id) (s.entry id).rx)
          (s.loadingNoise id)).radioSetSquelch id
            (RxProfile.getDouble ((s.staged id
              (storedRx id squelchFields (s.loadingNoise id) (s.entry id).rx)
              (s.loadingNoise id)).table (slot (s.mode id))).rx .squelch) =
        s.staged id (s.loadedEntry id) (s.loadingSquelch id) := by
  rw [staged_read entry_follows.storedRx, storedRx_squelch,
    radioSetSquelch_staged entry_follows.storedRx hid, storedRx_storedRx]
  unfold loadedEntry
  congr 1
  apply storedRx_congr
  intro f hf
  unfold squelchFields at hf
  simp only [List.mem_cons, List.not_mem_nil, or_false] at hf
  rcases hf with rfl | rfl <;> rfl

theorem staged_storeRx_self (he : s.Follows id e) (h : ∀ f ∈ fs, r f = e f)
    : (s.staged id e r).storeRx id fs = s.staged id e r := by
  rw [staged_storeRx he, storedRx_self h]

theorem loadedRx_loadedEntry (f : RxField)
    (hf : f ∈ noiseFields ++ notchFields ++ agcFields ++ rxEqFields)
    : s.loadedRx id f = s.loadedEntry id f := by
  have hsquelch : f ∉ squelchFields := by
    intro hmem
    unfold squelchFields at hmem
    simp only [List.mem_cons, List.not_mem_nil, or_false] at hmem
    rcases hmem with rfl | rfl <;> revert hf <;> decide
  have haudio : f ∉ rxAudioFields := by
    intro hmem
    unfold rxAudioFields at hmem
    simp only [List.mem_cons, List.not_mem_nil, or_false] at hmem
    rcases hmem with rfl | rfl | rfl <;> revert hf <;> decide
  rw [loadedEntry_eq f hsquelch, loadedRx_eq f hsquelch haudio]

theorem loadedRx_stored
    : (((s.staged id (s.loadedEntry id) (s.loadedRx id)).rxSetAgc id).rxSetEqualizer
        id).rxSetNoise id = s.staged id (s.loadedEntry id) (s.loadedRx id) := by
  unfold rxSetAgc rxSetEqualizer rxSetNoise
  have hstored : ∀ f ∈ noiseFields ++ notchFields ++ agcFields ++ rxEqFields,
      s.loadedRx id f = s.loadedEntry id f := loadedRx_loadedEntry
  rw [staged_storeRx_self loadedEntry_follows, staged_storeRx_self loadedEntry_follows,
    staged_storeRx_self loadedEntry_follows]
  . intro f hf
    exact hstored f (by simp only [List.mem_append] at hf ⊢; tauto)
  . intro f hf
    exact hstored f (by simp only [List.mem_append] at hf ⊢; tauto)
  . intro f hf
    exact hstored f (by simp only [List.mem_append] at hf ⊢; tauto)

-- the filter of the transmitter is set with that of the receiver
def StoresTxFilter (s : ModeRadio) (id : Fin 2) : Prop :=
  s.hasTransmitter ∧ ((TxProfile.getInt s.tx .useRxFilter ≠ 0 ∧ id = s.activeReceiver) ∨
    (s.vfoGetTxMode.val : Int) = modeFmn)

instance (s : ModeRadio) (id : Fin 2) : Decidable (s.StoresTxFilter id) :=
  inferInstanceAs (Decidable (_ ∧ _))

def filtered (s : ModeRadio) (id : Fin 2) : ModeRadio :=
  let loaded := s.staged id (s.loadedEntry id) (s.loadedRx id)
  if s.StoresTxFilter id then loaded.txSetFilter else loaded

theorem profilesLoadRxProfile_eq (a : AudioDevices) (hid : id.val < s.receivers)
    : profilesLoadRxProfile a s id (slot (s.mode id)) =
        if id = 0 then loadRxAudio a.opensOutput (s.filtered id) (slot (s.mode id))
        else s.filtered id := by
  have hfilter : (s.staged id (s.loadedEntry id) (s.loadedRx id)).rxFilterChanged id =
      s.filtered id := by
    unfold rxFilterChanged rxSetFilter rxSetAgc
    rw [staged_storeRx_self loadedEntry_follows]
    . rfl
    . intro f hf
      apply loadedRx_loadedEntry f
      simp only [List.mem_append]
      tauto
  unfold profilesLoadRxProfile
  dsimp only
  rw [loadVfo_staged hid, loadNoise_staged hid, loadSquelch_staged hid,
    staged_loadRx loadedEntry_follows, assign_loadingSquelch, loadedRx_stored, hfilter]

-- the entry of the mode of the transmitter
def txEntry (s : ModeRadio) : Entry :=
  s.table (slot s.vfoGetTxMode)

/--
While the profile of the transmitter is loaded: the transmitter has the settings `t`, and the entry of
its mode has been copied.
-/
def tuned (s : ModeRadio) (t : TxProfile) : ModeRadio :=
  { s with tx := t, table := s.table.spread s.vfoGetTxMode s.txEntry }

variable {t : TxProfile} {gs : List TxField}

theorem tuned_entry : (s.tuned t).table (slot s.vfoGetTxMode) = s.txEntry :=
  spread_slot _

theorem tuned_loadTx
    : (s.tuned t).loadTx (slot s.vfoGetTxMode) gs = s.tuned (assign gs s.txEntry.tx t) := by
  unfold loadTx
  rw [tuned_entry]
  rfl

theorem tuned_storeTx (h : ∀ f ∈ gs, t f = s.txEntry.tx f)
    : (s.tuned t).storeTx gs = s.tuned t := by
  have hmode : (s.tuned t).vfoGetTxMode = s.vfoGetTxMode := rfl
  unfold storeTx
  dsimp only
  rw [hmode, tuned_entry]
  have htx : (s.tuned t).tx = t := rfl
  rw [htx, assign_self h, Entry.mk_eta]
  unfold setEntry tuned
  dsimp only
  congr 1
  exact spread_spread _ _

theorem storeTx_eq_tuned (h : ∀ f ∈ gs, t f = s.txEntry.tx f)
    : { s with tx := t }.storeTx gs = s.tuned t := by
  have hmode : ({ s with tx := t } : ModeRadio).vfoGetTxMode = s.vfoGetTxMode := rfl
  unfold storeTx
  dsimp only
  rw [hmode]
  have hself : assign gs t (s.table (slot s.vfoGetTxMode)).tx = s.txEntry.tx := assign_self h
  rw [hself]
  unfold setEntry tuned
  dsimp only
  congr 1
  exact congrArg (s.table.spread s.vfoGetTxMode) (Entry.mk_eta s.txEntry)

def txAudioFields : List TxField :=
  [.int .localAudio, .audioName]

-- the settings of the transmitter before the local audio is loaded
def loadedTx (s : ModeRadio) : TxProfile :=
  fun f => if f ∈ txAudioFields then s.tx f else s.txEntry.tx f

def loadingMicGain (s : ModeRadio) : TxProfile :=
  TxProfile.setDouble
    (assign [.int .pttDelay, .int .enEq, .int .compressor, .double .compressorLevel]
      s.txEntry.tx s.tx) .micGain (TxProfile.getDouble s.txEntry.tx .micGain)

theorem mem_txEqCurveFields (f : TxArray) (j : Fin 11)
    : .array f j ∈ cfcFields ++ txEqCurveFields := by
  unfold cfcFields txEqCurveFields
  cases f <;> simp

theorem assign_loadingMicGain
    : assign (dexpFields ++ cfcFields ++ txFilterFields ++ phrotFields ++ txEqCurveFields)
        s.txEntry.tx s.loadingMicGain = s.loadedTx := by
  funext f
  cases f with
  | int f => cases f <;> rfl
  | double f => cases f <;> rfl
  | array f j =>
    have hf := mem_txEqCurveFields f j
    rw [List.mem_append] at hf
    rw [assign_of_mem]
    . unfold loadedTx
      rw [if_neg (by simp [txAudioFields])]
    . simp only [List.mem_append]
      tauto
  | audioName => rfl

theorem loadedTx_eq {f : TxField} (hf : f ∉ txAudioFields) : s.loadedTx f = s.txEntry.tx f :=
  if_neg hf

theorem not_mem_txAudioFields {f : TxField}
    (hf : f ∈ txFilterFields ++ compressorFields ++ dexpFields ++ txEqFields ++ phrotFields)
    : f ∉ txAudioFields := by
  intro hmem
  unfold txAudioFields at hmem
  simp only [List.mem_cons, List.not_mem_nil, or_false] at hmem
  rcases hmem with rfl | rfl <;> revert hf <;> decide

theorem loadedTx_stored
    : (s.tuned s.loadedTx).txSetFilter.txSetCompressor.txSetDexp.txSetEqualizer.txSetPhrot =
        s.tuned s.loadedTx := by
  have hstored : ∀ gs : List TxField,
      (∀ f ∈ gs, f ∈ txFilterFields ++ compressorFields ++ dexpFields ++ txEqFields ++ phrotFields) →
        (s.tuned s.loadedTx).storeTx gs = s.tuned s.loadedTx := by
    intro gs hgs
    apply tuned_storeTx
    intro f hf
    exact loadedTx_eq (not_mem_txAudioFields (hgs f hf))
  unfold txSetFilter txSetCompressor txSetDexp txSetEqualizer txSetPhrot
  rw [hstored txFilterFields, hstored compressorFields, hstored dexpFields, hstored txEqFields,
    hstored phrotFields]
  all_goals
    intro f hf
    simp only [List.mem_append]
    tauto

theorem profilesLoadTxProfile_eq (a : AudioDevices) (ht : s.hasTransmitter)
    : profilesLoadTxProfile a s (slot s.vfoGetTxMode) =
        loadTxAudio a.opensInput (s.tuned s.loadedTx) (slot s.vfoGetTxMode) := by
  have hmic : (s.loadTx (slot s.vfoGetTxMode)
      [.int .pttDelay, .int .enEq, .int .compressor, .double .compressorLevel]).radioSetMicGain
        (TxProfile.getDouble ((s.loadTx (slot s.vfoGetTxMode)
          [.int .pttDelay, .int .enEq, .int .compressor, .double .compressorLevel]).table
            (slot s.vfoGetTxMode)).tx .micGain) = s.tuned s.loadingMicGain := by
    unfold radioSetMicGain
    refine (if_pos ht).trans ?_
    apply storeTx_eq_tuned
    intro f hf
    rw [List.mem_singleton.mp hf]
    rfl
  unfold profilesLoadTxProfile
  rw [if_neg (not_not.mpr ht)]
  dsimp only
  rw [hmic, tuned_loadTx, assign_loadingMicGain, loadedTx_stored]

end ModeRadio

end Profiles

/-!
When a profile is loaded as it was stored, and the table stays what it was. Then a change of the mode and
back restores the settings.
-/

namespace Profiles

open Assign

namespace ModeRadio

variable {s : ModeRadio} {id : Fin 2} {fs : List RxField}

-- the VFO of the receiver is the one that the transmitter uses
def LoadsTx (s : ModeRadio) (id : Fin 2) : Prop :=
  s.hasTransmitter ∧ id = s.vfoGetTxVfo

instance (s : ModeRadio) (id : Fin 2) : Decidable (s.LoadsTx id) :=
  inferInstanceAs (Decidable (_ ∧ _))

theorem LoadsTx.txEntry (h : s.LoadsTx id) : s.txEntry = s.entry id := by
  unfold ModeRadio.txEntry entry vfoGetTxMode
  rw [← h.2]

-- the table after the receiver has stored its settings, and after the transmitter has
def rxTable (s : ModeRadio) (id : Fin 2) : Table :=
  (s.staged id (s.loadedEntry id) (s.loadedRx id)).table

def filterTx (s : ModeRadio) (id : Fin 2) : TxProfile :=
  if s.StoresTxFilter id then
    assign txFilterFields s.tx (s.rxTable id (slot s.vfoGetTxMode)).tx
  else
    (s.rxTable id (slot s.vfoGetTxMode)).tx

def txTable (s : ModeRadio) (id : Fin 2) : Table :=
  if s.StoresTxFilter id ∨ s.LoadsTx id then
    (s.rxTable id).spread s.vfoGetTxMode
      (Entry.mk (s.rxTable id (slot s.vfoGetTxMode)).rx (s.filterTx id))
  else
    s.rxTable id

theorem filtered_table
    : (s.filtered id).table =
        if s.StoresTxFilter id then
          (s.rxTable id).spread s.vfoGetTxMode
            (Entry.mk (s.rxTable id (slot s.vfoGetTxMode)).rx (s.filterTx id))
        else
          s.rxTable id := by
  unfold filtered filterTx
  split <;> rfl

theorem filtered_other (s : ModeRadio) (id : Fin 2)
    : (s.filtered id).rx = Function.update s.rx id (s.loadedRx id) ∧ (s.filtered id).tx = s.tx ∧
        (s.filtered id).mode = s.mode ∧ (s.filtered id).hasTransmitter = s.hasTransmitter ∧
        (s.filtered id).vfoGetTxVfo = s.vfoGetTxVfo := by
  unfold filtered
  split <;> exact ⟨rfl, rfl, rfl, rfl, rfl⟩

-- copying the entry of the transmitter after its filter has been stored changes nothing more
theorem txTable_eq
    : (if s.LoadsTx id then
        (s.filtered id).table.spread s.vfoGetTxMode ((s.filtered id).table (slot s.vfoGetTxMode))
      else (s.filtered id).table) = s.txTable id := by
  rw [filtered_table]
  unfold txTable
  by_cases hstores : s.StoresTxFilter id
  . rw [if_pos hstores, if_pos (Or.inl hstores), spread_slot, spread_spread, ite_self]
  . rw [if_neg hstores]
    by_cases hloads : s.LoadsTx id
    . rw [if_pos hloads, if_pos (Or.inr hloads)]
      unfold filterTx
      rw [if_neg hstores, Entry.mk_eta]
    . rw [if_neg hloads, if_neg (not_or.mpr ⟨hstores, hloads⟩)]

variable (a : AudioDevices)

-- the receiver with its local audio
def rxLoaded (s : ModeRadio) (id : Fin 2) : ModeRadio :=
  if id = 0 then loadRxAudio a.opensOutput (s.filtered id) (slot (s.mode id)) else s.filtered id

theorem rxLoaded_other (s : ModeRadio) (id : Fin 2)
    : (s.rxLoaded a id).table = (s.filtered id).table ∧ (s.rxLoaded a id).tx = s.tx ∧
        (s.rxLoaded a id).hasTransmitter = s.hasTransmitter ∧
        (s.rxLoaded a id).vfoGetTxVfo = s.vfoGetTxVfo ∧
        (s.rxLoaded a id).vfoGetTxMode = s.vfoGetTxMode := by
  have ⟨_, htx, hmode, ht, hvfo⟩ := filtered_other s id
  have htxmode : (s.filtered id).vfoGetTxMode = s.vfoGetTxMode := by
    unfold vfoGetTxMode
    rw [hmode, hvfo]
  unfold rxLoaded
  split
  . exact ⟨rfl, htx, ht, hvfo, htxmode⟩
  . exact ⟨rfl, htx, ht, hvfo, htxmode⟩

theorem profilesLoadRxtxProfile_eq (hid : id.val < s.receivers)
    : profilesLoadRxtxProfile a s id =
        if s.LoadsTx id then
          loadTxAudio a.opensInput ((s.rxLoaded a id).tuned (s.rxLoaded a id).loadedTx)
            (slot s.vfoGetTxMode)
        else
          s.rxLoaded a id := by
  have ⟨_, _, ht, hvfo, hmode⟩ := rxLoaded_other a s id
  have hrx : profilesLoadRxProfile a s id (slot (s.mode id)) = s.rxLoaded a id :=
    profilesLoadRxProfile_eq a hid
  unfold profilesLoadRxtxProfile
  dsimp only
  rw [hrx, ht, hvfo]
  by_cases hloads : s.LoadsTx id
  . have htxmode : s.mode id = s.vfoGetTxMode := by
      unfold vfoGetTxMode
      rw [← hloads.2]
    rw [if_pos hloads, if_pos (show s.hasTransmitter ∧ id = s.vfoGetTxVfo from hloads), htxmode,
      ← hmode]
    exact profilesLoadTxProfile_eq a (ht.trans hloads.1)
  . rw [if_neg hloads]
    exact if_neg hloads

theorem load_table (hid : id.val < s.receivers)
    : (profilesLoadRxtxProfile a s id).table = s.txTable id := by
  have ⟨htable, _, _, _, hmode⟩ := rxLoaded_other a s id
  rw [profilesLoadRxtxProfile_eq a hid, ← txTable_eq]
  split
  . change (s.rxLoaded a id).table.spread (s.rxLoaded a id).vfoGetTxMode
      ((s.rxLoaded a id).table (slot (s.rxLoaded a id).vfoGetTxMode)) = _
    rw [htable, hmode]
  . exact htable

theorem load_rx (hid : id.val < s.receivers)
    : (profilesLoadRxtxProfile a s id).rx = (s.rxLoaded a id).rx := by
  rw [profilesLoadRxtxProfile_eq a hid]
  split <;> rfl

-- no setting but those of the local audio is changed when this is loaded
theorem rxLoaded_rx {f : RxField} (hf : f ∉ rxAudioFields)
    : (s.rxLoaded a id).rx id f = s.loadedRx id f := by
  have hrx : (s.filtered id).rx id = s.loadedRx id := by
    rw [(filtered_other s id).1]
    exact Function.update_self ..
  unfold rxLoaded
  split
  next hid =>
    subst hid
    unfold loadRxAudio loadRx setRx
    dsimp only
    rw [Function.update_self, Function.update_self]
    unfold rxAudioFields at hf
    simp only [List.mem_cons, List.not_mem_nil, or_false, not_or] at hf
    rw [RxProfile.setAudio_of_not_mem hf.2, assign_of_not_mem, hrx]
    simpa using hf.1
  next => rw [hrx]

-- the local audio of the first receiver
theorem rxLoaded_audio
    : RxProfile.getInt ((s.rxLoaded a 0).rx 0) .audioChannel =
          RxProfile.getInt ((s.filtered 0).table (slot (s.mode 0))).rx .audioChannel ∧
        rxAudio ((s.rxLoaded a 0).rx 0) =
          switchAudio a.opensOutput (rxAudio (s.rx 0))
            (rxAudio ((s.filtered 0).table (slot (s.mode 0))).rx) := by
  have hrx : (s.filtered 0).rx 0 = s.loadedRx 0 := by
    rw [(filtered_other s 0).1]
    exact Function.update_self ..
  unfold rxLoaded loadRxAudio loadRx setRx
  rw [if_pos rfl]
  dsimp only
  rw [Function.update_self, Function.update_self, hrx]
  exact ⟨rfl, rfl⟩

theorem load_tx (hid : id.val < s.receivers) (hloads : s.LoadsTx id) {f : TxField}
    (hf : f ∉ txAudioFields)
    : (profilesLoadRxtxProfile a s id).tx f = ((s.filtered id).table (slot s.vfoGetTxMode)).tx f := by
  have ⟨htable, _, _, _, hmode⟩ := rxLoaded_other a s id
  rw [profilesLoadRxtxProfile_eq a hid, if_pos hloads]
  have hf' : f ≠ .int .localAudio ∧ f ≠ .audioName := by
    unfold txAudioFields at hf
    simpa using hf
  unfold loadTxAudio
  dsimp only
  rw [TxProfile.setAudio_of_not_mem hf']
  refine (loadedTx_eq hf).trans ?_
  unfold txEntry
  rw [htable, hmode]

theorem load_txAudio (hid : id.val < s.receivers) (hloads : s.LoadsTx id)
    : txAudio (profilesLoadRxtxProfile a s id).tx =
        switchAudio a.opensInput (txAudio s.tx)
          (txAudio ((s.filtered id).table (slot s.vfoGetTxMode)).tx) := by
  have ⟨htable, htx, _, _, hmode⟩ := rxLoaded_other a s id
  rw [profilesLoadRxtxProfile_eq a hid, if_pos hloads]
  have hentry : ((s.rxLoaded a id).tuned (s.rxLoaded a id).loadedTx).table (slot s.vfoGetTxMode) =
      (s.filtered id).table (slot s.vfoGetTxMode) := by
    rw [← hmode, tuned_entry]
    unfold txEntry
    rw [htable]
  have haudio : txAudio ((s.rxLoaded a id).tuned (s.rxLoaded a id).loadedTx).tx = txAudio s.tx := by
    rw [← htx]
    rfl
  unfold loadTxAudio
  dsimp only
  rw [hentry, haudio]
  rfl

end ModeRadio

/--
The local audio is switched to what is stored: it is in use already, or it is to be used and the device
opens, or it is not to be used and the name of the device is the same.
-/
def AudioLoads (opens : CString 128 → Bool) (used stored : Int × CString 128) : Prop :=
  used = stored ∨ (stored.1 = 1 ∧ opens stored.2) ∨ (stored.1 = 0 ∧ used.2 = stored.2)

theorem switchAudio_eq_iff {opens : CString 128 → Bool} {used stored : Int × CString 128}
    : switchAudio opens used stored = stored ↔ AudioLoads opens used stored := by
  obtain ⟨u, un⟩ := used
  obtain ⟨v, vn⟩ := stored
  unfold switchAudio AudioLoads
  dsimp only
  grind

namespace ModeRadio

variable {s s' : ModeRadio} {id : Fin 2} (a : AudioDevices)

/--
The receiver with its VFO, and the transmitter if it uses this VFO, have the settings that were stored
with the mode, and the table is what it was. Local audio is a matter of the first receiver.
-/
structure LoadedExactly (s s' : ModeRadio) (id : Fin 2) : Prop where
  rx : ∀ f, id = 0 ∨ f ∉ rxAudioFields → s'.rx id f = (s.entry id).rx f
  tx : s.LoadsTx id → ∀ f, s'.tx f = (s.entry id).tx f
  table : s'.table = s.table

-- when the profile of the mode can be loaded
structure Loadable (a : AudioDevices) (s : ModeRadio) (id : Fin 2) : Prop where
  squelchEnable : RxProfile.getInt (s.entry id).rx .squelchEnable =
    flag (RxProfile.getDouble (s.entry id).rx .squelch)
  -- the first receiver has the squelch already
  squelch : id = 0 →
    RxProfile.getDouble (s.rx 0) .squelch = RxProfile.getDouble (s.entry 0).rx .squelch
  rxAgreed : id = 0 → s.table.Agreed (s.mode 0)
  txAgreed : s.StoresTxFilter id ∨ s.LoadsTx id → s.table.Agreed s.vfoGetTxMode
  -- where the filter of the transmitter is set before its profile is loaded
  txFilter : s.StoresTxFilter id → ∀ f ∈ txFilterFields, s.tx f = s.txEntry.tx f
  rxAudio : id = 0 → AudioLoads a.opensOutput (rxAudio (s.rx 0)) (rxAudio (s.entry 0).rx)
  txAudio : s.LoadsTx id → AudioLoads a.opensInput (txAudio s.tx) (txAudio s.txEntry.tx)

theorem rxTable_eq_iff
    : s.rxTable id = s.table ↔
        (id = 0 → s.loadedEntry id = (s.entry id).rx ∧ s.table.Agreed (s.mode id)) := by
  unfold rxTable staged
  dsimp only
  split
  next hid =>
    rw [spread_eq_iff]
    have hentry : Entry.mk (s.loadedEntry id) (s.entry id).tx = s.table (slot (s.mode id)) ↔
        s.loadedEntry id = (s.entry id).rx := by
      have heta : s.table (slot (s.mode id)) = Entry.mk (s.entry id).rx (s.entry id).tx :=
        (Entry.mk_eta (s.entry id)).symm
      rw [heta, Entry.mk_inj, and_iff_left rfl]
    rw [hentry]
    simp only [hid, true_implies]
  next hid => simp only [hid, false_implies]

theorem rxTable_spread_eq_iff (n : Fin modes) (tx : TxProfile)
    : (s.rxTable id).spread n (Entry.mk (s.rxTable id (slot n)).rx tx) = s.table ↔
        s.rxTable id = s.table ∧ s.table.spread n (Entry.mk (s.table (slot n)).rx tx) = s.table := by
  by_cases hid : id = 0
  . have hrx : s.rxTable id = s.table.spread (s.mode id)
        (Entry.mk (s.loadedEntry id) (s.table (slot (s.mode id))).tx) := if_pos hid
    rw [hrx]
    exact spread_spread_eq_iff n _ tx
  . have hrx : s.rxTable id = s.table := if_neg hid
    rw [hrx, eq_self, true_and]

theorem spread_txEntry_eq_iff (tx : TxProfile)
    : s.table.spread s.vfoGetTxMode (Entry.mk s.txEntry.rx tx) = s.table ↔
        tx = s.txEntry.tx ∧ s.table.Agreed s.vfoGetTxMode := by
  have heta : s.table (slot s.vfoGetTxMode) = Entry.mk s.txEntry.rx s.txEntry.tx :=
    (Entry.mk_eta s.txEntry).symm
  rw [spread_eq_iff, heta, Entry.mk_inj, eq_self, true_and]

theorem txTable_eq_iff
    : s.txTable id = s.table ↔
        s.rxTable id = s.table ∧
          (s.StoresTxFilter id ∨ s.LoadsTx id → s.table.Agreed s.vfoGetTxMode) ∧
          (s.StoresTxFilter id → ∀ f ∈ txFilterFields, s.tx f = s.txEntry.tx f) := by
  unfold txTable
  split
  next hsome =>
    rw [rxTable_spread_eq_iff]
    apply and_congr_right
    intro htable
    refine (spread_txEntry_eq_iff _).trans ?_
    unfold filterTx
    rw [htable, and_comm]
    simp only [hsome, true_implies]
    apply and_congr_right
    intro _
    by_cases hstores : s.StoresTxFilter id
    . rw [if_pos hstores]
      simp only [hstores, true_implies]
      exact assign_eq_iff
    . rw [if_neg hstores]
      simp only [hstores, false_implies, iff_true]
      rfl
  next hnone =>
    rw [not_or] at hnone
    simp only [hnone.1, hnone.2, or_self, false_implies, and_true]

theorem loadedEntry_eq_iff
    : s.loadedEntry id = (s.entry id).rx ↔ (id = 0 →
        flag (s.loadedSquelch id) = RxProfile.getInt (s.entry id).rx .squelchEnable ∧
          s.loadedSquelch id = RxProfile.getDouble (s.entry id).rx .squelch) := by
  unfold loadedEntry storedRx
  split
  next hid =>
    rw [assign_eq_iff]
    unfold squelchFields
    simp only [hid, true_implies, List.mem_cons, List.not_mem_nil, or_false, forall_eq_or_imp,
      forall_eq]
    rfl
  next hid => simp only [hid, false_implies]

theorem loadedSquelch_zero : s.loadedSquelch 0 = RxProfile.getDouble (s.rx 0) .squelch := by
  unfold loadedSquelch
  rw [if_pos rfl]

theorem loadedSquelch_of_ne (hid : id ≠ 0)
    : s.loadedSquelch id = RxProfile.getDouble (s.entry id).rx .squelch := by
  unfold loadedSquelch
  rw [if_neg hid]

-- the table the settings are read from is the one that was there, as far as it is unchanged
theorem filtered_table_eq (h : s.txTable id = s.table) : (s.filtered id).table = s.table := by
  have hiff := txTable_eq_iff.mp h
  rw [filtered_table]
  split
  next hstores =>
    have hsome : s.StoresTxFilter id ∨ s.LoadsTx id := Or.inl hstores
    unfold txTable at h
    rw [if_pos hsome] at h
    exact h
  next => exact hiff.1

theorem Loadable.txTable_eq (h : Loadable a s id) : s.txTable id = s.table := by
  apply txTable_eq_iff.mpr
  refine ⟨?_, h.txAgreed, h.txFilter⟩
  apply rxTable_eq_iff.mpr
  intro hid
  refine ⟨?_, by rw [hid]; exact h.rxAgreed hid⟩
  apply loadedEntry_eq_iff.mpr
  intro _
  have henable := h.squelchEnable
  subst hid
  rw [loadedSquelch_zero, h.squelch rfl]
  exact ⟨henable.symm, rfl⟩

theorem Loadable.loadedSquelch (h : Loadable a s id)
    : s.loadedSquelch id = RxProfile.getDouble (s.entry id).rx .squelch := by
  by_cases hid : id = 0
  . subst hid
    rw [loadedSquelch_zero]
    exact h.squelch rfl
  . exact loadedSquelch_of_ne hid

theorem loadedRx_squelchEnable
    : RxProfile.getInt (s.loadedRx id) .squelchEnable = flag (s.loadedSquelch id) :=
  rfl

theorem Loadable.loadedExactly (h : Loadable a s id) (hid : id.val < s.receivers)
    : LoadedExactly s (profilesLoadRxtxProfile a s id) id where
  rx f hf := by
    rw [load_rx a hid]
    by_cases haudio : f ∈ rxAudioFields
    . have hzero : id = 0 := hf.resolve_right (not_not.mpr haudio)
      subst hzero
      have hentry : (s.filtered 0).table (slot (s.mode 0)) = s.entry 0 :=
        congrFun (filtered_table_eq h.txTable_eq) _
      have ⟨hchannel, hused⟩ := rxLoaded_audio a (s := s)
      rw [hentry] at hchannel hused
      rw [switchAudio_eq_iff.mpr (h.rxAudio rfl)] at hused
      have ⟨hlocal, hname⟩ := Prod.mk.inj hused
      unfold rxAudioFields at haudio
      simp only [List.mem_cons, List.not_mem_nil, or_false] at haudio
      rcases haudio with rfl | rfl | rfl
      . exact hchannel
      . exact hlocal
      . exact hname
    . rw [rxLoaded_rx a haudio]
      by_cases hsquelch : f ∈ squelchFields
      . unfold squelchFields at hsquelch
        simp only [List.mem_cons, List.not_mem_nil, or_false] at hsquelch
        rcases hsquelch with rfl | rfl
        . refine loadedRx_squelchEnable.trans ?_
          rw [h.loadedSquelch]
          exact h.squelchEnable.symm
        . exact h.loadedSquelch
      . exact loadedRx_eq f hsquelch haudio
  tx hloads f := by
    have hentry : (s.filtered id).table (slot s.vfoGetTxMode) = s.txEntry :=
      congrFun (filtered_table_eq h.txTable_eq) _
    rw [← hloads.txEntry]
    by_cases haudio : f ∈ txAudioFields
    . have hused := load_txAudio a hid hloads
      rw [hentry, switchAudio_eq_iff.mpr (h.txAudio hloads)] at hused
      have ⟨hlocal, hname⟩ := Prod.mk.inj hused
      unfold txAudioFields at haudio
      simp only [List.mem_cons, List.not_mem_nil, or_false] at haudio
      rcases haudio with rfl | rfl
      . exact hlocal
      . exact hname
    . rw [load_tx a hid hloads haudio, hentry]
  table := by
    rw [load_table a hid]
    exact h.txTable_eq

theorem LoadedExactly.loadable (hid : id.val < s.receivers)
    (h : LoadedExactly s (profilesLoadRxtxProfile a s id) id)
    : Loadable a s id := by
  have htable : s.txTable id = s.table := (load_table a hid).symm.trans h.table
  have ⟨hrx, htxAgreed, htxFilter⟩ := txTable_eq_iff.mp htable
  have hrx := rxTable_eq_iff.mp hrx
  have hread : (s.filtered id).table = s.table := filtered_table_eq htable
  have hsetting : ∀ f, f ∉ rxAudioFields → s.loadedRx id f = (s.entry id).rx f := by
    intro f hf
    rw [← h.rx f (Or.inr hf), load_rx a hid, rxLoaded_rx a hf]
  have hsquelch : s.loadedSquelch id = RxProfile.getDouble (s.entry id).rx .squelch :=
    hsetting (.double .squelch) (by decide)
  constructor
  . rw [← hsquelch]
    exact (hsetting (.int .squelchEnable) (by decide)).symm
  . rintro rfl
    rw [← loadedSquelch_zero]
    exact hsquelch
  . rintro rfl
    exact (hrx rfl).2
  . exact htxAgreed
  . exact htxFilter
  . rintro rfl
    apply switchAudio_eq_iff.mp
    have hentry : (s.filtered 0).table (slot (s.mode 0)) = s.entry 0 := congrFun hread _
    have hused := (rxLoaded_audio a (s := s)).2
    rw [hentry] at hused
    rw [← hused, ← load_rx a hid]
    exact Prod.ext (h.rx (.int .localAudio) (Or.inl rfl)) (h.rx .audioName (Or.inl rfl))
  . intro hloads
    apply switchAudio_eq_iff.mp
    have hentry : (s.filtered id).table (slot s.vfoGetTxMode) = s.txEntry := congrFun hread _
    have hused := load_txAudio a hid hloads
    rw [hentry] at hused
    rw [← hused, hloads.txEntry]
    exact Prod.ext (h.tx hloads (.int .localAudio)) (h.tx hloads .audioName)

-- what setters and profiles leave alone
structure SameRadio (s s' : ModeRadio) : Prop where
  hasTransmitter : s'.hasTransmitter = s.hasTransmitter
  receivers : s'.receivers = s.receivers
  activeReceiver : s'.activeReceiver = s.activeReceiver
  split : s'.split = s.split
  mode : s'.mode = s.mode

theorem load_sameRadio (hid : id.val < s.receivers)
    : SameRadio s (profilesLoadRxtxProfile a s id) := by
  have hfiltered : SameRadio s (s.filtered id) := by
    unfold filtered
    split <;> exact ⟨rfl, rfl, rfl, rfl, rfl⟩
  have hloaded : SameRadio s (s.rxLoaded a id) := by
    have ⟨ht, hreceivers, hactive, hsplit, hmode⟩ := hfiltered
    unfold rxLoaded
    split <;> exact ⟨ht, hreceivers, hactive, hsplit, hmode⟩
  have ⟨ht, hreceivers, hactive, hsplit, hmode⟩ := hloaded
  rw [profilesLoadRxtxProfile_eq a hid]
  split <;> exact ⟨ht, hreceivers, hactive, hsplit, hmode⟩

theorem load_tx_of_not_loadsTx (hid : id.val < s.receivers) (hloads : ¬ s.LoadsTx id)
    : (profilesLoadRxtxProfile a s id).tx = s.tx := by
  rw [profilesLoadRxtxProfile_eq a hid, if_neg hloads]
  exact (rxLoaded_other a s id).2.1

theorem SameRadio.vfoGetTxVfo (h : SameRadio s s') : s'.vfoGetTxVfo = s.vfoGetTxVfo := by
  unfold ModeRadio.vfoGetTxVfo
  rw [h.split, h.activeReceiver]

theorem SameRadio.vfoGetTxMode (h : SameRadio s s') : s'.vfoGetTxMode = s.vfoGetTxMode := by
  unfold ModeRadio.vfoGetTxMode
  rw [h.vfoGetTxVfo, h.mode]

-- a setter has no effect on the table that holds the setting already
theorem storeRx_self {fs : List RxField} (h : id = 0 →
    (∀ f ∈ fs, s.rx id f = (s.entry id).rx f) ∧ s.table.Agreed (s.mode id))
    : s.storeRx id fs = s := by
  unfold storeRx
  split
  next hid =>
    obtain ⟨hfields, hagreed⟩ := h hid
    have hentry : Entry.mk (assign fs (s.rx id) (s.table (slot (s.mode id))).rx)
        (s.table (slot (s.mode id))).tx = s.table (slot (s.mode id)) := by
      have hself : assign fs (s.rx id) (s.table (slot (s.mode id))).rx = (s.entry id).rx :=
        assign_self hfields
      rw [hself]
      exact Entry.mk_eta _
    dsimp only
    rw [hentry]
    unfold setEntry
    have htable := (spread_eq_iff (s.table (slot (s.mode id)))).mpr ⟨rfl, hagreed⟩
    unfold Table.spread at htable
    rw [htable]
  next => rfl

theorem txSetFilter_self (h : ∀ f ∈ txFilterFields, s.tx f = s.txEntry.tx f)
    (hagreed : s.table.Agreed s.vfoGetTxMode)
    : s.txSetFilter = s := by
  have htable := (spread_txEntry_eq_iff s.txEntry.tx).mpr ⟨rfl, hagreed⟩
  have hentry : assign txFilterFields s.tx (s.table (slot s.vfoGetTxMode)).tx = s.txEntry.tx :=
    assign_self h
  unfold txSetFilter storeTx setEntry
  dsimp only
  rw [hentry]
  unfold Table.spread txEntry at htable
  unfold txEntry
  rw [htable]

/--
The profile of the new mode can be loaded, and where it is not that of the transmitter, the filter of
the transmitter is the one stored with its mode.
-/
structure Switchable (a : AudioDevices) (s : ModeRadio) (id : Fin 2) (m : Fin modes) : Prop where
  loadable : Loadable a (s.setMode id m) id
  txFilter : s.hasTransmitter → ¬ s.LoadsTx id →
    (∀ f ∈ txFilterFields, s.tx f = (s.setMode id m).txEntry.tx f) ∧
      s.table.Agreed (s.setMode id m).vfoGetTxMode

theorem Switchable.vfoIdModeChanged_eq {m : Fin modes} (h : Switchable a s id m)
    (hid : id.val < s.receivers)
    : s.vfoIdModeChanged a id m = profilesLoadRxtxProfile a (s.setMode id m) id := by
  have hloaded := h.loadable.loadedExactly a hid
  have hsame := load_sameRadio a (s := s.setMode id m) hid
  generalize hresult : profilesLoadRxtxProfile a (s.setMode id m) id = s' at hloaded hsame
  have hentry : s'.entry id = (s.setMode id m).entry id := by
    unfold entry
    rw [hloaded.table, hsame.mode]
  have htxEntry : s'.txEntry = (s.setMode id m).txEntry := by
    unfold txEntry
    rw [hloaded.table, hsame.vfoGetTxMode]
  have hstore : ∀ fs : List RxField, (∀ f ∈ fs, f ∉ rxAudioFields) → s'.storeRx id fs = s' := by
    intro fs hfs
    apply storeRx_self
    intro hzero
    constructor
    . intro f hf
      rw [hentry]
      exact hloaded.rx f (Or.inr (hfs f hf))
    . rw [hloaded.table, hsame.mode]
      subst hzero
      exact h.loadable.rxAgreed rfl
  have hfilter : s'.hasTransmitter → s'.txSetFilter = s' := by
    intro ht
    rw [hsame.hasTransmitter] at ht
    by_cases hloads : (s.setMode id m).LoadsTx id
    . apply txSetFilter_self
      . intro f _
        rw [htxEntry, hloads.txEntry]
        exact hloaded.tx hloads f
      . rw [hloaded.table, hsame.vfoGetTxMode]
        exact h.loadable.txAgreed (Or.inr hloads)
    . have ⟨hfields, hagreed⟩ := h.txFilter ht hloads
      have htx : s'.tx = s.tx := by
        rw [← hresult]
        exact load_tx_of_not_loadsTx a hid hloads
      apply txSetFilter_self
      . rw [htx, htxEntry]
        exact hfields
      . rw [hloaded.table, hsame.vfoGetTxMode]
        exact hagreed
  have hchanged : s'.rxFilterChanged id = s' := by
    unfold rxFilterChanged rxSetFilter rxSetAgc
    rw [hstore agcFields (by decide)]
    dsimp only
    split
    next hcond => exact hfilter hcond.1
    next => rfl
  have hmode : s'.rxModeChanged id = s' := by
    unfold rxModeChanged rxSetSquelch
    rw [hstore squelchFields (by decide), hchanged]
  unfold vfoIdModeChanged
  dsimp only
  rw [if_pos (show id.val < (s.setMode id m).receivers from hid), hresult, hmode, hchanged]
  split
  next ht => exact hfilter ht
  next => rfl

/--
The profile of the mode is loaded as it was stored and the table stays what it was, if and only if the
stored squelch is switched on exactly above its threshold and the first receiver has it already, modes
that share their settings have the same ones, the filter of the transmitter agrees with its mode where it
is set on the way, and the local audio can be switched. Then switching away and back restores all
settings.
-/
theorem profilesLoadRxtxProfile_exactly_iff (s : ModeRadio) (id : Fin 2)
    (hid : id.val < s.receivers)
    : (LoadedExactly s (profilesLoadRxtxProfile a s id) id ↔ Loadable a s id) ∧
      ∀ away, Switchable a s id away →
        Switchable a (s.vfoIdModeChanged a id away) id (s.mode id) →
          LoadedExactly s
            ((s.vfoIdModeChanged a id away).vfoIdModeChanged a id (s.mode id)) id := by
  refine ⟨⟨LoadedExactly.loadable a hid, fun h => h.loadedExactly a hid⟩, ?_⟩
  intro away haway hback
  have hfirst := haway.vfoIdModeChanged_eq a hid
  have hsame := load_sameRadio a (s := s.setMode id away) hid
  have htable := (haway.loadable.loadedExactly a hid).table
  rw [← hfirst] at hsame htable
  generalize s.vfoIdModeChanged a id away = s' at hback hsame htable ⊢
  have hid' : id.val < s'.receivers := by
    rw [hsame.receivers]
    exact hid
  have hsecond := hback.loadable.loadedExactly a hid'
  have hentry : (s'.setMode id (s.mode id)).entry id = s.entry id := by
    unfold entry setMode
    dsimp only
    rw [Function.update_self, htable]
    rfl
  rw [hback.vfoIdModeChanged_eq a hid']
  constructor
  . intro f hf
    rw [hsecond.rx f hf, hentry]
  . intro hloads f
    have hloads' : (s'.setMode id (s.mode id)).LoadsTx id :=
      ⟨hsame.hasTransmitter.trans hloads.1, hloads.2.trans hsame.vfoGetTxVfo.symm⟩
    rw [hsecond.tx hloads' f, hentry]
  . exact hsecond.table.trans htable

end ModeRadio

def plainRx : RxProfile
  | .int _ => (0 : Int)
  | .double _ => (0 : ℚ)
  | .array _ _ => (0 : ℚ)
  | .audioName => noAudio

def plainTx : TxProfile
  | .int _ => (0 : Int)
  | .double _ => (0 : ℚ)
  | .array _ _ => (0 : ℚ)
  | .audioName => noAudio

namespace ModeRadio

-- one receiver in CW, after a change of the mode; it has still the given squelch
def inCw (squelch : ℚ) : ModeRadio where
  table := fun _ => Entry.mk plainRx plainTx
  rx := fun _ => RxProfile.setDouble plainRx .squelch squelch
  tx := plainTx
  hasTransmitter := true
  receivers := 1
  activeReceiver := 0
  split := false
  mode := fun _ => ⟨4, by decide⟩

def quiet : AudioDevices :=
  ⟨fun _ => false, fun _ => false⟩

theorem inCw_rx : (inCw 0).rx 0 = plainRx := by
  funext f
  by_cases hf : f = .double .squelch
  . subst hf
    rfl
  . exact Function.update_of_ne hf ..

-- the settings are those of every mode already
theorem plain_switchable (a : AudioDevices) (m : Fin modes) (htable : s.table = (inCw 0).table)
    (hrx : s.rx 0 = plainRx) (htx : s.tx = plainTx) (hloads : s.LoadsTx 0)
    : Switchable a s 0 m := by
  have hagreed : ∀ n, s.table.Agreed n := by
    intro n i _
    rw [htable]
    rfl
  have hentry : (s.setMode 0 m).entry 0 = Entry.mk plainRx plainTx := by
    unfold entry setMode
    rw [htable]
    rfl
  have htxEntry : (s.setMode 0 m).txEntry = Entry.mk plainRx plainTx := by
    unfold txEntry setMode
    rw [htable]
    rfl
  have hrx' : (s.setMode 0 m).rx 0 = plainRx := hrx
  have htx' : (s.setMode 0 m).tx = plainTx := htx
  constructor
  . constructor
    . have hflag : flag 0 = 0 := by
        unfold flag
        norm_num
      rw [hentry]
      exact hflag.symm
    . intro _
      rw [hentry, hrx']
      rfl
    . intro _
      exact hagreed _
    . intro _
      exact hagreed _
    . intro _ f _
      rw [htxEntry, htx']
      rfl
    . intro _
      left
      rw [hentry, hrx']
      rfl
    . intro _
      left
      rw [htxEntry, htx']
      rfl
  . intro _ hnot
    exact absurd hloads hnot

theorem inCw_loadedExactly
    : LoadedExactly (inCw 0) (profilesLoadRxtxProfile quiet (inCw 0) 0) 0 ∧
        LoadedExactly (inCw 0)
          (((inCw 0).vfoIdModeChanged quiet 0 ⟨1, by decide⟩).vfoIdModeChanged quiet 0
            ((inCw 0).mode 0)) 0 := by
  have hexact := profilesLoadRxtxProfile_exactly_iff quiet (inCw 0) 0 (by decide)
  have hloads : (inCw 0).LoadsTx 0 := by decide
  have haway : ∀ m, Switchable quiet (inCw 0) 0 m :=
    fun m => plain_switchable quiet m rfl inCw_rx rfl hloads
  have hhere : Loadable quiet (inCw 0) 0 := by
    have hmode : (inCw 0).setMode 0 ((inCw 0).mode 0) = inCw 0 := by
      unfold setMode
      rw [Function.update_eq_self]
    rw [← hmode]
    exact (haway _).loadable
  refine ⟨hexact.1.mpr hhere, hexact.2 _ (haway _) ?_⟩
  have hmoved := (haway ⟨1, by decide⟩).loadable.loadedExactly quiet (by decide)
  have hsame : SameRadio ((inCw 0).setMode 0 ⟨1, by decide⟩)
      (profilesLoadRxtxProfile quiet ((inCw 0).setMode 0 ⟨1, by decide⟩) 0) :=
    load_sameRadio quiet (by decide)
  rw [← (haway ⟨1, by decide⟩).vfoIdModeChanged_eq quiet (by decide)] at hmoved hsame
  have hloads' : ((inCw 0).setMode 0 ⟨1, by decide⟩).LoadsTx 0 := by decide
  apply plain_switchable
  . exact hmoved.table
  . funext f
    exact hmoved.rx f (Or.inl rfl)
  . funext f
    exact hmoved.tx hloads' f
  . exact ⟨hsame.hasTransmitter, hsame.vfoGetTxVfo.symm⟩

-- a squelch of 30 from another mode stays, where the mode has none
theorem not_loadedExactly_inCw
    : ¬ LoadedExactly (inCw 30) (profilesLoadRxtxProfile quiet (inCw 30) 0) 0 := by
  intro h
  have hsquelch := h.rx (.double .squelch) (Or.inl rfl)
  rw [load_rx quiet (by decide), rxLoaded_rx quiet (by decide)] at hsquelch
  have hkept : ((inCw 30).loadedSquelch 0) = 30 := loadedSquelch_zero
  have hzero : ((inCw 30).loadedSquelch 0) = 0 := hsquelch
  rw [hkept] at hzero
  norm_num at hzero

end ModeRadio

end Profiles
