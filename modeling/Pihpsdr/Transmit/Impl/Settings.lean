import Mathlib.Data.Rat.Init
import Mathlib.Logic.Function.Basic
import Pihpsdr.Radio.Band
import Pihpsdr.Lib.Indices

/-!
The settings of the transmitter that are stored with its mode: the table `RXTXprofile` of `profiles.c` and
the functions of `transmitter.c` which pass the settings on to the DSP and store them in this table.
-/

namespace Transmit

structure CompressorSettings where
  compressor : Bool
  compressorLevel : ℚ
  cfc : Bool
  cfcEq : Bool
  cfcFreq : Fin 11 → ℚ
  cfcLvl : Fin 11 → ℚ
  cfcPost : Fin 11 → ℚ

structure PhrotSettings where
  phrotEnable : Bool
  phrotReverse : Bool
  phrotStages : Int
  phrotCorner : ℚ

structure DexpSettings where
  dexp : Bool
  dexpFilter : Bool
  dexpTau : ℚ
  dexpAttack : ℚ
  dexpRelease : ℚ
  dexpHold : ℚ
  dexpHyst : ℚ
  dexpTrigger : Int
  dexpFilterLow : Int
  dexpFilterHigh : Int
  dexpExp : Int

structure EqualizerSettings where
  eqEnable : Bool
  eqFreq : Fin 11 → ℚ
  eqGain : Fin 11 → ℚ

structure FilterSettings where
  useRxFilter : Bool
  defaultFilterLow : Int
  defaultFilterHigh : Int

-- the fields that the structures `_txprofile` and `_transmitter` share, without the local audio
structure TxProfile where
  comp : CompressorSettings
  phrot : PhrotSettings
  dexp : DexpSettings
  eq : EqualizerSettings
  filter : FilterSettings
  micGain : ℚ
  pttDelay : Int

-- an entry of `RXTXprofile`, `ρ` are its other fields
structure RxtxEntry (ρ : Type) where
  rx : ρ
  tx : TxProfile

structure CompressorDsp where
  levelerSt : Bool
  levelerAttack : Int
  levelerDecay : Int
  levelerTop : ℚ
  cfcompFreq : Fin 10 → ℚ
  cfcompLvl : Fin 10 → ℚ
  cfcompPost : Fin 10 → ℚ
  cfcompPrecomp : ℚ
  cfcompPrePeq : ℚ
  cfcompRun : Bool
  cfcompPeqRun : Bool
  osctrlRun : Bool
  compressorGain : ℚ
  compressorRun : Bool

structure PhrotDsp where
  phrotCorner : ℚ
  phrotNstages : Int
  phrotReverse : Bool
  phrotRun : Bool

structure DexpDsp where
  dexpDetectorTau : ℚ
  dexpAttackTime : ℚ
  dexpReleaseTime : ℚ
  dexpHoldTime : ℚ
  dexpExpansionRatio : ℚ
  dexpHysteresisRatio : ℚ
  dexpAttackThreshold : ℚ
  dexpLowCut : Int
  dexpHighCut : Int
  dexpRunSideChannelFilter : Bool
  dexpRun : Bool

structure TxDsp where
  comp : CompressorDsp
  phrot : PhrotDsp
  dexp : DexpDsp
  eqFreq : Fin 11 → ℚ
  eqGain : Fin 11 → ℚ
  eqRun : Bool
  panelGain1 : ℚ
  mode : Mode

/--
The settings of the transmitter, the table of the settings stored with each mode, and what the DSP has
been told.
-/
structure TxState (ρ : Type) where
  tx : TxProfile
  profile : Mode → RxtxEntry ρ
  dsp : TxDsp

end Transmit

-- modes of the same group share their entry of `RXTXprofile`
def Mode.group : Mode → Mode
  | .cwu => .cwu
  | .cwl => .cwu
  | .digu => .digu
  | .digl => .digu
  | .lsb => .usb
  | .usb => .usb
  | .dsb => .usb
  | m => m

namespace Transmit

def profilesCopyRxtxprofile {ρ : Type} (profile : Mode → RxtxEntry ρ) (mode : Mode)
    : Mode → RxtxEntry ρ :=
  fun m => if m.group = mode.group then profile mode else profile m

namespace CompressorSettings

def osctrl (c : CompressorSettings) : Bool :=
  c.compressor && 11 / 2 < c.compressorLevel

def dsp (c : CompressorSettings) : CompressorDsp where
  levelerSt := c.compressor || c.cfc
  levelerAttack := 1
  levelerDecay := 500
  levelerTop := 8
  cfcompFreq := fun i => c.cfcFreq i.succ
  cfcompLvl := fun i => c.cfcLvl i.succ
  cfcompPost := fun i => c.cfcPost i.succ
  cfcompPrecomp := c.cfcLvl 0
  cfcompPrePeq := c.cfcPost 0
  cfcompRun := c.cfc
  cfcompPeqRun := c.cfcEq
  osctrlRun := c.osctrl
  compressorGain := c.compressorLevel
  compressorRun := c.compressor

end CompressorSettings

def PhrotSettings.dsp (p : PhrotSettings) : PhrotDsp where
  phrotCorner := p.phrotCorner
  phrotNstages := p.phrotStages
  phrotReverse := p.phrotReverse
  phrotRun := p.phrotEnable

-- `pow10` stands for `pow(10.0, x)`
def DexpSettings.dsp (pow10 : ℚ → ℚ) (d : DexpSettings) : DexpDsp where
  dexpDetectorTau := d.dexpTau
  dexpAttackTime := d.dexpAttack
  dexpReleaseTime := d.dexpRelease
  dexpHoldTime := d.dexpHold
  dexpExpansionRatio := pow10 (d.dexpExp / 20)
  dexpHysteresisRatio := d.dexpHyst
  dexpAttackThreshold := pow10 (d.dexpTrigger / 20)
  dexpLowCut := d.dexpFilterLow
  dexpHighCut := d.dexpFilterHigh
  dexpRunSideChannelFilter := d.dexpFilter
  dexpRun := d.dexp

namespace TxState

variable {ρ : Type} (pow10 : ℚ → ℚ)

-- what all setters do with the entry of the mode of the transmitter
def store (s : TxState ρ) (txMode : Mode) (f : TxProfile → TxProfile) : TxState ρ :=
  let entry := s.profile txMode
  { s with
    profile := profilesCopyRxtxprofile
      (Function.update s.profile txMode { entry with tx := f entry.tx }) txMode }

def txSetCompressor (s : TxState ρ) (txMode : Mode) : TxState ρ :=
  let s := s.store txMode ({ · with comp := s.tx.comp })
  { s with dsp := { s.dsp with comp := s.tx.comp.dsp } }

def txSetPhrot (s : TxState ρ) (txMode : Mode) : TxState ρ :=
  let s := s.store txMode ({ · with phrot := s.tx.phrot })
  { s with dsp := { s.dsp with phrot := s.tx.phrot.dsp } }

def txSetDexp (s : TxState ρ) (txMode : Mode) : TxState ρ :=
  let s := s.store txMode ({ · with dexp := s.tx.dexp })
  { s with dsp := { s.dsp with dexp := s.tx.dexp.dsp pow10 } }

def txSetEqualizer (s : TxState ρ) (txMode : Mode) : TxState ρ :=
  let s := s.store txMode ({ · with eq := s.tx.eq })
  { s with
    dsp :=
      { s.dsp with eqFreq := s.tx.eq.eqFreq, eqGain := s.tx.eq.eqGain, eqRun := s.tx.eq.eqEnable } }

def txSetMicGain (s : TxState ρ) (txMode : Mode) : TxState ρ :=
  let s := s.store txMode ({ · with micGain := s.tx.micGain })
  { s with dsp := { s.dsp with panelGain1 := pow10 (s.tx.micGain / 20) } }

-- the filter edges follow from the settings and are not kept here
def txSetFilter (s : TxState ρ) (txMode : Mode) : TxState ρ :=
  s.store txMode ({ · with filter := s.tx.filter })

def txSetMode (s : TxState ρ) (txMode mode : Mode) : TxState ρ :=
  { s with dsp := { s.dsp with mode := mode } }.txSetFilter txMode

def radioSetMicGain (s : TxState ρ) (txMode : Mode) (value : ℚ) : TxState ρ :=
  { s with tx := { s.tx with micGain := value } }.txSetMicGain pow10 txMode

-- the microphone gain is stored in between, and what follows reads the table again
def profilesLoadTxProfile (s : TxState ρ) (txMode m : Mode) : TxState ρ :=
  let p := (s.profile m).tx
  let s := { s with
    tx := { s.tx with
      pttDelay := p.pttDelay
      eq := { s.tx.eq with eqEnable := p.eq.eqEnable }
      comp := { s.tx.comp with
        compressor := p.comp.compressor
        compressorLevel := p.comp.compressorLevel } } }
  let s := s.radioSetMicGain pow10 txMode p.micGain
  let p := (s.profile m).tx
  let s := { s with
    tx := { s.tx with
      dexp := p.dexp
      comp := { s.tx.comp with
        cfc := p.comp.cfc
        cfcEq := p.comp.cfcEq
        cfcFreq := p.comp.cfcFreq
        cfcLvl := p.comp.cfcLvl
        cfcPost := p.comp.cfcPost }
      filter := p.filter
      phrot := p.phrot
      eq := { s.tx.eq with eqFreq := p.eq.eqFreq, eqGain := p.eq.eqGain } } }
  let s := (s.txSetFilter txMode).txSetCompressor txMode
  ((s.txSetDexp pow10 txMode).txSetEqualizer txMode).txSetPhrot txMode

-- the same settings for all modes, and the DSP has been told them
def inSync (tx : TxProfile) (mode : Mode) : TxState Unit where
  tx := tx
  profile := fun _ => ⟨(), tx⟩
  dsp :=
    { comp := tx.comp.dsp
      phrot := tx.phrot.dsp
      dexp := tx.dexp.dsp pow10
      eqFreq := tx.eq.eqFreq
      eqGain := tx.eq.eqGain
      eqRun := tx.eq.eqEnable
      panelGain1 := pow10 (tx.micGain / 20)
      mode := mode }

end TxState

end Transmit
