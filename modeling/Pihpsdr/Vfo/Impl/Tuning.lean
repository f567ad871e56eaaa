import Pihpsdr.Vfo.Impl.Settings

/-!
Tuning: the functions `vfo_id_step`, `vfo_id_move`, `vfo_id_move_to` and `vfo_id_ctun_update`, and
the band that follows the frequency (`vfo_id_adjust_band`).
-/

-- division in C rounds to zero
def stepRound (freq nsteps step : Int) : Int :=
  ((freq + step.tdiv 2).tdiv step + nsteps) * step

namespace RadioState

-- the frequency is in the band or not more than 25 kHz away from it
def WithinBand (band : BandState) (f : Int) : Prop :=
  f + 25000 ≥ band.frequencyMin ∧ f - 25000 ≤ band.frequencyMax

instance (band : BandState) (f : Int) : Decidable (WithinBand band f) := by
  unfold WithinBand
  infer_instance

def vfoIdAdjustBand (s : RadioState) (v : Fin 2) (f : Int) : RadioState :=
  let b := (s.vfo v).band
  if WithinBand (s.bands b) f then
    s
  else
    let newBand := getBandFromFrequency s.config s.bands f
    if b ≠ newBand then
      let bandstack := (s.bands newBand).bandstack
      (s.setVfo v { s.vfo v with band := newBand, bandstack := bandstack.currentEntry })
        |>.radioApplyBandSettings true v
    else
      s

def setDial (s : RadioState) (id : Fin 2) (f : Int) : RadioState :=
  (s.setVfo id ((s.vfo id).setDial f)).vfoIdAdjustBand id f

def rxFrequencyChangedIfRunning (s : RadioState) (id : Fin 2) : RadioState :=
  if s.Running id then s.rxFrequencyChanged id else s

-- the other VFO in the satellite modes, where A and B move together or in opposite directions
def satFollow (s : RadioState) (id : Fin 2) (delta : Int) : RadioState :=
  let sid := 1 - id
  if s.satMode = satModeSat then
    (s.setDial sid ((s.vfo sid).dial + delta)).rxFrequencyChangedIfRunning sid
  else if s.satMode = satModeRsat then
    (s.setDial sid ((s.vfo sid).dial - delta)).rxFrequencyChangedIfRunning sid
  else
    s

-- the filter at `f` leaves the window around the frequency of the VFO
def LeavesWindow (s : RadioState) (id : Fin 2) (f : Int) : Prop :=
  let myrx := if s.Running id then id else s.config.activeReceiver
  let half := (s.config.sampleRate myrx).tdiv 2
  f + (s.receiver myrx).filterLow ≤ (s.vfo id).frequency - half
    ∨ f + (s.receiver myrx).filterHigh ≥ (s.vfo id).frequency + half

instance (s : RadioState) (id : Fin 2) (f : Int) : Decidable (s.LeavesWindow id f) := by
  unfold LeavesWindow
  infer_instance

def vfoIdStep (s : RadioState) (id : Fin 2) (st : Int) : RadioState :=
  if s.config.locked then
    s
  else
    let v := s.vfo id
    let f := stepRound v.dial st v.step
    if v.ctun ≠ 0 ∧ s.LeavesWindow id f then
      s
    else
      ((s.setDial id f).satFollow id (f - v.dial)).rxFrequencyChangedIfRunning id

-- without CTUN the spectrum is dragged, and with it the VFO moves in the other direction
def vfoIdMove (s : RadioState) (id : Fin 2) (hz : Int) (rounded : Bool) : RadioState :=
  if s.config.locked then
    s
  else
    let v := s.vfo id
    if v.ctun ≠ 0 ∧ s.LeavesWindow id (v.ctunFrequency + hz) then
      s
    else
      let f :=
        if v.ctun ≠ 0 then
          if rounded ∧ v.mode ≠ modeCwl ∧ v.mode ≠ modeCwu then
            stepRound (v.ctunFrequency + hz) 0 v.step
          else
            v.ctunFrequency + hz
        else if rounded then
          stepRound (v.frequency - hz) 0 v.step
        else
          v.frequency - hz
      ((s.setDial id f).satFollow id (f - v.dial)).rxFrequencyChangedIfRunning id

-- as `satFollow`, up to the frequency that the band is adjusted to in one of the branches
def satFollowTo (s : RadioState) (id : Fin 2) (delta : Int) : RadioState :=
  let sid := 1 - id
  let v := s.vfo sid
  if s.satMode = satModeSat ∧ v.ctun ≠ 0 then
    ((s.setVfo sid { v with ctunFrequency := v.ctunFrequency + delta }).vfoIdAdjustBand sid
      (s.vfo id).ctunFrequency).rxFrequencyChangedIfRunning sid
  else
    s.satFollow id delta

def vfoIdMoveTo (s : RadioState) (id : Fin 2) (f : Int) (rounded : Bool) : RadioState :=
  let v := s.vfo id
  let f := if rounded then stepRound f 0 v.step else f
  if s.config.locked then
    s
  else
    let s := (s.setDial id f).satFollowTo id (f - v.dial)
    if s.Running id then s.rxVfoChanged id else s

inductive TuneCommand where
  | step (st : Int)
  | move (hz : Int) (rounded : Bool)
  | moveTo (f : Int) (rounded : Bool)

def tune (s : RadioState) (id : Fin 2) : TuneCommand → RadioState
  | .step st => s.vfoIdStep id st
  | .move hz rounded => s.vfoIdMove id hz rounded
  | .moveTo f rounded => s.vfoIdMoveTo id f rounded

-- active notches keep their places in the passband
def moveNotches (rx : ReceiverState) (delta : Int) : ReceiverState :=
  { rx with
    multiNotchCenter := fun i =>
      if rx.multiNotchEnable i ≠ 0 then
        ClientServer.double (rx.multiNotchCenter i + delta)
      else
        rx.multiNotchCenter i }

def vfoIdCtunUpdate (s : RadioState) (id : Fin 2) (state : Int) : RadioState :=
  let v := s.vfo id
  if v.ctun = state then
    s
  else if state ≠ 0 then
    let s := s.setVfo id { v with ctun := state, ctunFrequency := v.frequency, offset := 0 }
    let s := s.vfoIdAdjustBand id v.frequency
    if s.Running id then s.rxSetFrequency id v.frequency else s
  else
    let s :=
      if s.Running id then
        s.setReceiver id (moveNotches (s.receiver id) (v.frequency - v.ctunFrequency))
      else
        s
    let s := s.setVfo id { v with ctun := state, frequency := v.ctunFrequency, offset := 0 }
    let s := s.vfoIdAdjustBand id v.ctunFrequency
    if s.Running id then s.rxSetFrequency id v.ctunFrequency else s

end RadioState
