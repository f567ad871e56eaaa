import Pihpsdr.Rigctl.Impl.Standard

/-!
The cases of `parse_extended_cmd` for the commands that start with `ZZ`, in the order of the source.
-/

namespace Rigctl

open Decimal (format)

-- the gain of the audio, as a volume in decibel
def afVolume (lib : CLibrary) (gain : Int) : ℚ :=
  if gain < 2 then -40 else 20 * lib.log10 (1 / 100 * gain)

def afCase (lib : CLibrary) (read : Rig → Outcome) (id : Int) : CatCase :=
  .readElse 4 read fun gain s => (s.radioSetAfGain id (afVolume lib gain), none)

def secondReceiver (s : Rig) : Bool :=
  s.receivers > 1

-- `ZZAD`, `ZZAU`, `ZZBM` and `ZZBP`
def moveCase (v : Fin 2) (sign : Int) : CatCase :=
  .setAt 4 6 fun index s =>
    s.setRadio (s.radio.vfoIdMove v (sign * vfoGetStepFromIndex index) false)

-- `ZZAE`, `ZZAF`, `ZZBE` and `ZZBF`
def stepsCase (v : Fin 2) (sign : Int) : CatCase :=
  .setAt 4 6 fun steps s => s.setRadio (s.radio.vfoIdStep v (sign * steps))

-- `ZZSA`, `ZZSB`, `ZZSG` and `ZZSH`
def oneStepCase (v : Fin 2) (step : Int) : CatCase :=
  .actAt 4 fun s => s.setRadio (s.radio.vfoIdStep v step)

def catZzac : CatCase :=
  .readSet 4 6
    (fun s => s.answerInt ['Z', 'Z', 'A', 'C'] 2 (vfoGetStepindex (s.radio.vfo 0).step))
    fun i s => s.setRadio (s.radio.vfoIdSetStepFromIndex 0 i)

def catZzad : CatCase :=
  moveCase 0 (-1)

def catZzae : CatCase :=
  stepsCase 0 (-1)

def catZzaf : CatCase :=
  stepsCase 0 1

def catZzag (lib : CLibrary) : CatCase :=
  afCase lib
    (fun s => s.answerInt ['Z', 'Z', 'A', 'G'] 3 (truncate (100 * lib.pow10 (1 / 20 * (s.rx 0).volume))))
    0

def catZzai : CatCase where
  branches := [
    .plain 4 fun s => s.answerInt ['Z', 'Z', 'A', 'I'] 0 s.client.autoReporting,
    .char 5 4 setAutoReporting]
  otherwise := Rig.unimplemented

-- `ZZAR` and `ZZAS`
def thresholdCase (name : List Char) (id : Fin 2) : CatCase :=
  .readElse 4
    (fun s => s.answer (codes name ++ format true 4 (truncate (s.radio.receiver id).agcGain)))
    fun threshold s => s.setRadio (s.radio.radioSetAgcGain id threshold)

def catZzar : CatCase :=
  thresholdCase ['Z', 'Z', 'A', 'R'] 0

def catZzas : CatCase :=
  (thresholdCase ['Z', 'Z', 'A', 'S'] 1).guarded secondReceiver Rig.unimplemented

def catZzau : CatCase :=
  moveCase 0 1

def catZzba : CatCase :=
  .actAt 4 fun s =>
    if secondReceiver s then s.setRadio (s.radio.bandMinus 1 bandRounds) else s.unimplemented

def catZzbb : CatCase :=
  .actAt 4 fun s =>
    if secondReceiver s then s.setRadio (s.radio.bandPlus 1 bandRounds) else s.unimplemented

def catZzbd : CatCase :=
  .actAt 4 fun s => s.setRadio (s.radio.bandMinus 0 bandRounds)

def catZzbe : CatCase :=
  stepsCase 1 (-1)

def catZzbf : CatCase :=
  stepsCase 1 1

def catZzbm : CatCase :=
  moveCase 1 (-1)

def catZzbp : CatCase :=
  moveCase 1 1

def band20 : BandIndex := 7

-- the bands that have a number in `ZZBS` and `ZZBT`
def bandCodes : List (Int × BandIndex) :=
  [(136, 0), (472, 1), (160, 2), (80, 3), (60, band60), (40, 5), (30, 6), (20, band20), (17, 8),
    (15, 9), (12, 10), (10, 11), (6, 12), (888, bandGen), (999, bandWwv)]

def codeOfBand (band : BandIndex) : Int :=
  match bandCodes.find? fun p => decide (p.2 = band) with
  | some p => p.1
  | none => 20

def bandOfCode (b : Int) : BandIndex :=
  match bandCodes.find? fun p => decide (p.1 = b) with
  | some p => p.2
  | none => band20

def bandCase (name : List Char) (v : Fin 2) : CatCase :=
  .readSet 4 7 (fun s => s.answerInt name 3 (codeOfBand (s.radio.vfo v).band))
    fun b s => s.setRadio (s.radio.vfoIdBandChanged v (bandOfCode b))

def catZzbs : CatCase :=
  bandCase ['Z', 'Z', 'B', 'S'] 0

def catZzbt : CatCase :=
  bandCase ['Z', 'Z', 'B', 'T'] 1

def catZzbu : CatCase :=
  .actAt 4 fun s => s.setRadio (s.radio.bandPlus 0 bandRounds)

-- accepted, but nothing is done
def catZzby : CatCase where
  branches := []
  otherwise := Rig.silent

-- `ZZCN` and `ZZCO`
def ctunCase (name : List Char) (v : Fin 2) : CatCase :=
  .readSet 4 5 (fun s => s.answerInt name 0 (s.radio.vfo v).ctun)
    fun state s => s.setRadio (s.radio.vfoIdCtunUpdate v state)

def catZzcn : CatCase :=
  ctunCase ['Z', 'Z', 'C', 'N'] 0

def catZzco : CatCase :=
  ctunCase ['Z', 'Z', 'C', 'O'] 1

def catZzfa : CatCase :=
  frequencyCase ['Z', 'Z', 'F', 'A'] 0

def catZzfb : CatCase :=
  frequencyCase ['Z', 'Z', 'F', 'B'] 1

def catZzfh : CatCase :=
  .readSet 4 9 (fun s => s.answerInt ['Z', 'Z', 'F', 'H'] 5 (s.radio.receiver 0).filterHigh)
    fun x s => s.setRadio (s.radio.zzfhSet x)

def catZzfl : CatCase :=
  .readSet 4 9 (fun s => s.answerInt ['Z', 'Z', 'F', 'L'] 5 (s.radio.receiver 0).filterLow)
    fun x s => s.setRadio (s.radio.zzflSet x)

-- `ZZGT` and `ZZGU`
def agcCase (name : List Char) (id : Fin 2) : CatCase :=
  .readSet 4 5 (fun s => s.answerInt name 0 (s.radio.receiver id).agc)
    fun agc s => s.setRadio (s.radio.setAgc id agc)

def catZzgt : CatCase :=
  agcCase ['Z', 'Z', 'G', 'T'] 0

def catZzgu : CatCase :=
  (agcCase ['Z', 'Z', 'G', 'U'] 1).guarded secondReceiver Rig.silent

def catZzla (lib : CLibrary) : CatCase :=
  afCase lib (fun s => s.answerInt ['Z', 'Z', 'L', 'A'] 3 (truncate ((s.rx 0).volume * 100))) 0

def catZzlc (lib : CLibrary) : CatCase :=
  (afCase lib
    (fun s => s.answerInt ['Z', 'Z', 'L', 'C'] 3 (truncate (255 * lib.pow10 (1 / 20 * (s.rx 1).volume))))
    1).guarded secondReceiver Rig.silent

def catZzli : CatCase :=
  (CatCase.readElse 4 (fun s => s.answerInt ['Z', 'Z', 'L', 'I'] 0 s.tx.puresignal)
    fun x s => s.call (.txPsOnoff x)).guarded Rig.hasTransmitter Rig.silent

def muteRead (id : Int) (s : Rig) : Outcome :=
  s.answerInt ['Z', 'Z', 'M', 'A'] 0 (s.rx id).muteRadio

def muteSet (id : Int) (mute : Int) (s : Rig) : Outcome :=
  (s.setRx id { s.rx id with muteRadio := mute }, none)

def catZzma : CatCase :=
  .readElse 4 (muteRead 0) (muteSet 0)

-- the reply has the name of `ZZMA`
def catZzmb : CatCase :=
  (CatCase.readElse 4 (muteRead 1) (muteSet 1)).guarded secondReceiver Rig.silent

def modeRead (v : Fin 2) (s : Rig) : Outcome :=
  s.answerInt ['Z', 'Z', 'M', 'D'] 2 (s.radio.vfo v).mode

def modeSet (mode : Int) (s : Rig) : Outcome :=
  s.setRadio (s.radio.vfoIdModeChanged 0 mode)

def catZzmd : CatCase :=
  .readSet 4 6 (modeRead 0) modeSet

-- the reply has the name of `ZZMD`, and the mode is set for the first VFO
def catZzme : CatCase :=
  .readSet 4 6 (modeRead 1) modeSet

def catZzmg : CatCase :=
  (CatCase.readSet 4 7
    (fun s => s.answerInt ['Z', 'Z', 'M', 'G'] 3 (truncate ((s.tx.micGain + 12) * (1129 / 1000))))
    fun x s => (s.radioSetMicGain (x * (8857 / 10000) - 12), none)).guarded
    Rig.hasTransmitter Rig.unimplemented

def catZzsa : CatCase :=
  oneStepCase 0 (-1)

def catZzsb : CatCase :=
  oneStepCase 0 1

def catZzsg : CatCase :=
  oneStepCase 1 (-1)

def catZzsh : CatCase :=
  oneStepCase 1 1

def catZztx : CatCase :=
  .readSet 4 5 (fun s => s.answerInt ['Z', 'Z', 'T', 'X'] 0 s.mox)
    fun x s => if x ≠ 0 then s.call (.radioSetMox 1) else s.call .moxOffLater

-- in the documentation this is `ZZUT`
def catZzuu : CatCase :=
  (CatCase.readSet 4 5 (fun s => s.answerInt ['Z', 'Z', 'U', 'T'] 0 s.tx.twotone)
    fun x s => s.call (.txSetTwotone x)).guarded Rig.hasTransmitter Rig.silent

def catZzvs : CatCase where
  branches := [.anyAtoi 4 fun i s =>
    if i = 0 then s.setRadio s.radio.vfoAToB
    else if i = 1 then s.setRadio s.radio.vfoBToA
    else s.setRadio s.radio.vfoASwapB]
  otherwise := Rig.silent

def zzxvStatus (s : Rig) : Int :=
  let bit (b : Bool) (weight : Int) : Int := if b then weight else 0
  let vfo := s.radio.vfo
  bit ((vfo 0).ritEnabled ≠ 0) 0x01 + bit (s.locked ≠ 0) 0x02 + bit (s.locked ≠ 0) 0x04
    + bit (s.radio.split ≠ 0) 0x08 + bit ((vfo 0).ctun ≠ 0) 0x10 + bit ((vfo 1).ctun ≠ 0) 0x20
    + bit (s.mox ≠ 0) 0x40 + bit (s.hasTransmitter ∧ s.tx.tune ≠ 0) 0x80
    + bit ((vfo s.radio.txVfo).xitEnabled ≠ 0) 0x100

def catZzxv : CatCase :=
  .actAt 4 fun s => s.answerInt ['Z', 'Z', 'X', 'V'] 3 (zzxvStatus s)

def catZzyr : CatCase :=
  .readSet 4 5
    (fun s => s.answerInt ['Z', 'Z', 'Y', 'R'] 1 s.radio.config.activeReceiver.val)
    fun v s =>
      if 0 ≤ v ∧ v < s.receivers then s.call (.scheduleRx (if v = 0 then 0 else 1))
      else s.unimplemented

-- the two digits of the ANDROMEDA commands are not checked
def twoDigits (c4 c5 : CChar) : Int :=
  10 * (c4 - 48) + (c5 - 48)

def catZzza : CatCase where
  branches := [.plain 6 Rig.silent]
  otherwise := Rig.unimplemented

-- the first 31 entries of the table are for small numbers, the last one for all the others
def dialSteps (s : Rig) (steps : Int) : Int :=
  if steps ≤ 30 then s.speedup steps else steps * s.speedup 31

-- `ZZZD` and `ZZZU`
def dialBranch (sign : Int) : CatBranch where
  test := some 6
  args := [.char 4, .char 5]
  run := fun args s =>
    s.call (.scheduleVfo (sign * dialSteps s (twoDigits (args.getD 0 0) (args.getD 1 0))))

def catZzzd : CatCase where
  branches := [dialBranch (-1)]
  otherwise := Rig.unimplemented

def catZzze : CatCase where
  branches := [
    { test := some 7
      args := [.char 4, .char 5, .char 6]
      run := fun args s =>
        let p := twoDigits (args.getD 0 0) (args.getD 1 0)
        let v := args.getD 2 0 - 48
        let (p, v) := if p > 50 then (p - 50, -v) else (p, v)
        if v = 0 then s.silent else s.call (.executeEncoder s.client.andromedaType p v) }]
  otherwise := Rig.unimplemented

-- a panel of the first type does not need the last report of a button
def zzzpSet (p v : Int) (s : Rig) : Outcome :=
  let c := RigCall.executeButton s.client.andromedaType p v s.client.lastV
  if s.client.andromedaType = 1 then
    s.call c
  else
    ({ s with client := { s.client with lastV := v } } : Rig).call c

def catZzzp : CatCase where
  branches := [
    { test := some 7
      args := [.char 4, .char 5, .char 6]
      run := fun args => zzzpSet (twoDigits (args.getD 0 0) (args.getD 1 0)) (args.getD 2 0 - 48) }]
  otherwise := Rig.unimplemented

def zzzsSet (andromedaType : Int) (s : Rig) : Outcome :=
  let s := { s with client := { s.client with andromedaType := andromedaType } }
  if andromedaType = 4 ∨ andromedaType = 5 then s.call (.g2panelDefaults andromedaType) else s.silent

def catZzzs : CatCase where
  branches := [
    { test := some 11
      args := [.char 4, .char 5]
      run := fun args => zzzsSet (twoDigits (args.getD 0 0) (args.getD 1 0)) }]
  otherwise := Rig.silent

def catZzzu : CatCase where
  branches := [dialBranch 1]
  otherwise := Rig.silent

end Rigctl
