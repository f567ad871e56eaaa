import Pihpsdr.Rigctl.Impl.Command

/-!
The cases of `parse_cmd` for the commands with two letters, in the order of the source. Display
updates are left out.
-/

namespace Rigctl

open Decimal (format)

-- the macro `SET` for a comparison with the character `1`
def setOne (c : CChar) : Int :=
  if c = 49 then 1 else 0

def wdspmode (kmode : Int) : Int :=
  if kmode = 1 then modeLsb
  else if kmode = 2 then modeUsb
  else if kmode = 3 then modeCwu
  else if kmode = 4 then modeFmn
  else if kmode = 5 then modeAm
  else if kmode = 6 then modeDigl
  else if kmode = 7 then modeCwl
  else if kmode = 9 then modeDigu
  else modeLsb

def ts2000Mode (wmode : Int) : Int :=
  if wmode = modeLsb then 1
  else if wmode = modeUsb then 2
  else if wmode = modeCwl then 7
  else if wmode = modeCwu then 3
  else if wmode = modeFmn then 4
  else if wmode = modeAm ∨ wmode = modeSam then 5
  else if wmode = modeDigl then 6
  else if wmode = modeDigu then 9
  else 1

-- the filter of VFO A
def filterOfVfoA (s : RadioState) : FilterEdges :=
  s.config.filters (s.vfo 0).mode (s.vfo 0).filter

-- the number of the first water mark that is not below an edge
def waterIndex (marks : List Int) (x : Int) : Int :=
  (marks.dropLast.findIdx fun mark => decide (x ≤ mark) : Nat)

def bandRounds : Nat :=
  numBands + numXvtrs

namespace Rig

variable (lib : CLibrary)

-- the reply `name` followed by a number with leading zeros
def answerInt (s : Rig) (name : List Char) (width : Nat) (x : Int) : Outcome :=
  s.answer (codes name ++ format false width x)

def setVfoA (s : Rig) (v : VfoState) : Outcome :=
  s.setRadio (s.radio.setVfo 0 v)

def setRx0 (s : Rig) (rx : RigReceiver) : Outcome :=
  (s.setRx 0 rx, none)

end Rig

def catShutdown : CatCase where
  branches := [.plain 2 fun s => s.call .radioShutdown]
  otherwise := Rig.unimplemented

def catAg (lib : CLibrary) : CatCase where
  branches := [
    { test := some 3
      args := [.char 2]
      run := fun args s =>
        let id := setOne (args.getD 0 0)
        if id < s.receivers then
          s.answer (codes ['A', 'G'] ++ format false 1 id
            ++ format false 3 (truncate (255 * lib.pow10 (1 / 20 * (s.rx id).volume))))
        else
          s.silent },
    { test := some 6
      args := [.char 2, .atoi 3]
      run := fun args s =>
        let id := setOne (args.getD 0 0)
        let gain := args.getD 1 0
        let vol := if gain < 3 then -40 else 20 * lib.log10 (gain / 255)
        (s.radioSetAfGain id vol, none) }]
  otherwise := Rig.silent

-- a level of automatic reporting out of range is moved into it
def setAutoReporting (c : CChar) (s : Rig) : Outcome :=
  ({ s with client := { s.client with autoReporting := min 3 (max 0 (c - 48)) } }, none)

def catAi : CatCase where
  branches := [
    .plain 2 fun s => s.answerInt ['A', 'I'] 0 s.client.autoReporting,
    .char 3 2 setAutoReporting]
  otherwise := Rig.silent

def catBd : CatCase :=
  .act fun s => s.setRadio (s.radio.bandMinus 0 bandRounds)

def catBu : CatCase :=
  .act fun s => s.setRadio (s.radio.bandPlus 0 bandRounds)

def catCn : CatCase where
  branches := [
    .plain 2 fun s => s.withTransmitter fun tx => s.answerInt ['C', 'N'] 2 (tx.ctcss + 1),
    .atoi 4 2 fun x s => s.withTransmitter fun tx => s.txSetCtcss { tx with ctcss := x - 1 }]
  otherwise := Rig.silent

def catCt : CatCase where
  branches := [
    .plain 2 fun s => s.withTransmitter fun tx => s.answerInt ['C', 'T'] 0 tx.ctcssEnabled,
    .char 3 2 fun c s =>
      s.withTransmitter fun tx => s.txSetCtcss { tx with ctcssEnabled := setOne c }]
  otherwise := Rig.silent

def catDn : CatCase :=
  .act fun s => s.setRadio (s.radio.vfoIdStep 0 (-1))

-- `FA`, `FB`, `ZZFA` and `ZZFB`
def frequencyCase (name : List Char) (v : Fin 2) : CatCase where
  branches := [
    .plain name.length fun s => s.answerInt name 11 (s.radio.vfo v).dial,
    .atoll (name.length + 11) name.length fun f s => s.setRadio (s.radio.vfoIdSetFrequency v f)]
  otherwise := Rig.silent

def catFa : CatCase :=
  frequencyCase ['F', 'A'] 0

def catFb : CatCase :=
  frequencyCase ['F', 'B'] 1

def catFr : CatCase where
  branches := [
    .plain 2 fun s => s.answerInt ['F', 'R'] 0 s.radio.config.activeReceiver.val,
    .char 3 2 fun c s =>
      let id := setOne c
      if s.receivers > id then s.call (.scheduleRx id) else s.silent]
  otherwise := Rig.silent

def catFt : CatCase where
  branches := [
    .plain 2 fun s => s.answerInt ['F', 'T'] 0 s.radio.split,
    .char 3 2 fun c s => s.setRadio (s.radio.radioSetSplit (setOne c))]
  otherwise := Rig.silent

def fwRead (s : Rig) : Outcome :=
  let mode := (s.radio.vfo 0).mode
  let filter := filterOfVfoA s.radio
  if IsCw mode then
    s.answerInt ['F', 'W'] 4 (filter.low * 2)
  else if IsAm mode then
    s.answerInt ['F', 'W'] 4 (if filter.low ≥ -4000 then 1 else 0)
  else if mode = modeFmn then
    s.answerInt ['F', 'W'] 4 (if (s.radio.vfo 0).deviation = 5000 then 1 else 0)
  else
    s.unimplemented

def fwSet (x : Int) (s : Rig) : Outcome :=
  let mode := (s.radio.vfo 0).mode
  let s := { s with radio := s.radio.fwSet x }
  if IsCw mode ∨ mode = modeFmn ∨ IsAm mode then s.silent else s.unimplemented

def catFw : CatCase :=
  .readSet 2 6 fwRead fwSet

def catGt : CatCase :=
  .readSet 2 5 (fun s => s.answerInt ['G', 'T'] 3 ((s.radio.receiver 0).agc * 5))
    fun x s => s.setRadio (s.radio.setAgc 0 (x.tdiv 5))

def catId : CatCase :=
  .act fun s => s.answer (codes ['I', 'D', '0', '1', '9'])

def ifRead (s : Rig) : Outcome :=
  let v := s.radio.vfo 0
  let (txXitEn, txCtcss, txCtcssEn) : Int × Int × Int :=
    match s.radio.transmitter with
    | some tx => ((s.radio.vfo s.radio.txVfo).xitEnabled, tx.ctcss + 1, tx.ctcssEnabled)
    | none => (0, 0, 0)
  s.answer (codes ['I', 'F'] ++ format false 11 v.dial ++ format false 4 v.step
    ++ format true 6 v.rit ++ format false 0 v.ritEnabled ++ format false 0 txXitEn
    ++ format false 0 0 ++ format false 2 0 ++ format false 0 (if s.transmitting then 1 else 0)
    ++ format false 0 (ts2000Mode v.mode) ++ format false 0 0 ++ format false 0 0
    ++ format false 0 s.radio.split ++ format false 0 (if txCtcssEn ≠ 0 then 2 else 0)
    ++ format false 2 txCtcss ++ format false 0 0)

def catIf : CatCase :=
  .act ifRead

-- a speed out of range is ignored
def ksSet (speed : Int) (s : Rig) : Outcome :=
  if 1 ≤ speed ∧ speed ≤ 60 then ({ s with cwKeyerSpeed := speed }, none) else s.silent

def catKs : CatCase :=
  .readSet 2 5 (fun s => s.answerInt ['K', 'S'] 3 s.cwKeyerSpeed) ksSet

-- the text without the blanks at its end, but at least one character
def kyQueue (first : CChar) (text : List CChar) : List CChar :=
  let stripped := (text.reverse.dropWhile fun c => decide (c = 32)).reverse
  if stripped = [] then [first] else stripped

def kyRead (s : Rig) : Outcome :=
  let avail := Ring.fill 512 s.cwBufIn s.cwBufOut
  s.answerInt ['K', 'Y'] 0 (if avail < 512 - 24 then 0 else 1)

def catKy : CatCase where
  branches := [
    .plain 2 kyRead,
    { test := none
      args := [.char 3, .text 3]
      run := fun args s =>
        ((kyQueue (args.getD 0 0) (args.drop 1)).foldl Rig.queueCwChar s, none) }]
  otherwise := Rig.silent

def catLk : CatCase :=
  .readSet 2 4
    (fun s => s.answer (codes ['L', 'K'] ++ format false 0 s.locked ++ format false 0 s.locked))
    fun x s => (s.setLocked x, none)

def catMd : CatCase :=
  .readSet 2 3 (fun s => s.answerInt ['M', 'D'] 0 (ts2000Mode (s.radio.vfo 0).mode))
    fun x s => s.setRadio (s.radio.vfoIdModeChanged 0 (wdspmode x))

def catMg : CatCase :=
  (CatCase.readSet 2 5 (fun s => s.answerInt ['M', 'G'] 3 (truncate ((s.tx.micGain + 12) / 62 * 100)))
    fun x s => (s.radioSetMicGain (min 50 (max (-12) (x / 100 * 62 - 12))), none)).guarded
    Rig.hasTransmitter Rig.unimplemented

def catNb : CatCase :=
  .readSet 2 3 (fun s => s.answerInt ['N', 'B'] 0 (s.rx 0).nb)
    fun x s => s.setRx0 { s.rx 0 with nb := x }

def catNr : CatCase :=
  .readSet 2 3 (fun s => s.answerInt ['N', 'R'] 0 (s.rx 0).nr)
    fun x s => s.setRx0 { s.rx 0 with nr := x }

def catNt : CatCase :=
  .readSet 2 3 (fun s => s.answerInt ['N', 'T'] 0 (s.rx 0).anf)
    fun x s => s.setRx0 { s.rx 0 with anf := x }

def catPa : CatCase where
  branches := [
    .plain 2 fun s =>
      s.answer (codes ['P', 'A']
        ++ format false 0 ((s.radio.adc (s.radio.config.rxAdc 0)).int .preamp) ++ codes ['0']),
    .char 4 2 fun c s =>
      s.setRadio { s.radio with
        adc := s.radio.adc.setInt (s.radio.config.rxAdc 0) .preamp (setOne c) }]
  otherwise := Rig.silent

def catPc : CatCase :=
  (CatCase.readSet 2 5 (fun s => s.answerInt ['P', 'C'] 3 (truncate s.tx.drive))
    fun x s => (s.radioSetDrive x, none)).guarded Rig.hasTransmitter Rig.silent

def catPl : CatCase :=
  (CatCase.mk [
    .plain 2 fun s =>
      s.answer (codes ['P', 'L'] ++ format false 3 (truncate (5 * s.tx.compressorLevel))
        ++ codes ['0', '0', '0']),
    { test := some 8
      args := [.atoiTo 2 5]
      run := fun args s =>
        ({ s with tx := { s.tx with compressorLevel := 1 / 5 * (args.getD 0 0 : Int) } }, none) }]
    Rig.silent).guarded Rig.hasTransmitter Rig.silent

def catPs : CatCase :=
  .readSet 2 3 (fun s => s.answer (codes ['P', 'S', '1']))
    fun x s => if x = 0 then s.call .radioShutdown else s.silent

def raRead (s : Rig) : Outcome :=
  let adc := s.radio.adc (s.radio.config.rxAdc 0)
  let result := if s.radio.config.haveRxGain then truncate ((adc.double .gain + 12) / 60 * 99) else 0
  let result :=
    if s.radio.config.haveRxAtt then truncate ((adc.int .attenuation : ℚ) / 31 * 99) else result
  s.answer (codes ['R', 'A'] ++ format false 2 (max 0 result) ++ codes ['0', '0'])

def raSet (x : Int) (s : Rig) : Outcome :=
  let val : ℚ := x / 99
  let (val, radio) :=
    if s.radio.config.haveRxGain then
      (val * 60 - 12, s.radio.radioSetRfGain 0 (val * 60 - 12))
    else
      (val, s.radio)
  if s.radio.config.haveRxAtt then
    s.setRadio (radio.radioSetAttenuation 0 (truncate (val * 31)))
  else
    s.setRadio radio

def catRa : CatCase :=
  .readSet 2 4 raRead raSet

def catRc : CatCase :=
  .actAt 2 fun s => s.setVfoA { s.radio.vfo 0 with rit := 0 }

-- the step of `RU` and `RD` without an argument
def ritStep (v : VfoState) : Int :=
  if IsCw v.mode then 10 else 50

def catRd : CatCase :=
  .readSet 2 7
    (fun s =>
      let v := s.radio.vfo 0
      s.setVfoA { v with rit := v.rit - ritStep v })
    fun x s => s.setVfoA { s.radio.vfo 0 with rit := -x }

def catRt : CatCase :=
  .readSet 2 3 (fun s => s.answerInt ['R', 'T'] 0 (s.radio.vfo 0).ritEnabled)
    fun x s => s.setVfoA { s.radio.vfo 0 with ritEnabled := x }

def catRu : CatCase :=
  .readSet 2 7
    (fun s =>
      let v := s.radio.vfo 0
      s.setVfoA { v with rit := v.rit + ritStep v })
    fun x s => s.setVfoA { s.radio.vfo 0 with rit := x }

def catRx : CatCase :=
  .actAt 2 fun s => s.call .moxOffLater

def saRead (s : Rig) : Outcome :=
  let sat := s.radio.satMode
  let bit (b : Bool) : List CChar := format false 0 (if b then 1 else 0)
  s.answer (codes ['S', 'A'] ++ bit (sat = satModeSat ∨ sat = satModeRsat) ++ bit false ++ bit false
    ++ bit false ++ bit (sat = satModeSat) ++ bit (sat = satModeRsat) ++ bit false
    ++ codes ['S', 'A', 'T', ' ', ' ', ' ', ' ', ' '])

def radioSetSatmode (s : Rig) (mode : Int) : Outcome :=
  s.setRadio { s.radio with satMode := mode }

-- the first character, and for the mode the fifth and the sixth one
def saSet (c2 c6 c7 : CChar) (s : Rig) : Outcome :=
  if c2 = 48 then
    radioSetSatmode s satModeNone
  else if c2 = 49 then
    if c6 = 48 ∧ c7 = 48 then radioSetSatmode s satModeNone
    else if c6 = 49 ∧ c7 = 48 then radioSetSatmode s satModeSat
    else if c6 = 48 ∧ c7 = 49 then radioSetSatmode s satModeRsat
    else s.unimplemented
  else
    s.silent

def catSa : CatCase where
  branches := [
    .plain 2 saRead,
    { test := some 9
      args := [.char 2, .char 6, .char 7]
      run := fun args => saSet (args.getD 0 0) (args.getD 1 0) (args.getD 2 0) }]
  otherwise := Rig.unimplemented

def sdSet (x : Int) (s : Rig) : Outcome :=
  let b := min x 1000
  ({ s with cwBreakin := if b = 0 then 1 else 0, cwKeyerHangTime := b }, none)

def catSd : CatCase where
  branches := [
    .plain 2 fun s => s.answerInt ['S', 'D'] 4 (min s.cwKeyerHangTime 1000),
    .atoi 6 2 sdSet]
  otherwise := Rig.unimplemented

def shRead (s : Rig) : Outcome :=
  let mode := (s.radio.vfo 0).mode
  let filter := filterOfVfoA s.radio
  if IsLower mode then
    s.answerInt ['S', 'H'] 2 (waterIndex shMarks |filter.low|)
  else if IsUpper mode then
    s.answerInt ['S', 'H'] 2 (waterIndex shMarks filter.high)
  else
    s.unimplemented

def shSet (i : Int) (s : Rig) : Outcome :=
  let mode := (s.radio.vfo 0).mode
  let s := { s with radio := s.radio.shSet i }
  if IsUpper mode ∨ IsLower mode then s.silent else s.unimplemented

def catSh : CatCase :=
  .readSet 2 4 shRead shSet

def slRead (s : Rig) : Outcome :=
  let filter := filterOfVfoA s.radio
  let low := if IsLower (s.radio.vfo 0).mode then |filter.high| else filter.low
  s.answerInt ['S', 'L'] 2 (waterIndex slMarks low)

def catSl : CatCase :=
  .readSet 2 4 slRead fun i s => s.setRadio (s.radio.slSet i)

def smRead (id : Int) (s : Rig) : Outcome :=
  if 0 ≤ id ∧ id < s.receivers then
    let val := truncate (((s.rx id).rxlvl + 127) * (277778 / 1000000))
    s.answer (codes ['S', 'M'] ++ format false 0 id ++ format false 4 (max 0 (min 30 val)))
  else
    s.silent

def catSm : CatCase :=
  .setAt 2 3 smRead

def sqRead (id : Int) (s : Rig) : Outcome :=
  if 0 ≤ id ∧ id < s.receivers then
    s.answer (codes ['S', 'Q'] ++ format false 0 id
      ++ format false 3 (truncate ((s.rx id).squelch / 100 * 255 + 1 / 2)))
  else
    s.silent

def catSq : CatCase where
  branches := [
    .atoi 3 2 sqRead,
    { test := some 6
      args := [.atoi 2, .atoi 3]
      run := fun args s =>
        (s.radioSetSquelch (args.getD 0 0) ((args.getD 1 0 : Int) / 255 * 100 + 1 / 2), none) }]
  otherwise := Rig.silent

def catTx : CatCase :=
  .actAt 2 fun s => s.call (.radioSetMox 1)

def catTy : CatCase :=
  .actAt 2 fun s => s.answer (codes ['T', 'Y', '0', '0', '0'])

def catUp : CatCase :=
  .actAt 2 fun s => s.setRadio (s.radio.vfoIdStep 0 1)

def catVg (lib : CLibrary) : CatCase where
  branches := [
    .plain 2 fun s => s.answerInt ['V', 'G'] 3 (truncate (9 * s.voxThreshold + 1 / 2)),
    { test := some 5
      args := [.text 2]
      run := fun args s => ({ s with voxThreshold := lib.atof args / 9 }, none) }]
  otherwise := Rig.silent

def catVx : CatCase :=
  .readSet 2 3 (fun s => s.answerInt ['V', 'X'] 0 s.voxEnabled)
    fun x s => ({ s with voxEnabled := x }, none)

def catXt : CatCase :=
  (CatCase.readSet 2 3
    (fun s => s.answerInt ['X', 'T'] 0 (s.radio.vfo s.radio.txVfo).xitEnabled)
    fun x s => s.setRadio (s.radio.vfoXitOnoff x)).guarded Rig.hasTransmitter Rig.silent

end Rigctl
