import Pihpsdr.ClientServer.Impl.Wire

/-!
The types of the messages on the TCP connection: the structure that the `send_*` function of a type
writes, which of the types each peer sends, and how many bytes the read loops of `client_thread` and
`server_thread` take after a header.
-/

namespace ClientServer

inductive DataType where
  | cmdAdc
  | cmdAgc
  | cmdAmcarrier
  | cmdAnan10e
  | cmdAttenuation
  | cmdBandSel
  | cmdBandstack
  | cmdBinaural
  | cmdCapture
  | cmdCompressor
  | cmdCtcss
  | cmdCtun
  | cmdCw
  | cmdCwpeak
  | cmdDeviation
  | cmdDexp
  | cmdDigimax
  | cmdDiversity
  | cmdDrive
  | cmdDup
  | cmdFilterBoard
  | cmdFilterSel
  | cmdFilterVar
  | cmdFmLimiter
  | cmdFreq
  | cmdLock
  | cmdMeter
  | cmdMicgain
  | cmdMode
  | cmdMove
  | cmdMoveto
  | cmdMox
  | cmdMuteRx
  | cmdNoise
  | cmdNotch
  | cmdPan
  | cmdPatrim
  | cmdPhrot
  | cmdPing
  | cmdPong
  | cmdPreemp
  | cmdPsatt
  | cmdPsonoff
  | cmdPsparams
  | cmdPsreset
  | cmdPsresume
  | cmdRadiomenu
  | cmdRcl
  | cmdReceivers
  | cmdRegion
  | cmdReplay
  | cmdRestart
  | cmdRfgain
  | cmdRit
  | cmdRitStep
  | cmdRxfft
  | cmdRxmenu
  | cmdRxprofile
  | cmdRxDisplay
  | cmdRxEq
  | cmdRxFilterCut
  | cmdRxFps
  | cmdRxSelect
  | cmdRxSpectrum
  | cmdSammode
  | cmdSampleRate
  | cmdSat
  | cmdScreen
  | cmdSidetonefreq
  | cmdSoapyAgc
  | cmdSoapyRxant
  | cmdSoapyTxant
  | cmdSplit
  | cmdSquelch
  | cmdStartRadio
  | cmdStep
  | cmdStore
  | cmdToggleTune
  | cmdTune
  | cmdTwotone
  | cmdTxfft
  | cmdTxfilter
  | cmdTxmenu
  | cmdTxprofile
  | cmdTxDisplay
  | cmdTxEq
  | cmdTxFilterCut
  | cmdTxFps
  | cmdTxSpectrum
  | cmdVfoAToB
  | cmdVfoBToA
  | cmdVfoStepsize
  | cmdVfoSwap
  | cmdVolume
  | cmdVox
  | cmdXit
  | cmdXvtr
  | cmdZoom
  | infoAdc
  | infoBand
  | infoBandstack
  | infoDisplay
  | infoMemory
  | infoPs
  | infoRadio
  | infoReceiver
  | infoRxaudio
  | infoRxaudioOpus
  | infoRxSpectrum
  | infoTxSpectrum
  | infoTransmitter
  | infoTxaudio
  | infoTxaudioOpus
  | infoVfo
  deriving DecidableEq

def DataType.all : List DataType :=
  [.cmdAdc, .cmdAgc, .cmdAmcarrier, .cmdAnan10e, .cmdAttenuation, .cmdBandSel, .cmdBandstack,
   .cmdBinaural, .cmdCapture, .cmdCompressor, .cmdCtcss, .cmdCtun, .cmdCw, .cmdCwpeak,
   .cmdDeviation, .cmdDexp, .cmdDigimax, .cmdDiversity, .cmdDrive, .cmdDup, .cmdFilterBoard,
   .cmdFilterSel, .cmdFilterVar, .cmdFmLimiter, .cmdFreq, .cmdLock, .cmdMeter, .cmdMicgain,
   .cmdMode, .cmdMove, .cmdMoveto, .cmdMox, .cmdMuteRx, .cmdNoise, .cmdNotch, .cmdPan, .cmdPatrim,
   .cmdPhrot, .cmdPing, .cmdPong, .cmdPreemp, .cmdPsatt, .cmdPsonoff, .cmdPsparams, .cmdPsreset,
   .cmdPsresume, .cmdRadiomenu, .cmdRcl, .cmdReceivers, .cmdRegion, .cmdReplay, .cmdRestart,
   .cmdRfgain, .cmdRit, .cmdRitStep, .cmdRxfft, .cmdRxmenu, .cmdRxprofile, .cmdRxDisplay, .cmdRxEq,
   .cmdRxFilterCut, .cmdRxFps, .cmdRxSelect, .cmdRxSpectrum, .cmdSammode, .cmdSampleRate, .cmdSat,
   .cmdScreen, .cmdSidetonefreq, .cmdSoapyAgc, .cmdSoapyRxant, .cmdSoapyTxant, .cmdSplit,
   .cmdSquelch, .cmdStartRadio, .cmdStep, .cmdStore, .cmdToggleTune, .cmdTune, .cmdTwotone,
   .cmdTxfft, .cmdTxfilter, .cmdTxmenu, .cmdTxprofile, .cmdTxDisplay, .cmdTxEq, .cmdTxFilterCut,
   .cmdTxFps, .cmdTxSpectrum, .cmdVfoAToB, .cmdVfoBToA, .cmdVfoStepsize, .cmdVfoSwap, .cmdVolume,
   .cmdVox, .cmdXit, .cmdXvtr, .cmdZoom, .infoAdc, .infoBand, .infoBandstack, .infoDisplay,
   .infoMemory, .infoPs, .infoRadio, .infoReceiver, .infoRxaudio, .infoRxaudioOpus, .infoRxSpectrum,
   .infoTxSpectrum, .infoTransmitter, .infoTxaudio, .infoTxaudioOpus, .infoVfo]

-- the position in the enumeration
def DataType.code (t : DataType) : Nat :=
  t.ctorIdx

def DataType.ofCode (code : Int) : Option DataType :=
  if 0 ≤ code then DataType.all[code.toNat]? else none

inductive Struct where
  | header
  | radiomenuData
  | rxmenuData
  | txmenuData
  | bandData
  | bandstackData
  | memoryData
  | radioData
  | compressorData
  | dexpData
  | adcData
  | transmitterData
  | receiverData
  | vfoData
  | psParams
  | patrimData
  | u32Command
  | u64Command
  | doubleCommand
  | diversityCommand
  | agcCommand
  | equalizerCommand
  | notchCommand
  | noiseCommand
  deriving DecidableEq

-- the bytes after the header: fields of 64, 32, 16 and 8 bits in packed structures
def Struct.bodySize : Struct → Nat
  | header => 0
  | radiomenuData => 2 * 4 + 14
  | rxmenuData => 7
  | txmenuData => 8 * 1 + 2 * 1 + 3
  | bandData => 8 * 5 + 2 * 1 + 23
  | bandstackData => 8 * 2 + 2 * 1 + 7
  | memoryData => 8 * 4 + 2 * 2 + 12
  | radioData => 8 * 99 + 4 * 1 + 2 * 8 + 3307
  | compressorData => 8 * 34 + 3
  | dexpData => 8 * 5 + 2 * 4 + 2
  | adcData => 8 * 3 + 2 * 1 + 8
  | transmitterData => 8 * 70 + 4 * 1 + 2 * 13 + 29
  | receiverData => 8 * 54 + 4 * 2 + 2 * 11 + 31
  | vfoData => 8 * 7 + 2 * 2 + 9
  | psParams => 8 * 1 + 1
  | patrimData => 8 * 11 + 2 * 1
  | u32Command => 4 * 1
  | u64Command => 8 * 1
  | doubleCommand => 8 * 1
  | diversityCommand => 8 * 2 + 1
  | agcCommand => 8 * 4 + 2 * 4 + 2
  | equalizerCommand => 8 * 22 + 2
  | notchCommand => 8 * 6 + 4
  | noiseCommand => 8 * 13 + 2 * 2 + 15

def headerSize : Nat :=
  12

-- the structure that the `send_*` function of a type passes to `send_tcp`
def DataType.struct : DataType → Option Struct
  | .cmdRadiomenu => some .radiomenuData
  | .cmdRxmenu => some .rxmenuData
  | .cmdTxmenu => some .txmenuData
  | .infoBand => some .bandData
  | .infoBandstack => some .bandstackData
  | .infoMemory => some .memoryData
  | .infoRadio => some .radioData
  | .cmdCompressor => some .compressorData
  | .cmdDexp => some .dexpData
  | .infoAdc => some .adcData
  | .infoTransmitter => some .transmitterData
  | .infoReceiver => some .receiverData
  | .infoVfo => some .vfoData
  | .cmdPsparams => some .psParams
  | .cmdPatrim => some .patrimData
  | .cmdRxfft | .cmdSampleRate | .cmdTxfft | .cmdVfoStepsize => some .u32Command
  | .cmdFreq | .cmdMove | .cmdMoveto => some .u64Command
  | .cmdAmcarrier | .cmdDigimax | .cmdDrive | .cmdFmLimiter | .cmdMicgain | .cmdPhrot | .cmdRfgain
  | .cmdRxDisplay | .cmdSquelch | .cmdTxDisplay | .cmdVolume => some .doubleCommand
  | .cmdDiversity => some .diversityCommand
  | .cmdAgc => some .agcCommand
  | .cmdRxEq | .cmdTxEq => some .equalizerCommand
  | .cmdNotch => some .notchCommand
  | .cmdNoise => some .noiseCommand
  | .infoDisplay | .infoPs | .infoRxaudio | .infoRxaudioOpus | .infoRxSpectrum | .infoTxSpectrum
  | .infoTxaudio | .infoTxaudioOpus => none
  | _ => some .header

-- the messages that a peer is sent
def DataType.sentTo (t : DataType) : Peer → Bool
  | .client =>
    match t with
    | .cmdAgc | .cmdFilterVar | .cmdLock | .cmdMox | .cmdPan | .cmdPong | .cmdReceivers
    | .cmdRxFilterCut | .cmdSampleRate | .cmdSat | .cmdStartRadio | .cmdTune | .cmdTwotone
    | .cmdTxFilterCut | .cmdVox | .infoAdc | .infoBand | .infoBandstack | .infoMemory | .infoRadio
    | .infoReceiver | .infoTransmitter | .infoVfo => true
    | _ => false
  | .server =>
    match t with
    | .cmdPong | .cmdStartRadio | .infoMemory | .infoRadio | .infoReceiver | .infoTransmitter
    | .infoVfo => false
    | t => t.struct.isSome

-- what a read loop does after a header: take the rest of a structure, or give up
inductive Reading where
  | rest (s : Struct)
  | stop
  deriving DecidableEq

def serverReading : DataType → Reading
  | .infoBand => .rest .bandData
  | .infoBandstack => .rest .bandstackData
  | .infoAdc => .rest .adcData
  | .cmdRxSpectrum | .cmdTxSpectrum => .rest .header
  | .cmdAgc => .rest .agcCommand
  | .cmdNotch => .rest .notchCommand
  | .cmdNoise => .rest .noiseCommand
  | .cmdRxEq | .cmdTxEq => .rest .equalizerCommand
  | .cmdRadiomenu => .rest .radiomenuData
  | .cmdRxmenu => .rest .rxmenuData
  | .cmdDiversity => .rest .diversityCommand
  | .cmdDexp => .rest .dexpData
  | .cmdCompressor => .rest .compressorData
  | .cmdTxmenu => .rest .txmenuData
  | .cmdPsparams => .rest .psParams
  | .cmdPatrim => .rest .patrimData
  | .cmdDrive | .cmdDigimax | .cmdSquelch | .cmdMicgain | .cmdRfgain | .cmdVolume | .cmdRxDisplay
  | .cmdAmcarrier | .cmdTxDisplay | .cmdPhrot | .cmdFmLimiter => .rest .doubleCommand
  | .cmdSampleRate | .cmdVfoStepsize | .cmdRxfft | .cmdTxfft => .rest .u32Command
  | .cmdMoveto | .cmdFreq | .cmdMove => .rest .u64Command
  | .cmdAdc | .cmdAnan10e | .cmdAttenuation | .cmdBandstack | .cmdBandSel | .cmdBinaural
  | .cmdCapture | .cmdCtcss | .cmdCtun | .cmdCw | .cmdCwpeak | .cmdDeviation | .cmdDup
  | .cmdFilterBoard | .cmdRxFilterCut | .cmdTxFilterCut | .cmdFilterSel | .cmdFilterVar | .cmdPing
  | .cmdLock | .cmdMeter | .cmdMode | .cmdMox | .cmdMuteRx | .cmdPan | .cmdPreemp | .cmdPsatt
  | .cmdPsonoff | .cmdPsreset | .cmdPsresume | .cmdRcl | .cmdReceivers | .cmdRegion | .cmdReplay
  | .cmdRestart | .cmdRit | .cmdRitStep | .cmdRxprofile | .cmdRxFps | .cmdRxSelect | .cmdSammode
  | .cmdSat | .cmdScreen | .cmdSidetonefreq | .cmdSoapyAgc | .cmdSoapyRxant | .cmdSoapyTxant
  | .cmdSplit | .cmdStep | .cmdStore | .cmdToggleTune | .cmdTune | .cmdTwotone | .cmdTxprofile
  | .cmdTxFps | .cmdTxfilter | .cmdVfoAToB | .cmdVfoBToA | .cmdVfoSwap | .cmdVox | .cmdXit | .cmdXvtr
  | .cmdZoom => .rest .header
  | _ => .stop

-- the client goes on with the next header after a type that it does not know
def clientReading : DataType → Reading
  | .infoMemory => .rest .memoryData
  | .infoBand => .rest .bandData
  | .infoBandstack => .rest .bandstackData
  | .infoRadio => .rest .radioData
  | .infoAdc => .rest .adcData
  | .infoReceiver => .rest .receiverData
  | .infoTransmitter => .rest .transmitterData
  | .infoVfo => .rest .vfoData
  | .cmdSampleRate => .rest .u32Command
  | .cmdAgc => .rest .agcCommand
  | _ => .rest .header

def Peer.reading : Peer → Option DataType → Reading
  | client, some t => clientReading t
  | server, some t => serverReading t
  | client, none => .rest .header
  | server, none => .stop

end ClientServer
