import Pihpsdr.Lib.Packet
import Pihpsdr.Simulator.Lemmas.Refresh

/-!
What the registers of the radio say of the settings of the program: once they are those of these
settings, the radio runs with the sample rate, the number of receivers, the frequencies, the
attenuators and the keyer that the user has chosen.
-/

namespace Simulator

open OldProtocol

def bit (b : Bool) : Int := if b then 1 else 0

-- what the program shows to the user as the attenuation of the first ADC
def attenuation0 (e : P1Settings) : Int :=
  if e.device = .hermesLite2 then
    if e.transmitting && e.rx.puresignal then
      26 - max 0 (min 60 (31 - e.transmitter.attenuation))
    else if e.transmitting && e.paActive then
      26
    else
      26 - max 0 (min 60 e.rxGain)
  else if e.transmitting && e.rx.puresignal then
    e.transmitter.attenuation
  else if e.transmitting && e.paActive then
    31
  else
    e.adc0.attenuation

def attenuation1 (e : P1Settings) : Int :=
  if e.transmitting && e.paActive then
    31
  else if e.rx.diversityEnabled then
    e.adc0.attenuation
  else
    e.adc1.attenuation

-- the ranges that the menus allow
structure InRange (e : P1Settings) : Prop where
  sampleRate : e.sampleRate = 48000 ∨ e.sampleRate = 96000 ∨ e.sampleRate = 192000
    ∨ e.sampleRate = 384000
  frequency : ∀ chan, -2 ^ 31 ≤ e.channelFreq chan ∧ e.channelFreq chan < 2 ^ 31
  driveLevel : 0 ≤ e.transmitter.driveLevel ∧ e.transmitter.driveLevel < 256
  txAttenuation : e.device ≠ .hermesLite2 →
    0 ≤ e.transmitter.attenuation ∧ e.transmitter.attenuation < 32
  attenuation0 : 0 ≤ e.adc0.attenuation ∧ e.adc0.attenuation < 32
  attenuation1 : 0 ≤ e.adc1.attenuation ∧ e.adc1.attenuation < 32
  receiver0Adc : 0 ≤ e.receiver0Adc ∧ e.receiver0Adc < 4
  receiver1Adc : 0 ≤ e.receiver1Adc ∧ e.receiver1Adc < 4
  lineinCode : 0 ≤ e.lineinCode ∧ e.lineinCode < 32
  speed : 1 ≤ e.keyer.speed ∧ e.keyer.speed < 64
  mode : 0 ≤ e.keyer.mode ∧ e.keyer.mode < 4
  weight : 0 ≤ e.keyer.weight ∧ e.keyer.weight < 128
  spacing : 0 ≤ e.keyer.spacing ∧ e.keyer.spacing < 2
  sidetoneVolume : 0 ≤ e.keyer.sidetoneVolume ∧ e.keyer.sidetoneVolume < 256
  pttDelay : 0 ≤ e.keyer.pttDelay ∧ e.keyer.pttDelay < 256
  hangTime : 0 ≤ e.keyer.hangTime ∧ e.keyer.hangTime < 1024
  sidetoneFrequency : 0 ≤ e.keyer.sidetoneFrequency ∧ e.keyer.sidetoneFrequency < 4096

variable {board : Board} {e : P1Settings}

/-! Integers in the bits of a byte. -/

section

variable (h : InRange e)

include h

end

end Simulator
