import Pihpsdr.DxCluster.Impl.Spots

/-!
The spots of a DX cluster on the panadapters of both receivers in `dxcluster.c`: the filters, the groups of a frame,
and the cache of the groups that a click is looked up in.
-/

namespace DxCluster

open Text

-- the part of `DXC_SETTINGS` that the spots on the panadapter depend on, with flags for the integers
structure DxcSettings where
  enabled : Bool
  showOnPanadapter : Bool
  ageLimitSec : BitVec 32
  modeFt8 : Bool
  modeFt4 : Bool
  modeCw : Bool
  modeSsb : Bool
  modeRtty : Bool
  modeOther : Bool
  regionNa : Bool
  regionEu : Bool
  regionAs : Bool
  regionSa : Bool
  regionAf : Bool
  regionOc : Bool
  whitelist : List Int
  blacklist : List Int

def code (c : Char) : Int :=
  c.toNat

-- the region of a spotter by the first two characters of the callsign
def spotterInRegion (call : List Int) (s : DxcSettings) : Bool :=
  match call with
  | [] => true
  | c0 :: call =>
    let c1 := call.headD 0
    -- North America
    if c0 ∈ codes "KWN" then s.regionNa
    else if c0 = code 'A' ∧ code 'A' ≤ c1 ∧ c1 ≤ code 'L' then s.regionNa
    else if c0 = code 'V' ∧ code 'A' ≤ c1 ∧ c1 ≤ code 'E' then s.regionNa
    else if c0 = code 'X' ∧ c1 = code 'E' then s.regionNa
    -- Europe
    else if c0 ∈ codes "GM2" then s.regionEu
    else if c0 = code 'D' ∧ code 'A' ≤ c1 ∧ c1 ≤ code 'R' then s.regionEu
    else if c0 ∈ codes "FI" then s.regionEu
    else if c0 = code 'O' ∧ c1 ∈ codes "NKZHE" then s.regionEu
    else if c0 = code 'S' ∧ c1 ∈ codes "MP" then s.regionEu
    else if c0 = code 'E' ∧ c1 = code 'A' then s.regionEu
    else if c0 = code 'C' ∧ c1 = code 'T' then s.regionEu
    -- Asia
    else if c0 = code 'J' then s.regionAs
    else if c0 = code 'B' then s.regionAs
    else if c0 = code 'H' ∧ c1 = code 'L' then s.regionAs
    else if c0 = code 'V' ∧ c1 ∈ codes "RU" then s.regionAs
    else if c0 = code '9' ∧ c1 ∈ codes "VM" then s.regionAs
    -- South America
    else if c0 = code 'P' ∧ c1 ∈ codes "YPT" then s.regionSa
    else if c0 = code 'C' ∧ c1 = code 'E' then s.regionSa
    else if c0 = code 'L' ∧ c1 = code 'U' then s.regionSa
    else if c0 = code 'H' ∧ c1 = code 'K' then s.regionSa
    -- Oceania
    else if c0 = code 'V' ∧ c1 = code 'K' then s.regionOc
    else if c0 = code 'Z' ∧ c1 = code 'L' then s.regionOc
    -- Africa
    else if c0 = code 'Z' ∧ c1 = code 'S' then s.regionAf
    else if c0 = code 'C' ∧ c1 = code 'N' then s.regionAf
    else if c0 ∈ codes "567" then s.regionAf
    else s.regionEu

def modePassesFilter (mode : List Int) (s : DxcSettings) : Bool :=
  if mode = [] then s.modeOther
  else if mode = codes "FT8" then s.modeFt8
  else if mode = codes "FT4" then s.modeFt4
  else if mode = codes "CW" then s.modeCw
  else if mode = codes "SSB" ∨ mode = codes "USB" ∨ mode = codes "LSB" then s.modeSsb
  else if mode = codes "RTTY" then s.modeRtty
  else s.modeOther

-- the tokens of `strtok` between commas and blanks
def prefixes (list : List Int) : List (List Int) :=
  ((list.take 127).splitOnP fun c => decide (c = comma ∨ c = blank)).filter fun tok => decide (tok ≠ [])

def callInPrefixList (call list : List Int) : Bool :=
  (prefixes list).any fun tok =>
    decide ((call.take tok.length).map Fixed.lower = tok.map Fixed.lower)

def spotPassesFilters (spot : DxSpot) (s : DxcSettings) (now : BitVec 64) : Bool :=
  if (now - spot.when).toInt > s.ageLimitSec.toInt then false
  else if modePassesFilter spot.mode s = false then false
  else if spotterInRegion spot.spotter s = false then false
  else if s.whitelist ≠ [] ∧ callInPrefixList spot.dxCall s.whitelist = false then false
  else if s.blacklist ≠ [] ∧ callInPrefixList spot.dxCall s.blacklist then false
  else true

-- the loop of `dxcluster_query_spots` over `n` spots from `idx` back
def collectSpots (ring : Nat → DxSpot) (passes : DxSpot → Bool) (maxOut : Nat)
    : Nat → Nat → List DxSpot → List DxSpot
  | 0, _, out => out
  | n + 1, idx, out =>
    if out.length < maxOut then
      collectSpots ring passes maxOut n ((idx + dxcMaxSpots - 1) % dxcMaxSpots)
        (if passes (ring idx) then out ++ [ring idx] else out)
    else
      out

def querySpots (r : SpotRing) (s : DxcSettings) (now : BitVec 64) (maxOut : Nat) (loHz hiHz : BitVec 64)
    : List DxSpot :=
  if s.showOnPanadapter = false ∨ s.enabled = false then
    []
  else
    let passes := fun spot : DxSpot =>
      decide (loHz.toInt ≤ spot.freqHz.toInt ∧ spot.freqHz.toInt ≤ hiHz.toInt) && spotPassesFilters spot s now
    collectSpots r.ring passes maxOut r.ringCount ((r.ringHead + dxcMaxSpots - 1) % dxcMaxSpots) []

-- what other threads do to the spots and to the settings
inductive Change where
  | spot (s : DxSpot)
  | settings (s : DxcSettings)

/--
A call of `dxcluster_draw_spots`. The results of its floating point expressions belong to it: whether `cAp` is 0,
`(long long)((x - cBp) / cAp)` for a position and `(int)(cBp + d * cAp + 0.5)` for the distance of two frequencies.
The changes `meanwhile` come between its two looks at the settings.
-/
structure DrawFrame where
  cr : Bool
  rxId : Int
  frequency : BitVec 64
  cApZero : Bool
  offset : Int → BitVec 64
  position : BitVec 64 → Int
  width : Int
  now : BitVec 64
  meanwhile : List Change

def dxcMaxGroup : Nat := 16

-- a group of a frame, or an entry of the cache
structure Lay where
  x : Int
  list : List DxSpot

namespace DrawFrame

variable (f : DrawFrame)

def loHz : BitVec 64 :=
  f.frequency + f.offset 0

def hiHz : BitVec 64 :=
  f.frequency + f.offset f.width

def spotX (spot : DxSpot) : Int :=
  f.position (spot.freqHz - f.frequency)

def visible (r : SpotRing) (s : DxcSettings) : List DxSpot :=
  if f.loHz.toInt > f.hiHz.toInt then
    querySpots r s f.now dxcMaxSpots f.hiHz f.loHz
  else
    querySpots r s f.now dxcMaxSpots f.loHz f.hiHz

-- a spot joins the first group within 30 pixels
def place (lay : List Lay) (spot : DxSpot) : List Lay :=
  let x := f.spotX spot
  if x < 0 ∨ x ≥ f.width then
    lay
  else
    match lay.findIdx? fun l => decide ((l.x - x).natAbs ≤ 30) with
    | none => lay ++ [{ x, list := [spot] }]
    | some g =>
      lay.modify g fun l => if l.list.length < dxcMaxGroup then { l with list := l.list ++ [spot] } else l

def layout (spots : List DxSpot) : List Lay :=
  spots.foldl f.place []

end DrawFrame

def dxcDrawCacheMax : Nat := 128

def cap : Nat := dxcDrawCacheMax / 2

def base (rxId : Int) : Nat :=
  if rxId = 0 then 0 else cap

-- the entries from `kept` on, and their number
def fillCache (base : Nat) : (Nat → Lay) → Nat → List Lay → (Nat → Lay) × Nat
  | cache, kept, [] => (cache, kept)
  | cache, kept, l :: lay =>
    if kept < cap then
      fillCache base (Function.update cache (base + kept) l) (kept + 1) lay
    else
      (cache, kept)

-- `drawn` is what the last frame of each receiver has drawn
structure Panadapter where
  ring : SpotRing
  settings : DxcSettings
  drawCache : Nat → Lay
  drawCacheN : Int → Nat
  drawn : Int → List Lay

namespace Panadapter

def start (ring : SpotRing) (settings : DxcSettings) (drawCache : Nat → Lay) : Panadapter where
  ring := ring
  settings := settings
  drawCache := drawCache
  drawCacheN := fun _ => 0
  drawn := fun _ => []

def change (s : Panadapter) : Change → Panadapter
  | .spot spot => { s with ring := s.ring.push spot }
  | .settings settings => { s with settings }

-- the groups of a frame, where it comes to them
def groups (s : Panadapter) (f : DrawFrame) : Option (List Lay) :=
  let s' := f.meanwhile.foldl change s
  if f.cr = false then
    none
  else if s.settings.showOnPanadapter = false ∨ s.settings.enabled = false then
    none
  else if f.cApZero then
    none
  else if f.visible s'.ring s'.settings = [] then
    none
  else
    some (f.layout (f.visible s'.ring s'.settings))

def updateCache (s : Panadapter) (rxId : Int) (lay : List Lay) : Panadapter :=
  if rxId ≥ 0 ∧ rxId < 2 then
    let p := fillCache (base rxId) s.drawCache 0 lay
    { s with drawCache := p.1, drawCacheN := Function.update s.drawCacheN rxId p.2 }
  else
    s

def drawSpots (s : Panadapter) (f : DrawFrame) : Panadapter :=
  let s' := f.meanwhile.foldl change s
  match s.groups f with
  | none => { s' with drawn := Function.update s'.drawn f.rxId [] }
  | some lay =>
    let s' := s'.updateCache f.rxId lay
    { s' with drawn := Function.update s'.drawn f.rxId lay }

-- the area of a click that hits a group
def hit (l : Lay) (x y : Int) : Bool :=
  decide ((l.x - x).natAbs ≤ 8 ∧ y ≥ 18 ∧ y ≤ 40)

-- the cached groups of a receiver
def entries (s : Panadapter) (rxId : Int) : List Lay :=
  (List.range (s.drawCacheN rxId)).map fun i => s.drawCache (base rxId + i)

-- the spots of the first cached group that is hit
def hitTest (s : Panadapter) (rxId x y : Int) : Option (List DxSpot) :=
  if rxId < 0 ∨ rxId > 1 then
    none
  else
    ((s.entries rxId).find? fun l => hit l x y).map Lay.list

end Panadapter

inductive PanadapterEvent where
  | change (c : Change)
  | draw (f : DrawFrame)

def Panadapter.step (s : Panadapter) : PanadapterEvent → Panadapter
  | .change c => s.change c
  | .draw f => s.drawSpots f

end DxCluster
