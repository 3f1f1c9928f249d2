import Simulcast.Time

/-!
# Encoding profiles

A profile names sizes and rates; a zero leaves the source as it is. The encoder is told only what
differs from the source, in a fixed order.
-/

namespace Simulcast

structure Encoding where
  width : Nat := 0
  height : Nat := 0
  bitrate : Nat := 0
  fpsNum : Nat := 0
  fpsDen : Nat := 0
  audioBitrate : Nat := 0
  audioTrack : Nat := 0
  maxBandwidth : Nat := 0
  lowLatency : Bool := false
  deriving DecidableEq, Repr

namespace Encoding

def kilo (n : Nat) : String := toString n ++ "k"

def sizeOptions (e : Encoding) : List String :=
  if 0 < e.width ∧ 0 < e.height then ["-s", toString e.width ++ "x" ++ toString e.height] else []

def bitrateOptions (e : Encoding) : List String :=
  if 0 < e.bitrate then ["-b:v", kilo e.bitrate] else []

/-- A denominator of zero or one is left out. -/
def rateText (e : Encoding) : String :=
  if e.fpsDen ≤ 1 then toString e.fpsNum else toString e.fpsNum ++ "/" ++ toString e.fpsDen

def rateOptions (e : Encoding) : List String :=
  if 0 < e.fpsNum then ["-r", e.rateText] else []

def audioOptions (e : Encoding) : List String :=
  if 0 < e.audioBitrate then ["-b:a", kilo e.audioBitrate] else []

def trackOptions (e : Encoding) : List String :=
  if 0 < e.audioTrack then ["-map", "0:a:" ++ toString e.audioTrack] else []

/-- The buffer holds two seconds of the greatest rate, as far as a counter goes. -/
def bandwidthOptions (e : Encoding) : List String :=
  if 0 < e.maxBandwidth then
    ["-maxrate", kilo e.maxBandwidth, "-bufsize", kilo (min (2 * e.maxBandwidth) counterMax)]
  else []

def latencyOptions (e : Encoding) : List String :=
  if e.lowLatency then ["-tune", "zerolatency"] else []

def options (e : Encoding) : List String :=
  e.sizeOptions ++ e.bitrateOptions ++ e.rateOptions ++ e.audioOptions ++ e.trackOptions
    ++ e.bandwidthOptions ++ e.latencyOptions

end Encoding

end Simulcast
