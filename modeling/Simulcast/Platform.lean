import Simulcast.Text.Basic
import Simulcast.Text.Case

/-!
# Streaming platforms and frame orientation

Each platform has a display name and an address to push to; one of them takes vertical streams
elsewhere. A frame counts as square when its sides differ by less than a twentieth of its height.
-/

namespace Simulcast

inductive Orientation where
  | auto
  | horizontal
  | vertical
  | square
  deriving DecidableEq, Repr

namespace Orientation

def all : List Orientation := [.auto, .horizontal, .vertical, .square]

def name : Orientation → String
  | .auto => "auto"
  | .horizontal => "horizontal"
  | .vertical => "vertical"
  | .square => "square"

def shown : Orientation → String
  | .auto => "Auto"
  | .horizontal => "Horizontal"
  | .vertical => "Vertical"
  | .square => "Square"

/-- The orientation of a frame; a frame without area has none. -/
def detect (width height : Nat) : Orientation :=
  if width = 0 ∨ height = 0 then .auto
  else if 20 * (width - height) < height ∧ 20 * (height - width) < height then .square
  else if width < height then .vertical
  else .horizontal

/-- The filter that turns a source frame into a target frame, if that is needed and known. -/
def videoFilter? : (source target : Orientation) → Option String
  | .auto, _ => none
  | _, .auto => none
  | .horizontal, .vertical => some "crop=ih*9/16:ih,scale=1080:1920"
  | .vertical, .horizontal => some "crop=iw:iw*9/16,scale=1920:1080"
  | .square, .horizontal => some "scale=1920:1080,setsar=1"
  | .square, .vertical => some "scale=1080:1920,setsar=1"
  | .horizontal, .square => some "scale=1080:1080,setsar=1"
  | .vertical, .square => some "scale=1080:1080,setsar=1"
  | .horizontal, .horizontal => none
  | .vertical, .vertical => none
  | .square, .square => none

end Orientation

inductive Platform where
  | custom
  | twitch
  | youTube
  | facebook
  | kick
  | tikTok
  | instagram
  | xTwitter
  deriving DecidableEq, Repr

namespace Platform

def all : List Platform :=
  [.custom, .twitch, .youTube, .facebook, .kick, .tikTok, .instagram, .xTwitter]

def name : Platform → String
  | .custom => "Custom"
  | .twitch => "Twitch"
  | .youTube => "YouTube"
  | .facebook => "Facebook"
  | .kick => "Kick"
  | .tikTok => "TikTok"
  | .instagram => "Instagram"
  | .xTwitter => "X (Twitter)"

/-- The name as an identifier, which differs from the display name for one platform. -/
def identifier : Platform → String
  | .xTwitter => "XTwitter"
  | p => p.name

/-- The address that horizontal streams are pushed to; a custom server has none of its own. -/
def horizontalIngest : Platform → String
  | .custom => ""
  | .twitch => "rtmp://live.twitch.tv/app"
  | .youTube => "rtmp://a.rtmp.youtube.com/live2"
  | .facebook => "rtmps://live-api-s.facebook.com:443/rtmp"
  | .kick => "rtmp://stream.kick.com/app"
  | .tikTok => "rtmp://live.tiktok.com/live/horizontal"
  | .instagram => "rtmps://live-upload.instagram.com:443/rtmp"
  | .xTwitter => "rtmp://ingest.pscp.tv:80/x"

/-- Only vertical streams can have an address of their own. -/
def ingest : Platform → Orientation → String
  | .tikTok, .vertical => "rtmp://live.tiktok.com/live"
  | p, _ => p.horizontalIngest

def ofName? (name : String) : Option Platform :=
  all.find? fun p => Text.sameIgnoringAsciiCase p.name (Text.trim name)

end Platform

end Simulcast
