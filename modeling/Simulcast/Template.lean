import Simulcast.Channel.Basic

/-!
# Output templates

A template is a named preset of platform, orientation and encoding. Six are built in.
-/

namespace Simulcast

structure Template where
  id : String
  name : String
  platform : Platform
  orientation : Orientation
  encoding : Encoding
  builtin : Bool
  deriving DecidableEq

namespace Template

def preset (id name : String) (platform : Platform) (orientation : Orientation)
    (width height bitrate : Nat) : Template where
  id := "builtin_" ++ id
  name := name
  platform := platform
  orientation := orientation
  encoding := { width, height, bitrate, audioBitrate := 128 }
  builtin := true

def builtins : List Template :=
  [preset "youtube_1080p60" "YouTube 1080p60" .youTube .horizontal 1920 1080 6000,
   preset "youtube_720p60" "YouTube 720p60" .youTube .horizontal 1280 720 4500,
   preset "twitch_1080p60" "Twitch 1080p60" .twitch .horizontal 1920 1080 6000,
   preset "twitch_720p60" "Twitch 720p60" .twitch .horizontal 1280 720 4500,
   preset "facebook_1080p" "Facebook 1080p" .facebook .horizontal 1920 1080 4000,
   preset "tiktok_vertical" "TikTok Vertical" .tikTok .vertical 1080 1920 3000]

end Template

def Channel.applyTemplate (ch : Channel) (t : Template) (streamKey : String) : Nat × Channel :=
  ch.addOutput t.platform streamKey t.orientation t.encoding

end Simulcast
