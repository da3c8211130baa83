import Jukebox.Player.Basic
import Jukebox.Text.TimeSpan

/-!
# Embeds

The framed messages with which the player answers in a chat.

## Main definitions

* `Jukebox.Embed`: a framed message.
* `Jukebox.Embed.nowPlaying`: what plays and how far it is.
* `Jukebox.Embed.queued`: what was added to the queue.
* `Jukebox.Embed.warning`, `Jukebox.Embed.error`: a notice.
-/

namespace Jukebox

/-- A named value in an embed. -/
structure Embed.Field where
  name : String
  value : String
  inline : Bool := true

/-- A framed message. The colour is that of its edge. -/
structure Embed where
  title : String
  description : String
  colour : Nat
  footer : String
  url : Option String := none
  fields : List Embed.Field := []

namespace Embed

/-- A colour from its three parts, each below 256. -/
def rgb (red green blue : Nat) : Nat :=
  (red * 256 + green) * 256 + blue

def successColour : Nat := rgb 67 181 129

def errorColour : Nat := rgb 220 53 69

def warningColour : Nat := rgb 255 193 7

def playlistColour : Nat := rgb 138 43 226

/-- The usual footer. -/
def standardFooter : String := "🎵 Open Music Bot"

/-- A time in milliseconds as on a clock face. -/
def clock (ms : UInt64) : String :=
  Text.clockTime (ms.toNat / 1000)

/-- What plays and how far it is. -/
def nowPlaying (item : QueueItem) (positionMs : UInt64) : Embed :=
  let track := item.track
  let progress : Field :=
    match track.duration? with
    | some length => { name := "⏱️ Posición", value := clock positionMs ++ " / " ++ clock length }
    | none => { name := "⏱️ Duración", value := "🔴 En vivo" }
  { title := "🎵 Reproduciendo Ahora"
    description := "**" ++ track.title ++ "**"
    colour := successColour
    footer := standardFooter
    url := track.uri
    fields := [
      { name := "🎤 Artista", value := track.author },
      progress,
      { name := "👤 Solicitado por", value := "<@" ++ toString item.requester.val ++ ">" },
      { name := "🔗 Fuente", value := track.source }] }

/-- What was added to the queue. -/
def queued (added : Nat) (label : String) (provider : Provider) : Embed :=
  { title :=
      if added = 1 then "✅ Canción Agregada Exitosamente" else "📋 Playlist Agregada Exitosamente"
    description := "**" ++ label ++ "** se ha agregado a la cola de reproducción"
    colour := if added = 1 then successColour else playlistColour
    footer := "🎵 Se reproducirá automáticamente si no hay música sonando"
    fields := [
      { name := "📊 Canciones agregadas", value := toString added },
      { name := "🔗 Fuente", value := provider.name }] }

/-- A notice that something is not as wished. -/
def warning (title description : String) : Embed :=
  { title := "⚠️ " ++ title, description, colour := warningColour, footer := standardFooter }

/-- A notice that something failed. -/
def error (title description : String) : Embed :=
  { title := "❌ " ++ title, description, colour := errorColour, footer := standardFooter }

end Embed

end Jukebox
