import BattleMaps.Service.Http
import BattleMaps.Service.Work
import BattleMaps.Text.Quoted
import BattleMaps.Text.Url

/-!
# A service that paints pictures

Pictures are painted by a service on the network that takes a form and answers with the bytes of
the picture. Every picture costs the same. The service wants a key.

## Main definitions

* `Painter`: how the service is used
* `Painter.request`: the request for a picture
* `Painter.service`: the service, over a connection
-/

namespace BattleMaps

structure Painter where
  key : String
  url : String := "https://api.stability.ai/v2beta/stable-image/generate/core"
  -- How many seconds to wait.
  timeout : Float := 120
  format : String := "webp"
  aspectRatio : String := "1:1"
  boundary : String := "----campaign-maps"

namespace Painter

def cost : Float := 0.03

/-- The failure of a service that was given no key. -/
def noKey : Fault :=
  ⟨"ImageGeneration", "STABILITY_API_KEY is required for image generation"⟩

/-- The form that asks for a picture; what it must not show only if that is said. -/
def form (p : Painter) (r : PaintRequest) : Multipart where
  boundary := p.boundary
  fields :=
    [("prompt", r.prompt), ("output_format", p.format), ("aspect_ratio", p.aspectRatio)]
      ++ if r.unwanted.isEmpty then [] else [("negative_prompt", r.unwanted)]

/-- The failure of a service whose address does not say how to request it. -/
def noAddress (url : String) : Fault :=
  ⟨"UnknownAddress", s!"unknown url type: {Text.quote url}"⟩

/-- The request for a picture to an address. -/
def request (p : Painter) (url : String) (r : PaintRequest) : HttpRequest where
  url := url
  method := "POST"
  headers :=
    [("Authorization", s!"Bearer {p.key}"), ("Accept", "image/*"),
     ("Content-Type", (p.form r).mediaType)]
  body := some (p.form r).body
  timeout := p.timeout

/-- The failure that a network failure comes to. -/
def fault : HttpFault → Fault
  | .refused status body =>
    ⟨"ImageGeneration",
      s!"Stability AI request failed ({status}): {Text.Utf8.decodeLossy body}"⟩
  | .unreachable reason => ⟨"ImageGeneration", s!"Stability AI request failed: {reason}"⟩

def service {σ : Type} (p : Painter) (connection : Connection σ) :
    Service σ PaintRequest (Painting Float) := fun r world =>
  match Text.Url.requested? p.url with
  | none => (.error (noAddress p.url), world)
  | some url =>
    let (answer, world) := connection (p.request url r) world
    match answer with
    | .ok bytes => (.ok ⟨⟨bytes, s!"image/{p.format}"⟩, cost⟩, world)
    | .error f => (.error (fault f), world)

end Painter

end BattleMaps
