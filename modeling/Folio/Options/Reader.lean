import Folio.Options
import Folio.Options.Notation
import Folio.Error
import Folio.Text.Lossy

/-!
Document options in the notation for records. Fields that are left out keep their standard values,
unknown fields are passed over, and a known field may stand only once.
-/

namespace Folio

namespace DocumentOptions

open Record (Reader)

def once {α σ : Type} (held : Option α) (value : Reader α) (update : α → σ) : Reader σ := do
  match held with
  | some _ => failure
  | none => return update (← value)

def pass {σ : Type} (bare : Bool) (state : σ) : Reader σ := do
  Record.anyValue bare (2 * (← get).length + 2)
  return state

def required {α : Type} : Option α → Reader α
  | some value => return value
  | none => failure

structure PointFields where
  x : Option Single
  y : Option Single

def point (bare : Bool) : Reader (Single × Single) := do
  let found ← Record.record "Point" (fun key (state : PointFields) =>
    if key = ['x'] then once state.x Record.real fun x => { state with x := some x }
    else if key = ['y'] then once state.y Record.real fun y => { state with y := some y }
    else pass bare state) ⟨none, none⟩
  return (← required found.x, ← required found.y)

structure RectFields where
  lower : Option (Single × Single)
  upper : Option (Single × Single)

def rect (bare : Bool) : Reader (Rect Single) := do
  let found ← Record.record "Rectangle" (fun key (state : RectFields) =>
    if key = "ll".toList then
      once state.lower (point bare) fun corner => { state with lower := some corner }
    else if key = "ur".toList then
      once state.upper (point bare) fun corner => { state with upper := some corner }
    else pass bare state) ⟨none, none⟩
  let (left, bottom) ← required found.lower
  let (right, top) ← required found.upper
  return ⟨left, bottom, right, top⟩

structure BoxFields where
  media : Option (Rect Single)
  crop : Option (Option (Rect Single))
  bleed : Option (Option (Rect Single))
  trim : Option (Option (Rect Single))
  art : Option (Option (Rect Single))

def pageBoxesRecord (bare : Bool) : Reader PageBoxes := do
  let box := Record.optional bare (rect bare)
  let found ← Record.record "PageBoxes" (fun key (state : BoxFields) =>
    if key = "media_box".toList then
      once state.media (rect bare) fun media => { state with media := some media }
    else if key = "crop_box".toList then
      once state.crop box fun crop => { state with crop := some crop }
    else if key = "bleed_box".toList then
      once state.bleed box fun bleed => { state with bleed := some bleed }
    else if key = "trim_box".toList then
      once state.trim box fun trim => { state with trim := some trim }
    else if key = "art_box".toList then
      once state.art box fun art => { state with art := some art }
    else pass bare state) ⟨none, none, none, none, none⟩
  return ⟨← required found.media, found.crop.join, found.bleed.join, found.trim.join,
    found.art.join⟩

def deviceSpace : Reader DeviceSpace := do
  let found ← Record.name
  if found = "Gray".toList then return .gray
  else if found = "Rgb".toList then return .rgb
  else if found = "Cmyk".toList then return .cmyk
  else failure

structure OptionFields where
  options : DocumentOptions
  seen : List (List Char)

def field? (bare : Bool) (key : String) (options : DocumentOptions) :
    Option (Reader DocumentOptions) :=
  let text := Record.optional bare Record.text
  if key = "title" then
    some do return { options with title := ← text }
  else if key = "author" then
    some do return { options with author := ← text }
  else if key = "subject" then
    some do return { options with subject := ← text }
  else if key = "keywords" then
    some do return { options with keywords := ← text }
  else if key = "creator" then
    some do return { options with creator := ← text }
  else if key = "producer" then
    some do return { options with producer := ← text }
  else if key = "lang" then
    some do return { options with language := ← text }
  else if key = "page_boxes" then
    some do return { options with pageBoxes := ← pageBoxesRecord bare }
  else if key = "output_color_space" then
    some do return { options with outputSpace := ← deviceSpace }
  else if key = "compress" then
    some do return { options with compress := ← Record.truth }
  else if key = "subset_capacity" then
    some do return { options with subsetCapacity := ← Record.whole 0xFFFFFFFFFFFFFFFF }
  else if key = "tagged" then
    some do return { options with tagged := ← Record.truth }
  else none

def field (bare : Bool) (key : List Char) (state : OptionFields) : Reader OptionFields :=
  match field? bare (String.ofList key) state.options with
  | none => pass bare state
  | some value =>
      if state.seen.contains key then failure
      else do return ⟨← value, key :: state.seen⟩

def reader : Reader DocumentOptions := do
  Record.blanks
  let bare ← Record.extensions ((← get).length + 1) false
  let found ← Record.record "DocumentOptions" (field bare) ⟨.standard, []⟩
  Record.blanks
  if (← get).isEmpty then return found.options else failure

def parse (text : String) : Except Error DocumentOptions :=
  match reader.run text.toList with
  | some (options, _) => .ok options
  | none => .error .options

/-- Reads options from a file, given its contents where there are any. -/
def load (contents : Option Bytes) : Except Error DocumentOptions :=
  match contents.bind Utf8.decode? with
  | some text => parse text
  | none => .error .io

end DocumentOptions

end Folio
