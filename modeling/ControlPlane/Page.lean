/-
Pages.

A page is what the browser shows at one moment: the address, the title, the
elements that can be operated, and how far the page is scrolled. It is looked at
for one decision and not kept.
-/
import ControlPlane.Json.Decode

set_option autoImplicit false

namespace ControlPlane

namespace Page

/-- Where an element stands. -/
structure Box where
  /-- The distance from the left. -/
  x : Double
  /-- The distance from the top. -/
  y : Double
  /-- The width. -/
  width : Double
  /-- The height. -/
  height : Double
deriving DecidableEq, Repr

/-- An element that can be operated. -/
structure Element where
  /-- The name of its tag. -/
  tag : String
  /-- The text it shows. -/
  text : String
  /-- How to find it. -/
  selector : String
  /-- What kind of field it is. -/
  fieldType : Option String
  /-- What has been entered into it. -/
  value : Option String
  /-- Where it stands. -/
  box : Option Box
  /-- Whether it can be seen. -/
  visible : Bool
  /-- Whether it is switched off. -/
  disabled : Bool
deriving DecidableEq, Repr

/-- How far a page is scrolled. -/
structure Scroll where
  /-- The height of the whole page. -/
  scrollHeight : Double
  /-- The height of what is shown. -/
  clientHeight : Double
  /-- How much is hidden above. -/
  scrollTop : Double
  /-- How much is hidden to the left. -/
  scrollLeft : Double
  /-- Whether there is more above. -/
  hasMoreAbove : Bool
  /-- Whether there is more below. -/
  hasMoreBelow : Bool
deriving DecidableEq, Repr

end Page

/-- A page. -/
structure Page where
  /-- The address. -/
  url : String
  /-- The title. -/
  title : String
  /-- The elements that can be operated. -/
  elements : List Page.Element
  /-- How far the page is scrolled. -/
  scroll : Option Page.Scroll
deriving DecidableEq, Repr

namespace Page

/-- A page about which nothing is known. -/
def blank : Page := ⟨"", "", [], none⟩

/-- Whether nothing on the page can be operated. -/
def isEmpty (p : Page) : Bool := p.elements.isEmpty

/-! ## As JSON -/

/-- A box as a value. -/
def Box.toJson (b : Box) : Json :=
  .object
    [("x", Json.float b.x), ("y", Json.float b.y), ("width", Json.float b.width),
      ("height", Json.float b.height)]

/-- An element as a value. -/
def Element.toJson (e : Element) : Json :=
  .object <|
    [("tag", .string e.tag), ("text", .string e.text), ("selector", .string e.selector)] ++
    Json.optional "type" .string e.fieldType ++ Json.optional "value" .string e.value ++
    Json.optional "position" Box.toJson e.box ++
    [("visible", .bool e.visible), ("disabled", .bool e.disabled)]

/-- A scroll state as a value. -/
def Scroll.toJson (s : Scroll) : Json :=
  .object
    [("scrollHeight", Json.float s.scrollHeight), ("clientHeight", Json.float s.clientHeight),
      ("scrollTop", Json.float s.scrollTop), ("scrollLeft", Json.float s.scrollLeft),
      ("hasMoreAbove", .bool s.hasMoreAbove), ("hasMoreBelow", .bool s.hasMoreBelow)]

/-- A page as a value. -/
def toJson (p : Page) : Json :=
  .object <|
    [("url", .string p.url), ("title", .string p.title),
      ("elements", .array (p.elements.map Element.toJson))] ++
    Json.optional "scroll" Scroll.toJson p.scroll

/-- A box from a value. -/
def Box.decoder : Decoder Box :=
  (RecordReader.start Box.mk)
    |>.required "x" Decoder.double
    |>.required "y" Decoder.double
    |>.defaulted "width" Decoder.double default
    |>.defaulted "height" Decoder.double default
    |>.decoder "struct Position"

/-- An element from a value. -/
def Element.decoder : Decoder Element :=
  (RecordReader.start Element.mk)
    |>.required "tag" Decoder.text
    |>.defaulted "text" Decoder.text ""
    |>.required "selector" Decoder.text
    |>.optional "type" Decoder.text
    |>.optional "value" Decoder.text
    |>.optional "position" Box.decoder
    |>.defaulted "visible" Decoder.bool true
    |>.defaulted "disabled" Decoder.bool false
    |>.decoder "struct PageElement"

/-- A scroll state from a value. -/
def Scroll.decoder : Decoder Scroll :=
  (RecordReader.start Scroll.mk)
    |>.defaulted "scrollHeight" Decoder.double default
    |>.defaulted "clientHeight" Decoder.double default
    |>.defaulted "scrollTop" Decoder.double default
    |>.defaulted "scrollLeft" Decoder.double default
    |>.defaulted "hasMoreAbove" Decoder.bool false
    |>.defaulted "hasMoreBelow" Decoder.bool false
    |>.decoder "struct ScrollInfo"

/-- A page from a value. -/
def decoder : Decoder Page :=
  (RecordReader.start Page.mk)
    |>.defaulted "url" Decoder.text ""
    |>.defaulted "title" Decoder.text ""
    |>.defaulted "elements" (Decoder.list Element.decoder) []
    |>.optional "scroll" Scroll.decoder
    |>.decoder "struct PageState"

end Page

end ControlPlane
