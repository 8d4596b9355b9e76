import Bulletin.Block.Content
import Bulletin.Fragment.Envelope

/-!
# Events

A table for each event, with a row for everything that is known of it.
-/

namespace Bulletin.Fragment

open Html Text

/-- A row across both columns of an event. -/
def wideRow (css : String) (content : List Node) : Node :=
  row [.element "td" [⟨"colspan", "2"⟩, ⟨"style", css⟩] content]

/-- A row with a label and a value, if there is one. -/
def detailRow (label : String) (value : Option String) : List Node :=
  forPresent value fun v =>
    [row
      [.element "td"
        [⟨"width", "80"⟩,
          ⟨"style", "padding: 2px 0 2px 12px; font-size: 13px; font-weight: bold; width: 80px;"⟩]
        [.text (label ++ ":")],
      styled "td" "padding: 2px 0; font-size: 13px;" [.text v]]]

/-- One event. -/
def eventItem (s : Resolved) (e : Event) : Node :=
  fullTable "event-item"
    [⟨"style", "margin-bottom: 15px; border-left: 3px solid " ++ s.buttonBackground ++ ";"⟩]
    ((forPresent e.title fun title =>
      [wideRow "padding: 0 0 6px 12px; font-size: 17px; font-weight: bold;" [.text title]]) ++
    detailRow "Date" e.date ++
    detailRow "Time" e.time ++
    detailRow "Location" e.location ++
    (forPresent e.description fun description =>
      [wideRow "padding: 6px 0 0 12px; font-size: 14px; line-height: 1.5;"
        (multiline description)]) ++
    forPresent e.url fun url =>
      [wideRow "padding: 6px 0 0 12px; font-size: 14px;"
        [textLink s url [.text "Event details"]]])

/-- The content of a list of events. -/
def eventCalendar (c : EventCalendar) (s : Resolved) : List Node :=
  sectionTitle s c.title ++
  if c.events.isEmpty then [placeholder "No events available"]
  else c.events.map (eventItem s)

end Bulletin.Fragment
