import Bulletin.Block.Content
import Bulletin.Fragment.Envelope

/-!
# Pictures, videos and buttons
-/

namespace Bulletin.Fragment

open Html Text

/-- An image as wide as the newsletter's content. -/
def wideImage (s : Resolved) (src alt : String) : Node :=
  .void "img"
    [⟨"src", src⟩, ⟨"alt", alt⟩, ⟨"width", "560"⟩,
      ⟨"style", "display: block; width: 100%; max-width: 560px; height: auto; border: 0; margin: " ++
        imageMargin s.align ++ ";"⟩]

/-- The content of a picture. -/
def image (c : Image) (s : Resolved) : List Node :=
  let img := wideImage s (c.url.getD "") (c.alt.getD "")
  (match present c.linkUrl with
    | some link => [anchor link [] [img]]
    | none => [img]) ++
  forPresent c.caption fun caption =>
    [classed "p" "nl-caption"
      ("margin: 8px 0 0 0; font-size: 13px; font-style: italic; color: " ++ s.textColor ++ ";")
      [.text caption]]

/-- The content of a button. -/
def buttonBlock (c : Button) (s : Resolved) : List Node :=
  [button s s.align (presentOr "Click Here" c.text) c.url]

/-- The content of a video: its thumbnail, if there is one, and a link. -/
def video (c : Video) (s : Resolved) : List Node :=
  let href := presentOr "#" c.videoUrl
  let title := presentOr "Watch the video" c.title
  (forPresent c.thumbnailUrl fun thumbnail => [anchor href [] [wideImage s thumbnail title]]) ++
  [styled "p" "margin: 8px 0 0 0; font-size: 14px;"
    [textLink s href [.entity "#9654", .text (" " ++ title)]]]

end Bulletin.Fragment
