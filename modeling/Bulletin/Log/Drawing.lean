import Bulletin.Document
import Bulletin.Log.Event

/-!
# What drawing a newsletter tells the log

Every block is told about when it has been drawn.  Before that, a block of an unknown type tells
that it is passed over, and a list of products that it is cut.  The last event counts what was
drawn.

* `Block.drawingEvents` are the events of one block, given its HTML
* `Template.drawingEvents` are the events of a document
-/

namespace Bulletin

/-- What a block tells while it is drawn. -/
def Block.noticeEvents (b : Block) : List LogEvent :=
  match b.content with
  | .unknown tag => [.unknownType b.id tag]
  | .products c =>
    if Fragment.maxProducts < c.products.length then [.productsCut c.products.length] else []
  | _ => []

/-- The events of a block whose HTML this is. -/
def Block.drawingEvents (b : Block) (html : String) : List LogEvent :=
  b.noticeEvents ++ [.blockDrawn b.id b.content.tag html.utf8ByteSize]

/-- The events of blocks that are drawn, with the count at the end. -/
def blocksEvents (bs : List Block) (fragments : List String) : List LogEvent :=
  (List.zipWith Block.drawingEvents bs fragments).flatten ++
    [.newsletterDrawn bs.length (fragments.countP fun html => !html.isEmpty)]

/-- The events of a template's document, which `Template.render` draws. -/
def Template.drawingEvents (t : Template) (o : RenderOptions) (currentYear : Int) : List LogEvent :=
  blocksEvents t.blocks (renderBlocks t.blocks t.theme (o.context currentYear))

end Bulletin
