import Bulletin.Block.Content
import Bulletin.Fragment.Envelope

/-!
# Articles and products

An article at full width, articles side by side, and products for sale.  The cells of a grid share
the width evenly, with a gap between each two.
-/

namespace Bulletin.Fragment

open Html Text

/-- A row with an image across a card. -/
def cardImage (src alt : String) (attrs : List Attr) (css : String) : Node :=
  .void "img" ([⟨"src", src⟩, ⟨"alt", alt⟩] ++ attrs ++ [⟨"style", css⟩])

/-- The content of an article at full width. -/
def featuredArticle (c : FeaturedArticle) (s : Resolved) : List Node :=
  [fullTable "featured-article" []
    ((forPresent c.imageUrl fun image =>
      [row [styled "td" "padding-bottom: 15px;"
        [cardImage image (c.title.getD "") [⟨"width", "560"⟩]
          "display: block; width: 100%; max-width: 560px; height: auto; border: 0;"]]]) ++
    [row [.element "td" []
      ((forPresent c.title fun title =>
        [styled "h2"
          ("margin: 0 0 8px 0; font-size: 22px; line-height: 1.3; color: " ++ s.textColor ++ ";")
          [.text title]]) ++
      [classed "p" "article-meta" "margin: 0 0 10px 0; font-size: 13px; opacity: 0.7;"
        [.element "span" [] [fieldText c.author], .text " ", .entity "bull", .text " ",
          .element "span" [] [fieldText c.date]],
      styled "p" "margin: 0 0 15px 0; font-size: 16px; line-height: 1.6;" [fieldText c.excerpt],
      button s .left (presentOr "Read More" c.ctaText) c.ctaUrl])]])]

/-- One article of a grid. -/
def articleCard (s : Resolved) (a : Article) : Node :=
  fullTable "article-card" []
    ((forPresent a.imageUrl fun image =>
      [row [styled "td" "padding-bottom: 10px;"
        [cardImage image (a.title.getD "") []
          "display: block; width: 100%; height: auto; border: 0;"]]]) ++
    [row [.element "td" []
      ([styled "h3"
        ("margin: 0 0 6px 0; font-size: 17px; line-height: 1.3; color: " ++ s.textColor ++ ";")
        [fieldText a.title]] ++
      (forPresent a.excerpt fun excerpt =>
        [styled "p" "margin: 0 0 8px 0; font-size: 14px; line-height: 1.5;" [.text excerpt]]) ++
      forPresent a.url fun url =>
        [textLink s url [.text (presentOr "Read more" a.linkText)]])]])

/-- The percentage of the width for each of some cells, rounded down. -/
def cellWidth (count : Nat) : Nat := 100 / max count 1

/-- A cell of a grid. -/
def gridCell (cls : String) (percent : Nat) (content : List Node) : Node :=
  .element "td"
    [⟨"class", cls⟩, ⟨"width", ofNat percent ++ "%"⟩, ⟨"valign", "top"⟩,
      ⟨"style", "width: " ++ ofNat percent ++ "%; vertical-align: top;"⟩]
    content

/-- The content of articles side by side. -/
def articleGrid (c : ArticleGrid) (s : Resolved) : List Node :=
  if c.articles.isEmpty then [placeholder "No articles available"]
  else
    let cell (a : Article) : Node :=
      gridCell "article-cell" (cellWidth c.articles.length) [articleCard s a]
    [fullTable "article-grid" [] [row (separated gridSpacer (c.articles.map cell))]]

/-- One product. -/
def productCard (s : Resolved) (p : Product) : Node :=
  fullTable "product-card"
    [⟨"style", "border: 1px solid " ++ s.borderColor ++ "; border-radius: 4px;"⟩]
    ((forPresent p.imageUrl fun image =>
      [row [.element "td" []
        [cardImage image (p.name.getD "") []
          "display: block; width: 100%; height: auto; border: 0;"]]]) ++
    [row [styled "td" "padding: 12px;"
      ([styled "h3" ("margin: 0 0 6px 0; font-size: 16px; color: " ++ s.textColor ++ ";")
        [fieldText p.name]] ++
      (forPresent p.description fun description =>
        [styled "p" "margin: 0 0 8px 0; font-size: 13px; line-height: 1.5;" [.text description]]) ++
      (forPresent p.price fun price =>
        [classed "p" "product-price" "margin: 0 0 10px 0; font-size: 16px; font-weight: bold;"
          ([.text price] ++
          forPresent p.discount fun discount =>
            [.text " ",
              classed "span" "product-discount"
                "font-size: 13px; font-weight: normal; color: #d9534f;" [.text discount]])]) ++
      forPresent p.link fun link => [button s .left "Shop Now" (some link)])]])

/-- How many products are drawn. -/
def maxProducts : Nat := 2

/-- The cells of a product grid: always as many as are drawn at most, the last ones empty. -/
def productCells (s : Resolved) (products : List Product) : List Node :=
  (List.range maxProducts).map fun slot =>
    gridCell "product-cell" 50 (products[slot]?.toList.map (productCard s))

/-- The content of recommended products. -/
def productList (c : ProductList) (s : Resolved) : List Node :=
  sectionTitle s c.title ++
  if c.products.isEmpty then [placeholder "No products available"]
  else [fullTable "product-grid" [] [row (separated gridSpacer (productCells s c.products))]]

end Bulletin.Fragment
