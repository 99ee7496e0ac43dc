import LabelPress.Catalog.Registry

/-!
# The bundled catalog

The templates that are at hand when no other catalog is named: labels for shipping, warehouses,
retail, assets and quality control.
-/

namespace LabelPress.Catalog

/-- A field of the given kind that may stay blank. -/
def field (kind key label : String) : TemplateField where
  key := .ofString key
  label := .ofString label
  kind := .ofString kind

/-- The same field as one that has to be filled in. -/
def required (field : TemplateField) : TemplateField :=
  { field with required := .bool true }

/-- A title at a position. -/
def title (x y size : Int) (text : String) : LayoutStep where
  kind := .ofString "title"
  x := .int x
  y := .int y
  fontSize := .int size
  text := .ofString text

/-- A text field at a position, behind a lead. -/
def text (key : String) (x y size : Int) (lead : String := "") : LayoutStep where
  kind := .ofString "text"
  field := .ofString key
  x := .int x
  y := .int y
  fontSize := .int size
  lead := .ofString lead

/-- A barcode field at a position, with a value for blank fields. -/
def barcode (key : String) (x y height : Int) (fallback : String) : LayoutStep where
  kind := .ofString "barcode"
  field := .ofString key
  x := .int x
  y := .int y
  height := .int height
  fallback := .ofString fallback

/-- A QR code field at a position. -/
def qrCode (key : String) (x y : Int) : LayoutStep where
  kind := .ofString "qrcode"
  field := .ofString key
  x := .int x
  y := .int y

/-- The same step, left out when its field is blank. -/
def optional (step : LayoutStep) : LayoutStep :=
  { step with optional := .bool true }

/-- The same step with a value for blank fields. -/
def withFallback (fallback : String) (step : LayoutStep) : LayoutStep :=
  { step with fallback := .ofString fallback }

/-- The same step with something behind its value. -/
def withSuffix (suffix : String) (step : LayoutStep) : LayoutStep :=
  { step with suffix := .ofString suffix }

/-- A template of the bundled catalog. -/
def template (name title : String) (fields : List TemplateField) (layout : List LayoutStep) :
    Template :=
  { name := .ofString name, title := .ofString title, fields, layout }

/-- A category of the bundled catalog. -/
def category (name title : String) (templates : List Template) : Category :=
  { name := .ofString name, title := .ofString title, templates }

/-! ## Logistics -/

/-- A label for a parcel. -/
def shipping : Template :=
  template "shipping" "Shipping Label"
    [required (field "text" "recipient" "Recipient"),
      required (field "text" "address" "Address"),
      field "text" "phone" "Phone",
      required (field "barcode" "trackingNumber" "Tracking Number"),
      field "text" "shipDate" "Ship Date"]
    [title 50 50 40 "Shipping Label",
      text "recipient" 50 120 25 "To: ",
      text "address" 50 160 25 "Address: ",
      optional (text "phone" 50 200 25 "Phone: "),
      barcode "trackingNumber" 50 260 100 "1234567890",
      optional (text "shipDate" 50 400 20 "Ship Date: ")]

/-- A label for a place in a warehouse. -/
def warehouse : Template :=
  template "warehouse" "Warehouse Stock"
    [required (field "text" "productName" "Product Name"),
      required (field "text" "sku" "SKU"),
      required (field "barcode" "productCode" "Product Code"),
      field "text" "stockDate" "Stock Date",
      field "text" "quantity" "Quantity"]
    [title 50 50 35 "Warehouse Stock",
      text "productName" 50 120 25 "Product: ",
      text "sku" 50 160 25 "SKU: ",
      barcode "productCode" 50 220 80 "1234567890",
      optional (text "stockDate" 50 340 20 "Stocked: "),
      optional (text "quantity" 50 370 20 "Qty: ")]

/-! ## Retail -/

/-- A label for a product on a shelf. -/
def product : Template :=
  template "product" "Product Label"
    [required (field "text" "productName" "Product Name"),
      required (field "text" "price" "Price"),
      required (field "barcode" "barcode" "Barcode"),
      field "text" "brand" "Brand",
      field "qrcode" "productUrl" "Product Info QR"]
    [withFallback "Product Name" (text "productName" 50 50 30),
      withFallback "0" (text "price" 50 100 35 "₩ "),
      optional (text "brand" 50 150 20),
      barcode "barcode" 50 200 80 "1234567890",
      optional (qrCode "productUrl" 300 200)]

/-- A label for a product on sale. -/
def promotion : Template :=
  template "promotion" "Promotion Label"
    [required (field "text" "discountPrice" "Sale Price"),
      required (field "text" "originalPrice" "Original Price"),
      field "text" "discountRate" "Discount Rate",
      field "text" "promotionPeriod" "Promotion Period"]
    [title 50 50 40 "Special Sale!",
      withFallback "0" (text "discountPrice" 50 120 50 "₩ "),
      optional (text "originalPrice" 50 180 25 "Regular: ₩"),
      withSuffix "% off" (optional (text "discountRate" 200 180 30)),
      optional (text "promotionPeriod" 50 240 20 "Period: ")]

/-! ## Manufacturing -/

/-- A tag for an asset. -/
def asset : Template :=
  template "asset" "Asset Tag"
    [required (field "text" "assetName" "Asset Name"),
      required (field "text" "assetNumber" "Asset Number"),
      required (field "qrcode" "assetCode" "Asset Code"),
      field "text" "department" "Department",
      field "text" "inspectionDate" "Inspection Date"]
    [title 50 50 30 "Asset Tag",
      text "assetName" 50 100 25 "Asset: ",
      text "assetNumber" 50 140 25 "Asset No: ",
      withFallback "ASSET001" (qrCode "assetCode" 50 200),
      optional (text "department" 200 200 20 "Dept: "),
      optional (text "inspectionDate" 200 230 20 "Inspected: ")]

/-- A label for an inspected product. -/
def quality : Template :=
  template "quality" "Quality Control"
    [required (field "text" "productName" "Product Name"),
      required (field "text" "batchNumber" "Batch Number"),
      required (field "text" "inspectionDate" "Inspection Date"),
      field "text" "inspector" "Inspector",
      field "qrcode" "qualityCode" "Quality Certificate"]
    [title 50 50 30 "Quality Control",
      text "productName" 50 100 25 "Product: ",
      text "batchNumber" 50 140 25 "Batch: ",
      text "inspectionDate" 50 180 25 "Inspected: ",
      optional (text "inspector" 50 220 20 "Inspector: "),
      optional (qrCode "qualityCode" 50 280)]

/-- The bundled catalog. -/
def bundled : Registry where
  categories :=
    [category "logistics" "Logistics / Shipping" [shipping, warehouse],
      category "retail" "Retail" [product, promotion],
      category "manufacturing" "Manufacturing" [asset, quality]]

end LabelPress.Catalog
