import TidyTable.Html.Vocabulary

/-!
# Spelling in other vocabularies

Names are read in lower case, but those of `svg` and `mathml` have capitals, and some of their
attributes belong to a vocabulary of their own. A tag is respelled when its element is added.
-/

namespace TidyTable.Html

/-- The names of `svg` elements that have capitals. -/
def svgNames : List String :=
  ["altGlyph", "altGlyphDef", "altGlyphItem", "animateColor", "animateMotion",
    "animateTransform", "clipPath", "feBlend", "feColorMatrix", "feComponentTransfer",
    "feComposite", "feConvolveMatrix", "feDiffuseLighting", "feDisplacementMap",
    "feDistantLight", "feDropShadow", "feFlood", "feFuncA", "feFuncB", "feFuncG", "feFuncR",
    "feGaussianBlur", "feImage", "feMerge", "feMergeNode", "feMorphology", "feOffset",
    "fePointLight", "feSpecularLighting", "feSpotLight", "feTile", "feTurbulence",
    "foreignObject", "glyphRef", "linearGradient", "radialGradient", "textPath"]

/-- The names of attributes of `svg` elements that have capitals. -/
def svgAttributes : List String :=
  ["attributeName", "attributeType", "baseFrequency", "baseProfile", "calcMode", "clipPathUnits",
    "diffuseConstant", "edgeMode", "filterUnits", "glyphRef", "gradientTransform",
    "gradientUnits", "kernelMatrix", "kernelUnitLength", "keyPoints", "keySplines", "keyTimes",
    "lengthAdjust", "limitingConeAngle", "markerHeight", "markerUnits", "markerWidth",
    "maskContentUnits", "maskUnits", "numOctaves", "pathLength", "patternContentUnits",
    "patternTransform", "patternUnits", "pointsAtX", "pointsAtY", "pointsAtZ", "preserveAlpha",
    "preserveAspectRatio", "primitiveUnits", "refX", "refY", "repeatCount", "repeatDur",
    "requiredExtensions", "requiredFeatures", "specularConstant", "specularExponent",
    "spreadMethod", "startOffset", "stdDeviation", "stitchTiles", "surfaceScale",
    "systemLanguage", "tableValues", "targetX", "targetY", "textLength", "viewBox", "viewTarget",
    "xChannelSelector", "yChannelSelector", "zoomAndPan"]

/-- The names of attributes of `mathml` elements that have capitals. -/
def mathmlAttributes : List String := ["definitionURL"]

/-- The attributes that belong to a vocabulary of their own, with their names in it. -/
def foreignAttributes : List (String × String) :=
  [("xlink:actuate", "actuate"), ("xlink:arcrole", "arcrole"), ("xlink:href", "href"),
    ("xlink:role", "role"), ("xlink:show", "show"), ("xlink:title", "title"),
    ("xlink:type", "type"), ("xml:lang", "lang"), ("xml:space", "space"), ("xmlns", "xmlns"),
    ("xmlns:xlink", "xlink")]

/-- The spelling of a name that is one of some names in lower case. -/
def spelled (names : List String) (name : String) : String :=
  (names.find? fun n => String.ofList (lower n.toList) == name).getD name

/-- An attribute as it is spelled on a foreign element. -/
def Attribute.adjusted (names : List String) (a : Attribute) : Attribute :=
  match foreignAttributes.lookup a.name with
  | some name => { a with name, foreign := true }
  | none => { a with name := spelled names a.name }

/-- A tag as it is spelled among foreign elements. -/
def Tag.adjusted (space : Space) (tag : Tag) : Tag :=
  match space with
  | .html => tag
  | .svg =>
    { tag with
      name := spelled svgNames tag.name
      attributes := tag.attributes.map (Attribute.adjusted svgAttributes) }
  | .mathml =>
    { tag with attributes := tag.attributes.map (Attribute.adjusted mathmlAttributes) }

end TidyTable.Html
