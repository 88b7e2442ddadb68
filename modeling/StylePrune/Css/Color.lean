import StylePrune.Css.Calculation

/-!
Colours.

A colour is the colour of the text around it, one of the system's, or red, green, blue and opacity from 0
to 255. It is written in its shortest form: a name, or digits in base sixteen, three or six of them.
-/
namespace StylePrune.Css

open Decimal

/-- A colour. -/
inductive Color where
  | current
  /-- A colour of the system, by its name in lower case. -/
  | system (name : Text)
  | channels (red green blue alpha : Nat)
deriving DecidableEq, Repr

namespace Color

/-- The named colours. -/
def names : List (String × Nat) :=
  [("aliceblue", 0xf0f8ff), ("antiquewhite", 0xfaebd7), ("aqua", 0x00ffff),
   ("aquamarine", 0x7fffd4), ("azure", 0xf0ffff), ("beige", 0xf5f5dc), ("bisque", 0xffe4c4),
   ("black", 0x000000), ("blanchedalmond", 0xffebcd), ("blue", 0x0000ff), ("blueviolet", 0x8a2be2),
   ("brown", 0xa52a2a), ("burlywood", 0xdeb887), ("cadetblue", 0x5f9ea0), ("chartreuse", 0x7fff00),
   ("chocolate", 0xd2691e), ("coral", 0xff7f50), ("cornflowerblue", 0x6495ed),
   ("cornsilk", 0xfff8dc), ("crimson", 0xdc143c), ("cyan", 0x00ffff), ("darkblue", 0x00008b),
   ("darkcyan", 0x008b8b), ("darkgoldenrod", 0xb8860b), ("darkgray", 0xa9a9a9),
   ("darkgreen", 0x006400), ("darkgrey", 0xa9a9a9), ("darkkhaki", 0xbdb76b),
   ("darkmagenta", 0x8b008b), ("darkolivegreen", 0x556b2f), ("darkorange", 0xff8c00),
   ("darkorchid", 0x9932cc), ("darkred", 0x8b0000), ("darksalmon", 0xe9967a),
   ("darkseagreen", 0x8fbc8f), ("darkslateblue", 0x483d8b), ("darkslategray", 0x2f4f4f),
   ("darkslategrey", 0x2f4f4f), ("darkturquoise", 0x00ced1), ("darkviolet", 0x9400d3),
   ("deeppink", 0xff1493), ("deepskyblue", 0x00bfff), ("dimgray", 0x696969), ("dimgrey", 0x696969),
   ("dodgerblue", 0x1e90ff), ("firebrick", 0xb22222), ("floralwhite", 0xfffaf0),
   ("forestgreen", 0x228b22), ("fuchsia", 0xff00ff), ("gainsboro", 0xdcdcdc),
   ("ghostwhite", 0xf8f8ff), ("gold", 0xffd700), ("goldenrod", 0xdaa520), ("gray", 0x808080),
   ("green", 0x008000), ("greenyellow", 0xadff2f), ("grey", 0x808080), ("honeydew", 0xf0fff0),
   ("hotpink", 0xff69b4), ("indianred", 0xcd5c5c), ("indigo", 0x4b0082), ("ivory", 0xfffff0),
   ("khaki", 0xf0e68c), ("lavender", 0xe6e6fa), ("lavenderblush", 0xfff0f5),
   ("lawngreen", 0x7cfc00), ("lemonchiffon", 0xfffacd), ("lightblue", 0xadd8e6),
   ("lightcoral", 0xf08080), ("lightcyan", 0xe0ffff), ("lightgoldenrodyellow", 0xfafad2),
   ("lightgray", 0xd3d3d3), ("lightgreen", 0x90ee90), ("lightgrey", 0xd3d3d3),
   ("lightpink", 0xffb6c1), ("lightsalmon", 0xffa07a), ("lightseagreen", 0x20b2aa),
   ("lightskyblue", 0x87cefa), ("lightslategray", 0x778899), ("lightslategrey", 0x778899),
   ("lightsteelblue", 0xb0c4de), ("lightyellow", 0xffffe0), ("lime", 0x00ff00),
   ("limegreen", 0x32cd32), ("linen", 0xfaf0e6), ("magenta", 0xff00ff), ("maroon", 0x800000),
   ("mediumaquamarine", 0x66cdaa), ("mediumblue", 0x0000cd), ("mediumorchid", 0xba55d3),
   ("mediumpurple", 0x9370db), ("mediumseagreen", 0x3cb371), ("mediumslateblue", 0x7b68ee),
   ("mediumspringgreen", 0x00fa9a), ("mediumturquoise", 0x48d1cc), ("mediumvioletred", 0xc71585),
   ("midnightblue", 0x191970), ("mintcream", 0xf5fffa), ("mistyrose", 0xffe4e1),
   ("moccasin", 0xffe4b5), ("navajowhite", 0xffdead), ("navy", 0x000080), ("oldlace", 0xfdf5e6),
   ("olive", 0x808000), ("olivedrab", 0x6b8e23), ("orange", 0xffa500), ("orangered", 0xff4500),
   ("orchid", 0xda70d6), ("palegoldenrod", 0xeee8aa), ("palegreen", 0x98fb98),
   ("paleturquoise", 0xafeeee), ("palevioletred", 0xdb7093), ("papayawhip", 0xffefd5),
   ("peachpuff", 0xffdab9), ("peru", 0xcd853f), ("pink", 0xffc0cb), ("plum", 0xdda0dd),
   ("powderblue", 0xb0e0e6), ("purple", 0x800080), ("rebeccapurple", 0x663399), ("red", 0xff0000),
   ("rosybrown", 0xbc8f8f), ("royalblue", 0x4169e1), ("saddlebrown", 0x8b4513),
   ("salmon", 0xfa8072), ("sandybrown", 0xf4a460), ("seagreen", 0x2e8b57), ("seashell", 0xfff5ee),
   ("sienna", 0xa0522d), ("silver", 0xc0c0c0), ("skyblue", 0x87ceeb), ("slateblue", 0x6a5acd),
   ("slategray", 0x708090), ("slategrey", 0x708090), ("snow", 0xfffafa), ("springgreen", 0x00ff7f),
   ("steelblue", 0x4682b4), ("tan", 0xd2b48c), ("teal", 0x008080), ("thistle", 0xd8bfd8),
   ("tomato", 0xff6347), ("turquoise", 0x40e0d0), ("violet", 0xee82ee), ("wheat", 0xf5deb3),
   ("white", 0xffffff), ("whitesmoke", 0xf5f5f5), ("yellow", 0xffff00), ("yellowgreen", 0x9acd32)]

/-- Names that are shorter than the digits of their colour. -/
def shortNames : List String :=
  ["navy", "green", "teal", "indigo", "maroon", "purple", "olive", "gray", "sienna", "brown", "silver",
   "peru", "tan", "orchid", "plum", "violet", "khaki", "azure", "wheat", "beige", "salmon", "linen",
   "red", "tomato", "coral", "orange", "pink", "gold", "bisque", "snow", "ivory"]

/-- The names of the system's colours. -/
def systemNames : List String :=
  ["accentcolor", "accentcolortext", "activetext", "buttonborder", "buttonface", "buttontext", "canvas",
   "canvastext", "field", "fieldtext", "graytext", "highlight", "highlighttext", "linktext", "mark",
   "marktext", "selecteditem", "selecteditemtext", "visitedtext", "activeborder", "activecaption",
   "appworkspace", "background", "buttonhighlight", "buttonshadow", "captiontext", "inactiveborder",
   "inactivecaption", "inactivecaptiontext", "infobackground", "infotext", "menu", "menutext",
   "scrollbar", "threeddarkshadow", "threedface", "threedhighlight", "threedlightshadow",
   "threedshadow", "window", "windowframe", "windowtext"]

/-- An opaque colour from its number. -/
def ofHex (n : Nat) : Color := channels (n / 65536 % 256) (n / 256 % 256) (n % 256) 255

/-- The colour of a word. -/
def ofWord? (w : Text) : Option Color :=
  let l := Text.lowerAscii w
  if l = "currentcolor".toList then some current
  else if l = "transparent".toList then some (channels 0 0 0 0)
  else if systemNames.any (·.toList = l) then some (system l)
  else (names.find? fun e => e.1.toList = l).map fun e => ofHex e.2

/-- The colour of three, four, six or eight digits in base sixteen. -/
def ofHash? (digits : Text) : Option Color :=
  match digits.mapM hexValue? with
  | some [r, g, b] => some (channels (r * 17) (g * 17) (b * 17) 255)
  | some [r, g, b, a] => some (channels (r * 17) (g * 17) (b * 17) (a * 17))
  | some [r, s, g, h, b, c] => some (channels (r * 16 + s) (g * 16 + h) (b * 16 + c) 255)
  | some [r, s, g, h, b, c, a, d] =>
    some (channels (r * 16 + s) (g * 16 + h) (b * 16 + c) (a * 16 + d))
  | _ => none

/-- The nearest channel value of a number. -/
def toChannel (r : Rat) : Nat := min 255 (Numeral.round r).toNat

/-- The channel value of a fraction. -/
def ofFraction (r : Rat) : Nat := toChannel (Single.mul r 255)

/-- What stands in the place of a number in a colour. -/
inductive Amount where
  | number (r : Rat)
  | percent (fraction : Rat)
  | missing
deriving DecidableEq

namespace Amount

/-- The word for what is left out. -/
def absent : Reader Amount := do
  Reader.word "none"
  return missing

/-- A number or percentage. Where `lenient` is set, it may be left out. -/
def read (lenient : Bool) : Reader Amount :=
  Reader.orTry (do return number (← Calculation.number)) <|
    Reader.orTry (do return percent (← Calculation.definite .percent).size)
      (if lenient then absent else Reader.fail .invalidValue)

/-- The channel value on a scale to 255. -/
def channel : Amount → Nat
  | number r => toChannel r
  | percent r => ofFraction r
  | missing => 0

/-- The amount as a fraction. -/
def fraction : Amount → Rat
  | number r | percent r => r
  | missing => 0

/-- The amount is of the same form as another one, or left out. -/
def suits : Amount → Amount → Bool
  | number _, number _ | percent _, percent _ | _, missing => true
  | _, _ => false

end Amount

/-- The opacity after a comma or a slash, if there is one. -/
def optionalOpacity (commas : Bool) : Reader Nat := do
  if ← Reader.atEnd then return 255
  if commas then Reader.comma else Reader.delim '/'
  return ofFraction (← Amount.read true).fraction

/-- A comma, where commas are in use. -/
def separator (commas : Bool) : Reader Unit :=
  if commas then Reader.comma else pure ()

/-- Whether commas stand between the channels: a comma stands next, and the first one is not left out. -/
def usesCommas (first : Amount) : Reader Bool := do
  return match (← get).skipSpace.items with
    | c :: _ => c.token = .comma && first != .missing
    | [] => false

/-- The three channels of `rgb()`, and whether commas stand between them. -/
def rgbChannels (lenient : Bool) : Reader ((Nat × Nat × Nat) × Bool) := do
  let r ← Amount.read lenient
  let commas ← usesCommas r
  separator commas
  let g ← Amount.read lenient
  separator commas
  let b ← Amount.read lenient
  if commas && !(r.suits g && r.suits b) then Reader.fail .invalidValue
  return ((r.channel, g.channel, b.channel), commas)

/-- The arguments of `rgb()`. -/
def rgbArguments : Reader Color := do
  let ((r, g, b), commas) ← rgbChannels true
  return channels r g b (← optionalOpacity commas)

/-- An angle in degrees, or a number of degrees. -/
def hue (lenient : Bool) : Reader Amount :=
  let degrees : Reader Amount := do
    match ← Calculation.angle with
    | .angle r u => return .number (Quantity.degrees r u)
    | _ => Reader.fail .invalidValue
  Reader.orTry degrees <|
    Reader.orTry (do return .number (← Calculation.number))
      (if lenient then Amount.absent else Reader.fail .invalidValue)

/-- A percentage from 0 to 1. Where no commas are in use, a number counts hundredths. -/
def portion (lenient commas : Bool) : Reader Rat := do
  let limited (r : Rat) : Rat := if r < 0 then 0 else if 1 < r then 1 else r
  match ← Amount.read lenient with
  | .percent r => return limited r
  | .number r => if commas then Reader.fail .invalidValue else return limited (Single.div r 100)
  | .missing => return 0

/-- The hue in degrees, saturation and lightness of `hsl()`, and whether commas stand between them. -/
def hslParts (lenient : Bool) : Reader ((Rat × Rat × Rat) × Bool) := do
  let h ← hue lenient
  let commas ← usesCommas h
  separator commas
  let s ← portion lenient commas
  separator commas
  let l ← portion lenient commas
  return ((h.fraction, s, l), commas)

/-- A hue as a part of the whole circle. -/
def turnOf (h : Rat) : Rat :=
  let turns : Rat := (Single.div h 360).floor
  Single.div (Single.add h (-(Single.mul 360 turns))) 360

/-- How much of a colour's span one channel has, where `third` runs once to 3 around the circle: it rises
over half of a third, stays for a third and falls again. -/
def ramp (low high third : Rat) : Rat :=
  let t := if third < 0 then Single.add third 3 else third
  let t := if 3 < t then Single.add t (-3) else t
  let span := Single.add high (-low)
  if t * 2 < 1 then Single.add low (Single.mul (Single.mul span t) 2)
  else if t * 2 < 3 then high
  else if t < 2 then Single.add low (Single.mul (Single.mul span (Single.add 2 (-t))) 2)
  else low

/-- Red, green and blue of a hue, saturation and lightness, as fractions. -/
def ofHsl (h s l : Rat) : Rat × Rat × Rat :=
  let high := if l ≤ 1 / 2 then Single.mul l (Single.add s 1)
    else Single.add (Single.add l s) (-(Single.mul l s))
  let low := Single.add (Single.mul l 2) (-high)
  let third := Single.mul (turnOf h) 3
  (ramp low high (Single.add third 1), ramp low high third, ramp low high (Single.add third (-1)))

/-- The arguments of `hsl()`. -/
def hslArguments : Reader Color := do
  let ((h, s, l), commas) ← hslParts true
  let (r, g, b) := ofHsl h s l
  return channels (ofFraction r) (ofFraction g) (ofFraction b) (← optionalOpacity commas)

/-- The arguments of `hwb()`: a hue with shares of white and black. -/
def hwbArguments : Reader Color := do
  let h := (← hue true).fraction
  let white ← portion true false
  let black ← portion true false
  let a ← optionalOpacity false
  if 1 ≤ Single.add white black then
    let gray := ofFraction (Single.div white (Single.add white black))
    return channels gray gray gray a
  else
    let (r, g, b) := ofHsl h 1 (1 / 2)
    let rest := Single.add (Single.add 1 (-white)) (-black)
    let mix (c : Rat) : Nat := ofFraction (Single.add (Single.mul c rest) white)
    return channels (mix r) (mix g) (mix b) a

/-- A colour in one component. -/
def ofComponent? (c : Component) : Option Color :=
  match c with
  | .leaf (.ident w) _ _ => ofWord? w
  | .leaf (.hash h) _ _ | .leaf (.idHash h) _ _ => ofHash? h
  | .block (.function f) _ _ parts finish _ =>
    let arguments? : Option (Reader Color) :=
      let l := Text.lowerAscii f
      if l = "rgb".toList ∨ l = "rgba".toList then some rgbArguments
      else if l = "hsl".toList ∨ l = "hsla".toList then some hslArguments
      else if l = "hwb".toList then some hwbArguments
      else none
    arguments?.bind fun p => (Reader.whole p ⟨parts, finish⟩).toOption
  | _ => none

/-- A colour. -/
def read : Reader Color := do
  let place ← Reader.here
  let c ← Reader.next
  match ofComponent? c with
  | some a => return a
  | none => Reader.failAt (.unexpected c.token) place

/-- Digits in base sixteen, one for each channel where both digits of every channel agree. -/
def hexText (channels : List Nat) : Text :=
  if channels.all fun c => c / 16 = c % 16 then '#' :: channels.map fun c => Text.hexDigit (c % 16)
  else '#' :: channels.flatMap fun c => Text.hexPadded 2 c

/-- The opacity as a number with two places, or three where two do not read back. -/
def opacityNumber (a : Nat) : Rat :=
  let rounded (scale : Rat) : Rat := Single.div (Numeral.round (Single.mul (Single.div a 255) scale)) scale
  if ofFraction (rounded 100) = a then rounded 100 else rounded 1000

/-- The shortest text of a colour. -/
def text (layout : Layout) : Color → Text
  | current => "currentColor".toList
  | system n => n
  | channels r g b a =>
    if a = 255 then
      match names.find? fun e => e.2 = r * 65536 + g * 256 + b && shortNames.contains e.1 with
      | some e => e.1.toList
      | none => hexText [r, g, b]
    else if !layout.supports .hexAlpha then
      if layout.compact ∧ r = 0 ∧ g = 0 ∧ b = 0 ∧ a = 0 then "transparent".toList
      else
        "rgba(".toList ++ Text.join (layout.after ',') [Text.ofNat r, Text.ofNat g, Text.ofNat b,
          Numeral.text (opacityNumber a)] ++ [')']
    else hexText [r, g, b, a]

end Color
end StylePrune.Css
