import SignalGraph.Decimal.Binary

/-!
The picture of a screen: 64 rows of 64 pixels in single precision, black at first.
-/

namespace SignalGraph

structure Pixel where
  red : Float
  green : Float
  blue : Float

def Pixel.black : Pixel := { red := 0.0, green := 0.0, blue := 0.0 }

/-- A pixel is lit when one of its channels is not zero. -/
def Pixel.isLit (p : Pixel) : Bool := p.red != 0.0 || p.green != 0.0 || p.blue != 0.0

/-- A pixel with its channels rounded to single precision. -/
def Pixel.toSingle (p : Pixel) : Pixel :=
  { red := Decimal.toSingle p.red, green := Decimal.toSingle p.green
    blue := Decimal.toSingle p.blue }

/-- The rows and the columns of a screen. -/
def screenSize : Nat := 64

/-- The pixels of a screen, row after row. -/
structure Screen where
  pixels : Vector Pixel (screenSize * screenSize)

def Screen.blank : Screen := { pixels := Vector.replicate _ .black }

/-- The index of a pixel among all pixels. -/
def pixelIndex (column row : Fin screenSize) : Fin (screenSize * screenSize) :=
  ⟨row.val * screenSize + column.val, by
    have := row.isLt
    have := column.isLt
    simp only [screenSize] at *
    omega⟩

def Screen.get (screen : Screen) (column row : Fin screenSize) : Pixel :=
  screen.pixels.get (pixelIndex column row)

def Screen.set (screen : Screen) (column row : Fin screenSize) (p : Pixel) : Screen :=
  { pixels := screen.pixels.set (pixelIndex column row) p (pixelIndex column row).isLt }

/-- The column or row of a coordinate, if the screen has it. -/
def screenLine? (n : Int) : Option (Fin screenSize) :=
  if h : n.toNat < screenSize then if 0 ≤ n then some ⟨n.toNat, h⟩ else none else none

/-- Draws a pixel; outside the screen nothing happens. -/
def Screen.draw (screen : Screen) (x y : Int) (p : Pixel) : Screen :=
  match screenLine? x, screenLine? y with
  | some column, some row => screen.set column row p.toSingle
  | _, _ => screen

/-- How many pixels are lit. -/
def Screen.litCount (screen : Screen) : Nat := screen.pixels.toList.countP Pixel.isLit

/-- The lit pixels with their columns and rows, row after row. -/
def Screen.lit (screen : Screen) : List (Nat × Nat × Pixel) :=
  screen.pixels.toList.zipIdx.filterMap fun (p, i) =>
    if p.isLit then some (i % screenSize, i / screenSize, p) else none

end SignalGraph
