import PointerDesktop.Stack
import PointerDesktop.Theme

/-! # Painting frames

A frame is painted from the back: the screen behind all windows, then each visible window (its
decorations, its content, its copy to the screen), and the cursor on top of everything. -/

namespace PointerDesktop

/-- How a display puts its calls into strokes on a window's surface. -/
structure Display where
  clear : Size → List Stroke
  rect : Rect → Color → List Stroke
  text : String → UInt32 → UInt32 → Color → List Stroke

namespace Display

/-- A solid block for each character that is not a blank, in cells that start at column `x`. -/
def glyphs (y : UInt32) (color : Color) : List Char → (x : UInt32) → List Stroke
  | [], _ => []
  | c :: cs, x =>
    let rest := glyphs y color cs (satAdd x glyphSize)
    if c = ' ' then rest
    else
      .fillRect ⟨satAdd x 1, satAdd y 1, glyphSize - 2, glyphSize - 2⟩ color :: rest

/-- A display without fonts: surfaces are cleared to black and characters are solid blocks. -/
def software : Display where
  clear _ := [.fill .black]
  rect r color := [.fillRect r color]
  text text x y color := glyphs y color text.toList x

/-- A display that writes no text. -/
def textless : Display := { software with text := fun _ _ _ _ => [] }

/-- The strokes that answer a call. -/
def strokes (d : Display) : DisplayCall → List Stroke
  | .clear size => d.clear size
  | .rect r color => d.rect r color
  | .text text x y color => d.text text x y color
  | .clearScreen _ | .present .. | .drawCursor _ | .eraseCursor _ => []

end Display

namespace Window

def titlebarCalls (w : Window) (theme : Theme) (config : Config) (focused : Bool) :
    List DisplayCall :=
  if w.isTitled then
    [.rect ⟨0, 0, w.size.width, min config.titlebarHeight w.size.height⟩
        (theme.titlebarFor focused),
      .text w.title titleInset config.titleBaseline theme.textPrimary]
  else []

def borderCalls (w : Window) (theme : Theme) : List DisplayCall :=
  if w.isBordered then
    let width := w.size.width
    let height := w.size.height
    [.rect ⟨0, 0, width, 1⟩ theme.border,
      .rect ⟨0, satSub height 1, width, 1⟩ theme.border,
      .rect ⟨0, 0, 1, height⟩ theme.border,
      .rect ⟨satSub width 1, 0, 1, height⟩ theme.border]
  else []

/-- The calls that paint everything of a window but its content. -/
def decorationCalls (w : Window) (theme : Theme) (config : Config) (focused : Bool) :
    List DisplayCall :=
  .clear w.surface.size :: .rect (.ofSize w.size) w.background ::
    (w.titlebarCalls theme config focused ++ w.borderCalls theme)

/-- Paints the decorations on the window's surface. -/
def decorate (w : Window) (display : Display) (theme : Theme) (config : Config)
    (focused : Bool) : Traced Window :=
  let calls := w.decorationCalls theme config focused
  { state := { w with surface := w.surface.paint (calls.flatMap display.strokes) }
    effects := calls.map .display }

/-- Paints a window and presents it, if it is visible. -/
def paint (w : Window) (display : Display) (theme : Theme) (config : Config)
    (focused : Bool) : Traced Window :=
  if w.isVisible then
    let decorated := w.decorate display theme config focused
    let drawn := decorated.state.notify .draw
    { state := drawn.state
      effects :=
        decorated.effects ++ drawn.effects ++
          [.display (.present drawn.state.id drawn.state.surface)] }
  else { state := w }

end Window

namespace Stack

/-- Paints one frame with the cursor at `cursor`. -/
def paint (s : Stack) (display : Display) (theme : Theme) (config : Config) (cursor : Point) :
    Traced Stack :=
  let painted := s.windows.map fun w => w.paint display theme config (s.focused = some w.id)
  { state := { s with windows := painted.map (·.state) }
    effects :=
      [.display (.eraseCursor cursor), .display (.clearScreen theme.background)] ++
        painted.flatMap (·.effects) ++ [.display (.drawCursor cursor)] }

end Stack

end PointerDesktop
